import Nxpod.Library.Json
import Nxpod.Library.Map

/-!
# Images in a Registry

What the registry facade knows of images, and how it downloads the manifest and the
config of one. A reference resolves to a descriptor, and what has a descriptor can be
fetched from where the reference points to. The descriptor of an image may be that of an
index, and then its first manifest is the image's.

A manifest that was downloaded is placed in a store, under the digest of what was read, and
it is looked for under the digest of the descriptor. So one that was found through an index is
fetched again each time.

What is not part of the program is an `Environment`: the registries and the files, digests,
and how documents are written. It does not change, so that references stay what they are. A
`World` is one in which content is known by its digest, and the layers of an image are there
when its manifest is.

## Main definitions

* `Descriptor`, `Manifest`, `Index`, `Image`: The documents.
* `Environment`, `World`: What the program relies on.
* `downloadManifest`, `downloadConfig`: Downloads.
-/

namespace Nxpod

namespace RegistryFacade

/-- What is fetched. -/
abbrev Bytes := List UInt8

/-- What is known of content before it is fetched. -/
structure Descriptor where
  mediaType : String
  digest : String
  size : Int
  urls : List String
  deriving DecidableEq

/-- The parts of an image. -/
structure Manifest where
  config : Descriptor
  layers : List Descriptor

/-- Several images under one reference. -/
structure Index where
  manifests : List Descriptor

/-- The config of an image. What is never looked at is the `rest`. -/
structure Image where
  diffIDs : List String
  rest : Json

/-- Everything that is not part of the program. -/
structure Environment where
  resolve : String → Option Descriptor
  fetch : String → Descriptor → Option Bytes
  openFile : String → Option Bytes
  digestFromBytes : Bytes → String
  isDigest : String → Bool
  unmarshalIndex : Bytes → Option Index
  unmarshalManifest : Bytes → Option Manifest
  decodeImage : Bytes → Option Image
  marshalImage : Image → Bytes

/-- Content by its digest. -/
abbrev Store := Map String Bytes

/-- The two names for an index. -/
def isImageIndex (mediaType : String) : Bool :=
  mediaType = "application/vnd.docker.distribution.manifest.list.v2+json" ||
    mediaType = "application/vnd.oci.image.index.v1+json"

/-- The two names for a manifest. -/
def isImageManifest (mediaType : String) : Bool :=
  mediaType = "application/vnd.docker.distribution.manifest.v2+json" ||
    mediaType = "application/vnd.oci.image.manifest.v1+json"

/-- The two names for a config. -/
def isImageConfig (mediaType : String) : Bool :=
  mediaType = "application/vnd.docker.container.image.v1+json" ||
    mediaType = "application/vnd.oci.image.config.v1+json"

/-- An index is replaced by its first manifest. -/
def followIndex (env : Environment) (ref : String) (desc : Descriptor) (inpt : Bytes) :
    Option (Descriptor × Bytes) :=
  if isImageIndex desc.mediaType then
    match env.unmarshalIndex inpt with
    | some ⟨md :: _⟩ => (env.fetch ref md).map fun inpt => (md, inpt)
    | _ => none
  else some (desc, inpt)

/-- The manifest, the descriptor it was found with, and what is to be placed in the store. -/
def downloadManifest (env : Environment) (ref : String) (desc : Descriptor)
    (store : Option Store) : Option (Manifest × Descriptor × Option Bytes) :=
  let stored := store.bind (·.lookup desc.digest)
  match stored.or (env.fetch ref desc) with
  | none => none
  | some inpt => match followIndex env ref desc inpt with
    | none => none
    | some (rdesc, inpt) =>
        if isImageManifest rdesc.mediaType then
          (env.unmarshalManifest inpt).map fun res =>
            (res, rdesc, if store.isSome && stored.isNone then some inpt else none)
        else none

/-- A config is only fetched if it says that it is one. -/
def downloadConfig (env : Environment) (ref : String) (desc : Descriptor) : Option Image :=
  if isImageConfig desc.mediaType then (env.fetch ref desc).bind env.decodeImage else none

/-- Images exist as a whole. -/
structure World extends Environment where
  contentAddressed : ∀ ref desc content, fetch ref desc = some content →
    digestFromBytes content = desc.digest
  layersExist : ∀ ref desc manifest rdesc toStore, resolve ref = some desc →
    downloadManifest toEnvironment ref desc none = some (manifest, rdesc, toStore) →
    ∀ l ∈ manifest.layers, (fetch ref l).isSome = true

end RegistryFacade

end Nxpod
