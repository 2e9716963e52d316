import Nxpod.Library.Json

/-!
# The Content Manifest of a Workspace

The content of a workspace with full backup is a manifest, which lists the
layers it is made of in their order. It is kept as a JSON document: in the
storage, and in the state of the workspace.

## Main definitions

* `ContentLayer`, `ContentManifest`: `WorkspaceContentLayer` and
  `WorkspaceContentManifest`.
* `ContentManifest.marshal`, `ContentManifest.unmarshal`: Its document.

## Theorems

* `unmarshal_marshal`: A manifest is read back as it was written.
-/

namespace Nxpod

namespace Content

/-- What a manifest calls itself when it is downloaded. -/
def contentTypeManifest : String :=
  "application/vnd.nxpod.ws.manifest.v1+json"

/-- What a new layer is. -/
def mediaTypeUncompressedLayer : String :=
  "application/vnd.oci.image.layer.v1.tar"

/-- The only type of manifest that is supported. -/
def typeFullWorkspaceContentV1 : String :=
  "application/vnd.nxpod.wsfull.v1"

/-- A layer with its descriptor, which is embedded. -/
structure ContentLayer where
  mediaType : String
  digest : String
  size : Int
  bucket : String
  object : String
  diffID : String
  instanceID : String
  deriving DecidableEq

/-- The layers of a workspace from the first one on. -/
structure ContentManifest where
  type : String
  layers : List ContentLayer
  deriving DecidableEq

namespace ContentLayer

def zero : ContentLayer :=
  ⟨"", "", 0, "", "", "", ""⟩

/-- An empty media type is omitted. -/
def marshal (l : ContentLayer) : Json :=
  .obj ((if l.mediaType = "" then [] else [("mediaType", .str l.mediaType)]) ++
    [("digest", .str l.digest), ("size", .num (.int l.size)), ("bucket", .str l.bucket),
      ("object", .str l.object), ("diffID", .str l.diffID), ("instanceID", .str l.instanceID)])

def member (l : ContentLayer) (name : String) (v : Json) : Option ContentLayer :=
  if name = "mediaType" then (v.readStr l.mediaType).map fun s => { l with mediaType := s }
  else if name = "digest" then (v.readStr l.digest).map fun s => { l with digest := s }
  else if name = "size" then (v.readInt l.size).map fun n => { l with size := n }
  else if name = "bucket" then (v.readStr l.bucket).map fun s => { l with bucket := s }
  else if name = "object" then (v.readStr l.object).map fun s => { l with object := s }
  else if name = "diffID" then (v.readStr l.diffID).map fun s => { l with diffID := s }
  else if name = "instanceID" then (v.readStr l.instanceID).map fun s => { l with instanceID := s }
  else some l

def unmarshal : Json → Option ContentLayer :=
  Json.readObj member zero

theorem unmarshal_marshal (l : ContentLayer) : unmarshal l.marshal = some l := by
  unfold unmarshal marshal
  -- what is read after the media type, which may be missing
  have hrest : Json.readObj member { zero with mediaType := l.mediaType }
      (.obj [("digest", .str l.digest), ("size", .num (.int l.size)), ("bucket", .str l.bucket),
        ("object", .str l.object), ("diffID", .str l.diffID),
        ("instanceID", .str l.instanceID)]) = some l := rfl
  by_cases hmedia : l.mediaType = ""
  · rw [hmedia] at hrest
    rw [if_pos hmedia, List.nil_append]
    exact hrest
  · have hfirst : member zero "mediaType" (.str l.mediaType) =
        some { zero with mediaType := l.mediaType } := rfl
    rw [if_neg hmedia, List.singleton_append, Json.readObj_cons hfirst]
    exact hrest

end ContentLayer

namespace ContentManifest

def zero : ContentManifest :=
  ⟨"", []⟩

def marshal (mf : ContentManifest) : Json :=
  .obj [("type", .str mf.type), ("layers", Json.ofList ContentLayer.marshal mf.layers)]

def member (mf : ContentManifest) (name : String) (v : Json) : Option ContentManifest :=
  if name = "type" then (v.readStr mf.type).map fun s => { mf with type := s }
  else if name = "layers" then
    (v.readList ContentLayer.unmarshal).map fun ls => { mf with layers := ls }
  else some mf

def unmarshal : Json → Option ContentManifest :=
  Json.readObj member zero

theorem unmarshal_marshal (mf : ContentManifest) : unmarshal mf.marshal = some mf := by
  unfold unmarshal marshal
  have htype : member zero "type" (.str mf.type) = some { zero with type := mf.type } := rfl
  have hlayers : member { zero with type := mf.type } "layers"
      (Json.ofList ContentLayer.marshal mf.layers) = some mf := by
    have hread := Json.readList_ofList mf.layers ContentLayer.unmarshal_marshal
    unfold member
    rw [if_neg (by decide), if_pos rfl, hread]
    rfl
  rw [Json.readObj_cons htype, Json.readObj_cons hlayers, Json.readObj_nil]

end ContentManifest

end Content

end Nxpod
