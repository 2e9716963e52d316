import Nxpod.Library.Keyed
import Nxpod.RegistryFacade.Image

/-!
# Layer Sources

Where the registry facade takes the layers from that it adds to an image. A source announces
its layers for an image spec, and serves the blobs that belong to them: layers in files,
layers of another image, layers of an image that depends on the spec, and the layers in the
spec, which are embedded in it or can be had from a URL. A composite announces the layers of
all its sources and asks the first one that has a blob.

The files and the images exist, which the layers carry with them. The images that depend on
the spec are remembered. What is remembered carries with it that it is what would be
downloaded, so that it never matters what is remembered.

Each kind of source looks for a blob in its own way. All of them find the first layer with its
digest in some order, which `view` is. What is found need not be served as it was announced: the
media type of a remote layer is made up when it is served, and there are only two it can be.

## Main definitions

* `AddonLayer`: An OCI descriptor for a layer and its diff ID.
* `RemoteContentLayer`: A layer that is somewhere else.
* `ContentLayer`: A layer in the spec.
* `ImageSpec`: What is asked for beside the name of an image.
* `FilebackedLayer`: A file that has not been changed since its digest was computed.
* `ImagebackedLayer`: A layer that was found in an image, and can be fetched from there.
* `SpecMappedImagedSource`: The layers of images that were downloaded before, the last used ones
  first.
* `LayerSource`, `getLayer`, `hasBlob`, `getBlob`: The sources.
* `Blob`: What is served: a URL to go to, or the bytes.
* `CompositeLayerSource`: A list of sources.
* `Entry`, `view`: Layers with where they come from.
* `forget`: Sources that remember nothing.
* `Operation`: What the sources can be asked.
* `Servable`: Every layer announced can be had as it was announced.
* `Uniform`: When the layers announced for a spec can be had.

## Theorems

* `getDelegate_fst`: What is remembered does not matter.
* `getLayer_fst`, `hasBlob_fst`, `getBlob_fst`: The results by the view of a source.
* `mem_getLayer`: A composite can look for what it announces.
* `forget_getLayer`, `forget_hasBlob`, `forget_getBlob`: Only what is remembered changes.
* `getLayer_forget`: What is announced does not depend on it.
* `servable_iff`: When every layer can be had.
* `zstd_served_as_gzip`: A layer that is served as another kind.
-/

namespace Nxpod

namespace RegistryFacade

open Keyed

/-! ## The sources -/

/-- An OCI descriptor for a layer and its diff ID. -/
structure AddonLayer where
  descriptor : Descriptor
  diffID : String
  deriving DecidableEq

/-- A layer that is somewhere else. -/
structure RemoteContentLayer where
  url : String
  digest : String
  diffId : String
  mediaType : String
  size : Int

/-- A layer in the spec. One of a kind that is not known is an error. -/
inductive ContentLayer
  | direct (content : Bytes)
  | remote (rl : RemoteContentLayer)
  | unknown

/-- What is asked for beside the name of an image. -/
structure ImageSpec where
  baseRef : String
  theiaVersion : String
  contentLayer : List ContentLayer

/-- A file that has not been changed since its digest was computed. -/
structure FilebackedLayer (w : World) where
  layer : AddonLayer
  filename : String
  named : filename ≠ ""
  unchanged : ∃ content, w.openFile filename = some content ∧
    w.digestFromBytes content = layer.descriptor.digest

/-- A layer that was found in an image, and can be fetched from there. -/
structure ImagebackedLayer (w : World) where
  layer : AddonLayer
  fetcher : String
  fetched : (w.fetch fetcher layer.descriptor).isSome = true

/-- A layer as it is. -/
def mediaTypeImageLayer : String :=
  "application/vnd.oci.image.layer.v1.tar"

/-- A layer that is compressed. -/
def mediaTypeImageLayerGzip : String :=
  "application/vnd.oci.image.layer.v1.tar+gzip"

/-- The layers of an image with their diff IDs. There must not be fewer of these. -/
def newStaticSourceFromImage (w : World) (ref : String) : Option (List (ImagebackedLayer w)) :=
  match hresolve : w.resolve ref with
  | none => none
  | some desc => match hmanifest : downloadManifest w.toEnvironment ref desc none with
    | none => none
    | some (manifest, rdesc, toStore) =>
        match downloadConfig w.toEnvironment ref manifest.config with
        | none => none
        | some cfg =>
            if cfg.diffIDs.length < manifest.layers.length then none
            else some (List.zipWith (fun l diffID =>
              { layer := ⟨l.1, diffID⟩
                fetcher := ref
                fetched :=
                  w.layersExist ref desc manifest rdesc toStore hresolve hmanifest l.1 l.2 })
              manifest.layers.attach cfg.diffIDs)

/-- The layers of images that were downloaded before, the last used ones first. -/
structure SpecMappedImagedSource (w : World) where
  refSource : ImageSpec → Option String
  cache : List (String × List (ImagebackedLayer w))
  cached : ∀ entry ∈ cache, newStaticSourceFromImage w entry.1 = some entry.2

variable {w : World}

/-- At most 128 images are remembered. -/
def SpecMappedImagedSource.add (src : SpecMappedImagedSource w)
    (entry : String × List (ImagebackedLayer w))
    (hentry : newStaticSourceFromImage w entry.1 = some entry.2) : SpecMappedImagedSource w where
  refSource := src.refSource
  cache := (entry :: src.cache.filter (·.1 ≠ entry.1)).take 128
  cached e he := by
    rcases List.mem_cons.mp (List.mem_of_mem_take he) with rfl | hold
    · exact hentry
    · exact src.cached e (List.mem_filter.mp hold).1

/-- The delegate, and the source afterwards. -/
def getDelegate (src : SpecMappedImagedSource w) (spec : ImageSpec) :
    Option (List (ImagebackedLayer w)) × SpecMappedImagedSource w :=
  match src.refSource spec with
  | none => (none, src)
  | some ref => match hfind : findKey Prod.fst ref src.cache with
    | some entry => (some entry.2, src.add entry (src.cached entry (mem_of_findKey hfind).1))
    | none => match hnew : newStaticSourceFromImage w ref with
      | none => (none, src)
      | some lsrc => (some lsrc, src.add (ref, lsrc) hnew)

/-- The cache of embedded blobs is left out, since nothing is ever put in it. -/
inductive LayerSource (w : World)
  | file (layers : List (FilebackedLayer w))
  | image (layers : List (ImagebackedLayer w))
  | specMapped (src : SpecMappedImagedSource w)
  | content

/-- What is served: a URL to go to, or the bytes. -/
structure Blob where
  mediaType : String
  url : String
  data : Option Bytes

/-! ### Layers in files -/

/-- What it is asked for by. -/
def FilebackedLayer.digest (l : FilebackedLayer w) : String :=
  l.layer.descriptor.digest

/-- The file is opened each time. -/
def FilebackedLayer.getBlob (l : FilebackedLayer w) : Option Blob :=
  if l.filename = "" then none
  else (w.openFile l.filename).map fun f => ⟨l.layer.descriptor.mediaType, "", some f⟩

/-! ### Layers of images -/

/-- What it is asked for by. -/
def ImagebackedLayer.digest (l : ImagebackedLayer w) : String :=
  l.layer.descriptor.digest

/-- The layer is fetched each time. -/
def ImagebackedLayer.getBlob (l : ImagebackedLayer w) : Option Blob :=
  (w.fetch l.fetcher l.layer.descriptor).map fun rc => ⟨l.layer.descriptor.mediaType, "", some rc⟩

/-- The last layer with the digest is the one that is found. -/
def imageGetBlob (layers : List (ImagebackedLayer w)) (dgst : String) : Option Blob :=
  (findLast ImagebackedLayer.digest dgst layers).bind ImagebackedLayer.getBlob

/-! ### Layers in the spec -/

/-- Content in the spec is announced as it is. -/
def directLayer (w : World) (content : Bytes) : AddonLayer where
  descriptor :=
    { mediaType := mediaTypeImageLayer
      digest := w.digestFromBytes content
      size := content.length
      urls := [] }
  diffID := w.digestFromBytes content

/-- A remote layer is announced as the spec has it. -/
def remoteLayer (rl : RemoteContentLayer) : AddonLayer where
  descriptor :=
    { mediaType := rl.mediaType
      digest := rl.digest
      size := rl.size
      urls := if rl.url ≠ "" then [rl.url] else [] }
  diffID := rl.diffId

/-- All layers of the spec, or none if there is one that is wrong. -/
def contentGetLayer (w : World) (spec : ImageSpec) : Option (List AddonLayer) :=
  spec.contentLayer.mapM fun
    | .direct content => some (directLayer w content)
    | .remote rl =>
        if w.isDigest rl.digest && w.isDigest rl.diffId then some (remoteLayer rl) else none
    | .unknown => none

/-- Whether this is the layer that is asked for. -/
def ContentLayer.hasBlob (w : World) (dgst : String) : ContentLayer → Bool
  | .direct content => w.digestFromBytes content = dgst
  | .remote rl => rl.digest = dgst
  | .unknown => false

/-- The media type depends on whether the layer is compressed. -/
def remoteMediaType (rl : RemoteContentLayer) : String :=
  if rl.diffId = rl.digest || rl.diffId = "" then mediaTypeImageLayer else mediaTypeImageLayerGzip

/-- Content is served, and what is remote is redirected to. -/
def ContentLayer.getBlob : ContentLayer → Option Blob
  | .direct content => some ⟨mediaTypeImageLayer, "", some content⟩
  | .remote rl => some ⟨remoteMediaType rl, rl.url, none⟩
  | .unknown => none

/-! ### All kinds of sources -/

namespace LayerSource

def getLayer (s : LayerSource w) (spec : ImageSpec) : Option (List AddonLayer) × LayerSource w :=
  match s with
  | file layers => (some (layers.map (·.layer)), s)
  | image layers => (some (layers.map (·.layer)), s)
  | specMapped src => match getDelegate src spec with
    | (lsrc, src) => (lsrc.map fun layers => layers.map (·.layer), specMapped src)
  | content => (contentGetLayer w spec, s)

def hasBlob (s : LayerSource w) (spec : ImageSpec) (dgst : String) : Bool × LayerSource w :=
  match s with
  | file layers => (layers.any (·.digest = dgst), s)
  | image layers => (layers.any (·.digest = dgst), s)
  | specMapped src => match getDelegate src spec with
    | (lsrc, src) => (lsrc.any fun layers => layers.any (·.digest = dgst), specMapped src)
  | content => (spec.contentLayer.any (ContentLayer.hasBlob w dgst), s)

def getBlob (s : LayerSource w) (spec : ImageSpec) (dgst : String) :
    Option Blob × LayerSource w :=
  match s with
  | file layers => ((findKey FilebackedLayer.digest dgst layers).bind FilebackedLayer.getBlob, s)
  | image layers => (imageGetBlob layers dgst, s)
  | specMapped src => match getDelegate src spec with
    | (lsrc, src) => (lsrc.bind fun layers => imageGetBlob layers dgst, specMapped src)
  | content =>
      ((spec.contentLayer.find? (ContentLayer.hasBlob w dgst)).bind ContentLayer.getBlob, s)

end LayerSource

/-- Sources in the order in which they are asked. -/
abbrev CompositeLayerSource (w : World) := List (LayerSource w)

namespace CompositeLayerSource

/-- The sources are asked one after the other, until one fails. -/
def getLayer (spec : ImageSpec) : CompositeLayerSource w →
    Option (List AddonLayer) × CompositeLayerSource w
  | [] => (some [], [])
  | s :: cs => match s.getLayer spec with
    | (none, s) => (none, s :: cs)
    | (some ls, s) => match getLayer spec cs with
      | (res, cs) => (res.map (ls ++ ·), s :: cs)

def hasBlob (spec : ImageSpec) (dgst : String) : CompositeLayerSource w →
    Bool × CompositeLayerSource w
  | [] => (false, [])
  | s :: cs => match s.hasBlob spec dgst with
    | (true, s) => (true, s :: cs)
    | (false, s) => match hasBlob spec dgst cs with
      | (found, cs) => (found, s :: cs)

def getBlob (spec : ImageSpec) (dgst : String) : CompositeLayerSource w →
    Option Blob × CompositeLayerSource w
  | [] => (none, [])
  | s :: cs => match s.hasBlob spec dgst with
    | (true, s) => match s.getBlob spec dgst with
      | (blob, s) => (blob, s :: cs)
    | (false, s) => match getBlob spec dgst cs with
      | (blob, cs) => (blob, s :: cs)

end CompositeLayerSource

/-! ## Layers with where they come from -/

/-- A layer that a source has. -/
inductive Entry (w : World)
  | file (l : FilebackedLayer w)
  | image (l : ImagebackedLayer w)
  | direct (content : Bytes)
  | remote (rl : RemoteContentLayer)

namespace Entry

/-- The layer that an entry announces. -/
def layer : Entry w → AddonLayer
  | file l => l.layer
  | image l => l.layer
  | direct content => directLayer w content
  | remote rl => remoteLayer rl

/-- What it is asked for by. -/
def digest (e : Entry w) : String :=
  e.layer.descriptor.digest

/-- What it is announced as. -/
def mediaType (e : Entry w) : String :=
  e.layer.descriptor.mediaType

/-- What is served for it. -/
def blob : Entry w → Option Blob
  | file l => l.getBlob
  | image l => l.getBlob
  | direct content => (ContentLayer.direct content).getBlob
  | remote rl => (ContentLayer.remote rl).getBlob

end Entry

/-- A layer of the spec, if it can be announced. -/
def ContentLayer.entry (w : World) : ContentLayer → Option (Entry w)
  | .direct content => some (.direct content)
  | .remote rl => if w.isDigest rl.digest && w.isDigest rl.diffId then some (.remote rl) else none
  | .unknown => none

namespace LayerSource

/-- The layers of a source in the order in which it looks for a blob. -/
def view (s : LayerSource w) (spec : ImageSpec) : Option (List (Entry w)) :=
  match s with
  | file layers => some (layers.map .file)
  | image layers => some (layers.map .image).reverse
  | specMapped src => ((src.refSource spec).bind (newStaticSourceFromImage w)).map fun layers =>
      (layers.map .image).reverse
  | content => spec.contentLayer.mapM (ContentLayer.entry w)

/-- Images announce their layers in the other order. -/
def announced (s : LayerSource w) (entries : List (Entry w)) : List (Entry w) :=
  match s with
  | image _ | specMapped _ => entries.reverse
  | _ => entries

/-- What is announced is what is looked through, in some order. -/
@[simp]
theorem mem_announced {s : LayerSource w} {entries : List (Entry w)} {e : Entry w} :
    e ∈ s.announced entries ↔ e ∈ entries := by
  cases s <;> simp only [announced, List.mem_reverse]

end LayerSource

/-! ### What is remembered -/

/-- What is remembered does not matter. -/
theorem getDelegate_fst (src : SpecMappedImagedSource w) (spec : ImageSpec) :
    (getDelegate src spec).1 = (src.refSource spec).bind (newStaticSourceFromImage w) := by
  unfold getDelegate
  cases src.refSource spec with
  | none => rfl
  | some ref =>
      simp only [Option.bind_some]
      split
      · next entry hfind =>
          have hkey := (mem_of_findKey hfind).2
          have hcached := src.cached entry (mem_of_findKey hfind).1
          rw [← hcached, hkey]
      · split
        · next hnew => exact hnew.symm
        · next lsrc hnew => exact hnew.symm

/-- Remembering an image does not change which one it is. -/
theorem getDelegate_refSource (src : SpecMappedImagedSource w) (spec : ImageSpec) :
    (getDelegate src spec).2.refSource = src.refSource := by
  unfold getDelegate
  cases src.refSource spec with
  | none => rfl
  | some ref =>
      simp only
      split
      · rfl
      · split
        · rfl
        · rfl

/-! ### Embedded layers -/

/-- A list that was mapped without failing, element by element. -/
theorem forall₂_of_mapM {α β : Type*} {f : α → Option β} :
    ∀ {as : List α} {bs : List β}, as.mapM f = some bs →
      List.Forall₂ (fun a b => f a = some b) as bs
  | [], bs, h => by
      rw [List.mapM_nil, Option.pure_def, Option.some.injEq] at h
      rw [← h]
      exact .nil
  | a :: as, bs, h => by
      rw [List.mapM_cons] at h
      cases ha : f a with
      | none => simp only [ha, Option.bind_eq_bind, Option.bind_none, reduceCtorEq] at h
      | some b =>
          cases has : as.mapM f with
          | none => simp only [ha, has, Option.bind_eq_bind, Option.bind_some, Option.bind_none,
              reduceCtorEq] at h
          | some bs' =>
              simp only [ha, has, Option.bind_eq_bind, Option.bind_some, Option.pure_def,
                Option.some.injEq] at h
              rw [← h]
              exact .cons ha (forall₂_of_mapM has)

theorem mapM_map_option {α β γ : Type*} (f : α → Option β) (g : β → γ) (as : List α) :
    as.mapM (fun a => (f a).map g) = (as.mapM f).map (List.map g) := by
  induction as with
  | nil => rfl
  | cons a as ih =>
      rw [List.mapM_cons, List.mapM_cons, ih]
      cases f a with
      | none => rfl
      | some b => cases as.mapM f <;> rfl

/-- Embedded layers are announced when all of them are well-formed. -/
theorem contentGetLayer_eq (spec : ImageSpec) :
    contentGetLayer w spec =
      (spec.contentLayer.mapM (ContentLayer.entry w)).map (List.map Entry.layer) := by
  rw [← mapM_map_option, contentGetLayer]
  congr 1
  funext l
  cases l with
  | direct content => rfl
  | remote rl =>
      simp only [ContentLayer.entry]
      split <;> rfl
  | unknown => rfl

/-- A well-formed layer in the spec is what its entry is. -/
theorem hasBlob_of_entry {l : ContentLayer} {e : Entry w} (h : l.entry w = some e) (dgst : String) :
    l.hasBlob w dgst = decide (e.digest = dgst) ∧ l.getBlob = e.blob := by
  cases l with
  | direct content =>
      rw [ContentLayer.entry, Option.some.injEq] at h
      rw [← h]
      exact ⟨rfl, rfl⟩
  | remote rl =>
      rw [ContentLayer.entry] at h
      split at h
      · rw [Option.some.injEq] at h
        rw [← h]
        exact ⟨rfl, rfl⟩
      · exact nomatch h
  | unknown => exact nomatch h

theorem content_any {spec : List ContentLayer} {entries : List (Entry w)}
    (h : List.Forall₂ (fun l e => ContentLayer.entry w l = some e) spec entries) (dgst : String) :
    spec.any (ContentLayer.hasBlob w dgst) = entries.any (·.digest = dgst) := by
  induction h with
  | nil => rfl
  | cons hentry _ ih => rw [List.any_cons, List.any_cons, ih, (hasBlob_of_entry hentry dgst).1]

theorem content_find {spec : List ContentLayer} {entries : List (Entry w)}
    (h : List.Forall₂ (fun l e => ContentLayer.entry w l = some e) spec entries) (dgst : String) :
    (spec.find? (ContentLayer.hasBlob w dgst)).bind ContentLayer.getBlob =
      (findKey Entry.digest dgst entries).bind Entry.blob := by
  induction h with
  | nil => rfl
  | @cons l e _ _ hentry _ ih =>
      rcases hasBlob_of_entry hentry dgst with ⟨hhas, hblob⟩
      unfold findKey at ih ⊢
      by_cases hd : e.digest = dgst
      · rw [List.find?_cons_of_pos (by rw [hhas]; exact decide_eq_true hd),
          List.find?_cons_of_pos (by rw [beq_iff_eq]; exact hd), Option.bind_some,
          Option.bind_some, hblob]
      · rw [List.find?_cons_of_neg (by rw [hhas]; exact fun hc => hd (of_decide_eq_true hc)),
          List.find?_cons_of_neg (by rw [beq_iff_eq]; exact hd), ih]

/-! ### Layers of files and images -/

theorem file_find (layers : List (FilebackedLayer w)) (dgst : String) :
    (findKey FilebackedLayer.digest dgst layers).bind FilebackedLayer.getBlob =
      (findKey Entry.digest dgst (layers.map .file)).bind Entry.blob := by
  rw [findKey, findKey, List.find?_map, Option.bind_map]
  rfl

theorem image_find (layers : List (ImagebackedLayer w)) (dgst : String) :
    imageGetBlob layers dgst =
      (findKey Entry.digest dgst (layers.map .image).reverse).bind Entry.blob := by
  rw [imageGetBlob, findLast, findKey, ← List.map_reverse, List.find?_map, Option.bind_map]
  congr 2

theorem image_any (layers : List (ImagebackedLayer w)) (dgst : String) :
    layers.any (·.digest = dgst) = (layers.map Entry.image).reverse.any (·.digest = dgst) := by
  rw [List.any_reverse, List.any_map]
  rfl

/-! ## The results of a source -/

namespace LayerSource

/-- What a source announces. -/
theorem getLayer_fst (s : LayerSource w) (spec : ImageSpec) :
    (s.getLayer spec).1 =
      (s.view spec).map fun entries => (s.announced entries).map Entry.layer := by
  cases s with
  | file layers =>
      simp only [getLayer, view, announced, Option.map_some, List.map_map]
      rfl
  | image layers =>
      simp only [getLayer, view, announced, Option.map_some, List.reverse_reverse, List.map_map]
      rfl
  | specMapped src =>
      simp only [getLayer, view, announced, getDelegate_fst, Option.map_map]
      congr 1
      funext layers
      simp only [Function.comp_apply, List.reverse_reverse, List.map_map]
      rfl
  | content => exact contentGetLayer_eq spec

theorem hasBlob_fst {s : LayerSource w} {spec : ImageSpec} {entries : List (Entry w)}
    (h : s.view spec = some entries) (dgst : String) :
    (s.hasBlob spec dgst).1 = entries.any (·.digest = dgst) := by
  cases s with
  | file layers =>
      rw [view, Option.some.injEq] at h
      rw [← h, List.any_map]
      rfl
  | image layers =>
      rw [view, Option.some.injEq] at h
      rw [← h]
      exact image_any layers dgst
  | specMapped src =>
      rw [view, Option.map_eq_some_iff] at h
      rcases h with ⟨layers, hlayers, hentries⟩
      simp only [hasBlob, getDelegate_fst, hlayers, Option.any_some]
      rw [← hentries]
      exact image_any layers dgst
  | content => exact content_any (forall₂_of_mapM h) dgst

theorem getBlob_fst {s : LayerSource w} {spec : ImageSpec} {entries : List (Entry w)}
    (h : s.view spec = some entries) (dgst : String) :
    (s.getBlob spec dgst).1 = (findKey Entry.digest dgst entries).bind Entry.blob := by
  cases s with
  | file layers =>
      rw [view, Option.some.injEq] at h
      rw [← h]
      exact file_find layers dgst
  | image layers =>
      rw [view, Option.some.injEq] at h
      rw [← h]
      exact image_find layers dgst
  | specMapped src =>
      rw [view, Option.map_eq_some_iff] at h
      rcases h with ⟨layers, hlayers, hentries⟩
      simp only [getBlob, getDelegate_fst, hlayers, Option.bind_some]
      rw [← hentries]
      exact image_find layers dgst
  | content => exact content_find (forall₂_of_mapM h) dgst

/-! ### Forgetting -/

/-- A source that remembers nothing. -/
def forget : LayerSource w → LayerSource w
  | specMapped src => specMapped { refSource := src.refSource, cache := [], cached := nofun }
  | s => s

theorem forget_specMapped {src src' : SpecMappedImagedSource w}
    (h : src'.refSource = src.refSource) : (specMapped src').forget = (specMapped src).forget := by
  simp only [forget, h]

theorem forget_getLayer (s : LayerSource w) (spec : ImageSpec) :
    (s.getLayer spec).2.forget = s.forget := by
  cases s with
  | specMapped src => exact forget_specMapped (getDelegate_refSource src spec)
  | _ => rfl

theorem forget_hasBlob (s : LayerSource w) (spec : ImageSpec) (dgst : String) :
    (s.hasBlob spec dgst).2.forget = s.forget := by
  cases s with
  | specMapped src => exact forget_specMapped (getDelegate_refSource src spec)
  | _ => rfl

theorem forget_getBlob (s : LayerSource w) (spec : ImageSpec) (dgst : String) :
    (s.getBlob spec dgst).2.forget = s.forget := by
  cases s with
  | specMapped src => exact forget_specMapped (getDelegate_refSource src spec)
  | _ => rfl

theorem view_forget (s : LayerSource w) : s.forget.view = s.view := by
  cases s <;> rfl

theorem announced_forget (s : LayerSource w) : s.forget.announced = s.announced := by
  cases s <;> rfl

theorem view_of_forget {s s' : LayerSource w} (h : s'.forget = s.forget) : s'.view = s.view := by
  rw [← view_forget, h, view_forget]

end LayerSource

/-! ## The results of a composite -/

namespace CompositeLayerSource

/-- The layers of all sources in the order in which they are looked for. -/
def view (spec : ImageSpec) : CompositeLayerSource w → Option (List (Entry w))
  | [] => some []
  | s :: cs => (s.view spec).bind fun entries => (view spec cs).map (entries ++ ·)

theorem view_cons {s : LayerSource w} {cs : CompositeLayerSource w} {spec : ImageSpec}
    {entries : List (Entry w)} (h : view spec (s :: cs) = some entries) :
    ∃ es₁ es₂, s.view spec = some es₁ ∧ view spec cs = some es₂ ∧ entries = es₁ ++ es₂ := by
  rw [view, Option.bind_eq_some_iff] at h
  rcases h with ⟨es₁, hs, hcs⟩
  rw [Option.map_eq_some_iff] at hcs
  rcases hcs with ⟨es₂, hes₂, happ⟩
  exact ⟨es₁, es₂, hs, hes₂, happ.symm⟩

/-- A composite that announces its layers can look for them. -/
theorem mem_getLayer {cs : CompositeLayerSource w} {spec : ImageSpec} :
    ∀ {layers : List AddonLayer}, (getLayer spec cs).1 = some layers →
      ∃ entries, view spec cs = some entries ∧ ∀ l, l ∈ layers ↔ ∃ e ∈ entries, e.layer = l := by
  induction cs with
  | nil =>
      intro layers h
      rw [getLayer, Option.some.injEq] at h
      refine ⟨[], rfl, fun l => ?_⟩
      simp only [← h, List.not_mem_nil, false_and, exists_false]
  | cons s cs ih =>
      intro layers h
      rw [getLayer] at h
      have hfst := s.getLayer_fst spec
      rcases hget : s.getLayer spec with ⟨ls, s'⟩
      rw [hget] at h hfst
      cases ls with
      | none => exact nomatch h
      | some ls =>
          simp only at h hfst
          rw [Option.map_eq_some_iff] at h
          rcases h with ⟨ls₂, hls₂, happ⟩
          rcases ih hls₂ with ⟨es₂, hes₂, hmem₂⟩
          rcases Option.map_eq_some_iff.mp hfst.symm with ⟨es₁, hes₁, hls⟩
          refine ⟨es₁ ++ es₂, ?_, fun l => ?_⟩
          · rw [view, hes₁, Option.bind_some, hes₂, Option.map_some]
          · have hmem₁ : l ∈ ls ↔ ∃ e ∈ es₁, e.layer = l := by
              simp only [← hls, List.mem_map, LayerSource.mem_announced]
            rw [← happ, List.mem_append, hmem₁, hmem₂]
            simp only [List.mem_append, or_and_right, exists_or]

/-- A composite announces its layers when it can look for them. -/
theorem getLayer_isSome {cs : CompositeLayerSource w} {spec : ImageSpec} :
    ∀ {entries : List (Entry w)}, view spec cs = some entries →
      ∃ layers, (getLayer spec cs).1 = some layers := by
  induction cs with
  | nil =>
      intro entries _
      exact ⟨[], rfl⟩
  | cons s cs ih =>
      intro entries h
      rcases view_cons h with ⟨es₁, es₂, hs, hcs, _⟩
      rcases ih hcs with ⟨ls₂, hls₂⟩
      have hfst := s.getLayer_fst spec
      rw [hs, Option.map_some] at hfst
      rw [getLayer]
      rcases hget : s.getLayer spec with ⟨ls, s'⟩
      rw [hget] at hfst
      simp only at hfst
      simp only [hfst, hls₂]
      exact ⟨_, rfl⟩

/-- The first source that has a blob has the first layer with its digest. -/
theorem hasBlob_fst {cs : CompositeLayerSource w} {spec : ImageSpec} (dgst : String) :
    ∀ {entries : List (Entry w)}, view spec cs = some entries →
      (hasBlob spec dgst cs).1 = entries.any (·.digest = dgst) := by
  induction cs with
  | nil =>
      intro entries h
      rw [view, Option.some.injEq] at h
      rw [← h]
      rfl
  | cons s cs ih =>
      intro entries h
      rcases view_cons h with ⟨es₁, es₂, hs, hcs, happ⟩
      have hfst := LayerSource.hasBlob_fst hs dgst
      rw [hasBlob, happ, List.any_append, ← ih hcs, ← hfst]
      rcases s.hasBlob spec dgst with ⟨found, s'⟩
      cases found <;> rfl

theorem getBlob_fst {cs : CompositeLayerSource w} {spec : ImageSpec} (dgst : String) :
    ∀ {entries : List (Entry w)}, view spec cs = some entries →
      (getBlob spec dgst cs).1 = (findKey Entry.digest dgst entries).bind Entry.blob := by
  induction cs with
  | nil =>
      intro entries h
      rw [view, Option.some.injEq] at h
      rw [← h]
      rfl
  | cons s cs ih =>
      intro entries h
      rcases view_cons h with ⟨es₁, es₂, hs, hcs, happ⟩
      have hfst := LayerSource.hasBlob_fst hs dgst
      have hview := LayerSource.view_of_forget (s.forget_hasBlob spec dgst)
      rw [getBlob, happ, findKey, List.find?_append]
      rcases hhas : s.hasBlob spec dgst with ⟨found, s'⟩
      rw [hhas] at hfst hview
      cases found with
      | true =>
          -- the source that has the blob is asked for it after it was asked whether it has it
          have hblob := LayerSource.getBlob_fst ((congrFun hview spec).trans hs) dgst
          rcases hfind : findKey Entry.digest dgst es₁ with _ | e
          · rcases List.any_eq_true.mp hfst.symm with ⟨e, he, hd⟩
            exact absurd (List.mem_map.mpr ⟨e, he, of_decide_eq_true hd⟩)
              (findKey_eq_none_iff.mp hfind)
          · rw [hfind] at hblob
            rw [findKey] at hfind
            rw [hfind, Option.some_or]
            exact hblob
      | false =>
          have hfind : es₁.find? (fun e => e.digest == dgst) = none := by
            rw [List.find?_eq_none]
            intro e he hd
            rw [eq_comm, List.any_eq_false] at hfst
            exact hfst e he (by simpa only [beq_iff_eq, decide_eq_true_eq] using hd)
          rw [hfind, Option.none_or]
          exact ih hcs

/-! ### Forgetting -/

def forget (cs : CompositeLayerSource w) : CompositeLayerSource w :=
  cs.map LayerSource.forget

theorem forget_cons {s s' : LayerSource w} {cs cs' : CompositeLayerSource w}
    (hs : s'.forget = s.forget) (hcs : forget cs' = forget cs) :
    forget (s' :: cs') = forget (s :: cs) := by
  rw [forget, forget, List.map_cons, List.map_cons, hs]
  exact congrArg _ hcs

theorem forget_getLayer (cs : CompositeLayerSource w) (spec : ImageSpec) :
    forget (getLayer spec cs).2 = forget cs := by
  induction cs with
  | nil => rfl
  | cons s cs ih =>
      have hs := s.forget_getLayer spec
      rw [getLayer]
      rcases hget : s.getLayer spec with ⟨ls, s'⟩
      rw [hget] at hs
      cases ls with
      | none => exact forget_cons hs rfl
      | some ls => exact forget_cons hs ih

theorem forget_hasBlob (cs : CompositeLayerSource w) (spec : ImageSpec) (dgst : String) :
    forget (hasBlob spec dgst cs).2 = forget cs := by
  induction cs with
  | nil => rfl
  | cons s cs ih =>
      have hs := s.forget_hasBlob spec dgst
      rw [hasBlob]
      rcases hhas : s.hasBlob spec dgst with ⟨found, s'⟩
      rw [hhas] at hs
      cases found with
      | true => exact forget_cons hs rfl
      | false => exact forget_cons hs ih

theorem forget_getBlob (cs : CompositeLayerSource w) (spec : ImageSpec) (dgst : String) :
    forget (getBlob spec dgst cs).2 = forget cs := by
  induction cs with
  | nil => rfl
  | cons s cs ih =>
      have hs := s.forget_hasBlob spec dgst
      rw [getBlob]
      rcases hhas : s.hasBlob spec dgst with ⟨found, s'⟩
      rw [hhas] at hs
      cases found with
      | true => exact forget_cons ((s'.forget_getBlob spec dgst).trans hs) rfl
      | false => exact forget_cons hs ih

theorem view_forget (cs : CompositeLayerSource w) (spec : ImageSpec) :
    view spec (forget cs) = view spec cs := by
  induction cs with
  | nil => rfl
  | cons s cs ih =>
      rw [forget, List.map_cons, view, view, s.view_forget]
      exact congrArg _ (funext fun _ => congrArg _ ih)

/-- What is announced does not depend on what is remembered. -/
theorem getLayer_forget (cs : CompositeLayerSource w) (spec : ImageSpec) :
    (getLayer spec (forget cs)).1 = (getLayer spec cs).1 := by
  induction cs with
  | nil => rfl
  | cons s cs ih =>
      have hfst : (s.forget.getLayer spec).1 = (s.getLayer spec).1 := by
        rw [s.getLayer_fst, s.forget.getLayer_fst, s.view_forget, s.announced_forget]
      rw [forget, List.map_cons, getLayer, getLayer]
      rcases hget : s.getLayer spec with ⟨ls, s'⟩
      rcases hget' : s.forget.getLayer spec with ⟨ls', s''⟩
      rw [hget, hget'] at hfst
      rw [show ls' = ls from hfst]
      cases ls with
      | none => rfl
      | some ls => exact congrArg (Option.map (ls ++ ·)) ih

end CompositeLayerSource

/-! ## Serving -/

/-- What the sources can be asked. -/
inductive Operation
  | getLayer (spec : ImageSpec)
  | hasBlob (spec : ImageSpec) (dgst : String)
  | getBlob (spec : ImageSpec) (dgst : String)

namespace CompositeLayerSource

/-- What a request does to the sources. -/
def perform (cs : CompositeLayerSource w) : Operation → CompositeLayerSource w
  | .getLayer spec => (cs.getLayer spec).2
  | .hasBlob spec dgst => (cs.hasBlob spec dgst).2
  | .getBlob spec dgst => (cs.getBlob spec dgst).2

/-- Whatever was asked before, the sources are the same but for what they remember. -/
theorem forget_foldl_perform (ops : List Operation) (cs : CompositeLayerSource w) :
    (ops.foldl perform cs).forget = cs.forget := by
  induction ops generalizing cs with
  | nil => rfl
  | cons op ops ih =>
      rw [List.foldl_cons, ih]
      cases op with
      | getLayer spec => exact forget_getLayer cs spec
      | hasBlob spec dgst => exact forget_hasBlob cs spec dgst
      | getBlob spec dgst => exact forget_getBlob cs spec dgst

end CompositeLayerSource

/-- The content is embedded in the spec. -/
def Embedded (w : World) (spec : ImageSpec) (dgst : String) : Prop :=
  ∃ content, .direct content ∈ spec.contentLayer ∧ w.digestFromBytes content = dgst

/-- A layer can be had as it was announced. -/
def Serves (cs : CompositeLayerSource w) (spec : ImageSpec) (l : AddonLayer) : Prop :=
  (cs.hasBlob spec l.descriptor.digest).1 = true ∧
    ∃ blob, (cs.getBlob spec l.descriptor.digest).1 = some blob ∧
      blob.mediaType = l.descriptor.mediaType ∧
      (Embedded w spec l.descriptor.digest →
        ∃ data, blob.data = some data ∧ w.digestFromBytes data = l.descriptor.digest)

/-- Every layer that is announced can be had from then on. -/
def Servable (cs : CompositeLayerSource w) (spec : ImageSpec) : Prop :=
  ∀ layers, (cs.getLayer spec).1 = some layers → ∀ l ∈ layers,
    ∀ ops : List Operation,
      Serves (ops.foldl CompositeLayerSource.perform (cs.getLayer spec).2) spec l

/-- The layer that is found for a digest. -/
def serving (cs : CompositeLayerSource w) (spec : ImageSpec) (dgst : String) : Option (Entry w) :=
  (cs.view spec).bind (findKey Entry.digest dgst)

/-- Layers with the same digest have the same media type. A remote layer that is found for its
digest has the media type that goes with its diff ID, and its content is not embedded as well. -/
structure Uniform (cs : CompositeLayerSource w) (spec : ImageSpec) : Prop where
  mediaTypes : ∀ entries, cs.view spec = some entries → ∀ e₁ ∈ entries, ∀ e₂ ∈ entries,
    e₁.digest = e₂.digest → e₁.mediaType = e₂.mediaType
  remote : ∀ rl, serving cs spec rl.digest = some (.remote rl) →
    rl.mediaType = remoteMediaType rl ∧ ¬ Embedded w spec rl.digest

/-! ### What an entry is served as -/

/-- Anything but a remote layer is served as it is announced, and by its content. -/
theorem blob_of_local {e : Entry w} (h : ∀ rl, e ≠ .remote rl) :
    ∃ blob data, e.blob = some blob ∧ blob.mediaType = e.mediaType ∧
      blob.data = some data ∧ w.digestFromBytes data = e.digest := by
  cases e with
  | file l =>
      rcases l.unchanged with ⟨content, hopen, hdigest⟩
      refine ⟨⟨l.layer.descriptor.mediaType, "", some content⟩, content, ?_, rfl, rfl, hdigest⟩
      rw [Entry.blob, FilebackedLayer.getBlob, if_neg l.named, hopen, Option.map_some]
  | image l =>
      rcases Option.isSome_iff_exists.mp l.fetched with ⟨rc, hrc⟩
      refine ⟨⟨l.layer.descriptor.mediaType, "", some rc⟩, rc, ?_, rfl, rfl,
        w.contentAddressed _ _ _ hrc⟩
      rw [Entry.blob, ImagebackedLayer.getBlob, hrc, Option.map_some]
  | direct content => exact ⟨_, content, rfl, rfl, rfl, rfl⟩
  | remote rl => exact absurd rfl (h rl)

theorem view_after {cs : CompositeLayerSource w} {spec : ImageSpec} {entries : List (Entry w)}
    (hview : cs.view spec = some entries) (ops : List Operation) :
    CompositeLayerSource.view spec (ops.foldl CompositeLayerSource.perform (cs.getLayer spec).2) =
      some entries := by
  rw [← CompositeLayerSource.view_forget, CompositeLayerSource.forget_foldl_perform,
    CompositeLayerSource.forget_getLayer, CompositeLayerSource.view_forget, hview]

/-- The layer that is found for the digest of `e` is served as `e` was announced. -/
def Covers (entries : List (Entry w)) (spec : ImageSpec) (e e' : Entry w) : Prop :=
  findKey Entry.digest e.digest entries = some e' ∧
    ∃ blob, e'.blob = some blob ∧ blob.mediaType = e.mediaType ∧
      (Embedded w spec e.digest →
        ∃ data, blob.data = some data ∧ w.digestFromBytes data = e.digest)

/-- Whether a layer can be had depends on the layer that is found for its digest. -/
theorem serves_iff {cs : CompositeLayerSource w} {spec : ImageSpec} {entries : List (Entry w)}
    (hview : cs.view spec = some entries) {e : Entry w} (he : e ∈ entries) :
    Serves cs spec e.layer ↔ ∃ e', Covers entries spec e e' := by
  have hfound : (cs.hasBlob spec e.digest).1 = true := by
    rw [CompositeLayerSource.hasBlob_fst e.digest hview, List.any_eq_true]
    exact ⟨e, he, decide_eq_true rfl⟩
  have hgot := CompositeLayerSource.getBlob_fst e.digest hview
  constructor
  · intro ⟨_, blob, hblob, hrest⟩
    rw [show e.layer.descriptor.digest = e.digest from rfl, hgot,
      Option.bind_eq_some_iff] at hblob
    rcases hblob with ⟨e', hfind, hblob⟩
    exact ⟨e', hfind, blob, hblob, hrest⟩
  · intro ⟨e', hfind, blob, hblob, hrest⟩
    refine ⟨hfound, blob, ?_, hrest⟩
    rw [show e.layer.descriptor.digest = e.digest from rfl, hgot, hfind, Option.bind_some, hblob]

/-- Some layer is found for the digest of every layer. -/
theorem exists_findKey {entries : List (Entry w)} {e : Entry w} (he : e ∈ entries) :
    ∃ e' ∈ entries, findKey Entry.digest e.digest entries = some e' ∧ e'.digest = e.digest := by
  cases hfind : findKey Entry.digest e.digest entries with
  | none => exact absurd (List.mem_map_of_mem he) (findKey_eq_none_iff.mp hfind)
  | some e' => exact ⟨e', (mem_of_findKey hfind).1, rfl, (mem_of_findKey hfind).2⟩

/-- Every layer can be had right after it was announced. -/
theorem covers_of_servable {cs : CompositeLayerSource w} {spec : ImageSpec}
    (h : Servable cs spec) {entries : List (Entry w)} (hview : cs.view spec = some entries)
    {e : Entry w} (he : e ∈ entries) : ∃ e', Covers entries spec e e' := by
  rcases CompositeLayerSource.getLayer_isSome hview with ⟨layers, hlayers⟩
  rcases CompositeLayerSource.mem_getLayer hlayers with ⟨entries', hview', hmem⟩
  have hsame : entries' = entries := Option.some.inj (hview'.symm.trans hview)
  have hl : e.layer ∈ layers := (hmem _).mpr ⟨e, hsame ▸ he, rfl⟩
  exact (serves_iff (view_after hview []) he).mp (h layers hlayers e.layer hl [])

/-- What is served is served as it was announced, so it has to be so for all that share a
    digest. -/
theorem uniform_of_servable {cs : CompositeLayerSource w} {spec : ImageSpec}
    (h : Servable cs spec) : Uniform cs spec := by
  constructor
  · intro entries hview e₁ h₁ e₂ h₂ hd
    -- one blob is served for both
    rcases covers_of_servable h hview h₁ with ⟨e, hfind₁, blob₁, hblob₁, hmt₁, _⟩
    rcases covers_of_servable h hview h₂ with ⟨e', hfind₂, blob₂, hblob₂, hmt₂, _⟩
    rw [← hd, hfind₁, Option.some.injEq] at hfind₂
    rw [← hfind₂, hblob₁, Option.some.injEq] at hblob₂
    rw [← hmt₁, ← hmt₂, hblob₂]
  · intro rl hserving
    rw [serving, Option.bind_eq_some_iff] at hserving
    rcases hserving with ⟨entries, hview, hfind⟩
    have hrl := (mem_of_findKey hfind).1
    rcases covers_of_servable h hview hrl with ⟨e, hfind', blob, hblob, hmt, hdata⟩
    have hsame : e = .remote rl := Option.some.inj (hfind'.symm.trans hfind)
    rw [hsame] at hblob
    have hblob' : blob = ⟨remoteMediaType rl, rl.url, none⟩ := (Option.some.inj hblob).symm
    rw [hblob'] at hmt hdata
    refine ⟨hmt.symm, fun hembedded => ?_⟩
    rcases hdata hembedded with ⟨data, hnone, _⟩
    exact nomatch hnone

theorem covers_of_uniform {cs : CompositeLayerSource w} {spec : ImageSpec}
    (h : Uniform cs spec) {entries : List (Entry w)} (hview : cs.view spec = some entries)
    {e : Entry w} (he : e ∈ entries) : ∃ e', Covers entries spec e e' := by
  rcases exists_findKey he with ⟨e', he', hfind, hd⟩
  have hmt := h.mediaTypes entries hview e' he' e he hd
  by_cases hremote : ∃ rl, e' = .remote rl
  · rcases hremote with ⟨rl, hrl⟩
    have hdigest : rl.digest = e.digest := by rw [← hd, hrl]; rfl
    have hserving : serving cs spec rl.digest = some (.remote rl) := by
      rw [serving, hview, Option.bind_some, hdigest, hfind, hrl]
    rcases h.remote rl hserving with ⟨htype, hembedded⟩
    refine ⟨e', hfind, ⟨remoteMediaType rl, rl.url, none⟩, by rw [hrl]; rfl, ?_, fun hc => ?_⟩
    · rw [← hmt, hrl]
      exact htype.symm
    · exact absurd (hdigest ▸ hc) hembedded
  · rcases blob_of_local (fun rl hc => hremote ⟨rl, hc⟩) with ⟨blob, data, hblob, htype, hdata, hb⟩
    exact ⟨e', hfind, blob, hblob, htype.trans hmt, fun _ => ⟨data, hdata, hb.trans hd⟩⟩

/-- When every layer can be had, which is when the media types are those that the facade makes
    up again from what it knows at the request. A manifest announces the layers of all sources,
    and containerd comes for each of them later by its digest alone, so what is announced and
    what is served are put together at different times and in different places. -/
theorem servable_iff (cs : CompositeLayerSource w) (spec : ImageSpec) :
    Servable cs spec ↔ Uniform cs spec := by
  constructor
  · exact uniform_of_servable
  · intro h layers hlayers l hl ops
    rcases CompositeLayerSource.mem_getLayer hlayers with ⟨entries, hview, hmem⟩
    rcases (hmem l).mp hl with ⟨e, he, hel⟩
    rw [← hel, serves_iff (view_after hview ops) he]
    exact covers_of_uniform h hview he

/-! ### A layer that is served as another kind -/

/-- A world without images and files. -/
def emptyWorld : World where
  resolve _ := none
  fetch _ _ := none
  openFile _ := none
  digestFromBytes content := String.ofList (content.map Char.ofUInt8)
  isDigest dgst := dgst ≠ ""
  unmarshalIndex _ := none
  unmarshalManifest _ := none
  decodeImage _ := none
  marshalImage _ := []
  contentAddressed := nofun
  layersExist := nofun

/-- A compressed layer that is not compressed with gzip. -/
def zstdLayer : RemoteContentLayer where
  url := "https://blobs.example.com/layer"
  digest := "sha256:a"
  diffId := "sha256:b"
  mediaType := "application/vnd.oci.image.layer.v1.tar+zstd"
  size := 512

/-- A spec with a layer of the third kind. -/
def zstdSpec : ImageSpec :=
  ⟨"alpine", "", [.remote zstdLayer]⟩

/-- The layer is announced with its media type and served with that of gzip. -/
theorem zstd_served_as_gzip :
    (CompositeLayerSource.getLayer zstdSpec [(.content : LayerSource emptyWorld)]).1 =
        some [remoteLayer zstdLayer] ∧
      ((CompositeLayerSource.getBlob zstdSpec "sha256:a"
        [(.content : LayerSource emptyWorld)]).1.map Blob.mediaType) =
          some mediaTypeImageLayerGzip ∧
      ¬ Servable [(.content : LayerSource emptyWorld)] zstdSpec := by
  have hgot : (CompositeLayerSource.getBlob zstdSpec "sha256:a"
      [(.content : LayerSource emptyWorld)]).1 =
        some ⟨mediaTypeImageLayerGzip, zstdLayer.url, none⟩ := rfl
  refine ⟨by rfl, by rw [hgot]; rfl, fun h => ?_⟩
  rcases h [remoteLayer zstdLayer] rfl (remoteLayer zstdLayer) (List.mem_singleton_self _) []
    with ⟨_, blob, hblob, hmt, _⟩
  have hsame : blob = ⟨mediaTypeImageLayerGzip, zstdLayer.url, none⟩ :=
    Option.some.inj (hblob.symm.trans hgot)
  rw [hsame] at hmt
  exact absurd hmt (by decide)

end RegistryFacade

end Nxpod
