import Nxpod.RegistryFacade.LayerSource

/-!
# Manifests and Configs

The manifest of an image with the layers that are added to it, and its config. The config is
made twice. When the manifest is served the config is made to know its digest and size, which
the manifest announces, and when the config is asked for it is made again, possibly by another
replica of the registry facade.

What a replica has seen before makes no difference. The store of a replica has content under
its digest, so that a manifest from the store is the one that would be downloaded, unless two
documents have the same digest. These are the documents that the requests have brought up: what
was fetched for the images of their specs, and the configs that were made for them. The sources
of the layers remember nothing but what they would download again.

## Main definitions

* `Replica`: The store and the sources of the layers.
* `Writes`: Which writes to the store do not fail.
* `Response`: What is served.
* `getManifest`, `getConfig`, `getBlob`: What a replica serves.
* `BlobSource`: Where blobs are looked for.
* `Request`, `Replica.after`: Everything that happens to a replica.
* `Occurs`: The documents that a request can bring up.
* `CollisionFree`: Different ones have different digests.
* `Sound`: The invariant of a replica.
* `Modified`: What is added to an image for a spec.

## Theorems

* `downloadManifest_fst`: The store makes no difference.
* `sound_after`: What a replica has seen makes no difference.
* `getBlob_config_fst`: A replica that is asked for an announced config serves it.
* `config_agrees`: The config that is made again is the one that was announced.
-/

namespace Nxpod

namespace RegistryFacade

open Keyed

/-- One of the processes that serve images, with a store of its own. -/
structure Replica (w : World) where
  store : Store
  sources : CompositeLayerSource w

variable {w : World}

/-! ## Serving manifests -/

/-- Whether a manifest is accepted. -/
def acceptsManifest (accepted : List String) : Bool :=
  accepted.any fun mediaType =>
    mediaType = "application/vnd.oci.image.manifest.v1+json" || mediaType = "*"

/-- The layers that are added to an image, which are added to its config as well. -/
def configModifier (src : CompositeLayerSource w) (spec : ImageSpec) (cfg : Image) :
    Option (Image × List Descriptor) × CompositeLayerSource w :=
  match src.getLayer spec with
  | (none, src) => (none, src)
  | (some addons, src) =>
      (some ({ cfg with diffIDs := cfg.diffIDs ++ addons.map (·.diffID) },
        addons.map (·.descriptor)), src)

/-- Which writes to the store do not fail. -/
structure Writes where
  manifest : Bool
  config : Bool

/-- What is served. Nothing is written when the manifest is of no known kind. -/
structure Response where
  mediaType : String
  manifest : Option Manifest

namespace Replica

/-- A content is placed in the store under its digest. -/
def place (r : Replica w) (written : Bool) (content : Bytes) : Replica w :=
  if written then { r with store := r.store.insert (w.digestFromBytes content) content } else r

def downloadManifest (r : Replica w) (ref : String) (written : Bool) :
    Option (Manifest × Descriptor) × Replica w :=
  match w.resolve ref with
  | none => (none, r)
  | some desc =>
      match RegistryFacade.downloadManifest w.toEnvironment ref desc (some r.store) with
      | none => (none, r)
      | some (manifest, rdesc, none) => (some (manifest, rdesc), r)
      | some (manifest, rdesc, some inpt) => (some (manifest, rdesc), r.place written inpt)

/-- The manifest with the layers that are added, and with the config that was made for it. -/
def announced (w : World) (manifest : Manifest) (addonLayer : List Descriptor) (cfg : Image) :
    Manifest where
  config :=
    { manifest.config with
      digest := w.digestFromBytes (w.marshalImage cfg)
      size := (w.marshalImage cfg).length
      urls := [] }
  layers := manifest.layers ++ addonLayer

/-- The manifest is fetched to see that it is there, downloaded, changed, and written to the
    store as it was and as it is. -/
def getManifest (r : Replica w) (spec : ImageSpec) (accepted : List String) (written : Writes) :
    Option Response × Replica w :=
  if acceptsManifest accepted then
    -- the manifest is fetched once before it is downloaded, and must be there
    match (w.resolve spec.baseRef).bind (w.fetch spec.baseRef) with
    | none => (none, r)
    | some _ => match r.downloadManifest spec.baseRef written.manifest with
      | (none, r) => (none, r)
      | (some (manifest, desc), r) =>
          if isImageManifest desc.mediaType then
            match downloadConfig w.toEnvironment spec.baseRef manifest.config with
            | none => (none, r)
            | some cfg => match configModifier r.sources spec cfg with
              | (none, sources) => (none, { r with sources := sources })
              | (some (cfg, addonLayer), sources) =>
                  (some ⟨desc.mediaType, some (announced w manifest addonLayer cfg)⟩,
                    { r with sources := sources }.place written.config (w.marshalImage cfg))
          else (some ⟨desc.mediaType, none⟩, r)
  else (none, r)

/-! ## Serving blobs -/

/-- Where blobs are looked for. -/
inductive BlobSource
  | store
  | proxying
  | config
  | layers
  deriving DecidableEq

/-- The config is made again. -/
def getConfig (r : Replica w) (spec : ImageSpec) (manifest : Manifest) :
    Option Bytes × Replica w :=
  match downloadConfig w.toEnvironment spec.baseRef manifest.config with
  | none => (none, r)
  | some cfg => match configModifier r.sources spec cfg with
    | (res, sources) => (res.map fun res => w.marshalImage res.1, { r with sources := sources })

/-- Whether a source has the blob. The config has to be made to know it. -/
def hasBlob (r : Replica w) (spec : ImageSpec) (manifest : Manifest) (dgst : String) :
    BlobSource → Bool × Replica w
  | .store => ((r.store.lookup dgst).isSome, r)
  | .proxying => (manifest.layers.any (·.digest = dgst), r)
  | .config => match r.getConfig spec manifest with
    | (cfg, r) => (cfg.any fun cfg => w.digestFromBytes cfg = dgst, r)
  | .layers => match r.sources.hasBlob spec dgst with
    | (found, sources) => (found, { r with sources := sources })

/-- What a source gives for it. -/
def sourceBlob (r : Replica w) (spec : ImageSpec) (manifest : Manifest) (dgst : String) :
    BlobSource → Option Blob × Replica w
  | .store => ((r.store.lookup dgst).map fun data => ⟨"", "", some data⟩, r)
  | .proxying => ((findKey Descriptor.digest dgst manifest.layers).bind fun src =>
      if src.digest = "" then none
      else (w.fetch spec.baseRef src).map fun rc => ⟨src.mediaType, "", some rc⟩, r)
  | .config => match r.hasBlob spec manifest dgst .config with
    | (false, r) => (none, r)
    | (true, r) => match r.getConfig spec manifest with
      | (cfg, r) => (cfg.map fun cfg => ⟨manifest.config.mediaType, "", some cfg⟩, r)
  | .layers => match r.sources.getBlob spec dgst with
    | (blob, sources) => (blob, { r with sources := sources })

/-- Ask one more source whether it has a blob. -/
def askSource (spec : ImageSpec) (manifest : Manifest) (dgst : String)
    (asked : Option BlobSource × Replica w) (s : BlobSource) : Option BlobSource × Replica w :=
  match asked.2.hasBlob spec manifest dgst s with
  | (true, r) => (some s, r)
  | (false, r) => (asked.1, r)

/-- All sources are asked, and the last one that has a blob is the one that serves it. -/
def findSource (r : Replica w) (spec : ImageSpec) (manifest : Manifest) (dgst : String) :
    Option BlobSource × Replica w :=
  [BlobSource.store, .proxying, .config, .layers].foldl (askSource spec manifest dgst) (none, r)

/-- The manifest is downloaded again, and the sources are asked. -/
def getBlob (r : Replica w) (spec : ImageSpec) (dgst : String) (written : Bool) :
    Option Blob × Replica w :=
  match r.downloadManifest spec.baseRef written with
  | (none, r) => (none, r)
  | (some (manifest, _), r) => match r.findSource spec manifest dgst with
    | (none, r) => (none, r)
    | (some src, r) => r.sourceBlob spec manifest dgst src

end Replica

/-! ## Everything that happens to a replica -/

/-- What comes to a replica. A restart empties its store and what it remembers. -/
inductive Request
  | manifest (spec : ImageSpec) (accepted : List String) (written : Writes)
  | blob (spec : ImageSpec) (dgst : String) (written : Bool)
  | restart

/-- The spec that a request is for. -/
def Request.specs : Request → List ImageSpec
  | .manifest spec .. => [spec]
  | .blob spec .. => [spec]
  | .restart => []

namespace Replica

/-- A replica that is started again keeps its store. -/
def handle (sources : CompositeLayerSource w) (r : Replica w) : Request → Replica w
  | .manifest spec accepted written => (r.getManifest spec accepted written).2
  | .blob spec dgst written => (r.getBlob spec dgst written).2
  | .restart => { r with sources := sources }

/-- A replica with sources after it has handled requests. -/
def after (sources : CompositeLayerSource w) (requests : List Request) : Replica w :=
  requests.foldl (handle sources) ⟨∅, sources⟩

end Replica

/-! ## What is in the store -/

/-- The documents that requests for a spec bring up: what is fetched for its image, and the
configs that are made for it. -/
inductive Occurs (sources : CompositeLayerSource w) (spec : ImageSpec) : Bytes → Prop
  | fetched {desc : Descriptor} {content : Bytes}
      (hfetch : w.fetch spec.baseRef desc = some content) : Occurs sources spec content
  | made {desc : Descriptor} {cfg : Image} {res : Image × List Descriptor}
      (hconfig : downloadConfig w.toEnvironment spec.baseRef desc = some cfg)
      (hres : (configModifier sources spec cfg).1 = some res) :
      Occurs sources spec (w.marshalImage res.1)

/-- Different documents of these specs have different digests. -/
def CollisionFree (sources : CompositeLayerSource w) (specs : List ImageSpec) : Prop :=
  ∀ a b, (∃ spec ∈ specs, Occurs sources spec a) → (∃ spec ∈ specs, Occurs sources spec b) →
    w.digestFromBytes a = w.digestFromBytes b → a = b

/-- A store has documents under their digests, and the sources are those that were configured,
whatever they remember. -/
structure Sound (sources : CompositeLayerSource w) (specs : List ImageSpec) (r : Replica w) :
    Prop where
  stored : ∀ dgst content, r.store.lookup dgst = some content →
    (∃ spec ∈ specs, Occurs sources spec content) ∧ w.digestFromBytes content = dgst
  configured : r.sources.forget = sources.forget

variable {sources : CompositeLayerSource w} {specs : List ImageSpec} {spec : ImageSpec}
  {r : Replica w}

/-- What is written to the store is what its digest stands for. -/
theorem sound_place (h : Sound sources specs r) (hspec : spec ∈ specs) {content : Bytes}
    (hcontent : Occurs sources spec content) (written : Bool) :
    Sound sources specs (r.place written content) := by
  cases written with
  | false => exact h
  | true =>
      refine ⟨fun dgst content' hlookup => ?_, h.configured⟩
      rw [Replica.place, if_pos rfl, Map.lookup_insert_eq_ite] at hlookup
      by_cases hdgst : dgst = w.digestFromBytes content
      · rw [if_pos hdgst, Option.some.injEq] at hlookup
        rw [← hlookup]
        exact ⟨⟨spec, hspec, hcontent⟩, hdgst.symm⟩
      · rw [if_neg hdgst] at hlookup
        exact h.stored dgst content' hlookup

theorem sound_sources (h : Sound sources specs r) {src : CompositeLayerSource w}
    (hsrc : src.forget = r.sources.forget) : Sound sources specs { r with sources := src } :=
  ⟨h.stored, hsrc.trans h.configured⟩

theorem fetched_followIndex {ref : String} {desc rdesc : Descriptor} {inpt inpt' : Bytes}
    (hinpt : ∃ desc, w.fetch ref desc = some inpt)
    (h : followIndex w.toEnvironment ref desc inpt = some (rdesc, inpt')) :
    ∃ desc, w.fetch ref desc = some inpt' := by
  rw [followIndex] at h
  by_cases hindex : isImageIndex desc.mediaType = true
  · rw [if_pos hindex] at h
    split at h
    · next md _ _ =>
        rw [Option.map_eq_some_iff] at h
        rcases h with ⟨fetched, hfetched, heq⟩
        rw [Prod.mk.injEq] at heq
        exact ⟨md, heq.2 ▸ hfetched⟩
    · exact nomatch h
  · rw [if_neg hindex, Option.some.injEq, Prod.mk.injEq] at h
    exact h.2 ▸ hinpt

theorem fetched_downloadManifest {ref : String} {desc rdesc : Descriptor} {store : Option Store}
    {manifest : Manifest} {inpt : Bytes}
    (h : downloadManifest w.toEnvironment ref desc store = some (manifest, rdesc, some inpt)) :
    ∃ desc, w.fetch ref desc = some inpt := by
  simp only [downloadManifest] at h
  split at h
  · exact nomatch h
  · next inpt₀ hinpt₀ =>
      split at h
      · exact nomatch h
      · next rdesc' inpt' hfollow =>
          by_cases hmt : isImageManifest rdesc'.mediaType = true
          · rw [if_pos hmt, Option.map_eq_some_iff] at h
            rcases h with ⟨res, _, heq⟩
            simp only [Prod.mk.injEq] at heq
            rcases heq with ⟨_, _, hstore⟩
            split at hstore
            · next hnone =>
                -- nothing was in the store, so what was read was fetched
                have hstored := (Bool.and_eq_true_iff.mp hnone).2
                rw [Option.isNone_iff_eq_none.mp hstored, Option.none_or] at hinpt₀
                rw [Option.some.injEq] at hstore
                exact hstore ▸ fetched_followIndex ⟨desc, hinpt₀⟩ hfollow
            · exact nomatch hstore
          · rw [if_neg hmt] at h
            exact nomatch h

/-! ## What a replica has seen makes no difference -/

/-- The manifest of an image as it is in its registry. -/
def baseManifest (w : World) (ref : String) : Option (Manifest × Descriptor) :=
  (w.resolve ref).bind fun desc =>
    (downloadManifest w.toEnvironment ref desc none).map fun res => (res.1, res.2.1)

/-- A manifest from the store is the one that would be fetched. -/
theorem downloadManifest_of_stored {ref : String} {desc : Descriptor} {store : Store}
    (h : (store.lookup desc.digest).or (w.fetch ref desc) = w.fetch ref desc) :
    (downloadManifest w.toEnvironment ref desc (some store)).map (fun res => (res.1, res.2.1)) =
      (downloadManifest w.toEnvironment ref desc none).map (fun res => (res.1, res.2.1)) := by
  simp only [downloadManifest]
  simp only [Option.bind_some, Option.bind_none, Option.none_or, h]
  cases w.fetch ref desc with
  | none => rfl
  | some inpt =>
      simp only
      cases followIndex w.toEnvironment ref desc inpt with
      | none => rfl
      | some found =>
          simp only
          split
          · rw [Option.map_map, Option.map_map]
            rfl
          · rfl

/-- What is found in the store under the digest of a document is this document. -/
theorem lookup_or_fetch (hfree : CollisionFree sources specs) (h : Sound sources specs r)
    (hspec : spec ∈ specs) {desc : Descriptor}
    (hfetch : (w.fetch spec.baseRef desc).isSome = true) :
    (r.store.lookup desc.digest).or (w.fetch spec.baseRef desc) = w.fetch spec.baseRef desc := by
  rcases Option.isSome_iff_exists.mp hfetch with ⟨inpt, hinpt⟩
  cases hstored : r.store.lookup desc.digest with
  | none => exact Option.none_or
  | some content =>
      rcases h.stored _ _ hstored with ⟨hoccurs, hdgst⟩
      have haddressed := w.contentAddressed spec.baseRef desc inpt hinpt
      have hsame : content = inpt :=
        hfree content inpt hoccurs ⟨spec, hspec, .fetched hinpt⟩ (hdgst.trans haddressed.symm)
      rw [Option.some_or, hinpt, hsame]

/-- The store makes no difference. -/
theorem downloadManifest_fst (hfree : CollisionFree sources specs) (h : Sound sources specs r)
    (hspec : spec ∈ specs) {desc : Descriptor} (hresolve : w.resolve spec.baseRef = some desc)
    (hfetch : (w.fetch spec.baseRef desc).isSome = true) (written : Bool) :
    (r.downloadManifest spec.baseRef written).1 = baseManifest w spec.baseRef := by
  rw [baseManifest, hresolve, Option.bind_some,
    ← downloadManifest_of_stored (lookup_or_fetch hfree h hspec hfetch),
    Replica.downloadManifest, hresolve]
  simp only
  split
  · next hnone => rw [hnone, Option.map_none]
  · next hsome => rw [hsome, Option.map_some]
  · next hsome => rw [hsome, Option.map_some]

theorem sound_downloadManifest (h : Sound sources specs r) (hspec : spec ∈ specs)
    (written : Bool) : Sound sources specs (r.downloadManifest spec.baseRef written).2 := by
  unfold Replica.downloadManifest
  split
  · exact h
  · split
    · exact h
    · exact h
    · next hsome =>
        rcases fetched_downloadManifest hsome with ⟨desc, hfetch⟩
        exact sound_place h hspec (.fetched hfetch) written

theorem configModifier_forget (src : CompositeLayerSource w) (spec : ImageSpec) (cfg : Image) :
    (configModifier src spec cfg).2.forget = src.forget := by
  have hforget := src.forget_getLayer spec
  unfold configModifier
  split
  · next hget => rwa [hget] at hforget
  · next hget => rwa [hget] at hforget

/-- The layers that are added depend only on how the sources are configured. -/
theorem configModifier_fst (h : Sound sources specs r) (spec : ImageSpec) (cfg : Image) :
    (configModifier r.sources spec cfg).1 = (configModifier sources spec cfg).1 := by
  have hlayers : (r.sources.getLayer spec).1 = (sources.getLayer spec).1 := by
    rw [← CompositeLayerSource.getLayer_forget, h.configured, CompositeLayerSource.getLayer_forget]
  unfold configModifier
  rcases hget : r.sources.getLayer spec with ⟨layers, src⟩
  rcases hget' : sources.getLayer spec with ⟨layers', src'⟩
  rw [hget, hget'] at hlayers
  rw [show layers = layers' from hlayers]
  cases layers' <;> rfl

theorem sound_getConfig (h : Sound sources specs r) (spec : ImageSpec) (manifest : Manifest) :
    Sound sources specs (r.getConfig spec manifest).2 := by
  unfold Replica.getConfig
  split
  · exact h
  · next cfg _ => exact sound_sources h (configModifier_forget r.sources spec cfg)

theorem sound_hasBlob (h : Sound sources specs r) (spec : ImageSpec) (manifest : Manifest)
    (dgst : String) (src : Replica.BlobSource) :
    Sound sources specs (r.hasBlob spec manifest dgst src).2 := by
  cases src with
  | store => exact h
  | proxying => exact h
  | config => exact sound_getConfig h spec manifest
  | layers => exact sound_sources h (r.sources.forget_hasBlob spec dgst)

theorem sound_sourceBlob (h : Sound sources specs r) (spec : ImageSpec) (manifest : Manifest)
    (dgst : String) (src : Replica.BlobSource) :
    Sound sources specs (r.sourceBlob spec manifest dgst src).2 := by
  cases src with
  | store => exact h
  | proxying => exact h
  | config =>
      have hhas := sound_hasBlob h spec manifest dgst .config
      rw [Replica.sourceBlob]
      split
      · next heq => rwa [heq] at hhas
      · next heq =>
          rw [heq] at hhas
          exact sound_getConfig hhas spec manifest
  | layers => exact sound_sources h (r.sources.forget_getBlob spec dgst)

theorem sound_askSource {asked : Option Replica.BlobSource × Replica w}
    (h : Sound sources specs asked.2) (spec : ImageSpec) (manifest : Manifest) (dgst : String)
    (src : Replica.BlobSource) :
    Sound sources specs (Replica.askSource spec manifest dgst asked src).2 := by
  have hhas := sound_hasBlob h spec manifest dgst src
  unfold Replica.askSource
  split
  · next heq => rwa [heq] at hhas
  · next heq => rwa [heq] at hhas

theorem sound_findSource (h : Sound sources specs r) (spec : ImageSpec) (manifest : Manifest)
    (dgst : String) : Sound sources specs (r.findSource spec manifest dgst).2 := by
  have hnone : Sound sources specs ((none, r) : Option Replica.BlobSource × Replica w).2 := h
  have hstore := sound_askSource hnone spec manifest dgst .store
  have hproxying := sound_askSource hstore spec manifest dgst .proxying
  have hconfig := sound_askSource hproxying spec manifest dgst .config
  exact sound_askSource hconfig spec manifest dgst .layers

theorem sound_getBlob (h : Sound sources specs r) (hspec : spec ∈ specs) (dgst : String)
    (written : Bool) : Sound sources specs (r.getBlob spec dgst written).2 := by
  have hdownload := sound_downloadManifest h hspec written
  unfold Replica.getBlob
  split
  · next heq => rwa [heq] at hdownload
  · next manifest _ r' heq =>
      rw [heq] at hdownload
      have hfound := sound_findSource hdownload spec manifest dgst
      split
      · next heq => rwa [heq] at hfound
      · next src _ heq =>
          rw [heq] at hfound
          exact sound_sourceBlob hfound spec manifest dgst src

theorem sound_getManifest (h : Sound sources specs r) (hspec : spec ∈ specs)
    (accepted : List String) (written : Writes) :
    Sound sources specs (r.getManifest spec accepted written).2 := by
  have hdownload := sound_downloadManifest h hspec written.manifest
  unfold Replica.getManifest
  split
  · split
    · exact h
    · split
      · next heq => rwa [heq] at hdownload
      · next manifest desc r' heq =>
          rw [heq] at hdownload
          split
          · split
            · exact hdownload
            · next cfg hconfig =>
                have hforget := configModifier_forget r'.sources spec cfg
                have hmodified := configModifier_fst hdownload spec cfg
                split
                · next heq =>
                    rw [heq] at hforget
                    exact sound_sources hdownload hforget
                · next cfg' addonLayer src heq =>
                    rw [heq] at hforget hmodified
                    exact sound_place (sound_sources hdownload hforget) hspec
                      (.made hconfig hmodified.symm) _
          · exact hdownload
  · exact h

theorem sound_handle (h : Sound sources specs r) {request : Request}
    (hspecs : ∀ spec ∈ request.specs, spec ∈ specs) :
    Sound sources specs (r.handle sources request) := by
  cases request with
  | manifest spec accepted written =>
      exact sound_getManifest h (hspecs spec (List.mem_singleton_self spec)) accepted written
  | blob spec dgst written =>
      exact sound_getBlob h (hspecs spec (List.mem_singleton_self spec)) dgst written
  | restart => exact ⟨h.stored, rfl⟩

/-- What a replica has seen makes no difference. -/
theorem sound_after (sources : CompositeLayerSource w) (requests : List Request)
    (hspecs : ∀ request ∈ requests, ∀ spec ∈ request.specs, spec ∈ specs) :
    Sound sources specs (Replica.after sources requests) := by
  have hfold : ∀ r : Replica w, Sound sources specs r →
      Sound sources specs (requests.foldl (Replica.handle sources) r) := by
    induction requests with
    | nil => exact fun _ hr => hr
    | cons request requests ih =>
        rcases List.forall_mem_cons.mp hspecs with ⟨hrequest, hrequests⟩
        exact fun r hr => ih hrequests _ (sound_handle hr hrequest)
  refine hfold _ ⟨fun dgst content hlookup => ?_, rfl⟩
  rw [AList.lookup_empty] at hlookup
  exact nomatch hlookup

/-! ## The config that is made again -/

/-- Only manifests of images are served. -/
theorem isImageManifest_of_baseManifest {ref : String} {base : Manifest} {desc : Descriptor}
    (h : baseManifest w ref = some (base, desc)) : isImageManifest desc.mediaType = true := by
  rw [baseManifest, Option.bind_eq_some_iff] at h
  rcases h with ⟨_, _, h⟩
  rw [Option.map_eq_some_iff] at h
  rcases h with ⟨⟨_, rdesc, _⟩, hdownload, heq⟩
  rw [Prod.mk.injEq] at heq
  simp only [downloadManifest] at hdownload
  split at hdownload
  · exact nomatch hdownload
  · split at hdownload
    · exact nomatch hdownload
    · next rdesc' _ _ =>
        by_cases hmt : isImageManifest rdesc'.mediaType = true
        · rw [if_pos hmt, Option.map_eq_some_iff] at hdownload
          rcases hdownload with ⟨_, _, hres⟩
          simp only [Prod.mk.injEq] at hres
          rw [← heq.2, ← hres.2.1]
          exact hmt
        · rw [if_neg hmt] at hdownload
          exact nomatch hdownload

/-- What is added to an image for a spec. -/
structure Modified (sources : CompositeLayerSource w) (spec : ImageSpec) where
  base : Manifest
  desc : Descriptor
  baseCfg : Image
  addons : List AddonLayer
  manifest_eq : baseManifest w spec.baseRef = some (base, desc)
  config_eq : downloadConfig w.toEnvironment spec.baseRef base.config = some baseCfg
  layers_eq : (sources.getLayer spec).1 = some addons

namespace Modified

/-- The config with the layers that are added. -/
def cfg (m : Modified sources spec) : Image :=
  { m.baseCfg with diffIDs := m.baseCfg.diffIDs ++ m.addons.map (·.diffID) }

/-- The manifest with the same layers. -/
def manifest (m : Modified sources spec) : Manifest :=
  Replica.announced w m.base (m.addons.map (·.descriptor)) m.cfg

/-- Every layer is listed beside its diff ID. -/
theorem zip_manifest (m : Modified sources spec)
    (hbase : m.base.layers.length = m.baseCfg.diffIDs.length) :
    m.manifest.layers.zip m.cfg.diffIDs =
      m.base.layers.zip m.baseCfg.diffIDs ++ m.addons.map fun l => (l.descriptor, l.diffID) := by
  rw [manifest, Replica.announced, cfg, List.zip_append hbase, List.zip_map']

theorem length_manifest (m : Modified sources spec)
    (hbase : m.base.layers.length = m.baseCfg.diffIDs.length) :
    m.manifest.layers.length = m.cfg.diffIDs.length := by
  rw [manifest, Replica.announced, cfg, List.length_append, List.length_append, hbase,
    List.length_map, List.length_map]

end Modified

/-- A config that was made is the one with the layers of the sources. -/
theorem configModifier_eq_some {src : CompositeLayerSource w} {spec : ImageSpec} {cfg : Image}
    {res : Image × List Descriptor} (h : (configModifier src spec cfg).1 = some res) :
    ∃ addons, (src.getLayer spec).1 = some addons ∧
      res = ({ cfg with diffIDs := cfg.diffIDs ++ addons.map (·.diffID) },
        addons.map (·.descriptor)) := by
  unfold configModifier at h
  split at h
  · exact nomatch h
  · next addons _ hget =>
      rw [Option.some.injEq] at h
      exact ⟨addons, by rw [hget], h.symm⟩

/-- A manifest that is served announces the config that was made for it. -/
theorem getManifest_eq_some (hfree : CollisionFree sources specs) (h : Sound sources specs r)
    (hspec : spec ∈ specs) {accepted : List String} {written : Writes} {resp : Response}
    (hresp : (r.getManifest spec accepted written).1 = some resp) :
    ∃ m : Modified sources spec, resp = ⟨m.desc.mediaType, some m.manifest⟩ ∧
      ∃ desc, w.resolve spec.baseRef = some desc ∧ (w.fetch spec.baseRef desc).isSome = true := by
  unfold Replica.getManifest at hresp
  split at hresp
  · split at hresp
    · exact nomatch hresp
    · next inpt hinpt =>
        rw [Option.bind_eq_some_iff] at hinpt
        rcases hinpt with ⟨desc, hresolve, hfetch⟩
        have hsome : (w.fetch spec.baseRef desc).isSome = true := by rw [hfetch, Option.isSome_some]
        -- What was stored is what would have been downloaded, so the two agree.
        have hdownload := downloadManifest_fst hfree h hspec hresolve hsome written.manifest
        have hsound := sound_downloadManifest h hspec written.manifest
        split at hresp
        · exact nomatch hresp
        · next base rdesc r' heq =>
            rw [heq] at hdownload hsound
            rw [if_pos (isImageManifest_of_baseManifest hdownload.symm)] at hresp
            split at hresp
            · exact nomatch hresp
            · next baseCfg hconfig =>
                have hmodified := configModifier_fst hsound spec baseCfg
                split at hresp
                · exact nomatch hresp
                · next cfg addonLayer _ hmod =>
                    rw [hmod] at hmodified
                    rcases configModifier_eq_some hmodified.symm with ⟨addons, hlayers, hres⟩
                    rw [Prod.mk.injEq] at hres
                    refine ⟨⟨base, rdesc, baseCfg, addons, hdownload.symm, hconfig, hlayers⟩, ?_,
                      desc, hresolve, hsome⟩
                    rw [Option.some.injEq, hres.1, hres.2] at hresp
                    exact hresp.symm
  · exact nomatch hresp

/-- The config is made again from what is configured. -/
theorem getConfig_fst (h : Sound sources specs r) (m : Modified sources spec) :
    (r.getConfig spec m.base).1 = some (w.marshalImage m.cfg) := by
  have hmodified := configModifier_fst h spec m.baseCfg
  have hlayers := m.layers_eq
  rw [Replica.getConfig, m.config_eq]
  simp only
  rw [hmodified]
  unfold configModifier
  rcases hget : sources.getLayer spec with ⟨addons, src⟩
  rw [hget] at hlayers
  rw [show addons = some m.addons from hlayers]
  rfl

/-- The config is known by the digest that was announced. -/
theorem hasBlob_config_fst (h : Sound sources specs r) (m : Modified sources spec) :
    (r.hasBlob spec m.base m.manifest.config.digest .config).1 = true := by
  have hconfig := getConfig_fst h m
  rw [Replica.hasBlob]
  rcases hget : r.getConfig spec m.base with ⟨cfg, r'⟩
  rw [hget] at hconfig
  rw [show cfg = some (w.marshalImage m.cfg) from hconfig]
  exact decide_eq_true rfl

theorem sourceBlob_config_fst (h : Sound sources specs r)
    (m : Modified sources spec) :
    (r.sourceBlob spec m.base m.manifest.config.digest .config).1 =
      some ⟨m.base.config.mediaType, "", some (w.marshalImage m.cfg)⟩ := by
  have hhas := hasBlob_config_fst h m
  have hsound := sound_hasBlob h spec m.base m.manifest.config.digest .config
  rw [Replica.sourceBlob]
  rcases heq : r.hasBlob spec m.base m.manifest.config.digest .config with ⟨found, r'⟩
  rw [heq] at hhas hsound
  rw [show found = true from hhas]
  have hconfig := getConfig_fst hsound m
  simp only
  rcases hget : r'.getConfig spec m.base with ⟨cfg, r''⟩
  rw [hget] at hconfig
  rw [show cfg = some (w.marshalImage m.cfg) from hconfig]
  rfl

/-- The config is served unless a layer that is added has its digest as well. -/
theorem findSource_config_fst (h : Sound sources specs r) (m : Modified sources spec)
    (hnew : ∀ l ∈ m.addons, l.descriptor.digest ≠ m.manifest.config.digest) :
    (r.findSource spec m.base m.manifest.config.digest).1 = some .config := by
  have hnone : Sound sources specs ((none, r) : Option Replica.BlobSource × Replica w).2 := h
  have hstore := sound_askSource hnone spec m.base m.manifest.config.digest .store
  have hproxying := sound_askSource hstore spec m.base m.manifest.config.digest .proxying
  rw [Replica.findSource, List.foldl_cons, List.foldl_cons, List.foldl_cons, List.foldl_cons,
    List.foldl_nil]
  generalize Replica.askSource spec m.base m.manifest.config.digest _ .proxying = asked
    at hproxying ⊢
  have hconfig := hasBlob_config_fst hproxying m
  have hsound := sound_hasBlob hproxying spec m.base m.manifest.config.digest .config
  rcases heq : asked.2.hasBlob spec m.base m.manifest.config.digest .config with ⟨found, r'⟩
  rw [heq] at hconfig hsound
  have hfound : found = true := hconfig
  simp only [Replica.askSource, heq, hfound]
  -- no layer has the digest, so the sources of the layers say that they have no such blob
  have hnone : (r'.sources.hasBlob spec m.manifest.config.digest).1 = false := by
    rcases CompositeLayerSource.mem_getLayer m.layers_eq with ⟨entries, hview, hmem⟩
    rw [← CompositeLayerSource.view_forget, ← hsound.configured,
      CompositeLayerSource.view_forget] at hview
    rw [CompositeLayerSource.hasBlob_fst _ hview, List.any_eq_false]
    intro e he hc
    exact hnew e.layer ((hmem e.layer).mpr ⟨e, he, rfl⟩) (of_decide_eq_true hc)
  rw [Replica.hasBlob]
  rcases hlayers : r'.sources.hasBlob spec m.manifest.config.digest with ⟨has, src⟩
  rw [hlayers] at hnone
  rw [show has = false from hnone]

/-- A replica that is asked for the announced config serves it. -/
theorem getBlob_config_fst (hfree : CollisionFree sources specs) (h : Sound sources specs r)
    (hspec : spec ∈ specs) (m : Modified sources spec)
    (hnew : ∀ l ∈ m.addons, l.descriptor.digest ≠ m.manifest.config.digest) {desc : Descriptor}
    (hresolve : w.resolve spec.baseRef = some desc)
    (hfetch : (w.fetch spec.baseRef desc).isSome = true) (written : Bool) :
    (r.getBlob spec m.manifest.config.digest written).1 =
      some ⟨m.base.config.mediaType, "", some (w.marshalImage m.cfg)⟩ := by
  have hdownload := downloadManifest_fst hfree h hspec hresolve hfetch written
  have hsound := sound_downloadManifest h hspec written
  rw [Replica.getBlob]
  rcases heq : r.downloadManifest spec.baseRef written with ⟨res, r'⟩
  rw [heq, m.manifest_eq] at hdownload
  rw [heq] at hsound
  rw [show res = some (m.base, m.desc) from hdownload]
  have hsource := findSource_config_fst hsound m hnew
  have hfound := sound_findSource hsound spec m.base m.manifest.config.digest
  simp only
  rcases hsrc : r'.findSource spec m.base m.manifest.config.digest with ⟨src, r''⟩
  rw [hsrc] at hsource hfound
  rw [show src = some .config from hsource]
  exact sourceBlob_config_fst hfound m

/-- The manifest and the config of an image list equally many layers. -/
def Balanced (w : World) (ref : String) : Prop :=
  ∀ base desc baseCfg, baseManifest w ref = some (base, desc) →
    downloadConfig w.toEnvironment ref base.config = some baseCfg →
    base.layers.length = baseCfg.diffIDs.length

/-- A manifest lists as many layers as a config has diff IDs, those of the image first and then
those that are added. -/
def Lists (sources : CompositeLayerSource w) (spec : ImageSpec) (manifest : Manifest)
    (cfg : Image) : Prop :=
  manifest.layers.length = cfg.diffIDs.length ∧
    ∃ base desc baseCfg addons, baseManifest w spec.baseRef = some (base, desc) ∧
      downloadConfig w.toEnvironment spec.baseRef base.config = some baseCfg ∧
      (sources.getLayer spec).1 = some addons ∧
      manifest.layers.zip cfg.diffIDs =
        base.layers.zip baseCfg.diffIDs ++ addons.map fun l => (l.descriptor, l.diffID)

/-- Two replicas that have handled requests, of which the one is asked for a manifest. -/
theorem sound_after_both (sources : CompositeLayerSource w) (spec : ImageSpec)
    (here there : List Request) :
    let specs := spec :: (here ++ there).flatMap Request.specs
    spec ∈ specs ∧ Sound sources specs (Replica.after sources here) ∧
      Sound sources specs (Replica.after sources there) := by
  have hspecs : ∀ request ∈ here ++ there, ∀ spec' ∈ request.specs,
      spec' ∈ spec :: (here ++ there).flatMap Request.specs :=
    fun request hrequest spec' hspec' =>
      List.mem_cons_of_mem spec (List.mem_flatMap.mpr ⟨request, hrequest, hspec'⟩)
  exact ⟨List.mem_cons_self,
    sound_after sources here fun request h => hspecs request (List.mem_append_left there h),
    sound_after sources there fun request h => hspecs request (List.mem_append_right here h)⟩

/-- Replicas make the same config again that was announced with a manifest, whatever they have
    handled before. The config is made anew for the manifest and for the blob, perhaps by
    another replica, from a download or from the store, and containerd accepts it only with the
    digest that was announced. -/
theorem config_agrees (sources : CompositeLayerSource w) (spec : ImageSpec)
    (hbase : Balanced w spec.baseRef) (here there : List Request)
    (hfree : CollisionFree sources (spec :: (here ++ there).flatMap Request.specs))
    (accepted : List String) (written : Writes) (resp : Response)
    (hresp : ((Replica.after sources here).getManifest spec accepted written).1 = some resp) :
    ∃ manifest cfg, resp.manifest = some manifest ∧ Lists sources spec manifest cfg ∧
      manifest.config.digest = w.digestFromBytes (w.marshalImage cfg) ∧
      manifest.config.size = (w.marshalImage cfg).length ∧
      ∀ written, ∃ base desc r,
        (Replica.after sources there).downloadManifest spec.baseRef written =
          (some (base, desc), r) ∧
        (r.hasBlob spec base manifest.config.digest .config).1 = true ∧
        (r.sourceBlob spec base manifest.config.digest .config).1 =
          some ⟨base.config.mediaType, "", some (w.marshalImage cfg)⟩ := by
  rcases sound_after_both sources spec here there with ⟨hspec, hhere, hthere⟩
  rcases getManifest_eq_some hfree hhere hspec hresp with ⟨m, hserved, desc, hresolve, hfetch⟩
  have hlength := hbase _ _ _ m.manifest_eq m.config_eq
  refine ⟨m.manifest, m.cfg, by rw [hserved], ⟨m.length_manifest hlength, m.base, m.desc,
    m.baseCfg, m.addons, m.manifest_eq, m.config_eq, m.layers_eq, m.zip_manifest hlength⟩,
    rfl, rfl, fun written => ?_⟩
  have hdownload := downloadManifest_fst hfree hthere hspec hresolve hfetch written
  have hsound := sound_downloadManifest hthere hspec written
  rcases heq : (Replica.after sources there).downloadManifest spec.baseRef written with ⟨res, r⟩
  rw [heq, m.manifest_eq] at hdownload
  rw [heq] at hsound
  refine ⟨m.base, m.desc, r, ?_, hasBlob_config_fst hsound m, sourceBlob_config_fst hsound m⟩
  rw [show res = some (m.base, m.desc) from hdownload]

/-! ### An image with one layer -/

/-- A descriptor that is right. -/
def exampleDescriptor (mediaType : String) (content : Bytes) : Descriptor where
  mediaType := mediaType
  digest := emptyWorld.digestFromBytes content
  size := content.length
  urls := []

/-- A manifest, a config and a layer, each a byte. -/
def exampleEnv : Environment where
  resolve ref := if ref = "alpine" then
      some (exampleDescriptor "application/vnd.oci.image.manifest.v1+json" [1])
    else none
  fetch _ desc := [[1], [2], [3]].find? fun content =>
    emptyWorld.digestFromBytes content = desc.digest
  openFile _ := none
  digestFromBytes := emptyWorld.digestFromBytes
  isDigest := emptyWorld.isDigest
  unmarshalIndex _ := none
  unmarshalManifest _ := some
    { config := exampleDescriptor "application/vnd.oci.image.config.v1+json" [2]
      layers := [exampleDescriptor mediaTypeImageLayerGzip [3]] }
  decodeImage _ := some ⟨["sha256:base"], .null⟩
  marshalImage cfg := (", ".intercalate cfg.diffIDs).toList.map fun c => UInt8.ofNat c.toNat

theorem exampleEnv_layersExist {ref : String} {desc rdesc : Descriptor} {manifest : Manifest}
    {toStore : Option Bytes}
    (h : downloadManifest exampleEnv ref desc none = some (manifest, rdesc, toStore)) :
    ∀ l ∈ manifest.layers, (exampleEnv.fetch ref l).isSome = true := by
  simp only [downloadManifest] at h
  split at h
  · exact nomatch h
  · split at h
    · exact nomatch h
    · split at h
      · rw [Option.map_eq_some_iff] at h
        rcases h with ⟨res, hres, heq⟩
        rw [Prod.mk.injEq] at heq
        intro l hl
        rw [← heq.1, ← Option.some.inj hres, List.mem_singleton] at hl
        rw [hl]
        rfl
      · exact nomatch h

/-- A registry with one image. -/
def exampleWorld : World where
  toEnvironment := exampleEnv
  contentAddressed _ desc content h := by
    have hfound := List.find?_some (p := fun content =>
      decide (exampleEnv.digestFromBytes content = desc.digest)) h
    exact of_decide_eq_true hfound
  layersExist _ _ _ _ _ _ h := exampleEnv_layersExist h

theorem collisionFree_exampleWorld (sources : CompositeLayerSource exampleWorld)
    (specs : List ImageSpec) : CollisionFree sources specs := by
  intro a b _ _ h
  have hmap : a.map Char.ofUInt8 = b.map Char.ofUInt8 := String.ofList_injective h
  refine List.map_injective_iff.mpr (fun x y hxy => ?_) hmap
  exact UInt8.toUInt32_inj.mp (congrArg Char.val hxy)

theorem balanced_exampleWorld : Balanced exampleWorld "alpine" := by
  intro base desc baseCfg hmanifest hconfig
  have hbase : baseManifest exampleWorld "alpine" =
      some (_, exampleDescriptor "application/vnd.oci.image.manifest.v1+json" [1]) := rfl
  rw [hmanifest, Option.some.injEq, Prod.mk.injEq] at hbase
  rw [hbase.1] at hconfig ⊢
  rw [← Option.some.inj hconfig]
  rfl

/-- A layer with one byte is added to the image. -/
def exampleSpec : ImageSpec :=
  ⟨"alpine", "", [.direct [4]]⟩

/-- The layers are those of the spec. -/
def exampleSources : CompositeLayerSource exampleWorld :=
  [.content]

/-- The config is made again after a restart. -/
theorem config_agrees_example :
    ∃ resp manifest cfg,
      ((Replica.after exampleSources []).getManifest exampleSpec
        ["application/vnd.oci.image.manifest.v1+json"] ⟨true, true⟩).1 = some resp ∧
      resp.manifest = some manifest ∧ Lists exampleSources exampleSpec manifest cfg ∧
      ∃ base desc r,
        (Replica.after exampleSources [.restart]).downloadManifest "alpine" true =
          (some (base, desc), r) ∧
        (r.hasBlob exampleSpec base manifest.config.digest .config).1 = true := by
  have hserved : ((Replica.after exampleSources []).getManifest exampleSpec
      ["application/vnd.oci.image.manifest.v1+json"] ⟨true, true⟩).1.isSome = true := rfl
  rcases Option.isSome_iff_exists.mp hserved with ⟨resp, hresp⟩
  rcases config_agrees exampleSources exampleSpec balanced_exampleWorld [] [.restart]
    (collisionFree_exampleWorld _ _) _ _ resp hresp
    with ⟨manifest, cfg, hmanifest, hlists, _, _, hagain⟩
  rcases hagain true with ⟨base, desc, r, hdownload, hhas, _⟩
  exact ⟨resp, manifest, cfg, hresp, hmanifest, hlists, base, desc, r, hdownload, hhas⟩

end RegistryFacade

end Nxpod
