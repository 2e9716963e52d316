import Nxpod.RegistryFacade.Manifest

/-!
# Pulling an Image

Who pulls an image gets its manifest from one replica of the registry facade, and the blobs that the
manifest names from any of them. A replica asks all of its sources for a blob, and the last one that
has it serves it. Several may have it: a layer of the image may be added to it once more, and what
is in the store may be anything that was served before.

Whichever source it is, the bytes are those the digest stands for, or there is a redirect to where
the spec says that they are. So a manifest that is served can be pulled as a whole, from replicas
that have not seen it before as well (`pull_complete`).

## Main definitions

* `Delivers`: A blob is what its digest stands for.
* `Modified.has`: Which source has a blob.

## Theorems

* `remote_mem_view`: What is redirected is in the spec.
* `findSource_fst`: The source that serves a blob.
* `pull_complete`: All blobs of a manifest are served.
-/

namespace Nxpod

namespace RegistryFacade

open Keyed

variable {w : World} {sources : CompositeLayerSource w} {specs : List ImageSpec} {r : Replica w}
  {spec : ImageSpec}

/-- The bytes have the digest, or the spec says where they are. -/
def Delivers (w : World) (spec : ImageSpec) (dgst : String) (blob : Blob) : Prop :=
  (∃ data, blob.data = some data ∧ w.digestFromBytes data = dgst) ∨
    ∃ rl, .remote rl ∈ spec.contentLayer ∧ rl.digest = dgst ∧ blob.data = none ∧ blob.url = rl.url

/-! ## Redirects -/

theorem entry_eq_remote {l : ContentLayer} {rl : RemoteContentLayer}
    (h : l.entry w = some (.remote rl)) : l = .remote rl := by
  cases l with
  | direct content => cases h
  | remote rl' =>
      rw [ContentLayer.entry, Option.ite_none_right_eq_some] at h
      cases h.2
      rfl
  | unknown => cases h

/-- A remote layer that a source shows is one of the spec. -/
theorem remote_mem_view_source {s : LayerSource w} {entries : List (Entry w)}
    (h : s.view spec = some entries) {rl : RemoteContentLayer} (hrl : .remote rl ∈ entries) :
    .remote rl ∈ spec.contentLayer := by
  have himage : ∀ layers : List (ImagebackedLayer w),
      Entry.remote rl ∉ (layers.map Entry.image).reverse := by
    intro layers hmem
    rcases List.mem_map.mp (List.mem_reverse.mp hmem) with ⟨l, -, hl⟩
    cases hl
  cases s with
  | file layers =>
      cases h
      rcases List.mem_map.mp hrl with ⟨l, -, hl⟩
      cases hl
  | image layers =>
      cases h
      exact absurd hrl (himage layers)
  | specMapped src =>
      rcases Option.map_eq_some_iff.mp h with ⟨layers, -, rfl⟩
      exact absurd hrl (himage layers)
  | content =>
      rw [LayerSource.view] at h
      generalize spec.contentLayer = layers at h ⊢
      induction layers generalizing entries with
      | nil =>
          cases h
          exact absurd hrl List.not_mem_nil
      | cons l layers ih =>
          rw [List.mapM_cons] at h
          rcases Option.bind_eq_some_iff.mp h with ⟨e, he, hrest⟩
          rcases Option.bind_eq_some_iff.mp hrest with ⟨es, hes, hpure⟩
          cases hpure
          rcases List.mem_cons.mp hrl with rfl | hrl
          · rw [entry_eq_remote he]
            exact List.mem_cons_self
          · exact List.mem_cons_of_mem l (ih hrl hes)

/-- What is redirected is in the spec. -/
theorem remote_mem_view {cs : CompositeLayerSource w} {entries : List (Entry w)}
    (h : cs.view spec = some entries) {rl : RemoteContentLayer} (hrl : .remote rl ∈ entries) :
    .remote rl ∈ spec.contentLayer := by
  induction cs generalizing entries with
  | nil =>
      cases h
      exact absurd hrl List.not_mem_nil
  | cons s cs ih =>
      rcases CompositeLayerSource.view_cons h with ⟨es₁, es₂, hs, hcs, rfl⟩
      rcases List.mem_append.mp hrl with hrl | hrl
      · exact remote_mem_view_source hs hrl
      · exact ih hcs hrl

theorem delivers_of_entry {cs : CompositeLayerSource w} {entries : List (Entry w)}
    (h : cs.view spec = some entries) {e : Entry w} (he : e ∈ entries) :
    ∃ blob, e.blob = some blob ∧ Delivers w spec e.digest blob := by
  by_cases hremote : ∃ rl, e = .remote rl
  · rcases hremote with ⟨rl, rfl⟩
    exact ⟨_, rfl, .inr ⟨rl, remote_mem_view h he, rfl, rfl, rfl⟩⟩
  · rcases blob_of_local (fun rl hrl => hremote ⟨rl, hrl⟩) with
      ⟨blob, data, hblob, -, hdata, hdigest⟩
    exact ⟨blob, hblob, .inl ⟨data, hdata, hdigest⟩⟩

/-! ## The source that serves a blob -/

/-- The sources of a replica have what is configured. -/
theorem view_sources (h : Sound sources specs r) {entries : List (Entry w)}
    (hview : sources.view spec = some entries) : r.sources.view spec = some entries := by
  rw [← CompositeLayerSource.view_forget, h.configured, CompositeLayerSource.view_forget, hview]

/-- Which source other than the store has a blob. -/
def Modified.has (m : Modified sources spec) (entries : List (Entry w)) (dgst : String) :
    Replica.BlobSource → Bool
  | .store => false
  | .proxying => m.base.layers.any (·.digest = dgst)
  | .config => w.digestFromBytes (w.marshalImage m.cfg) = dgst
  | .layers => entries.any (·.digest = dgst)

/-- Whether a source has a blob does not depend on what was handled before. -/
theorem hasBlob_eq_has (h : Sound sources specs r) (m : Modified sources spec)
    {entries : List (Entry w)} (hview : sources.view spec = some entries) (dgst : String)
    {src : Replica.BlobSource} (hsrc : src ≠ .store) :
    (r.hasBlob spec m.base dgst src).1 = m.has entries dgst src := by
  cases src with
  | store => exact absurd rfl hsrc
  | proxying => rfl
  | config =>
      have hconfig := getConfig_fst h m
      rw [Replica.hasBlob]
      rcases hget : r.getConfig spec m.base with ⟨cfg, r'⟩
      rw [hget] at hconfig
      dsimp only at hconfig ⊢
      rw [hconfig]
      rfl
  | layers =>
      have hlayers := CompositeLayerSource.hasBlob_fst dgst (view_sources h hview)
      rw [Replica.hasBlob]
      rcases hhas : r.sources.hasBlob spec dgst with ⟨found, src⟩
      rw [hhas] at hlayers
      exact hlayers

/-- Of the sources that have a blob the last one serves it. -/
theorem askSource_fst (asked : Option Replica.BlobSource × Replica w) (manifest : Manifest)
    (dgst : String) (src : Replica.BlobSource) :
    (Replica.askSource spec manifest dgst asked src).1 =
      if (asked.2.hasBlob spec manifest dgst src).1 then some src else asked.1 := by
  unfold Replica.askSource
  rcases asked.2.hasBlob spec manifest dgst src with ⟨found, r'⟩
  cases found <;> rfl

/-- The last source that has a blob serves it, and it is not the store if another one has it. -/
theorem findSource_fst (h : Sound sources specs r) (m : Modified sources spec)
    {entries : List (Entry w)} (hview : sources.view spec = some entries) {dgst : String}
    (hsome : ∃ src, m.has entries dgst src = true) :
    ∃ src, (r.findSource spec m.base dgst).1 = some src ∧ m.has entries dgst src = true := by
  have hnone : Sound sources specs ((none, r) : Option Replica.BlobSource × Replica w).2 := h
  have hstore := sound_askSource hnone spec m.base dgst .store
  have hproxying := sound_askSource hstore spec m.base dgst .proxying
  have hconfig := sound_askSource hproxying spec m.base dgst .config
  rw [Replica.findSource, List.foldl_cons, List.foldl_cons, List.foldl_cons, List.foldl_cons,
    List.foldl_nil, askSource_fst, hasBlob_eq_has hconfig m hview dgst (by decide), askSource_fst,
    hasBlob_eq_has hproxying m hview dgst (by decide), askSource_fst,
    hasBlob_eq_has hstore m hview dgst (by decide)]
  split_ifs with hlayers hcfg hbase
  · exact ⟨.layers, rfl, hlayers⟩
  · exact ⟨.config, rfl, hcfg⟩
  · exact ⟨.proxying, rfl, hbase⟩
  · rcases hsome with ⟨src, hsrc⟩
    cases src with
    | store => cases hsrc
    | proxying => exact absurd hsrc hbase
    | config => exact absurd hsrc hcfg
    | layers => exact absurd hsrc hlayers

/-! ## What it serves -/

/-- The layers of an image have names and can be fetched. -/
def Named (w : World) (ref : String) : Prop :=
  ∀ base desc, baseManifest w ref = some (base, desc) → ∀ l ∈ base.layers, l.digest ≠ ""

theorem fetch_layer (m : Modified sources spec) {l : Descriptor} (hl : l ∈ m.base.layers) :
    ∃ content, w.fetch spec.baseRef l = some content ∧ w.digestFromBytes content = l.digest := by
  rcases Option.bind_eq_some_iff.mp m.manifest_eq with ⟨desc, hresolve, hmap⟩
  rcases Option.map_eq_some_iff.mp hmap with ⟨⟨manifest, rdesc, toStore⟩, hdownload, heq⟩
  cases heq
  have hfetch := w.layersExist _ _ _ _ _ hresolve hdownload l hl
  rcases Option.isSome_iff_exists.mp hfetch with ⟨content, hcontent⟩
  exact ⟨content, hcontent, w.contentAddressed _ _ _ hcontent⟩

/-- Whichever source serves it, it is what the digest stands for. -/
theorem sourceBlob_delivers (h : Sound sources specs r) (m : Modified sources spec)
    (hnamed : Named w spec.baseRef) {entries : List (Entry w)}
    (hview : sources.view spec = some entries) {dgst : String} {src : Replica.BlobSource}
    (hhas : m.has entries dgst src = true) :
    ∃ blob, (r.sourceBlob spec m.base dgst src).1 = some blob ∧ Delivers w spec dgst blob := by
  cases src with
  | store => cases hhas
  | proxying =>
      rcases List.any_eq_true.mp hhas with ⟨l, hl, hdigest⟩
      have hmem : dgst ∈ m.base.layers.map Descriptor.digest :=
        List.mem_map.mpr ⟨l, hl, of_decide_eq_true hdigest⟩
      cases hfind : findKey Descriptor.digest dgst m.base.layers with
      | none => exact absurd hmem (findKey_eq_none_iff.mp hfind)
      | some l' =>
          rcases mem_of_findKey hfind with ⟨hl', hdigest'⟩
          rcases fetch_layer m hl' with ⟨content, hfetch, hcontent⟩
          have hne := hnamed m.base m.desc m.manifest_eq l' hl'
          refine ⟨⟨l'.mediaType, "", some content⟩, ?_,
            .inl ⟨content, rfl, hcontent.trans hdigest'⟩⟩
          rw [Replica.sourceBlob, hfind, Option.bind_some, if_neg hne, hfetch]
          rfl
  | config =>
      have hdgst : m.manifest.config.digest = dgst := of_decide_eq_true hhas
      have hconfig := sourceBlob_config_fst h m
      rw [hdgst] at hconfig
      exact ⟨_, hconfig, .inl ⟨_, rfl, hdgst⟩⟩
  | layers =>
      rcases List.any_eq_true.mp hhas with ⟨e, he, hdigest⟩
      have hgot := CompositeLayerSource.getBlob_fst dgst (view_sources h hview)
      rcases exists_findKey he with ⟨e', he', hfind, hsame⟩
      rw [of_decide_eq_true hdigest] at hfind hsame
      rcases delivers_of_entry hview he' with ⟨blob, hblob, hdelivers⟩
      rw [hsame] at hdelivers
      refine ⟨blob, ?_, hdelivers⟩
      rw [Replica.sourceBlob]
      rcases hget : r.sources.getBlob spec dgst with ⟨res, src⟩
      rw [hget, hfind, Option.bind_some, hblob] at hgot
      exact hgot

/-- Every blob that the manifest names is one that some source has. -/
theorem exists_has (m : Modified sources spec) {entries : List (Entry w)}
    (hview : sources.view spec = some entries) {desc : Descriptor}
    (hdesc : desc ∈ m.manifest.config :: m.manifest.layers) :
    ∃ src, m.has entries desc.digest src = true := by
  rcases List.mem_cons.mp hdesc with rfl | hdesc
  · exact ⟨.config, decide_eq_true rfl⟩
  · rcases List.mem_append.mp hdesc with hbase | hadded
    · exact ⟨.proxying, List.any_eq_true.mpr ⟨desc, hbase, decide_eq_true rfl⟩⟩
    · rcases List.mem_map.mp hadded with ⟨l, hl, rfl⟩
      rcases CompositeLayerSource.mem_getLayer m.layers_eq with ⟨entries', hview', hmem⟩
      rcases (hmem l).mp hl with ⟨e, he, rfl⟩
      have hsame : entries' = entries := Option.some.inj (hview'.symm.trans hview)
      exact ⟨.layers, List.any_eq_true.mpr ⟨e, hsame ▸ he, decide_eq_true rfl⟩⟩

/-- If a replica serves a manifest, then every replica serves the config and all layers that the
    manifest names, whatever the two have handled before. The requests of one pull may reach
    different replicas, so this is what a pull needs in order to come to its end. -/
theorem pull_complete (sources : CompositeLayerSource w) (spec : ImageSpec)
    (hnamed : Named w spec.baseRef) (here there : List Request)
    (hfree : CollisionFree sources (spec :: (here ++ there).flatMap Request.specs))
    (accepted : List String) (written : Writes) (resp : Response)
    (hresp : ((Replica.after sources here).getManifest spec accepted written).1 = some resp) :
    ∃ manifest, resp.manifest = some manifest ∧
      ∀ desc ∈ manifest.config :: manifest.layers, ∀ written, ∃ blob,
        ((Replica.after sources there).getBlob spec desc.digest written).1 = some blob ∧
          Delivers w spec desc.digest blob := by
  rcases sound_after_both sources spec here there with ⟨hspec, hhere, hthere⟩
  rcases getManifest_eq_some hfree hhere hspec hresp with ⟨m, rfl, rdesc, hresolve, hfetch⟩
  refine ⟨m.manifest, rfl, fun desc hdesc written => ?_⟩
  rcases CompositeLayerSource.mem_getLayer m.layers_eq with ⟨entries, hview, -⟩
  have hdownload := downloadManifest_fst hfree hthere hspec hresolve hfetch written
  have hsound := sound_downloadManifest hthere hspec written
  rw [Replica.getBlob]
  rcases heq : (Replica.after sources there).downloadManifest spec.baseRef written with ⟨res, r⟩
  rw [heq, m.manifest_eq] at hdownload
  rw [heq] at hsound
  rw [show res = some (m.base, m.desc) from hdownload]
  rcases findSource_fst hsound m hview (exists_has m hview hdesc) with ⟨src, hsrc, hhas⟩
  have hfound := sound_findSource hsound spec m.base desc.digest
  dsimp only
  rcases hfind : r.findSource spec m.base desc.digest with ⟨found, r'⟩
  rw [hfind] at hsrc hfound
  rw [show found = some src from hsrc]
  exact sourceBlob_delivers hfound m hnamed hview hhas

theorem named_exampleWorld : Named exampleWorld "alpine" := by
  intro base desc hmanifest l hl
  have hbase : baseManifest exampleWorld "alpine" =
      some (_, exampleDescriptor "application/vnd.oci.image.manifest.v1+json" [1]) := rfl
  rw [hmanifest, Option.some.injEq, Prod.mk.injEq] at hbase
  rw [hbase.1, List.mem_singleton] at hl
  rw [hl]
  decide

/-- A replica that was just started serves what another one has announced. -/
theorem pull_complete_example :
    ∃ resp manifest, ((Replica.after exampleSources []).getManifest exampleSpec
        ["application/vnd.oci.image.manifest.v1+json"] ⟨true, true⟩).1 = some resp ∧
      resp.manifest = some manifest ∧ ∀ desc ∈ manifest.config :: manifest.layers,
        ∃ blob, ((Replica.after exampleSources [.restart]).getBlob exampleSpec desc.digest true).1 =
            some blob ∧ Delivers exampleWorld exampleSpec desc.digest blob := by
  have hserved : ((Replica.after exampleSources []).getManifest exampleSpec
      ["application/vnd.oci.image.manifest.v1+json"] ⟨true, true⟩).1.isSome = true := rfl
  rcases Option.isSome_iff_exists.mp hserved with ⟨resp, hresp⟩
  rcases pull_complete exampleSources exampleSpec named_exampleWorld [] [.restart]
    (collisionFree_exampleWorld _ _) _ _ resp hresp with ⟨manifest, hmanifest, hblobs⟩
  exact ⟨resp, manifest, hresp, hmanifest, fun desc hdesc => hblobs desc hdesc true⟩

end RegistryFacade

end Nxpod
