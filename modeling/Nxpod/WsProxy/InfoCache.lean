import Nxpod.Library.Index
import Nxpod.Library.Map
import Nxpod.Library.Transition
import Nxpod.WsProxy.Auth

/-!
# The Workspace Info Cache

`workspaceInfoCache` of ws-proxy: the workspaces that run, by ID, and beside
them an index from public ports to the workspace and the workspace port a
public port leads to. The proxy routes by this index.

`doInsert` writes the coordinates of the IDE port and of the exposed ports of
a workspace. It removes nothing, so the public ports that the workspace had
before and does not have any more stay in the index, and it does not look
whether a port is empty. `delete` removes the entry of the IDE port and leaves
those of the exposed ports. The index is exact for as long as infos come with
ports that are not empty, keep the ports their workspace had, and are deleted
without exposed ports.

The statements are about infos in which a public port belongs to one workspace
at a time. The empty string is no port, and any number of workspaces can have
it.

## Main definitions

* `WorkspaceCoords`, `WorkspaceInfoCache`: The data.
* `reinit`, `insert`, `delete`: The source's methods.
* `publicPorts`, `coordsEntries`: The ports of a workspace, and where they lead.
* `IndexExact`: The index is what it should be.
* `OneOwner`, `OneOwnerDuring`: A public port belongs to one workspace.
* `CacheOp`: An operation on the cache.
* `KeepsIndex`: An operation that leaves an exact index exact.

## Theorems

* `put_doInsert`, `drop_delete`: What the operations do to the index.
* `indexExact_reinit_iff`: Rebuilding the cache from a list of infos.
* `indexExact_cacheStep_iff`: One operation on an exact index.
* `indexExact_stepsAlong_iff`: Whole runs.
* `stale_port_after_delete`: An exposed port outlives its workspace.
-/

namespace Nxpod

namespace WsProxy

open Transition WsManager

/-- Where a public port leads: a workspace, and a port of it unless it is the
    IDE's. -/
structure WorkspaceCoords where
  id : String
  port : String := ""
  deriving DecidableEq

/-- The cache. Every info is stored under its own ID. -/
structure WorkspaceInfoCache where
  infos : Map String WorkspaceInfo
  coordsByPublicPort : Map String WorkspaceCoords
  id_of_lookup : ∀ id info, infos.lookup id = some info → info.id = id

/-- Nothing is known, and no port leads anywhere. -/
def newWorkspaceInfoCache : WorkspaceInfoCache where
  infos := ∅
  coordsByPublicPort := ∅
  id_of_lookup _ _ h := absurd h (by simp only [AList.lookup_empty, reduceCtorEq,
    not_false_eq_true])

/-- The coordinates of an exposed port. -/
def portCoords (info : WorkspaceInfo) (p : PortInfo) : String × WorkspaceCoords :=
  (p.publicPort, { id := info.id, port := toString p.portSpec.port.toNat })

/-- The coordinates of all ports of a workspace, the IDE's first. -/
def coordsEntries (info : WorkspaceInfo) : List (String × WorkspaceCoords) :=
  (info.idePublicPort, { id := info.id }) :: info.ports.map (portCoords info)

/-- The public ports of a workspace, the IDE's first. -/
def publicPorts (info : WorkspaceInfo) : List String :=
  info.idePublicPort :: info.ports.map PortInfo.publicPort

theorem coordsEntries_keys (info : WorkspaceInfo) :
    (coordsEntries info).map Prod.fst = publicPorts info := by
  rw [coordsEntries, publicPorts, List.map_cons, List.map_map]
  rfl

namespace WorkspaceInfoCache

variable (c : WorkspaceInfoCache)

/-- An info takes the place of the one before, and its ports are written over
    what the index has for them. -/
def doInsert (info : WorkspaceInfo) : WorkspaceInfoCache where
  infos := c.infos.insert info.id info
  coordsByPublicPort :=
    Map.insertAll (c.coordsByPublicPort.insert info.idePublicPort { id := info.id })
      (info.ports.map (portCoords info))
  id_of_lookup id info' h := by
    rw [Map.lookup_insert_eq_ite] at h
    split_ifs at h with hid
    · rw [← Option.some.inj h, hid]
    · exact c.id_of_lookup id info' h

/-- An info comes in. -/
def insert (info : WorkspaceInfo) : WorkspaceInfoCache :=
  c.doInsert info

/-- Start over, with a list of infos. -/
def reinit (infos : List WorkspaceInfo) : WorkspaceInfoCache :=
  infos.foldl doInsert newWorkspaceInfoCache

/-- A workspace goes, and with it the entry of the port of its IDE. -/
def delete (workspaceID : String) : WorkspaceInfoCache :=
  match c.infos.lookup workspaceID with
  | none => c
  | some info =>
      { infos := c.infos.erase workspaceID
        coordsByPublicPort := c.coordsByPublicPort.erase info.idePublicPort
        id_of_lookup := fun id info' h => by
          rw [Map.lookup_erase_eq_ite] at h
          split_ifs at h
          exact c.id_of_lookup id info' h }

/-- The cache as a table of infos with an index of public ports. -/
def toIndexed : Indexed String WorkspaceInfo String WorkspaceCoords where
  rows id := c.infos.lookup id
  index port := c.coordsByPublicPort.lookup port

/-- The index has the non-empty public ports of the workspaces in `infos`,
    each with coordinates that one of these workspaces has for it, and it has
    no other port. -/
def IndexExact : Prop :=
  c.toIndexed.Exact coordsEntries (· ≠ "")

/-- A non-empty public port belongs to one workspace at most. -/
def OneOwner : Prop :=
  ∀ info ∈ Map.values c.infos, ∀ info' ∈ Map.values c.infos, ∀ port ∈ publicPorts info,
    port ≠ "" → port ∈ publicPorts info' → info.id = info'.id

instance : Decidable c.OneOwner :=
  inferInstanceAs (Decidable (∀ info ∈ Map.values c.infos, ∀ info' ∈ Map.values c.infos,
    ∀ port ∈ publicPorts info, port ≠ "" → port ∈ publicPorts info' → info.id = info'.id))

variable {c}

/-- Inserting is what the general index calls putting. -/
theorem put_doInsert (info : WorkspaceInfo) :
    Indexed.Put coordsEntries info.id info c.toIndexed (c.doInsert info).toIndexed := by
  have hindex : (c.doInsert info).coordsByPublicPort =
      Map.insertAll c.coordsByPublicPort (coordsEntries info) := rfl
  refine ⟨AList.lookup_insert _, fun id hid => AList.lookup_insert_ne hid, ?_, ?_⟩
  · intro port hport
    simp only [toIndexed, hindex]
    exact Map.lookup_insertAll_mem _ _ _ hport
  · intro port hport
    simp only [toIndexed, hindex]
    exact Map.lookup_insertAll_of_not_mem _ _ _ hport

theorem drop_delete {id : String} {info : WorkspaceInfo} (h : c.infos.lookup id = some info) :
    Indexed.Drop id (· = info.idePublicPort) c.toIndexed (c.delete id).toIndexed := by
  rw [delete]
  split
  · next hnone => exact absurd (h.symm.trans hnone) (Option.some_ne_none info)
  · next info' hinfo' =>
      rw [h, Option.some.injEq] at hinfo'
      subst hinfo'
      exact ⟨AList.lookup_erase _ _, fun j hj => AList.lookup_erase_ne hj,
        fun port hport => by rw [toIndexed, hport]; exact AList.lookup_erase _ _,
        fun port hport => AList.lookup_erase_ne hport⟩

/-- A workspace owns a port if it is among those it exposes. -/
theorem owns_iff {id port : String} :
    (∃ coords, c.toIndexed.Owns coordsEntries id port coords) ↔
      ∃ info, c.infos.lookup id = some info ∧ port ∈ publicPorts info := by
  constructor
  · rintro ⟨coords, info, hinfo, hmem⟩
    exact ⟨info, hinfo, coordsEntries_keys info ▸ List.mem_map_of_mem hmem⟩
  · rintro ⟨info, hinfo, hport⟩
    rw [← coordsEntries_keys, List.mem_map] at hport
    rcases hport with ⟨⟨_, coords⟩, hmem, rfl⟩
    exact ⟨coords, info, hinfo, hmem⟩

theorem unambiguous_of_oneOwner (h : c.OneOwner) :
    c.toIndexed.Unambiguous coordsEntries (· ≠ "") := by
  intro id id' port v w hport hid hid'
  rcases owns_iff.mp ⟨v, hid⟩ with ⟨info, hinfo, hmem⟩
  rcases owns_iff.mp ⟨w, hid'⟩ with ⟨info', hinfo', hmem'⟩
  rw [← c.id_of_lookup id info hinfo, ← c.id_of_lookup id' info' hinfo']
  exact h info ((Map.mem_values_iff _ _).mpr ⟨id, hinfo⟩) info'
    ((Map.mem_values_iff _ _).mpr ⟨id', hinfo'⟩) port hmem hport hmem'

/-- An info is found under its ID, and the others as before. -/
theorem lookup_infos_insert (info : WorkspaceInfo) (id : String) :
    (c.insert info).infos.lookup id = if id = info.id then some info else c.infos.lookup id :=
  Map.lookup_insert_eq_ite _ _ _ _

theorem lookup_infos_delete (workspaceID id : String) :
    (c.delete workspaceID).infos.lookup id =
      if id = workspaceID then none else c.infos.lookup id := by
  rw [delete]
  split
  · next hnone =>
      split_ifs with hid
      · rw [hid, hnone]
      · rfl
  · exact Map.lookup_erase_eq_ite _ _ _

/-! ## Rebuilding the cache -/

/-- Every public port belongs to one workspace while a list of infos is
    inserted, one after the other. -/
def OneOwnerThroughout : List WorkspaceInfo → WorkspaceInfoCache → Prop
  | [], c => c.OneOwner
  | info :: infos, c => c.OneOwner ∧ OneOwnerThroughout infos (c.doInsert info)

instance decidableOneOwnerThroughout :
    ∀ infos c, Decidable (OneOwnerThroughout infos c)
  | [], c => inferInstanceAs (Decidable c.OneOwner)
  | info :: infos, c =>
      have := decidableOneOwnerThroughout infos (c.doInsert info)
      inferInstanceAs (Decidable (c.OneOwner ∧ OneOwnerThroughout infos (c.doInsert info)))

/-- The last info of a list for each workspace. -/
def latestInfos (infos : List WorkspaceInfo) : Map String WorkspaceInfo :=
  Map.insertAll ∅ (infos.map fun info => (info.id, info))

/-- Of several infos for one workspace the last one counts. -/
theorem infos_foldl_doInsert (infos : List WorkspaceInfo) (c : WorkspaceInfoCache) :
    (infos.foldl doInsert c).infos =
      Map.insertAll c.infos (infos.map fun info => (info.id, info)) := by
  induction infos generalizing c with
  | nil => rfl
  | cons info infos ih => exact ih (c.doInsert info)

theorem coords_foldl_doInsert (infos : List WorkspaceInfo) (c : WorkspaceInfoCache) :
    (infos.foldl doInsert c).coordsByPublicPort =
      Map.insertAll c.coordsByPublicPort (infos.flatMap coordsEntries) := by
  induction infos generalizing c with
  | nil => rfl
  | cons info infos ih =>
      rw [List.flatMap_cons, Map.insertAll_append]
      exact ih (c.doInsert info)

/-- Nothing is missing from the index, whatever is inserted. -/
theorem complete_foldl_doInsert (infos : List WorkspaceInfo) (c : WorkspaceInfoCache)
    (hone : OneOwnerThroughout infos c) (hc : c.toIndexed.Complete coordsEntries (· ≠ "")) :
    (infos.foldl doInsert c).toIndexed.Complete coordsEntries (· ≠ "") := by
  induction infos generalizing c with
  | nil => exact hc
  | cons info infos ih =>
      exact ih (c.doInsert info) hone.2
        (Indexed.complete_put (put_doInsert info) hc (unambiguous_of_oneOwner hone.1))

theorem complete_newWorkspaceInfoCache :
    newWorkspaceInfoCache.toIndexed.Complete coordsEntries (· ≠ "") := by
  rintro id port coords _ ⟨info, hinfo, _⟩
  exact absurd hinfo (by simp only [newWorkspaceInfoCache, toIndexed, AList.lookup_empty,
    reduceCtorEq, not_false_eq_true])

/-- Rebuilding gives an exact index if and only if no listed port is empty and
    each still belongs to the last info of some workspace. -/
theorem indexExact_reinit_iff (infos : List WorkspaceInfo)
    (hone : OneOwnerThroughout infos newWorkspaceInfoCache) :
    (reinit infos).IndexExact ↔
      ∀ info ∈ infos, ∀ port ∈ publicPorts info, port ≠ "" ∧
        ∃ info' ∈ Map.values (latestInfos infos), port ∈ publicPorts info' := by
  have hcomplete := complete_foldl_doInsert infos newWorkspaceInfoCache hone
    complete_newWorkspaceInfoCache
  have hkeys : ∀ port, (∃ coords, (reinit infos).toIndexed.index port = some coords) ↔
      ∃ info ∈ infos, port ∈ publicPorts info := by
    intro port
    rw [← Option.ne_none_iff_exists', toIndexed, reinit, coords_foldl_doInsert,
      Map.isSome_lookup_insertAll, List.map_flatMap, List.mem_flatMap]
    simp only [coordsEntries_keys, newWorkspaceInfoCache, AList.lookup_empty, ne_eq,
      not_true_eq_false, or_false]
  -- The owner of a port is a workspace whose last info has it.
  have howner : ∀ port, (∃ id coords, (reinit infos).toIndexed.Owns coordsEntries id port coords) ↔
      ∃ info' ∈ Map.values (latestInfos infos), port ∈ publicPorts info' := by
    intro port
    simp only [owns_iff, reinit, infos_foldl_doInsert, latestInfos, Map.mem_values_iff]
    exact ⟨fun ⟨id, info, h, hport⟩ => ⟨info, ⟨id, h⟩, hport⟩,
      fun ⟨info, ⟨id, h⟩, hport⟩ => ⟨id, info, h, hport⟩⟩
  rw [IndexExact, reinit, Indexed.exact_iff_of_complete hcomplete]
  constructor
  · intro h info hinfo port hport
    rcases (hkeys port).mpr ⟨info, hinfo, hport⟩ with ⟨coords, hcoords⟩
    rcases h port coords hcoords with ⟨hreal, howns⟩
    exact ⟨hreal, (howner port).mp howns⟩
  · intro h port coords hcoords
    rcases (hkeys port).mp ⟨coords, hcoords⟩ with ⟨info, hinfo, hport⟩
    rcases h info hinfo port hport with ⟨hreal, hlatest⟩
    exact ⟨hreal, (howner port).mpr hlatest⟩

/-! ## Whole runs -/

/-- An operation on the cache. -/
inductive CacheOp where
  | reinit (infos : List WorkspaceInfo)
  | insert (info : WorkspaceInfo)
  | delete (workspaceID : String)

/-- The cache after an operation. -/
def cacheStep (c : WorkspaceInfoCache) : CacheOp → Option WorkspaceInfoCache
  | .reinit infos => some (WorkspaceInfoCache.reinit infos)
  | .insert info => some (c.insert info)
  | .delete workspaceID => some (c.delete workspaceID)

/-- Before and after an operation, and between the insertions of a `reinit`, a
    public port belongs to one workspace. -/
def OneOwnerDuring (c : WorkspaceInfoCache) : CacheOp → Prop
  | .reinit infos => OneOwnerThroughout infos newWorkspaceInfoCache
  | .insert info => OneOwnerThroughout [info] c
  | .delete _ => c.OneOwner

/-- An operation that leaves an exact index exact. An insertion brings no
    empty port and has the ports the workspace had before; a workspace is
    deleted without exposed ports; a list of infos to start from has no empty
    port, and no port that its workspace does not have in the end. -/
def KeepsIndex (c : WorkspaceInfoCache) : CacheOp → Prop
  | .reinit infos => ∀ info ∈ infos, ∀ port ∈ publicPorts info, port ≠ "" ∧
      ∃ info' ∈ Map.values (latestInfos infos), port ∈ publicPorts info'
  | .insert info => (∀ port ∈ publicPorts info, port ≠ "") ∧
      ∀ old, c.infos.lookup info.id = some old →
        ∀ port ∈ publicPorts old, port ≠ "" → port ∈ publicPorts info
  | .delete workspaceID => ∀ old, c.infos.lookup workspaceID = some old →
      ∀ port ∈ publicPorts old, port ≠ "" → port = old.idePublicPort

instance (c : WorkspaceInfoCache) : ∀ op, Decidable (OneOwnerDuring c op)
  | .reinit infos => inferInstanceAs (Decidable (OneOwnerThroughout infos newWorkspaceInfoCache))
  | .insert info => inferInstanceAs (Decidable (OneOwnerThroughout [info] c))
  | .delete _ => inferInstanceAs (Decidable c.OneOwner)

instance (c : WorkspaceInfoCache) : ∀ op, Decidable (KeepsIndex c op)
  | .reinit infos => inferInstanceAs (Decidable (∀ info ∈ infos, ∀ port ∈ publicPorts info,
      port ≠ "" ∧ ∃ info' ∈ Map.values (latestInfos infos), port ∈ publicPorts info'))
  | .insert info => inferInstanceAs (Decidable ((∀ port ∈ publicPorts info, port ≠ "") ∧
      ∀ old ∈ c.infos.lookup info.id, ∀ port ∈ publicPorts old, port ≠ "" →
        port ∈ publicPorts info))
  | .delete workspaceID => inferInstanceAs (Decidable (∀ old ∈ c.infos.lookup workspaceID,
      ∀ port ∈ publicPorts old, port ≠ "" → port = old.idePublicPort))

theorem indexExact_insert_iff (info : WorkspaceInfo) (hone : c.OneOwner) (hc : c.IndexExact) :
    (c.insert info).IndexExact ↔ KeepsIndex c (.insert info) := by
  rw [IndexExact, insert, Indexed.exact_put_iff (put_doInsert info) hc
    (unambiguous_of_oneOwner hone), coordsEntries_keys, KeepsIndex]
  refine and_congr_right fun _ => ⟨fun h old hold port hport hreal => ?_,
    fun h port coords hreal howns => ?_⟩
  · rcases owns_iff.mpr ⟨old, hold, hport⟩ with ⟨coords, howns⟩
    exact h port coords hreal howns
  · rcases owns_iff.mp ⟨coords, howns⟩ with ⟨old, hold, hport⟩
    exact h old hold port hport hreal

theorem indexExact_delete_iff (workspaceID : String) (hone : c.OneOwner) (hc : c.IndexExact) :
    (c.delete workspaceID).IndexExact ↔ KeepsIndex c (.delete workspaceID) := by
  rw [KeepsIndex]
  cases hold : c.infos.lookup workspaceID with
  | none =>
      have hsame : c.delete workspaceID = c := by
        rw [delete]
        split
        · rfl
        · next info hinfo => exact absurd (hinfo.symm.trans hold) (Option.some_ne_none info)
      rw [hsame]
      exact iff_of_true hc fun old h => absurd h (by simp only [reduceCtorEq, not_false_eq_true])
  | some info =>
      have hide : ∀ port, port = info.idePublicPort →
          ∃ coords, c.toIndexed.Owns coordsEntries workspaceID port coords := by
        rintro port rfl
        exact owns_iff.mpr ⟨info, hold, List.mem_cons_self⟩
      rw [IndexExact, Indexed.exact_drop_iff (drop_delete hold) hc
        (unambiguous_of_oneOwner hone) hide]
      simp only [Option.some.injEq, forall_eq']
      constructor
      · intro h port hport hreal
        rcases owns_iff.mpr ⟨info, hold, hport⟩ with ⟨coords, howns⟩
        exact h port coords hreal howns
      · intro h port coords hreal howns
        rcases owns_iff.mp ⟨coords, howns⟩ with ⟨info', hinfo', hport⟩
        rw [hold, Option.some.injEq] at hinfo'
        exact h port (hinfo' ▸ hport) hreal

/-- One operation on an exact index. -/
theorem indexExact_cacheStep_iff {c' : WorkspaceInfoCache} {op : CacheOp} (hc : c.IndexExact)
    (hone : OneOwnerDuring c op) (h : cacheStep c op = some c') :
    c'.IndexExact ↔ KeepsIndex c op := by
  cases op with
  | reinit infos => rw [← Option.some.inj h]; exact indexExact_reinit_iff infos hone
  | insert info => rw [← Option.some.inj h]; exact indexExact_insert_iff info hone.1 hc
  | delete workspaceID => rw [← Option.some.inj h]; exact indexExact_delete_iff workspaceID hone hc

theorem indexExact_newWorkspaceInfoCache : newWorkspaceInfoCache.IndexExact :=
  ⟨complete_newWorkspaceInfoCache, fun port _ h => absurd h (by
    simp only [newWorkspaceInfoCache, toIndexed, AList.lookup_empty, reduceCtorEq,
      not_false_eq_true])⟩

/-- In a run of operations during which a public port belongs to one workspace
    at a time, the index is exact after every operation if and only if every
    operation keeps it. By the index a request for a port finds its workspace,
    so an entry that is left over leads it to another one. -/
theorem indexExact_stepsAlong_iff (ops : List CacheOp)
    (hone : MeetsAlong cacheStep OneOwnerDuring ops newWorkspaceInfoCache) :
    StepsAlong cacheStep (fun _ _ c => c.IndexExact) ops newWorkspaceInfoCache ↔
      MeetsAlong cacheStep KeepsIndex ops newWorkspaceInfoCache :=
  stepsAlong_good_iff_meetsAlong_of
    (fun _ _ _ hc hone h => indexExact_cacheStep_iff hc hone h) ops newWorkspaceInfoCache hone
    indexExact_newWorkspaceInfoCache

/-- A workspace that gains a port, and then another one that comes and goes
    with its IDE port alone. -/
theorem indexExact_stepsAlong_iff_growing :
    StepsAlong cacheStep (fun _ _ c => c.IndexExact)
      [.reinit [⟨"ws", "i", "", "4000", [], none⟩],
        .insert ⟨"ws", "i", "", "4000", [⟨⟨3000, .portVisibilityPublic, ""⟩, "4001"⟩], none⟩,
        .insert ⟨"other", "j", "", "5000", [], none⟩, .delete "other"]
      newWorkspaceInfoCache :=
  (indexExact_stepsAlong_iff _ (by decide +kernel)).mpr (by decide +kernel)

/-- An exposed port outlives the workspace that exposed it. -/
theorem stale_port_after_delete :
    ¬ ∀ ops : List CacheOp, MeetsAlong cacheStep OneOwnerDuring ops newWorkspaceInfoCache →
      StepsAlong cacheStep (fun _ _ c => c.IndexExact) ops newWorkspaceInfoCache := by
  intro hall
  have hexact := (hall [.insert ⟨"ws", "i", "", "4000",
    [⟨⟨3000, .portVisibilityPublic, ""⟩, "4001"⟩], none⟩, .delete "ws"] (by decide +kernel)).2.1
  rcases (hexact.sound "4001" ⟨"ws", "3000"⟩ (by decide +kernel)).2 with ⟨id, info, hinfo, _⟩
  -- no workspace is left
  have hbad : ((newWorkspaceInfoCache.insert ⟨"ws", "i", "", "4000",
      [⟨⟨3000, .portVisibilityPublic, ""⟩, "4001"⟩], none⟩).delete "ws").infos.lookup id =
        none := by
    rw [AList.lookup_eq_none]
    have hkeys : ((newWorkspaceInfoCache.insert ⟨"ws", "i", "", "4000",
        [⟨⟨3000, .portVisibilityPublic, ""⟩, "4001"⟩], none⟩).delete "ws").infos.keys = [] := by
      decide +kernel
    rw [AList.mem_keys, hkeys]
    exact List.not_mem_nil
  exact absurd (hinfo.symm.trans hbad) (Option.some_ne_none info)

end WorkspaceInfoCache

end WsProxy

end Nxpod
