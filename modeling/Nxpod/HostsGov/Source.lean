import Mathlib.Data.Finset.Basic
import Nxpod.Library.Transition
import Nxpod.Library.View

/-!
# Sources of Hosts

A source gives the addresses behind a host name. It lists the objects of the cluster once and
publishes the addresses it finds, and then watches the objects and publishes again on every event.
When the watch is lost it starts another one.

The two sources of the node differ in what they read off an object: pods and services. `Reader` is
this difference, and what is common is here. A source reads the entries of an object in one way when
it lists and in another way on an event, and it takes out the keys that a deleted object stands for.
Some objects are skipped.

A watch tells of every object there is as if it had been added, then of the changes. What happens
while there is no watch is not told.

## Main definitions

* `Reader`: What a source makes of an object.
* `Source`, `handle`, `step`: A source, an event, and the cluster with both.
* `EventType`: The types an event can have.
* `Action`: Objects are there or changed, or gone.
* `InStep`: What the source remembers is what the cluster has.
* `Told`: What is done to the cluster gets to the source.

## Theorems

* `published_step`: What is published is what is remembered.
* `inStep_step_iff`, `inStep_iff_told`: One step, and every step of a run.
* `published_start_eq`, `published_of_told`: What is published.
-/

namespace Nxpod

namespace HostsGov

open Transition View

variable {α : Type*}

/-- Keys and addresses. An object of the cluster is known by its name, and its keys are its own. -/
structure Reader (α : Type*) where
  name : α → String
  skips : α → Bool
  listed : α → List (String × String)
  addresses : α → List (String × String)
  removes : α → String → Bool
  reconnects : Bool
  own_keys : ∀ o o' key value value', (key, value) ∈ addresses o → (key, value') ∈ addresses o' →
    name o = name o'
  one_value : ∀ o key value value', (key, value) ∈ addresses o → (key, value') ∈ addresses o →
    value = value'
  removes_own : ∀ o o' key value, name o = name o' → (key, value) ∈ addresses o →
    removes o' key = true

namespace Reader

/-- What an object is remembered by, if it is not skipped. -/
def wanted (r : Reader α) (o : α) : List (String × String) :=
  if r.skips o then [] else r.addresses o

theorem mem_addresses {r : Reader α} {o : α} {entry : String × String} (h : entry ∈ r.wanted o) :
    entry ∈ r.addresses o := by
  rw [wanted] at h
  split at h
  · exact absurd h List.not_mem_nil
  · exact h

/-- A reader as the general view has it, with what every object adds. -/
def contribution (r : Reader α) : Contribution α String String String where
  name := r.name
  entries := r.wanted
  same o o' key value value' h h' :=
    r.own_keys o o' key value value' (mem_addresses h) (mem_addresses h')
  only o key value value' h h' :=
    r.one_value o key value value' (mem_addresses h) (mem_addresses h')

end Reader

/-- The objects there are, with one for each name. -/
abbrev Cluster (r : Reader α) :=
  Objects r.contribution.name

/-- The addresses of a cluster, without repetitions. -/
def clusterAddresses {r : Reader α} (cluster : Cluster r) : Finset String :=
  ((cluster.list.flatMap r.wanted).map Prod.snd).toFinset

/-- Whether there is a watch. One that was closed without a word is waited for in a loop. -/
inductive Link
  | starting
  | watching
  | lost
  | spinning
  deriving DecidableEq

/-- A source with what it remembers and what it has published, and the cluster that it reads. -/
structure Source (r : Reader α) where
  cluster : Cluster r
  hosts : Map String String
  published : Finset String
  link : Link

/-- The types an event can have. -/
inductive EventType
  | added
  | modified
  | deleted
  | bookmark
  | error
  | empty

namespace Source

variable {r : Reader α}

/-- The addresses, each once and in any order. -/
def publish (s : Source r) (hosts : Map String String) : Source r :=
  { s with
    hosts := hosts
    published := (Map.values hosts).toFinset }

/-- An event of a watch, where the object may be of a type that is not expected. The events of a
channel that was closed have an empty type. -/
def handle (s : Source r) : EventType → Option α → Source r
  | .added, some o | .modified, some o =>
      if r.skips o then s else s.publish (Map.insertAll s.hosts (r.addresses o))
  | .deleted, some o =>
      s.publish (Map.eraseAll s.hosts (s.hosts.keys.filter fun key => r.removes o key))
  | .error, _ => { s with link := .lost }
  | .empty, _ => { s with link := if r.reconnects then .lost else .spinning }
  | _, _ => s

/-- What is listed is published, and then there is to be a watch. -/
def start (cluster : Cluster r) : Source r :=
  publish ⟨cluster, ∅, ∅, .starting⟩
    (Map.insertAll ∅ ((cluster.list.filter fun o => !r.skips o).flatMap r.listed))

end Source

/-- Objects are there or changed, or gone. A watch begins, and tells of something that no object
comes with. -/
inductive Action (α : Type*)
  | put (o : α)
  | remove (name : String)
  | watch
  | tell (type : EventType)

namespace Source

variable {r : Reader α}

/-- What is told to a source that watches. -/
def told (s : Source r) (type : EventType) (o : α) : Source r :=
  if s.link = .watching then s.handle type (some o) else s

/-- An object changes, a watch begins, or the watch says something of its own. -/
def step (s : Source r) : Action α → Option (Source r)
  | .put o =>
      let type := if s.cluster.list.any fun old => r.name old = r.name o then .modified else .added
      some (told { s with cluster := s.cluster.put o } type o)
  | .remove name => match s.cluster.list.find? fun o => r.name o = name with
    | none => none
    | some o => some (told { s with cluster := s.cluster.remove name } .deleted o)
  | .watch =>
      if s.link = .starting ∨ s.link = .lost then
        some (s.cluster.list.foldl (fun s o => s.handle .added (some o))
          { s with link := .watching })
      else none
  | .tell type => if s.link = .watching then some (s.handle type none) else none

/-- The source watches, or believes that it does. -/
def inTouch (s : Source r) : Prop :=
  s.link = .watching ∨ s.link = .spinning

instance (s : Source r) : Decidable s.inTouch :=
  instDecidableOr

/-- What a source that is in touch remembers is what the cluster has. -/
def InStep (s : Source r) : Prop :=
  s.inTouch → Agrees r.contribution s.cluster s.hosts

/-- The two clusters have the same to say. -/
def SameEntries (cluster cluster' : Cluster r) : Prop :=
  (∀ entry ∈ cluster'.list.flatMap r.wanted, entry ∈ cluster.list.flatMap r.wanted) ∧
    ∀ entry ∈ cluster.list.flatMap r.wanted, entry ∈ cluster'.list.flatMap r.wanted

instance (cluster cluster' : Cluster r) : Decidable (SameEntries cluster cluster') :=
  instDecidableAnd

/-- Objects keep their keys, unless nobody is watching. No key of another object is removed with an
object. When a watch begins, every key that is remembered is one that an object has. No entry
changes any more once the channel was closed and this was not noticed. -/
def Told (s : Source r) : Action α → Prop
  | .put o =>
      (s.link = .watching → ∀ old ∈ s.cluster.list, r.name old = r.name o →
        ∀ entry ∈ r.wanted old, entry.1 ∈ (r.wanted o).map Prod.fst) ∧
      (s.link = .spinning → SameEntries s.cluster (s.cluster.put o))
  | .remove name =>
      (s.link = .watching → ∀ o ∈ s.cluster.list, r.name o = name → ∀ o' ∈ s.cluster.list,
        r.name o' ≠ name → ∀ entry ∈ r.wanted o', r.removes o entry.1 = false) ∧
      (s.link = .spinning → SameEntries s.cluster (s.cluster.remove name))
  | .watch => ∀ key ∈ s.hosts.keys, ∃ o ∈ s.cluster.list, key ∈ (r.wanted o).map Prod.fst
  | .tell _ => True

instance (s : Source r) : (a : Action α) → Decidable (Told s a)
  | .put _ => instDecidableAnd
  | .remove _ => instDecidableAnd
  | .watch => List.decidableBAll _ _
  | .tell _ => isTrue trivial

/-! ## Events -/

variable {s s' : Source r} {a : Action α}

theorem handle_link (s : Source r) (type : EventType) (o : α)
    (htype : type = .added ∨ type = .modified ∨ type = .deleted) :
    (s.handle type (some o)).link = s.link ∧ (s.handle type (some o)).cluster = s.cluster := by
  rcases htype with rfl | rfl | rfl
  · rw [handle]
    split <;> exact ⟨rfl, rfl⟩
  · rw [handle]
    split <;> exact ⟨rfl, rfl⟩
  · exact ⟨rfl, rfl⟩

/-- What an object adds is written over what is there. -/
theorem handle_put (s : Source r) {type : EventType} (o : α)
    (htype : type = .added ∨ type = .modified) :
    (s.handle type (some o)).hosts = Map.insertAll s.hosts (r.wanted o) := by
  have hboth : s.handle type (some o) =
      if r.skips o then s else s.publish (Map.insertAll s.hosts (r.addresses o)) := by
    rcases htype with rfl | rfl
    · rw [handle]
    · rw [handle]
  rw [hboth, Reader.wanted]
  split
  · rfl
  · rfl

/-- What is published is what is remembered. -/
def Published (s : Source r) : Prop :=
  s.published = (Map.values s.hosts).toFinset

/-- After every event what is published is what is remembered. -/
theorem published_handle (hs : Published s) (type : EventType) (o : Option α) :
    Published (s.handle type o) := by
  cases o with
  | none => cases type <;> exact hs
  | some o =>
      cases type with
      | added =>
          rw [handle]
          split
          · exact hs
          · exact rfl
      | modified =>
          rw [handle]
          split
          · exact hs
          · exact rfl
      | deleted => exact rfl
      | bookmark => exact hs
      | error => exact hs
      | empty => exact hs

theorem published_told (hs : Published s) (type : EventType) (o : α) :
    Published (s.told type o) := by
  rw [told]
  split
  · exact published_handle hs type (some o)
  · exact hs

theorem published_foldl (os : List α) (hs : Published s) :
    Published (os.foldl (fun s o => s.handle .added (some o)) s) := by
  induction os generalizing s with
  | nil => exact hs
  | cons o os ih => exact ih (published_handle hs .added (some o))

/-- So what is published is always what is remembered. -/
theorem published_step (hs : Published s) (h : s.step a = some s') : Published s' := by
  cases a with
  | put o =>
      rw [step, Option.some.injEq] at h
      rw [← h]
      exact published_told (s := { s with cluster := s.cluster.put o }) hs _ o
  | remove name =>
      rw [step] at h
      split at h
      · cases h
      · next o _ =>
          rw [Option.some.injEq] at h
          rw [← h]
          exact published_told (s := { s with cluster := s.cluster.remove name }) hs _ o
  | watch =>
      rw [step] at h
      split at h
      · rw [Option.some.injEq] at h
        rw [← h]
        exact published_foldl _ (s := { s with link := .watching }) hs
      · cases h
  | tell type =>
      rw [step] at h
      split at h
      · rw [Option.some.injEq] at h
        rw [← h]
        exact published_handle hs type none
      · cases h

/-- A new watch tells of all objects as if they had come one after the other. -/
theorem foldl_handle (os : List α) (s : Source r) :
    (os.foldl (fun s o => s.handle .added (some o)) s).hosts =
        Map.insertAll s.hosts (os.flatMap r.wanted) ∧
      (os.foldl (fun s o => s.handle .added (some o)) s).link = s.link ∧
      (os.foldl (fun s o => s.handle .added (some o)) s).cluster = s.cluster := by
  induction os generalizing s with
  | nil => exact ⟨rfl, rfl, rfl⟩
  | cons o os ih =>
      rcases ih (s.handle .added (some o)) with ⟨hhosts, hlink, hcluster⟩
      rcases handle_link s .added o (.inl rfl) with ⟨hlink', hcluster'⟩
      rw [List.foldl_cons, hhosts, hlink, hcluster, hlink', hcluster', handle_put s o (.inl rfl),
        List.flatMap_cons, Map.insertAll_append]
      exact ⟨rfl, rfl, rfl⟩

/-! ## Changes -/

/-- A source that is told everything is to agree with the cluster. -/
theorem inStep_iff_of_watching (h : s.link = .watching) :
    InStep s ↔ Agrees r.contribution s.cluster s.hosts :=
  ⟨fun hs => hs (.inl h), fun hs _ => hs⟩

theorem inStep_iff_of_spinning (h : s.link = .spinning) :
    InStep s ↔ Agrees r.contribution s.cluster s.hosts :=
  ⟨fun hs => hs (.inr h), fun hs _ => hs⟩

theorem inStep_of_not_inTouch (h : s.link ≠ .watching) (h' : s.link ≠ .spinning) : InStep s := by
  rintro (hlink | hlink)
  · exact absurd hlink h
  · exact absurd hlink h'

/-- A change that adds nothing and takes nothing away is no change. -/
theorem agrees_iff_sameEntries {cluster cluster' : Cluster r} {hosts : Map String String}
    (h : Agrees r.contribution cluster hosts) :
    Agrees r.contribution cluster' hosts ↔ SameEntries cluster cluster' := by
  constructor
  · intro h'
    refine ⟨fun entry hmem => ?_, fun entry hmem => ?_⟩
    · exact List.mem_flatMap.mpr ((h _ _).mp ((h' _ _).mpr (List.mem_flatMap.mp hmem)))
    · exact List.mem_flatMap.mpr ((h' _ _).mp ((h _ _).mpr (List.mem_flatMap.mp hmem)))
  · rintro ⟨hback, hforth⟩ key value
    refine (h key value).trans ⟨fun hmem => ?_, fun hmem => ?_⟩
    · exact List.mem_flatMap.mp (hforth (key, value) (List.mem_flatMap.mpr hmem))
    · exact List.mem_flatMap.mp (hback (key, value) (List.mem_flatMap.mpr hmem))

/-- Nobody is told that the cluster is another one. -/
theorem inStep_untold_iff (hs : InStep s) (hwatching : s.link ≠ .watching) (cluster : Cluster r) :
    InStep { s with cluster := cluster } ↔
      (s.link = .spinning → SameEntries s.cluster cluster) := by
  by_cases hspinning : s.link = .spinning
  · rw [inStep_iff_of_spinning (s := { s with cluster := cluster }) hspinning,
      agrees_iff_sameEntries (hs (.inr hspinning))]
    exact ⟨fun hsame _ => hsame, fun hsame => hsame hspinning⟩
  · exact iff_of_true (inStep_of_not_inTouch hwatching hspinning) fun h => absurd h hspinning

/-- When an object that changes leaves the source in step. -/
theorem inStep_put_iff (hs : InStep s) {o : α} (h : s.step (.put o) = some s') :
    InStep s' ↔ Told s (.put o) := by
  rw [step, Option.some.injEq] at h
  rw [← h]
  clear h
  -- Both types of event are handled alike.
  generalize htype : (if s.cluster.list.any fun old => r.name old = r.name o then EventType.modified
    else .added) = type
  have hput : type = .added ∨ type = .modified := by
    rw [← htype]
    split
    · exact .inr rfl
    · exact .inl rfl
  have hkept : type = .added ∨ type = .modified ∨ type = .deleted :=
    hput.imp_right fun hmodified => .inl hmodified
  rw [told]
  dsimp only
  by_cases hwatching : s.link = .watching
  · rw [if_pos hwatching]
    rcases handle_link { s with cluster := s.cluster.put o } type o hkept with ⟨hlink, hcluster⟩
    rw [inStep_iff_of_watching (hlink.trans hwatching), hcluster, handle_put _ o hput]
    refine (agrees_put_iff (hs (.inl hwatching)) o).trans ?_
    constructor
    · intro hkeys
      refine ⟨fun _ => hkeys, fun hspinning => ?_⟩
      rw [hwatching] at hspinning
      exact nomatch hspinning
    · exact fun htold => htold.1 hwatching
  · rw [if_neg hwatching, inStep_untold_iff hs hwatching]
    exact ⟨fun hsame => ⟨fun h => absurd h hwatching, hsame⟩, fun htold => htold.2⟩

theorem inStep_remove_iff (hs : InStep s) {name : String} (h : s.step (.remove name) = some s') :
    InStep s' ↔ Told s (.remove name) := by
  rw [step] at h
  split at h
  · cases h
  · next o hfind =>
      rw [Option.some.injEq] at h
      rw [← h]
      have hname : r.name o = name :=
        of_decide_eq_true (List.find?_some (p := fun o => decide (r.name o = name)) hfind)
      have ho : o ∈ s.cluster.list := List.mem_of_find?_eq_some hfind
      rw [told]
      dsimp only
      -- The removal is handled now, or not before the next list.
      by_cases hwatching : s.link = .watching
      · rw [if_pos hwatching]
        rcases handle_link { s with cluster := s.cluster.remove name } .deleted o
          (.inr (.inr rfl)) with ⟨hlink, hcluster⟩
        rw [inStep_iff_of_watching (hlink.trans hwatching), hcluster]
        refine (agrees_remove_iff (hs (.inl hwatching)) name _ ?_).trans ?_
        · rintro o' - hname' ⟨key, value⟩ hmem
          exact r.removes_own o' o key value (hname'.trans hname.symm) (Reader.mem_addresses hmem)
        · constructor
          · intro hothers
            refine ⟨fun _ o' ho' hname' => ?_, fun hspinning => ?_⟩
            · rw [s.cluster.eq_of_name ho' ho (hname'.trans hname.symm)]
              exact hothers
            · rw [hwatching] at hspinning
              cases hspinning
          · exact fun htold => htold.1 hwatching o ho hname
      · rw [if_neg hwatching, inStep_untold_iff hs hwatching]
        exact ⟨fun hsame => ⟨fun h => absurd h hwatching, hsame⟩, fun htold => htold.2⟩

theorem inStep_watch_iff (h : s.step .watch = some s') : InStep s' ↔ Told s .watch := by
  rw [step] at h
  split at h
  · rw [Option.some.injEq] at h
    rw [← h]
    rcases foldl_handle s.cluster.list { s with link := .watching } with ⟨hhosts, hlink, hcluster⟩
    rw [inStep_iff_of_watching hlink, hhosts, hcluster]
    exact agrees_refresh_iff s.cluster s.hosts
  · exact nomatch h

theorem inStep_tell (hs : InStep s) {type : EventType} (h : s.step (.tell type) = some s') :
    InStep s' := by
  rw [step] at h
  split at h
  · next hwatching =>
      rw [Option.some.injEq] at h
      rw [← h]
      have hagrees := hs (.inl hwatching)
      cases type with
      | added => exact hs
      | modified => exact hs
      | deleted => exact hs
      | bookmark => exact hs
      | error => exact inStep_of_not_inTouch (by exact nofun) (by exact nofun)
      | empty => exact fun _ => hagrees
  · exact nomatch h

/-- The source stays in step exactly when it is told what it has to be told. -/
theorem inStep_step_iff (hs : InStep s) (h : s.step a = some s') : InStep s' ↔ Told s a := by
  cases a with
  | put o => exact inStep_put_iff hs h
  | remove name => exact inStep_remove_iff hs h
  | watch => exact inStep_watch_iff h
  | tell type => exact iff_of_true (inStep_tell hs h) trivial

/-! ## Runs -/

theorem inStep_iff_told (cluster : Cluster r) (as : List (Action α)) :
    StepsAlong step (fun _ _ s' => InStep s') as (start cluster) ↔
      MeetsAlong step Told as (start cluster) :=
  stepsAlong_good_iff_meetsAlong (fun _ _ _ hs hstep => inStep_step_iff hs hstep) as _
    (inStep_of_not_inTouch (by exact nofun) (by exact nofun))

theorem published_of_agrees (hs : Published s) (h : Agrees r.contribution s.cluster s.hosts) :
    s.published = clusterAddresses s.cluster := by
  rw [hs]
  ext address
  rw [List.mem_toFinset, clusterAddresses, List.mem_toFinset]
  exact mem_values_of_agrees h address

/-- A start publishes what it lists, as long as different names are listed under different keys. -/
theorem published_start_eq (cluster : Cluster r) (c : Contribution α String String String)
    (hname : c.name = r.name)
    (hentries : ∀ o, c.entries o = if r.skips o then [] else r.listed o) :
    (start cluster).published = ((cluster.list.flatMap c.entries).map Prod.snd).toFinset := by
  have hlist : (cluster.list.filter fun o => !r.skips o).flatMap r.listed =
      cluster.list.flatMap c.entries := by
    generalize cluster.list = os
    induction os with
    | nil => rfl
    | cons o os ih =>
        rw [List.flatMap_cons, ← ih, hentries o]
        by_cases hskips : r.skips o = true
        · rw [if_pos hskips, List.filter_cons_of_neg, List.nil_append]
          rw [hskips]
          exact Bool.false_ne_true
        · rw [if_neg hskips, List.filter_cons_of_pos, List.flatMap_cons]
          rw [Bool.eq_false_iff.mpr hskips]
          rfl
  have hagrees : Agrees c ⟨cluster.list, hname ▸ cluster.nodup⟩
      (Map.insertAll ∅ (cluster.list.flatMap c.entries)) := agrees_empty c _
  rw [start, hlist]
  ext address
  rw [publish, List.mem_toFinset, List.mem_toFinset]
  exact mem_values_of_agrees hagrees address

theorem published_start (cluster : Cluster r) : Published (start cluster) := rfl

/-- While the source is told what it has to be told, what it has published last are the addresses
that the cluster has now, whenever it is in touch. -/
theorem published_of_told (cluster : Cluster r) (as : List (Action α)) (s : Source r)
    (htold : MeetsAlong step Told as (start cluster))
    (hrun : runActions step as (start cluster) = some s) (htouch : s.inTouch) :
    s.published = clusterAddresses s.cluster := by
  have hstep : ∀ s s' a, ReachesWithin step Told (start cluster) s → InStep s ∧ Published s →
      Told s a → step s a = some s' → InStep s' ∧ Published s' := by
    rintro s s' a - ⟨hin, hpublished⟩ htold hstep
    exact ⟨(inStep_step_iff hin hstep).mpr htold, published_step hpublished hstep⟩
  have hstart : InStep (start cluster) ∧ Published (start cluster) :=
    ⟨inStep_of_not_inTouch (by exact nofun) (by exact nofun), published_start cluster⟩
  have hs := invariant_of_reachesWithin hstep
    (reachesWithin_of_runActions as _ s htold hrun) hstart
  exact published_of_agrees hs.2 (hs.1 htouch)

end Source

end HostsGov

end Nxpod
