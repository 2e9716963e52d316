import Nxpod.WsManager.Report

/-!
# Patching the Pod Lifecycle Independent State

`patchPodLifecycleIndependentState` of ws-manager reads the config map of a
workspace, has a patch change the state that is kept in one of its annotations,
adds and deletes some other annotations, and stores the config map again. When
someone else has stored it in the meantime there is a conflict, and everything
starts over, up to some number of times.

The config map is not stored when no change was made. The patch says so itself,
and an annotation makes no change when its name is there already, or when it is
to be deleted and is not there. The first of these does not look at the value. A
new value for a name that is there is forgotten, unless something else has the
config map stored.

Attempts are numbered. What is found and how storing ends is given for each of
them, and the patch may do something else in each of them. An annotation map
without entries is nil, as it comes from the API server, and writing to it
panics.

## Main definitions

* `Mark`, `addMark`, `deleteMark`, `Mark.apply`: An annotation that is to be added
  or deleted.
* `patchState`, `prepare`: The patched config map, and whether it is to be stored.
* `GetError`: A config map that is not there is told apart.
* `Attempt`, `attemptOnce`, `retryOnConflict`: The attempts.
* `Ended`: How an attempt ends.
* `Done`: The attempt that ended the loop, and the config map stored then.
* `patchPodLifecycleIndependentState`: The config map that is stored after a call
  that succeeds.
* `Patched`: All changes that were asked for are in it, and no others.
* `Forces`, `TakesEffect`: Something has the config map stored, and the condition.

## Theorems

* `applyAll_spec`: What annotations with different names come to.
* `retryOnConflict_done`: The loop ends with the attempt without a conflict.
* `patched_iff`: When all changes are stored.
-/

namespace Nxpod

namespace WsManager

namespace Patch

open Objects (ConfigMap)
open Report

/-! ## The annotations -/

/-- An annotation to be added, or to be deleted. -/
structure Mark where
  name : String
  value : String
  delete : Bool

/-- The value is written, but it is the name that counts as a change. -/
def addMark (name value : String) : Mark := ⟨name, value, false⟩

/-- The value is left empty and not looked at. -/
def deleteMark (name : String) : Mark := ⟨name, "", true⟩

/-- The annotations, and whether they need an update. -/
def Mark.apply (a : Mark) (dst : Map String String) : Map String String × Bool :=
  let wasPresent := (dst.lookup a.name).isSome
  if a.delete then (dst.erase a.name, wasPresent) else (dst.insert a.name a.value, !wasPresent)

/-- All marks are applied, also behind one that makes no change. -/
def applyAll (marks : List Mark) (dst : Map String String) (needsUpdate : Bool) :
    Map String String × Bool :=
  marks.foldl (fun r a =>
    let (dst, doUpdate) := a.apply r.1
    (dst, r.2 || doUpdate)) (dst, needsUpdate)

/-! ## One attempt -/

variable {Stamp : Type}

/-- A function that changes the state, and says whether that needs an update. -/
abbrev PatchFunction (Stamp : Type) := PLIS Stamp → PLIS Stamp × Bool

/-- What is written as the state, if anything, and whether it needs an update. -/
def patchState (env : Env Stamp) (marshal : PLIS Stamp → Except String String)
    (patch : Option (PatchFunction Stamp)) (cfg : ConfigMap) :
    Except String (Option String × Bool) :=
  match patch with
  | none => .ok (none, false)
  | some patch => match unmarshalPodLifecycleIndependentState env cfg with
    | .error err => .error s!"patch pod lifecycle independent state: {err}"
    | .ok plis =>
        let (plis, needsUpdate) := patch (plis.getD {})
        match marshal plis with
        | .error _ => .error ("patch lifecycle independent state: " ++
            "cannot marshal pod lifecycle independent state: %!w(MISSING)")
        | .ok rawPLIS => .ok (some rawPLIS, needsUpdate)

/-- The annotations with the state that is written. -/
def withState (annotations : Map String String) : Option String → Map String String
  | none => annotations
  | some rawPLIS => annotations.insert plisDataAnnotation rawPLIS

/-- The patched config map, and whether it needs an update. -/
def prepare (env : Env Stamp) (marshal : PLIS Stamp → Except String String)
    (patch : Option (PatchFunction Stamp)) (marks : List Mark) (cfg : ConfigMap) :
    Except Failure (ConfigMap × Bool) :=
  match patchState env marshal patch cfg with
  | .error err => .error (.error err)
  | .ok (rawPLIS, needsUpdate) =>
      -- Without entries the map is nil. Deleting from it works, and writing does not.
      if cfg.annotations.keys.isEmpty && (rawPLIS.isSome || marks.any fun a => !a.delete) then
        .error .panic
      else
        let (annotations, needsUpdate) :=
          applyAll marks (withState cfg.annotations rawPLIS) needsUpdate
        .ok ({ cfg with annotations := annotations }, needsUpdate)

/-- A config map that is not there is told apart. -/
inductive GetError where
  | notFound
  | other (err : String)

/-- Someone else may have stored the config map meanwhile. -/
inductive UpdateError where
  | conflict (err : String)
  | other (err : String)

/-- What is found in an attempt, and how storing it ends. -/
structure Attempt where
  get : Except GetError ConfigMap
  update : Option UpdateError

/-- How an attempt ends. Only a conflict leads to another one. -/
inductive Ended where
  | done (stored : ConfigMap)
  | conflict (err : String)
  | failed (failure : Failure)

/-- Without an update, what was found stays as it is. -/
def attemptOnce (env : Env Stamp) (marshal : PLIS Stamp → Except String String)
    (patch : Option (PatchFunction Stamp)) (marks : List Mark) (workspaceID : String)
    (attempt : Attempt) : Ended :=
  match attempt.get with
  | .error .notFound =>
      .failed (.error s!"workspace {workspaceID} has no pod lifecycle independent state")
  | .error (.other err) =>
      .failed (.error s!"cannot retrieve pod lifecycle independent state: {err}")
  | .ok cfg => match prepare env marshal patch marks cfg with
    | .error failure => .failed failure
    | .ok (plisCfg, needsUpdate) =>
        -- The patched copy is dropped here, whatever was changed in it.
        if !needsUpdate then .done cfg
        else match attempt.update with
          | none => .done plisCfg
          | some (.conflict err) => .conflict err
          | some (.other err) => .failed (.error err)

/-! ## The attempts -/

/-- The attempt that ended the loop, and the config map stored then. -/
structure Done where
  attempt : Nat
  stored : ConfigMap

/-- From attempt `i` on, with this number of retries left. -/
def retryOnConflict (run : Nat → Ended) : Nat → Nat → Except Failure Done
  | 0, i => match run i with
    | .done stored => .ok ⟨i, stored⟩
    | .conflict err => .error (.error err)
    | .failed failure => .error failure
  | retries + 1, i => match run i with
    | .done stored => .ok ⟨i, stored⟩
    | .conflict _ => retryOnConflict run retries (i + 1)
    | .failed failure => .error failure

/-- What the patch does, what is found and how storing ends is given for each attempt. -/
def patchPodLifecycleIndependentState (env : Env Stamp)
    (marshal : PLIS Stamp → Except String String) (retries : Nat) (workspaceID : String)
    (patch : Option (Nat → PatchFunction Stamp)) (marks : List Mark)
    (attempts : Nat → Attempt) : Except Failure Done :=
  let run i := attemptOnce env marshal (patch.map fun patch => patch i) marks workspaceID
    (attempts i)
  match retryOnConflict run retries 0 with
  | .error failure => .error (failure.wrap "patch lifecycle independent state")
  | .ok done => .ok done

/-- The attempt that ends the loop is one of those that were made, and all before it have met a
    conflict. -/
theorem retryOnConflict_done {run : Nat → Ended} {retries i : Nat} {done : Done}
    (h : retryOnConflict run retries i = .ok done) :
    i ≤ done.attempt ∧ done.attempt ≤ i + retries ∧ run done.attempt = .done done.stored ∧
      ∀ k, i ≤ k → k < done.attempt → ∃ err, run k = .conflict err := by
  induction retries generalizing i with
  | zero =>
      unfold retryOnConflict at h
      cases hrun : run i with
      | done stored =>
          rw [hrun] at h
          cases h
          exact ⟨Nat.le_refl _, Nat.le_refl _, hrun,
            fun k hle hlt => absurd hlt (Nat.not_lt.mpr hle)⟩
      | conflict err =>
          rw [hrun] at h
          cases h
      | failed failure =>
          rw [hrun] at h
          cases h
  | succ retries ih =>
      unfold retryOnConflict at h
      cases hrun : run i with
      | done stored =>
          rw [hrun] at h
          cases h
          exact ⟨Nat.le_refl _, Nat.le_add_right _ _, hrun,
            fun k hle hlt => absurd hlt (Nat.not_lt.mpr hle)⟩
      | conflict err =>
          -- The conflict is one more of those before the attempt that ended the loop.
          rw [hrun] at h
          rcases ih h with ⟨hle, hupto, hdone, hconflicts⟩
          refine ⟨Nat.le_of_succ_le hle, by omega, hdone, fun k hik hk => ?_⟩
          rcases Nat.eq_or_lt_of_le hik with rfl | hlt
          · exact ⟨err, hrun⟩
          · exact hconflicts k hlt hk
      | failed failure =>
          rw [hrun] at h
          cases h

/-! ## The changes -/

/-- What is there under the name of the annotation when the change is made. -/
def Mark.text (a : Mark) : Option String := if a.delete then none else some a.value

/-- The annotation is to be added under a new name, or deleted and is there. -/
def Mark.changes (a : Mark) (dst : Map String String) : Bool :=
  (dst.lookup a.name).isSome == a.delete

/-- What a mark does to the annotations, and what it says that it has done. -/
theorem apply_spec (a : Mark) (dst : Map String String) :
    (∀ k, (a.apply dst).1.lookup k = if k = a.name then a.text else dst.lookup k) ∧
      (a.apply dst).2 = a.changes dst := by
  unfold Mark.apply Mark.text Mark.changes
  cases a.delete with
  | true => exact ⟨Map.lookup_erase_eq_ite dst a.name, by simp⟩
  | false => exact ⟨fun k => Map.lookup_insert_eq_ite dst a.name k a.value, by simp⟩

/-- Annotations with different names do not get in each other's way. -/
theorem applyAll_spec {marks : List Mark} (hnames : (marks.map Mark.name).Nodup)
    (dst : Map String String) (needsUpdate : Bool) :
    (∀ a ∈ marks, (applyAll marks dst needsUpdate).1.lookup a.name = a.text) ∧
    (∀ k, k ∉ marks.map Mark.name → (applyAll marks dst needsUpdate).1.lookup k = dst.lookup k) ∧
    (applyAll marks dst needsUpdate).2 = (needsUpdate || marks.any fun a => a.changes dst) := by
  induction marks generalizing dst needsUpdate with
  | nil => exact ⟨nofun, fun k _ => rfl, (Bool.or_false needsUpdate).symm⟩
  | cons a marks ih =>
      rw [List.map_cons, List.nodup_cons] at hnames
      rcases apply_spec a dst with ⟨hlookup, hchanges⟩
      rcases ih hnames.2 (a.apply dst).1 (needsUpdate || (a.apply dst).2) with
        ⟨hmarks, hothers, hneeds⟩
      have hcons : applyAll (a :: marks) dst needsUpdate =
          applyAll marks (a.apply dst).1 (needsUpdate || (a.apply dst).2) := rfl
      rw [hcons]
      refine ⟨fun b hb => ?_, fun k hk => ?_, ?_⟩
      · rcases List.mem_cons.mp hb with rfl | hb
        · rw [hothers _ hnames.1, hlookup, if_pos rfl]
        · exact hmarks b hb
      · rw [List.map_cons, List.mem_cons, not_or] at hk
        rw [hothers k hk.2, hlookup, if_neg hk.1]
      · -- The others find their names as they were.
        have hsame : marks.any (fun b => b.changes (a.apply dst).1) =
            marks.any fun b => b.changes dst := by
          rw [Bool.eq_iff_iff, List.any_eq_true, List.any_eq_true]
          refine exists_congr fun b => and_congr_right fun hb => ?_
          have hne : b.name ≠ a.name := fun heq => hnames.1 (heq ▸ List.mem_map_of_mem hb)
          rw [Mark.changes, Mark.changes, hlookup, if_neg hne]
        rw [hneeds, hsame, hchanges, List.any_cons, Bool.or_assoc]

/-- The state that the text of the annotation says, which is empty without one. -/
def readState (env : Env Stamp) : Option String → Except String (PLIS Stamp)
  | none => .ok {}
  | some rawPLIS => env.unmarshal rawPLIS

/-- The text stands for the state, as it is written or as it is read. -/
def Represents (env : Env Stamp) (marshal : PLIS Stamp → Except String String)
    (text : Option String) (state : PLIS Stamp) : Prop :=
  (∃ rawPLIS, text = some rawPLIS ∧ marshal state = .ok rawPLIS) ∨ readState env text = .ok state

/-- What the patch makes of the state that is there. -/
def PatchedState (env : Env Stamp) (patch : Option (PatchFunction Stamp)) (cfg : ConfigMap)
    (state : PLIS Stamp) : Prop :=
  ∃ p ∈ patch, ∃ old, readState env (cfg.annotations.lookup plisDataAnnotation) = .ok old ∧
    (p old).1 = state

/-- The stored config map is the one that was found, with the patched state, the annotations
    that were to be added, without those that were to be deleted, and otherwise as it was. -/
structure Patched (env : Env Stamp) (marshal : PLIS Stamp → Except String String)
    (patch : Option (PatchFunction Stamp)) (marks : List Mark) (cfg stored : ConfigMap) : Prop where
  added : ∀ a ∈ marks, a.delete = false → stored.annotations.lookup a.name = some a.value
  deleted : ∀ a ∈ marks, a.delete = true → stored.annotations.lookup a.name = none
  state : ∀ state, PatchedState env patch cfg state →
    Represents env marshal (stored.annotations.lookup plisDataAnnotation) state
  others : ∀ k, k ∉ marks.map Mark.name → (patch.isSome = true → k ≠ plisDataAnnotation) →
    stored.annotations.lookup k = cfg.annotations.lookup k
  name : stored.name = cfg.name
  labels : stored.labels = cfg.labels

/-- There is something under the name, also when it is only the state that is written. -/
def present (patch : Option (PatchFunction Stamp)) (cfg : ConfigMap) (name : String) : Bool :=
  (cfg.annotations.lookup name).isSome || (patch.isSome && name = plisDataAnnotation)

/-- The patch asks for an update, or there is a new name to add or one to delete. -/
def Forces (env : Env Stamp) (patch : Option (PatchFunction Stamp)) (marks : List Mark)
    (cfg : ConfigMap) : Prop :=
  (∃ p ∈ patch, ∃ old, readState env (cfg.annotations.lookup plisDataAnnotation) = .ok old ∧
    (p old).2 = true) ∨ ∃ a ∈ marks, present patch cfg a.name = a.delete

/-- Something asks for an update, and no annotation is in place of the state, or nothing
    would be changed by one. -/
def TakesEffect (env : Env Stamp) (marshal : PLIS Stamp → Except String String)
    (patch : Option (PatchFunction Stamp)) (marks : List Mark) (cfg : ConfigMap) : Prop :=
  (Forces env patch marks cfg ∧ ∀ a ∈ marks, a.name = plisDataAnnotation →
    ∀ state, PatchedState env patch cfg state → Represents env marshal a.text state) ∨
  (¬ Forces env patch marks cfg ∧
    (∀ a ∈ marks, a.delete = false → cfg.annotations.lookup a.name = some a.value) ∧
    ∀ state, PatchedState env patch cfg state →
      Represents env marshal (cfg.annotations.lookup plisDataAnnotation) state)

variable {env : Env Stamp} {marshal : PLIS Stamp → Except String String}
  {patch : Option (PatchFunction Stamp)} {marks : List Mark} {cfg : ConfigMap}

/-- Either the state cannot be read, or the patch gets it as it is. -/
theorem unmarshal_getD (env : Env Stamp) (cfg : ConfigMap) :
    (∃ err, unmarshalPodLifecycleIndependentState env cfg = .error err ∧
      ∀ old, readState env (cfg.annotations.lookup plisDataAnnotation) ≠ .ok old) ∨
    ∃ plis, unmarshalPodLifecycleIndependentState env cfg = .ok plis ∧
      readState env (cfg.annotations.lookup plisDataAnnotation) = .ok (plis.getD {}) := by
  unfold unmarshalPodLifecycleIndependentState readState
  cases cfg.annotations.lookup plisDataAnnotation with
  | none => exact .inr ⟨none, rfl, rfl⟩
  | some rawPLIS =>
      dsimp only
      cases env.unmarshal rawPLIS with
      | error err =>
          refine .inl ⟨_, rfl, fun old h => ?_⟩
          cases h
      | ok state => exact .inr ⟨some state, rfl, rfl⟩

/-- Without a patch nothing is written, and with one it is the state it comes to. -/
theorem patchState_ok {rawPLIS : Option String} {needsUpdate : Bool}
    (h : patchState env marshal patch cfg = .ok (rawPLIS, needsUpdate)) :
    (patch = none ∧ rawPLIS = none ∧ needsUpdate = false) ∨
    ∃ p old raw, patch = some p ∧
      readState env (cfg.annotations.lookup plisDataAnnotation) = .ok old ∧
      marshal (p old).1 = .ok raw ∧ rawPLIS = some raw ∧ needsUpdate = (p old).2 := by
  unfold patchState at h
  cases patch with
  | none =>
      cases h
      exact .inl ⟨rfl, rfl, rfl⟩
  | some p =>
      dsimp only at h
      rcases unmarshal_getD env cfg with ⟨err, hun, -⟩ | ⟨plis, hun, hread⟩
      · rw [hun] at h
        cases h
      · rw [hun] at h
        dsimp only at h
        cases hmarshal : marshal (p (plis.getD {})).1 with
        | error err =>
            rw [hmarshal] at h
            cases h
        | ok raw =>
            rw [hmarshal] at h
            cases h
            exact .inr ⟨p, _, raw, rfl, hread, hmarshal, rfl, rfl⟩

/-- Only the annotation with the state is written, and only if there is a patch. -/
theorem lookup_withState {rawPLIS : Option String} (hraw : rawPLIS.isSome = patch.isSome)
    (k : String) :
    (withState cfg.annotations rawPLIS).lookup k =
      if patch.isSome = true ∧ k = plisDataAnnotation then rawPLIS
      else cfg.annotations.lookup k := by
  cases rawPLIS with
  | none =>
      rw [← hraw]
      exact (if_neg fun h => absurd h.1 Bool.false_ne_true).symm
  | some raw =>
      rw [← hraw]
      simp [withState, Map.lookup_insert_eq_ite]

theorem isSome_lookup_withState {rawPLIS : Option String}
    (hraw : rawPLIS.isSome = patch.isSome) (k : String) :
    ((withState cfg.annotations rawPLIS).lookup k).isSome = present patch cfg k := by
  rw [lookup_withState hraw, present]
  by_cases hk : k = plisDataAnnotation
  · cases hp : patch.isSome with
    | true => simp [hk, hraw.trans hp]
    | false => simp
  · simp [hk]

/-- The config map needs an update exactly when something forces one, and then it has the
    changes of the annotations and, unless one of them takes its place, the state. -/
theorem prepare_spec (hnames : (marks.map Mark.name).Nodup) {plisCfg : ConfigMap}
    {needsUpdate : Bool} (h : prepare env marshal patch marks cfg = .ok (plisCfg, needsUpdate)) :
    (needsUpdate = true ↔ Forces env patch marks cfg) ∧
    (∀ a ∈ marks, plisCfg.annotations.lookup a.name = a.text) ∧
    ( plisDataAnnotation ∉ marks.map Mark.name → ∀ state, PatchedState env patch cfg state →
      ∃ rawPLIS, plisCfg.annotations.lookup plisDataAnnotation = some rawPLIS ∧
        marshal state = .ok rawPLIS) ∧
    (∀ k, k ∉ marks.map Mark.name → (patch.isSome = true → k ≠ plisDataAnnotation) →
      plisCfg.annotations.lookup k = cfg.annotations.lookup k) ∧
    plisCfg.name = cfg.name ∧ plisCfg.labels = cfg.labels := by
  unfold prepare at h
  cases hstate : patchState env marshal patch cfg with
  | error err =>
      rw [hstate] at h
      cases h
  | ok written =>
      obtain ⟨rawPLIS, asked⟩ := written
      rw [hstate] at h
      dsimp only at h
      split_ifs at h
      cases h
      rcases applyAll_spec hnames (withState cfg.annotations rawPLIS) asked with
        ⟨hmarks, hothers, hneeds⟩
      -- The state is written if there is a patch.
      have hraw : rawPLIS.isSome = patch.isSome := by
        rcases patchState_ok hstate with ⟨rfl, rfl, -⟩ | ⟨p, old, raw, rfl, -, -, rfl, -⟩ <;> rfl
      refine ⟨?_, hmarks, fun hplis state hpatched => ?_, fun k hk hplis => ?_, rfl, rfl⟩
      · rw [hneeds, Bool.or_eq_true, List.any_eq_true]
        refine or_congr ?_ (exists_congr fun a => and_congr_right fun _ => ?_)
        · rcases patchState_ok hstate with ⟨rfl, -, rfl⟩ | ⟨p, old, raw, rfl, hread, -, -, rfl⟩
          · simp
          · simp [hread]
        · rw [Mark.changes, isSome_lookup_withState hraw, beq_iff_eq]
      · rcases hpatched with ⟨p, hp, old, hread, rfl⟩
        rcases patchState_ok hstate with
          ⟨rfl, -, -⟩ | ⟨p', old', raw, rfl, hread', hmarshal, rfl, -⟩
        · cases hp
        · cases hp
          cases hread.symm.trans hread'
          refine ⟨raw, (hothers _ hplis).trans ?_, hmarshal⟩
          rw [lookup_withState hraw, if_pos ⟨rfl, rfl⟩]
      · rw [hothers k hk, lookup_withState hraw, if_neg fun hand => hplis hand.1 hand.2]

/-- An attempt is only done if everything was read, and stored if anything was to change. -/
theorem attemptOnce_done {workspaceID : String} {attempt : Attempt} {stored : ConfigMap}
    (h : attemptOnce env marshal patch marks workspaceID attempt = .done stored) :
    ∃ cfg plisCfg needsUpdate, attempt.get = .ok cfg ∧
      prepare env marshal patch marks cfg = .ok (plisCfg, needsUpdate) ∧
      stored = if needsUpdate then plisCfg else cfg := by
  unfold attemptOnce at h
  split at h
  · cases h
  · cases h
  · next cfg hget =>
      split at h
      · cases h
      · next plisCfg needsUpdate hprepare =>
          refine ⟨cfg, plisCfg, needsUpdate, hget, hprepare, ?_⟩
          cases needsUpdate with
          | false =>
              cases h
              rfl
          | true =>
              rw [if_neg (by decide)] at h
              split at h
              · cases h
                rfl
              · cases h
              · cases h

/-- What one attempt that ends the loop has stored. -/
theorem patched_iff_of_prepare (hnames : (marks.map Mark.name).Nodup) {plisCfg : ConfigMap}
    {needsUpdate : Bool} (h : prepare env marshal patch marks cfg = .ok (plisCfg, needsUpdate)) :
    Patched env marshal patch marks cfg (if needsUpdate then plisCfg else cfg) ↔
      TakesEffect env marshal patch marks cfg := by
  rcases prepare_spec hnames h with ⟨hforces, hmarks, hstate, hothers, hname, hlabels⟩
  cases needsUpdate with
  | true =>
      have hthere := hforces.mp rfl
      rw [if_pos rfl]
      constructor
      · -- An annotation with the name of the state is what is stored under it.
        intro hpatched
        refine .inl ⟨hthere, fun a ha haname state hs => ?_⟩
        have hrepresents := hpatched.state state hs
        rwa [← haname, hmarks a ha] at hrepresents
      · rintro (⟨-, hplis⟩ | ⟨hnot, -⟩)
        · refine ⟨fun a ha hdelete => ?_, fun a ha hdelete => ?_, fun state hs => ?_, hothers,
            hname, hlabels⟩
          · rw [hmarks a ha, Mark.text, hdelete, if_neg Bool.false_ne_true]
          · rw [hmarks a ha, Mark.text, hdelete, if_pos rfl]
          · by_cases hmem : plisDataAnnotation ∈ marks.map Mark.name
            · rcases List.mem_map.mp hmem with ⟨a, ha, haname⟩
              rw [← haname, hmarks a ha]
              exact hplis a ha haname state hs
            · exact .inl (hstate hmem state hs)
        · exact absurd hthere hnot
  | false =>
      have hnot : ¬ Forces env patch marks cfg := fun hthere =>
        absurd (hforces.mpr hthere) Bool.false_ne_true
      rw [if_neg Bool.false_ne_true]
      constructor
      · exact fun hpatched => .inr ⟨hnot, hpatched.added, hpatched.state⟩
      · rintro (⟨hthere, -⟩ | ⟨-, hadded, hs⟩)
        · exact absurd hthere hnot
        · refine ⟨hadded, fun a ha hdelete => ?_, hs, fun k _ _ => rfl, rfl, rfl⟩
          -- An annotation that is there and to be deleted would have forced an update.
          cases hlookup : cfg.annotations.lookup a.name with
          | none => rfl
          | some value =>
              refine absurd (.inr ⟨a, ha, ?_⟩) hnot
              rw [present, hlookup, hdelete]
              rfl

/-- For every pattern of conflicts after which the call succeeds. The config map that was found
    is the one of the attempt that ended the loop. An attempt that sees nothing to change does
    not store anything and is a success all the same, so it all depends on what counts as a
    change. -/
theorem patched_iff (hnames : (marks.map Mark.name).Nodup) {retries : Nat} {workspaceID : String}
    {patch : Option (Nat → PatchFunction Stamp)} {attempts : Nat → Attempt} {done : Done}
    (h : patchPodLifecycleIndependentState env marshal retries workspaceID patch marks attempts =
      .ok done) :
    ∃ cfg, (attempts done.attempt).get = .ok cfg ∧
      (Patched env marshal (patch.map fun patch => patch done.attempt) marks cfg done.stored ↔
        TakesEffect env marshal (patch.map fun patch => patch done.attempt) marks cfg) := by
  unfold patchPodLifecycleIndependentState at h
  dsimp only at h
  split at h
  · cases h
  · next ended hended =>
      cases h
      rcases retryOnConflict_done hended with ⟨-, -, hrun, -⟩
      rcases attemptOnce_done hrun with ⟨cfg, plisCfg, needsUpdate, hget, hprepare, hstored⟩
      rw [hstored]
      exact ⟨cfg, hget, patched_iff_of_prepare hnames hprepare⟩

/-- The config map of a workspace that has timed out already. -/
def timedOutConfigMap : ConfigMap where
  annotations := (AList.insert Finalize.workspaceIDAnnotation "id" ∅).insert
    Status.workspaceTimedOutAnnotation "workspace timed out"
  labels := ∅
  name := "plis-id"

/-- Storing ends with a conflict in the first attempt. -/
def conflictFirst (cfg : ConfigMap) (i : Nat) : Attempt where
  get := .ok cfg
  update := if i = 0 then some (.conflict "the object has been modified") else none

/-- A patch that has something to say. -/
def stopped (plis : PLIS Unit) : PLIS Unit × Bool := ({ plis with stoppingSince := some 0 }, true)

/-- A stop together with its mark, as it is when the first attempt meets a conflict. -/
def stopCall : Except Failure Done :=
  patchPodLifecycleIndependentState readsNothing (fun _ => .ok "state") 3 "id"
    (some fun _ => stopped) [addMark "traceID" "trace"] (conflictFirst timedOutConfigMap)

/-- A state and an annotation are stored in the second attempt. -/
theorem patched_second_attempt :
    ∃ done, stopCall = .ok done ∧ done.attempt = 1 ∧
      Patched readsNothing (fun _ => .ok "state") (some stopped) [addMark "traceID" "trace"]
        timedOutConfigMap done.stored := by
  refine ⟨_, rfl, rfl, ?_⟩
  have hnames : ([addMark "traceID" "trace"].map Mark.name).Nodup := List.nodup_singleton _
  rcases patched_iff hnames (rfl : stopCall = .ok _) with ⟨cfg, hcfg, hiff⟩
  cases hcfg
  refine hiff.mpr (.inl ⟨.inl ⟨_, rfl, {}, rfl, rfl⟩, fun a ha haname => ?_⟩)
  rw [List.mem_singleton.mp ha] at haname
  exact absurd haname (by decide)

/-- A new reason for the timeout is not stored. -/
theorem new_value_dropped :
    ∃ done, patchPodLifecycleIndependentState readsNothing (fun _ => .ok "state") 3 "id" none
      [addMark Status.workspaceTimedOutAnnotation "workspace timed out for another reason"]
      (conflictFirst timedOutConfigMap) = .ok done ∧
      done.stored.annotations.lookup Status.workspaceTimedOutAnnotation =
        some "workspace timed out" :=
  ⟨_, rfl, by decide⟩

end Patch

end WsManager

end Nxpod
