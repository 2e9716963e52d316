import Nxpod.WsSync.Lifecycle

/-!
# Crashes and Restarts of `ws-sync`

Whoever has seen a workspace as ready expects to find it ready after a restart.
The memory is lost in a crash, and the store is built anew from the state files.
A workspace whose file cannot be read is not in the store any more, and neither
is one of whose lifecycle hooks one fails: `NewStore` runs the hooks of the state
that it has found in the file.

`MarkInitDone` persists the workspace while it is still initializing, then marks
it as ready and wakes up who waits, runs the hooks, and only then persists that
it is ready. A crash in between takes back what the callers have seen. So does a
hook that fails: the workspace stays ready in memory and initializing on disk.

What a restart finds depends on the calls of `persist` alone: which of them came
last to the file, whether it wrote it whole, and in which state the workspace was
when that call began. A call that began before the workspace was marked as ready
may well be the last to write. The daemon is therefore modelled with the list of
its calls of `persist`, and the condition is about that list and about the hooks.

## Main definitions

* `Daemon`: The workspace in memory and on disk, and what was seen of it.
* `Hooks`, `runLifecycleHooks`: The hooks of each state, by what comes of them.
* `newStore`: The workspace after a restart.
* `Action`, `step`: What can happen, with a crash and a restart at any time.
* `Recovers`: A restart finds as ready what was seen as ready.
* `lastPersisted`: When the call of `persist` began that wrote last.
* `Kept`: A restart after such a call, whose hooks succeed.

## Theorems

* `inv_step`: What a step preserves.
* `recovers_iff`: Runs of any steps, with crashes and restarts among them.
* `not_recovers`: A run that takes back what was seen.
-/

namespace Nxpod

namespace WsSync

namespace Restart

open Transition StateFile

variable {γ : Type}

/-- A call of `persist` that has come to its end: the state in which the workspace
    was when it was serialized, and what came of the writing. -/
structure PersistCall where
  begunIn : WorkspaceState
  outcome : WriteOutcome
  deriving DecidableEq

/-- A workspace of a daemon. It is in the store, or nothing is left of it but its
    file. `observedReady` says whether a caller has seen it as ready, and
    `disposalStarted` whether it was marked for disposal or its file removed.
    `begunIn` is the state in which the workspace was when a call of `persist`
    under way began, and `persists` are the calls that are over, the last first. -/
structure Daemon (γ : Type) where
  stored : StoredWorkspace γ
  inStore : Bool
  observedReady : Bool
  disposalStarted : Bool
  begunIn : Persister → WorkspaceState
  persists : List PersistCall

/-- What comes of each hook, under the state for which it is registered. -/
abbrev Hooks := WorkspaceState → List Bool

/-- The hooks of a state run one after the other, up to the first that fails. -/
def runLifecycleHooks (hooks : Hooks) (state : WorkspaceState) : Bool :=
  (hooks state).all id

/-- Nothing but the file. -/
def forget (s : StoredWorkspace γ) : StoredWorkspace γ :=
  { StoredWorkspace.created with file := s.file, lastWritten := s.lastWritten }

/-- What `NewStore` makes of the file. -/
def newStore (hooks : Hooks) (s : StoredWorkspace γ) : Option (StoredWorkspace γ) :=
  match s.file with
  | some (.whole content) =>
      if runLifecycleHooks hooks content.state then some (.loaded content) else none
  | _ => none

/-- There is no workspace, no file, and nobody who has seen one. -/
def start : Daemon γ where
  stored := .created
  inStore := false
  observedReady := false
  disposalStarted := false
  begunIn := fun _ => .initializing
  persists := []

/-- The workspace is made, something happens to it or to its file, a client
    asks, or the daemon is started again. -/
inductive Action (γ : Type)
  | newWorkspace (hooks : Hooks)
  | stored (a : StateFile.Action γ)
  | isReady
  | restart (hooks : Hooks)

/-- The workspace is taken to the store if its hooks then succeed. -/
def newWorkspace (d : Daemon γ) (hooks : Hooks) : Option (Daemon γ) :=
  if d.inStore then none
  else some { d with
    stored := forget d.stored
    inStore := runLifecycleHooks hooks .initializing }

/-- The call at this place says that the workspace is ready. -/
def saysReady (s : StoredWorkspace γ) : StateFile.Action γ → Bool
  | .run i _ => s.workspace.callers[i]? = some (.waitForInit (.returned true))
  | _ => false

/-- Where the file has gone there is nothing to be found. -/
def removesFile : StateFile.Action γ → Bool
  | .removeFile _ ok => ok
  | _ => false

namespace Daemon

variable (d : Daemon γ)

/-- Who began to persist the workspace in which state, after the step. -/
def begunAfter : StateFile.Action γ → Persister → WorkspaceState
  | .marshal p true => Function.update d.begunIn p d.stored.workspace.state
  | _ => d.begunIn

/-- The calls of `persist` that are over, after the step. -/
def persistsAfter : StateFile.Action γ → List PersistCall
  | .writeFile p outcome => ⟨d.begunIn p, outcome⟩ :: d.persists
  | _ => d.persists

end Daemon

/-- A restart keeps the file alone. What was seen is remembered to compare it
    with what is found. -/
def step (d : Daemon γ) : Action γ → Option (Daemon γ)
  | .newWorkspace hooks => newWorkspace d hooks
  | .stored a =>
      if d.inStore then
        (StateFile.step d.stored a).map fun s =>
          { stored := s
            inStore := true
            observedReady := d.observedReady || saysReady s a
            disposalStarted := d.disposalStarted || s.workspace.isDisposing || removesFile a
            begunIn := d.begunAfter a
            persists := d.persistsAfter a }
      else none
  | .isReady =>
      if d.inStore then
        some { d with observedReady := d.observedReady || d.stored.workspace.state = .ready }
      else none
  | .restart hooks => match newStore hooks d.stored with
    | some s => some { d with stored := s, inStore := true }
    | none => some { d with stored := forget d.stored, inStore := false }

/-- Once a caller has seen the workspace as ready, and as long as it is not being
    disposed of, a restart finds it ready. -/
def Recovers (d : Daemon γ) (a : Action γ) (d' : Daemon γ) : Prop :=
  match a with
  | .restart _ => d.observedReady = true → d.disposalStarted = false →
      d'.inStore = true ∧ d'.stored.workspace.state = .ready
  | _ => True

/-- The state in which the workspace was when the call of `persist` began that was
    the last to come to the file. There is none if that call left the file torn. -/
def lastPersisted : List PersistCall → Option WorkspaceState
  | [] => none
  | ⟨state, .written⟩ :: _ => some state
  | ⟨_, .torn⟩ :: _ => none
  | ⟨_, .failed⟩ :: calls => lastPersisted calls

/-- When the workspace was seen as ready and is not being disposed of, a restart
    comes only after a call of `persist` that began when the workspace was ready
    and has been the last to write, and the hooks for a workspace that is ready
    succeed. -/
def Kept (d : Daemon γ) : Action γ → Prop
  | .restart hooks => d.observedReady = true → d.disposalStarted = false →
      lastPersisted d.persists = some .ready ∧ runLifecycleHooks hooks .ready = true
  | _ => True

variable {d d' : Daemon γ} {a : Action γ}

/-- A restart finds the workspace ready exactly if the file says so and the
    hooks go through. -/
theorem newStore_eq_ready_iff (hooks : Hooks) (s : StoredWorkspace γ) :
    (newStore hooks s).map (fun t => t.workspace.state) = some .ready ↔
      s.fileState = some .ready ∧ runLifecycleHooks hooks .ready = true := by
  cases hfile : s.file with
  | none =>
      simp only [newStore, StoredWorkspace.fileState, hfile, Option.map_none, reduceCtorEq,
        false_and]
  | some file =>
      cases file with
      | torn =>
          simp only [newStore, StoredWorkspace.fileState, hfile, Option.map_none, reduceCtorEq,
            false_and]
      | whole content =>
          simp only [newStore, StoredWorkspace.fileState, hfile, Option.some.injEq]
          by_cases hok : runLifecycleHooks hooks content.state = true
          · rw [if_pos hok, Option.map_some, Option.some.injEq]
            -- the hooks that have run are those of the state in the file
            exact ⟨fun hstate => ⟨hstate, hstate ▸ hok⟩, fun h => h.1⟩
          · rw [if_neg hok, Option.map_none]
            exact iff_of_false (Option.some_ne_none _ ∘ Eq.symm)
              (fun h => hok (h.1 ▸ h.2))

/-- A call under way holds the workspace as it was when it began, and the file
    says what the last call wrote, unless it was removed. -/
structure Inv (d : Daemon γ) : Prop where
  begun : ∀ p content, d.stored.marshalled p = some content → content.state = d.begunIn p
  file : d.disposalStarted = false → d.stored.fileState = lastPersisted d.persists

theorem inv_start : Inv (start (γ := γ)) where
  begun _ _ h := absurd h (by simp only [start, StoredWorkspace.created, reduceCtorEq,
    not_false_eq_true])
  file _ := rfl

/-- What is forgotten or loaded is what is in the file, and nobody persists it. -/
theorem inv_of_file (hd : Inv d) (hnobody : ∀ p, d'.stored.marshalled p = none)
    (hfile : d'.stored.file = d.stored.file) (hdisposal : d'.disposalStarted = d.disposalStarted)
    (hpersists : d'.persists = d.persists) : Inv d' where
  begun p _ h := absurd (h.symm.trans (hnobody p)) (Option.some_ne_none _)
  file hnot := by
    rw [hpersists, ← hd.file (hdisposal ▸ hnot), StoredWorkspace.fileState, hfile]
    rfl

/-- What a call is about to write is the state in which the workspace was when
    it began. -/
theorem begun_stored {b : StateFile.Action γ} {s : StoredWorkspace γ} (hd : Inv d)
    (h : StateFile.step d.stored b = some s) (p : Persister) (content : PersistentWorkspace γ)
    (hp : s.marshalled p = some content) : content.state = d.begunAfter b p := by
  rcases marshalled_of_step h hp with ⟨hbefore, hnot⟩ | ⟨rfl, rfl⟩
  · rw [hd.begun p content hbefore]
    cases b with
    | marshal q ok =>
        cases ok with
        | true =>
            have hne : p ≠ q := fun heq => hnot true (by rw [heq])
            rw [Daemon.begunAfter, Function.update_of_ne hne]
        | false => rfl
    | _ => rfl
  · rw [Daemon.begunAfter, Function.update_self]
    rfl

/-- The file is that of the last call that wrote it, as long as no disposal has
    removed it. -/
theorem file_stored {b : StateFile.Action γ} {s : StoredWorkspace γ} (hd : Inv d)
    (h : StateFile.step d.stored b = some s)
    (hnot : (d.disposalStarted || s.workspace.isDisposing || removesFile b) = false) :
    s.fileState = lastPersisted (d.persistsAfter b) := by
  rw [Bool.or_eq_false_iff, Bool.or_eq_false_iff] at hnot
  rcases hnot with ⟨⟨hnot, -⟩, hremoves⟩
  have hbefore : d.stored.fileState = lastPersisted d.persists := hd.file hnot
  have hread : s.file = d.stored.file → s.fileState = lastPersisted d.persists :=
    fun hfile => by rw [StoredWorkspace.fileState, hfile]; exact hbefore
  cases effect_of_step h with
  | called _ _ _ hfile | ran _ _ _ _ hfile => exact hread hfile
  | kept _ _ _ hfile _ hno =>
      have hsame : d.persistsAfter b = d.persists := by
        cases b with
        | writeFile p outcome => exact absurd rfl (hno p outcome)
        | _ => rfl
      exact (hread hfile).trans (congrArg lastPersisted hsame.symm)
  | removed => exact absurd hremoves (by simp only [removesFile, Bool.true_eq_false,
      not_false_eq_true])
  | wrote p outcome content _ hp _ hfile =>
      rw [Daemon.persistsAfter]
      cases outcome with
      | failed => exact hread hfile
      | torn => rw [StoredWorkspace.fileState, hfile]; rfl
      | written =>
          -- what is written is the workspace as it was when the call began
          rw [StoredWorkspace.fileState, hfile, lastPersisted, ← hd.begun p content hp]
          rfl

/-- One case for each thing that can happen. A restart forgets all calls that
    were in progress. -/
theorem inv_step (hd : Inv d) (h : step d a = some d') : Inv d' := by
  cases a with
  | newWorkspace hooks =>
      rw [step, newWorkspace, Option.ite_none_left_eq_some, Option.some.injEq] at h
      rw [← h.2]
      exact inv_of_file hd (fun _ => rfl) rfl rfl rfl
  | isReady =>
      rw [step, Option.ite_none_right_eq_some, Option.some.injEq] at h
      rw [← h.2]
      exact ⟨hd.begun, hd.file⟩
  | restart hooks =>
      rw [step] at h
      cases hnew : newStore hooks d.stored with
      | none =>
          rw [hnew, Option.some.injEq] at h
          rw [← h]
          exact inv_of_file hd (fun _ => rfl) rfl rfl rfl
      | some s =>
          rw [hnew, Option.some.injEq] at h
          rw [← h]
          rw [newStore] at hnew
          split at hnew
          · next content hfile =>
              rw [Option.ite_none_right_eq_some, Option.some.injEq] at hnew
              rw [← hnew.2]
              exact inv_of_file hd (fun _ => rfl) hfile.symm rfl rfl
          · exact absurd hnew (by simp only [reduceCtorEq, not_false_eq_true])
  | stored b =>
      rw [step, Option.ite_none_right_eq_some] at h
      rcases Option.map_eq_some_iff.mp h.2 with ⟨s, hs, rfl⟩
      exact ⟨begun_stored hd hs, file_stored hd hs⟩

/-- A restart finds the workspace as the file and the hooks of its state have it. -/
theorem recovers_step_iff (hd : Inv d) (h : step d a = some d') : Recovers d a d' ↔ Kept d a := by
  cases a with
  | newWorkspace hooks => exact Iff.rfl
  | stored b => exact Iff.rfl
  | isReady => exact Iff.rfl
  | restart hooks =>
      refine imp_congr_right fun _ => imp_congr_right fun hdisposal => ?_
      rw [← hd.file hdisposal, ← newStore_eq_ready_iff]
      rw [step] at h
      cases hnew : newStore hooks d.stored with
      | none =>
          rw [hnew, Option.some.injEq] at h
          rw [← h, Option.map_none]
          exact iff_of_false (fun hstore => absurd hstore.1 Bool.false_ne_true)
            (Option.some_ne_none _ ∘ Eq.symm)
      | some s =>
          rw [hnew, Option.some.injEq] at h
          rw [← h, Option.map_some, Option.some.injEq]
          exact and_iff_right rfl

/-- In a run of any steps, with crashes and restarts among them, every restart
    finds as ready what was seen as ready, exactly when every restart comes
    after a call of `persist` that began when the workspace was ready and was
    the last to write, and its hooks succeed. Otherwise ws-manager, which was
    told that the content is there, and the restarted service disagree for good. -/
theorem recovers_iff (as : List (Action γ)) :
    StepsAlong step Recovers as start ↔ MeetsAlong step Kept as start :=
  stepsAlong_iff_meetsAlong_of_invariant (fun _ _ _ => inv_step) (fun _ _ _ => recovers_step_iff)
    as start inv_start

instance (d : Daemon γ) (d' : Daemon γ) : (a : Action γ) → Decidable (Recovers d a d')
  | .restart _ => inferInstanceAs (Decidable (d.observedReady = true → d.disposalStarted = false →
      d'.inStore = true ∧ d'.stored.workspace.state = .ready))
  | .newWorkspace _ | .stored _ | .isReady => isTrue trivial

/-- A workspace that is ready in its file is lost when the second of its hooks fails. -/
example : ¬ StepsAlong (step (γ := String)) Recovers [.newWorkspace fun _ => [],
    .stored (.call (.markInitDone .start)), .stored (.marshal (.caller 0) true),
    .stored (.writeFile (.caller 0) .written), .stored (.run 0 true), .stored (.run 0 true),
    .stored (.marshal (.caller 0) true), .stored (.writeFile (.caller 0) .written), .isReady,
    .restart fun _ => [], .restart fun _ => [true, false]] start := by decide +kernel

/-- `MarkInitDone` has marked the workspace as ready and not persisted it again,
    and a caller sees that it is ready. -/
theorem not_recovers :
    ¬ ∀ as : List (Action String), StepsAlong step Recovers as start := fun hall =>
  absurd (hall [.newWorkspace fun _ => [], .stored (.call (.markInitDone .start)),
      .stored (.marshal (.caller 0) true), .stored (.writeFile (.caller 0) .written),
      .stored (.run 0 true), .isReady, .restart fun _ => []])
    (by decide +kernel)

end Restart

end WsSync

end Nxpod
