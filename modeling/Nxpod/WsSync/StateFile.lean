import Nxpod.WsSync.Workspace

/-!
# The State File of a Workspace

A workspace of `ws-sync` is kept in memory and in a file, so that it is found
again after a restart. `persist` writes the file in two steps: it serializes the
workspace under the lock of the state, and writes what it has serialized when
it has given the lock back. In between the state may change and another call
may write the file.

Everything but the file is what the calls of the workspace do to it. A call
that is about to persist the workspace goes on when its file is written, and
`Dispose` when the file is removed. `SetGitStatus` is a call of its own, which
only persists.

Writing a file is one step. It may fail before the file is opened, or leave a
file behind that cannot be read.

## Main definitions

* `PersistentWorkspace`, `StateFile`: What is written, and what is in the file.
* `WriteOutcome`: The file is written, was not opened, or was opened and not
  written whole.
* `Persister`: Who persists the workspace: one of its callers, or a call of
  `SetGitStatus`.
* `StoredWorkspace`: A workspace, its file, and who is writing it.
* `persist`: Split into `marshal` and `writeFile`.
* `Action`, `step`: What can happen.
* `StoredWorkspace.loaded`: The workspace as it is found again.
* `Effect`: What a step does: to the workspace alone, to neither, or to the file
  when a caller writes or removes it.

## Theorems

* `workspace_step`: A step is one of the workspace, or none.
* `marshalled_of_step`: Who holds what it has serialized.
* `effect_of_step`: What a step does to the file and to its writers.
-/

namespace Nxpod

namespace WsSync

/-- A workspace as it is serialized. -/
structure PersistentWorkspace (γ : Type) where
  state : WorkspaceState
  lastGitStatus : Option γ
  deriving DecidableEq

/-- A file that was not written whole cannot be read. -/
inductive StateFile (γ : Type)
  | torn
  | whole (content : PersistentWorkspace γ)
  deriving DecidableEq

/-- The file is written, was not opened, or was opened and not written whole. -/
inductive WriteOutcome
  | written
  | failed
  | torn
  deriving DecidableEq

/-- Where a call of `SetGitStatus` is. -/
inductive SetGitStatus (γ : Type)
  | start (status : Option γ)
  | persisting
  | returned (ok : Bool)
  deriving DecidableEq

/-- Who persists the workspace: one of its callers, or a call of
    `SetGitStatus`. -/
inductive Persister
  | caller (i : Nat)
  | gitStatus (i : Nat)
  deriving DecidableEq

/-- A workspace with its file. `marshalled` is what each call has serialized and
    not yet written. `lastWritten` is the state that was written last. -/
structure StoredWorkspace (γ : Type) where
  workspace : Workspace
  lastGitStatus : Option γ
  statusCalls : List (SetGitStatus γ)
  marshalled : Persister → Option (PersistentWorkspace γ)
  file : Option (StateFile γ)
  lastWritten : Option WorkspaceState

variable {γ : Type}

/-- The call persists the workspace next. -/
def Caller.persistsNext : Caller → Bool
  | .markInitDone .start | .markInitDone .hooksRun | .waitOrMarkForDisposal .marked => true
  | _ => false

/-- The call removes the file next. -/
def Caller.removesNext : Caller → Bool
  | .dispose .start => true
  | _ => false

/-- A caller goes on that is about to persist the workspace or to remove its
    file, which changes nothing but who is where. -/
def GoesOn (w w' : Workspace) : Prop :=
  w' = w ∨ ∃ i ok t, w.callers[i]? = some t ∧ (t.persistsNext || t.removesNext) = true ∧
    step w (.run i ok) = some w'

namespace StoredWorkspace

/-- A workspace that is not in the store yet. -/
def created : StoredWorkspace γ where
  workspace := newWorkspace .initializing
  lastGitStatus := none
  statusCalls := []
  marshalled := fun _ => none
  file := none
  lastWritten := none

/-- A workspace that was found on disk. -/
def loaded (content : PersistentWorkspace γ) : StoredWorkspace γ where
  workspace := newWorkspace content.state
  lastGitStatus := content.lastGitStatus
  statusCalls := []
  marshalled := fun _ => none
  file := some (.whole content)
  lastWritten := some content.state

variable (s : StoredWorkspace γ)

/-- Whether a call is where it persists the workspace. -/
def persistsNext : Persister → Bool
  | .caller i => s.workspace.callers[i]?.any Caller.persistsNext
  | .gitStatus i => s.statusCalls[i]?.any fun call => match call with
    | .persisting => true
    | _ => false

/-- What is in the file is read off the workspace, under its lock. -/
def toPersistent : PersistentWorkspace γ where
  state := s.workspace.state
  lastGitStatus := s.lastGitStatus

/-- A step of one of the callers. -/
def runCaller (i : Nat) (ok : Bool) : Option (StoredWorkspace γ) :=
  (WsSync.step s.workspace (.run i ok)).map fun w => { s with workspace := w }

/-- The call of `persist` returns. -/
def returnPersist (ok : Bool) : Persister → Option (StoredWorkspace γ)
  | .caller i =>
      { s with marshalled := Function.update s.marshalled (.caller i) none }.runCaller i ok
  | .gitStatus i => some { s with
      marshalled := Function.update s.marshalled (.gitStatus i) none
      statusCalls := s.statusCalls.set i (.returned ok) }

/-- The first half of `persist`, under the lock of the state. -/
def marshal (p : Persister) (ok : Bool) : Option (StoredWorkspace γ) :=
  if s.persistsNext p && (s.marshalled p).isNone then
    if ok then
      some { s with marshalled := Function.update s.marshalled p (some s.toPersistent) }
    else s.returnPersist false p
  else none

/-- What is in the file, and which state was written last, after writing it. -/
def write (content : PersistentWorkspace γ) : WriteOutcome → StoredWorkspace γ
  | .written => { s with file := some (.whole content), lastWritten := some content.state }
  | .failed => s
  | .torn => { s with file := some .torn }

/-- The second half of `persist`. -/
def writeFile (p : Persister) (outcome : WriteOutcome) : Option (StoredWorkspace γ) :=
  if s.persistsNext p then
    match s.marshalled p with
    | none => none
    | some content => (s.write content outcome).returnPersist (outcome = .written) p
  else none

/-- The first step of `Dispose`. There has to be a file to be removed. -/
def removeFile (i : Nat) (ok : Bool) : Option (StoredWorkspace γ) :=
  if s.workspace.callers[i]?.any Caller.removesNext then
    if ok then
      if s.file.isSome then { s with file := none }.runCaller i true else none
    else s.runCaller i false
  else none

/-- The state the file says the workspace is in. -/
def fileState : Option WorkspaceState :=
  match s.file with
  | some (.whole content) => some content.state
  | _ => none

end StoredWorkspace

namespace StateFile

/-- A call goes on, one that persists takes its two steps, or `Dispose` removes
    the file. -/
inductive Action (γ : Type)
  | call (caller : Caller)
  | run (i : Nat) (ok : Bool)
  | setGitStatus (status : Option γ)
  | setLastGitStatus (i : Nat)
  | marshal (p : Persister) (ok : Bool)
  | writeFile (p : Persister) (outcome : WriteOutcome)
  | removeFile (i : Nat) (ok : Bool)

/-- Where a call would persist or remove the file it does so in a step of the
    file, and in no other. -/
def step (s : StoredWorkspace γ) : Action γ → Option (StoredWorkspace γ)
  | .call caller =>
      (WsSync.step s.workspace (.call caller)).map fun w => { s with workspace := w }
  | .run i ok =>
      if s.workspace.callers[i]?.any fun caller => caller.persistsNext || caller.removesNext then
        none
      else s.runCaller i ok
  | .setGitStatus status => some { s with statusCalls := s.statusCalls ++ [.start status] }
  | .setLastGitStatus i => match s.statusCalls[i]? with
    | some (.start status) => some { s with
        lastGitStatus := status
        statusCalls := s.statusCalls.set i .persisting }
    | _ => none
  | .marshal p ok => s.marshal p ok
  | .writeFile p outcome => s.writeFile p outcome
  | .removeFile i ok => s.removeFile i ok

variable {s s' : StoredWorkspace γ} {a : Action γ}

theorem runCaller_eq_some {i : Nat} {ok : Bool} (h : s.runCaller i ok = some s') :
    ∃ w, WsSync.step s.workspace (.run i ok) = some w ∧ s' = { s with workspace := w } := by
  rcases Option.map_eq_some_iff.mp h with ⟨w, hw, heq⟩
  exact ⟨w, hw, heq.symm⟩

/-- Returning from `persist` is a step of the caller that called it. -/
theorem returnPersist_eq_some {p : Persister} {ok : Bool} (hp : s.persistsNext p = true)
    (h : s.returnPersist ok p = some s') :
    s'.file = s.file ∧ s'.lastWritten = s.lastWritten ∧ GoesOn s.workspace s'.workspace := by
  cases p with
  | caller i =>
      rcases runCaller_eq_some h with ⟨w, hw, rfl⟩
      rcases (Option.any_eq_true _ _).mp hp with ⟨t, ht, hnext⟩
      exact ⟨rfl, rfl, Or.inr ⟨i, ok, t, ht, by rw [hnext, Bool.true_or], hw⟩⟩
  | gitStatus i =>
      rw [StoredWorkspace.returnPersist, Option.some.injEq] at h
      rw [← h]
      exact ⟨rfl, rfl, Or.inl rfl⟩

/-- Who returns from `persist` holds nothing any more. -/
theorem marshalled_of_returnPersist {p : Persister} {ok : Bool}
    (h : s.returnPersist ok p = some s') : s'.marshalled = Function.update s.marshalled p none := by
  cases p with
  | caller i =>
      rcases runCaller_eq_some h with ⟨w, -, rfl⟩
      rfl
  | gitStatus i =>
      rw [StoredWorkspace.returnPersist, Option.some.injEq] at h
      rw [← h]

/-- What a call holds after a step it has held before, or it has serialized the
    workspace in this step. -/
theorem marshalled_of_step (h : step s a = some s') {q : Persister}
    {content : PersistentWorkspace γ} (hq : s'.marshalled q = some content) :
    s.marshalled q = some content ∧ (∀ ok, a ≠ .marshal q ok) ∨
      a = .marshal q true ∧ content = s.toPersistent := by
  -- who returns is not the one that holds something
  have hreturned : ∀ {t : StoredWorkspace γ} {p : Persister} {ok : Bool},
      t.returnPersist ok p = some s' → q ≠ p ∧ t.marshalled q = some content := by
    intro t p ok hret
    rw [marshalled_of_returnPersist hret] at hq
    by_cases hqp : q = p
    · rw [hqp, Function.update_self] at hq
      exact absurd hq (by simp only [reduceCtorEq, not_false_eq_true])
    · rw [Function.update_of_ne hqp] at hq
      exact ⟨hqp, hq⟩
  cases a with
  -- A step in memory leaves what is marshalled alone.
  | call caller =>
      rcases Option.map_eq_some_iff.mp h with ⟨w, -, rfl⟩
      exact Or.inl ⟨hq, fun _ => nofun⟩
  | run i ok =>
      rw [step, Option.ite_none_left_eq_some] at h
      rcases runCaller_eq_some h.2 with ⟨w, -, rfl⟩
      exact Or.inl ⟨hq, fun _ => nofun⟩
  | setGitStatus status =>
      rw [step, Option.some.injEq] at h
      rw [← h] at hq
      exact Or.inl ⟨hq, fun _ => nofun⟩
  | setLastGitStatus i =>
      rw [step] at h
      split at h
      · rw [Option.some.injEq] at h
        rw [← h] at hq
        exact Or.inl ⟨hq, fun _ => nofun⟩
      · exact absurd h (by simp only [reduceCtorEq, not_false_eq_true])
  -- This is the one step that takes a copy of what is in memory.
  | marshal p ok =>
      rw [step, StoredWorkspace.marshal, Option.ite_none_right_eq_some] at h
      cases ok with
      | true =>
          rw [if_pos rfl, Option.some.injEq] at h
          have hupdate : s'.marshalled = Function.update s.marshalled p (some s.toPersistent) := by
            rw [← h.2]
          rw [hupdate] at hq
          by_cases hqp : q = p
          · rw [hqp, Function.update_self, Option.some.injEq] at hq
            exact Or.inr ⟨by rw [hqp], hq.symm⟩
          · rw [Function.update_of_ne hqp] at hq
            exact Or.inl ⟨hq, fun _ heq => hqp (Action.marshal.inj heq).1.symm⟩
      | false =>
          rcases hreturned h.2 with ⟨hqp, hbefore⟩
          exact Or.inl ⟨hbefore, fun _ heq => hqp (Action.marshal.inj heq).1.symm⟩
  | writeFile p outcome =>
      rw [step, StoredWorkspace.writeFile, Option.ite_none_right_eq_some] at h
      cases hm : s.marshalled p with
      | none => rw [hm] at h; exact absurd h.2 (by simp only [reduceCtorEq, not_false_eq_true])
      | some written =>
          rw [hm] at h
          -- Writing the file uses up the copy of the one who writes.
          have hsame : (s.write written outcome).marshalled = s.marshalled := by
            cases outcome <;> rfl
          exact Or.inl ⟨hsame ▸ (hreturned h.2).2, fun _ => nofun⟩
  | removeFile i ok =>
      rw [step, StoredWorkspace.removeFile, Option.ite_none_right_eq_some] at h
      have hsame : s'.marshalled = s.marshalled := by
        cases ok with
        | true =>
            rw [if_pos rfl, Option.ite_none_right_eq_some] at h
            rcases runCaller_eq_some h.2.2 with ⟨w, -, rfl⟩
            rfl
        | false =>
            rcases runCaller_eq_some h.2 with ⟨w, -, rfl⟩
            rfl
      exact Or.inl ⟨hsame ▸ hq, fun _ => nofun⟩

/-- What a step does: to the workspace alone, to neither, or to the file when a
    caller writes or removes it. -/
inductive Effect (s : StoredWorkspace γ) : Action γ → StoredWorkspace γ → Prop
  | called (caller : Caller) (s' : StoredWorkspace γ)
      (hstep : WsSync.step s.workspace (.call caller) = some s'.workspace)
      (hfile : s'.file = s.file) (hlast : s'.lastWritten = s.lastWritten) :
      Effect s (.call caller) s'
  | ran (i : Nat) (ok : Bool) (s' : StoredWorkspace γ)
      (hstep : WsSync.step s.workspace (.run i ok) = some s'.workspace)
      (hfile : s'.file = s.file) (hlast : s'.lastWritten = s.lastWritten) :
      Effect s (.run i ok) s'
  | kept (a : Action γ) (s' : StoredWorkspace γ) (hgoes : GoesOn s.workspace s'.workspace)
      (hfile : s'.file = s.file) (hlast : s'.lastWritten = s.lastWritten)
      (hnot : ∀ p outcome, a ≠ .writeFile p outcome) : Effect s a s'
  | wrote (p : Persister) (outcome : WriteOutcome) (content : PersistentWorkspace γ)
      (s' : StoredWorkspace γ) (hp : s.marshalled p = some content)
      (hgoes : GoesOn s.workspace s'.workspace) (hfile : s'.file = (s.write content outcome).file)
      (hlast : s'.lastWritten = (s.write content outcome).lastWritten) :
      Effect s (.writeFile p outcome) s'
  | removed (i : Nat) (s' : StoredWorkspace γ) (hgoes : GoesOn s.workspace s'.workspace)
      (hfile : s'.file = none) (hlast : s'.lastWritten = s.lastWritten) :
      Effect s (.removeFile i true) s'

theorem effect_of_marshal {p : Persister} {ok : Bool} (h : s.marshal p ok = some s') :
    Effect s (.marshal p ok) s' := by
  rw [StoredWorkspace.marshal, Option.ite_none_right_eq_some, Bool.and_eq_true] at h
  rcases h with ⟨⟨hp, -⟩, h⟩
  cases ok with
  | true =>
      rw [if_pos rfl, Option.some.injEq] at h
      rw [← h]
      exact .kept _ _ (Or.inl rfl) rfl rfl (fun _ _ => nofun)
  | false =>
      rcases returnPersist_eq_some hp h with ⟨hfile, hlast, hgoes⟩
      exact .kept _ _ hgoes hfile hlast (fun _ _ => nofun)

theorem effect_of_writeFile {p : Persister} {outcome : WriteOutcome}
    (h : s.writeFile p outcome = some s') : Effect s (.writeFile p outcome) s' := by
  rw [StoredWorkspace.writeFile, Option.ite_none_right_eq_some] at h
  rcases h with ⟨hp, h⟩
  cases hm : s.marshalled p with
  | none => rw [hm] at h; exact absurd h (by simp only [reduceCtorEq, not_false_eq_true])
  | some content =>
      rw [hm] at h
      have hsame : (s.write content outcome).workspace = s.workspace ∧
          (s.write content outcome).persistsNext p = s.persistsNext p := by
        cases outcome <;> exact ⟨rfl, rfl⟩
      rcases returnPersist_eq_some (hsame.2.trans hp) h with ⟨hfile, hlast, hgoes⟩
      exact .wrote p outcome content _ hm (hsame.1 ▸ hgoes) hfile hlast

theorem effect_of_removeFile {i : Nat} {ok : Bool} (h : s.removeFile i ok = some s') :
    Effect s (.removeFile i ok) s' := by
  rw [StoredWorkspace.removeFile, Option.ite_none_right_eq_some] at h
  rcases h with ⟨hremoves, h⟩
  rcases (Option.any_eq_true _ _).mp hremoves with ⟨t, ht, hnext⟩
  have hgoes : ∀ {w}, WsSync.step s.workspace (.run i ok) = some w → GoesOn s.workspace w :=
    fun hw => Or.inr ⟨i, ok, t, ht, by rw [hnext, Bool.or_true], hw⟩
  cases ok with
  | true =>
      rw [if_pos rfl, Option.ite_none_right_eq_some] at h
      rcases runCaller_eq_some h.2 with ⟨w, hw, rfl⟩
      exact .removed i _ (hgoes hw) rfl rfl
  | false =>
      rcases runCaller_eq_some h with ⟨w, hw, rfl⟩
      exact .kept _ _ (hgoes hw) rfl rfl (fun _ _ => nofun)

/-- All that a step can do to the workspace and to its file. -/
theorem effect_of_step (h : step s a = some s') : Effect s a s' := by
  cases a with
  | call caller =>
      rcases Option.map_eq_some_iff.mp h with ⟨w, hw, rfl⟩
      exact .called caller _ hw rfl rfl
  | run i ok =>
      rw [step, Option.ite_none_left_eq_some] at h
      rcases runCaller_eq_some h.2 with ⟨w, hw, rfl⟩
      exact .ran i ok _ hw rfl rfl
  | setGitStatus status =>
      rw [step, Option.some.injEq] at h
      rw [← h]
      exact .kept _ _ (Or.inl rfl) rfl rfl (fun _ _ => nofun)
  | setLastGitStatus i =>
      rw [step] at h
      split at h
      · rw [Option.some.injEq] at h
        rw [← h]
        exact .kept _ _ (Or.inl rfl) rfl rfl (fun _ _ => nofun)
      · exact absurd h (by simp only [reduceCtorEq, not_false_eq_true])
  | marshal p ok => exact effect_of_marshal h
  | writeFile p outcome => exact effect_of_writeFile h
  | removeFile i ok => exact effect_of_removeFile h

/-- A step is one of the workspace, or none: everything that holds along all
    runs of the workspace holds here. -/
theorem workspace_step (h : step s a = some s') :
    s'.workspace = s.workspace ∨ ∃ b, WsSync.step s.workspace b = some s'.workspace := by
  have hgo : GoesOn s.workspace s'.workspace →
      s'.workspace = s.workspace ∨ ∃ b, WsSync.step s.workspace b = some s'.workspace := by
    rintro (hsame | ⟨i, ok, -, -, -, hrun⟩)
    · exact Or.inl hsame
    · exact Or.inr ⟨_, hrun⟩
  cases effect_of_step h with
  | called caller _ hstep => exact Or.inr ⟨_, hstep⟩
  | ran i ok _ hstep => exact Or.inr ⟨_, hstep⟩
  | kept _ _ hgoes => exact hgo hgoes
  | wrote _ _ _ _ _ hgoes => exact hgo hgoes
  | removed _ _ hgoes => exact hgo hgoes

end StateFile

end WsSync

end Nxpod
