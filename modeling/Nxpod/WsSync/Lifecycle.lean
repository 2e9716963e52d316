import Nxpod.WsSync.StateFile

/-!
# The Lifecycle of a Workspace

The state of a workspace is meant to move forward only: initializing, ready,
disposing, disposed. `WaitOrMarkForDisposal` looks at the state before it
changes it. `MarkInitDone` does not, so a workspace that is being disposed of
can become ready again. And what `persist` has serialized may be outdated when
it is written, so the file can fall back as well, and can come back when
`Dispose` has removed it.

## Main definitions

* `WorkspaceState.stage`: How far a workspace is.
* `MovesForward`: One state of a run does not fall behind another.
* `Orderly`: A step that does not make the workspace fall back.
* `Fresh`: A workspace nobody has called yet: a new one, or one that was found
  on disk.

## Theorems

* `state_of_step`: How a step changes the state.
* `fileChange_of_step`: Who changes the file, and to what.
* `saysLastWritten_step`: The file says what was written last, unless it was
  removed.
* `ahead_step`: What an orderly step preserves.
* `movesForward_of_orderly`: Runs of orderly steps.
* `not_movesForward`: Runs of any steps.
-/

namespace Nxpod

namespace WsSync

open Transition

/-- How far a workspace has come. -/
def WorkspaceState.stage : WorkspaceState → Nat
  | .initializing => 0
  | .ready => 1
  | .disposing => 2
  | .disposed => 3

/-- The workspace is being disposed of, or was. -/
def Workspace.isDisposing (s : Workspace) : Bool :=
  s.state = .disposing || s.state = .disposed

theorem isDisposing_iff {s : Workspace} :
    s.isDisposing = true ↔ WorkspaceState.disposing.stage ≤ s.state.stage := by
  rw [Workspace.isDisposing, Bool.or_eq_true, decide_eq_true_eq, decide_eq_true_eq]
  cases s.state <;> decide

/-- How the state changes: it stays, the workspace is marked for disposal, it is
    disposed of, or it is marked as ready. -/
inductive StateChange (s : Workspace) (t : Caller) (state : WorkspaceState) : Prop
  | same (h : state = s.state)
  | disposing (ht : t = .waitOrMarkForDisposal .start)
      (hbefore : s.state.stage ≤ WorkspaceState.ready.stage) (h : state = .disposing)
  | disposed (ht : t = .dispose .removed) (h : state = .disposed)
  | ready (ht : t = .markInitDone .persisted) (h : state = .ready)

theorem state_of_runCaller {s s' : Workspace} {i : Nat} {ok : Bool} {t t' : Caller}
    (h : runCaller s i ok t = some (s', t')) : StateChange s t s'.state := by
  cases turn_of_runCaller h with
  | quiet _ _ _ hstate => exact .same hstate
  | becomeReady => exact .ready rfl rfl
  | becomeDisposed => exact .disposed rfl rfl
  | markDisposing =>
      refine .disposing rfl ?_ rfl
      rcases eq_some_of_map h with ⟨pc', hpc, ht⟩
      simp only [waitOrMarkForDisposal] at hpc
      split_ifs at hpc with hdisposed hdisposing
      · rw [Option.some.injEq, Prod.mk.injEq] at hpc
        rw [← hpc.2] at ht
        exact absurd ht (by decide)
      · cases hs : s.state <;> first | exact absurd hs hdisposed | exact absurd hs hdisposing |
          decide
      · rw [Option.some.injEq, Prod.mk.injEq] at hpc
        rw [← hpc.2] at ht
        exact absurd ht (by decide)

/-- Everyone else leaves it as it is. -/
theorem state_of_step {s s' : Workspace} {a : Action} (h : step s a = some s') :
    s'.state = s.state ∨ ∃ i ok t, a = .run i ok ∧ s.callers[i]? = some t ∧
      StateChange s t s'.state := by
  cases a with
  | call caller =>
      rw [step, Option.ite_none_right_eq_some] at h
      rw [← Option.some.inj h.2]
      exact Or.inl rfl
  | run i ok =>
      rw [step] at h
      split at h
      · exact absurd h (by simp only [reduceCtorEq, not_false_eq_true])
      · next t ht =>
          rcases Option.map_eq_some_iff.mp h with ⟨⟨s'', t'⟩, hrun, rfl⟩
          have hchange : StateChange s t s''.state := state_of_runCaller hrun
          exact Or.inr ⟨i, ok, t, rfl, ht, hchange⟩

/-- A call that is about to persist the workspace or to remove its file does not
    change the state. -/
theorem state_of_goesOn {w w' : Workspace} (h : GoesOn w w') : w'.state = w.state := by
  rcases h with rfl | ⟨i, ok, t, ht, hnext, hrun⟩
  · rfl
  · rcases state_of_step hrun with hsame | ⟨j, _, u, heq, hu, hchange⟩
    · exact hsame
    · rw [Action.run.injEq] at heq
      rw [← heq.1, ht, Option.some.injEq] at hu
      rw [← hu] at hchange
      cases hchange with
      | same hsame => exact hsame
      | disposing hcall | disposed hcall | ready hcall =>
          rw [hcall] at hnext
          exact absurd hnext (by decide)

/-! ## Moving forward -/

variable {γ : Type}

/-- The workspace is no less far in a later state than it was, in memory and in
    its file, and it does not become ready while it is being disposed of or
    afterwards. -/
structure MovesForward (s t : StoredWorkspace γ) : Prop where
  memory : s.workspace.state.stage ≤ t.workspace.state.stage
  file : ∀ f f', s.fileState = some f → t.fileState = some f' → f.stage ≤ f'.stage
  notReady : s.workspace.isDisposing = true → s.fileState ≠ some .ready →
    t.workspace.state ≠ .ready ∧ t.fileState ≠ some .ready

namespace StateFile

/-- A step that does not make the workspace fall back: it is marked as ready only
    before it is marked for disposal, and what is written to the file is not
    behind what was written to it before, and is not that a workspace is ready
    which is being disposed of. -/
def Orderly (s : StoredWorkspace γ) : Action γ → Prop
  | .run i _ => s.workspace.callers[i]? = some (.markInitDone .persisted) →
      s.workspace.isDisposing = false
  | .writeFile p .written => ∀ content ∈ s.marshalled p,
      (∀ st ∈ s.lastWritten, st.stage ≤ content.state.stage) ∧
      (content.state = .ready → s.workspace.isDisposing = true → s.fileState = some .ready)
  | _ => True

variable {s s' t : StoredWorkspace γ} {a : Action γ}

/-- What is in memory falls behind only where `MarkInitDone` comes late. -/
theorem memory_step (h : step s a = some s') (hok : Orderly s a) :
    s.workspace.state.stage ≤ s'.workspace.state.stage := by
  have hgo : GoesOn s.workspace s'.workspace →
      s.workspace.state.stage ≤ s'.workspace.state.stage :=
    fun hgoes => Nat.le_of_eq (congrArg WorkspaceState.stage (state_of_goesOn hgoes).symm)
  cases effect_of_step h with
  | called caller _ hstep =>
      rcases state_of_step hstep with hsame | ⟨_, _, _, heq, -⟩
      · exact Nat.le_of_eq (congrArg WorkspaceState.stage hsame.symm)
      · exact absurd heq (by simp only [reduceCtorEq, not_false_eq_true])
  | ran i ok _ hstep =>
      rcases state_of_step hstep with hsame | ⟨j, _, t, heq, ht, hchange⟩
      · exact Nat.le_of_eq (congrArg WorkspaceState.stage hsame.symm)
      · rw [WsSync.Action.run.injEq] at heq
        rw [← heq.1] at ht
        cases hchange with
        | same hsame => exact Nat.le_of_eq (congrArg WorkspaceState.stage hsame.symm)
        | disposing _ hbefore hnew =>
            rw [hnew]
            exact Nat.le_trans hbefore (by decide)
        | disposed _ hnew =>
            rw [hnew]
            cases s.workspace.state <;> decide
        | ready hcall hnew =>
            -- In order, nobody is disposing of the workspace.
            have hbefore := hok (hcall ▸ ht)
            rw [hnew]
            cases hs : s.workspace.state <;>
              simp only [Workspace.isDisposing, hs, decide_true, Bool.true_or, Bool.or_true,
                Bool.true_eq_false] at hbefore
            all_goals decide
  | kept _ _ hgoes => exact hgo hgoes
  | wrote _ _ _ _ _ hgoes => exact hgo hgoes
  | removed _ _ hgoes => exact hgo hgoes

/-- The file is as it was, cannot be read any more, or has been written. -/
inductive FileChange (s : StoredWorkspace γ) : Action γ → StoredWorkspace γ → Prop
  | same (a : Action γ) (s' : StoredWorkspace γ) (hfile : s'.fileState = s.fileState)
      (hlast : s'.lastWritten = s.lastWritten) : FileChange s a s'
  | lost (a : Action γ) (s' : StoredWorkspace γ) (hfile : s'.fileState = none)
      (hlast : s'.lastWritten = s.lastWritten) : FileChange s a s'
  | written (p : Persister) (content : PersistentWorkspace γ) (s' : StoredWorkspace γ)
      (hp : s.marshalled p = some content) (hfile : s'.fileState = some content.state)
      (hlast : s'.lastWritten = some content.state) : FileChange s (.writeFile p .written) s'

/-- Who changes the file, and to what. -/
theorem fileChange_of_step (h : step s a = some s') : FileChange s a s' := by
  have hread : ∀ {t t' : StoredWorkspace γ}, t'.file = t.file → t'.fileState = t.fileState :=
    fun hfile => by rw [StoredWorkspace.fileState, hfile]; rfl
  cases effect_of_step h with
  | called _ _ _ hfile hlast | ran _ _ _ _ hfile hlast | kept _ _ _ hfile hlast =>
      exact .same _ _ (hread hfile) hlast
  | wrote p outcome content _ hp _ hfile hlast =>
      cases outcome with
      | written => exact .written p content _ hp (hread hfile) hlast
      | failed => exact .same _ _ (hread hfile) hlast
      | torn => exact .lost _ _ (hread hfile) hlast
  | removed _ _ _ hfile hlast => exact .lost _ _ (by rw [StoredWorkspace.fileState, hfile]) hlast

/-- What is written last falls behind only where it was serialized before the
    state went on. -/
theorem lastWritten_step (h : step s a = some s') (hok : Orderly s a) {st : WorkspaceState}
    (hst : s.lastWritten = some st) :
    ∃ st', s'.lastWritten = some st' ∧ st.stage ≤ st'.stage := by
  cases fileChange_of_step h with
  | same _ _ _ hlast | lost _ _ _ hlast => exact ⟨st, hlast.trans hst, Nat.le_refl _⟩
  | written p content _ hp _ hlast => exact ⟨content.state, hlast, (hok content hp).1 st hst⟩

/-- What the file says was written last. -/
def SaysLastWritten (s : StoredWorkspace γ) : Prop :=
  ∀ f, s.fileState = some f → s.lastWritten = some f

/-- The file says what was written last, unless it was removed. -/
theorem saysLastWritten_step (hs : SaysLastWritten s) (h : step s a = some s') :
    SaysLastWritten s' := by
  intro f hf
  cases fileChange_of_step h with
  | same _ _ hfile hlast => rw [hlast, hs f (hfile.symm.trans hf)]
  | lost _ _ hfile => exact absurd (hfile.symm.trans hf) (by simp only [reduceCtorEq,
      not_false_eq_true])
  | written _ _ _ _ hfile hlast => rw [hlast, ← hfile, hf]

/-- What the steps of a run keep up from a state on: besides what is in the
    file, what was written last is compared, which outlives the file. -/
structure Ahead (s t : StoredWorkspace γ) : Prop where
  memory : s.workspace.state.stage ≤ t.workspace.state.stage
  saysLast : SaysLastWritten t
  lastWritten : ∀ st, s.lastWritten = some st →
    ∃ st', t.lastWritten = some st' ∧ st.stage ≤ st'.stage
  notReady : s.workspace.isDisposing = true → s.fileState ≠ some .ready → t.fileState ≠ some .ready

theorem isDisposing_of_le {w w' : Workspace} (hle : w.state.stage ≤ w'.state.stage)
    (hw : w.isDisposing = true) : w'.isDisposing = true :=
  isDisposing_iff.mpr (Nat.le_trans (isDisposing_iff.mp hw) hle)

/-- This is what is shown by induction: the later state is ahead in memory and
    in what was written. -/
theorem ahead_step (ha : Ahead s t) {t' : StoredWorkspace γ} (h : step t a = some t')
    (hok : Orderly t a) : Ahead s t' where
  memory := Nat.le_trans ha.memory (memory_step h hok)
  saysLast := saysLastWritten_step ha.saysLast h
  lastWritten st hst := by
    rcases ha.lastWritten st hst with ⟨st', hst', hle⟩
    rcases lastWritten_step h hok hst' with ⟨st'', hst'', hle'⟩
    exact ⟨st'', hst'', Nat.le_trans hle hle'⟩
  notReady hdisposing hfile := by
    have hbefore := ha.notReady hdisposing hfile
    cases fileChange_of_step h with
    | same _ _ hsame => rw [hsame]; exact hbefore
    | lost _ _ hnone => rw [hnone]; exact Option.some_ne_none _ ∘ Eq.symm
    | written p content _ hp hnew =>
        rw [hnew]
        intro hready
        rw [Option.some.injEq] at hready
        exact hbefore ((hok content hp).2 hready (isDisposing_of_le ha.memory hdisposing))

/-- From it the file is known, as long as there is one. -/
theorem movesForward_of_ahead (hs : SaysLastWritten s) (ha : Ahead s t) : MovesForward s t where
  memory := ha.memory
  file f f' hf hf' := by
    rcases ha.lastWritten f (hs f hf) with ⟨st', hst', hle⟩
    rw [ha.saysLast f' hf', Option.some.injEq] at hst'
    rw [hst']
    exact hle
  notReady hdisposing hfile := by
    refine ⟨fun hready => ?_, ha.notReady hdisposing hfile⟩
    have hlate := isDisposing_iff.mp (isDisposing_of_le ha.memory hdisposing)
    rw [hready] at hlate
    exact absurd hlate (by decide)

/-- A workspace nobody has called yet: a new one, or one that was found on disk. -/
inductive Fresh : StoredWorkspace γ → Prop
  | created : Fresh .created
  | loaded (content : PersistentWorkspace γ) : Fresh (.loaded content)

theorem saysLastWritten_of_fresh (h : Fresh s) : SaysLastWritten s := by
  cases h with
  | created => exact fun f hf => absurd hf (by simp only [StoredWorkspace.fileState,
      StoredWorkspace.created, reduceCtorEq, not_false_eq_true])
  | loaded content => exact fun f hf => hf

/-- Along orderly steps a workspace only moves forward: no state that comes
    later falls behind one that came before, and a workspace that is or was
    being disposed of does not become ready again. It is so of what is in memory
    and of the file, which is written in a step of its own and may be behind. -/
theorem movesForward_of_orderly (s₀ s t : StoredWorkspace γ) (hfresh : Fresh s₀)
    (hs : ReachesWithin step Orderly s₀ s) (ht : ReachesWithin step Orderly s t) :
    MovesForward s t := by
  have hlast : SaysLastWritten s :=
    invariant_of_reachesWithin (fun _ _ _ _ hl _ hstep => saysLastWritten_step hl hstep) hs
      (saysLastWritten_of_fresh hfresh)
  have hahead : Ahead s t :=
    invariant_of_reachesWithin (fun _ _ _ _ ha hok hstep => ahead_step ha hstep hok) ht
      ⟨Nat.le_refl _, hlast, fun st hst => ⟨st, hst, Nat.le_refl _⟩, fun _ hne => hne⟩
  exact movesForward_of_ahead hlast hahead

instance : (s : StoredWorkspace γ) → (a : Action γ) → Decidable (Orderly s a)
  | s, .run i _ => inferInstanceAs (Decidable
      (s.workspace.callers[i]? = some (.markInitDone .persisted) →
        s.workspace.isDisposing = false))
  | s, .writeFile p .written => inferInstanceAs (Decidable (∀ content ∈ s.marshalled p,
      (∀ st ∈ s.lastWritten, st.stage ≤ content.state.stage) ∧
      (content.state = .ready → s.workspace.isDisposing = true → s.fileState = some .ready)))
  | _, .writeFile _ .failed | _, .writeFile _ .torn => isTrue trivial
  | _, .call _ | _, .setGitStatus _ | _, .setLastGitStatus _ | _, .marshal _ _ => isTrue trivial
  | _, .removeFile _ _ => isTrue trivial

/-- A new workspace is initialized, its Git status is set while it is ready, and
    it is disposed of. -/
theorem movesForward_of_orderly_disposed :
    ∃ s t : StoredWorkspace String,
      runActions step [.call (.markInitDone .start), .marshal (.caller 0) true,
        .writeFile (.caller 0) .written, .run 0 true, .run 0 true, .marshal (.caller 0) true,
        .setGitStatus (some "main"), .setLastGitStatus 0, .marshal (.gitStatus 0) true,
        .writeFile (.gitStatus 0) .written] .created = some s ∧
      runActions step [.writeFile (.caller 0) .written, .call (.waitOrMarkForDisposal .start),
        .run 1 true, .marshal (.caller 1) true, .writeFile (.caller 1) .written, .run 1 true,
        .call (.dispose .start), .removeFile 2 true, .run 2 true] s = some t ∧
      MovesForward s t := by
  rcases exists_of_runActions_any (step (γ := String)) [.call (.markInitDone .start),
      .marshal (.caller 0) true, .writeFile (.caller 0) .written, .run 0 true, .run 0 true,
      .marshal (.caller 0) true, .setGitStatus (some "main"), .setLastGitStatus 0,
      .marshal (.gitStatus 0) true, .writeFile (.gitStatus 0) .written] .created
    (fun s => (runActions step [.writeFile (.caller 0) .written,
      .call (.waitOrMarkForDisposal .start), .run 1 true, .marshal (.caller 1) true,
      .writeFile (.caller 1) .written, .run 1 true, .call (.dispose .start), .removeFile 2 true,
      .run 2 true] s).isSome && decide (MeetsAlong step Orderly [.writeFile (.caller 0) .written,
      .call (.waitOrMarkForDisposal .start), .run 1 true, .marshal (.caller 1) true,
      .writeFile (.caller 1) .written, .run 1 true, .call (.dispose .start), .removeFile 2 true,
      .run 2 true] s)) (by decide +kernel) with ⟨s, hs, hrest⟩
  rw [Bool.and_eq_true, decide_eq_true_eq] at hrest
  rcases Option.isSome_iff_exists.mp hrest.1 with ⟨t, ht⟩
  exact ⟨s, t, hs, ht, movesForward_of_orderly .created s t .created
    (reachesWithin_of_runActions _ _ _ (by decide +kernel) hs)
    (reachesWithin_of_runActions _ _ _ hrest.2 ht)⟩

/-- In memory and in its file a workspace that is being disposed of becomes ready
    again. `MarkInitDone` is called while the workspace is being initialized and
    marks it as ready when it has been marked for disposal. And what
    `MarkInitDone` has serialized last is written when the file says that the
    workspace is being disposed of. -/
theorem not_movesForward :
    (¬ ∀ s₀ s t : StoredWorkspace String, Fresh s₀ → ReachesWithin step (fun _ _ => True) s₀ s →
      ReachesWithin step (fun _ _ => True) s t →
        s.workspace.state.stage ≤ t.workspace.state.stage) ∧
    ¬ ∀ s₀ s t : StoredWorkspace String, Fresh s₀ → ReachesWithin step (fun _ _ => True) s₀ s →
      ReachesWithin step (fun _ _ => True) s t → s.fileState = some .disposing →
        t.fileState ≠ some .ready := by
  constructor
  · intro hall
    -- Marked as ready after it was marked for disposal.
    rcases exists_of_runActions_any (step (γ := String)) [.call (.markInitDone .start),
        .marshal (.caller 0) true, .writeFile (.caller 0) .written,
        .call (.waitOrMarkForDisposal .start), .run 1 true] .created
      (fun s => s.workspace.state = .disposing && (step s (.run 0 true)).any
        fun t => t.workspace.state = .ready) (by decide +kernel) with ⟨s, hs, hnext⟩
    rw [Bool.and_eq_true, decide_eq_true_eq, Option.any_eq_true] at hnext
    rcases hnext with ⟨hdisposing, t, ht, hready⟩
    have hle := hall _ s t .created (reaches_of_runActions hs)
      (.step s s t _ (.refl s) trivial ht)
    rw [hdisposing, of_decide_eq_true hready] at hle
    exact absurd hle (by decide)
  · intro hall
    -- The file of the first call is written after that of the second.
    rcases exists_of_runActions_any (step (γ := String)) [.call (.markInitDone .start),
        .marshal (.caller 0) true, .writeFile (.caller 0) .written, .run 0 true, .run 0 true,
        .marshal (.caller 0) true, .call (.waitOrMarkForDisposal .start), .run 1 true,
        .marshal (.caller 1) true, .writeFile (.caller 1) .written] .created
      (fun s => s.fileState = some .disposing && (step s (.writeFile (.caller 0) .written)).any
        fun t => t.fileState = some .ready) (by decide +kernel) with ⟨s, hs, hnext⟩
    rw [Bool.and_eq_true, decide_eq_true_eq, Option.any_eq_true] at hnext
    rcases hnext with ⟨hdisposing, t, ht, hready⟩
    exact hall _ s t .created (reaches_of_runActions hs) (.step s s t _ (.refl s) trivial ht)
      hdisposing (of_decide_eq_true hready)

end StateFile

end WsSync

end Nxpod
