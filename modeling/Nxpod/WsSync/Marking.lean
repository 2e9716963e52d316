import Nxpod.WsSync.Lifecycle

/-!
# Marking a Workspace for Disposal

`WaitOrMarkForDisposal` marks a workspace for disposal once: it looks at the
state and changes it under the lock, and the state does not come back unless
the workspace is initialized again. So of all calls ever made one at most has
marked the workspace, and that it has can be told from where it is.

## Main definitions

* `Caller.hasMarked`: The call has marked the workspace for disposal.
* `MarkedOnce`: One call at most has.

## Theorems

* `getElem?_of_step`: The callers after a step.
* `hasMarked_step`: Who has marked the workspace.
* `markedOnce_step`: What a step preserves.
* `returned_step`: A call that has returned does not go on.
-/

namespace Nxpod

namespace WsSync

open Transition

/-- The call has marked the workspace for disposal. -/
def Caller.hasMarked : Caller → Bool
  | .waitOrMarkForDisposal .marked | .waitOrMarkForDisposal .persisted => true
  | .waitOrMarkForDisposal (.returned false _) => true
  | _ => false

/-- The call is one of `MarkInitDone`. -/
def Caller.isMarkInitDone : Caller → Bool
  | .markInitDone _ => true
  | _ => false

variable {s s' : Workspace} {i : Nat} {ok : Bool} {t t' : Caller}

theorem hasMarked_wake (t : Caller) : t.wake.hasMarked = t.hasMarked := by
  cases t with
  | waitForInit pc => cases pc <;> rfl
  | waitOrMarkForDisposal pc => cases pc <;> rfl
  | markInitDone pc | dispose pc => rfl

theorem isMarkInitDone_wake (t : Caller) : t.wake.isMarkInitDone = t.isMarkInitDone := by
  cases t with
  | waitForInit pc => cases pc <;> rfl
  | waitOrMarkForDisposal pc => cases pc <;> rfl
  | markInitDone pc | dispose pc => rfl

theorem isMarkInitDone_runCaller (h : runCaller s i ok t = some (s', t')) :
    t'.isMarkInitDone = t.isMarkInitDone := by
  cases t with
  | waitForInit pc | markInitDone pc | waitOrMarkForDisposal pc | dispose pc =>
      rcases eq_some_of_map h with ⟨pc', -, rfl⟩
      rfl

/-- A call gets to where it has marked the workspace by marking it. -/
theorem hasMarked_runCaller (h : runCaller s i ok t = some (s', t'))
    (ht' : t'.hasMarked = true) :
    t.hasMarked = true ∨
      s.state.stage ≤ WorkspaceState.ready.stage ∧ s'.state = .disposing := by
  cases t with
  | waitForInit pc | markInitDone pc | dispose pc =>
      rcases eq_some_of_map h with ⟨pc', -, rfl⟩
      exact absurd ht' (by simp only [Caller.hasMarked, Bool.false_eq_true, not_false_eq_true])
  | waitOrMarkForDisposal pc =>
      rcases eq_some_of_map h with ⟨pc', hpc, rfl⟩
      cases pc with
      | start =>
          -- Only from the start the workspace is marked, and only if nobody has marked it.
          have hchange := state_of_runCaller h
          simp only [waitOrMarkForDisposal] at hpc
          split_ifs at hpc with hdisposed hdisposing
          · rw [Option.some.injEq, Prod.mk.injEq] at hpc
            rw [← hpc.2] at ht'
            exact absurd ht' (by decide)
          · rw [Option.some.injEq, Prod.mk.injEq] at hpc
            refine Or.inr ⟨?_, by rw [← hpc.1]; rfl⟩
            cases hs : s.state <;> first | exact absurd hs hdisposed | exact absurd hs hdisposing |
              decide
          · rw [Option.some.injEq, Prod.mk.injEq] at hpc
            rw [← hpc.2] at ht'
            exact absurd ht' (by decide)
      | marked | persisted => exact Or.inl rfl
      | checked | notified =>
          rcases Option.map_eq_some_iff.mp hpc with ⟨_, -, heq⟩
          rw [Prod.mk.injEq] at heq
          rw [← heq.2] at ht'
          exact absurd ht' (by decide)
      | locked | resumed =>
          simp only [waitOrMarkForDisposal, Option.some.injEq, Prod.mk.injEq] at hpc
          rw [← hpc.2] at ht'
          exact absurd ht' (by decide)
      | waiting | returned => exact absurd hpc (by simp only [waitOrMarkForDisposal, reduceCtorEq,
          not_false_eq_true])

theorem hasMarked_of_isNew (h : t.isNew = true) : t.hasMarked = false := by
  cases t with
  | waitForInit pc | markInitDone pc | dispose pc => rfl
  | waitOrMarkForDisposal pc => cases pc <;> first | rfl | exact absurd h (by
      simp only [Caller.isNew, Bool.false_eq_true, not_false_eq_true])

/-- The callers after a step: one more, or one of them has gone on and others
    have been woken up. -/
theorem getElem?_of_step {a : Action} (h : step s a = some s') {j : Nat}
    (ht' : s'.callers[j]? = some t') :
    (∃ t, s.callers[j]? = some t ∧ (t' = t ∨ t' = t.wake)) ∨ a = .call t' ∧ t'.isNew = true ∨
      ∃ ok t s'', a = .run j ok ∧ s.callers[j]? = some t ∧
        runCaller s j ok t = some (s'', t') ∧ s''.state = s'.state := by
  cases a with
  | call caller =>
      rw [step, Option.ite_none_right_eq_some] at h
      rw [← Option.some.inj h.2] at ht'
      rcases Nat.lt_or_ge j s.callers.length with hlt | hge
      · rw [List.getElem?_append_left hlt] at ht'
        exact Or.inl ⟨t', ht', Or.inl rfl⟩
      · rw [List.getElem?_append_right hge, List.getElem?_singleton,
          Option.ite_none_right_eq_some, Option.some.injEq] at ht'
        rw [← ht'.2]
        exact Or.inr (Or.inl ⟨rfl, h.1⟩)
  | run i ok =>
      rw [step] at h
      split at h
      · exact absurd h (by simp only [reduceCtorEq, not_false_eq_true])
      · next t ht =>
          rcases Option.map_eq_some_iff.mp h with ⟨⟨s'', u⟩, hrun, rfl⟩
          rw [List.getElem?_set] at ht'
          split_ifs at ht' with hij hlt
          · rw [Option.some.injEq] at ht'
            rw [← hij, ← ht']
            exact Or.inr (Or.inr ⟨ok, t, s'', rfl, ht, hrun, rfl⟩)
          · -- The other callers are where they were, or all of them were woken.
            rcases callers_of_turn (turn_of_runCaller hrun) with hc | hc
            · rw [hc] at ht'
              exact Or.inl ⟨t', ht', Or.inl rfl⟩
            · rw [hc, List.getElem?_map, Option.map_eq_some_iff] at ht'
              rcases ht' with ⟨v, hv, rfl⟩
              exact Or.inl ⟨v, hv, Or.inr rfl⟩

/-- Who has marked the workspace had done so before, or has just done it. -/
theorem hasMarked_step {a : Action} (h : step s a = some s') {j : Nat}
    (ht' : s'.callers[j]? = some t') (hmarked : t'.hasMarked = true) :
    (∃ t, s.callers[j]? = some t ∧ t.hasMarked = true) ∨
      (∃ ok, a = .run j ok) ∧ s.state.stage ≤ WorkspaceState.ready.stage ∧
        s'.state = .disposing := by
  rcases getElem?_of_step h ht' with ⟨t, ht, rfl | rfl⟩ | ⟨-, hnew⟩ |
    ⟨ok, t, s'', rfl, ht, hrun, hstate⟩
  · exact Or.inl ⟨t', ht, hmarked⟩
  · exact Or.inl ⟨t, ht, by rw [← hasMarked_wake, hmarked]⟩
  · rw [hasMarked_of_isNew hnew] at hmarked
    exact absurd hmarked (by decide)
  · rcases hasMarked_runCaller hrun hmarked with hbefore | ⟨hbefore, hafter⟩
    · exact Or.inl ⟨t, ht, hbefore⟩
    · exact Or.inr ⟨⟨ok, rfl⟩, hbefore, hstate ▸ hafter⟩

/-- A workspace that was ready and is not initialized again is marked for disposal
    by one call at most. -/
structure MarkedOnce (s : Workspace) : Prop where
  noInit : ∀ (j : Nat) (t : Caller), s.callers[j]? = some t → t.isMarkInitDone = false
  initialized : s.state ≠ .initializing
  ready : s.state = .ready → ∀ (j : Nat) (t : Caller), s.callers[j]? = some t → t.hasMarked = false
  once : ∀ (j j' : Nat) (t t' : Caller), s.callers[j]? = some t → s.callers[j']? = some t' →
    t.hasMarked = true → t'.hasMarked = true → j = j'

/-- Once nobody initializes the workspace any more, its state only changes to
    one in which it cannot be marked. -/
theorem state_of_markedOnce (hs : MarkedOnce s) {a : Action} (h : step s a = some s') :
    s'.state = s.state ∨ s'.state ≠ .ready ∧ s'.state ≠ .initializing := by
  rcases state_of_step h with hsame | ⟨j, _, t, -, ht, hchange⟩
  · exact Or.inl hsame
  · cases hchange with
    | same hsame => exact Or.inl hsame
    | disposing _ _ hnew | disposed _ hnew => exact Or.inr (by rw [hnew]; decide)
    | ready hcall =>
        have hnot := hs.noInit j t ht
        rw [hcall] at hnot
        exact absurd hnot (by decide)

/-- So marking it is something that happens once. -/
theorem markedOnce_step (hs : MarkedOnce s) {a : Action} (h : step s a = some s')
    (hcall : ∀ caller, a = .call caller → caller.isMarkInitDone = false) : MarkedOnce s' where
  noInit j t' ht' := by
    rcases getElem?_of_step h ht' with ⟨t, ht, rfl | rfl⟩ | ⟨ha, -⟩ | ⟨ok, t, s'', -, ht, hrun, -⟩
    · exact hs.noInit j t' ht
    · rw [isMarkInitDone_wake]
      exact hs.noInit j t ht
    · exact hcall t' ha
    · rw [isMarkInitDone_runCaller hrun]
      exact hs.noInit j t ht
  initialized := by
    rcases state_of_markedOnce hs h with hsame | hnew
    · rw [hsame]
      exact hs.initialized
    · exact hnew.2
  ready hready j t' ht' := by
    have hbefore : s.state = .ready := by
      rcases state_of_markedOnce hs h with hsame | hnew
      · exact hsame.symm.trans hready
      · exact absurd hready hnew.1
    refine Bool.eq_false_iff.mpr fun hmarked => ?_
    rcases hasMarked_step h ht' hmarked with ⟨t, ht, hold⟩ | ⟨-, -, hdisposing⟩
    · exact absurd ((hs.ready hbefore j t ht).symm.trans hold) (by decide)
    · rw [hready] at hdisposing
      exact absurd hdisposing (by decide)
  once j j' t t' ht ht' hmarked hmarked' := by
    -- nobody has marked the workspace where it is marked now
    have hready : s.state.stage ≤ WorkspaceState.ready.stage → s.state = .ready := by
      have hinit := hs.initialized
      intro hle
      cases hstate : s.state <;> first | rfl | exact absurd hstate hinit |
        exact absurd hle (by rw [hstate]; decide)
    rcases hasMarked_step h ht hmarked with ⟨u, hu, hold⟩ | ⟨⟨ok, ha⟩, hle, -⟩ <;>
      rcases hasMarked_step h ht' hmarked' with ⟨u', hu', hold'⟩ | ⟨⟨ok', ha'⟩, hle', -⟩
    · exact hs.once j j' u u' hu hu' hold hold'
    · exact absurd ((hs.ready (hready hle') j u hu).symm.trans hold) (by decide)
    · exact absurd ((hs.ready (hready hle) j' u' hu').symm.trans hold') (by decide)
    · rw [ha, Action.run.injEq] at ha'
      exact ha'.1

/-- A call that has returned does not go on. -/
theorem returned_step {a : Action} (h : step s a = some s') {j : Nat} {done ok : Bool}
    (ht : s.callers[j]? = some (.waitOrMarkForDisposal (.returned done ok))) :
    s'.callers[j]? = some (.waitOrMarkForDisposal (.returned done ok)) := by
  cases a with
  | call caller =>
      rw [step, Option.ite_none_right_eq_some] at h
      rw [← Option.some.inj h.2, List.getElem?_append_left (List.getElem?_eq_some_iff.mp ht).1, ht]
  | run i ok' =>
      rw [step] at h
      split at h
      · exact absurd h (by simp only [reduceCtorEq, not_false_eq_true])
      · next t hi =>
          rcases Option.map_eq_some_iff.mp h with ⟨⟨s'', u⟩, hrun, rfl⟩
          have hne : i ≠ j := by
            rintro rfl
            rw [ht, Option.some.injEq] at hi
            rw [← hi] at hrun
            exact absurd hrun (by simp only [runCaller, waitOrMarkForDisposal, Option.map_none,
              reduceCtorEq, not_false_eq_true])
          rw [List.getElem?_set_ne hne]
          rcases callers_of_turn (turn_of_runCaller hrun) with hc | hc
          · rw [hc, ht]
          · rw [hc, List.getElem?_map, ht]
            rfl

end WsSync

end Nxpod
