import Mathlib.Order.Basic

/-!
# Guarded Runs of a Partial Step Function

The vocabulary every state machine of this development shares. A machine is a
partial step function: a state and an action either have one successor or the
action is not enabled there.

`runActions` executes a list of actions and is what a concrete trace is
evaluated with. `ReachesWithin` is the relation the invariants are proved
over. It is guarded: every step taken has to meet a condition on the state it
starts from and the action it takes. The unguarded reachability of the machine
is the guard that is always true, so one induction rule serves a property that
holds of every run and a property that holds of the runs which avoid some
branch.

The two agree. A list of actions whose steps all meet the guard is a guarded
reachability, and `MeetsAlong` is decidable, so a concrete run is turned into a
`ReachesWithin` by evaluation. `StepsAlong` says of each step of a run what it
has to achieve, where `MeetsAlong` says when it may be taken.

## Main definitions

* `runActions`: Executing a list of actions.
* `ReachesWithin`: Reachability by steps that all meet a guard.
* `MeetsAlong`: Every step of a list of actions meets the guard.
* `StepsAlong`: Every step of a list of actions stands in a relation.

## Theorems

* `reachesWithin_trans`: Guarded reachability is transitive.
* `reachesWithin_mono`: A stronger guard reaches less.
* `reachesWithin_and_left`, `reachesWithin_and_right`: A conjunction of guards
  is stronger than its parts.
* `reachesWithin_of_runActions`: A run whose steps meet the guard.
* `reaches_of_runActions`: A run is a reachability.
* `exists_of_runActions_any`, `exists_run_of_any`: An evaluated run exhibits a state.
* `stepsAlong_of_invariant`: Every step of a run, from an invariant.
* `stepsAlong_iff_meetsAlong_of_invariant`, `stepsAlong_iff_meetsAlong`: A
  relation that a guard decides, along a run.
* `stepsAlong_good_iff_meetsAlong_of`, `stepsAlong_good_iff_meetsAlong`: Steps
  that keep a property, along a run.
* `stepsAlong_iff_meetsAlong_while`: The same for a relation of the steps, on top
  of an invariant.
* `not_iff_meetsAlong`: Runs that do not recover from a step.
* `invariant_of_reachesWithin`: What every guarded step preserves holds in
  every state reached.
* `exists_stuck`: Runs that come to an end.
-/

namespace Nxpod

namespace Transition

variable {σ α : Type*}

/-- Execute a list of actions, or `none` once an action is not enabled. -/
def runActions (step : σ → α → Option σ) : List α → σ → Option σ
  | [], s => some s
  | a :: as, s => match step s a with
    | none => none
    | some s' => runActions step as s'

/-- Reachability by steps which all meet `ok` in the state they start from. -/
inductive ReachesWithin (step : σ → α → Option σ) (ok : σ → α → Prop) : σ → σ → Prop
  | refl (s : σ) : ReachesWithin step ok s s
  | step (s s' s'' : σ) (a : α) : ReachesWithin step ok s s' → ok s' a →
      step s' a = some s'' → ReachesWithin step ok s s''

/-- Every step the list of actions takes meets `ok`. -/
def MeetsAlong (step : σ → α → Option σ) (ok : σ → α → Prop) : List α → σ → Prop
  | [], _ => True
  | a :: as, s => match step s a with
    | none => True
    | some s' => ok s a ∧ MeetsAlong step ok as s'

/-- Every step the list of actions takes stands in the relation `P`. -/
def StepsAlong (step : σ → α → Option σ) (P : σ → α → σ → Prop) : List α → σ → Prop
  | [], _ => True
  | a :: as, s => match step s a with
    | none => True
    | some s' => P s a s' ∧ StepsAlong step P as s'

instance decidableMeetsAlong (step : σ → α → Option σ) (ok : σ → α → Prop)
    [∀ s a, Decidable (ok s a)] : ∀ as s, Decidable (MeetsAlong step ok as s)
  | [], _ => isTrue trivial
  | a :: as, s => match h : step s a with
    | none => isTrue (by simp only [MeetsAlong, h])
    | some s' =>
        have := decidableMeetsAlong step ok as s'
        decidable_of_iff (ok s a ∧ MeetsAlong step ok as s') (by simp only [MeetsAlong, h])

instance decidableStepsAlong (step : σ → α → Option σ) (P : σ → α → σ → Prop)
    [∀ s a s', Decidable (P s a s')] : ∀ as s, Decidable (StepsAlong step P as s)
  | [], _ => isTrue trivial
  | a :: as, s => match h : step s a with
    | none => isTrue (by simp only [StepsAlong, h])
    | some s' =>
        have := decidableStepsAlong step P as s'
        decidable_of_iff (P s a s' ∧ StepsAlong step P as s') (by simp only [StepsAlong, h])

variable {step : σ → α → Option σ} {ok ok' : σ → α → Prop}

theorem reachesWithin_trans {a b c : σ} (h1 : ReachesWithin step ok a b)
    (h2 : ReachesWithin step ok b c) : ReachesWithin step ok a c := by
  induction h2 with
  | refl => exact h1
  | step s' s'' x _ hok hstep ih => exact ReachesWithin.step a s' s'' x ih hok hstep

/-- A run within a condition is one within a weaker condition. -/
theorem reachesWithin_mono {a b : σ} (hle : ∀ s x, ok s x → ok' s x)
    (h : ReachesWithin step ok a b) : ReachesWithin step ok' a b := by
  induction h with
  | refl => exact ReachesWithin.refl _
  | step s' s'' x _ hok hstep ih => exact ReachesWithin.step a s' s'' x ih (hle s' x hok) hstep

/-- A run within two conditions is one within the first. -/
theorem reachesWithin_and_left {a b : σ}
    (h : ReachesWithin step (fun s x => ok s x ∧ ok' s x) a b) : ReachesWithin step ok a b :=
  reachesWithin_mono (fun _ _ hok => hok.1) h

/-- A run within two conditions is one within the second. -/
theorem reachesWithin_and_right {a b : σ}
    (h : ReachesWithin step (fun s x => ok s x ∧ ok' s x) a b) : ReachesWithin step ok' a b :=
  reachesWithin_mono (fun _ _ hok => hok.2) h

/-- A list of actions whose steps meet the guard is a guarded reachability.
    The run peels actions off the front and the relation grows at its end, so
    the induction carries the state the run started from. -/
theorem reachesWithin_of_runActions (as : List α) (s t : σ) (hok : MeetsAlong step ok as s)
    (hrun : runActions step as s = some t) : ReachesWithin step ok s t := by
  induction as generalizing s with
  | nil =>
      simp only [runActions, Option.some.injEq] at hrun
      rw [hrun]
      exact ReachesWithin.refl t
  | cons a as ih =>
      simp only [runActions] at hrun
      simp only [MeetsAlong] at hok
      cases hstep : step s a with
      | none =>
          rw [hstep] at hrun
          exact absurd hrun (by simp only [reduceCtorEq, not_false_eq_true])
      | some s' =>
          rw [hstep] at hrun hok
          -- the first step, and then the run from where it leads
          rcases hok with ⟨ha, hrest⟩
          exact reachesWithin_trans
            (ReachesWithin.step s s s' a (ReachesWithin.refl s) ha hstep) (ih s' hrest hrun)

/-- A condition that always holds is met along every list of actions. -/
theorem meetsAlong_of_forall (h : ∀ s a, ok s a) (as : List α) (s : σ) :
    MeetsAlong step ok as s := by
  induction as generalizing s with
  | nil => trivial
  | cons a as ih =>
      simp only [MeetsAlong]
      cases step s a with
      | none => trivial
      | some s' => exact ⟨h s a, ih s'⟩

/-- A list of actions that runs to its end is a reachability. -/
theorem reaches_of_runActions {as : List α} {s t : σ} (hrun : runActions step as s = some t) :
    ReachesWithin step (fun _ _ => True) s t :=
  reachesWithin_of_runActions as s t (meetsAlong_of_forall (fun _ _ => trivial) as s) hrun

/-- A run that can be evaluated to a state with a decidable property exhibits
    such a state. -/
theorem exists_of_runActions_any (step : σ → α → Option σ) (as : List α) (s : σ) (p : σ → Bool)
    (h : (runActions step as s).any p = true) :
    ∃ t, runActions step as s = some t ∧ p t = true := by
  cases hrun : runActions step as s with
  | none => rw [hrun] at h; exact absurd h (by simp only [Option.any_none, Bool.false_eq_true,
      not_false_eq_true])
  | some t => rw [hrun] at h; exact ⟨t, rfl, h⟩

/-- The same for a property that the run and the evaluated one imply. The run
    is the goal's own, so that a proof does not list its actions again. -/
theorem exists_run_of_any {as : List α} {s : σ} {Q : σ → Prop} (p : σ → Bool)
    (h : (runActions step as s).any p = true)
    (hQ : ∀ t, runActions step as s = some t → p t = true → Q t) :
    ∃ t, runActions step as s = some t ∧ Q t := by
  rcases exists_of_runActions_any step as s p h with ⟨t, hrun, hp⟩
  exact ⟨t, hrun, hQ t hrun hp⟩

/-- Where every step keeps an invariant and, under it, stands in the relation,
    all steps of a run stand in it. -/
theorem stepsAlong_of_invariant {Inv : σ → Prop} {P : σ → α → σ → Prop}
    (hstep : ∀ s a s', Inv s → step s a = some s' → Inv s' ∧ P s a s') (as : List α) (s : σ)
    (hs : Inv s) : StepsAlong step P as s := by
  induction as generalizing s with
  | nil => trivial
  | cons a as ih =>
      simp only [StepsAlong]
      cases h : step s a with
      | none => trivial
      | some s' =>
          rcases hstep s a s' hs h with ⟨hinv, hP⟩
          exact ⟨hP, ih s' hinv⟩

/-- Where, under an invariant, a step stands in the relation exactly when it
    meets the guard, all steps of a run stand in it exactly when all of them
    meet the guard. -/
theorem stepsAlong_iff_meetsAlong_of_invariant {Inv : σ → Prop} {P : σ → α → σ → Prop}
    (hinv : ∀ s a s', Inv s → step s a = some s' → Inv s')
    (hstep : ∀ s a s', Inv s → step s a = some s' → (P s a s' ↔ ok s a))
    (as : List α) (s : σ) (hs : Inv s) :
    StepsAlong step P as s ↔ MeetsAlong step ok as s := by
  induction as generalizing s with
  | nil => exact Iff.rfl
  | cons a as ih =>
      simp only [StepsAlong, MeetsAlong]
      cases h : step s a with
      | none => exact Iff.rfl
      | some s' => exact and_congr (hstep s a s' hs h) (ih s' (hinv s a s' hs h))

/-- The same where no invariant is needed. -/
theorem stepsAlong_iff_meetsAlong {P : σ → α → σ → Prop}
    (hstep : ∀ s a s', step s a = some s' → (P s a s' ↔ ok s a)) (as : List α) (s : σ) :
    StepsAlong step P as s ↔ MeetsAlong step ok as s :=
  stepsAlong_iff_meetsAlong_of_invariant (fun _ _ _ hs _ => hs : ∀ _ _ _, True → _ → True)
    (fun s a s' _ => hstep s a s') as s trivial

/-- Where a step from a good state leads to a good state exactly when it meets
    the guard, a run stays in good states exactly when all its steps meet the
    guard. A step that leaves them may be followed by any others. What the
    steps may rely on is a second guard, which the whole run meets. -/
theorem stepsAlong_good_iff_meetsAlong_of {Good : σ → Prop}
    (hstep : ∀ s a s', Good s → ok' s a → step s a = some s' → (Good s' ↔ ok s a))
    (as : List α) (s : σ) (hpre : MeetsAlong step ok' as s) (hs : Good s) :
    StepsAlong step (fun _ _ s' => Good s') as s ↔ MeetsAlong step ok as s := by
  induction as generalizing s with
  | nil => exact Iff.rfl
  | cons a as ih =>
      simp only [StepsAlong, MeetsAlong] at hpre ⊢
      cases h : step s a with
      | none => exact Iff.rfl
      | some s' =>
          rw [h] at hpre
          simp only [hstep s a s' hs hpre.1 h]
          exact and_congr_right fun hok => ih s' hpre.2 ((hstep s a s' hs hpre.1 h).mpr hok)

/-- The same where the steps rely on nothing. -/
theorem stepsAlong_good_iff_meetsAlong {Good : σ → Prop}
    (hstep : ∀ s a s', Good s → step s a = some s' → (Good s' ↔ ok s a))
    (as : List α) (s : σ) (hs : Good s) :
    StepsAlong step (fun _ _ s' => Good s') as s ↔ MeetsAlong step ok as s :=
  stepsAlong_good_iff_meetsAlong_of (fun s a s' hg _ => hstep s a s' hg) as s
    (meetsAlong_of_forall (fun _ _ => trivial : ∀ _ _, True) as s) hs

/-- Where, under an invariant, a step stands in the relation exactly when it meets the
    guard, and keeps the invariant when it does, all steps of a run stand in it exactly
    when all of them meet the guard. After the first step that does not meet it, nothing
    has to be known. -/
theorem stepsAlong_iff_meetsAlong_while {Inv : σ → Prop} {P : σ → α → σ → Prop}
    (hinv : ∀ s a s', Inv s → step s a = some s' → P s a s' → Inv s')
    (hstep : ∀ s a s', Inv s → step s a = some s' → (P s a s' ↔ ok s a)) (as : List α) (s : σ)
    (hs : Inv s) : StepsAlong step P as s ↔ MeetsAlong step ok as s := by
  induction as generalizing s with
  | nil => exact Iff.rfl
  | cons a as ih =>
      simp only [StepsAlong, MeetsAlong]
      cases h : step s a with
      | none => exact Iff.rfl
      | some s' =>
          simp only [hstep s a s' hs h]
          exact and_congr_right fun hok =>
            ih s' (hinv s a s' hs h ((hstep s a s' hs h).mpr hok))

/-- Where a run is bad once a step has not met the guard, and stays bad, it ends
    well exactly when all its steps meet the guard. -/
theorem not_iff_meetsAlong {Bad : σ → Prop}
    (hstep : ∀ s a s', step s a = some s' → (Bad s' ↔ Bad s ∨ ¬ ok s a)) (as : List α) (s t : σ)
    (hs : ¬ Bad s) (hrun : runActions step as s = some t) : ¬ Bad t ↔ MeetsAlong step ok as s := by
  -- What is bad stays bad to the end of the run.
  have hbad : ∀ (as : List α) (s : σ), Bad s → runActions step as s = some t → Bad t := by
    intro as
    induction as with
    | nil =>
        intro s hs hrun
        rw [runActions, Option.some.injEq] at hrun
        exact hrun ▸ hs
    | cons a as ih =>
        intro s hs hrun
        simp only [runActions] at hrun
        cases h : step s a with
        | none => rw [h] at hrun; exact absurd hrun (by simp only [reduceCtorEq,
            not_false_eq_true])
        | some s' => rw [h] at hrun; exact ih s' ((hstep s a s' h).mpr (Or.inl hs)) hrun
  induction as generalizing s with
  | nil =>
      rw [runActions, Option.some.injEq] at hrun
      exact iff_of_true (hrun ▸ hs) trivial
  | cons a as ih =>
      simp only [runActions, MeetsAlong] at hrun ⊢
      cases h : step s a with
      | none => rw [h] at hrun; exact absurd hrun (by simp only [reduceCtorEq, not_false_eq_true])
      | some s' =>
          rw [h] at hrun
          by_cases hok : ok s a
          · have hs' : ¬ Bad s' := fun hb => ((hstep s a s' h).mp hb).elim hs (fun hn => hn hok)
            exact (ih s' hs' hrun).trans (and_iff_right hok).symm
          · have hb : Bad t := hbad as s' ((hstep s a s' h).mpr (Or.inr hok)) hrun
            exact iff_of_false (not_not.mpr hb) (fun hm => hok hm.1)

/-- The induction rule for invariants: what holds at the start and is kept by
    every step that meets the guard holds wherever such steps lead. A step may
    use that it starts from a state already reached, so one invariant can rest
    on another. -/
theorem invariant_of_reachesWithin {Inv : σ → Prop} {s t : σ}
    (hstep : ∀ s' s'' a, ReachesWithin step ok s s' → Inv s' → ok s' a →
      step s' a = some s'' → Inv s'')
    (hr : ReachesWithin step ok s t) (hinit : Inv s) : Inv t := by
  induction hr with
  | refl => exact hinit
  | step s' s'' a hreach hok hs ih => exact hstep s' s'' a hreach ih hok hs

/-- Where every step that meets the guard keeps an invariant and makes something smaller, such
    steps lead to a state that has none. -/
theorem exists_stuck {Inv : σ → Prop} (measure : σ → Nat)
    (hstep : ∀ s a s', Inv s → ok s a → step s a = some s' → Inv s' ∧ measure s' < measure s)
    {s : σ} (hs : Inv s) :
    ∃ t, ReachesWithin step ok s t ∧ ∀ a, ok t a → step t a = none := by
  induction hm : measure s using Nat.strongRecOn generalizing s with
  | ind m ih =>
      by_cases hstuck : ∀ a, ok s a → step s a = none
      · exact ⟨s, ReachesWithin.refl s, hstuck⟩
      · rcases not_forall.mp hstuck with ⟨a, hnot⟩
        rcases Classical.not_imp.mp hnot with ⟨hok, ha⟩
        rcases Option.ne_none_iff_exists'.mp ha with ⟨s', hs'⟩
        rcases hstep s a s' hs hok hs' with ⟨hinv, hlt⟩
        -- one step, and then on from a state that is smaller
        rcases ih (measure s') (hm ▸ hlt) hinv rfl with ⟨t, hreach, ht⟩
        exact ⟨t, reachesWithin_trans
          (ReachesWithin.step s s s' a (ReachesWithin.refl s) hok hs') hreach, ht⟩

end Transition

end Nxpod
