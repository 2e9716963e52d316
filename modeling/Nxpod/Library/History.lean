import Nxpod.Library.Transition

/-!
# Machines That Remember

What a step does may rest on something that was read in an earlier state and is no longer true.
Such a step is justified by the past of a run, and not by the state it starts from.

`remember` makes of a machine one that keeps the steps it has taken, newest first, each with the
state it was taken in. It takes the same steps (`remember_eq_some`). `Once` says that one of them
met a condition, and the condition may be about the steps before that one in turn, so that a chain
of causes is a nesting of `Once`.

What was once true stays so (`Once.cons`), which is why a justification by the past is an invariant
although the state it speaks of is gone.

## Main definitions

* `Past`: Steps with the states they were taken in.
* `remember`: The machine with its past.
* `Once`: A condition that a step of the past met.

## Theorems

* `Once.cons`, `Once.here`, `once_cons`: The past grows.
* `stepsAlong_remember_of_invariant`: Every step of a run, from an invariant of the past.
-/

namespace Nxpod

namespace Transition

variable {σ α : Type*}

/-- The steps that were taken, newest first. -/
abbrev Past (σ α : Type*) := List (σ × α)

/-- The machine that keeps its past. -/
def remember (step : σ → α → Option σ) (h : Past σ α × σ) (a : α) : Option (Past σ α × σ) :=
  (step h.2 a).map fun s' => ((h.2, a) :: h.1, s')

/-- A step of the past met the condition, given what was before it. -/
def Once (P : Past σ α → σ → α → Prop) (past : Past σ α) : Prop :=
  ∃ earlier s a, (s, a) :: earlier <:+ past ∧ P earlier s a

theorem Once.cons {P : Past σ α → σ → α → Prop} {past : Past σ α} (h : Once P past)
    (entry : σ × α) : Once P (entry :: past) := by
  rcases h with ⟨earlier, s, a, hsuffix, hP⟩
  exact ⟨earlier, s, a, hsuffix.trans (List.suffix_cons _ _), hP⟩

theorem Once.here {P : Past σ α → σ → α → Prop} {past : Past σ α} {s : σ} {a : α}
    (h : P past s a) : Once P ((s, a) :: past) :=
  ⟨past, s, a, List.suffix_rfl, h⟩

/-- A step meets the condition now, or one did before. -/
theorem once_cons {P : Past σ α → σ → α → Prop} {past : Past σ α} {s : σ} {a : α} :
    Once P ((s, a) :: past) ↔ P past s a ∨ Once P past := by
  constructor
  · rintro ⟨earlier, t, b, hsuffix, hP⟩
    rcases List.suffix_cons_iff.mp hsuffix with heq | hsuffix
    · cases heq
      exact .inl hP
    · exact .inr ⟨earlier, t, b, hsuffix, hP⟩
  · rintro (hP | hpast)
    · exact Once.here hP
    · exact hpast.cons (s, a)

theorem remember_eq_some {step : σ → α → Option σ} {h h' : Past σ α × σ} {a : α} :
    remember step h a = some h' ↔ step h.2 a = some h'.2 ∧ h'.1 = (h.2, a) :: h.1 := by
  rw [remember, Option.map_eq_some_iff]
  constructor
  · rintro ⟨s', hs', rfl⟩
    exact ⟨hs', rfl⟩
  · rintro ⟨hs', hpast⟩
    exact ⟨h'.2, hs', Prod.ext hpast.symm rfl⟩

/-- Where every step keeps an invariant of the past and the state and, under it, stands in the
    relation, all steps of a run stand in it. -/
theorem stepsAlong_remember_of_invariant {step : σ → α → Option σ} {Inv : Past σ α → σ → Prop}
    {P : Past σ α → σ → α → σ → Prop}
    (hstep : ∀ past s a s', Inv past s → step s a = some s' →
      Inv ((s, a) :: past) s' ∧ P past s a s') {s : σ} (hs : Inv [] s) (as : List α) :
    StepsAlong (remember step) (fun h a h' => P h.1 h.2 a h'.2) as ([], s) := by
  have hsteps : ∀ (h : Past σ α × σ) (a : α) (h' : Past σ α × σ), Inv h.1 h.2 →
      remember step h a = some h' → Inv h'.1 h'.2 ∧ P h.1 h.2 a h'.2 := by
    intro h a h' hinv hh'
    rcases remember_eq_some.mp hh' with ⟨hs', hpast⟩
    rw [hpast]
    exact hstep h.1 h.2 a h'.2 hinv hs'
  exact @stepsAlong_of_invariant _ _ _ (fun h => Inv h.1 h.2) _ hsteps as ([], s) hs

end Transition

end Nxpod
