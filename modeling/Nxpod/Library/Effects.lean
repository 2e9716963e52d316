import Mathlib.Logic.Basic

/-!
# Effects that can fail

A function that changes a state and may end with an error leaves the state it
has come to, whichever way it ends. A caller passes the error on, says more
about it, or looks at it and goes on. What a successful call has done is taken
apart here, step by step: each step has succeeded, or its error was looked at.

## Main definitions

* `Effect`: A function on a state that may fail.
* `attempt`: The error is looked at.
* `wrap`: The error is passed on in other words.

## Theorems

* `bind_apply`: The second effect runs where the first one has succeeded.
* `bind_ok_iff`, `pure_ok_iff`, `get_ok_iff`, `throw_ne_ok`: How an effect has
  succeeded.
* `attempt_ok_iff`, `wrap_ok_iff`: And the ones of this module.
-/

namespace Nxpod

namespace Effects

/-- A computation that changes a state and may fail. The state is kept in both
    cases. -/
abbrev Effect (ε σ : Type) := ExceptT ε (StateM σ)

variable {ε σ α β : Type} {x : Effect ε σ α} {s s' : σ}

/-- The error is a value, and what was done until then stays done. -/
def attempt (x : Effect ε σ α) : Effect ε σ (Except ε α) :=
  fun s => (.ok (x s).1, (x s).2)

/-- An error is passed on with more said about it. -/
def wrap (f : ε → ε) (x : Effect ε σ α) : Effect ε σ α :=
  fun s => ((x s).1.mapError f, (x s).2)

theorem bind_apply (x : Effect ε σ α) (f : α → Effect ε σ β) (s : σ) :
    (x >>= f) s = match x s with
      | (.ok a, t) => f a t
      | (.error err, t) => (.error err, t) := by
  change ExceptT.bindCont f (x s).1 (x s).2 = _
  rcases x s with ⟨err | a, t⟩ <;> rfl

/-- A sequence that succeeds has gone through a state in between. -/
theorem bind_ok_iff {f : α → Effect ε σ β} {b : β} :
    (x >>= f) s = (.ok b, s') ↔ ∃ a t, x s = (.ok a, t) ∧ f a t = (.ok b, s') := by
  rw [bind_apply]
  rcases x s with ⟨err | a, t⟩
  · exact iff_of_false nofun (fun ⟨_, _, h, _⟩ => absurd (Prod.mk.inj h).1 nofun)
  · constructor
    · exact fun h => ⟨a, t, rfl, h⟩
    · rintro ⟨_, _, h, hf⟩
      rcases Prod.mk.inj h with ⟨ha, rfl⟩
      rw [← Except.ok.inj ha] at hf
      exact hf

theorem pure_ok_iff {a b : α} : (pure a : Effect ε σ α) s = (.ok b, s') ↔ a = b ∧ s = s' := by
  change (Except.ok a, s) = _ ↔ _
  rw [Prod.mk.injEq, Except.ok.injEq]

theorem attempt_ok_iff {r : Except ε α} : attempt x s = (.ok r, s') ↔ x s = (r, s') := by
  unfold attempt
  rcases x s with ⟨r', t⟩
  rw [Prod.mk.injEq, Prod.mk.injEq, Except.ok.injEq]

/-- Saying more about errors does not matter to a success. -/
theorem wrap_ok_iff {f : ε → ε} {a : α} : wrap f x s = (.ok a, s') ↔ x s = (.ok a, s') := by
  unfold wrap
  rcases x s with ⟨err | b, t⟩
  · exact iff_of_false (fun h => absurd (Prod.mk.inj h).1 nofun)
      (fun h => absurd (Prod.mk.inj h).1 nofun)
  · exact Iff.rfl

theorem get_ok_iff {t : σ} : (get : Effect ε σ σ) s = (.ok t, s') ↔ s = t ∧ s = s' := by
  change (Except.ok s, s) = _ ↔ _
  rw [Prod.mk.injEq, Except.ok.injEq]

theorem throw_ne_ok {e : ε} {a : α} : (throw e : Effect ε σ α) s ≠ (.ok a, s') :=
  fun h => absurd (Prod.mk.inj h).1 nofun

end Effects

end Nxpod
