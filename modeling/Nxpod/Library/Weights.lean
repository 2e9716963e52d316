import Mathlib.Algebra.GroupWithZero.Nat
import Mathlib.Data.List.Basic
import Mathlib.Tactic.Common

/-!
# Weights along a List

Each element of a list has a weight, a natural number. In a system of several
parties that take steps one at a time, the state is a list of parties, a step
replaces one of them, and what the parties do together is measured by the sum
of their weights: how many of them have done something, or how much is left to
do.

## Main definitions

* `weigh`: The sum of the weights.

## Theorems

* `weigh_set`: Replacing one element.
* `weigh_cons`: One element more.
* `weigh_eq_zero_iff`: Nothing has a weight.
* `weigh_le_weigh`: A smaller weight of each element.
-/

namespace Nxpod

namespace Weights

variable {α : Type*} {w w' : α → Nat}

/-- The weight of a list. -/
def weigh (w : α → Nat) (l : List α) : Nat :=
  (l.map w).sum

theorem weigh_cons (w : α → Nat) (a : α) (l : List α) : weigh w (a :: l) = w a + weigh w l := by
  rw [weigh, List.map_cons, List.sum_cons, weigh]

/-- Replacing an element takes its weight away and adds that of the new one. -/
theorem weigh_set {l : List α} {i : Nat} {a : α} (b : α) (h : l[i]? = some a) :
    weigh w (l.set i b) + w a = weigh w l + w b := by
  induction l generalizing i with
  | nil => exact absurd h nofun
  | cons c l ih =>
      cases i with
      | zero =>
          rw [List.getElem?_cons_zero, Option.some.injEq] at h
          rw [List.set_cons_zero, weigh_cons, weigh_cons, h]
          omega
      | succ i =>
          rw [List.getElem?_cons_succ] at h
          have hrest := ih h
          rw [List.set_cons_succ, weigh_cons, weigh_cons]
          omega

/-- A list without weight has elements without weight only. -/
theorem weigh_eq_zero_iff {l : List α} : weigh w l = 0 ↔ ∀ a ∈ l, w a = 0 := by
  induction l with
  | nil => exact iff_of_true rfl (fun _ h => absurd h List.not_mem_nil)
  | cons a l ih => rw [weigh_cons, Nat.add_eq_zero_iff, ih, List.forall_mem_cons]

theorem weigh_le_weigh {l : List α} (h : ∀ a ∈ l, w a ≤ w' a) : weigh w l ≤ weigh w' l := by
  induction l with
  | nil => exact Nat.le_refl _
  | cons a l ih =>
      rw [weigh_cons, weigh_cons]
      rw [List.forall_mem_cons] at h
      exact Nat.add_le_add h.1 (ih h.2)

end Weights

end Nxpod
