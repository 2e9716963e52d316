import Mathlib.Data.Int.Order.Lemmas
import Mathlib.Algebra.Order.Group.Unbundled.Int
import Mathlib.Algebra.BigOperators.Group.List.Basic
import Mathlib.Tactic.Linarith

/-!
# Integers of 64 Bits

Where the operations on integers of 64 bits are the ones on integers, because nothing overflows.

## Theorems

* `bmod_of_overflow`: A number that is too large.
* `toInt_add_of_bounds`, `toInt_sub_of_nonneg`, `toInt_mul_of_bounds`: One operation.
* `toInt_sum`: A sum of values that are small enough for their number.
-/

namespace Nxpod

namespace Word

theorem bmod_of_bounds {n : Int} (hle : -2 ^ 63 ≤ n) (hlt : n < 2 ^ 63) :
    n.bmod (2 ^ 64) = n := by
  apply Int.bmod_eq_of_le <;> omega

/-- What is too large by less than all numbers there are is negative. -/
theorem bmod_of_overflow {n : Int} (hle : 2 ^ 63 ≤ n) (hlt : n < 2 ^ 63 + 2 ^ 63) :
    n.bmod (2 ^ 64) = n - 2 ^ 64 := by
  have hturn : (n - 2 ^ 64).bmod (2 ^ 64) = n - 2 ^ 64 :=
    bmod_of_bounds (by omega) (by omega)
  rw [← hturn]
  exact (Int.sub_bmod_right n (2 ^ 64)).symm

theorem toInt_add_of_bounds {a b : Int64} (hle : -2 ^ 63 ≤ a.toInt + b.toInt)
    (hlt : a.toInt + b.toInt < 2 ^ 63) : (a + b).toInt = a.toInt + b.toInt := by
  rw [Int64.toInt_add, bmod_of_bounds hle hlt]

/-- The difference of two values of one sign does not overflow. -/
theorem toInt_sub_of_nonneg {a b : Int64} (ha : 0 ≤ a.toInt) (hb : 0 ≤ b.toInt) :
    (a - b).toInt = a.toInt - b.toInt := by
  have hlta := a.toInt_lt
  have hltb := b.toInt_lt
  rw [Int64.toInt_sub, bmod_of_bounds (by omega) (by omega)]

theorem toInt_mul_of_bounds {a b : Int64} (hle : -2 ^ 63 ≤ a.toInt * b.toInt)
    (hlt : a.toInt * b.toInt < 2 ^ 63) : (a * b).toInt = a.toInt * b.toInt := by
  rw [Int64.toInt_mul, bmod_of_bounds hle hlt]

/-- As long as there are not too many values of some size, no partial sum overflows. -/
theorem toInt_sum {size : Nat} {l : List Int64} (hsize : ∀ x ∈ l, |x.toInt| ≤ size)
    (hlength : l.length * size < 2 ^ 63) :
    l.sum.toInt = (l.map Int64.toInt).sum ∧ |l.sum.toInt| ≤ l.length * size := by
  induction l with
  | nil => exact ⟨rfl, by simp⟩
  | cons x xs ih =>
      have hx : |x.toInt| ≤ size := hsize x List.mem_cons_self
      rw [List.length_cons, Nat.succ_mul] at hlength
      rcases ih (fun y hy => hsize y (List.mem_cons_of_mem _ hy)) (by omega) with ⟨hsum, hbound⟩
      rw [abs_le] at hx hbound
      have hadd : (x + xs.sum).toInt = x.toInt + xs.sum.toInt := by
        apply toInt_add_of_bounds <;> omega
      rw [List.sum_cons, List.map_cons, List.sum_cons, hadd, hsum, abs_le, List.length_cons]
      push_cast
      refine ⟨rfl, ?_, ?_⟩ <;> rw [hsum] at hbound <;> linarith only [hx, hbound]

end Word

end Nxpod
