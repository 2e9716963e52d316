import Mathlib.Data.List.Basic

/-!
# Numbered Elements

Some elements of a list have a number, one after the other from a first one, and the others have
none. What is shown of a text, with line numbers beside it, is such a list.

## Main definitions

* `number`: The numbers of the elements.

## Theorems

* `number_append`: The numbers of the second list go on.
* `mem_number_iff`: Which numbers there are.
* `number_inj`: No number is there twice.
* `getElem?_number_of_forall`: Where all elements have one.
-/

namespace Nxpod

namespace Numbered

variable {α : Type*} (p : α → Bool)

/-- Elements that meet `p` are numbered from `n`. -/
def number : Nat → List α → List (Option Nat)
  | _, [] => []
  | n, x :: xs => if p x then some n :: number (n + 1) xs else none :: number n xs

variable {p} {n m : Nat} {x : α} {xs : List α}

theorem number_cons_of_pos (hx : p x = true) (n : Nat) (xs : List α) :
    number p n (x :: xs) = some n :: number p (n + 1) xs := by
  rw [number, if_pos hx]

theorem number_cons_of_neg (hx : ¬p x = true) (n : Nat) (xs : List α) :
    number p n (x :: xs) = none :: number p n xs := by
  rw [number, if_neg hx]

@[simp] theorem length_number (n : Nat) (xs : List α) : (number p n xs).length = xs.length := by
  induction xs generalizing n with
  | nil => rfl
  | cons x xs ih =>
      by_cases hx : p x = true
      · rw [number_cons_of_pos hx, List.length_cons, ih, List.length_cons]
      · rw [number_cons_of_neg hx, List.length_cons, ih, List.length_cons]

/-- The numbers of the second list go on where the first one ends. -/
theorem number_append (n : Nat) (xs ys : List α) :
    number p n (xs ++ ys) = number p n xs ++ number p (n + xs.countP p) ys := by
  induction xs generalizing n with
  | nil => rfl
  | cons x xs ih =>
      rw [List.cons_append]
      by_cases hx : p x = true
      · rw [number_cons_of_pos hx, number_cons_of_pos hx, ih, List.countP_cons_of_pos hx,
          List.cons_append, Nat.add_right_comm, Nat.add_assoc]
      · rw [number_cons_of_neg hx, number_cons_of_neg hx, ih, List.countP_cons_of_neg hx,
          List.cons_append]

/-- All numbers from the first one on are given, as many as elements count. -/
theorem mem_number_iff : some m ∈ number p n xs ↔ n ≤ m ∧ m < n + xs.countP p := by
  induction xs generalizing n with
  | nil =>
      rw [number, List.countP_nil]
      refine iff_of_false List.not_mem_nil ?_
      omega
  | cons x xs ih =>
      by_cases hx : p x = true
      · rw [number_cons_of_pos hx, List.mem_cons, ih, Option.some.injEq,
          List.countP_cons_of_pos hx]
        omega
      · rw [number_cons_of_neg hx, List.mem_cons, ih, List.countP_cons_of_neg hx]
        exact or_iff_right nofun

theorem le_of_getElem?_number {i : Nat} (h : (number p n xs)[i]? = some (some m)) : n ≤ m :=
  (mem_number_iff.mp (List.mem_of_getElem? h)).1

theorem number_inj {i j : Nat} (hi : (number p n xs)[i]? = some (some m))
    (hj : (number p n xs)[j]? = some (some m)) : i = j := by
  induction xs generalizing n i j with
  | nil => exact nomatch hi
  | cons x xs ih =>
      by_cases hx : p x = true
      · rw [number_cons_of_pos hx] at hi hj
        cases i with
        | zero => cases j with
          | zero => rfl
          | succ j =>
              -- what comes behind has larger numbers
              rw [List.getElem?_cons_zero, Option.some.injEq, Option.some.injEq] at hi
              rw [List.getElem?_cons_succ] at hj
              have hle := le_of_getElem?_number hj
              omega
        | succ i => cases j with
          | zero =>
              rw [List.getElem?_cons_zero, Option.some.injEq, Option.some.injEq] at hj
              rw [List.getElem?_cons_succ] at hi
              have hle := le_of_getElem?_number hi
              omega
          | succ j => exact congrArg Nat.succ (ih hi hj)
      · rw [number_cons_of_neg hx] at hi hj
        cases i with
        | zero => exact nomatch hi
        | succ i => cases j with
          | zero => exact nomatch hj
          | succ j => exact congrArg Nat.succ (ih hi hj)

/-- Where all elements count, the number is the place. -/
theorem getElem?_number_of_forall {i : Nat} (h : ∀ x ∈ xs, p x = true) (hi : i < xs.length) :
    (number p n xs)[i]? = some (some (n + i)) := by
  induction xs generalizing n i with
  | nil => exact absurd hi (Nat.not_lt_zero i)
  | cons x xs ih =>
      rcases List.forall_mem_cons.mp h with ⟨hx, hxs⟩
      rw [number_cons_of_pos hx]
      cases i with
      | zero => rfl
      | succ i =>
          rw [List.getElem?_cons_succ, ih hxs (Nat.lt_of_succ_lt_succ hi), Nat.succ_add_eq_add_succ]

end Numbered

end Nxpod
