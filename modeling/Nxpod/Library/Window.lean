import Mathlib.Data.List.DropRight

/-!
# Rings as Windows

A ring of a fixed number of places, where a new value takes the place of the
oldest one. Read from the oldest place to the latest, what it holds is the end
of everything that was ever pushed, after places nobody has used.

Values that come at ticks need not come at every tick. A ring counts the values
and a window of time counts the ticks, so the two see the same only where no
tick of the window went without a value, or where nothing came before it.

## Main definitions

* `push`: A new value in the place of the oldest one.
* `holding`: A ring after some values.

## Theorems

* `push_holding`: One more value.
* `filterMap_holding`: The values in a ring are the last ones.
* `rtake_filterMap`: The last values are those of the last ticks.
-/

namespace Nxpod

namespace Window

variable {α : Type*}

/-- A new value takes the place of the oldest one. -/
def push (ring : List (Option α)) (x : α) : List (Option α) :=
  ring.tail ++ [some x]

/-- A ring of `n` places after the values were pushed, one after the other. -/
def holding (n : Nat) (xs : List α) : List (Option α) :=
  (List.replicate n none ++ xs.map some).rtake n

theorem holding_nil (n : Nat) : holding n ([] : List α) = List.replicate n none := by
  simp [holding, List.rtake]

theorem tail_rtake_succ {l : List α} {n : Nat} (h : n + 1 ≤ l.length) :
    (l.rtake (n + 1)).tail = l.rtake n := by
  have hdrop : l.length - (n + 1) + 1 = l.length - n := by omega
  rw [List.rtake, List.rtake, List.tail_drop, hdrop]

/-- A push onto a ring that holds some values makes it hold one more. -/
theorem push_holding {n : Nat} (h : 0 < n) (xs : List α) (x : α) :
    push (holding n xs) x = holding n (xs ++ [x]) := by
  cases n with
  | zero => exact absurd h (by omega)
  | succ k =>
      have hlong : k + 1 ≤ (List.replicate (k + 1) none ++ xs.map some).length := by
        simp only [List.length_append, List.length_replicate]
        omega
      rw [push, holding, holding, tail_rtake_succ hlong, List.map_append, List.map_singleton,
        ← List.append_assoc, List.rtake_concat_succ]

theorem filterMap_holding (n : Nat) (xs : List α) : (holding n xs).filterMap id = xs.rtake n := by
  -- As many places are given up as there are values, first the ones that nobody has used.
  have hlength : (List.replicate n none ++ xs.map some).length - n = xs.length := by
    simp
  rw [holding, List.rtake, hlength, List.drop_append, List.length_replicate, List.drop_replicate,
    ← List.map_drop, List.filterMap_append, List.rtake]
  simp

/-! ## Ticks without a value -/

theorem rtake_of_length_le {l : List α} {n : Nat} (h : l.length ≤ n) : l.rtake n = l := by
  rw [List.rtake, Nat.sub_eq_zero_of_le h, List.drop_zero]

/-- The end is the second list where this has the length. -/
theorem rtake_append_of_length_eq (l₁ : List α) {l₂ : List α} {n : Nat} (h : l₂.length = n) :
    (l₁ ++ l₂).rtake n = l₂ := by
  have hlength : (l₁ ++ l₂).length - n = l₁.length := by
    rw [List.length_append]
    omega
  rw [List.rtake, hlength, List.drop_left]

theorem length_rtake (l : List α) (n : Nat) : (l.rtake n).length = min n l.length := by
  rw [List.rtake, List.length_drop]
  omega

/-- Where every place is used, there are as many values as places. -/
theorem length_filterMap_of_forall_isSome {l : List (Option α)} (h : none ∉ l) :
    (l.filterMap id).length = l.length := by
  induction l with
  | nil => rfl
  | cons x xs ih =>
      have hxs : none ∉ xs := fun hmem => h (List.mem_cons_of_mem _ hmem)
      cases x with
      | none => exact absurd List.mem_cons_self h
      | some a =>
          have hcons : (some a :: xs).filterMap id = a :: xs.filterMap id := rfl
          rw [hcons, List.length_cons, List.length_cons, ih hxs]

/-- The last values are those of the last ticks, where all of these had one or there were none
before. -/
theorem rtake_filterMap {entries : List (Option α)} {n : Nat}
    (h : none ∉ entries.rtake n ∨ (entries.rdrop n).filterMap id = []) :
    (entries.filterMap id).rtake n = (entries.rtake n).filterMap id := by
  have hparts : entries.rdrop n ++ entries.rtake n = entries :=
    List.take_append_drop _ _
  have hshort : ((entries.rtake n).filterMap id).length ≤ n := by
    have hle := List.length_filterMap_le id (entries.rtake n)
    rw [length_rtake] at hle
    omega
  conv_lhs => rw [← hparts, List.filterMap_append]
  by_cases hbefore : (entries.rdrop n).filterMap id = []
  · rw [hbefore, List.nil_append, rtake_of_length_le hshort]
  · have hfull : none ∉ entries.rtake n := h.resolve_right hbefore
    -- There is something before, so that the window is as long as it can be.
    have hlong : n ≤ entries.length := by
      by_contra hc
      apply hbefore
      rw [List.rdrop, Nat.sub_eq_zero_of_le (Nat.le_of_not_le hc), List.take_zero]
      rfl
    have hlength : ((entries.rtake n).filterMap id).length = n := by
      rw [length_filterMap_of_forall_isSome hfull, length_rtake]
      omega
    exact rtake_append_of_length_eq _ hlength

end Window

end Nxpod
