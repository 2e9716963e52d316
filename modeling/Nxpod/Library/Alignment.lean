import Mathlib.Data.Int.Order.Basic

/-!
# Alignments of Two Texts

What a comparison of two texts comes to: lines that are the same in both, and between them hunks,
where lines of the one were replaced with lines of the other. Within a hunk the lines are paired
from its start, so that the surplus at the end of the longer side has no counterpart.

Positions are counted from two offsets, the lines of either text that lie behind, and a hunk moves
both of them. Nothing here needs hunks to be apart, so a hunk may be split in two.

## Main definitions

* `Hunk`: Lines that are the same, and lines that were replaced.
* `Counterpart`: A line of the one text and its line in the other.
* `Surplus`: A line without one.
* `swap`: The comparison the other way round.

## Theorems

* `counterpart_gt`: Counterparts lie behind both offsets.
* `counterpart_swap`: The other way round.
* `counterpart_lt`: Counterparts are in the same order.
* `counterpart_split`: The surplus of a hunk as a hunk of its own.
* `surplus_iff`: Lines without a counterpart.
-/

namespace Nxpod

namespace Alignment

/-- Lines that are the same, and behind them lines removed and added. -/
structure Hunk where
  same : Nat
  removed : Nat
  added : Nat
  deriving DecidableEq

/-- How many lines of the two sides have a counterpart. -/
def Hunk.paired (h : Hunk) : Nat := min h.removed h.added

/-- The hunk seen from the other text. -/
def Hunk.swap (h : Hunk) : Hunk := ⟨h.same, h.added, h.removed⟩

/-- Behind the offsets, a line and its counterpart. -/
def Counterpart : Int → Int → List Hunk → Int → Int → Prop
  | o, m, [], x, y => o < x ∧ y - m = x - o
  | o, m, h :: hs, x, y =>
      (o < x ∧ x ≤ o + h.same + h.paired ∧ y - m = x - o) ∨
        Counterpart (o + h.same + h.removed) (m + h.same + h.added) hs x y

/-- Behind the offset, a line at the end of the longer side of a hunk. -/
def Surplus : Int → List Hunk → Int → Prop
  | _, [], _ => False
  | o, h :: hs, x =>
      (o + h.same + h.paired < x ∧ x ≤ o + h.same + h.removed) ∨
        Surplus (o + h.same + h.removed) hs x

variable {o m x y x' y' : Int} {h : Hunk} {hs : List Hunk}

theorem Hunk.paired_le (h : Hunk) : h.paired ≤ h.removed ∧ h.paired ≤ h.added :=
  ⟨Nat.min_le_left _ _, Nat.min_le_right _ _⟩

theorem Hunk.paired_swap (h : Hunk) : h.swap.paired = h.paired := Nat.min_comm _ _

/-- Counterparts lie behind both offsets. -/
theorem counterpart_gt (hxy : Counterpart o m hs x y) : o < x ∧ m < y := by
  induction hs generalizing o m with
  | nil =>
      rcases hxy with ⟨hx, hy⟩
      omega
  | cons h hs ih =>
      rcases hxy with ⟨hx, -, hy⟩ | hrest
      · omega
      · have hbehind := ih hrest
        omega

/-- The other way round. -/
theorem counterpart_swap : Counterpart o m hs x y ↔ Counterpart m o (hs.map Hunk.swap) y x := by
  induction hs generalizing o m with
  | nil =>
      simp only [List.map_nil, Counterpart]
      omega
  | cons h hs ih =>
      rw [List.map_cons, Counterpart, Counterpart, ih, h.paired_swap]
      refine or_congr_left ?_
      dsimp only [Hunk.swap]
      omega

/-- Counterparts are in the same order. -/
theorem counterpart_lt (hxy : Counterpart o m hs x y) (hxy' : Counterpart o m hs x' y')
    (hlt : x < x') : y < y' := by
  induction hs generalizing o m with
  | nil =>
      rcases hxy with ⟨-, hy⟩
      rcases hxy' with ⟨-, hy'⟩
      omega
  | cons h hs ih =>
      have hle := h.paired_le
      rcases hxy with ⟨-, hx, hy⟩ | hrest
      · rcases hxy' with ⟨-, -, hy'⟩ | hrest'
        · omega
        · have hbehind := counterpart_gt hrest'
          omega
      · rcases hxy' with ⟨-, hx', -⟩ | hrest'
        · have hbehind := counterpart_gt hrest
          omega
        · exact ih hrest hrest'

/-- The paired lines of a hunk, and its surplus as a hunk of its own. -/
def Hunk.split (h : Hunk) : List Hunk :=
  [⟨h.same, h.paired, h.paired⟩, ⟨0, h.removed - h.paired, h.added - h.paired⟩]

/-- Splitting a hunk leaves the counterparts as they are. -/
theorem counterpart_split :
    Counterpart o m (h.split ++ hs) x y ↔ Counterpart o m (h :: hs) x y := by
  have hle := h.paired_le
  have hmin : min (h.removed - h.paired) (h.added - h.paired) = 0 := by
    unfold Hunk.paired
    omega
  have hremoved : o + h.same + h.paired + (0 : Nat) + (h.removed - h.paired : Nat) =
      o + h.same + h.removed := by omega
  have hadded : m + h.same + h.paired + (0 : Nat) + (h.added - h.paired : Nat) =
      m + h.same + h.added := by omega
  have hself : min h.paired h.paired = h.paired := Nat.min_self _
  rw [Hunk.split, List.cons_append, List.singleton_append, Counterpart, Counterpart, Counterpart,
    hremoved, hadded]
  simp only [Hunk.paired] at hmin hself ⊢
  rw [hself, hmin]
  refine or_congr_right (or_iff_right ?_)
  omega

theorem surplus_gt (hx : Surplus o hs x) : o < x := by
  induction hs generalizing o with
  | nil => exact hx.elim
  | cons h hs ih =>
      rcases hx with ⟨hx, -⟩ | hrest
      · omega
      · have hbehind := ih hrest
        omega

/-- A surplus line has no counterpart. The induction is on the hunks. -/
theorem not_counterpart_of_surplus (hx : Surplus o hs x) : ¬ Counterpart o m hs x y := by
  induction hs generalizing o m with
  | nil => exact hx.elim
  | cons h hs ih =>
      have hle := h.paired_le
      rintro (⟨-, hpaired, -⟩ | hrest)
      · rcases hx with ⟨hx, -⟩ | hx
        · omega
        · have hbehind := surplus_gt hx
          omega
      · rcases hx with ⟨-, hx⟩ | hx
        · have hbehind := counterpart_gt hrest
          omega
        · exact ih hx hrest

/-- Behind the offset the lines without a counterpart are the surplus ones. -/
theorem surplus_iff (hx : o < x) : Surplus o hs x ↔ ∀ y, ¬ Counterpart o m hs x y := by
  refine ⟨fun hsurplus y => not_counterpart_of_surplus hsurplus, fun hnone => ?_⟩
  induction hs generalizing o m with
  | nil => exact hnone (x - o + m) ⟨hx, by omega⟩
  | cons h hs ih =>
      -- in the paired lines, in the surplus behind them, or behind the hunk
      by_cases hpaired : x ≤ o + h.same + h.paired
      · exact (hnone (x - o + m) (Or.inl ⟨hx, hpaired, by omega⟩)).elim
      · by_cases hremoved : x ≤ o + h.same + h.removed
        · exact Or.inl ⟨by omega, hremoved⟩
        · exact Or.inr (ih (by omega) fun y hy => hnone y (Or.inr hy))

end Alignment

end Nxpod
