import Mathlib.Algebra.Order.Group.Defs
import Mathlib.Data.List.Basic
import Mathlib.Data.Set.Disjoint
import Mathlib.Data.Set.Lattice
import Mathlib.Order.CompletePartialOrder
import Mathlib.Order.Interval.Set.LinearOrder
import Mathlib.Tactic.Common

/-!
# Spans

A span is where it begins and how long it is. Spans that follow one another, each
beginning where the one before ends, cut what is between the first beginning and the last
end into parts.

## Main definitions

* `Span`, `Span.interval`: A span and what is in it.
* `Follow`: Spans one behind the other.
* `Partition`: A cut of an interval.

## Theorems

* `follow_append`: Two lists of spans.
* `partition_of_follow`: Spans that follow one another are a partition.
* `subset_of_partition`: A part is within the interval.
-/

namespace Nxpod

namespace Spans

variable {α : Type*} [AddCommGroup α] [LinearOrder α] [IsOrderedAddMonoid α]

/-- A beginning and a length. -/
structure Span (α : Type*) where
  off : α
  len : α
  deriving DecidableEq

namespace Span

/-- Where a span ends. -/
def stop (s : Span α) : α := s.off + s.len

/-- What a span covers, without its end. -/
def interval (s : Span α) : Set α := Set.Ico s.off s.stop

end Span

/-- From `a` on to `b`. -/
def Follow : α → List (Span α) → α → Prop
  | a, [], b => a = b
  | a, s :: ss, b => s.off = a ∧ Follow s.stop ss b

/-- Each span begins where the one before ends, no two have anything in common, none is
    empty, and together they have what is from `a` on and before `b`. -/
structure Partition (a b : α) (ss : List (Span α)) : Prop where
  contiguous : ss.IsChain fun s t => s.stop = t.off
  disjoint : ss.Pairwise fun s t => Disjoint s.interval t.interval
  nonempty : ∀ s ∈ ss, s.interval.Nonempty
  cover : ∀ x, x ∈ Set.Ico a b ↔ ∃ s ∈ ss, x ∈ s.interval

variable {a b c : α} {ss ts : List (Span α)} {s : Span α}

omit [LinearOrder α] [IsOrderedAddMonoid α] in
/-- Spans that follow one another may be put together. -/
theorem follow_append (hs : Follow a ss b) (ht : Follow b ts c) : Follow a (ss ++ ts) c := by
  induction ss generalizing a with
  | nil =>
      rw [List.nil_append, show a = b from hs]
      exact ht
  | cons s ss ih => exact ⟨hs.1, ih hs.2⟩

theorem interval_nonempty_iff : s.interval.Nonempty ↔ 0 < s.len := by
  rw [Span.interval, Set.nonempty_Ico, Span.stop, lt_add_iff_pos_right]

theorem le_of_follow (h : Follow a ss b) (hpos : ∀ s ∈ ss, 0 < s.len) : a ≤ b := by
  induction ss generalizing a with
  | nil => exact le_of_eq h
  | cons s ss ih =>
      rcases List.forall_mem_cons.mp hpos with ⟨hs, hss⟩
      have hstop : s.off < s.stop := lt_add_of_pos_right _ hs
      rw [← h.1]
      exact hstop.le.trans (ih h.2 hss)

/-- What spans that follow one another have is what is between their ends. -/
theorem mem_of_follow (h : Follow a ss b) (hpos : ∀ s ∈ ss, 0 < s.len) (x : α) :
    x ∈ Set.Ico a b ↔ ∃ s ∈ ss, x ∈ s.interval := by
  induction ss generalizing a with
  | nil =>
      rw [show a = b from h, Set.Ico_self]
      exact iff_of_false (Set.notMem_empty x) fun ⟨s, hs, _⟩ => List.not_mem_nil hs
  | cons s ss ih =>
      rcases List.forall_mem_cons.mp hpos with ⟨hs, hss⟩
      have hle : s.stop ≤ b := le_of_follow h.2 hss
      have hoff : s.off ≤ s.stop := (lt_add_of_pos_right _ hs).le
      -- the first span, and what the others have
      have hunion : Set.Ico s.off b = s.interval ∪ Set.Ico s.stop b :=
        (Set.Ico_union_Ico_eq_Ico hoff hle).symm
      rw [← h.1, hunion, Set.mem_union, ih h.2 hss, List.exists_mem_cons_iff]

/-- Spans that follow one another cut up what is between. The induction is on the spans. -/
theorem partition_of_follow (h : Follow a ss b) (hpos : ∀ s ∈ ss, 0 < s.len) :
    Partition a b ss where
  contiguous := by
    induction ss generalizing a with
    | nil => exact List.IsChain.nil
    | cons s ss ih =>
        have hchain := ih h.2 (List.forall_mem_cons.mp hpos).2
        cases ss with
        | nil => exact List.IsChain.singleton s
        | cons t ts => exact List.IsChain.cons_cons h.2.1.symm hchain
  disjoint := by
    induction ss generalizing a with
    | nil => exact List.Pairwise.nil
    | cons s ss ih =>
        have hss := (List.forall_mem_cons.mp hpos).2
        refine List.Pairwise.cons (fun t ht => ?_) (ih h.2 hss)
        refine Set.disjoint_left.mpr fun x hx hx' => ?_
        -- whatever is in a later span is not before the end of this one
        have hlater := (mem_of_follow h.2 hss x).mpr ⟨t, ht, hx'⟩
        exact absurd hx.2 (not_lt.mpr hlater.1)
  nonempty s hs := interval_nonempty_iff.mpr (hpos s hs)
  cover := mem_of_follow h hpos

omit [IsOrderedAddMonoid α] in
theorem subset_of_partition (h : Partition a b ss) (hs : s ∈ ss) : s.interval ⊆ Set.Ico a b :=
  fun x hx => (h.cover x).mpr ⟨s, hs, hx⟩

end Spans

end Nxpod
