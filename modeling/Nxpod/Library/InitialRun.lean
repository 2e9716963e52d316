import Mathlib.Data.List.Chain

/-!
# Initial Runs

The longest beginning of a list each of whose elements stands in a relation to
the next one. A search that goes through a list and stops where two neighbours
are not related any more looks at the elements of the initial run.

For a transitive relation, elements can be left out of a run. What is left out
of the list behind the element that a search is for, or before it, does not
change what the search finds, as long as the element itself stays.

## Main definitions

* `initialRun`: The initial run of a list.

## Theorems

* `initialRun_begins`, `isChain_initialRun`: It is a beginning of the list, and
  a run.
* `begins_initialRun`: It is the longest one.
* `find?_initialRun_filter`: A search in the initial run of a part of the list.
-/

namespace Nxpod

namespace InitialRun

variable {α : Type*} (r : α → α → Prop) [DecidableRel r]

/-- The elements up to the first that is not related to its neighbour. -/
def initialRun : List α → List α
  | [] => []
  | [a] => [a]
  | a :: b :: l => if r a b then a :: initialRun (b :: l) else [a]

theorem initialRun_cons_cons (a b : α) (l : List α) :
    initialRun r (a :: b :: l) = if r a b then a :: initialRun r (b :: l) else [a] := rfl

theorem initialRun_begins (l : List α) : initialRun r l <+: l := by
  induction l with
  | nil => exact List.nil_prefix
  | cons a l ih =>
      cases l with
      | nil => exact List.prefix_rfl
      | cons b l =>
          rw [initialRun_cons_cons]
          split_ifs
          · exact (List.prefix_cons_inj a).mpr ih
          · exact (List.prefix_cons_inj a).mpr List.nil_prefix

variable {r}

/-- The run of a list that has elements starts with the first of them. -/
theorem head?_initialRun (l : List α) : (initialRun r l).head? = l.head? := by
  rcases l with _ | ⟨a, _ | ⟨b, l⟩⟩
  · rfl
  · rfl
  · rw [initialRun_cons_cons]
    split_ifs <;> rfl

theorem isChain_initialRun (l : List α) : (initialRun r l).IsChain r := by
  induction l with
  | nil => exact List.isChain_nil
  | cons a l ih =>
      cases l with
      | nil => exact List.isChain_singleton a
      | cons b l =>
          rw [initialRun_cons_cons]
          split_ifs with hab
          · refine List.isChain_cons.mpr ⟨fun c hc => ?_, ih⟩
            rw [head?_initialRun, List.head?_cons, Option.mem_some_iff] at hc
            exact hc ▸ hab
          · exact List.isChain_singleton a

/-- No longer beginning of the list is a run. -/
theorem begins_initialRun {l p : List α} (hp : p <+: l) (hchain : p.IsChain r) :
    p <+: initialRun r l := by
  induction l generalizing p with
  | nil => exact hp
  | cons a l ih =>
      cases p with
      | nil => exact List.nil_prefix
      | cons c p =>
          rw [List.cons_prefix_cons] at hp
          rcases hp with ⟨rfl, hp⟩
          cases l with
          | nil =>
              rw [List.prefix_nil.mp hp]
              exact List.prefix_rfl
          | cons b l =>
              rw [initialRun_cons_cons]
              split_ifs with hab
              · exact (List.prefix_cons_inj c).mpr (ih hp hchain.tail)
              · -- A second element would have to be related to the first.
                cases p with
                | nil => exact List.prefix_rfl
                | cons d p =>
                    rw [List.cons_prefix_cons] at hp
                    refine absurd (hchain.rel_head? (Option.mem_some_iff.mpr rfl)) ?_
                    rw [hp.1]
                    exact hab

/-- What a search in the initial run finds is found among some of the elements
    as well, if it is one of them. -/
theorem find?_initialRun_filter [Trans r r r] (p q : α → Bool) {l : List α} {a : α}
    (hfind : (initialRun r l).find? p = some a) (ha : q a = true) :
    (initialRun r (l.filter q)).find? p = some a := by
  rcases List.find?_eq_some_iff_append.mp hfind with ⟨hpa, before, behind, hrun, hbefore⟩
  rcases initialRun_begins r l with ⟨rest, hl⟩
  -- The elements up to the one found are a run, and so are those among them that stay.
  have hchain : (before ++ [a]).IsChain r := by
    have hbegins : before ++ [a] <+: initialRun r l := by
      rw [hrun]
      exact ⟨behind, by rw [List.append_assoc, List.singleton_append]⟩
    exact List.IsChain.sublist (isChain_initialRun l) hbegins.sublist
  have hfilter : (before.filter q ++ [a]).IsChain r :=
    hchain.sublist (List.Sublist.append_right List.filter_sublist [a])
  have hbegins : before.filter q ++ [a] <+: l.filter q := by
    refine ⟨(behind ++ rest).filter q, ?_⟩
    rw [hrun] at hl
    rw [← hl]
    simp only [List.append_assoc, List.cons_append, List.nil_append, List.filter_append,
      List.filter_cons_of_pos ha]
  rcases begins_initialRun hbegins hfilter with ⟨more, hmore⟩
  refine List.find?_eq_some_iff_append.mpr ⟨hpa, before.filter q, more, ?_, ?_⟩
  · rw [← hmore, List.append_assoc, List.singleton_append]
  · exact fun b hb => hbefore b (List.mem_filter.mp hb).1

end InitialRun

end Nxpod
