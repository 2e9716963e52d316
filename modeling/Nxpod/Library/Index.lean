import Mathlib.Data.List.Basic

/-!
# Secondary Indexes

A table of rows by primary key, and beside it an index by a second kind of
key. Every row has entries for the index, pairs of a secondary key and a
value, and the index is to map the keys of the rows that are in the table to
values that their rows have for them. Some keys are not real, and the index is
to have none of these: an empty field, say, that many rows can share.

The index is kept up to date by whoever changes the table. `Put` and `Drop`
say what a careless program does. Putting a row writes all of its entries,
over whatever the index has, and dropping a row erases some keys. What a put
or a drop leaves behind is then a question of which keys the old row had.

All of this is for tables in which a real key belongs to one row at most. In
such tables an index misses nothing whatever is put (`complete_put`), and it
is exact when moreover it has nothing else (`exact_iff_of_complete`).

## Main definitions

* `Indexed`: A table with an index.
* `Owns`: A row that is in the table has an entry.
* `Unambiguous`: A real key belongs to one row at most.
* `Complete`, `Exact`: The index has all entries, and no others.
* `Put`, `Drop`: Putting and dropping a row.

## Theorems

* `exact_iff_of_complete`: What a complete index lacks to be exact.
* `complete_put`: Putting a row keeps an index complete.
* `exact_put_iff`: When putting a row keeps an index exact.
* `exact_drop_iff`: When dropping a row does.
-/

namespace Nxpod

/-- A table of rows by primary key, and an index. -/
structure Indexed (ι R κ ν : Type*) where
  rows : ι → Option R
  index : κ → Option ν

namespace Indexed

variable {ι R κ ν : Type*} (entries : R → List (κ × ν)) (real : κ → Prop)

/-- The row with primary key `i` is in the table and has an entry. -/
def Owns (s : Indexed ι R κ ν) (i : ι) (k : κ) (v : ν) : Prop :=
  ∃ r, s.rows i = some r ∧ (k, v) ∈ entries r

/-- A real key belongs to one row at most. -/
def Unambiguous (s : Indexed ι R κ ν) : Prop :=
  ∀ i j k v w, real k → s.Owns entries i k v → s.Owns entries j k w → i = j

/-- The real keys of the rows are in the index, with a value of their row. -/
def Complete (s : Indexed ι R κ ν) : Prop :=
  ∀ i k v, real k → s.Owns entries i k v →
    ∃ j w, s.index k = some w ∧ s.Owns entries j k w

/-- The index has the real keys of the rows and nothing else. -/
structure Exact (s : Indexed ι R κ ν) : Prop where
  complete : s.Complete entries real
  sound : ∀ k w, s.index k = some w → real k ∧ ∃ i, s.Owns entries i k w

/-- The row `r` is put under `i`, and its entries are written. -/
structure Put (i : ι) (r : R) (s s' : Indexed ι R κ ν) : Prop where
  rows_self : s'.rows i = some r
  rows_other : ∀ j, j ≠ i → s'.rows j = s.rows j
  index_of_mem : ∀ k, k ∈ (entries r).map Prod.fst →
    ∃ w, s'.index k = some w ∧ (k, w) ∈ entries r
  index_of_not_mem : ∀ k, k ∉ (entries r).map Prod.fst → s'.index k = s.index k

/-- The row under `i` is dropped, and the keys `ks` are erased. -/
structure Drop (i : ι) (ks : κ → Prop) (s s' : Indexed ι R κ ν) : Prop where
  rows_self : s'.rows i = none
  rows_other : ∀ j, j ≠ i → s'.rows j = s.rows j
  index_of_mem : ∀ k, ks k → s'.index k = none
  index_of_not_mem : ∀ k, ¬ ks k → s'.index k = s.index k

variable {entries real} {s s' : Indexed ι R κ ν} {i : ι} {r : R}

/-- A complete index is exact when each of its keys is real and belongs to
    some row. Which value it has for the key is settled then. -/
theorem exact_iff_of_complete (hs : s.Complete entries real) :
    s.Exact entries real ↔
      ∀ k w, s.index k = some w → real k ∧ ∃ i v, s.Owns entries i k v := by
  constructor
  · intro h k w hk
    rcases h.sound k w hk with ⟨hreal, j, hj⟩
    exact ⟨hreal, j, w, hj⟩
  · intro h
    refine ⟨hs, fun k w hk => ?_⟩
    rcases h k w hk with ⟨hreal, j, v, hj⟩
    rcases hs j k v hreal hj with ⟨j', w', hk', hj'⟩
    rw [hk, Option.some.injEq] at hk'
    exact ⟨hreal, j', hk' ▸ hj'⟩

/-- A row other than the one that changed is where it was. -/
theorem owns_iff_of_rows_eq {j : ι} (h : s'.rows j = s.rows j) {k : κ} {v : ν} :
    s'.Owns entries j k v ↔ s.Owns entries j k v := by
  simp only [Owns, h]

section Put

variable (hput : Put entries i r s s')
include hput

theorem owns_put_self {k : κ} {v : ν} : s'.Owns entries i k v ↔ (k, v) ∈ entries r := by
  simp only [Owns, hput.rows_self, Option.some.injEq, exists_eq_left']

/-- An index that misses nothing still misses nothing after a put. -/
theorem complete_put (hs : s.Complete entries real) (hu : s.Unambiguous entries real) :
    s'.Complete entries real := by
  intro j k v hreal hj
  by_cases hk : k ∈ (entries r).map Prod.fst
  · rcases hput.index_of_mem k hk with ⟨w, hw, hmem⟩
    exact ⟨i, w, hw, (owns_put_self hput).mpr hmem⟩
  · -- the key belongs to another row, which had it before
    have hji : j ≠ i := by
      rintro rfl
      exact hk (List.mem_map_of_mem ((owns_put_self hput).mp hj))
    have hold := (owns_iff_of_rows_eq (hput.rows_other j hji)).mp hj
    rcases hs j k v hreal hold with ⟨j', w, hw, hj'⟩
    rw [hu j' j k w v hreal hj' hold] at hj'
    exact ⟨j, w, (hput.index_of_not_mem k hk).trans hw,
      (owns_iff_of_rows_eq (hput.rows_other j hji)).mpr hj'⟩

/-- Putting a row keeps an index exact if and only if the row has real keys
    only and has all the real keys of the row it replaces. -/
theorem exact_put_iff (hs : s.Exact entries real) (hu : s.Unambiguous entries real) :
    s'.Exact entries real ↔
      (∀ k ∈ (entries r).map Prod.fst, real k) ∧
        ∀ k v, real k → s.Owns entries i k v → k ∈ (entries r).map Prod.fst := by
  constructor
  · intro h
    refine ⟨fun k hk => ?_, fun k v hreal hi => ?_⟩
    · rcases hput.index_of_mem k hk with ⟨w, hw, _⟩
      exact (h.sound k w hw).1
    · by_contra hk
      -- the index still has the key, and no row has it
      rcases hs.complete i k v hreal hi with ⟨_, w, hw, _⟩
      rcases h.sound k w ((hput.index_of_not_mem k hk).trans hw) with ⟨_, j, hj⟩
      have hji : j ≠ i := by
        rintro rfl
        exact hk (List.mem_map_of_mem ((owns_put_self hput).mp hj))
      exact hji (hu j i k w v hreal ((owns_iff_of_rows_eq (hput.rows_other j hji)).mp hj) hi)
  · rintro ⟨hreal, hold⟩
    refine (exact_iff_of_complete (complete_put hput hs.complete hu)).mpr fun k w hw => ?_
    by_cases hk : k ∈ (entries r).map Prod.fst
    · rcases hput.index_of_mem k hk with ⟨v, _, hmem⟩
      exact ⟨hreal k hk, i, v, (owns_put_self hput).mpr hmem⟩
    · rw [hput.index_of_not_mem k hk] at hw
      rcases hs.sound k w hw with ⟨hreal_k, j, hj⟩
      have hji : j ≠ i := by
        rintro rfl
        exact hk (hold k w hreal_k hj)
      exact ⟨hreal_k, j, w, (owns_iff_of_rows_eq (hput.rows_other j hji)).mpr hj⟩

end Put

/-- Dropping a row and some of its keys keeps an index exact if and only if
    these are all the real keys the row has. -/
theorem exact_drop_iff {ks : κ → Prop} (hdrop : Drop i ks s s') (hs : s.Exact entries real)
    (hu : s.Unambiguous entries real) (hks : ∀ k, ks k → ∃ v, s.Owns entries i k v) :
    s'.Exact entries real ↔ ∀ k v, real k → s.Owns entries i k v → ks k := by
  -- the dropped row has no entry any more, the others have theirs
  have hother : ∀ j k v, s'.Owns entries j k v ↔ j ≠ i ∧ s.Owns entries j k v := by
    intro j k v
    by_cases hji : j = i
    · rw [hji]
      simp only [Owns, hdrop.rows_self, reduceCtorEq, false_and, exists_false, ne_eq,
        not_true_eq_false]
    · rw [owns_iff_of_rows_eq (hdrop.rows_other j hji), and_iff_right hji]
  constructor
  · intro h k v hreal hi
    by_contra hk
    rcases hs.complete i k v hreal hi with ⟨_, w, hw, _⟩
    rcases h.sound k w ((hdrop.index_of_not_mem k hk).trans hw) with ⟨_, j, hj⟩
    rcases (hother j k w).mp hj with ⟨hji, hold⟩
    exact hji (hu j i k w v hreal hold hi)
  · intro hall
    constructor
    · intro j k v hreal hj
      rcases (hother j k v).mp hj with ⟨hji, hold⟩
      have hk : ¬ ks k := by
        intro hk
        rcases hks k hk with ⟨w, hw⟩
        exact hji (hu j i k v w hreal hold hw)
      rcases hs.complete j k v hreal hold with ⟨j', w, hw, hj'⟩
      rw [hu j' j k w v hreal hj' hold] at hj'
      exact ⟨j, w, (hdrop.index_of_not_mem k hk).trans hw, (hother j k w).mpr ⟨hji, hj'⟩⟩
    · intro k w hw
      have hk : ¬ ks k := by
        intro hk
        rw [hdrop.index_of_mem k hk] at hw
        exact absurd hw (by simp only [reduceCtorEq, not_false_eq_true])
      rw [hdrop.index_of_not_mem k hk] at hw
      rcases hs.sound k w hw with ⟨hreal, j, hj⟩
      have hji : j ≠ i := by
        rintro rfl
        exact hk (hall k w hreal hj)
      exact ⟨hreal, j, (hother j k w).mpr ⟨hji, hj⟩⟩

end Indexed

end Nxpod
