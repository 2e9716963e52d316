import Mathlib.Algebra.BigOperators.Group.List.Basic
import Mathlib.Algebra.GroupWithZero.Nat
import Mathlib.Algebra.Order.BigOperators.Group.List
import Mathlib.Algebra.Order.Group.Nat
import Mathlib.Data.List.Induction
import Mathlib.Data.List.Nodup
import Mathlib.Data.List.Perm.Subperm
import Mathlib.Tactic.Common

/-!
# Lists with a Key

A table or a map as a list of records, no two of which have the same key. A
record is looked up by its key, and since keys are not repeated the lookup
finds a record exactly when it is in the list.

## Main definitions

* `findKey`: The record with a key.
* `upsert`: Putting a record in the place of the one with its key.
* `findLast`: The last record with a key.

## Theorems

* `findKey_eq_some_iff`: A lookup finds the records of the list.
* `findKey_eq_none_iff`: A lookup fails on the keys that are not there.
* `findKey_append_self`, `findKey_append_other`: Lookups after adding a record.
* `findKey_map`: Lookups after an update that keeps the keys.
* `nodup_map_of_keys`: Such an update repeats no key.
* `nodup_append_of_new`: Adding a record with a new key repeats none.
* `findLast_append`: The last record with a key after adding one.
* `findLast_concat`: The last record of two lists is one of the second if it has any.
* `mem_upsert_iff`, `nodup_upsert`: What putting a record does.
* `mem_foldl_upsert_iff`: Putting one record after the other keeps the last
  one with each key.
* `sum_le_sum_of_keys`: Rows found again by their keys weigh no more.
-/

namespace Nxpod

namespace Keyed

/-- Keys stay distinct when the rows change and the keys do not. -/
theorem nodup_map_of_keys {α κ : Type*} {key : α → κ} {rows : List α} (f : α → α)
    (hf : ∀ row, key (f row) = key row)
    (hn : (rows.map key).Nodup) : ((rows.map f).map key).Nodup := by
  have hkeys : key ∘ f = key := funext hf
  rw [List.map_map, hkeys]
  exact hn

variable {α κ : Type*} [DecidableEq κ]

/-- The row with a key. -/
def findKey (key : α → κ) (k : κ) (rows : List α) : Option α :=
  rows.find? fun row => key row == k

variable {key : α → κ} {k : κ} {rows : List α} {row : α}

theorem mem_of_findKey (h : findKey key k rows = some row) : row ∈ rows ∧ key row = k :=
  ⟨List.mem_of_find?_eq_some h, by simpa only [beq_iff_eq] using List.find?_some h⟩

theorem findKey_eq_none_iff : findKey key k rows = none ↔ k ∉ rows.map key := by
  simp only [findKey, List.find?_eq_none, beq_iff_eq, List.mem_map, not_exists, not_and]

/-- A lookup finds the records of the list. -/
theorem findKey_eq_some_iff (hn : (rows.map key).Nodup) :
    findKey key k rows = some row ↔ row ∈ rows ∧ key row = k := by
  constructor
  · exact mem_of_findKey
  · rintro ⟨hmem, hk⟩
    cases hfind : findKey key k rows with
    | none => exact absurd (hk ▸ List.mem_map_of_mem hmem) (findKey_eq_none_iff.mp hfind)
    | some row' =>
        -- two records with one key are one record
        rcases mem_of_findKey hfind with ⟨hmem', hk'⟩
        rw [List.inj_on_of_nodup_map hn hmem' hmem (hk'.trans hk.symm)]

/-- A new key's record is found after it is added. -/
theorem findKey_append_self (hnew : findKey key k rows = none) (hk : key row = k) :
    findKey key k (rows ++ [row]) = some row := by
  rw [findKey] at hnew
  rw [findKey, List.find?_append, hnew, Option.none_or,
    List.find?_cons_of_pos (by simpa only [beq_iff_eq] using hk)]

/-- Adding a record does not concern the other keys. -/
theorem findKey_append_other (hne : key row ≠ k) :
    findKey key k (rows ++ [row]) = findKey key k rows := by
  rw [findKey, List.find?_append, List.find?_cons_of_neg (by simpa only [beq_iff_eq] using hne),
    List.find?_nil, Option.or_none, findKey]

/-- Updating records in place updates what is found. -/
theorem findKey_map (f : α → α) (hf : ∀ row, key (f row) = key row) :
    findKey key k (rows.map f) = (findKey key k rows).map f := by
  have hkeys : (fun row => key row == k) ∘ f = fun row => key row == k := by
    funext row
    simp only [Function.comp_apply, hf row]
  rw [findKey, List.find?_map, hkeys, findKey]

theorem nodup_append_of_new (hn : (rows.map key).Nodup) (hnew : findKey key k rows = none)
    (hk : key row = k) : ((rows ++ [row]).map key).Nodup := by
  rw [List.map_append, List.nodup_append]
  refine ⟨hn, List.nodup_singleton _, ?_⟩
  intro k₁ hk₁ k₂ hk₂ hc
  rw [List.map_singleton, List.mem_singleton] at hk₂
  rw [hc, hk₂, hk] at hk₁
  exact findKey_eq_none_iff.mp hnew hk₁

/-! ## Rows that replace each other -/

/-- Put a row in the place of the first one with its key, or else at the end. -/
def upsert (key : α → κ) : List α → α → List α
  | [], row => [row]
  | r :: rows, row => if key r = key row then row :: rows else r :: upsert key rows row

/-- The last row with a key. -/
def findLast (key : α → κ) (k : κ) (rows : List α) : Option α :=
  rows.reverse.find? fun row => key row = k

theorem findLast_append (key : α → κ) (k : κ) (rows : List α) (row : α) :
    findLast key k (rows ++ [row]) = if key row = k then some row else findLast key k rows := by
  rw [findLast, List.reverse_append, List.reverse_singleton, List.singleton_append,
    List.find?_cons]
  split_ifs with hk
  · simp only [hk, decide_true]
  · simp only [hk, decide_false, findLast]

theorem findLast_concat (key : α → κ) (k : κ) (rows rows' : List α) :
    findLast key k (rows ++ rows') = (findLast key k rows').or (findLast key k rows) := by
  rw [findLast, List.reverse_append, List.find?_append]
  rfl

theorem mem_of_findLast (h : findLast key k rows = some row) : row ∈ rows ∧ key row = k :=
  ⟨List.mem_reverse.mp (List.mem_of_find?_eq_some h),
    by simpa only [decide_eq_true_eq] using List.find?_some h⟩

theorem findLast_ne_none_iff : findLast key k rows ≠ none ↔ k ∈ rows.map key := by
  simp only [findLast, ne_eq, List.find?_eq_none, List.mem_reverse, decide_eq_true_eq, not_forall,
    not_not, List.mem_map, exists_prop]

/-- When keys are distinct, every row is the last one of its key. -/
theorem findLast_of_nodup (hn : (rows.map key).Nodup) (h : row ∈ rows) :
    findLast key (key row) rows = some row := by
  have hmem : key row ∈ rows.map key := List.mem_map_of_mem h
  rcases Option.ne_none_iff_exists'.mp (findLast_ne_none_iff.mpr hmem) with ⟨r, hr⟩
  rcases mem_of_findLast hr with ⟨hr', hk⟩
  rw [hr, List.inj_on_of_nodup_map hn hr' h hk]

/-- The last row with a key is the last one with any key that says more. -/
theorem findLast_of_findLast {κ' : Type*} [DecidableEq κ'] {key' : α → κ'}
    (hkey : ∀ r r', key' r = key' r' → key r = key r')
    (h : findLast key (key row) rows = some row) : findLast key' (key' row) rows = some row := by
  induction rows using List.reverseRecOn with
  | nil => exact h
  | append_singleton rows r ih =>
      rw [findLast_append] at h ⊢
      by_cases hr : key' r = key' row
      · rw [if_pos (hkey r row hr)] at h
        rw [if_pos hr, h]
      · rw [if_neg hr]
        split_ifs at h
        · exact absurd (congrArg key' (Option.some.inj h)) hr
        · exact ih h

theorem upsert_of_new (h : key row ∉ rows.map key) : upsert key rows row = rows ++ [row] := by
  induction rows with
  | nil => rfl
  | cons r rows ih =>
      rw [List.map_cons, List.mem_cons, not_or] at h
      rw [upsert, if_neg (Ne.symm h.1), ih h.2, List.cons_append]

theorem keys_upsert_subset (row : α) {k : κ} (h : k ∈ (upsert key rows row).map key) :
    k = key row ∨ k ∈ rows.map key := by
  induction rows with
  | nil => simpa only [upsert, List.map_cons, List.map_nil, List.mem_singleton] using Or.inl h
  | cons r rows ih =>
      rw [upsert] at h
      split_ifs at h with hr
      · rw [List.map_cons, List.mem_cons] at h
        exact h.imp_right fun hk => List.mem_map.mpr
          ((List.mem_map.mp hk).imp fun _ hrow => ⟨List.mem_cons_of_mem r hrow.1, hrow.2⟩)
      · rw [List.map_cons, List.mem_cons] at h
        rw [List.map_cons, List.mem_cons]
        rcases h with hk | hk
        · exact Or.inr (Or.inl hk)
        · exact (ih hk).imp_right Or.inr

theorem nodup_upsert (hn : (rows.map key).Nodup) (row : α) :
    ((upsert key rows row).map key).Nodup := by
  induction rows with
  | nil => exact List.nodup_singleton _
  | cons r rows ih =>
      rw [List.map_cons, List.nodup_cons] at hn
      rw [upsert]
      split_ifs with hr
      · rw [List.map_cons, List.nodup_cons, ← hr]
        exact hn
      · rw [List.map_cons, List.nodup_cons]
        refine ⟨fun hk => ?_, ih hn.2⟩
        rcases keys_upsert_subset row hk with hk | hk
        · exact hr hk
        · exact hn.1 hk

/-- In a list without repeated keys the new row replaces the one with its
    key. -/
theorem mem_upsert_iff (hn : (rows.map key).Nodup) (r row : α) :
    r ∈ upsert key rows row ↔ r = row ∨ r ∈ rows ∧ key r ≠ key row := by
  induction rows with
  | nil => simp only [upsert, List.mem_singleton, List.not_mem_nil, false_and, or_false]
  | cons r' rows ih =>
      rw [List.map_cons, List.nodup_cons] at hn
      rw [upsert]
      split_ifs with hr
      · -- the other rows have other keys
        rw [List.mem_cons, List.mem_cons]
        refine or_congr_right ⟨fun hmem => ⟨Or.inr hmem, fun hc => hn.1 ?_⟩, ?_⟩
        · rw [hr, ← hc]
          exact List.mem_map_of_mem hmem
        · rintro ⟨heq | hmem, hne⟩
          · exact absurd (heq ▸ hr) hne
          · exact hmem
      · rw [List.mem_cons, ih hn.2, List.mem_cons]
        constructor
        · rintro (heq | heq | ⟨hmem, hne⟩)
          · exact Or.inr ⟨Or.inl heq, heq ▸ hr⟩
          · exact Or.inl heq
          · exact Or.inr ⟨Or.inr hmem, hne⟩
        · rintro (heq | ⟨heq | hmem, hne⟩)
          · exact Or.inr (Or.inl heq)
          · exact Or.inl heq
          · exact Or.inr (Or.inr ⟨hmem, hne⟩)

theorem nodup_foldl_upsert (rows : List α) : ((rows.foldl (upsert key) []).map key).Nodup := by
  induction rows using List.reverseRecOn with
  | nil => exact List.nodup_nil
  | append_singleton rows row ih =>
      rw [List.foldl_append]
      exact nodup_upsert ih row

/-- Putting rows one after the other keeps the last one with each key. -/
theorem mem_foldl_upsert_iff (rows : List α) (r : α) :
    r ∈ rows.foldl (upsert key) [] ↔ findLast key (key r) rows = some r := by
  induction rows using List.reverseRecOn with
  | nil => simp only [List.foldl_nil, List.not_mem_nil, findLast, List.reverse_nil, List.find?_nil,
      reduceCtorEq]
  | append_singleton rows row ih =>
      rw [List.foldl_append, List.foldl_cons, List.foldl_nil,
        mem_upsert_iff (nodup_foldl_upsert rows), ih, findLast_append]
      split_ifs with hk
      · rw [Option.some.injEq]
        exact ⟨fun h => h.elim Eq.symm fun h => absurd hk.symm h.2, fun h => Or.inl h.symm⟩
      · refine ⟨fun h => h.elim (fun h => absurd (congrArg key h.symm) hk) And.left,
          fun h => Or.inr ⟨h, Ne.symm hk⟩⟩

omit [DecidableEq κ] in
/-- Rows without repeated keys weigh no more than rows among which each is
    found again, by its key and with its weight. -/
theorem sum_le_sum_of_keys {weight : α → Nat} {rows' : List α} (hn : (rows.map key).Nodup)
    (h : ∀ row ∈ rows, ∃ row' ∈ rows', key row' = key row ∧ weight row' = weight row) :
    (rows.map weight).sum ≤ (rows'.map weight).sum := by
  have hpairs : (rows.map fun row => (key row, weight row)).Nodup := by
    refine List.Nodup.of_map Prod.fst ?_
    rw [List.map_map]
    exact hn
  have hsub : (rows.map fun row => (key row, weight row)) ⊆
      rows'.map fun row => (key row, weight row) := by
    intro pair hpair
    rcases List.mem_map.mp hpair with ⟨row, hrow, rfl⟩
    rcases h row hrow with ⟨row', hrow', hk, hw⟩
    exact List.mem_map.mpr ⟨row', hrow', Prod.ext hk hw⟩
  rcases List.subperm_of_subset hpairs hsub with ⟨l, hperm, hl⟩
  calc (rows.map weight).sum
      = ((rows.map fun row => (key row, weight row)).map Prod.snd).sum := by
        rw [List.map_map]; rfl
    _ = (l.map Prod.snd).sum := (hperm.map Prod.snd).sum_eq.symm
    _ ≤ ((rows'.map fun row => (key row, weight row)).map Prod.snd).sum :=
        (hl.map Prod.snd).sum_le_sum fun _ _ => Nat.zero_le _
    _ = (rows'.map weight).sum := by rw [List.map_map]; rfl

end Keyed

end Nxpod
