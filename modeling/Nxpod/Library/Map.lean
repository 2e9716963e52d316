import Mathlib.Data.List.AList

/-!
# Finite Maps

The maps of the modelled programs: finitely many keys, each with one value.
Mathlib's association lists without repeated keys are used as they are, at a
value type that does not depend on the key. What is added is how the
operations read through a lookup, and the bulk operations the programs write
as loops: removing a list of keys and storing a list of entries.

The order of the entries is an artefact of the representation. Two maps are
compared by their lookups.

## Main definitions

* `Map`: Finite maps.
* `Map.values`: The values stored.
* `Map.eraseAll`: Removing a list of keys.
* `Map.insertAll`: Storing a list of entries, one after the other.

## Theorems

* `lookup_insert_eq_ite`, `lookup_erase_eq_ite`: Lookups after one operation.
* `lookup_eraseAll`: Lookups after removing a list of keys.
* `mem_values_iff`: A value is stored under some key.
* `nodup_filterMap_values`: Values that know their keys repeat none.
* `isSome_lookup_insertAll`: The keys there after storing a list of entries.
* `lookup_insertAll_of_not_mem`: Storing entries does not concern other keys.
* `lookup_insertAll_mem`: What is found under a key that was stored.
* `lookup_insertAll_map`: Storing images.
-/

namespace Nxpod

/-- A map with finitely many keys. -/
abbrev Map (κ : Type*) (α : Type*) := AList fun _ : κ => α

namespace Map

variable {κ α : Type*} [DecidableEq κ]

theorem lookup_insert_eq_ite (m : Map κ α) (k k' : κ) (v : α) :
    (m.insert k v).lookup k' = if k' = k then some v else m.lookup k' := by
  split_ifs with hk
  · rw [hk, AList.lookup_insert]
  · exact AList.lookup_insert_ne hk

theorem lookup_erase_eq_ite (m : Map κ α) (k k' : κ) :
    (m.erase k).lookup k' = if k' = k then none else m.lookup k' := by
  split_ifs with hk
  · rw [hk, AList.lookup_erase]
  · exact AList.lookup_erase_ne hk

/-- The keys are those under which something is found. -/
theorem mem_keys_iff (m : Map κ α) (k : κ) : k ∈ m.keys ↔ m.lookup k ≠ none := by
  rw [← AList.mem_keys, ne_eq, AList.lookup_eq_none, not_not]

/-- The values stored, in no particular order. -/
def values (m : Map κ α) : List α :=
  m.entries.map fun entry => entry.2

theorem mem_values_iff (m : Map κ α) (v : α) : v ∈ values m ↔ ∃ k, m.lookup k = some v := by
  simp only [values, List.mem_map]
  constructor
  · rintro ⟨⟨k, w⟩, hmem, hw⟩
    exact ⟨k, AList.mem_lookup_iff.mpr (hw ▸ hmem)⟩
  · rintro ⟨k, hk⟩
    exact ⟨⟨k, v⟩, AList.mem_lookup_iff.mp hk, rfl⟩

/-- Values taken from a map that know the key they are under repeat no key. -/
theorem nodup_filterMap_values {β : Type*} {key : β → κ} (m : Map κ α) (f : α → Option β)
    (hf : ∀ k v b, m.lookup k = some v → f v = some b → key b = k) :
    (((values m).filterMap f).map key).Nodup := by
  have hsublist : ∀ entries : List (Sigma fun _ : κ => α),
      (∀ entry ∈ entries, ∀ b, f entry.2 = some b → key b = entry.1) →
      List.Sublist (((entries.map fun entry => entry.2).filterMap f).map key)
        (entries.map Sigma.fst) := by
    intro entries
    induction entries with
    | nil => exact fun _ => List.Sublist.refl _
    | cons entry entries ih =>
        intro hentries
        have hrest := ih fun e he => hentries e (List.mem_cons_of_mem entry he)
        rw [List.map_cons, List.filterMap_cons, List.map_cons]
        split
        · exact List.Sublist.cons _ hrest
        · next b hb =>
            rw [List.map_cons, hentries entry List.mem_cons_self b hb]
            exact List.Sublist.cons_cons _ hrest
  refine (hsublist m.entries fun entry hentry b hb => ?_).nodup m.nodupKeys
  exact hf entry.1 entry.2 b (AList.mem_lookup_iff.mpr hentry) hb

/-- Remove a list of keys. -/
def eraseAll (m : Map κ α) (ks : List κ) : Map κ α :=
  ks.foldl (fun m k => m.erase k) m

theorem lookup_eraseAll (m : Map κ α) (ks : List κ) (k : κ) :
    (eraseAll m ks).lookup k = if k ∈ ks then none else m.lookup k := by
  induction ks generalizing m with
  | nil => simp only [eraseAll, List.foldl_nil, List.not_mem_nil, if_false]
  | cons j ks ih =>
      have hcons : eraseAll m (j :: ks) = eraseAll (m.erase j) ks := rfl
      rw [hcons, ih, lookup_erase_eq_ite]
      by_cases hk : k ∈ ks
      · rw [if_pos hk, if_pos (List.mem_cons_of_mem j hk)]
      · rw [if_neg hk]
        simp only [List.mem_cons, hk, or_false]

/-- Store a list of entries, one after the other. -/
def insertAll (m : Map κ α) (entries : List (κ × α)) : Map κ α :=
  entries.foldl (fun m entry => m.insert entry.1 entry.2) m

theorem insertAll_cons (m : Map κ α) (entry : κ × α) (entries : List (κ × α)) :
    insertAll m (entry :: entries) = insertAll (m.insert entry.1 entry.2) entries :=
  rfl

theorem insertAll_append (m : Map κ α) (entries entries' : List (κ × α)) :
    insertAll m (entries ++ entries') = insertAll (insertAll m entries) entries' :=
  List.foldl_append

theorem lookup_insertAll_of_not_mem (m : Map κ α) (entries : List (κ × α)) (k : κ)
    (h : k ∉ entries.map Prod.fst) : (insertAll m entries).lookup k = m.lookup k := by
  induction entries generalizing m with
  | nil => rfl
  | cons entry entries ih =>
      rw [List.map_cons, List.mem_cons, not_or] at h
      rw [insertAll_cons, ih _ h.2, lookup_insert_eq_ite, if_neg h.1]

/-- A key that was stored is found with one of the values stored under it. -/
theorem lookup_insertAll_mem (m : Map κ α) (entries : List (κ × α)) (k : κ)
    (h : k ∈ entries.map Prod.fst) :
    ∃ v, (insertAll m entries).lookup k = some v ∧ (k, v) ∈ entries := by
  induction entries generalizing m with
  | nil => exact absurd h List.not_mem_nil
  | cons entry entries ih =>
      rw [insertAll_cons]
      by_cases hrest : k ∈ entries.map Prod.fst
      · rcases ih (m.insert entry.1 entry.2) hrest with ⟨v, hv, hmem⟩
        exact ⟨v, hv, List.mem_cons_of_mem entry hmem⟩
      · -- the first entry is the last one under this key
        rw [List.map_cons, List.mem_cons] at h
        have hk : k = entry.1 := h.resolve_right hrest
        refine ⟨entry.2, ?_, ?_⟩
        · rw [lookup_insertAll_of_not_mem _ _ _ hrest, lookup_insert_eq_ite, if_pos hk]
        · rw [hk]
          exact List.mem_cons_self

/-- A key is there afterwards if it was before or an entry has it. -/
theorem isSome_lookup_insertAll (m : Map κ α) (entries : List (κ × α)) (k : κ) :
    (insertAll m entries).lookup k ≠ none ↔ k ∈ entries.map Prod.fst ∨ m.lookup k ≠ none := by
  by_cases h : k ∈ entries.map Prod.fst
  · rcases lookup_insertAll_mem m entries k h with ⟨v, hv, _⟩
    simp only [hv, ne_eq, reduceCtorEq, not_false_eq_true, h, true_or]
  · simp only [lookup_insertAll_of_not_mem m entries k h, h, false_or]

/-- Storing the images of some values finds the image of what storing the
    values finds. -/
theorem lookup_insertAll_map {β : Type*} (f : α → β) (m : Map κ α) (m' : Map κ β)
    (entries : List (κ × α)) (k : κ) (h : ∀ k, m'.lookup k = (m.lookup k).map f) :
    (insertAll m' (entries.map fun entry => (entry.1, f entry.2))).lookup k =
      ((insertAll m entries).lookup k).map f := by
  induction entries generalizing m m' with
  | nil => exact h k
  | cons entry entries ih =>
      rw [List.map_cons, insertAll_cons, insertAll_cons]
      refine ih _ _ fun k' => ?_
      rw [lookup_insert_eq_ite, lookup_insert_eq_ite]
      split_ifs
      · rfl
      · exact h k'

end Map

end Nxpod
