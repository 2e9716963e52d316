import Nxpod.Library.Map

/-!
# Views of Named Objects

A map that is kept in step with a set of objects. Every object contributes some entries, and objects
of different names contribute under different keys. The map is told about one object at a time: what
an object contributes now is stored, and what some keys stand for is removed.

Storing is exact as long as an object does not stop contributing under a key, and removing is exact
as long as no key of another object is meant. Telling the map about every object there is once more
brings it back into step, except for keys that nothing contributes to any more.

## Main definitions

* `Objects`: A list of objects with different names.
* `Contribution`: What the objects contribute.
* `Agrees`: The map has what is contributed, and nothing else.

## Theorems

* `agrees_put_iff`, `agrees_remove_iff`, `agrees_refresh_iff`: The three ways to be told.
* `mem_values_of_agrees`: The values of a view.
-/

namespace Nxpod

namespace View

variable {ο ν κ α : Type*}

structure Objects (name : ο → ν) where
  list : List ο
  nodup : (list.map name).Nodup

namespace Objects

variable {name : ο → ν}

theorem eq_of_name (objects : Objects name) {o o' : ο} (ho : o ∈ objects.list)
    (ho' : o' ∈ objects.list) (h : name o = name o') : o = o' :=
  List.inj_on_of_nodup_map objects.nodup ho ho' h

theorem nodup_filter (objects : Objects name) (p : ο → Bool) :
    ((objects.list.filter p).map name).Nodup :=
  objects.nodup.sublist (List.filter_sublist.map name)

variable [DecidableEq ν]

def remove (objects : Objects name) (n : ν) : Objects name where
  list := objects.list.filter fun o => name o ≠ n
  nodup := objects.nodup_filter _

def put (objects : Objects name) (o : ο) : Objects name where
  list := o :: (objects.remove (name o)).list
  nodup := by
    rw [List.map_cons, List.nodup_cons]
    refine ⟨fun hmem => ?_, (objects.remove (name o)).nodup⟩
    rcases List.mem_map.mp hmem with ⟨o', ho', hname⟩
    exact of_decide_eq_true (List.mem_filter.mp ho').2 hname

theorem mem_remove {objects : Objects name} {n : ν} {o : ο} :
    o ∈ (objects.remove n).list ↔ o ∈ objects.list ∧ name o ≠ n := by
  rw [remove, List.mem_filter, decide_eq_true_eq]

theorem mem_put {objects : Objects name} {o o' : ο} :
    o' ∈ (objects.put o).list ↔ o' = o ∨ o' ∈ objects.list ∧ name o' ≠ name o := by
  rw [put, List.mem_cons, mem_remove]

end Objects

/-- A key belongs to the objects of one name, and an object has one value for it. -/
structure Contribution (ο ν κ α : Type*) where
  name : ο → ν
  entries : ο → List (κ × α)
  same : ∀ o o' key value value', (key, value) ∈ entries o → (key, value') ∈ entries o' →
    name o = name o'
  only : ∀ o key value value', (key, value) ∈ entries o → (key, value') ∈ entries o →
    value = value'

variable [DecidableEq κ] {c : Contribution ο ν κ α} {objects : Objects c.name} {m : Map κ α}

def Agrees (c : Contribution ο ν κ α) (objects : Objects c.name) (m : Map κ α) : Prop :=
  ∀ key value, m.lookup key = some value ↔ ∃ o ∈ objects.list, (key, value) ∈ c.entries o

/-- What is stored for an object is found. -/
theorem lookup_of_mem_entries {o : ο} {entries : List (κ × α)} {key : κ} {value : α}
    (hentries : ∀ entry ∈ entries, ∃ o' ∈ objects.list, entry ∈ c.entries o')
    (ho : o ∈ objects.list) (hmem : (key, value) ∈ c.entries o)
    (hkey : key ∈ entries.map Prod.fst) : (Map.insertAll m entries).lookup key = some value := by
  rcases Map.lookup_insertAll_mem m entries key hkey with ⟨value', hlookup, hmem'⟩
  rcases hentries _ hmem' with ⟨o', ho', hmem'⟩
  have hsame : o' = o := objects.eq_of_name ho' ho (c.same o' o key value' value hmem' hmem)
  rw [hlookup, c.only o key value' value (hsame ▸ hmem') hmem]

theorem lookup_eraseAll_keys (m : Map κ α) (p : κ → Bool) (key : κ) :
    (Map.eraseAll m (m.keys.filter p)).lookup key = if p key then none else m.lookup key := by
  rw [Map.lookup_eraseAll]
  by_cases hp : p key = true
  · rw [if_pos hp]
    split
    · rfl
    · next hnot =>
        by_contra hne
        exact hnot (List.mem_filter.mpr ⟨(Map.mem_keys_iff m key).mpr hne, hp⟩)
  · rw [if_neg hp, if_neg fun hmem => hp (List.mem_filter.mp hmem).2]

section Named

variable [DecidableEq ν]

/-- An object is there in a new shape, and what it contributes now is stored. -/
theorem agrees_put_iff (h : Agrees c objects m) (o : ο) :
    Agrees c (objects.put o) (Map.insertAll m (c.entries o)) ↔
      ∀ old ∈ objects.list, c.name old = c.name o → ∀ entry ∈ c.entries old,
        entry.1 ∈ (c.entries o).map Prod.fst := by
  constructor
  · rintro hput old hold hname ⟨key, value⟩ hmem
    -- A key that the new shape does not have stays, and no object has it any more.
    by_contra hkey
    have hlookup := (h key value).mpr ⟨old, hold, hmem⟩
    rw [← Map.lookup_insertAll_of_not_mem m (c.entries o) key hkey] at hlookup
    rcases (hput key value).mp hlookup with ⟨o', ho', hmem'⟩
    rcases Objects.mem_put.mp ho' with rfl | ⟨-, hne⟩
    · exact hkey (List.mem_map_of_mem hmem')
    · exact hne ((c.same o' old key value value hmem' hmem).trans hname)
  · intro hkeys key value
    by_cases hkey : key ∈ (c.entries o).map Prod.fst
    · rcases List.mem_map.mp hkey with ⟨⟨key', value'⟩, hmem', rfl⟩
      have hin : o ∈ (objects.put o).list := Objects.mem_put.mpr (.inl rfl)
      have hentries : ∀ entry ∈ c.entries o, ∃ o' ∈ (objects.put o).list, entry ∈ c.entries o' :=
        fun entry hentry => ⟨o, hin, hentry⟩
      have hlookup : (Map.insertAll m (c.entries o)).lookup key' = some value' :=
        lookup_of_mem_entries hentries hin hmem' hkey
      rw [hlookup, Option.some.injEq]
      constructor
      · rintro rfl
        exact ⟨o, Objects.mem_put.mpr (.inl rfl), hmem'⟩
      · rintro ⟨o', ho', hmem⟩
        rcases Objects.mem_put.mp ho' with rfl | ⟨-, hne⟩
        · exact c.only o' key' value' value hmem' hmem
        · exact absurd (c.same o' o key' value value' hmem hmem') hne
    · rw [Map.lookup_insertAll_of_not_mem m (c.entries o) key hkey, h key value]
      constructor
      · rintro ⟨o', ho', hmem⟩
        refine ⟨o', Objects.mem_put.mpr (.inr ⟨ho', fun hname => ?_⟩), hmem⟩
        exact hkey (hkeys o' ho' hname (key, value) hmem)
      · rintro ⟨o', ho', hmem⟩
        rcases Objects.mem_put.mp ho' with rfl | ⟨ho', -⟩
        · exact absurd (List.mem_map_of_mem hmem) hkey
        · exact ⟨o', ho', hmem⟩

/-- An object is gone, and the keys that are its own and maybe others are removed. -/
theorem agrees_remove_iff (h : Agrees c objects m) (n : ν) (p : κ → Bool)
    (hown : ∀ o ∈ objects.list, c.name o = n → ∀ entry ∈ c.entries o, p entry.1 = true) :
    Agrees c (objects.remove n) (Map.eraseAll m (m.keys.filter p)) ↔
      ∀ o ∈ objects.list, c.name o ≠ n → ∀ entry ∈ c.entries o, p entry.1 = false := by
  constructor
  · rintro hremove o ho hne ⟨key, value⟩ hmem
    have hlookup := (hremove key value).mpr ⟨o, Objects.mem_remove.mpr ⟨ho, hne⟩, hmem⟩
    rw [lookup_eraseAll_keys] at hlookup
    split at hlookup
    · exact nomatch hlookup
    · next hnot => exact Bool.eq_false_iff.mpr hnot
  · intro hothers key value
    rw [lookup_eraseAll_keys]
    constructor
    · intro hlookup
      split at hlookup
      · exact nomatch hlookup
      · next hnot =>
          rcases (h key value).mp hlookup with ⟨o, ho, hmem⟩
          refine ⟨o, Objects.mem_remove.mpr ⟨ho, fun hname => ?_⟩, hmem⟩
          exact hnot (hown o ho hname (key, value) hmem)
    · rintro ⟨o, ho, hmem⟩
      rcases Objects.mem_remove.mp ho with ⟨ho, hne⟩
      rw [hothers o ho hne (key, value) hmem, if_neg Bool.false_ne_true]
      exact (h key value).mpr ⟨o, ho, hmem⟩

end Named

/-- Whatever the map was like, every object is told about. -/
theorem agrees_refresh_iff (objects : Objects c.name) (m : Map κ α) :
    Agrees c objects (Map.insertAll m (objects.list.flatMap c.entries)) ↔
      ∀ key ∈ m.keys, ∃ o ∈ objects.list, key ∈ (c.entries o).map Prod.fst := by
  -- The keys that are told about.
  have hkeys : ∀ key, key ∈ (objects.list.flatMap c.entries).map Prod.fst ↔
      ∃ o ∈ objects.list, key ∈ (c.entries o).map Prod.fst := by
    intro key
    simp only [List.mem_map, List.mem_flatMap]
    constructor
    · rintro ⟨entry, ⟨o, ho, hmem⟩, hkey⟩
      exact ⟨o, ho, entry, hmem, hkey⟩
    · rintro ⟨o, ho, entry, hmem, hkey⟩
      exact ⟨entry, ⟨o, ho, hmem⟩, hkey⟩
  constructor
  · intro hagrees key hmemKeys
    have hne := (Map.mem_keys_iff m key).mp hmemKeys
    have hsome := (Map.isSome_lookup_insertAll m (objects.list.flatMap c.entries) key).mpr
      (.inr hne)
    rcases Option.ne_none_iff_exists'.mp hsome with ⟨value, hlookup⟩
    rcases (hagrees key value).mp hlookup with ⟨o, ho, hmem⟩
    exact ⟨o, ho, List.mem_map_of_mem hmem⟩
  · intro hold key value
    constructor
    · intro hlookup
      by_cases hkey : key ∈ (objects.list.flatMap c.entries).map Prod.fst
      · rcases Map.lookup_insertAll_mem m _ key hkey with ⟨value', hlookup', hmem⟩
        rw [hlookup', Option.some.injEq] at hlookup
        rw [← hlookup]
        exact List.mem_flatMap.mp hmem
      · rw [Map.lookup_insertAll_of_not_mem m _ key hkey] at hlookup
        refine absurd ((hkeys key).mpr (hold key ((Map.mem_keys_iff m key).mpr ?_))) hkey
        rw [hlookup]
        exact Option.some_ne_none value
    · rintro ⟨o, ho, hmem⟩
      exact lookup_of_mem_entries (fun entry hentry => List.mem_flatMap.mp hentry) ho hmem
        ((hkeys key).mpr ⟨o, ho, List.mem_map_of_mem hmem⟩)

/-- Nothing has to be remembered where nothing was. -/
theorem agrees_empty (c : Contribution ο ν κ α) (objects : Objects c.name) :
    Agrees c objects (Map.insertAll ∅ (objects.list.flatMap c.entries)) :=
  (agrees_refresh_iff objects ∅).mpr fun _ hkey => absurd hkey List.not_mem_nil

theorem mem_values_of_agrees (h : Agrees c objects m) (value : α) :
    value ∈ Map.values m ↔ value ∈ (objects.list.flatMap c.entries).map Prod.snd := by
  rw [Map.mem_values_iff, List.mem_map]
  constructor
  · rintro ⟨key, hlookup⟩
    rcases (h key value).mp hlookup with ⟨o, ho, hmem⟩
    exact ⟨(key, value), List.mem_flatMap.mpr ⟨o, ho, hmem⟩, rfl⟩
  · rintro ⟨⟨key, value'⟩, hmem, rfl⟩
    exact ⟨key, (h key value').mpr (List.mem_flatMap.mp hmem)⟩

end View

end Nxpod
