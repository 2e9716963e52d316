import Nxpod.Library.Keyed

/-!
# The Garbage Collected Cache

The cache of the port authorization service. A stored value is never
overwritten, and a lookup does not look at the expiry date: an entry is served
until a sweep finds it expired. Sweeps run on a timer, so an entry can outlive
its age by up to one interval.

The entries are kept in a JavaScript map, which is a list of entries without
repeated keys in the order of insertion.

## Main definitions

* `CacheEntry`: A value with the time from which on it may be removed.
* `GarbageCollectedCache`: The cache.
* `get`, `set`, `collectGarbage`: Its operations.

## Theorems

* `get_set_cases`: What a lookup finds after a store.
* `get_of_get_collectGarbage`: A sweep only removes entries.
-/

namespace Nxpod

namespace PortAuth

open Keyed

/-- A value with the time from which on it may be removed. -/
structure CacheEntry (T : Type) where
  key : String
  value : T
  expiryDate : Nat

/-- The entries in the order of insertion, one for each key. -/
structure GarbageCollectedCache (T : Type) where
  store : List (CacheEntry T)
  keys_nodup : (store.map CacheEntry.key).Nodup

namespace GarbageCollectedCache

variable {T : Type}

/-- A cache without entries. -/
def empty : GarbageCollectedCache T := ⟨[], List.nodup_nil⟩

/-- The entry under a key, expired or not. -/
def lookup (cache : GarbageCollectedCache T) (key : String) : Option (CacheEntry T) :=
  findKey CacheEntry.key key cache.store

/-- The value under a key. -/
def get (cache : GarbageCollectedCache T) (key : String) : Option T :=
  (cache.lookup key).map CacheEntry.value

/-- Store a value for `maxAge` milliseconds, unless the key is present. -/
def set (cache : GarbageCollectedCache T) (maxAge now : Nat) (key : String) (value : T) :
    GarbageCollectedCache T :=
  if h : cache.lookup key = none then
    ⟨cache.store ++ [⟨key, value, now + maxAge⟩], nodup_append_of_new cache.keys_nodup h rfl⟩
  else cache

/-- Delete the entries that have expired. -/
def collectGarbage (cache : GarbageCollectedCache T) (now : Nat) : GarbageCollectedCache T where
  store := cache.store.filter fun entry => now ≤ entry.expiryDate
  keys_nodup := cache.keys_nodup.sublist (List.filter_sublist.map CacheEntry.key)

/-- A lookup after a store finds what was there, or else what was stored. -/
theorem get_set_cases (cache : GarbageCollectedCache T) (maxAge now : Nat) (key key' : String)
    (value value' : T) (h : (cache.set maxAge now key value).get key' = some value') :
    cache.get key' = some value' ∨ key' = key ∧ value' = value := by
  unfold set at h
  split_ifs at h with hnew
  · -- the new entry is behind the old ones
    by_cases hkey : key = key'
    · rw [get, lookup, findKey_append_self (hkey ▸ hnew) hkey, Option.map_some,
        Option.some.injEq] at h
      exact Or.inr ⟨hkey.symm, h.symm⟩
    · rw [get, lookup, findKey_append_other hkey] at h
      exact Or.inl h
  · exact Or.inl h

/-- A sweep only removes entries. -/
theorem get_of_get_collectGarbage (cache : GarbageCollectedCache T) (now : Nat) (key : String)
    (value : T) (h : (cache.collectGarbage now).get key = some value) :
    cache.get key = some value := by
  rcases Option.map_eq_some_iff.mp h with ⟨entry, hfind, hvalue⟩
  rcases mem_of_findKey hfind with ⟨hmem, hkey⟩
  have hold : cache.lookup key = some entry :=
    (findKey_eq_some_iff cache.keys_nodup).mpr ⟨List.mem_of_mem_filter hmem, hkey⟩
  rw [get, hold, Option.map_some, hvalue]

end GarbageCollectedCache

end PortAuth

end Nxpod
