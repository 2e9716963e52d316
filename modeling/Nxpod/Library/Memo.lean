import Mathlib.Order.Basic

/-!
# Memoised Decisions

A cache in front of a decision. Requests that share a key share an entry, so
the cache answers a request with the decision on some request that has the
same key. It is right to do so when the decision is a function of the key, and
otherwise it depends on who asked first.

A cache is given by its lookup function. How it evicts is left open: any cache
whose entries were all in another one is as justified as that one.

## Main definitions

* `Justified`: Every entry is the decision on some request with its key.
* `KeyDetermines`: Requests with the same key as this one decide the same.

## Theorems

* `justified_empty`, `justified_of_subset`, `justified_insert`: What keeps the
  entries justified.
* `hit_eq`: A hit is the right answer to a request whose key determines it.
-/

namespace Nxpod

namespace Memo

variable {ρ κ ν : Type*}

/-- Every entry is the decision on some request with its key. -/
def Justified (f : ρ → ν) (key : ρ → κ) (get : κ → Option ν) : Prop :=
  ∀ k v, get k = some v → ∃ r, key r = k ∧ f r = v

/-- All requests with the key of `r` are decided like `r`. -/
def KeyDetermines (f : ρ → ν) (key : ρ → κ) (r : ρ) : Prop :=
  ∀ r', key r' = key r → f r' = f r

variable {f : ρ → ν} {key : ρ → κ} {get get' : κ → Option ν}

theorem justified_empty : Justified f key (fun _ => none) := by
  intro k v h
  exact absurd h (by simp only [reduceCtorEq, not_false_eq_true])

/-- Dropping entries keeps the others justified. -/
theorem justified_of_subset (h : Justified f key get)
    (hsub : ∀ k v, get' k = some v → get k = some v) : Justified f key get' :=
  fun k v hget => h k v (hsub k v hget)

/-- So does storing the decision on a request under its key. -/
theorem justified_insert (h : Justified f key get) (r : ρ)
    (hnew : ∀ k v, get' k = some v → get k = some v ∨ k = key r ∧ v = f r) :
    Justified f key get' := by
  intro k v hget
  rcases hnew k v hget with hold | ⟨hk, hv⟩
  · exact h k v hold
  · exact ⟨r, hk.symm, hv.symm⟩

/-- A hit is the decision on the request when the key determines it. -/
theorem hit_eq (h : Justified f key get) {r : ρ} {v : ν} (hdet : KeyDetermines f key r)
    (hget : get (key r) = some v) : v = f r := by
  rcases h (key r) v hget with ⟨r', hkey, hv⟩
  rw [← hv]
  exact hdet r' hkey

end Memo

end Nxpod
