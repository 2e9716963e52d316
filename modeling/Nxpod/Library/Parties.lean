import Mathlib.Data.Finset.Basic
import Mathlib.Data.List.Nodup

/-!
# Parties in a List

A system of several parties keeps their states in a list, and a step replaces
the state of one party. What the parties have in their hands is gathered along
the list. A step that leaves the hands of the party as they were leaves what is
gathered as it was, and a step that takes something up or puts it down changes
it at one place.

Where a set is kept of what is held, and a party takes up only what is not in the
set, no two parties ever hold the same.

## Main definitions

* `Exclusive`: The set of what is held, by one party each.

## Theorems

* `split_set`, `getElem?_set_eq_ite`: The party that takes a step, and the others.
* `flatMap_set_of_eq`: A step of empty hands.
* `flatMap_set_perm_append`, `flatMap_perm_append_set`: Taking something up and putting
  it down.
* `count_flatMap_set`: Both at once, counted.
* `flatMap_set_sublist`: Letting go.
* `eq_of_nodup_flatMap`: What no two parties have.
* `exclusive_set_of_eq`, `exclusive_insert`, `exclusive_erase`: What keeps a set right.
* `forall_mem_set`, `forall_mem_set_of_ne`, `mem_set_of_mem_of_ne`: The other parties.
* `getElem?_modify_iff`, `mem_modify`: A state that is changed where it is.
-/

namespace Nxpod

namespace Parties

variable {α β : Type*} {l : List α} {i j : Nat} {a b : α} {f : α → List β}

/-- The list around the party whose state is replaced. -/
theorem split_set (h : l[i]? = some a) :
    ∃ before behind, l = before ++ a :: behind ∧ ∀ b, l.set i b = before ++ b :: behind := by
  induction l generalizing i with
  | nil => exact absurd h nofun
  | cons c l ih =>
      cases i with
      | zero =>
          rw [List.getElem?_cons_zero, Option.some.injEq] at h
          exact ⟨[], l, by rw [h, List.nil_append], fun b => List.set_cons_zero ..⟩
      | succ i =>
          rw [List.getElem?_cons_succ] at h
          rcases ih h with ⟨before, behind, hl, hset⟩
          refine ⟨c :: before, behind, by rw [hl, List.cons_append], fun b => ?_⟩
          rw [List.set_cons_succ, hset, List.cons_append]

theorem getElem?_set_eq_ite (h : l[i]? = some a) (b : α) (j : Nat) :
    (l.set i b)[j]? = if j = i then some b else l[j]? := by
  rcases List.getElem?_eq_some_iff.mp h with ⟨hlt, -⟩
  split
  · next heq => rw [heq, List.getElem?_set_self hlt]
  · next hne => exact List.getElem?_set_ne fun heq => hne heq.symm

/-- Who keeps the same in hand leaves all that is gathered as it was. -/
theorem flatMap_set_of_eq (h : l[i]? = some a) (heq : f b = f a) :
    (l.set i b).flatMap f = l.flatMap f := by
  rcases split_set h with ⟨before, behind, hl, hset⟩
  rw [hset, hl, List.flatMap_append, List.flatMap_append, List.flatMap_cons, List.flatMap_cons,
    heq]

/-- A party takes something up. -/
theorem flatMap_set_perm_append {xs : List β} (h : l[i]? = some a) (hb : f b = xs ++ f a) :
    ((l.set i b).flatMap f).Perm (xs ++ l.flatMap f) := by
  rcases split_set h with ⟨before, behind, hl, hset⟩
  rw [hset, hl, List.flatMap_append, List.flatMap_append, List.flatMap_cons, List.flatMap_cons,
    hb, List.append_assoc xs]
  exact List.perm_append_comm_assoc _ _ _

/-- A party puts something down. -/
theorem flatMap_perm_append_set {xs : List β} (h : l[i]? = some a) (ha : f a = xs ++ f b) :
    (l.flatMap f).Perm (xs ++ (l.set i b).flatMap f) := by
  rcases split_set h with ⟨before, behind, hl, hset⟩
  rw [hset, hl, List.flatMap_append, List.flatMap_append, List.flatMap_cons, List.flatMap_cons,
    ha, List.append_assoc xs]
  exact List.perm_append_comm_assoc _ _ _

/-- How often something is in the hands of the parties, before and after a step. -/
theorem count_flatMap_set [DecidableEq β] (h : l[i]? = some a) (b : α) (x : β) :
    ((l.set i b).flatMap f).count x + (f a).count x = (l.flatMap f).count x + (f b).count x := by
  rcases split_set h with ⟨before, behind, hl, hset⟩
  rw [hset, hl, List.flatMap_append, List.flatMap_append, List.flatMap_cons, List.flatMap_cons]
  simp only [List.count_append]
  omega

/-- Who puts something down leaves a part of what was gathered. -/
theorem flatMap_set_sublist (h : l[i]? = some a) (hsub : (f b).Sublist (f a)) :
    ((l.set i b).flatMap f).Sublist (l.flatMap f) := by
  rcases split_set h with ⟨before, behind, hl, hset⟩
  rw [hset, hl, List.flatMap_append, List.flatMap_append, List.flatMap_cons, List.flatMap_cons]
  exact (hsub.append_right _).append_left _

/-- What is gathered without repetition is in the hands of one party. -/
theorem eq_of_nodup_flatMap (hn : (l.flatMap f).Nodup) (hi : l[i]? = some a)
    (hj : l[j]? = some b) {x : β} (ha : x ∈ f a) (hb : x ∈ f b) : i = j := by
  have hdisjoint := (List.nodup_flatMap.mp hn).2
  rcases List.getElem?_eq_some_iff.mp hi with ⟨hilt, rfl⟩
  rcases List.getElem?_eq_some_iff.mp hj with ⟨hjlt, rfl⟩
  rcases Nat.lt_trichotomy i j with hlt | heq | hlt
  · exact absurd hb (List.pairwise_iff_getElem.mp hdisjoint i j hilt hjlt hlt ha)
  · exact heq
  · exact absurd ha (List.pairwise_iff_getElem.mp hdisjoint j i hjlt hilt hlt hb)

/-- What holds of all parties still does if it holds of the new state. -/
theorem forall_mem_set {P : α → Prop} (h : ∀ c ∈ l, P c) (hb : P b) : ∀ c ∈ l.set i b, P c := by
  intro c hc
  rcases List.mem_or_eq_of_mem_set hc with hold | hnew
  · exact h c hold
  · exact hnew ▸ hb

/-- The other parties are known by their places. -/
theorem forall_mem_set_of_ne {P : α → Prop} (h : ∀ j c, j ≠ i → l[j]? = some c → P c)
    (hb : P b) : ∀ c ∈ l.set i b, P c := by
  intro c hc
  rcases List.getElem?_of_mem hc with ⟨j, hj⟩
  rw [List.getElem?_set] at hj
  split_ifs at hj with hij hlt
  · exact Option.some.inj hj ▸ hb
  · exact h j c (Ne.symm hij) hj

theorem mem_set_of_mem_of_ne {c : α} (h : l[i]? = some a) (hc : c ∈ l) (hne : c ≠ a) :
    c ∈ l.set i b := by
  rcases split_set h with ⟨before, behind, hl, hset⟩
  rw [hset]
  rw [hl, List.mem_append, List.mem_cons] at hc
  rw [List.mem_append, List.mem_cons]
  rcases hc with hbefore | heq | hbehind
  · exact .inl hbefore
  · exact absurd heq hne
  · exact .inr (.inr hbehind)

/-- The parties after one of them was changed in place. -/
theorem getElem?_modify_iff (l : List α) (f : α → α) (i k : Nat) (x : α) :
    (l.modify i f)[k]? = some x ↔ ∃ y, l[k]? = some y ∧ x = if i = k then f y else y := by
  rw [List.getElem?_modify]
  simp [eq_comm]

/-- A party of the changed list is one of the old list, changed or not. -/
theorem mem_modify {f : α → α} {x : α} (h : x ∈ l.modify i f) :
    ∃ y k, l[k]? = some y ∧ x = if i = k then f y else y := by
  rcases List.mem_iff_getElem?.mp h with ⟨k, hk⟩
  rcases (getElem?_modify_iff l f i k x).mp hk with ⟨y, hy, hx⟩
  exact ⟨y, k, hy, hx⟩

/-! ## A set of what is held -/

/-- The set has what the parties hold, and no two hold the same. -/
structure Exclusive (f : α → List β) (held : Finset β) (l : List α) : Prop where
  nodup : (l.flatMap f).Nodup
  mem_iff : ∀ x, x ∈ held ↔ x ∈ l.flatMap f

variable {held : Finset β} {x : β}

/-- Parties that share nothing still share nothing when one of them keeps the
    same in hand. -/
theorem exclusive_set_of_eq (h : Exclusive f held l) (ha : l[i]? = some a) (heq : f b = f a) :
    Exclusive f held (l.set i b) := by
  refine ⟨?_, fun x => ?_⟩
  · rw [flatMap_set_of_eq ha heq]
    exact h.nodup
  · rw [flatMap_set_of_eq ha heq]
    exact h.mem_iff x

/-- A party takes up what nobody holds. -/
theorem exclusive_insert [DecidableEq β] (h : Exclusive f held l) (ha : l[i]? = some a)
    (hnot : x ∉ held) (hfa : f a = []) (hfb : f b = [x]) :
    Exclusive f (insert x held) (l.set i b) := by
  have htaken : f b = [x] ++ f a := by rw [hfa, hfb, List.append_nil]
  have hperm : ((l.set i b).flatMap f).Perm (x :: l.flatMap f) := flatMap_set_perm_append ha htaken
  refine ⟨?_, fun y => ?_⟩
  · rw [hperm.nodup_iff, List.nodup_cons, ← h.mem_iff]
    exact ⟨hnot, h.nodup⟩
  · rw [hperm.mem_iff, Finset.mem_insert, List.mem_cons, h.mem_iff]

/-- A party puts down what it holds, and then nobody holds it. -/
theorem exclusive_erase [DecidableEq β] (h : Exclusive f held l) (ha : l[i]? = some a)
    (hfa : f a = [x]) (hfb : f b = []) : Exclusive f (held.erase x) (l.set i b) := by
  have hgiven : f a = [x] ++ f b := by rw [hfa, hfb, List.append_nil]
  have hperm : (l.flatMap f).Perm (x :: (l.set i b).flatMap f) := flatMap_perm_append_set ha hgiven
  have hnodup := List.nodup_cons.mp (hperm.nodup_iff.mp h.nodup)
  refine ⟨hnodup.2, fun y => ?_⟩
  rw [Finset.mem_erase, h.mem_iff, hperm.mem_iff, List.mem_cons]
  constructor
  · intro hy
    exact hy.2.resolve_left hy.1
  · intro hy
    have hne : y ≠ x := fun heq => hnodup.1 (heq ▸ hy)
    exact ⟨hne, .inr hy⟩

end Parties

end Nxpod
