import Mathlib.Data.List.Basic
import Mathlib.Order.Defs.Unbundled

/-!
# Versions of an Object and a Reader Behind Them

An object in a store has one version after the other. It can be gone, and
another object can take its place. A reader learns of the versions in order,
late, and may skip some.

`Timeline` keeps all versions with the point up to which they were delivered.
`Continuous` says that they are the versions of objects with lifetimes: a
version either follows from the one before it, or starts an object that was
never there. What is gone does not come back.

A reader that was shown a version of the object that is there now sees a
version of that object still, and what persists has persisted
(`seen_of_delivered`). This is all a proof needs to know of the versions
skipped.

## Main definitions

* `Timeline`: All versions, newest first, with those not delivered apart.
* `Timeline.current`, `Timeline.seen`: The latest version, and the latest one
  delivered.
* `Continuous`: Each version follows from the last or starts an object.

## Theorems

* `versions_between`: The versions between two of one object.
* `seen_of_delivered`: What is seen of an object once it was shown.
* `current_push`, `current_deliver`, `seen_push`: The effect of the operations.
-/

namespace Nxpod

variable {α ι : Type*}

/-- The versions of what is under a name, newest first. A version is `none`
    where nothing is there. -/
structure Timeline (α : Type*) where
  waiting : List (Option α)
  delivered : List (Option α)
  deriving DecidableEq

namespace Timeline

/-- An object that was never there. -/
def empty : Timeline α where
  waiting := []
  delivered := []

/-- All versions, the newest first. -/
def versions (t : Timeline α) : List (Option α) :=
  t.waiting ++ t.delivered

/-- The object as it is. -/
def current (t : Timeline α) : Option α :=
  t.versions.head?.join

/-- The object as the reader sees it. -/
def seen (t : Timeline α) : Option α :=
  t.delivered.head?.join

/-- A new version, which the reader does not know of yet. -/
def push (t : Timeline α) (v : Option α) : Timeline α :=
  { t with waiting := v :: t.waiting }

/-- Deliver all but the `n` newest of the versions that wait. -/
def deliver (t : Timeline α) (n : Nat) : Timeline α where
  waiting := t.waiting.take n
  delivered := t.waiting.drop n ++ t.delivered

@[simp] theorem versions_push (t : Timeline α) (v : Option α) :
    (t.push v).versions = v :: t.versions := rfl

@[simp] theorem current_push (t : Timeline α) (v : Option α) : (t.push v).current = v := rfl

@[simp] theorem seen_push (t : Timeline α) (v : Option α) : (t.push v).seen = t.seen := rfl

@[simp] theorem versions_deliver (t : Timeline α) (n : Nat) :
    (t.deliver n).versions = t.versions := by
  rw [versions, deliver, ← List.append_assoc, List.take_append_drop, versions]

@[simp] theorem current_deliver (t : Timeline α) (n : Nat) : (t.deliver n).current = t.current := by
  rw [current, versions_deliver, current]

theorem delivered_subset_deliver (t : Timeline α) (n : Nat) :
    t.delivered ⊆ (t.deliver n).delivered :=
  List.subset_append_right _ _

theorem delivered_subset_versions (t : Timeline α) : t.delivered ⊆ t.versions :=
  List.subset_append_right _ _

theorem mem_versions_of_current {t : Timeline α} {a : α} (h : t.current = some a) :
    some a ∈ t.versions := by
  rw [current, Option.join_eq_some_iff] at h
  exact List.mem_of_head? h

theorem mem_delivered_of_seen {t : Timeline α} {a : α} (h : t.seen = some a) :
    some a ∈ t.delivered := by
  rw [seen, Option.join_eq_some_iff] at h
  exact List.mem_of_head? h

/-- Where nothing waits the reader sees the latest version. -/
theorem seen_eq_current {t : Timeline α} (h : t.waiting = []) : t.seen = t.current := by
  rw [seen, current, versions, h, List.nil_append]

end Timeline

/-- Each version follows from the one before it, or starts an object that was
    never there. -/
def Continuous (ident : α → ι) (follows : α → α → Prop) : List (Option α) → Prop
  | [] => True
  | v :: vs => Continuous ident follows vs ∧ ∀ a, v = some a →
      (∃ b, vs.head? = some (some b) ∧ follows b a) ∨ ∀ w, some w ∈ vs → ident w ≠ ident a

theorem head?_append_cons (l l' : List α) (a : α) :
    (l ++ [a]).head? = (l ++ a :: l').head? := by
  cases l <;> rfl

section

variable {ident : α → ι} {follows : α → α → Prop}
variable (hident : ∀ a b, follows a b → ident a = ident b)
variable [IsPreorder α follows]

include hident

/-- From one version of the object that is there now to the latest one, all are
    versions of it, each following from those before. -/
theorem versions_between {pre post : List (Option α)} {u v : α}
    (hc : Continuous ident follows (post ++ some u :: pre))
    (hv : (post ++ some u :: pre).head? = some (some v)) (hid : ident u = ident v) :
    ∀ x ∈ post ++ [some u], ∃ w, x = some w ∧ follows u w ∧ follows w v := by
  induction post generalizing v with
  | nil =>
      rw [List.nil_append, List.head?_cons, Option.some.injEq, Option.some.injEq] at hv
      rw [hv, List.nil_append, List.forall_mem_singleton]
      exact ⟨v, rfl, refl v, refl v⟩
  | cons x post ih =>
      rw [List.cons_append, List.head?_cons, Option.some.injEq] at hv
      rw [List.cons_append, Continuous] at hc
      rcases hc.2 v hv with ⟨b, hb, hbv⟩ | hnew
      · -- the version before the last one is of the object as well
        have hrest := ih hc.1 hb (hid.trans (hident b v hbv).symm)
        have hmem : some b ∈ post ++ [some u] :=
          List.mem_of_head? (by rw [head?_append_cons, hb])
        have hub : follows u b := by
          rcases hrest _ hmem with ⟨w, hw, huw, -⟩
          rw [Option.some.inj hw]
          exact huw
        rw [List.cons_append, List.forall_mem_cons]
        refine ⟨⟨v, hv, IsTrans.trans u b v hub hbv, refl v⟩, fun y hy => ?_⟩
        rcases hrest y hy with ⟨w, hw, huw, hwb⟩
        exact ⟨w, hw, huw, IsTrans.trans w b v hwb hbv⟩
      · exact absurd hid (hnew u (List.mem_append_right _ List.mem_cons_self))

/-- A reader that was shown a version of the object that is there now sees a
    version of it that follows from the one shown. -/
theorem seen_of_delivered {t : Timeline α} {u v : α} (hc : Continuous ident follows t.versions)
    (hu : some u ∈ t.delivered) (hv : t.current = some v) (hid : ident u = ident v) :
    ∃ w, t.seen = some w ∧ follows u w ∧ follows w v := by
  rcases List.append_of_mem hu with ⟨d, e, hd⟩
  have hversions : t.versions = (t.waiting ++ d) ++ some u :: e := by
    rw [Timeline.versions, hd, List.append_assoc]
  rw [Timeline.current, Option.join_eq_some_iff, hversions] at hv
  rw [hversions] at hc
  have hbetween := versions_between hident hc hv hid
  -- what is seen is the newest version delivered
  rcases hseen : t.delivered.head? with - | x
  · rw [hd] at hseen
    exact absurd (List.head?_eq_none_iff.mp hseen) (List.append_ne_nil_of_right_ne_nil d
      (List.cons_ne_nil _ e))
  · have hx : x ∈ d ++ [some u] := List.mem_of_head? (by rw [head?_append_cons, ← hd, hseen])
    rcases hbetween x (by rw [List.append_assoc]; exact List.mem_append_right _ hx) with
      ⟨w, hw, huw, hwv⟩
    exact ⟨w, by rw [Timeline.seen, hseen, hw]; rfl, huw, hwv⟩

end

end Nxpod
