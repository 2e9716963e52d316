import Mathlib.Data.Set.Insert
import Mathlib.Logic.Function.Basic

/-!
# Resource Pools

A pool hands out resources to holders and records which resources are taken.
Two records are kept: what each holder holds, and which resources are marked
as taken. A pool is sound when no resource has two holders and what is held is
marked, so nothing is handed out twice. It is exact when moreover everything
marked is held, so nothing is lost.

There are three things to do with a pool. `take` gives an unmarked resource to
a holder, `release` takes the resources of a set of holders back, and
`discard` makes holders forget theirs without unmarking them. All three keep a
pool sound. What they do to exactness is the content of this module: a
resource that is marked and not held is leaked, nothing a pool does ever gets
it back, and a leak comes from discarding what is held or from giving a
resource to a holder that has one.

## Main definitions

* `Pool`: What is held and what is marked.
* `Pool.Sound`, `Pool.Exact`, `Pool.Leaked`
* `Pool.take`, `Pool.discard`, `Pool.release`
* `Pool.Takes`: A holder after the other is given an unmarked resource.

## Theorems

* `exact_iff_no_leak`: A sound pool is exact when nothing is leaked.
* `sound_take`, `sound_discard`, `sound_release`, `sound_of_takes`: The
  operations keep a pool sound.
* `leaked_take`, `leaked_of_takes`: A leaked resource stays leaked.
* `exact_release`: Releasing keeps a pool exact.
* `exact_takes_iff`: Taking does, where no holder has a resource already.
* `held_of_takes_of_not_mem`, `held_of_takes_of_mem`: Who holds what after.
-/

namespace Nxpod

/-- What the holders hold, and which resources are marked as taken. -/
structure Pool (ι ρ : Type*) where
  held : ι → Option ρ
  marked : Set ρ

namespace Pool

variable {ι ρ : Type*}

@[ext]
theorem ext {p q : Pool ι ρ} (hheld : p.held = q.held) (hmarked : p.marked = q.marked) :
    p = q := by
  cases p
  cases q
  simp only [mk.injEq]
  exact ⟨hheld, hmarked⟩

/-- No resource has two holders, and what is held is marked. -/
structure Sound (p : Pool ι ρ) : Prop where
  unique : ∀ i j r, p.held i = some r → p.held j = some r → i = j
  marked_of_held : ∀ i r, p.held i = some r → r ∈ p.marked

/-- A resource that is marked and that nobody holds. -/
def Leaked (p : Pool ι ρ) (r : ρ) : Prop :=
  r ∈ p.marked ∧ ∀ i, p.held i ≠ some r

/-- The marked resources are those held, each by one holder. -/
structure Exact (p : Pool ι ρ) : Prop extends Sound p where
  held_of_marked : ∀ r ∈ p.marked, ∃ i, p.held i = some r

theorem exact_iff_no_leak {p : Pool ι ρ} (hp : p.Sound) : p.Exact ↔ ∀ r, ¬ p.Leaked r := by
  constructor
  · rintro hex r ⟨hr, hnone⟩
    rcases hex.held_of_marked r hr with ⟨i, hi⟩
    exact hnone i hi
  · intro h
    refine ⟨hp, fun r hr => ?_⟩
    by_contra hnone
    exact h r ⟨hr, not_exists.mp hnone⟩

section Operations

variable [DecidableEq ι]

/-- Holder `i` is given `r`, in place of what it holds. -/
def take (p : Pool ι ρ) (i : ι) (r : ρ) : Pool ι ρ where
  held := Function.update p.held i (some r)
  marked := insert r p.marked

theorem held_take (p : Pool ι ρ) (i j : ι) (r : ρ) :
    (p.take i r).held j = if j = i then some r else p.held j := by
  simp only [take, Function.update_apply]

theorem sound_take {p : Pool ι ρ} (hp : p.Sound) (i : ι) {r : ρ} (hr : r ∉ p.marked) :
    (p.take i r).Sound := by
  -- nobody holds a resource that is not marked
  have hfresh : ∀ j, p.held j ≠ some r := fun j hj => hr (hp.marked_of_held j r hj)
  constructor
  · intro j k r' hj hk
    rw [held_take] at hj hk
    split_ifs at hj hk with hji hki hki
    · rw [hji, hki]
    · exact absurd (hk.trans hj.symm) (hfresh k)
    · exact absurd (hj.trans hk.symm) (hfresh j)
    · exact hp.unique j k r' hj hk
  · intro j r' hj
    rw [held_take] at hj
    split_ifs at hj with hji
    · exact Or.inl (Option.some.inj hj).symm
    · exact Or.inr (hp.marked_of_held j r' hj)

/-- A leaked resource stays leaked, since it is not handed out. -/
theorem leaked_take {p : Pool ι ρ} {r r' : ρ} (h : p.Leaked r') (i : ι) (hr : r ∉ p.marked) :
    (p.take i r).Leaked r' := by
  rcases h with ⟨hmarked, hnone⟩
  refine ⟨Or.inr hmarked, fun j hj => ?_⟩
  rw [held_take] at hj
  split_ifs at hj
  · exact hr (Option.some.inj hj ▸ hmarked)
  · exact hnone j hj

/-- Giving a resource to a holder that has one leaks the one it has. -/
theorem leaked_take_of_held {p : Pool ι ρ} (hp : p.Sound) {i : ι} {r r' : ρ}
    (hr : r ∉ p.marked) (hi : p.held i = some r') : (p.take i r).Leaked r' := by
  have hr' : r' ∈ p.marked := hp.marked_of_held i r' hi
  refine ⟨Or.inr hr', fun j hj => ?_⟩
  rw [held_take] at hj
  split_ifs at hj with hji
  · exact hr (Option.some.inj hj ▸ hr')
  · exact hji (hp.unique j i r' hj hi)

theorem exact_take {p : Pool ι ρ} (hp : p.Exact) {i : ι} {r : ρ} (hr : r ∉ p.marked)
    (hi : p.held i = none) : (p.take i r).Exact := by
  refine ⟨sound_take hp.toSound i hr, fun r' hr' => ?_⟩
  rcases hr' with heq | hr'
  · exact ⟨i, by rw [held_take, if_pos rfl, heq]⟩
  · rcases hp.held_of_marked r' hr' with ⟨j, hj⟩
    have hji : j ≠ i := fun hc => by
      rw [hc, hi] at hj
      exact absurd hj (by simp only [reduceCtorEq, not_false_eq_true])
    exact ⟨j, by rw [held_take, if_neg hji, hj]⟩

/-- A holder after the other is given a resource that is not marked. -/
inductive Takes : List ι → Pool ι ρ → Pool ι ρ → Prop
  | nil (p : Pool ι ρ) : Takes [] p p
  | cons (i : ι) (r : ρ) (is : List ι) (p q : Pool ι ρ) : r ∉ p.marked →
      Takes is (p.take i r) q → Takes (i :: is) p q

theorem sound_of_takes {is : List ι} {p q : Pool ι ρ} (h : Takes is p q) (hp : p.Sound) :
    q.Sound := by
  induction h with
  | nil => exact hp
  | cons i r is p q hr _ ih => exact ih (sound_take hp i hr)

theorem leaked_of_takes {is : List ι} {p q : Pool ι ρ} (h : Takes is p q) {r' : ρ}
    (hl : p.Leaked r') : q.Leaked r' := by
  induction h with
  | nil => exact hl
  | cons i r is p q hr _ ih => exact ih (leaked_take hl i hr)

/-- Whoever is not given anything holds what it held. -/
theorem held_of_takes_of_not_mem {is : List ι} {p q : Pool ι ρ} (h : Takes is p q) {j : ι}
    (hj : j ∉ is) : q.held j = p.held j := by
  induction h with
  | nil => rfl
  | cons i r is p q _ _ ih =>
      rw [List.mem_cons, not_or] at hj
      rw [ih hj.2, held_take, if_neg hj.1]

/-- Whoever is given something holds a resource that was not marked. -/
theorem held_of_takes_of_mem {is : List ι} {p q : Pool ι ρ} (h : Takes is p q) {j : ι}
    (hj : j ∈ is) : ∃ r, q.held j = some r ∧ r ∉ p.marked := by
  induction h with
  | nil => exact absurd hj List.not_mem_nil
  | cons i r is p q hr hrest ih =>
      by_cases hlater : j ∈ is
      · rcases ih hlater with ⟨r', hheld, hfresh⟩
        exact ⟨r', hheld, fun hc => hfresh (Or.inr hc)⟩
      · rw [held_of_takes_of_not_mem hrest hlater, held_take,
          if_pos ((List.mem_cons.mp hj).resolve_right hlater)]
        exact ⟨r, rfl, hr⟩

/-- An exact pool stays exact if and only if nobody is given a resource twice
    or in place of another one. -/
theorem exact_takes_iff {is : List ι} {p q : Pool ι ρ} (h : Takes is p q) (hp : p.Exact) :
    q.Exact ↔ is.Nodup ∧ ∀ i ∈ is, p.held i = none := by
  induction h with
  | nil => simp only [hp, List.nodup_nil, List.not_mem_nil, false_imp_iff, implies_true, and_self]
  | cons i r is p q hr hrest ih =>
      have hsound : q.Sound := sound_of_takes hrest (sound_take hp.toSound i hr)
      cases hi : p.held i with
      | some r' =>
          -- the resource the holder had is lost, whatever happens after
          have hleak : q.Leaked r' := leaked_of_takes hrest (leaked_take_of_held hp.toSound hr hi)
          refine iff_of_false (fun hex => (exact_iff_no_leak hsound).mp hex r' hleak) ?_
          rintro ⟨_, hnone⟩
          rw [hnone i List.mem_cons_self] at hi
          exact absurd hi (by simp only [reduceCtorEq, not_false_eq_true])
      | none =>
          rw [ih (exact_take hp hr hi), List.nodup_cons]
          constructor
          · rintro ⟨hnodup, hnone⟩
            have hnew : i ∉ is := fun hc => by
              have := hnone i hc
              rw [held_take, if_pos rfl] at this
              exact absurd this (by simp only [reduceCtorEq, not_false_eq_true])
            refine ⟨⟨hnew, hnodup⟩, fun j hj => ?_⟩
            rcases List.mem_cons.mp hj with hji | hj
            · rw [hji, hi]
            · have hji : j ≠ i := fun hc => hnew (hc ▸ hj)
              have := hnone j hj
              rwa [held_take, if_neg hji] at this
          · rintro ⟨⟨hnew, hnodup⟩, hnone⟩
            refine ⟨hnodup, fun j hj => ?_⟩
            have hji : j ≠ i := fun hc => hnew (hc ▸ hj)
            rw [held_take, if_neg hji]
            exact hnone j (List.mem_cons_of_mem i hj)

end Operations

/-- The holders of a set forget what they hold, which stays marked. -/
def discard (p : Pool ι ρ) (s : ι → Prop) [DecidablePred s] : Pool ι ρ where
  held i := if s i then none else p.held i
  marked := p.marked

/-- The holders of a set give back what they hold. -/
def release (p : Pool ι ρ) (s : ι → Prop) [DecidablePred s] : Pool ι ρ where
  held i := if s i then none else p.held i
  marked := {r | r ∈ p.marked ∧ ∀ i, s i → p.held i ≠ some r}

variable (s : ι → Prop) [DecidablePred s]

theorem held_discard_eq_some {p : Pool ι ρ} {i : ι} {r : ρ} :
    (p.discard s).held i = some r ↔ ¬ s i ∧ p.held i = some r := by
  simp only [discard]
  split_ifs with h
  · simp only [h, not_true_eq_false, false_and]
  · simp only [h, not_false_eq_true, true_and]

theorem sound_discard {p : Pool ι ρ} (hp : p.Sound) : (p.discard s).Sound := by
  constructor
  · intro i j r hi hj
    exact hp.unique i j r ((held_discard_eq_some s).mp hi).2 ((held_discard_eq_some s).mp hj).2
  · intro i r hi
    exact hp.marked_of_held i r ((held_discard_eq_some s).mp hi).2

/-- What a holder forgets is leaked. -/
theorem leaked_discard {p : Pool ι ρ} (hp : p.Sound) {i : ι} {r : ρ} (hs : s i)
    (hi : p.held i = some r) : (p.discard s).Leaked r := by
  refine ⟨hp.marked_of_held i r hi, fun j hj => ?_⟩
  rcases (held_discard_eq_some s).mp hj with ⟨hsj, hheld⟩
  exact hsj (hp.unique i j r hi hheld ▸ hs)

/-- Where nothing is forgotten the pool is what it was. -/
theorem discard_eq_self {p : Pool ι ρ} (h : ∀ i, s i → p.held i = none) : p.discard s = p := by
  refine ext ?_ rfl
  funext i
  simp only [discard]
  split_ifs with hs
  · exact (h i hs).symm
  · rfl

theorem sound_release {p : Pool ι ρ} (hp : p.Sound) : (p.release s).Sound := by
  have hheld : ∀ i r, (p.release s).held i = some r → ¬ s i ∧ p.held i = some r :=
    fun i r hi => (held_discard_eq_some s).mp hi
  constructor
  · intro i j r hi hj
    exact hp.unique i j r (hheld i r hi).2 (hheld j r hj).2
  · intro i r hi
    rcases hheld i r hi with ⟨hsi, hi⟩
    -- no other holder had the resource, so it was not given back
    exact ⟨hp.marked_of_held i r hi, fun j hsj hj => hsi (hp.unique i j r hi hj ▸ hsj)⟩

theorem exact_release {p : Pool ι ρ} (hp : p.Exact) : (p.release s).Exact := by
  refine ⟨sound_release s hp.toSound, fun r hr => ?_⟩
  rcases hr with ⟨hmarked, hnot⟩
  rcases hp.held_of_marked r hmarked with ⟨i, hi⟩
  exact ⟨i, (held_discard_eq_some s).mpr ⟨fun hs => hnot i hs hi, hi⟩⟩

end Pool

end Nxpod
