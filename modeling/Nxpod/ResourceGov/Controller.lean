import Mathlib.Data.List.Basic

/-!
# CPU Limiters

How much CPU time a workspace may use from now on, given what it has spent lately. The time is
divided into buckets, which are used up in order, and each of them has a limit. The last bucket
has no end.

`BucketLimiter` has no memory. `ClampingBucketLimiter` stays in the last bucket once it was
reached, until less was spent than this bucket's own budget, which is not looked at otherwise.

Integers are those of 64 bits, so that a list of budgets may be anything. An index out of range
is `none`.

## Main definitions

* `Bucket`: A budget, and the limit while it lasts.
* `BucketLimiter.limit`, `ClampingBucketLimiter.limit`: The two limiters.
* `ReachesLast`: All buckets but the last are used up.
* `Agrees`: What one call of the clamping limiter does, as compared with the other one.

## Theorems

* `reachesLast_cons`: One bucket after the other.
* `spend_eq`: The two loops.
* `agrees_limit`, `agrees_run`: One call, and every call of a run.
-/

namespace Nxpod

namespace ResourceGov

/-- A budget, and the limit while it lasts. -/
structure Bucket where
  budget : Int64
  limit : Int64
  deriving DecidableEq

/-! ## The limiters -/

/-- The limit of the bucket that is used at present, and zero without buckets. -/
def BucketLimiter.limit : List Bucket → Int64 → Int64
  | [], _ => 0
  | [bkt], _ => bkt.limit
  | bkt :: bkts, budgetSpent =>
      if budgetSpent - bkt.budget ≤ 0 then bkt.limit else limit bkts (budgetSpent - bkt.budget)

/-- The buckets, and whether the limiter is held in the last one. -/
structure ClampingBucketLimiter where
  buckets : List Bucket
  lastBucketLock : Bool
  deriving DecidableEq

namespace ClampingBucketLimiter

/-- The same, and whether the last bucket was reached. -/
def spend : List Bucket → Int64 → Int64 × Bool
  | [], _ => (0, false)
  | [bkt], _ => (bkt.limit, true)
  | bkt :: bkts, budgetSpent =>
      if budgetSpent - bkt.budget ≤ 0 then (bkt.limit, false)
      else spend bkts (budgetSpent - bkt.budget)

/-- A call that is not, or no longer, clamped. -/
def unclamped (bl : ClampingBucketLimiter) (budgetSpent : Int64) : Int64 × ClampingBucketLimiter :=
  match spend bl.buckets budgetSpent with
  | (newLimit, reached) => (newLimit, { bl with lastBucketLock := reached })

/-- The limit for what was spent. A limiter that is held stays in the last bucket until less
    than the budget of that bucket was spent. -/
def limit (bl : ClampingBucketLimiter) (budgetSpent : Int64) :
    Option (Int64 × ClampingBucketLimiter) :=
  if bl.lastBucketLock then
    -- The code takes the last one by its index, which is -1 without buckets.
    match bl.buckets.getLast? with
    | none => none
    | some bkt =>
        if budgetSpent < bkt.budget then some (bl.unclamped budgetSpent)
        else some (bkt.limit, bl)
  else some (bl.unclamped budgetSpent)

/-- The limiter after some calls. -/
def run (bl : ClampingBucketLimiter) : List Int64 → Option ClampingBucketLimiter
  | [] => some bl
  | budgetSpent :: rest => match bl.limit budgetSpent with
    | none => none
    | some (_, bl') => run bl' rest

end ClampingBucketLimiter

/-! ## The last bucket -/

/-- What was spent beyond the first buckets. -/
def beyond (bkts : List Bucket) (k : Nat) (budgetSpent : Int64) : Int64 :=
  (bkts.take k).foldl (fun spent bkt => spent - bkt.budget) budgetSpent

/-- More was spent than each of the buckets before the last one has. -/
def ReachesLast (bkts : List Bucket) (budgetSpent : Int64) : Prop :=
  bkts ≠ [] ∧ ∀ k, k + 1 < bkts.length → ¬ beyond bkts (k + 1) budgetSpent ≤ 0

theorem not_reachesLast_nil (budgetSpent : Int64) : ¬ ReachesLast [] budgetSpent :=
  fun h => h.1 rfl

theorem reachesLast_singleton (bkt : Bucket) (budgetSpent : Int64) :
    ReachesLast [bkt] budgetSpent :=
  ⟨List.cons_ne_nil _ _, fun k hk => absurd (Nat.lt_of_succ_lt_succ hk) (Nat.not_lt_zero k)⟩

/-- The last bucket is reached when the first one is used up and what is left reaches it. -/
theorem reachesLast_cons (bkt bkt' : Bucket) (bkts : List Bucket) (budgetSpent : Int64) :
    ReachesLast (bkt :: bkt' :: bkts) budgetSpent ↔
      ¬ budgetSpent - bkt.budget ≤ 0 ∧ ReachesLast (bkt' :: bkts) (budgetSpent - bkt.budget) := by
  constructor
  · rintro ⟨-, hbeyond⟩
    refine ⟨hbeyond 0 (Nat.succ_lt_succ (Nat.succ_pos _)), List.cons_ne_nil _ _, fun k hk => ?_⟩
    exact hbeyond (k + 1) (Nat.succ_lt_succ hk)
  · rintro ⟨hfirst, -, hbeyond⟩
    refine ⟨List.cons_ne_nil _ _, fun k hk => ?_⟩
    cases k with
    | zero => exact hfirst
    | succ k => exact hbeyond k (Nat.lt_of_succ_lt_succ hk)

/-- The loop of the clamping limiter finds the bucket that the other one finds. -/
theorem spend_eq (bkts : List Bucket) (budgetSpent : Int64) :
    (ClampingBucketLimiter.spend bkts budgetSpent).1 = BucketLimiter.limit bkts budgetSpent ∧
      ((ClampingBucketLimiter.spend bkts budgetSpent).2 = true ↔ ReachesLast bkts budgetSpent) := by
  induction bkts generalizing budgetSpent with
  | nil => exact ⟨rfl, iff_of_false nofun (not_reachesLast_nil budgetSpent)⟩
  | cons bkt bkts ih =>
      cases bkts with
      | nil => exact ⟨rfl, iff_of_true rfl (reachesLast_singleton bkt budgetSpent)⟩
      | cons bkt' bkts =>
          rw [ClampingBucketLimiter.spend, BucketLimiter.limit, reachesLast_cons]
          · by_cases hspent : budgetSpent - bkt.budget ≤ 0
            · rw [if_pos hspent, if_pos hspent]
              exact ⟨rfl, iff_of_false nofun fun h => h.1 hspent⟩
            · rw [if_neg hspent, if_neg hspent]
              rcases ih (budgetSpent - bkt.budget) with ⟨hlimit, hreached⟩
              exact ⟨hlimit, hreached.trans (and_iff_right hspent).symm⟩
          · exact List.cons_ne_nil _ _
          · exact List.cons_ne_nil _ _

/-- Once the last bucket is reached its limit applies. -/
theorem limit_of_reachesLast {bkts : List Bucket} {budgetSpent : Int64}
    (h : ReachesLast bkts budgetSpent) :
    ∃ bkt, bkts.getLast? = some bkt ∧ BucketLimiter.limit bkts budgetSpent = bkt.limit := by
  induction bkts generalizing budgetSpent with
  | nil => exact absurd h (not_reachesLast_nil budgetSpent)
  | cons bkt bkts ih =>
      cases bkts with
      | nil => exact ⟨bkt, rfl, rfl⟩
      | cons bkt' bkts =>
          rcases (reachesLast_cons bkt bkt' bkts budgetSpent).mp h with ⟨hspent, hrest⟩
          rcases ih hrest with ⟨last, hlast, hlimit⟩
          refine ⟨last, hlast, ?_⟩
          rw [BucketLimiter.limit, if_neg hspent]
          · exact hlimit
          · exact List.cons_ne_nil _ _

/-! ## The limiters compared -/

/-- A call that is not clamped agrees with the limiter without memory, and is clamped from then on
exactly when that one has reached the last bucket. A call that is clamped gives the limit of the
last bucket and stays so, until less was spent than the last bucket has. Whichever way a call is
clamped, it has given the limit of the last bucket. -/
structure Agrees (bl : ClampingBucketLimiter) (budgetSpent newLimit : Int64)
    (bl' : ClampingBucketLimiter) : Prop where
  buckets : bl'.buckets = bl.buckets
  unclamped : bl.lastBucketLock = false →
    newLimit = BucketLimiter.limit bl.buckets budgetSpent ∧
      (bl'.lastBucketLock = true ↔ ReachesLast bl.buckets budgetSpent)
  clamped : bl.lastBucketLock = true → ∃ bkt, bl.buckets.getLast? = some bkt ∧
    (¬ budgetSpent < bkt.budget → newLimit = bkt.limit ∧ bl'.lastBucketLock = true) ∧
    (budgetSpent < bkt.budget → newLimit = BucketLimiter.limit bl.buckets budgetSpent ∧
      (bl'.lastBucketLock = true ↔ ReachesLast bl.buckets budgetSpent))
  last : bl'.lastBucketLock = true →
    ∃ bkt, bl.buckets.getLast? = some bkt ∧ newLimit = bkt.limit

namespace ClampingBucketLimiter

/-- Only a limiter with buckets is clamped. -/
def Wellformed (bl : ClampingBucketLimiter) : Prop :=
  bl.lastBucketLock = true → bl.buckets ≠ []

/-- Without the lock the limit is that of the limiter without memory, and the lock says whether
    the last bucket was reached. -/
theorem unclamped_eq (bl : ClampingBucketLimiter) (budgetSpent : Int64) :
    (bl.unclamped budgetSpent).1 = BucketLimiter.limit bl.buckets budgetSpent ∧
      (bl.unclamped budgetSpent).2.buckets = bl.buckets ∧
      ((bl.unclamped budgetSpent).2.lastBucketLock = true ↔
        ReachesLast bl.buckets budgetSpent) := by
  rcases spend_eq bl.buckets budgetSpent with ⟨hlimit, hreached⟩
  exact ⟨hlimit, rfl, hreached⟩

/-- One call. -/
theorem agrees_limit {bl : ClampingBucketLimiter} (hbl : bl.Wellformed) (budgetSpent : Int64) :
    ∃ newLimit bl', bl.limit budgetSpent = some (newLimit, bl') ∧
      Agrees bl budgetSpent newLimit bl' ∧ bl'.Wellformed := by
  rcases bl.unclamped_eq budgetSpent with ⟨hlimit, hbuckets, hreached⟩
  have hfree : (bl.unclamped budgetSpent).2.Wellformed := fun hlock =>
    hbuckets ▸ (hreached.mp hlock).1
  have hreaches : (bl.unclamped budgetSpent).2.lastBucketLock = true →
      ∃ bkt, bl.buckets.getLast? = some bkt ∧ (bl.unclamped budgetSpent).1 = bkt.limit := by
    intro hlock
    rw [hlimit]
    exact limit_of_reachesLast (hreached.mp hlock)
  unfold limit
  cases hlock : bl.lastBucketLock with
  | false =>
      rw [if_neg Bool.false_ne_true]
      refine ⟨_, _, rfl, ⟨hbuckets, fun _ => ⟨hlimit, hreached⟩, fun hc => ?_, hreaches⟩, hfree⟩
      rw [hlock] at hc
      exact nomatch hc
  | true =>
      rw [if_pos rfl]
      cases hlast : bl.buckets.getLast? with
      | none => exact absurd (List.getLast?_eq_none_iff.mp hlast) (hbl hlock)
      | some bkt =>
          dsimp only
          -- With the lock, only the last bucket counts.
          have hunclamped : ∀ {P : Prop}, bl.lastBucketLock = false → P := fun hc => by
            rw [hlock] at hc
            exact nomatch hc
          by_cases hspent : budgetSpent < bkt.budget
          · rw [if_pos hspent]
            refine ⟨_, _, rfl, ⟨hbuckets, hunclamped, fun _ => ⟨bkt, hlast, fun hc => ?_, fun _ =>
              ⟨hlimit, hreached⟩⟩, hreaches⟩, hfree⟩
            exact absurd hspent hc
          · rw [if_neg hspent]
            refine ⟨_, _, rfl, ⟨rfl, hunclamped, fun _ => ⟨bkt, hlast, fun _ => ⟨rfl, hlock⟩,
              fun hc => ?_⟩, fun _ => ⟨bkt, hlast, rfl⟩⟩, hbl⟩
            exact absurd hc hspent

/-- No call changes the buckets. -/
theorem buckets_limit {bl bl' : ClampingBucketLimiter} {budgetSpent newLimit : Int64}
    (h : bl.limit budgetSpent = some (newLimit, bl')) : bl'.buckets = bl.buckets := by
  have hfree : some (bl.unclamped budgetSpent) = some (newLimit, bl') → bl'.buckets = bl.buckets :=
    fun h => (congrArg (fun p => p.2.buckets) (Option.some.inj h)).symm
  unfold limit at h
  split at h
  · split at h
    · exact nomatch h
    · split at h
      · exact hfree h
      · exact (congrArg (fun p => p.2.buckets) (Option.some.inj h)).symm
  · exact hfree h

/-- A limiter that has buckets never fails, and keeps them. -/
theorem wellformed_run {bl : ClampingBucketLimiter} (hbl : bl.Wellformed) (spents : List Int64) :
    ∃ bl', bl.run spents = some bl' ∧ bl'.buckets = bl.buckets ∧ bl'.Wellformed := by
  induction spents generalizing bl with
  | nil => exact ⟨bl, rfl, rfl, hbl⟩
  | cons spent spents ih =>
      rcases agrees_limit hbl spent with ⟨newLimit, bl₁, hlimit, hagrees, hbl₁⟩
      rcases ih hbl₁ with ⟨bl', hrun, hbuckets, hbl'⟩
      refine ⟨bl', ?_, hbuckets.trans hagrees.buckets, hbl'⟩
      rw [run, hlimit]
      exact hrun

end ClampingBucketLimiter

/-- Every call of every run is in range, and agrees with the limiter without memory until the
    last bucket is reached and again from when less was spent than that has. A workspace that
    has used up its budget is kept down until it has recovered, and this is the only thing that
    memory is for. -/
theorem agrees_run (bkts : List Bucket) (spents : List Int64) (budgetSpent : Int64) :
    ∃ bl newLimit bl', (⟨bkts, false⟩ : ClampingBucketLimiter).run spents = some bl ∧
      bl.buckets = bkts ∧ bl.limit budgetSpent = some (newLimit, bl') ∧
      Agrees bl budgetSpent newLimit bl' := by
  have hnew : (⟨bkts, false⟩ : ClampingBucketLimiter).Wellformed := fun h => nomatch h
  rcases ClampingBucketLimiter.wellformed_run hnew spents with ⟨bl, hrun, hbuckets, hbl⟩
  rcases ClampingBucketLimiter.agrees_limit hbl budgetSpent with ⟨newLimit, bl', hlimit, h, -⟩
  exact ⟨bl, newLimit, bl', hrun, hbuckets, hlimit, h⟩

/-- The four buckets of the tests. The last one is clamped at 105, though 9 is in the first bucket
and 11 is not below the last one's budget. -/
example : ∃ bl : ClampingBucketLimiter,
    (⟨[⟨50, 100⟩, ⟨30, 50⟩, ⟨20, 20⟩, ⟨10, 5⟩], false⟩ : ClampingBucketLimiter).run [90, 105, 11] =
      some bl ∧ (bl.limit 11).map Prod.fst = some 5 ∧ (bl.limit 9).map Prod.fst = some 100 :=
  ⟨_, rfl, rfl, rfl⟩

end ResourceGov

end Nxpod
