import Nxpod.Library.Word

/-!
# The Quota in Force

A limit is enforced through the quota of a cgroup, which the kernel keeps in microseconds for every
period. The quota there is now is turned into a limit first, and where this is the wanted one
nothing is written.

Both ways of the conversion are divisions of whole numbers. A quota that is no multiple is taken for
the limit below it, the quota -1, which means that there is none, is taken for zero, and a period
of less than a millisecond is none at all.

Writing a file is up to the kernel, which may refuse. It is a parameter here. A quota that it
accepts is the one in force, unless it is negative.

## Main definitions

* `FileError`: A file of the cgroup that cannot be read, or holds something else than a number.
* `getQuota`, `setQuota`: The files of the cgroup.
* `Outcome`: How an enforcement ends.
* `enforceCPULimit`: A new limit.
* `Enforces`: The quota in force afterwards is the one of the limit.
* `Converts`: The conversions lose nothing that matters.

## Theorems

* `toInt_periodToMilliseconds`: The length of a period, if it is not too long.
* `enforceCPULimit_of_eq`, `enforceCPULimit_of_ne`: What is done about a limit.
* `enforces_iff`: When a limit is enforced.
-/

namespace Nxpod

namespace ResourceGov

/-! ## The cgroup -/

/-- A file of the cgroup that cannot be read, or holds something else than a number. -/
inductive FileError
  | read (err : String)
  | parse (err : String)
  deriving DecidableEq

/-- The texts of these errors. They name the file's part. -/
def FileError.text (what : String) : FileError → String
  | read err => "cannot read CFS " ++ what ++ ": " ++ err
  | parse err => "cannot parse CFS " ++ what ++ ": " ++ err

/-- The numbers in `cpu.cfs_quota_us` and `cpu.cfs_period_us`. -/
structure Cgroup where
  cfsQuota : Except FileError Int64
  cfsPeriod : Except FileError Int64

/-- The quota and the period. The quota is read first. -/
def getQuota (cgroup : Cgroup) : Except String (Int64 × Int64) :=
  match cgroup.cfsQuota with
  | .error err => .error (err.text "quota")
  | .ok quota => match cgroup.cfsPeriod with
    | .error err => .error (err.text "period")
    | .ok period => .ok (quota, period)

/-- The kernel refuses a number, or says what the file holds from then on. -/
def setQuota (kernel : Int64 → Except String Int64) (cgroup : Cgroup) (quota : Int64) :
    Except String Cgroup :=
  match kernel quota with
  | .error err => .error ("cannot set CFS quota: " ++ err)
  | .ok written => .ok { cgroup with cfsQuota := .ok written }

/-- A quota that was accepted is in force. -/
def Keeps (kernel : Int64 → Except String Int64) : Prop :=
  ∀ quota written, 0 ≤ quota.toInt → kernel quota = .ok written → written = quota

/-! ## Enforcing a limit -/

/-- How an enforcement ends. Dividing by zero is an outcome of its own. -/
inductive Outcome
  | divideError
  | error (err : String)
  | done (didChange : Bool) (cgroup : Cgroup)

/-- A duration is in nanoseconds. -/
def periodToMilliseconds (period : Int64) : Int64 :=
  period * 1000 / 1000000

/-- The quota is turned into a limit and compared. Only a limit that differs is written. -/
def enforceCPULimit (kernel : Int64 → Except String Int64) (cgroup : Cgroup) (limit : Int64) :
    Outcome :=
  match getQuota cgroup with
  | .error err => .error err
  | .ok (quota, period) =>
      if 10 * periodToMilliseconds period = 0 then .divideError
      else if quota / (10 * periodToMilliseconds period) = limit then .done false cgroup
      else match setQuota kernel cgroup (limit * 10 * periodToMilliseconds period) with
        | .error err => .error err
        | .ok cgroup' => .done true cgroup'

/-- The quota of a limit, in microseconds for a period of so many microseconds. -/
def quotaOf (limit period : Int64) : Int :=
  limit.toInt * 10 * (period.toInt / 1000)

/-- Whatever the kernel accepts, there is no division by zero, and without an error the quota in
force is the one of the limit. -/
def Enforces (quota period limit : Int64) : Prop :=
  ∀ kernel, Keeps kernel →
    enforceCPULimit kernel ⟨.ok quota, .ok period⟩ limit ≠ .divideError ∧
    ∀ didChange cgroup,
      enforceCPULimit kernel ⟨.ok quota, .ok period⟩ limit = .done didChange cgroup →
        ∃ q, cgroup.cfsQuota = .ok q ∧ q.toInt = quotaOf limit period

/-- The period has some length, nothing overflows, and a quota that is taken for the limit is the
one of the limit. -/
def Converts (quota period limit : Int64) : Prop :=
  periodToMilliseconds period ≠ 0 ∧
  (limit = 0 ∨ (period.toInt * 1000 < 2 ^ 63 ∧ quotaOf limit period < 2 ^ 63)) ∧
  (quota.toInt = quotaOf limit period ∨
    quota.toInt.tdiv (10 * (periodToMilliseconds period).toInt) ≠ limit.toInt)

variable {kernel : Int64 → Except String Int64} {cgroup : Cgroup} {quota period limit : Int64}

theorem toInt_periodToMilliseconds_eq (period : Int64) :
    (periodToMilliseconds period).toInt =
      ((period.toInt * 1000).bmod (2 ^ 64)).tdiv 1000000 := by
  have hthousand : (1000 : Int64).toInt = 1000 := rfl
  have hmillion : (1000000 : Int64).toInt = 1000000 := rfl
  rw [periodToMilliseconds, Int64.toInt_div_of_ne_right _ _ (by decide), Int64.toInt_mul,
    hthousand, hmillion]

/-- Without an overflow the period is divided by a thousand. -/
theorem toInt_periodToMilliseconds (hpos : 1 ≤ period.toInt)
    (hlt : period.toInt * 1000 < 2 ^ 63) :
    (periodToMilliseconds period).toInt = period.toInt / 1000 := by
  rw [toInt_periodToMilliseconds_eq, Word.bmod_of_bounds (by omega) hlt,
    Int.tdiv_eq_ediv_of_nonneg (by omega)]
  omega

/-- A number that is too large for 64 bits becomes much smaller. -/
theorem exists_bmod {n : Int} (hge : 2 ^ 63 ≤ n) :
    ∃ turns, 1 ≤ turns ∧ n = n.bmod (2 ^ 64) + 18446744073709551616 * turns ∧
      -9223372036854775808 ≤ n.bmod (2 ^ 64) ∧ n.bmod (2 ^ 64) < 9223372036854775808 := by
  have hparts := Int.bmod_add_bdiv n (2 ^ 64)
  have hlower : -(((2 ^ 64 : Nat) : Int) / 2) ≤ n.bmod (2 ^ 64) := Int.le_bmod (by decide)
  have hupper : n.bmod (2 ^ 64) < (((2 ^ 64 : Nat) : Int) + 1) / 2 := Int.bmod_lt (by decide)
  generalize n.bmod (2 ^ 64) = rest at *
  generalize n.bdiv (2 ^ 64) = turns at *
  norm_num at hparts hlower hupper hge
  refine ⟨turns, ?_, by omega, hlower, by omega⟩
  by_contra hle
  omega

/-- Where the duration overflows, it becomes much shorter. -/
theorem periodToMilliseconds_of_overflow (hge : 2 ^ 63 ≤ period.toInt * 1000) :
    -(period.toInt / 1000) ≤ (periodToMilliseconds period).toInt ∧
      2 * (periodToMilliseconds period).toInt ≤ period.toInt / 1000 ∧
      (periodToMilliseconds period).toInt < period.toInt / 1000 := by
  rcases exists_bmod hge with ⟨turns, hturns, hparts, hlower, hupper⟩
  -- A duration only overflows after 292 years.
  have hlong : 9223372036854 ≤ period.toInt / 1000 := by omega
  rw [toInt_periodToMilliseconds_eq]
  generalize (period.toInt * 1000).bmod (2 ^ 64) = rest at hparts hlower hupper ⊢
  generalize period.toInt = length at hparts hlong ⊢
  clear hge
  by_cases hrest : 0 ≤ rest
  · rw [Int.tdiv_eq_ediv_of_nonneg hrest]
    -- What is left lacks one turn of `2 ^ 64` at least, which is more than the half.
    have hmuch : rest + 18446744073709551616 ≤ length * 1000 := by omega
    have htwice : 2 * (rest / 1000000) ≤ length / 1000 := by omega
    omega
  · -- What is negative is no length at all.
    have hneg : rest.tdiv 1000000 = -(-rest / 1000000) := by
      rw [← Int.tdiv_eq_ediv_of_nonneg (by omega), Int.neg_tdiv, Int.neg_neg]
    rw [hneg]
    omega

/-- With an overflow it is small all the same, so that ten times as much does not overflow
    again. -/
theorem periodToMilliseconds_bounds (period : Int64) :
    -9223372036854775808 ≤ 1000000 * (periodToMilliseconds period).toInt ∧
      1000000 * (periodToMilliseconds period).toInt < 9223372036854775808 := by
  have hmillion : (1000000 : Int64).toInt = 1000000 := rfl
  have hlower := (period * 1000).le_toInt
  have hupper := (period * 1000).toInt_lt
  rw [periodToMilliseconds, Int64.toInt_div_of_ne_right _ _ (by decide), hmillion]
  generalize (period * 1000).toInt = duration at *
  by_cases hneg : 0 ≤ duration
  · rw [Int.tdiv_eq_ediv_of_nonneg hneg]
    omega
  · have hdiv : duration.tdiv 1000000 = -(-duration / 1000000) := by
      rw [← Int.tdiv_eq_ediv_of_nonneg (by omega), Int.neg_tdiv, Int.neg_neg]
    rw [hdiv]
    omega

theorem toInt_divisor (period : Int64) :
    (10 * periodToMilliseconds period).toInt = 10 * (periodToMilliseconds period).toInt := by
  have hten : (10 : Int64).toInt = 10 := rfl
  have hbounds := periodToMilliseconds_bounds period
  rw [Word.toInt_mul_of_bounds] <;> rw [hten]
  all_goals omega

theorem divisor_eq_zero_iff (period : Int64) :
    10 * periodToMilliseconds period = 0 ↔ periodToMilliseconds period = 0 := by
  have hzero : (0 : Int64).toInt = 0 := rfl
  rw [← Int64.toInt_inj, ← Int64.toInt_inj, toInt_divisor, hzero]
  omega

/-- The limit that the quota is taken for. -/
theorem quotient_eq_iff (quota period limit : Int64) :
    quota / (10 * periodToMilliseconds period) = limit ↔
      quota.toInt.tdiv (10 * (periodToMilliseconds period).toInt) = limit.toInt := by
  -- Only a division by -1 could overflow.
  have hne : 10 * periodToMilliseconds period ≠ -1 := by
    intro heq
    have htoInt := congrArg Int64.toInt heq
    have hminus : (-1 : Int64).toInt = -1 := rfl
    rw [toInt_divisor, hminus] at htoInt
    omega
  rw [← Int64.toInt_inj, Int64.toInt_div_of_ne_right _ _ hne, toInt_divisor]

theorem toInt_newQuota (limit period : Int64) :
    (limit * 10 * periodToMilliseconds period).toInt =
      (limit.toInt * 10 * (periodToMilliseconds period).toInt).bmod (2 ^ 64) := by
  have hten : (10 : Int64).toInt = 10 := rfl
  rw [Int64.toInt_mul, Int64.toInt_mul, hten, Int.bmod_mul_bmod]

/-! ## What is done -/

/-- A period of less than a millisecond ends the governer. -/
theorem enforceCPULimit_of_zero (h : periodToMilliseconds period = 0) :
    enforceCPULimit kernel ⟨.ok quota, .ok period⟩ limit = .divideError := by
  simp only [enforceCPULimit, getQuota, if_pos ((divisor_eq_zero_iff period).mpr h)]

theorem enforceCPULimit_of_eq (hms : periodToMilliseconds period ≠ 0)
    (h : quota.toInt.tdiv (10 * (periodToMilliseconds period).toInt) = limit.toInt) :
    enforceCPULimit kernel ⟨.ok quota, .ok period⟩ limit =
      .done false ⟨.ok quota, .ok period⟩ := by
  simp only [enforceCPULimit, getQuota, if_neg (mt (divisor_eq_zero_iff period).mp hms),
    if_pos ((quotient_eq_iff quota period limit).mpr h)]

/-- Otherwise the new quota is written, if the kernel takes it. -/
theorem enforceCPULimit_of_ne (hms : periodToMilliseconds period ≠ 0)
    (h : quota.toInt.tdiv (10 * (periodToMilliseconds period).toInt) ≠ limit.toInt) :
    enforceCPULimit kernel ⟨.ok quota, .ok period⟩ limit =
      match kernel (limit * 10 * periodToMilliseconds period) with
      | .error err => .error ("cannot set CFS quota: " ++ err)
      | .ok written => .done true ⟨.ok written, .ok period⟩ := by
  simp only [enforceCPULimit, getQuota, if_neg (mt (divisor_eq_zero_iff period).mp hms),
    if_neg (mt (quotient_eq_iff quota period limit).mp h), setQuota]
  cases kernel (limit * 10 * periodToMilliseconds period) with
  | error err => rfl
  | ok written => rfl

/-! ## Overflow -/

theorem quotaOf_nonneg (hlimit : 0 ≤ limit.toInt) (hperiod : 1 ≤ period.toInt) :
    0 ≤ quotaOf limit period :=
  Int.mul_nonneg (by omega) (by omega)

/-- A duration that overflowed is not even half as long, or it is negative. -/
theorem tdiv_ne_of_overflow (hlimit : 1 ≤ limit.toInt) (hge : 2 ^ 63 ≤ period.toInt * 1000) :
    (quotaOf limit period).tdiv (10 * (periodToMilliseconds period).toInt) ≠ limit.toInt := by
  rcases periodToMilliseconds_of_overflow hge with ⟨hlower, htwice, hless⟩
  have hnonneg : 0 ≤ quotaOf limit period := quotaOf_nonneg (by omega) (by omega)
  by_cases hpos : 0 < (periodToMilliseconds period).toInt
  · have htimes : 2 * limit.toInt * (10 * (periodToMilliseconds period).toInt) ≤
        quotaOf limit period := by
      rw [quotaOf]
      nlinarith only [hlimit, htwice]
    have hquotient : 2 * limit.toInt ≤
        (quotaOf limit period).tdiv (10 * (periodToMilliseconds period).toInt) := by
      rw [Int.tdiv_eq_ediv_of_nonneg hnonneg]
      exact Int.le_ediv_of_mul_le (by omega) htimes
    omega
  · have hquotient := Int.tdiv_nonpos_of_nonneg_of_nonpos hnonneg
      (show 10 * (periodToMilliseconds period).toInt ≤ 0 by omega)
    omega

/-- Both quotas are too close to each other to be the same in 64 bits. -/
theorem bmod_ne_of_overflow (hlimit : 1 ≤ limit.toInt) (hge : 2 ^ 63 ≤ period.toInt * 1000)
    (hlt : quotaOf limit period < 2 ^ 63) :
    (limit.toInt * 10 * (periodToMilliseconds period).toInt).bmod (2 ^ 64) ≠
      quotaOf limit period := by
  intro heq
  rcases periodToMilliseconds_of_overflow hge with ⟨hlower, htwice, hless⟩
  have hturns := Int.bmod_add_bdiv (limit.toInt * 10 * (periodToMilliseconds period).toInt)
    (2 ^ 64)
  rw [heq] at hturns
  have hpositive : limit.toInt * 10 * (periodToMilliseconds period).toInt <
      quotaOf limit period := by
    rw [quotaOf]
    nlinarith only [hlimit, hless]
  have hclose : quotaOf limit period - limit.toInt * 10 * (periodToMilliseconds period).toInt ≤
      2 * quotaOf limit period := by
    rw [quotaOf]
    nlinarith only [hlimit, hlower]
  generalize limit.toInt * 10 * (periodToMilliseconds period).toInt = wrapped at *
  generalize quotaOf limit period = wanted at *
  generalize wrapped.bdiv (2 ^ 64) = turns at *
  -- They are apart by less than a turn of `2 ^ 64`, and not the same.
  norm_num at hturns hlt
  omega

/-! ## The limits that are enforced -/

/-- A kernel that accepts everything. A negative quota takes the limit away. -/
def accepting (quota : Int64) : Except String Int64 :=
  .ok (if quota < 0 then -1 else quota)

theorem keeps_accepting : Keeps accepting := by
  intro quota written hnonneg h
  have hzero : (0 : Int64).toInt = 0 := rfl
  have hnot : ¬ quota < 0 := by
    rw [Int64.lt_iff_toInt_lt, hzero]
    omega
  rw [accepting, if_neg hnot, Except.ok.injEq] at h
  exact h.symm

/-- What the accepting kernel has afterwards, if it is not negative, is what it was given. -/
theorem eq_of_accepting {written : Int64} (h : accepting quota = .ok written)
    (hnonneg : 0 ≤ written.toInt) : written = quota := by
  rw [accepting, Except.ok.injEq] at h
  split at h
  · have hminus : (-1 : Int64).toInt = -1 := rfl
    rw [← h, hminus] at hnonneg
    omega
  · exact h.symm

/-- The one direction: what is enforced without a write was converted without loss. -/
theorem converts_of_enforces (hlimit : 0 ≤ limit.toInt) (hperiod : 1 ≤ period.toInt)
    (h : Enforces quota period limit) : Converts quota period limit := by
  rcases h accepting keeps_accepting with ⟨hdivides, hdone⟩
  have hms : periodToMilliseconds period ≠ 0 := fun hzero =>
    hdivides (enforceCPULimit_of_zero hzero)
  have hzero : limit = 0 ↔ limit.toInt = 0 := Int64.toInt_inj.symm
  have hnonneg := quotaOf_nonneg hlimit hperiod
  by_cases hquotient :
      quota.toInt.tdiv (10 * (periodToMilliseconds period).toInt) = limit.toInt
  · -- The quota was left alone, so it is the right one.
    rcases hdone _ _ (enforceCPULimit_of_eq hms hquotient) with ⟨q, hq, hright⟩
    rw [← Except.ok.inj hq] at hright
    refine ⟨hms, ?_, .inl hright⟩
    by_cases hlimit' : limit.toInt = 0
    · exact .inl (hzero.mpr hlimit')
    · have hlt := quota.toInt_lt
      refine .inr ⟨?_, by omega⟩
      by_contra hge
      rw [hright] at hquotient
      exact tdiv_ne_of_overflow (by omega) (by omega) hquotient
  · -- The quota was written, and the kernel has accepted it.
    refine ⟨hms, ?_, .inr hquotient⟩
    rcases hdone _ _ (enforceCPULimit_of_ne hms hquotient) with ⟨q, hq, hright⟩
    have hwritten := eq_of_accepting rfl (by rw [Except.ok.inj hq]; omega)
    rw [← Except.ok.inj hq, hwritten, toInt_newQuota] at hright
    by_cases hlimit' : limit.toInt = 0
    · exact .inl (hzero.mpr hlimit')
    · have hlt : quotaOf limit period < 2 ^ 63 := by
        rw [← hright]
        exact Int.bmod_lt (by decide)
      refine .inr ⟨?_, hlt⟩
      by_contra hge
      exact bmod_ne_of_overflow (by omega) (by omega) hlt hright

theorem enforces_of_converts (hlimit : 0 ≤ limit.toInt) (hperiod : 1 ≤ period.toInt)
    (h : Converts quota period limit) : Enforces quota period limit := by
  rcases h with ⟨hms, hsmall, hquota⟩
  have hnonneg := quotaOf_nonneg hlimit hperiod
  intro kernel hkeeps
  by_cases hquotient :
      quota.toInt.tdiv (10 * (periodToMilliseconds period).toInt) = limit.toInt
  · -- The quota is left alone.
    rw [enforceCPULimit_of_eq hms hquotient]
    refine ⟨nofun, fun didChange cgroup hdone => ?_⟩
    rw [Outcome.done.injEq] at hdone
    rw [← hdone.2]
    exact ⟨quota, rfl, hquota.resolve_right (not_not.mpr hquotient)⟩
  · -- What is written is the wanted quota.
    have hwanted : (limit * 10 * periodToMilliseconds period).toInt = quotaOf limit period := by
      rw [toInt_newQuota]
      rcases hsmall with hzero | ⟨hshort, hlt⟩
      · have htoInt : (0 : Int64).toInt = 0 := rfl
        rw [quotaOf, hzero, htoInt, Int.zero_mul, Int.zero_mul, Int.zero_mul]
        rfl
      · rw [toInt_periodToMilliseconds hperiod hshort]
        exact Word.bmod_of_bounds (by rw [quotaOf] at hnonneg; omega) hlt
    rw [enforceCPULimit_of_ne hms hquotient]
    cases hkernel : kernel (limit * 10 * periodToMilliseconds period) with
    | error err => exact ⟨nofun, nofun⟩
    | ok written =>
        refine ⟨nofun, fun didChange cgroup hdone => ?_⟩
        rw [Outcome.done.injEq] at hdone
        rw [← hdone.2]
        refine ⟨written, rfl, ?_⟩
        rw [hkeeps _ _ (by rw [hwanted]; exact hnonneg) hkernel]
        exact hwanted

/-- A limit is enforced exactly when the conversions lose nothing. The quota is read, turned
    into a limit and compared before it is written, in whole milliseconds and in whole
    hundredths, so a quota that is only nearly right is taken for right. -/
theorem enforces_iff (quota period limit : Int64) (hlimit : 0 ≤ limit.toInt)
    (hperiod : 1 ≤ period.toInt) : Enforces quota period limit ↔ Converts quota period limit :=
  ⟨converts_of_enforces hlimit hperiod, enforces_of_converts hlimit hperiod⟩

/-- There was no quota, and six processors are set for periods of a tenth of a second. -/
theorem enforces_iff_sixProcessors : Enforces (-1) 100000 600 :=
  (enforces_iff (-1) 100000 600 (by decide) (by decide)).mpr
    ⟨by decide, .inr ⟨by decide, by decide⟩, .inr (by decide)⟩

/-- There was no quota, and there is none after a limit of zero either. -/
theorem unlimited_after_zero : ¬ ∀ quota period limit : Int64, 0 ≤ limit.toInt →
    1 ≤ period.toInt → Enforces quota period limit := by
  intro hall
  rcases (hall (-1) 100000 0 (by decide) (by decide) accepting keeps_accepting).2 _ _ rfl with
    ⟨q, hq, hright⟩
  rw [← Except.ok.inj hq] at hright
  exact absurd hright (by decide)

end ResourceGov

end Nxpod
