import Nxpod.Library.Window
import Nxpod.Library.Word
import Nxpod.ResourceGov.Governer

/-!
# What Was Spent Lately

A governer keeps the loads of the last samples in a ring, which has a place for every sampling
period of a control period, but at least one and at most 500. What it tells the limiter is the sum
of them. A load is the CPU time between two samples, in whole jiffies.

The ring counts the samples that were taken. Time goes on while the usage cannot be read, and then
the ring reaches further back than the control period does.

A sample of zero stands for no sample at all in the code, and what is said here is about counters
that are positive.

## Main definitions

* `sampleCount`, `newGovernerWithPeriods`: The ring of a new governer.
* `Governer.bdgtSpent`: What the limiter is told.
* `load`, `loads`: The loads of a history of ticks.
* `Recorded`: What a governer remembers of a history.

## Theorems

* `controlCPU_eq`: The limiter is told what was spent.
* `recorded_controlCPU`, `recorded_run`: One tick, and every run.
* `bdgtSpent_of_recorded`: The sum, which does not overflow.
* `bdgtSpent_window`: The loads of the last samples, in every run.
-/

namespace Nxpod

namespace ResourceGov

open Transition

/-! ## The ring -/

/-- The number of places of the ring. The division is that of Go, and the result is kept between
    1 and 500. -/
def sampleCount (controlPeriod samplingPeriod : Int64) : Nat :=
  let count := controlPeriod / samplingPeriod
  if count ≤ 0 then 1
  -- The memory that is used for a workspace is limited.
  else if count > 500 then 500
  else count.toInt.toNat

/-- Without a sampling period the code divides by zero. -/
def newGovernerWithPeriods (parseQuantity : String → Option Int64) (buckets : List Bucket)
    (instanceID : String) (controlPeriod samplingPeriod : Int64) (cpuLimit : Option String) :
    Option (Except String Governer) :=
  if samplingPeriod = 0 then none
  else if controlPeriod % samplingPeriod ≠ 0 then
    some (.error "control period must be a multiple of sampling period")
  else
    some (.ok (newGoverner parseQuantity buckets instanceID
      (sampleCount controlPeriod samplingPeriod) cpuLimit))

theorem sampleCount_pos (controlPeriod samplingPeriod : Int64) :
    0 < sampleCount controlPeriod samplingPeriod := by
  simp only [sampleCount]
  split
  · omega
  · next hpos =>
      split
      · omega
      · have htoInt : (0 : Int64).toInt = 0 := rfl
        rw [Int64.not_le, Int64.lt_iff_toInt_lt, htoInt] at hpos
        omega

theorem sampleCount_le (controlPeriod samplingPeriod : Int64) :
    sampleCount controlPeriod samplingPeriod ≤ 500 := by
  simp only [sampleCount]
  split
  · omega
  · split
    · exact Nat.le_refl 500
    · next hle =>
        have htoInt : (500 : Int64).toInt = 500 := rfl
        rw [gt_iff_lt, Int64.not_lt, Int64.le_iff_toInt_le, htoInt] at hle
        omega

/-! ## One tick -/

namespace Governer

variable (gov : Governer) (sample : Int64)

/-- What a governer remembers of a sample. -/
def sampled : Governer :=
  { gov with
    cpuPrevAcct := sample
    cpuExpenditures :=
      if gov.cpuPrevAcct > 0 then
        Window.push gov.cpuExpenditures ((sample - gov.cpuPrevAcct) / (1000 * 1000 * 10))
      else gov.cpuExpenditures }

/-- What the limiter is told, if it is asked. -/
def bdgtSpent : Option Int64 :=
  if gov.cpuPrevAcct = 0 then none
  else if gov.cpuPrevAcct > 0 then some ((gov.sampled sample).cpuExpenditures.filterMap id).sum
  else some 0

/-- A tick with a sample: the load is put into the ring, and the limiter is asked with the sum
    once there is one. -/
theorem controlCPU_eq : gov.controlCPU (some sample) = match gov.bdgtSpent sample with
    | none => some (none, gov.sampled sample)
    | some spent => match (gov.sampled sample).ask spent with
      | none => none
      | some (newLimit, gov') => some (some newLimit, gov') := by
  by_cases hzero : gov.cpuPrevAcct = 0
  · have hpos : ¬ gov.cpuPrevAcct > 0 := by
      rw [hzero]
      decide
    simp only [controlCPU, bdgtSpent, sampled, if_pos hzero, if_neg hpos]
  · by_cases hpos : gov.cpuPrevAcct > 0
    -- From here on both sides ask the same limiter for the same sum.
    · cases hask : (gov.sampled sample).ask
          ((gov.sampled sample).cpuExpenditures.filterMap id).sum
      all_goals
        simp only [sampled, Window.push, if_pos hpos] at hask
        simp only [controlCPU, bdgtSpent, sampled, Window.push, if_neg hzero, if_pos hpos, hask]
    · cases hask : (gov.sampled sample).ask 0
      all_goals
        simp only [sampled, if_neg hpos] at hask
        simp only [controlCPU, bdgtSpent, sampled, if_neg hzero, if_neg hpos, hask]

variable {gov} {gov' : Governer}

/-- Asking a limiter changes nothing that was sampled. -/
theorem ask_sampled {spent newLimit : Int64} (h : gov.ask spent = some (newLimit, gov')) :
    gov'.cpuPrevAcct = gov.cpuPrevAcct ∧ gov'.cpuExpenditures = gov.cpuExpenditures := by
  unfold ask at h
  split at h
  · split at h
    · exact nomatch h
    · rw [Option.some.injEq, Prod.mk.injEq] at h
      rw [← h.2]
      exact ⟨rfl, rfl⟩
  · split at h
    · exact nomatch h
    · rw [Option.some.injEq, Prod.mk.injEq] at h
      rw [← h.2]
      exact ⟨rfl, rfl⟩

/-- What a tick with a sample leaves behind, apart from the limiter. -/
theorem controlCPU_sampled {newLimit : Option Int64}
    (h : gov.controlCPU (some sample) = some (newLimit, gov')) :
    gov'.cpuPrevAcct = sample ∧ gov'.cpuExpenditures = (gov.sampled sample).cpuExpenditures := by
  rw [controlCPU_eq] at h
  split at h
  · rw [Option.some.injEq, Prod.mk.injEq] at h
    rw [← h.2]
    exact ⟨rfl, rfl⟩
  · split at h
    · exact nomatch h
    · next newLimit' gov'' hask =>
        rw [Option.some.injEq, Prod.mk.injEq] at h
        rw [← h.2]
        exact ask_sampled hask

end Governer

/-! ## The history -/

/-- The ticks of a run. At a tick the usage may be unknown. -/
def ticks : List Action → List (Option Int64)
  | [] => []
  | .update _ :: actions => ticks actions
  | .controlCPU sample :: actions => sample :: ticks actions

/-- The CPU time between two samples, in whole jiffies. -/
def load : Option Int64 → Option Int64 → Option Int
  | some prev, some sample => some ((sample.toInt - prev.toInt).tdiv 10000000)
  | _, _ => none

/-- The load at each tick, where there is any. -/
def loads : Option Int64 → List (Option Int64) → List (Option Int)
  | _, [] => []
  | prev, t :: ts => load prev t :: loads (t.or prev) ts

/-- The latest sample. -/
def latest : Option Int64 → List (Option Int64) → Option Int64
  | prev, [] => prev
  | prev, t :: ts => latest (t.or prev) ts

theorem loads_concat (prev : Option Int64) (ts : List (Option Int64)) (t : Option Int64) :
    loads prev (ts ++ [t]) = loads prev ts ++ [load (latest prev ts) t] := by
  induction ts generalizing prev with
  | nil => rfl
  | cons t' ts ih => exact congrArg (load prev t' :: ·) (ih (t'.or prev))

theorem latest_concat (prev : Option Int64) (ts : List (Option Int64)) (t : Option Int64) :
    latest prev (ts ++ [t]) = t.or (latest prev ts) := by
  induction ts generalizing prev with
  | nil => rfl
  | cons t' ts ih => exact ih (t'.or prev)

/-- There is no latest sample when there was none at all. -/
theorem latest_eq_none_iff (prev : Option Int64) (ts : List (Option Int64)) :
    latest prev ts = none ↔ prev = none ∧ ∀ t ∈ ts, t = none := by
  induction ts generalizing prev with
  | nil => simp [latest]
  | cons t ts ih =>
      rw [latest, ih, Option.or_eq_none_iff, List.forall_mem_cons]
      constructor
      · rintro ⟨⟨ht, hprev⟩, hts⟩
        exact ⟨hprev, ht, hts⟩
      · rintro ⟨hprev, ht, hts⟩
        exact ⟨⟨ht, hprev⟩, hts⟩

theorem mem_of_latest {prev : Option Int64} {ts : List (Option Int64)} {sample : Int64}
    (h : latest prev ts = some sample) : prev = some sample ∨ some sample ∈ ts := by
  induction ts generalizing prev with
  | nil => exact .inl h
  | cons t ts ih =>
      rcases ih h with hor | hmem
      · cases t with
        | none => exact .inl hor
        | some s =>
            refine .inr ?_
            rw [← hor]
            exact List.mem_cons_self
      · exact .inr (List.mem_cons_of_mem _ hmem)

/-- The counter only shows positive values. -/
def Counts (ts : List (Option Int64)) : Prop :=
  ∀ sample, some sample ∈ ts → 0 < sample

/-- What a governer with a ring of `n` places has kept of the ticks it has seen. -/
structure Recorded (n : Nat) (ts : List (Option Int64)) (gov : Governer) : Prop where
  prev : gov.cpuPrevAcct = (latest none ts).getD 0
  ring : ∃ kept : List Int64, gov.cpuExpenditures = Window.holding n kept ∧
    kept.map Int64.toInt = (loads none ts).filterMap id ∧ ∀ x ∈ kept, |x.toInt| ≤ 922337203685

variable {n : Nat} {ts : List (Option Int64)} {gov : Governer} {sample : Int64}

theorem recorded_newGoverner (parseQuantity : String → Option Int64) (buckets : List Bucket)
    (instanceID : String) (n : Nat) (cpuLimit : Option String) :
    Recorded n [] (newGoverner parseQuantity buckets instanceID n cpuLimit) where
  prev := rfl
  ring := ⟨[], (Window.holding_nil n).symm, rfl, nofun⟩

/-- A load of 64 bits is the load. -/
theorem toInt_load {prev : Int64} (hprev : 0 < prev) (hsample : 0 < sample) :
    ((sample - prev) / (1000 * 1000 * 10)).toInt =
        (sample.toInt - prev.toInt).tdiv 10000000 ∧
      |((sample - prev) / (1000 * 1000 * 10)).toInt| ≤ 922337203685 := by
  have hzero : (0 : Int64).toInt = 0 := rfl
  rw [Int64.lt_iff_toInt_lt, hzero] at hprev hsample
  have hunit : ((1000 * 1000 * 10 : Int64)).toInt = 10000000 := rfl
  have hdiv : ((sample - prev) / (1000 * 1000 * 10)).toInt =
      (sample.toInt - prev.toInt).tdiv 10000000 := by
    rw [Int64.toInt_div_of_ne_right _ _ (by decide), hunit,
      Word.toInt_sub_of_nonneg (by omega) (by omega)]
  have hltprev := prev.toInt_lt
  have hltsample := sample.toInt_lt
  have hsign : Int.sign 10000000 = 1 := rfl
  refine ⟨hdiv, ?_⟩
  rw [hdiv, abs_le, Int.tdiv_eq_ediv, hsign]
  split <;> omega

theorem counts_left {ts ts' : List (Option Int64)} (h : Counts (ts ++ ts')) : Counts ts :=
  fun s hs => h s (List.mem_append_left _ hs)

theorem pos_of_latest {prev : Int64} (hcounts : Counts ts) (h : latest none ts = some prev) :
    0 < prev :=
  hcounts prev ((mem_of_latest h).resolve_left nofun)

/-- A sample is kept together with its load. The first one has none. -/
theorem recorded_sampled (hn : 0 < n) (h : Recorded n ts gov)
    (hcounts : Counts (ts ++ [some sample])) :
    Recorded n (ts ++ [some sample]) (gov.sampled sample) := by
  rcases h.ring with ⟨kept, hring, hkept, hsmall⟩
  refine ⟨by rw [latest_concat]; rfl, ?_⟩
  simp only [Governer.sampled]
  cases hlatest : latest none ts with
  | none =>
      -- The first sample, which has no load yet.
      have hprev : gov.cpuPrevAcct = 0 := by rw [h.prev, hlatest]; rfl
      have hnot : ¬ gov.cpuPrevAcct > 0 := by rw [hprev]; decide
      rw [if_neg hnot, loads_concat, hlatest, List.filterMap_append]
      exact ⟨kept, hring, by rw [hkept]; exact (List.append_nil _).symm, hsmall⟩
  | some prev =>
      have hprev : gov.cpuPrevAcct = prev := by rw [h.prev, hlatest]; rfl
      have hpos : 0 < prev := pos_of_latest (counts_left hcounts) hlatest
      have hsample : 0 < sample := hcounts sample (List.mem_append_right _ List.mem_cons_self)
      rcases toInt_load hpos hsample with ⟨hload, hbound⟩
      rw [hprev, if_pos hpos, loads_concat, hlatest, List.filterMap_append, hring,
        Window.push_holding hn]
      refine ⟨_, rfl, ?_, ?_⟩
      · rw [List.map_append, hkept, List.map_singleton, hload]
        rfl
      · intro x hx
        rcases List.mem_append.mp hx with hx | hx
        · exact hsmall x hx
        · rw [List.mem_singleton.mp hx]
          exact hbound

/-- The step lemma: a tick keeps the ring in step with the loads of the samples. -/
theorem recorded_controlCPU {gov' : Governer} {t newLimit : Option Int64} (hn : 0 < n)
    (h : Recorded n ts gov) (hcounts : Counts (ts ++ [t]))
    (hstep : gov.controlCPU t = some (newLimit, gov')) : Recorded n (ts ++ [t]) gov' := by
  cases t with
  | none =>
      rw [Governer.controlCPU, Option.some.injEq, Prod.mk.injEq] at hstep
      rw [← hstep.2]
      refine ⟨by rw [latest_concat]; exact h.prev, ?_⟩
      have hload : load (latest none ts) none = none := by
        cases latest none ts <;> rfl
      rw [loads_concat, hload, List.filterMap_append]
      have hring := h.ring
      rw [← List.append_nil ((loads none ts).filterMap id)] at hring
      exact hring
  | some sample =>
      rcases Governer.controlCPU_sampled sample hstep with ⟨hprev, hring⟩
      have hsampled := recorded_sampled hn h hcounts
      exact ⟨hprev.trans hsampled.prev, hring ▸ hsampled.ring⟩

variable {parseQuantity : String → Option Int64} {actions : List Action} {s s' : Governed}

/-- A run of ticks and of changes of the annotation, which do not touch what was sampled. -/
theorem recorded_run (hn : 0 < n) (h : Recorded n ts s.governer)
    (hcounts : Counts (ts ++ ticks actions))
    (hrun : runActions (step parseQuantity) actions s = some s') :
    Recorded n (ts ++ ticks actions) s'.governer := by
  -- The induction is on the run, and the ticks that were seen grow with it.
  induction actions generalizing s ts with
  | nil =>
      rw [runActions, Option.some.injEq] at hrun
      rw [← hrun, ticks, List.append_nil]
      exact h
  | cons a actions ih =>
      rw [runActions] at hrun
      cases a with
      | update newPod =>
          -- Only the override may have changed.
          refine ih ?_ hcounts hrun
          simp only [Governer.handlePodUpdate]
          split
          · exact ⟨h.prev, h.ring⟩
          · exact h
      | controlCPU t =>
          rw [ticks, ← List.singleton_append, ← List.append_assoc] at hcounts ⊢
          rw [step] at hrun
          cases hstep : s.governer.controlCPU t with
          | none =>
              rw [hstep] at hrun
              cases hrun
          | some outcome =>
              rw [hstep] at hrun
              exact ih (recorded_controlCPU hn h (counts_left hcounts) hstep) hcounts hrun

/-- The first sample gives no load, so nothing is known to be spent. -/
theorem bdgtSpent_of_latest_none (h : Recorded n ts gov) (hlatest : latest none ts = none) :
    gov.bdgtSpent sample = none := by
  have hprev : gov.cpuPrevAcct = 0 := by rw [h.prev, hlatest]; rfl
  rw [Governer.bdgtSpent, if_pos hprev]

/-- With at most 500 loads the sum does not overflow. -/
theorem bdgtSpent_of_recorded (hn : 0 < n) (hle : n ≤ 500) (h : Recorded n ts gov)
    (hcounts : Counts (ts ++ [some sample])) (hlatest : latest none ts ≠ none) :
    ∃ spent, gov.bdgtSpent sample = some spent ∧
      spent.toInt = (((loads none (ts ++ [some sample])).filterMap id).rtake n).sum := by
  rcases Option.ne_none_iff_exists'.mp hlatest with ⟨prev, hprev⟩
  have hacct : gov.cpuPrevAcct = prev := by rw [h.prev, hprev]; rfl
  have hpos : 0 < prev := pos_of_latest (counts_left hcounts) hprev
  have hne : prev ≠ 0 := by
    intro hzero
    rw [hzero] at hpos
    exact absurd hpos (by decide)
  rcases (recorded_sampled hn h hcounts).ring with ⟨kept, hring, hkept, hsmall⟩
  rw [Governer.bdgtSpent, hacct, if_neg hne, if_pos hpos, hring, Window.filterMap_holding]
  -- A load is at most the 64-bit range in jiffies.
  have hlength : (kept.rtake n).length * 922337203685 < 2 ^ 63 := by
    have hmin := Window.length_rtake kept n
    omega
  have hlast : ∀ x ∈ kept.rtake n, |x.toInt| ≤ (922337203685 : Nat) :=
    fun x hx => hsmall x (List.mem_of_mem_drop hx)
  refine ⟨_, rfl, ?_⟩
  rw [(Word.toInt_sum hlast hlength).1, ← hkept, List.rtake, List.rtake, List.length_map,
    List.map_drop]

/-! ## Time -/

/-- What was spent at the last ticks. -/
def spentWithin (m : Nat) (ts : List (Option Int64)) : Int :=
  (((loads none ts).rtake m).filterMap id).sum

theorem loads_append (prev : Option Int64) (ts ts' : List (Option Int64)) :
    loads prev (ts ++ ts') = loads prev ts ++ loads (latest prev ts) ts' := by
  induction ts generalizing prev with
  | nil => rfl
  | cons t ts ih => exact congrArg (load prev t :: ·) (ih (t.or prev))

theorem length_loads (prev : Option Int64) (ts : List (Option Int64)) :
    (loads prev ts).length = ts.length := by
  induction ts generalizing prev with
  | nil => rfl
  | cons t ts ih => rw [loads, List.length_cons, List.length_cons, ih]

/-- After a sample every tick with one has a load. -/
theorem none_notMem_loads (prev : Int64) {ts : List (Option Int64)} (h : none ∉ ts) :
    none ∉ loads (some prev) ts := by
  induction ts generalizing prev with
  | nil => nofun
  | cons t ts ih =>
      have hts : none ∉ ts := fun hmem => h (List.mem_cons_of_mem _ hmem)
      cases t with
      | none => exact absurd List.mem_cons_self h
      | some sample =>
          intro hmem
          rcases List.mem_cons.mp hmem with heq | hmem
          · exact nomatch heq
          · exact ih sample hts hmem

/-- Without any sample there is no load. -/
theorem filterMap_loads_of_forall_none {ts : List (Option Int64)} (h : ∀ t ∈ ts, t = none) :
    (loads none ts).filterMap id = [] := by
  induction ts with
  | nil => rfl
  | cons t ts ih =>
      rw [h t List.mem_cons_self]
      exact ih fun t' ht' => h t' (List.mem_cons_of_mem _ ht')

/-- The loads of the last samples are those of the last ticks, where no reading of these failed or
where there were no samples before. -/
theorem rtake_loads {ts : List (Option Int64)} {m : Nat}
    (h : none ∉ ts.rtake m ∨ ∀ t ∈ ts.rdrop m, t = none) :
    (((loads none ts).filterMap id).rtake m).sum = spentWithin m ts := by
  have hparts : ts.rdrop m ++ ts.rtake m = ts := List.take_append_drop _ _
  -- The loads are cut where the ticks are cut.
  have hloads := loads_append none (ts.rdrop m) (ts.rtake m)
  rw [hparts] at hloads
  have hlength : (loads none (ts.rdrop m)).length = (loads none ts).length - m := by
    rw [length_loads, length_loads, List.rdrop, List.length_take]
    omega
  have hrdrop : (loads none ts).rdrop m = loads none (ts.rdrop m) := by
    rw [List.rdrop, ← hlength, hloads, List.take_left]
  have hrtake : (loads none ts).rtake m = loads (latest none (ts.rdrop m)) (ts.rtake m) := by
    rw [List.rtake, ← hlength, hloads, List.drop_left]
  rw [spentWithin, Window.rtake_filterMap]
  rw [hrdrop, hrtake]
  cases hlatest : latest none (ts.rdrop m) with
  | none =>
      exact .inr (filterMap_loads_of_forall_none ((latest_eq_none_iff none _).mp hlatest).2)
  | some prev =>
      rcases h with hfull | hbefore
      · exact .inl (none_notMem_loads prev hfull)
      · exact .inr (filterMap_loads_of_forall_none hbefore)

/-! ## Every run -/

/-- The limiter is told the loads of the last samples, as many as the control period has
    sampling periods, but at least one and at most 500. These are the loads of as many ticks,
    unless a reading failed meanwhile. Samples are kept in a ring, and a load is the difference
    of two that follow each other, so the first of them has none. -/
theorem bdgtSpent_window (parseQuantity : String → Option Int64) (buckets : List Bucket)
    (instanceID : String) (controlPeriod samplingPeriod : Int64) (cpuLimit : Option String)
    (gov : Governer) (hnew : newGovernerWithPeriods parseQuantity buckets instanceID controlPeriod
      samplingPeriod cpuLimit = some (.ok gov)) (actions : List Action) (s : Governed)
    (hrun : runActions (step parseQuantity) actions ⟨gov, cpuLimit⟩ = some s) (sample : Int64)
    (hcounts : Counts (ticks actions ++ [some sample])) :
    (s.governer.bdgtSpent sample = none ↔ ∀ t ∈ ticks actions, t = none) ∧
      ∀ spent, s.governer.bdgtSpent sample = some spent →
        spent.toInt = (((loads none (ticks actions ++ [some sample])).filterMap id).rtake
          (sampleCount controlPeriod samplingPeriod)).sum ∧
        ((none ∉ (ticks actions ++ [some sample]).rtake (sampleCount controlPeriod samplingPeriod) ∨
            ∀ t ∈ (ticks actions ++ [some sample]).rdrop (sampleCount controlPeriod samplingPeriod),
              t = none) →
          spent.toInt = spentWithin (sampleCount controlPeriod samplingPeriod)
            (ticks actions ++ [some sample])) := by
  have hpos := sampleCount_pos controlPeriod samplingPeriod
  have hle := sampleCount_le controlPeriod samplingPeriod
  simp only [newGovernerWithPeriods] at hnew
  split at hnew
  · exact nomatch hnew
  · split at hnew
    · exact nomatch hnew
    · rw [Option.some.injEq, Except.ok.injEq] at hnew
      have hfirst := recorded_newGoverner parseQuantity buckets instanceID
        (sampleCount controlPeriod samplingPeriod) cpuLimit
      rw [hnew] at hfirst
      have hrecorded := recorded_run (s := ⟨gov, cpuLimit⟩) hpos hfirst (counts_left hcounts) hrun
      rw [List.nil_append] at hrecorded
      -- Before the first sample nothing is told.
      by_cases hlatest : latest none (ticks actions) = none
      · have hnone : s.governer.bdgtSpent sample = none :=
          bdgtSpent_of_latest_none hrecorded hlatest
        refine ⟨iff_of_true hnone ((latest_eq_none_iff none _).mp hlatest).2,
          fun spent hspent => ?_⟩
        rw [hnone] at hspent
        exact nomatch hspent
      · rcases bdgtSpent_of_recorded hpos hle hrecorded hcounts hlatest with ⟨spent, hspent, hsum⟩
        constructor
        · refine iff_of_false (by rw [hspent]; nofun) fun hall => ?_
          exact hlatest ((latest_eq_none_iff none _).mpr ⟨rfl, hall⟩)
        · intro spent' hspent'
          rw [hspent, Option.some.injEq] at hspent'
          rw [← hspent', hsum]
          exact ⟨rfl, rtake_loads⟩

/-- Three seconds, where the second reading fails. There is a load of two jiffies and one of
three. -/
theorem bdgtSpent_window_failed :
    ∃ s, runActions (step twoProcessors) [.controlCPU (some 10000000), .controlCPU none,
        .update (some "2"), .controlCPU (some 30000000)]
      (govern twoProcessors [] "i" 3 (some "2")) = some s ∧
      ∃ spent, s.governer.bdgtSpent 60000000 = some spent ∧ spent.toInt = 5 := by
  refine exists_run_of_any (fun s => s.governer.bdgtSpent 60000000 == some 5) (by rfl)
    fun s hrun hspent => ?_
  have hfive : s.governer.bdgtSpent 60000000 = some 5 := eq_of_beq hspent
  have hcounts : Counts [some 10000000, none, some 30000000, some 60000000] := by
    intro sample hsample
    simp only [List.mem_cons, Option.some.injEq, reduceCtorEq, List.not_mem_nil, or_false,
      false_or] at hsample
    rcases hsample with heq | heq | heq
    all_goals
      rw [heq]
      decide
  have hwindow := bdgtSpent_window twoProcessors [] "i" 3000000000 1000000000 (some "2") _ rfl
    _ s hrun 60000000 hcounts
  exact ⟨5, hfive, (hwindow.2 5 hfive).1⟩

/-! ## A long control period -/

/-- A fixed limiter always has an answer. -/
theorem exists_controlCPU_of_fixed {gov : Governer} {fixedLimit : Int64} (t : Option Int64)
    (hover : gov.cpuLimiterOverride = none) (hfixed : gov.cpuLimiter = .fixed fixedLimit) :
    ∃ newLimit gov', gov.controlCPU t = some (newLimit, gov') ∧
      gov'.cpuLimiterOverride = none ∧ gov'.cpuLimiter = .fixed fixedLimit := by
  cases t with
  | none => exact ⟨none, gov, rfl, hover, hfixed⟩
  | some sample =>
      rw [Governer.controlCPU_eq]
      cases gov.bdgtSpent sample with
      | none => exact ⟨none, gov.sampled sample, rfl, hover, hfixed⟩
      | some spent =>
          have hask : (gov.sampled sample).ask spent =
              some (fixedLimit, { gov.sampled sample with cpuLimiter := .fixed fixedLimit }) := by
            simp only [Governer.ask, Governer.sampled, hover, hfixed, ResourceLimiter.limit]
          simp only [hask]
          exact ⟨_, _, rfl, hover, rfl⟩

/-- A governer with a fixed limiter never fails, so it runs over every sequence of ticks. -/
theorem exists_run_of_fixed {s : Governed} {fixedLimit : Int64} (ts : List (Option Int64))
    (hover : s.governer.cpuLimiterOverride = none)
    (hfixed : s.governer.cpuLimiter = .fixed fixedLimit) :
    ∃ s', runActions (step parseQuantity) (ts.map .controlCPU) s = some s' := by
  induction ts generalizing s with
  | nil => exact ⟨s, rfl⟩
  | cons t ts ih =>
      rcases exists_controlCPU_of_fixed t hover hfixed with ⟨newLimit, gov', hstep, hover', hfixed'⟩
      rcases ih (s := { s with governer := gov' }) hover' hfixed' with ⟨s', hrun⟩
      refine ⟨s', ?_⟩
      rw [List.map_cons, runActions, step, hstep]
      exact hrun

theorem ticks_map (ts : List (Option Int64)) : ticks (ts.map .controlCPU) = ts := by
  induction ts with
  | nil => rfl
  | cons t ts ih => exact congrArg (t :: ·) ih

/-- The counter after `k` jiffies. -/
def jiffies (k : Nat) : Int64 :=
  Int64.ofNat (10000000 * k)

/-- A counter in nanoseconds, as long as it does not wrap around. -/
theorem toInt_jiffies {k : Nat} (h : k < 900000000000) : (jiffies k).toInt = 10000000 * k := by
  rw [jiffies, Int64.toInt_ofNat_of_lt (by omega)]
  push_cast
  rfl

/-- One jiffy at every tick. -/
theorem loads_jiffies (count k : Nat) (h : k + count < 900000000000) :
    loads (some (jiffies k)) ((List.range' (k + 1) count).map fun k => some (jiffies k)) =
      List.replicate count (some 1) := by
  induction count generalizing k with
  | zero => rfl
  | succ count ih =>
      have hload : load (some (jiffies k)) (some (jiffies (k + 1))) = some 1 := by
        have hdiff : 10000000 * ((k + 1 : Nat) : Int) - 10000000 * (k : Int) = 10000000 := by
          push_cast
          omega
        rw [load, toInt_jiffies (by omega), toInt_jiffies (by omega), hdiff]
        rfl
      rw [List.range'_succ, List.map_cons, loads, hload, List.replicate_succ]
      exact congrArg (some 1 :: ·) (ih (k + 1) (by omega))

/-- The samples of the first ticks, with one jiffy between two of them. -/
def everyJiffy (count : Nat) : List (Option Int64) :=
  (List.range' 1 count).map fun k => some (jiffies k)

theorem everyJiffy_succ (count : Nat) :
    everyJiffy (count + 1) = everyJiffy count ++ [some (jiffies (count + 1))] := by
  rw [everyJiffy, List.range'_1_concat, List.map_append, Nat.add_comm 1 count]
  rfl

/-- A workspace that uses one jiffy each tick has a load of one at every tick but the first. -/
theorem loads_everyJiffy {count : Nat} (h : count + 1 < 900000000000) :
    loads none (everyJiffy (count + 1)) = none :: List.replicate count (some 1) := by
  rw [everyJiffy, List.range'_succ, List.map_cons, loads]
  exact congrArg (none :: ·) (loads_jiffies count 1 (by omega))

theorem counts_everyJiffy {count : Nat} (h : count < 900000000000) :
    Counts (everyJiffy count) := by
  intro sample hsample
  rcases List.mem_map.mp hsample with ⟨k, hk, heq⟩
  rw [List.mem_range'_1] at hk
  rw [← Option.some.inj heq, Int64.lt_iff_toInt_lt, toInt_jiffies (by omega)]
  exact Int.mul_pos (by omega) (by omega)

theorem latest_everyJiffy_ne_none (count : Nat) : latest none (everyJiffy (count + 1)) ≠ none := by
  intro hnone
  have hfirst := ((latest_eq_none_iff none _).mp hnone).2 (some (jiffies 1))
    (by rw [everyJiffy, List.mem_map]; exact ⟨1, by simp, rfl⟩)
  exact nomatch hfirst

/-- A control period of fifteen minutes with a sample every second. After 501 of them only the load
of 500 is counted. -/
theorem bdgtSpent_capped : ¬ ∀ (parseQuantity : String → Option Int64) (buckets : List Bucket)
    (instanceID : String) (controlPeriod samplingPeriod : Int64) (cpuLimit : Option String)
    (gov : Governer), newGovernerWithPeriods parseQuantity buckets instanceID controlPeriod
      samplingPeriod cpuLimit = some (.ok gov) → ∀ (actions : List Action) (s : Governed),
    runActions (step parseQuantity) actions ⟨gov, cpuLimit⟩ = some s → ∀ sample spent,
      s.governer.bdgtSpent sample = some spent →
        spent.toInt = spentWithin (controlPeriod.toInt / samplingPeriod.toInt).toNat
          (ticks actions ++ [some sample]) := by
  intro hall
  have hruns : ∃ s, runActions (step twoProcessors) ((everyJiffy 501).map .controlCPU)
      (govern twoProcessors [] "i" 500 (some "2")) = some s :=
    exists_run_of_fixed (everyJiffy 501) rfl rfl
  rcases hruns with ⟨s, hrun⟩
  have hcounts : Counts (everyJiffy 501 ++ [some (jiffies 502)]) := by
    rw [← everyJiffy_succ]
    exact counts_everyJiffy (by omega)
  have hloads : loads none (everyJiffy 501 ++ [some (jiffies 502)]) =
      none :: List.replicate 501 (some 1) := by
    rw [← everyJiffy_succ]
    exact loads_everyJiffy (by omega)
  have hrecorded := recorded_run (s := govern twoProcessors [] "i" 500 (some "2")) (by omega)
    (recorded_newGoverner twoProcessors [] "i" 500 (some "2"))
    (by rw [ticks_map]; exact counts_left hcounts) hrun
  rw [ticks_map, List.nil_append] at hrecorded
  rcases bdgtSpent_of_recorded (by omega) (by omega) hrecorded hcounts
    (latest_everyJiffy_ne_none 500) with ⟨spent, hspent, hsum⟩
  have hclaimed := hall twoProcessors [] "i" 900000000000 1000000000 (some "2") _ rfl
    ((everyJiffy 501).map .controlCPU) s hrun (jiffies 502) spent hspent
  rw [ticks_map, spentWithin] at hclaimed
  -- The ring has 500 of the 501 loads, and all of them are within the control period.
  have hvalues : (none :: List.replicate 501 (some (1 : Int))).filterMap id =
      List.replicate 501 1 := by
    rw [List.filterMap_cons_none rfl]
    exact List.filterMap_replicate_of_some rfl
  have hwithin : (none :: List.replicate 501 (some (1 : Int))).rtake
      ((900000000000 : Int64).toInt / (1000000000 : Int64).toInt).toNat =
      none :: List.replicate 501 (some 1) := by
    apply Window.rtake_of_length_le
    rw [List.length_cons, List.length_replicate]
    decide
  rw [hloads, hvalues, List.rtake, List.drop_replicate, List.sum_replicate,
    List.length_replicate] at hsum
  rw [hloads, hwithin, hvalues, List.sum_replicate] at hclaimed
  rw [hclaimed] at hsum
  exact absurd hsum (by decide)

end ResourceGov

end Nxpod
