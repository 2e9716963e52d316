import Nxpod.Library.Transition
import Nxpod.ResourceGov.Controller

/-!
# The Governer of a Container

A governer samples the CPU time of a container, adds up what was spent lately, and asks a limiter
for the limit. The limiter is chosen when the governer is made: a pod with a CPU limit annotation
gets a fixed one. When the annotation changes, a positive limit is put over the limiter, and any
other value takes away what was put over it.

What is underneath was chosen from the annotation the pod had in the beginning. Where that was a
fixed limiter, taking the annotation away does not bring the buckets back.

How a quantity is parsed is a parameter. It gives the quantity in thousandths.

## Main definitions

* `ResourceLimiter`: The limiters a governer can have.
* `Governer`, `controlCPU`, `setFixedCPULimit`: The governer.
* `chooseLimiter`: The limiter of a governer that is made for a pod.
* `Governer.handlePodUpdate`: What an update of the pod does.
* `Governed`, `step`: A governer with the present annotation of its pod.
* `Action`: What happens to a governer: the pod's annotation changes, or it is time for a sample,
  which may fail.
* `Remembered`: What is underneath was chosen from the first annotation.
* `Asks`: What the present annotation and the first one have to do with each other.

## Theorems

* `started_limit`: A limiter that is asked stays the one it is.
* `remembered_step`: What is known after a step.
* `inForce_iff`: When the limiter in force is the one of a new governer.
-/

namespace Nxpod

namespace ResourceGov

open Transition

/-- The limiters a governer can have. -/
inductive ResourceLimiter
  | fixed (limit : Int64)
  | clamping (bl : ClampingBucketLimiter)
  deriving DecidableEq

namespace ResourceLimiter

/-- The limit a limiter gives, and the limiter afterwards. A fixed one does not look at what was
    spent. -/
def limit : ResourceLimiter → Int64 → Option (Int64 × ResourceLimiter)
  | fixed fixedLimit, _ => some (fixedLimit, fixed fixedLimit)
  | clamping bl, budgetSpent => match bl.limit budgetSpent with
    | none => none
    | some (newLimit, bl') => some (newLimit, clamping bl')

/-- The limiter as it was in the beginning. -/
def started : ResourceLimiter → ResourceLimiter
  | fixed fixedLimit => fixed fixedLimit
  | clamping bl => clamping { bl with lastBucketLock := false }

/-- Asking a limiter does not change how it was started. -/
theorem started_limit {l l' : ResourceLimiter} {budgetSpent newLimit : Int64}
    (h : l.limit budgetSpent = some (newLimit, l')) : l'.started = l.started := by
  cases l with
  | fixed fixedLimit =>
      rw [limit, Option.some.injEq, Prod.mk.injEq] at h
      rw [← h.2]
  | clamping bl =>
      rw [limit] at h
      split at h
      · exact nomatch h
      · next newLimit' bl' hlimit =>
          rw [Option.some.injEq, Prod.mk.injEq] at h
          rw [← h.2]
          rw [started, started, ClampingBucketLimiter.buckets_limit hlimit]

end ResourceLimiter

/-! ## The governer -/

/-- The samples are in a ring, from the oldest to the latest, with places not used yet. -/
structure Governer where
  instanceID : String
  cpuLimiter : ResourceLimiter
  cpuLimiterOverride : Option ResourceLimiter
  cpuPrevAcct : Int64
  cpuExpenditures : List (Option Int64)

namespace Governer

/-- The limiter that is asked: the one put over it, if there is one. -/
def inForce (gov : Governer) : ResourceLimiter :=
  gov.cpuLimiterOverride.getD gov.cpuLimiter

/-- The limiter is asked. What it remembers from then on stays where it is. -/
def ask (gov : Governer) (bdgtSpent : Int64) : Option (Int64 × Governer) :=
  match gov.cpuLimiterOverride with
  | some override => match override.limit bdgtSpent with
    | none => none
    | some (newLimit, override') =>
        some (newLimit, { gov with cpuLimiterOverride := some override' })
  | none => match gov.cpuLimiter.limit bdgtSpent with
    | none => none
    | some (newLimit, cpuLimiter') => some (newLimit, { gov with cpuLimiter := cpuLimiter' })

/-- One sample, which may be missing, and the limit that is to be enforced if there is any. The
first sample only gives something to compare the next one with. -/
def controlCPU (gov : Governer) : Option Int64 → Option (Option Int64 × Governer)
  | none => some (none, gov)
  | some sample =>
      let prev := gov.cpuPrevAcct
      let gov := { gov with cpuPrevAcct := sample }
      -- The counter is new, and there is no load to tell yet.
      if prev = 0 then some (none, gov)
      else
        let gov :=
          if prev > 0 then
            let load := (sample - prev) / (1000 * 1000 * 10)
            { gov with cpuExpenditures := gov.cpuExpenditures.tail ++ [some load] }
          else gov
        let bdgtSpent := if prev > 0 then (gov.cpuExpenditures.filterMap id).sum else 0
        match gov.ask bdgtSpent with
        | none => none
        | some (newLimit, gov) => some (some newLimit, gov)

/-- A positive limit is put over the limiter. Any other value takes away what was put over it. -/
def setFixedCPULimit (gov : Governer) (jiffiesPerSec : Int64) : Governer :=
  { gov with cpuLimiterOverride :=
      if jiffiesPerSec > 0 then some (.fixed jiffiesPerSec) else none }

end Governer

/-! ## The annotation -/

variable (parseQuantity : String → Option Int64) (buckets : List Bucket)

/-- What does not parse is zero. -/
def scaledLimit (limit : String) : Int64 :=
  (parseQuantity limit).getD 0 / 10

/-- What the annotation of a pod asks for. There may be none, or an empty one. -/
def asked (cpuLimit : Option String) : Int64 :=
  if cpuLimit.getD "" ≠ "" then scaledLimit parseQuantity (cpuLimit.getD "") else 0

/-- The limiter a governer is made with. An annotation that is empty counts as none. -/
def chooseLimiter : Option String → ResourceLimiter
  | none => .clamping ⟨buckets, false⟩
  | some fixedLimit =>
      if fixedLimit ≠ "" then .fixed (scaledLimit parseQuantity fixedLimit)
      else .clamping ⟨buckets, false⟩

/-- A governer without samples. -/
def newGoverner (instanceID : String) (sampleCount : Nat) (cpuLimit : Option String) :
    Governer where
  instanceID := instanceID
  cpuLimiter := chooseLimiter parseQuantity buckets cpuLimit
  cpuLimiterOverride := none
  cpuPrevAcct := 0
  cpuExpenditures := List.replicate sampleCount none

/-- Only a change of the annotation matters. -/
def Governer.handlePodUpdate (gov : Governer) (oldPod newPod : Option String) : Governer :=
  if oldPod.getD "" ≠ newPod.getD "" then gov.setFixedCPULimit (asked parseQuantity newPod) else gov

/-- A governer, and the annotation its pod has now. -/
structure Governed where
  governer : Governer
  cpuLimit : Option String

/-- What happens to a governer: the pod's annotation changes, or it is time for a sample, which
    may fail. -/
inductive Action
  | update (newPod : Option String)
  | controlCPU (sample : Option Int64)

/-- One step of a governer, with the annotation that the pod has. -/
def step (s : Governed) : Action → Option Governed
  | .update newPod =>
      some ⟨s.governer.handlePodUpdate parseQuantity s.cpuLimit newPod, newPod⟩
  | .controlCPU sample => match s.governer.controlCPU sample with
    | none => none
    | some (_, governer) => some { s with governer := governer }

/-- A governer that was just made, and the annotation it was made from. -/
def govern (instanceID : String) (sampleCount : Nat) (cpuLimit : Option String) : Governed :=
  ⟨newGoverner parseQuantity buckets instanceID sampleCount cpuLimit, cpuLimit⟩

/-! ## The history -/

variable {parseQuantity buckets} {s s' : Governed} {first : Option String} {a : Action}

/-- Without a limit in the annotation there are buckets. -/
theorem chooseLimiter_of_empty {cpuLimit : Option String} (h : cpuLimit.getD "" = "") :
    chooseLimiter parseQuantity buckets cpuLimit = .clamping ⟨buckets, false⟩ := by
  cases cpuLimit with
  | none => rfl
  | some limit => exact if_neg (not_not.mpr h)

/-- With one the limiter is fixed, even if the text is no quantity. -/
theorem chooseLimiter_of_ne {cpuLimit : Option String} (h : cpuLimit.getD "" ≠ "") :
    chooseLimiter parseQuantity buckets cpuLimit = .fixed (asked parseQuantity cpuLimit) := by
  cases cpuLimit with
  | none => exact absurd rfl h
  | some limit =>
      rw [asked, if_pos h]
      exact if_pos h

theorem ne_of_asked {cpuLimit : Option String} (h : 0 < asked parseQuantity cpuLimit) :
    cpuLimit.getD "" ≠ "" := by
  intro hempty
  rw [asked, if_neg (not_not.mpr hempty)] at h
  exact absurd h (by decide)

/-- What is underneath was chosen from the first annotation. The limit that is put over it is the
one that is asked for, and without one nothing is asked for or nothing has changed. -/
structure Remembered (parseQuantity : String → Option Int64) (buckets : List Bucket)
    (first : Option String) (s : Governed) : Prop where
  underneath : s.governer.cpuLimiter.started = chooseLimiter parseQuantity buckets first
  put : ∀ l, s.governer.cpuLimiterOverride = some l →
    l = .fixed (asked parseQuantity s.cpuLimit) ∧ 0 < asked parseQuantity s.cpuLimit
  nothing : s.governer.cpuLimiterOverride = none →
    ¬ 0 < asked parseQuantity s.cpuLimit ∨ s.cpuLimit.getD "" = first.getD ""

/-- Asking for a limit leaves the limiters as they were started. -/
theorem ask_fixed {gov gov' : Governer} {bdgtSpent newLimit : Int64}
    (h : gov.ask bdgtSpent = some (newLimit, gov')) :
    gov'.cpuLimiter.started = gov.cpuLimiter.started ∧
      (gov.cpuLimiterOverride = none → gov'.cpuLimiterOverride = none) ∧
      ∀ n, gov.cpuLimiterOverride = some (.fixed n) →
        gov'.cpuLimiterOverride = some (.fixed n) := by
  unfold Governer.ask at h
  split at h
  · next override hoverride =>
      split at h
      · exact nomatch h
      · next newLimit' override' hlimit =>
          rw [Option.some.injEq, Prod.mk.injEq] at h
          rw [← h.2]
          refine ⟨rfl, fun hnone => ?_, fun n hn => ?_⟩
          · rw [hoverride] at hnone
            exact nomatch hnone
          · rw [hoverride, Option.some.injEq] at hn
            rw [hn, ResourceLimiter.limit, Option.some.injEq, Prod.mk.injEq] at hlimit
            rw [← hlimit.2]
  · next hnone =>
      split at h
      · exact nomatch h
      · next newLimit' cpuLimiter' hlimit =>
          rw [Option.some.injEq, Prod.mk.injEq] at h
          rw [← h.2]
          refine ⟨ResourceLimiter.started_limit hlimit, fun hkept => hkept, fun n hn => ?_⟩
          rw [hnone] at hn
          exact nomatch hn

/-- Sampling changes neither the limiter nor what was put over it. -/
theorem controlCPU_limiters {gov gov' : Governer} {sample newLimit : Option Int64}
    (h : gov.controlCPU sample = some (newLimit, gov')) :
    gov'.cpuLimiter.started = gov.cpuLimiter.started ∧
      (gov.cpuLimiterOverride = none → gov'.cpuLimiterOverride = none) ∧
      ∀ n, gov.cpuLimiterOverride = some (.fixed n) →
        gov'.cpuLimiterOverride = some (.fixed n) := by
  cases sample with
  | none =>
      rw [Governer.controlCPU, Option.some.injEq, Prod.mk.injEq] at h
      rw [← h.2]
      exact ⟨rfl, fun hnone => hnone, fun _ hn => hn⟩
  | some sample =>
      simp only [Governer.controlCPU] at h
      split at h
      · rw [Option.some.injEq, Prod.mk.injEq] at h
        rw [← h.2]
        exact ⟨rfl, fun hnone => hnone, fun _ hn => hn⟩
      · split at h
        · exact nomatch h
        · next newLimit' gov₁ hask =>
            rw [Option.some.injEq, Prod.mk.injEq] at h
            rw [← h.2]
            have hasked := ask_fixed hask
            split at hasked
            · exact hasked
            · exact hasked

/-- The step lemma: a governer remembers the annotation it was made from and goes by the present
    one. -/
theorem remembered_step (hs : Remembered parseQuantity buckets first s)
    (h : step parseQuantity s a = some s') : Remembered parseQuantity buckets first s' := by
  cases a with
  | update newPod =>
      rw [step, Option.some.injEq] at h
      rw [← h, Governer.handlePodUpdate]
      -- Nothing is set unless the annotation has changed.
      by_cases hchanged : s.cpuLimit.getD "" ≠ newPod.getD ""
      · rw [if_pos hchanged]
        refine ⟨hs.underneath, fun l hl => ?_, fun hnone => ?_⟩
        · simp only [Governer.setFixedCPULimit] at hl
          split at hl
          · next hpos => exact ⟨(Option.some.inj hl).symm, hpos⟩
          · exact nomatch hl
        · simp only [Governer.setFixedCPULimit] at hnone
          split at hnone
          · exact nomatch hnone
          · next hnot => exact .inl hnot
      · rw [if_neg hchanged]
        have hsame : s.cpuLimit.getD "" = newPod.getD "" := not_not.mp hchanged
        have hasked : asked parseQuantity s.cpuLimit = asked parseQuantity newPod := by
          rw [asked, asked, hsame]
        exact ⟨hs.underneath, fun l hl => hasked ▸ hs.put l hl,
          fun hnone => hasked ▸ hsame ▸ hs.nothing hnone⟩
  | controlCPU sample =>
      rw [step] at h
      split at h
      · exact nomatch h
      · next newLimit governer hcontrol =>
          rw [Option.some.injEq] at h
          rw [← h]
          rcases controlCPU_limiters hcontrol with ⟨hunderneath, hnone, hput⟩
          refine ⟨hunderneath.trans hs.underneath, fun l hl => ?_, fun hn => ?_⟩
          · -- An override is a fixed limiter, which stays the same.
            cases hoverride : s.governer.cpuLimiterOverride with
            | none =>
                rw [hnone hoverride] at hl
                exact nomatch hl
            | some l' =>
                rcases hs.put l' hoverride with ⟨hfixed, hpos⟩
                rw [hput _ (hfixed ▸ hoverride), Option.some.injEq] at hl
                exact ⟨hl.symm, hpos⟩
          · cases hoverride : s.governer.cpuLimiterOverride with
            | none => exact hs.nothing hoverride
            | some l' =>
                rw [hput _ ((hs.put l' hoverride).1 ▸ hoverride)] at hn
                exact nomatch hn

theorem remembered_govern (instanceID : String) (sampleCount : Nat) (first : Option String) :
    Remembered parseQuantity buckets first
      (govern parseQuantity buckets instanceID sampleCount first) where
  underneath := by
    cases first with
    | none => rfl
    | some limit =>
        simp only [govern, newGoverner, chooseLimiter]
        split <;> rfl
  put l hl := nomatch hl
  nothing _ := .inr rfl

/-- The annotation asks for a limit, or it is not there and was not there in the beginning, or both
times it asks for the same. -/
def Asks (parseQuantity : String → Option Int64) (first last : Option String) : Prop :=
  0 < asked parseQuantity last ∨ (last.getD "" = "" ∧ first.getD "" = "") ∨
    (last.getD "" ≠ "" ∧ first.getD "" ≠ "" ∧
      asked parseQuantity first = asked parseQuantity last)

theorem chooseLimiter_eq_iff (first last : Option String) :
    chooseLimiter parseQuantity buckets first = chooseLimiter parseQuantity buckets last ↔
      (last.getD "" = "" ∧ first.getD "" = "") ∨ (last.getD "" ≠ "" ∧ first.getD "" ≠ "" ∧
        asked parseQuantity first = asked parseQuantity last) := by
  by_cases hfirst : first.getD "" = ""
  · rw [chooseLimiter_of_empty hfirst]
    by_cases hlast : last.getD "" = ""
    · rw [chooseLimiter_of_empty hlast]
      exact iff_of_true rfl (.inl ⟨hlast, hfirst⟩)
    · rw [chooseLimiter_of_ne hlast]
      exact iff_of_false nofun fun h => h.elim (fun h => hlast h.1) fun h => h.2.1 hfirst
  · rw [chooseLimiter_of_ne hfirst]
    by_cases hlast : last.getD "" = ""
    · rw [chooseLimiter_of_empty hlast]
      exact iff_of_false nofun fun h => h.elim (fun h => hfirst h.2) fun h => h.1 hlast
    · rw [chooseLimiter_of_ne hlast, ResourceLimiter.fixed.injEq]
      constructor
      · exact fun h => .inr ⟨hlast, hfirst, h⟩
      · rintro (h | h)
        · exact absurd h.1 hlast
        · exact h.2.2

/-- After any history the limiter in force is the one that a new governer would have exactly
    when the annotations ask for that. A governer is started with what the pod says then, and
    told of later changes as overrides, and taking back an override does not take back the
    start. -/
theorem inForce_iff (parseQuantity : String → Option Int64) (buckets : List Bucket)
    (instanceID : String) (sampleCount : Nat) (first : Option String) (actions : List Action)
    (s : Governed) (hrun : runActions (step parseQuantity) actions
      (govern parseQuantity buckets instanceID sampleCount first) = some s) :
    s.governer.inForce.started = chooseLimiter parseQuantity buckets s.cpuLimit ↔
      Asks parseQuantity first s.cpuLimit := by
  have hs : Remembered parseQuantity buckets first s :=
    invariant_of_reachesWithin (fun _ _ _ _ hs _ hstep => remembered_step hs hstep)
      (reaches_of_runActions hrun) (remembered_govern instanceID sampleCount first)
  unfold Asks
  cases hoverride : s.governer.cpuLimiterOverride with
  | some l =>
      rcases hs.put l hoverride with ⟨hfixed, hpos⟩
      rw [Governer.inForce, hoverride, Option.getD_some, hfixed,
        chooseLimiter_of_ne (ne_of_asked hpos)]
      exact iff_of_true rfl (.inl hpos)
  | none =>
      rw [Governer.inForce, hoverride, Option.getD_none, hs.underneath, chooseLimiter_eq_iff]
      rcases hs.nothing hoverride with hnot | hsame
      · exact (or_iff_right hnot).symm
      · refine iff_of_true ?_ (.inr ?_)
        all_goals
          rw [hsame]
          by_cases hempty : first.getD "" = ""
          · exact .inl ⟨hempty, hempty⟩
          · refine .inr ⟨hempty, hempty, ?_⟩
            rw [asked, asked, hsame]

/-- Two processors, which is the only quantity that parses here. -/
def twoProcessors (s : String) : Option Int64 :=
  if s = "2" then some 2000 else none

/-- The annotation is changed to something else and back, while the container is sampled. -/
theorem inForce_iff_changed :
    ∃ s, runActions (step twoProcessors) [.controlCPU (some 5), .update (some "two"),
      .controlCPU (some 900000000), .update (some "2"), .controlCPU none]
      (govern twoProcessors [⟨50, 100⟩, ⟨10, 5⟩] "i" 3 (some "2")) = some s ∧
      s.governer.inForce.started =
        chooseLimiter twoProcessors [⟨50, 100⟩, ⟨10, 5⟩] s.cpuLimit := by
  refine exists_run_of_any (fun s => decide (0 < asked twoProcessors s.cpuLimit)) (by rfl)
    fun s hrun hasked => ?_
  have hpositive := of_decide_eq_true hasked
  exact (inForce_iff twoProcessors _ "i" 3 (some "2") _ s hrun).mpr (.inl hpositive)

/-- The annotation that a pod was started with is taken away. The fixed limit stays, where a new
governer has the buckets. -/
theorem fixed_after_removal : ¬ ∀ (parseQuantity : String → Option Int64) (buckets : List Bucket)
    (instanceID : String) (sampleCount : Nat) (first : Option String) (actions : List Action)
    (s : Governed), runActions (step parseQuantity) actions
      (govern parseQuantity buckets instanceID sampleCount first) = some s →
        s.governer.inForce.started = chooseLimiter parseQuantity buckets s.cpuLimit := by
  intro hall
  exact nomatch hall twoProcessors [⟨50, 100⟩, ⟨10, 5⟩] "i" 3 (some "2") [.update none] _ rfl

end ResourceGov

end Nxpod
