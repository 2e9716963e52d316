import Nxpod.Library.Map
import Nxpod.Library.Parties
import Nxpod.Library.Transition

/-!
# Probes of a Pathway

A runner probes a pathway: it sends a request with a token and a URL, and somebody is to answer with
this token. A probe is resolved by the first that finds it among the active ones and takes it out:
an answer, a request that failed after all retries, an unexpected status, or the time that a
response may take. Whoever resolves it reports the result. A probe that cannot even make its request
is reported at once.

Whoever has taken a probe out reports it later, when others may look already. So a probe that was
started is at every time in one of these places: a call is starting it, it is active, a call has it
in its hands and is about to report it, or it has been reported.

Calls are known by their places in a list. A call of `Probe` goes on as the goroutine it leaves
behind. Tokens are fresh for every probe.

## Main definitions

* `ProbeResult`: How a probe ends.
* `Report`: What is told to the reporter.
* `Phase`, `Call`: Where a call is.
* `Runner`, `step`: The probes of a pathway, and what calls do.
* `places`: How often a token is in one of the places.
* `Settled`: What is asked of a runner.
* `Books`: Every probe that was started is in one place.
* `Resolved`: A resolved probe is not started any more and not active.

## Theorems

* `moves_of_step`: What a step can be.
* `books_step`: Every probe is in one place.
* `resolved_step`: Who resolved a probe.
* `kept_step`: It is on record for good.
* `settled_run`: Every step of a run.
-/

namespace Nxpod

namespace Cerc

open Transition

/-- How a probe ends. -/
inductive ProbeResult
  | success
  | failure
  | nonStarter
  deriving DecidableEq

/-- What is told to the reporter. -/
structure Report where
  pathway : String
  result : ProbeResult
  message : String
  deriving DecidableEq

/-- A call that resolves a probe or not returns whether it did. -/
inductive Phase
  | starting
  | requesting (attempts : Nat)
  | sleeping
  | failing (reason : String)
  | answering (message : String) (result : ProbeResult)
  | reporting (rep : Report)
  | finishing (rep : Report)
  | returned (ok : Bool)
  | panicked
  deriving DecidableEq

/-- A call that is under way, with the token of the probe it is about. -/
structure Call where
  tkn : String
  phase : Phase
  deriving DecidableEq

/-- The probes that were started, those that are active, what the reporter was told, the results
that waiting callers see, and who took a probe out with which report. -/
structure Runner where
  pathway : String
  retries : Int
  calls : List Call
  started : List String
  active : List String
  finished : List (String × Report)
  results : Map String Report
  resolved : Map String (Nat × Report)

/-- What can happen next: a probe, the steps of a call, a response that runs out of time, or an
    answer by whoever has the token. -/
inductive Action
  | probe (tkn : String)
  | nonStart (i : Nat) (message : String)
  | register (i : Nat)
  | request (i : Nat) (resp : Except String Nat)
  | timeout (i : Nat)
  | answer (tkn message : String) (result : ProbeResult)
  | lock (i : Nat)
  | done (i : Nat)
  | finish (i : Nat)

/-- What follows an attempt to send the request. Without any attempt there is no response to look
at. -/
def attempted (retries : Int) (attempts : Nat) (resp : Except String Nat) : Phase :=
  if attempts ≤ retries then
    match resp with
    | .error err => if attempts + 1 ≤ retries then .requesting (attempts + 1) else .failing err
    | .ok code =>
        if code = 200 then .sleeping
        else .failing ("expected 200 status code, got " ++ toString code)
  else .panicked

namespace Runner

/-- A call has gone on to another phase. -/
def setCall (s : Runner) (i : Nat) (tkn : String) (phase : Phase) : Runner :=
  { s with calls := s.calls.set i ⟨tkn, phase⟩ }

/-- The reporter is told. -/
def probeFinished (s : Runner) (tkn : String) (rep : Report) : Runner :=
  { s with finished := (tkn, rep) :: s.finished }

/-- A probe is looked up and taken out if it is active. -/
def take (s : Runner) (i : Nat) (tkn : String) (rep : Report) : Runner :=
  -- Under the lock; the report comes after it.
  if tkn ∈ s.active then
    { s.setCall i tkn (.reporting rep) with
      active := s.active.erase tkn
      resolved := s.resolved.insert tkn (i, rep) }
  else s.setCall i tkn (.returned false)

/-- One step of the runner. It is `none` for an action that does not fit the phase of the call. -/
def step (s : Runner) : Action → Option Runner
  | .probe tkn =>
      if tkn ∈ s.started then none
      else some { s with
        calls := s.calls ++ [⟨tkn, .starting⟩]
        started := tkn :: s.started }
  | .nonStart i message => match s.calls[i]? with
    | some ⟨tkn, .starting⟩ =>
        some ((s.probeFinished tkn ⟨s.pathway, .nonStarter, message⟩).setCall i tkn
          (.returned false))
    | _ => none
  | .register i => match s.calls[i]? with
    | some ⟨tkn, .starting⟩ =>
        some { s.setCall i tkn (.requesting 0) with active := tkn :: s.active }
    | _ => none
  | .request i resp => match s.calls[i]? with
    | some ⟨tkn, .requesting attempts⟩ =>
        some (s.setCall i tkn (attempted s.retries attempts resp))
    | _ => none
  | .timeout i => match s.calls[i]? with
    | some ⟨tkn, .sleeping⟩ => some (s.setCall i tkn (.failing "response timeout"))
    | _ => none
  | .answer tkn message result =>
      some { s with calls := s.calls ++ [⟨tkn, .answering message result⟩] }
  | .lock i => match s.calls[i]? with
    | some ⟨tkn, .failing reason⟩ => some (s.take i tkn ⟨s.pathway, .failure, reason⟩)
    | some ⟨tkn, .answering message result⟩ => some (s.take i tkn ⟨s.pathway, result, message⟩)
    | _ => none
  | .done i => match s.calls[i]? with
    | some ⟨tkn, .reporting rep⟩ =>
        some { s.setCall i tkn (.finishing rep) with results := s.results.insert tkn rep }
    | _ => none
  | .finish i => match s.calls[i]? with
    | some ⟨tkn, .finishing rep⟩ =>
        some ((s.probeFinished tkn rep).setCall i tkn (.returned true))
    | _ => none

/-- A runner without probes. -/
def start (pathway : String) (retries : Int) : Runner :=
  ⟨pathway, retries, [], [], [], [], ∅, ∅⟩

/-! ## Places -/

/-- The probe that a call is starting, or has taken out and not reported. -/
def hands : Call → List String
  | ⟨tkn, .starting⟩ => [tkn]
  | ⟨tkn, .reporting _⟩ => [tkn]
  | ⟨tkn, .finishing _⟩ => [tkn]
  | _ => []

/-- How often a probe was reported. -/
def reports (s : Runner) (tkn : String) : Nat :=
  (s.finished.map Prod.fst).count tkn

/-- How often a token is in the hands of a call, active, or reported. -/
def places (s : Runner) (tkn : String) : Nat :=
  (s.calls.flatMap hands).count tkn + s.active.count tkn + s.reports tkn

/-- Who took a probe out is on record for good. -/
def Kept (s s' : Runner) : Prop :=
  ∀ tkn r, s.resolved.lookup tkn = some r → s'.resolved.lookup tkn = some r

/-- A probe is reported at most once, and once when it is not active and no call has it in its
hands. What is reported, and what waiting callers see, is from the call that took the probe out, or
nobody takes it out. A call returns whether it was the one. -/
structure Settled (s : Runner) : Prop where
  once : ∀ tkn, s.reports tkn ≤ 1
  all : ∀ tkn ∈ s.started, tkn ∉ s.active → (∀ c ∈ s.calls, tkn ∉ hands c) → s.reports tkn = 1
  first : ∀ tkn rep, (tkn, rep) ∈ s.finished →
    rep.result = .nonStarter ∧ s.resolved.lookup tkn = none ∨
      ∃ i, s.resolved.lookup tkn = some (i, rep)
  seen : ∀ tkn rep, s.results.lookup tkn = some rep → ∃ i, s.resolved.lookup tkn = some (i, rep)
  answered : ∀ (i : Nat) (c : Call) (ok : Bool), s.calls[i]? = some c → c.phase = .returned ok →
    (ok = true ↔ ∃ rep, s.resolved.lookup c.tkn = some (i, rep))

/-! ## Moves -/

/-- A call that has no probe in its hands and has resolved none. -/
def idle : Phase → Bool
  | .requesting _ => true
  | .sleeping => true
  | .failing _ => true
  | .answering _ _ => true
  | .panicked => true
  | _ => false

/-- What a step does, in terms of where a probe is: it is started, goes from one place to the
    next, or stays where it is. -/
inductive Moves (s : Runner) : Runner → Prop
  | probe {tkn : String} (hfresh : tkn ∉ s.started) :
      Moves s { s with
        calls := s.calls ++ [⟨tkn, .starting⟩]
        started := tkn :: s.started }
  | nonStart {i : Nat} {tkn : String} {rep : Report} (hc : s.calls[i]? = some ⟨tkn, .starting⟩)
      (hrep : rep.result = .nonStarter) :
      Moves s ((s.probeFinished tkn rep).setCall i tkn (.returned false))
  | register {i : Nat} {tkn : String} (hc : s.calls[i]? = some ⟨tkn, .starting⟩) :
      Moves s { s.setCall i tkn (.requesting 0) with active := tkn :: s.active }
  | idle {i : Nat} {tkn : String} {phase phase' : Phase} (hc : s.calls[i]? = some ⟨tkn, phase⟩)
      (hphase : idle phase = true) (hphase' : idle phase' = true) :
      Moves s (s.setCall i tkn phase')
  | answer {tkn : String} {phase : Phase} (hphase : idle phase = true) :
      Moves s { s with calls := s.calls ++ [⟨tkn, phase⟩] }
  | take {i : Nat} {tkn : String} {phase : Phase} (rep : Report)
      (hc : s.calls[i]? = some ⟨tkn, phase⟩) (hphase : idle phase = true)
      (hactive : tkn ∈ s.active) :
      Moves s { s.setCall i tkn (.reporting rep) with
        active := s.active.erase tkn
        resolved := s.resolved.insert tkn (i, rep) }
  | miss {i : Nat} {tkn : String} {phase : Phase} (hc : s.calls[i]? = some ⟨tkn, phase⟩)
      (hphase : idle phase = true) (hactive : tkn ∉ s.active) :
      Moves s (s.setCall i tkn (.returned false))
  | done {i : Nat} {tkn : String} {rep : Report} (hc : s.calls[i]? = some ⟨tkn, .reporting rep⟩) :
      Moves s { s.setCall i tkn (.finishing rep) with results := s.results.insert tkn rep }
  | finish {i : Nat} {tkn : String} {rep : Report}
      (hc : s.calls[i]? = some ⟨tkn, .finishing rep⟩) :
      Moves s ((s.probeFinished tkn rep).setCall i tkn (.returned true))

variable {s s' : Runner} {a : Action}

/-- After a request the call goes on without the probe in its hands. -/
theorem idle_attempted (retries : Int) (attempts : Nat) (resp : Except String Nat) :
    idle (attempted retries attempts resp) = true := by
  unfold attempted
  split
  · cases resp with
    | error err =>
        dsimp only
        split <;> rfl
    | ok code =>
        dsimp only
        split <;> rfl
  · rfl

/-- To take a probe out is one of the moves, whoever does it. -/
theorem moves_take {i : Nat} {tkn : String} {phase : Phase} (rep : Report)
    (hc : s.calls[i]? = some ⟨tkn, phase⟩) (hphase : idle phase = true) :
    Moves s (s.take i tkn rep) := by
  unfold take
  split
  · next hactive => exact .take rep hc hphase hactive
  · next hactive => exact .miss hc hphase hactive

/-- The inversion lemma: all of the runner's steps are moves. -/
theorem moves_of_step (h : s.step a = some s') : Moves s s' := by
  -- Each step is one of the moves, with the guard of the branch as its condition.
  cases a with
  | probe tkn =>
      rw [step] at h
      split at h
      · exact nomatch h
      · next hfresh =>
          rw [Option.some.injEq] at h
          exact h ▸ .probe hfresh
  | nonStart i message =>
      rw [step] at h
      split at h
      · next tkn hc =>
          rw [Option.some.injEq] at h
          exact h ▸ .nonStart hc rfl
      · exact nomatch h
  | register i =>
      rw [step] at h
      split at h
      · -- The probe is registered before anything is sent.
        next tkn hc =>
          rw [Option.some.injEq] at h
          exact h ▸ .register hc
      · exact nomatch h
  | request i resp =>
      rw [step] at h
      split at h
      · next tkn attempts hc =>
          rw [Option.some.injEq] at h
          exact h ▸ .idle hc rfl (idle_attempted s.retries attempts resp)
      · exact nomatch h
  | timeout i =>
      rw [step] at h
      split at h
      · next tkn hc =>
          rw [Option.some.injEq] at h
          exact h ▸ .idle hc rfl rfl
      · exact nomatch h
  | answer tkn message result =>
      rw [step, Option.some.injEq] at h
      exact h ▸ .answer rfl
  | lock i =>
      rw [step] at h
      split at h
      · -- Either a reason not to wait for the answer has come up, or the answer itself has come.
        next tkn reason hc =>
          rw [Option.some.injEq] at h
          exact h ▸ moves_take _ hc rfl
      · next tkn message result hc =>
          rw [Option.some.injEq] at h
          exact h ▸ moves_take _ hc rfl
      · exact nomatch h
  | done i =>
      rw [step] at h
      split at h
      · next tkn rep hc =>
          rw [Option.some.injEq] at h
          exact h ▸ .done hc
      · exact nomatch h
  | finish i =>
      rw [step] at h
      split at h
      · next tkn rep hc =>
          rw [Option.some.injEq] at h
          exact h ▸ .finish hc
      · exact nomatch h

/-! ## Books -/

/-- Every probe that was started is in one place. -/
structure Books (s : Runner) : Prop where
  nodup : s.started.Nodup
  places : ∀ tkn, s.places tkn = s.started.count tkn

theorem hands_idle {phase : Phase} (h : idle phase = true) (tkn : String) :
    hands ⟨tkn, phase⟩ = [] := by
  cases phase with
  | requesting attempts => rfl
  | sleeping => rfl
  | failing reason => rfl
  | answering message result => rfl
  | panicked => rfl
  | starting => exact nomatch h
  | reporting rep => exact nomatch h
  | finishing rep => exact nomatch h
  | returned ok => exact nomatch h

/-- A call that goes on changes the places of a probe by what it takes up and puts down. -/
theorem places_setCall {i : Nat} {c : Call} (hc : s.calls[i]? = some c) (tkn : String)
    (phase : Phase) (x : String) :
    (s.setCall i tkn phase).places x + (hands c).count x =
      s.places x + (hands ⟨tkn, phase⟩).count x := by
  have hset := Parties.count_flatMap_set (f := hands) hc ⟨tkn, phase⟩ x
  simp only [places, setCall, reports]
  omega

/-- A call takes another phase with the same hands. -/
theorem places_setCall_eq {i : Nat} {c : Call} (hc : s.calls[i]? = some c) {tkn : String}
    {phase : Phase} (heq : hands ⟨tkn, phase⟩ = hands c) (x : String) :
    (s.setCall i tkn phase).places x = s.places x := by
  have hset := places_setCall hc tkn phase x
  rw [heq] at hset
  exact Nat.add_right_cancel hset

theorem places_cons_calls (s : Runner) (c : Call) (started : List String) (x : String) :
    places { s with calls := s.calls ++ [c], started := started } x =
      s.places x + (hands c).count x := by
  simp only [places, reports, List.flatMap_append, List.flatMap_singleton, List.count_append]
  omega

theorem places_probeFinished (s : Runner) (tkn : String) (rep : Report) (x : String) :
    (s.probeFinished tkn rep).places x = s.places x + [tkn].count x := by
  simp only [places, reports, probeFinished, List.map_cons, List.count_cons, List.count_nil]
  omega

theorem places_register (s : Runner) (tkn x : String) :
    places { s with active := tkn :: s.active } x = s.places x + [tkn].count x := by
  simp only [places, reports, List.count_cons, List.count_nil]
  omega

theorem places_erase {tkn : String} (hactive : tkn ∈ s.active)
    (resolved : Map String (Nat × Report)) (x : String) :
    places { s with active := s.active.erase tkn, resolved := resolved } x + [tkn].count x =
      s.places x := by
  have hperm := (List.perm_cons_erase hactive).count_eq x
  simp only [places, reports, List.count_cons, List.count_nil] at hperm ⊢
  omega

/-- The step lemma: a probe is moved, and is neither lost nor doubled. -/
theorem books_step (hs : Books s) (h : s.step a = some s') : Books s' := by
  cases moves_of_step h with
  | @probe tkn hfresh =>
      refine ⟨List.nodup_cons.mpr ⟨hfresh, hs.nodup⟩, fun x => ?_⟩
      rw [places_cons_calls, hs.places x, List.count_cons, hands, List.count_cons, List.count_nil,
        Nat.zero_add]
  | @nonStart i tkn rep hc _ =>
      refine ⟨hs.nodup, fun x => ?_⟩
      have hset := places_setCall (s := s.probeFinished tkn rep) hc tkn (.returned false) x
      rw [places_probeFinished, hs.places x] at hset
      exact Nat.add_right_cancel hset
  | @register i tkn hc =>
      refine ⟨hs.nodup, fun x => ?_⟩
      have hset := places_setCall hc tkn (.requesting 0) x
      have hplaces := places_register (s.setCall i tkn (.requesting 0)) tkn x
      rw [hs.places x] at hset
      exact hplaces.trans hset
  | @idle i tkn phase phase' hc hphase hphase' =>
      refine ⟨hs.nodup, fun x => ?_⟩
      rw [places_setCall_eq hc ((hands_idle hphase' tkn).trans (hands_idle hphase tkn).symm)]
      exact hs.places x
  | @answer tkn phase hphase =>
      refine ⟨hs.nodup, fun x => ?_⟩
      have hplaces := places_cons_calls s ⟨tkn, phase⟩ s.started x
      rw [hands_idle hphase, hs.places x] at hplaces
      exact hplaces
  | @take i tkn phase rep hc hphase hactive =>
      -- The token goes from the active ones to the hands of the call.
      refine ⟨hs.nodup, fun x => ?_⟩
      have hset := places_setCall hc tkn (.reporting rep) x
      have herase := places_erase (s := s.setCall i tkn (.reporting rep)) hactive
        (s.resolved.insert tkn (i, rep)) x
      rw [hands_idle hphase, hs.places x] at hset
      exact Nat.add_right_cancel (herase.trans hset)
  | @miss i tkn phase hc hphase _ =>
      have heq : hands ⟨tkn, .returned false⟩ = hands ⟨tkn, phase⟩ := (hands_idle hphase tkn).symm
      exact ⟨hs.nodup, fun x => (places_setCall_eq hc heq x).trans (hs.places x)⟩
  | @done i tkn rep hc =>
      have heq : hands ⟨tkn, .finishing rep⟩ = hands ⟨tkn, .reporting rep⟩ := rfl
      exact ⟨hs.nodup, fun x => (places_setCall_eq hc heq x).trans (hs.places x)⟩
  | @finish i tkn rep hc =>
      -- From the hands of the call to the reports.
      refine ⟨hs.nodup, fun x => ?_⟩
      have hset := places_setCall (s := s.probeFinished tkn rep) hc tkn (.returned true) x
      rw [places_probeFinished, hs.places x] at hset
      exact Nat.add_right_cancel hset

theorem places_le_one (hs : Books s) (x : String) : s.places x ≤ 1 := by
  rw [hs.places x]
  exact List.nodup_iff_count_le_one.mp hs.nodup x

/-- An active probe is nowhere else. -/
theorem alone_of_active (hs : Books s) {tkn : String} (hactive : tkn ∈ s.active) :
    tkn ∈ s.started ∧ tkn ∉ s.active.erase tkn ∧ (∀ c ∈ s.calls, tkn ∉ hands c) ∧
      s.reports tkn = 0 := by
  have hle := places_le_one hs tkn
  have hplaces := hs.places tkn
  have hpos := List.count_pos_iff.mpr hactive
  rw [places] at hle hplaces
  refine ⟨List.count_pos_iff.mp (by omega), List.count_eq_zero.mp ?_, fun c hc hin => ?_, by omega⟩
  · rw [List.count_erase_self]
    omega
  · have hcalls := List.count_pos_iff.mpr (List.mem_flatMap.mpr ⟨c, hc, hin⟩)
    omega

/-- A probe that is neither active nor in anybody's hands was reported. -/
theorem reports_of_started (hs : Books s) {tkn : String} (hstarted : tkn ∈ s.started)
    (hactive : tkn ∉ s.active) (hhands : ∀ c ∈ s.calls, tkn ∉ hands c) : s.reports tkn = 1 := by
  have hle := places_le_one hs tkn
  have hpos := hs.places tkn ▸ List.count_pos_iff.mpr hstarted
  have hcalls : tkn ∉ s.calls.flatMap hands := fun hmem => by
    rcases List.mem_flatMap.mp hmem with ⟨c, hc, hin⟩
    exact hhands c hc hin
  rw [places, List.count_eq_zero.mpr hcalls, List.count_eq_zero.mpr hactive] at hle hpos
  omega

/-! ## Who resolved a probe -/

/-- What the record says of a call. -/
def Fits (s : Runner) (i : Nat) (c : Call) : Prop :=
  match c.phase with
  | .reporting rep => s.resolved.lookup c.tkn = some (i, rep)
  | .finishing rep => s.resolved.lookup c.tkn = some (i, rep)
  | .returned true => ∃ rep, s.resolved.lookup c.tkn = some (i, rep)
  | _ => ∀ rep, s.resolved.lookup c.tkn ≠ some (i, rep)

/-- A resolved probe is not started any more and not active. Calls, reports and what waiting callers
see are as the record says. -/
structure Resolved (s : Runner) : Prop where
  gone : ∀ tkn r, s.resolved.lookup tkn = some r →
    tkn ∈ s.started ∧ tkn ∉ s.active ∧ ⟨tkn, .starting⟩ ∉ s.calls ∧ r.1 < s.calls.length
  fits : ∀ (i : Nat) (c : Call), s.calls[i]? = some c → s.Fits i c
  finished : ∀ tkn rep, (tkn, rep) ∈ s.finished →
    rep.result = .nonStarter ∧ s.resolved.lookup tkn = none ∨
      ∃ i, s.resolved.lookup tkn = some (i, rep)
  results : ∀ tkn rep, s.results.lookup tkn = some rep →
    ∃ i, s.resolved.lookup tkn = some (i, rep)

theorem fits_idle {phase : Phase} (h : idle phase = true) (i : Nat) (tkn : String) :
    s.Fits i ⟨tkn, phase⟩ = ∀ rep, s.resolved.lookup tkn ≠ some (i, rep) := by
  cases phase with
  | requesting attempts => rfl
  | sleeping => rfl
  | failing reason => rfl
  | answering message result => rfl
  | panicked => rfl
  | starting => exact nomatch h
  | reporting rep => exact nomatch h
  | finishing rep => exact nomatch h
  | returned ok => exact nomatch h

/-- A probe that nobody had taken out is taken out by another call. -/
theorem fits_take {i j : Nat} {c : Call} {tkn : String} {rep : Report} (h : s.Fits j c)
    (hne : j ≠ i) (hnone : s.resolved.lookup tkn = none) :
    Fits { s with resolved := s.resolved.insert tkn (i, rep) } j c := by
  by_cases heq : c.tkn = tkn
  · -- The token is taken out by the other call, so this one cannot have done it.
    have hother : ∀ rep', (s.resolved.insert tkn (i, rep)).lookup tkn ≠ some (j, rep') := by
      intro rep' hlookup
      rw [AList.lookup_insert, Option.some.injEq, Prod.mk.injEq] at hlookup
      exact hne hlookup.1.symm
    rcases c with ⟨x, phase⟩
    cases heq
    cases phase with
    | starting => exact hother
    | requesting attempts => exact hother
    | sleeping => exact hother
    | failing reason => exact hother
    | answering message result => exact hother
    | reporting rep' => exact nomatch h.symm.trans hnone
    | finishing rep' => exact nomatch h.symm.trans hnone
    | returned ok =>
        cases ok with
        | false => exact hother
        | true =>
            rcases h with ⟨rep', hlookup⟩
            exact nomatch hlookup.symm.trans hnone
    | panicked => exact hother
  · have hlookup := Map.lookup_insert_eq_ite s.resolved tkn c.tkn (i, rep)
    rw [if_neg heq] at hlookup
    unfold Fits
    rw [hlookup]
    exact h

theorem lookup_of_active (hs : Resolved s) {tkn : String} (h : tkn ∈ s.active) :
    s.resolved.lookup tkn = none :=
  Option.eq_none_iff_forall_ne_some.mpr fun r hr => (hs.gone tkn r hr).2.1 h

theorem lookup_of_starting (hs : Resolved s) {i : Nat} {tkn : String}
    (h : s.calls[i]? = some ⟨tkn, .starting⟩) : s.resolved.lookup tkn = none :=
  Option.eq_none_iff_forall_ne_some.mpr fun r hr =>
    (hs.gone tkn r hr).2.2.1 (List.mem_of_getElem? h)

/-- Nothing is recorded of a call that is yet to come. -/
theorem lookup_ne_length (hs : Resolved s) (tkn : String) (rep : Report) :
    s.resolved.lookup tkn ≠ some (s.calls.length, rep) := by
  intro h
  exact absurd (hs.gone tkn _ h).2.2.2 (Nat.lt_irrefl _)

/-- A call that goes on keeps the invariant, if it fits the books. -/
theorem resolved_setCall (hs : Resolved s) {i : Nat} {c : Call} (hc : s.calls[i]? = some c)
    {tkn : String} {phase : Phase} (hphase : phase ≠ .starting) (hfits : s.Fits i ⟨tkn, phase⟩) :
    Resolved (s.setCall i tkn phase) where
  gone x r hx := by
    rcases hs.gone x r hx with ⟨hstarted, hactive, hcalls, hlt⟩
    refine ⟨hstarted, hactive, fun hmem => ?_, ?_⟩
    · rcases List.mem_or_eq_of_mem_set hmem with hold | heq
      · exact hcalls hold
      · exact hphase (congrArg Call.phase heq).symm
    · rw [setCall, List.length_set]
      exact hlt
  fits j c' hj := by
    rw [setCall, Parties.getElem?_set_eq_ite hc] at hj
    split at hj
    · next heq =>
        rw [heq, ← Option.some.inj hj]
        exact hfits
    · exact hs.fits j c' hj
  finished := hs.finished
  results := hs.results

theorem resolved_append (hs : Resolved s) {c : Call} {started : List String}
    (hstarted : ∀ x ∈ s.started, x ∈ started ∧ c ≠ ⟨x, .starting⟩)
    (hfits : s.Fits s.calls.length c) :
    Resolved { s with calls := s.calls ++ [c], started := started } where
  gone x r hx := by
    rcases hs.gone x r hx with ⟨hin, hactive, hcalls, hlt⟩
    refine ⟨(hstarted x hin).1, hactive, fun hmem => ?_, ?_⟩
    · rcases List.mem_append.mp hmem with hold | hnew
      · exact hcalls hold
      · exact (hstarted x hin).2 (List.mem_singleton.mp hnew).symm
    · rw [List.length_append]
      exact Nat.lt_add_right _ hlt
  fits j c' hj := by
    rcases Nat.lt_trichotomy j s.calls.length with hlt | heq | hgt
    · rw [List.getElem?_append_left hlt] at hj
      exact hs.fits j c' hj
    · rw [heq, List.getElem?_concat_length, Option.some.injEq] at hj
      exact heq ▸ hj ▸ hfits
    · rw [List.getElem?_eq_none (by rw [List.length_append]; exact hgt)] at hj
      exact nomatch hj
  finished := hs.finished
  results := hs.results

/-- A report keeps the invariant, if it is of a probe that was resolved so or never began. -/
theorem resolved_probeFinished (hs : Resolved s) {tkn : String} {rep : Report}
    (h : rep.result = .nonStarter ∧ s.resolved.lookup tkn = none ∨
      ∃ i, s.resolved.lookup tkn = some (i, rep)) : Resolved (s.probeFinished tkn rep) where
  gone := hs.gone
  fits := hs.fits
  finished x rep' hin := by
    rcases List.mem_cons.mp hin with heq | hold
    · rcases Prod.mk.inj heq with ⟨rfl, rfl⟩
      exact h
    · exact hs.finished x rep' hold
  results := hs.results

theorem resolved_register (hs : Resolved s) {tkn : String} (h : s.resolved.lookup tkn = none) :
    Resolved { s with active := tkn :: s.active } where
  gone x r hx := by
    rcases hs.gone x r hx with ⟨hstarted, hactive, hcalls⟩
    refine ⟨hstarted, fun hmem => ?_, hcalls⟩
    rcases List.mem_cons.mp hmem with heq | hold
    · exact nomatch (heq ▸ hx).symm.trans h
    · exact hactive hold
  fits := hs.fits
  finished := hs.finished
  results := hs.results

/-- A report of what was resolved keeps the invariant. -/
theorem resolved_done (hs : Resolved s) {i : Nat} {tkn : String} {rep : Report}
    (h : s.resolved.lookup tkn = some (i, rep)) :
    Resolved { s with results := s.results.insert tkn rep } where
  gone := hs.gone
  fits := hs.fits
  finished := hs.finished
  results x rep' hx := by
    rw [Map.lookup_insert_eq_ite] at hx
    split at hx
    · next heq =>
        rw [heq, ← Option.some.inj hx]
        exact ⟨i, h⟩
    · exact hs.results x rep' hx

/-- Resolving a probe keeps the invariant, since nobody resolved it before. -/
theorem resolved_take (hs : Resolved s) (hbooks : Books s) {i : Nat} {tkn : String} {phase : Phase}
    (rep : Report) (hc : s.calls[i]? = some ⟨tkn, phase⟩) (hactive : tkn ∈ s.active) :
    Resolved { s.setCall i tkn (.reporting rep) with
      active := s.active.erase tkn
      resolved := s.resolved.insert tkn (i, rep) } := by
  -- A token in the list was started once and reported by nobody yet.
  rcases alone_of_active hbooks hactive with ⟨hstarted, herase, hhands, hreports⟩
  have hnone := lookup_of_active hs hactive
  refine ⟨fun x r hx => ?_, fun j c hj => ?_, fun x rep' hin => ?_, fun x rep' hx => ?_⟩
  · rw [Map.lookup_insert_eq_ite] at hx
    split at hx
    · next heq =>
        rw [heq, ← Option.some.inj hx]
        refine ⟨hstarted, herase, fun hmem => ?_, ?_⟩
        · rcases List.mem_or_eq_of_mem_set hmem with hold | hnew
          · exact hhands _ hold (List.mem_singleton.mpr rfl)
          · exact nomatch congrArg Call.phase hnew
        · rw [setCall, List.length_set]
          exact (List.getElem?_eq_some_iff.mp hc).choose
    · rcases hs.gone x r hx with ⟨hin, hnot, hcalls, hlt⟩
      refine ⟨hin, fun hmem => hnot (List.mem_of_mem_erase hmem), fun hmem => ?_, ?_⟩
      · rcases List.mem_or_eq_of_mem_set hmem with hold | hnew
        · exact hcalls hold
        · exact nomatch congrArg Call.phase hnew
      · rw [setCall, List.length_set]
        exact hlt
  · rw [setCall, Parties.getElem?_set_eq_ite hc] at hj
    split at hj
    · next heq =>
        rw [heq, ← Option.some.inj hj]
        exact AList.lookup_insert _
    · next hne => exact fits_take (hs.fits j c hj) hne hnone
  · -- A probe with a report is not active any more.
    have hne : x ≠ tkn := by
      rintro rfl
      exact List.count_eq_zero.mp hreports (List.mem_map_of_mem hin)
    rw [Map.lookup_insert_eq_ite, if_neg hne]
    exact hs.finished x rep' hin
  · rcases hs.results x rep' hx with ⟨j, hj⟩
    have hne : x ≠ tkn := by
      rintro rfl
      exact nomatch hj.symm.trans hnone
    rw [Map.lookup_insert_eq_ite, if_neg hne]
    exact ⟨j, hj⟩

/-- The step lemma of the second invariant, one case for each kind of move. -/
theorem resolved_step (hs : Resolved s) (hbooks : Books s) (h : s.step a = some s') :
    Resolved s' := by
  -- A case for each move. Only `take` adds to what was resolved.
  cases moves_of_step h with
  | @probe tkn hfresh =>
      refine resolved_append hs (fun x hx => ⟨List.mem_cons_of_mem _ hx, ?_⟩)
        (lookup_ne_length hs tkn)
      rintro ⟨⟩
      exact hfresh hx
  | @nonStart i tkn rep hc hrep =>
      have hnone := lookup_of_starting hs hc
      have hfinished := resolved_probeFinished hs (.inl ⟨hrep, hnone⟩)
      exact resolved_setCall hfinished hc (by exact nofun)
        fun rep' hlookup => nomatch hlookup.symm.trans hnone
  | @register i tkn hc =>
      have hnone := lookup_of_starting hs hc
      have hset : Resolved (s.setCall i tkn (.requesting 0)) := by
        exact resolved_setCall hs hc nofun fun rep hlookup => nomatch hlookup.symm.trans hnone
      exact resolved_register hset hnone
  | @idle i tkn phase phase' hc hphase hphase' =>
      have hfits := hs.fits i _ hc
      rw [fits_idle hphase] at hfits
      refine resolved_setCall hs hc (fun heq => ?_) ?_
      · rw [heq] at hphase'
        exact nomatch hphase'
      · rw [fits_idle hphase']
        exact hfits
  | @answer tkn phase hphase =>
      refine resolved_append hs (fun x hx => ⟨hx, ?_⟩) ?_
      · rintro ⟨⟩
        exact nomatch hphase
      · rw [fits_idle hphase]
        exact lookup_ne_length hs tkn
  | @take i tkn phase rep hc hphase hactive => exact resolved_take hs hbooks rep hc hactive
  | @miss i tkn phase hc hphase _ =>
      have hfits := hs.fits i _ hc
      rw [fits_idle hphase] at hfits
      exact resolved_setCall hs hc (by exact nofun) hfits
  | @done i tkn rep hc =>
      have hlookup : s.resolved.lookup tkn = some (i, rep) := hs.fits i _ hc
      have hset : Resolved (s.setCall i tkn (.finishing rep)) := by
        exact resolved_setCall hs hc nofun hlookup
      exact resolved_done hset hlookup
  | @finish i tkn rep hc =>
      have hlookup : s.resolved.lookup tkn = some (i, rep) := hs.fits i _ hc
      have hfinished := resolved_probeFinished hs (.inr ⟨i, hlookup⟩)
      exact resolved_setCall hfinished hc (by exact nofun) ⟨rep, hlookup⟩

/-- What is on record stays there, since only an active probe is resolved. -/
theorem kept_step (hs : Resolved s) (h : s.step a = some s') : Kept s s' := by
  intro x r hx
  cases moves_of_step h with
  | @take i tkn phase rep hc hphase hactive =>
      have hne : x ≠ tkn := by
        rintro rfl
        exact nomatch hx.symm.trans (lookup_of_active hs hactive)
      exact (AList.lookup_insert_ne hne).trans hx
  | probe hfresh => exact hx
  | nonStart hc hrep => exact hx
  | register hc => exact hx
  | idle hc hphase hphase' => exact hx
  | answer hphase => exact hx
  | miss hc hphase hactive => exact hx
  | done hc => exact hx
  | finish hc => exact hx

/-! ## Runs -/

/-- What the two invariants together say of every probe. -/
theorem settled_of_resolved (hs : Resolved s) (hbooks : Books s) : Settled s where
  once x := by
    have hle := places_le_one hbooks x
    rw [places] at hle
    omega
  all x hstarted hactive hhands := reports_of_started hbooks hstarted hactive hhands
  first := hs.finished
  seen := hs.results
  answered i c ok hc hphase := by
    have hfits := hs.fits i c hc
    rcases c with ⟨tkn, phase⟩
    cases hphase
    cases ok with
    | false => exact iff_of_false (by exact nofun) fun ⟨rep, hrep⟩ => hfits rep hrep
    | true => exact iff_of_true rfl hfits

theorem books_start (pathway : String) (retries : Int) : Books (start pathway retries) :=
  ⟨List.nodup_nil, fun _ => rfl⟩

theorem resolved_start (pathway : String) (retries : Int) : Resolved (start pathway retries) where
  gone := by exact nofun
  fits := by exact nofun
  finished := by exact nofun
  results := by exact nofun

/-- In every run, every probe is reported at most once, and once when nobody has it any more,
    and the first to take it out decides. Answers, failed requests and time-outs race for a
    probe, and the map of active probes, under its lock, is where the race is decided. -/
theorem settled_run (pathway : String) (retries : Int) (as : List Action) :
    StepsAlong step (fun s _ s' => Kept s s' ∧ Settled s') as (start pathway retries) := by
  have hstep : ∀ s a s', Books s ∧ Resolved s → s.step a = some s' →
      (Books s' ∧ Resolved s') ∧ Kept s s' ∧ Settled s' := by
    rintro s a s' ⟨hbooks, hs⟩ h
    have hbooks' := books_step hbooks h
    have hs' := resolved_step hs hbooks h
    exact ⟨⟨hbooks', hs'⟩, kept_step hs h, settled_of_resolved hs' hbooks'⟩
  exact stepsAlong_of_invariant hstep as _
    ⟨books_start pathway retries, resolved_start pathway retries⟩

/-- A probe that was answered is not active any more, and not reported before the answer goes on. -/
theorem resolved_before_reported : ∃ s, runActions step [.probe "tkn", .register 0,
    .request 0 (.ok 200), .answer "tkn" "" .success, .lock 1] (start "pathway" 3) = some s ∧
      s.active = [] ∧ s.started = ["tkn"] ∧ s.reports "tkn" = 0 :=
  ⟨_, rfl, rfl, rfl, rfl⟩

end Runner

end Cerc

end Nxpod
