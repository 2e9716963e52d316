import Mathlib.Data.List.Basic
import Nxpod.Library.Word

/-!
# Options

The options of the service name the pathways, and leave out what has a default. Before anything
starts, the defaults are filled in, one pathway after the other. Each is looked at in a copy of
it, as it was before.

A response may take half of the time between two probes if nothing else is said. The half is taken
of the copy's period. Where a pathway has no period of its own, that is half of nothing, and the
probe is over as soon as its request has been answered.

## Main definitions

* `Timeouts`: How long a request may take, and how long the answer after it.
* `Pathway`, `Options`: The configuration.
* `fillInDefaults`, `start`, `run`: The source's functions.
* `NonNegative`: No duration of the options is negative.
* `OptionsKept`: What was said in the options stays as it was said.
* `Fills`: What the defaults are to be.

## Theorems

* `fillInDefaults_fillInDefaults`: Filling in once more.
* `validate_fillInDefaults`: The defaults change nothing about the validity.
* `run_fillInDefaults`: All runners get their ticker.
* `fills_iff`: When the defaults are as they should be.
-/

namespace Nxpod

namespace Cerc

namespace Configuration

/-! ## The options -/

/-- Nanoseconds. -/
abbrev Duration := Int64

/-- A second in nanoseconds. -/
def second : Duration := 1000000000

/-- The user and the password for the service itself. -/
structure BasicAuth where
  username : String
  password : String
deriving DecidableEq

/-- How long a request may take, and how long the answer after it. -/
structure Timeouts where
  request : Duration
  response : Duration
deriving DecidableEq

/-- A pathway that is to be probed. -/
structure Pathway where
  name : String
  endpoint : String
  method : String
  authentication : Option BasicAuth
  payload : String
  timeouts : Timeouts
  period : Duration
  triggerOnly : Bool
  responseURLTemplate : String
deriving DecidableEq

/-- The files for serving with TLS. -/
structure Https where
  cert : String
  key : String
deriving DecidableEq

/-- The options of the service. -/
@[ext] structure Options where
  https : Https
  pathways : List Pathway
  address : String
  defaultPeriod : Duration
  auth : Option BasicAuth
  responseURLTemplate : String
  firstRunDelay : Duration
  retries : Int64
  retryDelay : Duration
deriving DecidableEq

/-- The template for the URL that the answer is sent to. -/
def defaultResponseURLTemplate : String :=
  "\x7b\x7b .Scheme \x7d\x7d://\x7b\x7b .Address \x7d\x7d/callback/\x7b\x7b .Name \x7d\x7d"

/-- One round of the loop over the pathways. -/
def fillPathway (defaultPeriod : Duration) (pth : Pathway) : Pathway :=
  { pth with
    period := if pth.period = 0 then defaultPeriod else pth.period
    timeouts := {
      request := if pth.timeouts.request = 0 then 5 * second else pth.timeouts.request
      -- the copy's period, which is not filled in
      response :=
        if pth.timeouts.response = 0 then pth.period / 2 else pth.timeouts.response } }

/-- The options with their defaults. Every pathway is filled with the default period that was
    found before. -/
def fillInDefaults (c : Options) : Options :=
  let defaultPeriod := if c.defaultPeriod = 0 then 30 * second else c.defaultPeriod
  { c with
    responseURLTemplate :=
      if c.responseURLTemplate = "" then defaultResponseURLTemplate else c.responseURLTemplate
    defaultPeriod := defaultPeriod
    pathways := c.pathways.map (fillPathway defaultPeriod)
    retryDelay := if c.retryDelay = 0 then 10 * second else c.retryDelay }

/-- The methods a pathway may be probed with. -/
def validMethods : List String :=
  ["GET", "HEAD", "POST", "PUT", "PATCH", "DELETE", "CONNECT", "OPTIONS", "TRACE"]

section Start

variable (parse : String → Option String)

/-- What `url.Parse` says about a text is an error, if there is one. -/
def Pathway.validate (p : Pathway) : Except String Unit :=
  if p.name = "" then .error "Name is missing"
  else if p.endpoint = "" then .error "Endpoint is missing"
  else match parse p.endpoint with
    | some err => .error s!"Endpoint is invalid: {err}"
    | none =>
        if p.method ∈ validMethods then .ok ()
        else .error s!"Method \"{p.method}\" is invalid"

/-- The first pathway that is invalid is reported, under its name. -/
def validatePathways : List Pathway → Except String Unit
  | [] => .ok ()
  | pth :: pths => match pth.validate parse with
    | .error err => .error s!"pathway {pth.name} invalid: {err}"
    | .ok () => validatePathways pths

/-- The pathways are looked at before the address. -/
def Options.validate (c : Options) : Except String Unit :=
  match validatePathways parse c.pathways with
  | .error err => .error err
  | .ok () => if c.address = "" then .error "Address is missing" else .ok ()

/-- The configuration that the service starts with. -/
def start (cfg : Options) : Except String Options :=
  match (fillInDefaults cfg).validate parse with
  | .error err => .error err
  | .ok () => .ok (fillInDefaults cfg)

end Start

/-- `time.NewTicker`, which panics without time between two ticks. -/
def newTicker (d : Duration) : Except String Duration :=
  if d ≤ 0 then .error "non-positive interval for NewTicker" else .ok d

/-- The tickers of the runners that are not only triggered. -/
def run (c : Options) : List (Except String Duration) :=
  (c.pathways.filter fun pth => !pth.triggerOnly).map fun pth => newTicker pth.period

/-! ## What the defaults are to be -/

/-- No duration of the options is negative. -/
structure NonNegative (c : Options) : Prop where
  defaultPeriod : 0 ≤ c.defaultPeriod.toInt
  firstRunDelay : 0 ≤ c.firstRunDelay.toInt
  retryDelay : 0 ≤ c.retryDelay.toInt
  period : ∀ pth ∈ c.pathways, 0 ≤ pth.period.toInt
  request : ∀ pth ∈ c.pathways, 0 ≤ pth.timeouts.request.toInt
  response : ∀ pth ∈ c.pathways, 0 ≤ pth.timeouts.response.toInt

/-- The time between two probes where the pathway does not say. -/
def Options.effectiveDefault (c : Options) : Duration :=
  if c.defaultPeriod = 0 then 30 * second else c.defaultPeriod

/-- The time between two probes of a pathway. -/
def effectivePeriod (c : Options) (pth : Pathway) : Duration :=
  if pth.period = 0 then c.effectiveDefault else pth.period

/-- What was set before is the same now, and so is what has no default. -/
structure PathwayKept (before after : Pathway) : Prop where
  name : after.name = before.name
  endpoint : after.endpoint = before.endpoint
  method : after.method = before.method
  authentication : after.authentication = before.authentication
  payload : after.payload = before.payload
  triggerOnly : after.triggerOnly = before.triggerOnly
  responseURLTemplate : after.responseURLTemplate = before.responseURLTemplate
  period : before.period ≠ 0 → after.period = before.period
  request : before.timeouts.request ≠ 0 → after.timeouts.request = before.timeouts.request
  response : before.timeouts.response ≠ 0 → after.timeouts.response = before.timeouts.response

/-- What was said in the options stays as it was said. -/
structure OptionsKept (before after : Options) : Prop where
  https : after.https = before.https
  address : after.address = before.address
  auth : after.auth = before.auth
  firstRunDelay : after.firstRunDelay = before.firstRunDelay
  retries : after.retries = before.retries
  defaultPeriod : before.defaultPeriod ≠ 0 → after.defaultPeriod = before.defaultPeriod
  responseURLTemplate : before.responseURLTemplate ≠ "" →
    after.responseURLTemplate = before.responseURLTemplate
  retryDelay : before.retryDelay ≠ 0 → after.retryDelay = before.retryDelay
  pathways : List.Forall₂ PathwayKept before.pathways after.pathways

/-- A response timeout that was not set is half of the time between two probes. -/
def HalfOfPeriod (c : Options) (before after : Pathway) : Prop :=
  before.timeouts.response = 0 →
    after.timeouts.response.toInt = (effectivePeriod c before).toInt / 2

/-- What filling in the defaults is to do: everything has a value, the response has half of the
    time between two probes, what was said is kept, and doing it again changes nothing. -/
structure Fills (c : Options) : Prop where
  period : ∀ pth ∈ (fillInDefaults c).pathways, pth.period ≠ 0
  request : ∀ pth ∈ (fillInDefaults c).pathways, pth.timeouts.request ≠ 0
  response : List.Forall₂ (HalfOfPeriod c) c.pathways (fillInDefaults c).pathways
  kept : OptionsKept c (fillInDefaults c)
  again : fillInDefaults (fillInDefaults c) = fillInDefaults c

/-! ## Filling in -/

section Filling

variable {c : Options} {pth : Pathway}

theorem fillInDefaults_defaultPeriod (c : Options) :
    (fillInDefaults c).defaultPeriod = c.effectiveDefault := rfl

theorem fillInDefaults_pathways (c : Options) :
    (fillInDefaults c).pathways = c.pathways.map (fillPathway c.effectiveDefault) := rfl

theorem effectiveDefault_ne_zero (c : Options) : c.effectiveDefault ≠ 0 := by
  unfold Options.effectiveDefault
  split_ifs with h
  · decide
  · exact h

theorem effectiveDefault_fillInDefaults (c : Options) :
    (fillInDefaults c).effectiveDefault = c.effectiveDefault := by
  rw [Options.effectiveDefault, fillInDefaults_defaultPeriod, if_neg (effectiveDefault_ne_zero c)]

/-- Half of a duration, rounded down. -/
theorem toInt_half {d : Duration} (h : 0 ≤ d.toInt) : (d / 2).toInt = d.toInt / 2 := by
  rw [Int64.toInt_div_of_ne_right d 2 (by decide)]
  exact Int.tdiv_eq_ediv_of_nonneg h

theorem fillPathway_period_ne_zero {d : Duration} (hd : d ≠ 0) :
    (fillPathway d pth).period ≠ 0 := by
  unfold fillPathway
  dsimp only
  split_ifs with h
  · exact hd
  · exact h

theorem fillPathway_request_ne_zero (d : Duration) (pth : Pathway) :
    (fillPathway d pth).timeouts.request ≠ 0 := by
  unfold fillPathway
  dsimp only
  split_ifs with h
  · decide
  · exact h

theorem kept_fillPathway (d : Duration) (pth : Pathway) : PathwayKept pth (fillPathway d pth) where
  name := rfl
  endpoint := rfl
  method := rfl
  authentication := rfl
  payload := rfl
  triggerOnly := rfl
  responseURLTemplate := rfl
  period h := if_neg h
  request h := if_neg h
  response h := if_neg h

theorem kept_fillInDefaults (c : Options) : OptionsKept c (fillInDefaults c) where
  https := rfl
  address := rfl
  auth := rfl
  firstRunDelay := rfl
  retries := rfl
  defaultPeriod h := if_neg h
  responseURLTemplate h := if_neg h
  retryDelay h := if_neg h
  pathways := by
    rw [fillInDefaults_pathways, List.forall₂_map_right_iff, List.forall₂_same]
    exact fun pth _ => kept_fillPathway _ pth

/-- The response timeout of a pathway does not depend on what else is filled in. -/
def Steady (d : Duration) (pth : Pathway) : Prop :=
  pth.timeouts.response ≠ 0 ∨ pth.period ≠ 0 ∨ d = 1

/-- A pathway that has everything already. -/
theorem fillPathway_eq_self (d : Duration) (hperiod : pth.period ≠ 0)
    (hrequest : pth.timeouts.request ≠ 0)
    (hresponse : pth.timeouts.response = 0 → pth.period / 2 = 0) : fillPathway d pth = pth := by
  have hhalf : (if pth.timeouts.response = 0 then pth.period / 2 else pth.timeouts.response) =
      pth.timeouts.response := by
    split_ifs with h
    · rw [h, hresponse h]
    · rfl
  unfold fillPathway
  rw [if_neg hperiod, if_neg hrequest, hhalf]

/-- Filling in a steady pathway again changes nothing. -/
theorem fillPathway_fillPathway {d : Duration} (hd : d ≠ 0) (h : Steady d pth) :
    fillPathway d (fillPathway d pth) = fillPathway d pth := by
  refine fillPathway_eq_self d (fillPathway_period_ne_zero hd) (fillPathway_request_ne_zero d pth)
    fun hzero => ?_
  unfold fillPathway at hzero ⊢
  dsimp only at hzero ⊢
  by_cases hresponse : pth.timeouts.response = 0
  · rw [if_pos hresponse] at hzero
    by_cases hperiod : pth.period = 0
    · rcases h with h | h | rfl
      · exact absurd hresponse h
      · exact absurd hperiod h
      · rw [if_pos hperiod]
        decide
    · rw [if_neg hperiod]
      exact hzero
  · rw [if_neg hresponse] at hzero
    exact absurd hzero hresponse

theorem fillInDefaults_fillInDefaults (h : ∀ pth ∈ c.pathways, Steady c.effectiveDefault pth) :
    fillInDefaults (fillInDefaults c) = fillInDefaults c := by
  have hpathways : (fillInDefaults (fillInDefaults c)).pathways = (fillInDefaults c).pathways := by
    rw [fillInDefaults_pathways, effectiveDefault_fillInDefaults, fillInDefaults_pathways,
      List.map_map]
    exact List.map_congr_left fun pth hpth =>
      fillPathway_fillPathway (effectiveDefault_ne_zero c) (h pth hpth)
  have hperiod : (fillInDefaults (fillInDefaults c)).defaultPeriod =
      (fillInDefaults c).defaultPeriod := by
    rw [fillInDefaults_defaultPeriod, fillInDefaults_defaultPeriod, effectiveDefault_fillInDefaults]
  have htemplate : (fillInDefaults c).responseURLTemplate ≠ "" := by
    unfold fillInDefaults
    dsimp only
    split_ifs with hunset
    · decide
    · exact hunset
  have hdelay : (fillInDefaults c).retryDelay ≠ 0 := by
    unfold fillInDefaults
    dsimp only
    split_ifs with hunset
    · decide
    · exact hunset
  exact Options.ext rfl hpathways rfl hperiod rfl (if_neg htemplate) rfl rfl (if_neg hdelay)

/-- A response timeout is as it should be exactly if it does not depend on the default. -/
theorem halfOfPeriod_iff (hdefault : 0 ≤ c.effectiveDefault.toInt)
    (hperiod : 0 ≤ pth.period.toInt) :
    HalfOfPeriod c pth (fillPathway c.effectiveDefault pth) ↔ Steady c.effectiveDefault pth := by
  unfold HalfOfPeriod Steady fillPathway effectivePeriod
  dsimp only
  by_cases hresponse : pth.timeouts.response = 0
  · rw [if_pos hresponse]
    by_cases hunset : pth.period = 0
    · -- half of nothing, where half of the default should be
      rw [if_pos hunset, hunset]
      have hzero : (0 / 2 : Duration).toInt = 0 := by decide
      rw [hzero]
      constructor
      · intro h
        refine Or.inr (Or.inr (Int64.toInt_inj.mp ?_))
        have hne : c.effectiveDefault.toInt ≠ 0 := fun h =>
          effectiveDefault_ne_zero c (Int64.toInt_inj.mp h)
        have hhalf := h hresponse
        show c.effectiveDefault.toInt = 1
        omega
      · rintro (h | h | h) -
        · exact absurd hresponse h
        · exact absurd rfl h
        · rw [h]
          decide
    · rw [if_neg hunset]
      exact iff_of_true (fun _ => toInt_half hperiod) (Or.inr (Or.inl hunset))
  · exact iff_of_true (fun h => absurd h hresponse) (Or.inl hresponse)

theorem effectiveDefault_nonneg (h : 0 ≤ c.defaultPeriod.toInt) :
    0 ≤ c.effectiveDefault.toInt := by
  unfold Options.effectiveDefault
  split_ifs
  · decide
  · exact h

end Filling

/-! ## The service -/

section Service

variable {c : Options}

/-- Whether a pathway is valid does not depend on its durations. -/
theorem validatePathways_map (parse : String → Option String) (d : Duration)
    (pths : List Pathway) :
    validatePathways parse (pths.map (fillPathway d)) = validatePathways parse pths := by
  induction pths with
  | nil => rfl
  | cons pth pths ih =>
      rw [List.map_cons, validatePathways, validatePathways, ih]
      rfl

/-- The defaults make no configuration valid or invalid. -/
theorem validate_fillInDefaults (parse : String → Option String) (c : Options) :
    (fillInDefaults c).validate parse = c.validate parse := by
  unfold Options.validate
  rw [fillInDefaults_pathways, validatePathways_map]
  rfl

/-- No runner of a service that has started panics over its ticker. -/
theorem run_start {parse : String → Option String} (h : NonNegative c) {c' : Options}
    (hstart : start parse c = .ok c') : ∀ ticker ∈ run c', ∃ d, ticker = .ok d := by
  have hc' : c' = fillInDefaults c := by
    unfold start at hstart
    split at hstart
    · exact nomatch hstart
    · exact (Except.ok.inj hstart).symm
  intro ticker hticker
  rcases List.mem_map.mp hticker with ⟨after, hafter, rfl⟩
  have hmem := (List.mem_filter.mp hafter).1
  rw [hc', fillInDefaults_pathways] at hmem
  rcases List.mem_map.mp hmem with ⟨pth, hpth, rfl⟩
  refine ⟨_, if_neg ?_⟩
  rw [Int64.le_iff_toInt_le, not_le]
  refine lt_of_le_of_ne ?_ fun h =>
    fillPathway_period_ne_zero (effectiveDefault_ne_zero c) (Int64.toInt_inj.mp h.symm)
  unfold fillPathway
  dsimp only
  split_ifs
  · exact effectiveDefault_nonneg h.defaultPeriod
  · exact h.period pth hpth

end Service

/-! ## The defaults -/

/-- The defaults are as they should be exactly if every pathway has a response timeout or a
    period, or the default period is one nanosecond. The response timeout is made of the period
    before this is filled in, so it stays unset where both are, and half a nanosecond is none. -/
theorem fills_iff (c : Options) (h : NonNegative c) :
    Fills c ↔ ∀ pth ∈ c.pathways,
      pth.timeouts.response ≠ 0 ∨ pth.period ≠ 0 ∨ c.defaultPeriod = 1 := by
  have hdefault := effectiveDefault_nonneg h.defaultPeriod
  have hone : c.effectiveDefault = 1 ↔ c.defaultPeriod = 1 := by
    unfold Options.effectiveDefault
    split_ifs with hunset
    · rw [hunset]
      decide
    · rfl
  have hhalf : List.Forall₂ (HalfOfPeriod c) c.pathways (fillInDefaults c).pathways ↔
      ∀ pth ∈ c.pathways, Steady c.effectiveDefault pth := by
    rw [fillInDefaults_pathways, List.forall₂_map_right_iff, List.forall₂_same]
    exact forall₂_congr fun pth hpth => halfOfPeriod_iff hdefault (h.period pth hpth)
  simp only [← hone]
  constructor
  · exact fun hfills => hhalf.mp hfills.response
  · intro hsteady
    refine ⟨?_, ?_, hhalf.mpr hsteady, kept_fillInDefaults c,
      fillInDefaults_fillInDefaults hsteady⟩
    · rw [fillInDefaults_pathways]
      exact List.forall_mem_map.mpr fun pth _ =>
        fillPathway_period_ne_zero (effectiveDefault_ne_zero c)
    · rw [fillInDefaults_pathways]
      exact List.forall_mem_map.mpr fun pth _ => fillPathway_request_ne_zero _ pth

/-! ## A service that tests itself -/

/-- A pathway that has only what it needs. -/
def selftest : Pathway where
  name := "selftest-positive"
  endpoint := "http://localhost:8080/selftest/positive"
  method := "POST"
  authentication := none
  payload := ""
  timeouts := ⟨0, 0⟩
  period := 0
  triggerOnly := false
  responseURLTemplate := ""

/-- Options with some pathways and a default period of ten seconds. -/
def serviceOf (pathways : List Pathway) : Options where
  https := ⟨"", ""⟩
  pathways := pathways
  address := ":8080"
  defaultPeriod := 10 * second
  auth := none
  responseURLTemplate := ""
  firstRunDelay := 0
  retries := 0
  retryDelay := 0

theorem nonNegative_serviceOf {pathways : List Pathway}
    (hperiod : ∀ pth ∈ pathways, 0 ≤ pth.period.toInt)
    (hrequest : ∀ pth ∈ pathways, 0 ≤ pth.timeouts.request.toInt)
    (hresponse : ∀ pth ∈ pathways, 0 ≤ pth.timeouts.response.toInt) :
    NonNegative (serviceOf pathways) where
  defaultPeriod := show 0 ≤ (10 * second).toInt by decide
  firstRunDelay := Int.le_refl 0
  retryDelay := Int.le_refl 0
  period := hperiod
  request := hrequest
  response := hresponse

/-- One pathway has a period only, one a response timeout only, and one has everything. -/
def selftests : List Pathway :=
  [{ selftest with period := 10 * second },
    { selftest with
      name := "selftest-resp-timeout"
      endpoint := "http://localhost:8080/selftest/resp-timeout"
      timeouts := ⟨0, second / 2⟩
      triggerOnly := true },
    { selftest with
      name := "selftest-fails"
      endpoint := "http://localhost:8080/selftest/fails"
      timeouts := ⟨second, 3 * second⟩
      period := 60 * second }]

theorem fills_iff_selftest : Fills (serviceOf selftests) :=
  (fills_iff _ (nonNegative_serviceOf (by decide) (by decide) (by decide))).mpr (by decide)

/-- A probe is over at once, where half of the default period was to be waited. -/
theorem no_time_to_respond : ¬∀ c, NonNegative c → Fills c := by
  intro h
  have hfills := h (serviceOf [selftest])
    (nonNegative_serviceOf (by decide) (by decide) (by decide))
  rcases List.forall₂_cons.mp hfills.response with ⟨hhalf, -⟩
  exact absurd (hhalf rfl) (by decide)

end Configuration

end Cerc

end Nxpod
