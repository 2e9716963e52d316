import Mathlib.Algebra.GroupWithZero.Nat
import Mathlib.Data.List.Basic
import Mathlib.Tactic.Common
import Nxpod.Library.Parties
import Nxpod.Library.Transition

/-!
# Listening to a Headless Workspace

`HeadlessListener.listenAndRetry` of ws-manager. The listener reads the log of a
pod from a stream. A goroutine scans the stream and passes each line on to the
governor, which hands the text behind the timestamp to a handler, until the
handler has enough. When no line comes for some time the governor closes the
stream and opens a new one, from the time of the last line it has handed on.

Closing a stream does not end its goroutine. One that has lines left in its
buffer passes them on later, so several may send lines, each its own in their
order. What has been handed on already is recognized by its time.

The log is given, with all the lines it will ever have. A new stream begins at
any line, as long as none is left out that was not read yet. A stream can end
between two lines or within one, and then the scanner takes the beginning of the
line for a line. How timestamps are parsed and what the handler answers are
parameters. The model counts the lines that have been read from the streams.

## Main definitions

* `Env`, `State`, `Action`: The log, the listener and what can happen.
* `dropCR`, `fits`, `splitN`: What the scanner and the governor make of a line.
* `Mode`: The listener goes on, has returned, or has stopped the program.
* `handleLine`, `step`: What the listener does.
* `Right`: Every line that was read was handed on.
* `Delivers`: The condition on a step.
* `Effect`: What a step comes to, with what was found in the state before it.

## Theorems

* `handleLine_cases`: What becomes of a line.
* `handed_iff`, `ignored_iff`: When it is handed on, and when nothing is.
* `right_receive_new_iff`, `right_receive_old`, `right_fragment_iff`: What comes
  from a stream.
* `effect_of_step`: What a step can do.
* `right_step_iff`: When a step is right.
* `delivery_iff`: When a run is right.
-/

namespace Nxpod

namespace WsManager

namespace Headless

open Transition

/-- A text is the list of its characters. -/
abbrev Line := List Char

/-! ## Lines -/

/-- `bufio.MaxScanTokenSize`. -/
def maxScanTokenSize : Nat := 64 * 1024

/-- The scanner's buffer has room for the line and its end. Otherwise it gives up. -/
def fits (line : Line) : Bool :=
  (line.map Char.utf8Size).sum < maxScanTokenSize

/-- What the scanner makes of a line. -/
def dropCR (line : Line) : Line :=
  if line.getLast? = some '\r' then line.dropLast else line

/-- `strings.SplitN` at one blank: what is before the first one, and what is behind it
    if there is one. -/
def splitN : Line → Line × Option Line
  | [] => ([], none)
  | c :: cs => if c = ' ' then ([], some cs) else ((c :: (splitN cs).1), (splitN cs).2)

/-- The log and when the pod was started. The handler answers for all that it was handed
    so far. -/
structure Env where
  lines : List Line
  startTime : Int
  time : Line → Option Int
  continueListening : List Line → Bool

/-! ## The listener -/

/-- The listener goes on, has returned, or has stopped the program. -/
inductive Mode
  | running
  | done
  | panicked
  deriving DecidableEq

/-- `streams` has the position of the next line of each goroutine, or `none` when its
    stream has ended. `logs` says whether the governor has a stream to close, and `read`
    is how far in the log the streams have come. -/
structure State where
  streams : List (Option Nat)
  since : Int
  attempts : Nat
  logs : Bool
  mode : Mode
  read : Nat
  handled : List Line

/-- What can happen next. A stream is read, ends within a line or at the end of one, or is given
    up for a new one. -/
inductive Action
  | receive (i : Nat)
  | fragment (i n : Nat)
  | finish (i : Nat)
  | reconnect (position : Nat)
  | refused
  | cancel

/-- How often the listener connects in a row without a line in between. -/
def listenerAttempts : Nat := 50

/-- The text behind the first blank, and nothing without one. -/
def payload (line : Line) : Line := (splitN (dropCR line)).2.getD []

/-- The governor's `case line := <-lastLineReadChan`. -/
def handleLine (env : Env) (s : State) (text : Line) : State :=
  match env.time (splitN text).1 with
  | none => s
  | some ts =>
      if ts ≤ s.since then s
      else match (splitN text).2 with
        | none => { s with mode := .panicked }
        | some message =>
            let s := { s with handled := s.handled ++ [message] }
            if env.continueListening s.handled then { s with since := ts, attempts := 0 }
            else if s.logs then { s with mode := .done }
            else { s with mode := .panicked }

/-- A stream comes to its next line. The goroutine skips an empty one. -/
def receive (env : Env) (s : State) (i position : Nat) (line : Line) : State :=
  let s := { s with read := max s.read (position + 1) }
  if fits line then
    let s := { s with streams := s.streams.set i (some (position + 1)) }
    if (dropCR line).isEmpty then s else handleLine env s (dropCR line)
  else { s with streams := s.streams.set i none }

/-- The timer has hit. Only a stream that was opened is there to be closed later. -/
def timeout (s : State) (opened : Option Nat) : State :=
  let s := { s with attempts := s.attempts + 1 }
  if s.attempts ≥ listenerAttempts then { s with mode := .done }
  else match opened with
    | some position =>
        { s with streams := s.streams ++ [some position], logs := true }
    | none => { s with logs := false }

/-- A step of a stream or of the governor. When the listener is done nothing more happens. -/
def step (env : Env) (s : State) (a : Action) : Option State :=
  if s.mode ≠ .running then none
  else match a with
    | .receive i => match s.streams[i]? with
      | some (some position) => match env.lines[position]? with
        | some line => some (receive env s i position line)
        | none => none
      | _ => none
    | .fragment i n => match s.streams[i]? with
      | some (some position) => match env.lines[position]? with
        | some line =>
            -- of a beginning that does not fit the scanner makes nothing, it gives up
            if 0 < n ∧ n < (dropCR line).length ∧ fits (line.take n) then
              let s := { s with streams := s.streams.set i none }
              if (dropCR (line.take n)).isEmpty then some s
              else some (handleLine env s (dropCR (line.take n)))
            else none
        | none => none
      | _ => none
    | .finish i => match s.streams[i]? with
      | some (some _) => some { s with streams := s.streams.set i none }
      | _ => none
    | .reconnect position =>
        if position ≤ s.read then some (timeout s (some position)) else none
    | .refused => some (timeout s none)
    | .cancel => some { s with mode := .done }

/-- The first stream is that of the whole log. -/
def init (env : Env) : State where
  streams := [some 0]
  since := env.startTime
  attempts := 0
  logs := true
  mode := .running
  read := 0
  handled := []

/-! ## What is handed on -/

/-- Every line that was read was handed on, once and in their order, and the listener has
    not panicked. -/
structure Right (env : Env) (s : State) : Prop where
  handled : s.handled = (env.lines.take s.read).map payload
  calm : s.mode ≠ .panicked

/-- A line that is read for the first time fits into the scanner's buffer, is younger than
    the one before, and has a blank, and when the handler has enough there is a stream to
    close. The beginning of a line that a stream ends with does not look like a line. -/
def Delivers (env : Env) (s : State) : Action → Prop
  | .receive i => ∀ position line, s.streams[i]? = some (some position) →
      env.lines[position]? = some line → s.read ≤ position →
        fits line = true ∧
        (∃ ts, env.time (splitN (dropCR line)).1 = some ts ∧ s.since < ts) ∧
        (∃ message, (splitN (dropCR line)).2 = some message ∧
          (env.continueListening (s.handled ++ [message]) = true ∨ s.logs = true))
  | .fragment i n => ∀ position line, s.streams[i]? = some (some position) →
      env.lines[position]? = some line → (dropCR (line.take n)).isEmpty = false →
        ∀ ts, env.time (splitN (dropCR (line.take n))).1 = some ts → ts ≤ s.since
  | _ => True

/-- Nothing that was read is younger than the last line handed on, and no stream has left
    a line out. -/
structure Inv (env : Env) (s : State) : Prop where
  right : Right env s
  since : s.mode = .running → ∀ (position : Nat) (line : Line) (ts : Int), position < s.read →
    env.lines[position]? = some line → env.time (splitN (dropCR line)).1 = some ts → ts ≤ s.since
  streams : ∀ position, some position ∈ s.streams → position ≤ s.read
  read : s.read ≤ env.lines.length

variable {env : Env} {s s' : State} {text : Line}

/-! ## One line -/

/-- A line is younger than the last one that was handed on. -/
def Newer (env : Env) (s : State) (text : Line) : Prop :=
  ∃ ts, env.time (splitN text).1 = some ts ∧ s.since < ts

/-- A line is handed on, unless it is old or has no timestamp. The listener panics when
    it has no blank, and when the handler has enough while there is no stream to close. -/
theorem handleLine_cases (env : Env) (s : State) (text : Line) :
    (¬ Newer env s text ∧ handleLine env s text = s) ∨
    (Newer env s text ∧ (splitN text).2 = none ∧
      handleLine env s text = { s with mode := .panicked }) ∨
    ∃ ts message, env.time (splitN text).1 = some ts ∧ s.since < ts ∧
      (splitN text).2 = some message ∧
      ((env.continueListening (s.handled ++ [message]) = true ∧ handleLine env s text =
          { s with handled := s.handled ++ [message], since := ts, attempts := 0 }) ∨
        (env.continueListening (s.handled ++ [message]) = false ∧ handleLine env s text =
          { s with
            handled := s.handled ++ [message]
            mode := if s.logs then .done else .panicked })) := by
  unfold handleLine Newer
  cases htime : env.time (splitN text).1 with
  | none =>
      refine .inl ⟨?_, rfl⟩
      rintro ⟨ts, hts, _⟩
      exact absurd hts nofun
  | some ts =>
      -- A line with a timestamp that was seen already is left out.
      by_cases hold : ts ≤ s.since
      · refine .inl ⟨?_, if_pos hold⟩
        rintro ⟨ts', hts, hlt⟩
        rw [← Option.some.inj hts] at hlt
        exact absurd hold (Int.not_le.mpr hlt)
      · have hlt := Int.not_le.mp hold
        dsimp only
        rw [if_neg hold]
        cases hmessage : (splitN text).2 with
        | none => exact .inr (.inl ⟨⟨ts, rfl, hlt⟩, rfl, rfl⟩)
        | some message =>
            refine .inr (.inr ⟨ts, message, rfl, hlt, rfl, ?_⟩)
            cases hcontinue : env.continueListening (s.handled ++ [message]) with
            | true => exact .inl ⟨rfl, if_pos hcontinue⟩
            | false =>
                refine .inr ⟨rfl, ?_⟩
                dsimp only
                rw [if_neg (Bool.eq_false_iff.mp hcontinue)]
                split_ifs <;> rfl

/-- A line that was handed on is one more, even when it has the text of the one before. -/
theorem append_singleton_ne (handled : List Line) (message : Line) :
    handled ≠ handled ++ [message] := by
  intro heq
  have hlength := congrArg List.length heq
  rw [List.length_append, List.length_singleton] at hlength
  omega

/-- When a line is handed on as it should be. -/
theorem handed_iff (env : Env) (s : State) (text : Line) (hmode : s.mode = .running) :
    ((handleLine env s text).handled = s.handled ++ [(splitN text).2.getD []] ∧
        (handleLine env s text).mode ≠ .panicked) ↔
      Newer env s text ∧ ∃ message, (splitN text).2 = some message ∧
        (env.continueListening (s.handled ++ [message]) = true ∨ s.logs = true) := by
  rcases handleLine_cases env s text with ⟨hold, heq⟩ | ⟨_, hnone, heq⟩ |
    ⟨ts, message, hts, hlt, hmessage, ⟨hcontinue, heq⟩ | ⟨hstop, heq⟩⟩
  · rw [heq]
    exact iff_of_false (fun h => append_singleton_ne _ _ h.1) (fun h => hold h.1)
  · rw [heq, hnone]
    exact iff_of_false (fun h => h.2 rfl) (fun ⟨_, _, h, _⟩ => absurd h nofun)
  · rw [heq, hmessage, hmode]
    exact iff_of_true ⟨rfl, nofun⟩ ⟨⟨ts, hts, hlt⟩, message, rfl, .inl hcontinue⟩
  · rw [heq, hmessage]
    cases hlogs : s.logs with
    | true => exact iff_of_true ⟨rfl, nofun⟩ ⟨⟨ts, hts, hlt⟩, message, rfl, .inr rfl⟩
    | false =>
        refine iff_of_false (fun h => h.2 rfl) ?_
        rintro ⟨_, message', hmessage', hcontinue | hlogs'⟩
        · rw [← Option.some.inj hmessage', hstop] at hcontinue
          exact absurd hcontinue Bool.false_ne_true
        · exact absurd hlogs' Bool.false_ne_true

/-- When nothing is handed on. -/
theorem ignored_iff (env : Env) (s : State) (text : Line) (hmode : s.mode = .running) :
    ((handleLine env s text).handled = s.handled ∧ (handleLine env s text).mode ≠ .panicked) ↔
      ¬ Newer env s text := by
  rcases handleLine_cases env s text with ⟨hold, heq⟩ | ⟨hnewer, _, heq⟩ |
    ⟨ts, message, hts, hlt, _, ⟨_, heq⟩ | ⟨_, heq⟩⟩
  · rw [heq, hmode]
    exact iff_of_true ⟨rfl, nofun⟩ hold
  · rw [heq]
    exact iff_of_false (fun h => h.2 rfl) (not_not.mpr hnewer)
  · rw [heq]
    exact iff_of_false (fun h => append_singleton_ne _ _ h.1.symm) (not_not.mpr ⟨ts, hts, hlt⟩)
  · rw [heq]
    exact iff_of_false (fun h => append_singleton_ne _ _ h.1.symm) (not_not.mpr ⟨ts, hts, hlt⟩)

/-- Neither the streams nor the count of lines changes, and the time of a line that the
    listener goes on behind is that of the last line handed on. -/
theorem handleLine_frame (env : Env) (s : State) (text : Line) :
    (handleLine env s text).streams = s.streams ∧ (handleLine env s text).read = s.read ∧
      ((handleLine env s text).mode = .running → s.since ≤ (handleLine env s text).since ∧
        ∀ ts, env.time (splitN text).1 = some ts → ts ≤ (handleLine env s text).since) := by
  rcases handleLine_cases env s text with ⟨hold, heq⟩ | ⟨_, _, heq⟩ |
    ⟨ts, message, hts, hlt, _, ⟨_, heq⟩ | ⟨_, heq⟩⟩
  · rw [heq]
    refine ⟨rfl, rfl, fun _ => ⟨Int.le_refl _, fun ts hts => ?_⟩⟩
    exact Int.not_lt.mp fun hlt => hold ⟨ts, hts, hlt⟩
  · rw [heq]
    exact ⟨rfl, rfl, fun h => absurd h nofun⟩
  · rw [heq]
    refine ⟨rfl, rfl, fun _ => ⟨Int.le_of_lt hlt, fun ts' hts' => ?_⟩⟩
    exact Int.le_of_eq (Option.some.inj (hts'.symm.trans hts))
  · rw [heq]
    refine ⟨rfl, rfl, fun h => ?_⟩
    dsimp only at h
    split_ifs at h

/-! ## One step -/

/-- What was to be handed on grows by the line that is read. -/
theorem map_take_succ {position : Nat} {line : Line} (h : env.lines[position]? = some line) :
    (env.lines.take (position + 1)).map payload =
      (env.lines.take position).map payload ++ [payload line] := by
  rw [List.take_add_one, h, List.map_append]
  rfl

/-- What has to be so when a stream comes to a line that was not read yet. -/
def LineDelivers (env : Env) (s : State) (line : Line) : Prop :=
  fits line = true ∧ Newer env s (dropCR line) ∧
  ∃ message, (splitN (dropCR line)).2 = some message ∧
    (env.continueListening (s.handled ++ [message]) = true ∨ s.logs = true)

theorem delivers_receive_iff {i position : Nat} {line : Line}
    (hstream : s.streams[i]? = some (some position)) (hline : env.lines[position]? = some line) :
    Delivers env s (.receive i) ↔ (s.read ≤ position → LineDelivers env s line) := by
  constructor
  · exact fun h => h position line hstream hline
  · intro h position' line' hstream' hline'
    rw [hstream, Option.some.injEq, Option.some.injEq] at hstream'
    rw [← hstream', hline, Option.some.injEq] at hline'
    rw [← hstream', ← hline']
    exact h

/-- A line that was not read yet. -/
theorem right_receive_new_iff (hright : Right env s) (hmode : s.mode = .running) (i : Nat)
    {line : Line} (hline : env.lines[s.read]? = some line) :
    Right env (receive env s i s.read line) ↔ LineDelivers env s line := by
  have hread : max s.read (s.read + 1) = s.read + 1 := Nat.max_eq_right (Nat.le_succ _)
  have hexpected := map_take_succ hline
  rw [← hright.handled] at hexpected
  unfold receive LineDelivers
  cases hfits : fits line with
  | false =>
      -- the scanner gives up, and the line is lost
      refine iff_of_false (fun h => ?_) (fun h => absurd h.1 Bool.false_ne_true)
      have hhandled := h.handled
      rw [if_neg Bool.false_ne_true] at hhandled
      dsimp only at hhandled
      rw [hread, hexpected] at hhandled
      exact append_singleton_ne _ _ hhandled
  | true =>
      rw [if_pos rfl]
      dsimp only
      rw [hread]
      cases hempty : (dropCR line).isEmpty with
      | true =>
          rw [List.isEmpty_iff] at hempty
          rw [if_pos rfl, hempty]
          refine iff_of_false (fun h => ?_) (fun ⟨_, _, message, hmessage, _⟩ =>
            absurd hmessage nofun)
          have hhandled := h.handled
          dsimp only at hhandled
          rw [hexpected] at hhandled
          exact append_singleton_ne _ _ hhandled
      | false =>
          rw [if_neg Bool.false_ne_true]
          have hframe := handleLine_frame env
            { s with read := s.read + 1, streams := s.streams.set i (some (s.read + 1)) }
            (dropCR line)
          have hiff := handed_iff env
            { s with read := s.read + 1, streams := s.streams.set i (some (s.read + 1)) }
            (dropCR line) hmode
          refine Iff.trans ?_ (hiff.trans (and_iff_right rfl).symm)
          constructor
          · intro h
            have hhandled := h.handled
            rw [hframe.2.1] at hhandled
            exact ⟨hhandled.trans hexpected, h.calm⟩
          · intro h
            refine ⟨?_, h.2⟩
            rw [hframe.2.1]
            exact h.1.trans hexpected.symm

/-- A line that was read before is recognized by its time. -/
theorem right_receive_old (hs : Inv env s) (hmode : s.mode = .running) (i : Nat) {position : Nat}
    {line : Line} (hline : env.lines[position]? = some line) (hlt : position < s.read) :
    Right env (receive env s i position line) := by
  have hread : max s.read (position + 1) = s.read := Nat.max_eq_left hlt
  have hold : ¬ Newer env { s with streams := s.streams.set i (some (position + 1)) }
      (dropCR line) := by
    rintro ⟨ts, hts, hlater⟩
    exact absurd (hs.since hmode position line ts hlt hline hts) (Int.not_le.mpr hlater)
  unfold receive
  dsimp only
  rw [hread]
  split_ifs
  · exact ⟨hs.right.handled, hs.right.calm⟩
  · have hframe := handleLine_frame env { s with streams := s.streams.set i (some (position + 1)) }
      (dropCR line)
    have hignored := (ignored_iff env
      { s with streams := s.streams.set i (some (position + 1)) } (dropCR line) hmode).mpr hold
    refine ⟨?_, hignored.2⟩
    rw [hframe.2.1]
    exact hignored.1.trans hs.right.handled
  · exact ⟨hs.right.handled, hs.right.calm⟩

/-- The beginning of a line is ignored when it does not look like a younger line. -/
theorem right_fragment_iff (hs : Inv env s) (hmode : s.mode = .running) {i n position : Nat}
    {line : Line} (hstream : s.streams[i]? = some (some position))
    (hline : env.lines[position]? = some line)
    (hnonempty : (dropCR (line.take n)).isEmpty = false) :
    Right env (handleLine env { s with streams := s.streams.set i none } (dropCR (line.take n))) ↔
      Delivers env s (.fragment i n) := by
  have hframe := handleLine_frame env { s with streams := s.streams.set i none }
    (dropCR (line.take n))
  have hiff := ignored_iff env { s with streams := s.streams.set i none } (dropCR (line.take n))
    hmode
  -- The fragment stands where its line does, so nothing else is asked of it.
  have hdelivers : Delivers env s (.fragment i n) ↔
      ¬ Newer env { s with streams := s.streams.set i none } (dropCR (line.take n)) := by
    constructor
    · rintro h ⟨ts, hts, hlt⟩
      exact absurd (h position line hstream hline hnonempty ts hts) (Int.not_le.mpr hlt)
    · intro h position' line' hstream' hline' _ ts hts
      rw [hstream, Option.some.injEq, Option.some.injEq] at hstream'
      rw [← hstream', hline, Option.some.injEq] at hline'
      rw [← hline'] at hts
      exact Int.not_lt.mp fun hlt => h ⟨ts, hts, hlt⟩
  rw [hdelivers, ← hiff]
  constructor
  · intro h
    refine ⟨?_, h.calm⟩
    have hhandled := h.handled
    rw [hframe.2.1] at hhandled
    exact hhandled.trans hs.right.handled.symm
  · intro h
    refine ⟨?_, h.2⟩
    rw [hframe.2.1]
    exact h.1.trans hs.right.handled

/-- A new stream changes nothing in what was handed on. -/
theorem right_timeout (hs : Right env s) (hmode : s.mode = .running) (opened : Option Nat) :
    Right env (timeout s opened) := by
  have hrunning : s.mode ≠ .panicked := by
    rw [hmode]
    exact nofun
  unfold timeout
  dsimp only
  split_ifs
  · exact ⟨hs.handled, nofun⟩
  · cases opened with
    | none => exact ⟨hs.handled, hrunning⟩
    | some position => exact ⟨hs.handled, hrunning⟩

theorem timeout_frame (s : State) (opened : Option Nat) :
    (timeout s opened).read = s.read ∧ (timeout s opened).since = s.since ∧
      ∀ position, some position ∈ (timeout s opened).streams →
        some position ∈ s.streams ∨ opened = some position := by
  unfold timeout
  dsimp only
  split_ifs
  · exact ⟨rfl, rfl, fun _ hmem => .inl hmem⟩
  · cases opened with
    | none => exact ⟨rfl, rfl, fun _ hmem => .inl hmem⟩
    | some position =>
        refine ⟨rfl, rfl, fun p hmem => ?_⟩
        rw [List.mem_append, List.mem_singleton] at hmem
        exact hmem.imp_right Eq.symm

/-- What a step comes to, with what was found in the state before it. -/
inductive Effect (env : Env) (s : State) : Action → State → Prop
  | received (i position : Nat) (line : Line) : s.streams[i]? = some (some position) →
      env.lines[position]? = some line →
      Effect env s (.receive i) (receive env s i position line)
  | ended (a : Action) (i : Nat) : Delivers env s a →
      Effect env s a { s with streams := s.streams.set i none }
  | broken (i n position : Nat) (line : Line) : s.streams[i]? = some (some position) →
      env.lines[position]? = some line → (dropCR (line.take n)).isEmpty = false →
      Effect env s (.fragment i n)
        (handleLine env { s with streams := s.streams.set i none } (dropCR (line.take n)))
  | timedOut (a : Action) (opened : Option Nat) : Delivers env s a →
      (∀ position, opened = some position → position ≤ s.read) →
      Effect env s a (timeout s opened)
  | cancelled : Effect env s .cancel { s with mode := .done }

/-- What a step can do, while the listener is running. -/
theorem effect_of_step {a : Action} (h : step env s a = some s') :
    s.mode = .running ∧ Effect env s a s' := by
  unfold step at h
  rw [Option.ite_none_left_eq_some, not_not] at h
  rcases h with ⟨hmode, h⟩
  refine ⟨hmode, ?_⟩
  cases a with
  | receive i =>
      dsimp only at h
      split at h
      · next position hstream =>
          split at h
          · next line hline =>
              rw [← Option.some.inj h]
              exact .received i position line hstream hline
          · exact absurd h nofun
      · exact absurd h nofun
  | fragment i n =>
      dsimp only at h
      split at h
      · next position hstream =>
          split at h
          · next line hline =>
              rw [Option.ite_none_right_eq_some] at h
              rcases h with ⟨_, h⟩
              split_ifs at h with hempty
              · -- of the line nothing is left that the scanner passes on
                rw [← Option.some.inj h]
                refine .ended _ i fun position' line' hstream' hline' hnonempty => ?_
                rw [hstream, Option.some.injEq, Option.some.injEq] at hstream'
                rw [← hstream', hline, Option.some.injEq] at hline'
                rw [← hline', hempty] at hnonempty
                exact absurd hnonempty.symm Bool.false_ne_true
              · rw [← Option.some.inj h]
                exact .broken i n position line hstream hline (Bool.eq_false_iff.mpr hempty)
          · exact absurd h nofun
      · exact absurd h nofun
  | finish i =>
      dsimp only at h
      split at h
      · rw [← Option.some.inj h]
        exact .ended _ i trivial
      · exact absurd h nofun
  | reconnect position =>
      dsimp only at h
      rw [Option.ite_none_right_eq_some] at h
      rw [← Option.some.inj h.2]
      exact .timedOut _ (some position) trivial fun p hp => Option.some.inj hp ▸ h.1
  | refused =>
      rw [← Option.some.inj h]
      exact .timedOut _ none trivial nofun
  | cancel =>
      rw [← Option.some.inj h]
      exact .cancelled

/-- What was right is right after a step exactly when the step delivers. -/
theorem right_step_iff {a : Action} (hs : Inv env s) (h : step env s a = some s') :
    Right env s' ↔ Delivers env s a := by
  rcases effect_of_step h with ⟨hmode, heffect⟩
  cases heffect with
  | received i position line hstream hline =>
      rw [delivers_receive_iff hstream hline]
      -- a line that was read already is old, whatever the stream that it comes from
      have hle := hs.streams position (List.mem_of_getElem? hstream)
      rcases Nat.lt_or_eq_of_le hle with hlt | heq
      · refine iff_of_true (right_receive_old hs hmode i hline hlt) fun hge => ?_
        exact absurd hge (Nat.not_le.mpr hlt)
      · rw [heq] at hline ⊢
        rw [right_receive_new_iff hs.right hmode i hline]
        exact ⟨fun h _ => h, fun h => h (Nat.le_refl _)⟩
  | ended a i hdelivers =>
      exact iff_of_true ⟨hs.right.handled, hs.right.calm⟩ hdelivers
  | broken i n position line hstream hline hnonempty =>
      exact right_fragment_iff hs hmode hstream hline hnonempty
  | timedOut a opened hdelivers _ =>
      exact iff_of_true (right_timeout hs.right hmode opened) hdelivers
  | cancelled =>
      exact iff_of_true ⟨hs.right.handled, nofun⟩ trivial

/-- What a step has to see to. -/
theorem inv_of_right (hs : Inv env s) (hmode : s.mode = .running) (hright : Right env s')
    (hstreams : ∀ position, some position ∈ s'.streams → position ≤ s'.read)
    (hread : s'.read ≤ env.lines.length)
    (hsince : s'.mode = .running → s.since ≤ s'.since ∧
      ∀ position line ts, s.read ≤ position → position < s'.read →
        env.lines[position]? = some line → env.time (splitN (dropCR line)).1 = some ts →
          ts ≤ s'.since) : Inv env s' := by
  refine ⟨hright, fun hrunning position line ts hlt hline hts => ?_, hstreams, hread⟩
  rcases hsince hrunning with ⟨hle, hnew⟩
  rcases Nat.lt_or_ge position s.read with hold | hge
  · exact Int.le_trans (hs.since hmode position line ts hold hline hts) hle
  · exact hnew position line ts hge hlt hline hts

theorem stream_set_le {streams : List (Option Nat)} {i bound : Nat} {next : Option Nat}
    (h : ∀ position, some position ∈ streams → position ≤ bound)
    (hnext : ∀ position, next = some position → position ≤ bound) :
    ∀ position, some position ∈ streams.set i next → position ≤ bound := by
  intro position hmem
  rcases List.mem_or_eq_of_mem_set hmem with hold | heq
  · exact h position hold
  · exact hnext position heq.symm

/-- A line that is read again is told by its time, and not handed on. -/
theorem inv_receive (hs : Inv env s) (hmode : s.mode = .running) {i position : Nat} {line : Line}
    (hstream : s.streams[i]? = some (some position)) (hline : env.lines[position]? = some line)
    (hright : Right env (receive env s i position line)) :
    Inv env (receive env s i position line) := by
  have hposition : position ≤ s.read := hs.streams position (List.mem_of_getElem? hstream)
  have hlength : position < env.lines.length := (List.getElem?_eq_some_iff.mp hline).1
  have hread : max s.read (position + 1) ≤ env.lines.length := Nat.max_le.mpr ⟨hs.read, hlength⟩
  have hstreams : ∀ p, some p ∈ s.streams → p ≤ max s.read (position + 1) :=
    fun p hp => Nat.le_trans (hs.streams p hp) (Nat.le_max_left _ _)
  -- of a new line it is known that it was delivered
  have hnew : s.read ≤ position → LineDelivers env s line := by
    intro hge
    have heq := Nat.le_antisymm hposition hge
    rw [heq] at hright hline
    exact (right_receive_new_iff hs.right hmode i hline).mp hright
  -- At most this one line is new.
  have hat : ∀ p, s.read ≤ p → p < max s.read (position + 1) → p = position := by
    intro p hge hlt
    omega
  unfold receive at hright ⊢
  -- A line that is too long ends the stream, an empty one is skipped, and any other is handled.
  cases hfits : fits line with
  | false =>
      rw [hfits, if_neg Bool.false_ne_true] at hright
      rw [if_neg Bool.false_ne_true]
      refine inv_of_right hs hmode hright (stream_set_le hstreams nofun) hread fun _ =>
        ⟨Int.le_refl _, fun p l ts hge hlt _ _ => ?_⟩
      have hdelivers := hnew (hat p hge hlt ▸ hge)
      exact absurd (hfits.symm.trans hdelivers.1) Bool.false_ne_true
  | true =>
      rw [hfits, if_pos rfl] at hright
      rw [if_pos rfl]
      dsimp only at hright ⊢
      have hstreams' : ∀ p, some p ∈ s.streams.set i (some (position + 1)) →
          p ≤ max s.read (position + 1) :=
        stream_set_le hstreams fun p hp => Option.some.inj hp ▸ Nat.le_max_right _ _
      cases hempty : (dropCR line).isEmpty with
      | true =>
          rw [hempty, if_pos rfl] at hright
          rw [if_pos rfl]
          refine inv_of_right hs hmode hright hstreams' hread fun _ =>
            ⟨Int.le_refl _, fun p l ts hge hlt _ _ => ?_⟩
          -- What delivers is no empty line.
          rcases (hnew (hat p hge hlt ▸ hge)).2.2 with ⟨message, hmessage, _⟩
          rw [List.isEmpty_iff.mp hempty] at hmessage
          exact absurd hmessage nofun
      | false =>
          rw [hempty, if_neg Bool.false_ne_true] at hright
          rw [if_neg Bool.false_ne_true]
          have hframe := handleLine_frame env
            { s with
              read := max s.read (position + 1)
              streams := s.streams.set i (some (position + 1)) } (dropCR line)
          refine inv_of_right hs hmode hright ?_ ?_ fun hrunning =>
            ⟨(hframe.2.2 hrunning).1, fun p l ts hge hlt hl hts => ?_⟩
          · rw [hframe.1, hframe.2.1]
            exact hstreams'
          · rw [hframe.2.1]
            exact hread
          · rw [hframe.2.1] at hlt
            have hp := hat p hge hlt
            rw [hp, hline, Option.some.injEq] at hl
            rw [← hl] at hts
            exact (hframe.2.2 hrunning).2 ts hts

/-- And then nothing is left out by the next one. -/
theorem inv_step {a : Action} (hs : Inv env s) (h : step env s a = some s')
    (hright : Right env s') : Inv env s' := by
  rcases effect_of_step h with ⟨hmode, heffect⟩
  -- a step that reads no line
  have hother : s'.read = s.read → (s'.mode = .running → s.since ≤ s'.since) →
      (∀ position, some position ∈ s'.streams → position ≤ s.read) → Inv env s' := by
    intro hread hsince hstreams
    refine inv_of_right hs hmode hright (hread ▸ hstreams) (hread ▸ hs.read) fun hrunning =>
      ⟨hsince hrunning, fun p l ts hge hlt _ _ => ?_⟩
    rw [hread] at hlt
    exact absurd hge (Nat.not_le.mpr hlt)
  cases heffect with
  | received i position line hstream hline =>
      exact inv_receive hs hmode hstream hline hright
  | ended a i _ =>
      exact hother rfl (fun _ => Int.le_refl _) (stream_set_le hs.streams nofun)
  | broken i n position line _ _ _ =>
      have hframe := handleLine_frame env
        { s with streams := s.streams.set i none } (dropCR (line.take n))
      refine hother hframe.2.1 (fun hrunning => (hframe.2.2 hrunning).1) ?_
      rw [hframe.1]
      exact stream_set_le hs.streams nofun
  | timedOut a opened _ hopened =>
      have hframe := timeout_frame s opened
      refine hother hframe.1 (fun _ => Int.le_of_eq hframe.2.1.symm) fun p hp => ?_
      rcases hframe.2.2 p hp with hold | heq
      · exact hs.streams p hold
      · exact hopened p heq
  | cancelled =>
      exact hother rfl (fun h => absurd h nofun) hs.streams

theorem inv_init (env : Env) : Inv env (init env) where
  right := ⟨rfl, nofun⟩
  since _ _ _ _ hlt := absurd hlt (Nat.not_lt_zero _)
  streams position hmem := by
    rw [init, List.mem_singleton, Option.some.injEq] at hmem
    exact Nat.le_of_eq hmem
  read := Nat.zero_le _

/-- For every log and whatever the streams do, every line is handed on once and in its order
    exactly when every step delivers. Where a new stream goes on is decided by the time of the
    last line, so it is the times that have to tell the lines apart. -/
theorem delivery_iff (env : Env) (as : List Action) :
    StepsAlong (step env) (fun _ _ s' => Right env s') as (init env) ↔
      MeetsAlong (step env) (Delivers env) as (init env) :=
  stepsAlong_iff_meetsAlong_while (fun _ _ _ hs h hright => inv_step hs h hright)
    (fun _ _ _ hs h => right_step_iff hs h) as (init env) (inv_init env)

/-- The two times that the examples use, in milliseconds from the start. -/
def exampleTime (date : Line) : Option Int :=
  if date = "2009-11-10T23:00:00.05Z".toList then some 50
  else if date = "2009-11-10T23:00:00.1Z".toList then some 100
  else none

/-- The handler has enough when it is told so. -/
def exampleEnv (lines : List String) : Env where
  lines := lines.map String.toList
  startTime := 0
  time := exampleTime
  continueListening handled := handled.getLast? ≠ some "done".toList

/-- Of two lines of one time the second is lost. A line that is only a timestamp makes the
    listener panic, and so does one after which the handler has enough when the last
    attempt to open a stream has failed. A stream that ends within a line makes the
    beginning of it a line. -/
theorem lost_line :
    (∃ s, runActions (step (exampleEnv ["2009-11-10T23:00:00.05Z a", "2009-11-10T23:00:00.05Z b"]))
        [.receive 0, .receive 0] (init (exampleEnv
          ["2009-11-10T23:00:00.05Z a", "2009-11-10T23:00:00.05Z b"])) = some s ∧
      s.read = 2 ∧ s.handled = ["a".toList]) ∧
    (∃ s, runActions (step (exampleEnv ["2009-11-10T23:00:00.05Z"]))
        [.receive 0] (init (exampleEnv ["2009-11-10T23:00:00.05Z"])) = some s ∧
      s.mode = .panicked) ∧
    (∃ s, runActions (step (exampleEnv ["2009-11-10T23:00:00.05Z done"]))
        [.refused, .receive 0] (init (exampleEnv ["2009-11-10T23:00:00.05Z done"])) = some s ∧
      s.mode = .panicked) ∧
    ∃ s, runActions (step (exampleEnv ["2009-11-10T23:00:00.05Z task failed"]))
        [.reconnect 0, .fragment 0 28, .receive 1]
        (init (exampleEnv ["2009-11-10T23:00:00.05Z task failed"])) = some s ∧
      s.handled = ["task".toList] :=
  ⟨⟨_, rfl, rfl, rfl⟩, ⟨_, rfl, rfl⟩, ⟨_, rfl, rfl⟩, _, rfl, rfl⟩

end Headless

end WsManager

end Nxpod
