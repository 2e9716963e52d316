import Nxpod.Library.Parties
import Nxpod.Library.Transition

/-!
# The Backup Canary

Before a workspace is shut down somebody may want its backup to be prepared. `PrepareBackup` hands a
channel to a canary that listens, if there is one, and waits for the answer on it until its context
is cancelled. `BackupCanary` listens on behalf of a client, asks the client to prepare the backup,
and passes the client's answer on.

Both channels have no buffer. A caller that gave up does not receive any more, and a canary that has
an answer for it waits forever. When the answer of the client cannot be received, the canary answers
for it, but then goes on to read the answer that is not there.

Callers and canaries are known by their places in a list. A channel is known by the caller that made
it.

## Main definitions

* `PrepareResult`: How a call of `PrepareBackup` ends.
* `CallerPhase`, `CanaryPhase`: Where a call is.
* `Helper`, `step`: The calls of both kinds and what they do.
* `Action`: What can happen next: calls begin, contexts are cancelled, and callers and canaries go
  on.
* `Sound`: No canary has panicked, and the caller of a canary that sends an answer waits for it.
* `Handled`: What a step has to keep.
* `Heard`: A step that does not lead into one of the gaps.
* `Moves`: What a step can be.

## Theorems

* `moves_of_step`: What a step can be.
* `linked_step`: Which calls have to do with each other.
* `sound_step_iff`: One step.
* `kept_step`: What was returned stays returned.
* `handled_iff_heard`: Every step of a run.
-/

namespace Nxpod

namespace Supervisor

open Transition

/-- How a call of `PrepareBackup` ends. -/
inductive PrepareResult
  | ok
  | failed
  | unavailable
  | cancelled
  deriving DecidableEq

/-- A call of `PrepareBackup`. While it waits, a canary has its channel. -/
inductive CallerPhase
  | selecting
  | waiting (canary : Nat)
  | returned (result : PrepareResult)
  deriving DecidableEq

/-- A call of `BackupCanary`, with the channel to answer on. -/
inductive CanaryPhase
  | listening
  | sending (rc : Nat)
  | receiving (rc : Nat)
  | failing (rc : Nat)
  | answering (rc : Nat) (success : Bool)
  | returned
  | panicked
  deriving DecidableEq

namespace CanaryPhase

/-- The channel that a canary has in its hands. -/
def rc : CanaryPhase → Option Nat
  | sending rc => some rc
  | receiving rc => some rc
  | failing rc => some rc
  | answering rc _ => some rc
  | _ => none

/-- The channel that an answer is being sent on. -/
def answers : CanaryPhase → Option Nat
  | failing rc => some rc
  | answering rc _ => some rc
  | _ => none

end CanaryPhase

/-- The calls, the callers whose contexts are cancelled, and those for which a client reported
success. -/
structure Helper where
  callers : List CallerPhase
  cancelled : List Nat
  canaries : List CanaryPhase
  reported : List Nat

/-- What can happen next: calls begin, contexts are cancelled, and callers and canaries go on. -/
inductive Action
  | prepare
  | cancel (i : Nat)
  | canary
  | trigger (i k : Nat)
  | unavailable (i : Nat)
  | giveUp (i : Nat)
  | send (k : Nat) (sent : Bool)
  | recv (k : Nat) (success : Option Bool)
  | answer (k : Nat)

namespace Helper

/-- A caller has gone on. -/
def setCaller (s : Helper) (i : Nat) (phase : CallerPhase) : Helper :=
  { s with callers := s.callers.set i phase }

/-- A canary has gone on. -/
def setCanary (s : Helper) (k : Nat) (phase : CanaryPhase) : Helper :=
  { s with canaries := s.canaries.set k phase }

/-- A caller receives an answer. -/
def receive (s : Helper) (i : Nat) (success : Bool) : Helper :=
  s.setCaller i (.returned (if success then .ok else .failed))

/-- One step of the helper. A send and the receive for it are one step, as the channels have no
    buffer. -/
def step (s : Helper) : Action → Option Helper
  | .prepare => some { s with callers := s.callers ++ [.selecting] }
  | .cancel i => some { s with cancelled := i :: s.cancelled }
  | .canary => some { s with canaries := s.canaries ++ [.listening] }
  | .trigger i k => match s.callers[i]?, s.canaries[k]? with
    | some .selecting, some .listening =>
        some ((s.setCaller i (.waiting k)).setCanary k (.sending i))
    | _, _ => none
  | .unavailable i => match s.callers[i]? with
    | some .selecting =>
        -- The default of a select is taken only where nothing else is ready.
        if i ∈ s.cancelled ∨ .listening ∈ s.canaries then none
        else some (s.setCaller i (.returned .unavailable))
    | _ => none
  | .giveUp i =>
      if i ∈ s.cancelled then
        match s.callers[i]? with
        | some .selecting => some (s.setCaller i (.returned .cancelled))
        | some (.waiting _) => some (s.setCaller i (.returned .cancelled))
        | _ => none
      else none
  | .send k sent => match s.canaries[k]? with
    | some (.sending i) => some (s.setCanary k (if sent then .receiving i else .returned))
    | _ => none
  | .recv k none => match s.canaries[k]? with
    | some (.receiving i) => some (s.setCanary k (.failing i))
    | _ => none
  | .recv k (some success) => match s.canaries[k]? with
    | some (.receiving i) =>
        some { s.setCanary k (.answering i success) with
          reported := if success then i :: s.reported else s.reported }
    | _ => none
  | .answer k => match s.canaries[k]? with
    -- The answer that was not received is read after the caller was told that there is none.
    | some (.failing i) => match s.callers[i]? with
      | some (.waiting _) => some ((s.receive i false).setCanary k .panicked)
      | _ => none
    | some (.answering i success) => match s.callers[i]? with
      | some (.waiting _) => some ((s.receive i success).setCanary k .returned)
      | _ => none
    | _ => none

/-- Nobody calls and nobody listens. -/
def start : Helper :=
  ⟨[], [], [], []⟩

/-- A caller returns once. -/
def Kept (s s' : Helper) : Prop :=
  ∀ (i : Nat) (result : PrepareResult), s.callers[i]? = some (.returned result) →
    s'.callers[i]? = some (.returned result)

/-- Success was reported for whoever returns without an error. -/
def Reported (s : Helper) : Prop :=
  ∀ i : Nat, s.callers[i]? = some (.returned .ok) → i ∈ s.reported

/-- No canary has panicked, and the caller of a canary that sends an answer waits for it. -/
structure Sound (s : Helper) : Prop where
  calm : ∀ k : Nat, s.canaries[k]? ≠ some .panicked
  awaited : ∀ (k : Nat) (c : CanaryPhase) (i : Nat), s.canaries[k]? = some c →
    c.answers = some i → ∃ k', s.callers[i]? = some (.waiting k')

/-- What is asked of a step. -/
structure Handled (s : Helper) (s' : Helper) : Prop where
  kept : Kept s s'
  reported : Reported s'
  sound : Sound s'

/-- A canary receives something, or fails to, while its caller waits. A caller does not give up on a
canary that sends the answer, and no canary sends the answer for a client that did not. -/
def Heard (s : Helper) : Action → Prop
  | .recv k _ => ∀ i : Nat, s.canaries[k]? = some (.receiving i) →
      ∃ k', s.callers[i]? = some (.waiting k')
  | .giveUp i => ∀ (k : Nat) (c : CanaryPhase), s.canaries[k]? = some c → c.answers ≠ some i
  | .answer k => ∀ i : Nat, s.canaries[k]? ≠ some (.failing i)
  | _ => True

/-! ## Links -/

/-- The caller whose channel a canary has is not selecting any more, and if it waits it waits for
this canary. Success that is passed on was reported. -/
structure Linked (s : Helper) : Prop where
  triggered : ∀ (k : Nat) (c : CanaryPhase) (i : Nat), s.canaries[k]? = some c → c.rc = some i →
    ∃ phase, s.callers[i]? = some phase ∧ phase ≠ .selecting ∧ ∀ k', phase = .waiting k' → k' = k
  told : ∀ k i : Nat, s.canaries[k]? = some (.answering i true) → i ∈ s.reported
  reported : Reported s

variable {s s' : Helper} {a : Action} {i k : Nat}

/-- What a step can be. -/
inductive Moves (s : Helper) : Action → Helper → Prop
  | prepare : Moves s .prepare { s with callers := s.callers ++ [.selecting] }
  | cancel (i : Nat) : Moves s (.cancel i) { s with cancelled := i :: s.cancelled }
  | canary : Moves s .canary { s with canaries := s.canaries ++ [.listening] }
  | trigger {i k : Nat} (hi : s.callers[i]? = some .selecting)
      (hk : s.canaries[k]? = some .listening) :
      Moves s (.trigger i k) ((s.setCaller i (.waiting k)).setCanary k (.sending i))
  | unavailable {i : Nat} (hi : s.callers[i]? = some .selecting) :
      Moves s (.unavailable i) (s.setCaller i (.returned .unavailable))
  | giveUp {i : Nat} {phase : CallerPhase} (hi : s.callers[i]? = some phase)
      (hphase : ∀ result, phase ≠ .returned result) :
      Moves s (.giveUp i) (s.setCaller i (.returned .cancelled))
  | sent {k i : Nat} (hk : s.canaries[k]? = some (.sending i)) :
      Moves s (.send k true) (s.setCanary k (.receiving i))
  | sendFailed {k i : Nat} (hk : s.canaries[k]? = some (.sending i)) :
      Moves s (.send k false) (s.setCanary k .returned)
  | recvFailed {k i : Nat} (hk : s.canaries[k]? = some (.receiving i)) :
      Moves s (.recv k none) (s.setCanary k (.failing i))
  | received {k i : Nat} (success : Bool) (hk : s.canaries[k]? = some (.receiving i)) :
      Moves s (.recv k (some success))
        { s.setCanary k (.answering i success) with
          reported := if success then i :: s.reported else s.reported }
  | failed {k i k' : Nat} (hk : s.canaries[k]? = some (.failing i))
      (hi : s.callers[i]? = some (.waiting k')) :
      Moves s (.answer k) ((s.receive i false).setCanary k .panicked)
  | answered {k i k' : Nat} {success : Bool} (hk : s.canaries[k]? = some (.answering i success))
      (hi : s.callers[i]? = some (.waiting k')) :
      Moves s (.answer k) ((s.receive i success).setCanary k .returned)

/-- The inversion lemma: what a step does to callers and canaries. -/
theorem moves_of_step (h : s.step a = some s') : Moves s a s' := by
  cases a with
  | prepare =>
      rw [step, Option.some.injEq] at h
      exact h ▸ .prepare
  | cancel i =>
      rw [step, Option.some.injEq] at h
      exact h ▸ .cancel i
  | canary =>
      rw [step, Option.some.injEq] at h
      exact h ▸ .canary
  | trigger i k =>
      rw [step] at h
      split at h
      · -- A send and its receive are one step, so both have to be there.
        next hi hk =>
          rw [Option.some.injEq] at h
          exact h ▸ .trigger hi hk
      · exact nomatch h
  | unavailable i =>
      rw [step] at h
      split at h
      · next hi =>
          split at h
          · -- Not while a canary listens or the context is done.
            exact nomatch h
          · rw [Option.some.injEq] at h
            exact h ▸ .unavailable hi
      · exact nomatch h
  | giveUp i =>
      rw [step] at h
      split at h
      · split at h
        · -- A caller gives up before it has triggered a canary, or while it waits for one.
          next hi =>
            rw [Option.some.injEq] at h
            exact h ▸ .giveUp hi (by exact nofun)
        · next hi =>
            rw [Option.some.injEq] at h
            exact h ▸ .giveUp hi (by exact nofun)
        · exact nomatch h
      · exact nomatch h
  | send k sent =>
      rw [step] at h
      split at h
      · next i hk =>
          rw [Option.some.injEq] at h
          cases sent with
          | true => exact h ▸ .sent hk
          | false => exact h ▸ .sendFailed hk
      · exact nomatch h
  | recv k success =>
      cases success with
      | none =>
          rw [step] at h
          split at h
          · next i hk =>
              rw [Option.some.injEq] at h
              exact h ▸ .recvFailed hk
          · exact nomatch h
      | some success =>
          rw [step] at h
          split at h
          · next i hk =>
              rw [Option.some.injEq] at h
              exact h ▸ .received success hk
          · exact nomatch h
  | answer k =>
      rw [step] at h
      split at h
      · next i hk =>
          -- The caller is told that there is no answer, and then the canary panics.
          split at h
          · next hi =>
              rw [Option.some.injEq] at h
              exact h ▸ .failed hk hi
          · exact nomatch h
      · next i success hk =>
          split at h
          · next hi =>
              rw [Option.some.injEq] at h
              exact h ▸ .answered hk hi
          · exact nomatch h
      · exact nomatch h

theorem rc_of_answers {c : CanaryPhase} (h : c.answers = some i) : c.rc = some i := by
  cases c with
  | failing rc => exact h
  | answering rc success => exact h
  | listening => exact nomatch h
  | sending rc => exact nomatch h
  | receiving rc => exact nomatch h
  | returned => exact nomatch h
  | panicked => exact nomatch h

/-- A canary in the longer list is one from before or the one that has begun to listen. -/
theorem getElem?_append_listening {c : CanaryPhase}
    (h : (s.canaries ++ [.listening])[k]? = some c) : s.canaries[k]? = some c ∨ c = .listening := by
  rw [List.getElem?_append] at h
  split at h
  · exact .inl h
  · exact .inr (List.mem_singleton.mp (List.mem_of_getElem? h))

theorem getElem?_append_selecting {phase : CallerPhase}
    (h : s.callers[i]? = some phase) : (s.callers ++ [.selecting])[i]? = some phase := by
  rw [List.getElem?_append_left (List.getElem?_eq_some_iff.mp h).1]
  exact h

theorem linked_prepare (hs : Linked s) :
    Linked { s with callers := s.callers ++ [.selecting] } where
  triggered k c i hk hrc := by
    rcases hs.triggered k c i hk hrc with ⟨phase, hi, hphase⟩
    exact ⟨phase, getElem?_append_selecting hi, hphase⟩
  told := hs.told
  reported i hi := by
    rw [List.getElem?_append] at hi
    split at hi
    · exact hs.reported i hi
    · exact absurd (List.mem_singleton.mp (List.mem_of_getElem? hi)) nofun

theorem linked_canary (hs : Linked s) :
    Linked { s with canaries := s.canaries ++ [.listening] } where
  triggered k c i hk hrc := by
    rcases getElem?_append_listening hk with hold | rfl
    · exact hs.triggered k c i hold hrc
    · exact nomatch hrc
  told k i hk := by
    rcases getElem?_append_listening hk with hold | hnew
    · exact hs.told k i hold
    · exact nomatch hnew
  reported := hs.reported

theorem linked_setCaller (hs : Linked s) {phase : CallerPhase} (hi : s.callers[i]? = some phase)
    {result : PrepareResult} (hok : result = .ok → i ∈ s.reported) :
    Linked (s.setCaller i (.returned result)) where
  triggered k c j hk hrc := by
    rw [setCaller, Parties.getElem?_set_eq_ite hi]
    split
    · exact ⟨_, rfl, by exact nofun, by exact nofun⟩
    · exact hs.triggered k c j hk hrc
  told := hs.told
  reported j hj := by
    rw [setCaller, Parties.getElem?_set_eq_ite hi] at hj
    split at hj
    · next hsame =>
        rw [hsame]
        exact hok (CallerPhase.returned.inj (Option.some.inj hj))
    · exact hs.reported j hj

/-- A canary goes on with the channel that it has, or without one. -/
theorem linked_setCanary (hs : Linked s) {c c' : CanaryPhase} (hk : s.canaries[k]? = some c)
    (hrc : ∀ i, c'.rc = some i → c.rc = some i)
    (htold : ∀ i, c' = .answering i true → i ∈ s.reported) : Linked (s.setCanary k c') where
  triggered j d i hj hd := by
    rw [setCanary, Parties.getElem?_set_eq_ite hk] at hj
    split at hj
    · next hsame =>
        rw [hsame]
        exact hs.triggered k c i hk (hrc i (Option.some.inj hj ▸ hd))
    · exact hs.triggered j d i hj hd
  told j i hj := by
    rw [setCanary, Parties.getElem?_set_eq_ite hk] at hj
    split at hj
    · exact htold i (Option.some.inj hj)
    · exact hs.told j i hj
  reported := hs.reported

theorem linked_report (hs : Linked s) (i : Nat) :
    Linked { s with reported := i :: s.reported } where
  triggered := hs.triggered
  told k j hk := List.mem_cons_of_mem i (hs.told k j hk)
  reported j hj := List.mem_cons_of_mem i (hs.reported j hj)

/-- Nobody has the channel of a caller that is selecting. -/
theorem rc_ne_of_selecting (hs : Linked s) (hi : s.callers[i]? = some .selecting)
    {c : CanaryPhase} (hk : s.canaries[k]? = some c) : c.rc ≠ some i := by
  intro hrc
  rcases hs.triggered k c i hk hrc with ⟨phase, hi', hne, -⟩
  exact hne (Option.some.inj (hi'.symm.trans hi))

/-- A caller and a canary that meet are linked from then on. -/
theorem linked_trigger (hs : Linked s) (hi : s.callers[i]? = some .selecting)
    (hk : s.canaries[k]? = some .listening) :
    Linked ((s.setCaller i (.waiting k)).setCanary k (.sending i)) where
  triggered j d i' hj hd := by
    rw [setCanary, setCaller, Parties.getElem?_set_eq_ite hk] at hj
    rw [setCanary, setCaller, Parties.getElem?_set_eq_ite hi]
    split at hj
    · next hsame =>
        rw [← Option.some.inj hj, CanaryPhase.rc, Option.some.injEq] at hd
        rw [if_pos hd.symm]
        exact ⟨_, rfl, by exact nofun,
          fun k' h => (CallerPhase.waiting.inj h).symm.trans hsame.symm⟩
    · have hne : i' ≠ i := by
        rintro rfl
        exact rc_ne_of_selecting hs hi hj hd
      rw [if_neg hne]
      exact hs.triggered j d i' hj hd
  told j i' hj := by
    rw [setCanary, setCaller, Parties.getElem?_set_eq_ite hk] at hj
    split at hj
    · exact nomatch hj
    · exact hs.told j i' hj
  reported j hj := by
    rw [setCanary, setCaller, Parties.getElem?_set_eq_ite hi] at hj
    split at hj
    · exact nomatch hj
    · exact hs.reported j hj

/-- The step lemma: every link is between a caller and the canary that it triggered. -/
theorem linked_step (hs : Linked s) (h : s.step a = some s') : Linked s' := by
  cases moves_of_step h with
  | prepare => exact linked_prepare hs
  | cancel i => exact ⟨hs.triggered, hs.told, hs.reported⟩
  | canary => exact linked_canary hs
  | trigger hi hk => exact linked_trigger hs hi hk
  | unavailable hi => exact linked_setCaller hs hi (by exact nofun)
  | giveUp hi _ => exact linked_setCaller hs hi (by exact nofun)
  | sent hk => exact linked_setCanary hs hk (fun _ hj => hj) (by exact nofun)
  | sendFailed hk => exact linked_setCanary hs hk (by exact nofun) (by exact nofun)
  | recvFailed hk => exact linked_setCanary hs hk (fun _ hj => hj) (by exact nofun)
  | received success hk =>
      rename_i k i
      cases success with
      | false => exact linked_setCanary hs hk (fun _ hj => hj) (by exact nofun)
      | true =>
          refine linked_setCanary (linked_report hs i) hk (fun _ hj => hj) fun j hj => ?_
          rw [(CanaryPhase.answering.inj hj).1]
          exact List.mem_cons_self
  | failed hk hi =>
      exact linked_setCanary (linked_setCaller hs hi (by exact nofun)) hk (by exact nofun)
        (by exact nofun)
  | answered hk hi =>
      rename_i k i k' success
      refine linked_setCanary (linked_setCaller hs hi fun hok => ?_) hk (by exact nofun)
        (by exact nofun)
      cases success with
      | false => exact nomatch hok
      | true => exact hs.told k i hk

/-! ## Answers -/

/-- A canary moves on to where it answers nobody, or somebody who waits. -/
theorem sound_setCanary_iff (hs : Sound s) {c c' : CanaryPhase} (hk : s.canaries[k]? = some c) :
    Sound (s.setCanary k c') ↔ c' ≠ .panicked ∧ ∀ i, c'.answers = some i →
      ∃ k', s.callers[i]? = some (.waiting k') := by
  constructor
  · intro hs'
    have hnew : (s.setCanary k c').canaries[k]? = some c' := by
      rw [setCanary, Parties.getElem?_set_eq_ite hk, if_pos rfl]
    refine ⟨fun hpanicked => ?_, fun i hi => hs'.awaited k c' i hnew hi⟩
    exact hs'.calm k (hnew.trans (congrArg some hpanicked))
  · rintro ⟨hne, hwaits⟩
    refine ⟨fun j hj => ?_, fun j d i hj hd => ?_⟩
    · rw [setCanary, Parties.getElem?_set_eq_ite hk] at hj
      split at hj
      · exact hne (Option.some.inj hj)
      · exact hs.calm j hj
    · rw [setCanary, Parties.getElem?_set_eq_ite hk] at hj
      split at hj
      · exact hwaits i (Option.some.inj hj ▸ hd)
      · exact hs.awaited j d i hj hd

/-- A caller returns, which is right where no canary is answering it. -/
theorem sound_setCaller_iff (hs : Sound s) {phase : CallerPhase} (hi : s.callers[i]? = some phase)
    (result : PrepareResult) : Sound (s.setCaller i (.returned result)) ↔
      ∀ (k : Nat) (c : CanaryPhase), s.canaries[k]? = some c → c.answers ≠ some i := by
  constructor
  · intro hs' k c hk hanswers
    rcases hs'.awaited k c i hk hanswers with ⟨k', hwaiting⟩
    rw [setCaller, Parties.getElem?_set_eq_ite hi, if_pos rfl] at hwaiting
    exact nomatch hwaiting
  · intro hnone
    refine ⟨hs.calm, fun k c j hk hanswers => ?_⟩
    have hne : j ≠ i := by
      rintro rfl
      exact hnone k c hk hanswers
    rw [setCaller, Parties.getElem?_set_eq_ite hi, if_neg hne]
    exact hs.awaited k c j hk hanswers

/-- Nobody answers a caller that has not triggered a canary yet. -/
theorem answers_ne_of_selecting (hs : Linked s) (hi : s.callers[i]? = some .selecting) (k : Nat)
    (c : CanaryPhase) (hk : s.canaries[k]? = some c) : c.answers ≠ some i :=
  fun hanswers => rc_ne_of_selecting hs hi hk (rc_of_answers hanswers)

theorem sound_prepare (hs : Sound s) : Sound { s with callers := s.callers ++ [.selecting] } where
  calm := hs.calm
  awaited k c i hk hanswers := by
    rcases hs.awaited k c i hk hanswers with ⟨k', hi⟩
    exact ⟨k', getElem?_append_selecting hi⟩

theorem sound_canary (hs : Sound s) : Sound { s with canaries := s.canaries ++ [.listening] } where
  calm k hk := by
    rcases getElem?_append_listening hk with hold | hnew
    · exact hs.calm k hold
    · exact nomatch hnew
  awaited k c i hk hanswers := by
    rcases getElem?_append_listening hk with hold | rfl
    · exact hs.awaited k c i hold hanswers
    · exact nomatch hanswers

theorem sound_trigger (hl : Linked s) (hs : Sound s) (hi : s.callers[i]? = some .selecting)
    (hk : s.canaries[k]? = some .listening) :
    Sound ((s.setCaller i (.waiting k)).setCanary k (.sending i)) := by
  have hcaller : Sound (s.setCaller i (.waiting k)) := by
    refine ⟨hs.calm, fun j c i' hj hanswers => ?_⟩
    have hne : i' ≠ i := by
      rintro rfl
      exact answers_ne_of_selecting hl hi j c hj hanswers
    rw [setCaller, Parties.getElem?_set_eq_ite hi, if_neg hne]
    exact hs.awaited j c i' hj hanswers
  exact (sound_setCanary_iff hcaller hk).mpr ⟨by exact nofun, by exact nofun⟩

/-- The canary that answers a caller is the only one that does. -/
theorem sound_answer (hl : Linked s) (hs : Sound s) {success : Bool}
    (hk : s.canaries[k]? = some (.answering i success)) (result : PrepareResult) :
    Sound ((s.setCaller i (.returned result)).setCanary k .returned) := by
  rcases hs.awaited k _ i hk rfl with ⟨k', hi⟩
  rcases hl.triggered k _ i hk rfl with ⟨phase, hi', -, hphase⟩
  -- The caller waits for one canary, so that another one which answers it is the same.
  have hcanary : k' = k := hphase k' (Option.some.inj (hi'.symm.trans hi))
  have hmoved : Sound (s.setCanary k .returned) :=
    (sound_setCanary_iff hs hk).mpr ⟨by exact nofun, by exact nofun⟩
  refine (sound_setCaller_iff (s := s.setCanary k .returned) hmoved hi result).mpr
    fun j c hj hanswers => ?_
  rw [setCanary, Parties.getElem?_set_eq_ite hk] at hj
  split at hj
  · rw [← Option.some.inj hj] at hanswers
    exact nomatch hanswers
  · next hne =>
      rcases hl.triggered j c i hj (rc_of_answers hanswers) with ⟨phase', hi'', -, hphase'⟩
      exact hne ((hphase' k' (Option.some.inj (hi''.symm.trans hi))).symm.trans hcanary)

/-- A canary that has received something, or failed to, answers a caller who may have gone. -/
theorem sound_recv_iff (hs : Sound s) (hk : s.canaries[k]? = some (.receiving i))
    {c : CanaryPhase} (hcalm : c ≠ .panicked) (hanswers : c.answers = some i)
    (success : Option Bool) : Sound (s.setCanary k c) ↔ Heard s (.recv k success) := by
  rw [sound_setCanary_iff hs hk]
  constructor
  · rintro ⟨-, hwaits⟩ j hj
    have hsame : j = i := CanaryPhase.receiving.inj (Option.some.inj (hj.symm.trans hk))
    exact hsame ▸ hwaits i hanswers
  · intro hheard
    refine ⟨hcalm, fun j hj => ?_⟩
    have hsame : i = j := Option.some.inj (hanswers.symm.trans hj)
    exact hsame ▸ hheard i hk

/-- A step avoids the gaps exactly when it is heard. -/
theorem sound_step_iff (hl : Linked s) (hs : Sound s) (h : s.step a = some s') :
    Sound s' ↔ Heard s a := by
  cases moves_of_step h with
  | prepare => exact iff_of_true (sound_prepare hs) trivial
  | cancel i => exact iff_of_true ⟨hs.calm, hs.awaited⟩ trivial
  | canary => exact iff_of_true (sound_canary hs) trivial
  | trigger hi hk => exact iff_of_true (sound_trigger hl hs hi hk) trivial
  | unavailable hi =>
      exact iff_of_true ((sound_setCaller_iff hs hi _).mpr (answers_ne_of_selecting hl hi)) trivial
  | giveUp hi _ => exact sound_setCaller_iff hs hi _
  | sent hk =>
      exact iff_of_true ((sound_setCanary_iff hs hk).mpr ⟨by exact nofun, by exact nofun⟩) trivial
  | sendFailed hk =>
      exact iff_of_true ((sound_setCanary_iff hs hk).mpr ⟨by exact nofun, by exact nofun⟩) trivial
  | recvFailed hk => exact sound_recv_iff hs hk (by exact nofun) rfl none
  | received success hk =>
      refine Iff.trans ⟨fun hs' => ?_, fun hs' => ?_⟩
        (sound_recv_iff hs hk (c := .answering _ success) (by exact nofun) rfl (some success))
      · exact ⟨hs'.calm, hs'.awaited⟩
      · exact ⟨hs'.calm, hs'.awaited⟩
  -- The step that panics is the one that is not heard.
  | failed hk hi =>
      rename_i k i k'
      refine iff_of_false (fun hs' => hs'.calm k ?_) fun hheard => hheard i hk
      rw [receive, setCanary, setCaller, Parties.getElem?_set_eq_ite hk, if_pos rfl]
  | answered hk hi =>
      refine iff_of_true (sound_answer hl hs hk _) fun j hj => ?_
      exact nomatch hk.symm.trans hj

/-! ## Runs -/

theorem kept_setCaller {phase : CallerPhase} (hi : s.callers[i]? = some phase)
    (hne : ∀ result, phase ≠ .returned result) (phase' : CallerPhase) :
    Kept s (s.setCaller i phase') := by
  intro j result hj
  rw [setCaller, Parties.getElem?_set_eq_ite hi]
  split
  · next hsame =>
      rw [hsame] at hj
      exact absurd (Option.some.inj (hi.symm.trans hj)) (hne result)
  · exact hj

/-- What was returned stays returned. -/
theorem kept_step (h : s.step a = some s') : Kept s s' := by
  cases moves_of_step h with
  | prepare => exact fun _ _ hj => getElem?_append_selecting hj
  | cancel i => exact fun _ _ hj => hj
  | canary => exact fun _ _ hj => hj
  | trigger hi _ => exact kept_setCaller hi (by exact nofun) _
  | unavailable hi => exact kept_setCaller hi (by exact nofun) _
  | giveUp hi hphase => exact kept_setCaller hi hphase _
  | sent _ => exact fun _ _ hj => hj
  | sendFailed _ => exact fun _ _ hj => hj
  | recvFailed _ => exact fun _ _ hj => hj
  | received _ _ => exact fun _ _ hj => hj
  | failed _ hi => exact kept_setCaller hi (by exact nofun) _
  | answered _ hi => exact kept_setCaller hi (by exact nofun) _

theorem linked_start : Linked start where
  triggered _ _ _ hk := nomatch hk
  told _ _ hk := nomatch hk
  reported _ hi := nomatch hi

theorem sound_start : Sound start where
  calm _ hk := nomatch hk
  awaited _ _ _ hk := nomatch hk

/-- Along a run callers return once, without an error only after success was reported for them,
    no canary panics, and none is left with an answer, exactly when every step is heard. Caller
    and canary meet on channels without a buffer, so each has to be there when the other comes. -/
theorem handled_iff_heard (as : List Action) :
    StepsAlong step (fun s _ s' => Handled s s') as start ↔ MeetsAlong step Heard as start := by
  have hinv : ∀ s a s', Linked s ∧ Sound s → step s a = some s' → Handled s s' →
      Linked s' ∧ Sound s' := by
    rintro s a s' ⟨hlinked, -⟩ hstep hhandled
    exact ⟨linked_step hlinked hstep, hhandled.sound⟩
  refine stepsAlong_iff_meetsAlong_while hinv ?_ as start ⟨linked_start, sound_start⟩
  rintro s a s' ⟨hlinked, hsound⟩ hstep
  constructor
  · exact fun hhandled => (sound_step_iff hlinked hsound hstep).mp hhandled.sound
  · exact fun hheard => ⟨kept_step hstep, (linked_step hlinked hstep).reported,
      (sound_step_iff hlinked hsound hstep).mpr hheard⟩

/-- A canary whose client is gone answers, and then reads what it did not receive. -/
theorem panicked_after_recv : ¬ ∀ as : List Action,
    StepsAlong step (fun s _ s' => Handled s s') as start := by
  intro hall
  have h := hall [.canary, .prepare, .trigger 0 0, .send 0 true, .recv 0 none, .answer 0]
  exact h.2.2.2.2.2.1.sound.calm 0 rfl

end Helper

end Supervisor

end Nxpod
