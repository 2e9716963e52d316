import Nxpod.Prebuilds.Bridge

/-!
# The Record of an Instance

The times in the record of an instance and its phase. How long a workspace took to start
and how long it was used is computed from the times, so each of them must be noted once.
An instance that has stopped must not come back.

The handler of an update and a controller run read the whole record, and store it later
with what they have changed. Who stores last wins. But a time that is not there in a copy
is undefined, and does not take back what is in the record. So the start and the
deployment, which are noted once by handlers that come one after the other, are never
lost. The stop is noted by both, whatever is there already, and the phase is stored as it
is in the copy.

Beside the state there is a note of the record that the handler has read, and of when.
No step depends on it.

## Main definitions

* `Traced`, `tracedStep`: The bridge with the note.
* `Keeps`: What must not change in a record.
* `InOrder`: The condition on a step.
* `Known`: The invariant.

## Theorems

* `map_state_runActions`: The note changes nothing.
* `keeps_update_iff`, `keeps_stopped_iff`: What an update and a controller run do to a record.
* `known_next`, `known_step`: What a step preserves.
* `keeps_iff_of_step`: The steps that keep the record.
* `keeps_iff`: The runs that do.
-/

namespace Nxpod

namespace Prebuilds

namespace Bridge

open Transition WsManager.Status

/-- `read` is the record that the handler has read, at the time `readAt`. -/
structure Traced where
  state : State
  read : WorkspaceInstance
  readAt : Nat

/-- The note after a step: when an update is handled, what is read is noted. -/
def Traced.next (t : Traced) (s' : State) (a : Action) : Traced :=
  match a, t.state.handler with
  | .next now, .received _ => ⟨s', t.state.wsi, now⟩
  | _, _ => { t with state := s' }

/-- The same steps, with a note taken. -/
def tracedStep (max : Nat) (t : Traced) (a : Action) : Option Traced :=
  (step max t.state a).map fun s' => t.next s' a

/-- Nothing was read yet. -/
def newTraced (wsi : WorkspaceInstance) (prebuild : PrebuildRow) : Traced :=
  ⟨newState wsi prebuild, wsi, 0⟩

/-- A time that was set is not changed, and an instance that has stopped stays so. -/
structure Keeps (old new : WorkspaceInstance) : Prop where
  startedTime : ∀ time, old.startedTime = some time → new.startedTime = some time
  deployedTime : ∀ time, old.deployedTime = some time → new.deployedTime = some time
  stoppedTime : ∀ time, old.stoppedTime = some time → new.stoppedTime = some time
  phase : old.phase = .stopped → new.phase = .stopped

/-- A stopped instance gets no other update, unless that says nothing about the phase and its
    handler has read that the instance is stopped. The stop is not noted again at another time. -/
def InOrder (t : Traced) : Action → Prop
  | .next _ => match t.state.handler with
    | .storing status _ =>
        (t.state.wsi.phase = .stopped →
          status.phase = .stopped ∨ status.phase = .unknown ∧ t.read.phase = .stopped) ∧
        (status.phase = .stopped → ∀ time ∈ t.state.wsi.stoppedTime, t.readAt = time)
    | _ => True
  | .storeStopped j => match t.state.runs[j]? with
    | some (.marking _ now true _) => ∀ time ∈ t.state.wsi.stoppedTime, now = time
    | _ => True
  | _ => True

theorem keeps_refl (wsi : WorkspaceInstance) : Keeps wsi wsi :=
  ⟨fun _ h => h, fun _ h => h, fun _ h => h, fun h => h⟩

/-- A copy that is stored keeps a time that it has not, or that it has in common with the record. -/
theorem or_eq_some_of_copy {old new : Option Nat}
    (hcopy : ∀ time, new = some time → old = some time) {time : Nat} (h : old = some time) :
    new.or old = some time := by
  cases new with
  | none => exact h
  | some time' => rw [Option.some_or, ← h, hcopy time' rfl]

/-- The start and the deployment are noted once. -/
theorem keeps_update_iff {old read : WorkspaceInstance} (now : Nat) (status : WorkspaceStatus)
    (hstarted : read.startedTime = old.startedTime)
    (hdeployed : read.deployedTime = old.deployedTime)
    (hstopped : ∀ time, read.stoppedTime = some time → old.stoppedTime = some time) :
    Keeps old (storeInstance (update now status read) old) ↔
      (old.phase = .stopped →
        status.phase = .stopped ∨ status.phase = .unknown ∧ read.phase = .stopped) ∧
      (status.phase = .stopped → ∀ time ∈ old.stoppedTime, now = time) := by
  constructor
  · intro h
    refine ⟨fun hphase => ?_, fun hphase time htime => ?_⟩
    · exact (phase_update now status read).mp (h.phase hphase)
    · have hkept := h.stoppedTime time htime
      unfold storeInstance update at hkept
      dsimp only at hkept
      rw [if_pos hphase, Option.some_or] at hkept
      exact Option.some.inj hkept
  · rintro ⟨hphase, htime⟩
    refine ⟨fun time h => ?_, fun time h => ?_, fun time h => ?_, fun h => ?_⟩
    · unfold storeInstance update
      dsimp only
      rw [hstarted, h]
      split_ifs <;> rfl
    · unfold storeInstance update
      dsimp only
      rw [hdeployed, h]
      split_ifs <;> rfl
    · -- only the time of the stop is written again
      unfold storeInstance update
      dsimp only
      split_ifs with hphase'
      · rw [Option.some_or, htime hphase' time h]
      · exact or_eq_some_of_copy hstopped h
    · exact (phase_update now status read).mpr (hphase h)

/-- A controller run does not lose the start and the deployment. -/
theorem keeps_stopped_iff {old read : WorkspaceInstance} (now : Nat)
    (hstarted : ∀ time, read.startedTime = some time → old.startedTime = some time)
    (hdeployed : ∀ time, read.deployedTime = some time → old.deployedTime = some time) :
    Keeps old (storeInstance { read with phase := .stopped, stoppedTime := some now } old) ↔
      ∀ time ∈ old.stoppedTime, now = time := by
  constructor
  · intro h time htime
    exact Option.some.inj (h.stoppedTime time htime)
  · intro htime
    exact ⟨fun _ h => or_eq_some_of_copy hstarted h, fun _ h => or_eq_some_of_copy hdeployed h,
      fun time h => congrArg some (htime time h), fun _ => rfl⟩

/-! ## What was read -/

/-- The record that a controller run has read. -/
def Control.copy : Control → Option WorkspaceInstance
  | .listing | .done => none
  | .asking wsi | .marking wsi _ _ _ => some wsi

/-- The handler has read the start and the deployment that the record has, and no other stop. A
    controller run has not read any other start or deployment. -/
structure Known (t : Traced) : Prop where
  inHand : ∀ status wsi, t.state.handler.inHand = some (status, wsi) →
    wsi = update t.readAt status t.read ∧ t.read.startedTime = t.state.wsi.startedTime ∧
      t.read.deployedTime = t.state.wsi.deployedTime ∧
        ∀ time, t.read.stoppedTime = some time → t.state.wsi.stoppedTime = some time
  copies : ∀ run ∈ t.state.runs, ∀ read, run.copy = some read →
    (∀ time, read.startedTime = some time → t.state.wsi.startedTime = some time) ∧
    ∀ time, read.deployedTime = some time → t.state.wsi.deployedTime = some time

variable {t t' : Traced} {s' : State} {a : Action} {max : Nat}

@[simp] theorem state_next : (t.next s' a).state = s' := by
  unfold Traced.next
  split <;> rfl

/-- The bridge goes on as it does without the note. -/
theorem map_state_runActions (as : List Action) (t : Traced) :
    (runActions (tracedStep max) as t).map Traced.state = runActions (step max) as t.state := by
  induction as generalizing t with
  | nil => rfl
  | cons a as ih =>
      unfold runActions tracedStep
      cases step max t.state a with
      | none => rfl
      | some s' =>
          exact (ih (t.next s' a)).trans (by rw [state_next])

/-- Only the step that reads the record makes a note. -/
theorem next_eq_of_ne_received {now : Nat} (h : ∀ status, t.state.handler ≠ .received status) :
    t.next s' (.next now) = { t with state := s' } := by
  unfold Traced.next
  split
  · next status _ hhandler => exact absurd hhandler (h status)
  · rfl

/-- A handler that goes on with the same in its hands. -/
theorem known_handler (ht : Known t) (hwsi : s'.wsi = t.state.wsi)
    (hruns : s'.runs = t.state.runs)
    (hinHand : ∀ pair, s'.handler.inHand = some pair → t.state.handler.inHand = some pair) :
    Known { t with state := s' } := by
  refine ⟨fun status wsi h => ?_, ?_⟩
  · dsimp only at h ⊢
    rw [hwsi]
    exact ht.inHand status wsi (hinHand _ h)
  · dsimp only
    rw [hwsi, hruns]
    exact ht.copies

/-- The same for a step of the handler that does not read the record. -/
theorem known_next_of_same {now : Nat} (ht : Known t)
    (hreads : ∀ status, t.state.handler ≠ .received status) (hwsi : s'.wsi = t.state.wsi)
    (hruns : s'.runs = t.state.runs) (hinHand : s'.handler.inHand = t.state.handler.inHand) :
    Known (t.next s' (.next now)) := by
  rw [next_eq_of_ne_received hreads]
  exact known_handler ht hwsi hruns fun _ hpair => hinHand ▸ hpair

/-- A controller run that has read nothing else. -/
theorem known_goOn {j : Nat} {run : Control} (ht : Known t)
    (hrun : ∀ read, run.copy = some read →
      (∀ time, read.startedTime = some time → t.state.wsi.startedTime = some time) ∧
      ∀ time, read.deployedTime = some time → t.state.wsi.deployedTime = some time) :
    Known { t with state := goOn t.state j run } :=
  ⟨ht.inHand, Parties.forall_mem_set ht.copies hrun⟩

/-- A step of the handler keeps what is known about its copy. -/
theorem known_next {now : Nat} (ht : Known t) (h : next t.state now t.state.handler = some s')
    (hkeeps : Keeps t.state.wsi s'.wsi) : Known (t.next s' (.next now)) := by
  cases hhandler : t.state.handler with
  | idle =>
      rw [hhandler] at h
      cases h
  | received status =>
      rw [hhandler, next, Option.some.injEq] at h
      unfold Traced.next
      rw [hhandler, ← h]
      refine ⟨fun status' wsi' hinHand => ?_, ht.copies⟩
      have hpair : some (status, update now status t.state.wsi) = some (status', wsi') := by
        -- What the handler has in its hands is the row with the update.
        rw [← hinHand]
        dsimp only
        split_ifs <;> rfl
      rw [Option.some.injEq, Prod.mk.injEq] at hpair
      rw [← hpair.1, ← hpair.2]
      exact ⟨rfl, rfl, rfl, fun _ htime => htime⟩
  | loaded status wsi =>
      have hreads : ∀ status, t.state.handler ≠ .received status :=
        fun _ hne => by cases hhandler.symm.trans hne
      rw [hhandler, next, Option.some.injEq] at h
      rw [← h]
      refine known_next_of_same ht hreads rfl rfl ?_
      rw [hhandler]
      dsimp only
      split_ifs
      · rfl
      · exact inHand_afterStart ..
  | starting status wsi prebuild =>
      have hreads : ∀ status, t.state.handler ≠ .received status :=
        fun _ hne => by cases hhandler.symm.trans hne
      rw [hhandler, next, Option.some.injEq] at h
      rw [← h]
      refine known_next_of_same ht hreads rfl rfl ?_
      rw [hhandler]
      exact inHand_afterStart ..
  | concluding status wsi prebuild =>
      have hreads : ∀ status, t.state.handler ≠ .received status :=
        fun _ hne => by cases hhandler.symm.trans hne
      rw [hhandler, next, Option.some.injEq] at h
      rw [← h]
      refine known_next_of_same ht hreads rfl rfl ?_
      rw [hhandler]
      rfl
  | storing status wsi =>
      rw [next_eq_of_ne_received (fun _ hne => by cases hhandler.symm.trans hne)]
      rw [hhandler, next, Option.some.injEq] at h
      refine ⟨fun status' wsi' hinHand => ?_, fun run hrun read hread => ?_⟩
      · -- Nothing is in its hands when the instance is stored.
        rw [← h] at hinHand
        cases hinHand
      · have hruns : s'.runs = t.state.runs := by rw [← h]
        dsimp only at hrun
        rw [hruns] at hrun
        -- What was read before still has the times that were noted by then.
        rcases ht.copies run hrun read hread with ⟨hstarted, hdeployed⟩
        exact ⟨fun time htime => hkeeps.startedTime time (hstarted time htime),
          fun time htime => hkeeps.deployedTime time (hdeployed time htime)⟩

/-- The start and the deployment that a controller run has read are in the record, so that it stores
    what is there. -/
theorem or_eq_of_copy {old new : Option Nat}
    (hcopy : ∀ time, new = some time → old = some time) : new.or old = old := by
  cases new with
  | none => rfl
  | some time => rw [Option.some_or, hcopy time rfl]

/-- The step lemma for what is known about the copies. -/
theorem known_step (ht : Known t) (h : tracedStep max t a = some t')
    (hkeeps : Keeps t.state.wsi t'.state.wsi) : Known t' := by
  unfold tracedStep at h
  rcases Option.map_eq_some_iff.mp h with ⟨s', hstep, rfl⟩
  rw [state_next] at hkeeps
  cases effect_of_step hstep with
  | received status hidle =>
      exact known_handler ht rfl rfl fun _ hne => absurd hne nofun
  | handled now s' hnext => exact known_next ht hnext hkeeps
  | threw =>
      exact known_handler ht rfl rfl fun _ hne => absurd hne nofun
  | began =>
      refine ⟨ht.inHand, fun run hmem read hread => ?_⟩
      rcases List.mem_append.mp hmem with hold | hnew
      · exact ht.copies run hold read hread
      · rw [List.mem_singleton.mp hnew] at hread
        exact absurd hread nofun
  | listed j hrun =>
      refine known_goOn ht fun read hread => ?_
      split_ifs at hread
      · exact absurd hread nofun
      · rw [← Option.some.inj hread]
        exact ⟨fun _ htime => htime, fun _ htime => htime⟩
  | answered j known now wsi hrun =>
      refine known_goOn ht fun read hread => ?_
      split_ifs at hread
      · exact ht.copies _ (List.mem_of_getElem? hrun) read hread
      · exact absurd hread nofun
  | stored j wsi now prebuild hrun =>
      have hcopy := ht.copies _ (List.mem_of_getElem? hrun) wsi rfl
      have hstarted : (storeInstance { wsi with phase := .stopped, stoppedTime := some now }
          t.state.wsi).startedTime = t.state.wsi.startedTime := or_eq_of_copy hcopy.1
      have hdeployed : (storeInstance { wsi with phase := .stopped, stoppedTime := some now }
          t.state.wsi).deployedTime = t.state.wsi.deployedTime := or_eq_of_copy hcopy.2
      have hkept : Known { t with state := goOn t.state j (.marking wsi now false prebuild) } :=
        known_goOn ht fun read hread => Option.some.inj hread ▸ hcopy
      -- what was read is as good as before
      refine ⟨fun status wsi' hinHand => ?_, fun run hmem read hread => ?_⟩
      · rcases hkept.inHand status wsi' hinHand with ⟨hwsi, hstart, hdeploy, hstop⟩
        exact ⟨hwsi, hstart.trans hstarted.symm, hdeploy.trans hdeployed.symm,
          fun time htime => hkeeps.stoppedTime time (hstop time htime)⟩
      · rcases hkept.copies run hmem read hread with ⟨hstart, hdeploy⟩
        exact ⟨fun time htime => hstarted.trans (hstart time htime),
          fun time htime => hdeployed.trans (hdeploy time htime)⟩
  | lookedUp j wsi now toStore hrun =>
      exact known_goOn ht fun read hread =>
        ht.copies _ (List.mem_of_getElem? hrun) read hread
  | aborted j wsi now toStore prebuild hrun =>
      have hkept : Known { t with state := goOn t.state j (.marking wsi now toStore .done) } :=
        known_goOn ht fun read hread => ht.copies _ (List.mem_of_getElem? hrun) read hread
      exact ⟨hkept.inHand, hkept.copies⟩

/-- A step of the handler keeps what is in the record if it comes in order. -/
theorem keeps_next_iff {now : Nat} (ht : Known t)
    (h : next t.state now t.state.handler = some s') :
    Keeps t.state.wsi s'.wsi ↔ InOrder t (.next now) := by
  unfold InOrder
  cases hhandler : t.state.handler with
  | idle =>
      rw [hhandler] at h
      exact absurd h nofun
  | received status =>
      rw [hhandler, next, Option.some.injEq] at h
      rw [← h]
      exact iff_of_true (keeps_refl _) trivial
  | loaded status wsi =>
      rw [hhandler, next, Option.some.injEq] at h
      rw [← h]
      exact iff_of_true (keeps_refl _) trivial
  | starting status wsi prebuild =>
      rw [hhandler, next, Option.some.injEq] at h
      rw [← h]
      exact iff_of_true (keeps_refl _) trivial
  | concluding status wsi prebuild =>
      rw [hhandler, next, Option.some.injEq] at h
      rw [← h]
      exact iff_of_true (keeps_refl _) trivial
  | storing status wsi =>
      rw [hhandler, next, Option.some.injEq] at h
      rw [← h]
      -- Only here the record is written, from the copy in hand.
      rcases ht.inHand status wsi (by rw [hhandler]; rfl) with
        ⟨hwsi, hstarted, hdeployed, hstopped⟩
      rw [hwsi]
      exact keeps_update_iff t.readAt status hstarted hdeployed hstopped

/-- Only a step that stores the record can put something back. -/
theorem keeps_iff_of_step (ht : Known t) (h : tracedStep max t a = some t') :
    Keeps t.state.wsi t'.state.wsi ↔ InOrder t a := by
  unfold tracedStep at h
  rcases Option.map_eq_some_iff.mp h with ⟨s', hstep, rfl⟩
  rw [state_next]
  cases effect_of_step hstep with
  | received status hidle => exact iff_of_true (keeps_refl _) trivial
  | handled now s' hnext => exact keeps_next_iff ht hnext
  | threw => exact iff_of_true (keeps_refl _) trivial
  | began => exact iff_of_true (keeps_refl _) trivial
  | listed j hrun => exact iff_of_true (keeps_refl _) trivial
  | answered j known now wsi hrun => exact iff_of_true (keeps_refl _) trivial
  | stored j wsi now prebuild hrun =>
      unfold InOrder
      dsimp only
      rw [hrun]
      have hcopy := ht.copies _ (List.mem_of_getElem? hrun) wsi rfl
      exact keeps_stopped_iff now hcopy.1 hcopy.2
  | lookedUp j wsi now toStore hrun => exact iff_of_true (keeps_refl _) trivial
  | aborted j wsi now toStore prebuild hrun => exact iff_of_true (keeps_refl _) trivial

theorem known_new (wsi : WorkspaceInstance) (prebuild : PrebuildRow) :
    Known (newTraced wsi prebuild) where
  inHand _ _ hne := absurd hne nofun
  copies _ hmem := absurd hmem List.not_mem_nil

/-- The runs in which the record keeps its times, and an instance that has stopped stays
    so, are those in which everyone stores the record in order. An update that is delivered
    again is enough to change when the instance has stopped. -/
theorem keeps_iff (wsi : WorkspaceInstance) (prebuild : PrebuildRow) (as : List Action) :
    StepsAlong (tracedStep max) (fun t _ t' => Keeps t.state.wsi t'.state.wsi) as
        (newTraced wsi prebuild) ↔
      MeetsAlong (tracedStep max) InOrder as (newTraced wsi prebuild) :=
  stepsAlong_iff_meetsAlong_while (fun _ _ _ ht hstep hkeeps => known_step ht hstep hkeeps)
    (fun _ _ _ ht hstep => keeps_iff_of_step ht hstep) as _ (known_new wsi prebuild)

/-- The stop is noted again when the update is delivered again, and an update that was handled
    late brings the instance back that a controller run has stopped. -/
theorem changed_record :
    (∃ t t', runActions (tracedStep 3600) [.handleStatusUpdate (prebuildIn .stopped), .next 1,
        .next 1, .next 1] (newTraced startedInstance ⟨.aborted, "", ""⟩) = some t ∧
      t.state.wsi.stoppedTime = some 1 ∧
      runActions (tracedStep 3600) [.handleStatusUpdate (prebuildIn .stopped), .next 2, .next 2,
        .next 2] t = some t' ∧ t'.state.wsi.stoppedTime = some 2) ∧
    ∃ t t', runActions (tracedStep 0) [.controlInstallationInstances, .list 0,
        .handleStatusUpdate (prebuildIn .running), .next 1, .answer 0 false 1, .storeStopped 0]
        (newTraced startedInstance ⟨.aborted, "", ""⟩) = some t ∧ t.state.wsi.phase = .stopped ∧
      runActions (tracedStep 0) [.next 1, .next 1] t = some t' ∧
      t'.state.wsi.phase = .running ∧ t'.state.wsi.stoppedTime = some 1 :=
  ⟨⟨_, _, rfl, rfl, rfl, rfl⟩, _, _, rfl, rfl, rfl, rfl, rfl⟩

/-- A controller run that has read the record before the instance was started keeps the start. -/
example : ((runActions (tracedStep 0) [.controlInstallationInstances, .list 0,
    .handleStatusUpdate (prebuildIn .running), .next 1, .next 1, .next 1, .answer 0 false 2,
    .storeStopped 0] (newTraced startedInstance ⟨.aborted, "", ""⟩)).map
      fun t => t.state.wsi.startedTime) = some (some 1) := rfl

end Bridge

end Prebuilds

end Nxpod
