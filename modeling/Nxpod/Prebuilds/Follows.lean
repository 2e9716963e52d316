import Nxpod.Prebuilds.Bridge

/-!
# A Prebuild Follows Its Instance

Who waits for a prebuild waits for its record, and the queue of the repository counts by
it. So a prebuild must not be queued or building any more when its instance has stopped.

The bridge settles a prebuild in two places: when the update is handled that says that
the instance is stopping, and when a controller run finds the prebuild building. An
update that says that the instance has stopped does not. If the one before it was lost,
the instance is stored as stopped and the prebuild stays as it is for good, because the
controller looks at instances only that are not stopped. A controller run stores the
instance without waiting for the prebuild, and passes over one that is queued still.

Beside the state there is a note of what was handled, which no step depends on. It says
nothing about the records: that the prebuild has left the queue when an update was
handled as far as that, and that it is settled when the update about the stop was, is
what has to be proved.

## Main definitions

* `Follows`: No prebuild of a stopped instance is queued or building.
* `Note`, `Noted`, `notedStep`: The bridge with the note.
* `InTime`: The condition on a step, that the record is stored as stopped in time.
* `Inv`: The note is right about the prebuild.

## Theorems

* `map_state_runActions_noted`: The note changes nothing.
* `inv_next`, `inv_step`: What a step preserves.
* `follows_iff_of_step`: The steps that leave a prebuild behind.
* `follows_iff`: The runs without any.
-/

namespace Nxpod

namespace Prebuilds

namespace Bridge

open Transition Parties WsManager.Status

/-- No prebuild of a stopped instance is queued or building. -/
def Follows (s : State) : Prop :=
  s.wsi.phase = .stopped → s.prebuild.state ≠ .queued ∧ s.prebuild.state ≠ .building

/-! ## What was handled -/

/-- The handler has done with the prebuild what it does for every update. -/
def Handler.isPastQueue : Handler → Bool
  | .concluding .. => true
  | .storing status _ => status.type = .prebuild
  | _ => false

/-- The handler has also done what it does for the update that the instance is stopping. -/
def Handler.isPastOutcome : Handler → Bool
  | .storing status _ => status.type = .prebuild && status.phase = .stopping
  | _ => false

/-- A controller run is through with the prebuild. -/
def isControlled (s' : State) : Action → Bool
  | .controlPrebuildInstance j => match s'.runs[j]? with
    | some (.marking _ _ _ .done) => true
    | _ => false
  | _ => false

/-- What was handled so far. `left` is noted of any update, and `settled` of the one that the
    instance is stopping or of a controller run that came after an update. -/
structure Note where
  left : Bool
  settled : Bool

/-- The note after a step. -/
def Note.next (n : Note) (a : Action) (s' : State) : Note where
  left := n.left || s'.handler.isPastQueue
  settled := n.settled || s'.handler.isPastOutcome || n.left && isControlled s' a

/-- A state with its note. -/
structure Noted where
  state : State
  note : Note

/-- The same steps, with a note taken. -/
def notedStep (max : Nat) (t : Noted) (a : Action) : Option Noted :=
  (step max t.state a).map fun s' => ⟨s', t.note.next a s'⟩

/-- At the start the note says what the record says. -/
def newNoted (wsi : WorkspaceInstance) (prebuild : PrebuildRow) : Noted where
  state := newState wsi prebuild
  note := ⟨prebuild.state ≠ .queued, isSettled prebuild.state⟩

/-- The handler of an update that the instance is stopped has come to the record. -/
def Handler.storesStopped : Handler → Bool
  | .storing status _ => status.phase = .stopped
  | _ => false

/-- The record is stored as stopped only after the update that the instance is stopping was handled,
    as far as that is about the prebuild, or after a controller run that came behind some other
    update was through with the prebuild. -/
def InTime (t : Noted) : Action → Prop
  | .next _ => t.state.handler.storesStopped = true → t.note.settled = true
  | .storeStopped _ => t.note.settled = true
  | _ => True

variable {s s' : State} {t t' : Noted} {a : Action} {max : Nat}

theorem map_state_runActions_noted (as : List Action) (t : Noted) :
    (runActions (notedStep max) as t).map Noted.state = runActions (step max) as t.state := by
  induction as generalizing t with
  | nil => rfl
  | cons a as ih =>
      unfold runActions notedStep
      cases step max t.state a with
      | none => rfl
      | some s' => exact ih ⟨s', t.note.next a s'⟩

/-! ## The invariant -/

/-- What the record of the prebuild is when the handler has come this far. A prebuild that is about
    to be stored as building is queued still. Behind the queue it is not queued any more, and behind
    the outcome it is settled. -/
def Handler.Fits (row : PrebuildRow) : Handler → Prop
  | .idle | .received _ => True
  | .loaded status _ => status.type = .prebuild
  | .starting status _ prebuild =>
      status.type = .prebuild ∧ row.state = .queued ∧ prebuild.state = .building
  | .concluding status _ _ =>
      status.type = .prebuild ∧ status.phase = .stopping ∧ row.state ≠ .queued
  | .storing status _ => status.type = .prebuild →
      row.state ≠ .queued ∧ (status.phase = .stopping → isSettled row.state = true)

/-- The note is right about the prebuild. A copy that is about to be stored as aborted was building,
    and no prebuild is queued again. -/
structure Inv (t : Noted) : Prop where
  left : t.note.left = true ↔ t.state.prebuild.state ≠ .queued
  settled : t.note.settled = isSettled t.state.prebuild.state
  handler : t.state.handler.Fits t.state.prebuild
  aborting : ∀ wsi now toStore prebuild,
    .marking wsi now toStore (.storing prebuild) ∈ t.state.runs →
    t.state.prebuild.state ≠ .queued ∧ prebuild.state = .aborted
  inHand : ∀ status wsi, t.state.handler.inHand = some (status, wsi) →
    (status.phase = .stopped → wsi.phase = .stopped) ∧
    (wsi.phase = .stopped → status.phase = .stopped ∨ t.note.settled = true)

/-- Given the invariant, the prebuild follows its instance if the note says that it was settled. -/
theorem follows_iff_settled (ht : Inv t) :
    Follows t.state ↔ (t.state.wsi.phase = .stopped → t.note.settled = true) := by
  unfold Follows
  rw [ht.settled, isSettled_iff]

theorem Handler.Fits.of_isPastQueue {row : PrebuildRow} {handler : Handler} (h : handler.Fits row)
    (hpast : handler.isPastQueue = true) : row.state ≠ .queued := by
  cases handler with
  | concluding status wsi prebuild => exact h.2.2
  | storing status wsi => exact (h (of_decide_eq_true hpast)).1
  | idle | received | loaded | starting => exact absurd hpast nofun

theorem Handler.Fits.of_isPastOutcome {row : PrebuildRow} {handler : Handler} (h : handler.Fits row)
    (hpast : handler.isPastOutcome = true) : isSettled row.state = true := by
  cases handler with
  | storing status wsi =>
      rcases Bool.and_eq_true_iff.mp hpast with ⟨htype, hphase⟩
      exact (h (of_decide_eq_true htype)).2 (of_decide_eq_true hphase)
  | idle | received | loaded | starting | concluding => exact absurd hpast nofun

/-- Behind the queue, the handler goes on to the outcome or to the record of the instance. -/
theorem fits_afterStart {row : PrebuildRow} {status : WorkspaceStatus}
    (htype : status.type = .prebuild) (hqueue : row.state ≠ .queued) (wsi : WorkspaceInstance)
    (prebuild : Prebuild) : (afterStart status wsi prebuild).Fits row := by
  unfold afterStart
  split_ifs with hphase
  · exact ⟨htype, hphase, hqueue⟩
  · exact fun _ => ⟨hqueue, fun hstopping => absurd hstopping hphase⟩

/-- What comes after the start of a prebuild is past the queue. -/
theorem isPastQueue_afterStart {status : WorkspaceStatus} (htype : status.type = .prebuild)
    (wsi : WorkspaceInstance) (prebuild : Prebuild) :
    (afterStart status wsi prebuild).isPastQueue = true := by
  unfold afterStart
  split_ifs
  · rfl
  · exact decide_eq_true htype

theorem isPastOutcome_afterStart (status : WorkspaceStatus) (wsi : WorkspaceInstance)
    (prebuild : Prebuild) : (afterStart status wsi prebuild).isPastOutcome = false := by
  unfold afterStart
  split_ifs with hphase
  · rfl
  · exact Bool.and_eq_false_imp.mpr fun _ => decide_eq_false hphase

/-- A handler that is not about to start the prebuild goes on with one that is settled. -/
theorem Handler.Fits.of_settled {row row' : PrebuildRow} {handler : Handler}
    (h : handler.Fits row) (hqueue : row.state ≠ .queued) (hsettled : isSettled row'.state = true) :
    handler.Fits row' := by
  have hqueue' := ((isSettled_iff _).mp hsettled).1
  cases handler with
  | idle | received => trivial
  | loaded status wsi => exact h
  | starting status wsi prebuild => exact absurd h.2.1 hqueue
  | concluding status wsi prebuild => exact ⟨h.1, h.2.1, hqueue'⟩
  | storing status wsi => exact fun _ => ⟨hqueue', fun _ => hsettled⟩

theorem settled_next_of_settled (n : Note) (a : Action) (s' : State) (h : n.settled = true) :
    (n.next a s').settled = true := by
  unfold Note.next
  dsimp only
  rw [h, Bool.true_or, Bool.true_or]

/-- The note stays right while the prebuild does not change, since a handler that has gone past
    something has noted it before. -/
theorem inv_of_same {a : Action} (ht : Inv t) (hprebuild : s'.prebuild = t.state.prebuild)
    (hhandler : s'.handler.Fits t.state.prebuild)
    (hcontrolled : t.note.left = true → isControlled s' a = true →
      isSettled t.state.prebuild.state = true)
    (haborting : ∀ wsi now toStore prebuild,
      .marking wsi now toStore (.storing prebuild) ∈ s'.runs →
      t.state.prebuild.state ≠ .queued ∧ prebuild.state = .aborted)
    (hinHand : ∀ status wsi, s'.handler.inHand = some (status, wsi) →
      (status.phase = .stopped → wsi.phase = .stopped) ∧
      (wsi.phase = .stopped → status.phase = .stopped ∨ t.note.settled = true)) :
    Inv ⟨s', t.note.next a s'⟩ := by
  refine ⟨?_, ?_, ?_, ?_, fun status wsi heq => ?_⟩
  · unfold Note.next
    dsimp only
    rw [hprebuild, Bool.or_eq_true, ht.left]
    exact or_iff_left_of_imp hhandler.of_isPastQueue
  · unfold Note.next
    dsimp only
    rw [hprebuild, Bool.eq_iff_iff, Bool.or_eq_true, Bool.or_eq_true, Bool.and_eq_true, ht.settled,
      or_assoc]
    refine or_iff_left_of_imp fun h => ?_
    rcases h with hpast | ⟨hleft, hended⟩
    · exact hhandler.of_isPastOutcome hpast
    · exact hcontrolled hleft hended
  · rw [hprebuild]
    exact hhandler
  · rw [hprebuild]
    exact haborting
  · refine ⟨(hinHand status wsi heq).1, fun hphase => ?_⟩
    exact ((hinHand status wsi heq).2 hphase).imp_right (settled_next_of_settled _ _ _)

/-- A step that settles the prebuild and is noted as such. Whoever is about to store it as aborted
    may still do so. -/
theorem inv_of_settled {a : Action} (ht : Inv t) (hqueue : t.state.prebuild.state ≠ .queued)
    (hsettled : isSettled s'.prebuild.state = true) (hnoted : (t.note.next a s').settled = true)
    (hhandler : s'.handler.Fits s'.prebuild)
    (haborting : ∀ wsi now toStore prebuild,
      .marking wsi now toStore (.storing prebuild) ∈ s'.runs → prebuild.state = .aborted)
    (hinHand : ∀ status wsi, s'.handler.inHand = some (status, wsi) →
      status.phase = .stopped → wsi.phase = .stopped) :
    Inv ⟨s', t.note.next a s'⟩ := by
  have hleft : (t.note.next a s').left = true := by
    unfold Note.next
    dsimp only
    rw [ht.left.mpr hqueue, Bool.true_or]
  have hqueue' := ((isSettled_iff _).mp hsettled).1
  exact ⟨iff_of_true hleft hqueue', hnoted.trans hsettled.symm, hhandler,
    fun wsi now toStore prebuild hmem => ⟨hqueue', haborting wsi now toStore prebuild hmem⟩,
    fun status wsi heq => ⟨hinHand status wsi heq, fun _ => .inr hnoted⟩⟩

/-- A handler that goes on without a change of the records. -/
theorem inv_handler {handler : Handler} (ht : Inv t)
    (hcontrolled : isControlled { t.state with handler := handler } a = false)
    (hhandler : handler.Fits t.state.prebuild)
    (hinHand : ∀ status wsi, handler.inHand = some (status, wsi) →
      (status.phase = .stopped → wsi.phase = .stopped) ∧
      (wsi.phase = .stopped → status.phase = .stopped ∨ t.note.settled = true)) :
    Inv ⟨{ t.state with handler := handler },
      t.note.next a { t.state with handler := handler }⟩ :=
  inv_of_same ht rfl hhandler
    (fun _ h => absurd (hcontrolled.symm.trans h) Bool.false_ne_true) ht.aborting hinHand

theorem inv_goOn {j : Nat} {run : Control} (ht : Inv t)
    (hcontrolled : t.note.left = true → isControlled (goOn t.state j run) a = true →
      isSettled t.state.prebuild.state = true)
    (hrun : ∀ wsi now toStore prebuild, run = .marking wsi now toStore (.storing prebuild) →
      t.state.prebuild.state ≠ .queued ∧ prebuild.state = .aborted) :
    Inv ⟨goOn t.state j run, t.note.next a (goOn t.state j run)⟩ := by
  refine inv_of_same ht rfl ht.handler hcontrolled (fun wsi now toStore prebuild hmem => ?_)
    ht.inHand
  rcases List.mem_or_eq_of_mem_set hmem with hold | hnew
  · exact ht.aborting wsi now toStore prebuild hold
  · exact hrun wsi now toStore prebuild hnew.symm

theorem inv_next {now : Nat} (ht : Inv t) (hf : Follows t.state)
    (h : next t.state now t.state.handler = some s') : Inv ⟨s', t.note.next (.next now) s'⟩ := by
  have hinHand := ht.inHand
  have hfits := ht.handler
  cases hhandler : t.state.handler with
  | idle =>
      rw [hhandler] at h
      exact absurd h nofun
  | received status =>
      rw [hhandler, next, Option.some.injEq] at h
      rw [← h]
      refine inv_handler ht rfl ?_ ?_
      · -- the prebuild is passed over when the instance is none of a prebuild
        split_ifs with htype
        · exact htype
        · exact fun hprebuild => absurd hprebuild htype
      · intro status' wsi' heq
        have hpair : some (status, update now status t.state.wsi) = some (status', wsi') := by
          rw [← heq]
          split_ifs <;> rfl
        rw [Option.some.injEq, Prod.mk.injEq] at hpair
        rw [← hpair.1, ← hpair.2, phase_update]
        refine ⟨.inl, fun hstopped => hstopped.imp_right fun hold => ?_⟩
        -- the record was stored as stopped before
        exact (follows_iff_settled ht).mp hf hold.2
  | loaded status wsi =>
      rw [hhandler, next, Option.some.injEq] at h
      rw [← h]
      rw [hhandler] at hinHand hfits
      refine inv_handler ht rfl ?_ fun status' wsi' heq => hinHand status' wsi' ?_
      · split_ifs with hqueued
        · exact ⟨hfits, hqueued, rfl⟩
        · exact fits_afterStart hfits hqueued _ _
      · rw [← heq]
        split_ifs
        · rfl
        · exact (inHand_afterStart ..).symm
  | starting status wsi prebuild =>
      rw [hhandler, next, Option.some.injEq] at h
      rw [← h]
      rw [hhandler] at hinHand hfits
      rcases hfits with ⟨htype, hqueued, hbuilding⟩
      have hleft : (storePrebuiltWorkspace prebuild t.state.prebuild).state ≠ .queued := by
        unfold storePrebuiltWorkspace
        dsimp only
        rw [hbuilding]
        exact nofun
      refine ⟨iff_of_true ?_ hleft, ?_, fits_afterStart htype hleft _ _, ?_, ?_⟩
      · unfold Note.next
        dsimp only
        rw [isPastQueue_afterStart htype, Bool.or_true]
      · -- the prebuild was queued and is building, and it is settled neither way
        unfold Note.next
        dsimp only
        rw [isPastOutcome_afterStart, ht.settled, hqueued]
        unfold storePrebuiltWorkspace isControlled
        dsimp only
        rw [hbuilding, Bool.and_false]
        rfl
      · -- nobody is about to abort a prebuild that is queued
        intro wsi' now' toStore prebuild' hmem
        exact absurd hqueued (ht.aborting wsi' now' toStore prebuild' hmem).1
      · intro status' wsi' heq
        have hsame := hinHand status' wsi' (by rw [← heq, inHand_afterStart]; rfl)
        exact ⟨hsame.1, fun hphase => (hsame.2 hphase).imp_right (settled_next_of_settled _ _ _)⟩
  | concluding status wsi prebuild =>
      rw [hhandler, next, Option.some.injEq] at h
      rw [← h]
      rw [hhandler] at hinHand hfits
      rcases hfits with ⟨htype, hphase, hqueue⟩
      -- this is where the prebuild is settled, and the handler is past it
      have hsettled := isSettled_outcome status prebuild
      have hpast : (Handler.storing status wsi).isPastOutcome = true :=
        Bool.and_eq_true_iff.mpr ⟨decide_eq_true htype, decide_eq_true hphase⟩
      have hnoted : (t.note.next (.next now) { t.state with
          prebuild := storePrebuiltWorkspace (outcome status prebuild) t.state.prebuild
          handler := .storing status wsi }).settled = true := by
        unfold Note.next
        dsimp only
        rw [hpast, Bool.or_true, Bool.true_or]
      refine inv_of_settled ht hqueue hsettled hnoted
        (fun _ => ⟨((isSettled_iff _).mp hsettled).1, fun _ => hsettled⟩) ?_ ?_
      · exact fun wsi' now' toStore prebuild' hmem =>
          (ht.aborting wsi' now' toStore prebuild' hmem).2
      · exact fun status' wsi' heq => (hinHand status' wsi' heq).1
  | storing status wsi =>
      rw [hhandler, next, Option.some.injEq] at h
      rw [← h]
      exact inv_of_same ht rfl trivial (fun _ hended => absurd hended nofun) ht.aborting
        fun _ _ hne => absurd hne nofun

/-- A run that has found the prebuild not building is through with it. When the prebuild has left
    the queue, it is settled. -/
theorem isSettled_of_not_building (ht : Inv t) (hleft : t.note.left = true)
    (hbuilding : t.state.prebuild.state ≠ .building) :
    isSettled t.state.prebuild.state = true :=
  (isSettled_iff _).mpr ⟨ht.left.mp hleft, hbuilding⟩

/-- The step lemma of the invariant, one case for each effect. -/
theorem inv_step (ht : Inv t) (hf : Follows t.state) (h : notedStep max t a = some t') :
    Inv t' := by
  unfold notedStep at h
  rcases Option.map_eq_some_iff.mp h with ⟨s', hstep, rfl⟩
  cases effect_of_step hstep with
  | received status hidle =>
      -- An update is taken up by a handler that is idle.
      exact inv_handler ht rfl trivial fun _ _ hne => absurd hne nofun
  | handled now s' hnext => exact inv_next ht hf hnext
  | threw => exact inv_handler ht rfl trivial fun _ _ hne => absurd hne nofun
  | began =>
      refine inv_of_same ht rfl ht.handler (fun _ hended => absurd hended nofun) ?_ ht.inHand
      intro wsi now toStore prebuild hmem
      rcases List.mem_append.mp hmem with hold | hnew
      · exact ht.aborting wsi now toStore prebuild hold
      · exact absurd (List.mem_singleton.mp hnew) nofun
  | listed j hrun =>
      refine inv_goOn ht (fun _ hended => absurd hended nofun) fun _ _ _ _ hmarking => ?_
      -- A run that has just listed the instances marks nothing.
      split_ifs at hmarking
  | answered j known now wsi hrun =>
      refine inv_goOn ht (fun _ hended => absurd hended nofun) fun _ _ _ _ hmarking => ?_
      split_ifs at hmarking
      rw [Control.marking.injEq] at hmarking
      -- One that begins to mark has not looked up the prebuild yet.
      exact absurd hmarking.2.2.2 nofun
  | stored j wsi now prebuild hrun =>
      refine inv_of_same ht rfl ht.handler (fun _ hended => absurd hended nofun) ?_ ht.inHand
      -- Storing the instance as stopped does not touch the prebuild.
      intro wsi' now' toStore prebuild' hmem
      rcases List.mem_or_eq_of_mem_set hmem with hold | hnew
      · exact ht.aborting wsi' now' toStore prebuild' hold
      · rw [Control.marking.injEq] at hnew
        rw [← hnew.2.2.2] at hrun
        exact ht.aborting wsi now true prebuild' (List.mem_of_getElem? hrun)
  | lookedUp j wsi now toStore hrun =>
      refine inv_goOn ht (fun hleft hended => ?_) fun wsi' now' toStore' prebuild' hmarking => ?_
      · -- If the prebuild was building, the run would go on to store it and not be done.
        have hlookup : (goOn t.state j (.marking wsi now toStore (if t.state.prebuild.state =
            .building then .storing { t.state.prebuild.load with state := .aborted }
              else .done))).runs[j]? = _ := (getElem?_set_eq_ite hrun _ j).trans (if_pos rfl)
        unfold isControlled at hended
        dsimp only at hended
        rw [hlookup] at hended
        refine isSettled_of_not_building ht hleft fun hbuilding => ?_
        rw [if_pos hbuilding] at hended
        exact absurd hended nofun
      · rw [Control.marking.injEq] at hmarking
        rcases hmarking with ⟨-, -, -, hstoring⟩
        split_ifs at hstoring with hbuilding
        rw [Aborting.storing.injEq] at hstoring
        -- What is to be stored is a copy that says aborted.
        rw [hbuilding, ← hstoring]
        exact ⟨nofun, rfl⟩
  | aborted j wsi now toStore prebuild hrun =>
      -- The state that is stored is the one of the copy, and it settles the prebuild.
      rcases ht.aborting wsi now toStore prebuild (List.mem_of_getElem? hrun) with
        ⟨hnot, haborted⟩
      have hstate : (storePrebuiltWorkspace prebuild t.state.prebuild).state = .aborted := haborted
      have hcontrolled : isControlled { goOn t.state j (.marking wsi now toStore .done) with
          prebuild := storePrebuiltWorkspace prebuild t.state.prebuild }
            (.controlPrebuildInstance j) = true := by
        have hlookup : (goOn t.state j (.marking wsi now toStore .done)).runs[j]? = _ :=
          (getElem?_set_eq_ite hrun _ j).trans (if_pos rfl)
        unfold isControlled
        dsimp only
        rw [hlookup]
      have hnoted : (t.note.next (.controlPrebuildInstance j) { goOn t.state j
          (.marking wsi now toStore .done) with
            prebuild := storePrebuiltWorkspace prebuild t.state.prebuild }).settled = true := by
        unfold Note.next
        dsimp only
        rw [ht.left.mpr hnot, hcontrolled, Bool.true_and, Bool.or_true]
      have hsettled : isSettled (storePrebuiltWorkspace prebuild t.state.prebuild).state =
          true := by
        rw [hstate]
        rfl
      refine inv_of_settled ht hnot hsettled hnoted (ht.handler.of_settled hnot hsettled) ?_
        fun status' wsi' heq => (ht.inHand status' wsi' heq).1
      -- What other runs are about to store says aborted as well.
      intro wsi' now' toStore' prebuild' hmem
      rcases List.mem_or_eq_of_mem_set hmem with hold | hnew
      · exact (ht.aborting wsi' now' toStore' prebuild' hold).2
      · rw [Control.marking.injEq] at hnew
        exact absurd hnew.2.2.2 nofun

/-- A step that leaves the record of the instance alone, and does not take back that the
    prebuild is settled. -/
theorem follows_of_same (hf : Follows s) (hwsi : s'.wsi = s.wsi)
    (hprebuild : s.prebuild.state ≠ .queued → s.prebuild.state ≠ .building →
      s'.prebuild.state ≠ .queued ∧ s'.prebuild.state ≠ .building) : Follows s' := by
  intro hstopped
  rw [hwsi] at hstopped
  exact hprebuild (hf hstopped).1 (hf hstopped).2

/-- A step of the handler keeps the prebuild in step with its instance if it comes in time. -/
theorem follows_next_iff {now : Nat} (ht : Inv t) (hf : Follows t.state)
    (h : next t.state now t.state.handler = some s') : Follows s' ↔ InTime t (.next now) := by
  unfold InTime
  have hfits := ht.handler
  cases hhandler : t.state.handler with
  | idle =>
      rw [hhandler] at h
      exact absurd h nofun
  | received status =>
      rw [hhandler, next, Option.some.injEq] at h
      rw [← h]
      exact iff_of_true hf nofun
  | loaded status wsi =>
      rw [hhandler, next, Option.some.injEq] at h
      rw [← h]
      exact iff_of_true hf nofun
  | starting status wsi prebuild =>
      rw [hhandler, next, Option.some.injEq] at h
      rw [← h]
      rw [hhandler] at hfits
      -- the prebuild is still queued in the database, so it was not settled before
      exact iff_of_true (follows_of_same hf rfl fun hnot _ => absurd hfits.2.1 hnot) nofun
  | concluding status wsi prebuild =>
      rw [hhandler, next, Option.some.injEq] at h
      rw [← h]
      refine iff_of_true (follows_of_same hf rfl fun _ _ => ?_) nofun
      exact (isSettled_iff _).mp (isSettled_outcome status prebuild)
  | storing status wsi =>
      rw [hhandler, next, Option.some.injEq] at h
      rw [← h]
      -- only now the phase of the record changes
      rcases ht.inHand status wsi (by rw [hhandler]; rfl) with ⟨hstored, hstopped⟩
      unfold Handler.storesStopped
      rw [decide_eq_true_eq, ht.settled, isSettled_iff]
      refine ⟨fun hfollows hphase => hfollows (hstored hphase), fun hok hphase => ?_⟩
      rcases hstopped hphase with hstatus | hsettled
      · exact hok hstatus
      · rw [ht.settled, isSettled_iff] at hsettled
        exact hsettled

/-- Only a record that is stored as stopped leaves the prebuild behind. -/
theorem follows_iff_of_step (ht : Inv t) (hf : Follows t.state)
    (h : notedStep max t a = some t') : Follows t'.state ↔ InTime t a := by
  unfold notedStep at h
  rcases Option.map_eq_some_iff.mp h with ⟨s', hstep, rfl⟩
  cases effect_of_step hstep with
  | received status hidle => exact iff_of_true hf trivial
  | handled now s' hnext => exact follows_next_iff ht hf hnext
  | threw => exact iff_of_true hf trivial
  | began => exact iff_of_true hf trivial
  | listed j hrun => exact iff_of_true hf trivial
  | answered j known now wsi hrun => exact iff_of_true hf trivial
  | stored j wsi now prebuild hrun =>
      unfold InTime
      rw [ht.settled, isSettled_iff]
      exact ⟨fun hfollows => hfollows rfl, fun hsettled _ => hsettled⟩
  | lookedUp j wsi now toStore hrun => exact iff_of_true hf trivial
  | aborted j wsi now toStore prebuild hrun =>
      refine iff_of_true (follows_of_same hf rfl fun _ _ => ?_) trivial
      have haborted := (ht.aborting wsi now toStore prebuild (List.mem_of_getElem? hrun)).2
      unfold storePrebuiltWorkspace
      dsimp only
      rw [haborted]
      exact ⟨nofun, nofun⟩

theorem inv_new (wsi : WorkspaceInstance) (prebuild : PrebuildRow) :
    Inv (newNoted wsi prebuild) where
  left := decide_eq_true_iff
  settled := rfl
  handler := trivial
  aborting _ _ _ _ h := absurd h List.not_mem_nil
  inHand _ _ h := absurd h nofun

/-- The runs in which the prebuild follows its instance all along are those in which the instance is
    never stored as stopped before the update that it is stopping was handled, or a controller run
    that came behind some other update was through with the prebuild. So the loss of one update is
    enough to leave a prebuild building for good. -/
theorem follows_iff {wsi : WorkspaceInstance} {prebuild : PrebuildRow}
    (h : Follows (newState wsi prebuild)) (as : List Action) :
    StepsAlong (notedStep max) (fun _ _ t' => Follows t'.state) as (newNoted wsi prebuild) ↔
      MeetsAlong (notedStep max) InTime as (newNoted wsi prebuild) := by
  have hinv : ∀ t a t', Inv t ∧ Follows t.state → notedStep max t a = some t' →
      Follows t'.state → Inv t' ∧ Follows t'.state :=
    fun t a t' ht hstep hf => ⟨inv_step ht.1 ht.2 hstep, hf⟩
  have hstep : ∀ t a t', Inv t ∧ Follows t.state → notedStep max t a = some t' →
      (Follows t'.state ↔ InTime t a) :=
    fun t a t' ht hstep => follows_iff_of_step ht.1 ht.2 hstep
  exact stepsAlong_iff_meetsAlong_while hinv hstep as _ ⟨inv_new wsi prebuild, h⟩

instance decidableFollows (s : State) : Decidable (Follows s) :=
  inferInstanceAs (Decidable (_ → _ ∧ _))

instance decidableInTime (t : Noted) : ∀ a, Decidable (InTime t a)
  | .next _ => inferInstanceAs (Decidable (_ → _))
  | .storeStopped _ => inferInstanceAs (Decidable (t.note.settled = true))
  | .handleStatusUpdate _ | .throw | .controlInstallationInstances | .list _ | .answer ..
  | .controlPrebuildInstance _ => isTrue trivial

/-- A prebuild that has run through, with a controller run on the way. -/
def allDelivered : List Action :=
  [.handleStatusUpdate (prebuildIn .running), .next 1, .next 1, .next 1, .next 1,
    .controlInstallationInstances, .list 0, .handleStatusUpdate (prebuildIn .stopping),
    .next 2, .answer 0 true 2, .next 2, .next 2, .next 2,
    .handleStatusUpdate (prebuildIn .stopped), .next 3, .next 3, .next 3]

/-- The run comes to its end, the instance is stopped then, and the prebuild has followed. -/
theorem follows_allDelivered :
    (∃ t, runActions (notedStep 3600) allDelivered (newNoted startedInstance ⟨.queued, "", ""⟩) =
      some t ∧ t.state.wsi.phase = .stopped ∧ t.state.prebuild.state = .available) ∧
    StepsAlong (notedStep 3600) (fun _ _ t' => Follows t'.state) allDelivered
      (newNoted startedInstance ⟨.queued, "", ""⟩) :=
  ⟨⟨_, rfl, rfl, rfl⟩, (follows_iff (by decide) _).mpr (by decide)⟩

/-- The update that the instance is stopping was lost. -/
theorem building_lostStopping :
    ¬ ∀ (max : Nat) (wsi : WorkspaceInstance) (prebuild : PrebuildRow),
      Follows (newState wsi prebuild) → ∀ as : List Action,
      StepsAlong (step max) (fun _ _ s' => Follows s') as (newState wsi prebuild) := by
  intro h
  have hrun := h 3600 startedInstance ⟨.queued, "", ""⟩ (by decide)
    [.handleStatusUpdate (prebuildIn .running), .next 1, .next 1, .next 1, .next 1,
      .handleStatusUpdate (prebuildIn .stopped), .next 2, .next 2, .next 2]
  revert hrun
  decide

end Bridge

end Prebuilds

end Nxpod
