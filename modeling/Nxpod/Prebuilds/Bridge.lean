import Mathlib.Algebra.GroupWithZero.Nat
import Nxpod.Library.Parties
import Nxpod.Library.Transition
import Nxpod.Prebuilds.Queue
import Nxpod.WsManager.Status

/-!
# A Prebuild and Its Instance

The bridge follows the status updates of the workspace manager. For the instance of
a prebuild it derives the state of the prebuild from the first update and from the
one that says that the instance is stopping, and the phase of the instance from
every update. From time to time a controller looks for instances that the manager
does not know any more. It marks such an instance as stopped, and its prebuild, if
that is building, as aborted.

The updates of an instance are handled one after the other. Controller runs are not,
neither among themselves nor with regard to the updates, and everyone works on copies
of what was read from the database earlier. Any access to the database or to the
message bus may fail. Which updates there are is arbitrary, so any of them may have
been lost.

A record is stored by `save` of TypeORM, which leaves a column alone when the property
of the object is undefined. An empty text in one of the columns that may be missing is
read as undefined, so that a copy cannot take back what someone else has put there in
the meantime. What can be stored is up to MySQL, which is taken to store everything.

## Main definitions

* `WorkspaceStatus`: Updates.
* `WorkspaceInstance`, `storeInstance`: The record of the instance, and how a copy is
  stored.
* `Prebuild`, `PrebuildRow`, `storePrebuiltWorkspace`: The same for the prebuild, whose
  copies may lack what the record has.
* `update`, `outcome`: What an update does to the copies.
* `Handler`, `Control`, `State`, `step`: Who works with the records, and what can
  happen.
* `Action`: What can happen next.
* `Effect`: What a step does, with the conditions under which it is taken.

## Theorems

* `phase_update`: Where the phase of a record comes from.
* `isSettled_outcome`: An outcome settles the prebuild.
* `effect_of_step`: What a step can do. Everything about runs of the bridge is proved
  from it.
-/

namespace Nxpod

namespace Prebuilds

namespace Bridge

open Transition Parties WsManager.Status

/-! ## Updates and records -/

/-- What kind of workspace an instance is of. -/
inductive WorkspaceType
  | regular
  | prebuild
  | probe
  deriving DecidableEq

/-- An update that has all its parts. The others are not handled. -/
structure WorkspaceStatus where
  type : WorkspaceType
  url : String
  timeoutSetting : String
  phase : WorkspacePhase
  message : String
  failed : String
  timeout : String
  snapshot : String
  deployed : WorkspaceConditionBool
  nodeName : String
  ownerToken : String

/-- The phases of an instance, as the server has them. -/
inductive WorkspaceInstancePhase
  | unknown
  | preparing
  | pending
  | creating
  | initializing
  | running
  | interrupted
  | stopping
  | stopped
  deriving DecidableEq

/-- The record of an instance. -/
structure WorkspaceInstance where
  creationTime : Nat
  deployedTime : Option Nat
  startedTime : Option Nat
  stoppedTime : Option Nat
  ideUrl : String
  phase : WorkspaceInstancePhase
  timeoutSetting : String
  message : String
  failed : String
  timeout : String
  deployed : Option Bool
  nodeName : String
  ownerToken : String

/-- What TypeORM does to the record. All that may be undefined are the times. -/
def storeInstance (wsi row : WorkspaceInstance) : WorkspaceInstance :=
  { wsi with
    deployedTime := wsi.deployedTime.or row.deployedTime
    startedTime := wsi.startedTime.or row.startedTime
    stoppedTime := wsi.stoppedTime.or row.stoppedTime }

/-- A prebuild as the bridge has it, with what may be undefined. -/
structure Prebuild where
  state : PrebuiltWorkspaceState
  error : Option String
  snapshot : Option String

/-- The columns of a prebuild. -/
structure PrebuildRow where
  state : PrebuiltWorkspaceState
  error : String
  snapshot : String

/-- `MAP_EMPTY_STR_TO_UNDEFINED`, on the way from the database. -/
def undefinedIfEmpty (text : String) : Option String :=
  if text = "" then none else some text

/-- A record as it is read. Empty texts are read as undefined. -/
def PrebuildRow.load (row : PrebuildRow) : Prebuild where
  state := row.state
  error := undefinedIfEmpty row.error
  snapshot := undefinedIfEmpty row.snapshot

/-- The code units of a character in JavaScript. -/
def units (c : Char) : Nat := if c.toNat < 0x10000 then 1 else 2

/-- `length` of JavaScript. -/
def length (text : List Char) : Nat := (text.map units).sum

/-- `substring(0, n)` of JavaScript. What is left of a pair is no character, and the driver makes it
    into the one that stands for those. -/
def takeUnits : Nat → List Char → List Char
  | _, [] => []
  | 0, _ => []
  | n + 1, c :: cs => if units c ≤ n + 1 then c :: takeUnits (n + 1 - units c) cs else ['\uFFFD']

/-- An error that is too long for its column is cut. -/
def shortened (error : String) : String :=
  if length error.toList > 255 then String.ofList (takeUnits 251 error.toList) ++ " ..." else error

/-- A prebuild as it is stored. What is undefined leaves the column alone, and a long error is
    shortened. -/
def storePrebuiltWorkspace (pws : Prebuild) (row : PrebuildRow) : PrebuildRow where
  state := pws.state
  error := (pws.error.map shortened).getD row.error
  snapshot := pws.snapshot.getD row.snapshot

/-- A condition of the status is true, false or not known. -/
def toBool : WorkspaceConditionBool → Option Bool
  | .empty => none
  | .true => some true
  | .false => some false

/-- The phases of an update and of a record. Of an unknown one the record takes no
    notice. -/
def toPhase : WorkspacePhase → Option WorkspaceInstancePhase
  | .unknown => none
  | .pending => some .pending
  | .creating => some .creating
  | .initializing => some .initializing
  | .running => some .running
  | .interrupted => some .interrupted
  | .stopping => some .stopping
  | .stopped => some .stopped

/-- The record of an instance after an update. Start and deployment are noted once, the stop
    each time. -/
def update (now : Nat) (status : WorkspaceStatus) (wsi : WorkspaceInstance) :
    WorkspaceInstance where
  creationTime := wsi.creationTime
  deployedTime :=
    if toBool status.deployed = some true then wsi.deployedTime.or (some now)
    else wsi.deployedTime
  startedTime :=
    if status.phase = .running then wsi.startedTime.or (some now) else wsi.startedTime
  stoppedTime := if status.phase = .stopped then some now else wsi.stoppedTime
  ideUrl := status.url
  phase := (toPhase status.phase).getD wsi.phase
  timeoutSetting := status.timeoutSetting
  message := status.message
  failed := status.failed
  timeout := status.timeout
  deployed := toBool status.deployed
  nodeName := if wsi.nodeName = "" then status.nodeName else wsi.nodeName
  ownerToken := status.ownerToken

/-- An instance is stopped after an update that says so, and after one of an unknown phase if it
    was before. -/
theorem phase_update (now : Nat) (status : WorkspaceStatus) (wsi : WorkspaceInstance) :
    (update now status wsi).phase = .stopped ↔
      status.phase = .stopped ∨ status.phase = .unknown ∧ wsi.phase = .stopped := by
  unfold update
  dsimp only
  cases status.phase with
  | unknown => exact ⟨fun h => .inr ⟨rfl, h⟩, fun h => (h.resolve_left nofun).2⟩
  | stopped => exact iff_of_true rfl (.inl rfl)
  | pending => exact iff_of_false nofun nofun
  | creating => exact iff_of_false nofun nofun
  | initializing => exact iff_of_false nofun nofun
  | running => exact iff_of_false nofun nofun
  | stopping => exact iff_of_false nofun nofun
  | interrupted => exact iff_of_false nofun nofun

/-- What a prebuild has come to when its instance is stopping. -/
def outcome (status : WorkspaceStatus) (prebuild : Prebuild) : Prebuild :=
  if status.timeout ≠ "" then { prebuild with state := .timeout, error := some status.timeout }
  else
    { state := .available, error := some status.failed, snapshot := some status.snapshot }

/-- The prebuild is neither queued nor building any more. -/
def isSettled (state : PrebuiltWorkspaceState) : Bool :=
  state ≠ .queued && state ≠ .building

theorem isSettled_iff (state : PrebuiltWorkspaceState) :
    isSettled state = true ↔ state ≠ .queued ∧ state ≠ .building := by
  unfold isSettled
  rw [Bool.and_eq_true, decide_eq_true_eq, decide_eq_true_eq]

theorem isSettled_outcome (status : WorkspaceStatus) (prebuild : Prebuild) :
    isSettled (outcome status prebuild).state = true := by
  unfold outcome
  split_ifs <;> rfl

/-! ## The bridge -/

/-- Where `handleStatusUpdate` is, with its copies of the records. The one of the instance
    has been updated. -/
inductive Handler
  | idle
  | received (status : WorkspaceStatus)
  | loaded (status : WorkspaceStatus) (wsi : WorkspaceInstance)
  | starting (status : WorkspaceStatus) (wsi : WorkspaceInstance) (prebuild : Prebuild)
  | concluding (status : WorkspaceStatus) (wsi : WorkspaceInstance) (prebuild : Prebuild)
  | storing (status : WorkspaceStatus) (wsi : WorkspaceInstance)

/-- Where `controlPrebuildInstance` is. -/
inductive Aborting
  | loading
  | storing (prebuild : Prebuild)
  | done

/-- A controller run. A marked instance may still have to be stored, and its prebuild is
    looked after at the same time. -/
inductive Control
  | listing
  | asking (wsi : WorkspaceInstance)
  | marking (wsi : WorkspaceInstance) (now : Nat) (toStore : Bool) (prebuild : Aborting)
  | done

/-- The records of the instance and of its prebuild, and who is working with copies of them. -/
structure State where
  wsi : WorkspaceInstance
  prebuild : PrebuildRow
  handler : Handler
  runs : List Control

/-- No update is under way yet, and no run of the controller. -/
def newState (wsi : WorkspaceInstance) (prebuild : PrebuildRow) : State where
  wsi := wsi
  prebuild := prebuild
  handler := .idle
  runs := []

/-- What can happen next. A step of the handler or of a run may also fail. -/
inductive Action
  | handleStatusUpdate (status : WorkspaceStatus)
  | next (now : Nat)
  | throw
  | controlInstallationInstances
  | list (j : Nat)
  | answer (j : Nat) (known : Bool) (now : Nat)
  | storeStopped (j : Nat)
  | controlPrebuildInstance (j : Nat)

/-- The update that the prebuild is stopping settles it. -/
def afterStart (status : WorkspaceStatus) (wsi : WorkspaceInstance) (prebuild : Prebuild) :
    Handler :=
  if status.phase = .stopping then .concluding status wsi prebuild else .storing status wsi

/-- What `handleStatusUpdate` does up to the next access to the database. -/
def next (s : State) (now : Nat) : Handler → Option State
  | .idle => none
  | .received status =>
      let wsi := update now status s.wsi
      some { s with
        handler := if status.type = .prebuild then .loaded status wsi else .storing status wsi }
  | .loaded status wsi => some { s with
      handler :=
        if s.prebuild.state = .queued then
          .starting status wsi { s.prebuild.load with state := .building }
        else afterStart status wsi s.prebuild.load }
  | .starting status wsi prebuild => some { s with
      prebuild := storePrebuiltWorkspace prebuild s.prebuild
      handler := afterStart status wsi prebuild }
  | .concluding status wsi prebuild => some { s with
      prebuild := storePrebuiltWorkspace (outcome status prebuild) s.prebuild
      handler := .storing status wsi }
  | .storing _ wsi => some { s with wsi := storeInstance wsi s.wsi, handler := .idle }

/-- An instance that is running, or that has been starting for too long. -/
def isMarked (maxTimeToRunningPhaseSeconds now : Nat) (wsi : WorkspaceInstance) : Bool :=
  wsi.phase = .running || wsi.creationTime + maxTimeToRunningPhaseSeconds * 1000 < now

/-- A run of the controller goes on. -/
def goOn (s : State) (j : Nat) (run : Control) : State :=
  { s with runs := s.runs.set j run }

/-- A controller run that fails takes no further step. -/
def step (maxTimeToRunningPhaseSeconds : Nat) (s : State) : Action → Option State
  | .handleStatusUpdate status => match s.handler with
    | .idle => some { s with handler := .received status }
    | _ => none
  | .next now => next s now s.handler
  | .throw => some { s with handler := .idle }
  | .controlInstallationInstances => some { s with runs := s.runs ++ [.listing] }
  | .list j => match s.runs[j]? with
    | some .listing =>
        some (goOn s j (if s.wsi.phase = .stopped then .done else .asking s.wsi))
    | _ => none
  | .answer j known now => match s.runs[j]? with
    | some (.asking wsi) => some (goOn s j
        (if !known && isMarked maxTimeToRunningPhaseSeconds now wsi then
          .marking wsi now true .loading
        else .done))
    | _ => none
  | .storeStopped j => match s.runs[j]? with
    | some (.marking wsi now true prebuild) => some
        { goOn s j (.marking wsi now false prebuild) with
          wsi := storeInstance { wsi with phase := .stopped, stoppedTime := some now } s.wsi }
    | _ => none
  | .controlPrebuildInstance j => match s.runs[j]? with
    | some (.marking wsi now toStore .loading) => some (goOn s j (.marking wsi now toStore
        (if s.prebuild.state = .building then .storing { s.prebuild.load with state := .aborted }
        else .done)))
    | some (.marking wsi now toStore (.storing prebuild)) => some
        { goOn s j (.marking wsi now toStore .done) with
          prebuild := storePrebuiltWorkspace prebuild s.prebuild }
    | _ => none

/-! ## What a step can do -/

/-- What a step does, with the conditions under which it is taken. -/
inductive Effect (max : Nat) (s : State) : Action → State → Prop
  | received (status : WorkspaceStatus) : s.handler = .idle →
      Effect max s (.handleStatusUpdate status) { s with handler := .received status }
  | handled (now : Nat) (s' : State) : next s now s.handler = some s' → Effect max s (.next now) s'
  | threw : Effect max s .throw { s with handler := .idle }
  | began : Effect max s .controlInstallationInstances { s with runs := s.runs ++ [.listing] }
  | listed (j : Nat) : s.runs[j]? = some .listing →
      Effect max s (.list j) (goOn s j (if s.wsi.phase = .stopped then .done else .asking s.wsi))
  | answered (j : Nat) (known : Bool) (now : Nat) (wsi : WorkspaceInstance) :
      s.runs[j]? = some (.asking wsi) →
      Effect max s (.answer j known now) (goOn s j
        (if !known && isMarked max now wsi then .marking wsi now true .loading else .done))
  | stored (j : Nat) (wsi : WorkspaceInstance) (now : Nat) (prebuild : Aborting) :
      s.runs[j]? = some (.marking wsi now true prebuild) →
      Effect max s (.storeStopped j)
        { goOn s j (.marking wsi now false prebuild) with
          wsi := storeInstance { wsi with phase := .stopped, stoppedTime := some now } s.wsi }
  | lookedUp (j : Nat) (wsi : WorkspaceInstance) (now : Nat) (toStore : Bool) :
      s.runs[j]? = some (.marking wsi now toStore .loading) →
      Effect max s (.controlPrebuildInstance j) (goOn s j (.marking wsi now toStore
        (if s.prebuild.state = .building then .storing { s.prebuild.load with state := .aborted }
        else .done)))
  | aborted (j : Nat) (wsi : WorkspaceInstance) (now : Nat) (toStore : Bool)
      (prebuild : Prebuild) : s.runs[j]? = some (.marking wsi now toStore (.storing prebuild)) →
      Effect max s (.controlPrebuildInstance j)
        { goOn s j (.marking wsi now toStore .done) with
          prebuild := storePrebuiltWorkspace prebuild s.prebuild }

/-- The inversion lemma: the rest of the development takes steps apart with it. -/
theorem effect_of_step {max : Nat} {s s' : State} {a : Action} (h : step max s a = some s') :
    Effect max s a s' := by
  cases a with
  | handleStatusUpdate status =>
      rw [step] at h
      split at h
      · next hidle =>
          rw [← Option.some.inj h]
          exact .received status hidle
      · exact absurd h nofun
  | next now =>
      rw [step] at h
      exact .handled now s' h
  | throw =>
      rw [step, Option.some.injEq] at h
      rw [← h]
      exact .threw
  | controlInstallationInstances =>
      rw [step, Option.some.injEq] at h
      rw [← h]
      exact .began
  | list j =>
      rw [step] at h
      split at h
      · next hrun =>
          rw [← Option.some.inj h]
          exact .listed j hrun
      · exact absurd h nofun
  | answer j known now =>
      rw [step] at h
      split at h
      · next wsi hrun =>
          rw [← Option.some.inj h]
          exact .answered j known now wsi hrun
      · exact absurd h nofun
  | storeStopped j =>
      rw [step] at h
      split at h
      · next wsi now prebuild hrun =>
          rw [← Option.some.inj h]
          exact .stored j wsi now prebuild hrun
      · exact absurd h nofun
  | controlPrebuildInstance j =>
      rw [step] at h
      split at h
      · next wsi now toStore hrun =>
          rw [← Option.some.inj h]
          exact .lookedUp j wsi now toStore hrun
      · next wsi now toStore prebuild hrun =>
          rw [← Option.some.inj h]
          exact .aborted j wsi now toStore prebuild hrun
      · exact absurd h nofun

/-! ## What is in hand -/

/-- The update that is handled and the record that is going to be stored. -/
def Handler.inHand : Handler → Option (WorkspaceStatus × WorkspaceInstance)
  | .idle | .received _ => none
  | .loaded status wsi | .starting status wsi _ | .concluding status wsi _
  | .storing status wsi => some (status, wsi)

/-- A handler that has gone past the start keeps what it has in hand. -/
theorem inHand_afterStart (status : WorkspaceStatus) (wsi : WorkspaceInstance)
    (prebuild : Prebuild) : (afterStart status wsi prebuild).inHand = some (status, wsi) := by
  unfold afterStart
  split_ifs <;> rfl

theorem afterStart_ne_starting {status status' : WorkspaceStatus} {wsi wsi' : WorkspaceInstance}
    {prebuild prebuild' : Prebuild} :
    afterStart status wsi prebuild ≠ .starting status' wsi' prebuild' := by
  unfold afterStart
  split_ifs
  · exact nofun
  · exact nofun

/-- Only a prebuild that is queued is started, and the copy says that it is building. -/
theorem queued_of_starting {status status' : WorkspaceStatus} {wsi wsi' : WorkspaceInstance}
    {row : PrebuildRow} {prebuild' : Prebuild}
    (h : (if row.state = .queued then
      .starting status wsi { row.load with state := .building }
        else afterStart status wsi row.load) = .starting status' wsi' prebuild') :
    row.state = .queued ∧ prebuild'.state = .building := by
  split_ifs at h with hqueued
  · rw [Handler.starting.injEq] at h
    rw [← h.2.2]
    exact ⟨hqueued, rfl⟩
  · exact absurd h afterStart_ne_starting

/-- An update of a prebuild's instance that says nothing but its phase. -/
def prebuildIn (phase : WorkspacePhase) : WorkspaceStatus :=
  ⟨.prebuild, "", "", phase, "", "", "", "", .empty, "", ""⟩

def startedInstance : WorkspaceInstance :=
  ⟨0, none, none, none, "", .pending, "", "", "", "", none, "", ""⟩

end Bridge

end Prebuilds

end Nxpod
