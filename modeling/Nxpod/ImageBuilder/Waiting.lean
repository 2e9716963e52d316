import Nxpod.Library.Map
import Nxpod.Library.Parties
import Nxpod.Library.Transition

/-!
# Waiting for a Build

Requests to build an image. The first one for a reference registers a build and does it.
When it is done it deregisters the build and closes it. One that finds the build
registered listens in: it tells its client that the build is running, waits for the build
to finish, and answers with the status of the build.

A request waits on a condition. It goes to sleep with the lock of the build in its hands,
which is released as it falls asleep, and `Close` wakes all that are asleep. A request
that was woken looks at the status of the build. One that has not been asleep does not.

A build is known by its number. There is one for each time that a reference was
registered.

## Main definitions

* `Build`, `Request`, `Server`: The builds and the requests.
* `Action`: A request comes in or goes on, a build ends, or a client is gone.
* `step`: What can happen.
* `closedWith`: The status that a build was closed with.
* `Waited`: No request waits for a build that was closed, and the answers are right.
* `InTime`: The condition on a step.

## Theorems

* `closedWith_close`: A build is closed once.
* `asleep_forever`: A request that waits for a closed build is not woken.
* `answered_of_woken`: A request that was woken answers.
* `inv_step`: What a step preserves.
* `waited_iff`: The runs in which all requests that wait are answered.
-/

namespace Nxpod

namespace ImageBuilder

namespace Waiting

open Transition Parties

/-- The status as it is told to clients. -/
inductive BuildStatus
  | unknown
  | running
  | done_failure
  | done_success
  deriving DecidableEq

/-- A build, which may have been closed. -/
structure Build where
  closed : Bool
  status : BuildStatus

/-- A build that has just been registered. -/
def newBuild : Build where
  closed := false
  status := .running

/-- How far a request is. It is `registered` until the build is done, and `deregistered`
    until the build is closed. -/
inductive Request
  | arrived (wsrefstr : String)
  | registered (wsrefstr : String) (bld : Nat)
  | deregistered (bld : Nat) (sts : BuildStatus)
  | built (sts : BuildStatus)
  | found (bld : Nat)
  | told (bld : Nat)
  | asleep (bld : Nat)
  | woken (bld : Nat)
  | answered (bld : Nat) (resp : BuildStatus)
  | failed
  deriving DecidableEq

/-- The builds that are registered, all there ever were, and the requests. -/
structure Server where
  builds : Map String Nat
  all : List Build
  requests : List Request

/-- A request comes in or goes on, a build ends, or a client is gone. -/
inductive Action
  | build (wsrefstr : String)
  | next (i : Nat)
  | finish (i : Nat) (err : Bool)
  | disconnect (i : Nat)

/-- A request goes on. -/
def goOn (s : Server) (i : Nat) (r : Request) : Server :=
  { s with requests := s.requests.set i r }

/-- Broadcasting the condition of a build. -/
def wake (bld : Nat) : Request → Request
  | .asleep other => if other = bld then .woken bld else .asleep other
  | r => r

/-- A build that was closed is not closed again. -/
def close (s : Server) (bld : Nat) (status : BuildStatus) : Server :=
  match s.all[bld]? with
  | some b =>
      if b.closed then s
      else { s with
        all := s.all.set bld { b with closed := true, status := status }
        requests := s.requests.map (wake bld) }
  | none => s

/-- What a build is closed with. -/
def closeStatus (err : Bool) : BuildStatus :=
  if err then .done_failure else .done_success

/-- What ends the loop of `Wait`. -/
def terminal (resp : BuildStatus) : Bool :=
  resp = .done_failure || resp = .done_success

/-- A step of a request. Who has been told that the build is running goes to sleep without a
    look at it. -/
def next (s : Server) (i : Nat) : Request → Option Server
  | .arrived wsrefstr => match s.builds.lookup wsrefstr with
    | some bld => some (goOn s i (.found bld))
    | none => some { goOn s i (.registered wsrefstr s.all.length) with
        all := s.all ++ [newBuild]
        builds := s.builds.insert wsrefstr s.all.length }
  | .found bld => some (goOn s i (.told bld))
  | .told bld => some (goOn s i (.asleep bld))
  | .woken bld => match s.all[bld]? with
    | some b =>
        if terminal b.status then some (goOn s i (.answered bld b.status))
        else some (goOn s i (.asleep bld))
    | none => none
  | .deregistered bld sts => some (goOn (close s bld sts) i (.built sts))
  | _ => none

/-- Every action is a step of one request. -/
def step (s : Server) : Action → Option Server
  | .build wsrefstr => some { s with requests := s.requests ++ [.arrived wsrefstr] }
  | .next i => match s.requests[i]? with
    | some r => next s i r
    | none => none
  | .finish i err => match s.requests[i]? with
    | some (.registered wsrefstr bld) =>
        some { goOn s i (.deregistered bld (closeStatus err)) with
          builds := s.builds.erase wsrefstr }
    | _ => none
  | .disconnect i => match s.requests[i]? with
    | some (.found _) => some (goOn s i .failed)
    | _ => none

/-- Nothing is being built. -/
def newServer : Server where
  builds := ∅
  all := []
  requests := []

/-! ## What is claimed of the requests -/

/-- What a build was closed with, if it was. -/
def closedWith (s : Server) (bld : Nat) : Option BuildStatus :=
  match s.all[bld]? with
  | some b => if b.closed then some b.status else none
  | none => none

/-- No request waits for a build that was closed, and those that have waited answer with the
    status that the build was closed with. -/
structure Waited (s : Server) : Prop where
  asleep : ∀ bld, .asleep bld ∈ s.requests → closedWith s bld = none
  answered : ∀ bld resp, .answered bld resp ∈ s.requests → closedWith s bld = some resp

/-- A request begins to wait before the build is closed. -/
def InTime (s : Server) : Action → Prop
  | .next i => match s.requests[i]? with
    | some (.told bld) => closedWith s bld = none
    | _ => True
  | _ => True

/-- What holds of a request, given what the builds were closed with. One that was woken
    finds that the build is done. -/
def Request.Holds (closed : Nat → Option BuildStatus) : Request → Prop
  | .asleep bld => closed bld = none
  | .woken bld => ∃ resp, closed bld = some resp ∧ terminal resp = true
  | .answered bld resp => closed bld = some resp
  | .deregistered _ sts => terminal sts = true
  | _ => True

/-- What is kept of each request, by where it is. -/
def Inv (s : Server) : Prop :=
  ∀ r ∈ s.requests, r.Holds (closedWith s)

variable {s s' t : Server} {a : Action} {i bld : Nat} {r : Request} {sts resp : BuildStatus}

/-! ## Closing -/

theorem terminal_closeStatus (err : Bool) : terminal (closeStatus err) = true := by
  cases err <;> rfl

theorem closedWith_eq_some_iff (s : Server) (bld : Nat) (resp : BuildStatus) :
    closedWith s bld = some resp ↔
      ∃ b, s.all[bld]? = some b ∧ b.closed = true ∧ b.status = resp := by
  unfold closedWith
  cases hb : s.all[bld]? with
  | none => exact iff_of_false nofun fun h => absurd h.choose_spec.1 nofun
  | some b =>
      dsimp only
      split_ifs with hclosed
      · constructor
        · intro h
          exact ⟨b, rfl, hclosed, Option.some.inj h⟩
        · intro h
          rcases h with ⟨b', hb', _, hstatus⟩
          rw [Option.some.inj hb', hstatus]
      · refine iff_of_false nofun fun h => ?_
        rcases h with ⟨b', hb', hclosed', _⟩
        rw [← Option.some.inj hb'] at hclosed'
        exact hclosed hclosed'

/-- Closing a build has no effect, or it had not been closed and is closed now. -/
theorem close_eq (s : Server) (bld : Nat) (sts : BuildStatus) :
    close s bld sts = s ∨ (closedWith s bld = none ∧
      closedWith (close s bld sts) bld = some sts ∧
      (∀ bld', bld' ≠ bld → closedWith (close s bld sts) bld' = closedWith s bld') ∧
      (close s bld sts).requests = s.requests.map (wake bld)) := by
  unfold close
  split
  · next b hb =>
      split_ifs with hclosed
      · exact .inl rfl
      · refine .inr ⟨?_, ?_, fun bld' hne => ?_, rfl⟩
        · unfold closedWith
          rw [hb]
          exact if_neg hclosed
        · unfold closedWith
          dsimp only
          rw [List.getElem?_set_self (List.getElem?_eq_some_iff.mp hb).1]
          exact if_pos rfl
        · unfold closedWith
          dsimp only
          rw [List.getElem?_set_ne (Ne.symm hne)]
  · exact .inl rfl

theorem holds_wake {closed closed' : Nat → Option BuildStatus} (h : r.Holds closed)
    (hsts : terminal sts = true) (hnone : closed bld = none) (hbld : closed' bld = some sts)
    (hother : ∀ bld', bld' ≠ bld → closed' bld' = closed bld') : (wake bld r).Holds closed' := by
  have hkeep : ∀ other resp, closed other = some resp → closed' other = some resp := by
    intro other resp hother'
    by_cases heq : other = bld
    · rw [heq, hnone] at hother'
      exact absurd hother' nofun
    · rw [hother other heq]
      exact hother'
  cases r with
  | asleep other =>
      unfold wake
      dsimp only
      split_ifs with heq
      · exact ⟨sts, hbld, hsts⟩
      · exact (hother other heq).trans h
  | woken other =>
      rcases h with ⟨resp, hresp, hterminal⟩
      exact ⟨resp, hkeep other resp hresp, hterminal⟩
  | answered other resp => exact hkeep other resp h
  | deregistered other resp => exact h
  | arrived wsrefstr => trivial
  | registered wsrefstr other => trivial
  | built resp => trivial
  | found other => trivial
  | told other => trivial
  | failed => trivial

/-- All that were asleep are woken. -/
theorem inv_close (hs : Inv s) (hsts : terminal sts = true) : Inv (close s bld sts) := by
  rcases close_eq s bld sts with heq | ⟨hnone, hbld, hother, hrequests⟩
  · rw [heq]
    exact hs
  · intro r hr
    rw [hrequests] at hr
    rcases List.mem_map.mp hr with ⟨r', hr', rfl⟩
    exact holds_wake (hs r' hr') hsts hnone hbld hother

/-! ## One step -/

theorem inv_goOn (hs : Inv s) (hr : r.Holds (closedWith s)) : Inv (goOn s i r) :=
  forall_mem_set hs hr

/-- A new build has not been closed. -/
theorem closedWith_append (s : Server) (builds : Map String Nat) (requests : List Request)
    (bld : Nat) : closedWith ⟨builds, s.all ++ [newBuild], requests⟩ bld = closedWith s bld := by
  unfold closedWith
  dsimp only
  by_cases hlt : bld < s.all.length
  · rw [List.getElem?_append_left hlt]
  · rw [List.getElem?_append_right (Nat.not_lt.mp hlt), List.getElem?_singleton,
      List.getElem?_eq_none (Nat.not_lt.mp hlt)]
    split_ifs <;> rfl

theorem inv_next (hs : Inv s) (hi : s.requests[i]? = some r) (hin : InTime s (.next i))
    (h : next s i r = some s') : Inv s' := by
  have hr := hs r (List.mem_of_getElem? hi)
  unfold InTime at hin
  dsimp only at hin
  rw [hi] at hin
  cases r with
  | arrived wsrefstr =>
      unfold next at h
      dsimp only at h
      split at h
      · rw [← Option.some.inj h]
        exact inv_goOn hs trivial
      · rw [← Option.some.inj h]
        intro r' hr'
        have hclosed : closedWith { goOn s i (.registered wsrefstr s.all.length) with
            all := s.all ++ [newBuild]
            builds := s.builds.insert wsrefstr s.all.length } = closedWith s :=
          funext fun bld => closedWith_append s _ _ bld
        rw [hclosed]
        exact inv_goOn hs (r := .registered wsrefstr s.all.length) trivial r' hr'
  | found bld =>
      rw [next, Option.some.injEq] at h
      rw [← h]
      exact inv_goOn hs trivial
  | told bld =>
      rw [next, Option.some.injEq] at h
      rw [← h]
      exact inv_goOn hs hin
  | woken bld =>
      -- Who is woken finds the build closed.
      rcases hr with ⟨resp, hresp, hterminal⟩
      rcases (closedWith_eq_some_iff s bld resp).mp hresp with ⟨b, hb, _, hstatus⟩
      unfold next at h
      dsimp only at h
      rw [hb] at h
      dsimp only at h
      rw [hstatus, if_pos hterminal] at h
      rw [← Option.some.inj h]
      exact inv_goOn hs hresp
  | deregistered bld sts =>
      rw [next, Option.some.injEq] at h
      rw [← h]
      exact inv_goOn (inv_close hs hr) trivial
  | registered wsrefstr bld => exact absurd h nofun
  | built sts => exact absurd h nofun
  | asleep bld => exact absurd h nofun
  | answered bld resp => exact absurd h nofun
  | failed => exact absurd h nofun

/-- One case for each action. -/
theorem inv_step (hs : Inv s) (hin : InTime s a) (h : step s a = some s') : Inv s' := by
  cases a with
  | build wsrefstr =>
      rw [step, Option.some.injEq] at h
      rw [← h]
      intro r hr
      rcases List.mem_append.mp hr with hold | hnew
      · exact hs r hold
      · rw [List.mem_singleton.mp hnew]
        trivial
  | next i =>
      rw [step] at h
      split at h
      · next r hi => exact inv_next hs hi hin h
      · exact absurd h nofun
  | finish i err =>
      rw [step] at h
      split at h
      · next wsrefstr bld hi =>
          rw [← Option.some.inj h]
          exact inv_goOn (r := .deregistered bld (closeStatus err)) hs (terminal_closeStatus err)
      · exact absurd h nofun
  | disconnect i =>
      rw [step] at h
      split at h
      · rw [← Option.some.inj h]
        exact inv_goOn hs trivial
      · exact absurd h nofun

theorem waited_of_inv (hs : Inv s) : Waited s where
  asleep _ hmem := hs _ hmem
  answered _ _ hmem := hs _ hmem

/-- One that begins to wait too late is asleep then. -/
theorem inTime_of_waited (h : step s a = some s') (hwaited : Waited s') : InTime s a := by
  unfold InTime
  split
  · next i =>
      rw [step] at h
      split at h
      · next r hi =>
          split
          · next bld hbld =>
              have hr := Option.some.inj (hi.symm.trans hbld)
              rw [hr, next, Option.some.injEq] at h
              rw [← h] at hwaited
              exact hwaited.asleep bld (List.mem_set (List.getElem?_eq_some_iff.mp hi).1 _)
          · trivial
      · exact absurd h nofun
  · trivial

/-- What was woken has an answer. -/
theorem answered_of_woken (hs : Inv s) (hi : s.requests[i]? = some (.woken bld)) :
    ∃ resp, closedWith s bld = some resp ∧
      step s (.next i) = some (goOn s i (.answered bld resp)) := by
  rcases hs _ (List.mem_of_getElem? hi) with ⟨resp, hresp, hterminal⟩
  rcases (closedWith_eq_some_iff s bld resp).mp hresp with ⟨b, hb, _, hstatus⟩
  refine ⟨resp, hresp, ?_⟩
  rw [step, hi]
  unfold next
  dsimp only
  rw [hb]
  dsimp only
  rw [hstatus, if_pos hterminal]

/-! ## Who begins to wait too late -/

/-- A build that was closed stays as it is, whatever else is closed. -/
theorem closedWith_close (hclosed : closedWith s bld = some resp) (bld' : Nat) :
    closedWith (close s bld' sts) bld = some resp := by
  rcases close_eq s bld' sts with heq | ⟨hnone, _, hother, _⟩
  · rw [heq]
    exact hclosed
  · by_cases heq : bld = bld'
    · rw [← heq, hclosed] at hnone
      exact absurd hnone nofun
    · rw [hother bld heq]
      exact hclosed

theorem asleep_close (hi : s.requests[i]? = some (.asleep bld))
    (hclosed : closedWith s bld = some resp) (bld' : Nat) :
    (close s bld' sts).requests[i]? = some (.asleep bld) := by
  rcases close_eq s bld' sts with heq | ⟨hnone, _, _, hrequests⟩
  · rw [heq]
    exact hi
  · have hne : bld ≠ bld' := fun heq => by
      rw [← heq, hclosed] at hnone
      exact absurd hnone nofun
    rw [hrequests, List.getElem?_map, hi]
    exact congrArg some (if_neg hne)

/-- Another request goes on. -/
theorem asleep_goOn {j : Nat} {rj : Request} (hj : s.requests[j]? = some rj)
    (hne : rj ≠ .asleep bld) (hi : s.requests[i]? = some (.asleep bld))
    (hi' : s'.requests[i]? = some (.asleep bld)) :
    (goOn s' j r).requests[i]? = some (.asleep bld) := by
  have hij : j ≠ i := fun heq => hne (Option.some.inj (hj.symm.trans (heq ▸ hi)))
  rw [goOn, List.getElem?_set_ne hij]
  exact hi'

/-- So it is after every step. -/
theorem asleep_step (hi : s.requests[i]? = some (.asleep bld))
    (hclosed : closedWith s bld = some resp) (h : step s a = some s') :
    s'.requests[i]? = some (.asleep bld) ∧ closedWith s' bld = some resp := by
  -- No step but the broadcast wakes it, and a closed build stays as it is.
  cases a with
  | build wsrefstr =>
      rw [step, Option.some.injEq] at h
      rw [← h]
      exact ⟨(List.getElem?_append_left (List.getElem?_eq_some_iff.mp hi).1).trans hi, hclosed⟩
  | next j =>
      rw [step] at h
      split at h
      · next rj hj =>
          cases rj with
          | arrived wsrefstr =>
              unfold next at h
              dsimp only at h
              split at h
              · rw [← Option.some.inj h]
                -- It is another request that goes on, as this one sleeps.
                exact ⟨asleep_goOn hj nofun hi hi, hclosed⟩
              · rw [← Option.some.inj h]
                exact ⟨asleep_goOn hj nofun hi hi, (closedWith_append s _ _ bld).trans hclosed⟩
          | found bld' =>
              rw [next, Option.some.injEq] at h
              rw [← h]
              exact ⟨asleep_goOn hj nofun hi hi, hclosed⟩
          | told bld' =>
              rw [next, Option.some.injEq] at h
              rw [← h]
              exact ⟨asleep_goOn hj nofun hi hi, hclosed⟩
          | woken bld' =>
              unfold next at h
              dsimp only at h
              split at h
              · split_ifs at h with hterminal
                · rw [← Option.some.inj h]
                  exact ⟨asleep_goOn hj nofun hi hi, hclosed⟩
                · rw [← Option.some.inj h]
                  exact ⟨asleep_goOn hj nofun hi hi, hclosed⟩
              · exact absurd h nofun
          | deregistered bld' sts =>
              rw [next, Option.some.injEq] at h
              rw [← h]
              -- A build that is closed keeps its result, whichever is closed now.
              exact ⟨asleep_goOn hj nofun hi (asleep_close hi hclosed bld'),
                closedWith_close hclosed bld'⟩
          | registered wsrefstr bld' => exact absurd h nofun
          | built sts => exact absurd h nofun
          | asleep bld' => exact absurd h nofun
          | answered bld' resp' => exact absurd h nofun
          | failed => exact absurd h nofun
      · exact absurd h nofun
  | finish j err =>
      rw [step] at h
      split at h
      · next wsrefstr bld' hj =>
          rw [← Option.some.inj h]
          exact ⟨asleep_goOn hj nofun hi hi, hclosed⟩
      · exact absurd h nofun
  | disconnect j =>
      rw [step] at h
      split at h
      · next bld' hj =>
          rw [← Option.some.inj h]
          exact ⟨asleep_goOn hj nofun hi hi, hclosed⟩
      · exact absurd h nofun

/-- A request that is asleep when the build was closed stays so, whatever happens. -/
theorem asleep_forever (hi : s.requests[i]? = some (.asleep bld))
    (hclosed : closedWith s bld = some resp) (h : ReachesWithin step (fun _ _ => True) s t) :
    t.requests[i]? = some (.asleep bld) := by
  have hboth : t.requests[i]? = some (.asleep bld) ∧ closedWith t bld = some resp := by
    induction h with
    | refl => exact ⟨hi, hclosed⟩
    | step t1 t2 a _ _ hstep ih => exact asleep_step ih.1 ih.2 hstep
  exact hboth.1

/-! ## Runs -/

theorem inv_newServer : Inv newServer :=
  fun _ hmem => absurd hmem List.not_mem_nil

/-- The runs in which no request waits for a build that was closed, and all that have waited
    answer with what it was closed with, are those in which no request begins to wait after the
    build was closed. Looking the build up and beginning to wait are two steps, and a build that
    is closed between them has nobody left to tell. -/
theorem waited_iff (as : List Action) :
    StepsAlong step (fun _ _ s' => Waited s') as newServer ↔ MeetsAlong step InTime as newServer :=
  stepsAlong_iff_meetsAlong_while
    (fun _ _ _ hs h hwaited => inv_step hs (inTime_of_waited h hwaited) h)
    (fun _ _ _ hs h => ⟨inTime_of_waited h, fun hin => waited_of_inv (inv_step hs hin h)⟩) as _
    inv_newServer

/-- The second request is about to wait when the build is closed. It waits forever. -/
theorem asleep_after_close : ∃ t, runActions step
      [.build "ws", .build "ws", .next 0, .next 1, .next 1, .finish 0 false, .next 0, .next 1]
      newServer = some t ∧
    closedWith t 0 = some .done_success ∧
    ∀ t', ReachesWithin step (fun _ _ => True) t t' → t'.requests[1]? = some (.asleep 0) :=
  ⟨_, rfl, rfl, fun _ h =>
    asleep_forever rfl (rfl : closedWith _ 0 = some .done_success) h⟩

end Waiting

end ImageBuilder

end Nxpod
