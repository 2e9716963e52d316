import Nxpod.Consensus.Votes

/-!
# Recovery from a Silent Leader

A follower that has not heard a heartbeat for a term timeout assumes there is
no viable leader and stands for election on its next beat. The source adds a
condition: the follower must have no vote recorded. A vote stays recorded
until a heartbeat is accepted or a newer term starts, so a follower that voted
for a candidate which never announces itself waits for someone else.

The beat in question begins with an empty queue, so it runs through the
message loop once without handling anything and reaches its duties. A follower
with a vote recorded passes them unchanged (`Waits`), however far the
activation is followed.

## Main definitions

* `HeartbeatSeen`: A follower last heard from its leader at a time.
* `StartsElection`: A beat turns the server into a candidate of a newer term.
* `Waits`: The node is a follower with nothing to do.
* `HeartbeatsTimed`: No heartbeat is recorded at time zero.

## Theorems

* `heartbeatsTimed_reachable`: No server records a heartbeat at time zero,
  which the code would read as never having seen one.
* `startsElection_iff`: The beat starts an election exactly when no vote is
  recorded.
* `election_withheld`: In some run it does not.
-/

namespace Nxpod

namespace Consensus

open Transition

variable {Uid : Type}

/-- The server is an idle follower with an empty queue which last accepted a
    heartbeat at time `seen`. -/
structure HeartbeatSeen (node : Node Uid) (seen : Nat) : Prop where
  idle : node.running = none
  role : node.server.role = .follower
  queue : node.server.messages = []
  heartbeat : node.server.lastHeartbeatFromLeader = some seen

instance [DecidableEq Uid] (node : Node Uid) (seen : Nat) : Decidable (HeartbeatSeen node seen) :=
  decidable_of_iff (node.running = none ∧ node.server.role = .follower ∧
      node.server.messages = [] ∧ node.server.lastHeartbeatFromLeader = some seen)
    ⟨fun h => ⟨h.1, h.2.1, h.2.2.1, h.2.2.2⟩, fun h => ⟨h.1, h.2, h.3, h.4⟩⟩

/-- The places a beat with an empty queue passes when nothing is due. -/
def idlePoint : Point → Bool
  | .messages | .duties | .candidacy => true
  | _ => false

/-- A follower of term `term` with a vote recorded and no message to handle,
    whose activation is between beats or passing through one. -/
structure Waits (node : Node Uid) (term : Nat) : Prop where
  role : node.server.role = .follower
  queue : node.server.messages = []
  voted : node.server.votedFor ≠ none
  term : node.server.currentTerm = term
  running : ∀ p, node.running = some p → idlePoint p = true

theorem assumeHeartbeat_of_seen (clock : Reading) (s : ConsensusLeaderQorum Uid) (seen : Nat)
    (hseen : s.lastHeartbeatFromLeader = some seen) (hpos : seen ≠ 0) :
    assumeHeartbeat clock s = s := by
  simp only [assumeHeartbeat, hseen, unset, beq_iff_eq, if_neg hpos]

theorem assumeHeartbeat_lastHeartbeat (clock : Reading) (s : ConsensusLeaderQorum Uid) :
    (assumeHeartbeat clock s).lastHeartbeatFromLeader = s.lastHeartbeatFromLeader ∨
      (assumeHeartbeat clock s).lastHeartbeatFromLeader = some clock.now := by
  unfold assumeHeartbeat
  split
  · exact Or.inr rfl
  · exact Or.inl rfl

theorem assumeDeadline_lastHeartbeat (clock : Reading) (s : ConsensusLeaderQorum Uid) :
    (assumeDeadline clock s).lastHeartbeatFromLeader = s.lastHeartbeatFromLeader := by
  unfold assumeDeadline
  split <;> rfl

variable [DecidableEq Uid]

theorem handleMessage_lastHeartbeat (self : Uid) (clock : Reading) (msg : RaftMessage Uid)
    (s : ConsensusLeaderQorum Uid) :
    (handleMessage self clock msg s).server.lastHeartbeatFromLeader = s.lastHeartbeatFromLeader ∨
      (handleMessage self clock msg s).server.lastHeartbeatFromLeader = some clock.now := by
  cases msg with
  | heartbeat term sender =>
      simp only [handleMessage]
      split_ifs
      · exact Or.inr rfl
      · exact Or.inr rfl
      · exact Or.inl rfl
  | requestVote term sender =>
      simp only [handleMessage]
      split_ifs <;> exact Or.inl rfl
  | castVote term sender forCandidate =>
      simp only [handleMessage]
      split_ifs <;> exact Or.inl rfl

/-- A stretch leaves the time of the last heartbeat alone or sets it to the
    clock it reads. -/
theorem beatClock_lastHeartbeat (self : Uid) (peers : Nat) (clock : Reading)
    (s : ConsensusLeaderQorum Uid) (p : Point) :
    (beatClock self peers clock s p).server.lastHeartbeatFromLeader = s.lastHeartbeatFromLeader ∨
      (beatClock self peers clock s p).server.lastHeartbeatFromLeader = some clock.now := by
  cases p with
  | messages =>
      simp only [beatClock]
      split
      · exact Or.inl rfl
      · exact handleMessage_lastHeartbeat self clock _ _
  | tally =>
      simp only [beatClock]
      split_ifs <;> exact Or.inl rfl
  | duties =>
      have hassume := assumeHeartbeat_lastHeartbeat clock s
      simp only [beatClock]
      split
      · split_ifs <;> exact Or.inl rfl
      · split_ifs <;> exact hassume
      · exact Or.inl rfl
  | candidacy =>
      have hassume := assumeDeadline_lastHeartbeat clock s
      simp only [beatClock]
      split
      · split_ifs <;> exact Or.inl hassume
      · exact Or.inl rfl
  | campaign caller => exact Or.inl rfl
  | done => exact Or.inl rfl

/-- A beat of a follower that has voted passes every point without changing
    the server, and without giving up control. -/
theorem beatClock_waits (self : Uid) (peers : Nat) (clock : Reading) (node : Node Uid)
    (term : Nat) (p : Point) (hw : Waits node term) (hrun : node.running = some p) :
    Waits (settle node (beatClock self peers clock node.server p)) term := by
  have hvoted : ∀ (s : ConsensusLeaderQorum Uid), s.votedFor = node.server.votedFor →
      s.votedFor.isNone = false := by
    intro s hs
    rw [hs, Option.isNone_eq_false_iff, Option.isSome_iff_ne_none]
    exact hw.voted
  have hpoint := hw.running p hrun
  cases p with
  | messages =>
      simp only [beatClock, hw.queue, settle]
      exact ⟨hw.role, hw.queue, hw.voted, hw.term, fun q hq => by cases hq; rfl⟩
  | duties =>
      -- the recorded vote keeps the election from being due
      have hdue : electionDue clock node.server .duties = false := by
        simp only [electionDue, hvoted node.server rfl, Bool.and_false]
      have hkeep := keeps_assumeHeartbeat clock node.server
      simp only [beatClock, hw.role, hdue, Bool.false_eq_true, if_false, settle]
      exact ⟨hkeep.role.trans hw.role, (assumeHeartbeat_messages _ _).trans hw.queue,
        hkeep.votedFor ▸ hw.voted, hkeep.currentTerm.trans hw.term, fun q hq => by cases hq; rfl⟩
  | candidacy =>
      simp only [beatClock, hw.role, settle]
      exact ⟨hw.role, hw.queue, hw.voted, hw.term, fun q hq => by cases hq⟩
  | tally | campaign caller | done =>
      exact absurd hpoint (by simp only [idlePoint, Bool.false_eq_true, not_false_eq_true])

/-- Without a vote the second stretch of the beat stands for election. -/
theorem beatClock_elects (self : Uid) (peers : Nat) (clock : Reading)
    (s : ConsensusLeaderQorum Uid) (hrole : s.role = .follower)
    (hsilent : leaderSilent clock (assumeHeartbeat clock s) = true) (hfree : s.votedFor = none) :
    (beatClock self peers clock s .duties).server.role = .candidate ∧
      (beatClock self peers clock s .duties).server.currentTerm = s.currentTerm + 1 := by
  have hdue : electionDue clock s .duties = true := by
    simp only [electionDue, hrole, hsilent, hfree, Option.isNone_none, Bool.and_self,
      decide_true]
  have hkeep := keeps_assumeHeartbeat clock s
  simp only [beatClock, hrole, hdue, if_true, startElection, voteFor, newTerm, nextTerm,
    hkeep.currentTerm, and_self]

variable [Fintype Uid]

/-- A beat that begins now, followed for as many stretches as it takes, turns
    the server into a candidate of a strictly higher term. -/
def StartsElection (c : Cluster Uid) (i : Uid) (clock : Reading) : Prop :=
  ∃ k c', runActions step (.beat i :: stretches i clock k) c = some c' ∧
    (c'.nodes i).server.role = .candidate ∧
      (c.nodes i).server.currentTerm < (c'.nodes i).server.currentTerm

/-- No server has recorded a heartbeat at time zero. -/
def HeartbeatsTimed (c : Cluster Uid) : Prop :=
  ∀ i, (c.nodes i).server.lastHeartbeatFromLeader ≠ some 0

/-- The step lemma: a heartbeat is recorded at the time of a reading. -/
theorem step_heartbeatsTimed {c c' : Cluster Uid} {a : Action Uid} (hinv : HeartbeatsTimed c)
    (h : step c a = some c') : HeartbeatsTimed c' := by
  intro j
  rcases step_cases h with ⟨i, clock, p, _, hex⟩ | ⟨_, hmove⟩
  · by_cases hj : j = i
    · rw [hj, hex.server]
      rcases beatClock_lastHeartbeat i (Fintype.card Uid) clock (c.nodes i).server p with
        hold | hnow
      · rw [turnOf, hold]
        exact hinv i
      · -- the clock a stretch reads is past the epoch
        have hpos := clock.now_pos
        rw [turnOf, hnow, ne_eq, Option.some.injEq]
        omega
    · rw [hex.others j hj]
      exact hinv j
  · rw [hmove.lastHeartbeat j]
    exact hinv j

theorem heartbeatsTimed_reachable {c : Cluster Uid} (hr : Reachable c) : HeartbeatsTimed c :=
  invariant_of_reachesWithin (fun _ _ _ _ hinv _ h => step_heartbeatsTimed hinv h) hr
    (fun _ => by simp only [initial, ne_eq, reduceCtorEq, not_false_eq_true])

/-- Stretches of a node that waits leave it waiting. -/
theorem stretches_waits (i : Uid) (clock : Reading) (term k : Nat) (c c' : Cluster Uid)
    (hw : Waits (c.nodes i) term)
    (hrun : runActions step (stretches i clock k) c = some c') : Waits (c'.nodes i) term := by
  induction k generalizing c with
  | zero =>
      simp only [stretches, List.replicate_zero, runActions, Option.some.injEq] at hrun
      rw [← hrun]
      exact hw
  | succ k ih =>
      simp only [stretches, List.replicate_succ, runActions] at hrun
      cases hp : (c.nodes i).running with
      | none =>
          simp only [step, hp] at hrun
          exact absurd hrun (by simp only [reduceCtorEq, not_false_eq_true])
      | some p =>
          -- one stretch leaves the node waiting, and the rest by induction
          rcases step_execute c i clock p hp with ⟨c₁, hstep, hnode⟩
          rw [hstep] at hrun
          refine ih c₁ ?_ hrun
          rw [hnode]
          exact beatClock_waits i (Fintype.card Uid) clock (c.nodes i) term p hw hp

/-- Two stretches take a beat with an empty queue through its duties. -/
theorem beat_through_duties (c : Cluster Uid) (i : Uid) (clock : Reading)
    (hidle : (c.nodes i).running = none) (hqueue : (c.nodes i).server.messages = []) :
    ∃ c', runActions step (.beat i :: stretches i clock 2) c = some c' ∧
      (c'.nodes i).server =
        (beatClock i (Fintype.card Uid) clock (c.nodes i).server .duties).server := by
  have hbeat : step c (.beat i) =
      some (c.setNode i { c.nodes i with running := some .messages }) := by
    simp only [step, hidle]
  -- the empty queue ends the message loop at once
  rcases step_execute (c.setNode i { c.nodes i with running := some .messages }) i clock .messages
    (by rw [setNode_nodes_self]) with ⟨c₁, hstep₁, hnode₁⟩
  simp only [setNode_nodes_self, turnOf, beatClock, hqueue, settle] at hnode₁
  rcases step_execute c₁ i clock .duties (by rw [hnode₁]) with ⟨c₂, hstep₂, hnode₂⟩
  refine ⟨c₂, ?_, ?_⟩
  · simp only [stretches, List.replicate_succ, List.replicate_zero, runActions, hbeat, hstep₁,
      hstep₂]
  · rw [hnode₂, settle_server, turnOf, hnode₁]

/-- In every reachable state, the next beat of an idle follower with an empty
    queue, whose last heartbeat is a term timeout ago, starts an election
    exactly when the follower has no vote recorded. A follower that has voted in
    its term thus waits for a heartbeat, and where all have voted for a server
    that has gone silent there is no further election. -/
theorem startsElection_iff (c : Cluster Uid) (hr : Reachable c) (i : Uid) (seen : Nat)
    (clock : Reading) (hnode : HeartbeatSeen (c.nodes i) seen)
    (hlate : seen + termTimeoutMilliseconds ≤ clock.now) :
    StartsElection c i clock ↔ (c.nodes i).server.votedFor = none := by
  constructor
  · -- a follower with a vote recorded waits through any number of stretches
    rintro ⟨k, c', hrun, hcand, _⟩
    by_contra hvoted
    simp only [runActions, step, hnode.idle] at hrun
    have hw := stretches_waits i clock (c.nodes i).server.currentTerm k _ c' (by
      rw [setNode_nodes_self]
      exact ⟨hnode.role, hnode.queue, hvoted, rfl, fun p hp => by cases hp; rfl⟩) hrun
    rw [hw.role] at hcand
    exact absurd hcand (by simp only [reduceCtorEq, not_false_eq_true])
  · intro hfree
    rcases beat_through_duties c i clock hnode.idle hnode.queue with ⟨c', hrun, hserver⟩
    -- time zero would count as no heartbeat at all
    have hpos : seen ≠ 0 := by
      intro hzero
      exact heartbeatsTimed_reachable hr i (hzero ▸ hnode.heartbeat)
    have hsilent : leaderSilent clock (assumeHeartbeat clock (c.nodes i).server) = true := by
      rw [assumeHeartbeat_of_seen clock _ seen hnode.heartbeat hpos]
      simp only [leaderSilent, hnode.heartbeat, Option.getD_some, decide_eq_true_eq]
      omega
    have helect := beatClock_elects i (Fintype.card Uid) clock (c.nodes i).server hnode.role
      hsilent hfree
    refine ⟨2, c', hrun, ?_, ?_⟩
    · rw [hserver]
      exact helect.1
    · rw [hserver, helect.2]
      exact Nat.lt_succ_self _

/-- Not every follower whose leader fell silent stands for election: in
    `rivalSchedule` server 2 accepts the heartbeat of server 0 and then votes
    for server 1, which never wins. -/
theorem election_withheld : ¬ ∀ c : Cluster (Fin 3), Reachable c → ∀ i seen clock,
    HeartbeatSeen (c.nodes i) seen → seen + termTimeoutMilliseconds ≤ clock.now →
      StartsElection c i clock := by
  intro hall
  rcases exists_of_runActions_any step rivalSchedule initial
    (fun c => decide (HeartbeatSeen (c.nodes 2) 160004 ∧
      (c.nodes 2).server.votedFor = some 1)) (by decide +kernel) with ⟨c, hrun, hfacts⟩
  rcases of_decide_eq_true hfacts with ⟨hnode, hvoted⟩
  have hr : Reachable c := reaches_of_runActions hrun
  rcases hall c hr 2 160004 (readAt 320004) hnode (by decide) with ⟨k, c', hbeat, hcand, _⟩
  simp only [runActions, step, hnode.idle] at hbeat
  have hw := stretches_waits 2 (readAt 320004) (c.nodes 2).server.currentTerm k _ c' (by
    rw [setNode_nodes_self]
    exact ⟨hnode.role, hnode.queue, by simp only [hvoted, ne_eq, reduceCtorEq,
      not_false_eq_true], rfl, fun p hp => by cases hp; rfl⟩) hbeat
  rw [hw.role] at hcand
  exact absurd hcand (by simp only [reduceCtorEq, not_false_eq_true])

/-- Server 2 before it votes for the rival: its next beat a term timeout later
    starts an election. -/
theorem startsElection_iff_run : ∃ c : Cluster (Fin 3), Reachable c ∧
    HeartbeatSeen (c.nodes 2) 160004 ∧ (c.nodes 2).server.votedFor = none ∧
      StartsElection c 2 (readAt 320004) := by
  rcases exists_of_runActions_any step
    (rivalSchedule.take 34 ++ [.deliver 2 4, .beat 2] ++ stretches 2 (readAt 160004) 4) initial
    (fun c => decide (HeartbeatSeen (c.nodes 2) 160004 ∧
      (c.nodes 2).server.votedFor = none)) (by decide +kernel) with ⟨c, hrun, hfacts⟩
  rcases of_decide_eq_true hfacts with ⟨hnode, hfree⟩
  have hr : Reachable c := reaches_of_runActions hrun
  exact ⟨c, hr, hnode, hfree,
    (startsElection_iff c hr 2 160004 (readAt 320004) hnode (by decide)).mpr hfree⟩

end Consensus

end Nxpod
