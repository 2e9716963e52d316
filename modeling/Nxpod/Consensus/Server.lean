import Mathlib.Data.Finset.Card
import Mathlib.Data.List.Basic
import Mathlib.Tactic.Common

/-!
# The Consensus Server

One server of the leader election: the fields of `ConsensusLeaderQorum` and
`beatClock`, the function the server's timer runs.

`beatClock` is asynchronous. It gives up control at every `await`, and since
the timer does not wait for the previous beat to finish, several activations
of it can be under way on one server. What an activation does between two
awaits is uninterrupted. The model therefore cuts `beatClock` at its awaits
and at the head of its message loop. A `Point` is a place an activation can
continue from, and `beatClock` here executes one activation from a point to
the next one, returning the server it leaves, the messages it handed to the
messenger, and whether it goes on or waits there.

Clock readings and the random part of an election timeout come in as a
`Reading`. A deadline is a whole number of milliseconds: the source adds a
fraction below one, which a comparison with `Date.now()` cannot see once the
deadline is rounded up.

Server names are an arbitrary type. The source draws them as UUIDs, so a name
is never the empty string and `!this.votedFor` says that no vote is recorded.

## Main definitions

* `RaftMessage`: The three messages of the protocol.
* `Role`: The role a server has at a time.
* `ConsensusLeaderQorum`: The fields of a server.
* `Turn`: The outcome of one stretch of an activation.
* `Keeps`: The two servers agree on everything an election depends on.
* `acceptLeader`, `newTerm`, `voteFor`, `recordVoteInOurFavour`,
  `startElection`: The source's methods, up to their first await.
* `electionDue`: An activation starts an election at this point.
* `beatClock`: One activation, from one point to the next.
* `Effect`: Everything a stretch of `beatClock` can do to a server.

## Theorems

* `beatClock_effect`: `beatClock` does nothing but what `Effect` lists.
-/

namespace Nxpod

namespace Consensus

/-- The messages servers exchange. Each names the server it comes from. -/
inductive RaftMessage (Uid : Type) where
  | heartbeat (term : Nat) (sender : Uid)
  | requestVote (term : Nat) (sender : Uid)
  | castVote (term : Nat) (sender : Uid) (forCandidate : Uid)
  deriving DecidableEq

/-- The role a server has at a time. -/
inductive Role where
  | leader
  | follower
  | candidate
  deriving DecidableEq

/-- Milliseconds between two beats of the local clock. -/
def clockPeriod : Nat := 20000

/-- How long an election may take at least. -/
def electionTimeout : Nat := 5 * clockPeriod

/-- How much longer it may take by chance. -/
def electionTimeoutVariation : Nat := 3 * clockPeriod

/-- How often a leader tells that it is there. -/
def heartbeatPeriod : Nat := 4 * clockPeriod

/-- After how long a follower takes the leader for gone. -/
def termTimeoutMilliseconds : Nat := 2 * heartbeatPeriod

/-- What an activation reads from outside the server: the current time, which
    is past the epoch, and the random part of an election timeout. -/
structure Reading where
  now : Nat
  jitter : Nat
  now_pos : 0 < now
  jitter_le : jitter ≤ electionTimeoutVariation

/-- The fields of a server. `votesInOurFavour` is a map whose values are all
    true, so its keys are the whole of it. `consensusAchieved` says whether
    the current deferred is resolved. -/
structure ConsensusLeaderQorum (Uid : Type) where
  messages : List (RaftMessage Uid) := []
  consensusAchieved : Bool := false
  lastHeartbeatSend : Option Nat := none
  lastHeartbeatFromLeader : Option Nat := none
  electionDeadline : Option Nat := none
  votesInOurFavour : Option (Finset Uid) := none
  currentTerm : Nat := 0
  votedFor : Option Uid := none
  currentLeader : Option Uid := none
  role : Role := .follower

/-- The places an activation of `beatClock` continues from. `campaign` is the
    second half of `startElection` and remembers where its caller goes on. -/
inductive Point where
  | messages
  | tally
  | duties
  | campaign (caller : Point)
  | candidacy
  | done
  deriving DecidableEq

/-- How a stretch ends: the activation goes on at a point without giving up
    control, or waits there for a promise. -/
inductive Control where
  | goto (p : Point)
  | await (p : Point)

/-- The outcome of one stretch of an activation. -/
structure Turn (Uid : Type) where
  server : ConsensusLeaderQorum Uid
  sent : List (RaftMessage Uid)
  control : Control

/-- JavaScript's `!t` for an optional timestamp. -/
def unset : Option Nat → Bool
  | none => true
  | some t => t == 0

variable {Uid : Type}

/-- `term || this.currentTerm + 1`: a missing term and term zero both mean the
    one after the current. -/
def nextTerm (s : ConsensusLeaderQorum Uid) : Option Nat → Nat
  | none => s.currentTerm + 1
  | some term => if term = 0 then s.currentTerm + 1 else term

/-- A new term begins without a vote. -/
def newTerm (term : Option Nat) (s : ConsensusLeaderQorum Uid) : ConsensusLeaderQorum Uid :=
  { s with currentTerm := nextTerm s term, votedFor := none }

/-- A server that has never seen a heartbeat pretends it has just seen one. -/
def assumeHeartbeat (clock : Reading) (s : ConsensusLeaderQorum Uid) : ConsensusLeaderQorum Uid :=
  if unset s.lastHeartbeatFromLeader then
    { s with lastHeartbeatFromLeader := some clock.now }
  else s

/-- A candidate without a deadline records one. -/
def assumeDeadline (clock : Reading) (s : ConsensusLeaderQorum Uid) : ConsensusLeaderQorum Uid :=
  if unset s.electionDeadline then
    { s with electionDeadline := some (clock.now + (clock.jitter + electionTimeout)) }
  else s

/-- The leader has been silent for a whole term timeout. -/
def leaderSilent (clock : Reading) (s : ConsensusLeaderQorum Uid) : Bool :=
  termTimeoutMilliseconds ≤ clock.now - s.lastHeartbeatFromLeader.getD 0

/-- The activation starts an election at this point: as a follower whose
    leader is silent and that has no vote recorded, or as a candidate past its
    deadline. -/
def electionDue (clock : Reading) (s : ConsensusLeaderQorum Uid) : Point → Bool
  | .duties => s.role = .follower && leaderSilent clock (assumeHeartbeat clock s) &&
      s.votedFor.isNone
  | .candidacy => s.role = .candidate &&
      (assumeDeadline clock s).electionDeadline.getD 0 ≤ clock.now
  | _ => false

/-- More than half of the peers have a vote recorded here. -/
def majorityRecorded (peers : Nat) (s : ConsensusLeaderQorum Uid) : Bool :=
  peers < 2 * (s.votesInOurFavour.getD ∅).card

/-- The leader owes its followers a heartbeat. -/
def heartbeatDue (clock : Reading) (s : ConsensusLeaderQorum Uid) : Bool :=
  unset s.lastHeartbeatSend || heartbeatPeriod < clock.now - s.lastHeartbeatSend.getD 0

/-- A positive term is taken over as it is. -/
theorem nextTerm_of_pos (s : ConsensusLeaderQorum Uid) {term : Nat} (h : 0 < term) :
    nextTerm s (some term) = term := by
  simp only [nextTerm, if_neg (by omega : ¬ term = 0)]

/-- The two servers agree on everything an election depends on. -/
structure Keeps (s s' : ConsensusLeaderQorum Uid) : Prop where
  currentTerm : s'.currentTerm = s.currentTerm
  votedFor : s'.votedFor = s.votedFor
  votesInOurFavour : s'.votesInOurFavour = s.votesInOurFavour
  role : s'.role = s.role

theorem keeps_assumeHeartbeat (clock : Reading) (s : ConsensusLeaderQorum Uid) :
    Keeps s (assumeHeartbeat clock s) := by
  unfold assumeHeartbeat
  split <;> exact ⟨rfl, rfl, rfl, rfl⟩

theorem keeps_assumeDeadline (clock : Reading) (s : ConsensusLeaderQorum Uid) :
    Keeps s (assumeDeadline clock s) := by
  unfold assumeDeadline
  split <;> exact ⟨rfl, rfl, rfl, rfl⟩

theorem assumeHeartbeat_messages (clock : Reading) (s : ConsensusLeaderQorum Uid) :
    (assumeHeartbeat clock s).messages = s.messages := by
  unfold assumeHeartbeat
  split <;> rfl

theorem assumeDeadline_messages (clock : Reading) (s : ConsensusLeaderQorum Uid) :
    (assumeDeadline clock s).messages = s.messages := by
  unfold assumeDeadline
  split <;> rfl

variable [DecidableEq Uid]

/-- A server accepts whoever says that it leads, be it itself. The term is that
    of the message. -/
def acceptLeader (self : Uid) (clock : Reading) (leader : Uid) (inTerm : Nat)
    (s : ConsensusLeaderQorum Uid) : ConsensusLeaderQorum Uid :=
  { newTerm (some inTerm) s with
    role := if leader = self then .leader else .follower
    currentLeader := some leader
    lastHeartbeatFromLeader := some clock.now
    consensusAchieved := true }

/-- Record the vote and hand it to the messenger. -/
def voteFor (self who : Uid) (s : ConsensusLeaderQorum Uid) :
    ConsensusLeaderQorum Uid × List (RaftMessage Uid) :=
  ({ s with votedFor := some who }, [.castVote s.currentTerm self who])

/-- Up to the request for the peer count. -/
def recordVoteInOurFavour (sender : Uid) (s : ConsensusLeaderQorum Uid) :
    ConsensusLeaderQorum Uid :=
  { s with votesInOurFavour := some (insert sender (s.votesInOurFavour.getD ∅)) }

/-- Up to the end of the server's own vote. The old deferred is resolved and
    replaced by a fresh one. -/
def startElection (self : Uid) (clock : Reading) (s : ConsensusLeaderQorum Uid) :
    ConsensusLeaderQorum Uid × List (RaftMessage Uid) :=
  -- the votes recorded so far are kept
  voteFor self self
    { newTerm none { s with
        electionDeadline := some (clock.now + (clock.jitter + electionTimeout)) } with
      consensusAchieved := false
      role := .candidate }

/-- The message is a regular heartbeat of the leader this server follows. -/
def regularHeartbeat (term : Nat) (sender : Uid) (s : ConsensusLeaderQorum Uid) : Prop :=
  term = s.currentTerm ∧ s.currentLeader = some sender

instance (term : Nat) (sender : Uid) (s : ConsensusLeaderQorum Uid) :
    Decidable (regularHeartbeat term sender s) :=
  inferInstanceAs (Decidable (_ ∧ _))

/-- One iteration of the message loop, up to its await. -/
def handleMessage (self : Uid) (clock : Reading) (msg : RaftMessage Uid)
    (s : ConsensusLeaderQorum Uid) : Turn Uid :=
  match msg with
  | .heartbeat term sender =>
      if regularHeartbeat term sender s then
        ⟨{ s with lastHeartbeatFromLeader := some clock.now }, [], .goto .messages⟩
      else if s.currentTerm ≤ term ∨ s.role = .candidate then
        -- a candidate accepts a leader of any term, its own or an older one
        ⟨acceptLeader self clock sender term s, [], .goto .messages⟩
      else
        ⟨s, [], .goto .messages⟩
  | .requestVote term sender =>
      -- the role is left alone, also a leader's
      let s := if s.currentTerm < term then newTerm (some term) s else s
      if s.votedFor = none ∨ s.currentTerm < term then
        let (s, sent) := voteFor self sender s
        ⟨s, sent, .await .messages⟩
      else
        ⟨s, [], .goto .messages⟩
  | .castVote term sender forCandidate =>
      if s.role = .candidate ∧ term = s.currentTerm ∧ forCandidate = self then
        ⟨recordVoteInOurFavour sender s, [], .await .tally⟩
      else
        ⟨s, [], .goto .messages⟩

/-- One activation of the server's clock beat, from a point to the next. -/
def beatClock (self : Uid) (peers : Nat) (clock : Reading) (s : ConsensusLeaderQorum Uid) :
    Point → Turn Uid
  | .messages => match s.messages with
      | [] => ⟨s, [], .goto .duties⟩
      | msg :: rest => handleMessage self clock msg { s with messages := rest }
  | .tally =>
      -- neither role nor term is compared with what they were before the await
      if majorityRecorded peers s then
        ⟨s, [.heartbeat s.currentTerm self], .await .messages⟩
      else
        ⟨s, [], .goto .messages⟩
  | .duties => match s.role with
      | .leader =>
          if heartbeatDue clock s then
            -- this promise is not awaited
            ⟨{ s with lastHeartbeatSend := some clock.now }, [.heartbeat s.currentTerm self],
              .goto .candidacy⟩
          else
            ⟨s, [], .goto .candidacy⟩
      | .follower =>
          if electionDue clock s .duties then
            let (s, sent) := startElection self clock (assumeHeartbeat clock s)
            ⟨s, sent, .await (.campaign .candidacy)⟩
          else
            ⟨assumeHeartbeat clock s, [], .goto .candidacy⟩
      | .candidate => ⟨s, [], .goto .candidacy⟩
  | .candidacy => match s.role with
      | .candidate =>
          if electionDue clock s .candidacy then
            let (s, sent) := startElection self clock (assumeDeadline clock s)
            ⟨s, sent, .await (.campaign .done)⟩
          else
            ⟨assumeDeadline clock s, [], .goto .done⟩
      | _ => ⟨s, [], .goto .done⟩
  | .campaign caller => ⟨s, [.requestVote s.currentTerm self], .await caller⟩
  | .done => ⟨s, [], .goto .done⟩

/-- Everything a stretch of `beatClock` from a point can do to a server, with
    the messages it sends. The guards say when it does so. -/
inductive Effect (self : Uid) (peers : Nat) (clock : Reading) (s : ConsensusLeaderQorum Uid) :
    Point → ConsensusLeaderQorum Uid → List (RaftMessage Uid) → Prop
  | quiet (p : Point) (s' : ConsensusLeaderQorum Uid) (hkeep : Keeps s s') :
      Effect self peers clock s p s' []
  | accept (term : Nat) (sender : Uid) (rest : List (RaftMessage Uid))
      (hmsg : s.messages = .heartbeat term sender :: rest)
      (hnew : s.currentTerm ≤ term ∨ s.role = .candidate) :
      Effect self peers clock s .messages
        (acceptLeader self clock sender term { s with messages := rest }) []
  | vote (term : Nat) (sender : Uid) (rest : List (RaftMessage Uid))
      (s' : ConsensusLeaderQorum Uid)
      (hmsg : s.messages = .requestVote term sender :: rest)
      (hfree : s.currentTerm < term ∨ s.votedFor = none)
      (hterm : s'.currentTerm = max s.currentTerm term)
      (hvoted : s'.votedFor = some sender)
      (hvotes : s'.votesInOurFavour = s.votesInOurFavour)
      (hrole : s'.role = s.role) :
      Effect self peers clock s .messages s' [.castVote s'.currentTerm self sender]
  | record (sender : Uid) (rest : List (RaftMessage Uid))
      (hmsg : s.messages = .castVote s.currentTerm sender self :: rest)
      (hrole : s.role = .candidate) :
      Effect self peers clock s .messages
        (recordVoteInOurFavour sender { s with messages := rest }) []
  | tally (hmaj : majorityRecorded peers s = true) :
      Effect self peers clock s .tally s [.heartbeat s.currentTerm self]
  | lead (s' : ConsensusLeaderQorum Uid) (hkeep : Keeps s s') (hrole : s.role = .leader) :
      Effect self peers clock s .duties s' [.heartbeat s.currentTerm self]
  | elect (p : Point) (s' : ConsensusLeaderQorum Uid)
      (hdue : electionDue clock s p = true)
      (hterm : s'.currentTerm = s.currentTerm + 1)
      (hvoted : s'.votedFor = some self)
      (hvotes : s'.votesInOurFavour = s.votesInOurFavour)
      (hrole : s'.role = .candidate) :
      Effect self peers clock s p s' [.castVote s'.currentTerm self self]
  | campaign (caller : Point) :
      Effect self peers clock s (.campaign caller) s [.requestVote s.currentTerm self]

/-- What handling a message can do to a server, as far as roles, terms and votes
    go. -/
theorem handleMessage_effect (self : Uid) (peers : Nat) (clock : Reading)
    (s : ConsensusLeaderQorum Uid) (msg : RaftMessage Uid) (rest : List (RaftMessage Uid))
    (hmsg : s.messages = msg :: rest) :
    Effect self peers clock s .messages
      (handleMessage self clock msg { s with messages := rest }).server
      (handleMessage self clock msg { s with messages := rest }).sent := by
  cases msg with
  | heartbeat term sender =>
      by_cases hreg : regularHeartbeat term sender { s with messages := rest }
      · simp only [handleMessage, if_pos hreg]
        exact Effect.quiet _ _ ⟨rfl, rfl, rfl, rfl⟩
      · by_cases hnew : s.currentTerm ≤ term ∨ s.role = .candidate
        · simp only [handleMessage, if_neg hreg, if_pos hnew]
          exact Effect.accept term sender rest hmsg hnew
        · simp only [handleMessage, if_neg hreg, if_neg hnew]
          exact Effect.quiet _ _ ⟨rfl, rfl, rfl, rfl⟩
  | requestVote term sender =>
      by_cases hlt : s.currentTerm < term
      · -- the newer term clears the recorded vote, so this request is granted
        have hterm : nextTerm { s with messages := rest } (some term) = term :=
          nextTerm_of_pos _ (by omega)
        simp only [handleMessage, if_pos hlt, newTerm, true_or, if_true, voteFor]
        exact Effect.vote term sender rest _ hmsg (Or.inl hlt) (by simp only [hterm]; omega)
          rfl rfl rfl
      · by_cases hfree : s.votedFor = none
        · simp only [handleMessage, if_neg hlt, hfree, true_or, if_true, voteFor]
          exact Effect.vote term sender rest _ hmsg (Or.inr hfree) (by simp only; omega)
            rfl rfl rfl
        · simp only [handleMessage, if_neg hlt, hfree, false_or]
          exact Effect.quiet _ _ ⟨rfl, rfl, rfl, rfl⟩
  | castVote term sender forCandidate =>
      by_cases hours : s.role = .candidate ∧ term = s.currentTerm ∧ forCandidate = self
      · simp only [handleMessage, if_pos hours]
        rcases hours with ⟨hrole, hterm, hself⟩
        rw [hterm, hself] at hmsg
        exact Effect.record sender rest hmsg hrole
      · simp only [handleMessage, if_neg hours]
        exact Effect.quiet _ _ ⟨rfl, rfl, rfl, rfl⟩

/-- A stretch of `beatClock` does nothing but what `Effect` lists. Every
    invariant of the protocol is derived from this. -/
theorem beatClock_effect (self : Uid) (peers : Nat) (clock : Reading)
    (s : ConsensusLeaderQorum Uid) (p : Point) :
    Effect self peers clock s p (beatClock self peers clock s p).server
      (beatClock self peers clock s p).sent := by
  have hquiet : Keeps s s := ⟨rfl, rfl, rfl, rfl⟩
  cases p with
  | messages =>
      cases hmsg : s.messages with
      | nil =>
          simp only [beatClock, hmsg]
          exact Effect.quiet _ _ hquiet
      | cons msg rest =>
          simp only [beatClock, hmsg]
          exact handleMessage_effect self peers clock s msg rest hmsg
  -- The votes are counted after the await, and a majority has a heartbeat sent.
  | tally =>
      by_cases hmaj : majorityRecorded peers s = true
      · simp only [beatClock, if_pos hmaj]
        exact Effect.tally hmaj
      · simp only [beatClock, if_neg hmaj]
        exact Effect.quiet _ _ hquiet
  | duties =>
      cases hrole : s.role with
      -- The only duty of a leader is the heartbeat.
      | leader =>
          by_cases hdue : heartbeatDue clock s = true
          · simp only [beatClock, hrole, if_pos hdue]
            exact Effect.lead _ ⟨rfl, rfl, rfl, hrole.symm⟩ hrole
          · simp only [beatClock, hrole, if_neg hdue]
            exact Effect.quiet _ _ hquiet
      | follower =>
          -- The first look at the clock assumes a heartbeat.
          have hkeep := keeps_assumeHeartbeat clock s
          by_cases hdue : electionDue clock s .duties = true
          · simp only [beatClock, hrole, if_pos hdue, startElection, voteFor]
            exact Effect.elect _ _ hdue (by simp only [newTerm, nextTerm, hkeep.currentTerm])
              rfl hkeep.votesInOurFavour rfl
          · simp only [beatClock, hrole, if_neg hdue]
            exact Effect.quiet _ _ hkeep
      -- What a candidate does comes at the next point.
      | candidate =>
          simp only [beatClock, hrole]
          exact Effect.quiet _ _ hquiet
  -- The server has voted for itself, and asks the others next.
  | campaign caller => exact Effect.campaign caller
  | candidacy =>
      cases hrole : s.role with
      | candidate =>
          -- A candidate without a deadline gets one first.
          have hkeep := keeps_assumeDeadline clock s
          by_cases hdue : electionDue clock s .candidacy = true
          · simp only [beatClock, hrole, if_pos hdue, startElection, voteFor]
            exact Effect.elect _ _ hdue (by simp only [newTerm, nextTerm, hkeep.currentTerm])
              rfl hkeep.votesInOurFavour rfl
          · simp only [beatClock, hrole, if_neg hdue]
            exact Effect.quiet _ _ hkeep
      | leader =>
          simp only [beatClock, hrole]
          exact Effect.quiet _ _ hquiet
      | follower =>
          simp only [beatClock, hrole]
          exact Effect.quiet _ _ hquiet
  | done => exact Effect.quiet _ _ hquiet

/-- An activation only ever takes messages off the queue. -/
theorem beatClock_messages_subset (self : Uid) (peers : Nat) (clock : Reading)
    (s : ConsensusLeaderQorum Uid) (p : Point) :
    (beatClock self peers clock s p).server.messages ⊆ s.messages := by
  cases p with
  | messages =>
      cases hmsg : s.messages with
      | nil => simp only [beatClock, hmsg, List.Subset.refl]
      | cons msg rest =>
          have hrest : (handleMessage self clock msg { s with messages := rest }).server.messages
              = rest := by
            cases msg <;> simp only [handleMessage] <;> split_ifs <;>
              simp only [acceptLeader, newTerm, voteFor, recordVoteInOurFavour]
          simp only [beatClock, hmsg, hrest]
          exact List.subset_cons_self msg rest
  | tally => simp only [beatClock]; split_ifs <;> exact List.Subset.refl _
  | duties =>
      simp only [beatClock]
      split <;> (try split_ifs) <;>
        simp only [startElection, voteFor, newTerm, assumeHeartbeat_messages, List.Subset.refl]
  | campaign caller => exact List.Subset.refl _
  | candidacy =>
      simp only [beatClock]
      split <;> (try split_ifs) <;>
        simp only [startElection, voteFor, newTerm, assumeDeadline_messages, List.Subset.refl]
  | done => exact List.Subset.refl _

end Consensus

end Nxpod
