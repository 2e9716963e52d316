import Nxpod.Consensus.Votes

/-!
# Announcing a Leader

A server announces itself as leader of its term by a heartbeat. It sends one
when the votes recorded in its favour are a majority, and keeps sending them
while it is in the role of leader. The announcement is meant to rest on the
votes of more than half of the servers in that term.

Three branches let it rest on less. `votesInOurFavour` is never emptied, so
votes of a failed election count toward the next one. A vote request of a
newer term raises the term of a leader without ending its leadership. And
after waiting for the peer count a server announces itself without checking
that it still is a candidate. Away from these the votes recorded by a candidate
are votes of its own term, and everything announced has been won.

## Main definitions

* `carriesVotes`: Votes of an earlier term are carried into a new one.
* `leadsOn`: A leader takes its role into a newer term.
* `announcesLate`: A server which is no longer a candidate announces itself.
* `NeverOversteps`: The guard that no stretch executed does any of these.
* `AnnounceInv`: The invariant.

## Theorems

* `announceInv_executes`: What a stretch has to provide.
* `announceInv_accept` and so on: That each kind of stretch provides it.
* `step_announceInv`: Guarded steps keep the invariant.
* `announced_carried`: In guarded runs a term announced has been carried and
  the votes counted are votes of the term.
* `announced_without_majority`: Some run announces a term that was not.
-/

namespace Nxpod

namespace Consensus

open Transition Majority

variable {Uid : Type}

/-- The servers whose votes are recorded. -/
def recordedVotes (s : ConsensusLeaderQorum Uid) : Finset Uid := s.votesInOurFavour.getD ∅

section Invariant

variable [Fintype Uid]

/-- What every guarded run keeps: a candidate has counted votes of its term
    only, leaders have carried their terms, so has whoever announced itself,
    and all of these terms are positive. -/
structure AnnounceInv (c : Cluster Uid) : Prop where
  counted : ∀ i, (c.nodes i).server.role = .candidate →
    ∀ v ∈ recordedVotes (c.nodes i).server, ballot c v (c.nodes i).server.currentTerm i
  led : ∀ i, (c.nodes i).server.role = .leader →
    Carried (ballot c) (c.nodes i).server.currentTerm i
  announced : ∀ term u, .heartbeat term u ∈ c.sent → Carried (ballot c) term u
  active : ∀ i, (c.nodes i).server.role ≠ .follower → 0 < (c.nodes i).server.currentTerm
  positive : ∀ term u, .heartbeat term u ∈ c.sent → 0 < term

theorem announceInv_initial : AnnounceInv (initial : Cluster Uid) where
  counted := fun _ h => Role.noConfusion h
  led := fun _ h => Role.noConfusion h
  announced := fun _ _ h => absurd h List.not_mem_nil
  active := fun _ h => absurd rfl h
  positive := fun _ _ h => absurd h List.not_mem_nil

/-- Moving messages changes no server, so the invariant stays. -/
theorem announceInv_movesMessages {c c' : Cluster Uid} (hinv : AnnounceInv c)
    (hmove : MovesMessages c c') : AnnounceInv c' := by
  have hballot : ballot c' = ballot c := by
    funext v term who
    rw [ballot, ballot, hmove.sent]
  refine ⟨fun i hrole v hv => ?_, fun i hrole => ?_, fun term u h => ?_, fun i hrole => ?_,
    fun term u h => ?_⟩
  · rw [(hmove.keeps i).role] at hrole
    rw [recordedVotes, (hmove.keeps i).votesInOurFavour] at hv
    rw [hballot, (hmove.keeps i).currentTerm]
    exact hinv.counted i hrole v hv
  · rw [(hmove.keeps i).role] at hrole
    rw [hballot, (hmove.keeps i).currentTerm]
    exact hinv.led i hrole
  · rw [hmove.sent] at h
    rw [hballot]
    exact hinv.announced term u h
  · rw [(hmove.keeps i).role] at hrole
    rw [(hmove.keeps i).currentTerm]
    exact hinv.active i hrole
  · rw [hmove.sent] at h
    exact hinv.positive term u h

/-- A server that is not a follower and announces its term has carried it:
    a leader because it leads, a candidate because it counted a majority. -/
theorem carried_of_announcing {c : Cluster Uid} (hinv : AnnounceInv c) {i : Uid}
    (hrole : (c.nodes i).server.role ≠ .follower)
    (hmaj : (c.nodes i).server.role = .candidate →
      majorityRecorded (Fintype.card Uid) (c.nodes i).server = true) :
    Carried (ballot c) (c.nodes i).server.currentTerm i := by
  cases h : (c.nodes i).server.role with
  | leader => exact hinv.led i h
  | follower => exact absurd h hrole
  | candidate =>
      exact ⟨recordedVotes (c.nodes i).server, of_decide_eq_true (hmaj h), hinv.counted i h⟩

end Invariant

variable [DecidableEq Uid]

/-- A server starts an election with votes of others left over from an earlier
    one, or a candidate with any vote recorded enters a newer term. Its own
    vote left over does no harm in an election, since it casts it again. -/
def carriesVotes (self : Uid) (clock : Reading) (s : ConsensusLeaderQorum Uid) (p : Point) : Bool :=
  match p, s.messages with
  | .messages, .requestVote term _ :: _ =>
      s.currentTerm < term && s.role = .candidate && recordedVotes s ≠ ∅
  | p, _ => electionDue clock s p && ¬ recordedVotes s ⊆ {self}

/-- A leader enters a newer term on a vote request and stays in its role. -/
def leadsOn (s : ConsensusLeaderQorum Uid) (p : Point) : Bool :=
  match p, s.messages with
  | .messages, .requestVote term _ :: _ => s.currentTerm < term && s.role = .leader
  | _, _ => false

/-- The peer count arrives, a majority is recorded, and the server has become
    a follower in the meantime. -/
def announcesLate (peers : Nat) (s : ConsensusLeaderQorum Uid) (p : Point) : Bool :=
  p = .tally && majorityRecorded peers s && s.role = .follower

/-- An election that carries no votes starts with at most the server's own. -/
theorem recordedVotes_subset_of_electionDue {self : Uid} {clock : Reading}
    {s : ConsensusLeaderQorum Uid} {p : Point} (hdue : electionDue clock s p = true)
    (hcarry : carriesVotes self clock s p = false) : recordedVotes s ⊆ {self} := by
  unfold carriesVotes at hcarry
  split at hcarry
  · exact absurd hdue (by simp only [electionDue, Bool.false_eq_true, not_false_eq_true])
  · simpa only [hdue, Bool.true_and, decide_eq_false_iff_not, not_not] using hcarry

variable [Fintype Uid]

/-- No stretch is executed in which votes are carried into a new term, a
    leader leads on in a newer term or a follower announces itself. -/
def NeverOversteps : Cluster Uid → Action Uid → Prop :=
  WhenExecuting fun c i clock p => carriesVotes i clock (c.nodes i).server p = false ∧
    leadsOn (c.nodes i).server p = false ∧
    announcesLate (Fintype.card Uid) (c.nodes i).server p = false

instance (c : Cluster Uid) (a : Action Uid) : Decidable (NeverOversteps c a) :=
  decidableWhenExecuting _ c a

/-- The record of sends only grows, so no vote is ever taken back. -/
theorem ballot_mono {c c' : Cluster Uid} {i : Uid} {clock : Reading} {p : Point}
    (hex : Executes c c' i clock p) {v who : Uid} {term : Nat} (h : ballot c v term who) :
    ballot c' v term who := by
  rw [ballot, hex.sent]
  exact List.mem_append_left _ h

/-- What a stretch of node `i` has to provide for the invariant to be kept: the
    facts about the server it leaves, and about the heartbeats it sends. -/
theorem announceInv_executes {c c' : Cluster Uid} {i : Uid} {clock : Reading} {p : Point}
    {s' : ConsensusLeaderQorum Uid} {sent : List (RaftMessage Uid)}
    (hinv : AnnounceInv c) (hex : Executes c c' i clock p)
    (hserver : (c'.nodes i).server = s') (hturn : (turnOf c i clock p).sent = sent)
    (hcounted : s'.role = .candidate → ∀ v ∈ recordedVotes s', ballot c' v s'.currentTerm i)
    (hled : s'.role = .leader → Carried (ballot c') s'.currentTerm i)
    (hactive : s'.role ≠ .follower → 0 < s'.currentTerm)
    (hsent : ∀ term u, .heartbeat term u ∈ sent → 0 < term ∧ Carried (ballot c') term u) :
    AnnounceInv c' := by
  subst hserver
  subst hturn
  -- what was carried before is still carried
  have hmono : ∀ {term : Nat} {u : Uid}, Carried (ballot c) term u → Carried (ballot c') term u :=
    fun h => carried_mono (fun _ => ballot_mono hex) h
  refine ⟨fun j hrole => ?_, fun j hrole => ?_, fun term u h => ?_, fun j hrole => ?_,
    fun term u h => ?_⟩
  -- each part is provided for node `i` and kept for the others
  · by_cases hj : j = i
    · exact hj ▸ hcounted (hj ▸ hrole)
    · rw [hex.others j hj] at hrole ⊢
      exact fun v hv => ballot_mono hex (hinv.counted j hrole v hv)
  · by_cases hj : j = i
    · exact hj ▸ hled (hj ▸ hrole)
    · rw [hex.others j hj] at hrole ⊢
      exact hmono (hinv.led j hrole)
  · rw [hex.sent, List.mem_append] at h
    rcases h with hold | hnew
    · exact hmono (hinv.announced term u hold)
    · exact (hsent term u hnew).2
  · by_cases hj : j = i
    · exact hj ▸ hactive (hj ▸ hrole)
    · rw [hex.others j hj] at hrole ⊢
      exact hinv.active j hrole
  · rw [hex.sent, List.mem_append] at h
    rcases h with hold | hnew
    · exact hinv.positive term u hold
    · exact (hsent term u hnew).1

/-- A stretch that leaves role, term and counted votes alone only has to
    account for the heartbeats it sends. -/
theorem announceInv_keeps {c c' : Cluster Uid} {i : Uid} {clock : Reading} {p : Point}
    {s' : ConsensusLeaderQorum Uid} {sent : List (RaftMessage Uid)}
    (hinv : AnnounceInv c) (hex : Executes c c' i clock p)
    (hserver : (c'.nodes i).server = s') (hturn : (turnOf c i clock p).sent = sent)
    (hkeep : Keeps (c.nodes i).server s')
    (hsent : ∀ term u, .heartbeat term u ∈ sent → 0 < term ∧ Carried (ballot c') term u) :
    AnnounceInv c' := by
  refine announceInv_executes hinv hex hserver hturn (fun hrole v hv => ?_) (fun hrole => ?_)
    (fun hrole => ?_) hsent
  · rw [hkeep.role] at hrole
    rw [recordedVotes, hkeep.votesInOurFavour] at hv
    rw [hkeep.currentTerm]
    exact ballot_mono hex (hinv.counted i hrole v hv)
  · rw [hkeep.role] at hrole
    rw [hkeep.currentTerm]
    exact carried_mono (fun _ => ballot_mono hex) (hinv.led i hrole)
  · rw [hkeep.role] at hrole
    rw [hkeep.currentTerm]
    exact hinv.active i hrole

/-- Accepting a heartbeat keeps the invariant: the heartbeat was announced, so
    its term is positive and carried by whoever sent it. -/
theorem announceInv_accept {c c' : Cluster Uid} {i : Uid} {clock : Reading} {p : Point}
    {term : Nat} {sender : Uid} {rest : List (RaftMessage Uid)}
    (hinv : AnnounceInv c) (hex : Executes c c' i clock p)
    (hserver : (c'.nodes i).server = acceptLeader i clock sender term
      { (c.nodes i).server with messages := rest })
    (hturn : (turnOf c i clock p).sent = []) (hannounced : .heartbeat term sender ∈ c.sent) :
    AnnounceInv c' := by
  have hpos := hinv.positive term sender hannounced
  have hterm : (acceptLeader i clock sender term { (c.nodes i).server with
      messages := rest }).currentTerm = term := nextTerm_of_pos _ hpos
  refine announceInv_executes hinv hex hserver hturn (fun hrole => ?_) (fun hrole => ?_)
    (fun _ => ?_) (fun _ _ hm => absurd hm List.not_mem_nil)
  · -- nobody becomes a candidate by accepting a leader
    simp only [acceptLeader] at hrole
    split_ifs at hrole
  · -- only a server that accepts itself becomes the leader
    have hself : sender = i := by
      by_contra hc
      simp only [acceptLeader, if_neg hc, reduceCtorEq] at hrole
    rw [hterm, ← hself]
    exact carried_mono (fun _ => ballot_mono hex) (hinv.announced term sender hannounced)
  · rw [hterm]
    exact hpos

/-- Granting a vote keeps the invariant if a newer term finds no candidate with
    votes recorded and no leader. -/
theorem announceInv_vote {c c' : Cluster Uid} {i : Uid} {clock : Reading}
    {s' : ConsensusLeaderQorum Uid} {term : Nat} {sender : Uid} {rest : List (RaftMessage Uid)}
    (hinv : AnnounceInv c) (hex : Executes c c' i clock .messages)
    (hserver : (c'.nodes i).server = s')
    (hturn : (turnOf c i clock .messages).sent = [.castVote s'.currentTerm i sender])
    (hmsg : (c.nodes i).server.messages = .requestVote term sender :: rest)
    (hterm : s'.currentTerm = max (c.nodes i).server.currentTerm term)
    (hvotes : s'.votesInOurFavour = (c.nodes i).server.votesInOurFavour)
    (hrole : s'.role = (c.nodes i).server.role)
    (hcarry : carriesVotes i clock (c.nodes i).server .messages = false)
    (hlead : leadsOn (c.nodes i).server .messages = false) : AnnounceInv c' := by
  refine announceInv_executes hinv hex hserver hturn (fun hcand v hv => ?_) (fun hlead' => ?_)
    (fun hact => ?_) (fun _ _ hm => absurd (List.mem_singleton.mp hm) nofun)
  · rw [hrole] at hcand
    rw [recordedVotes, hvotes, ← recordedVotes] at hv
    -- with a vote recorded the candidate has stayed in its term
    have hle : ¬ (c.nodes i).server.currentTerm < term := by
      intro hlt
      simp only [carriesVotes, hmsg, hlt, hcand, decide_true, Bool.and_self, Bool.true_and,
        ne_eq, decide_eq_false_iff_not, not_not] at hcarry
      rw [hcarry] at hv
      exact absurd hv (Finset.notMem_empty v)
    rw [hterm, max_eq_left (Nat.not_lt.mp hle)]
    exact ballot_mono hex (hinv.counted i hcand v hv)
  · rw [hrole] at hlead'
    -- and so has a leader
    have hle : ¬ (c.nodes i).server.currentTerm < term := by
      intro hlt
      simp only [leadsOn, hmsg, hlt, hlead', decide_true, Bool.and_self,
        Bool.true_eq_false] at hlead
    rw [hterm, max_eq_left (Nat.not_lt.mp hle)]
    exact carried_mono (fun _ => ballot_mono hex) (hinv.led i hlead')
  · rw [hrole] at hact
    have hpos := hinv.active i hact
    omega

/-- Recording a vote keeps the invariant: the vote received has been cast. -/
theorem announceInv_record {c c' : Cluster Uid} {i : Uid} {clock : Reading} {p : Point}
    {sender : Uid} {rest : List (RaftMessage Uid)}
    (hinv : AnnounceInv c) (hex : Executes c c' i clock p)
    (hserver : (c'.nodes i).server =
      recordVoteInOurFavour sender { (c.nodes i).server with messages := rest })
    (hturn : (turnOf c i clock p).sent = [])
    (hcast : ballot c sender (c.nodes i).server.currentTerm i)
    (hrole : (c.nodes i).server.role = .candidate) : AnnounceInv c' := by
  refine announceInv_executes hinv hex hserver hturn (fun _ v hv => ?_) (fun hlead => ?_)
    (fun _ => hinv.active i (by rw [hrole]; intro hc; cases hc))
    (fun _ _ hm => absurd hm List.not_mem_nil)
  · simp only [recordedVotes, recordVoteInOurFavour, Option.getD_some, Finset.mem_insert] at hv
    rcases hv with rfl | hold
    · exact ballot_mono hex hcast
    · exact ballot_mono hex (hinv.counted i hrole v hold)
  · cases hrole.symm.trans hlead

/-- Starting an election keeps the invariant if no votes of others are carried
    into it. -/
theorem announceInv_elect {c c' : Cluster Uid} {i : Uid} {clock : Reading} {p : Point}
    {s' : ConsensusLeaderQorum Uid} (hinv : AnnounceInv c) (hex : Executes c c' i clock p)
    (hserver : (c'.nodes i).server = s')
    (hturn : (turnOf c i clock p).sent = [.castVote s'.currentTerm i i])
    (hdue : electionDue clock (c.nodes i).server p = true)
    (hterm : s'.currentTerm = (c.nodes i).server.currentTerm + 1)
    (hvotes : s'.votesInOurFavour = (c.nodes i).server.votesInOurFavour)
    (hrole : s'.role = .candidate)
    (hcarry : carriesVotes i clock (c.nodes i).server p = false) : AnnounceInv c' := by
  refine announceInv_executes hinv hex hserver hturn (fun _ v hv => ?_) (fun hlead => ?_)
    (fun _ => by omega) (fun _ _ hm => by cases List.mem_singleton.mp hm)
  · -- only its own vote may be left over, and that one it has just cast again
    rw [recordedVotes, hvotes, ← recordedVotes] at hv
    have hsub := recordedVotes_subset_of_electionDue hdue hcarry
    rw [Finset.mem_singleton.mp (hsub hv), ballot, hex.sent, hturn]
    exact List.mem_append_right _ (List.mem_singleton.mpr rfl)
  · cases hrole.symm.trans hlead

/-- A server that is no follower, and as a candidate has recorded a majority,
    announces only its own term, which it has carried. -/
theorem carried_of_heartbeat {c c' : Cluster Uid} {i : Uid} {clock : Reading} {p : Point}
    (hinv : AnnounceInv c) (hex : Executes c c' i clock p)
    (hrole : (c.nodes i).server.role ≠ .follower)
    (hmaj : (c.nodes i).server.role = .candidate →
      majorityRecorded (Fintype.card Uid) (c.nodes i).server = true) (term : Nat) (u : Uid)
    (hm : .heartbeat term u ∈ [RaftMessage.heartbeat (c.nodes i).server.currentTerm i]) :
    0 < term ∧ Carried (ballot c') term u := by
  injection List.mem_singleton.mp hm with hterm hu
  rw [hterm, hu]
  exact ⟨hinv.active i hrole,
    carried_mono (fun _ => ballot_mono hex) (carried_of_announcing hinv hrole hmaj)⟩

/-- The step lemma, for a step that does not overstep. Votes are counted one by
    one, and what is announced is compared with the count. -/
theorem step_announceInv {c c' : Cluster Uid} {a : Action Uid} (hq : QueuedSent c)
    (hinv : AnnounceInv c) (hok : NeverOversteps c a) (h : step c a = some c') :
    AnnounceInv c' := by
  rcases step_cases h with ⟨i, clock, p, rfl, hex⟩ | ⟨_, hmove⟩
  · rcases (whenExecuting_iff _ hex.running).mp hok with ⟨hcarry, hlead, hlate⟩
    have heff := beatClock_effect i (Fintype.card Uid) clock (c.nodes i).server p
    rw [← turnOf, ← hex.server] at heff
    generalize hserver : (c'.nodes i).server = s' at heff
    generalize hturn : (turnOf c i clock p).sent = sent at heff
    -- the message handled is at the head of the queue, so it has been sent
    have hqueue : ∀ m rest, (c.nodes i).server.messages = m :: rest → m ∈ c.sent :=
      fun m rest hm => hq i m (Or.inr (hm ▸ List.mem_cons_self))
    cases heff with
    | quiet _ _ hkeep =>
        exact announceInv_keeps hinv hex hserver hturn hkeep
          (fun _ _ hm => absurd hm List.not_mem_nil)
    | campaign caller =>
        exact announceInv_keeps hinv hex hserver hturn ⟨rfl, rfl, rfl, rfl⟩
          (fun _ _ hm => by cases List.mem_singleton.mp hm)
    | lead _ hkeep hrole =>
        exact announceInv_keeps hinv hex hserver hturn hkeep
          (carried_of_heartbeat hinv hex (by rw [hrole]; intro hc; cases hc)
            (fun hc => by cases hrole.symm.trans hc))
    | tally hmaj =>
        refine announceInv_keeps hinv hex hserver hturn ⟨rfl, rfl, rfl, rfl⟩
          (carried_of_heartbeat hinv hex (fun hrole => ?_) (fun _ => hmaj))
        -- a follower would announce itself late
        simp only [announcesLate, hmaj, hrole, decide_true, Bool.and_self,
          Bool.true_eq_false] at hlate
    | accept term sender rest hmsg _ =>
        exact announceInv_accept hinv hex hserver hturn (hqueue _ _ hmsg)
    | vote term sender rest _ hmsg _ hterm _ hvotes hrole =>
        exact announceInv_vote hinv hex hserver hturn hmsg hterm hvotes hrole hcarry hlead
    | record sender rest hmsg hrole =>
        exact announceInv_record hinv hex hserver hturn (hqueue _ _ hmsg) hrole
    | elect _ _ hdue hterm _ hvotes hrole =>
        exact announceInv_elect hinv hex hserver hturn hdue hterm hvotes hrole hcarry
  · exact announceInv_movesMessages hinv hmove

/-- The invariant holds along every run that never oversteps. -/
theorem announceInv_reachable {c : Cluster Uid} (hr : ReachableWithin NeverOversteps c) :
    AnnounceInv c :=
  invariant_of_reachesWithin
    (fun _ _ _ hreach hinv hok h => step_announceInv (queued_sent hreach) hinv hok h) hr
    announceInv_initial

/-- Every term announced has been carried by the server announcing it, and
    candidates have counted votes of their current terms only. -/
def AnnouncementsBacked (c : Cluster Uid) : Prop :=
  (∀ term u, .heartbeat term u ∈ c.sent → Carried (ballot c) term u) ∧
    ∀ i, (c.nodes i).server.role = .candidate →
      ∀ v ∈ recordedVotes (c.nodes i).server, ballot c v (c.nodes i).server.currentTerm i

/-- In a run in which no votes are carried into a new term, no leader leads on
    in a newer term and no follower announces itself, announcements are backed
    by a majority of votes of the term. The votes are those that were sent, so
    that what a server counts is tied to what others have done. -/
theorem announced_carried (c : Cluster Uid) (hr : ReachableWithin NeverOversteps c) :
    AnnouncementsBacked c :=
  ⟨(announceInv_reachable hr).announced, (announceInv_reachable hr).counted⟩

/-- Not every run backs its announcements. -/
theorem announced_without_majority :
    ¬ ∀ c : Cluster (Fin 3), Reachable c → AnnouncementsBacked c := by
  intro hall
  rcases exists_of_runActions_any step staleVoteSchedule initial
    (fun c => decide (.heartbeat 2 0 ∈ c.sent ∧ ∀ v, ballot c v 2 0 → v = 0))
    (by decide +kernel) with ⟨c, hrun, hfacts⟩
  rcases of_decide_eq_true hfacts with ⟨hsent, honly⟩
  have hr : Reachable c := reaches_of_runActions hrun
  -- a majority of three would have two members, and there is one voter
  rcases (hall c hr).1 2 0 hsent with ⟨S, hmaj, hS⟩
  have hsub : S ⊆ {0} := fun v hv => Finset.mem_singleton.mpr (honly v (hS v hv))
  have hcard := Finset.card_le_card hsub
  rw [Finset.card_singleton] at hcard
  unfold IsMajority at hmaj
  rw [Fintype.card_fin] at hmaj
  omega

/-- A run in which the guard holds and a server has announced itself. -/
theorem announced_carried_run : ∃ c : Cluster (Fin 3),
    ReachableWithin NeverOversteps c ∧ .heartbeat 1 0 ∈ c.sent ∧ AnnouncementsBacked c := by
  rcases exists_of_runActions_any step (rivalSchedule.take 34) initial
    (fun c => decide (.heartbeat 1 0 ∈ c.sent)) (by decide +kernel) with ⟨c, hrun, hsent⟩
  have hr : ReachableWithin NeverOversteps c :=
    reachesWithin_of_runActions (rivalSchedule.take 34) initial c (by decide +kernel) hrun
  exact ⟨c, hr, of_decide_eq_true hsent, announced_carried c hr⟩

end Consensus

end Nxpod
