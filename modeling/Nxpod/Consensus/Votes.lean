import Nxpod.Consensus.Term
import Nxpod.Library.Majority

/-!
# One Vote per Term

A server is meant to support one candidate a term, and `votedFor` is its
memory of having done so. The memory is cleared too often: `acceptLeader`
enters a new term even when the leader's term is the server's own, so the vote
of that term is forgotten and the next vote request, of that or of an older
term, is granted again.

That step and the step back to an older term are the only ways to a second
vote. The invariant behind this has three parts. No server has voted in a term
past its own; a vote recorded is the one cast in the current term; and no
server has voted twice in a term.

## Main definitions

* `ballot`: The votes cast in a run, as an election of `Library.Majority`.
* `votesAgain`: A server that has voted in its term and forgotten it handles
  a vote request which is not of a newer term.
* `NeverVotesAgain`: The guard that no stretch executed does so.
* `Voting`: What a stretch does about votes.
* `VoteInv`: The invariant.

## Theorems

* `beatClock_voting`: A stretch casts one vote and records it, or casts none.
* `step_voteInv`: Guarded steps keep the invariant.
* `single_vote`: Guarded runs cast single ballots.
* `double_vote`: Some run does not.
-/

namespace Nxpod

namespace Consensus

open Transition Majority

variable {Uid : Type}

/-- The votes handed to the messenger so far: `v` voted for `who` in `term`. -/
def ballot (c : Cluster Uid) (v : Uid) (term : Nat) (who : Uid) : Prop :=
  .castVote term v who ∈ c.sent

/-- What every guarded run keeps: no server has voted in a term past its own,
    a recorded vote is the one cast in the current term, and no server has
    voted twice in a term. -/
structure VoteInv (c : Cluster Uid) : Prop where
  bound : ∀ v term who, ballot c v term who → term ≤ (c.nodes v).server.currentTerm
  recorded : ∀ v who who', ballot c v (c.nodes v).server.currentTerm who →
    (c.nodes v).server.votedFor = some who' → who = who'
  single : SingleBallot (ballot c)

theorem voteInv_initial : VoteInv (initial : Cluster Uid) where
  bound := fun _ _ _ h => absurd h List.not_mem_nil
  recorded := fun _ _ _ h => absurd h List.not_mem_nil
  single := fun _ _ _ _ h => absurd h List.not_mem_nil

/-- Where messages only move, the invariant speaks about the same facts. -/
theorem voteInv_movesMessages {c c' : Cluster Uid} (hinv : VoteInv c)
    (hmove : MovesMessages c c') : VoteInv c' where
  bound := by
    intro v term who h
    rw [ballot, hmove.sent] at h
    rw [(hmove.keeps v).currentTerm]
    exact hinv.bound v term who h
  recorded := by
    intro v who who' h hvoted
    rw [ballot, hmove.sent, (hmove.keeps v).currentTerm] at h
    rw [(hmove.keeps v).votedFor] at hvoted
    exact hinv.recorded v who who' h hvoted
  single := by
    intro v term who who' h h'
    rw [ballot, hmove.sent] at h h'
    exact hinv.single v term who who' h h'

variable [DecidableEq Uid]

instance (c : Cluster Uid) (v : Uid) (term : Nat) (who : Uid) : Decidable (ballot c v term who) :=
  inferInstanceAs (Decidable (_ ∈ c.sent))

/-- The server has cast a vote in the term. -/
def hasVoted (c : Cluster Uid) (v : Uid) (term : Nat) : Bool :=
  c.sent.any fun m => match m with
    | .castVote t w _ => t = term && w = v
    | _ => false

theorem hasVoted_of_ballot {c : Cluster Uid} {v who : Uid} {term : Nat}
    (h : ballot c v term who) : hasVoted c v term = true := by
  simp only [hasVoted, List.any_eq_true]
  exact ⟨_, h, by simp only [decide_true, Bool.and_self]⟩

/-- A server handles a vote request which is not of a newer term, with no vote
    recorded although it has cast one in its term. -/
def votesAgain (c : Cluster Uid) (i : Uid) (p : Point) : Bool :=
  match p, (c.nodes i).server.messages with
  | .messages, .requestVote term _ :: _ =>
      term ≤ (c.nodes i).server.currentTerm && (c.nodes i).server.votedFor.isNone &&
        hasVoted c i (c.nodes i).server.currentTerm
  | _, _ => false

/-- What a stretch does about votes. It casts one and records it, in a newer
    term or in answer to a request which is not of a newer term while none is
    recorded; or it casts none and keeps or clears the record. -/
inductive Voting (self : Uid) (s : ConsensusLeaderQorum Uid) (p : Point)
    (s' : ConsensusLeaderQorum Uid) (sent : List (RaftMessage Uid)) : Prop
  | casts (who : Uid) (hsent : sent = [.castVote s'.currentTerm self who])
      (hvoted : s'.votedFor = some who)
      (hfree : s.currentTerm < s'.currentTerm ∨ (s'.currentTerm = s.currentTerm ∧
        s.votedFor = none ∧ p = .messages ∧
        ∃ term sender rest, s.messages = .requestVote term sender :: rest ∧
          term ≤ s.currentTerm))
  | abstains (hsent : ∀ t v who, .castVote t v who ∉ sent)
      (hvoted : s'.votedFor = none ∨
        (s'.votedFor = s.votedFor ∧ s'.currentTerm = s.currentTerm))

/-- What an activation does about votes, from any point on. -/
theorem beatClock_voting (self : Uid) (peers : Nat) (clock : Reading)
    (s : ConsensusLeaderQorum Uid) (p : Point) :
    Voting self s p (beatClock self peers clock s p).server
      (beatClock self peers clock s p).sent := by
  have hnone : ∀ (m : RaftMessage Uid), (∀ t v who, m ≠ .castVote t v who) →
      ∀ t v who, .castVote t v who ∉ [m] :=
    fun m hm t v who hc => hm t v who (List.mem_singleton.mp hc).symm
  have heff := beatClock_effect self peers clock s p
  generalize (beatClock self peers clock s p).server = s' at heff ⊢
  generalize (beatClock self peers clock s p).sent = sent at heff ⊢
  cases heff with
  | quiet _ _ hkeep =>
      exact Voting.abstains (fun _ _ _ => List.not_mem_nil)
        (Or.inr ⟨hkeep.votedFor, hkeep.currentTerm⟩)
  | lead _ hkeep _ =>
      exact Voting.abstains (hnone _ nofun) (Or.inr ⟨hkeep.votedFor, hkeep.currentTerm⟩)
  | accept term sender rest _ _ =>
      exact Voting.abstains (fun _ _ _ => List.not_mem_nil) (Or.inl rfl)
  | vote term sender rest _ hmsg hfree hterm hvoted _ _ =>
      refine Voting.casts sender rfl hvoted ?_
      -- a newer term, or the request found no vote recorded
      by_cases hlt : s.currentTerm < term
      · exact Or.inl (by rw [hterm]; omega)
      · rcases hfree with hlt' | hopen
        · exact absurd hlt' hlt
        · exact Or.inr ⟨by rw [hterm]; omega, hopen, rfl, term, sender, rest, hmsg, by omega⟩
  | record sender rest _ _ =>
      exact Voting.abstains (fun _ _ _ => List.not_mem_nil) (Or.inr ⟨rfl, rfl⟩)
  | tally _ => exact Voting.abstains (hnone _ nofun) (Or.inr ⟨rfl, rfl⟩)
  | elect _ _ _ hterm hvoted _ _ =>
      exact Voting.casts self rfl hvoted (Or.inl (by rw [hterm]; omega))
  | campaign caller => exact Voting.abstains (hnone _ nofun) (Or.inr ⟨rfl, rfl⟩)

variable [Fintype Uid]

/-- No stretch is executed in which a server grants a vote in a term it has
    already voted in. -/
def NeverVotesAgain : Cluster Uid → Action Uid → Prop :=
  WhenExecuting fun c i _ p => votesAgain c i p = false

instance (c : Cluster Uid) (a : Action Uid) : Decidable (NeverVotesAgain c a) :=
  decidableWhenExecuting _ c a

/-- A stretch that casts no vote keeps the invariant, provided it lowers no
    term: an old vote of the term it ends in was cast in the term it began in. -/
theorem voteInv_abstains {c c' : Cluster Uid} {i : Uid} {clock : Reading} {p : Point}
    (hinv : VoteInv c) (hex : Executes c c' i clock p)
    (hmono : ∀ j, (c.nodes j).server.currentTerm ≤ (c'.nodes j).server.currentTerm)
    (hsent : ∀ t v who, .castVote t v who ∉ (turnOf c i clock p).sent)
    (hvoted : (c'.nodes i).server.votedFor = none ∨
      ((c'.nodes i).server.votedFor = (c.nodes i).server.votedFor ∧
        (c'.nodes i).server.currentTerm = (c.nodes i).server.currentTerm)) : VoteInv c' := by
  have hold : ∀ v term who, ballot c' v term who → ballot c v term who := by
    intro v term who h
    rw [ballot, hex.sent, List.mem_append] at h
    exact h.resolve_right (hsent term v who)
  refine ⟨fun v term who h => le_trans (hinv.bound v term who (hold v term who h)) (hmono v), ?_,
    fun v term who who' h h' => hinv.single v term who who' (hold _ _ _ h) (hold _ _ _ h')⟩
  intro v who who' h hrec
  by_cases hv : v = i
  · subst hv
    -- the record was cleared, or neither it nor the term has changed
    rcases hvoted with hnone | ⟨hsame, hterm⟩
    · rw [hnone] at hrec
      exact absurd hrec (by simp only [reduceCtorEq, not_false_eq_true])
    · rw [hterm] at h
      rw [hsame] at hrec
      exact hinv.recorded v who who' (hold _ _ _ h) hrec
  · rw [hex.others v hv] at h hrec
    exact hinv.recorded v who who' (hold _ _ _ h) hrec

/-- A stretch that casts a vote keeps the invariant when the server has not
    voted in the term yet. -/
theorem voteInv_casts {c c' : Cluster Uid} {i : Uid} {clock : Reading} {p : Point}
    (hinv : VoteInv c) (hex : Executes c c' i clock p)
    (hmono : ∀ j, (c.nodes j).server.currentTerm ≤ (c'.nodes j).server.currentTerm) {who : Uid}
    (hsent : (turnOf c i clock p).sent = [.castVote (c'.nodes i).server.currentTerm i who])
    (hvoted : (c'.nodes i).server.votedFor = some who)
    (hfresh : ∀ who', ¬ ballot c i (c'.nodes i).server.currentTerm who') : VoteInv c' := by
  have hcases : ∀ v term who', ballot c' v term who' → ballot c v term who' ∨
      (v = i ∧ term = (c'.nodes i).server.currentTerm ∧ who' = who) := by
    intro v term who' h
    rw [ballot, hex.sent, hsent, List.mem_append, List.mem_singleton] at h
    rcases h with h | h
    · exact Or.inl h
    · injection h with hterm hv hwho
      exact Or.inr ⟨hv, hterm, hwho⟩
  refine ⟨?_, ?_, ?_⟩
  · intro v term who' h
    rcases hcases v term who' h with h | ⟨rfl, rfl, _⟩
    · exact le_trans (hinv.bound v term who' h) (hmono v)
    · exact le_refl _
  · intro v who₁ who₂ h hrec
    rcases hcases v _ who₁ h with h | ⟨rfl, _, rfl⟩
    · by_cases hv : v = i
      · exact absurd (hv ▸ h) (hfresh who₁)
      · rw [hex.others v hv] at h hrec
        exact hinv.recorded v who₁ who₂ h hrec
    · rw [hvoted] at hrec
      exact Option.some.inj hrec
  · intro v term who₁ who₂ h₁ h₂
    -- two old votes, or an old and the new one, which is fresh
    rcases hcases v term who₁ h₁ with h₁ | ⟨rfl, rfl, rfl⟩ <;>
      rcases hcases _ _ who₂ h₂ with h₂ | ⟨hv, hterm, rfl⟩
    · exact hinv.single v term who₁ who₂ h₁ h₂
    · exact absurd (hterm ▸ hv ▸ h₁) (hfresh who₁)
    · exact absurd h₂ (hfresh who₂)
    · rfl

/-- The step lemma, for a step that neither goes back nor votes again. -/
theorem step_voteInv {c c' : Cluster Uid} {a : Action Uid} (hinv : VoteInv c)
    (hok : NeverStepsBack c a ∧ NeverVotesAgain c a) (h : step c a = some c') : VoteInv c' := by
  have hmono := (step_termsKept_iff c a c' h).mpr hok.1
  rcases step_cases h with ⟨i, clock, p, rfl, hex⟩ | ⟨_, hmove⟩
  · have hagain := (whenExecuting_iff _ hex.running).mp hok.2
    have hvoting := beatClock_voting i (Fintype.card Uid) clock (c.nodes i).server p
    rw [← turnOf, ← hex.server] at hvoting
    cases hvoting with
    | abstains hsent hvoted => exact voteInv_abstains hinv hex hmono hsent hvoted
    | casts who hsent hvoted hfree =>
        refine voteInv_casts hinv hex hmono hsent hvoted (fun who' hold => ?_)
        rcases hfree with hlt | ⟨hterm, hnone, rfl, term, sender, rest, hmsg, hle⟩
        · -- an old vote in the newer term would be past the server's own term
          have := hinv.bound i _ who' hold
          omega
        · -- an old vote in the same term is what the guard rules out
          rw [hterm] at hold
          simp only [votesAgain, hmsg, hle, hnone, hasVoted_of_ballot hold, decide_true,
            Option.isNone_none, Bool.and_self, Bool.true_eq_false] at hagain
  · exact voteInv_movesMessages hinv hmove

/-- The invariant holds along every run of such steps. -/
theorem voteInv_reachable {c : Cluster Uid}
    (hr : ReachableWithin (fun c a => NeverStepsBack c a ∧ NeverVotesAgain c a) c) : VoteInv c :=
  invariant_of_reachesWithin (fun _ _ _ _ hinv hok h => step_voteInv hinv hok h) hr
    voteInv_initial

/-- In a run in which no candidate steps back to an older term and no server
    grants a request after its vote of the term was cleared, every server votes
    for at most one candidate a term. The ballot is what was sent and not what
    the server remembers, so a vote that was cleared counts. -/
theorem single_vote (c : Cluster Uid)
    (hr : ReachableWithin (fun c a => NeverStepsBack c a ∧ NeverVotesAgain c a) c) :
    SingleBallot (ballot c) :=
  (voteInv_reachable hr).single

/-- Not every run casts single ballots. -/
theorem double_vote : ¬ ∀ c : Cluster (Fin 3), Reachable c → SingleBallot (ballot c) := by
  intro hall
  rcases exists_of_runActions_any step rivalSchedule initial
    (fun c => decide (ballot c 2 1 0 ∧ ballot c 2 1 1)) (by decide +kernel) with ⟨c, hrun, hvotes⟩
  rcases of_decide_eq_true hvotes with ⟨h0, h1⟩
  have hr : Reachable c := reaches_of_runActions hrun
  exact absurd (hall c hr 2 1 0 1 h0 h1) (by decide)

/-- A run in which the guard holds and two votes have been cast. -/
theorem single_vote_run : ∃ c : Cluster (Fin 3),
    ReachableWithin (fun c a => NeverStepsBack c a ∧ NeverVotesAgain c a) c ∧
      ballot c 0 1 0 ∧ ballot c 2 1 0 ∧ SingleBallot (ballot c) := by
  rcases exists_of_runActions_any step (rivalSchedule.take 21) initial
    (fun c => decide (ballot c 0 1 0 ∧ ballot c 2 1 0)) (by decide +kernel) with ⟨c, hrun, hvotes⟩
  rcases of_decide_eq_true hvotes with ⟨h0, h2⟩
  have hr : ReachableWithin (fun c a => NeverStepsBack c a ∧ NeverVotesAgain c a) c :=
    reachesWithin_of_runActions (rivalSchedule.take 21) initial c (by decide +kernel) hrun
  exact ⟨c, hr, h0, h2, single_vote c hr⟩

end Consensus

end Nxpod
