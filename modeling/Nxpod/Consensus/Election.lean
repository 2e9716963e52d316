import Nxpod.Consensus.Leadership

/-!
# Election Safety

No two servers lead the same term. A server leads a term after it has accepted
its own announcement, so by the invariant of `Consensus.Leadership` it has
carried the term, and by `Consensus.Votes` no voter supported two candidates
in it. Two majorities share a voter, which makes the two leaders the same.

Both ingredients hold only away from the branches those modules name, and each
of these branches can be driven into two leaders of one term. The run below
needs only two servers and the branch in which a leader leads on.

## Main definitions

* `ElectionSafe`: At most one leader a term.

## Theorems

* `leader_unique`: Guarded runs are election safe.
* `two_leaders`: Some run is not.
-/

namespace Nxpod

namespace Consensus

open Transition Majority

variable {Uid : Type}

/-- Two servers that lead the same term are the same server. -/
def ElectionSafe (c : Cluster Uid) : Prop :=
  ∀ i j, (c.nodes i).server.role = .leader → (c.nodes j).server.role = .leader →
    (c.nodes i).server.currentTerm = (c.nodes j).server.currentTerm → i = j

variable [DecidableEq Uid] [Fintype Uid]

/-- In a run which takes none of the branches that lose a vote or announce
    without a majority, at most one server leads a term. This is what the
    protocol is there for, since the leader does the work that must not be done
    twice. A leader has announced itself, so a majority has voted for it in its
    term, two majorities have a server in common, and this one has voted once. -/
theorem leader_unique (c : Cluster Uid)
    (hr : ReachableWithin
      (fun c a => (NeverStepsBack c a ∧ NeverVotesAgain c a) ∧ NeverOversteps c a) c) :
    ElectionSafe c := by
  intro i j hi hj hterm
  -- each invariant needs its part of the guard only
  have hsingle := (voteInv_reachable (reachesWithin_and_left hr)).single
  have hled := (announceInv_reachable (reachesWithin_and_right hr)).led
  exact carried_unique hsingle (hled i hi) (hterm ▸ hled j hj)

/-- Not every run is election safe. -/
theorem two_leaders : ¬ ∀ c : Cluster (Fin 2), Reachable c → ElectionSafe c := by
  intro hall
  rcases exists_of_runActions_any step twoLeaderSchedule initial
    (fun c => decide (∀ i, (c.nodes i).server.role = .leader ∧
      (c.nodes i).server.currentTerm = 2)) (by decide +kernel) with ⟨c, hrun, hfacts⟩
  have hlead := of_decide_eq_true hfacts
  have hr : Reachable c := reaches_of_runActions hrun
  exact absurd (hall c hr 0 1 (hlead 0).1 (hlead 1).1 ((hlead 0).2.trans (hlead 1).2.symm))
    (by decide)

/-- A run in which the guard holds and a server leads. -/
theorem leader_unique_run : ∃ c : Cluster (Fin 2), ReachableWithin
    (fun c a => (NeverStepsBack c a ∧ NeverVotesAgain c a) ∧ NeverOversteps c a) c ∧
      (c.nodes 0).server.role = .leader ∧ ElectionSafe c := by
  rcases exists_of_runActions_any step (twoLeaderSchedule.take 30) initial
    (fun c => decide ((c.nodes 0).server.role = .leader)) (by decide +kernel) with
    ⟨c, hrun, hlead⟩
  have hr : ReachableWithin
      (fun c a => (NeverStepsBack c a ∧ NeverVotesAgain c a) ∧ NeverOversteps c a) c :=
    reachesWithin_of_runActions (twoLeaderSchedule.take 30) initial c (by decide +kernel) hrun
  exact ⟨c, hr, of_decide_eq_true hlead, leader_unique c hr⟩

end Consensus

end Nxpod
