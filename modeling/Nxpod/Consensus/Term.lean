import Nxpod.Consensus.Cluster

/-!
# The Term Counter

`currentTerm` is the latest term a server has seen, and the source's comment
on the field says it increases monotonically. One branch breaks that. A
candidate accepts any heartbeat, the term of the message notwithstanding, so a
delayed heartbeat of an old leader takes a candidate back to the old term.

Nothing else lowers the counter. `stepsBack` names the branch, and a run never
lowers a term exactly when it never takes it.

## Main definitions

* `stepsBack`: A candidate is about to accept a heartbeat of an older term.
* `NeverStepsBack`: The guard that no stretch executed does so.
* `TermsKept`: A step lowers no server's term.

## Theorems

* `beatClock_currentTerm_lt_iff`: A stretch lowers the term exactly on that
  branch.
* `step_termsKept_iff`: So does a step of the cluster.
* `terms_never_decrease_iff`: A run lowers no term exactly when it never takes
  the branch.
* `terms_decrease`: Some run lowers a term.
-/

namespace Nxpod

namespace Consensus

open Transition

variable {Uid : Type} [DecidableEq Uid]

/-- A candidate is about to accept a heartbeat of a term older than its own. -/
def stepsBack (s : ConsensusLeaderQorum Uid) (p : Point) : Bool :=
  match p, s.messages with
  | .messages, .heartbeat term _ :: _ => s.role = .candidate && 0 < term && term < s.currentTerm
  | _, _ => false

/-- Away from the step back the counter never goes down. -/
theorem beatClock_currentTerm_le (self : Uid) (peers : Nat) (clock : Reading)
    (s : ConsensusLeaderQorum Uid) (p : Point) (hback : stepsBack s p = false) :
    s.currentTerm ≤ (beatClock self peers clock s p).server.currentTerm := by
  generalize hs' : (beatClock self peers clock s p).server = s'
  have heff := beatClock_effect self peers clock s p
  rw [hs'] at heff
  generalize (beatClock self peers clock s p).sent = sent at heff
  cases heff with
  | quiet _ _ hkeep => exact le_of_eq hkeep.currentTerm.symm
  | lead _ hkeep _ => exact le_of_eq hkeep.currentTerm.symm
  | accept term sender rest hmsg hnew =>
      simp only [stepsBack, hmsg, Bool.and_eq_false_iff, decide_eq_false_iff_not] at hback
      simp only [acceptLeader, newTerm, nextTerm]
      split_ifs with hzero
      · -- term zero means the next term
        omega
      · rcases hnew with hle | hrole
        · exact hle
        · rcases hback with (hrole' | hpos) | hlt
          · exact absurd hrole hrole'
          · omega
          · omega
  | vote term sender rest _ _ _ hterm _ _ _ => rw [hterm]; exact le_max_left _ _
  | record sender rest _ _ => exact le_refl _
  | tally _ => exact le_refl _
  | elect _ _ _ hterm _ _ _ => rw [hterm]; exact Nat.le_succ _
  | campaign caller => exact le_refl _

/-- The branch does lower the term: the heartbeat is not a regular one, since
    its term differs, and a candidate accepts it whatever its term. -/
theorem beatClock_currentTerm_lt (self : Uid) (peers : Nat) (clock : Reading)
    (s : ConsensusLeaderQorum Uid) (p : Point) (hback : stepsBack s p = true) :
    (beatClock self peers clock s p).server.currentTerm < s.currentTerm := by
  unfold stepsBack at hback
  split at hback
  · rename_i term sender rest hmsg
    simp only [Bool.and_eq_true, decide_eq_true_eq] at hback
    rcases hback with ⟨⟨hrole, hpos⟩, hlt⟩
    have hreg : ¬ regularHeartbeat term sender { s with messages := rest } := by
      intro hc
      exact absurd hc.1 (by simp only; omega)
    have hnew : s.currentTerm ≤ term ∨ s.role = .candidate := Or.inr hrole
    simp only [beatClock, hmsg, handleMessage, if_neg hreg, if_pos hnew, acceptLeader, newTerm]
    rw [nextTerm_of_pos _ hpos]
    exact hlt
  · exact absurd hback (by simp only [Bool.false_eq_true, not_false_eq_true])

theorem beatClock_currentTerm_lt_iff (self : Uid) (peers : Nat) (clock : Reading)
    (s : ConsensusLeaderQorum Uid) (p : Point) :
    (beatClock self peers clock s p).server.currentTerm < s.currentTerm ↔
      stepsBack s p = true := by
  constructor
  · intro hlt
    by_contra hc
    have hle := beatClock_currentTerm_le self peers clock s p (by simpa only [Bool.not_eq_true]
      using hc)
    omega
  · exact beatClock_currentTerm_lt self peers clock s p

variable [Fintype Uid]

/-- No stretch is executed in which a candidate steps back to an older term. -/
def NeverStepsBack : Cluster Uid → Action Uid → Prop :=
  WhenExecuting fun c i _ p => stepsBack (c.nodes i).server p = false

instance (c : Cluster Uid) (a : Action Uid) : Decidable (NeverStepsBack c a) :=
  decidableWhenExecuting _ c a

/-- The step lowers no server's term. -/
def TermsKept (c : Cluster Uid) (_ : Action Uid) (c' : Cluster Uid) : Prop :=
  ∀ i, (c.nodes i).server.currentTerm ≤ (c'.nodes i).server.currentTerm

theorem step_termsKept_iff (c : Cluster Uid) (a : Action Uid) (c' : Cluster Uid)
    (h : step c a = some c') : TermsKept c a c' ↔ NeverStepsBack c a := by
  rcases step_cases h with ⟨i, clock, p, ha, hex⟩ | ⟨hidle, hmove⟩
  · have hlt := beatClock_currentTerm_lt_iff i (Fintype.card Uid) clock (c.nodes i).server p
    rw [ha, NeverStepsBack, whenExecuting_iff _ hex.running, ← Bool.not_eq_true, ← hlt]
    constructor
    · -- the node that executes is the only one to look at
      intro hkept
      have hi := hkept i
      rw [hex.server] at hi
      exact Nat.not_lt.mpr hi
    · intro hnot j
      by_cases hj : j = i
      · rw [hj, hex.server]
        exact Nat.not_lt.mp hnot
      · rw [hex.others j hj]
  · exact ⟨fun _ => whenExecuting_of_ne _ c hidle, fun _ j =>
      le_of_eq (hmove.keeps j).currentTerm.symm⟩

/-- A run lowers no server's term exactly when no candidate in it accepts a
    heartbeat of an older term. Of all the places where the term is written only
    this one has no guard that keeps it from falling, whatever messages are
    late, doubled or lost. -/
theorem terms_never_decrease_iff (as : List (Action Uid)) :
    StepsAlong step TermsKept as initial ↔ MeetsAlong step NeverStepsBack as initial :=
  stepsAlong_iff_meetsAlong step_termsKept_iff as initial

/-- Not every run keeps the terms. -/
theorem terms_decrease :
    ¬ ∀ as : List (Action (Fin 1)), StepsAlong step TermsKept as initial := by
  intro hall
  have hkept := hall delayedHeartbeatSchedule
  rw [stepsAlong_iff_meetsAlong step_termsKept_iff] at hkept
  exact absurd hkept (by decide +kernel)

end Consensus

end Nxpod
