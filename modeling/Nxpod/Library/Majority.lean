import Mathlib.Data.Fintype.Card
import Mathlib.Data.Finset.Card

/-!
# Majorities of a Finite Electorate

The counting argument behind leader election, with no protocol in it. A
majority is a set holding more than half of a finite electorate. Two of them
always share a member, and that is the only fact about counting an election
needs.

An election is a relation saying which voter gave a ballot to which candidate
in which round. `SingleBallot` says a voter supports at most one candidate a
round and `Carried` that a candidate holds a majority of a round's ballots. A
round with single ballots is carried by at most one candidate, because the
shared voter of two majorities would have had to support both.

## Main definitions

* `IsMajority`: A set of more than half the electorate.
* `SingleBallot`: No voter supports two candidates in one round.
* `Carried`: A candidate holds a majority of a round's ballots.

## Theorems

* `majority_inter`: Two majorities share a member.
* `carried_mono`: More ballots lose no majority.
* `carried_unique`: Single ballots carry at most one candidate.
-/

namespace Nxpod

namespace Majority

variable {V R C : Type*} [Fintype V]

/-- A set of voters holding more than half of the electorate. -/
def IsMajority (S : Finset V) : Prop := Fintype.card V < 2 * S.card

instance decidableIsMajority (S : Finset V) : Decidable (IsMajority S) :=
  inferInstanceAs (Decidable (_ < _))

/-- Two majorities share a member, since together they have more members than
    there are voters. -/
theorem majority_inter [DecidableEq V] {S S' : Finset V} (h : IsMajority S)
    (h' : IsMajority S') : ∃ v, v ∈ S ∧ v ∈ S' := by
  have hlt : (Finset.univ : Finset V).card < S.card + S'.card := by
    rw [Finset.card_univ]
    unfold IsMajority at h h'
    omega
  rcases Finset.inter_nonempty_of_card_lt_card_add_card (Finset.subset_univ S)
    (Finset.subset_univ S') hlt with ⟨v, hv⟩
  exact ⟨v, Finset.mem_inter.mp hv⟩

/-- No voter supports two candidates in one round. -/
def SingleBallot (ballot : V → R → C → Prop) : Prop :=
  ∀ v r c c', ballot v r c → ballot v r c' → c = c'

/-- The candidate holds ballots of a majority of the electorate. -/
def Carried (ballot : V → R → C → Prop) (r : R) (c : C) : Prop :=
  ∃ S : Finset V, IsMajority S ∧ ∀ v ∈ S, ballot v r c

theorem carried_mono {ballot ballot' : V → R → C → Prop} {r : R} {c : C}
    (hle : ∀ v, ballot v r c → ballot' v r c) (h : Carried ballot r c) :
    Carried ballot' r c := by
  rcases h with ⟨S, hmaj, hS⟩
  exact ⟨S, hmaj, fun v hv => hle v (hS v hv)⟩

/-- Single ballots carry at most one candidate: the voter two majorities share
    supported both. -/
theorem carried_unique {ballot : V → R → C → Prop} (hsingle : SingleBallot ballot)
    {r : R} {c c' : C} (h : Carried ballot r c) (h' : Carried ballot r c') : c = c' := by
  classical
  rcases h with ⟨S, hmaj, hS⟩
  rcases h' with ⟨S', hmaj', hS'⟩
  rcases majority_inter hmaj hmaj' with ⟨v, hv, hv'⟩
  exact hsingle v r c c' (hS v hv) (hS' v hv')

end Majority

end Nxpod
