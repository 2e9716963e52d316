import Mathlib.Data.List.Basic

/-!
# Topics

A topic exchange routes a message by its key. A key is a sequence of words. A queue is bound with a
pattern, which is a sequence as well, and gets the messages whose keys match it. In a pattern, a
star stands for exactly one word, and a hash for any number of them. Any other word stands for
itself.

An exchange may be bound to another one with a pattern in turn, and gets what matches that.

## Main definitions

* `Pattern`: What an element of a pattern stands for.
* `Matches`: A key matches a pattern.

## Theorems

* `matches_hash`: A hash matches all keys.
* `matches_cons_word`, `matches_cons_star`: The first word of a key.
-/

namespace Nxpod

namespace Topic

/-- A word of a pattern. -/
inductive Pattern (α : Type*)
  | word (w : α)
  | star
  | hash
  deriving DecidableEq

variable {α : Type*}

/-- A hash takes no word, or takes one and stays. -/
def Matches : List (Pattern α) → List α → Prop
  | [], key => key = []
  | .word w :: ps, key => ∃ rest, key = w :: rest ∧ Matches ps rest
  | .star :: ps, key => ∃ w rest, key = w :: rest ∧ Matches ps rest
  | .hash :: ps, key => ∃ rest, rest <:+ key ∧ Matches ps rest

theorem matches_nil {key : List α} : Matches [] key ↔ key = [] := Iff.rfl

theorem matches_hash (key : List α) : Matches [.hash] key :=
  ⟨[], List.nil_suffix, rfl⟩

theorem matches_cons_word {w v : α} {ps : List (Pattern α)} {key : List α} :
    Matches (.word w :: ps) (v :: key) ↔ w = v ∧ Matches ps key := by
  constructor
  · rintro ⟨rest, heq, h⟩
    cases heq
    exact ⟨rfl, h⟩
  · rintro ⟨rfl, h⟩
    exact ⟨key, rfl, h⟩

theorem matches_cons_star {v : α} {ps : List (Pattern α)} {key : List α} :
    Matches (.star :: ps) (v :: key) ↔ Matches ps key := by
  constructor
  · rintro ⟨w, rest, heq, h⟩
    cases heq
    exact h
  · intro h
    exact ⟨v, key, rfl, h⟩

end Topic

end Nxpod
