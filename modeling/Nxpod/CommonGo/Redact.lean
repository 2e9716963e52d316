import Mathlib.Data.List.Infix
import Mathlib.Tactic.Common
import Nxpod.Library.Json

/-!
# Redaction of Logged Messages

A message is logged as JSON. Before, every string that has something like a password in it is
replaced, and so is whatever is under a key that has. Lower and upper case are the same.

The value under such a key is not looked at, so it may be a whole document. A key is never replaced
itself, and neither is a number or a truth value. Numbers are those that the decoder has made of the
message, whatever they are.

Two messages are logged the same way exactly when they differ in nothing but what is replaced. This
is how much of a message can be learned from the log (`redact_eq_iff`).

## Main definitions

* `isProhibited`: A text has something like a password in it.
* `redactValue`: What is logged of a document.
* `Safe`: Nothing has to be replaced.
* `Agree`: Two documents that differ in what is replaced.

## Theorems

* `safe_redactValue`, `redactValue_eq_self_iff`: What was redacted is safe, and nothing else was
  changed.
* `redact_eq_iff`: What is logged the same.
* `redact_reveals`: What can be learned from the log.
-/

namespace Nxpod

namespace Log

/-- What is logged in place of a secret. -/
def redactedValue : String := "[redacted]"

/-- The words that make a text one that is not to be logged. -/
def redactedFields : List String := ["auth_", "password", "token"]

/-- Of the letters that are not ASCII, the Kelvin sign alone becomes one of those of the fields. -/
def toLower (s : String) : List Char :=
  s.toList.map fun c => if c = '\u212a' then 'k' else c.toLower

/-- A text is not to be logged if it has one of the words in it, in upper or lower case. -/
def isProhibited (s : String) : Bool :=
  redactedFields.any fun prohibited => prohibited.toList <:+: toLower s

mutual

/-- A document as it is logged. Only strings and members of objects are replaced. -/
def redactValue : Json → Json
  | .arr elems => .arr (redactArray elems)
  | .obj members => .obj (redactObject members)
  | .str s => .str (if isProhibited s then redactedValue else s)
  | .null => .null
  | .bool b => .bool b
  | .num n => .num n

/-- The elements of an array, one by one. -/
def redactArray : List Json → List Json
  | [] => []
  | elem :: elems => redactValue elem :: redactArray elems

/-- The members of an object. What is under a prohibited key is replaced whole. -/
def redactObject : List (String × Json) → List (String × Json)
  | [] => []
  | (k, v) :: members =>
      (k, if isProhibited k then .str redactedValue else redactValue v) :: redactObject members

end

/-! ## Safe documents -/

mutual

/-- No string has to be replaced, and what is under a key that has is replaced. -/
def Safe : Json → Prop
  | .arr elems => SafeArray elems
  | .obj members => SafeObject members
  | .str s => isProhibited s = false
  | .null => True
  | .bool _ => True
  | .num _ => True

/-- Every element is safe. -/
def SafeArray : List Json → Prop
  | [] => True
  | elem :: elems => Safe elem ∧ SafeArray elems

/-- Every member is safe, or replaced already. -/
def SafeObject : List (String × Json) → Prop
  | [] => True
  | (k, v) :: members =>
      (if isProhibited k then v = .str redactedValue else Safe v) ∧ SafeObject members

end

/-- What is put in place of a secret does not have to be replaced in turn. -/
theorem not_isProhibited_redactedValue : isProhibited redactedValue = false := by
  decide

mutual

/-- What is logged is safe. The induction is on the document. -/
theorem safe_redactValue : ∀ d : Json, Safe (redactValue d)
  | .arr elems => by
      rw [redactValue, Safe]
      exact safe_redactArray elems
  | .obj members => by
      rw [redactValue, Safe]
      exact safe_redactObject members
  | .str s => by
      rw [redactValue, Safe]
      split_ifs with hs
      · exact not_isProhibited_redactedValue
      · exact Bool.eq_false_iff.mpr hs
  | .null => trivial
  | .bool _ => trivial
  | .num _ => trivial

theorem safe_redactArray : ∀ elems : List Json, SafeArray (redactArray elems)
  | [] => trivial
  | elem :: elems => ⟨safe_redactValue elem, safe_redactArray elems⟩

theorem safe_redactObject : ∀ members : List (String × Json), SafeObject (redactObject members)
  | [] => trivial
  | (k, v) :: members => by
      refine ⟨?_, safe_redactObject members⟩
      split_ifs
      · rfl
      · exact safe_redactValue v

end

mutual

theorem redactValue_eq_self : ∀ d : Json, Safe d → redactValue d = d
  | .arr elems, h => by rw [redactValue, redactArray_eq_self elems h]
  | .obj members, h => by rw [redactValue, redactObject_eq_self members h]
  | .str s, h => by
      have hs : isProhibited s = false := h
      rw [redactValue, hs, if_neg Bool.false_ne_true]
  | .null, _ => rfl
  | .bool _, _ => rfl
  | .num _, _ => rfl

theorem redactArray_eq_self : ∀ elems : List Json, SafeArray elems → redactArray elems = elems
  | [], _ => rfl
  | elem :: elems, h => by
      rw [redactArray, redactValue_eq_self elem h.1, redactArray_eq_self elems h.2]

theorem redactObject_eq_self : ∀ members : List (String × Json), SafeObject members →
    redactObject members = members
  | [], _ => rfl
  | (k, v) :: members, h => by
      have hv := h.1
      rw [redactObject, redactObject_eq_self members h.2]
      split_ifs at hv ⊢
      · rw [hv]
      · rw [redactValue_eq_self v hv]

end

/-- What does not have to be replaced is logged as it is. -/
theorem redactValue_eq_self_iff (d : Json) : redactValue d = d ↔ Safe d := by
  constructor
  · intro h
    rw [← h]
    exact safe_redactValue d
  · exact redactValue_eq_self d

/-! ## Documents that are logged the same -/

mutual

/-- The documents differ only in strings that are replaced and under keys that are prohibited. -/
def Agree : Json → Json → Prop
  | .arr elems, .arr elems' => AgreeArray elems elems'
  | .obj members, .obj members' => AgreeObject members members'
  | .str s, .str s' =>
      s = s' ∨ (isProhibited s ∨ s = redactedValue) ∧ (isProhibited s' ∨ s' = redactedValue)
  | .null, .null => True
  | .bool b, .bool b' => b = b'
  | .num n, .num n' => n = n'
  | _, _ => False

/-- Arrays that agree have the same length, and their elements agree. -/
def AgreeArray : List Json → List Json → Prop
  | [], [] => True
  | elem :: elems, elem' :: elems' => Agree elem elem' ∧ AgreeArray elems elems'
  | _, _ => False

/-- Objects that agree have the same keys in the same order. What is under a prohibited key may
    differ. -/
def AgreeObject : List (String × Json) → List (String × Json) → Prop
  | [], [] => True
  | (k, v) :: members, (k', v') :: members' =>
      k = k' ∧ (isProhibited k ∨ Agree v v') ∧ AgreeObject members members'
  | _, _ => False

end

/-- A string is logged as the value of those that are replaced if it is one, or is that value. -/
theorem redacted_eq_iff (s s' : String) :
    (if isProhibited s then redactedValue else s) =
        (if isProhibited s' then redactedValue else s') ↔
      s = s' ∨ (isProhibited s ∨ s = redactedValue) ∧ (isProhibited s' ∨ s' = redactedValue) := by
  have hself := not_isProhibited_redactedValue
  constructor
  · intro h
    split_ifs at h with hs hs'
    · exact .inr ⟨.inl hs, .inl hs'⟩
    · exact .inr ⟨.inl hs, .inr h.symm⟩
    · exact .inr ⟨.inr h, .inl (by assumption)⟩
    · exact .inl h
  · rintro (rfl | ⟨hs | rfl, hs' | rfl⟩)
    · rfl
    · rw [if_pos hs, if_pos hs']
    · rw [if_pos hs, ite_self]
    · rw [if_pos hs', ite_self]
    · rfl

mutual

theorem redact_eq_iff : ∀ d d' : Json, redactValue d = redactValue d' ↔ Agree d d'
  | .arr elems, d' => by
      cases d' with
      | arr elems' =>
          simp only [redactValue, Agree, Json.arr.injEq]
          exact redactArray_eq_iff elems elems'
      | _ => simp only [redactValue, Agree, reduceCtorEq]
  | .obj members, d' => by
      cases d' with
      | obj members' =>
          simp only [redactValue, Agree, Json.obj.injEq]
          exact redactObject_eq_iff members members'
      | _ => simp only [redactValue, Agree, reduceCtorEq]
  | .str s, d' => by
      cases d' with
      | str s' =>
          simp only [redactValue, Agree, Json.str.injEq]
          exact redacted_eq_iff s s'
      | _ => simp only [redactValue, Agree, reduceCtorEq]
  | .null, d' => by cases d' <;> simp only [redactValue, Agree, reduceCtorEq]
  | .bool b, d' => by cases d' <;> simp only [redactValue, Agree, reduceCtorEq, Json.bool.injEq]
  | .num n, d' => by cases d' <;> simp only [redactValue, Agree, reduceCtorEq, Json.num.injEq]

theorem redactArray_eq_iff : ∀ elems elems' : List Json,
    redactArray elems = redactArray elems' ↔ AgreeArray elems elems'
  | [], elems' => by cases elems' <;> simp only [redactArray, AgreeArray, reduceCtorEq]
  | elem :: elems, elems' => by
      cases elems' with
      | nil => simp only [redactArray, AgreeArray, reduceCtorEq]
      | cons elem' elems' =>
          simp only [redactArray, AgreeArray, List.cons.injEq]
          exact and_congr (redact_eq_iff elem elem') (redactArray_eq_iff elems elems')

theorem redactObject_eq_iff : ∀ members members' : List (String × Json),
    redactObject members = redactObject members' ↔ AgreeObject members members'
  | [], members' => by cases members' <;> simp only [redactObject, AgreeObject, reduceCtorEq]
  | (k, v) :: members, members' => by
      cases members' with
      | nil => simp only [redactObject, AgreeObject, reduceCtorEq]
      | cons member members' =>
          simp only [redactObject, AgreeObject, List.cons.injEq, Prod.mk.injEq, and_assoc]
          refine and_congr_right fun hk => ?_
          refine and_congr ?_ (redactObject_eq_iff members members')
          rw [← hk]
          split_ifs with hprohibited
          · exact iff_of_true rfl (.inl hprohibited)
          · exact (redact_eq_iff v member.2).trans (or_iff_right hprohibited).symm

end

/-- What is logged has nothing that must be replaced, is the message if that has nothing either,
    and is the same for another message exactly when the two differ only in what is replaced.
    The first part keeps secrets out of the log, the second keeps the log useful, and the third
    says that the log does not tell one secret from another. -/
theorem redact_reveals (d d' : Json) : Safe (redactValue d) ∧ (redactValue d = d ↔ Safe d) ∧
    (redactValue d = redactValue d' ↔ Agree d d') :=
  ⟨safe_redactValue d, redactValue_eq_self_iff d, redact_eq_iff d d'⟩

end Log

end Nxpod
