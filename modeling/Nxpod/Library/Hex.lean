import Mathlib.Data.List.TakeWhile
import Nxpod.Library.Text

/-!
# Hexadecimal Numerals

Numerals of a fixed width, with upper case letters, and how ECMAScript reads them back. A numeral
of a width is a number below that power of sixteen.

## Main definitions

* `digits`: The numeral of a width.
* `parseInt`: `Number.parseInt` with the radix sixteen, exact at any length.

## Theorems

* `not_mem_digits`: What is no digit.
* `parseInt_digits`: A numeral is read back.
* `digits_inj`: Two numbers of one width.
-/

namespace Nxpod

namespace Hex

/-- The character of a digit. -/
def digit (d : Nat) : Char :=
  if d < 10 then Char.ofNat ('0'.toNat + d) else Char.ofNat ('A'.toNat + (d - 10))

/-- The values of the digits, the lowest one last. -/
def nibbles : Nat → Nat → List Nat
  | 0, _ => []
  | w + 1, n => nibbles w (n / 16) ++ [n % 16]

/-- The numeral of a number in a given width. -/
def digits (w n : Nat) : List Char := (nibbles w n).map digit

/-- Digits behind an optional `0x`. -/
def magnitude : List Char → Option Nat
  | '0' :: 'x' :: rest => Text.leadingDigits 16 rest
  | '0' :: 'X' :: rest => Text.leadingDigits 16 rest
  | cs => Text.leadingDigits 16 cs

/-- `Number.parseInt` with the radix sixteen, with `none` for a result that is not a number. -/
def parseInt (cs : List Char) : Option Int :=
  match cs.dropWhile Text.isSpace with
  | '-' :: rest => (magnitude rest).map fun n => -(n : Int)
  | '+' :: rest => (magnitude rest).map fun n => (n : Int)
  | rest => (magnitude rest).map fun n => (n : Int)

variable {w n m : Nat} {c : Char}

theorem nibbles_lt {d : Nat} (h : d ∈ nibbles w n) : d < 16 := by
  induction w generalizing n with
  | zero => exact absurd h List.not_mem_nil
  | succ w ih =>
      rcases List.mem_append.mp h with hinit | hlast
      · exact ih hinit
      · rw [List.mem_singleton.mp hlast]
        exact Nat.mod_lt n (by decide)

theorem length_nibbles (w n : Nat) : (nibbles w n).length = w := by
  induction w generalizing n with
  | zero => rfl
  | succ w ih => rw [nibbles, List.length_append, ih, List.length_singleton]

/-- The digits give the number back, up to the power of the width. -/
theorem foldl_nibbles (w n : Nat) :
    (nibbles w n).foldl (fun acc d => acc * 16 + d) 0 = n % 16 ^ w := by
  induction w generalizing n with
  | zero => rw [pow_zero, Nat.mod_one]; rfl
  | succ w ih =>
      -- the digits but the last one are those of the quotient
      rw [nibbles, List.foldl_append, ih, List.foldl_cons, List.foldl_nil, pow_succ,
        Nat.mul_comm (16 ^ w) 16, Nat.mod_mul]
      omega

theorem length_digits (w n : Nat) : (digits w n).length = w := by
  rw [digits, List.length_map, length_nibbles]

theorem digitValue_digit : ∀ d < 16, Text.digitValue 16 (digit d) = some d := by decide

/-- What is no digit is in no numeral. -/
theorem not_mem_digits (w n : Nat) (h : ∀ d < 16, digit d ≠ c) : c ∉ digits w n := by
  intro hc
  rcases List.mem_map.mp hc with ⟨d, hd, heq⟩
  exact h d (nibbles_lt hd) heq

theorem isSpace_of_mem_digits (h : c ∈ digits w n) : Text.isSpace c = false := by
  rcases List.mem_map.mp h with ⟨d, hd, rfl⟩
  exact (by decide : ∀ d < 16, Text.isSpace (digit d) = false) d (nibbles_lt hd)

theorem leadingDigits_digits (hw : w ≠ 0) :
    Text.leadingDigits 16 (digits w n) = some (n % 16 ^ w) := by
  have hvalues : (digits w n).map (Text.digitValue 16) = (nibbles w n).map some := by
    rw [digits, List.map_map]
    exact List.map_congr_left fun d hd => digitValue_digit d (nibbles_lt hd)
  have hall : ((nibbles w n).map some).takeWhile Option.isSome = (nibbles w n).map some :=
    List.takeWhile_eq_self_iff.mpr fun x hx => by
      rcases List.mem_map.mp hx with ⟨d, -, rfl⟩
      rfl
  rw [Text.leadingDigits, hvalues, hall]
  split
  · next hnil =>
      have hlength := length_nibbles w n
      rw [List.map_eq_nil_iff.mp hnil] at hlength
      exact absurd hlength.symm hw
  · rw [List.foldl_map, ← foldl_nibbles]
    rfl

theorem magnitude_digits (w n : Nat) :
    magnitude (digits w n) = Text.leadingDigits 16 (digits w n) := by
  unfold magnitude
  split
  · next rest heq =>
      have hmem : 'x' ∈ digits w n := by
        rw [heq]
        exact List.mem_cons_of_mem _ List.mem_cons_self
      exact absurd hmem (not_mem_digits w n (by decide))
  · next rest heq =>
      have hmem : 'X' ∈ digits w n := by
        rw [heq]
        exact List.mem_cons_of_mem _ List.mem_cons_self
      exact absurd hmem (not_mem_digits w n (by decide))
  · rfl

/-- A numeral is read back. -/
theorem parseInt_digits (hw : w ≠ 0) (hn : n < 16 ^ w) :
    parseInt (digits w n) = some (n : Int) := by
  have hspace : (digits w n).dropWhile Text.isSpace = digits w n := by
    cases hdigits : digits w n with
    | nil => rfl
    | cons c cs =>
        have hc : Text.isSpace c = false :=
          isSpace_of_mem_digits (w := w) (n := n) (hdigits ▸ List.mem_cons_self)
        rw [List.dropWhile_cons, hc, if_neg Bool.false_ne_true]
  rw [parseInt, hspace]
  split
  · next rest heq =>
      exact absurd (heq ▸ List.mem_cons_self)
        (not_mem_digits w n (by decide : ∀ d < 16, digit d ≠ '-'))
  · next rest heq =>
      exact absurd (heq ▸ List.mem_cons_self)
        (not_mem_digits w n (by decide : ∀ d < 16, digit d ≠ '+'))
  · rw [magnitude_digits, leadingDigits_digits hw, Nat.mod_eq_of_lt hn]
    rfl

/-- Numerals of one width tell numbers below its power apart. -/
theorem digits_inj (hw : w ≠ 0) (hn : n < 16 ^ w) (hm : m < 16 ^ w) :
    digits w n = digits w m ↔ n = m := by
  refine ⟨fun h => ?_, fun h => h ▸ rfl⟩
  have hparse := parseInt_digits hw hn
  rw [h, parseInt_digits hw hm, Option.some.injEq] at hparse
  omega

end Hex

end Nxpod
