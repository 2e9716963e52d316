import Mathlib.Data.List.Basic

/-!
# Base64

Three bytes are written as four characters, with padding behind the last ones. A decoder skips
line breaks, and leaves alone what the padding cuts off.

## Main definitions

* `encode`, `decode`: The encoding with padding.

## Theorems

* `value_digit`: The alphabet, there and back.
* `decode_encode`: What was encoded is decoded.
-/

namespace Nxpod

namespace Base64

/-- The character for six bits. -/
def digit (n : Nat) : UInt8 :=
  if n < 26 then UInt8.ofNat (65 + n)
  else if n < 52 then UInt8.ofNat (71 + n)
  else if n < 62 then UInt8.ofNat (n - 4)
  else if n = 62 then 43
  else 47

/-- The number that a character stands for. -/
def value (c : UInt8) : Option Nat :=
  if 65 ≤ c ∧ c ≤ 90 then some (c.toNat - 65)
  else if 97 ≤ c ∧ c ≤ 122 then some (c.toNat - 71)
  else if 48 ≤ c ∧ c ≤ 57 then some (c.toNat + 4)
  else if c = 43 then some 62
  else if c = 47 then some 63
  else none

/-- The character that fills up the last four. -/
def pad : UInt8 := 61

/-- Line breaks are skipped. -/
def isBreak (c : UInt8) : Bool := c == 10 || c == 13

/-- Three bytes at a time, and one or two at the end. -/
def encode : List UInt8 → List UInt8
  | [] => []
  | [a] => [digit (a.toNat / 4), digit (a.toNat % 4 * 16), pad, pad]
  | [a, b] =>
      [digit (a.toNat / 4), digit (a.toNat % 4 * 16 + b.toNat / 16), digit (b.toNat % 16 * 4), pad]
  | a :: b :: c :: rest =>
      digit (a.toNat / 4) :: digit (a.toNat % 4 * 16 + b.toNat / 16) ::
        digit (b.toNat % 16 * 4 + c.toNat / 64) :: digit (c.toNat % 64) :: encode rest

/-- Characters four at a time. Nothing follows padding. -/
def decodeQuanta : List UInt8 → Option (List UInt8)
  | [] => some []
  | a :: b :: c :: d :: rest => match value a, value b with
    | some x, some y =>
        let first := UInt8.ofNat (x * 4 + y / 16)
        if c = pad then if d = pad ∧ rest = [] then some [first] else none
        else match value c with
          | none => none
          | some z =>
              let second := UInt8.ofNat (y % 16 * 16 + z / 4)
              if d = pad then if rest = [] then some [first, second] else none
              else match value d with
                | none => none
                | some w => (decodeQuanta rest).map fun bytes =>
                    first :: second :: UInt8.ofNat (z % 4 * 64 + w) :: bytes
    | _, _ => none
  | _ => none

/-- The bytes of a text, if it is well formed. -/
def decode (cs : List UInt8) : Option (List UInt8) := decodeQuanta (cs.filter fun c => !isBreak c)

theorem value_digit {n : Nat} (h : n < 64) : value (digit n) = some n := by
  have hall : ∀ n < 64, value (digit n) = some n := by decide
  exact hall n h

theorem digit_ne_pad {n : Nat} (h : n < 64) : digit n ≠ pad := by
  have hall : ∀ n < 64, digit n ≠ pad := by decide
  exact hall n h

theorem isBreak_digit {n : Nat} (h : n < 64) : isBreak (digit n) = false := by
  have hall : ∀ n < 64, isBreak (digit n) = false := by decide
  exact hall n h

/-- Bytes are put together again. -/
theorem ofNat_eq {n : Nat} {a : UInt8} (h : n = a.toNat) : UInt8.ofNat n = a := by
  rw [h, UInt8.ofNat_toNat]

theorem not_isBreak_of_mem_encode (bytes : List UInt8) :
    ∀ c ∈ encode bytes, isBreak c = false := by
  induction bytes using encode.induct with
  | case1 => exact nofun
  | case2 a =>
      have ha := a.toNat_lt
      simp only [encode, List.forall_mem_cons]
      exact ⟨isBreak_digit (by omega), isBreak_digit (by omega), rfl, rfl, nofun⟩
  | case3 a b =>
      have ha := a.toNat_lt
      have hb := b.toNat_lt
      simp only [encode, List.forall_mem_cons]
      exact ⟨isBreak_digit (by omega), isBreak_digit (by omega), isBreak_digit (by omega), rfl,
        nofun⟩
  | case4 a b c rest ih =>
      have ha := a.toNat_lt
      have hb := b.toNat_lt
      have hc := c.toNat_lt
      simp only [encode, List.forall_mem_cons]
      exact ⟨isBreak_digit (by omega), isBreak_digit (by omega), isBreak_digit (by omega),
        isBreak_digit (by omega), ih⟩

/-- The round trip, by induction as the bytes are taken. -/
theorem decodeQuanta_encode (bytes : List UInt8) : decodeQuanta (encode bytes) = some bytes := by
  induction bytes using encode.induct with
  | case1 => rfl
  -- One byte, then two, and then the quanta of three with something behind.
  | case2 a =>
      have ha := a.toNat_lt
      have hfirst : UInt8.ofNat (a.toNat / 4 * 4 + a.toNat % 4 * 16 / 16) = a :=
        ofNat_eq (by omega)
      rw [encode, decodeQuanta, value_digit (by omega), value_digit (by omega)]
      simp only [if_true, and_self, hfirst]
  | case3 a b =>
      have ha := a.toNat_lt
      have hb := b.toNat_lt
      have hfirst :
          UInt8.ofNat (a.toNat / 4 * 4 + (a.toNat % 4 * 16 + b.toNat / 16) / 16) = a :=
        ofNat_eq (by omega)
      have hsecond : UInt8.ofNat
          ((a.toNat % 4 * 16 + b.toNat / 16) % 16 * 16 + b.toNat % 16 * 4 / 4) = b :=
        ofNat_eq (by omega)
      rw [encode, decodeQuanta, value_digit (by omega), value_digit (by omega)]
      simp only [digit_ne_pad (by omega : b.toNat % 16 * 4 < 64), if_false, if_true,
        value_digit (by omega : b.toNat % 16 * 4 < 64), hfirst, hsecond]
  | case4 a b c rest ih =>
      have ha := a.toNat_lt
      have hb := b.toNat_lt
      have hc := c.toNat_lt
      have hfirst :
          UInt8.ofNat (a.toNat / 4 * 4 + (a.toNat % 4 * 16 + b.toNat / 16) / 16) = a :=
        ofNat_eq (by omega)
      have hsecond : UInt8.ofNat ((a.toNat % 4 * 16 + b.toNat / 16) % 16 * 16 +
          (b.toNat % 16 * 4 + c.toNat / 64) / 4) = b := ofNat_eq (by omega)
      have hthird : UInt8.ofNat ((b.toNat % 16 * 4 + c.toNat / 64) % 4 * 64 + c.toNat % 64) = c :=
        ofNat_eq (by omega)
      rw [encode, decodeQuanta, value_digit (by omega), value_digit (by omega)]
      simp only [digit_ne_pad (by omega : b.toNat % 16 * 4 + c.toNat / 64 < 64), if_false,
        value_digit (by omega : b.toNat % 16 * 4 + c.toNat / 64 < 64),
        digit_ne_pad (by omega : c.toNat % 64 < 64), value_digit (by omega : c.toNat % 64 < 64),
        ih, Option.map_some, hfirst, hsecond, hthird]

/-- What was encoded is decoded. -/
theorem decode_encode (bytes : List UInt8) : decode (encode bytes) = some bytes := by
  have hkeep : (encode bytes).filter (fun c => !isBreak c) = encode bytes := by
    refine List.filter_eq_self.mpr fun c hc => ?_
    rw [not_isBreak_of_mem_encode bytes c hc, Bool.not_false]
  rw [decode, hkeep]
  exact decodeQuanta_encode bytes

end Base64

end Nxpod
