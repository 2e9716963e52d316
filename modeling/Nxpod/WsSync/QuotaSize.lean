import Nxpod.Library.Json
import Nxpod.Library.Regex
import Nxpod.Library.Word

/-!
# Quota Sizes

A size is a number of bytes, an integer of 64 bits. It is written as a number and the largest unit
of which it is a multiple, and read with a regular expression that looks for digits and a unit
anywhere in the text.

What is written is read back. What is read may have other characters before and behind, and the
number, as well as the number times the unit, may be more than 64 bits have.

## Main definitions

* `parseSize`, `string`, `marshalJSON`, `unmarshalJSON`: The source's functions.
* `Denotes`: A text that is a size.
* `Reads`: Such texts are read, with their sizes, and no other ones.
* `Readable`: The condition on a text.

## Theorems

* `exec_sizeRegexp`, `parseSize_eq`: What is found in a text.
* `parseSize_of_denotes`: A size is read.
* `denotes_string`, `unmarshalJSON_marshalJSON`: What is written.
* `reads_iff`: When a text is read as it should be.
-/

namespace Nxpod

namespace WsSync

namespace QuotaSize

open Regex

/-! ## Sizes -/

/-- A number of bytes. -/
abbrev Size := Int64

/-- The smallest unit. -/
def byte : Size := 1

/-- The units are powers of 1024. -/
def kilobyte : Size := 1024 * byte

/-- 1024 of the unit before. -/
def megabyte : Size := 1024 * kilobyte

/-- 1024 of the unit before. -/
def gigabyte : Size := 1024 * megabyte

/-- 1024 of the unit before. -/
def terabyte : Size := 1024 * gigabyte

/-- The letters of the units, in lower case only. -/
def isUnit (c : Char) : Bool :=
  c = 'k' || c = 'm' || c = 'g' || c = 't'

/-- `(\d+)(k|m|g|t)?` -/
def sizeRegexp : Regex :=
  .seq (.group 1 (.plus (.char Char.isDigit))) (.opt (.group 2 (.char isUnit)))

/-- All errors of reading a size are this one. -/
def errInvalidSize : String := "invalid size"

/-- The value of digits. -/
def decimal (digits : List Char) : Nat :=
  Nat.ofDigitChars 10 digits 0

/-- `strconv.ParseUint` of digits, for 64 bits. -/
def parseUint (digits : List Char) : Option Nat :=
  if decimal digits < 2 ^ 64 then some (decimal digits) else none

/-- The switch over the unit. -/
def unitSize : List Char → Size
  | ['k'] => kilobyte
  | ['m'] => megabyte
  | ['g'] => gigabyte
  | ['t'] => terabyte
  | _ => byte

/-- A number of digits, read with 64 bits, times the unit behind them. The product is not
    checked. -/
def parseSize (q : String) : Except String Size :=
  match sizeRegexp.exec q.toList with
  | none => .error errInvalidSize
  | some matches_ => match parseUint ((matches_.captures 1).getD []) with
    | none => .error errInvalidSize
    | some val => .ok (Int64.ofNat val * unitSize ((matches_.captures 2).getD []))

/-- The units from the largest one down. -/
def steps : List (Char × Size) :=
  [('t', terabyte), ('g', gigabyte), ('m', megabyte), ('k', kilobyte)]

/-- The number is written with the largest unit that leaves no rest. -/
def string (s : Size) : String :=
  if s = 0 then "0"
  else match steps.find? fun stp => s % stp.2 = 0 with
    | some stp => toString (s / stp.2).toInt ++ String.singleton stp.1
    | none => toString s.toInt

/-- In JSON a size is a text. -/
def marshalJSON (s : Size) : Json :=
  .str (string s)

/-- `raw` is the text of the document. An empty text is zero. -/
def unmarshalJSON (raw : String) : Json → Except String Size
  | .str value => if value = "" then .ok 0 else parseSize value
  | _ => .error s!"invalid size: {raw}"

/-! ## Texts that are sizes -/

/-- A unit as it is written, and its bytes. -/
inductive Factor : List Char → Nat → Prop
  | none : Factor [] 1
  | k : Factor ['k'] (2 ^ 10)
  | m : Factor ['m'] (2 ^ 20)
  | g : Factor ['g'] (2 ^ 30)
  | t : Factor ['t'] (2 ^ 40)

/-- The whole text is decimal digits, and a unit behind them if there is one. -/
def Denotes (q : String) (n : Nat) : Prop :=
  ∃ digits letters factor, q.toList = digits ++ letters ∧ digits ≠ [] ∧
    (∀ c ∈ digits, c.isDigit = true) ∧ Factor letters factor ∧ n = decimal digits * factor

/-- A text is read exactly if it is a size that is an integer of 64 bits, and then as this
    size. -/
structure Reads (q : String) : Prop where
  accepts : (∃ s, parseSize q = .ok s) ↔ ∃ n, Denotes q n ∧ n ≤ 2 ^ 63 - 1
  value : ∀ s n, parseSize q = .ok s → Denotes q n → s.toInt = n

/-- The first digits in a text. -/
def firstDigits (q : List Char) : List Char :=
  (q.dropWhile fun c => !c.isDigit).takeWhile Char.isDigit

/-- There are no digits, or the first ones are a number too large for 64 bits, or it is a
    size. -/
def Readable (q : String) : Prop :=
  (∀ c ∈ q.toList, c.isDigit = false) ∨ 2 ^ 64 ≤ decimal (firstDigits q.toList) ∨
    ∃ n, Denotes q n ∧ n ≤ 2 ^ 63 - 1

/-! ## What is found -/

section Found

variable {cs : List Char}

/-- The unit behind the first digits, if there is one. -/
def unitBehind (cs : List Char) : List Char :=
  (((cs.dropWhile fun c => !c.isDigit).dropWhile Char.isDigit).head?.filter isUnit).toList

/-- A unit is taken if there is one, and what is behind it is left. -/
theorem run_unit (rest : List Char) (caps : Captures) (hcaps : caps 2 = none) :
    ∃ rest' caps', run (.opt (.group 2 (.char isUnit))) (fun rest caps => some (rest, caps)) rest
        caps = some (rest', caps') ∧ caps' 1 = caps 1 ∧
      (caps' 2).getD [] = (rest.head?.filter isUnit).toList := by
  cases rest with
  | nil =>
      refine ⟨[], caps, rfl, rfl, ?_⟩
      rw [hcaps]
      rfl
  | cons c rest =>
      by_cases hc : isUnit c = true
      · have hlen : (c :: rest).length - rest.length = 1 := by
          rw [List.length_cons]
          omega
        have hrun : run (.group 2 (.char isUnit))
            (fun rest' caps =>
              if rest'.length < (c :: rest).length then some (rest', caps) else none)
            (c :: rest) (caps.forget (group 2 (char isUnit)).groups) =
              some (rest, (caps.forget (group 2 (char isUnit)).groups).set 2 [c]) := by
          have hlt : rest.length < (c :: rest).length := Nat.lt_succ_self _
          rw [run_group, run_char_cons, if_pos hc, hlen, if_pos hlt]
          rfl
        refine ⟨rest, (caps.forget (group 2 (char isUnit)).groups).set 2 [c],
          by rw [run_opt, hrun, Option.some_or], rfl, ?_⟩
        rw [List.head?_cons, Option.filter_some, if_pos hc]
        rfl
      · refine ⟨c :: rest, caps, ?_, rfl, ?_⟩
        · rw [run_opt, run_group, run_char_cons, if_neg hc, Option.none_or]
        · rw [hcaps, List.head?_cons, Option.filter_some, if_neg hc]
          rfl

/-- At the first digit the expression takes all the digits and the unit behind them. -/
theorem runAt_digits {w rest : List Char} (hne : w ≠ []) (hw : ∀ c ∈ w, c.isDigit = true)
    (hrest : ∀ c, rest.head? = some c → c.isDigit = false) :
    ∃ rest' caps, sizeRegexp.runAt (w ++ rest) = some (rest', caps) ∧ caps 1 = some w ∧
      (caps 2).getD [] = (rest.head?.filter isUnit).toList := by
  rcases run_unit rest (Captures.set (fun _ => none) 1 w) rfl with ⟨rest', caps, hrun, hone, htwo⟩
  refine ⟨rest', caps, ?_, hone, htwo⟩
  unfold runAt sizeRegexp
  rw [run_seq]
  exact run_group_plus_some hne hw hrest hrun

/-- Without a digit the expression does not begin here. -/
theorem runAt_of_not_digit (h : ∀ c, cs.head? = some c → c.isDigit = false) :
    sizeRegexp.runAt cs = none := by
  unfold runAt sizeRegexp plus
  cases cs with
  | nil => rfl
  | cons c cs =>
      rw [run_seq, run_group, run_seq, run_char_cons, if_neg]
      rw [h c rfl]
      exact Bool.false_ne_true

/-- What is found in a text are its first digits, if there are any, and the unit behind them. -/
theorem exec_sizeRegexp (cs : List Char) :
    (firstDigits cs = [] ∧ sizeRegexp.exec cs = none) ∨
      firstDigits cs ≠ [] ∧ ∃ m, sizeRegexp.exec cs = some m ∧
        (m.captures 1).getD [] = firstDigits cs ∧ (m.captures 2).getD [] = unitBehind cs := by
  induction cs with
  | nil => exact Or.inl ⟨rfl, rfl⟩
  | cons c cs ih =>
      by_cases hc : c.isDigit = true
      · -- the digits begin here
        have hskip : (c :: cs).dropWhile (fun c => !c.isDigit) = c :: cs := by
          rw [List.dropWhile_cons_of_neg]
          rw [hc]
          exact Bool.false_ne_true
        have hne : (c :: cs).takeWhile Char.isDigit ≠ [] := by
          rw [List.takeWhile_cons_of_pos hc]
          exact List.cons_ne_nil _ _
        unfold firstDigits unitBehind
        rw [hskip]
        refine Or.inr ⟨hne, ?_⟩
        have hrest : ∀ d, ((c :: cs).dropWhile Char.isDigit).head? = some d →
            d.isDigit = false := by
          intro d hd
          have hnot := List.head?_dropWhile_not Char.isDigit (c :: cs)
          rw [hd] at hnot
          simpa using hnot
        rcases runAt_digits hne (fun d hd => List.mem_takeWhile_imp hd) hrest with
          ⟨rest', caps, hrun, hone, htwo⟩
        rw [List.takeWhile_append_dropWhile] at hrun
        refine ⟨_, by rw [exec, hrun], ?_, htwo⟩
        show (caps 1).getD [] = _
        rw [hone]
        rfl
      · have hskip : (c :: cs).dropWhile (fun c => !c.isDigit) =
            cs.dropWhile (fun c => !c.isDigit) := by
          rw [List.dropWhile_cons_of_pos]
          rw [Bool.eq_false_iff.mpr hc]
          rfl
        have hrun : sizeRegexp.runAt (c :: cs) = none := by
          refine runAt_of_not_digit fun d hd => ?_
          rw [← Option.some.inj hd]
          exact Bool.eq_false_iff.mpr hc
        unfold firstDigits unitBehind at ih ⊢
        rw [hskip, exec, hrun]
        rcases ih with ⟨hempty, hnone⟩ | ⟨hne, m, hm, hone, htwo⟩
        · exact Or.inl ⟨hempty, by rw [hnone]; rfl⟩
        · exact Or.inr ⟨hne, { m with before := c :: m.before }, by rw [hm]; rfl, hone, htwo⟩

/-- What a text is read as. -/
theorem parseSize_eq (q : String) : parseSize q =
    if firstDigits q.toList = [] ∨ 2 ^ 64 ≤ decimal (firstDigits q.toList) then
      .error errInvalidSize
    else .ok (Int64.ofNat (decimal (firstDigits q.toList)) * unitSize (unitBehind q.toList)) := by
  unfold parseSize
  rcases exec_sizeRegexp q.toList with ⟨hempty, hnone⟩ | ⟨hne, m, hm, hone, htwo⟩
  · rw [hnone, if_pos (Or.inl hempty)]
  · rw [hm]
    simp only [hone, htwo, parseUint]
    by_cases hlarge : 2 ^ 64 ≤ decimal (firstDigits q.toList)
    · rw [if_neg (Nat.not_lt.mpr hlarge), if_pos (Or.inr hlarge)]
    · rw [if_pos (Nat.not_le.mp hlarge), if_neg (not_or.mpr ⟨hne, hlarge⟩)]

/-- There are no first digits where there is no digit at all. -/
theorem firstDigits_eq_nil_iff : firstDigits cs = [] ↔ ∀ c ∈ cs, c.isDigit = false := by
  unfold firstDigits
  induction cs with
  | nil => exact iff_of_true rfl nofun
  | cons c cs ih =>
      rw [List.forall_mem_cons]
      by_cases hc : c.isDigit = true
      · rw [List.dropWhile_cons_of_neg (by rw [hc]; exact Bool.false_ne_true),
          List.takeWhile_cons_of_pos hc]
        refine iff_of_false (List.cons_ne_nil _ _) fun h => ?_
        rw [hc] at h
        exact absurd h.1 nofun
      · rw [Bool.not_eq_true] at hc
        rw [List.dropWhile_cons_of_pos (by rw [hc]; rfl), ih]
        exact (and_iff_right hc).symm

end Found

/-! ## What is read -/

section Read

variable {q : String} {n : Nat} {letters : List Char} {factor : Nat}

/-- A unit does not begin with a digit, and behind digits it is found. -/
theorem unit_of_factor (h : Factor letters factor) :
    (∀ c, letters.head? = some c → c.isDigit = false) ∧
      (letters.head?.filter isUnit).toList = letters ∧
      (unitSize letters).toInt = factor ∧ 1 ≤ factor := by
  cases h with
  | none => exact ⟨nofun, rfl, rfl, by decide⟩
  | k | m | g | t =>
      refine ⟨fun c hc => ?_, by decide, by decide, by decide⟩
      rw [← Option.some.inj hc]
      decide

/-- A text that is a size as a whole is found as a whole. -/
theorem found_of_denotes {digits : List Char} (hq : q.toList = digits ++ letters)
    (hne : digits ≠ []) (hdigits : ∀ c ∈ digits, c.isDigit = true)
    (hfactor : Factor letters factor) :
    firstDigits q.toList = digits ∧ unitBehind q.toList = letters := by
  rcases unit_of_factor hfactor with ⟨hhead, hunit, -, -⟩
  have hskip : q.toList.dropWhile (fun c => !c.isDigit) = digits ++ letters := by
    rw [hq]
    rcases List.exists_cons_of_ne_nil hne with ⟨d, ds, rfl⟩
    rw [List.cons_append, List.dropWhile_cons_of_neg]
    rw [hdigits d List.mem_cons_self]
    exact Bool.false_ne_true
  unfold firstDigits unitBehind
  rw [hskip, List.takeWhile_append_of_pos hdigits, List.dropWhile_append_of_pos hdigits]
  cases letters with
  | nil =>
      refine ⟨?_, rfl⟩
      rw [List.takeWhile_nil, List.append_nil]
  | cons c letters =>
      have hc : ¬ c.isDigit = true := by
        rw [hhead c rfl]
        exact Bool.false_ne_true
      rw [List.takeWhile_cons_of_neg hc, List.dropWhile_cons_of_neg hc, List.append_nil]
      exact ⟨rfl, hunit⟩

/-- A size is read as what it is, if it is an integer of 64 bits. -/
theorem parseSize_of_denotes (h : Denotes q n) (hle : n ≤ 2 ^ 63 - 1) :
    ∃ s, parseSize q = .ok s ∧ s.toInt = n := by
  rcases h with ⟨digits, letters, factor, hq, hne, hdigits, hfactor, rfl⟩
  rcases found_of_denotes hq hne hdigits hfactor with ⟨hfirst, hbehind⟩
  rcases unit_of_factor hfactor with ⟨-, -, hunit, hpos⟩
  have hdecimal : decimal digits ≤ decimal digits * factor := Nat.le_mul_of_pos_right _ hpos
  refine ⟨Int64.ofNat (decimal digits) * unitSize letters, ?_, ?_⟩
  · rw [parseSize_eq, hfirst, hbehind, if_neg (not_or.mpr ⟨hne, by omega⟩)]
  · have hval : (Int64.ofNat (decimal digits)).toInt = decimal digits :=
      Int64.toInt_ofNat_of_lt (by omega)
    rw [Word.toInt_mul_of_bounds, hval, hunit, Int.natCast_mul]
    · rw [hval, hunit]
      exact le_trans (by decide) (mul_nonneg (Int.natCast_nonneg _) (Int.natCast_nonneg _))
    · rw [hval, hunit, ← Int.natCast_mul]
      omega

theorem decimal_le_of_denotes (h : Denotes q n) :
    firstDigits q.toList ≠ [] ∧ decimal (firstDigits q.toList) ≤ n := by
  rcases h with ⟨digits, letters, factor, hq, hne, hdigits, hfactor, rfl⟩
  rw [(found_of_denotes hq hne hdigits hfactor).1]
  exact ⟨hne, Nat.le_mul_of_pos_right _ (unit_of_factor hfactor).2.2.2⟩

theorem factor_unique {factor' : Nat} (h : Factor letters factor) (h' : Factor letters factor') :
    factor = factor' := by
  cases h <;> cases h' <;> rfl

/-- A text is one size at most. -/
theorem denotes_unique {n' : Nat} (h : Denotes q n) (h' : Denotes q n') : n = n' := by
  rcases h with ⟨digits, letters, factor, hq, hne, hdigits, hfactor, rfl⟩
  rcases h' with ⟨digits', letters', factor', hq', hne', hdigits', hfactor', rfl⟩
  rcases found_of_denotes hq hne hdigits hfactor with ⟨hfirst, hbehind⟩
  rcases found_of_denotes hq' hne' hdigits' hfactor' with ⟨hfirst', hbehind'⟩
  rw [hfirst] at hfirst'
  rw [hbehind] at hbehind'
  subst hfirst' hbehind'
  rw [factor_unique hfactor hfactor']

/-- The two halves are put together here: what is read and is a size, and what is no size and
    not read. -/
theorem reads_iff_readable : Reads q ↔ Readable q := by
  constructor
  · intro h
    by_cases hfound : firstDigits q.toList = [] ∨ 2 ^ 64 ≤ decimal (firstDigits q.toList)
    · exact hfound.imp firstDigits_eq_nil_iff.mp Or.inl
    · have hparse := parseSize_eq q
      rw [if_neg hfound] at hparse
      exact Or.inr (Or.inr (h.accepts.mp ⟨_, hparse⟩))
  · intro h
    have herror : firstDigits q.toList = [] ∨ 2 ^ 64 ≤ decimal (firstDigits q.toList) →
        Reads q := by
      intro hfound
      have hparse := parseSize_eq q
      rw [if_pos hfound] at hparse
      refine ⟨iff_of_false ?_ ?_, fun s n hs => ?_⟩
      · rintro ⟨s, hs⟩
        exact absurd (hparse.symm.trans hs) nofun
      · -- a size has digits, and is not less than their number
        rintro ⟨n, hn, hle⟩
        rcases decimal_le_of_denotes hn with ⟨hne, hdecimal⟩
        exact hfound.elim hne fun hlarge => by omega
      · exact absurd (hparse.symm.trans hs) nofun
    rcases h with hnone | hlarge | ⟨n, hn, hle⟩
    · exact herror (Or.inl (firstDigits_eq_nil_iff.mpr hnone))
    · exact herror (Or.inr hlarge)
    · rcases parseSize_of_denotes hn hle with ⟨s, hs, hvalue⟩
      refine ⟨iff_of_true ⟨s, hs⟩ ⟨n, hn, hle⟩, fun s' n' hs' hn' => ?_⟩
      rw [← Except.ok.inj (hs.symm.trans hs'), ← denotes_unique hn hn']
      exact hvalue

end Read

/-! ## What is written -/

section Write

variable {s : Size}

/-- A number that is not negative is written with digits only. -/
theorem toList_toString_toInt (hs : 0 ≤ s.toInt) :
    (toString s.toInt).toList = Nat.toDigits 10 s.toInt.toNat := by
  rw [← Int.toNat_of_nonneg hs, Int.toNat_natCast]
  exact Nat.toList_repr

theorem denotes_digits (n : Nat) {factor : Nat} (hfactor : Factor letters factor) {q : String}
    (hq : q.toList = Nat.toDigits 10 n ++ letters) : Denotes q (n * factor) := by
  refine ⟨Nat.toDigits 10 n, letters, factor, hq, Nat.toDigits_ne_nil, fun c hc => ?_, hfactor, ?_⟩
  · exact Nat.isDigit_of_mem_toDigits (by omega) (by omega) hc
  · rw [decimal, Nat.ofDigitChars_ten_toDigits]

/-- The letters that are written are those that are read. -/
theorem factor_of_steps {stp : Char × Size} (h : stp ∈ steps) :
    ∃ factor, Factor [stp.1] factor ∧ stp.2.toInt = factor ∧ 1 ≤ factor := by
  unfold steps at h
  simp only [List.mem_cons, List.not_mem_nil, or_false] at h
  rcases h with rfl | rfl | rfl | rfl
  · exact ⟨_, .t, by decide, by decide⟩
  · exact ⟨_, .g, by decide, by decide⟩
  · exact ⟨_, .m, by decide, by decide⟩
  · exact ⟨_, .k, by decide, by decide⟩

/-- What is written is the size. -/
theorem denotes_string (hs : 0 ≤ s.toInt) : Denotes (string s) s.toInt.toNat := by
  unfold string
  by_cases hzero : s = 0
  · rw [if_pos hzero, hzero]
    exact denotes_digits 0 .none rfl
  · rw [if_neg hzero]
    cases hfind : steps.find? fun stp => s % stp.2 = 0 with
    | none =>
        have h := denotes_digits s.toInt.toNat .none (q := toString s.toInt)
          (by rw [toList_toString_toInt hs, List.append_nil])
        rw [Nat.mul_one] at h
        exact h
    | some stp =>
        rcases factor_of_steps (List.mem_of_find?_eq_some hfind) with
          ⟨factor, hfactor, hunit, hpos⟩
        have hdivides : s % stp.2 = 0 := by
          have hfound := List.find?_some hfind
          exact of_decide_eq_true hfound
        -- the size is a multiple of the unit, and the number is how often it has it
        have hmod : s.toInt % factor = 0 := by
          have hrest := congrArg Int64.toInt hdivides
          rw [Int64.toInt_mod, hunit, Int.tmod_eq_emod_of_nonneg hs] at hrest
          exact hrest
        have hne : stp.2 ≠ -1 := by
          intro hminus
          rw [hminus] at hunit
          have : (-1 : Int64).toInt = -1 := rfl
          omega
        have hdiv : (s / stp.2).toInt = s.toInt / factor := by
          rw [Int64.toInt_div_of_ne_right _ _ hne, hunit, Int.tdiv_eq_ediv_of_nonneg hs]
        have hnonneg : 0 ≤ (s / stp.2).toInt := by
          rw [hdiv]
          exact Int.ediv_nonneg hs (Int.natCast_nonneg _)
        have h := denotes_digits (s / stp.2).toInt.toNat hfactor
          (q := toString (s / stp.2).toInt ++ String.singleton stp.1)
          (by rw [String.toList_append, toList_toString_toInt hnonneg, String.toList_singleton])
        have hamount : (s / stp.2).toInt.toNat * factor = s.toInt.toNat := by
          have hmul := Int.ediv_mul_cancel (Int.dvd_of_emod_eq_zero hmod)
          rw [← hdiv] at hmul
          rw [← hmul, Int.toNat_mul hnonneg (Int.natCast_nonneg _), Int.toNat_natCast]
        rw [hamount] at h
        exact h

theorem parseSize_string (hs : 0 ≤ s.toInt) : parseSize (string s) = .ok s := by
  have hlt := s.toInt_lt
  rcases parseSize_of_denotes (denotes_string hs) (by omega) with ⟨s', hparse, hvalue⟩
  rw [hparse, Int64.toInt_inj.mp (hvalue.trans (Int.toNat_of_nonneg hs))]

/-- A size in a document is read back. -/
theorem unmarshalJSON_marshalJSON (hs : 0 ≤ s.toInt) (raw : String) :
    unmarshalJSON raw (marshalJSON s) = .ok s := by
  have hne : string s ≠ "" := by
    intro hempty
    have herror : parseSize "" = .error errInvalidSize := rfl
    have hparse := parseSize_string hs
    rw [hempty, herror] at hparse
    exact absurd hparse nofun
  show (if string s = "" then _ else parseSize (string s)) = _
  rw [if_neg hne, parseSize_string hs]

end Write

/-- Every size that is not negative is read back as it is written, and a text is read as it
    should be exactly if there are no digits in it, or the first ones are a number too large for
    64 bits, or it is a size. Everything else that has digits somewhere is taken for a size by
    the expression, which is not anchored, and this is what the second part excludes. -/
theorem reads_iff (s : Size) (hs : 0 ≤ s.toInt) (q : String) :
    parseSize (string s) = .ok s ∧ (Reads q ↔ Readable q) :=
  ⟨parseSize_string hs, reads_iff_readable⟩

/-- Five kilobytes. -/
theorem reads_iff_kilobytes :
    parseSize (string 5120) = .ok 5120 ∧ (Reads "5k" ↔ Readable "5k") :=
  reads_iff 5120 (by decide) "5k"

/-- There is a minus before the digits. -/
theorem minus_ignored : ¬ ∀ q, Reads q := by
  intro hall
  have hparse : parseSize "-42m" = .ok 44040192 := by decide +kernel
  rcases (hall "-42m").accepts.mp ⟨_, hparse⟩ with ⟨n, hn, -⟩
  rcases hn with ⟨digits, letters, factor, hq, hne, hdigits, -⟩
  rcases List.exists_cons_of_ne_nil hne with ⟨d, ds, rfl⟩
  have hhead : '-' = d := (List.cons.inj (hq : '-' :: ['4', '2', 'm'] = d :: (ds ++ letters))).1
  have hminus := hdigits d List.mem_cons_self
  rw [← hhead] at hminus
  exact absurd hminus (by decide)

end QuotaSize

end WsSync

end Nxpod
