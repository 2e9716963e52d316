import Mathlib.Algebra.Group.Int.Defs
import Mathlib.Data.List.Basic
import Mathlib.Tactic.Common

/-!
# Durations

A duration is a number of nanoseconds in 64 bits with a sign. The difference of
two points in time that is out of this range is the least or the largest
duration, and so is what would round to a value out of it.

A duration is written in hours, minutes and seconds with a fraction, and one of
less than a second in the largest unit of which it has at least one.

## Main definitions

* `Duration`: A duration in range.
* `sub`: The difference of two points in time.
* `round`: To the nearest multiple, and away from zero halfway.
* `toText`: A duration as it is written.

## Theorems

* `le_sub_of_le`: A duration up to the difference is up to the duration between them.
-/

namespace Nxpod

/-- The least duration. -/
def minDuration : Int := -2 ^ 63

/-- The largest duration. -/
def maxDuration : Int := 2 ^ 63 - 1

/-- Nanoseconds within the range. -/
structure Duration where
  ns : Int
  inRange : minDuration ≤ ns ∧ ns ≤ maxDuration

namespace Duration

/-- A second in nanoseconds. -/
def second : Nat := 1000000000

/-- A minute in nanoseconds. -/
def minute : Nat := 60 * second

/-- An hour in nanoseconds. -/
def hour : Nat := 60 * minute

/-- The duration that is next to the number of nanoseconds. -/
def clamp (ns : Int) : Duration where
  ns := max minDuration (min maxDuration ns)
  inRange := ⟨Int.le_max_left _ _, Int.max_le.mpr ⟨by decide, Int.min_le_left _ _⟩⟩

/-- The difference of two points in time, cut off at the range. -/
def sub (t u : Int) : Duration := clamp (t - u)

/-- Cutting off takes nothing away from a duration within the range. -/
theorem le_sub_of_le {d : Duration} {t u : Int} (h : d.ns ≤ t - u) : d.ns ≤ (sub t u).ns :=
  Int.le_trans (Int.le_min.mpr ⟨d.inRange.2, h⟩) (Int.le_max_right _ _)

/-- Rounding to a multiple of the unit, halves away from zero. -/
def round (d : Duration) (unit : Nat) : Duration :=
  if unit = 0 then d
  else
    let r := d.ns.natAbs % unit
    let n := if 2 * r < unit then d.ns.natAbs - r else d.ns.natAbs + (unit - r)
    clamp (if d.ns < 0 then -(n : Int) else n)

/-- The last digits behind the point, without zeros at their end, and the number in front
    of it. -/
def fmtFrac : Nat → Nat → List Char → List Char × Nat
  | 0, v, digits => (if digits.isEmpty then [] else '.' :: digits, v)
  | prec + 1, v, digits =>
      fmtFrac prec (v / 10)
        (if digits.isEmpty && v % 10 == 0 then [] else Nat.digitChar (v % 10) :: digits)

/-- A number of some unit, and its fraction. -/
def fmtUnit (prec v : Nat) : String :=
  let (digits, n) := fmtFrac prec v []
  toString n ++ String.ofList digits

/-- The text of a duration without its sign, in the units that suit it. -/
def fmtNat (u : Nat) : String :=
  if u = 0 then "0s"
  else if u < 1000 then fmtUnit 0 u ++ "ns"
  else if u < 1000000 then fmtUnit 3 u ++ "µs"
  else if u < second then fmtUnit 6 u ++ "ms"
  else
    let seconds := fmtUnit 9 (u % minute) ++ "s"
    if u < minute then seconds
    else
      let minutes := toString (u / minute % 60) ++ "m" ++ seconds
      if u < hour then minutes else toString (u / hour) ++ "h" ++ minutes

/-- The text of a duration. -/
def toText (d : Duration) : String :=
  if d.ns < 0 then "-" ++ fmtNat d.ns.natAbs else fmtNat d.ns.natAbs

end Duration

end Nxpod
