import Mathlib.Algebra.GroupWithZero.Nat
import Mathlib.Data.List.Basic
import Mathlib.Data.Nat.Init
import Mathlib.Tactic.Common

/-!
# Scanning Lines

A scanner that takes one line after the other from what it reads, with a buffer for one line. A
line ends with a newline, before which a carriage return is dropped. What is left at the end is a
line as well, if there is anything. The scanner gives up when a line does not fit into the buffer
together with its end, and then there are no more lines.

Texts are lists over any alphabet with a newline and a carriage return, whose members
have a size.

## Main definitions

* `Alphabet`, `Alphabet.weight`: The alphabet, and the size of a text.
* `cutLine`: The first line in a buffer, if it is complete.
* `scan`: The lines of a text, and whether the scanner has given up.

## Theorems

* `cutLine_eq_some_iff`, `cutLine_eq_none_iff`: What the first line is.
* `scan_line`, `scan_full`, `scan_rest`: A line that fits, one that does not, and the rest.
* `scan_eq_false_iff`, `filterMap_scan`: What is between newlines.
-/

namespace Nxpod

namespace Scanner

/-- The characters of a text, of which two end lines. -/
structure Alphabet (α : Type*) where
  newline : α
  carriage : α
  size : α → Nat

variable {α : Type*} (A : Alphabet α)

/-- How much room a text needs. -/
def Alphabet.weight (text : List α) : Nat :=
  (text.map A.size).sum

variable {A}

@[simp] theorem weight_nil : A.weight [] = 0 := rfl

@[simp] theorem weight_append (xs ys : List α) :
    A.weight (xs ++ ys) = A.weight xs + A.weight ys := by
  rw [Alphabet.weight, List.map_append, List.sum_append]
  rfl

@[simp] theorem weight_singleton (c : α) : A.weight [c] = A.size c := by
  rw [Alphabet.weight, List.map_singleton, List.sum_singleton]

theorem weight_cons (c : α) (cs : List α) : A.weight (c :: cs) = A.size c + A.weight cs := by
  rw [Alphabet.weight, List.map_cons, List.sum_cons]
  rfl

variable [DecidableEq α] (A)

/-- The buffer's size. -/
def maxScanTokenSize : Nat := 64 * 1024

/-- A carriage return at the end of a line does not belong to it. -/
def dropCR (line : List α) : List α :=
  if line.getLast? = some A.carriage then line.dropLast else line

/-- The first line, without its end, and what comes behind. -/
def cutLine : List α → Option (List α × List α)
  | [] => none
  | c :: cs =>
      if c = A.newline then some ([], cs)
      else (cutLine cs).map fun (line, rest) => (c :: line, rest)

/-- The lines of a text behind the beginning `line` of the first one, and whether the scanner
    gives up. The text may come to an end. -/
def scan (ends : Bool) : List α → List α → List (List α) × Bool
  | line, [] => (if ends ∧ line ≠ [] then [dropCR A line] else [], false)
  | line, c :: cs =>
      if c = A.newline then
        let rest := scan ends [] cs
        (dropCR A line :: rest.1, rest.2)
      else if maxScanTokenSize ≤ A.weight line + A.size c then ([], true)
      else scan ends (line ++ [c]) cs

variable {A}

omit [DecidableEq α] in
theorem weight_nil_lt : A.weight [] < maxScanTokenSize := by
  rw [weight_nil]
  decide

theorem length_dropCR_le (line : List α) : (dropCR A line).length ≤ line.length := by
  unfold dropCR
  split_ifs
  · rw [List.length_dropLast]
    exact Nat.sub_le _ _
  · exact Nat.le_refl _

theorem cutLine_eq_some_iff {text line rest : List α} : cutLine A text = some (line, rest) ↔
    text = line ++ A.newline :: rest ∧ A.newline ∉ line := by
  induction text generalizing line with
  | nil =>
      rw [cutLine]
      refine iff_of_false nofun fun h => ?_
      exact absurd h.1.symm (List.append_ne_nil_of_right_ne_nil _ (List.cons_ne_nil _ _))
  | cons c cs ih =>
      rw [cutLine]
      by_cases hc : c = A.newline
      · rw [if_pos hc, Option.some.injEq, Prod.mk.injEq]
        constructor
        · rintro ⟨rfl, rfl⟩
          exact ⟨by rw [hc, List.nil_append], List.not_mem_nil⟩
        · rintro ⟨heq, hmem⟩
          cases line with
          | nil => exact ⟨rfl, (List.cons.inj heq).2⟩
          | cons d line =>
              -- the line would begin with its end
              rw [List.cons_append, List.cons.injEq] at heq
              rw [List.mem_cons, not_or] at hmem
              exact absurd (hc.symm.trans heq.1) hmem.1
      · rw [if_neg hc, Option.map_eq_some_iff]
        constructor
        · rintro ⟨⟨line', rest'⟩, hcut, hpair⟩
          rw [Prod.mk.injEq] at hpair
          rcases hpair with ⟨rfl, rfl⟩
          rcases ih.mp hcut with ⟨rfl, hmem⟩
          exact ⟨rfl, List.mem_cons.not.mpr (not_or.mpr ⟨Ne.symm hc, hmem⟩)⟩
        · rintro ⟨heq, hmem⟩
          cases line with
          | nil => exact absurd (List.cons.inj heq).1 hc
          | cons d line =>
              rw [List.cons_append, List.cons.injEq] at heq
              rcases heq with ⟨rfl, heq⟩
              exact ⟨(line, rest), ih.mpr ⟨heq, (not_or.mp (List.mem_cons.not.mp hmem)).2⟩, rfl⟩

theorem cutLine_eq_none_iff {text : List α} : cutLine A text = none ↔ A.newline ∉ text := by
  induction text with
  | nil => exact iff_of_true rfl List.not_mem_nil
  | cons c cs ih =>
      rw [cutLine, List.mem_cons, not_or]
      by_cases hc : c = A.newline
      · rw [if_pos hc]
        exact iff_of_false nofun fun h => h.1 hc.symm
      · rw [if_neg hc, Option.map_eq_none_iff, ih]
        exact (and_iff_right (Ne.symm hc)).symm

/-- What fits into the buffer is read on. -/
theorem scan_append (ends : Bool) {start line : List α} (rest : List α)
    (hmem : A.newline ∉ line) (hfits : A.weight (start ++ line) < maxScanTokenSize) :
    scan A ends start (line ++ rest) = scan A ends (start ++ line) rest := by
  induction line generalizing start with
  | nil => rw [List.nil_append, List.append_nil]
  | cons c cs ih =>
      rw [List.mem_cons, not_or] at hmem
      rw [weight_append, weight_cons] at hfits
      rw [List.cons_append, scan, if_neg (Ne.symm hmem.1), if_neg (by omega),
        ih hmem.2 (by rw [weight_append, weight_append, weight_singleton]; omega),
        List.append_assoc, List.singleton_append]

/-- A line that fits is scanned, and the rest after it. -/
theorem scan_line (ends : Bool) {start line : List α} (rest : List α) (hmem : A.newline ∉ line)
    (hfits : A.weight (start ++ line) < maxScanTokenSize) :
    scan A ends start (line ++ A.newline :: rest) =
      (dropCR A (start ++ line) :: (scan A ends [] rest).1, (scan A ends [] rest).2) := by
  rw [scan_append ends _ hmem hfits, scan, if_pos rfl]

/-- What is left at the end is scanned if the source has ended. -/
theorem scan_rest (ends : Bool) {line : List α} (hmem : A.newline ∉ line)
    (hfits : A.weight line < maxScanTokenSize) :
    scan A ends [] line = (if ends ∧ line ≠ [] then [dropCR A line] else [], false) := by
  have happend : scan A ends [] (line ++ []) = scan A ends line [] :=
    scan_append ends [] hmem (show A.weight ([] ++ line) < _ from hfits)
  rw [List.append_nil] at happend
  rw [happend, scan]

/-- The scanner gives up on a line that does not fit. -/
theorem scan_full (ends : Bool) {start line : List α} (rest : List α) (hmem : A.newline ∉ line)
    (hstart : A.weight start < maxScanTokenSize)
    (hfull : maxScanTokenSize ≤ A.weight (start ++ line)) :
    scan A ends start (line ++ rest) = ([], true) := by
  induction line generalizing start with
  | nil =>
      rw [List.append_nil] at hfull
      exact absurd hstart (Nat.not_lt.mpr hfull)
  | cons c cs ih =>
      rw [List.mem_cons, not_or] at hmem
      rw [List.cons_append, scan, if_neg (Ne.symm hmem.1)]
      split_ifs with hc
      · rfl
      · rw [Nat.not_le] at hc
        refine ih hmem.2 ?_ ?_
        · rw [weight_append, weight_singleton]
          exact hc
        · rw [List.append_assoc, List.singleton_append]
          exact hfull

/-! ## What is between newlines -/

/-- A text has no newline, or begins with a line in front of one. -/
theorem line_induction {motive : List α → Prop}
    (last : ∀ line, A.newline ∉ line → motive line)
    (more : ∀ line rest, A.newline ∉ line → motive rest → motive (line ++ A.newline :: rest))
    (text : List α) : motive text := by
  induction hlen : text.length using Nat.strong_induction_on generalizing text with
  | _ n ih =>
      cases hcut : cutLine A text with
      | none => exact last text (cutLine_eq_none_iff.mp hcut)
      | some cut =>
          rcases cutLine_eq_some_iff.mp hcut with ⟨heq, hmem⟩
          have hlt : cut.2.length < n := by
            rw [← hlen, heq, List.length_append, List.length_cons]
            omega
          rw [heq]
          exact more cut.1 cut.2 hmem (ih cut.2.length hlt cut.2 rfl)

/-- The scanner goes on to the end if everything between newlines fits. -/
theorem scan_eq_false_iff (text : List α) : (scan A true [] text).2 = false ↔
    ∀ part ∈ text.splitOn A.newline, A.weight part < maxScanTokenSize := by
  induction text using line_induction (A := A) with
  | last line hmem =>
      rw [List.splitOn_eq_singleton hmem, List.forall_mem_singleton]
      by_cases hfits : A.weight line < maxScanTokenSize
      · rw [scan_rest true hmem hfits]
        exact iff_of_true rfl hfits
      · have hfull : scan A true [] (line ++ []) = ([], true) :=
          scan_full true [] hmem weight_nil_lt (Nat.not_lt.mp hfits)
        rw [List.append_nil] at hfull
        rw [hfull]
        exact iff_of_false nofun hfits
  | more line rest hmem ih =>
      rw [List.splitOn_append_cons_self_of_not_mem hmem, List.forall_mem_cons]
      by_cases hfits : A.weight line < maxScanTokenSize
      · rw [scan_line true rest hmem (show A.weight ([] ++ line) < _ from hfits), ih]
        exact (and_iff_right hfits).symm
      · rw [scan_full true (A.newline :: rest) hmem weight_nil_lt
          (show _ ≤ A.weight ([] ++ line) from Nat.not_lt.mp hfits)]
        exact iff_of_false nofun fun h => hfits h.1

/-- Where empty lines do not matter, the lines are what is between newlines. -/
theorem filterMap_scan {β : Type*} {f : List α → Option β} (hnil : f [] = none) {text : List α}
    (hfits : ∀ part ∈ text.splitOn A.newline, A.weight part < maxScanTokenSize) :
    (scan A true [] text).1.filterMap f =
      (text.splitOn A.newline).filterMap fun part => f (dropCR A part) := by
  induction text using line_induction (A := A) with
  | last line hmem =>
      rw [List.splitOn_eq_singleton hmem] at hfits ⊢
      rw [scan_rest true hmem (hfits line (List.mem_singleton_self line))]
      by_cases hline : line = []
      · rw [hline, if_neg (fun h => h.2 rfl), List.filterMap_cons_none (by exact hnil)]
        rfl
      · rw [if_pos ⟨rfl, hline⟩]
        rfl
  | more line rest hmem ih =>
      rw [List.splitOn_append_cons_self_of_not_mem hmem, List.forall_mem_cons] at hfits
      rw [List.splitOn_append_cons_self_of_not_mem hmem,
        scan_line true rest hmem (show A.weight ([] ++ line) < _ from hfits.1),
        List.filterMap_cons, List.filterMap_cons, ih hfits.2]
      rfl

end Scanner

end Nxpod
