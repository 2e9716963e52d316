import Mathlib.Data.List.Infix
import Mathlib.Data.Nat.Basic
import Mathlib.Tactic.Common
import Nxpod.Library.Scanner
import Nxpod.Library.Transition

/-!
# Censoring the Log of a Build

`defaultLogCensor` puts a pipe behind the log of a build. A goroutine scans the log and writes one
line after the other to the pipe, and whoever listens to the log reads from the pipe. As
long as the base image is built, the strings that may not be seen are cut out of each line. While
the workspace image is built, a line becomes a dot, except for the one that says that the image
is pushed.

The strings are cut out one after the other, each once from left to right, so what is left on
both sides may make up one of them. And nobody closes the pipe: when the log has come to an end, or
the scanner has given up on a line that is too long, the goroutine is gone, and who reads waits for
the next line.

The log comes in any pieces that are not empty, and the phase of the build is asked for at every
line. A log that ends may do so with an error, which is the same to the scanner.

## Main definitions

* `cut`, `censor`: Cutting strings out of a line.
* `BuildPhase`: The base image is built first.
* `Censor`, `Action`, `step`: The goroutine, the pipe and the reader.
* `Censors`, `Ends`: No line has a forbidden string, and the reader comes to the end.
* `Residue`, `StaysClean`: What is left of a line, and the condition on it.
* `Effect`: What a step can do.

## Theorems

* `residue_cut`, `residue_unique`: What cutting a string out leaves.
* `effect_of_step`: All that a step can do.
* `inv_step`, `measure_step`: What a step preserves, and what it makes smaller.
* `censors_iff`: When the lines are clean.
* `ends_iff`: The reader does not come to the end.
* `censors_and_ends_iff`: When the censor does what it should.
-/

namespace Nxpod

namespace ImageBuilder

namespace LogCensor

open Transition Scanner

/-- A piece of the log. -/
abbrev Bytes := List UInt8

/-- The scanner reads bytes here, each of which counts as one. -/
def bytes : Alphabet UInt8 where
  newline := 10
  carriage := 13
  size _ := 1

/-! ## Lines -/

/-- The occurrences are found from left to right, and `skip` bytes of the last one are still to
    come. -/
def cutFrom (old : Bytes) : Nat → Bytes → Bytes
  | _, [] => []
  | skip + 1, _ :: bs => cutFrom old skip bs
  | 0, b :: bs =>
      if old <+: b :: bs then cutFrom old (old.length - 1) bs else b :: cutFrom old 0 bs

/-- `bytes.ReplaceAll` with nothing. Nothing is cut out of a line by cutting out nothing. -/
def cut (old line : Bytes) : Bytes :=
  if old = [] then line else cutFrom old 0 line

/-- The loop over the forbidden strings. -/
def censor (forbidden : List Bytes) (line : Bytes) : Bytes :=
  forbidden.foldl (fun line old => cut old line) line

/-- The base image is built first. -/
inductive BuildPhase
  | base
  | workspace
  deriving DecidableEq

/-- The one line that is let through as it is. -/
def msgPushingWorkspaceImage : Bytes :=
  "pushing workspace image".toUTF8.data.toList

/-- What all others become. -/
def dot : UInt8 := 46

/-- What becomes of a line, what is written for it, and the dots since the last newline. -/
def emit (forbidden : List Bytes) (phase : BuildPhase) (dots : Nat) (line : Bytes) :
    Bytes × Bytes × Nat :=
  if phase = .workspace ∧ ¬ msgPushingWorkspaceImage <:+: line then
    if dots + 1 > 10 then ([dot], [dot, bytes.newline], 0) else ([dot], [dot], dots + 1)
  else (censor forbidden line, censor forbidden line ++ [bytes.newline], dots)

/-! ## The pipe -/

/-- The log, and whether it comes to an end. -/
structure Source where
  log : Bytes
  ends : Bool

/-- The goroutine is in `Scan`, or in `Write` with so much left. -/
inductive Goroutine
  | scanning
  | writing (data : Bytes)
  | gone
  deriving DecidableEq

/-- A line, the phase it was found in, and what it has become. -/
structure Emitted where
  phase : BuildPhase
  line : Bytes
  text : Bytes
  data : Bytes
  deriving DecidableEq

/-- `stream` is what has not been read of the log, `buf` is the scanner's buffer, and `ended`
    says that it has seen the end. `emitted` and `delivered` are the history. -/
structure Censor where
  stream : Bytes
  buf : Bytes
  ended : Bool
  goroutine : Goroutine
  dots : Nat
  emitted : List Emitted
  delivered : Bytes
  pipeClosed : Bool
  readerEnded : Bool
  deriving DecidableEq

/-- Nothing has been read, and the goroutine is there. -/
def start (src : Source) : Censor where
  stream := src.log
  buf := []
  ended := false
  goroutine := .scanning
  dots := 0
  emitted := []
  delivered := []
  pipeClosed := false
  readerEnded := false

/-- The log gives `n` bytes or says that it has ended; the scanner has a line, or is done; who
    listens reads, and has come to the end. -/
inductive Action
  | read (n : Nat)
  | sourceEnd
  | line (phase : BuildPhase)
  | finish
  | recv (size : Nat)
  | eof

/-- The line that the scanner has in its buffer, and the rest of it. -/
def nextLine (s : Censor) : Option (Bytes × Bytes) :=
  match cutLine bytes s.buf with
  | some (line, rest) => some (dropCR bytes line, rest)
  | none => if s.ended ∧ s.buf ≠ [] then some (dropCR bytes s.buf, []) else none

/-- The scanner waits for more, and has room for it. -/
def reading (s : Censor) : Bool :=
  s.goroutine = .scanning ∧ nextLine s = none ∧ s.ended = false ∧
    s.buf.length < maxScanTokenSize

/-- Nobody closes the pipe. -/
def step (forbidden : List Bytes) (src : Source) (s : Censor) : Action → Option Censor
  | .read n =>
      if reading s ∧ 1 ≤ n ∧ n ≤ s.stream.length ∧ s.buf.length + n ≤ maxScanTokenSize then
        some { s with stream := s.stream.drop n, buf := s.buf ++ s.stream.take n }
      else none
  | .sourceEnd =>
      if reading s ∧ s.stream = [] ∧ src.ends then some { s with ended := true } else none
  | .line phase => match s.goroutine, nextLine s with
      | .scanning, some (line, rest) =>
          let e := emit forbidden phase s.dots line
          some { s with
            buf := rest
            goroutine := .writing e.2.1
            dots := e.2.2
            emitted := s.emitted ++ [⟨phase, line, e.1, e.2.1⟩] }
      | _, _ => none
  | .finish =>
      if s.goroutine = .scanning ∧ nextLine s = none ∧
          (s.ended ∨ maxScanTokenSize ≤ s.buf.length) then
        some { s with goroutine := .gone }
      else none
  | .recv size => match s.goroutine with
      | .writing data =>
          if 1 ≤ size ∧ s.readerEnded = false then
            some { s with
              goroutine := if data.drop size = [] then .scanning else .writing (data.drop size)
              delivered := s.delivered ++ data.take size }
          else none
      | _ => none
  | .eof =>
      if s.pipeClosed ∧ s.readerEnded = false then some { s with readerEnded := true } else none

/-- No line that is emitted in the base phase has a forbidden string. -/
def Censors (forbidden : List Bytes) (src : Source) : Prop :=
  ∀ s, ReachesWithin (step forbidden src) (fun _ _ => True) (start src) s →
    ∀ e ∈ s.emitted, e.phase = .base → ∀ f ∈ forbidden, ¬ f <:+: e.text

/-- If the log comes to an end, then whenever nothing can happen any more, who listens has come
    to the end, with what was written for each line. -/
def Ends (forbidden : List Bytes) (src : Source) : Prop :=
  src.ends = true →
    ∀ s, ReachesWithin (step forbidden src) (fun _ _ => True) (start src) s →
      (∀ a, step forbidden src s a = none) →
        s.readerEnded = true ∧ s.delivered = s.emitted.flatMap Emitted.data ∧
          s.emitted.map Emitted.line = (scan bytes src.ends [] src.log).1

/-! ## What is left of a line -/

/-- What is left of a line without the occurrences of a string, found from left to right. -/
inductive Residue (f : Bytes) : Bytes → Bytes → Prop
  | rest (line : Bytes) (h : ¬ f <:+: line) : Residue f line line
  | cut (before line rest : Bytes) (hfirst : ¬ f <:+: (before ++ f).dropLast)
      (h : Residue f line rest) : Residue f (before ++ f ++ line) (before ++ rest)

/-- The same for one string after the other. -/
def Residues : List Bytes → Bytes → Bytes → Prop
  | [], line, rest => line = rest
  | f :: fs, line, rest => ∃ line', Residue f line line' ∧ Residues fs line' rest

/-- No forbidden string is empty, and none comes together from what is left of the line on both
    sides of what is taken out. -/
def StaysClean (forbidden : List Bytes) (line : Bytes) : Prop :=
  (∀ f ∈ forbidden, f ≠ []) ∧
    ∀ rest, Residues forbidden line rest → ∀ f ∈ forbidden, ¬ f <:+: rest

section Cutting

variable {f line : Bytes}

theorem cutFrom_append (f : Bytes) {skipped : Bytes} (line : Bytes) :
    cutFrom f skipped.length (skipped ++ line) = cutFrom f 0 line := by
  induction skipped with
  | nil => rfl
  | cons b bs ih =>
      rw [List.length_cons, List.cons_append, cutFrom]
      exact ih

theorem cutFrom_prefix (hf : f ≠ []) (line : Bytes) :
    cutFrom f 0 (f ++ line) = cutFrom f 0 line := by
  rcases List.exists_cons_of_ne_nil hf with ⟨b, bs, rfl⟩
  have hprefix : b :: bs <+: b :: (bs ++ line) := List.prefix_append (b :: bs) line
  rw [List.cons_append, cutFrom, if_pos hprefix, List.length_cons, Nat.add_sub_cancel,
    cutFrom_append]

theorem length_cutFrom_le (f : Bytes) (skip : Nat) (line : Bytes) :
    (cutFrom f skip line).length ≤ line.length := by
  induction line generalizing skip with
  | nil =>
      rw [cutFrom]
  | cons b bs ih =>
      cases skip with
      | succ skip =>
          rw [cutFrom, List.length_cons]
          exact (ih skip).trans (Nat.le_succ _)
      | zero =>
          rw [cutFrom]
          split_ifs
          · exact (ih _).trans (Nat.le_succ _)
          · rw [List.length_cons, List.length_cons]
            exact Nat.succ_le_succ (ih 0)

theorem length_censor_le (forbidden : List Bytes) (line : Bytes) :
    (censor forbidden line).length ≤ line.length := by
  unfold censor
  induction forbidden generalizing line with
  | nil => exact Nat.le_refl _
  | cons f fs ih =>
      rw [List.foldl_cons]
      refine (ih _).trans ?_
      unfold cut
      split_ifs
      · exact Nat.le_refl _
      · exact length_cutFrom_le f 0 line

theorem cutFrom_eq_self (h : ¬ f <:+: line) : cutFrom f 0 line = line := by
  induction line with
  | nil => rw [cutFrom]
  | cons b bs ih =>
      rw [List.infix_cons_iff, not_or] at h
      rw [cutFrom, if_neg h.1, ih h.2]

/-- Before its first occurrence nothing is cut. -/
theorem cutFrom_first (hf : f ≠ []) {before : Bytes} (line : Bytes)
    (hfirst : ¬ f <:+: (before ++ f).dropLast) :
    cutFrom f 0 (before ++ f ++ line) = before ++ cutFrom f 0 line := by
  induction before with
  | nil => rw [List.nil_append, List.nil_append, cutFrom_prefix hf]
  | cons b bs ih =>
      have hne : bs ++ f ≠ [] := List.append_ne_nil_of_right_ne_nil _ hf
      rw [List.cons_append, List.dropLast_cons_of_ne_nil hne, List.infix_cons_iff, not_or] at hfirst
      have hnot : ¬ f <+: b :: (bs ++ f ++ line) := by
        intro hprefix
        -- as long as the string is, it does not get to the end of its first occurrence
        refine hfirst.1 (List.prefix_of_prefix_length_le hprefix ?_ ?_)
        · rw [List.cons_prefix_cons, List.append_assoc]
          refine ⟨rfl, (List.dropLast_prefix _).trans ?_⟩
          rw [← List.append_assoc]
          exact List.prefix_append _ _
        · rw [List.length_cons, List.length_dropLast, List.length_append]
          have := List.length_pos_of_ne_nil hf
          omega
      rw [List.cons_append, List.cons_append, cutFrom, if_neg hnot, List.cons_append, ih hfirst.2]

/-- One more byte in front, if the string does not begin there. -/
theorem residue_cons {b : UInt8} {rest : Bytes} (hf : f ≠ []) (h : Residue f line rest)
    (hnot : ¬ f <+: b :: line) : Residue f (b :: line) (b :: rest) := by
  cases h with
  | rest _ hline =>
      refine .rest _ ?_
      rw [List.infix_cons_iff, not_or]
      exact ⟨hnot, hline⟩
  | cut before line rest hfirst h =>
      refine .cut (b :: before) line rest ?_ h
      have hne : before ++ f ≠ [] := List.append_ne_nil_of_right_ne_nil _ hf
      rw [List.cons_append, List.dropLast_cons_of_ne_nil hne, List.infix_cons_iff, not_or]
      refine ⟨fun hbegins => hnot (List.IsPrefix.trans hbegins ?_), hfirst⟩
      rw [List.cons_prefix_cons]
      exact ⟨rfl, (List.dropLast_prefix _).trans (List.prefix_append _ _)⟩

/-- Cutting a string out leaves what is left of the line without it. -/
theorem residue_cut (hf : f ≠ []) (line : Bytes) : Residue f line (cut f line) := by
  unfold cut
  rw [if_neg hf]
  induction hm : line.length using Nat.strong_induction_on generalizing line with
  | _ m ih =>
      cases line with
      | nil =>
          rw [cutFrom]
          exact .rest [] fun h => hf (List.infix_nil.mp h)
      | cons b bs =>
          by_cases hprefix : f <+: b :: bs
          · rcases hprefix with ⟨rest, hrest⟩
            have hlt : rest.length < m := by
              rw [← hm, ← hrest, List.length_append]
              have := List.length_pos_of_ne_nil hf
              omega
            rw [← hrest, cutFrom_prefix hf]
            refine .cut [] rest _ ?_ (ih _ hlt rest rfl)
            -- the string is longer than what it would have to be in
            intro hinfix
            have hle := hinfix.length_le
            rw [List.nil_append, List.length_dropLast] at hle
            have := List.length_pos_of_ne_nil hf
            omega
          · rw [cutFrom, if_neg hprefix]
            have hlt : bs.length < m := by
              rw [← hm]
              exact Nat.lt_succ_self _
            exact residue_cons hf (ih bs.length hlt bs rfl) hprefix

theorem residue_unique {rest : Bytes} (hf : f ≠ []) (h : Residue f line rest) :
    rest = cut f line := by
  unfold cut
  rw [if_neg hf]
  induction h with
  | rest line h => exact (cutFrom_eq_self h).symm
  | cut before line rest hfirst h ih => rw [cutFrom_first hf line hfirst, ih]

theorem residues_iff {forbidden : List Bytes} {rest : Bytes} (hne : ∀ f ∈ forbidden, f ≠ []) :
    Residues forbidden line rest ↔ rest = censor forbidden line := by
  induction forbidden generalizing line with
  | nil => exact eq_comm
  | cons f fs ih =>
      rcases List.forall_mem_cons.mp hne with ⟨hf, hfs⟩
      unfold censor
      rw [List.foldl_cons]
      constructor
      · rintro ⟨line', hline', hrest⟩
        rw [residue_unique hf hline'] at hrest
        exact (ih hfs).mp hrest
      · intro h
        exact ⟨cut f line, residue_cut hf line, (ih hfs).mpr h⟩

theorem staysClean_iff {forbidden : List Bytes} :
    StaysClean forbidden line ↔ ∀ f ∈ forbidden, ¬ f <:+: censor forbidden line := by
  constructor
  · rintro ⟨hne, hclean⟩
    exact hclean _ ((residues_iff hne).mpr rfl)
  · intro h
    have hne : ∀ f ∈ forbidden, f ≠ [] := by
      rintro f hf rfl
      exact h [] hf (List.nil_infix)
    refine ⟨hne, fun rest hrest => ?_⟩
    rw [(residues_iff hne).mp hrest]
    exact h

end Cutting

/-! ## What a step does -/

section Steps

variable {forbidden : List Bytes} {src : Source} {s s' : Censor} {a : Action}

/-- What a step can do. -/
inductive Effect (forbidden : List Bytes) (src : Source) (s : Censor) : Action → Censor → Prop
  | read (n : Nat) (hreading : reading s = true) (hpos : 1 ≤ n) (hle : n ≤ s.stream.length)
      (hroom : s.buf.length + n ≤ maxScanTokenSize) :
      Effect forbidden src s (.read n)
        { s with stream := s.stream.drop n, buf := s.buf ++ s.stream.take n }
  | sourceEnd (hreading : reading s = true) (hstream : s.stream = []) (hends : src.ends = true) :
      Effect forbidden src s .sourceEnd { s with ended := true }
  | line (phase : BuildPhase) (line rest : Bytes) (hscanning : s.goroutine = .scanning)
      (hline : nextLine s = some (line, rest)) :
      Effect forbidden src s (.line phase)
        { s with
          buf := rest
          goroutine := .writing (emit forbidden phase s.dots line).2.1
          dots := (emit forbidden phase s.dots line).2.2
          emitted := s.emitted ++ [⟨phase, line, (emit forbidden phase s.dots line).1,
            (emit forbidden phase s.dots line).2.1⟩] }
  | finish (hscanning : s.goroutine = .scanning) (hline : nextLine s = none)
      (hdone : s.ended = true ∨ maxScanTokenSize ≤ s.buf.length) :
      Effect forbidden src s .finish { s with goroutine := .gone }
  | recv (size : Nat) (data : Bytes) (hwriting : s.goroutine = .writing data) (hpos : 1 ≤ size) :
      Effect forbidden src s (.recv size)
        { s with
          goroutine := if data.drop size = [] then .scanning else .writing (data.drop size)
          delivered := s.delivered ++ data.take size }
  | eof (hclosed : s.pipeClosed = true) (hended : s.readerEnded = false) :
      Effect forbidden src s .eof { s with readerEnded := true }

/-- All that a step can do. -/
theorem effect_of_step (h : step forbidden src s a = some s') : Effect forbidden src s a s' := by
  cases a with
  | read n =>
      simp only [step] at h
      split_ifs at h with hok
      rw [← Option.some.inj h]
      exact .read n hok.1 hok.2.1 hok.2.2.1 hok.2.2.2
  | sourceEnd =>
      simp only [step] at h
      split_ifs at h with hok
      rw [← Option.some.inj h]
      exact .sourceEnd hok.1 hok.2.1 hok.2.2
  | line phase =>
      simp only [step] at h
      split at h
      · next line rest hscanning hline =>
          rw [← Option.some.inj h]
          exact .line phase line rest hscanning hline
      · exact absurd h nofun
  | finish =>
      simp only [step] at h
      split_ifs at h with hok
      rw [← Option.some.inj h]
      exact .finish hok.1 hok.2.1 hok.2.2
  | recv size =>
      simp only [step] at h
      split at h
      · next data hwriting =>
          rw [Option.ite_none_right_eq_some, Option.some.injEq] at h
          rw [← h.2]
          exact .recv size data hwriting h.1.1
      · exact absurd h nofun
  | eof =>
      simp only [step] at h
      split_ifs at h with hok
      rw [← Option.some.inj h]
      exact .eof hok.1 hok.2

/-- Where the next line is in the buffer. -/
theorem of_nextLine_eq_some {line rest : Bytes} (h : nextLine s = some (line, rest)) :
    ∃ raw, bytes.newline ∉ raw ∧ line = dropCR bytes raw ∧
      (s.buf = raw ++ bytes.newline :: rest ∨
        s.ended = true ∧ raw ≠ [] ∧ s.buf = raw ∧ rest = []) := by
  unfold nextLine at h
  cases hcut : cutLine bytes s.buf with
  | some pair =>
      rw [hcut, Option.some.injEq, Prod.mk.injEq] at h
      rcases cutLine_eq_some_iff.mp hcut with ⟨hbuf, hmem⟩
      exact ⟨pair.1, hmem, h.1.symm, Or.inl (h.2 ▸ hbuf)⟩
  | none =>
      rw [hcut] at h
      simp only at h
      split_ifs at h with hend
      rw [Option.some.injEq, Prod.mk.injEq] at h
      exact ⟨s.buf, cutLine_eq_none_iff.mp hcut, h.1.symm, Or.inr ⟨hend.1, hend.2, rfl, h.2.symm⟩⟩

/-- If no line can be read the buffer holds the beginning of one. -/
theorem of_nextLine_eq_none (h : nextLine s = none) :
    bytes.newline ∉ s.buf ∧ (s.ended = true → s.buf = []) := by
  unfold nextLine at h
  cases hcut : cutLine bytes s.buf with
  | some pair =>
      rw [hcut] at h
      exact absurd h nofun
  | none =>
      rw [hcut] at h
      simp only at h
      split_ifs at h with hend
      refine ⟨cutLine_eq_none_iff.mp hcut, fun hended => ?_⟩
      by_contra hne
      exact hend ⟨hended, hne⟩

theorem reading_iff : reading s = true ↔ s.goroutine = .scanning ∧ nextLine s = none ∧
    s.ended = false ∧ s.buf.length < maxScanTokenSize := by
  rw [reading, decide_eq_true_eq]

/-! ## The invariant -/

/-- What the goroutine has still to write. -/
def pending (s : Censor) : Bytes :=
  match s.goroutine with
  | .writing data => data
  | _ => []

/-- The lines that the scanner will still find. -/
def linesLeft (src : Source) (s : Censor) : List Bytes :=
  if s.goroutine = .gone then [] else (scan bytes src.ends [] (s.buf ++ s.stream)).1

/-- The lines are those of the log, each is what the censor makes of it, and what was written has
    been delivered or will be. Nobody has come to the end. -/
structure Inv (forbidden : List Bytes) (src : Source) (s : Censor) : Prop where
  lines : s.emitted.map Emitted.line ++ linesLeft src s = (scan bytes src.ends [] src.log).1
  ended : s.ended = true → s.stream = [] ∧ src.ends = true ∧ s.buf.length < maxScanTokenSize
  buffer : s.buf.length ≤ maxScanTokenSize
  texts : ∀ e ∈ s.emitted, e.phase = .base → e.text = censor forbidden e.line
  written : s.delivered ++ pending s = s.emitted.flatMap Emitted.data
  writes : ∀ data, s.goroutine = .writing data → data ≠ []
  closed : s.pipeClosed = false ∧ s.readerEnded = false

theorem inv_start (forbidden : List Bytes) (src : Source) : Inv forbidden src (start src) where
  lines := rfl
  ended h := absurd h nofun
  buffer := Nat.zero_le _
  texts _ h := absurd h List.not_mem_nil
  written := rfl
  writes _ h := absurd h nofun
  closed := ⟨rfl, rfl⟩

theorem weight_bytes (bs : Bytes) : bytes.weight bs = bs.length := by
  induction bs with
  | nil => rfl
  | cons b bs ih =>
      rw [weight_cons, ih, List.length_cons, Nat.add_comm]
      rfl

/-- What is still to come are the lines of what was not read yet. -/
theorem linesLeft_scanning (h : s.goroutine ≠ .gone) :
    linesLeft src s = (scan bytes src.ends [] (s.buf ++ s.stream)).1 := by
  unfold linesLeft
  rw [if_neg h]

/-- The line that is found is the next one. -/
theorem linesLeft_line {line rest : Bytes} (hs : Inv forbidden src s)
    (hscanning : s.goroutine = .scanning) (hline : nextLine s = some (line, rest)) :
    linesLeft src s = line :: (scan bytes src.ends [] (rest ++ s.stream)).1 := by
  rw [linesLeft_scanning (by rw [hscanning]; exact nofun)]
  rcases of_nextLine_eq_some hline with ⟨raw, hmem, rfl, hbuf | ⟨hended, hne, hbuf, rfl⟩⟩
  · have hfits : bytes.weight ([] ++ raw) < maxScanTokenSize := by
      have hlen := hs.buffer
      rw [hbuf, List.length_append, List.length_cons] at hlen
      rw [List.nil_append, weight_bytes]
      omega
    rw [hbuf, List.append_assoc, List.cons_append, scan_line _ _ hmem hfits, List.nil_append]
  · rcases hs.ended hended with ⟨hstream, hends, hlen⟩
    have hfits : bytes.weight raw < maxScanTokenSize := by
      rw [weight_bytes, ← hbuf]
      exact hlen
    rw [hbuf, hstream, List.append_nil, List.append_nil, scan_rest _ hmem hfits, scan,
      if_pos ⟨hends, hne⟩, if_neg fun h => h.2 rfl]

/-- Where the scanner is done it would find no more lines. -/
theorem linesLeft_finish (hscanning : s.goroutine = .scanning)
    (hline : nextLine s = none) (hs : Inv forbidden src s)
    (hdone : s.ended = true ∨ maxScanTokenSize ≤ s.buf.length) : linesLeft src s = [] := by
  rcases of_nextLine_eq_none hline with ⟨hmem, hempty⟩
  rw [linesLeft_scanning (by rw [hscanning]; exact nofun)]
  rcases hdone with hended | hfull
  · rw [hempty hended, (hs.ended hended).1, List.append_nil, scan, if_neg fun h => h.2 rfl]
  · have hweight : maxScanTokenSize ≤ bytes.weight ([] ++ s.buf) := by
      rw [List.nil_append, weight_bytes]
      exact hfull
    rw [scan_full _ _ hmem (by rw [weight_nil]; decide) hweight]

theorem emit_base (phase : BuildPhase) (dots : Nat) (line : Bytes) (hphase : phase = .base) :
    (emit forbidden phase dots line).1 = censor forbidden line := by
  unfold emit
  rw [if_neg]
  rintro ⟨hworkspace, -⟩
  rw [hphase] at hworkspace
  exact absurd hworkspace nofun

/-- A line always gives something to read, which is at most a little longer. -/
theorem emit_data (phase : BuildPhase) (dots : Nat) (line : Bytes) :
    (emit forbidden phase dots line).2.1 ≠ [] ∧
      (emit forbidden phase dots line).2.1.length ≤ line.length + 2 := by
  unfold emit
  split_ifs
  · exact ⟨List.cons_ne_nil _ _, Nat.le_add_left 2 _⟩
  · exact ⟨List.cons_ne_nil _ _, Nat.le_add_left 1 _⟩
  · refine ⟨List.append_ne_nil_of_right_ne_nil _ (List.cons_ne_nil _ _), ?_⟩
    have hle := length_censor_le forbidden line
    rw [List.length_append, List.length_singleton]
    omega

/-- One case for each effect. -/
theorem inv_step (hs : Inv forbidden src s) (h : step forbidden src s a = some s') :
    Inv forbidden src s' := by
  cases effect_of_step h with
  | read n hreading hpos hle hroom =>
      rcases reading_iff.mp hreading with ⟨hscanning, -, hended, -⟩
      refine ⟨?_, fun h => absurd h (by simp only [hended, Bool.false_eq_true, not_false_eq_true]),
        ?_, hs.texts, hs.written, hs.writes, hs.closed⟩
      · -- what is read goes from the stream to the buffer
        rw [← hs.lines]
        unfold linesLeft
        simp only [List.append_assoc, List.take_append_drop]
      · rw [List.length_append, List.length_take, Nat.min_eq_left hle]
        exact hroom
  | sourceEnd hreading hstream hends =>
      rcases reading_iff.mp hreading with ⟨-, -, -, hlen⟩
      -- From now on, what is in the buffer is all that comes.
      exact ⟨hs.lines, fun _ => ⟨hstream, hends, hlen⟩, hs.buffer, hs.texts, hs.written, hs.writes,
        hs.closed⟩
  | line phase line rest hscanning hline =>
      have hrest : rest.length ≤ s.buf.length := by
        rcases of_nextLine_eq_some hline with ⟨raw, -, -, hbuf | ⟨-, -, -, rfl⟩⟩
        · rw [hbuf, List.length_append, List.length_cons]
          omega
        · exact Nat.zero_le _
      refine ⟨?_, fun h => ?_, hrest.trans hs.buffer, ?_, ?_, ?_, hs.closed⟩
      · -- The line leaves the buffer and is emitted.
        rw [← hs.lines, linesLeft_line hs hscanning hline, List.map_append, List.append_assoc]
        rfl
      · rcases hs.ended h with ⟨hstream, hends, hlen⟩
        exact ⟨hstream, hends, Nat.lt_of_le_of_lt hrest hlen⟩
      · intro e he hphase
        rcases List.mem_append.mp he with he | he
        · exact hs.texts e he hphase
        · rw [List.mem_singleton] at he
          subst he
          -- What is written for a line follows from its phase and the dots so far.
          exact emit_base phase s.dots line hphase
      · have hwritten := hs.written
        unfold pending at hwritten
        rw [hscanning, List.append_nil] at hwritten
        rw [List.flatMap_append, ← hwritten]
        exact congrArg (s.delivered ++ ·) (List.append_nil _).symm
      · rintro data hdata
        rw [← Goroutine.writing.inj hdata]
        exact (emit_data phase s.dots line).1
  | finish hscanning hline hdone =>
      refine ⟨?_, hs.ended, hs.buffer, hs.texts, ?_, fun _ h => absurd h nofun, hs.closed⟩
      · have hlines := hs.lines
        rw [linesLeft_finish hscanning hline hs hdone] at hlines
        exact hlines
      · have hwritten := hs.written
        unfold pending at hwritten
        rw [hscanning] at hwritten
        exact hwritten
  | recv size data hwriting hpos =>
      have hwritten := hs.written
      have hlines := hs.lines
      rw [linesLeft_scanning (by rw [hwriting]; exact nofun)] at hlines
      unfold pending at hwritten
      rw [hwriting] at hwritten
      refine ⟨?_, hs.ended, hs.buffer, hs.texts, ?_, ?_, hs.closed⟩
      · rw [linesLeft_scanning]
        · exact hlines
        · dsimp only
          split_ifs <;> exact nofun
      · rw [← hwritten]
        unfold pending
        dsimp only
        -- what is received and what is left of it are what was written
        by_cases hempty : data.drop size = []
        · have htake := List.take_append_drop size data
          rw [hempty, List.append_nil] at htake
          rw [if_pos hempty, htake, List.append_nil]
        · rw [if_neg hempty, List.append_assoc]
          exact congrArg (s.delivered ++ ·) (List.take_append_drop size data)
      · intro data' hdata'
        dsimp only at hdata'
        split_ifs at hdata' with hempty
        rw [← Goroutine.writing.inj hdata']
        exact hempty
  | eof hclosed hended =>
      -- The channel is not closed while someone writes to it.
      rw [hs.closed.1] at hclosed
      exact absurd hclosed nofun

theorem inv_of_reaches {ok : Censor → Action → Prop}
    (h : ReachesWithin (step forbidden src) ok (start src) s) : Inv forbidden src s :=
  invariant_of_reachesWithin (fun _ _ _ _ hs _ h => inv_step hs h) h (inv_start forbidden src)

/-! ## Runs that come to an end -/

/-- What is read, scanned and written gets less. -/
def measure (s : Censor) : Nat :=
  5 * s.stream.length + 4 * s.buf.length + (pending s).length + (if s.ended then 0 else 1) +
    (if s.goroutine = .gone then 0 else 1) + (if s.readerEnded then 0 else 1)

/-- Every step brings the censor nearer to its end, so a run gets there. -/
theorem measure_step (hs : Inv forbidden src s) (h : step forbidden src s a = some s') :
    measure s' < measure s := by
  cases effect_of_step h with
  | read n hreading hpos hle hroom =>
      have hlen : (s.stream.drop n).length = s.stream.length - n := List.length_drop
      unfold measure pending
      dsimp only
      rw [List.length_append, List.length_take, hlen, Nat.min_eq_left hle]
      omega
  | sourceEnd hreading hstream hends =>
      rcases reading_iff.mp hreading with ⟨-, -, hended, -⟩
      unfold measure pending
      dsimp only
      rw [hended, if_pos rfl, if_neg Bool.false_ne_true]
      omega
  | line phase line rest hscanning hline =>
      have hdata : (emit forbidden phase s.dots line).2.1.length ≤ line.length + 2 :=
        (emit_data phase s.dots line).2
      unfold measure pending
      simp only [hscanning, reduceCtorEq, if_false, List.length_nil]
      -- a line is written with two bytes more at most, and it was in the buffer
      rcases of_nextLine_eq_some hline with ⟨raw, -, rfl, hbuf | ⟨-, hne, hbuf, rfl⟩⟩
      · have hdrop := length_dropCR_le (A := bytes) raw
        rw [hbuf, List.length_append, List.length_cons]
        omega
      · have hdrop := length_dropCR_le (A := bytes) raw
        have hpos := List.length_pos_of_ne_nil hne
        rw [hbuf, List.length_nil]
        omega
  | finish hscanning hline hdone =>
      unfold measure pending
      simp only [hscanning, reduceCtorEq, if_false, if_true]
      omega
  | recv size data hwriting hpos =>
      have hsize : (data.drop size).length = data.length - size := List.length_drop
      have hne := List.length_pos_of_ne_nil (hs.writes data hwriting)
      unfold measure pending
      by_cases hempty : data.drop size = []
      · simp only [hwriting, hempty, reduceCtorEq, if_false, if_true, List.length_nil]
        omega
      · simp only [hwriting, hempty, reduceCtorEq, if_false]
        omega
  | eof hclosed hended =>
      unfold measure pending
      dsimp only
      rw [hended, if_pos rfl, if_neg Bool.false_ne_true]
      omega

/-- Where nothing can happen in the base phase the scanner has found all lines of the log. -/
theorem lines_of_stuck (hs : Inv forbidden src s)
    (hstuck : ∀ a, a ≠ .line .workspace → step forbidden src s a = none) :
    s.emitted.map Emitted.line = (scan bytes src.ends [] src.log).1 ∧ pending s = [] := by
  have hlines := hs.lines
  cases hgoroutine : s.goroutine with
  | gone =>
      unfold linesLeft at hlines
      rw [hgoroutine, if_pos rfl, List.append_nil] at hlines
      refine ⟨hlines, ?_⟩
      unfold pending
      rw [hgoroutine]
  | writing data =>
      have hrecv := hstuck (.recv 1) nofun
      simp only [step, hgoroutine, hs.closed.2, le_refl, and_self, if_true, reduceCtorEq] at hrecv
  | scanning =>
      unfold pending
      rw [hgoroutine]
      refine ⟨?_, rfl⟩
      cases hline : nextLine s with
      | some pair =>
          have hbase := hstuck (.line .base) nofun
          simp only [step, hgoroutine, hline, reduceCtorEq] at hbase
      | none =>
          have hfinish := hstuck .finish nofun
          simp only [step, hgoroutine, hline, true_and, reduceCtorEq, ite_eq_right_iff, imp_false,
            not_or, Bool.not_eq_true, Nat.not_le] at hfinish
          have hreading : reading s = true := reading_iff.mpr ⟨hgoroutine, hline, hfinish⟩
          have hread := hstuck (.read 1) nofun
          have hend := hstuck .sourceEnd nofun
          simp only [step, hreading, true_and, le_refl, ite_eq_right_iff, reduceCtorEq, imp_false,
            not_and, Nat.not_le] at hread hend
          -- there is nothing to read, and the log has not come to an end
          have hstream : s.stream = [] := by
            by_contra hne
            have hpos := List.length_pos_of_ne_nil hne
            have hroom := hread hpos
            omega
          have hopen : src.ends = false := Bool.eq_false_iff.mpr (hend hstream)
          have hmem := (of_nextLine_eq_none hline).1
          have hfits : bytes.weight s.buf < maxScanTokenSize := by
            rw [weight_bytes]
            exact hfinish.2
          rw [linesLeft_scanning (by rw [hgoroutine]; exact nofun), hstream, List.append_nil,
            scan_rest _ hmem hfits, if_neg (fun h => by rw [hopen] at h; exact absurd h.1 nofun),
            List.append_nil] at hlines
          exact hlines

/-- The build may be in the base phase all the time. -/
theorem exists_stuck_base (forbidden : List Bytes) (src : Source) :
    ∃ s, ReachesWithin (step forbidden src) (fun _ a => a ≠ .line .workspace) (start src) s ∧
      ∀ a, a ≠ .line .workspace → step forbidden src s a = none :=
  exists_stuck measure (fun _ _ _ hs _ h => ⟨inv_step hs h, measure_step hs h⟩)
    (inv_start forbidden src)

/-- In a run of the first phase all lines are of that phase. -/
theorem phases_of_base
    (h : ReachesWithin (step forbidden src) (fun _ a => a ≠ .line .workspace) (start src) s) :
    ∀ e ∈ s.emitted, e.phase = .base := by
  refine @invariant_of_reachesWithin _ _ _ _ (fun s => ∀ e ∈ s.emitted, e.phase = .base) _ _
    (fun s s' a _ hs hok hstep => ?_) h (fun _ h => absurd h List.not_mem_nil)
  cases effect_of_step hstep with
  | line phase line rest hscanning hline =>
      intro e he
      rcases List.mem_append.mp he with he | he
      · exact hs e he
      · rw [List.mem_singleton] at he
        subst he
        cases phase with
        | base => rfl
        | workspace => exact absurd rfl hok
  | read | sourceEnd | finish | recv | eof => exact hs

/-! ## When the censor does what it should -/

/-- The lines that are emitted in the base phase are clean exactly if each line of the log stays
    clean. -/
theorem censors_iff (forbidden : List Bytes) (src : Source) : Censors forbidden src ↔
    ∀ line ∈ (scan bytes src.ends [] src.log).1, StaysClean forbidden line := by
  constructor
  · intro h line hline
    rcases exists_stuck_base forbidden src with ⟨s, hreach, hstuck⟩
    have hs := inv_of_reaches hreach
    have hphase := phases_of_base hreach
    rw [← (lines_of_stuck hs hstuck).1] at hline
    rcases List.mem_map.mp hline with ⟨e, he, rfl⟩
    rw [staysClean_iff, ← hs.texts e he (hphase e he)]
    exact h s (reachesWithin_mono (fun _ _ _ => trivial) hreach) e he (hphase e he)
  · intro h s hreach e he hphase
    have hs := inv_of_reaches hreach
    rw [hs.texts e he hphase]
    refine staysClean_iff.mp (h e.line ?_)
    -- what has been found so far is the beginning of all lines
    rw [← hs.lines]
    exact List.mem_append_left _ (List.mem_map_of_mem he)

/-- Whatever the log is, who listens waits for the pipe in the end. All that was found has been
    delivered by then. -/
theorem waits_of_stuck (hs : Inv forbidden src s) (hstuck : ∀ a, step forbidden src s a = none) :
    s.readerEnded = false ∧ s.delivered = s.emitted.flatMap Emitted.data ∧
      s.emitted.map Emitted.line = (scan bytes src.ends [] src.log).1 := by
  rcases lines_of_stuck hs fun a _ => hstuck a with ⟨hlines, hpending⟩
  have hwritten := hs.written
  rw [hpending, List.append_nil] at hwritten
  exact ⟨hs.closed.2, hwritten, hlines⟩

/-- When the log comes to an end, who listens does not. -/
theorem ends_iff (forbidden : List Bytes) (src : Source) :
    Ends forbidden src ↔ src.ends = false := by
  constructor
  · intro h
    by_contra hends
    obtain ⟨s, hreach, hstuck⟩ : ∃ s, ReachesWithin (step forbidden src) (fun _ _ => True)
        (start src) s ∧ ∀ a, True → step forbidden src s a = none :=
      exists_stuck measure (fun _ _ _ hs _ h => ⟨inv_step hs h, measure_step hs h⟩)
        (inv_start forbidden src)
    have hstuck : ∀ a, step forbidden src s a = none := fun a => hstuck a trivial
    have hended := (h (Bool.not_eq_false _ ▸ hends) s hreach hstuck).1
    have hwaits := (waits_of_stuck (inv_of_reaches hreach) hstuck).1
    exact absurd (hended.symm.trans hwaits) nofun
  · intro h hends
    rw [h] at hends
    exact absurd hends nofun

/-- The censor does what it should exactly as long as the log does not end and all its lines
    stay clean. What is forbidden are the credentials of the registries, which a build may
    print. They are cut out in one pass, so what comes together on both sides of a cut is not
    looked at again. -/
theorem censors_and_ends_iff (forbidden : List Bytes) (src : Source) :
    Censors forbidden src ∧ Ends forbidden src ↔
      src.ends = false ∧
        ∀ line ∈ (scan bytes src.ends [] src.log).1, StaysClean forbidden line := by
  rw [censors_iff, ends_iff, and_comm]

/-- Of `aabb` the string `ab` is cut out, and `ab` is left. -/
theorem rejoined : ¬ Censors [[97, 98]] ⟨[97, 97, 98, 98, 10], true⟩ ∧
    ¬ Ends [[97, 98]] ⟨[97, 97, 98, 98, 10], true⟩ := by
  constructor
  · rw [censors_iff]
    intro h
    have hclean := staysClean_iff.mp (h [97, 97, 98, 98] (by decide))
    exact hclean [97, 98] (by decide) (by decide)
  · rw [ends_iff]
    exact nofun

end Steps

end LogCensor

end ImageBuilder

end Nxpod
