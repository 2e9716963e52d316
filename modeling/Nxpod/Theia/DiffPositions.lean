import Mathlib.Algebra.GroupWithZero.Nat
import Mathlib.Data.List.Induction
import Mathlib.Data.List.TakeWhile
import Mathlib.Tactic.Common
import Nxpod.Library.Map
import Nxpod.Library.Numbering

/-!
# Positions in a Patch

A comment on a pull request is at a position in the patch of a file: the distance from the first
header of a hunk, where the later headers count as lines. From the hunks of a patch, the lines of
the original and of the modified file get their positions, and are found by them.

For a line of a hunk the lines of the patch are counted, up to the one that shows it. A shortcut
is there for files that are new: all lines are added, from the first one on, and the position is
the number of the line. It is taken for all hunks that only add lines. Such a hunk may be anywhere
in a patch, and then a line number is not a position.

## Main definitions

* `Kind`: Which of the two files.
* `Hunk`: A hunk as one of the two files sees it.
* `Line`: What is known about a line of a file.
* `GitHubFile`: Lines are known by their numbers.
* `pushHunk`, `pushHunkCompleteFileAdded`: The two ways to take a hunk.
* `Files`: The files of a patch, and the position behind what has been taken of it.
* `pushHunks`: The hunks of a patch.
* `rows`: What a patch shows of a file.
* `WellFormed`: Patches.
* `Positioned`: The positions are as they should be.
* `Aligned`: The condition on a patch.
* `Inv`: The positions of a file are those of the rows.

## Theorems

* `diffPosition_computeDiffLine_iff`: The position of a line of a hunk.
* `pushHunk_eq`, `pushHunkCompleteFileAdded_eq`: What a hunk does to a file.
* `inv_pushHunks`: What a patch does.
* `positioned_iff`: When the positions are as they should be.
-/

namespace Nxpod

namespace Theia

namespace DiffPositions

open Numbered

/-! ## Files -/

/-- What a line of a patch does. -/
inductive DiffOperation
  | added
  | deleted
  | unchanged
  deriving DecidableEq

/-- The first character of a line says what it does. -/
def DiffOperation.of : Option Char → Option DiffOperation
  | some '+' => some .added
  | some '-' => some .deleted
  | some ' ' => some .unchanged
  | _ => none

/-- What the first character of a line in a hunk stands for. -/
def operationOf (content : String) : Option DiffOperation :=
  DiffOperation.of content.toList.head?

/-- Which of the two files. -/
inductive Kind
  | original
  | modified
  deriving DecidableEq

/-- The operation on lines that the file does not have. -/
def Kind.hidden : Kind → DiffOperation
  | .original => .added
  | .modified => .deleted

/-- A hunk as one of the two files sees it. -/
structure Hunk where
  diffPosition : Nat
  start : Nat
  length : Nat
  lines : List String
  deriving DecidableEq

/-- A line of the patch with its position. -/
structure DiffLine where
  position : Nat
  content : Option String
  operation : DiffOperation
  deriving DecidableEq

/-- What is known about a line of a file. -/
structure Line where
  hunk : Option Hunk
  diffLine : Option DiffLine
  deriving DecidableEq

/-- The position of the line, if it is shown in the patch. -/
def Line.diffPosition (line : Line) : Option Nat :=
  line.diffLine.map DiffLine.position

/-- Lines are known by their numbers. -/
structure GitHubFile where
  kind : Kind
  lines : Map Nat Line
  diffPositions : Map Nat Nat

namespace GitHubFile

/-- A file without any hunk. -/
def new (kind : Kind) : GitHubFile := ⟨kind, ∅, ∅⟩

/-- The loop over the lines of a hunk. -/
def computeFrom (withContent : Bool) (kind : Kind) : List String → Nat → Int → Option DiffLine
  | [], _, _ => none
  | content :: rest, position, lines => match operationOf content with
    | some operation =>
        let lines := if operation = kind.hidden then lines else lines - 1
        if lines = 0 then some ⟨position, if withContent then some content else none, operation⟩
        else computeFrom withContent kind rest (position + 1) lines
    | none => computeFrom withContent kind rest (position + 1) lines

/-- The line of the patch for a line of the file, counted from the beginning of the hunk. -/
def computeDiffLine (withContent : Bool) (kind : Kind) (lineNumber : Nat) (hunk : Hunk) :
    Option DiffLine :=
  computeFrom withContent kind hunk.lines hunk.diffPosition ((lineNumber : Int) - hunk.start + 1)

/-- What is known about a line already. -/
def obtain (file : GitHubFile) (lineNumber : Nat) : Line :=
  (file.lines.lookup lineNumber).getD ⟨none, none⟩

/-- A line keeps the first hunk that it gets. -/
def setHunk (withContent : Bool) (kind : Kind) (lineNumber : Nat) (hunk : Hunk) (line : Line) :
    Line :=
  if line.hunk.isSome then line
  else ⟨some hunk, computeDiffLine withContent kind lineNumber hunk⟩

/-- A line gets its hunk and its position, under which it can be found. -/
def pushLine (withContent : Bool) (hunk : Hunk) (file : GitHubFile) (lineNumber : Nat) :
    GitHubFile :=
  let line := setHunk withContent file.kind lineNumber hunk (file.obtain lineNumber)
  { file with
    lines := file.lines.insert lineNumber line
    diffPositions := match line.diffPosition with
      | none | some 0 => file.diffPositions
      | some position => file.diffPositions.insert position lineNumber }

def pushHunk (withContent : Bool) (file : GitHubFile) (hunk : Hunk) : GitHubFile :=
  (List.range' hunk.start hunk.length).foldl (pushLine withContent hunk) file

/-- A shortcut for completely new files that avoids the costly computation of diff positions. -/
def pushHunkCompleteFileAdded (file : GitHubFile) (hunk : Hunk) : GitHubFile :=
  (List.range' hunk.start hunk.length).foldl (fun file lineNumber => { file with
    lines := file.lines.insert lineNumber ⟨some hunk, some ⟨lineNumber, none, .added⟩⟩
    diffPositions := file.diffPositions.insert lineNumber lineNumber }) file

/-- The line at a position. -/
def findByDiffPosition (file : GitHubFile) (diffPosition : Nat) : Option Nat :=
  file.diffPositions.lookup diffPosition

/-- The position of a line. -/
def diffPosition (file : GitHubFile) (lineNumber : Nat) : Option Nat :=
  (file.lines.lookup lineNumber).bind Line.diffPosition

end GitHubFile

/-! ## Patches -/

/-- A hunk as it is parsed. -/
structure IHunk where
  oldStart : Nat
  oldLines : Nat
  newStart : Nat
  newLines : Nat
  lines : List String
  deriving DecidableEq

/-- The hunk for one of the two files. -/
def IHunk.toHunk (hunk : IHunk) (diffPosition : Nat) : Kind → Hunk
  | .original => ⟨diffPosition, hunk.oldStart, hunk.oldLines, hunk.lines⟩
  | .modified => ⟨diffPosition, hunk.newStart, hunk.newLines, hunk.lines⟩

/-- The files of a patch, and the position behind what has been taken of it. -/
structure Files where
  original : GitHubFile
  modified : GitHubFile
  diffPosition : Nat

/-- One of the two files. -/
def Files.file (files : Files) : Kind → GitHubFile
  | .original => files.original
  | .modified => files.modified

/-- No hunk was pushed yet. -/
def Files.new : Files := ⟨.new .original, .new .modified, 1⟩

def pushHunk (withContent : Bool) (files : Files) (hunk : IHunk) : Files where
  original := files.original.pushHunk withContent (hunk.toHunk files.diffPosition .original)
  modified :=
    let added := hunk.toHunk files.diffPosition .modified
    -- an optimization for files that are completely new
    if hunk.oldLines = 0 ∧ hunk.newLines ≠ 0 then files.modified.pushHunkCompleteFileAdded added
    else files.modified.pushHunk withContent added
  diffPosition := files.diffPosition + hunk.lines.length + 1

/-- All hunks, in their order. -/
def pushHunks (withContent : Bool) (files : Files) (hunks : List IHunk) : Files :=
  hunks.foldl (pushHunk withContent) files

/-- `diffs` is what a patch is parsed to. -/
def pushPatch (withContent : Bool) (files : Files) (diffs : List (List IHunk)) : Files :=
  diffs.foldl (pushHunks withContent) files

/-- A patch in several diffs is the patch of all their hunks. -/
theorem pushPatch_eq (withContent : Bool) (files : Files) (diffs : List (List IHunk)) :
    pushPatch withContent files diffs = pushHunks withContent files diffs.flatten := by
  unfold pushPatch pushHunks
  exact List.foldl_flatten.symm

/-! ## What a patch shows -/

/-- A line in a hunk that shows one of the file. -/
def shows (kind : Kind) (content : String) : Bool :=
  match operationOf content with
  | some operation => operation ≠ kind.hidden
  | none => false

/-- Where a hunk begins in one of the files. -/
def IHunk.start (hunk : IHunk) : Kind → Nat
  | .original => hunk.oldStart
  | .modified => hunk.newStart

/-- How many lines of one of the files it has. -/
def IHunk.length (hunk : IHunk) : Kind → Nat
  | .original => hunk.oldLines
  | .modified => hunk.newLines

/-- For every line of a hunk, its header included, the number of the line of the file that it
    shows. -/
def hunkRows (kind : Kind) (hunk : IHunk) : List (Option Nat) :=
  none :: number (shows kind) (hunk.start kind) hunk.lines

/-- What is shown of one of the files, line by line of the patch. -/
def rows (kind : Kind) (hunks : List IHunk) : List (Option Nat) :=
  hunks.flatMap (hunkRows kind)

/-- The lines are as many as the header says. What shows no line is a mark at the end of a file,
    behind its last line. -/
structure IHunk.WellFormed (hunk : IHunk) : Prop where
  counts : ∀ kind, hunk.length kind = hunk.lines.countP (shows kind)
  marks : ∀ front mark rest, hunk.lines = front ++ mark :: rest → operationOf mark = none →
    ∃ kind last, front.getLast? = some last ∧ shows kind last ∧
      ∀ content ∈ rest, ¬shows kind content

/-- The hunks of a patch are in the order of the lines, and have none in common. -/
structure WellFormed (hunks : List IHunk) : Prop where
  hunk : ∀ hunk ∈ hunks, hunk.WellFormed
  apart : hunks.Pairwise fun hunk next => ∀ kind, hunk.length kind ≠ 0 → next.length kind ≠ 0 →
    hunk.start kind + hunk.length kind ≤ next.start kind

/-- The position of the first line behind some hunks and one more header. -/
def positionAfter (hunks : List IHunk) : Nat :=
  (hunks.map fun hunk => hunk.lines.length + 1).sum + 1

/-- Positions are the distances in the patch, lines are found by them, and the shortcut makes no
    difference. -/
structure Positioned (withContent : Bool) (hunks : List IHunk) : Prop where
  /-- A line has a position exactly if it is shown there. -/
  distance : ∀ kind lineNumber position,
    ((pushHunks withContent .new hunks).file kind).diffPosition lineNumber = some position ↔
      (rows kind hunks)[position]? = some (some lineNumber)
  /-- A line is found at its position, and nowhere else. -/
  found : ∀ kind position lineNumber,
    ((pushHunks withContent .new hunks).file kind).findByDiffPosition position = some lineNumber ↔
      ((pushHunks withContent .new hunks).file kind).diffPosition lineNumber = some position
  /-- The shortcut makes no difference. -/
  shortcut : ∀ before hunk after, hunks = before ++ hunk :: after → hunk.oldLines = 0 →
    ∀ lineNumber,
      ((pushHunks withContent .new before).modified.pushHunkCompleteFileAdded
          (hunk.toHunk (positionAfter before) .modified)).diffPosition lineNumber =
        ((pushHunks withContent .new before).modified.pushHunk withContent
          (hunk.toHunk (positionAfter before) .modified)).diffPosition lineNumber

/-- What only adds lines begins with the line whose number is its position. -/
def Aligned (hunks : List IHunk) : Prop :=
  ∀ before hunk after, hunks = before ++ hunk :: after → hunk.oldLines = 0 → hunk.newLines ≠ 0 →
    hunk.newStart = positionAfter before

/-! ## A line of a hunk -/

section Lines

variable {withContent : Bool} {kind : Kind} {content : String}

/-- A line is shown unless it is one of the other file. -/
theorem shows_of_some {operation : DiffOperation} (h : operationOf content = some operation) :
    shows kind content = decide (operation ≠ kind.hidden) := by
  rw [shows, h]

theorem shows_of_none (h : operationOf content = none) : shows kind content = false := by
  rw [shows, h]

/-- A number that is not at the head of a list is further on. -/
theorem exists_succ_iff {position p n : Nat} {o : Option Nat} {rest : List (Option Nat)}
    (h : o ≠ some n) :
    (∃ i, p = position + i ∧ (o :: rest)[i]? = some (some n)) ↔
      ∃ i, p = position + 1 + i ∧ rest[i]? = some (some n) := by
  constructor
  · rintro ⟨i, rfl, hi⟩
    cases i with
    | zero =>
        rw [List.getElem?_cons_zero, Option.some.injEq] at hi
        exact absurd hi h
    | succ i =>
        rw [List.getElem?_cons_succ] at hi
        exact ⟨i, by omega, hi⟩
  · rintro ⟨i, rfl, hi⟩
    exact ⟨i + 1, by omega, hi⟩

/-- The loop ends at the line of the hunk that shows the line in question. -/
theorem computeFrom_iff {contents : List String} {position first lineNumber p : Nat}
    (h : first ≤ lineNumber) :
    (GitHubFile.computeFrom withContent kind contents position
        ((lineNumber : Int) - first + 1)).map DiffLine.position = some p ↔
      ∃ i, p = position + i ∧
        (number (shows kind) first contents)[i]? = some (some lineNumber) := by
  induction contents generalizing position first with
  | nil =>
      refine iff_of_false nofun ?_
      rintro ⟨i, -, hi⟩
      exact nomatch hi
  | cons content contents ih =>
      unfold GitHubFile.computeFrom
      cases hop : operationOf content with
      | none =>
          have hneg : ¬shows kind content = true := by
            rw [shows_of_none hop]
            exact Bool.false_ne_true
          rw [number_cons_of_neg hneg, exists_succ_iff (o := none) nofun]
          exact ih h
      | some operation =>
          dsimp only
          by_cases hhidden : operation = kind.hidden
          · have hneg : ¬shows kind content = true := by
              rw [shows_of_some hop, decide_eq_true_iff]
              exact fun hne => hne hhidden
            rw [number_cons_of_neg hneg, exists_succ_iff (o := none) nofun, if_pos hhidden,
              if_neg (by omega)]
            exact ih h
          · have hpos : shows kind content = true := by
              rw [shows_of_some hop]
              exact decide_eq_true hhidden
            rw [number_cons_of_pos hpos, if_neg hhidden]
            by_cases hfirst : first = lineNumber
            · rw [hfirst, if_pos (by omega), Option.map_some, Option.some.injEq]
              constructor
              · rintro rfl
                exact ⟨0, rfl, rfl⟩
              · rintro ⟨i, rfl, hi⟩
                cases i with
                | zero => rfl
                | succ i =>
                    -- the numbers behind are larger
                    have hle := le_of_getElem?_number (List.getElem?_cons_succ ▸ hi)
                    omega
            · have hlines : (lineNumber : Int) - first + 1 - 1 =
                  lineNumber - (first + 1 : Nat) + 1 := by
                omega
              rw [if_neg (by omega), hlines,
                exists_succ_iff fun h => hfirst (Option.some.inj h)]
              exact ih (by omega)

/-- The counting in one hunk, by induction on its lines. -/
theorem diffPosition_computeDiffLine_iff {hunk : Hunk} {lineNumber p : Nat}
    (h : hunk.start ≤ lineNumber) :
    (GitHubFile.computeDiffLine withContent kind lineNumber hunk).map DiffLine.position = some p ↔
      ∃ i, p = hunk.diffPosition + i ∧
        (number (shows kind) hunk.start hunk.lines)[i]? = some (some lineNumber) :=
  computeFrom_iff h

end Lines

/-! ## A hunk of a file -/

section Hunks

variable {withContent : Bool} {file : GitHubFile} {hunk : Hunk}

/-- What a line becomes in the general way. -/
def lineOf (withContent : Bool) (kind : Kind) (hunk : Hunk) (lineNumber : Nat) : Line :=
  ⟨some hunk, GitHubFile.computeDiffLine withContent kind lineNumber hunk⟩

/-- What it becomes with the shortcut. -/
def addedLine (hunk : Hunk) (lineNumber : Nat) : Line :=
  ⟨some hunk, some ⟨lineNumber, none, .added⟩⟩

/-- Lines get a hunk, and are found at their positions. -/
def pushLines (lineAt : Nat → Line) (file : GitHubFile) (numbers : List Nat) : GitHubFile :=
  { file with
    lines := Map.insertAll file.lines (numbers.map fun n => (n, lineAt n))
    diffPositions := Map.insertAll file.diffPositions
      (numbers.filterMap fun n => (lineAt n).diffPosition.map fun p => (p, n)) }

theorem pushLines_cons (lineAt : Nat → Line) (file : GitHubFile) (n : Nat) (numbers : List Nat) :
    pushLines lineAt file (n :: numbers) =
      pushLines lineAt (pushLines lineAt file [n]) numbers := by
  unfold pushLines
  dsimp only
  rw [List.map_cons, Map.insertAll_cons, List.map_singleton]
  cases h : (lineAt n).diffPosition with
  | none =>
      rw [List.filterMap_cons_none (by rw [h]; rfl), List.filterMap_cons_none (by rw [h]; rfl)]
      rfl
  | some p =>
      rw [List.filterMap_cons_some (by rw [h]; rfl), List.filterMap_cons_some (by rw [h]; rfl)]
      rfl

theorem pushLine_eq {n : Nat} (hfresh : file.lines.lookup n = none)
    (hpos : (lineOf withContent file.kind hunk n).diffPosition ≠ some 0) :
    GitHubFile.pushLine withContent hunk file n =
      pushLines (lineOf withContent file.kind hunk) file [n] := by
  have hline : GitHubFile.setHunk withContent file.kind n hunk (file.obtain n) =
      lineOf withContent file.kind hunk n := by
    rw [GitHubFile.obtain, hfresh]
    rfl
  unfold GitHubFile.pushLine pushLines
  dsimp only
  rw [hline]
  cases h : (lineOf withContent file.kind hunk n).diffPosition with
  | none =>
      rw [List.filterMap_cons_none (by rw [h]; rfl)]
      rfl
  | some p =>
      rw [List.filterMap_cons_some (by rw [h]; rfl)]
      cases p with
      | zero => exact absurd h hpos
      | succ p => rfl

/-- Pushing the lines of a hunk, when none of them was there. -/
theorem foldl_pushLine {numbers : List Nat} (hnodup : numbers.Nodup)
    (hfresh : ∀ n ∈ numbers, file.lines.lookup n = none)
    (hpos : ∀ n ∈ numbers, (lineOf withContent file.kind hunk n).diffPosition ≠ some 0) :
    numbers.foldl (GitHubFile.pushLine withContent hunk) file =
      pushLines (lineOf withContent file.kind hunk) file numbers := by
  induction numbers generalizing file with
  | nil => rfl
  | cons n numbers ih =>
      rcases List.nodup_cons.mp hnodup with ⟨hn, hrest⟩
      rw [List.foldl_cons, pushLine_eq (hfresh n List.mem_cons_self) (hpos n List.mem_cons_self),
        pushLines_cons _ file n numbers]
      refine ih hrest (fun m hm => ?_) fun m hm => hpos m (List.mem_cons_of_mem n hm)
      have hne : m ≠ n := fun h => hn (h ▸ hm)
      show (AList.insert n _ file.lines).lookup m = none
      rw [AList.lookup_insert_ne hne]
      exact hfresh m (List.mem_cons_of_mem n hm)

/-- The general way, where no line of the hunk has been seen before. -/
theorem pushHunk_eq
    (hfresh : ∀ n ∈ List.range' hunk.start hunk.length, file.lines.lookup n = none)
    (hpos : 0 < hunk.diffPosition) : file.pushHunk withContent hunk =
      pushLines (lineOf withContent file.kind hunk) file
        (List.range' hunk.start hunk.length) := by
  refine foldl_pushLine List.nodup_range' hfresh fun n hn hzero => ?_
  rcases (diffPosition_computeDiffLine_iff (List.mem_range'_1.mp hn).1).mp hzero with ⟨i, hi, -⟩
  omega

theorem pushHunkCompleteFileAdded_eq (file : GitHubFile) (hunk : Hunk) :
    file.pushHunkCompleteFileAdded hunk =
      pushLines (addedLine hunk) file (List.range' hunk.start hunk.length) := by
  unfold GitHubFile.pushHunkCompleteFileAdded
  induction List.range' hunk.start hunk.length generalizing file with
  | nil => rfl
  | cons n numbers ih =>
      rw [List.foldl_cons, ih, pushLines_cons]
      rfl

variable {lineAt : Nat → Line} {numbers : List Nat}

theorem lookup_pushLines (n : Nat) : (pushLines lineAt file numbers).lines.lookup n =
    if n ∈ numbers then some (lineAt n) else file.lines.lookup n := by
  have hkeys : (numbers.map fun n => (n, lineAt n)).map Prod.fst = numbers := by
    rw [List.map_map]
    exact List.map_id _
  unfold pushLines
  dsimp only
  split_ifs with hn
  · rcases Map.lookup_insertAll_mem file.lines _ n (hkeys.symm ▸ hn) with ⟨v, hv, hmem⟩
    rcases List.mem_map.mp hmem with ⟨m, -, hm⟩
    rw [Prod.mk.injEq] at hm
    rw [hv, ← hm.2, hm.1]
  · exact Map.lookup_insertAll_of_not_mem file.lines _ n (hkeys.symm ▸ hn)

theorem diffPosition_pushLines (n : Nat) : (pushLines lineAt file numbers).diffPosition n =
    if n ∈ numbers then (lineAt n).diffPosition else file.diffPosition n := by
  unfold GitHubFile.diffPosition
  rw [lookup_pushLines]
  split_ifs <;> rfl

/-- Where no two lines get the same position, and none one that is taken. -/
theorem findByDiffPosition_pushLines {p n : Nat}
    (hinj : ∀ m ∈ numbers, ∀ m' ∈ numbers, (lineAt m).diffPosition = some p →
      (lineAt m').diffPosition = some p → m = m')
    (hfree : ∀ m ∈ numbers, (lineAt m).diffPosition = some p →
      file.findByDiffPosition p = none) :
    (pushLines lineAt file numbers).findByDiffPosition p = some n ↔
      n ∈ numbers ∧ (lineAt n).diffPosition = some p ∨ file.findByDiffPosition p = some n := by
  have hmem : ∀ q m, (q, m) ∈ numbers.filterMap (fun n => (lineAt n).diffPosition.map
      fun p => (p, n)) ↔ m ∈ numbers ∧ (lineAt m).diffPosition = some q := by
    intro q m
    rw [List.mem_filterMap]
    constructor
    · rintro ⟨m', hm', heq⟩
      rcases Option.map_eq_some_iff.mp heq with ⟨q', hq', hpair⟩
      rw [Prod.mk.injEq] at hpair
      rw [← hpair.1, ← hpair.2]
      exact ⟨hm', hq'⟩
    · rintro ⟨hm, hq⟩
      exact ⟨m, hm, by rw [hq]; rfl⟩
  unfold GitHubFile.findByDiffPosition at hfree ⊢
  unfold pushLines
  dsimp only
  by_cases hkey : ∃ m ∈ numbers, (lineAt m).diffPosition = some p
  · rcases hkey with ⟨m, hm, hp⟩
    have hin := List.mem_map_of_mem (f := Prod.fst) ((hmem p m).mpr ⟨hm, hp⟩)
    rcases Map.lookup_insertAll_mem file.diffPositions _ p hin with ⟨v, hv, hvmem⟩
    rcases (hmem p v).mp hvmem with ⟨hvin, hvp⟩
    rw [hv, hfree m hm hp, Option.some.injEq]
    constructor
    · rintro rfl
      exact Or.inl ⟨hvin, hvp⟩
    · rintro (⟨hn, hnp⟩ | h)
      · exact hinj v hvin n hn hvp hnp
      · exact nomatch h
  · have hnot : p ∉ (numbers.filterMap fun n => (lineAt n).diffPosition.map
        fun p => (p, n)).map Prod.fst := by
      intro h
      rcases List.mem_map.mp h with ⟨⟨q, m⟩, hqm, rfl⟩
      exact hkey ⟨m, (hmem q m).mp hqm⟩
    rw [Map.lookup_insertAll_of_not_mem file.diffPositions _ p hnot]
    exact (or_iff_right fun h => hkey ⟨n, h⟩).symm

end Hunks

/-! ## The hunks of a patch -/

section Patch

variable {withContent : Bool} {hunks : List IHunk} {hunk : IHunk}

theorem pushHunks_concat (files : Files) : pushHunks withContent files (hunks ++ [hunk]) =
    pushHunk withContent (pushHunks withContent files hunks) hunk :=
  List.foldl_concat _ _ _ _

theorem rows_concat (kind : Kind) :
    rows kind (hunks ++ [hunk]) = rows kind hunks ++ hunkRows kind hunk := by
  rw [rows, List.flatMap_append, List.flatMap_singleton]
  rfl

theorem positionAfter_concat :
    positionAfter (hunks ++ [hunk]) = positionAfter hunks + hunk.lines.length + 1 := by
  unfold positionAfter
  rw [List.map_append, List.sum_append, List.map_singleton, List.sum_singleton]
  omega

/-- The rows in front of a position. -/
theorem length_rows (kind : Kind) (hunks : List IHunk) :
    (rows kind hunks).length + 1 = positionAfter hunks := by
  induction hunks using List.reverseRecOn with
  | nil => rfl
  | append_singleton hunks hunk ih =>
      rw [rows_concat, positionAfter_concat, List.length_append, hunkRows, List.length_cons,
        length_number]
      omega

/-- The position that is counted along is the next position. -/
theorem diffPosition_pushHunks (withContent : Bool) (hunks : List IHunk) :
    (pushHunks withContent .new hunks).diffPosition = positionAfter hunks := by
  induction hunks using List.reverseRecOn with
  | nil => rfl
  | append_singleton hunks hunk ih =>
      rw [pushHunks_concat, positionAfter_concat, ← ih]
      rfl

/-- The shortcut is taken for the modified file, where a hunk only adds lines. -/
def Shortcut (kind : Kind) (hunk : IHunk) : Prop :=
  kind = .modified ∧ hunk.oldLines = 0 ∧ hunk.newLines ≠ 0

instance (kind : Kind) (hunk : IHunk) : Decidable (Shortcut kind hunk) :=
  inferInstanceAs (Decidable (_ ∧ _))

theorem file_pushHunk (files : Files) (kind : Kind) :
    (pushHunk withContent files hunk).file kind =
      if Shortcut kind hunk then
        (files.file kind).pushHunkCompleteFileAdded (hunk.toHunk files.diffPosition kind)
      else (files.file kind).pushHunk withContent (hunk.toHunk files.diffPosition kind) := by
  cases kind with
  | original => rw [if_neg fun h => nomatch h.1]; rfl
  | modified =>
      by_cases h : hunk.oldLines = 0 ∧ hunk.newLines ≠ 0
      · rw [if_pos ⟨rfl, h⟩]
        exact if_pos h
      · rw [if_neg fun hs => h hs.2]
        exact if_neg h

theorem start_toHunk (d : Nat) (kind : Kind) : (hunk.toHunk d kind).start = hunk.start kind := by
  cases kind <;> rfl

theorem length_toHunk (d : Nat) (kind : Kind) : (hunk.toHunk d kind).length = hunk.length kind := by
  cases kind <;> rfl

theorem lines_toHunk (d : Nat) (kind : Kind) : (hunk.toHunk d kind).lines = hunk.lines := by
  cases kind <;> rfl

theorem position_toHunk (d : Nat) (kind : Kind) : (hunk.toHunk d kind).diffPosition = d := by
  cases kind <;> rfl

/-- The lines of a file that a hunk is about. -/
def IHunk.numbers (hunk : IHunk) (kind : Kind) : List Nat :=
  List.range' (hunk.start kind) (hunk.length kind)

/-- The lines of a hunk are those between its first and its last one. -/
theorem mem_numbers {kind : Kind} {n : Nat} : n ∈ hunk.numbers kind ↔
    hunk.start kind ≤ n ∧ n < hunk.start kind + hunk.length kind :=
  List.mem_range'_1

theorem pushHunk_of_not_mem {file : GitHubFile} {h : Hunk} {n : Nat}
    (hn : n ∉ List.range' h.start h.length) :
    (file.pushHunk withContent h).lines.lookup n = file.lines.lookup n := by
  unfold GitHubFile.pushHunk
  generalize List.range' h.start h.length = numbers at hn
  induction numbers generalizing file with
  | nil => rfl
  | cons m numbers ih =>
      rw [List.mem_cons, not_or] at hn
      rw [List.foldl_cons, ih hn.2]
      exact AList.lookup_insert_ne hn.1

theorem kind_pushHunk (file : GitHubFile) (h : Hunk) :
    (file.pushHunk withContent h).kind = file.kind := by
  unfold GitHubFile.pushHunk
  induction List.range' h.start h.length generalizing file with
  | nil => rfl
  | cons m numbers ih =>
      rw [List.foldl_cons, ih]
      rfl

theorem kind_pushHunks (withContent : Bool) (hunks : List IHunk) (kind : Kind) :
    ((pushHunks withContent .new hunks).file kind).kind = kind := by
  induction hunks using List.reverseRecOn with
  | nil => cases kind <;> rfl
  | append_singleton hunks hunk ih =>
      rw [pushHunks_concat, file_pushHunk]
      split_ifs
      · rw [pushHunkCompleteFileAdded_eq]
        exact ih
      · rw [kind_pushHunk]
        exact ih

/-- A line that no hunk is about is not known. -/
theorem lookup_pushHunks {kind : Kind} {n : Nat}
    (h : ∀ hunk ∈ hunks, n ∉ hunk.numbers kind) :
    ((pushHunks withContent .new hunks).file kind).lines.lookup n = none := by
  induction hunks using List.reverseRecOn with
  | nil => cases kind <;> rfl
  | append_singleton hunks hunk ih =>
      have hrest := ih fun hunk' hmem => h hunk' (List.mem_append_left _ hmem)
      have hn := h hunk (List.mem_append_right _ (List.mem_singleton_self hunk))
      have hrange : n ∉ List.range'
          (hunk.toHunk (pushHunks withContent .new hunks).diffPosition kind).start
          (hunk.toHunk (pushHunks withContent .new hunks).diffPosition kind).length := by
        rw [start_toHunk, length_toHunk]
        exact hn
      rw [pushHunks_concat, file_pushHunk]
      split_ifs
      · rw [pushHunkCompleteFileAdded_eq, lookup_pushLines, if_neg hrange, hrest]
      · rw [pushHunk_of_not_mem hrange, hrest]

/-- The next hunk of a patch is about lines that are not known yet. -/
theorem fresh_of_wellFormed {before after : List IHunk}
    (h : WellFormed (before ++ hunk :: after)) {kind : Kind} {n : Nat}
    (hn : n ∈ hunk.numbers kind) :
    ((pushHunks withContent .new before).file kind).lines.lookup n = none := by
  refine lookup_pushHunks fun other hother hmem => ?_
  have hapart := (List.pairwise_append.mp h.apart).2.2 other hother hunk List.mem_cons_self kind
  rw [mem_numbers] at hn hmem
  have hle := hapart (by omega) (by omega)
  omega

end Patch

/-! ## Positions -/

section Positions

variable {withContent : Bool} {kind : Kind} {file : GitHubFile} {shown : List (Option Nat)}
  {hunk : IHunk}

/-- The positions of a file are those of the rows. -/
structure Inv (file : GitHubFile) (shown : List (Option Nat)) : Prop where
  position : ∀ n p, file.diffPosition n = some p ↔ shown[p]? = some (some n)
  found : ∀ p n, file.findByDiffPosition p = some n ↔ shown[p]? = some (some n)

theorem inv_new (kind : Kind) : Inv (.new kind) [] where
  position _ _ := iff_of_false nofun nofun
  found _ _ := iff_of_false nofun nofun

theorem getElem?_append_hunkRows {p n : Nat} :
    (shown ++ hunkRows kind hunk)[p]? = some (some n) ↔ shown[p]? = some (some n) ∨
      ∃ i, p = shown.length + 1 + i ∧
        (number (shows kind) (hunk.start kind) hunk.lines)[i]? = some (some n) := by
  rcases Nat.lt_or_ge p shown.length with hlt | hge
  · rw [List.getElem?_append_left hlt]
    refine (or_iff_left ?_).symm
    rintro ⟨i, rfl, -⟩
    omega
  · rw [List.getElem?_append_right hge, List.getElem?_eq_none hge, hunkRows]
    have hrows : (∃ i, p = shown.length + i ∧
        (none :: number (shows kind) (hunk.start kind) hunk.lines)[i]? = some (some n)) ↔ _ :=
      exists_succ_iff (o := none) nofun
    rw [← hrows]
    constructor
    · exact fun h => Or.inr ⟨p - shown.length, by omega, h⟩
    · rintro (h | ⟨i, rfl, hi⟩)
      · exact nomatch h
      · rw [Nat.add_sub_cancel_left]
        exact hi

/-- A hunk whose lines are not known yet, and get the positions of the rows. -/
theorem inv_pushLines {lineAt : Nat → Line} (hinv : Inv file shown)
    (hfresh : ∀ n ∈ hunk.numbers kind, file.lines.lookup n = none)
    (hat : ∀ n p, n ∈ hunk.numbers kind ∧ (lineAt n).diffPosition = some p ↔
      ∃ i, p = shown.length + 1 + i ∧
        (number (shows kind) (hunk.start kind) hunk.lines)[i]? = some (some n)) :
    Inv (pushLines lineAt file (hunk.numbers kind)) (shown ++ hunkRows kind hunk) := by
  constructor
  · intro n p
    rw [getElem?_append_hunkRows, ← hat, ← hinv.position, diffPosition_pushLines]
    by_cases hn : n ∈ hunk.numbers kind
    · have hnone : file.diffPosition n ≠ some p := by
        rw [GitHubFile.diffPosition, hfresh n hn]
        exact nofun
      rw [if_pos hn]
      exact ⟨fun h => Or.inr ⟨hn, h⟩, fun h => (h.resolve_left hnone).2⟩
    · rw [if_neg hn]
      exact (or_iff_left fun h => hn h.1).symm
  · intro p n
    rw [getElem?_append_hunkRows, ← hat, ← hinv.found, or_comm]
    refine findByDiffPosition_pushLines (fun m hm m' hm' hp hp' => ?_) fun m hm hp => ?_
    · -- one row shows one line
      rcases (hat m p).mp ⟨hm, hp⟩ with ⟨i, hi, hrow⟩
      rcases (hat m' p).mp ⟨hm', hp'⟩ with ⟨i', hi', hrow'⟩
      have heq : i = i' := by omega
      rw [heq, hrow', Option.some.injEq, Option.some.injEq] at hrow
      exact hrow.symm
    · rcases (hat m p).mp ⟨hm, hp⟩ with ⟨i, rfl, -⟩
      rw [Option.eq_none_iff_forall_ne_some]
      intro m' hfound
      rw [hinv.found, List.getElem?_eq_none (by omega)] at hfound
      exact nomatch hfound

/-- In a well formed hunk the lines that it has are the lines it shows. -/
theorem mem_numbers_iff (h : hunk.WellFormed) {n : Nat} : n ∈ hunk.numbers kind ↔
    some n ∈ number (shows kind) (hunk.start kind) hunk.lines := by
  rw [mem_numbers, mem_number_iff, h.counts kind]

/-- The general way gives the positions of the rows. -/
theorem lineOf_iff (h : hunk.WellFormed) {d n p : Nat} :
    n ∈ hunk.numbers kind ∧
        (lineOf withContent kind (hunk.toHunk d kind) n).diffPosition = some p ↔
      ∃ i, p = d + i ∧
        (number (shows kind) (hunk.start kind) hunk.lines)[i]? = some (some n) := by
  have hposition : (hunk.toHunk d kind).start ≤ n →
      ((lineOf withContent kind (hunk.toHunk d kind) n).diffPosition = some p ↔ _) :=
    diffPosition_computeDiffLine_iff
  rw [start_toHunk, position_toHunk, lines_toHunk] at hposition
  constructor
  · rintro ⟨hn, hp⟩
    exact (hposition (mem_numbers.mp hn).1).mp hp
  · rintro ⟨i, hi, hrow⟩
    have hn := (mem_numbers_iff h).mpr (List.mem_of_getElem? hrow)
    exact ⟨hn, (hposition (mem_numbers.mp hn).1).mpr ⟨i, hi, hrow⟩⟩

/-- A hunk that only adds lines has them in front of all marks. -/
theorem getElem?_added (h : hunk.WellFormed) (hold : hunk.oldLines = 0) {i : Nat}
    (hi : i < hunk.newLines) :
    (number (shows .modified) hunk.newStart hunk.lines)[i]? = some (some (hunk.newStart + i)) := by
  have hnone : ∀ content ∈ hunk.lines, ¬shows .original content = true :=
    List.countP_eq_zero.mp ((h.counts .original).symm.trans hold)
  have hsplit := List.takeWhile_append_dropWhile (p := shows .modified) (l := hunk.lines)
  have hbehind : ∀ content ∈ hunk.lines.dropWhile (shows .modified),
      ¬shows .modified content = true := by
    cases hdrop : hunk.lines.dropWhile (shows .modified) with
    | nil => exact fun _ hmem => absurd hmem List.not_mem_nil
    | cons mark rest =>
        rw [hdrop] at hsplit
        have hmem : mark ∈ hunk.lines := hsplit ▸ List.mem_append_right _ List.mem_cons_self
        have hmark : ¬shows .modified mark = true := by
          have hhead := List.head?_dropWhile_not (shows .modified) hunk.lines
          rw [hdrop] at hhead
          rw [Bool.not_eq_true]
          simpa using hhead
        have hop : operationOf mark = none := by
          cases hop : operationOf mark with
          | none => rfl
          | some operation =>
              -- no operation is hidden in both files
              have horiginal := hnone mark hmem
              rw [shows_of_some hop, decide_eq_true_iff] at hmark horiginal
              exact absurd ((not_not.mp hmark).symm.trans (not_not.mp horiginal)) nofun
        rcases h.marks _ mark rest hsplit.symm hop with ⟨side, last, hlast, hshows, hrest⟩
        have hin : last ∈ hunk.lines := by
          rw [← hsplit]
          exact List.mem_append_left _ (List.mem_of_getLast? hlast)
        cases side with
        | original => exact absurd hshows (hnone last hin)
        | modified => exact List.forall_mem_cons.mpr ⟨hmark, hrest⟩
  have hall : ∀ content ∈ hunk.lines.takeWhile (shows .modified), shows .modified content = true :=
    fun content hmem => List.mem_takeWhile_imp hmem
  have hlength : hunk.newLines = (hunk.lines.takeWhile (shows .modified)).length := by
    have hcounts : hunk.newLines = hunk.lines.countP (shows .modified) := h.counts .modified
    rw [hcounts, ← hsplit, List.countP_append, List.countP_eq_zero.mpr hbehind, Nat.add_zero,
      hsplit]
    exact List.countP_eq_length.mpr hall
  rw [← hsplit, number_append, List.getElem?_append_left (by rw [length_number]; omega)]
  exact getElem?_number_of_forall hall (by omega)

/-- The shortcut does if the number of the first line is its position. -/
theorem addedLine_iff (h : hunk.WellFormed) (hold : hunk.oldLines = 0) {d n p : Nat}
    (hstart : hunk.newStart = d) :
    n ∈ hunk.numbers .modified ∧
        (addedLine (hunk.toHunk d .modified) n).diffPosition = some p ↔
      ∃ i, p = d + i ∧
        (number (shows .modified) (hunk.start .modified) hunk.lines)[i]? = some (some n) := by
  have hvalue : (addedLine (hunk.toHunk d .modified) n).diffPosition = some n := rfl
  rw [hvalue, Option.some.injEq]
  have hrow : n ∈ hunk.numbers .modified → (number (shows .modified) (hunk.start .modified)
      hunk.lines)[n - hunk.newStart]? = some (some n) := by
    intro hn
    have hbounds : hunk.newStart ≤ n ∧ n < hunk.newStart + hunk.newLines := mem_numbers.mp hn
    have hadded := getElem?_added h hold (i := n - hunk.newStart) (by omega)
    rwa [Nat.add_sub_cancel' hbounds.1] at hadded
  constructor
  · rintro ⟨hn, rfl⟩
    have hle : hunk.newStart ≤ n := (mem_numbers.mp hn).1
    exact ⟨n - hunk.newStart, by omega, hrow hn⟩
  · rintro ⟨i, rfl, hi⟩
    have hn := (mem_numbers_iff h).mpr (List.mem_of_getElem? hi)
    have hle : hunk.newStart ≤ n := (mem_numbers.mp hn).1
    have heq := number_inj hi (hrow hn)
    exact ⟨hn, by omega⟩

/-- The lines that are pushed are the lines of the hunk. -/
theorem range_toHunk (d : Nat) (kind : Kind) :
    List.range' (hunk.toHunk d kind).start (hunk.toHunk d kind).length = hunk.numbers kind := by
  rw [start_toHunk, length_toHunk]
  rfl

variable {hunks before after : List IHunk}

theorem WellFormed.hunk_mem (h : WellFormed (before ++ hunk :: after)) : hunk.WellFormed :=
  h.hunk hunk (List.mem_append_right _ List.mem_cons_self)

/-- The first hunks of a well formed patch are well formed. -/
theorem WellFormed.of_append (h : WellFormed (before ++ after)) : WellFormed before where
  hunk other hmem := h.hunk other (List.mem_append_left _ hmem)
  apart := (List.pairwise_append.mp h.apart).1

theorem Aligned.of_append (h : Aligned (before ++ after)) : Aligned before := by
  rintro front hunk rest rfl
  exact h front hunk (rest ++ after) (by rw [List.append_assoc, List.cons_append])

/-- A hunk of a well formed patch pushes lines that were not there. -/
theorem pushHunk_toHunk (h : WellFormed (before ++ hunk :: after)) (kind : Kind) :
    ((pushHunks withContent .new before).file kind).pushHunk withContent
        (hunk.toHunk (positionAfter before) kind) =
      pushLines (lineOf withContent kind (hunk.toHunk (positionAfter before) kind))
        ((pushHunks withContent .new before).file kind) (hunk.numbers kind) := by
  rw [pushHunk_eq, range_toHunk, kind_pushHunks]
  · intro n hn
    rw [range_toHunk] at hn
    exact fresh_of_wellFormed h hn
  · rw [position_toHunk]
    exact Nat.succ_pos _

theorem pushHunkCompleteFileAdded_toHunk (before : List IHunk) (kind : Kind) :
    ((pushHunks withContent .new before).file kind).pushHunkCompleteFileAdded
        (hunk.toHunk (positionAfter before) kind) =
      pushLines (addedLine (hunk.toHunk (positionAfter before) kind))
        ((pushHunks withContent .new before).file kind) (hunk.numbers kind) := by
  rw [pushHunkCompleteFileAdded_eq, range_toHunk]

/-- The positions after a patch are those of its rows. -/
theorem inv_pushHunks (h : WellFormed hunks) (ha : Aligned hunks) (kind : Kind) :
    Inv ((pushHunks withContent .new hunks).file kind) (rows kind hunks) := by
  induction hunks using List.reverseRecOn with
  | nil => cases kind <;> exact inv_new _
  | append_singleton hunks hunk ih =>
      have hinv := ih h.of_append ha.of_append
      have hlen := length_rows kind hunks
      rw [pushHunks_concat, file_pushHunk, rows_concat, diffPosition_pushHunks]
      split_ifs with hshort
      · rcases hshort with ⟨rfl, hold, hnew⟩
        rw [pushHunkCompleteFileAdded_toHunk]
        refine inv_pushLines hinv (fun n hn => fresh_of_wellFormed h hn) fun n p => ?_
        rw [hlen]
        exact addedLine_iff h.hunk_mem hold (ha hunks hunk [] rfl hold hnew)
      · rw [pushHunk_toHunk h]
        refine inv_pushLines hinv (fun n hn => fresh_of_wellFormed h hn) fun n p => ?_
        rw [hlen]
        exact lineOf_iff h.hunk_mem

theorem diffPosition_added (before : List IHunk) (n : Nat) :
    ((pushHunks withContent .new before).modified.pushHunkCompleteFileAdded
        (hunk.toHunk (positionAfter before) .modified)).diffPosition n =
      if n ∈ hunk.numbers .modified then some n
      else (pushHunks withContent .new before).modified.diffPosition n := by
  have hadded : (pushHunks withContent .new before).modified.pushHunkCompleteFileAdded
      (hunk.toHunk (positionAfter before) .modified) = _ :=
    pushHunkCompleteFileAdded_toHunk before .modified
  rw [hadded, diffPosition_pushLines]
  rfl

theorem diffPosition_general (h : WellFormed (before ++ hunk :: after)) (n : Nat) :
    ((pushHunks withContent .new before).modified.pushHunk withContent
        (hunk.toHunk (positionAfter before) .modified)).diffPosition n =
      if n ∈ hunk.numbers .modified then
        (lineOf withContent .modified (hunk.toHunk (positionAfter before) .modified) n).diffPosition
      else (pushHunks withContent .new before).modified.diffPosition n := by
  have hgeneral : (pushHunks withContent .new before).modified.pushHunk withContent
      (hunk.toHunk (positionAfter before) .modified) = _ :=
    pushHunk_toHunk h .modified
  rw [hgeneral, diffPosition_pushLines]
  rfl

/-- The two ways agree on a hunk that only adds lines if the number of the first line is its
    position. -/
theorem shortcut_of_aligned (h : WellFormed (before ++ hunk :: after)) (hold : hunk.oldLines = 0)
    (ha : hunk.newLines ≠ 0 → hunk.newStart = positionAfter before) (n : Nat) :
    ((pushHunks withContent .new before).modified.pushHunkCompleteFileAdded
        (hunk.toHunk (positionAfter before) .modified)).diffPosition n =
      ((pushHunks withContent .new before).modified.pushHunk withContent
        (hunk.toHunk (positionAfter before) .modified)).diffPosition n := by
  rw [diffPosition_added, diffPosition_general h]
  split_ifs with hn
  · have hnew : hunk.newLines ≠ 0 := by
      have hbounds : hunk.newStart ≤ n ∧ n < hunk.newStart + hunk.newLines := mem_numbers.mp hn
      omega
    have hrow := (addedLine_iff h.hunk_mem hold (ha hnew)).mp ⟨hn, rfl⟩
    exact ((lineOf_iff h.hunk_mem).mpr hrow).2.symm
  · rfl

/-- Where they agree on the first line, its number is its position. -/
theorem aligned_of_shortcut (h : WellFormed (before ++ hunk :: after)) (hold : hunk.oldLines = 0)
    (hnew : hunk.newLines ≠ 0)
    (hshort : ((pushHunks withContent .new before).modified.pushHunkCompleteFileAdded
        (hunk.toHunk (positionAfter before) .modified)).diffPosition hunk.newStart =
      ((pushHunks withContent .new before).modified.pushHunk withContent
        (hunk.toHunk (positionAfter before) .modified)).diffPosition hunk.newStart) :
    hunk.newStart = positionAfter before := by
  have hmem : hunk.newStart ∈ hunk.numbers .modified :=
    mem_numbers.mpr ⟨Nat.le_refl _, Nat.lt_add_of_pos_right (Nat.pos_of_ne_zero hnew)⟩
  have hfirst : (lineOf withContent .modified (hunk.toHunk (positionAfter before) .modified)
      hunk.newStart).diffPosition = some (positionAfter before) :=
    ((lineOf_iff h.hunk_mem).mpr
      ⟨0, rfl, getElem?_added h.hunk_mem hold (Nat.pos_of_ne_zero hnew)⟩).2
  rw [diffPosition_added, diffPosition_general h, if_pos hmem, if_pos hmem, hfirst] at hshort
  exact Option.some.inj hshort

/-- The positions are as they should be exactly if every hunk that only adds lines begins with
    the line whose number is its position. In a file that is new there is one such hunk and it
    does. For other files a position of the shortcut leads a comment to a line it was not made
    for. -/
theorem positioned_iff (withContent : Bool) (hunks : List IHunk) (h : WellFormed hunks) :
    Positioned withContent hunks ↔ Aligned hunks := by
  constructor
  · rintro hpositioned before hunk after rfl hold hnew
    exact aligned_of_shortcut h hold hnew
      (hpositioned.shortcut before hunk after rfl hold hunk.newStart)
  · intro ha
    refine ⟨fun kind => (inv_pushHunks h ha kind).position, fun kind p n => ?_, ?_⟩
    · rw [(inv_pushHunks h ha kind).found, (inv_pushHunks h ha kind).position]
    · rintro before hunk after rfl hold n
      exact shortcut_of_aligned h hold (ha before hunk after rfl hold) n

/-- A hunk that adds a line in the middle of a file. -/
def insertion (line : Nat) : IHunk := ⟨line - 1, 0, line, 1, ["+added"]⟩

theorem wellFormed_insertion (line : Nat) : WellFormed [insertion line] where
  hunk hunk hmem := by
    rw [List.mem_singleton.mp hmem]
    refine ⟨fun kind => by cases kind <;> rfl, fun front mark rest heq hmark => ?_⟩
    -- there is no mark
    have hmem : mark ∈ (insertion line).lines := heq ▸ List.mem_append_right _ List.mem_cons_self
    rw [List.mem_singleton.mp hmem] at hmark
    exact nomatch hmark
  apart := List.pairwise_singleton _ _

/-- A line is changed, the fifth line is added, and so is the line feed at the end. -/
def threeHunks : List IHunk :=
  [⟨1, 2, 1, 2, [" one", "-two", "+deux"]⟩, insertion 5,
    ⟨9, 1, 10, 1, ["-last", "\\ No newline at end of file", "+last"]⟩]

theorem wellFormed_threeHunks : WellFormed threeHunks where
  hunk := by
    refine List.forall_mem_cons.mpr ⟨⟨fun kind => by cases kind <;> rfl, ?_⟩,
      List.forall_mem_cons.mpr ⟨(wellFormed_insertion 5).hunk _ List.mem_cons_self,
        List.forall_mem_singleton.mpr ⟨fun kind => by cases kind <;> rfl, ?_⟩⟩⟩
    · intro front mark rest heq hmark
      have hlines : [" one", "-two", "+deux"] = front ++ mark :: rest := heq
      have hall : ∀ content ∈ [" one", "-two", "+deux"], operationOf content ≠ none := by decide
      exact absurd hmark (hall mark (hlines ▸ List.mem_append_right front List.mem_cons_self))
    · intro front mark rest heq hmark
      rcases front with _ | ⟨first, _ | ⟨second, _ | ⟨third, front⟩⟩⟩
      · rw [← (List.cons.inj heq).1] at hmark
        exact nomatch hmark
      · -- the mark is behind the old last line
        rcases List.cons.inj heq with ⟨rfl, hrest⟩
        rcases List.cons.inj hrest with ⟨-, rfl⟩
        exact ⟨.original, "-last", rfl, rfl, by decide⟩
      · rcases List.cons.inj (List.cons.inj (List.cons.inj heq).2).2 with ⟨rfl, -⟩
        exact nomatch hmark
      · have hlength := congrArg List.length heq
        simp only [List.length_append, List.length_cons, List.length_nil] at hlength
        omega
  apart := by
    refine List.Pairwise.cons ?_ (List.Pairwise.cons ?_ (List.pairwise_singleton _ _))
    · refine List.forall_mem_cons.mpr ⟨fun kind => ?_, List.forall_mem_singleton.mpr fun kind => ?_⟩
      · cases kind <;> decide
      · cases kind <;> decide
    · exact List.forall_mem_singleton.mpr fun kind => by cases kind <;> decide

theorem positioned_iff_three : Positioned false threeHunks :=
  (positioned_iff false threeHunks wellFormed_threeHunks).mpr (by
    intro before hunk after heq hold _
    rcases before with _ | ⟨first, _ | ⟨second, _ | ⟨third, before⟩⟩⟩
    · rw [← (List.cons.inj heq).1] at hold
      exact nomatch hold
    · -- the second hunk begins where its first line is shown
      rcases List.cons.inj heq with ⟨rfl, hrest⟩
      rw [← (List.cons.inj hrest).1]
      rfl
    · rcases List.cons.inj (List.cons.inj (List.cons.inj heq).2).2 with ⟨rfl, -⟩
      exact nomatch hold
    · have hlength := congrArg List.length heq
      simp only [threeHunks, List.length_append, List.length_cons, List.length_nil] at hlength
      omega)

/-- The sixth line of a file is added, and its position is one. -/
theorem sixth_line_added :
    ¬∀ withContent hunks, WellFormed hunks → Positioned withContent hunks := by
  intro h
  have hdistance := (h false [insertion 6] (wellFormed_insertion 6)).distance .modified 6 6
  exact absurd (hdistance.mp rfl) nofun

end Positions

end DiffPositions

end Theia

end Nxpod
