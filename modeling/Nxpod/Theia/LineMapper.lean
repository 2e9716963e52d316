import Nxpod.Library.Alignment

/-!
# Lines of a Pull Request

A comment on a pull request is for a line of the committed text, while the editor shows the text
as it is now. The editor computes the changes between the two, and lines are mapped in both
directions by adding up what the changes above them insert and delete.

A replacement whose sides differ in length is first split into one whose sides do not and a
deletion or an insertion behind it. To map in the other direction all changes are inverted.

## Main definitions

* `IChange`: A change, in the editor's format.
* `mapToChanges`, `mapToPullRequest`: The mapper.
* `Diff`: The changes a comparison computes.
* `Normal`: What the mapper handles: insertions, deletions and replacements of as many lines.

## Theorems

* `normalizeChanges_changesOf`, `inverseChanges_changesOf`: Changes as hunks.
* `doMapFrom_iff`: Where a line is mapped.
* `maps_lines`: Both directions.
-/

namespace Nxpod

namespace Theia

open Nxpod.Alignment

/-- A change as the editor gives it. An end of zero says that a side has no lines. -/
structure IChange where
  originalStartLineNumber : Int
  originalEndLineNumber : Int
  modifiedStartLineNumber : Int
  modifiedEndLineNumber : Int
  deriving DecidableEq

namespace IChange

/-- Nothing of the committed text is replaced. -/
def isInsertion (change : IChange) : Bool := change.originalEndLineNumber == 0

/-- Nothing of the editor's text is put in place. -/
def isDeletion (change : IChange) : Bool := change.modifiedEndLineNumber == 0

/-- The lines of the editor's text, but one. -/
def getModifiedLength (change : IChange) : Int :=
  change.modifiedEndLineNumber - change.modifiedStartLineNumber

/-- The lines of the committed text, but one. -/
def getOriginalLength (change : IChange) : Int :=
  change.originalEndLineNumber - change.originalStartLineNumber

/-- The change begins at the line or behind it. -/
def isBelow (change : IChange) (lineNumber : Int) : Bool :=
  if change.isDeletion then change.originalStartLineNumber > lineNumber
  else change.originalStartLineNumber ≥ lineNumber

/-- The line is one that was deleted. -/
def isDeleted (change : IChange) (lineNumber : Int) : Bool :=
  change.isDeletion && change.originalEndLineNumber ≥ lineNumber

/-- By how much the change moves the lines below it. -/
def computeDelta (change : IChange) : Int :=
  if change.isInsertion then 1 + change.getModifiedLength
  else if change.isDeletion then -(1 + change.getOriginalLength)
  else 0

/-- The change in the other direction. -/
def inverseChange (change : IChange) : IChange where
  originalStartLineNumber := change.modifiedStartLineNumber
  originalEndLineNumber := change.modifiedEndLineNumber
  modifiedStartLineNumber := change.originalStartLineNumber
  modifiedEndLineNumber := change.originalEndLineNumber

/-- A change with a longer original is split, so that a deletion comes last. -/
def doNormalizeChange (change : IChange) (lengthChange : Int) : List IChange :=
  let originalEndLineNumber := change.originalEndLineNumber - lengthChange
  let normalized := { change with originalEndLineNumber }
  let deletion := { change with
    originalStartLineNumber := originalEndLineNumber + 1
    modifiedStartLineNumber := change.modifiedEndLineNumber
    modifiedEndLineNumber := 0 }
  [normalized, deletion]

/-- A change is split if its sides differ in length. -/
def normalizeChange (change : IChange) : List IChange :=
  if change.isDeletion || change.isInsertion then [change]
  else
    let lengthChange := change.getOriginalLength - change.getModifiedLength
    if lengthChange = 0 then [change]
    else if lengthChange > 0 then change.doNormalizeChange lengthChange
    else (change.inverseChange.doNormalizeChange (lengthChange * -1)).map inverseChange

end IChange

/-- All changes are normalized. -/
def normalizeChanges (changes : List IChange) : List IChange :=
  changes.flatMap IChange.normalizeChange

/-- All changes are inverted. -/
def inverseChanges (changes : List IChange) : List IChange := changes.map IChange.inverseChange

/-- The loop over the changes, with what they add up to. -/
def doMapFrom (lineNumber : Int) : Int → List IChange → Int
  | delta, [] => lineNumber + delta
  | delta, change :: changes =>
      if change.isBelow lineNumber then lineNumber + delta
      else if change.isDeleted lineNumber then 0
      else doMapFrom lineNumber (delta + change.computeDelta) changes

/-- A line is mapped along the changes. -/
def doMap (changes : List IChange) (lineNumber : Int) : Int := doMapFrom lineNumber 0 changes

/-- Nothing is mapped while changes cannot be computed. -/
def mapToPullRequest (changes : Option (List IChange)) (lineNumber : Int) : Int :=
  match changes with
  | none => 0
  | some changes => doMap (inverseChanges (normalizeChanges changes)) lineNumber

/-- A line of the committed text in the editor. Without changes there is no answer. -/
def mapToChanges (changes : Option (List IChange)) (pullRequestLineNumber : Int) : Int :=
  match changes with
  | none => 0
  | some changes => doMap (normalizeChanges changes) pullRequestLineNumber

/-! ## Changes of a comparison -/

/-- A hunk in the editor's format. Without lines on one side, the start on this side is the line
before and the end is zero. -/
def hunkChange (o m : Int) (h : Hunk) : IChange where
  originalStartLineNumber := if h.removed = 0 then o + h.same else o + h.same + 1
  originalEndLineNumber := if h.removed = 0 then 0 else o + h.same + h.removed
  modifiedStartLineNumber := if h.added = 0 then m + h.same else m + h.same + 1
  modifiedEndLineNumber := if h.added = 0 then 0 else m + h.same + h.added

/-- The changes for hunks, from two offsets on. -/
def changesOf : Int → Int → List Hunk → List IChange
  | _, _, [] => []
  | o, m, h :: hs =>
      hunkChange o m h :: changesOf (o + h.same + h.removed) (m + h.same + h.added) hs

/-- Each hunk changes something. -/
structure Diff where
  hunks : List Hunk
  changes : ∀ h ∈ hunks, 0 < h.removed + h.added

/-- The changes that the editor computes. -/
def Diff.toChanges (d : Diff) : List IChange := changesOf 0 0 d.hunks

/-- A hunk as the mapper splits it. -/
def normalHunk (h : Hunk) : List Hunk :=
  if h.removed = 0 ∨ h.added = 0 ∨ h.removed = h.added then [h] else h.split

/-- What the mapper handles: insertions, deletions and replacements of as many lines. -/
structure Normal (h : Hunk) : Prop where
  changes : 0 < h.removed + h.added
  sides : h.removed = 0 ∨ h.added = 0 ∨ h.removed = h.added

variable {o m x y : Int} {h : Hunk} {hs : List Hunk}

theorem normal_of_mem_normalHunk (hh : 0 < h.removed + h.added) {h' : Hunk}
    (hh' : h' ∈ normalHunk h) : Normal h' := by
  unfold normalHunk at hh'
  split at hh'
  · next hsides =>
      rw [List.mem_singleton.mp hh']
      exact ⟨hh, hsides⟩
  · next hsides =>
      rw [Hunk.split] at hh'
      rcases List.mem_cons.mp hh' with rfl | hh'
      · refine ⟨?_, Or.inr (Or.inr rfl)⟩
        dsimp only [Hunk.paired]
        omega
      · rw [List.mem_singleton.mp hh']
        dsimp only [Hunk.paired]
        constructor
        · dsimp only
          omega
        · dsimp only
          omega

theorem inverseChange_hunkChange :
    (hunkChange o m h).inverseChange = hunkChange m o h.swap := rfl

theorem inverseChanges_changesOf :
    inverseChanges (changesOf o m hs) = changesOf m o (hs.map Hunk.swap) := by
  induction hs generalizing o m with
  | nil => rfl
  | cons h hs ih =>
      rw [changesOf, List.map_cons, changesOf, ← inverseChange_hunkChange]
      exact congrArg _ ih

theorem isDeletion_hunkChange (hm : 0 ≤ m) :
    (hunkChange o m h).isDeletion = decide (h.added = 0) := by
  unfold IChange.isDeletion hunkChange
  dsimp only
  split
  · next hadded => rw [hadded]; rfl
  · next hadded =>
      rw [decide_eq_false hadded, beq_eq_false_iff_ne]
      omega

theorem isInsertion_hunkChange (ho : 0 ≤ o) :
    (hunkChange o m h).isInsertion = decide (h.removed = 0) :=
  isDeletion_hunkChange (o := m) (h := h.swap) ho

/-! ## Normalizing -/

theorem doNormalizeChange_hunkChange (hadded : 0 < h.added) (hlt : h.added < h.removed) :
    (hunkChange o m h).doNormalizeChange (h.removed - h.added) = changesOf o m h.split := by
  have hpaired : h.paired = h.added := Nat.min_eq_right (Nat.le_of_lt hlt)
  have hsurplus : h.removed - h.added ≠ 0 := Nat.sub_ne_zero_of_lt hlt
  have hadded' : h.added ≠ 0 := Nat.ne_of_gt hadded
  have hremoved' : h.removed ≠ 0 := Nat.ne_of_gt (Nat.lt_trans hadded hlt)
  simp only [IChange.doNormalizeChange, hunkChange, Hunk.split, changesOf, hpaired, hadded',
    hremoved', hsurplus, Nat.sub_self, if_false, if_true, List.cons.injEq, IChange.mk.injEq,
    and_true, true_and]
  refine ⟨?_, ?_, ?_, ?_⟩
  · omega
  · omega
  · omega
  · omega

/-- A change of the mapper's input becomes the changes of its parts. -/
theorem normalizeChange_hunkChange (ho : 0 ≤ o) (hm : 0 ≤ m) :
    (hunkChange o m h).normalizeChange = changesOf o m (normalHunk h) := by
  rw [IChange.normalizeChange, isDeletion_hunkChange hm, isInsertion_hunkChange ho, normalHunk]
  by_cases hadded : h.added = 0
  · rw [decide_eq_true hadded, Bool.true_or, if_pos rfl, if_pos (Or.inr (Or.inl hadded))]
    rfl
  · by_cases hremoved : h.removed = 0
    · rw [decide_eq_true hremoved, Bool.or_true, if_pos rfl, if_pos (Or.inl hremoved)]
      rfl
    · have hlength : (hunkChange o m h).getOriginalLength -
          (hunkChange o m h).getModifiedLength = h.removed - h.added := by
        simp only [IChange.getOriginalLength, IChange.getModifiedLength, hunkChange, hadded,
          hremoved, if_false]
        omega
      rw [decide_eq_false hadded, decide_eq_false hremoved, Bool.or_false,
        if_neg Bool.false_ne_true]
      dsimp only
      rw [hlength]
      rcases Nat.lt_trichotomy h.removed h.added with hlt | heq | hgt
      · rw [if_neg (by omega), if_neg (by omega), if_neg (by omega), inverseChange_hunkChange]
        -- the longer side is the other one, so the change is split the other way round
        have hsplit : (hunkChange m o h.swap).doNormalizeChange
            (h.swap.removed - h.swap.added) = changesOf m o h.swap.split :=
          doNormalizeChange_hunkChange (Nat.pos_of_ne_zero hremoved) hlt
        have hsign : ((h.removed : Int) - h.added) * -1 = h.swap.removed - h.swap.added := by
          dsimp only [Hunk.swap]
          omega
        have hswap : h.swap.split.map Hunk.swap = h.split := by
          simp only [Hunk.split, List.map_cons, List.map_nil, h.paired_swap]
          rfl
        rw [hsign, hsplit]
        exact inverseChanges_changesOf.trans (congrArg _ hswap)
      · rw [if_pos (by omega), if_pos (Or.inr (Or.inr heq))]
        rfl
      · rw [if_neg (by omega), if_pos (by omega), if_neg (by omega)]
        exact doNormalizeChange_hunkChange (Nat.pos_of_ne_zero hadded) hgt

/-- What lies behind a hunk that was split stays where it was. -/
theorem changesOf_normalHunk :
    changesOf o m (normalHunk h ++ hs) =
      changesOf o m (normalHunk h) ++
        changesOf (o + h.same + h.removed) (m + h.same + h.added) hs := by
  unfold normalHunk
  split
  · rfl
  · have hle := h.paired_le
    have hremoved : o + h.same + h.paired + (0 : Nat) + (h.removed - h.paired : Nat) =
        o + h.same + h.removed := by omega
    have hadded : m + h.same + h.paired + (0 : Nat) + (h.added - h.paired : Nat) =
        m + h.same + h.added := by omega
    simp only [Hunk.split, List.cons_append, List.nil_append, changesOf, hremoved, hadded]

theorem normalizeChanges_changesOf (ho : 0 ≤ o) (hm : 0 ≤ m) :
    normalizeChanges (changesOf o m hs) = changesOf o m (hs.flatMap normalHunk) := by
  induction hs generalizing o m with
  | nil => rfl
  | cons h hs ih =>
      rw [changesOf, normalizeChanges, List.flatMap_cons, normalizeChange_hunkChange ho hm,
        List.flatMap_cons, changesOf_normalHunk]
      exact congrArg _ (ih (by omega) (by omega))

theorem counterpart_normal :
    Counterpart o m (hs.flatMap normalHunk) x y ↔ Counterpart o m hs x y := by
  induction hs generalizing o m with
  | nil => exact Iff.rfl
  | cons h hs ih =>
      rw [List.flatMap_cons, normalHunk]
      split
      · exact or_congr_right ih
      · rw [counterpart_split]
        exact or_congr_right ih

/-! ## Mapping -/

section

variable {cs : List IChange} {delta : Int}

theorem doMapFrom_insertion (hm : 0 ≤ m) (hremoved : h.removed = 0) (hadded : 0 < h.added) :
    doMapFrom x delta (hunkChange o m h :: cs) =
      if x ≤ o + h.same then x + delta else doMapFrom x (delta + h.added) cs := by
  have hdeletion : (hunkChange o m h).isDeletion = false := by
    rw [isDeletion_hunkChange hm, decide_eq_false (Nat.ne_of_gt hadded)]
  have hdelta : (hunkChange o m h).computeDelta = h.added := by
    simp only [IChange.computeDelta, IChange.isInsertion, IChange.getModifiedLength, hunkChange,
      hremoved, Nat.ne_of_gt hadded, if_true, if_false, beq_self_eq_true]
    omega
  rw [doMapFrom, IChange.isBelow, IChange.isDeleted, hdeletion, hdelta]
  simp only [hunkChange, hremoved, if_true, Bool.false_eq_true, if_false, Bool.false_and,
    decide_eq_true_eq, ge_iff_le]

theorem doMapFrom_deletion (ho : 0 ≤ o) (hm : 0 ≤ m) (hremoved : 0 < h.removed)
    (hadded : h.added = 0) :
    doMapFrom x delta (hunkChange o m h :: cs) =
      if x ≤ o + h.same then x + delta
      else if x ≤ o + h.same + h.removed then 0
      else doMapFrom x (delta - h.removed) cs := by
  have hdeletion : (hunkChange o m h).isDeletion = true := by
    rw [isDeletion_hunkChange hm, decide_eq_true hadded]
  have hinsertion : (hunkChange o m h).isInsertion = false := by
    rw [isInsertion_hunkChange ho, decide_eq_false (Nat.ne_of_gt hremoved)]
  have hdelta : (hunkChange o m h).computeDelta = -h.removed := by
    rw [IChange.computeDelta, hinsertion, hdeletion]
    simp only [IChange.getOriginalLength, hunkChange, Nat.ne_of_gt hremoved, if_true, if_false,
      Bool.false_eq_true]
    omega
  rw [doMapFrom, IChange.isBelow, IChange.isDeleted, hdeletion, hdelta]
  simp only [hunkChange, Nat.ne_of_gt hremoved, if_true, if_false, Bool.true_and,
    decide_eq_true_eq, ge_iff_le, gt_iff_lt, Int.lt_add_one_iff, Int.sub_eq_add_neg]

/-- How a line goes past a replacement with sides of one length. -/
theorem doMapFrom_replacement (ho : 0 ≤ o) (hm : 0 ≤ m) (hremoved : 0 < h.removed)
    (hsides : h.removed = h.added) :
    doMapFrom x delta (hunkChange o m h :: cs) =
      if x ≤ o + h.same + 1 then x + delta else doMapFrom x delta cs := by
  have hdeletion : (hunkChange o m h).isDeletion = false := by
    rw [isDeletion_hunkChange hm, decide_eq_false (hsides ▸ Nat.ne_of_gt hremoved)]
  have hinsertion : (hunkChange o m h).isInsertion = false := by
    rw [isInsertion_hunkChange ho, decide_eq_false (Nat.ne_of_gt hremoved)]
  have hdelta : (hunkChange o m h).computeDelta = 0 := by
    rw [IChange.computeDelta, hinsertion, hdeletion]
    rfl
  rw [doMapFrom, IChange.isBelow, IChange.isDeleted, hdeletion, hdelta, Int.add_zero]
  simp only [hunkChange, Nat.ne_of_gt hremoved, Bool.false_eq_true, if_false, Bool.false_and,
    decide_eq_true_eq, ge_iff_le]

end

/-- Changes behind the line stop the loop. -/
theorem doMapFrom_of_le (hhs : ∀ h ∈ hs, Normal h) (ho : 0 ≤ o) (hm : 0 ≤ m) (hx : x ≤ o)
    (delta : Int) : doMapFrom x delta (changesOf o m hs) = x + delta := by
  cases hs with
  | nil => rfl
  | cons h hs =>
      rcases hhs h List.mem_cons_self with ⟨hchanges, hremoved | hadded | hsides⟩
      · rw [changesOf, doMapFrom_insertion hm hremoved (by omega), if_pos (by omega)]
      · rw [changesOf, doMapFrom_deletion ho hm (by omega) hadded, if_pos (by omega)]
      · rw [changesOf, doMapFrom_replacement ho hm (by omega) hsides, if_pos (by omega)]

/-- Behind the offsets a line is mapped to its counterpart, or to zero without one. -/
theorem doMapFrom_iff (hhs : ∀ h ∈ hs, Normal h) (ho : 0 ≤ o) (hm : 0 ≤ m) (hx : o < x) :
    Counterpart o m hs x y ↔ doMapFrom x (m - o) (changesOf o m hs) = y ∧ y ≠ 0 := by
  induction hs generalizing o m with
  | nil =>
      rw [changesOf, doMapFrom, Counterpart]
      omega
  | cons h hs ih =>
      have hrest : ∀ h' ∈ hs, Normal h' := fun h' hh' => hhs h' (List.mem_cons_of_mem h hh')
      -- No later hunk has a counterpart for a line before it.
      have hnone : x ≤ o + h.same + h.removed →
          ¬ Counterpart (o + h.same + h.removed) (m + h.same + h.added) hs x y :=
        fun hle hbehind => absurd (counterpart_gt hbehind).1 (Int.not_lt.mpr hle)
      rw [changesOf, Counterpart]
      rcases hhs h List.mem_cons_self with ⟨hchanges, hremoved | hadded | hsides⟩
      · have hpaired : h.paired = 0 := by
          unfold Hunk.paired
          omega
        rw [doMapFrom_insertion hm hremoved (by omega), hpaired]
        by_cases hle : x ≤ o + h.same
        · rw [if_pos hle, or_iff_left (hnone (by omega))]
          omega
        · have hdelta : m - o + h.added =
              m + h.same + h.added - (o + h.same + h.removed) := by omega
          rw [if_neg hle, hdelta, ← ih hrest (by omega) (by omega) (by omega)]
          exact or_iff_right (by omega)
      · have hpaired : h.paired = 0 := by
          unfold Hunk.paired
          omega
        rw [doMapFrom_deletion ho hm (by omega) hadded, hpaired]
        by_cases hle : x ≤ o + h.same
        · rw [if_pos hle, or_iff_left (hnone (by omega))]
          omega
        · rw [if_neg hle]
          by_cases hdeleted : x ≤ o + h.same + h.removed
          · rw [if_pos hdeleted, or_iff_left (hnone hdeleted)]
            omega
          · have hdelta : m - o - h.removed =
                m + h.same + h.added - (o + h.same + h.removed) := by omega
            rw [if_neg hdeleted, hdelta, ← ih hrest (by omega) (by omega) (by omega)]
            exact or_iff_right (by omega)
      · have hpaired : h.paired = h.removed := by
          unfold Hunk.paired
          omega
        rw [doMapFrom_replacement ho hm (by omega) hsides, hpaired]
        by_cases hle : x ≤ o + h.same + h.removed
        · have hstop := doMapFrom_of_le (x := x) hrest
            (o := o + h.same + h.removed) (m := m + h.same + h.added) (by omega) (by omega) hle
            (m - o)
          rw [hstop, ite_self, or_iff_left (hnone hle)]
          omega
        · have hdelta : m - o = m + h.same + h.added - (o + h.same + h.removed) := by omega
          rw [if_neg (by omega), hdelta, ← ih hrest (by omega) (by omega) (by omega)]
          exact or_iff_right (by omega)

/-- A line is mapped to its counterpart. The induction is on the hunks. -/
theorem doMap_toChanges_iff (d : Diff) (hx : 0 < x) :
    Counterpart 0 0 d.hunks x y ↔ mapToChanges (some d.toChanges) x = y ∧ y ≠ 0 := by
  have hnormal : ∀ h ∈ d.hunks.flatMap normalHunk, Normal h := by
    intro h hh
    rcases List.mem_flatMap.mp hh with ⟨h', hh', hmem⟩
    exact normal_of_mem_normalHunk (d.changes h' hh') hmem
  rw [mapToChanges, Diff.toChanges, normalizeChanges_changesOf (Int.le_refl 0) (Int.le_refl 0),
    doMap, ← counterpart_normal]
  exact doMapFrom_iff hnormal (Int.le_refl 0) (Int.le_refl 0) hx

theorem doMap_inverse_iff (d : Diff) (hy : 0 < y) :
    Counterpart 0 0 d.hunks x y ↔ mapToPullRequest (some d.toChanges) y = x ∧ x ≠ 0 := by
  have hnormal : ∀ h ∈ (d.hunks.flatMap normalHunk).map Hunk.swap, Normal h := by
    intro h hh
    rcases List.mem_map.mp hh with ⟨h', hh', rfl⟩
    rcases List.mem_flatMap.mp hh' with ⟨h'', hh'', hmem⟩
    rcases normal_of_mem_normalHunk (d.changes h'' hh'') hmem with ⟨hchanges, hsides⟩
    constructor
    · dsimp only [Hunk.swap]
      omega
    · dsimp only [Hunk.swap]
      omega
  rw [mapToPullRequest, Diff.toChanges,
    normalizeChanges_changesOf (Int.le_refl 0) (Int.le_refl 0), inverseChanges_changesOf, doMap,
    ← counterpart_normal, counterpart_swap]
  exact doMapFrom_iff hnormal (Int.le_refl 0) (Int.le_refl 0) hy

/-- A mapper, one way and back: it finds counterparts only, all of them, and zero for the lines
that have none. -/
theorem maps_of_iff {there back : Int → Int}
    (hthere : ∀ x y, 0 < x → (Counterpart 0 0 hs x y ↔ there x = y ∧ y ≠ 0))
    (hback : ∀ x y, 0 < y → (Counterpart 0 0 hs x y ↔ back y = x ∧ x ≠ 0)) :
    (∀ x, 0 < x → there x ≠ 0 → 0 < there x ∧ back (there x) = x) ∧
    (∀ x x', 0 < x → x < x' → there x ≠ 0 → there x' ≠ 0 → there x < there x') ∧
    ∀ x, 0 < x → (there x = 0 ↔ Surplus 0 hs x) := by
  refine ⟨fun x hx hne => ?_, fun x x' hx hlt hne hne' => ?_, fun x hx => ?_⟩
  · have hxy := (hthere x (there x) hx).mpr ⟨rfl, hne⟩
    have hpos := (counterpart_gt hxy).2
    exact ⟨hpos, ((hback x (there x) hpos).mp hxy).1⟩
  · exact counterpart_lt ((hthere x _ hx).mpr ⟨rfl, hne⟩)
      ((hthere x' _ (Int.lt_trans hx hlt)).mpr ⟨rfl, hne'⟩) hlt
  · rw [surplus_iff (m := 0) hx]
    constructor
    · intro hzero y hxy
      rcases (hthere x y hx).mp hxy with ⟨hy, hne⟩
      exact hne (hy ▸ hzero)
    · intro hnone
      by_contra hne
      exact hnone _ ((hthere x _ hx).mpr ⟨rfl, hne⟩)

/-- Both directions are inverse to each other and strictly increasing where they do not map to
    zero, and they map to zero exactly the lines at the end of the longer side of a hunk. A
    comment on a line of a pull request is thus shown at one line of the editor and no other,
    and comes back to where it was. -/
theorem maps_lines (d : Diff) :
    let toChanges := mapToChanges (some d.toChanges)
    let toPullRequest := mapToPullRequest (some d.toChanges)
    ((∀ x, 0 < x → toChanges x ≠ 0 → 0 < toChanges x ∧ toPullRequest (toChanges x) = x) ∧
      (∀ x x', 0 < x → x < x' → toChanges x ≠ 0 → toChanges x' ≠ 0 →
        toChanges x < toChanges x') ∧
      ∀ x, 0 < x → (toChanges x = 0 ↔ Surplus 0 d.hunks x)) ∧
    (∀ y, 0 < y → toPullRequest y ≠ 0 →
        0 < toPullRequest y ∧ toChanges (toPullRequest y) = y) ∧
      (∀ y y', 0 < y → y < y' → toPullRequest y ≠ 0 → toPullRequest y' ≠ 0 →
        toPullRequest y < toPullRequest y') ∧
      ∀ y, 0 < y → (toPullRequest y = 0 ↔ Surplus 0 (d.hunks.map Hunk.swap) y) := by
  constructor
  · exact maps_of_iff (fun x y => doMap_toChanges_iff d) fun x y => doMap_inverse_iff d
  · refine maps_of_iff (fun y x hy => ?_) fun y x hx => ?_
    · rw [← counterpart_swap]
      exact doMap_inverse_iff d hy
    · rw [← counterpart_swap]
      exact doMap_toChanges_iff d hx

/-- An insertion, a replacement and a deletion. -/
def complexChange : Diff where
  hunks := [⟨0, 0, 1⟩, ⟨1, 2, 2⟩, ⟨1, 1, 0⟩]
  changes := by decide

example : complexChange.toChanges = [⟨0, 0, 1, 1⟩, ⟨2, 3, 3, 4⟩, ⟨5, 5, 5, 0⟩] := by decide

theorem maps_complexChange :
    mapToChanges (some complexChange.toChanges) 2 = 3 ∧
      mapToPullRequest (some complexChange.toChanges)
        (mapToChanges (some complexChange.toChanges) 2) = 2 :=
  ⟨by decide, ((maps_lines complexChange).1.1 2 (by decide) (by decide)).2⟩

end Theia

end Nxpod
