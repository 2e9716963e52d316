import Mathlib.Data.List.Infix
import Mathlib.Data.List.MinMax
import Nxpod.Library.Scanner
import Nxpod.Library.Text

/-!
# Mount Points

The mount point of a directory is looked up in a table with a line for each mount. The lines are
taken one after the other, and one replaces what has been found before if its path is a prefix of
the directory's, character by character, and longer.

What is wanted is the deepest mount point on the way to the directory, where the way goes from one
name to the next. A prefix may end in the middle of a name, and then it is the path of another
directory. Only a comparison of the names would see the difference.

## Main definitions

* `MountPoint`: An entry in a proc mounts file.
* `findMountPoint`: The source's function.
* `components`, `Ancestor`: The names in a path, and a directory on the way to another one.
* `Finds`: The deepest mount point is found.
* `Plain`: The condition on a table and a directory.

## Theorems

* `findMountPoint_eq`: What is found is the longest prefix.
* `depth_le_depth`: A longer prefix has no fewer names.
* `finds_iff`: When the deepest mount point is found.
-/

namespace Nxpod

namespace WsSync

namespace Mounts

open Scanner Text

/-! ## The lookup -/

/-- An entry in a proc mounts file. -/
@[ext] structure MountPoint where
  device : List Char
  path : List Char
  fs : List Char
  opts : List Char
deriving DecidableEq, Repr

/-- Texts are in UTF-8. -/
def chars : Alphabet Char where
  newline := '\n'
  carriage := '\r'
  size := fun c => c.utf8Size

/-- How many bytes a text has, since this is what Go compares and what the scanner counts. -/
abbrev len (text : List Char) : Nat :=
  chars.weight text

/-- The error of a scanner that meets a line it has no room for. -/
def errTooLong : String := "bufio.Scanner: token too long"

/-- What one line does to the result so far. -/
def consider (dir : List Char) (res : MountPoint) (line : List Char) : MountPoint :=
  match fields line with
  | device :: mp :: fs :: opts :: _ =>
      if mp <+: dir ∧ len res.path < len mp then ⟨device, mp, fs, opts⟩ else res
  | _ => res

/-- All lines are gone through before an error of the scanner is looked at. -/
def findMountPoint (mountFile dir : List Char) : Except String (Option MountPoint) :=
  let scanner := scan chars true [] mountFile
  let res := scanner.1.foldl (consider dir) ⟨[], [], [], []⟩
  if scanner.2 then .error errTooLong
  else if res.path = [] then .ok none
  else .ok (some res)

/-! ## The deepest mount point -/

/-- The entry in a line, if it has one. -/
def mountPointOf (line : List Char) : Option MountPoint :=
  match fields line with
  | device :: mp :: fs :: opts :: _ => some ⟨device, mp, fs, opts⟩
  | _ => none

/-- The mount points in the order of the table. A line that has too few fields is none. -/
def entries (mountFile : List Char) : List MountPoint :=
  (mountFile.splitOn '\n').filterMap mountPointOf

/-- The names in a path. A dot is the directory itself. -/
def components (path : List Char) : List (List Char) :=
  (path.splitOn '/').filter fun name => name ≠ [] ∧ name ≠ ['.']

/-- How many names a path has. -/
def depth (path : List Char) : Nat :=
  (components path).length

/-- A path from the root, as the caller makes it. -/
structure AbsolutePath where
  name : List Char
  absolute : name.head? = some '/'

/-- The directory `mp` is `dir` itself, or on the way to it. -/
def Ancestor (mp dir : List Char) : Prop :=
  mp.head? = some '/' ∧ components mp <+: components dir

instance (mp dir : List Char) : Decidable (Ancestor mp dir) :=
  inferInstanceAs (Decidable (_ ∧ _))

/-- The mount point is on the way to the directory, and none on it is deeper. -/
structure Deepest (mountFile dir : List Char) (mp : MountPoint) : Prop where
  entry : mp ∈ entries mountFile
  ancestor : Ancestor mp.path dir
  deepest : ∀ other ∈ entries mountFile, Ancestor other.path dir →
    depth other.path ≤ depth mp.path

/-- The deepest mount point is returned, and none only if there is none. -/
def Finds (mountFile : List Char) (dir : AbsolutePath) : Prop :=
  match findMountPoint mountFile dir.name with
  | .ok (some mp) => Deepest mountFile dir.name mp
  | .ok none => ∀ mp ∈ entries mountFile, ¬Ancestor mp.path dir.name
  | .error _ => False

/-- An entry whose path is that of a directory on the way to `dir`, spelled as in `dir`. -/
def Shown (mountFile dir : List Char) (mp : MountPoint) : Prop :=
  mp ∈ entries mountFile ∧ Ancestor mp.path dir ∧ mp.path <+: dir

/-- The table has no line and no path by which the comparison of texts is misled. -/
structure Plain (mountFile dir : List Char) : Prop where
  /-- All lines fit into the scanner's buffer. -/
  short : ∀ line ∈ mountFile.splitOn '\n', len line < maxScanTokenSize
  /-- A path with which `dir` begins in the middle of a name is shorter than that of a mount
      point on the way. -/
  siblings : ∀ mp ∈ entries mountFile, mp.path <+: dir → ¬Ancestor mp.path dir →
    ∃ other, Shown mountFile dir other ∧ len mp.path < len other.path
  /-- A mount point on the way that `dir` does not begin with, as it is written, is no deeper
      than one it begins with. -/
  spelled : ∀ mp ∈ entries mountFile, Ancestor mp.path dir →
    ∃ other, Shown mountFile dir other ∧ depth mp.path ≤ depth other.path

/-! ## What is found -/

section Found

variable {mountFile dir : List Char}

theorem len_pos {text : List Char} (h : text ≠ []) : 0 < len text := by
  cases text with
  | nil => exact absurd rfl h
  | cons c cs =>
      rw [len, weight_cons]
      exact Nat.add_pos_left (Char.utf8Size_pos c) _

/-- Of two texts that another one begins with, the shorter one is a prefix of the longer. -/
theorem prefix_of_len_le {xs ys : List Char} (hx : xs <+: dir) (hy : ys <+: dir)
    (hle : len xs ≤ len ys) : xs <+: ys := by
  rcases List.prefix_or_prefix_of_prefix hx hy with h | ⟨rest, rfl⟩
  · exact h
  · rw [len, len, weight_append] at hle
    have hrest : rest = [] := by
      by_contra hne
      have hpos := len_pos hne
      unfold len at hpos
      omega
    rw [hrest, List.append_nil]

/-- Every entry has a path, which is how one is told from none. -/
theorem path_ne_nil {mp : MountPoint} (h : mp ∈ entries mountFile) : mp.path ≠ [] := by
  rcases List.mem_filterMap.mp h with ⟨line, -, hline⟩
  unfold mountPointOf at hline
  split at hline
  · rename_i device path fs opts rest heq
    cases hline
    have hmem : path ∈ fields line := by
      rw [heq]
      exact List.mem_cons_of_mem _ List.mem_cons_self
    exact ne_nil_of_mem_fields hmem
  · exact nomatch hline

/-- What one entry does to the result so far. -/
def replace (dir : List Char) (res mp : MountPoint) : MountPoint :=
  if mp.path <+: dir ∧ len res.path < len mp.path then mp else res

theorem foldl_consider (lines : List (List Char)) (res : MountPoint) :
    lines.foldl (consider dir) res = (lines.filterMap mountPointOf).foldl (replace dir) res := by
  induction lines generalizing res with
  | nil => rfl
  | cons line lines ih =>
      rw [List.foldl_cons, ih, List.filterMap_cons]
      unfold consider mountPointOf
      split <;> rfl

/-- A carriage return at the end is white space like any other. -/
theorem mountPointOf_dropCR (line : List Char) :
    mountPointOf (dropCR chars line) = mountPointOf line := by
  unfold dropCR
  split_ifs with h
  · have hline : line = line.dropLast ++ ['\r'] :=
      (List.dropLast_append_getLast? _ h).symm
    unfold mountPointOf
    rw [hline, List.dropLast_concat, fields_concat _ (by decide)]
  · rfl

/-- The first one among the longest paths that are a prefix. -/
def longest (mountFile dir : List Char) : Option MountPoint :=
  ((entries mountFile).filter fun mp => mp.path <+: dir).argmax fun mp => len mp.path

/-- Going through the lines finds the longest path, and of several the first one. -/
theorem foldl_replace (l : List MountPoint) (hl : ∀ mp ∈ l, mp.path ≠ []) :
    l.foldl (replace dir) ⟨[], [], [], []⟩ =
      ((l.filter fun mp => mp.path <+: dir).argmax fun mp => len mp.path).getD
        ⟨[], [], [], []⟩ := by
  induction l using List.reverseRecOn with
  | nil => rfl
  | append_singleton l mp ih =>
      have hmp := hl mp (List.mem_append_right _ (List.mem_singleton_self mp))
      rw [List.foldl_append, List.foldl_cons, List.foldl_nil, List.filter_append,
        ih fun other h => hl other (List.mem_append_left _ h)]
      unfold replace
      by_cases hpre : mp.path <+: dir
      · rw [List.filter_cons_of_pos (by exact decide_eq_true hpre), List.filter_nil,
          List.argmax_concat]
        cases (l.filter fun mp => mp.path <+: dir).argmax fun mp => len mp.path with
        | none => exact if_pos ⟨hpre, len_pos hmp⟩
        | some other =>
            by_cases hlt : len other.path < len mp.path
            · simp only [Option.getD_some, hpre, hlt, and_self, if_true]
            · simp only [Option.getD_some, hlt, and_false, if_false]
      · rw [List.filter_cons_of_neg (by simpa using hpre), List.filter_nil, List.append_nil,
          if_neg fun h => hpre h.1]

theorem findMountPoint_eq (hshort : ∀ line ∈ mountFile.splitOn '\n', len line < maxScanTokenSize) :
    findMountPoint mountFile dir = .ok (longest mountFile dir) := by
  have hscan := (scan_eq_false_iff (A := chars) mountFile).mpr hshort
  have hentries : (scan chars true [] mountFile).1.filterMap mountPointOf = entries mountFile := by
    rw [filterMap_scan rfl hshort]
    simp only [mountPointOf_dropCR]
    rfl
  simp only [findMountPoint, hscan]
  rw [foldl_consider, hentries, foldl_replace _ fun mp h => path_ne_nil h]
  unfold longest
  cases hmax : ((entries mountFile).filter fun mp => mp.path <+: dir).argmax
      fun mp => len mp.path with
  | none => rfl
  | some mp =>
      have hmem := (List.mem_filter.mp (List.argmax_mem hmax)).1
      simp only [Bool.false_eq_true, if_false, Option.getD_some, if_neg (path_ne_nil hmem)]

theorem findMountPoint_of_tooLong {line : List Char} (hmem : line ∈ mountFile.splitOn '\n')
    (hlong : maxScanTokenSize ≤ len line) : findMountPoint mountFile dir = .error errTooLong := by
  have hscan : (scan chars true [] mountFile).2 = true := by
    rw [← Bool.not_eq_false, scan_eq_false_iff]
    exact fun h => absurd (h line hmem) (Nat.not_lt.mpr hlong)
  simp only [findMountPoint, hscan, if_true]

end Found

/-! ## Names -/

section Names

/-- A path goes on behind a slash with the names of what follows. -/
theorem components_append (xs rest : List Char) :
    components (xs ++ '/' :: rest) = components xs ++ components rest := by
  unfold components
  rw [← List.filter_append, List.splitOn_eq_splitOnP, List.splitOn_eq_splitOnP,
    List.splitOn_eq_splitOnP]
  exact congrArg _ (List.splitOnP_append_cons xs rest (beq_self_eq_true '/'))

theorem depth_append (xs rest : List Char) :
    depth (xs ++ '/' :: rest) = depth xs + depth rest := by
  rw [depth, components_append, List.length_append]
  rfl

/-- What has no separator in it is one name, if it is one. -/
theorem depth_of_not_mem {name : List Char} (h : '/' ∉ name) :
    depth name = if name ≠ [] ∧ name ≠ ['.'] then 1 else 0 := by
  rw [depth, components, List.splitOn_eq_singleton h, List.filter_singleton]
  by_cases hname : name ≠ [] ∧ name ≠ ['.']
  · rw [if_pos hname, decide_eq_true hname]
    rfl
  · rw [if_neg hname, decide_eq_false hname]
    rfl

theorem depth_le_concat_of_not_mem {name : List Char} {c : Char} (h : '/' ∉ name) (hc : c ≠ '/') :
    depth name ≤ depth (name ++ [c]) := by
  have hmem : '/' ∉ name ++ [c] := by
    rw [List.mem_append, List.mem_singleton, not_or]
    exact ⟨h, Ne.symm hc⟩
  rw [depth_of_not_mem h, depth_of_not_mem hmem]
  split_ifs with hname hlonger
  · exact Nat.le_refl 1
  · -- a name that is longer than one is a name
    refine absurd ⟨List.concat_ne_nil c name, fun heq => hname.1 ?_⟩ hlonger
    rcases List.append_eq_singleton_iff.mp heq with h | h
    · exact h.1
    · exact absurd h.2 (List.cons_ne_nil c [])
  · exact Nat.zero_le _
  · exact Nat.le_refl 0

theorem depth_le_concat (xs : List Char) (c : Char) : depth xs ≤ depth (xs ++ [c]) := by
  by_cases hc : c = '/'
  · rw [hc, depth_append]
    exact Nat.le_add_right _ _
  · rcases not_mem_or_exists_last '/' xs with h | ⟨front, name, rfl, h⟩
    · exact depth_le_concat_of_not_mem h hc
    · rw [List.append_assoc, List.cons_append, depth_append, depth_append]
      exact Nat.add_le_add_left (depth_le_concat_of_not_mem h hc) _

/-- A path is as deep as any that it begins with, whether this ends in a name or not. -/
theorem depth_le_depth {xs ys : List Char} (h : xs <+: ys) : depth xs ≤ depth ys := by
  rcases h with ⟨rest, rfl⟩
  induction rest using List.reverseRecOn with
  | nil => rw [List.append_nil]
  | append_singleton rest c ih =>
      rw [← List.append_assoc]
      exact ih.trans (depth_le_concat _ c)

end Names

/-! ## The deepest one -/

section Right

variable {mountFile dir : List Char} {mp : MountPoint}

theorem mem_candidates {other : MountPoint} :
    (other ∈ (entries mountFile).filter fun mp => mp.path <+: dir) ↔
      other ∈ entries mountFile ∧ other.path <+: dir := by
  rw [List.mem_filter, decide_eq_true_iff]

theorem mem_of_longest (h : longest mountFile dir = some mp) :
    mp ∈ entries mountFile ∧ mp.path <+: dir :=
  mem_candidates.mp (List.argmax_mem h)

theorem len_le_longest (h : longest mountFile dir = some mp) {other : MountPoint}
    (hother : other ∈ entries mountFile) (hpre : other.path <+: dir) :
    len other.path ≤ len mp.path :=
  List.le_of_mem_argmax (f := fun mp => len mp.path) (mem_candidates.mpr ⟨hother, hpre⟩) h

theorem not_prefix_of_longest (h : longest mountFile dir = none) {other : MountPoint}
    (hother : other ∈ entries mountFile) : ¬other.path <+: dir := by
  intro hpre
  have hmem := mem_candidates.mpr ⟨hother, hpre⟩
  rw [List.argmax_eq_none.mp h] at hmem
  exact List.not_mem_nil hmem

/-- The longest path is the deepest one, since both are on the way. -/
theorem deepest_of_plain (hplain : Plain mountFile dir) (h : longest mountFile dir = some mp) :
    Deepest mountFile dir mp := by
  rcases mem_of_longest h with ⟨hmem, hpre⟩
  refine ⟨hmem, ?_, fun other hother hanc => ?_⟩
  · by_contra hanc
    rcases hplain.siblings mp hmem hpre hanc with ⟨other, ⟨hother, -, hopre⟩, hlt⟩
    exact absurd (len_le_longest h hother hopre) (Nat.not_le.mpr hlt)
  · rcases hplain.spelled other hother hanc with ⟨shown, ⟨hshown, -, hspre⟩, hle⟩
    refine hle.trans (depth_le_depth ?_)
    exact prefix_of_len_le hspre hpre (len_le_longest h hshown hspre)

theorem plain_of_deepest
    (hshort : ∀ line ∈ mountFile.splitOn '\n', len line < maxScanTokenSize)
    (h : longest mountFile dir = some mp) (hdeep : Deepest mountFile dir mp) :
    Plain mountFile dir := by
  rcases mem_of_longest h with ⟨hmem, hpre⟩
  have hshown : Shown mountFile dir mp := ⟨hmem, hdeep.ancestor, hpre⟩
  refine ⟨hshort, fun other hother hopre hanc => ⟨mp, hshown, ?_⟩,
    fun other hother hanc => ⟨mp, hshown, hdeep.deepest other hother hanc⟩⟩
  refine lt_of_not_ge fun hle => hanc ?_
  -- a prefix that is no shorter would be the same path
  have heq : other.path = mp.path :=
    antisymm (r := List.IsPrefix) (prefix_of_len_le hopre hpre (len_le_longest h hother hopre))
      (prefix_of_len_le hpre hopre hle)
  rw [heq]
  exact hdeep.ancestor

/-- The deepest mount point is found exactly if no prefix that ends within a name is the longest
    one. Names are compared as texts, and of all mount points that the directory begins with the
    one with the longest text is taken. -/
theorem finds_iff (mountFile : List Char) (dir : AbsolutePath) :
    Finds mountFile dir ↔ Plain mountFile dir.name := by
  by_cases hshort : ∀ line ∈ mountFile.splitOn '\n', len line < maxScanTokenSize
  · unfold Finds
    rw [findMountPoint_eq hshort]
    cases h : longest mountFile dir.name with
    | some mp => exact ⟨plain_of_deepest hshort h, fun hplain => deepest_of_plain hplain h⟩
    | none =>
        constructor
        · intro hnone
          exact ⟨hshort, fun mp hmp hpre => absurd hpre (not_prefix_of_longest h hmp),
            fun mp hmp hanc => absurd hanc (hnone mp hmp)⟩
        · intro hplain mp hmp hanc
          rcases hplain.spelled mp hmp hanc with ⟨other, ⟨hother, -, hpre⟩, -⟩
          exact not_prefix_of_longest h hother hpre
  · refine iff_of_false ?_ fun hplain => hshort hplain.short
    push Not at hshort
    rcases hshort with ⟨line, hmem, hlong⟩
    unfold Finds
    rw [findMountPoint_of_tooLong hmem hlong]
    exact not_false

/-- A volume is mounted beside a directory whose name begins with its own. -/
theorem sibling_found : ¬∀ mountFile dir, Finds mountFile dir := by
  intro h
  have hfinds := h "/dev/sdb /mnt/a ext4 rw 0 0\n".toList ⟨"/mnt/ab".toList, rfl⟩
  have hfound : findMountPoint "/dev/sdb /mnt/a ext4 rw 0 0\n".toList "/mnt/ab".toList =
      .ok (some ⟨"/dev/sdb".toList, "/mnt/a".toList, "ext4".toList, "rw".toList⟩) := by
    rfl
  unfold Finds at hfinds
  rw [hfound] at hfinds
  exact absurd hfinds.ancestor (by decide)

end Right

end Mounts

end WsSync

end Nxpod
