import Nxpod.Library.Text

/-!
# Git Status

Git prints the status of a working copy one entry a line, with fields that are separated by blanks
and the path as the last one. A renamed entry has its original path behind a tab. Paths with
control characters, quotes or backslashes are printed in quotes, but blanks are not quoted.

The parser takes what is behind the last blank of a line. This is the path where the path has no
blank, and of a renamed entry both paths come back as one, unless the original path has a blank
itself. The lines are read by a scanner, which gives up on a line that does not fit its buffer.

## Main definitions

* `PorcelainStatus`: An empty list stands for `nil` too.
* `parsePorcelain`: The parser.
* `Entry`, `Printed`: What Git prints.
* `Printed.expected`: What is asked of the parser.
* `Printed.Fits`, `Entry.Recovered`: Where the parser does that.

## Theorems

* `scanLines_text`: The scanner finds the lines.
* `lastSegment_blank`, `lastSegment_eq_self_iff`: What is behind the last blank.
* `parseLine_entry`: What a line is parsed as.
* `parsePorcelain_iff`: Every printed status.
-/

namespace Nxpod

namespace Content

namespace Git

/-! ## The parser -/

/-- An empty list stands for `nil` too. -/
structure PorcelainStatus where
  branchOID : String
  branchHead : String
  uncommitedFiles : List String
  untrackedFiles : List String
  deriving DecidableEq

/-- The buffer of the scanner, in bytes. -/
def maxScanTokenSize : Nat := 64 * 1024

/-- The lines, without an empty one at the end. -/
def scanLines (text : List Char) : List (List Char) :=
  let pieces := text.splitOn '\n'
  if pieces.getLast? = some [] then pieces.dropLast else pieces

/-- The scanner takes a carriage return at the end of a line for a part of the line end. -/
def dropCR (line : List Char) : List Char :=
  if line.getLast? = some '\r' then line.dropLast else line

/-- `strings.HasPrefix`, on the characters. -/
def hasPrefix (line start : List Char) : Bool := start.isPrefixOf line

/-- `strings.TrimPrefix`. -/
def trimPrefix (line start : List Char) : List Char :=
  if hasPrefix line start then line.drop start.length else line

/-- The commit that is checked out. -/
def prefixBranchOID : List Char := "# branch.oid ".toList
/-- The branch that is checked out. -/
def prefixBranchHead : List Char := "# branch.head ".toList
/-- A file that was changed. -/
def prefixChangedFile : List Char := "1 ".toList
/-- A file that has another name now. -/
def prefixRenamedFile : List Char := "2 ".toList
/-- A file with a conflict. -/
def prefixUnmargedFile : List Char := "u ".toList
/-- A file that Git does not know. -/
def prefixUntrackedFile : List Char := "? ".toList

/-- `segments[len(segments)-1]` -/
def lastSegment (line : List Char) : List Char := (line.splitOn ' ').getLastD []

/-- A line adds to what was read before. The renamed files are asked for twice, and the unmerged
    ones once. -/
def parseLine (res : PorcelainStatus) (line : List Char) : PorcelainStatus :=
  if hasPrefix line prefixBranchOID then
    { res with branchOID := String.ofList (trimPrefix line prefixBranchOID) }
  else if hasPrefix line prefixBranchHead then
    { res with branchHead := String.ofList (trimPrefix line prefixBranchHead) }
  else if hasPrefix line prefixChangedFile || hasPrefix line prefixRenamedFile ||
      hasPrefix line prefixRenamedFile || hasPrefix line prefixUnmargedFile then
    { res with uncommitedFiles := res.uncommitedFiles ++ [String.ofList (lastSegment line)] }
  else if hasPrefix line prefixUntrackedFile then
    { res with untrackedFiles := res.untrackedFiles ++ [String.ofList (lastSegment line)] }
  else res

/-- The loop over the lines. It ends with an error at a line that is too long. -/
def scan (res : PorcelainStatus) : List (List Char) → Except String PorcelainStatus
  | [] => .ok res
  | line :: lines =>
      if maxScanTokenSize ≤ (String.ofList line).utf8ByteSize then
        .error "cannot parse porcelain: bufio.Scanner: token too long"
      else scan (parseLine res (dropCR line)) lines

/-- All lines, one after the other. -/
def parsePorcelain (text : String) : Except String PorcelainStatus :=
  scan ⟨"", "", [], []⟩ (scanLines text.toList)

/-! ## What Git prints -/

/-- Characters that need no quotes. -/
def isUnquoted (c : Char) : Bool :=
  decide (' ' ≤ c) && c != '\x7f' && c != '"' && c != '\\'

/-- A field or a path. -/
structure Field where
  text : List Char
  unquoted : ∀ c ∈ text, isUnquoted c = true

/-- What Git prints for a file, with all its fields in their order. -/
inductive Entry
  | changed (xy sub mH mI mW hH hI path : Field)
  | renamed (xy sub mH mI mW hH hI score path origPath : Field)
  | unmerged (xy sub m1 m2 m3 mW h1 h2 h3 path : Field)
  | untracked (path : Field)

/-- The fields before the path. -/
def fieldsText (fields : List Field) : List Char := fields.flatMap fun f => f.text ++ [' ']

/-- The line of an entry. Of a renamed one both paths come last, with a tab between them. -/
def Entry.line : Entry → List Char
  | changed xy sub mH mI mW hH hI path =>
      '1' :: ' ' :: (fieldsText [xy, sub, mH, mI, mW, hH, hI] ++ path.text)
  | renamed xy sub mH mI mW hH hI score path origPath =>
      '2' :: ' ' :: (fieldsText [xy, sub, mH, mI, mW, hH, hI, score] ++
        (path.text ++ '\t' :: origPath.text))
  | unmerged xy sub m1 m2 m3 mW h1 h2 h3 path =>
      'u' :: ' ' :: (fieldsText [xy, sub, m1, m2, m3, mW, h1, h2, h3] ++ path.text)
  | untracked path => '?' :: ' ' :: path.text

/-- The status that is printed, with the headers for the branch. -/
structure Printed where
  oid : Field
  head : Field
  upstream : Option Field
  aheadBehind : Option (Nat × Nat)
  entries : List Entry

/-- The branch, with what it follows and how far it is from there, if it follows anything. -/
def Printed.headerLines (st : Printed) : List (List Char) :=
  [prefixBranchOID ++ st.oid.text, prefixBranchHead ++ st.head.text] ++
    (st.upstream.map fun u => "# branch.upstream ".toList ++ u.text).toList ++
    (st.aheadBehind.map fun ab => "# branch.ab +".toList ++ ((toString ab.1).toList ++
      (" -".toList ++ (toString ab.2).toList))).toList

/-- The branch comes first. -/
def Printed.lines (st : Printed) : List (List Char) :=
  st.headerLines ++ st.entries.map Entry.line

/-- Every line has a line end, the last one too. -/
def Printed.text (st : Printed) : String :=
  String.ofList (st.lines.flatMap fun line => line ++ ['\n'])

/-- The current path of an entry that is not committed. -/
def Entry.uncommited? : Entry → Option String
  | changed _ _ _ _ _ _ _ path => some (String.ofList path.text)
  | renamed _ _ _ _ _ _ _ _ path _ => some (String.ofList path.text)
  | unmerged _ _ _ _ _ _ _ _ _ path => some (String.ofList path.text)
  | untracked _ => none

/-- The path, if Git does not know it. -/
def Entry.untracked? : Entry → Option String
  | untracked path => some (String.ofList path.text)
  | _ => none

/-- What the parser is to make of it. -/
def Printed.expected (st : Printed) : PorcelainStatus where
  branchOID := String.ofList st.oid.text
  branchHead := String.ofList st.head.text
  uncommitedFiles := st.entries.filterMap Entry.uncommited?
  untrackedFiles := st.entries.filterMap Entry.untracked?

/-- Every line fits the buffer. -/
def Printed.Fits (st : Printed) : Prop :=
  ∀ line ∈ st.lines, (String.ofList line).utf8ByteSize < maxScanTokenSize

/-- No path has a blank, and where a path was renamed the original one ends with a blank and the
same path. -/
def Entry.Recovered : Entry → Prop
  | changed _ _ _ _ _ _ _ path => ' ' ∉ path.text
  | renamed _ _ _ _ _ _ _ _ path origPath =>
      ' ' ∉ path.text ∧ ∃ w, origPath.text = w ++ ' ' :: path.text
  | unmerged _ _ _ _ _ _ _ _ _ path => ' ' ∉ path.text
  | untracked path => ' ' ∉ path.text

/-! ## Segments -/

variable {line w v : List Char} {st : Printed}

theorem lastSegment_blank (w v : List Char) : lastSegment (w ++ ' ' :: v) = lastSegment v := by
  rw [lastSegment, List.splitOn_append_cons_self, List.getLastD_eq_getLast?, List.getLast?_append,
    lastSegment, List.getLastD_eq_getLast?]
  cases hlast : (v.splitOn ' ').getLast? with
  | none => exact absurd (List.getLast?_eq_none_iff.mp hlast) (List.splitOn_ne_nil ' ' v)
  | some s => rfl

theorem lastSegment_of_not_mem (h : ' ' ∉ v) : lastSegment v = v := by
  rw [lastSegment, List.splitOn_eq_singleton h]
  rfl

theorem blank_not_mem_lastSegment (v : List Char) : ' ' ∉ lastSegment v := by
  rcases Text.not_mem_or_exists_last ' ' v with hnone | ⟨w, u, rfl, hu⟩
  · rw [lastSegment_of_not_mem hnone]
    exact hnone
  · rw [lastSegment_blank, lastSegment_of_not_mem hu]
    exact hu

theorem lastSegment_eq_self_iff : lastSegment v = v ↔ ' ' ∉ v :=
  ⟨fun h => h ▸ blank_not_mem_lastSegment v, lastSegment_of_not_mem⟩

/-- Of two paths with a tab between them the first one comes back only from the second. -/
theorem lastSegment_tab_eq_iff :
    lastSegment (v ++ '\t' :: w) = v ↔ ' ' ∉ v ∧ ∃ u, w = u ++ ' ' :: v := by
  constructor
  · intro h
    have hv : ' ' ∉ v := h ▸ blank_not_mem_lastSegment _
    refine ⟨hv, ?_⟩
    rcases Text.not_mem_or_exists_last ' ' w with hnone | ⟨u, s, rfl, hs⟩
    · -- then there is no blank at all
      have hall : ' ' ∉ v ++ '\t' :: w := by
        rw [List.mem_append, List.mem_cons]
        rintro (hmem | hmem | hmem)
        · exact hv hmem
        · exact absurd hmem (by decide)
        · exact hnone hmem
      rw [lastSegment_of_not_mem hall] at h
      have hlength := congrArg List.length h
      rw [List.length_append, List.length_cons] at hlength
      omega
    · have htext : v ++ '\t' :: (u ++ ' ' :: s) = (v ++ '\t' :: u) ++ ' ' :: s := by
        rw [List.append_assoc, List.cons_append]
      rw [htext, lastSegment_blank, lastSegment_of_not_mem hs] at h
      exact ⟨u, by rw [h]⟩
  · rintro ⟨hv, u, rfl⟩
    have htext : v ++ '\t' :: (u ++ ' ' :: v) = (v ++ '\t' :: u) ++ ' ' :: v := by
      rw [List.append_assoc, List.cons_append]
    rw [htext, lastSegment_blank, lastSegment_of_not_mem hv]

theorem lastSegment_fields (fields : List Field) (c : Char) (v : List Char) :
    lastSegment (c :: ' ' :: (fieldsText fields ++ v)) = lastSegment v := by
  have hfields : lastSegment (fieldsText fields ++ v) = lastSegment v := by
    induction fields with
    | nil => rfl
    | cons f fields ih =>
        rw [fieldsText, List.flatMap_cons, List.append_assoc, List.append_assoc,
          List.singleton_append, lastSegment_blank]
        exact ih
  exact (lastSegment_blank [c] _).trans hfields

/-! ## Lines -/

/-- Nothing that ends a line. -/
def Inline (line : List Char) : Prop := ∀ c ∈ line, c ≠ '\n' ∧ c ≠ '\r'

theorem inline_append (hw : Inline w) (hv : Inline v) : Inline (w ++ v) :=
  List.forall_mem_append.mpr ⟨hw, hv⟩

theorem inline_cons {c : Char} (hc : c ≠ '\n' ∧ c ≠ '\r') (hv : Inline v) : Inline (c :: v) :=
  List.forall_mem_cons.mpr ⟨hc, hv⟩

theorem inline_of_all (h : w.all (fun c => c != '\n' && c != '\r') = true) : Inline w := by
  intro c hc
  have hboth := List.all_eq_true.mp h c hc
  rw [Bool.and_eq_true, bne_iff_ne, bne_iff_ne] at hboth
  exact hboth

theorem Field.inline (f : Field) : Inline f.text := by
  intro c hc
  have hunquoted := f.unquoted c hc
  constructor
  · rintro rfl
    exact absurd hunquoted (by decide)
  · rintro rfl
    exact absurd hunquoted (by decide)

theorem inline_fieldsText (fields : List Field) : Inline (fieldsText fields) := by
  induction fields with
  | nil => exact nofun
  | cons f fields ih =>
      rw [fieldsText, List.flatMap_cons]
      exact inline_append (inline_append f.inline (inline_cons (by decide) nofun)) ih

theorem inline_toString (n : Nat) : Inline (toString n).toList := by
  intro c hc
  constructor
  · rintro rfl
    exact Text.digits_ne n '\n' rfl hc
  · rintro rfl
    exact Text.digits_ne n '\r' rfl hc

theorem Entry.inline (e : Entry) : Inline e.line := by
  have hfields : ∀ (c : Char) (fields : List Field) (text : List Char), c ≠ '\n' ∧ c ≠ '\r' →
      Inline text → Inline (c :: ' ' :: (fieldsText fields ++ text)) :=
    fun c fields text hc htext => inline_cons hc (inline_cons (by decide)
      (inline_append (inline_fieldsText fields) htext))
  cases e with
  | changed xy sub mH mI mW hH hI path => exact hfields _ _ _ (by decide) path.inline
  | renamed xy sub mH mI mW hH hI score path origPath =>
      exact hfields _ _ _ (by decide)
        (inline_append path.inline (inline_cons (by decide) origPath.inline))
  | unmerged xy sub m1 m2 m3 mW h1 h2 h3 path => exact hfields _ _ _ (by decide) path.inline
  | untracked path => exact inline_cons (by decide) (inline_cons (by decide) path.inline)

theorem Printed.inline (st : Printed) : ∀ line ∈ st.lines, Inline line := by
  intro line hline
  rcases List.mem_append.mp hline with hheader | hentry
  · rcases List.mem_append.mp hheader with hheader | hab
    · rcases List.mem_append.mp hheader with hheader | hupstream
      · rcases List.mem_cons.mp hheader with rfl | hhead
        · exact inline_append (inline_of_all rfl) st.oid.inline
        · rw [List.mem_singleton.mp hhead]
          exact inline_append (inline_of_all rfl) st.head.inline
      · rcases Option.map_eq_some_iff.mp (Option.mem_toList.mp hupstream) with ⟨u, -, rfl⟩
        exact inline_append (inline_of_all rfl) u.inline
    · rcases Option.map_eq_some_iff.mp (Option.mem_toList.mp hab) with ⟨ab, -, rfl⟩
      exact inline_append (inline_of_all rfl) (inline_append (inline_toString _)
        (inline_append (inline_of_all rfl) (inline_toString _)))
  · rcases List.mem_map.mp hentry with ⟨e, -, rfl⟩
    exact e.inline

/-- The scanner finds the lines. -/
theorem scanLines_text {lines : List (List Char)} (h : ∀ line ∈ lines, Inline line) :
    scanLines (lines.flatMap fun line => line ++ ['\n']) = lines := by
  have hsplit : (lines.flatMap fun line => line ++ ['\n']).splitOn '\n' = lines ++ [[]] :=
    Text.splitOn_flatMap fun line hline hmem => (h line hline '\n' hmem).1 rfl
  rw [scanLines, hsplit]
  simp only [List.getLast?_append, List.getLast?_singleton, Option.some_or, if_true,
    List.dropLast_concat]

theorem dropCR_of_inline (h : Inline line) : dropCR line = line :=
  if_neg fun hlast => (h '\r' (List.mem_of_getLast? hlast)).2 rfl

/-- Where all lines fit they are parsed one by one. -/
theorem scan_of_fits {lines : List (List Char)} (hlines : ∀ line ∈ lines, Inline line)
    (hfits : ∀ line ∈ lines, (String.ofList line).utf8ByteSize < maxScanTokenSize)
    (res : PorcelainStatus) : scan res lines = .ok (lines.foldl parseLine res) := by
  induction lines generalizing res with
  | nil => rfl
  | cons line lines ih =>
      rw [scan, if_neg (Nat.not_le.mpr (hfits line List.mem_cons_self)),
        dropCR_of_inline (hlines line List.mem_cons_self)]
      exact ih (fun l hl => hlines l (List.mem_cons_of_mem line hl))
        (fun l hl => hfits l (List.mem_cons_of_mem line hl)) _

theorem fits_of_scan {lines : List (List Char)} {res res' : PorcelainStatus}
    (h : scan res lines = .ok res') :
    ∀ line ∈ lines, (String.ofList line).utf8ByteSize < maxScanTokenSize := by
  induction lines generalizing res with
  | nil => exact nofun
  | cons line lines ih =>
      rw [scan] at h
      split at h
      · exact nomatch h
      · next hfits => exact List.forall_mem_cons.mpr ⟨Nat.not_le.mp hfits, ih h⟩

/-! ## Parsing -/

/-- What a line of an entry is taken for. -/
def Entry.found (e : Entry) : String := String.ofList (lastSegment e.line)

theorem parseLine_uncommited (res : PorcelainStatus) {c : Char} (hc : c = '1' ∨ c = '2' ∨ c = 'u')
    (text : List Char) :
    parseLine res (c :: ' ' :: text) = { res with
      uncommitedFiles :=
        res.uncommitedFiles ++ [String.ofList (lastSegment (c :: ' ' :: text))] } := by
  rcases hc with rfl | rfl | rfl
  · rfl
  · rfl
  · rfl

theorem parseLine_entry (res : PorcelainStatus) (e : Entry) :
    parseLine res e.line = { res with
      uncommitedFiles := res.uncommitedFiles ++ (e.uncommited?.map fun _ => e.found).toList
      untrackedFiles := res.untrackedFiles ++ (e.untracked?.map fun _ => e.found).toList } := by
  cases e with
  | changed xy sub mH mI mW hH hI path =>
      rw [Entry.line, parseLine_uncommited res (by decide)]
      simp only [Entry.untracked?, Option.map_none, Option.toList_none, List.append_nil]
      rfl
  | renamed xy sub mH mI mW hH hI score path origPath =>
      rw [Entry.line, parseLine_uncommited res (by decide)]
      simp only [Entry.untracked?, Option.map_none, Option.toList_none, List.append_nil]
      rfl
  | unmerged xy sub m1 m2 m3 mW h1 h2 h3 path =>
      rw [Entry.line, parseLine_uncommited res (by decide)]
      simp only [Entry.untracked?, Option.map_none, Option.toList_none, List.append_nil]
      rfl
  | untracked path =>
      simp only [Entry.uncommited?, Option.map_none, Option.toList_none, List.append_nil]
      rfl

theorem foldl_entries (entries : List Entry) (res : PorcelainStatus) :
    (entries.map Entry.line).foldl parseLine res = { res with
      uncommitedFiles := res.uncommitedFiles ++
        entries.filterMap fun e => e.uncommited?.map fun _ => e.found
      untrackedFiles := res.untrackedFiles ++
        entries.filterMap fun e => e.untracked?.map fun _ => e.found } := by
  induction entries generalizing res with
  | nil => rw [List.map_nil, List.foldl_nil, List.filterMap_nil, List.filterMap_nil,
      List.append_nil, List.append_nil]
  | cons e entries ih =>
      have hcons : ∀ f : Entry → Option String,
          (e :: entries).filterMap f = (f e).toList ++ entries.filterMap f := by
        intro f
        rw [List.filterMap_cons]
        cases f e with
        | none => rfl
        | some s => rfl
      rw [List.map_cons, List.foldl_cons, parseLine_entry, ih, hcons, hcons,
        List.append_assoc, List.append_assoc]

theorem hasPrefix_append (start text : List Char) : hasPrefix (start ++ text) start = true :=
  List.isPrefixOf_iff_prefix.mpr (List.prefix_append start text)

theorem parseLine_branchOID (res : PorcelainStatus) (text : List Char) :
    parseLine res (prefixBranchOID ++ text) = { res with branchOID := String.ofList text } := by
  rw [parseLine, trimPrefix, hasPrefix_append, if_pos rfl, if_pos rfl, List.drop_left]

theorem parseLine_branchHead (res : PorcelainStatus) (text : List Char) :
    parseLine res (prefixBranchHead ++ text) = { res with branchHead := String.ofList text } := by
  have hother : hasPrefix (prefixBranchHead ++ text) prefixBranchOID = false := rfl
  rw [parseLine, hother, if_neg Bool.false_ne_true, trimPrefix, hasPrefix_append, if_pos rfl,
    if_pos rfl, List.drop_left]

/-- A header that says nothing changes nothing. -/
theorem foldl_skipped {α : Type*} {f : α → List Char}
    (h : ∀ x res, parseLine res (f x) = res) (x? : Option α) (res : PorcelainStatus) :
    (x?.map f).toList.foldl parseLine res = res := by
  cases x? with
  | none => rfl
  | some x => exact h x res

/-- The headers only say what the branch is. -/
theorem foldl_headerLines (st : Printed) (res : PorcelainStatus) :
    st.headerLines.foldl parseLine res = { res with
      branchOID := String.ofList st.oid.text
      branchHead := String.ofList st.head.text } := by
  rw [Printed.headerLines, List.foldl_append, List.foldl_append, List.foldl_cons, List.foldl_cons,
    List.foldl_nil, parseLine_branchOID, parseLine_branchHead, foldl_skipped fun _ _ => rfl,
    foldl_skipped fun _ _ => rfl]

/-- A line is taken for its path exactly when the entry is recovered. -/
theorem found_eq_iff (e : Entry) :
    ((e.uncommited?.map fun _ => e.found) = e.uncommited? ∧
      (e.untracked?.map fun _ => e.found) = e.untracked?) ↔ e.Recovered := by
  have hsome : ∀ {s t : List Char}, some (String.ofList s) = some (String.ofList t) ↔ s = t :=
    fun {s t} => Option.some_inj.trans String.ofList_inj
  cases e with
  | changed xy sub mH mI mW hH hI path =>
      simp only [Entry.uncommited?, Entry.untracked?, Entry.found, Entry.line, Option.map_some,
        Option.map_none, and_true, hsome, lastSegment_fields]
      exact lastSegment_eq_self_iff
  | renamed xy sub mH mI mW hH hI score path origPath =>
      simp only [Entry.uncommited?, Entry.untracked?, Entry.found, Entry.line, Option.map_some,
        Option.map_none, and_true, hsome, lastSegment_fields]
      exact lastSegment_tab_eq_iff
  | unmerged xy sub m1 m2 m3 mW h1 h2 h3 path =>
      simp only [Entry.uncommited?, Entry.untracked?, Entry.found, Entry.line, Option.map_some,
        Option.map_none, and_true, hsome, lastSegment_fields]
      exact lastSegment_eq_self_iff
  | untracked path =>
      simp only [Entry.uncommited?, Entry.untracked?, Entry.found, Entry.line, Option.map_some,
        Option.map_none, true_and, hsome]
      -- there are no fields, only the blank behind the question mark
      refine Iff.trans ?_ lastSegment_eq_self_iff
      rw [← lastSegment_blank ['?'] path.text]
      rfl

/-- Lists of what is found in the same places are equal where what is found is. -/
theorem filterMap_eq_iff {f g : Entry → Option String} {entries : List Entry}
    (hsome : ∀ e, (f e).isSome = (g e).isSome) :
    entries.filterMap f = entries.filterMap g ↔ ∀ e ∈ entries, f e = g e := by
  induction entries with
  | nil => exact iff_of_true rfl nofun
  | cons e entries ih =>
      have he := hsome e
      rw [List.filterMap_cons, List.filterMap_cons, List.forall_mem_cons, ← ih]
      cases hf : f e with
      | none =>
          rw [hf] at he
          cases hg : g e with
          | none => exact (and_iff_right rfl).symm
          | some t => rw [hg] at he; exact nomatch he
      | some s =>
          rw [hf] at he
          cases hg : g e with
          | none => rw [hg] at he; exact nomatch he
          | some t =>
              dsimp only
              rw [List.cons.injEq, Option.some.injEq]

/-- The status is parsed as it was printed exactly when all lines fit the buffer and all entries
    are recovered. Git separates the fields by blanks and does not quote blanks in a path, so it
    is the number of the fields that says where the path begins, and the parser does not count
    them. -/
theorem parsePorcelain_iff (st : Printed) :
    parsePorcelain st.text = .ok st.expected ↔ st.Fits ∧ ∀ e ∈ st.entries, e.Recovered := by
  have hfound : (∀ e ∈ st.entries, e.Recovered) ↔
      (st.entries.filterMap fun e => e.uncommited?.map fun _ => e.found) =
        st.entries.filterMap Entry.uncommited? ∧
      (st.entries.filterMap fun e => e.untracked?.map fun _ => e.found) =
        st.entries.filterMap Entry.untracked? := by
    rw [filterMap_eq_iff fun _ => Option.isSome_map, filterMap_eq_iff fun _ => Option.isSome_map,
      ← forall₂_and]
    exact forall₂_congr fun e _ => (found_eq_iff e).symm
  have hscan : parsePorcelain st.text = scan ⟨"", "", [], []⟩ st.lines := by
    rw [parsePorcelain, Printed.text, String.toList_ofList, scanLines_text st.inline]
  have hfold : st.lines.foldl parseLine ⟨"", "", [], []⟩ = st.expected ↔
      ∀ e ∈ st.entries, e.Recovered := by
    rw [Printed.lines, List.foldl_append, foldl_headerLines, foldl_entries, hfound,
      Printed.expected, PorcelainStatus.mk.injEq]
    simp only [true_and, List.nil_append]
  rw [hscan, ← hfold]
  constructor
  · intro h
    have hfits := fits_of_scan h
    rw [scan_of_fits st.inline hfits] at h
    exact ⟨hfits, Except.ok.inj h⟩
  · rintro ⟨hfits, heq⟩
    rw [scan_of_fits st.inline hfits, heq]

/-- A file with a blank in its name that was changed. -/
def blankStatus : Printed where
  oid := ⟨"38afa3a".toList, List.all_eq_true.mp rfl⟩
  head := ⟨"master".toList, List.all_eq_true.mp rfl⟩
  upstream := none
  aheadBehind := none
  entries := [.changed ⟨".M".toList, List.all_eq_true.mp rfl⟩
    ⟨"N...".toList, List.all_eq_true.mp rfl⟩ ⟨"100644".toList, List.all_eq_true.mp rfl⟩
    ⟨"100644".toList, List.all_eq_true.mp rfl⟩ ⟨"100644".toList, List.all_eq_true.mp rfl⟩
    ⟨"257cc56".toList, List.all_eq_true.mp rfl⟩ ⟨"257cc56".toList, List.all_eq_true.mp rfl⟩
    ⟨"first file".toList, List.all_eq_true.mp rfl⟩]

/-- Only what is behind the blank comes back. -/
theorem blank_not_recovered :
    parsePorcelain blankStatus.text = .ok ⟨"38afa3a", "master", ["file"], []⟩ ∧
      parsePorcelain blankStatus.text ≠ .ok blankStatus.expected := by
  have hfound : parsePorcelain blankStatus.text = .ok ⟨"38afa3a", "master", ["file"], []⟩ := by
    rw [parsePorcelain, Printed.text, String.toList_ofList, scanLines_text blankStatus.inline]
    rfl
  refine ⟨hfound, fun h => ?_⟩
  rw [hfound] at h
  have hfiles : ["file"] = ["first file"] :=
    congrArg PorcelainStatus.uncommitedFiles (Except.ok.inj h)
  exact absurd hfiles (by decide)

end Git

end Content

end Nxpod
