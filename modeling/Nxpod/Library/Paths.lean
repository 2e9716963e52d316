import Mathlib.Data.List.Infix
import Mathlib.Tactic.Common
import Nxpod.Library.Text

/-!
# Slash-Separated Paths

A path is read as a walk over directories. A name enters a directory, two dots leave one, and an
empty segment or a single dot stays. In the root, two dots stay as well.

A walk can be told without the directory it begins in: how often it goes up beyond its beginning,
and which names it then goes down (`relative`). So the places where one path leads from two
directories can be compared.

The path libraries of Node.js and Go give the shortest text of where an absolute path leads. Node.js
keeps a slash at its end.

## Main definitions

* `IsName`: A name of a file or a directory.
* `enter`, `walk`: Where a path leads from a directory.
* `Relative`, `relative`: A walk without its beginning.
* `text`, `names`: A directory as a text, and back.
* `normalize`, `join`: The functions of Node.js.
* `clean`, `filepathJoin`: The functions of Go.
* `Inside`: A text names a directory or something in it.

## Theorems

* `walk_eq_destination`: A walk is told by its `relative`.
* `isPrefix_walk_iff`: Where a walk stays inside of the directory it begins in.
* `names_text`: A text names what it was made from.
* `inside_text_iff`: What is inside, in terms of names.
* `isInfix_join_iff`: What is found in a joined text.
* `join_text`, `filepathJoin_text`: Joining a directory and a path.
-/

namespace Nxpod

namespace Paths

/-! ## Walks -/

/-- A name of a file or a directory. -/
structure IsName (name : String) : Prop where
  ne_empty : name ≠ ""
  ne_dot : name ≠ "."
  ne_dots : name ≠ ".."
  noSlash : '/' ∉ name.toList

def enter (dir : List String) (segment : String) : List String :=
  if segment = "" ∨ segment = "." then dir
  else if segment = ".." then dir.dropLast
  else dir ++ [segment]

def walk (dir : List String) (path : String) : List String :=
  (Text.split '/' path).foldl enter dir

/-- A walk goes up beyond its beginning, and then down. -/
structure Relative where
  ups : Nat
  names : List String

namespace Relative

def enter (r : Relative) (segment : String) : Relative :=
  if segment = "" ∨ segment = "." then r
  else if segment = ".." then
    if r.names = [] then { r with ups := r.ups + 1 } else { r with names := r.names.dropLast }
  else { r with names := r.names ++ [segment] }

/-- Where the walk leads from a directory. -/
def destination (r : Relative) (dir : List String) : List String :=
  dir.take (dir.length - r.ups) ++ r.names

end Relative

def relative (path : String) : Relative :=
  (Text.split '/' path).foldl Relative.enter ⟨0, []⟩

theorem enter_destination (r : Relative) (dir : List String) (segment : String) :
    enter (r.destination dir) segment = (r.enter segment).destination dir := by
  unfold enter Relative.enter
  split_ifs with hstay hup hnames
  · rfl
  · -- one directory less of those above
    rw [Relative.destination, Relative.destination, hnames, List.append_nil, List.append_nil,
      List.dropLast_eq_take, List.take_take, List.length_take]
    congr 1
    dsimp only
    omega
  · rw [Relative.destination, Relative.destination, List.dropLast_append_of_ne_nil hnames]
  · rw [Relative.destination, Relative.destination, List.append_assoc]

theorem walk_eq_destination (dir : List String) (path : String) :
    walk dir path = (relative path).destination dir := by
  have hfold : ∀ (segments : List String) (r : Relative),
      segments.foldl enter (r.destination dir) =
        (segments.foldl Relative.enter r).destination dir := by
    intro segments
    induction segments with
    | nil => exact fun _ => rfl
    | cons segment segments ih =>
        intro r
        rw [List.foldl_cons, List.foldl_cons, enter_destination]
        exact ih _
  have hstart : dir = (⟨0, []⟩ : Relative).destination dir := by
    rw [Relative.destination, Nat.sub_zero, List.take_length, List.append_nil]
  calc walk dir path
      = (Text.split '/' path).foldl enter ((⟨0, []⟩ : Relative).destination dir) := by
        rw [← hstart, walk]
    _ = (relative path).destination dir := hfold _ _

/-- A walk that goes up stays inside only if it comes back by the names it has left. -/
theorem isPrefix_walk_iff (dir : List String) (path : String) : dir <+: walk dir path ↔
    dir.drop (dir.length - (relative path).ups) <+: (relative path).names := by
  rw [walk_eq_destination, Relative.destination]
  generalize relative path = r
  calc dir <+: dir.take (dir.length - r.ups) ++ r.names
      ↔ dir.take (dir.length - r.ups) ++ dir.drop (dir.length - r.ups) <+:
          dir.take (dir.length - r.ups) ++ r.names := by
        rw [List.take_append_drop]
    _ ↔ dir.drop (dir.length - r.ups) <+: r.names := List.prefix_append_right_inj _

/-- Every name that a walk ends with is one. -/
theorem isName_of_mem_walk {dir : List String} (hdir : ∀ name ∈ dir, IsName name) (path : String) :
    ∀ name ∈ walk dir path, IsName name := by
  have hfold : ∀ segments : List String, (∀ segment ∈ segments, '/' ∉ segment.toList) →
      ∀ dir : List String, (∀ name ∈ dir, IsName name) →
        ∀ name ∈ segments.foldl enter dir, IsName name := by
    intro segments
    induction segments with
    | nil => exact fun _ _ hdir => hdir
    | cons segment segments ih =>
        intro hsegments dir hdir
        refine ih (fun s hs => hsegments s (List.mem_cons_of_mem _ hs)) _ fun name hname => ?_
        unfold enter at hname
        split_ifs at hname with hstay hup
        · exact hdir name hname
        · exact hdir name (List.dropLast_subset dir hname)
        · rcases List.mem_append.mp hname with hname | hname
          · exact hdir name hname
          · rw [List.mem_singleton.mp hname]
            rw [not_or] at hstay
            exact ⟨hstay.1, hstay.2, hup, hsegments segment List.mem_cons_self⟩
  exact hfold _ (fun _ hs => Text.not_mem_of_mem_split hs) dir hdir

theorem foldl_enter_names {parts : List String} (h : ∀ name ∈ parts, IsName name)
    (dir : List String) : parts.foldl enter dir = dir ++ parts := by
  induction parts generalizing dir with
  | nil => rw [List.foldl_nil, List.append_nil]
  | cons name parts ih =>
      have hname := h name List.mem_cons_self
      have henter : enter dir name = dir ++ [name] := by
        rw [enter, if_neg (not_or.mpr ⟨hname.ne_empty, hname.ne_dot⟩), if_neg hname.ne_dots]
      rw [List.foldl_cons, henter, ih (fun n hn => h n (List.mem_cons_of_mem _ hn)),
        List.append_assoc, List.singleton_append]

/-! ## Texts -/

def text (dir : List String) : String := "/" ++ Text.join '/' dir

def names (path : String) : List String := (Text.split '/' path).filter (· ≠ "")

theorem split_join_append {sep : Char} {parts : List String} (hne : parts ≠ [])
    (h : ∀ part ∈ parts, sep ∉ part.toList) (rest : String) :
    Text.split sep (Text.join sep parts ++ String.singleton sep ++ rest) =
      parts ++ Text.split sep rest := by
  induction parts with
  | nil => exact absurd rfl hne
  | cons part parts ih =>
      have hpart := h part List.mem_cons_self
      cases parts with
      | nil => rw [Text.join_singleton, Text.split_append hpart, List.singleton_append]
      | cons part' parts =>
          have hrest := ih (List.cons_ne_nil _ _) fun p hp => h p (List.mem_cons_of_mem _ hp)
          rw [Text.join_cons_cons, String.append_assoc, String.append_assoc,
            Text.split_append hpart, ← String.append_assoc, hrest, List.cons_append,
            List.cons_append, List.cons_append]

theorem join_append {sep : Char} {parts parts' : List String} (hne : parts ≠ [])
    (hne' : parts' ≠ []) : Text.join sep (parts ++ parts') =
      Text.join sep parts ++ String.singleton sep ++ Text.join sep parts' := by
  induction parts with
  | nil => exact absurd rfl hne
  | cons part parts ih =>
      cases parts with
      | nil =>
          obtain ⟨part', rest, rfl⟩ := List.exists_cons_of_ne_nil hne'
          rw [List.singleton_append, Text.join_cons_cons, Text.join_singleton]
      | cons second parts =>
          rw [List.cons_append, List.cons_append, Text.join_cons_cons, ← List.cons_append,
            ih (List.cons_ne_nil second parts), Text.join_cons_cons]
          simp only [String.append_assoc]

theorem split_slash (path : String) : Text.split '/' ("/" ++ path) = "" :: Text.split '/' path := by
  have h := @Text.split_append '/' "" path (by decide)
  rwa [String.empty_append] at h

theorem split_text {dir : List String} (hne : dir ≠ []) (h : ∀ name ∈ dir, IsName name) :
    Text.split '/' (text dir) = "" :: dir := by
  rw [text, split_slash, Text.split_join hne fun name hname => (h name hname).noSlash]

theorem split_text_append {dir : List String} (hne : dir ≠ []) (h : ∀ name ∈ dir, IsName name)
    (rest : String) :
    Text.split '/' (text dir ++ "/" ++ rest) = "" :: (dir ++ Text.split '/' rest) := by
  rw [text, String.append_assoc, String.append_assoc, split_slash, ← String.append_assoc]
  exact congrArg _ (split_join_append hne (fun name hname => (h name hname).noSlash) rest)

theorem filter_names {dir : List String} (h : ∀ name ∈ dir, IsName name) :
    dir.filter (· ≠ "") = dir :=
  List.filter_eq_self.mpr fun name hname => decide_eq_true (h name hname).ne_empty

theorem names_text {dir : List String} (h : ∀ name ∈ dir, IsName name) :
    names (text dir) = dir := by
  by_cases hne : dir = []
  · rw [hne]
    decide
  · rw [names, split_text hne h, List.filter_cons_of_neg (by decide), filter_names h]

theorem names_text_append {dir : List String} (hne : dir ≠ []) (h : ∀ name ∈ dir, IsName name)
    (rest : String) : names (text dir ++ "/" ++ rest) = dir ++ names rest := by
  rw [names, split_text_append hne h, List.filter_cons_of_neg (by decide), List.filter_append,
    filter_names h, names]

/-- The directory, or something in it. -/
def Inside (dir path : String) : Prop :=
  path = dir ∨ (dir ++ "/").toList <+: path.toList

instance (dir path : String) : Decidable (Inside dir path) :=
  inferInstanceAs (Decidable (_ ∨ _))

theorem inside_text_iff {dir path : List String} (hne : dir ≠ [])
    (hdir : ∀ name ∈ dir, IsName name) (hpath : ∀ name ∈ path, IsName name) :
    Inside (text dir) (text path) ↔ dir <+: path := by
  constructor
  · rintro (heq | ⟨rest, hrest⟩)
    · rw [← names_text hdir, ← heq, names_text hpath]
    · have htext : text path = text dir ++ "/" ++ String.ofList rest := by
        apply String.toList_injective
        simp only [← hrest, String.toList_append, String.toList_ofList]
      rw [← names_text hpath, htext, names_text_append hne hdir]
      exact List.prefix_append _ _
  · rintro ⟨rest, rfl⟩
    by_cases hrest : rest = []
    · rw [hrest, List.append_nil]
      exact .inl rfl
    · refine .inr ⟨(Text.join '/' rest).toList, ?_⟩
      rw [← String.toList_append, text, text, join_append hne hrest]
      simp only [String.append_assoc]
      rfl

/-! ## Finding in a text -/

/-- What has no separator is found on one side of it. -/
theorem isInfix_append_cons {α : Type*} {sep : α} {p xs rest : List α} (hp : sep ∉ p) :
    p <:+: xs ++ sep :: rest ↔ p <:+: xs ∨ p <:+: rest := by
  constructor
  · rintro ⟨before, behind, h⟩
    rcases List.append_eq_append_iff.mp h with ⟨ys, hxs, -⟩ | ⟨ys, hbefore, hrest⟩
    · exact .inl ⟨before, ys, hxs.symm⟩
    · -- it ends behind the separator, so it begins there as well
      cases ys with
      | nil => exact .inl ⟨before, [], by rw [hbefore, List.append_nil, List.append_nil]⟩
      | cons y ys =>
          rw [List.cons_append, List.cons.injEq] at hrest
          rcases hrest with ⟨rfl, rfl⟩
          rcases List.append_eq_append_iff.mp hbefore with ⟨zs, -, hp'⟩ | ⟨zs, -, hzs⟩
          · rw [hp'] at hp
            exact absurd (List.mem_append_right _ List.mem_cons_self) hp
          · cases zs with
            | nil =>
                rw [List.nil_append] at hzs
                rw [← hzs] at hp
                exact absurd List.mem_cons_self hp
            | cons z zs =>
                rw [List.cons_append, List.cons.injEq] at hzs
                refine .inr ⟨zs, behind, ?_⟩
                rw [hzs.2]
  · rintro (h | h)
    · exact h.trans (List.prefix_append _ _).isInfix
    · exact h.trans ((List.suffix_cons _ _).trans (List.suffix_append _ _)).isInfix

theorem isInfix_join_iff {sep : Char} {p : List Char} (hp : sep ∉ p) (hne : p ≠ [])
    (parts : List String) :
    p <:+: (Text.join sep parts).toList ↔ ∃ part ∈ parts, p <:+: part.toList := by
  induction parts with
  | nil =>
      refine iff_of_false (fun h => hne (List.eq_nil_of_infix_nil h)) ?_
      rintro ⟨part, hpart, -⟩
      exact absurd hpart List.not_mem_nil
  | cons part parts ih =>
      rw [List.exists_mem_cons_iff, ← ih]
      cases parts with
      | nil =>
          rw [Text.join_singleton]
          exact (or_iff_left fun h => hne (List.eq_nil_of_infix_nil h)).symm
      | cons part' parts =>
          rw [Text.join_cons_cons, String.append_assoc, String.toList_append,
            String.toList_append, String.toList_singleton, List.singleton_append,
            isInfix_append_cons hp]

/-! ## The libraries -/

def isAbsolute (path : String) : Bool := path.toList.head? = some '/'

/-- What the shortest path consists of. -/
def shortest (path : String) : List String :=
  if isAbsolute path then walk [] path
  else List.replicate (relative path).ups ".." ++ (relative path).names

/-- `path.normalize` of Node.js. -/
def normalize (path : String) : String :=
  if path = "" then "."
  else
    let trailingSeparator := path.toList.getLast? = some '/'
    let body := Text.join '/' (shortest path)
    if body = "" then
      if isAbsolute path then "/" else if trailingSeparator then "./" else "."
    else
      let body := if trailingSeparator then body ++ "/" else body
      if isAbsolute path then "/" ++ body else body

/-- `path.join` of Node.js. -/
def join (paths : List String) : String :=
  let parts := paths.filter (· ≠ "")
  if parts = [] then "." else normalize (Text.join '/' parts)

/-- `filepath.Clean` of Go. -/
def clean (path : String) : String :=
  let body := Text.join '/' (shortest path)
  if isAbsolute path then "/" ++ body else if body = "" then "." else body

/-- `filepath.Join` of Go. -/
def filepathJoin (elem : List String) : String :=
  let parts := elem.filter (· ≠ "")
  if parts = [] then "" else clean (Text.join '/' parts)

variable {dir : List String} {path : String}

theorem text_ne_empty (dir : List String) : text dir ≠ "" := by
  intro h
  have hlist := congrArg String.toList h
  rw [text, String.toList_append] at hlist
  cases hlist

theorem filter_text (hpath : path ≠ "") : [text dir, path].filter (· ≠ "") = [text dir, path] := by
  refine List.filter_eq_self.mpr fun part hpart => decide_eq_true ?_
  rcases List.mem_pair.mp hpart with rfl | rfl
  · exact text_ne_empty dir
  · exact hpath

theorem join_pair (path : String) : Text.join '/' [text dir, path] = text dir ++ "/" ++ path := by
  rw [Text.join_cons_cons, Text.join_singleton]
  rfl

theorem isAbsolute_text_append (path : String) : isAbsolute (text dir ++ path) = true := by
  rw [isAbsolute, text, String.append_assoc, String.toList_append]
  rfl

/-- Joined to a directory, a path leads where it leads from there. -/
theorem shortest_text_append (hne : dir ≠ []) (hdir : ∀ name ∈ dir, IsName name) (path : String) :
    shortest (text dir ++ "/" ++ path) = walk dir path := by
  rw [shortest, String.append_assoc, if_pos (isAbsolute_text_append _), ← String.append_assoc, walk,
    split_text_append hne hdir, List.foldl_cons, List.foldl_append, walk]
  refine congrArg (fun start => List.foldl enter start (Text.split '/' path)) ?_
  exact foldl_enter_names hdir []

theorem join_eq_empty_iff {parts : List String} (h : ∀ name ∈ parts, IsName name) :
    Text.join '/' parts = "" ↔ parts = [] := by
  constructor
  · intro hempty
    have hnames := names_text h
    rw [text, hempty] at hnames
    rw [← hnames]
    decide
  · rintro rfl
    rfl

theorem filepathJoin_text (hne : dir ≠ []) (hdir : ∀ name ∈ dir, IsName name) (hpath : path ≠ "") :
    filepathJoin [text dir, path] = text (walk dir path) := by
  rw [filepathJoin, filter_text hpath, if_neg (List.cons_ne_nil _ _), join_pair, clean,
    shortest_text_append hne hdir, String.append_assoc, if_pos (isAbsolute_text_append _), text]

/-- Node.js keeps a slash at the end. -/
theorem join_text (hne : dir ≠ []) (hdir : ∀ name ∈ dir, IsName name) (hpath : path ≠ "") :
    join [text dir, path] = text (walk dir path) ∨
      walk dir path ≠ [] ∧ join [text dir, path] = text (walk dir path) ++ "/" := by
  have hnonempty : text dir ++ "/" ++ path ≠ "" := by
    intro h
    have hlist := congrArg String.toList h
    rw [text, String.append_assoc, String.append_assoc, String.toList_append] at hlist
    cases hlist
  have habsolute : isAbsolute (text dir ++ "/" ++ path) = true := by
    rw [String.append_assoc]
    exact isAbsolute_text_append _
  have hempty := join_eq_empty_iff (isName_of_mem_walk hdir path)
  rw [join, filter_text hpath, if_neg (List.cons_ne_nil _ _), join_pair, normalize,
    if_neg hnonempty, shortest_text_append hne hdir, habsolute]
  dsimp only
  rw [if_pos rfl, if_pos rfl]
  split_ifs with hbody htrailing
  · rw [hempty.mp hbody]
    exact .inl rfl
  · refine .inr ⟨fun hnil => hbody (hempty.mpr hnil), ?_⟩
    rw [text, String.append_assoc]
  · exact .inl rfl

end Paths

end Nxpod
