import Nxpod.Library.Text

/-!
# The Repository of a URL

A context URL begins with the owner of a repository and its name. On GitLab the owner may be a
group in a group, and there are as many segments as there are groups. So GitLab is asked for the
project of the first two segments, then for that of the first three, and so on. The last try is not
asked for any more.

The parser of GitLab starts from what the parser of all providers has made of the URL, which has
already taken `.git` off a name that is the last of two segments. It does that once more. With only
one segment the name of the repository is undefined, and looking for `.git` in it is a type error.

What a URL consists of and which projects there are is a parameter.

## Main definitions

* `ParsedUrl`: What the URL class makes of a URL.
* `URLParts`: What a URL is taken apart into.
* `ParseError`: The error of the parser, or of the language.
* `pathSegments`: The segments of a path.
* `parseURL`: The parser of all providers.
* `findProject`, `parseGitlabURL`: The one of GitLab.
* `Splits`, `ParsesUrl`: What is asked of it.
* `Separable`: The paths that are taken apart as they should be.

## Theorems

* `findProject_spec`: The first project that exists, or the last try.
* `parseGitlabURL_eq`: What becomes of two segments or more.
* `parses_iff_separable`: When a URL is taken apart as it should be.
-/

namespace Nxpod

namespace Server

open Text

/-! ## All providers -/

/-- What the URL class makes of a URL. -/
structure ParsedUrl (σ : Type) where
  hostname : String
  pathname : String
  searchParams : σ

/-- What a URL is taken apart into. -/
structure URLParts (σ : Type) where
  host : String
  owner : Option String
  repoName : Option String
  moreSegments : List String
  searchParams : σ

/-- The error of the parser, or of the language. -/
inductive ParseError
  | typeError (message : String)
  | error (message : String)
  deriving DecidableEq

/-- Without a leading and a trailing slash. -/
def stripSlashes (cs : List Char) : List Char :=
  let cs := match cs with
    | '/' :: rest => rest
    | cs => cs
  if cs.getLast? = some '/' then cs.dropLast else cs

/-- The slashes at both ends do not count. -/
def pathSegments (pathname : String) : List String :=
  split '/' (String.ofList (stripSlashes pathname.toList))

/-- The ending that the URL of a clone has. -/
def endsWithGit (s : String) : Bool :=
  ['.', 'g', 'i', 't'].isSuffixOf s.toList

/-- It is taken off once. -/
def withoutGit (s : String) : String :=
  if endsWithGit s then String.ofList (s.toList.take (s.toList.length - 4)) else s

/-- Only the last segment may have the ending. -/
def parseRepoName (urlSegment : Option String) (lastSegment : Bool) :
    Except ParseError (Option String) :=
  if lastSegment then
    match urlSegment with
    | none => .error (.typeError "Cannot read property 'endsWith' of undefined")
    | some s => .ok (some (withoutGit s))
  else .ok urlSegment

variable {σ : Type}

/-- What all providers make of a URL: an owner, a name, and the rest. -/
def parseURL (url : ParsedUrl σ) : Except ParseError (URLParts σ) :=
  let segments := pathSegments url.pathname
  let endsWithRepoName := segments.length == 2
  match parseRepoName segments[1]? endsWithRepoName with
  | .error err => .error err
  | .ok repoName => .ok {
      host := url.hostname
      owner := segments[0]?
      repoName := repoName
      moreSegments := if endsWithRepoName then [] else segments.drop 2
      searchParams := url.searchParams }

/-! ## GitLab -/

/-- What is undefined is joined as nothing. -/
def joinSegments (segments : List (Option String)) : String :=
  join '/' (segments.map fun s => s.getD "")

/-- The owner, the repository and the segments behind it. The last segment is taken in any case. -/
def findProject (projectExists : String → Bool) : List (Option String) → Option String →
    List (Option String) → List (Option String) × Option String × List (Option String)
  | front, segment, [] => (front, segment, [])
  | front, segment, next :: more =>
      if projectExists (joinSegments front ++ "/" ++ segment.getD "undefined") then
        (front, segment, next :: more)
      else findProject projectExists (front ++ [segment]) next more

/-- What GitLab makes of that, with groups in groups. -/
def parseGitlabURL (projectExists : String → Bool) (url : ParsedUrl σ) :
    Except ParseError (URLParts σ) :=
  match parseURL url with
  | .error err => .error err
  | .ok parts =>
      let more := (parts.moreSegments.filter fun s => s ≠ "-").map some
      match findProject projectExists [parts.owner] parts.repoName more with
      | (owner, repoName, moreSegments) =>
          match parseRepoName repoName moreSegments.isEmpty with
          | .error err => .error err
          | .ok repoName => .ok {
              host := parts.host
              owner := some (joinSegments owner)
              repoName := repoName
              moreSegments := moreSegments.filterMap id
              searchParams := parts.searchParams }

/-- The first `k` segments are the shortest project there is, or all of them. -/
structure Splits (projectExists : String → Bool) (segments : List String) (parts : URLParts σ)
    (k : Nat) : Prop where
  two_le : 2 ≤ k
  le_length : k ≤ segments.length
  owner : parts.owner = some (join '/' (segments.take (k - 1)))
  repoName : parts.repoName =
    segments[k - 1]?.map fun s => if k = segments.length then withoutGit s else s
  moreSegments : parts.moreSegments = segments.drop k
  shortest : ∀ j, 2 ≤ j → j < k → projectExists (join '/' (segments.take j)) = false
  project : k < segments.length → projectExists (join '/' (segments.take k)) = true

/-- Two segments or more are taken apart without losing anything but delimiters. With less there is
an error, but not a type error. -/
def ParsesUrl (projectExists : String → Bool) (url : ParsedUrl σ) : Prop :=
  if (pathSegments url.pathname).length < 2 then
    ∃ message, parseGitlabURL projectExists url = .error (.error message)
  else ∃ parts k, parseGitlabURL projectExists url = .ok parts ∧
    Splits projectExists ((pathSegments url.pathname).filter fun s => s ≠ "-") parts k

/-- There are two segments which are no delimiters, and where there are no more the second one does
not end with `.git` twice. -/
def Separable : List String → Prop
  | first :: second :: more =>
      first ≠ "-" ∧ second ≠ "-" ∧ (more = [] → endsWithGit (withoutGit second) = false)
  | _ => False

/-! ## The probes -/

variable {projectExists : String → Bool}

theorem joinSegments_map (segments : List String) :
    joinSegments (segments.map some) = join '/' segments := by
  have hid : (fun s : Option String => s.getD "") ∘ some = id := rfl
  rw [joinSegments, List.map_map, hid, List.map_id]

/-- The segments up to the first project, or all but the last one. -/
theorem findProject_spec (projectExists : String → Bool) (front : List String) (hne : front ≠ [])
    (segment : String) (more : List String) : ∃ middle name rest,
      segment :: more = middle ++ name :: rest ∧
      findProject projectExists (front.map some) (some segment) (more.map some) =
        ((front ++ middle).map some, some name, rest.map some) ∧
      (∀ j, front.length < j → j < (front ++ middle).length + 1 →
        projectExists (join '/' ((front ++ segment :: more).take j)) = false) ∧
      (rest ≠ [] → projectExists (join '/' (front ++ middle ++ [name])) = true) := by
  induction more generalizing front segment with
  | nil =>
      refine ⟨[], segment, [], rfl, by rw [List.append_nil]; rfl, fun j hlower hupper => ?_,
        fun h => absurd rfl h⟩
      rw [List.append_nil] at hupper
      omega
  | cons next more ih =>
      have hasked : joinSegments (front.map some) ++ "/" ++ (some segment).getD "undefined" =
          join '/' (front ++ [segment]) := by
        rw [joinSegments_map, join_concat '/' hne]
        rfl
      rw [List.map_cons, findProject, hasked]
      -- The segments so far are a project, or one more is tried.
      by_cases hproject : projectExists (join '/' (front ++ [segment])) = true
      · rw [if_pos hproject]
        refine ⟨[], segment, next :: more, rfl, by rw [List.append_nil]; rfl,
          fun j hlower hupper => ?_, fun _ => by rw [List.append_nil]; exact hproject⟩
        rw [List.append_nil] at hupper
        omega
      · rw [if_neg hproject]
        rcases ih (front ++ [segment]) (by simp) next with
          ⟨middle, name, rest, hparts, hfind, hshortest, hlast⟩
        have hfront : (front ++ [segment]).map some = front.map some ++ [some segment] := by
          rw [List.map_append]
          rfl
        have hassoc : front ++ [segment] ++ next :: more = front ++ segment :: next :: more := by
          rw [List.append_assoc, List.singleton_append]
        have hassoc' : front ++ [segment] ++ middle = front ++ segment :: middle := by
          rw [List.append_assoc, List.singleton_append]
        rw [hassoc'] at hfind hshortest hlast
        rw [hassoc] at hshortest
        refine ⟨segment :: middle, name, rest, by rw [hparts]; rfl, by rw [← hfront, hfind], ?_,
          hlast⟩
        intro j hlower hupper
        by_cases hnext : j = front.length + 1
        · -- The one that was asked for just now.
          have htake : (front ++ segment :: next :: more).take j = front ++ [segment] := by
            rw [← hassoc, hnext]
            exact List.take_left' (by simp)
          rw [htake]
          exact Bool.eq_false_iff.mpr hproject
        · exact hshortest j (by rw [List.length_append, List.length_singleton]; omega) hupper

theorem withoutGit_of_endsWith {s : String} (h : endsWithGit s = true) : withoutGit s ≠ s := by
  intro heq
  have hsuffix := List.isSuffixOf_iff_suffix.mp h
  have hlength := hsuffix.length_le
  have hlengths := congrArg (fun t : String => t.toList.length) heq
  rw [withoutGit, if_pos h] at hlengths
  simp only [String.toList_ofList, List.length_take] at hlengths
  simp only [List.length_cons, List.length_nil] at hlength
  omega

theorem withoutGit_of_not_endsWith {s : String} (h : endsWithGit s = false) : withoutGit s = s := by
  rw [withoutGit, h]
  rfl

theorem slash_not_mem_withoutGit {s : String} (h : '/' ∉ s.toList) :
    '/' ∉ (withoutGit s).toList := by
  rw [withoutGit]
  split
  · rw [String.toList_ofList]
    exact fun hmem => h (List.mem_of_mem_take hmem)
  · exact h

/-! ## Two segments or more -/

variable {url : ParsedUrl σ} {first second : String} {more : List String}

/-- The second segment, after the parser of all providers has seen it. -/
def firstName (second : String) (more : List String) : String :=
  if more = [] then withoutGit second else second

theorem parseURL_eq (h : pathSegments url.pathname = first :: second :: more) :
    parseURL url = .ok ⟨url.hostname, some first, some (firstName second more), more,
      url.searchParams⟩ := by
  unfold parseURL
  simp only [h]
  cases more with
  | nil => rfl
  | cons third more =>
      have hlength : ((first :: second :: third :: more).length == 2) = false := by
        simp
      simp only [hlength, parseRepoName, firstName, Bool.false_eq_true, if_false,
        List.cons_ne_nil]
      rfl

theorem exists_singleton_of_short {pathname : String} (h : (pathSegments pathname).length < 2) :
    ∃ first, pathSegments pathname = [first] := by
  cases hsegments : pathSegments pathname with
  | nil => exact absurd hsegments (split_ne_nil '/' _)
  | cons first more =>
      rw [hsegments, List.length_cons] at h
      have hnil : more = [] := List.length_eq_zero_iff.mp (by omega)
      exact ⟨first, by rw [hnil]⟩

/-- With one segment there is no name. -/
theorem parseURL_of_short (h : (pathSegments url.pathname).length < 2) : ∃ first,
    parseURL url = .ok ⟨url.hostname, some first, none, [], url.searchParams⟩ := by
  rcases exists_singleton_of_short h with ⟨first, hfirst⟩
  refine ⟨first, ?_⟩
  unfold parseURL
  simp only [hfirst]
  rfl

/-- The owner is everything before the name, and `.git` is taken off a name without anything behind
it. -/
theorem parseGitlabURL_eq (projectExists : String → Bool)
    (h : pathSegments url.pathname = first :: second :: more) : ∃ middle name rest,
      firstName second more :: more.filter (fun s => s ≠ "-") = middle ++ name :: rest ∧
      parseGitlabURL projectExists url = .ok ⟨url.hostname, some (join '/' (first :: middle)),
        some (if rest = [] then withoutGit name else name), rest, url.searchParams⟩ ∧
      (∀ j, 2 ≤ j → j < middle.length + 2 → projectExists (join '/'
        ((first :: firstName second more :: more.filter fun s => s ≠ "-").take j)) = false) ∧
      (rest ≠ [] → projectExists (join '/' (first :: middle ++ [name])) = true) := by
  rcases findProject_spec projectExists [first] (List.cons_ne_nil _ _) (firstName second more)
    (more.filter fun s => s ≠ "-") with ⟨middle, name, rest, hparts, hfind, hshortest, hlast⟩
  refine ⟨middle, name, rest, hparts, ?_, fun j hlower hupper => hshortest j ?_ ?_, hlast⟩
  · rw [List.map_singleton] at hfind
    unfold parseGitlabURL
    simp only [parseURL_eq h, hfind, joinSegments_map]
    have hrest : (rest.map some).filterMap id = rest := by
      rw [List.filterMap_map]
      exact List.filterMap_some
    cases rest with
    | nil => rfl
    | cons next rest =>
        rw [hrest]
        rfl
  · rw [List.length_singleton]
    omega
  · rw [List.length_append, List.length_singleton]
    omega

theorem parseGitlabURL_of_short (h : (pathSegments url.pathname).length < 2) :
    parseGitlabURL projectExists url =
      .error (.typeError "Cannot read property 'endsWith' of undefined") := by
  rcases parseURL_of_short h with ⟨first, hfirst⟩
  unfold parseGitlabURL
  simp only [hfirst]
  rfl

/-! ## What is lost -/

theorem slash_not_mem_of_pathSegments {segment pathname : String}
    (h : segment ∈ pathSegments pathname) : '/' ∉ segment.toList :=
  not_mem_of_mem_split h

/-- Without a delimiter in front, all segments that are left are tried. -/
theorem filter_eq (hfirst : first ≠ "-") (hsecond : second ≠ "-") :
    (first :: second :: more).filter (fun s => s ≠ "-") =
      first :: second :: more.filter fun s => s ≠ "-" := by
  rw [List.filter_cons, if_pos (by simpa using hfirst), List.filter_cons,
    if_pos (by simpa using hsecond)]

/-- What is left is the shorter, the more delimiters there were in front. -/
theorem ne_delimiter_of_length (h : ((first :: second :: more).filter fun s => s ≠ "-").length =
    (more.filter fun s => s ≠ "-").length + 2) : first ≠ "-" ∧ second ≠ "-" := by
  by_cases hfirst : first = "-"
  · have hle := List.length_filter_le (fun s => decide (s ≠ "-")) [second]
    have hsplit : second :: more = [second] ++ more := rfl
    rw [List.filter_cons, if_neg (by simpa using hfirst), hsplit, List.filter_append,
      List.length_append] at h
    rw [List.length_singleton] at hle
    omega
  · by_cases hsecond : second = "-"
    · rw [List.filter_cons, if_pos (by simpa using hfirst), List.filter_cons,
        if_neg (by simpa using hsecond), List.length_cons] at h
      omega
    · exact ⟨hfirst, hsecond⟩

variable {middle rest : List String} {name : String}

/-- The parts of one segment. -/
theorem parts_of_singleton {segment : String} (h : [segment] = middle ++ name :: rest) :
    middle = [] ∧ name = segment ∧ rest = [] := by
  rcases List.append_eq_singleton_iff.mp h.symm with ⟨hmiddle, hrest⟩ | ⟨-, hrest⟩
  · rw [List.cons.injEq] at hrest
    exact ⟨hmiddle, hrest.1, hrest.2⟩
  · exact nomatch hrest

theorem slash_not_mem_tried (hslash : ∀ s ∈ first :: second :: more, '/' ∉ s.toList)
    (hparts : firstName second more :: more.filter (fun s => s ≠ "-") = middle ++ name :: rest) :
    ∀ s ∈ first :: middle, '/' ∉ s.toList := by
  have hsecond : '/' ∉ second.toList := hslash second (List.mem_cons_of_mem _ List.mem_cons_self)
  intro s hs
  rcases List.mem_cons.mp hs with rfl | hs
  · exact hslash s List.mem_cons_self
  · have hmem : s ∈ firstName second more :: more.filter (fun s => s ≠ "-") := by
      rw [hparts]
      exact List.mem_append_left _ hs
    rcases List.mem_cons.mp hmem with rfl | hmem
    · rw [firstName]
      split
      · exact slash_not_mem_withoutGit hsecond
      · exact hsecond
    · exact hslash s (List.mem_cons_of_mem _ (List.mem_cons_of_mem _ (List.mem_filter.mp hmem).1))

/-- As many segments are the owner in the code as in what it should do. -/
theorem take_of_splits {parts : URLParts σ} {segments tried : List String} {k : Nat}
    (hsplits : Splits projectExists segments parts k) (hne : tried ≠ [])
    (howner : parts.owner = some (join '/' tried))
    (hslash : ∀ s ∈ segments, '/' ∉ s.toList) (htried : ∀ s ∈ tried, '/' ∉ s.toList) :
    segments.take (k - 1) = tried := by
  have hjoin : join '/' (segments.take (k - 1)) = join '/' tried := by
    rw [hsplits.owner] at howner
    exact Option.some.inj howner
  have htake : segments.take (k - 1) ≠ [] := by
    intro hnil
    have hlength := congrArg List.length hnil
    have htwo := hsplits.two_le
    have hle := hsplits.le_length
    rw [List.length_take, List.length_nil] at hlength
    omega
  rw [← split_join htake fun s hs => hslash s (List.mem_of_mem_take hs), hjoin,
    split_join hne htried]

/-- A URL that is taken apart as it should be is one of these. -/
theorem separable_of_splits {parts : URLParts σ} {k : Nat}
    (h : pathSegments url.pathname = first :: second :: more)
    (hparse : parseGitlabURL projectExists url = .ok parts)
    (hsplits : Splits projectExists ((first :: second :: more).filter fun s => s ≠ "-") parts k) :
    Separable (first :: second :: more) := by
  rcases parseGitlabURL_eq projectExists h with ⟨middle, name, rest, hparts, hparse', -⟩
  rw [hparse', Except.ok.injEq] at hparse
  have hslash : ∀ s ∈ first :: second :: more, '/' ∉ s.toList := by
    rw [← h]
    exact fun s hs => slash_not_mem_of_pathSegments hs
  have htwo := hsplits.two_le
  have hle := hsplits.le_length
  have htake := take_of_splits hsplits (List.cons_ne_nil first middle) (by rw [← hparse])
    (fun s hs => hslash s (List.mem_filter.mp hs).1) (slash_not_mem_tried hslash hparts)
  have hdrop := hsplits.moreSegments
  -- The code tries two segments more than there are behind them.
  have hlength : ((first :: second :: more).filter fun s => s ≠ "-").length =
      (more.filter fun s => s ≠ "-").length + 2 := by
    have hall := congrArg List.length hparts
    have hlengths := congrArg List.length htake
    have hrest := congrArg List.length hdrop
    rw [← hparse] at hrest
    simp only [List.length_take, List.length_drop, List.length_cons, List.length_append] at *
    omega
  have hdelimiters := ne_delimiter_of_length hlength
  refine ⟨hdelimiters.1, hdelimiters.2, fun hnone => ?_⟩
  -- With two segments, `.git` was taken off twice.
  rw [hnone, firstName, if_pos rfl, List.filter_nil] at hparts
  rcases parts_of_singleton hparts with ⟨-, hname, hrest⟩
  rw [filter_eq hdelimiters.1 hdelimiters.2, hnone, List.filter_nil] at hle
  have hk : k = 2 := by
    rw [List.length_cons, List.length_singleton] at hle
    omega
  have hrepo := hsplits.repoName
  rw [← hparse, filter_eq hdelimiters.1 hdelimiters.2, hnone, hk, hname, hrest, if_pos rfl] at hrepo
  have htwice : withoutGit (withoutGit second) = withoutGit second := Option.some.inj hrepo
  by_contra hends
  exact withoutGit_of_endsWith (Bool.not_eq_false _ ▸ hends) htwice

/-- With two segments, the second one is the name, and `.git` is taken off once. -/
theorem splits_of_two (h : pathSegments url.pathname = [first, second])
    (hgit : endsWithGit (withoutGit second) = false) : ∃ parts k,
      parseGitlabURL projectExists url = .ok parts ∧
      Splits projectExists [first, second] parts k := by
  rcases parseGitlabURL_eq projectExists h with ⟨middle, name, rest, hparts, hparse, -⟩
  rw [firstName, if_pos rfl, List.filter_nil] at hparts
  rcases parts_of_singleton hparts with ⟨hmiddle, hname, hrest⟩
  rw [hmiddle, hname, hrest, if_pos rfl, withoutGit_of_not_endsWith hgit] at hparse
  refine ⟨_, 2, hparse, ⟨Nat.le_refl 2, Nat.le_refl 2, rfl, rfl, rfl, fun j hlower hupper => ?_,
    fun hlt => absurd hlt (Nat.lt_irrefl 2)⟩⟩
  omega

/-- With three segments or more it always is, except that the first two are never left out. -/
theorem splits_of_more (h : pathSegments url.pathname = first :: second :: more)
    (hmore : more ≠ []) : ∃ parts k, parseGitlabURL projectExists url = .ok parts ∧
      Splits projectExists (first :: second :: more.filter fun s => s ≠ "-") parts k := by
  rcases parseGitlabURL_eq projectExists h with
    ⟨middle, name, rest, hparts, hparse, hshortest, hlast⟩
  rw [firstName, if_neg hmore] at hparts hshortest
  rw [hparts] at hshortest ⊢
  have htake : (first :: (middle ++ name :: rest)).take (middle.length + 1) =
      first :: middle := by
    rw [List.take_succ_cons, List.take_left]
  have htake' : (first :: (middle ++ name :: rest)).take (middle.length + 2) =
      first :: middle ++ [name] := by
    have hassoc : first :: (middle ++ name :: rest) = first :: middle ++ [name] ++ rest := by
      simp
    rw [hassoc]
    exact List.take_left' (by simp)
  have hdrop : (first :: (middle ++ name :: rest)).drop (middle.length + 2) = rest := by
    have hassoc : first :: (middle ++ name :: rest) = first :: middle ++ [name] ++ rest := by
      simp
    rw [hassoc]
    exact List.drop_left' (by simp)
  have hname : (first :: (middle ++ name :: rest))[middle.length + 1]? = some name := by
    simp
  have hlength : middle.length + 2 = (first :: (middle ++ name :: rest)).length ↔ rest = [] := by
    rw [List.length_cons, List.length_append, List.length_cons, ← List.length_eq_zero_iff]
    omega
  refine ⟨_, middle.length + 2, hparse, ⟨by omega, ?_, ?_, ?_, hdrop.symm, hshortest,
    fun hlt => ?_⟩⟩
  · rw [List.length_cons, List.length_append, List.length_cons]
    omega
  · exact congrArg (fun l => some (join '/' l)) htake.symm
  · have hindex : middle.length + 2 - 1 = middle.length + 1 := rfl
    rw [hindex, hname, Option.map_some]
    simp only [hlength]
  · rw [htake']
    refine hlast fun hnil => ?_
    rw [hlength.mpr hnil] at hlt
    omega

theorem splits_of_separable (h : pathSegments url.pathname = first :: second :: more)
    (hseparable : Separable (first :: second :: more)) : ∃ parts k,
      parseGitlabURL projectExists url = .ok parts ∧
      Splits projectExists ((first :: second :: more).filter fun s => s ≠ "-") parts k := by
  rcases hseparable with ⟨hfirst, hsecond, hgit⟩
  rw [filter_eq hfirst hsecond]
  by_cases hnone : more = []
  · subst hnone
    exact splits_of_two h (hgit rfl)
  · exact splits_of_more h hnone

/-- A URL is taken apart as it should be exactly when it has two segments that are no
    delimiters, and does not consist of them with `.git` twice at the end. Groups of projects
    may be nested, so GitLab is asked which prefix of the path is a project, beginning with the
    shortest. -/
theorem parses_iff_separable (projectExists : String → Bool) (url : ParsedUrl σ) :
    ParsesUrl projectExists url ↔ Separable (pathSegments url.pathname) := by
  rw [ParsesUrl]
  by_cases hshort : (pathSegments url.pathname).length < 2
  · rw [if_pos hshort, parseGitlabURL_of_short hshort]
    -- There is an error, but it is a type error.
    refine iff_of_false (fun ⟨message, herror⟩ => nomatch herror) ?_
    rcases exists_singleton_of_short hshort with ⟨first, hfirst⟩
    rw [hfirst]
    exact id
  · rw [if_neg hshort]
    cases hsegments : pathSegments url.pathname with
    | nil =>
        rw [hsegments] at hshort
        exact absurd Nat.zero_lt_two hshort
    | cons first more =>
        cases more with
        | nil =>
            rw [hsegments] at hshort
            exact absurd Nat.one_lt_two hshort
        | cons second more =>
            constructor
            · rintro ⟨parts, k, hparse, hsplits⟩
              exact separable_of_splits hsegments hparse hsplits
            · exact splits_of_separable hsegments

example : parseGitlabURL (fun project => project = "group/subgroup/project")
    ⟨"gitlab.com", "/group/subgroup/project/-/tree/master", ()⟩ =
      .ok ⟨"gitlab.com", some "group/subgroup", some "project", ["tree", "master"], ()⟩ := by
  rfl

/-- A user instead of a repository is a type error. -/
theorem single_segment_typeError : ¬ ∀ (projectExists : String → Bool) (url : ParsedUrl Unit),
    ParsesUrl projectExists url := by
  intro hall
  have hparses := hall (fun _ => false) ⟨"gitlab.com", "/octocat", ()⟩
  rw [ParsesUrl, if_pos (by decide)] at hparses
  rcases hparses with ⟨message, herror⟩
  exact nomatch herror

end Server

end Nxpod
