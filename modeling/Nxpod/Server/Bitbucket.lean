import Nxpod.Server.GithubTree
import Nxpod.Server.RepositoryUrl

/-!
# Pages on Bitbucket

A page of a repository on Bitbucket is that of a branch, a tag or a commit, and the page of a file
has its path behind. The parser takes one segment for the name of the ref, as it stands in the URL,
and what is behind it for the path. Where there is no such segment, or where the page is an unknown
one, the branch `master` is meant.

So a name with a slash is not found, nor is anything that is encoded in the URL, nor a main branch
with another name. A page that does not exist is taken for the one of `master`, segments behind the
name of a branch are dropped, and what `commits` is followed by is not looked up at all.

The answers of Bitbucket are a parameter: the repositories, and what the names of revisions stand
for. The pages of pull requests and of issues are left to their own handlers.

## Main definitions

* `Kind`: What a name is that of.
* `Ref`: A branch or a tag, and the commit it is at.
* `Repository`: What Bitbucket knows.
* `PartialContext`: What has been found out about the context.
* `handleNavigatorContext`, `handle`: The parser.
* `Handled`: A context, or the number that the handler of another kind of page is called with.
* `Target`: What a page is about: a ref or only a commit, and a path in it.
* `PageUrl`: The segments of a page.
* `Shows`: The context is the one of a page.
* `Meets`: Pages are resolved, and everything else is an error.
* `Plain`: The URLs of pages that are resolved.
* `Unknown`: The URLs without a page that are an error.

## Theorems

* `shows_of_plain`, `plain_of_shows`: When a page is found.
* `rejected_iff_unknown`: When there is an error.
* `meets_iff`: When a URL is treated as it should be.
-/

namespace Nxpod

namespace Server

namespace Bitbucket

open Text

/-! ## What Bitbucket knows -/

/-- What a name is that of. -/
inductive Kind
  | branch
  | tag
  deriving DecidableEq

/-- What the context calls it. -/
def Kind.refType : Kind → RefType
  | .branch => .branch
  | .tag => .tag

/-- The segment of a page. -/
def Kind.word : Kind → String
  | .branch => "branch"
  | .tag => "tag"

/-- A branch or a tag, and the commit it is at. -/
structure Ref where
  kind : Kind
  name : String
  target : String
  deriving DecidableEq

/-- A repository of Bitbucket. `repository` is what the server makes of its properties. -/
structure Repository (ρ : Type) where
  repository : ρ
  mainbranch : Option String
  refs : List Ref
  /-- The hash of the commit that the name of a revision stands for. -/
  resolve : String → Option String
  /-- The type of what a commit has at a path. -/
  readSrc : String → String → Option String
  name_ne : ∀ r ∈ refs, r.name ≠ ""
  resolve_ref : ∀ r ∈ refs, ∃ r' ∈ refs, r'.name = r.name ∧ resolve r.name = some r'.target

variable {ρ : Type}

/-- The first page, which has one commit. -/
def Repository.listCommitsAt (repo : Repository ρ) (revision : String) : Option (List String) :=
  (repo.resolve revision).map fun hash => [hash]

/-- The tag of the name. A branch may have the same one. -/
def Repository.getTag (repo : Repository ρ) (name : String) : Option Ref :=
  repo.refs.find? fun r => decide (r.kind = .tag ∧ r.name = name)

/-! ## The parser -/

/-- What has been found out about the context. -/
structure PartialContext where
  ref : Option String
  refType : Option RefType
  revision : Option String
  path : Option String

/-- Neither undefined nor empty. -/
def truthy (s : Option String) : Option String := s.filter fun s => s ≠ ""

/-- The path is looked up in the commit. -/
def navigate (repo : Repository ρ) (owner repoName : String) (ref : Option String)
    (refType : RefType) (revision path : String) : Except ContextError (NavigatorContext ρ) :=
  let context := {
    isFile := false
    path := path
    title := owner ++ "/" ++ repoName ++ " - " ++ (truthy ref).getD revision ++
      (if path = "" then "" else ":" ++ path)
    ref := ref
    refType := some refType
    revision := revision
    repository := repo.repository }
  if path = "" then .ok context
  else match repo.readSrc revision path with
    | none => .error (.error "Not Found")
    | some type => .ok { context with isFile := type = "commit_file" }

/-- What the page has said is looked up, and what it has not said is made up: a branch, the one
    called master, and no path. -/
def handleNavigatorContext (api : Option (Repository ρ)) (owner repoName : String)
    (more : PartialContext) : Except ContextError (NavigatorContext ρ) :=
  match api with
  | none => .error (.notFound owner repoName)
  | some repo =>
      let refType := more.refType.getD .branch
      let path := more.path.getD ""
      match truthy more.revision with
      | some revision => navigate repo owner repoName more.ref refType revision path
      | none =>
          let ref := (truthy more.ref).getD "master"
          match repo.listCommitsAt ref with
          | none => .error (.error "Not Found")
          | some commits =>
              navigate repo owner repoName (some ref) refType (commits.headD "") path

/-- A hash is looked up, and has to come back as it is. -/
def isValidCommitHash (api : Option (Repository ρ)) (potentialCommitHash : String) : Bool :=
  match api with
  | none => false
  | some repo => decide (potentialCommitHash.length = 40) &&
      decide (repo.resolve potentialCommitHash = some potentialCommitHash)

/-- There is a tag of the name. -/
def isTag (api : Option (Repository ρ)) (potentialTag : String) : Bool :=
  match api with
  | none => false
  | some repo => (repo.getTag potentialTag).isSome

/-- The segments are those behind `src`. -/
def srcContext (api : Option (Repository ρ)) (searchParams : String → Option String)
    (segments : List String) : PartialContext :=
  let branchTagOrHash := segments.headD "master"
  let path := some (join '/' (segments.drop 1))
  if isValidCommitHash api branchTagOrHash then
    match searchParams "at" with
    | some ref => ⟨some ref, some .branch, some branchTagOrHash, path⟩
    | none => ⟨none, none, some branchTagOrHash, path⟩
  else if isTag api branchTagOrHash then ⟨some branchTagOrHash, some .tag, none, path⟩
  else ⟨some branchTagOrHash, some .branch, none, path⟩

/-- What a page of a branch says. What is behind the name is left out. -/
def branchContext (segments : List String) : PartialContext :=
  ⟨some (segments.headD "master"), some .branch, none, none⟩

/-- What a page of commits says: a tag, a branch, or else a revision. -/
def commitsContext : List String → PartialContext
  | [] => ⟨none, none, none, none⟩
  | word :: segments =>
      if word = "tag" then
        match segments with
        | [] => ⟨none, none, none, none⟩
        | name :: _ => ⟨some name, some .tag, none, none⟩
      else if word = "branch" then
        match segments with
        | [] => ⟨none, none, none, none⟩
        | name :: _ => ⟨some name, some .branch, none, none⟩
      else ⟨some "", some .revision, some word, none⟩

/-- A context, or the number that the handler of another kind of page is called with. -/
inductive Handled (ρ : Type)
  | navigator (context : NavigatorContext ρ)
  | pullRequest (nr : Option Int)
  | issue (nr : Option Int)

/-- The page is the segment behind the name of the repository. -/
def pageContext (api : Option (Repository ρ)) (searchParams : String → Option String) :
    List String → PartialContext
  | [] => ⟨none, none, none, none⟩
  | page :: segments =>
      if page = "src" then srcContext api searchParams segments
      else if page = "branch" then branchContext segments
      else if page = "commits" then commitsContext segments
      else ⟨none, none, none, none⟩

/-- Two kinds of pages have handlers of their own. -/
def handlePage (api : Option (Repository ρ)) (owner repoName : String)
    (searchParams : String → Option String) (moreSegments : List String) :
    Except ContextError (Handled ρ) :=
  let nr := parseInt (moreSegments[1]?.getD "undefined")
  if moreSegments.head? = some "pull-requests" then .ok (.pullRequest nr)
  else if moreSegments.head? = some "issues" then .ok (.issue nr)
  else (handleNavigatorContext api owner repoName
    (pageContext api searchParams moreSegments)).map .navigator

/-- There is no repository with an undefined name. -/
def handle (repositories : String → String → Option (Repository ρ))
    (url : ParsedUrl (String → Option String)) : Except ContextError (Handled ρ) :=
  match parseURL url with
  | .error (.typeError message) => .error (.error message)
  | .error (.error message) => .error (.error message)
  | .ok parts =>
      let api := parts.owner.bind fun owner => parts.repoName.bind fun repoName =>
        repositories owner repoName
      handlePage api (parts.owner.getD "undefined") (parts.repoName.getD "undefined")
        parts.searchParams parts.moreSegments

/-! ## Pages -/

/-- What a page is about: a ref or only a commit, and a path in it. -/
structure Target where
  ref : Option Ref
  revision : String
  path : String

/-- There is something at the path. -/
def Has (repo : Repository ρ) (revision path : String) : Prop :=
  path ≠ "" → (repo.readSrc revision path).isSome

/-- A hash stands for itself. -/
def IsCommit (repo : Repository ρ) (hash : String) : Prop :=
  hash.length = 40 ∧ repo.resolve hash = some hash

/-- The segments behind the name of the repository, and the parameter `at`. -/
inductive PageUrl (repo : Repository ρ) (at? : Option String) : List String → Target → Prop
  | plain (r : Ref) (hr : r ∈ repo.refs) (hkind : r.kind = .branch)
      (hmain : repo.mainbranch = some r.name) : PageUrl repo at? [] ⟨some r, r.target, ""⟩
  | src (r : Ref) (path : String) (refSegments pathSegments : List String) (hr : r ∈ repo.refs)
      (href : Decodes refSegments (split '/' r.name))
      (hpath : Decodes pathSegments (pathParts path)) (hhas : Has repo r.target path) :
      PageUrl repo at? ("src" :: (refSegments ++ pathSegments)) ⟨some r, r.target, path⟩
  | srcAt (r : Ref) (hash path : String) (pathSegments : List String) (hr : r ∈ repo.refs)
      (hkind : r.kind = .branch) (hat : at? = some r.name) (hcommit : IsCommit repo hash)
      (hpath : Decodes pathSegments (pathParts path)) (hhas : Has repo hash path) :
      PageUrl repo at? ("src" :: hash :: pathSegments) ⟨some r, hash, path⟩
  | srcCommit (hash path : String) (pathSegments : List String) (hat : at? = none)
      (hcommit : IsCommit repo hash) (hpath : Decodes pathSegments (pathParts path))
      (hhas : Has repo hash path) :
      PageUrl repo at? ("src" :: hash :: pathSegments) ⟨none, hash, path⟩
  | branch (r : Ref) (refSegments : List String) (hr : r ∈ repo.refs) (hkind : r.kind = .branch)
      (href : Decodes refSegments (split '/' r.name)) :
      PageUrl repo at? ("branch" :: refSegments) ⟨some r, r.target, ""⟩
  | commits (r : Ref) (refSegments : List String) (hr : r ∈ repo.refs)
      (href : Decodes refSegments (split '/' r.name)) :
      PageUrl repo at? ("commits" :: r.kind.word :: refSegments) ⟨some r, r.target, ""⟩
  | commit (hash : String) (hcommit : IsCommit repo hash) :
      PageUrl repo at? ["commits", hash] ⟨none, hash, ""⟩

/-- The path is there, and is that of a file. -/
def Repository.isFile (repo : Repository ρ) (revision path : String) : Bool :=
  decide (path ≠ "" ∧ repo.readSrc revision path = some "commit_file")

/-- The ref of the context is the one of the page, if there is one. -/
def Agrees (ref : Option String) (refType : Option RefType) : Option Ref → Prop
  | some r => ref = some r.name ∧ refType = some r.kind.refType
  | none => truthy ref = none

/-- The context is the one of the page. -/
def Shows (repo : Repository ρ) (target : Target)
    (result : Except ContextError (Handled ρ)) : Prop :=
  ∃ context, result = .ok (.navigator context) ∧
    Agrees context.ref context.refType target.ref ∧ context.revision = target.revision ∧
    context.path = target.path ∧ context.isFile = repo.isFile target.revision target.path ∧
    context.repository = repo.repository

/-- There is an error, whatever it says. -/
def Rejected {α : Type} (result : Except ContextError α) : Prop :=
  ∃ err, result = .error err

/-- The pages of the other handlers. -/
def OtherPage (moreSegments : List String) : Prop :=
  moreSegments.head? = some "pull-requests" ∨ moreSegments.head? = some "issues"

/-- The URL is that of no page. -/
def Malformed (repo : Repository ρ) (at? : Option String) (moreSegments : List String) : Prop :=
  moreSegments ≠ [] ∧ ¬ OtherPage moreSegments ∧
    ∀ target, ¬ PageUrl repo at? moreSegments target

/-- The URL begins with the owner and the name of the repository. -/
def Addresses (repositories : String → String → Option (Repository ρ))
    (url : ParsedUrl (String → Option String)) (repo : Repository ρ)
    (moreSegments : List String) : Prop :=
  ∃ owner name, pathSegments url.pathname = owner :: name :: moreSegments ∧
    repositories owner (firstName name moreSegments) = some repo

/-- Pages are resolved, and everything else is an error. -/
structure Meets (repositories : String → String → Option (Repository ρ))
    (url : ParsedUrl (String → Option String)) : Prop where
  page : ∀ repo moreSegments, Addresses repositories url repo moreSegments →
    ∀ target, PageUrl repo (url.searchParams "at") moreSegments target →
      Shows repo target (handle repositories url)
  malformed : ∀ repo moreSegments, Addresses repositories url repo moreSegments →
    Malformed repo (url.searchParams "at") moreSegments → Rejected (handle repositories url)
  unknown : (∀ repo moreSegments, ¬ Addresses repositories url repo moreSegments) →
    ¬ OtherPage ((pathSegments url.pathname).drop 2) → Rejected (handle repositories url)

/-! ## What is found -/

/-- Names of refs are a single segment, and nothing is encoded. The main branch is `master`, and no
other ref is in the way. -/
inductive Plain (repo : Repository ρ) (at? : Option String) : List String → Target → Prop
  | plain (r : Ref) (hr : r ∈ repo.refs) (hkind : r.kind = .branch) (hname : r.name = "master")
      (hresolve : repo.resolve r.name = some r.target) : Plain repo at? [] ⟨some r, r.target, ""⟩
  | src (r : Ref) (pathSegments : List String) (hr : r ∈ repo.refs)
      (hcommit : ¬ IsCommit repo r.name)
      (htag : r.kind = .branch → isTag (some repo) r.name = false)
      (hresolve : repo.resolve r.name = some r.target) :
      Plain repo at? ("src" :: r.name :: pathSegments) ⟨some r, r.target, join '/' pathSegments⟩
  | srcAt (r : Ref) (hash : String) (pathSegments : List String) (hkind : r.kind = .branch)
      (hat : at? = some r.name) (hcommit : IsCommit repo hash) :
      Plain repo at? ("src" :: hash :: pathSegments) ⟨some r, hash, join '/' pathSegments⟩
  | srcCommit (hash : String) (pathSegments : List String) (hat : at? = none)
      (hcommit : IsCommit repo hash) :
      Plain repo at? ("src" :: hash :: pathSegments) ⟨none, hash, join '/' pathSegments⟩
  | branch (r : Ref) (hr : r ∈ repo.refs) (hkind : r.kind = .branch)
      (hresolve : repo.resolve r.name = some r.target) :
      Plain repo at? ["branch", r.name] ⟨some r, r.target, ""⟩
  | commits (r : Ref) (hr : r ∈ repo.refs) (hresolve : repo.resolve r.name = some r.target) :
      Plain repo at? ["commits", r.kind.word, r.name] ⟨some r, r.target, ""⟩
  | commit (hash : String) (hcommit : IsCommit repo hash) :
      Plain repo at? ["commits", hash] ⟨none, hash, ""⟩

/-- The segment that is taken for the name of a revision. -/
def nameSegment : List String → String
  | [] => ""
  | page :: segments =>
      if page = "src" ∨ page = "branch" then segments.headD ""
      else if page = "commits" then
        if segments.headD "" = "tag" ∨ segments.headD "" = "branch" then
          (segments.drop 1).headD ""
        else segments.headD ""
      else ""

/-- What is behind `commits` is taken for a hash. -/
def IsHashPage (moreSegments : List String) : Prop :=
  moreSegments.head? = some "commits" ∧ moreSegments[1]? ≠ some "tag" ∧
    moreSegments[1]? ≠ some "branch"

instance (moreSegments : List String) : Decidable (IsHashPage moreSegments) :=
  inferInstanceAs (Decidable (_ ∧ _ ∧ _))

/-- The commit that is taken for what the segments say. -/
def revisionOf (repo : Repository ρ) (moreSegments : List String) : Option String :=
  if nameSegment moreSegments = "" then repo.resolve "master"
  else if IsHashPage moreSegments then some (nameSegment moreSegments)
  else repo.resolve (nameSegment moreSegments)

/-- The path that is, which only `src` has. -/
def pathOf (moreSegments : List String) : String :=
  if moreSegments.head? = some "src" then join '/' (moreSegments.drop 2) else ""

/-- There is no such revision, or there is no such path in it. -/
def Unknown (repo : Repository ρ) (moreSegments : List String) : Prop :=
  ∀ revision, revisionOf repo moreSegments = some revision →
    ¬ Has repo revision (pathOf moreSegments)

/-! ## The commit and the path -/

variable {repo : Repository ρ} {owner repoName : String} {ref : Option String} {refType : RefType}
  {revision path : String} {context : NavigatorContext ρ} {more : PartialContext}
  {target : Target}

theorem truthy_some {s : String} (h : s ≠ "") : truthy (some s) = some s := by
  rw [truthy, Option.filter_some, if_pos (by simpa using h)]

theorem truthy_none : truthy none = none := rfl

/-- A path that was looked up is known to be a file or not. -/
theorem isFile_of_readSrc {type : String} (hpath : path ≠ "")
    (h : repo.readSrc revision path = some type) :
    repo.isFile revision path = decide (type = "commit_file") := by
  rw [Repository.isFile, h]
  simp [hpath]

theorem navigate_eq_ok (h : navigate repo owner repoName ref refType revision path = .ok context) :
    context.ref = ref ∧ context.refType = some refType ∧ context.revision = revision ∧
      context.path = path ∧ context.isFile = repo.isFile revision path ∧
      context.repository = repo.repository := by
  rw [navigate] at h
  by_cases hpath : path = ""
  · rw [if_pos hpath] at h
    rw [← Except.ok.inj h]
    refine ⟨rfl, rfl, rfl, rfl, ?_, rfl⟩
    simp [Repository.isFile, hpath]
  · rw [if_neg hpath] at h
    cases hread : repo.readSrc revision path with
    | none =>
        rw [hread] at h
        exact nomatch h
    | some type =>
        rw [hread] at h
        rw [← Except.ok.inj h]
        exact ⟨rfl, rfl, rfl, rfl, (isFile_of_readSrc hpath hread).symm, rfl⟩

theorem rejected_navigate_iff :
    Rejected (navigate repo owner repoName ref refType revision path) ↔
      ¬ Has repo revision path := by
  rw [navigate]
  by_cases hpath : path = ""
  · rw [if_pos hpath]
    exact ⟨fun ⟨_, h⟩ => (nomatch h), fun h => absurd (fun hne => absurd hpath hne) h⟩
  · rw [if_neg hpath]
    cases hread : repo.readSrc revision path with
    | none => exact ⟨fun _ h => by simpa [hread] using h hpath, fun _ => ⟨_, rfl⟩⟩
    | some type =>
        refine ⟨fun ⟨_, h⟩ => (nomatch h), fun h => absurd (fun _ => ?_) h⟩
        rw [hread]
        rfl

/-- The revision that is given, or the one of the ref. -/
def found (repo : Repository ρ) (more : PartialContext) : Option String :=
  match truthy more.revision with
  | some revision => some revision
  | none => repo.resolve ((truthy more.ref).getD "master")

/-- The ref that is given, unless there is neither a ref nor a revision. -/
def foundRef (more : PartialContext) : Option String :=
  match truthy more.revision with
  | some _ => more.ref
  | none => some ((truthy more.ref).getD "master")

/-- What was said and what was made up are looked up in the same way. -/
theorem handleNavigatorContext_eq (repo : Repository ρ) (owner repoName : String)
    (more : PartialContext) : handleNavigatorContext (some repo) owner repoName more =
      match found repo more with
      | none => .error (.error "Not Found")
      | some revision => navigate repo owner repoName (foundRef more)
          (more.refType.getD .branch) revision (more.path.getD "") := by
  rw [handleNavigatorContext, found, foundRef]
  cases htruthy : truthy more.revision with
  | some revision => rfl
  | none =>
      simp only [Repository.listCommitsAt]
      cases repo.resolve ((truthy more.ref).getD "master") with
      | none => rfl
      | some hash => rfl

theorem shows_navigator_iff (hhas : Has repo target.revision target.path) :
    Shows repo target
        ((handleNavigatorContext (some repo) owner repoName more).map Handled.navigator) ↔
      Agrees (foundRef more) (some (more.refType.getD .branch)) target.ref ∧
        found repo more = some target.revision ∧ more.path.getD "" = target.path := by
  rw [handleNavigatorContext_eq]
  cases hfound : found repo more with
  | none => exact ⟨fun ⟨_, h, _⟩ => (nomatch h), fun ⟨_, h, _⟩ => (nomatch h)⟩
  | some revision =>
      simp only
      cases hnavigate : navigate repo owner repoName (foundRef more)
          (more.refType.getD .branch) revision (more.path.getD "") with
      | error err =>
          refine ⟨fun ⟨_, h, _⟩ => (nomatch h), fun ⟨_, hrevision, hpath⟩ => ?_⟩
          -- The path of a page is there, so the lookup cannot have failed.
          have hnot := rejected_navigate_iff.mp ⟨err, hnavigate⟩
          rw [Option.some.inj hrevision, hpath] at hnot
          exact absurd hhas hnot
      | ok context =>
          rcases navigate_eq_ok hnavigate with ⟨href, htype, hrevision, hpath, hfile, hrepo⟩
          constructor
          · rintro ⟨context', hcontext, hagrees, hrevision', hpath', -⟩
            rw [← Handled.navigator.inj (Except.ok.inj hcontext)] at hagrees hrevision' hpath'
            rw [← href, ← htype, ← hrevision, ← hpath]
            exact ⟨hagrees, congrArg some hrevision', hpath'⟩
          · rintro ⟨hagrees, hrevision', hpath'⟩
            refine ⟨context, rfl, ?_, ?_, ?_, ?_, hrepo⟩
            · rw [href, htype]
              exact hagrees
            · rw [hrevision, Option.some.inj hrevision']
            · rw [hpath, hpath']
            · rw [hfile, Option.some.inj hrevision', hpath']

theorem rejected_map_iff {α β : Type} {f : α → β} {result : Except ContextError α} :
    Rejected (result.map f) ↔ Rejected result := by
  cases result with
  | error err => exact ⟨fun _ => ⟨err, rfl⟩, fun _ => ⟨err, rfl⟩⟩
  | ok a => exact ⟨fun ⟨_, h⟩ => (nomatch h), fun ⟨_, h⟩ => (nomatch h)⟩

theorem rejected_navigator_iff :
    Rejected ((handleNavigatorContext (some repo) owner repoName more).map Handled.navigator) ↔
      ∀ revision, found repo more = some revision → ¬ Has repo revision (more.path.getD "") := by
  rw [rejected_map_iff, handleNavigatorContext_eq]
  cases found repo more with
  | none => exact ⟨fun _ _ h => (nomatch h), fun _ => ⟨_, rfl⟩⟩
  | some revision =>
      simp only [rejected_navigate_iff, Option.some.injEq, forall_eq']

/-! ## Pages that are found -/

theorem isValidCommitHash_iff {s : String} :
    isValidCommitHash (some repo) s = true ↔ IsCommit repo s := by
  simp [isValidCommitHash, IsCommit]

theorem isCommit_ne_empty {hash : String} (h : IsCommit repo hash) : hash ≠ "" := by
  rintro rfl
  exact absurd h.1 (by decide)

theorem isTag_of_mem {r : Ref} (hr : r ∈ repo.refs) (hkind : r.kind = .tag) :
    isTag (some repo) r.name = true := by
  rw [isTag, Repository.getTag, List.find?_isSome]
  exact ⟨r, hr, by simp [hkind]⟩

/-- The context of a ref by its name. -/
theorem shows_ref_iff {name : String} {kind : Kind} {path : Option String} (hname : name ≠ "")
    (hhas : Has repo target.revision target.path) :
    Shows repo target ((handleNavigatorContext (some repo) owner repoName
        ⟨some name, some kind.refType, none, path⟩).map Handled.navigator) ↔
      Agrees (some name) (some kind.refType) target.ref ∧
        repo.resolve name = some target.revision ∧ path.getD "" = target.path := by
  rw [shows_navigator_iff hhas, foundRef, found, truthy_none, truthy_some hname]
  rfl

/-- The context of a commit. -/
theorem shows_commit_iff {hash : String} {refType : Option RefType} {path : Option String}
    (hhash : hash ≠ "") (hhas : Has repo target.revision target.path) :
    Shows repo target ((handleNavigatorContext (some repo) owner repoName
        ⟨ref, refType, some hash, path⟩).map Handled.navigator) ↔
      Agrees ref (some (refType.getD .branch)) target.ref ∧ hash = target.revision ∧
        path.getD "" = target.path := by
  rw [shows_navigator_iff hhas, foundRef, found, truthy_some hhash, Option.some.injEq]

variable {searchParams : String → Option String} {segments moreSegments : List String}

/-- Pages without a handler of their own are treated alike. -/
theorem handlePage_eq (api : Option (Repository ρ)) (hother : ¬ OtherPage moreSegments) :
    handlePage api owner repoName searchParams moreSegments =
      (handleNavigatorContext api owner repoName (pageContext api searchParams moreSegments)).map
        Handled.navigator := by
  rw [OtherPage, not_or] at hother
  rw [handlePage, if_neg hother.1, if_neg hother.2]

theorem handlePage_src : handlePage (some repo) owner repoName searchParams ("src" :: segments) =
    (handleNavigatorContext (some repo) owner repoName
      (srcContext (some repo) searchParams segments)).map Handled.navigator := by
  rw [handlePage_eq (some repo) (by simp [OtherPage]), pageContext, if_pos rfl]

theorem handlePage_branch :
    handlePage (some repo) owner repoName searchParams ("branch" :: segments) =
      (handleNavigatorContext (some repo) owner repoName (branchContext segments)).map
        Handled.navigator := by
  rw [handlePage_eq (some repo) (by simp [OtherPage]), pageContext, if_neg (by simp), if_pos rfl]

theorem handlePage_commits :
    handlePage (some repo) owner repoName searchParams ("commits" :: segments) =
      (handleNavigatorContext (some repo) owner repoName (commitsContext segments)).map
        Handled.navigator := by
  rw [handlePage_eq (some repo) (by simp [OtherPage]), pageContext, if_neg (by simp),
    if_neg (by simp), if_pos rfl]

theorem branchContext_cons (name : String) (segments : List String) :
    branchContext (name :: segments) = ⟨some name, some Kind.branch.refType, none, none⟩ := rfl

theorem commitsContext_word (kind : Kind) (name : String) (segments : List String) :
    commitsContext (kind.word :: name :: segments) =
      ⟨some name, some kind.refType, none, none⟩ := by
  cases kind with
  | branch => simp [commitsContext, Kind.word, Kind.refType]
  | tag => simp [commitsContext, Kind.word, Kind.refType]

theorem commitsContext_other {word : String} (h : ¬ (word = "tag" ∨ word = "branch"))
    (segments : List String) :
    commitsContext (word :: segments) = ⟨some "", some .revision, some word, none⟩ := by
  rw [not_or] at h
  rw [commitsContext.eq_def]
  exact (if_neg h.1).trans (if_neg h.2)

theorem isCommit_ne_word {hash : String} (h : IsCommit repo hash) :
    ¬ (hash = "tag" ∨ hash = "branch") := by
  rintro (rfl | rfl)
  · exact absurd h.1 (by decide)
  · exact absurd h.1 (by decide)

theorem srcContext_of_commit {hash : String} (h : IsCommit repo hash) (segments : List String) :
    srcContext (some repo) searchParams (hash :: segments) =
      ⟨searchParams "at", (searchParams "at").map fun _ => .branch, some hash,
        some (join '/' segments)⟩ := by
  cases hat : searchParams "at" with
  | none => simp [srcContext, isValidCommitHash_iff.mpr h, hat]
  | some ref => simp [srcContext, isValidCommitHash_iff.mpr h, hat]

theorem srcContext_of_ref {name : String} (h : ¬ IsCommit repo name) (segments : List String) :
    srcContext (some repo) searchParams (name :: segments) =
      ⟨some name, some (if isTag (some repo) name then Kind.tag else Kind.branch).refType, none,
        some (join '/' segments)⟩ := by
  have hvalid : isValidCommitHash (some repo) name = false :=
    Bool.eq_false_iff.mpr fun hvalid => h (isValidCommitHash_iff.mp hvalid)
  by_cases htag : isTag (some repo) name = true
  · simp [srcContext, hvalid, htag, Kind.refType]
  · simp [srcContext, hvalid, htag, Kind.refType]

theorem kind_refType_inj {kind kind' : Kind} (h : kind.refType = kind'.refType) : kind = kind' := by
  cases kind <;> cases kind' <;> first | rfl | exact nomatch h

/-- A page whose URL is plain is found. -/
theorem shows_of_plain (hhas : Has repo target.revision target.path)
    (h : Plain repo (searchParams "at") moreSegments target) :
    Shows repo target (handlePage (some repo) owner repoName searchParams moreSegments) := by
  cases h with
  | plain r hr hkind hname hresolve =>
      rw [hname] at hresolve
      refine (shows_navigator_iff hhas).mpr ⟨⟨?_, ?_⟩, hresolve, rfl⟩
      · rw [hname]
        rfl
      · rw [hkind]
        rfl
  | src r pathSegments hr hcommit htag hresolve =>
      -- Tags are looked up first, and a branch is what is no tag.
      have hkind : (if isTag (some repo) r.name then Kind.tag else Kind.branch) = r.kind := by
        cases hkind : r.kind with
        | tag => rw [if_pos (isTag_of_mem hr hkind)]
        | branch => rw [htag hkind, if_neg Bool.false_ne_true]
      rw [handlePage_src, srcContext_of_ref hcommit, hkind, shows_ref_iff (repo.name_ne r hr) hhas]
      exact ⟨⟨rfl, rfl⟩, hresolve, rfl⟩
  | srcAt r hash pathSegments hkind hat hcommit =>
      rw [handlePage_src, srcContext_of_commit hcommit,
        shows_commit_iff (isCommit_ne_empty hcommit) hhas, hat]
      refine ⟨⟨rfl, ?_⟩, rfl, rfl⟩
      rw [hkind]
      rfl
  | srcCommit hash pathSegments hat hcommit =>
      rw [handlePage_src, srcContext_of_commit hcommit,
        shows_commit_iff (isCommit_ne_empty hcommit) hhas, hat]
      exact ⟨rfl, rfl, rfl⟩
  | branch r hr hkind hresolve =>
      rw [handlePage_branch, branchContext_cons, shows_ref_iff (repo.name_ne r hr) hhas]
      refine ⟨⟨rfl, ?_⟩, hresolve, rfl⟩
      rw [hkind]
  | commits r hr hresolve =>
      rw [handlePage_commits, commitsContext_word, shows_ref_iff (repo.name_ne r hr) hhas]
      exact ⟨⟨rfl, rfl⟩, hresolve, rfl⟩
  | commit hash hcommit =>
      rw [handlePage_commits, commitsContext_other (isCommit_ne_word hcommit),
        shows_commit_iff (isCommit_ne_empty hcommit) hhas]
      exact ⟨rfl, rfl, rfl⟩

theorem eq_of_decodes {name : String} {refSegments : List String} (hslash : '/' ∉ name.toList)
    (h : Decodes (name :: refSegments) (split '/' name)) : refSegments = [] := by
  have hlength := h.length_eq
  rw [split_of_not_mem hslash, List.length_cons, List.length_singleton] at hlength
  exact List.length_eq_zero_iff.mp (by omega)

theorem exists_cons_of_decodes {name : String} {refSegments : List String}
    (h : Decodes refSegments (split '/' name)) : ∃ first rest, refSegments = first :: rest := by
  cases refSegments with
  | nil => exact absurd (List.forall₂_nil_left_iff.mp h) (split_ne_nil '/' name)
  | cons first rest => exact ⟨first, rest, rfl⟩

/-- The segment that was taken for a ref that is found is its name. -/
theorem name_of_shows {r : Ref} {first path' : String} {rest : List String} {kind : Kind}
    {path : Option String} (href : Decodes (first :: rest) (split '/' r.name))
    (hhas : Has repo revision path') (h : Shows repo ⟨some r, revision, path'⟩
      ((handleNavigatorContext (some repo) owner repoName
        ⟨some first, some kind.refType, none, path⟩).map Handled.navigator)) :
    first = r.name ∧ kind = r.kind ∧ repo.resolve r.name = some revision ∧
      path.getD "" = path' := by
  by_cases hfirst : first = ""
  · -- It would be the branch `master`, whose name is not empty.
    have hmaster : "master" = r.name := by
      rw [hfirst] at h
      exact Option.some.inj ((shows_navigator_iff hhas).mp h).1.1
    rw [hfirst, ← hmaster, split_of_not_mem (by decide)] at href
    cases href with
    | cons hdecode _ => exact nomatch hdecode
  · rcases (shows_ref_iff hfirst hhas).mp h with ⟨hagrees, hresolve, hpath⟩
    have hname : first = r.name := Option.some.inj hagrees.1
    rw [hname] at hresolve
    exact ⟨hname, kind_refType_inj (Option.some.inj hagrees.2), hresolve, hpath⟩

theorem has_of_pageUrl {at? : Option String} (h : PageUrl repo at? moreSegments target) :
    Has repo target.revision target.path := by
  cases h with
  | plain => exact fun hne => absurd rfl hne
  | src r path refSegments pathSegments hr href hpath hhas => exact hhas
  | srcAt r hash path pathSegments hr hkind hat hcommit hpath hhas => exact hhas
  | srcCommit hash path pathSegments hat hcommit hpath hhas => exact hhas
  | branch => exact fun hne => absurd rfl hne
  | commits => exact fun hne => absurd rfl hne
  | commit => exact fun hne => absurd rfl hne

/-- The segment behind `src` is the hash of a commit, or else it is the name of the ref. -/
theorem plain_src_of_shows {r : Ref} {first path : String} {rest pathSegments : List String}
    (hr : r ∈ repo.refs) (href : Decodes (first :: rest) (split '/' r.name))
    (hhas : Has repo r.target path) (h : Shows repo ⟨some r, r.target, path⟩
      (handlePage (some repo) owner repoName searchParams
        ("src" :: (first :: rest ++ pathSegments)))) :
    Plain repo (searchParams "at") ("src" :: (first :: rest ++ pathSegments))
      ⟨some r, r.target, path⟩ := by
  rw [List.cons_append] at h ⊢
  rw [handlePage_src] at h
  by_cases hcommit : IsCommit repo first
  · -- The ref can only come from the parameter.
    rw [srcContext_of_commit hcommit, shows_commit_iff (isCommit_ne_empty hcommit) hhas] at h
    rcases h with ⟨⟨hat, htype⟩, hrevision, hpath⟩
    rw [hat] at htype
    have hkind : Kind.branch = r.kind := kind_refType_inj (Option.some.inj htype)
    rw [Option.getD_some] at hpath
    subst hrevision hpath
    exact .srcAt r r.target (rest ++ pathSegments) hkind.symm hat hcommit
  · rw [srcContext_of_ref hcommit] at h
    rcases name_of_shows href hhas h with ⟨hname, hkind, hresolve, hpath⟩
    rw [Option.getD_some] at hpath
    subst hname hpath
    refine .src r (rest ++ pathSegments) hr hcommit (fun hbranch => ?_) hresolve
    -- A tag of that name would have been taken first.
    rw [hbranch] at hkind
    by_contra htag
    rw [if_pos (Bool.eq_true_of_not_eq_false htag)] at hkind
    exact nomatch hkind

/-- A page that is found has a plain URL. -/
theorem plain_of_shows (hslash : ∀ segment ∈ moreSegments, '/' ∉ segment.toList)
    (hurl : PageUrl repo (searchParams "at") moreSegments target)
    (h : Shows repo target (handlePage (some repo) owner repoName searchParams moreSegments)) :
    Plain repo (searchParams "at") moreSegments target := by
  have hhas := has_of_pageUrl hurl
  cases hurl with
  | plain r hr hkind hmain =>
      rcases (shows_navigator_iff hhas).mp h with ⟨hagrees, hresolve, -⟩
      have hname : "master" = r.name := Option.some.inj hagrees.1
      refine .plain r hr hkind hname.symm ?_
      rw [← hname]
      exact hresolve
  | src r path refSegments pathSegments hr href =>
      rcases exists_cons_of_decodes href with ⟨first, rest, rfl⟩
      exact plain_src_of_shows hr href hhas h
  | srcAt r hash path pathSegments hr hkind hat hcommit =>
      rw [handlePage_src, srcContext_of_commit hcommit,
        shows_commit_iff (isCommit_ne_empty hcommit) hhas] at h
      rcases h with ⟨-, -, hpath⟩
      rw [Option.getD_some] at hpath
      subst hpath
      exact .srcAt r hash pathSegments hkind hat hcommit
  | srcCommit hash path pathSegments hat hcommit =>
      rw [handlePage_src, srcContext_of_commit hcommit,
        shows_commit_iff (isCommit_ne_empty hcommit) hhas] at h
      rcases h with ⟨-, -, hpath⟩
      rw [Option.getD_some] at hpath
      subst hpath
      exact .srcCommit hash pathSegments hat hcommit
  | branch r refSegments hr hkind href =>
      -- The first segment is the whole name, so there are no other ones.
      rcases exists_cons_of_decodes href with ⟨first, rest, rfl⟩
      rw [handlePage_branch, branchContext_cons] at h
      rcases name_of_shows href hhas h with ⟨hname, -, hresolve, -⟩
      subst hname
      rw [eq_of_decodes (hslash _ (by simp)) href]
      exact .branch r hr hkind hresolve
  | commits r refSegments hr href =>
      rcases exists_cons_of_decodes href with ⟨first, rest, rfl⟩
      rw [handlePage_commits, commitsContext_word] at h
      rcases name_of_shows href hhas h with ⟨hname, -, hresolve, -⟩
      subst hname
      rw [eq_of_decodes (hslash _ (by simp)) href]
      exact .commits r hr hresolve
  | commit hash hcommit => exact .commit hash hcommit

/-! ## Pages that there are not -/

/-- What is found under a name. Without a name it is what is called master. -/
theorem found_of_ref (name : String) (refType : Option RefType) (path : Option String) :
    found repo ⟨some name, refType, none, path⟩ =
      if name = "" then repo.resolve "master" else repo.resolve name := by
  rw [found, truthy_none]
  by_cases hname : name = ""
  · rw [if_pos hname, hname]
    rfl
  · rw [if_neg hname]
    simp only [truthy_some hname]
    rfl

theorem revisionOf_of_name {name : String} (hname : nameSegment moreSegments = name)
    (hhash : ¬ IsHashPage moreSegments) : revisionOf repo moreSegments =
      if name = "" then repo.resolve "master" else repo.resolve name := by
  rw [revisionOf, hname, if_neg hhash]

theorem found_srcContext (repo : Repository ρ) (searchParams : String → Option String)
    (segments : List String) :
    found repo (srcContext (some repo) searchParams segments) =
      revisionOf repo ("src" :: segments) := by
  have hhash : ¬ IsHashPage ("src" :: segments) := by
    simp [IsHashPage]
  cases segments with
  | nil =>
      -- The name that is put in has no 40 characters.
      have hmaster : ¬ IsCommit repo "master" := fun h => absurd h.1 (by decide)
      have hcontext : srcContext (some repo) searchParams [] =
          srcContext (some repo) searchParams ["master"] := rfl
      rw [hcontext, srcContext_of_ref hmaster, found_of_ref, revisionOf_of_name rfl hhash]
      rfl
  | cons name rest =>
      have hname : nameSegment ("src" :: name :: rest) = name := by
        simp [nameSegment]
      rw [revisionOf_of_name hname hhash]
      by_cases hcommit : IsCommit repo name
      · have hne := isCommit_ne_empty hcommit
        rw [srcContext_of_commit hcommit, if_neg hne, hcommit.2, found]
        simp only [truthy_some hne]
      · rw [srcContext_of_ref hcommit, found_of_ref]

theorem found_branchContext (repo : Repository ρ) (segments : List String) :
    found repo (branchContext segments) = revisionOf repo ("branch" :: segments) := by
  have hhash : ¬ IsHashPage ("branch" :: segments) := by
    simp [IsHashPage]
  have hname : nameSegment ("branch" :: segments) = segments.headD "" := by
    simp [nameSegment]
  rw [revisionOf_of_name hname hhash, branchContext, found_of_ref]
  cases segments with
  | nil => rfl
  | cons name rest => rfl

theorem found_commitsContext (repo : Repository ρ) (segments : List String) :
    found repo (commitsContext segments) = revisionOf repo ("commits" :: segments) := by
  cases segments with
  | nil => rfl
  | cons word rest =>
      by_cases hword : word = "tag" ∨ word = "branch"
      · -- The name of the ref is one segment further on.
        have hkind : ∃ kind : Kind, word = kind.word := by
          rcases hword with rfl | rfl
          · exact ⟨.tag, rfl⟩
          · exact ⟨.branch, rfl⟩
        have hhash : ¬ IsHashPage ("commits" :: word :: rest) := by
          rcases hword with rfl | rfl
          · simp [IsHashPage]
          · simp [IsHashPage]
        have hname : nameSegment ("commits" :: word :: rest) = rest.headD "" := by
          simp [nameSegment, hword]
        rw [revisionOf_of_name hname hhash]
        rcases hkind with ⟨kind, rfl⟩
        cases rest with
        | nil => cases kind <;> rfl
        | cons name more => rw [commitsContext_word, found_of_ref, List.headD_cons]
      · have hname : nameSegment ("commits" :: word :: rest) = word := by
          simp [nameSegment, hword]
        have hhash : IsHashPage ("commits" :: word :: rest) := by
          rw [not_or] at hword
          simp [IsHashPage, hword]
        rw [revisionOf, hname, if_pos hhash, commitsContext_other hword, found]
        by_cases hempty : word = ""
        · rw [if_pos hempty, hempty]
          rfl
        · simp only [truthy_some hempty, if_neg hempty]

theorem found_pageContext (repo : Repository ρ) (searchParams : String → Option String)
    (moreSegments : List String) :
    found repo (pageContext (some repo) searchParams moreSegments) =
      revisionOf repo moreSegments := by
  cases moreSegments with
  | nil => rfl
  | cons page segments =>
      rw [pageContext]
      by_cases hsrc : page = "src"
      · rw [if_pos hsrc, hsrc, found_srcContext]
      rw [if_neg hsrc]
      by_cases hbranch : page = "branch"
      · rw [if_pos hbranch, hbranch, found_branchContext]
      rw [if_neg hbranch]
      by_cases hcommits : page = "commits"
      · rw [if_pos hcommits, hcommits, found_commitsContext]
      rw [if_neg hcommits]
      have hname : nameSegment (page :: segments) = "" := by
        simp [nameSegment, hsrc, hbranch, hcommits]
      rw [revisionOf, if_pos hname]
      rfl

theorem path_srcContext (api : Option (Repository ρ)) (searchParams : String → Option String)
    (segments : List String) :
    (srcContext api searchParams segments).path = some (join '/' (segments.drop 1)) := by
  rw [srcContext]
  split
  · split
    · rfl
    · rfl
  · split
    · rfl
    · rfl

theorem path_commitsContext (segments : List String) : (commitsContext segments).path = none := by
  rw [commitsContext.eq_def]
  split
  · rfl
  · split
    · split <;> rfl
    · split
      · split <;> rfl
      · rfl

theorem path_pageContext (repo : Repository ρ) (searchParams : String → Option String)
    (moreSegments : List String) :
    (pageContext (some repo) searchParams moreSegments).path.getD "" = pathOf moreSegments := by
  cases moreSegments with
  | nil => rfl
  | cons page segments =>
      rw [pageContext, pathOf, List.head?_cons]
      by_cases hsrc : page = "src"
      · rw [if_pos hsrc, if_pos (by rw [hsrc]), path_srcContext]
        rfl
      · have hhead : ¬ some page = some "src" := fun h => hsrc (Option.some.inj h)
        rw [if_neg hsrc, if_neg hhead]
        by_cases hbranch : page = "branch"
        · rw [if_pos hbranch]
          rfl
        rw [if_neg hbranch]
        by_cases hcommits : page = "commits"
        · rw [if_pos hcommits, path_commitsContext]
          rfl
        · rw [if_neg hcommits]
          rfl

/-- A URL is an error exactly if Bitbucket does not know what was read off it. -/
theorem rejected_iff_unknown (hother : ¬ OtherPage moreSegments) :
    Rejected (handlePage (some repo) owner repoName searchParams moreSegments) ↔
      Unknown repo moreSegments := by
  rw [handlePage_eq _ hother, rejected_navigator_iff, found_pageContext, path_pageContext]
  rfl

theorem rejected_of_unknown_repository (hother : ¬ OtherPage moreSegments) :
    Rejected (handlePage (none : Option (Repository ρ)) owner repoName searchParams
      moreSegments) := by
  rw [handlePage_eq _ hother]
  exact ⟨_, rfl⟩

/-! ## URLs -/

variable {repositories : String → String → Option (Repository ρ)}
  {url : ParsedUrl (String → Option String)}

theorem handle_eq {name : String}
    (h : pathSegments url.pathname = owner :: name :: moreSegments) :
    handle repositories url = handlePage (repositories owner (firstName name moreSegments)) owner
      (firstName name moreSegments) url.searchParams moreSegments := by
  unfold handle
  simp only [parseURL_eq h]
  rfl

theorem rejected_of_short (h : (pathSegments url.pathname).length < 2) :
    Rejected (handle repositories url) := by
  rcases parseURL_of_short h with ⟨first, hfirst⟩
  unfold handle
  simp only [hfirst]
  exact ⟨_, rfl⟩

/-- A URL is treated as it should be exactly when the pages with this URL are found, and where
    there are none, what is taken for one is unknown to Bitbucket. The second part is needed
    because a URL that is no page's is not refused for its form. It is an error only if
    Bitbucket does not know what was read off it. -/
theorem meets_iff (repositories : String → String → Option (Repository ρ))
    (url : ParsedUrl (String → Option String)) :
    Meets repositories url ↔ ∀ repo moreSegments, Addresses repositories url repo moreSegments →
      (∀ target, PageUrl repo (url.searchParams "at") moreSegments target →
        Plain repo (url.searchParams "at") moreSegments target) ∧
      (Malformed repo (url.searchParams "at") moreSegments → Unknown repo moreSegments) := by
  constructor
  · rintro hmeets repo moreSegments haddress
    have ⟨owner, name, hsegments, hrepo⟩ := haddress
    have hhandle : handle repositories url = handlePage (some repo) owner
        (firstName name moreSegments) url.searchParams moreSegments := by
      rw [handle_eq hsegments, hrepo]
    refine ⟨fun target hurl => ?_, fun hmalformed => ?_⟩
    · have hshows := hmeets.page repo moreSegments haddress target hurl
      rw [hhandle] at hshows
      refine plain_of_shows (fun segment hmem => ?_) hurl hshows
      have hsegment : segment ∈ pathSegments url.pathname := by
        rw [hsegments]
        exact List.mem_cons_of_mem _ (List.mem_cons_of_mem _ hmem)
      exact slash_not_mem_of_pathSegments hsegment
    · have hrejected := hmeets.malformed repo moreSegments haddress hmalformed
      rw [hhandle] at hrejected
      exact (rejected_iff_unknown hmalformed.2.1).mp hrejected
  · intro hall
    constructor
    · intro repo moreSegments haddress target hurl
      have ⟨owner, name, hsegments, hrepo⟩ := haddress
      rw [handle_eq hsegments, hrepo]
      exact shows_of_plain (has_of_pageUrl hurl) ((hall repo moreSegments haddress).1 target hurl)
    · intro repo moreSegments haddress hmalformed
      have ⟨owner, name, hsegments, hrepo⟩ := haddress
      rw [handle_eq hsegments, hrepo]
      exact (rejected_iff_unknown hmalformed.2.1).mpr
        ((hall repo moreSegments haddress).2 hmalformed)
    · -- Such a URL is too short, or there is no repository of this name.
      intro hnone hother
      cases hsegments : pathSegments url.pathname with
      | nil => exact rejected_of_short (by simp [hsegments])
      | cons owner segments =>
          cases segments with
          | nil => exact rejected_of_short (by simp [hsegments])
          | cons name moreSegments =>
              rw [hsegments] at hother
              rw [handle_eq hsegments]
              cases hrepo : repositories owner (firstName name moreSegments) with
              | none => exact rejected_of_unknown_repository hother
              | some repo => exact absurd ⟨owner, name, hsegments, hrepo⟩ (hnone repo _)

/-- A repository whose main branch is not `master`, which is still there. -/
def sampleRepository : Repository Unit where
  repository := ()
  mainbranch := some "main"
  refs := [⟨.branch, "main", "da2119f5"⟩, ⟨.branch, "master", "5a24a0c8"⟩,
    ⟨.branch, "feature/login", "8fcf6c86"⟩]
  resolve := fun revision =>
    if revision = "main" then some "da2119f5"
    else if revision = "master" then some "5a24a0c8"
    else if revision = "feature/login" then some "8fcf6c86"
    else none
  readSrc := fun _ _ => none
  name_ne := by decide
  resolve_ref := by decide

/-- The URL of a repository and nothing else. -/
def sampleUrl : ParsedUrl (String → Option String) :=
  ⟨"bitbucket.org", "/acme/anvil", fun _ => none⟩

theorem addresses_sampleUrl : Addresses (fun _ _ => some sampleRepository) sampleUrl
    sampleRepository [] :=
  ⟨"acme", "anvil", by decide, rfl⟩

/-- The plain URL is taken for the one of `master`. -/
theorem plain_url_master : ¬ ∀ (repositories : String → String → Option (Repository Unit))
    (url : ParsedUrl (String → Option String)), Meets repositories url := by
  intro hall
  have hmain : PageUrl sampleRepository (sampleUrl.searchParams "at") []
      ⟨some ⟨.branch, "main", "da2119f5"⟩, "da2119f5", ""⟩ :=
    .plain _ List.mem_cons_self rfl rfl
  rcases (hall (fun _ _ => some sampleRepository) sampleUrl).page _ _ addresses_sampleUrl _ hmain
    with ⟨context, hcontext, hagrees, -⟩
  have hhandle : handle (fun _ _ => some sampleRepository) sampleUrl =
      handlePage (some sampleRepository) "acme" (firstName "anvil" []) sampleUrl.searchParams [] :=
    handle_eq (by decide)
  rw [hhandle] at hcontext
  -- The ref is not looked up by the name of the main branch.
  have href : context.ref = some "master" := by
    rw [← Handled.navigator.inj (Except.ok.inj hcontext)]
    rfl
  rw [href] at hagrees
  exact absurd (Option.some.inj hagrees.1) (by decide)

end Bitbucket

end Server

end Nxpod
