import Nxpod.Server.EnvvarPrefix

/-!
# Trees on GitHub

Behind `tree` or `blob` a GitHub URL has the name of a ref and then a path, and both may have
slashes. The server asks for the ref whose name is the first segment, then for the one whose name
is the first two, and so on. What is left is the path.

The path is decoded, and the name of the ref is not. Besides, if there is no ref whose name is the
first segment but an object, then this is taken for the commit that is meant, as with a hash that
is abbreviated.

The answers of GitHub are a parameter: a repository with its refs, and the objects of expressions.

## Main definitions

* `GitRef`: A branch or a tag, and the object it is at.
* `GithubRepository`: What GitHub knows.
* `RefType`: What a ref is.
* `ContextError`: An unknown repository, or something else.
* `handleDefaultContext`, `handleTreeContext`: The parser.
* `PrefixFree`: No ref is at the beginning of another one.
* `TreeUrl`: The segments of a ref and a path.
* `ResolvesTo`: The ref and the path are found.

## Theorems

* `decodeURIComponent_join`: Decoding segments one by one, or all at once.
* `probe_of_found`, `ref_of_probe`: What the probes find.
* `resolvesTo_iff`: When the ref and the path are found.
-/

namespace Nxpod

namespace Server

open Text

/-! ## The parser -/

/-- A branch or a tag, and the object it is at. -/
structure GitRef where
  name : String
  refPrefix : String
  oid : String
  deriving DecidableEq

/-- A repository of GitHub. `repository` is what the server makes of its properties. -/
structure GithubRepository (ρ : Type) where
  repository : ρ
  refs : List GitRef
  defaultBranchRef : Option GitRef
  /-- The object an expression stands for: of a ref, a commit or the beginning of its hash. -/
  object : String → Option String
  /-- The same, if it is a file. -/
  blob : String → Option String

/-- What a ref is. -/
inductive RefType
  | branch
  | tag
  | revision
  deriving DecidableEq

/-- What a workspace is opened on. -/
structure NavigatorContext (ρ : Type) where
  isFile : Bool
  path : String
  title : String
  ref : Option String
  refType : Option RefType
  revision : String
  repository : ρ

/-- An unknown repository, or something else. -/
inductive ContextError
  | notFound (owner repoName : String)
  | error (message : String)
  deriving DecidableEq

/-- What is no tag is a branch. -/
def toRefType (refPrefix : String) : RefType :=
  if refPrefix = "refs/tags/" then .tag else .branch

variable {ρ : Type} (api : Option (GithubRepository ρ)) (owner repoName : String)

/-- The ref of the name. -/
def GithubRepository.ref (repo : GithubRepository ρ) (qualifiedName : String) : Option GitRef :=
  repo.refs.find? fun r => decide (r.name = qualifiedName)

/-- Without any segments the default branch is meant. -/
def handleDefaultContext : Except ContextError (NavigatorContext ρ) :=
  match api with
  | none => .error (.notFound owner repoName)
  | some repo =>
      let defaultBranch := repo.defaultBranchRef
      .ok {
        isFile := false
        path := ""
        title := owner ++ "/" ++ repoName ++ " " ++
          (match defaultBranch with | none => "" | some r => "- " ++ r.name)
        ref := defaultBranch.map GitRef.name
        refType := defaultBranch.map fun _ => .branch
        revision := (defaultBranch.map GitRef.oid).getD ""
        repository := repo.repository }

/-- The segments that have been tried together, and those that have not. -/
def probe (segments : List String) : List String → List String →
    Except ContextError (NavigatorContext ρ)
  | _, [] => .error (.error ("Couldn't find branch and path for " ++ join '/' segments ++
      " in repo " ++ owner ++ "/" ++ repoName ++ "."))
  | front, segment :: rest =>
      let branchNameOrCommitHash := join '/' (front ++ [segment])
      match decodeURIComponent (join '/' rest).toList with
      | .error err => .error (.error err)
      | .ok path => match api with
        | none => .error (.notFound owner repoName)
        | some repo =>
            let isFile := (repo.blob (branchNameOrCommitHash ++ ":" ++ path)).isSome
            match repo.ref branchNameOrCommitHash with
            | some r => .ok {
                isFile := isFile
                path := path
                title := owner ++ "/" ++ repoName ++ " - " ++ r.name
                ref := some r.name
                refType := some (toRefType r.refPrefix)
                revision := r.oid
                repository := repo.repository }
            | none =>
                -- Only the first segment could be a hash.
                match if front = [] then repo.object branchNameOrCommitHash else none with
                | some revision => .ok {
                    isFile := isFile
                    path := path
                    title := owner ++ "/" ++ repoName ++ " - " ++
                      String.ofList (revision.toList.take 8) ++ ":" ++ path
                    ref := none
                    refType := none
                    revision := revision
                    repository := repo.repository }
                | none => probe segments (front ++ [segment]) rest

/-- With segments the ref is looked for, from the first one on. -/
def handleTreeContext (segments : List String) : Except ContextError (NavigatorContext ρ) :=
  match segments with
  | [] => handleDefaultContext api owner repoName
  | segments => probe api owner repoName segments [] segments

/-! ## Decoding -/

theorem percentBytes_append {cs : List Char} {bytes : List UInt8}
    (h : percentBytes cs = some bytes) (rest : List Char) :
    percentBytes (cs ++ '/' :: rest) = (percentBytes rest).map (bytes ++ 0x2F :: ·) := by
  induction cs using percentBytes.induct generalizing bytes with
  | case1 =>
      rw [percentBytes, Option.some.injEq] at h
      rw [← h]
      rfl
  -- An escaped byte, which takes no slash with it.
  | case2 a b cs x y hx hy ih =>
      rw [percentBytes, hx, hy] at h
      rcases Option.map_eq_some_iff.mp h with ⟨bytes', hbytes', heq⟩
      rw [List.cons_append, List.cons_append, List.cons_append, percentBytes, hx, hy]
      simp only [ih hbytes', ← heq, Option.map_map]
      rfl
  | case3 a b cs hnot =>
      rw [percentBytes] at h
      split at h
      · next x y hx hy => exact absurd hy (hnot x y hx)
      · cases h
  | case4 cs hnot =>
      rw [percentBytes] at h
      · cases h
      · exact hnot
  | case5 c cs hnot hnot' ih =>
      rw [percentBytes] at h
      · rcases Option.map_eq_some_iff.mp h with ⟨bytes', hbytes', heq⟩
        rw [List.cons_append, percentBytes]
        · simp only [ih hbytes', ← heq, Option.map_map, List.append_assoc]
          rfl
        · exact fun _ _ _ hc _ => hnot' hc
        · exact hnot'
      · exact hnot
      · exact hnot'

theorem decodeURIComponent_eq_ok_iff {cs : List Char} {s : String} :
    decodeURIComponent cs = .ok s ↔ percentBytes cs = some s.toByteArray.data.toList := by
  rw [decodeURIComponent]
  cases percentBytes cs with
  | none => exact ⟨(by intro h; cases h), (by intro h; cases h)⟩
  | some bytes =>
      simp only [String.fromUTF8?, Option.some.injEq]
      constructor
      · intro h
        split at h
        · cases h
        · next s' hs' =>
            split at hs'
            · next hvalid =>
                rw [← Except.ok.inj h, ← Option.some.inj hs']
                rfl
            · cases hs'
      · intro h
        have harray : (⟨bytes.toArray⟩ : ByteArray) = s.toByteArray := by
          rw [h]
        have hvalid : (⟨bytes.toArray⟩ : ByteArray).IsValidUTF8 := by
          rw [harray]
          exact s.isValidUTF8
        rw [dif_pos hvalid]
        exact congrArg Except.ok (String.toByteArray_inj.mp harray)

theorem decodeURIComponent_append {cs ds : List Char} {s t : String}
    (hs : decodeURIComponent cs = .ok s) (ht : decodeURIComponent ds = .ok t) :
    decodeURIComponent (cs ++ '/' :: ds) = .ok (s ++ "/" ++ t) := by
  rw [decodeURIComponent_eq_ok_iff] at hs ht ⊢
  have hslash : "/".toByteArray.data.toList = [0x2F] := rfl
  rw [percentBytes_append hs, ht, Option.map_some, String.toByteArray_append,
    String.toByteArray_append]
  simp [hslash]

/-- Segments that decode to the parts. -/
def Decodes (segments parts : List String) : Prop :=
  List.Forall₂ (fun segment part => decodeURIComponent segment.toList = .ok part) segments parts

theorem decodes_append {segments segments' parts parts' : List String}
    (h : Decodes segments parts) (h' : Decodes segments' parts') :
    Decodes (segments ++ segments') (parts ++ parts') := by
  induction h with
  | nil => exact h'
  | cons hsegment _ ih => exact List.Forall₂.cons hsegment ih

theorem decodeURIComponent_join {segments parts : List String} (h : Decodes segments parts) :
    decodeURIComponent (join '/' segments).toList = .ok (join '/' parts) := by
  induction h with
  | nil => rfl
  | cons hsegment hrest ih =>
      cases hrest with
      | nil =>
          rw [join_singleton, join_singleton]
          exact hsegment
      | cons hsegment' hrest =>
          rw [join_cons_cons, join_cons_cons, String.toList_append, String.toList_append,
            String.toList_singleton, List.append_assoc]
          exact decodeURIComponent_append hsegment ih

/-! ## Refs and paths -/

/-- No name of a ref is at the beginning of another one. -/
def PrefixFree (refs : List GitRef) : Prop :=
  ∀ r ∈ refs, ∀ r' ∈ refs, split '/' r.name <+: split '/' r'.name → r = r'

/-- The path of the root is empty. -/
def pathParts (path : String) : List String :=
  if path = "" then [] else split '/' path

/-- The segments behind `tree` or `blob`, for a ref and a path. -/
structure TreeUrl (r : GitRef) (path : String) (refSegments pathSegments : List String) : Prop where
  ref : Decodes refSegments (split '/' r.name)
  path : Decodes pathSegments (pathParts path)
  noSlash : ∀ segment ∈ refSegments ++ pathSegments, '/' ∉ segment.toList

/-- The context is the one of the ref and the path. -/
def ResolvesTo (repo : GithubRepository ρ) (r : GitRef) (path : String)
    (result : Except ContextError (NavigatorContext ρ)) : Prop :=
  ∃ context, result = .ok context ∧ context.ref = some r.name ∧
    context.refType = some (toRefType r.refPrefix) ∧ context.revision = r.oid ∧
    context.path = path ∧ context.isFile = (repo.blob (r.name ++ ":" ++ path)).isSome

variable {owner repoName : String} {repo : GithubRepository ρ} {r : GitRef} {path : String}
  {refSegments pathSegments segments : List String}

theorem join_pathParts (path : String) : join '/' (pathParts path) = path := by
  rw [pathParts]
  split
  · next hempty =>
      rw [hempty]
      rfl
  · exact join_split '/' path

theorem name_of_ref {name : String} (h : repo.ref name = some r) : r ∈ repo.refs ∧ r.name = name :=
  ⟨List.mem_of_find?_eq_some h, of_decide_eq_true (List.find?_some
    (p := fun r : GitRef => decide (r.name = name)) h)⟩

/-- A ref is found by its name. -/
theorem ref_eq_some (hfree : PrefixFree repo.refs) (hr : r ∈ repo.refs) :
    repo.ref r.name = some r := by
  cases hfind : repo.ref r.name with
  | none =>
      rw [GithubRepository.ref, List.find?_eq_none] at hfind
      exact absurd (decide_eq_true rfl) (hfind r hr)
  | some r' =>
      rcases name_of_ref hfind with ⟨hmem, hname⟩
      have hsame := hfree r' hmem r hr (by rw [hname])
      rw [hsame]

/-- Nothing is found before all segments of a name are there. -/
theorem ref_eq_none (hfree : PrefixFree repo.refs) (hr : r ∈ repo.refs) {front rest : List String}
    (hname : split '/' r.name = front ++ rest) (hfront : front ≠ []) (hrest : rest ≠ [])
    (hslash : ∀ segment ∈ front, '/' ∉ segment.toList) : repo.ref (join '/' front) = none := by
  cases hfind : repo.ref (join '/' front) with
  | none => rfl
  | some r' =>
      rcases name_of_ref hfind with ⟨hmem, hname'⟩
      have hsplit : split '/' r'.name = front := by
        rw [hname', split_join hfront hslash]
      have hsame : r' = r := by
        refine hfree r' hmem r hr ?_
        rw [hsplit, hname]
        exact List.prefix_append _ _
      rw [hsame, hname] at hsplit
      exact absurd (List.append_cancel_left (hsplit.trans (List.append_nil front).symm)) hrest

/-- The segments of the name are tried one after the other, and with the last one the ref is
found. -/
theorem probe_of_found (hfree : PrefixFree repo.refs) (hr : r ∈ repo.refs)
    (hpath : Decodes pathSegments (pathParts path)) {mid front parts : List String}
    (hmid : mid ≠ []) (hdecodes : Decodes mid parts) (hname : split '/' r.name = front ++ mid)
    (hslash : ∀ segment ∈ front ++ mid, '/' ∉ segment.toList)
    (hhash : front = [] → ∀ first second more, mid = first :: second :: more →
      repo.object first = none) :
    ResolvesTo repo r path
      (probe (some repo) owner repoName segments front (mid ++ pathSegments)) := by
  -- The induction is on the segments of the name that have not been tried.
  induction hdecodes generalizing front with
  | nil => exact absurd rfl hmid
  | @cons segment part mid parts hsegment hrest ih =>
      have hassoc : front ++ segment :: mid = front ++ [segment] ++ mid := by
        rw [List.append_assoc, List.singleton_append]
      rw [List.cons_append, probe]
      cases hrest with
      | nil =>
          -- The last segment completes the name.
          have hwhole : join '/' (front ++ [segment]) = r.name := by
            rw [← hname, join_split]
          rw [List.nil_append, decodeURIComponent_join hpath, join_pathParts, hwhole]
          simp only [ref_eq_some hfree hr]
          exact ⟨_, rfl, rfl, rfl, rfl, rfl, rfl⟩
      | @cons segment' part' mid parts hsegment' hrest =>
          have hdecode := decodeURIComponent_join
            (decodes_append (List.Forall₂.cons hsegment' hrest) hpath)
          have hnone : repo.ref (join '/' (front ++ [segment])) = none := by
            refine ref_eq_none hfree hr (hname.trans hassoc) (by simp) (by simp) ?_
            intro s hs
            refine hslash s ?_
            rw [hassoc]
            exact List.mem_append_left _ hs
          -- Only the first segment may be taken for a commit.
          have hobject : (if front = [] then repo.object (join '/' (front ++ [segment]))
              else none) = none := by
            split
            · next hfirst =>
                rw [hfirst, List.nil_append, join_singleton]
                exact hhash hfirst segment segment' mid rfl
            · rfl
          rw [hdecode]
          simp only [hnone, hobject]
          rw [hassoc] at hname hslash
          exact ih (by simp) hname hslash (by simp)

/-- A ref that was found is named by the segments that were tried. -/
theorem ref_of_probe {context : NavigatorContext ρ} {name : String} {front rest : List String}
    (h : probe (some repo) owner repoName segments front rest = .ok context)
    (href : context.ref = some name) :
    ∃ tried, tried <+: front ++ rest ∧ tried ≠ [] ∧ name = join '/' tried := by
  induction rest generalizing front with
  | nil => exact nomatch h
  | cons segment rest ih =>
      have hassoc : front ++ segment :: rest = front ++ [segment] ++ rest := by
        rw [List.append_assoc, List.singleton_append]
      rw [probe] at h
      split at h
      · exact nomatch h
      · simp only at h
        split at h
        · next found hfound =>
            rw [← Except.ok.inj h, Option.some.injEq] at href
            refine ⟨front ++ [segment], ⟨rest, hassoc.symm⟩, by simp, ?_⟩
            rw [← href, (name_of_ref hfound).2]
        · split at h
          · rw [← Except.ok.inj h] at href
            exact nomatch href
          · rw [hassoc]
            exact ih h

/-- A ref that is found has as many segments as the URL has for it. -/
theorem join_of_resolvesTo (hurl : TreeUrl r path refSegments pathSegments)
    (h : ResolvesTo repo r path
      (probe (some repo) owner repoName segments [] (refSegments ++ pathSegments))) :
    join '/' refSegments = r.name := by
  rcases h with ⟨context, hcontext, href, -⟩
  have hlength : refSegments.length = (split '/' r.name).length := hurl.ref.length_eq
  rcases ref_of_probe hcontext href with ⟨tried, htaken, htried, hname⟩
  rw [List.nil_append] at htaken
  have htriedSlash : ∀ segment ∈ tried, '/' ∉ segment.toList :=
    fun segment hmem => hurl.noSlash segment (htaken.subset hmem)
  have hsplit : split '/' r.name = tried := by
    rw [hname, split_join htried htriedSlash]
  have hsame : tried = refSegments := by
    refine List.IsPrefix.eq_of_length ?_ (by rw [hlength, hsplit])
    refine List.prefix_of_prefix_length_le htaken (List.prefix_append _ _) ?_
    rw [hlength, hsplit]
  rw [hname, hsame]

/-- If the first one of several segments names an object, it is taken for a commit, which has no
ref. -/
theorem object_eq_none_of_resolvesTo (hfree : PrefixFree repo.refs) (hr : r ∈ repo.refs)
    {first second : String} {more : List String}
    (hsplit : split '/' r.name = first :: second :: more) (hslash : '/' ∉ first.toList)
    (h : ResolvesTo repo r path
      (probe (some repo) owner repoName segments [] (first :: second :: more ++ pathSegments))) :
    repo.object first = none := by
  rcases h with ⟨context, hcontext, href, -⟩
  have hsplit' : split '/' r.name = [first] ++ second :: more := hsplit
  have hnone : repo.ref (join '/' [first]) = none := by
    refine ref_eq_none hfree hr hsplit' (by simp) (by simp) fun s hs => ?_
    rw [List.mem_singleton.mp hs]
    exact hslash
  rw [join_singleton] at hnone
  cases hobject : repo.object first with
  | none => rfl
  | some revision =>
      rw [List.cons_append, probe] at hcontext
      split at hcontext
      · exact nomatch hcontext
      · simp only [List.nil_append, hnone, if_true, join_singleton, hobject] at hcontext
        rw [← Except.ok.inj hcontext] at href
        exact nomatch href

/-- The ref and the path are found exactly when the URL has the name of the ref as it is, and no
    object is named by the first one of several segments. A URL does not say where the name of
    the ref ends, so GitHub is asked for longer and longer names, and the first that it knows is
    taken. -/
theorem resolvesTo_iff (repo : GithubRepository ρ) (owner repoName : String)
    (hfree : PrefixFree repo.refs) (r : GitRef) (hr : r ∈ repo.refs) (path : String)
    (refSegments pathSegments : List String) (hurl : TreeUrl r path refSegments pathSegments) :
    ResolvesTo repo r path
        (handleTreeContext (some repo) owner repoName (refSegments ++ pathSegments)) ↔
      join '/' refSegments = r.name ∧ ∀ first second more,
        refSegments = first :: second :: more → repo.object first = none := by
  have hslash : ∀ segment ∈ refSegments, '/' ∉ segment.toList :=
    fun segment hmem => hurl.noSlash segment (List.mem_append_left _ hmem)
  have hne : refSegments ≠ [] := by
    intro hnil
    have hlength : refSegments.length = (split '/' r.name).length := hurl.ref.length_eq
    rw [hnil] at hlength
    exact split_ne_nil '/' r.name (List.length_eq_zero_iff.mp hlength.symm)
  have htree : handleTreeContext (some repo) owner repoName (refSegments ++ pathSegments) =
      probe (some repo) owner repoName (refSegments ++ pathSegments) []
        (refSegments ++ pathSegments) := by
    rw [handleTreeContext]
    exact fun hnil => hne (List.append_eq_nil_iff.mp hnil).1
  rw [htree]
  constructor
  · intro h
    have hname := join_of_resolvesTo hurl h
    refine ⟨hname, fun first second more hsegments => ?_⟩
    have hsplit : split '/' r.name = first :: second :: more := by
      rw [← hname, split_join hne hslash, hsegments]
    rw [hsegments] at h hslash
    exact object_eq_none_of_resolvesTo hfree hr hsplit (hslash first List.mem_cons_self) h
  · rintro ⟨hname, hhash⟩
    have hsplit : split '/' r.name = [] ++ refSegments := by
      rw [← hname, split_join hne hslash]
      rfl
    exact probe_of_found hfree hr hurl.path hne hurl.ref hsplit hslash fun _ => hhash

/-- A repository with a branch of two segments, a branch with a character that is encoded in URLs,
and a tag. -/
def sampleRepository : GithubRepository Unit where
  repository := ()
  refs := [⟨"nametest/src", "refs/heads/", "409ac2de"⟩, ⟨"bug#1", "refs/heads/", "499efbbc"⟩,
    ⟨"v0.1.0", "refs/tags/", "f2962684"⟩]
  defaultBranchRef := none
  object := fun expression => if expression = "v0.1.0" then some "f2962684" else none
  blob := fun expression => if expression = "nametest/src:src/my file.ts" then some "b10b" else none

theorem prefixFree_sampleRepository : PrefixFree sampleRepository.refs := by
  unfold PrefixFree
  decide

theorem resolvesTo_iff_nametest :
    ResolvesTo sampleRepository ⟨"nametest/src", "refs/heads/", "409ac2de"⟩ "src/my file.ts"
      (handleTreeContext (some sampleRepository) "acme" "anvil"
        ["nametest", "src", "src", "my%20file.ts"]) := by
  refine (resolvesTo_iff sampleRepository "acme" "anvil" prefixFree_sampleRepository _
    List.mem_cons_self "src/my file.ts" ["nametest", "src"] ["src", "my%20file.ts"]
    ⟨?_, ?_, by decide⟩).mpr ⟨by decide, ?_⟩
  · exact .cons (by decide) (.cons (by decide) .nil)
  · exact .cons (by decide) (.cons (by decide) .nil)
  · intro first second more hsegments
    rw [List.cons.injEq] at hsegments
    rw [← hsegments.1]
    rfl

/-- The branch with the encoded character is not found. -/
theorem encoded_ref_not_found : ¬ ∀ (repo : GithubRepository Unit) (owner repoName : String),
    PrefixFree repo.refs → ∀ r ∈ repo.refs, ∀ (path : String)
      (refSegments pathSegments : List String), TreeUrl r path refSegments pathSegments →
        ResolvesTo repo r path
          (handleTreeContext (some repo) owner repoName (refSegments ++ pathSegments)) := by
  intro hall
  have hurl : TreeUrl ⟨"bug#1", "refs/heads/", "499efbbc"⟩ "" ["bug%231"] [] :=
    ⟨.cons (by decide) .nil, .nil, by decide⟩
  rcases hall sampleRepository "acme" "anvil" prefixFree_sampleRepository
    ⟨"bug#1", "refs/heads/", "499efbbc"⟩ (by decide) "" ["bug%231"] [] hurl with
    ⟨context, hcontext, -⟩
  exact nomatch hcontext

end Server

end Nxpod
