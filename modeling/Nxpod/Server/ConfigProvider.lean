import Mathlib.Data.List.Basic
import Mathlib.Tactic.Common
import Nxpod.Library.Paths

/-!
# The Locations of a Configuration

A configuration may say where the repository is checked out and which directory is opened. Both
are meant to be in the folder of the workspace, since the rest of the system relies on that. The
server joins them to `/workspace` and looks at the text of the result. Later on, other components
join them to other directories, where the same content is before and after it is mounted.

What the server accepts stays in `/workspace`. It stays in another directory exactly when it never
goes up beyond its beginning. A location may do so and be accepted, if it comes back by the name
`workspace`, and then it leads out of every directory whose path does not have that name.

## Main definitions

* `WorkspaceConfig`, `locations`: The locations of a configuration.
* `leavesWorkspaceBase`, `validateConfig`, `fetchConfig`: The check of the server.
* `checkoutLocation`, `workspaceLocation`: The locations that are used in the end.
* `Accepted`: What the check accepts.
* `Directory`: A directory that is not the root.

## Theorems

* `leavesWorkspaceBase_join_iff`: What is read off the text.
* `validateConfig_eq_ok_iff`: What is accepted.
* `inside_folder`, `neverClimbs_of_inside`: Where it leads.
* `fetched_inside_iff`: Where a configuration leads.
-/

namespace Nxpod

namespace Server

open Paths

/-! ## The server -/

/-- Where a container sees the content of the workspace. -/
def podPathWorkspaceBase : String := "/workspace"

/-- The two locations, which may not be there. -/
structure WorkspaceConfig where
  checkoutLocation : Option String
  workspaceLocation : Option String
  deriving DecidableEq

/-- A text that is there and not empty. -/
def given (location : Option String) : Option String := location.filter (· ≠ "")

/-- What is not given is taken from what was found in the repository. -/
def fillInDefaultLocations (cfg : WorkspaceConfig) (inferredConfig : Option WorkspaceConfig) :
    WorkspaceConfig :=
  match inferredConfig with
  | none => cfg
  | some inferredCfg =>
      { checkoutLocation :=
          if (given cfg.checkoutLocation).isSome then cfg.checkoutLocation
          else inferredCfg.checkoutLocation
        workspaceLocation :=
          if (given cfg.workspaceLocation).isSome then cfg.workspaceLocation
          else inferredCfg.workspaceLocation }

/-- A text with two dots anywhere, or one that begins otherwise, is taken to lead out. -/
def leavesWorkspaceBase (normalizedPath : String) : Bool :=
  let pathSegments := Text.split '/' normalizedPath
  decide ("..".toList <:+: normalizedPath.toList) ||
    Text.join '/' (pathSegments.take 2) ≠ podPathWorkspaceBase

/-- The check of one of the locations. -/
def validateLocation (what : String) (location : Option String) : Except String Unit :=
  match given location with
  | none => .ok ()
  | some location =>
      if leavesWorkspaceBase (join [podPathWorkspaceBase, location]) then
        .error (what ++ s!" location must not leave the {podPathWorkspaceBase} folder. " ++
          "Check your .nxpod.yml file.")
      else .ok ()

/-- Both locations are looked at, and the first error is returned. -/
def validateConfig (config : WorkspaceConfig) : Except String Unit := do
  validateLocation "Checkout" config.checkoutLocation
  validateLocation "Workspace" config.workspaceLocation

/-- No location is given. -/
def defaultConfig : WorkspaceConfig where
  checkoutLocation := none
  workspaceLocation := none

/-- The part of it that is about locations. A configuration of the repository comes first, and then
    what is inferred from its content. -/
def fetchConfig (customConfig inferredConfig : Option WorkspaceConfig) :
    Except String WorkspaceConfig :=
  match customConfig.map (fillInDefaultLocations · inferredConfig) |>.or inferredConfig with
  | none => .ok defaultConfig
  | some config => match validateConfig config with
    | .error err => .error err
    | .ok () => .ok config

/-- What a Git initializer is given. -/
def checkoutLocation (config : WorkspaceConfig) (repositoryName : String) : String :=
  (given config.checkoutLocation).getD repositoryName

/-- What is opened. -/
def workspaceLocation (config : WorkspaceConfig) (repositoryName : String) : String :=
  (given config.workspaceLocation).getD (checkoutLocation config repositoryName)

/-! ## What is accepted -/

/-- Those that are given. -/
def WorkspaceConfig.locations (config : WorkspaceConfig) : List String :=
  (given config.checkoutLocation).toList ++ (given config.workspaceLocation).toList

/-- The location does not go up beyond its beginning, or comes back by the name of the folder, and
    no name that is left has two dots in it. -/
structure Accepted (location : String) : Prop where
  comesBack : (relative location).ups = 0 ∨ (relative location).names.head? = some "workspace"
  plain : ∀ name ∈ (relative location).names, ¬ "..".toList <:+: name.toList

theorem isName_workspace : ∀ name ∈ ["workspace"], IsName name := by
  intro name hname
  rw [List.mem_singleton.mp hname]
  exact ⟨by decide, by decide, by decide, by decide⟩

theorem text_workspace : text ["workspace"] = podPathWorkspaceBase := by decide

theorem ne_empty_of_given {location : Option String} {loc : String}
    (h : given location = some loc) : loc ≠ "" := by
  rcases Option.filter_eq_some_iff.mp h with ⟨-, hne⟩
  exact of_decide_eq_true hne

/-- A slash at the end adds nothing but an empty segment. -/
theorem split_text_slash {path : List String} (hne : path ≠ [])
    (hpath : ∀ name ∈ path, IsName name) {tail : String} (htail : tail = "" ∨ tail = "/") :
    ∃ more, Text.split '/' (text path ++ tail) = "" :: (path ++ more) := by
  rcases htail with rfl | rfl
  · exact ⟨[], by rw [String.append_empty, split_text hne hpath, List.append_nil]⟩
  · refine ⟨[""], ?_⟩
    have h := split_text_append hne hpath ""
    rwa [String.append_empty] at h

/-- The text of a path starts with the folder if the path does. -/
theorem take_split_text {path : List String} (hpath : ∀ name ∈ path, IsName name)
    {tail : String} (htail : tail = "" ∨ path ≠ [] ∧ tail = "/") :
    Text.join '/' ((Text.split '/' (text path ++ tail)).take 2) = podPathWorkspaceBase ↔
      path.head? = some "workspace" := by
  cases path with
  | nil =>
      rcases htail with rfl | ⟨hne, -⟩
      · exact iff_of_false (by decide) (by decide)
      · exact absurd rfl hne
  | cons name path =>
      rcases split_text_slash (List.cons_ne_nil name path) hpath (htail.imp_right And.right) with
        ⟨more, hsplit⟩
      have hbase : podPathWorkspaceBase = "" ++ String.singleton '/' ++ "workspace" := by decide
      rw [hsplit, List.cons_append, List.take_succ_cons, List.take_succ_cons, List.take_zero,
        Text.join_cons_cons, Text.join_singleton, hbase, List.head?_cons, Option.some.injEq]
      constructor
      · intro h
        have hlist := congrArg String.toList h
        rw [String.toList_append, String.toList_append] at hlist
        exact String.toList_injective (List.append_cancel_left hlist)
      · rintro rfl
        rfl

/-- Two dots are found in the text of a path if they are in one of its names. -/
theorem isInfix_dots_iff {path : List String} {tail : String}
    (htail : tail = "" ∨ path ≠ [] ∧ tail = "/") :
    "..".toList <:+: (text path ++ tail).toList ↔
      ∃ name ∈ path, "..".toList <:+: name.toList := by
  have hsep : '/' ∉ "..".toList := by decide
  have hslash : ∀ cs : List Char, "..".toList <:+: '/' :: cs ↔ "..".toList <:+: cs := by
    intro cs
    have h := @isInfix_append_cons _ _ _ [] cs hsep
    rw [List.nil_append] at h
    rw [h]
    exact or_iff_right (by decide)
  have htext : (text path).toList = '/' :: (Text.join '/' path).toList := by
    rw [text, String.toList_append]
    rfl
  rw [String.toList_append, htext, List.cons_append, hslash]
  rcases htail with rfl | ⟨-, rfl⟩
  · rw [String.toList_empty, List.append_nil]
    exact isInfix_join_iff hsep (by decide) path
  · have h := @isInfix_append_cons _ _ _ (Text.join '/' path).toList [] hsep
    refine (h.trans (or_iff_left (by decide))).trans ?_
    exact isInfix_join_iff hsep (by decide) path

/-- What the server reads off the text is where the path leads. -/
theorem leavesWorkspaceBase_join_iff {location : String} (hne : location ≠ "") :
    leavesWorkspaceBase (join [podPathWorkspaceBase, location]) = false ↔ Accepted location := by
  have hpath : ∀ name ∈ walk ["workspace"] location, IsName name :=
    isName_of_mem_walk isName_workspace location
  have hjoin : ∃ tail, (tail = "" ∨ walk ["workspace"] location ≠ [] ∧ tail = "/") ∧
      join [podPathWorkspaceBase, location] = text (walk ["workspace"] location) ++ tail := by
    rw [← text_workspace]
    rcases join_text (List.cons_ne_nil _ _) isName_workspace hne with h | ⟨hwalk, h⟩
    · exact ⟨"", .inl rfl, h.trans String.append_empty.symm⟩
    · exact ⟨"/", .inr ⟨hwalk, rfl⟩, h⟩
  rcases hjoin with ⟨tail, htail, hjoin⟩
  rw [leavesWorkspaceBase, hjoin, Bool.or_eq_false_iff, decide_eq_false_iff_not,
    decide_eq_false_iff_not, not_not, take_split_text hpath htail, isInfix_dots_iff htail,
    walk_eq_destination, Relative.destination]
  by_cases hups : (relative location).ups = 0
  · rw [hups, Nat.sub_zero, List.take_length, List.singleton_append, List.head?_cons]
    constructor
    · rintro ⟨hplain, -⟩
      exact ⟨.inl hups, fun name hname hdots =>
        hplain ⟨name, List.mem_cons_of_mem _ hname, hdots⟩⟩
    · rintro ⟨-, hplain⟩
      refine ⟨?_, rfl⟩
      rintro ⟨name, hname, hdots⟩
      rcases List.mem_cons.mp hname with rfl | hname
      · exact absurd hdots (by decide)
      · exact hplain name hname hdots
  · -- nothing of the folder is left to begin with
    have hnone : ["workspace"].take (["workspace"].length - (relative location).ups) = [] := by
      rw [List.length_singleton, Nat.sub_eq_zero_of_le (Nat.one_le_iff_ne_zero.mpr hups),
        List.take_zero]
    rw [hnone, List.nil_append]
    constructor
    · rintro ⟨hplain, hhead⟩
      exact ⟨.inr hhead, fun name hname hdots => hplain ⟨name, hname, hdots⟩⟩
    · rintro ⟨hback, hplain⟩
      refine ⟨?_, hback.resolve_left hups⟩
      rintro ⟨name, hname, hdots⟩
      exact hplain name hname hdots

theorem validateLocation_eq_ok_iff (what : String) (location : Option String) :
    validateLocation what location = .ok () ↔ ∀ loc ∈ given location, Accepted loc := by
  unfold validateLocation
  cases hgiven : given location with
  | none => exact iff_of_true rfl fun loc hloc => absurd hloc (Option.not_mem_none loc)
  | some loc =>
      have haccepted := leavesWorkspaceBase_join_iff (ne_empty_of_given hgiven)
      simp only [Option.mem_some_iff, forall_eq', ← haccepted]
      cases leavesWorkspaceBase (join [podPathWorkspaceBase, loc]) with
      | false => exact iff_of_true rfl rfl
      | true => exact iff_of_false (fun h => by cases h) (fun h => by cases h)

/-- A configuration is valid if both of its locations are accepted. The provider goes by the
    text of the joined path, while whoever writes a `.nxpod.yml` thinks in names: this is the
    condition in the terms of the writer, for every text. -/
theorem validateConfig_eq_ok_iff (config : WorkspaceConfig) :
    validateConfig config = .ok () ↔ ∀ location ∈ config.locations, Accepted location := by
  have hboth : validateConfig config = .ok () ↔
      validateLocation "Checkout" config.checkoutLocation = .ok () ∧
        validateLocation "Workspace" config.workspaceLocation = .ok () := by
    unfold validateConfig
    cases validateLocation "Checkout" config.checkoutLocation with
    | error text => exact iff_of_false (fun h => by cases h) fun h => by cases h.1
    | ok _ => exact (and_iff_right rfl).symm
  rw [hboth, validateLocation_eq_ok_iff, validateLocation_eq_ok_iff, WorkspaceConfig.locations]
  simp only [List.mem_append, Option.mem_toList, or_imp, forall_and]
  exact Iff.rfl

/-! ## Where it leads -/

/-- A directory that is not the root. -/
structure Directory where
  names : List String
  ne_nil : names ≠ []
  isName : ∀ name ∈ names, IsName name

/-- The path of a directory. -/
def Directory.text (dir : Directory) : String := Paths.text dir.names

/-- What is joined to a directory stays inside if the walk does. -/
theorem inside_filepathJoin_iff (dir : Directory) {location : String} (hne : location ≠ "") :
    Inside dir.text (filepathJoin [dir.text, location]) ↔
      dir.names.drop (dir.names.length - (relative location).ups) <+:
        (relative location).names := by
  rw [Directory.text, filepathJoin_text dir.ne_nil dir.isName hne,
    inside_text_iff dir.ne_nil dir.isName (isName_of_mem_walk dir.isName location),
    isPrefix_walk_iff]

/-- A location that never goes up stays where it is joined to. -/
theorem inside_of_neverClimbs (dir : Directory) {location : String} (hne : location ≠ "")
    (hups : (relative location).ups = 0) :
    Inside dir.text (filepathJoin [dir.text, location]) := by
  rw [inside_filepathJoin_iff dir hne, hups, Nat.sub_zero, List.drop_length]
  exact List.nil_prefix

/-- The folder of the workspace. -/
def folder : Directory where
  names := ["workspace"]
  ne_nil := List.cons_ne_nil _ _
  isName := isName_workspace

/-- What comes back by the name of the folder was in the folder before. -/
theorem inside_folder {location : String} (hne : location ≠ "")
    (hback : (relative location).ups = 0 ∨ (relative location).names.head? = some "workspace") :
    Inside podPathWorkspaceBase (filepathJoin [podPathWorkspaceBase, location]) := by
  have htext : folder.text = podPathWorkspaceBase := text_workspace
  rw [← htext]
  rcases hback with hups | hhead
  · exact inside_of_neverClimbs folder hne hups
  · rcases List.head?_eq_some_iff.mp hhead with ⟨rest, hrest⟩
    rw [inside_filepathJoin_iff folder hne, hrest, folder]
    dsimp only
    cases ["workspace"].length - (relative location).ups with
    | zero => exact ⟨rest, rfl⟩
    | succ n =>
        rw [List.drop_succ_cons, List.drop_nil]
        exact List.nil_prefix

/-- What comes back by the name of the folder was not in a directory without that name. -/
theorem neverClimbs_of_inside {dir : Directory} (hdir : "workspace" ∉ dir.names)
    {location : String} (hne : location ≠ "")
    (hback : (relative location).ups = 0 ∨ (relative location).names.head? = some "workspace")
    (hinside : Inside dir.text (filepathJoin [dir.text, location])) :
    (relative location).ups = 0 := by
  by_contra hups
  rw [inside_filepathJoin_iff dir hne] at hinside
  rcases List.head?_eq_some_iff.mp (hback.resolve_left hups) with ⟨rest, hrest⟩
  have hlt : dir.names.length - (relative location).ups < dir.names.length :=
    Nat.sub_lt (List.length_pos_of_ne_nil dir.ne_nil) (Nat.pos_of_ne_zero hups)
  rcases List.exists_cons_of_ne_nil (List.drop_eq_nil_iff.not.mpr (Nat.not_le.mpr hlt)) with
    ⟨name, left, hdrop⟩
  -- the name it comes back by is one that it has left
  rw [hrest, hdrop, List.cons_prefix_cons] at hinside
  have hmem : name ∈ dir.names := List.mem_of_mem_drop (hdrop ▸ List.mem_cons_self)
  exact hdir (hinside.1 ▸ hmem)

theorem validateConfig_of_fetchConfig {customConfig inferredConfig : Option WorkspaceConfig}
    {config : WorkspaceConfig} (h : fetchConfig customConfig inferredConfig = .ok config) :
    validateConfig config = .ok () := by
  unfold fetchConfig at h
  split at h
  · cases h
    rfl
  · split at h
    · cases h
    · next hvalid =>
        cases h
        exact hvalid

theorem relative_of_isName {name : String} (h : IsName name) : relative name = ⟨0, [name]⟩ := by
  rw [relative, Text.split_of_not_mem h.noSlash, List.foldl_cons, List.foldl_nil, Relative.enter,
    if_neg (not_or.mpr ⟨h.ne_empty, h.ne_dot⟩), if_neg h.ne_dots, List.nil_append]

/-- A location that is used is accepted, or the name of the repository. -/
theorem used_cases {config : WorkspaceConfig} {repositoryName location : String}
    (h : location = checkoutLocation config repositoryName ∨
      location = workspaceLocation config repositoryName) :
    location ∈ config.locations ∨ location = repositoryName := by
  have hcheckout : checkoutLocation config repositoryName ∈ config.locations ∨
      checkoutLocation config repositoryName = repositoryName := by
    unfold checkoutLocation
    cases hgiven : given config.checkoutLocation with
    | none => exact .inr rfl
    | some loc =>
        exact .inl (List.mem_append_left _ (Option.mem_toList.mpr hgiven))
  rcases h with rfl | rfl
  · exact hcheckout
  · unfold workspaceLocation
    cases hgiven : given config.workspaceLocation with
    | none => exact hcheckout
    | some loc =>
        exact .inl (List.mem_append_right _ (Option.mem_toList.mpr hgiven))

/-- Of a configuration that was fetched, what is checked out and what is opened are in the
    folder. This is what the validation is for. But it was made for one folder: in a directory
    whose path does not have the name of the folder, they are inside exactly when they never go
    up beyond their beginning. -/
theorem fetched_inside_iff {customConfig inferredConfig : Option WorkspaceConfig}
    {config : WorkspaceConfig} (h : fetchConfig customConfig inferredConfig = .ok config)
    {repositoryName : String} (hname : IsName repositoryName) {location : String}
    (hlocation : location = checkoutLocation config repositoryName ∨
      location = workspaceLocation config repositoryName)
    (dir : Directory) (hdir : "workspace" ∉ dir.names) :
    Inside podPathWorkspaceBase (filepathJoin [podPathWorkspaceBase, location]) ∧
      (Inside dir.text (filepathJoin [dir.text, location]) ↔ (relative location).ups = 0) := by
  have hknown : location ≠ "" ∧ ((relative location).ups = 0 ∨
      (relative location).names.head? = some "workspace") := by
    rcases used_cases hlocation with hmem | rfl
    · have hvalid := validateConfig_of_fetchConfig h
      refine ⟨?_, ((validateConfig_eq_ok_iff config).mp hvalid location hmem).comesBack⟩
      rcases List.mem_append.mp hmem with hmem | hmem
      · exact ne_empty_of_given (Option.mem_toList.mp hmem)
      · exact ne_empty_of_given (Option.mem_toList.mp hmem)
    · rw [relative_of_isName hname]
      exact ⟨hname.ne_empty, .inl rfl⟩
  rcases hknown with ⟨hne, hback⟩
  exact ⟨inside_folder hne hback, fun hinside => neverClimbs_of_inside hdir hne hback hinside,
    inside_of_neverClimbs dir hne⟩

/-- A location that is accepted leads out of the directory in which the content is before it is
    mounted. -/
theorem fetched_climbing :
    (filepathJoin [podPathWorkspaceBase, "../workspace/repo"] = "/workspace/repo" ∧
      Inside podPathWorkspaceBase (filepathJoin [podPathWorkspaceBase, "../workspace/repo"])) ∧
    (filepathJoin ["/mnt/sync/id", "../workspace/repo"] = "/mnt/sync/workspace/repo" ∧
      ¬ Inside "/mnt/sync/id" (filepathJoin ["/mnt/sync/id", "../workspace/repo"])) := by
  let config : WorkspaceConfig := ⟨some "../workspace/repo", none⟩
  have hconfig : fetchConfig (some config) none = .ok config := by decide +kernel
  have hlocation : "../workspace/repo" = checkoutLocation config "repo" := by decide +kernel
  let dir : Directory := ⟨["mnt", "sync", "id"], by decide, fun name hname => by
    simp only [List.mem_cons, List.not_mem_nil, or_false] at hname
    rcases hname with rfl | rfl | rfl <;> exact ⟨by decide, by decide, by decide, by decide⟩⟩
  have hinside := fetched_inside_iff hconfig ⟨by decide, by decide, by decide, by decide⟩
    (.inl hlocation) dir (by decide)
  have htext : dir.text = "/mnt/sync/id" := by decide
  rw [htext] at hinside
  refine ⟨⟨by decide +kernel, hinside.1⟩, by decide +kernel, fun h => ?_⟩
  exact absurd (hinside.2.mp h) (by decide +kernel)

end Server

end Nxpod
