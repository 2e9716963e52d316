import Mathlib.Data.List.Infix
import Nxpod.Content.Git

/-!
# The Prebuild Initializer

A prebuild initializer restores a snapshot, if its request has one, and checks
out the clone target in what was restored: it stashes the changes, fetches,
checks out, and pops the stash. If the snapshot cannot be restored, the location
is emptied and the Git initializer clones.

The steps in between happen in a working copy only. Where the snapshot has none
at the checkout location, and where there is no snapshot and nothing in the
location, the initializer succeeds without one. With the remote's head as its
target a restored working copy stays where it was.

The storage, the file system and Git are given. What is emptied is what the
directory lists.

## Main definitions

* `Code`: The codes of gRPC that are used here.
* `Status`: An error as gRPC has it.
* `GitConfig`: How Git is configured, and how it gets its credentials.
* `GitRequest`: The repository that is asked for.
* `Spec`, `newFromRequest`: From a request to its initializer.
* `Env`: What is outside.
* `PrebuildInitializer`: A prebuild has a repository in any case.
* `Initializer`: What is made of a request.
* `SnapshotInitializer.run`, `clearWorkspace`: Restoring, and cleaning up.
* `PrebuildInitializer.run`: Both together.
* `Cleared`: A location is emptied, and nothing else.

## Theorems

* `clearWorkspace_ok`: What is left after the clean-up.
* `stashAndFetch_ok`, `prebuilt_ok`: The steps in a working copy.
* `run_settles`: How the initializer succeeds.
-/

namespace Nxpod

namespace Content

namespace Prebuild

open Effects Git

/-! ## Requests -/

/-- The codes of gRPC that are used here. -/
inductive Code
  | invalidArgument
  | internal

/-- An error as gRPC has it. -/
structure Status where
  code : Code
  message : String

/-- How it is printed. -/
def Status.error (s : Status) : String :=
  let code := match s.code with
    | .invalidArgument => "InvalidArgument"
    | .internal => "Internal"
  "rpc error: code = " ++ code ++ " desc = " ++ s.message

/-- How Git is configured, and how it gets its credentials. -/
structure GitConfig where
  customConfig : List (String × String)
  authentication : Int
  authUser : String
  authPassword : String
  authOts : String

/-- The repository that is asked for. -/
structure GitRequest where
  remoteUri : String
  upstreamRemoteUri : String
  targetMode : Int
  cloneTaget : String
  checkoutLocation : String
  config : Option GitConfig

/-- The snapshot that is asked for. -/
structure SnapshotRequest where
  snapshot : String

/-- Both parts may be missing. -/
structure PrebuildRequest where
  prebuild : Option SnapshotRequest
  git : Option GitRequest

/-- What is asked for. A message may say that there is one and not have it. -/
inductive Spec
  | empty
  | git (req : Option GitRequest)
  | prebuild (req : Option PrebuildRequest)
  | snapshot (req : SnapshotRequest)
  | missing

/-- What is outside. `downloadOTS` is asked again for each Git command, `chown`
    is run twice, and `removeAll` fails with what it has left. -/
structure Env extends Git.Env where
  downloadSnapshot : Path → String → Disk → Except InitErr Bool × Disk
  downloadOTS : String → List String → Except InitErr (String × String)
  chown : Nat → Path → Option String
  readdirnames : Path → Disk → List String
  removeAll : Path → Disk → Option (String × Disk)

/-- A snapshot, and where it goes. -/
structure SnapshotInitializer where
  location : Path
  snapshot : String

/-- A prebuild has a repository in any case. -/
structure PrebuildInitializer where
  git : GitInitializer
  prebuild : Option SnapshotInitializer

/-- What is made of a request. -/
inductive Initializer
  | empty
  | git (i : GitInitializer)
  | snapshot (i : SnapshotInitializer)
  | prebuild (i : PrebuildInitializer)

/-- The modes have numbers in the interface, and other numbers are none. -/
def targetModeOf (mode : Int) : Option CloneTargetMode :=
  if mode = 3 then some .localBranch
  else if mode = 2 then some .remoteBranch
  else if mode = 1 then some .remoteCommit
  else if mode = 0 then some .remoteHead
  else none

/-- No credentials. -/
def gitAuthNoAuth : Int := 0
/-- They are in the request. -/
def gitAuthBasicAuth : Int := 1
/-- They are fetched from somewhere, once. -/
def gitAuthBasicAuthOTS : Int := 2

/-- The credentials of a request. Each time they are asked for they may be
    fetched again. -/
def authProvider (env : Env) (config : GitConfig) (args : List String) :
    Except InitErr (String × String) :=
  if config.authentication = gitAuthBasicAuth then .ok (config.authUser, config.authPassword)
  else if config.authentication = gitAuthBasicAuthOTS then
    match env.downloadOTS config.authOts args with
    | .error _ => .error (.text (Status.error ⟨.invalidArgument, "cannot get OTS"⟩))
    | .ok credentials => .ok credentials
  else if config.authentication = gitAuthNoAuth then .ok ("", "")
  else .error (.text (Status.error ⟨.invalidArgument,
    "invalid Git authentication method: " ++ toString config.authentication⟩))

/-- The folder of the repository is below the location. -/
def newGitInitializer (env : Env) (loc : Path) (req : GitRequest) :
    Except Status GitInitializer :=
  match req.config with
  | none => .error ⟨.invalidArgument, "Git initializer misses config"⟩
  | some config => match targetModeOf req.targetMode with
    | none => .error ⟨.invalidArgument, "invalid target mode: " ++ toString req.targetMode⟩
    | some targetMode => .ok {
        location := loc.join req.checkoutLocation
        config := config.customConfig
        remoteURI := req.remoteUri
        upstreamRemoteURI := req.upstreamRemoteUri
        authMethod := if config.authentication = gitAuthNoAuth then .noAuth else .basicAuth
        authProvider := some (authProvider env config)
        targetMode := targetMode
        cloneTarget := req.cloneTaget }

/-- There is no error here, although the source has one for its callers. -/
def newSnapshotInitializer (loc : Path) (req : SnapshotRequest) : SnapshotInitializer where
  location := loc
  snapshot := req.snapshot

/-- Every request gets an initializer or an error, one without a spec the empty
    one. -/
def newFromRequest (env : Env) (loc : Path) : Spec → Except Status Initializer
  | .empty | .missing => .ok .empty
  | .git none => .error ⟨.invalidArgument, "missing Git initializer spec"⟩
  | .git (some req) => match newGitInitializer env loc req with
    | .error err => .error ⟨.internal, "cannot initialize workspace: " ++ err.error⟩
    | .ok i => .ok (.git i)
  | .prebuild none => .error ⟨.invalidArgument, "missing prebuild initializer spec"⟩
  | .prebuild (some req) => match req.git with
    | none => .error ⟨.invalidArgument, "missing prebuild Git initializer spec"⟩
    | some git => match newGitInitializer env loc git with
      | .error err => .error err
      | .ok gitinit => .ok (.prebuild {
          git := gitinit
          prebuild := req.prebuild.map (newSnapshotInitializer loc) })
  | .snapshot req => .ok (.snapshot (newSnapshotInitializer loc req))

/-! ## Restoring and cleaning up -/

/-- All files are given to the user of the workspace. -/
def recursiveChown (env : Env) (n : Nat) (location : Path) : Effect InitErr Disk Unit :=
  match env.chown n location with
  | some out => throw (.text ("chown -R " ++ location.toString ++ ": " ++ out))
  | none => pure ()

/-- A snapshot that is not found is an error. -/
def SnapshotInitializer.run (env : Env) (s : SnapshotInitializer) : Effect InitErr Disk Source := do
  let ok ← wrap (.wrapped "snapshot initializer") (env.downloadSnapshot s.location s.snapshot)
  if ok then do
    recursiveChown env 0 s.location
    pure .other
  else throw (.text ("did not find snapshot " ++ s.snapshot))

/-- `os.RemoveAll`. -/
def removeAll (env : Env) (file : Path) : Effect InitErr Disk Unit := fun d =>
  match env.removeAll file d with
  | some (err, left) => (.error (.text err), left)
  | none => (.ok (), fun p => if file <+: p then none else d p)

/-- The first that cannot be removed ends it. -/
def removeEach (env : Env) : List Path → Effect InitErr Disk Unit
  | [] => pure ()
  | file :: files => do
    wrap (.wrapped "prebuild initializer") (removeAll env file)
    removeEach env files

/-- The pattern `*` matches names that begin with a dot, too, and an error of
    reading the directory is no error of `filepath.Glob`. -/
def glob (env : Env) (location : Path) (d : Disk) : List Path :=
  (env.readdirnames location d).map fun name => location ++ [name]

/-- What is removed is what the listing has, and if the listing is not whole
    something stays. -/
def clearWorkspace (env : Env) (location : Path) : Effect InitErr Disk Unit := do
  let d ← get
  removeEach env (glob env location d)

/-! ## The initializer -/

/-- `strings.Contains`. -/
def contains (s substr : String) : Bool :=
  decide (substr.toList <:+: s.toList)

/-- The repository has no commit, which is no error of `git stash push`. -/
def noInitialCommit : InitErr → Bool
  | .text _ => false
  | .gitOpFailed _ _ _ output => contains output "You do not have the initial commit yet"
  | .wrapped _ err => noInitialCommit err

namespace PrebuildInitializer

/-- Whether something was stashed. A failed command has no output. -/
def stash (env : Env) (p : PrebuildInitializer) : Effect InitErr Disk Bool := do
  match ← attempt (p.git.gitWithOutput env.toEnv "stash" ["push", "-u"]) with
  | .ok out => pure (!contains out "No local changes to save")
  | .error err =>
    if noInitialCommit err then pure true
    else throw (.wrapped "prebuild initializer" err)

/-- What is changed in the working copy is put away before the checkout. -/
def stashAndFetch (env : Env) (p : PrebuildInitializer) : Effect InitErr Disk Bool := do
  let didStash ← p.stash env
  wrap (.wrapped "prebuild initializer") (p.git.fetch env.toEnv)
  pure didStash

/-- Whether the stash can be popped does not matter. -/
def updateWorkingCopy (env : Env) (p : PrebuildInitializer) : Effect InitErr Disk Unit := do
  let didStash ← p.stashAndFetch env
  wrap (.wrapped "prebuild initializer") (p.git.realizeCloneTarget env.toEnv)
  if didStash then do
    let _ ← attempt (p.git.git env.toEnv "stash" ["pop"])
    pure ()
  else pure ()

/-- From the point on where the snapshot is restored. -/
def prebuilt (env : Env) (p : PrebuildInitializer) : Effect InitErr Disk Source := do
  let d ← get
  if isWorkingCopy d p.git.location then do
    p.updateWorkingCopy env
    pure .prebuild
  else pure .prebuild

/-- The snapshot, if there is one, and then the checkout. If the snapshot fails
    the location is emptied and a clone takes its place. -/
def run (env : Env) (p : PrebuildInitializer) : Effect InitErr Disk Source :=
  match p.prebuild with
  | none => p.prebuilt env
  | some s => do
    match ← attempt (s.run env) with
    | .error _ => do
      wrap (.wrapped "prebuild initializer") (clearWorkspace env s.location)
      p.git.run env.toEnv
    | .ok _ => do
      recursiveChown env 1 s.location
      p.prebuilt env

/-- The snapshot was restored, if there is one. -/
def Restored (env : Env) (p : PrebuildInitializer) (d d₁ : Disk) : Prop :=
  match p.prebuild with
  | none => d₁ = d
  | some s => ∃ src, s.run env d = (.ok src, d₁)

end PrebuildInitializer

/-- The location is emptied, and nothing else. -/
def Cleared (location : Path) (d d' : Disk) : Prop :=
  (∀ name rest, d' (location ++ name :: rest) = none) ∧
    ∀ p, (∀ name rest, p ≠ location ++ name :: rest) → d' p = d p

/-- Listing the directory gives all that is in it. -/
def Lists (env : Env) (location : Path) (d : Disk) : Prop :=
  ∀ name rest, d (location ++ name :: rest) ≠ none → name ∈ env.readdirnames location d

/-! ## What is left after the clean-up -/

variable {env : Env} {p : PrebuildInitializer} {d d' : Disk} {location : Path}

/-- What is gone is what was named, with everything below it. -/
theorem removeEach_ok {files : List Path} (h : removeEach env files d = (.ok (), d')) (q : Path) :
    d' q = if ∃ file ∈ files, file <+: q then none else d q := by
  induction files generalizing d with
  | nil =>
      rw [← (pure_ok_iff.mp h).2, if_neg (fun ⟨_, hmem, _⟩ => absurd hmem List.not_mem_nil)]
  | cons file files ih =>
      rcases bind_ok_iff.mp h with ⟨_, t, hremove, hrest⟩
      have hremove := wrap_ok_iff.mp hremove
      unfold removeAll at hremove
      split at hremove
      · exact absurd (Prod.mk.inj hremove).1 nofun
      · rw [ih hrest, ← (Prod.mk.inj hremove).2]
        dsimp only
        by_cases hfile : file <+: q
        · have hcons : ∃ f ∈ file :: files, f <+: q := ⟨file, List.mem_cons_self, hfile⟩
          rw [if_pos hfile, ite_self, if_pos hcons]
        · rw [if_neg hfile]
          simp only [List.mem_cons, exists_eq_or_imp, hfile, false_or]

/-- Hidden files are emptied out as well. -/
theorem clearWorkspace_ok (hlists : Lists env location d)
    (h : clearWorkspace env location d = (.ok (), d')) : Cleared location d d' := by
  unfold clearWorkspace at h
  rcases bind_ok_iff.mp h with ⟨t, t', hget, hremove⟩
  rcases get_ok_iff.mp hget with ⟨rfl, rfl⟩
  have hleft := removeEach_ok hremove
  constructor
  · intro name rest
    rw [hleft]
    split_ifs with hlisted
    · rfl
    · by_contra hnone
      refine hlisted ⟨location ++ [name], ?_, rest, ?_⟩
      · exact List.mem_map.mpr ⟨name, hlists name rest hnone, rfl⟩
      · rw [List.append_assoc, List.singleton_append]
  · intro q hq
    rw [hleft, if_neg]
    rintro ⟨file, hfile, rest, rfl⟩
    rcases List.mem_map.mp hfile with ⟨name, -, rfl⟩
    exact hq name rest (by rw [List.append_assoc, List.singleton_append])

/-- A location under the one that was emptied is no working copy. -/
theorem not_isWorkingCopy_of_cleared {location : Path} {ws : Path} (h : Cleared location d d')
    (hinside : location <+: ws) : isWorkingCopy d' ws = false := by
  rcases hinside with ⟨rest, rfl⟩
  have hnone : d' (location ++ rest ++ [".git"]) = none := by
    rw [List.append_assoc]
    cases rest with
    | nil => exact h.1 _ _
    | cons name rest => exact h.1 _ _
  unfold isWorkingCopy
  rw [hnone]

/-! ## The steps in a working copy -/

theorem recursiveChown_ok {n : Nat} (h : recursiveChown env n location d = (.ok (), d')) :
    d' = d := by
  unfold recursiveChown at h
  cases hout : env.chown n location with
  | some out =>
      rw [hout] at h
      exact absurd h throw_ne_ok
  | none =>
      rw [hout] at h
      exact (pure_ok_iff.mp h).2.symm

/-- Putting changes away leaves the checkout where it is. -/
theorem stash_ok (hgit : LawfulGit env.git) {r : Repo} {didStash : Bool}
    (hr : repoAt d p.git.location = some r) (h : p.stash env d = (.ok didStash, d')) :
    ∃ r', repoAt d' p.git.location = some r' := by
  unfold PrebuildInitializer.stash at h
  rcases bind_ok_iff.mp h with ⟨res, t, hpush, h⟩
  have hdisk : t = d' := by
    cases res with
    | ok out => exact (pure_ok_iff.mp h).2
    | error err =>
        dsimp only at h
        split_ifs at h with hnone
        · exact (pure_ok_iff.mp h).2
        · exact absurd h throw_ne_ok
  rcases quiet_gitWithOutput hgit .stashPush hr with ⟨r', hr', -⟩
  rw [attempt_ok_iff.mp hpush, hdisk] at hr'
  exact ⟨r', hr'⟩

theorem stashAndFetch_ok (hgit : LawfulGit env.git) {r : Repo} {didStash : Bool}
    (hr : repoAt d p.git.location = some r) (h : p.stashAndFetch env d = (.ok didStash, d')) :
    ∃ r', repoAt d' p.git.location = some r' := by
  unfold PrebuildInitializer.stashAndFetch at h
  rcases bind_ok_iff.mp h with ⟨_, t, hstash, h⟩
  rcases bind_ok_iff.mp h with ⟨_, t', hfetch, h⟩
  rcases pure_ok_iff.mp h with ⟨-, rfl⟩
  rcases stash_ok hgit hr hstash with ⟨r₁, hr₁⟩
  rcases git_ok (wrap_ok_iff.mp hfetch) with ⟨credentials, out, hrun⟩
  rcases hgit.fetch credentials _ _ _ hr₁ with ⟨r₂, hr₂⟩
  rw [hrun] at hr₂
  exact ⟨r₂, hr₂⟩

/-- The clone target, as it was after fetching, is checked out, and popping the
    stash leaves it so. -/
theorem updateWorkingCopy_ok (hgit : LawfulGit env.git) {r : Repo}
    (hr : repoAt d p.git.location = some r) (hmode : p.git.targetMode ≠ .remoteHead)
    (h : p.updateWorkingCopy env d = (.ok (), d')) :
    ∃ didStash d₀ r₀ r', p.stashAndFetch env d = (.ok didStash, d₀) ∧
      repoAt d₀ p.git.location = some r₀ ∧ repoAt d' p.git.location = some r' ∧
        p.git.CheckedOut r₀ r' := by
  unfold PrebuildInitializer.updateWorkingCopy at h
  rcases bind_ok_iff.mp h with ⟨didStash, d₀, hfetched, h⟩
  rcases bind_ok_iff.mp h with ⟨_, d₁, hrealize, h⟩
  rcases stashAndFetch_ok hgit hr hfetched with ⟨r₀, hr₀⟩
  rcases realizeCloneTarget_ok hgit hr₀ (fun heq => absurd heq hmode) (wrap_ok_iff.mp hrealize)
    with ⟨r₁, hr₁, hchecked⟩
  cases didStash with
  | false =>
      rw [if_neg Bool.false_ne_true] at h
      rw [← (pure_ok_iff.mp h).2]
      exact ⟨false, d₀, r₀, r₁, hfetched, hr₀, hr₁, hchecked⟩
  | true =>
      rw [if_pos rfl] at h
      rcases bind_ok_iff.mp h with ⟨_, d₂, hpop, h⟩
      rcases pure_ok_iff.mp h with ⟨-, rfl⟩
      rcases quiet_git hgit .stashPop hr₁ with ⟨r₂, hr₂, hsame⟩
      rw [attempt_ok_iff.mp hpop] at hr₂
      exact ⟨true, d₀, r₀, r₂, hfetched, hr₀, hr₂, checkedOut_of_sameHead hchecked hsame⟩

/-- Where there is no working copy, nothing is done. -/
theorem prebuilt_ok {src : Source} (h : p.prebuilt env d = (.ok src, d')) :
    src = .prebuild ∧
      if isWorkingCopy d p.git.location then p.updateWorkingCopy env d = (.ok (), d')
      else d' = d := by
  unfold PrebuildInitializer.prebuilt at h
  rcases bind_ok_iff.mp h with ⟨t, t', hget, h⟩
  rcases get_ok_iff.mp hget with ⟨rfl, rfl⟩
  split_ifs at h ⊢ with hcopy
  · rcases bind_ok_iff.mp h with ⟨_, t, hupdate, h⟩
    rcases pure_ok_iff.mp h with ⟨rfl, rfl⟩
    exact ⟨rfl, hupdate⟩
  · rcases pure_ok_iff.mp h with ⟨rfl, rfl⟩
    exact ⟨rfl, rfl⟩

/-! ## How the initializer succeeds -/

/-- Both parts of a prebuild initializer are made for the same location. -/
theorem location_of_newFromRequest {spec : Spec} {s : SnapshotInitializer}
    (h : newFromRequest env location spec = .ok (.prebuild p)) (hs : p.prebuild = some s) :
    s.location = location := by
  rcases spec with _ | (_ | req) | (_ | req) | req | _
  · exact absurd h nofun
  · exact absurd h nofun
  · rw [newFromRequest] at h
    cases hnew : newGitInitializer env location req with
    | error err =>
        rw [hnew] at h
        exact absurd h nofun
    | ok i =>
        rw [hnew] at h
        exact absurd h nofun
  · exact absurd h nofun
  · rw [newFromRequest] at h
    cases hreq : req.git with
    | none =>
        rw [hreq] at h
        exact absurd h nofun
    | some git =>
        rw [hreq] at h
        cases hnew : newGitInitializer env location git with
        | error err =>
            simp only [hnew, reduceCtorEq] at h
        | ok gitinit =>
            simp only [hnew, Except.ok.injEq, Initializer.prebuild.injEq] at h
            rw [← h] at hs
            rcases Option.map_eq_some_iff.mp hs with ⟨snap, -, rfl⟩
            rfl
  · exact absurd h nofun
  · exact absurd h nofun

/-- Restored or not, the initializer goes on with one of the two parts. -/
theorem run_cases {src : Source} (h : p.run env d = (.ok src, d')) :
    (∃ d₁, p.Restored env d d₁ ∧ p.prebuilt env d₁ = (.ok src, d')) ∨
      ∃ s err d₁ d₂, p.prebuild = some s ∧ s.run env d = (.error err, d₁) ∧
        clearWorkspace env s.location d₁ = (.ok (), d₂) ∧
          p.git.run env.toEnv d₂ = (.ok src, d') := by
  unfold PrebuildInitializer.run at h
  unfold PrebuildInitializer.Restored
  cases hprebuild : p.prebuild with
  | none =>
      rw [hprebuild] at h
      exact .inl ⟨d, rfl, h⟩
  | some s =>
      rw [hprebuild] at h
      rcases bind_ok_iff.mp h with ⟨res, d₁, hrun, h⟩
      have hrun := attempt_ok_iff.mp hrun
      cases res with
      | error err =>
          rcases bind_ok_iff.mp h with ⟨_, d₂, hclear, h⟩
          exact .inr ⟨s, err, d₁, d₂, rfl, hrun, wrap_ok_iff.mp hclear, h⟩
      | ok src' =>
          rcases bind_ok_iff.mp h with ⟨_, d₂, hchown, h⟩
          rw [recursiveChown_ok hchown] at h
          exact .inl ⟨d₁, ⟨src', hrun⟩, h⟩

/-- When the initializer succeeds, either the snapshot was restored and the
    clone target is checked out in the working copy it has, or the location was
    emptied and the clone target is checked out in a fresh clone. The source
    that is returned says which of them it was. -/
theorem run_settles {spec : Spec} {src : Source} (hgit : LawfulGit env.git)
    (hreq : newFromRequest env location spec = .ok (.prebuild p))
    (hrun : p.run env d = (.ok src, d')) :
    (src = .prebuild ∧ ∃ d₁, p.Restored env d d₁ ∧
      (isWorkingCopy d₁ p.git.location = false → d' = d₁) ∧
      ∀ r₁, repoAt d₁ p.git.location = some r₁ → p.git.targetMode ≠ .remoteHead →
        ∃ didStash d₀ r₀ r, p.stashAndFetch env d₁ = (.ok didStash, d₀) ∧
          repoAt d₀ p.git.location = some r₀ ∧ repoAt d' p.git.location = some r ∧
            p.git.CheckedOut r₀ r) ∨
    (src = .other ∧ ∃ s err d₁ d₂, p.prebuild = some s ∧ s.run env d = (.error err, d₁) ∧
      clearWorkspace env location d₁ = (.ok (), d₂) ∧ p.git.run env.toEnv d₂ = (.ok src, d') ∧
      (Lists env location d₁ → Cleared location d₁ d₂ ∧
        (location <+: p.git.location → p.git.remoteURI.toList.head? ≠ some '-' →
          ∃ d₀ r₀ r, p.git.makeAndClone env.toEnv d₂ = (.ok (), d₀) ∧
            repoAt d₀ p.git.location = some r₀ ∧ repoAt d' p.git.location = some r ∧
              p.git.CheckedOut r₀ r))) := by
  rcases run_cases hrun with ⟨d₁, hrestored, hprebuilt⟩ | ⟨s, err, d₁, d₂, hs, hfailed, hclear, h⟩
  · rcases prebuilt_ok hprebuilt with ⟨hsrc, hdone⟩
    refine .inl ⟨hsrc, d₁, hrestored, fun hnot => ?_, fun r₁ hr₁ hmode => ?_⟩
    · rw [hnot, if_neg Bool.false_ne_true] at hdone
      exact hdone
    · rw [if_pos (isWorkingCopy_of_repoAt hr₁)] at hdone
      exact updateWorkingCopy_ok hgit hr₁ hmode hdone
  · rw [location_of_newFromRequest hreq hs] at hclear
    refine .inr ⟨source_of_run h, s, err, d₁, d₂, hs, hfailed, hclear, h, fun hlists => ?_⟩
    have hcleared := clearWorkspace_ok hlists hclear
    refine ⟨hcleared, fun hinside huri => ?_⟩
    exact checkedOut_of_run hgit huri (not_isWorkingCopy_of_cleared hcleared hinside) h

/-! ## One storage, with two snapshots -/

/-- A remote that has a branch `main`, and that is not reached for cloning. -/
def mainGit : Command := fun _ location args d =>
  if args = ["checkout", "-B", "main", "origin/main"] then
    match repoAt d location with
    | none => (.error ("exit status 128", "fatal: not a git repository"), d)
    | some r => match r.rev "origin/main" with
      | none => (.error ("exit status 128", "fatal: 'origin/main' is not a commit"), d)
      | some c => (.ok "", fun p =>
          if p = location ++ [".git"] then
            some (.dir (some { r with branch := some "main", head := some c }))
          else d p)
  else if args = ["stash", "push", "-u"] then (.ok "No local changes to save\n", d)
  else if args = ["fetch"] then (.ok "", d)
  else (.error ("exit status 128", "fatal: unable to access the remote"), d)

theorem mainGit_disk {credentials : Option (String × String)} {args : List String}
    (h : args ≠ ["checkout", "-B", "main", "origin/main"]) :
    (mainGit credentials location args d).2 = d := by
  unfold mainGit
  rw [if_neg h]
  split_ifs <;> rfl

theorem mainGit_ne_ok {credentials : Option (String × String)} {args : List String}
    {out : String} (h : args ≠ ["checkout", "-B", "main", "origin/main"])
    (hstash : args ≠ ["stash", "push", "-u"]) (hfetch : args ≠ ["fetch"]) :
    mainGit credentials location args d ≠ (.ok out, d') := by
  unfold mainGit
  rw [if_neg h, if_neg hstash, if_neg hfetch]
  exact fun h => absurd (Prod.mk.inj h).1 nofun

theorem lawful_mainGit : LawfulGit mainGit where
  quiet credentials location args d r hquiet hr := by
    rw [mainGit_disk (by cases hquiet <;> simp)]
    exact ⟨r, hr, rfl, rfl, rfl⟩
  fetch credentials location d r hr := by
    rw [mainGit_disk (by simp)]
    exact ⟨r, hr⟩
  checkoutReset credentials location branch d d' r out hr h := by
    by_cases hbranch : branch = "main"
    · have horigin : "origin/" ++ "main" = "origin/main" := rfl
      rw [hbranch, horigin] at h ⊢
      unfold mainGit at h
      rw [if_pos rfl, hr] at h
      dsimp only at h
      cases hrev : r.rev "origin/main" with
      | none =>
          rw [hrev] at h
          exact absurd (Prod.mk.inj h).1 nofun
      | some c =>
          rw [hrev] at h
          refine ⟨{ r with branch := some "main", head := some c }, ?_, rfl, rfl⟩
          rw [← (Prod.mk.inj h).2]
          unfold repoAt
          dsimp only
          rw [if_pos rfl]
    · exact absurd h (mainGit_ne_ok (by simp [hbranch]) (by simp) (by simp))
  checkoutBranch credentials location branch d d' r out hr h :=
    absurd h (mainGit_ne_ok (by simp) (by simp) (by simp))
  checkoutCommit credentials location target d d' r out hr h :=
    absurd h (mainGit_ne_ok (by simp) (by simp) (by simp))
  clone credentials location uri config d d' out huri h :=
    absurd h (mainGit_ne_ok (by simp) (by simp) (by simp))

/-- Both snapshots are found. One has a working copy in `repo`, the other one a
    file. -/
def twoSnapshots : Env where
  git := mainGit
  mkdirAll := fun _ _ => none
  downloadSnapshot := fun location snapshot d => (.ok true, fun p =>
    if p = location ++ ["repo"] then some (.dir none)
    else if snapshot = "working-copy@bucket" ∧ p = location ++ ["repo", ".git"] then
      some (.dir (some ⟨some "old", some "1a2b", some "3c4d", fun name =>
        if name = "origin/main" then some "3c4d" else none⟩))
    else if snapshot = "plain@bucket" ∧ p = location ++ ["repo", "README"] then some .file
    else d p)
  downloadOTS := fun _ _ => .ok ("", "")
  chown := fun _ _ => none
  readdirnames := fun _ _ => []
  removeAll := fun _ _ => none

/-- A branch in a repository, on a snapshot. -/
def prebuildRequest (snapshot : String) : PrebuildRequest where
  prebuild := some ⟨snapshot⟩
  git := some {
    remoteUri := "https://github.com/khulnasoft/nxpod"
    upstreamRemoteUri := ""
    targetMode := 2
    cloneTaget := "main"
    checkoutLocation := "repo"
    config := some ⟨[], gitAuthNoAuth, "", "", ""⟩ }

/-- What is made of it. -/
def prebuildInitializer (snapshot : String) : PrebuildInitializer where
  git := {
    location := ["ws", "repo"]
    config := []
    remoteURI := "https://github.com/khulnasoft/nxpod"
    upstreamRemoteURI := ""
    authMethod := .noAuth
    authProvider := some (authProvider twoSnapshots ⟨[], gitAuthNoAuth, "", "", ""⟩)
    targetMode := .remoteBranch
    cloneTarget := "main" }
  prebuild := some ⟨["ws"], snapshot⟩

theorem newFromRequest_prebuildRequest (snapshot : String) :
    newFromRequest twoSnapshots ["ws"] (.prebuild (some (prebuildRequest snapshot))) =
      .ok (.prebuild (prebuildInitializer snapshot)) := rfl

/-- A restored working copy, on another branch and behind its remote. -/
theorem run_settles_workingCopy : ∃ d' r₀ r,
    (prebuildInitializer "working-copy@bucket").run twoSnapshots (fun _ => none) =
      (.ok .prebuild, d') ∧ repoAt d' ["ws", "repo"] = some r ∧
        (prebuildInitializer "working-copy@bucket").git.CheckedOut r₀ r := by
  have hrun : (prebuildInitializer "working-copy@bucket").run twoSnapshots (fun _ => none) =
      (.ok .prebuild, ((prebuildInitializer "working-copy@bucket").run twoSnapshots
        fun _ => none).2) := Prod.ext rfl rfl
  rcases run_settles lawful_mainGit (newFromRequest_prebuildRequest _) hrun with h | h
  · rcases h with ⟨-, d₁, ⟨src, hsnapshot⟩, -, hchecked⟩
    have hd₁ := (Prod.mk.inj hsnapshot).2
    rw [← hd₁] at hchecked
    rcases hchecked _ rfl nofun with ⟨_, _, r₀, r, -, -, hr, hchecked⟩
    exact ⟨_, r₀, r, hrun, hr, hchecked⟩
  · exact absurd h.1 nofun

/-- A restored snapshot without a working copy. -/
theorem not_isWorkingCopy_plain : ∃ d', LawfulGit twoSnapshots.git ∧
    newFromRequest twoSnapshots ["ws"] (.prebuild (some (prebuildRequest "plain@bucket"))) =
      .ok (.prebuild (prebuildInitializer "plain@bucket")) ∧
    (prebuildInitializer "plain@bucket").run twoSnapshots (fun _ => none) = (.ok .prebuild, d') ∧
      isWorkingCopy d' (prebuildInitializer "plain@bucket").git.location = false :=
  ⟨_, lawful_mainGit, rfl, rfl, rfl⟩

end Prebuild

end Content

end Nxpod
