import Nxpod.Library.Effects
import Nxpod.Library.Text

/-!
# Git in a Location

`GitInitializer` clones a repository into the location of a workspace, checks
out the clone target, adds the upstream remote and updates the submodules. A
location that is a working copy already is left as it is.

The disk is given by what `os.Stat` says of each path, and a `.git` folder holds
the repository that Git finds there. Git itself is given: `LawfulGit` is what
its manual says of the commands that are run here. A checkout moves `HEAD` to
where the target pointed, a fresh clone is on the commit of the remote's `HEAD`,
and stashing, adding a remote, fetching from it and updating submodules leave
`HEAD` alone.

## Main definitions

* `Repo`, `Disk`: What is on the disk.
* `Node`: A directory, with the repository that it makes up when it is a `.git`
  folder.
* `Client`, `gitWithOutput`: Running Git.
* `Env`: What is outside: the executable, and the errors of `os.MkdirAll`.
* `Source`: Where the content has come from.
* `GitInitializer`, `GitInitializer.run`: Cloning.
* `LawfulGit`: What Git does.
* `CheckedOut`: A location at the clone target.

## Theorems

* `quiet_gitWithOutput`: The commands that leave `HEAD` alone.
* `realizeCloneTarget_ok`: A checkout that succeeds.
* `checkedOut_of_run`: Where a clone ends.
-/

namespace Nxpod

namespace Content

namespace Git

open Effects

/-! ## The disk -/

/-- The names from the root on. -/
abbrev Path := List String

/-- A path as it is printed. -/
def Path.toString (p : Path) : String :=
  "/" ++ String.intercalate "/" p

/-- `filepath.Join` with an absolute path on the left. -/
def Path.join (p : Path) (name : String) : Path :=
  (Text.split '/' name).foldl (fun p segment =>
    if segment = "" ∨ segment = "." then p
    else if segment = ".." then p.dropLast
    else p ++ [segment]) p

/-- The branch a repository is on, the commits of its `HEAD` and of the `HEAD` of
    its remote, and the commits that names stand for. -/
structure Repo where
  branch : Option String
  head : Option String
  remoteHead : Option String
  rev : String → Option String

/-- A directory, with the repository that it makes up when it is a `.git` folder. -/
inductive Node
  | file
  | dir (repo : Option Repo)

/-- What `os.Stat` says of a path. -/
abbrev Disk := Path → Option Node

/-- There is a folder in which Git keeps what belongs to it. -/
def isWorkingCopy (d : Disk) (location : Path) : Bool :=
  match d (location ++ [".git"]) with
  | some (.dir _) => true
  | some .file | none => false

/-- What Git finds in a location. -/
def repoAt (d : Disk) (location : Path) : Option Repo :=
  match d (location ++ [".git"]) with
  | some (.dir repo) => repo
  | some .file | none => none

/-- Where there is a repository there is such a folder. -/
theorem isWorkingCopy_of_repoAt {d : Disk} {location : Path} {r : Repo}
    (h : repoAt d location = some r) : isWorkingCopy d location = true := by
  unfold repoAt at h
  unfold isWorkingCopy
  cases hnode : d (location ++ [".git"]) with
  | none =>
      rw [hnode] at h
      exact absurd h nofun
  | some node =>
      rw [hnode] at h
      cases node with
      | file => exact absurd h nofun
      | dir repo => rfl

/-! ## Running Git -/

/-- An error says what has failed. One of Git has what was run and what it
    printed. -/
inductive InitErr
  | text (message : String)
  | gitOpFailed (subcommand : String) (args : List String) (execErr output : String)
  | wrapped (message : String) (err : InitErr)

/-- Whether Git is told a name and a password. -/
inductive AuthMethod
  | noAuth
  | basicAuth
  deriving DecidableEq

/-- The provider of the credentials is asked again for each command. -/
structure Client where
  location : Path
  config : List (String × String)
  remoteURI : String
  upstreamRemoteURI : String
  authMethod : AuthMethod
  authProvider : Option (List String → Except InitErr (String × String))

/-- The executable, run in a directory with credentials and arguments. -/
abbrev Command := Option (String × String) → Path → List String → Disk →
  Except (String × String) String × Disk

/-- What is outside: the executable, and the errors of `os.MkdirAll`. -/
structure Env where
  git : Command
  mkdirAll : Path → Disk → Option String

namespace Client

/-- They may depend on what is going to be run. -/
def credentials (c : Client) (args : List String) : Except InitErr (Option (String × String)) :=
  match c.authMethod, c.authProvider with
  | .noAuth, _ => .ok none
  | .basicAuth, none => .error (.text "basic-auth method requires an auth provider")
  | .basicAuth, some provider => (provider args).map some

/-- A Git command in the location, and what it prints. -/
def gitWithOutput (env : Env) (c : Client) (subcommand : String) (args : List String) :
    Effect InitErr Disk String :=
  match c.credentials (subcommand :: args) with
  | .error err => throw err
  | .ok credentials => fun d =>
    match env.git credentials c.location (subcommand :: args) d with
    | (.ok out, d') => (.ok out, d')
    | (.error (execErr, output), d') => (.error (.gitOpFailed subcommand args execErr output), d')

/-- A Git command of which only the success counts. -/
def git (env : Env) (c : Client) (subcommand : String) (args : List String) :
    Effect InitErr Disk Unit := do
  let _ ← c.gitWithOutput env subcommand args
  pure ()

/-- `os.MkdirAll`, which also creates the parents. -/
def mkdirAll (env : Env) (location : Path) : Effect InitErr Disk Unit := fun d =>
  match env.mkdirAll location d with
  | some err => (.error (.text err), d)
  | none => (.ok (), fun p => if (d p).isNone ∧ p <+: location then some (.dir none) else d p)

/-- The settings of a clone, each of them as an option with its value. -/
def configArgs (config : List (String × String)) : List String :=
  config.flatMap fun kv => ["--config", Text.trimSpace kv.1 ++ "=" ++ Text.trimSpace kv.2]

/-- The error of `os.MkdirAll` is logged only. -/
def clone (env : Env) (c : Client) : Effect InitErr Disk Unit := do
  let _ ← attempt (mkdirAll env c.location)
  c.git env "clone" (c.remoteURI :: configArgs c.config ++ ["."])

/-- What is new at the remote. -/
def fetch (env : Env) (c : Client) : Effect InitErr Disk Unit :=
  c.git env "fetch" []

/-- The repository a fork was made from is a second remote. -/
def updateRemote (env : Env) (c : Client) : Effect InitErr Disk Unit :=
  if c.upstreamRemoteURI ≠ "" then do
    c.git env "remote" ["add", "upstream", c.upstreamRemoteURI]
    c.git env "fetch" ["upstream"]
  else pure ()

/-- With all that they have in them. -/
def updateSubmodules (env : Env) (c : Client) : Effect InitErr Disk Unit :=
  c.git env "submodule" ["update", "--init", "--recursive"]

end Client

/-! ## Initializing a location -/

/-- What is to be checked out, and how it is named. -/
inductive CloneTargetMode
  | remoteHead
  | remoteCommit
  | remoteBranch
  | localBranch
  deriving DecidableEq

/-- Where the content has come from. -/
inductive Source
  | other
  | prebuild
  deriving DecidableEq

/-- A client with a target. -/
structure GitInitializer extends Client where
  targetMode : CloneTargetMode
  cloneTarget : String

namespace GitInitializer

/-- The checkout, one command for each mode. With the remote's head nothing is
    left to do. -/
def realizeCloneTarget (env : Env) (ws : GitInitializer) : Effect InitErr Disk Unit :=
  match ws.targetMode with
  | .remoteBranch => ws.git env "checkout" ["-B", ws.cloneTarget, "origin/" ++ ws.cloneTarget]
  | .localBranch => ws.git env "checkout" ["-b", ws.cloneTarget]
  | .remoteCommit => ws.git env "checkout" [ws.cloneTarget]
  | .remoteHead => pure ()

/-- The folder is made, and the clone goes into it. -/
def makeAndClone (env : Env) (ws : GitInitializer) : Effect InitErr Disk Unit := do
  wrap (.wrapped "git initializer") (Client.mkdirAll env ws.location)
  wrap (.wrapped "git initializer") (ws.clone env)

/-- A location that is a working copy stays as it is. A submodule that fails
    does not count. -/
def run (env : Env) (ws : GitInitializer) : Effect InitErr Disk Source := do
  let d ← get
  if isWorkingCopy d ws.location then pure .other
  else do
    ws.makeAndClone env
    wrap (.wrapped "git initializer") (ws.realizeCloneTarget env)
    wrap (.wrapped "git initializer") (ws.updateRemote env)
    let _ ← attempt (ws.updateSubmodules env)
    pure .other

end GitInitializer

/-! ## What Git does -/

/-- The commands that leave `HEAD` alone. -/
inductive Quiet : List String → Prop
  | stashPush : Quiet ["stash", "push", "-u"]
  | stashPop : Quiet ["stash", "pop"]
  | remoteAdd (name uri : String) : Quiet ["remote", "add", name, uri]
  | fetchUpstream : Quiet ["fetch", "upstream"]
  | submodules : Quiet ["submodule", "update", "--init", "--recursive"]

/-- The same commit is checked out. -/
def Repo.SameHead (r r' : Repo) : Prop :=
  r'.branch = r.branch ∧ r'.head = r.head ∧ r'.remoteHead = r.remoteHead

/-- The manual of Git, for the commands that are run in a repository. -/
structure LawfulGit (git : Command) : Prop where
  quiet : ∀ credentials location args d r, Quiet args → repoAt d location = some r →
    ∃ r', repoAt (git credentials location args d).2 location = some r' ∧ r.SameHead r'
  fetch : ∀ credentials location d r, repoAt d location = some r →
    ∃ r', repoAt (git credentials location ["fetch"] d).2 location = some r'
  checkoutReset : ∀ credentials location branch d d' r out, repoAt d location = some r →
    git credentials location ["checkout", "-B", branch, "origin/" ++ branch] d = (.ok out, d') →
      ∃ r', repoAt d' location = some r' ∧ r'.branch = some branch ∧
        r'.head = r.rev ("origin/" ++ branch)
  checkoutBranch : ∀ credentials location branch d d' r out, repoAt d location = some r →
    git credentials location ["checkout", "-b", branch] d = (.ok out, d') →
      ∃ r', repoAt d' location = some r' ∧ r'.branch = some branch ∧ r'.head = r.head
  checkoutCommit : ∀ credentials location target d d' r out, repoAt d location = some r →
    git credentials location ["checkout", target] d = (.ok out, d') →
      ∃ r', repoAt d' location = some r' ∧ ∀ c, r.rev target = some c → r'.head = some c
  clone : ∀ credentials location uri config d d' out, uri.toList.head? ≠ some '-' →
    git credentials location ("clone" :: uri :: Client.configArgs config ++ ["."]) d =
      (.ok out, d') →
      ∃ r, repoAt d' location = some r ∧ r.head = r.remoteHead

/-- The clone target, as it was in the first repository, is checked out in the
    second one. A target that names no commit may be a file to `git checkout`. -/
def GitInitializer.CheckedOut (ws : GitInitializer) (r r' : Repo) : Prop :=
  match ws.targetMode with
  | .remoteBranch =>
      r'.branch = some ws.cloneTarget ∧ r'.head = r.rev ("origin/" ++ ws.cloneTarget)
  | .localBranch => r'.branch = some ws.cloneTarget ∧ r'.head = r.head
  | .remoteCommit => ∀ c, r.rev ws.cloneTarget = some c → r'.head = some c
  | .remoteHead => r'.head = r'.remoteHead

/-! ## What the functions do -/

variable {env : Env} {c : Client} {ws : GitInitializer} {d d' : Disk} {r r' : Repo}

/-- Git was run, or the credentials were missing. -/
theorem gitWithOutput_cases (env : Env) (c : Client) (subcommand : String) (args : List String)
    (d : Disk) :
    (∃ err, c.gitWithOutput env subcommand args d = (.error err, d)) ∨
      ∃ credentials, (c.gitWithOutput env subcommand args d).2 =
          (env.git credentials c.location (subcommand :: args) d).2 ∧
        ∀ out, (c.gitWithOutput env subcommand args d).1 = .ok out →
          (env.git credentials c.location (subcommand :: args) d).1 = .ok out := by
  unfold Client.gitWithOutput
  cases c.credentials (subcommand :: args) with
  | error err => exact .inl ⟨err, rfl⟩
  | ok credentials =>
      refine .inr ⟨credentials, ?_⟩
      dsimp only
      rcases env.git credentials c.location (subcommand :: args) d with ⟨⟨execErr, output⟩ | out, t⟩
      · exact ⟨rfl, fun _ h => absurd h nofun⟩
      · exact ⟨rfl, fun _ h => congrArg Except.ok (Except.ok.inj h)⟩

theorem gitWithOutput_ok {subcommand : String} {args : List String} {out : String}
    (h : c.gitWithOutput env subcommand args d = (.ok out, d')) :
    ∃ credentials, env.git credentials c.location (subcommand :: args) d = (.ok out, d') := by
  rcases gitWithOutput_cases env c subcommand args d with ⟨err, herr⟩ | ⟨credentials, hdisk, hok⟩
  · rw [herr] at h
    exact absurd (Prod.mk.inj h).1 nofun
  · rw [h] at hdisk hok
    exact ⟨credentials, Prod.ext (hok out rfl) hdisk.symm⟩

theorem git_ok {subcommand : String} {args : List String}
    (h : c.git env subcommand args d = (.ok (), d')) :
    ∃ credentials out, env.git credentials c.location (subcommand :: args) d = (.ok out, d') := by
  unfold Client.git at h
  rcases bind_ok_iff.mp h with ⟨out, t, hgit, hpure⟩
  rw [(pure_ok_iff.mp hpure).2] at hgit
  rcases gitWithOutput_ok hgit with ⟨credentials, hrun⟩
  exact ⟨credentials, out, hrun⟩

/-- A quiet command leaves `HEAD` alone, whether it succeeds or not. -/
theorem quiet_gitWithOutput (hgit : LawfulGit env.git) {subcommand : String} {args : List String}
    (hquiet : Quiet (subcommand :: args)) (hr : repoAt d c.location = some r) :
    ∃ r', repoAt (c.gitWithOutput env subcommand args d).2 c.location = some r' ∧
      r.SameHead r' := by
  rcases gitWithOutput_cases env c subcommand args d with ⟨err, herr⟩ | ⟨credentials, hdisk, -⟩
  · rw [herr]
    exact ⟨r, hr, rfl, rfl, rfl⟩
  · rw [hdisk]
    exact hgit.quiet credentials _ _ d r hquiet hr

theorem git_disk (env : Env) (c : Client) (subcommand : String) (args : List String) (d : Disk) :
    (c.git env subcommand args d).2 = (c.gitWithOutput env subcommand args d).2 := by
  unfold Client.git
  rw [bind_apply]
  rcases c.gitWithOutput env subcommand args d with ⟨err | out, t⟩ <;> rfl

/-- A command that is quiet leaves the checkout as it is, even if it fails. -/
theorem quiet_git (hgit : LawfulGit env.git) {subcommand : String} {args : List String}
    (hquiet : Quiet (subcommand :: args)) (hr : repoAt d c.location = some r) :
    ∃ r', repoAt (c.git env subcommand args d).2 c.location = some r' ∧ r.SameHead r' := by
  rw [git_disk]
  exact quiet_gitWithOutput hgit hquiet hr

theorem Repo.SameHead.trans {r r' r'' : Repo} (h : r.SameHead r') (h' : r'.SameHead r'') :
    r.SameHead r'' :=
  ⟨h'.1.trans h.1, h'.2.1.trans h.2.1, h'.2.2.trans h.2.2⟩

/-- What is checked out depends on `HEAD` only. -/
theorem checkedOut_of_sameHead {r'' : Repo} (h : ws.CheckedOut r r') (hsame : r'.SameHead r'') :
    ws.CheckedOut r r'' := by
  unfold GitInitializer.CheckedOut at h ⊢
  rcases hsame with ⟨hbranch, hhead, hremote⟩
  rw [hbranch, hhead, hremote]
  exact h

/-- A checkout that succeeds. Without one, `HEAD` has to be there already. -/
theorem realizeCloneTarget_ok (hgit : LawfulGit env.git) (hr : repoAt d ws.location = some r)
    (hhead : ws.targetMode = .remoteHead → r.head = r.remoteHead)
    (h : ws.realizeCloneTarget env d = (.ok (), d')) :
    ∃ r', repoAt d' ws.location = some r' ∧ ws.CheckedOut r r' := by
  unfold GitInitializer.realizeCloneTarget at h
  unfold GitInitializer.CheckedOut
  cases hmode : ws.targetMode with
  | remoteBranch =>
      rw [hmode] at h
      rcases git_ok h with ⟨credentials, out, hrun⟩
      exact hgit.checkoutReset _ _ _ _ _ _ _ hr hrun
  | localBranch =>
      rw [hmode] at h
      rcases git_ok h with ⟨credentials, out, hrun⟩
      exact hgit.checkoutBranch _ _ _ _ _ _ _ hr hrun
  | remoteCommit =>
      rw [hmode] at h
      rcases git_ok h with ⟨credentials, out, hrun⟩
      exact hgit.checkoutCommit _ _ _ _ _ _ _ hr hrun
  | remoteHead =>
      rw [hmode] at h
      rw [← (pure_ok_iff.mp h).2]
      exact ⟨r, hr, hhead hmode⟩

theorem updateRemote_ok (hgit : LawfulGit env.git) (hr : repoAt d c.location = some r)
    (h : c.updateRemote env d = (.ok (), d')) :
    ∃ r', repoAt d' c.location = some r' ∧ r.SameHead r' := by
  unfold Client.updateRemote at h
  split_ifs at h with hupstream
  · rcases bind_ok_iff.mp h with ⟨_, t, hadd, hfetch⟩
    rcases quiet_git hgit (.remoteAdd "upstream" c.upstreamRemoteURI) hr with ⟨r₁, hr₁, hsame₁⟩
    rw [hadd] at hr₁
    rcases quiet_git hgit .fetchUpstream hr₁ with ⟨r₂, hr₂, hsame₂⟩
    rw [hfetch] at hr₂
    exact ⟨r₂, hr₂, hsame₁.trans hsame₂⟩
  · rw [← (pure_ok_iff.mp h).2]
    exact ⟨r, hr, rfl, rfl, rfl⟩

/-- Where a clone succeeds, there is a working copy on the commit of the remote's
    `HEAD`. -/
theorem makeAndClone_ok (hgit : LawfulGit env.git) (huri : ws.remoteURI.toList.head? ≠ some '-')
    (h : ws.makeAndClone env d = (.ok (), d')) :
    ∃ r, repoAt d' ws.location = some r ∧ r.head = r.remoteHead := by
  unfold GitInitializer.makeAndClone Client.clone at h
  rcases bind_ok_iff.mp h with ⟨_, t, -, hclone⟩
  rcases bind_ok_iff.mp (wrap_ok_iff.mp hclone) with ⟨_, t', -, hrun⟩
  rcases git_ok hrun with ⟨credentials, out, hrun⟩
  exact hgit.clone _ _ _ _ _ _ _ huri hrun

/-- A clone ends at the clone target, in a location that was no working copy. -/
theorem checkedOut_of_run (hgit : LawfulGit env.git)
    (huri : ws.remoteURI.toList.head? ≠ some '-') (hnot : isWorkingCopy d ws.location = false)
    {src : Source} (h : ws.run env d = (.ok src, d')) :
    ∃ d₀ r₀ r, ws.makeAndClone env d = (.ok (), d₀) ∧ repoAt d₀ ws.location = some r₀ ∧
      repoAt d' ws.location = some r ∧ ws.CheckedOut r₀ r := by
  unfold GitInitializer.run at h
  rcases bind_ok_iff.mp h with ⟨t, t', hget, h⟩
  rcases get_ok_iff.mp hget with ⟨rfl, rfl⟩
  rw [hnot, if_neg Bool.false_ne_true] at h
  rcases bind_ok_iff.mp h with ⟨_, d₀, hclone, h⟩
  rcases bind_ok_iff.mp h with ⟨_, d₁, hrealize, h⟩
  rcases bind_ok_iff.mp h with ⟨_, d₂, hremote, h⟩
  rcases bind_ok_iff.mp h with ⟨_, d₃, hmodules, h⟩
  rcases pure_ok_iff.mp h with ⟨-, rfl⟩
  rcases makeAndClone_ok hgit huri hclone with ⟨r₀, hr₀, hhead⟩
  rcases realizeCloneTarget_ok hgit hr₀ (fun _ => hhead) (wrap_ok_iff.mp hrealize)
    with ⟨r₁, hr₁, hchecked⟩
  rcases updateRemote_ok hgit hr₁ (wrap_ok_iff.mp hremote) with ⟨r₂, hr₂, hsame₂⟩
  rcases quiet_git hgit .submodules hr₂ with ⟨r₃, hr₃, hsame₃⟩
  have hdisk : (ws.updateSubmodules env d₂).2 = d₃ := by rw [attempt_ok_iff.mp hmodules]
  refine ⟨d₀, r₀, r₃, hclone, hr₀, ?_, checkedOut_of_sameHead hchecked (hsame₂.trans hsame₃)⟩
  rw [← hdisk]
  exact hr₃

/-- A location that is a working copy is left as it is. -/
theorem run_of_isWorkingCopy (h : isWorkingCopy d ws.location = true) :
    ws.run env d = (.ok .other, d) := by
  unfold GitInitializer.run
  change (ite (isWorkingCopy d ws.location = true) _ _ : Effect InitErr Disk Source) d = _
  rw [if_pos h]
  rfl

theorem source_of_run {src : Source} (h : ws.run env d = (.ok src, d')) : src = .other := by
  by_cases hcopy : isWorkingCopy d ws.location = true
  · rw [run_of_isWorkingCopy hcopy, Prod.mk.injEq, Except.ok.injEq] at h
    exact h.1.symm
  · unfold GitInitializer.run at h
    rcases bind_ok_iff.mp h with ⟨t, t', hget, h⟩
    rcases get_ok_iff.mp hget with ⟨rfl, rfl⟩
    rw [if_neg hcopy] at h
    rcases bind_ok_iff.mp h with ⟨_, d₀, -, h⟩
    rcases bind_ok_iff.mp h with ⟨_, d₁, -, h⟩
    rcases bind_ok_iff.mp h with ⟨_, d₂, -, h⟩
    rcases bind_ok_iff.mp h with ⟨_, d₃, -, h⟩
    exact (pure_ok_iff.mp h).1.symm

end Git

end Content

end Nxpod
