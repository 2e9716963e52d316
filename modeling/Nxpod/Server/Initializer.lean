import Nxpod.Content.Prebuild
import Nxpod.Server.ConfigProvider
import Nxpod.Server.GithubTree
import Nxpod.Server.OneTimeSecret

/-!
# From a Context to a Working Copy

The server turns the context of a workspace into a request, ws-sync makes an
initializer of the request, and Git runs in the workspace. What is checked out in
the end is what the context says, looked up in a fresh clone or, after a prebuild,
in what was fetched. Git is run with the token of the user for the host of the
repository, which comes to the workspace as a secret that is served once.

A context is a document, and the tests of its kind ask which fields it has. A field
that is there may still be empty.

## Main definitions

* `WorkspaceContext`: The fields of a context that are read.
* `Token`: What Git is told.
* `Workspace`: The identities of the owner are given by their providers.
* `createGitInitializer`, `createInitializer`: The request of the server.
* `Initializer.run`: What ws-sync runs.
* `Shows`, `Origin`: What the context says, and where it is looked up.
* `Opens`: What a successful initializer has done in the location of the working
  copy.
* `onlyWith`: Git that answers to certain credentials only.
* `Delivers`: The secret comes to the workspace as it was served.
* `Made`: The Git initializer that ws-sync makes for a context.

## Theorems

* `checkedOut_iff_shows`: The target of the request is that of the context.
* `Made.trusts`: Whose credentials the initializer of a request has.
* `opens_of_run`: What is there when an initializer has succeeded.
-/

namespace Nxpod

namespace Server

namespace WorkspaceStarter

open Effects Content.Git Content.Prebuild

/-! ## Contexts -/

/-- Of the parent of a fork, only the clone URL is read. -/
structure Repository where
  host : String
  name : String
  cloneUrl : String
  forkParent : Option String

/-- The fields that a context may have. Of `base`, only the clone URL is read. -/
structure WorkspaceContext where
  title : Option String
  repository : Option Repository
  revision : Option String
  ref : Option String
  refType : Option RefType
  nr : Option Nat
  base : Option String
  localBranch : Option String
  cloneUrl : Option String
  snapshotBucketId : Option String
  snapshotId : Option String
  prebuildWorkspaceId : Option String
  wasPrebuilt : Option Bool
  responseURL : Option String
  responseToken : Option String

namespace WorkspaceContext

/-- The tests of the kinds ask for fields and not for what is in them. -/
def isCommitContext (context : WorkspaceContext) : Bool :=
  context.title.isSome && context.repository.isSome && context.revision.isSome

/-- A commit with a number, a ref and a base. -/
def isPullRequestContext (context : WorkspaceContext) : Bool :=
  context.isCommitContext && context.nr.isSome && context.ref.isSome && context.base.isSome

/-- A commit with a number, a ref and a branch to be made. -/
def isIssueContext (context : WorkspaceContext) : Bool :=
  context.isCommitContext && context.nr.isSome && context.ref.isSome && context.localBranch.isSome

/-- A snapshot by its two names. -/
def isSnapshotContext (context : WorkspaceContext) : Bool :=
  context.snapshotBucketId.isSome && context.snapshotId.isSome

/-- A snapshot that is a prebuild's. -/
def isWithPrebuild (context : WorkspaceContext) : Bool :=
  context.snapshotBucketId.isSome && context.prebuildWorkspaceId.isSome &&
    context.wasPrebuilt.isSome

/-- A workspace that is only there to answer. -/
def isWorkspaceProbeContext (context : WorkspaceContext) : Bool :=
  context.responseURL.isSome && context.responseToken.isSome

end WorkspaceContext

/-- A reference without a type is a branch, as it was in former versions. -/
def getRefType (context : WorkspaceContext) : RefType :=
  match given context.ref with
  | none => .revision
  | some _ => context.refType.getD .branch

/-- The repository of which this is a fork, if it is another one. -/
def buildUpstreamCloneUrl (context : WorkspaceContext) (repository : Repository) :
    Option String :=
  let upstreamCloneUrl :=
    if context.isPullRequestContext then context.base else repository.forkParent
  if upstreamCloneUrl = some repository.cloneUrl then none else upstreamCloneUrl

/-! ## The request -/

/-- What Git is told. -/
structure Token where
  username : Option String
  value : String

/-- Whose token it is, for Git. -/
def Token.user (token : Token) : String :=
  (given token.username).getD "oauth2"

/-- What the server asks for a user: the provider of a host, the token for a host, which may be
    another one when it is asked again, and the URL under which a secret is served. -/
structure Services where
  authProviderId : String → Option String
  getTokenForHost : Nat → String → Except String Token
  serve : String → Except String String
  insecureNoDomain : Bool

/-- The identities of the owner are given by their providers. -/
structure Workspace where
  identities : List String
  config : WorkspaceConfig
  gitConfig : List (String × String)

/-- Only the context of an issue makes a branch. -/
def localBranchName (context : WorkspaceContext) : Option String :=
  if context.isIssueContext then given context.localBranch else none

/-- The mode of the clone target, and what is set for it. -/
def cloneTarget (context : WorkspaceContext) : CloneTargetMode × Option String :=
  match localBranchName context with
  | some branch => (.localBranch, some branch)
  | none =>
      if getRefType context = .tag then (.remoteCommit, context.revision)
      else match given context.ref with
        | some ref => (.remoteBranch, some ref)
        | none => match given context.revision with
          | some revision => (.remoteCommit, some revision)
          | none => (.remoteHead, none)

/-- The numbers of the protocol. -/
def modeNumber : CloneTargetMode → Int
  | .remoteHead => 0
  | .remoteCommit => 1
  | .remoteBranch => 2
  | .localBranch => 3

/-- Old contexts have the clone URL in a place of its own. -/
def cloneUrl (context : WorkspaceContext) (repository : Repository) : String :=
  (given (some repository.cloneUrl)).getD (context.cloneUrl.getD "")

/-- In an installation without a domain the secret cannot be downloaded, and the token is sent. -/
def gitConfig (services : Services) (workspace : Workspace) (host tokenOTS : String) :
    Except String GitConfig :=
  if services.insecureNoDomain then
    match services.getTokenForHost 1 host with
    | .error err => .error err
    | .ok token =>
        .ok ⟨workspace.gitConfig, gitAuthBasicAuth, token.user, token.value, tokenOTS⟩
  else .ok ⟨workspace.gitConfig, gitAuthBasicAuthOTS, "", "", tokenOTS⟩

/-- The secret of a user for a host, as the URL that serves it. -/
def serveToken (services : Services) (host : String) : Except String String :=
  match services.getTokenForHost 0 host with
  | .error err => .error err
  | .ok token => services.serve (OneTimeSecrets.secretOf token.user token.value)

/-- The user has to be known at the host of the repository and to have a token for it. -/
def createGitInitializer (services : Services) (workspace : Workspace)
    (context : WorkspaceContext) : Except String GitRequest :=
  match context.repository.filter fun _ => context.isCommitContext with
  | none => .error "Unknown workspace context"
  | some repository => match services.authProviderId repository.host with
    | none => .error s!"Cannot authorize with host: {repository.host}"
    | some authProviderId =>
        if authProviderId ∉ workspace.identities then .error "User is unauthorized!"
        else match serveToken services repository.host with
          -- whatever has failed, there is no token
          | .error _ => .error "User is unauthorized!"
          | .ok tokenOTS => match gitConfig services workspace repository.host tokenOTS with
            | .error err => .error err
            | .ok config => .ok
                { remoteUri := cloneUrl context repository
                  upstreamRemoteUri :=
                    (given (buildUpstreamCloneUrl context repository)).getD ""
                  targetMode := modeNumber (cloneTarget context).1
                  cloneTaget := (given (cloneTarget context).2).getD ""
                  checkoutLocation := checkoutLocation workspace.config repository.name
                  config := some config }

/-- The kinds are asked for in this order, so a context that is of two kinds is taken for the
    first. -/
def createInitializer (services : Services) (workspace : Workspace)
    (context : WorkspaceContext) : Except String Spec :=
  if context.isSnapshotContext then .ok (.snapshot ⟨context.snapshotBucketId.getD ""⟩)
  else if context.isWithPrebuild then
    if context.isCommitContext then
      match createGitInitializer services workspace context with
      | .error err => .error err
      | .ok git =>
          .ok (.prebuild (some ⟨some ⟨context.snapshotBucketId.getD ""⟩, some git⟩))
    else .error "context is not a commit context"
  else if context.isWorkspaceProbeContext then .ok .missing
  else if context.isCommitContext then
    match createGitInitializer services workspace context with
    | .error err => .error err
    | .ok git => .ok (.git (some git))
  else .error "cannot create initializer for unkown context type"

/-- What ws-sync runs. -/
def run (env : Content.Prebuild.Env) : Initializer → Effect InitErr Disk Source
  | .empty => pure .other
  | .git i => i.run env.toEnv
  | .snapshot i => i.run env
  | .prebuild i => i.run env

/-! ## What the context says -/

/-- What is checked out in the end, with the names of the context looked up in `base`. -/
def Shows (context : WorkspaceContext) (base r : Repo) : Prop :=
  match localBranchName context with
  | some branch => r.branch = some branch ∧ r.head = base.head
  | none => match given context.ref, getRefType context with
    | some _, .tag => ∀ c, base.rev (context.revision.getD "") = some c → r.head = some c
    | some ref, _ => r.branch = some ref ∧ r.head = base.rev ("origin/" ++ ref)
    | none, _ => match given context.revision with
      | some revision => ∀ c, base.rev revision = some c → r.head = some c
      | none => r.head = r.remoteHead

/-- The repository is a fresh clone of the URL, or has just been fetched. -/
inductive Origin (git : Command) (location : Path) (url : String) (base : Repo) : Prop
  | cloned (credentials : Option (String × String)) (args : List String) (d d₀ : Disk)
      (out : String) : git credentials location ("clone" :: url :: args) d = (.ok out, d₀) →
      repoAt d₀ location = some base → Origin git location url base
  | fetched (credentials : Option (String × String)) (d d₀ : Disk) (out : String) :
      git credentials location ["fetch"] d = (.ok out, d₀) →
      repoAt d₀ location = some base → Origin git location url base

/-- What a successful initializer has done in the location of the working copy. -/
inductive Opens (env : Content.Prebuild.Env) (context : WorkspaceContext) (loc location : Path)
    (url : String) (d d' : Disk) : Prop
  /-- There was a working copy, and it is as it was. -/
  | kept : context.isWithPrebuild = false → isWorkingCopy d location = true → d' = d →
      Opens env context loc location url d d'
  | shown (base r : Repo) : Origin env.git location url base → repoAt d' location = some r →
      Shows context base r → Opens env context loc location url d d'
  /-- The snapshot was restored, and has no repository there, or the context names nothing. -/
  | restored (src : Source) (d₁ : Disk) : context.isWithPrebuild = true →
      SnapshotInitializer.run env ⟨loc, context.snapshotBucketId.getD ""⟩ d = (.ok src, d₁) →
      repoAt d₁ location = none ∨ (cloneTarget context).1 = .remoteHead →
      Opens env context loc location url d d'

/-! ## Credentials -/

/-- Git, if it is run with certain credentials. -/
def onlyWith (credentials : String × String) (env : Content.Prebuild.Env) :
    Content.Prebuild.Env :=
  { env with
    git := fun credentials' location args d =>
      if credentials' = some credentials then env.git credentials' location args d
      else (.error ("", ""), d) }

/-- The client has these credentials, or none at all. -/
def Trusts (credentials : String × String) (c : Client) : Prop :=
  ∀ args cs, c.credentials args = .ok cs → cs = some credentials

/-- The secret comes to the workspace as it was served. A colon ends the name of the user. -/
structure Delivers (services : Services) (env : Content.Prebuild.Env) : Prop where
  secret : ∀ secret url args credentials, services.serve secret = .ok url →
    env.downloadOTS url args = .ok credentials → credentials = OneTimeSecrets.credentials secret
  username : ∀ n host token, services.getTokenForHost n host = .ok token →
    ':' ∉ token.user.toList

/-- What a snapshot that failed has left is all listed. -/
def ListsRest (env : Content.Prebuild.Env) (loc : Path) (context : WorkspaceContext) (d : Disk) :
    Prop :=
  ∀ err d₁, SnapshotInitializer.run env ⟨loc, context.snapshotBucketId.getD ""⟩ d =
    (.error err, d₁) → Lists env loc d₁

variable {services : Services} {workspace : Workspace} {context : WorkspaceContext}
  {env : Content.Prebuild.Env} {loc : Path} {d d' : Disk} {credentials : String × String}

section Client

variable {c : Client}

/-- A client that trusts only these credentials does not notice that there are no others. -/
theorem gitWithOutput_onlyWith (h : Trusts credentials c) (subcommand : String)
    (args : List String) : c.gitWithOutput (onlyWith credentials env).toEnv subcommand args =
      c.gitWithOutput env.toEnv subcommand args := by
  unfold Client.gitWithOutput
  cases hcs : c.credentials (subcommand :: args) with
  | error err => rfl
  | ok cs =>
      funext d
      simp only [onlyWith, h _ _ hcs, if_true]

theorem git_onlyWith (h : Trusts credentials c) (subcommand : String) (args : List String) :
    c.git (onlyWith credentials env).toEnv subcommand args =
      c.git env.toEnv subcommand args := by
  unfold Client.git
  rw [gitWithOutput_onlyWith h]

theorem clone_onlyWith (h : Trusts credentials c) :
    c.clone (onlyWith credentials env).toEnv = c.clone env.toEnv := by
  unfold Client.clone
  rw [git_onlyWith h]
  rfl

theorem updateRemote_onlyWith (h : Trusts credentials c) :
    c.updateRemote (onlyWith credentials env).toEnv = c.updateRemote env.toEnv := by
  unfold Client.updateRemote
  rw [git_onlyWith h, git_onlyWith h]

end Client

section Git

variable {ws : GitInitializer}

theorem realizeCloneTarget_onlyWith (h : Trusts credentials ws.toClient) :
    ws.realizeCloneTarget (onlyWith credentials env).toEnv =
      ws.realizeCloneTarget env.toEnv := by
  unfold GitInitializer.realizeCloneTarget
  rw [git_onlyWith h, git_onlyWith h, git_onlyWith h]

theorem gitRun_onlyWith (h : Trusts credentials ws.toClient) :
    ws.run (onlyWith credentials env).toEnv = ws.run env.toEnv := by
  have hmake : ws.makeAndClone (onlyWith credentials env).toEnv = ws.makeAndClone env.toEnv := by
    unfold GitInitializer.makeAndClone
    rw [clone_onlyWith h]
    rfl
  have hmodules : ws.updateSubmodules (onlyWith credentials env).toEnv =
      ws.updateSubmodules env.toEnv := by
    unfold Client.updateSubmodules
    rw [git_onlyWith h]
  unfold GitInitializer.run
  rw [hmake, realizeCloneTarget_onlyWith h, updateRemote_onlyWith h, hmodules]

end Git

theorem clearWorkspace_onlyWith (location : Path) :
    clearWorkspace (onlyWith credentials env) location = clearWorkspace env location := by
  have heach : ∀ files, removeEach (onlyWith credentials env) files = removeEach env files := by
    intro files
    induction files with
    | nil => rfl
    | cons file files ih =>
        rw [removeEach, removeEach, ih]
        rfl
  unfold clearWorkspace
  simp only [heach]
  rfl

/-- Restoring a snapshot does not run Git. -/
theorem snapshotRun_onlyWith (s : SnapshotInitializer) :
    s.run (onlyWith credentials env) = s.run env := rfl

theorem prebuiltRun_onlyWith {p : PrebuildInitializer} (h : Trusts credentials p.git.toClient) :
    p.run (onlyWith credentials env) = p.run env := by
  have hstash : p.stashAndFetch (onlyWith credentials env) = p.stashAndFetch env := by
    unfold PrebuildInitializer.stashAndFetch PrebuildInitializer.stash Client.fetch
    rw [gitWithOutput_onlyWith h, git_onlyWith h]
  have hprebuilt : p.prebuilt (onlyWith credentials env) = p.prebuilt env := by
    unfold PrebuildInitializer.prebuilt PrebuildInitializer.updateWorkingCopy
    rw [hstash, realizeCloneTarget_onlyWith h, git_onlyWith h]
  unfold PrebuildInitializer.run
  rw [hprebuilt, gitRun_onlyWith h]
  simp only [snapshotRun_onlyWith, clearWorkspace_onlyWith]
  rfl

/-! ## The initializer of a request -/

/-- An empty text is as good as none where a text is sent. -/
theorem getD_given (text : Option String) : (given text).getD "" = text.getD "" := by
  cases text with
  | none => rfl
  | some s =>
      by_cases hs : s = ""
      · rw [hs]
        rfl
      · rw [given, Option.filter_some, if_pos (decide_eq_true hs)]

theorem targetModeOf_modeNumber (mode : CloneTargetMode) :
    targetModeOf (modeNumber mode) = some mode := by
  cases mode <;> rfl

/-- The Git initializer that ws-sync makes for a context. -/
structure Made (services : Services) (workspace : Workspace) (context : WorkspaceContext)
    (env : Content.Prebuild.Env) (loc : Path) (repository : Repository) (ws : GitInitializer) :
    Prop where
  location : ws.location = loc.join (checkoutLocation workspace.config repository.name)
  remoteURI : ws.remoteURI = cloneUrl context repository
  targetMode : ws.targetMode = (cloneTarget context).1
  cloneTarget : ws.cloneTarget = (cloneTarget context).2.getD ""
  config : ∃ tokenOTS config, serveToken services repository.host = .ok tokenOTS ∧
    gitConfig services workspace repository.host tokenOTS = .ok config ∧
      ws.authMethod = .basicAuth ∧ ws.authProvider = some (authProvider env config)

theorem authentication_gitConfig {host tokenOTS : String} {config : GitConfig}
    (h : gitConfig services workspace host tokenOTS = .ok config) :
    config.authentication ≠ gitAuthNoAuth := by
  unfold gitConfig at h
  split_ifs at h
  · split at h
    · cases h
    · cases h
      exact (by decide : gitAuthBasicAuth ≠ gitAuthNoAuth)
  · cases h
    exact (by decide : gitAuthBasicAuthOTS ≠ gitAuthNoAuth)

/-- What ws-sync makes of the request has what the server has put into it. -/
theorem made_of_newGitInitializer {repository : Repository} {req : GitRequest}
    {ws : GitInitializer} (hrepo : context.repository = some repository)
    (hcommit : context.isCommitContext = true)
    (hreq : createGitInitializer services workspace context = .ok req)
    (hnew : newGitInitializer env loc req = .ok ws) :
    Made services workspace context env loc repository ws := by
  unfold createGitInitializer at hreq
  rw [hrepo, Option.filter_some, if_pos hcommit] at hreq
  dsimp only at hreq
  split at hreq
  · cases hreq
  · split_ifs at hreq
    split at hreq
    · cases hreq
    · next tokenOTS htoken =>
        split at hreq
        · cases hreq
        · next config hconfig =>
            cases hreq
            unfold newGitInitializer at hnew
            dsimp only at hnew
            rw [targetModeOf_modeNumber] at hnew
            cases hnew
            exact
              { location := rfl
                remoteURI := rfl
                targetMode := rfl
                cloneTarget := getD_given _
                config := ⟨tokenOTS, config, htoken, hconfig,
                  if_neg (authentication_gitConfig hconfig), rfl⟩ }

/-- What the server sends for the credentials is, in the end, a token of the user. -/
theorem Made.trusts {repository : Repository} {ws : GitInitializer}
    (h : Made services workspace context env loc repository ws)
    (hdelivers : Delivers services env) :
    ∃ n token, services.getTokenForHost n repository.host = .ok token ∧
      Trusts (token.user, token.value) ws.toClient := by
  rcases h.config with ⟨tokenOTS, config, htoken, hconfig, hmethod, hprovider⟩
  have hcredentials : ∀ args, ws.toClient.credentials args =
      (authProvider env config args).map some := by
    intro args
    rw [Client.credentials, hmethod, hprovider]
  unfold gitConfig at hconfig
  split_ifs at hconfig
  · split at hconfig
    · cases hconfig
    · next token hget =>
        cases hconfig
        refine ⟨1, token, hget, fun args cs hcs => ?_⟩
        rw [hcredentials] at hcs
        cases hcs
        rfl
  · cases hconfig
    unfold serveToken at htoken
    split at htoken
    · cases htoken
    · next token hget =>
        refine ⟨0, token, hget, fun args cs hcs => ?_⟩
        have hne : ¬gitAuthBasicAuthOTS = gitAuthBasicAuth := by decide
        rw [hcredentials, authProvider] at hcs
        -- the secret is downloaded, or there is an error
        cases hdownload : env.downloadOTS tokenOTS args with
        | error err =>
            rw [if_neg hne, if_pos rfl, hdownload] at hcs
            cases hcs
        | ok credentials =>
            rw [if_neg hne, if_pos rfl, hdownload] at hcs
            cases hcs
            rw [hdelivers.secret _ _ _ _ htoken hdownload,
              OneTimeSecrets.credentials_eq (hdelivers.username 0 repository.host token hget)]

/-- The target of the request is what the context names. -/
theorem checkedOut_iff_shows {ws : GitInitializer}
    (hmode : ws.targetMode = (cloneTarget context).1)
    (htarget : ws.cloneTarget = (cloneTarget context).2.getD "") (base r : Repo) :
    ws.CheckedOut base r ↔ Shows context base r := by
  unfold GitInitializer.CheckedOut Shows
  rw [hmode, htarget]
  unfold cloneTarget getRefType
  cases localBranchName context with
  | some branch => exact Iff.rfl
  | none =>
      cases given context.ref with
      | none =>
          have hne : ¬RefType.revision = RefType.tag := by decide
          rw [if_neg hne]
          cases given context.revision with
          | none => exact Iff.rfl
          | some revision => exact Iff.rfl
      | some ref =>
          dsimp only
          cases context.refType.getD .branch with
          | tag => exact Iff.rfl
          | branch => exact Iff.rfl
          | revision => exact Iff.rfl

/-! ## What is there in the end -/

/-- A clone was made of the URL. -/
theorem origin_of_makeAndClone {ws : GitInitializer} {d₀ : Disk} {r₀ : Repo}
    (h : ws.makeAndClone env.toEnv d = (.ok (), d₀)) (hr₀ : repoAt d₀ ws.location = some r₀) :
    Origin env.git ws.location ws.remoteURI r₀ := by
  unfold GitInitializer.makeAndClone Client.clone at h
  rcases bind_ok_iff.mp h with ⟨_, t, -, hclone⟩
  rcases bind_ok_iff.mp (wrap_ok_iff.mp hclone) with ⟨_, t', -, hrun⟩
  rcases git_ok hrun with ⟨credentials, out, hrun⟩
  exact .cloned credentials _ t' d₀ out hrun hr₀

theorem origin_of_stashAndFetch {p : PrebuildInitializer} {didStash : Bool} {d₀ : Disk}
    {r₀ : Repo} (url : String) (h : p.stashAndFetch env d = (.ok didStash, d₀))
    (hr₀ : repoAt d₀ p.git.location = some r₀) : Origin env.git p.git.location url r₀ := by
  unfold PrebuildInitializer.stashAndFetch at h
  rcases bind_ok_iff.mp h with ⟨_, t, -, h⟩
  rcases bind_ok_iff.mp h with ⟨_, t', hfetch, h⟩
  rcases pure_ok_iff.mp h with ⟨-, rfl⟩
  rcases git_ok (wrap_ok_iff.mp hfetch) with ⟨credentials, out, hrun⟩
  exact .fetched credentials t t' out hrun hr₀

/-- What is checked out after a clone is what the context says. -/
theorem shown_of_gitRun {ws : GitInitializer} {repository : Repository} {src : Source}
    (hgit : LawfulGit env.git) (hmade : Made services workspace context env loc repository ws)
    (huri : (cloneUrl context repository).toList.head? ≠ some '-')
    {dm : Disk} (hnot : isWorkingCopy dm ws.location = false)
    (hrun : ws.run env.toEnv dm = (.ok src, d')) :
    Opens env context loc ws.location (cloneUrl context repository) d d' := by
  rw [← hmade.remoteURI] at huri ⊢
  rcases checkedOut_of_run hgit huri hnot hrun with ⟨d₀, r₀, r, hclone, hr₀, hr, hchecked⟩
  exact .shown r₀ r (origin_of_makeAndClone hclone hr₀) hr
    ((checkedOut_iff_shows hmade.targetMode hmade.cloneTarget r₀ r).mp hchecked)

theorem opens_of_prebuiltRun {p : PrebuildInitializer} {repository : Repository} {src : Source}
    (hgit : LawfulGit env.git) (hlists : ListsRest env loc context d)
    (hmade : Made services workspace context env loc repository p.git)
    (hprebuild : p.prebuild = some ⟨loc, context.snapshotBucketId.getD ""⟩)
    (hwith : context.isWithPrebuild = true)
    (huri : (cloneUrl context repository).toList.head? ≠ some '-')
    (hinside : loc <+: p.git.location) (hrun : p.run env d = (.ok src, d')) :
    Opens env context loc p.git.location (cloneUrl context repository) d d' := by
  rcases run_cases hrun with ⟨d₁, hrestored, hprebuilt⟩ | ⟨s, err, d₁, d₂, hs, hfailed, hclear, h⟩
  · rw [PrebuildInitializer.Restored, hprebuild] at hrestored
    rcases hrestored with ⟨src', hsnapshot⟩
    by_cases hmode : (cloneTarget context).1 = .remoteHead
    · exact .restored src' d₁ hwith hsnapshot (.inr hmode)
    · cases hr₁ : repoAt d₁ p.git.location with
      | none => exact .restored src' d₁ hwith hsnapshot (.inl hr₁)
      | some r₁ =>
          have hdone := (prebuilt_ok hprebuilt).2
          rw [if_pos (isWorkingCopy_of_repoAt hr₁)] at hdone
          rw [← hmade.targetMode] at hmode
          rcases updateWorkingCopy_ok hgit hr₁ hmode hdone
            with ⟨didStash, d₀, r₀, r, hfetched, hr₀, hr, hchecked⟩
          exact .shown r₀ r (origin_of_stashAndFetch _ hfetched hr₀) hr
            ((checkedOut_iff_shows hmade.targetMode hmade.cloneTarget r₀ r).mp hchecked)
  · -- what was restored is deleted before the clone
    cases hprebuild.symm.trans hs
    have hcleared := clearWorkspace_ok (hlists err d₁ hfailed) hclear
    exact shown_of_gitRun hgit hmade huri (not_isWorkingCopy_of_cleared hcleared hinside) h

theorem opens_of_git (hgit : LawfulGit env.git) (hdelivers : Delivers services env)
    {repository : Repository} (hrepo : context.repository = some repository)
    (hcommit : context.isCommitContext = true) (hwith : context.isWithPrebuild = false)
    (huri : (cloneUrl context repository).toList.head? ≠ some '-') {req : GitRequest}
    {ws : GitInitializer} {src : Source}
    (hreq : createGitInitializer services workspace context = .ok req)
    (hnew : newGitInitializer env loc req = .ok ws) (hrun : run env (.git ws) d = (.ok src, d')) :
    (∃ n token, services.getTokenForHost n repository.host = .ok token ∧
      run (onlyWith (token.user, token.value) env) (.git ws) = run env (.git ws)) ∧
    Opens env context loc (loc.join (checkoutLocation workspace.config repository.name))
      (cloneUrl context repository) d d' := by
  have hmade := made_of_newGitInitializer hrepo hcommit hreq hnew
  have hgitRun : ws.run env.toEnv d = (.ok src, d') := hrun
  rcases hmade.trusts hdelivers with ⟨n, token, htoken, htrusts⟩
  refine ⟨⟨n, token, htoken, gitRun_onlyWith htrusts⟩, ?_⟩
  rw [← hmade.location]
  by_cases hcopy : isWorkingCopy d ws.location = true
  · rw [run_of_isWorkingCopy hcopy] at hgitRun
    exact .kept hwith hcopy (Prod.mk.inj hgitRun).2.symm
  · exact shown_of_gitRun hgit hmade huri (Bool.eq_false_iff.mpr hcopy) hgitRun

/-- When the initializer that the server has asked for succeeds, the working copy shows what the
    context says, unless it was there before or came with a snapshot that has none. Git was run
    with a token of the user for the host, or not at all. Server and ws-sync are two programs
    that know of each other only through the request between them: this is what the user gets
    who opens a context. -/
theorem opens_of_run (hgit : LawfulGit env.git) (hlists : ListsRest env loc context d)
    (hdelivers : Delivers services env) {repository : Repository}
    (hrepo : context.repository = some repository)
    (hcommit : context.isCommitContext = true) (hsnapshot : context.isSnapshotContext = false)
    (hprobe : context.isWorkspaceProbeContext = false)
    (huri : (cloneUrl context repository).toList.head? ≠ some '-')
    (hinside : loc <+: loc.join (checkoutLocation workspace.config repository.name))
    {spec : Spec} {init : Initializer} {src : Source}
    (hspec : createInitializer services workspace context = .ok spec)
    (hinit : newFromRequest env loc spec = .ok init) (hrun : run env init d = (.ok src, d')) :
    (∃ n token, services.getTokenForHost n repository.host = .ok token ∧
      run (onlyWith (token.user, token.value) env) init = run env init) ∧
    Opens env context loc (loc.join (checkoutLocation workspace.config repository.name))
      (cloneUrl context repository) d d' := by
  unfold createInitializer at hspec
  rw [if_neg (Bool.eq_false_iff.mp hsnapshot), if_pos hcommit,
    if_neg (Bool.eq_false_iff.mp hprobe), if_pos hcommit] at hspec
  split_ifs at hspec with hwith
  · split at hspec
    · cases hspec
    · next req hreq =>
        cases hspec
        rw [newFromRequest] at hinit
        dsimp only at hinit
        split at hinit
        · cases hinit
        · next ws hnew =>
            cases hinit
            have hmade := made_of_newGitInitializer hrepo hcommit hreq hnew
            rcases hmade.trusts hdelivers with ⟨n, token, htoken, htrusts⟩
            let p : PrebuildInitializer := ⟨ws, some ⟨loc, context.snapshotBucketId.getD ""⟩⟩
            have hprebuilt : p.run env d = (.ok src, d') := hrun
            refine ⟨⟨n, token, htoken, prebuiltRun_onlyWith (p := p) htrusts⟩, ?_⟩
            rw [← hmade.location] at hinside ⊢
            exact opens_of_prebuiltRun (p := p) hgit hlists hmade rfl hwith huri hinside hprebuilt
  · split at hspec
    · cases hspec
    · next req hreq =>
        cases hspec
        rw [newFromRequest] at hinit
        split at hinit
        · cases hinit
        · next ws hnew =>
            cases hinit
            exact opens_of_git hgit hdelivers hrepo hcommit (Bool.eq_false_iff.mpr hwith) huri hreq
              hnew hrun

/-! ## A prebuild of one branch -/

/-- One token, and one URL that serves it. -/
def oneToken : Services where
  authProviderId _ := some "Public-GitHub"
  getTokenForHost _ _ := .ok ⟨none, "token"⟩
  serve secret :=
    if secret = "oauth2:token" then .ok "https://nxpod.io/api/ots/get/1" else .error "not served"
  insecureNoDomain := false

/-- A server that has the token. -/
def oneSecret : Content.Prebuild.Env :=
  { twoSnapshots with downloadOTS := fun _ _ => .ok ("oauth2", "token") }

theorem delivers_oneToken : Delivers oneToken oneSecret where
  secret secret url args credentials hserve hdownload := by
    rw [← Except.ok.inj hdownload]
    unfold oneToken at hserve
    dsimp only at hserve
    split_ifs at hserve with hsecret
    rw [hsecret]
    rfl
  username n host token htoken := by
    rw [← Except.ok.inj htoken]
    decide

/-- A repository that is no fork. -/
def prebuiltRepository : Repository where
  host := "github.com"
  name := "repo"
  cloneUrl := "https://github.com/khulnasoft/nxpod"
  forkParent := none

/-- A branch of which there is a prebuild. -/
def prebuiltContext : WorkspaceContext where
  title := some "main"
  repository := some prebuiltRepository
  revision := some "3c4d"
  ref := some "main"
  refType := some .branch
  nr := none
  base := none
  localBranch := none
  cloneUrl := none
  snapshotBucketId := some "working-copy@bucket"
  snapshotId := none
  prebuildWorkspaceId := some "prebuild"
  wasPrebuilt := some true
  responseURL := none
  responseToken := none

/-- A user who is known at the host. -/
def owned : Workspace := ⟨["Public-GitHub"], ⟨none, none⟩, []⟩

/-- What the request has for him. -/
def servedConfig : GitConfig :=
  ⟨[], gitAuthBasicAuthOTS, "", "", "https://nxpod.io/api/ots/get/1"⟩

/-- The request. -/
def prebuiltSpec : Spec :=
  .prebuild (some
    { prebuild := some ⟨"working-copy@bucket"⟩
      git := some
        { remoteUri := "https://github.com/khulnasoft/nxpod"
          upstreamRemoteUri := ""
          targetMode := 2
          cloneTaget := "main"
          checkoutLocation := "repo"
          config := some servedConfig } })

/-- What is made of it. -/
def prebuiltInitializer : Initializer :=
  .prebuild
    { git :=
        { (prebuildInitializer "working-copy@bucket").git with
          authMethod := .basicAuth
          authProvider := some (authProvider oneSecret servedConfig) }
      prebuild := some ⟨["ws"], "working-copy@bucket"⟩ }

theorem opens_prebuilt : ∃ d',
    createInitializer oneToken owned prebuiltContext = .ok prebuiltSpec ∧
      newFromRequest oneSecret ["ws"] prebuiltSpec = .ok prebuiltInitializer ∧
        run oneSecret prebuiltInitializer (fun _ => none) = (.ok .prebuild, d') ∧
          Opens oneSecret prebuiltContext ["ws"] ["ws", "repo"]
            "https://github.com/khulnasoft/nxpod" (fun _ => none) d' := by
  have hlists : ListsRest oneSecret ["ws"] prebuiltContext fun _ => none := by
    intro err d₁ h
    cases (Prod.mk.inj h).1
  have hspec : createInitializer oneToken owned prebuiltContext = .ok prebuiltSpec := rfl
  have hinit : newFromRequest oneSecret ["ws"] prebuiltSpec = .ok prebuiltInitializer := rfl
  have hrun : run oneSecret prebuiltInitializer (fun _ => none) =
      (.ok .prebuild, (run oneSecret prebuiltInitializer fun _ => none).2) := Prod.ext rfl rfl
  exact ⟨_, hspec, hinit, hrun, (opens_of_run lawful_mainGit hlists delivers_oneToken rfl rfl rfl
    rfl (by decide) ⟨["repo"], rfl⟩ hspec hinit hrun).2⟩

end WorkspaceStarter

end Server

end Nxpod
