import Nxpod.Library.Map
import Nxpod.WsSync.StateFile

/-!
# Initializing a Workspace

`InitWorkspace` checks the request, looks for the container of a workspace with a
full backup, creates the workspace in the store, initializes its content and
marks it as done. Any of this can fail, and whatever has failed, a deferred
function then deletes the workspace of this ID from the store, unless the
answer is that it exists already.

The clean-up does not ask whose workspace it deletes: a request that was
rejected before the store was looked at removes the workspace that was there.
And it can fail itself. `Dispose` first removes the state file, which a
workspace has only from `MarkInitDone` on, so a workspace whose content could
not be initialized stays in the store, and the next request is told that it
exists already.

What the request meets outside the store is given: the container runtime, the
sandbox, the lifecycle hooks, the content initializer and the files.

## Main definitions

* `Code`: The codes of gRPC that are used here.
* `Status`: An error with its code, which the clean-up asks for.
* `Outcome`: What a function of Go ends with.
* `Metadata`: Who the workspace belongs to.
* `Request`, `Env`, `Store`: What comes in, what is outside, and what is kept.
* `Workspace`: What the store keeps of a workspace.
* `InitializerError`: `NewFromRequest` returns errors of gRPC.
* `Store.newWorkspace`, `Store.delete`: The operations of the store.
* `markInitDone`, `dispose`: The functions of a workspace that are called.
* `initWorkspace`: A request from its checks to its clean-up.
* `Restores`: When the clean-up leaves what was there.
* `Handled`: What a request ends with before the clean-up, and why.

## Theorems

* `checkRequest_eq_ok_iff`: The requests that are not rejected.
* `lookup_delete`: What deleting a workspace leaves.
* `handled_handle`: How a request is handled before the clean-up.
* `restored_iff`: When a failed request leaves the store as it was.
-/

namespace Nxpod

namespace WsSync

namespace Session

/-- The codes of gRPC that are used here. -/
inductive Code
  | invalidArgument
  | failedPrecondition
  | alreadyExists
  | internal
  | unknown
  deriving DecidableEq

/-- An error with its code, which the clean-up asks for. -/
structure Status where
  code : Code
  message : String
  deriving DecidableEq

/-- What a function of Go ends with. -/
inductive Outcome (α : Type)
  | ok (a : α)
  | error (status : Status)
  | panicked
  deriving DecidableEq

/-- Who the workspace belongs to. -/
structure Metadata where
  owner : String
  metaId : String
  deriving DecidableEq

/-- The initializer of a request, as far as it has a checkout location. -/
inductive InitializerSpec
  | git (checkoutLocation : Option String)
  | prebuild (git : Option (Option String))
  | other
  deriving DecidableEq

/-- What is asked for. -/
structure Request where
  id : String
  metadata : Option Metadata
  fullWorkspaceBackup : Bool
  contentManifest : String
  initializer : Option InitializerSpec
  deriving DecidableEq

/-- What the store keeps of a workspace. -/
structure Workspace where
  location : String
  upperdirLocation : String
  checkoutLocation : String
  owner : String
  workspaceID : String
  instanceID : String
  fullWorkspaceBackup : Bool
  contentManifest : String
  state : WorkspaceState
  deriving DecidableEq

/-- The workspaces by their IDs, and whether an instance has a state file. -/
structure Store where
  workspaces : Map String Workspace
  stateFile : String → Bool

/-- `NewFromRequest` returns errors of gRPC. -/
inductive InitializerError
  | invalidArgument (message : String)
  | internal (message : String)

/-- The code an error of the initializer is given. -/
def InitializerError.status : InitializerError → Status
  | .invalidArgument message => ⟨.invalidArgument, message⟩
  | .internal message => ⟨.internal, message⟩

/-- What a request meets. `join` is `filepath.Join` and `unmarshal` the error of
    `json.Unmarshal`, if there is one. -/
structure Env where
  location : String
  join : String → String → String
  connected : Bool
  unmarshal : String → Option String
  waitForContainer : String → Except String String
  containerUpperdir : String → Except String String
  workspaceSizeLimit : Nat
  sandboxCreated : Bool
  mountPointCreated : Bool
  sandboxMounted : Bool
  initializingHooks : Option String
  hasRemoteStorage : Bool
  newFromRequest : Option InitializerError
  initializeWorkspace : Option String
  firstPersist : WriteOutcome
  readyHooks : Option String
  secondPersist : WriteOutcome
  writeError : String
  stateFileRemoved : Bool
  contentRemoved : Bool
  removeError : String

namespace Store

/-- A workspace is entered under its ID. -/
def put (st : Store) (name : String) (w : Workspace) : Store :=
  { st with workspaces := st.workspaces.insert name w }

/-- The state file is there, or it is not. -/
def setStateFile (st : Store) (instanceID : String) (there : Bool) : Store :=
  { st with stateFile := Function.update st.stateFile instanceID there }

/-- A write that fails before the file is opened leaves it as it was. -/
def persist (st : Store) (w : Workspace) : WriteOutcome → Store
  | .failed => st
  | .written | .torn => st.setStateFile w.instanceID true

end Store

/-- `MarkInitDone` of the workspace that is stored under this name. -/
def markInitDone (env : Env) (st : Store) (name : String) (w : Workspace) :
    Option String × Store :=
  let persisted := st.persist w env.firstPersist
  if env.firstPersist ≠ .written then
    (some ("cannot mark init done: cannot persist workspace: " ++ env.writeError), persisted)
  else
    let ready := persisted.put name { w with state := .ready }
    match env.readyHooks with
    | some err => (some err, ready)
    | none =>
      if env.secondPersist ≠ .written then
        (some ("cannot mark init done: cannot persist workspace: " ++ env.writeError),
          ready.persist w env.secondPersist)
      else (none, ready.persist w .written)

/-- `Dispose` of the workspace that is stored under this name. -/
def dispose (env : Env) (st : Store) (name : String) (w : Workspace) : Option String × Store :=
  if st.stateFile w.instanceID && env.stateFileRemoved then
    -- there are no lifecycle hooks for a workspace that is disposed of
    let disposed :=
      (st.setStateFile w.instanceID false).put name { w with state := .disposed }
    if w.fullWorkspaceBackup || env.contentRemoved then (none, disposed)
    else (some ("cannot remove workspace: " ++ env.removeError), disposed)
  else (some ("cannot remove workspace: " ++ env.removeError), st)

namespace Store

/-- A workspace is disposed of and then taken out. If the first fails it stays
    in. -/
def delete (env : Env) (st : Store) (name : String) : Option String × Store :=
  match st.workspaces.lookup name with
  | none => (none, st)
  | some w => match dispose env st name w with
    | (some err, st') => (some ("cannot delete session: " ++ err), st')
    | (none, st') => (none, { st' with workspaces := st'.workspaces.erase name })

/-- What can come of making a workspace. -/
inductive NewWorkspaceResult
  | alreadyExists
  | failed (status : Status)
  | panicked
  | created (w : Workspace) (st : Store)

/-- A workspace that is there is not replaced. A new one is entered when its
    hooks have run. -/
def newWorkspace (env : Env) (st : Store) (instanceID location : String)
    (create : String → Outcome Workspace) : NewWorkspaceResult :=
  match st.workspaces.lookup instanceID with
  | some _ => .alreadyExists
  | none => match create location with
    | .error status => .failed status
    | .panicked => .panicked
    | .ok created =>
      let w := { created with state := .initializing }
      match env.initializingHooks with
      | some err => .failed ⟨.unknown, err⟩
      | none => .created w (st.put instanceID w)

end Store

/-- A sandbox with a limit, unless none was configured or the workspace has a
    full backup. -/
def createSandbox (env : Env) (req : Request) : Option Status :=
  if env.workspaceSizeLimit = 0 then none
  else if req.fullWorkspaceBackup then none
  else if !env.sandboxCreated then some ⟨.internal, "cannot create sandbox"⟩
  else if !env.mountPointCreated then some ⟨.internal, "cannot create workspace"⟩
  else if !env.sandboxMounted then some ⟨.internal, "cannot mount sandbox"⟩
  else none

/-- A request without initializer is a nil pointer here. -/
def getCheckoutLocation (req : Request) : Option String :=
  req.initializer.map fun spec => match spec with
    | .git (some location) | .prebuild (some (some location)) => location
    | .git none | .prebuild none | .prebuild (some none) | .other => ""

/-- A workspace is made of the request and of where it was found. -/
def creator (env : Env) (req : Request) (md : Metadata) (upperdir location : String) :
    Outcome Workspace :=
  match createSandbox env req with
  | some status => .error status
  | none => match getCheckoutLocation req with
    | none => .panicked
    | some checkoutLocation => .ok {
        location := location
        upperdirLocation := upperdir
        checkoutLocation := checkoutLocation
        owner := md.owner
        workspaceID := md.metaId
        instanceID := req.id
        fullWorkspaceBackup := req.fullWorkspaceBackup
        contentManifest := req.contentManifest
        state := .initializing }

/-- The checks before the store is looked at. They give the location of the
    workspace and the upperdir of its container. -/
def checkRequest (env : Env) (req : Request) : Except Status (Metadata × String × String) :=
  if req.id = "" then .error ⟨.invalidArgument, "ID is required"⟩
  else match req.metadata with
    | none => .error ⟨.invalidArgument, "metadata is missing"⟩
    | some md =>
      if req.fullWorkspaceBackup then
        if !env.connected then
          .error ⟨.failedPrecondition, "full workspace backup is not available - " ++
            "not connected to container runtime"⟩
        else if req.contentManifest = "" then
          .error ⟨.invalidArgument, "content manifest is required"⟩
        else match env.unmarshal req.contentManifest with
          | some err => .error ⟨.invalidArgument, "invalid content manifest: " ++ err⟩
          | none => match env.waitForContainer req.id with
            | .error err => .error ⟨.internal, "cannot find workspace container: " ++ err⟩
            | .ok wscont => match env.containerUpperdir wscont with
              | .error err => .error ⟨.internal, "cannot find workspace upperdir: " ++ err⟩
              | .ok upperdir => .ok (md, "", upperdir)
      else .ok (md, env.join env.location req.id, "")

/-- The content of a workspace with a full backup is not initialized here. -/
def initializeContent (env : Env) (req : Request) : Option Status :=
  if !env.hasRemoteStorage then some ⟨.internal, "workspace has no remote storage"⟩
  else if req.fullWorkspaceBackup then none
  else match env.newFromRequest with
    | some err => some err.status
    | none => env.initializeWorkspace.map fun err =>
        ⟨.internal, "cannot initialize workspace: " ++ err⟩

/-- A request without the deferred clean-up. -/
def handle (env : Env) (st : Store) (req : Request) : Outcome Unit × Store :=
  match checkRequest env req with
  | .error status => (.error status, st)
  | .ok (md, wsloc, upperdir) =>
    match st.newWorkspace env req.id wsloc (creator env req md upperdir) with
    | .alreadyExists => (.error ⟨.alreadyExists, "workspace exists already"⟩, st)
    | .failed status => (.error status, st)
    | .panicked => (.panicked, st)
    | .created w st' => match initializeContent env req with
      | some status => (.error status, st')
      | none => match markInitDone env st' req.id w with
        | (some err, st'') =>
            (.error ⟨.internal, "cannot finish workspace init: " ++ err⟩, st'')
        | (none, st'') => (.ok (), st'')

/-- The deferred clean-up. Its own error is dropped, as there is another one. -/
def cleanUp (env : Env) (name : String) : Outcome Unit × Store → Outcome Unit × Store
  | (.error status, st) =>
      if status.code = .alreadyExists then (.error status, st)
      else (.error status, (st.delete env name).2)
  | result => result

/-- The request is handled, and whatever comes of it goes through the clean-up. -/
def initWorkspace (env : Env) (st : Store) (req : Request) : Outcome Unit × Store :=
  cleanUp env req.id (handle env st req)

/-- After any other error the workspace of this ID is deleted. -/
theorem cleanUp_of_code_ne {env : Env} {name : String} {status : Status} {st : Store}
    (h : status.code ≠ .alreadyExists) :
    cleanUp env name (.error status, st) = (.error status, (st.delete env name).2) :=
  if_neg h

/-! ## When the store is left as it was -/

/-- The container of the workspace is found, and the manifest can be read. -/
def ContainerFound (env : Env) (req : Request) : Prop :=
  env.connected = true ∧ req.contentManifest ≠ "" ∧ env.unmarshal req.contentManifest = none ∧
    ∃ wscont upperdir, env.waitForContainer req.id = .ok wscont ∧
      env.containerUpperdir wscont = .ok upperdir

/-- The request is turned down before the store is looked at. -/
def Rejected (env : Env) (req : Request) : Prop :=
  req.id = "" ∨ req.metadata = none ∨ req.fullWorkspaceBackup = true ∧ ¬ ContainerFound env req

/-- The workspace can be created: its sandbox, and what the hooks set up. -/
def Creatable (env : Env) (req : Request) : Prop :=
  createSandbox env req = none ∧ env.initializingHooks = none

/-- The workspace that was created has a state file when it is cleaned up: an old
    one of this ID, or the one that `MarkInitDone` writes first. -/
def LeavesStateFile (env : Env) (st : Store) (req : Request) : Prop :=
  st.stateFile req.id = true ∨
    initializeContent env req = none ∧ env.firstPersist ≠ .failed

/-- The clean-up leaves what was there before the request. A workspace that was
    there stays if the request is not rejected, if its state file cannot be
    removed, or if it is disposed of and its content cannot be removed. One that
    was created is gone if its state file was there and both can be removed. -/
def Restores (env : Env) (st : Store) (req : Request) : Prop :=
  match st.workspaces.lookup req.id with
  | some w => Rejected env req → (st.stateFile w.instanceID = true → env.stateFileRemoved = true →
      w.state = .disposed ∧ w.fullWorkspaceBackup = false ∧ env.contentRemoved = false)
  | none => ¬ Rejected env req → Creatable env req → LeavesStateFile env st req ∧
      env.stateFileRemoved = true ∧ (req.fullWorkspaceBackup = true ∨ env.contentRemoved = true)

variable {env : Env} {st : Store} {req : Request}

/-- The checks are those before the store is looked at. -/
theorem checkRequest_eq_ok_iff :
    (∃ p, checkRequest env req = .ok p) ↔ ¬ Rejected env req := by
  unfold checkRequest Rejected ContainerFound
  by_cases hid : req.id = ""
  · rw [if_pos hid]
    exact iff_of_false nofun (fun h => h (Or.inl hid))
  · rw [if_neg hid]
    cases hmd : req.metadata with
    | none =>
        exact iff_of_false nofun (fun h => h (Or.inr (Or.inl rfl)))
    | some md =>
        cases hfwb : req.fullWorkspaceBackup with
        | false => simp only [Bool.false_eq_true, if_false, Except.ok.injEq, exists_eq', hid,
            reduceCtorEq, false_and, or_self, not_false_eq_true]
        | true =>
            cases hconnected : env.connected with
            | false => simp only [Bool.not_false, if_true, reduceCtorEq, exists_false, hid,
                Bool.false_eq_true, false_and, not_false_eq_true, and_self, or_true, not_true]
            | true =>
                by_cases hmf : req.contentManifest = ""
                · simp only [hmf, Bool.not_true, Bool.false_eq_true, if_true, if_false,
                    reduceCtorEq, exists_false, hid, ne_eq, not_true, false_and, and_false,
                    not_false_eq_true, and_self, or_true]
                · simp only [hmf, if_true, if_false, Bool.not_true, Bool.false_eq_true, hid,
                    reduceCtorEq, ne_eq, not_false_eq_true, true_and, false_or, not_not]
                  -- what is left are the parts of the container that are looked up
                  cases hunmarshal : env.unmarshal req.contentManifest with
                  | some err => simp only [reduceCtorEq, exists_false, false_and]
                  | none =>
                      cases hwait : env.waitForContainer req.id with
                      | error err => simp only [reduceCtorEq, exists_false, false_and, and_false]
                      | ok wscont =>
                          cases hupper : env.containerUpperdir wscont with
                          | error err => simp only [reduceCtorEq, exists_false, Except.ok.injEq,
                              exists_and_left, exists_eq_left', hupper, and_false]
                          | ok upperdir => simp only [Except.ok.injEq, exists_eq',
                              exists_and_left, exists_eq_left', hupper, and_self]

/-- A request that is turned down early is not told that the workspace is there,
    so the clean-up goes on. -/
theorem code_of_checkRequest {status : Status} (h : checkRequest env req = .error status) :
    status.code ≠ .alreadyExists := by
  unfold checkRequest at h
  repeat' split at h
  all_goals cases h <;> exact nofun

theorem code_of_initializeContent {status : Status}
    (h : initializeContent env req = some status) : status.code ≠ .alreadyExists := by
  unfold initializeContent at h
  split_ifs at h
  · rw [Option.some.injEq] at h
    rw [← h]
    exact nofun
  · split at h
    · next err _ =>
        rw [Option.some.injEq] at h
        rw [← h]
        cases err <;> exact nofun
    · rcases Option.map_eq_some_iff.mp h with ⟨err, -, rfl⟩
      exact nofun

theorem code_of_createSandbox {status : Status} (h : createSandbox env req = some status) :
    status.code ≠ .alreadyExists := by
  unfold createSandbox at h
  split_ifs at h <;> (rw [Option.some.injEq] at h; rw [← h]; exact nofun)

/-! ## The workspace that is stored -/

/-- A workspace of the request is stored under its ID. -/
def Stores (st : Store) (req : Request) : Prop :=
  ∃ w, st.workspaces.lookup req.id = some w ∧ w.instanceID = req.id ∧
    w.fullWorkspaceBackup = req.fullWorkspaceBackup

/-- The workspace that was entered is the one that was asked for. -/
theorem stores_put {w : Workspace} (hid : w.instanceID = req.id)
    (hfwb : w.fullWorkspaceBackup = req.fullWorkspaceBackup) : Stores (st.put req.id w) req :=
  ⟨w, AList.lookup_insert _, hid, hfwb⟩

theorem lookup_persist (w : Workspace) (outcome : WriteOutcome) (name : String) :
    (st.persist w outcome).workspaces.lookup name = st.workspaces.lookup name := by
  cases outcome <;> rfl

/-- A file that was opened is there, even if it cannot be read. -/
theorem stateFile_persist (st : Store) (w : Workspace) (outcome : WriteOutcome) :
    (st.persist w outcome).stateFile w.instanceID = true ↔
      st.stateFile w.instanceID = true ∨ outcome ≠ .failed := by
  cases outcome with
  | failed => exact (or_iff_left (fun h => h rfl)).symm
  | written | torn =>
      refine iff_of_true ?_ (Or.inr (by simp only [ne_eq, reduceCtorEq, not_false_eq_true]))
      exact Function.update_self ..

theorem stores_persist {w : Workspace} {outcome : WriteOutcome} (h : Stores st req) :
    Stores (st.persist w outcome) req := by
  unfold Stores
  rw [lookup_persist]
  exact h

/-- Whatever `MarkInitDone` ends with, the workspace is stored, and its state file
    is there if it was or if the first write opened it. -/
theorem markInitDone_spec {w : Workspace} {err : Option String} {st' : Store}
    (hid : w.instanceID = req.id) (hfwb : w.fullWorkspaceBackup = req.fullWorkspaceBackup)
    (hstores : Stores st req) (h : markInitDone env st req.id w = (err, st')) :
    Stores st' req ∧ (st'.stateFile req.id = true ↔
      st.stateFile req.id = true ∨ env.firstPersist ≠ .failed) := by
  have hfirst := stateFile_persist st w env.firstPersist
  rw [hid] at hfirst
  unfold markInitDone at h
  by_cases hwritten : env.firstPersist = .written
  · rw [if_neg (not_not.mpr hwritten)] at h
    have hopened : env.firstPersist ≠ .failed := by rw [hwritten]; exact nofun
    -- the file is there from now on, whatever becomes of the second write
    have hready : Stores ((st.persist w env.firstPersist).put req.id
        { w with state := .ready }) req := stores_put hid hfwb
    have hthere : ((st.persist w env.firstPersist).put req.id
        { w with state := .ready }).stateFile req.id = true := hfirst.mpr (Or.inr hopened)
    generalize (st.persist w env.firstPersist).put req.id { w with state := .ready } = ready
      at h hready hthere
    have hpersist : ∀ outcome, (ready.persist w outcome).stateFile req.id = true := by
      intro outcome
      have hkept := stateFile_persist ready w outcome
      rw [hid] at hkept
      exact hkept.mpr (Or.inl hthere)
    split at h
    · rw [Prod.mk.injEq] at h
      rw [← h.2]
      exact ⟨hready, iff_of_true hthere (Or.inr hopened)⟩
    · split_ifs at h <;>
        (rw [Prod.mk.injEq] at h; rw [← h.2];
         exact ⟨stores_persist hready, iff_of_true (hpersist _) (Or.inr hopened)⟩)
  · rw [if_pos hwritten, Prod.mk.injEq] at h
    rw [← h.2]
    exact ⟨stores_persist hstores, hfirst⟩

/-- What is found of a workspace after it was to be deleted. -/
theorem lookup_delete {name : String} {w : Workspace} (hw : st.workspaces.lookup name = some w) :
    (st.delete env name).2.workspaces.lookup name =
      if st.stateFile w.instanceID && env.stateFileRemoved then
        if w.fullWorkspaceBackup || env.contentRemoved then none
        else some { w with state := .disposed }
      else some w := by
  unfold Store.delete dispose
  rw [hw]
  by_cases hfile : (st.stateFile w.instanceID && env.stateFileRemoved) = true
  · by_cases hcontent : (w.fullWorkspaceBackup || env.contentRemoved) = true
    · simp only [hfile, hcontent, if_true]
      exact AList.lookup_erase name _
    · simp only [hfile, hcontent, if_true, Bool.false_eq_true, if_false]
      exact AList.lookup_insert _
  · simp only [hfile, Bool.false_eq_true, if_false]
    exact hw

theorem delete_of_lookup_eq_none {name : String} (h : st.workspaces.lookup name = none) :
    (st.delete env name).2 = st := by
  unfold Store.delete
  rw [h]

/-! ## How a request is handled -/

/-- What a request ends with before the clean-up, and why. -/
inductive Handled (env : Env) (st : Store) (req : Request) : Outcome Unit × Store → Prop
  | rejected (status : Status) (hreq : Rejected env req) (hcode : status.code ≠ .alreadyExists) :
      Handled env st req (.error status, st)
  | found (w : Workspace) (hreq : ¬ Rejected env req)
      (hw : st.workspaces.lookup req.id = some w) :
      Handled env st req (.error ⟨.alreadyExists, "workspace exists already"⟩, st)
  | notCreated (status : Status) (hnone : st.workspaces.lookup req.id = none)
      (hcreate : ¬ Creatable env req) (hcode : status.code ≠ .alreadyExists) :
      Handled env st req (.error status, st)
  | failed (status : Status) (st' : Store) (hnone : st.workspaces.lookup req.id = none)
      (hreq : ¬ Rejected env req) (hcreate : Creatable env req)
      (hcode : status.code ≠ .alreadyExists) (hstores : Stores st' req)
      (hfile : st'.stateFile req.id = true ↔ LeavesStateFile env st req) :
      Handled env st req (.error status, st')
  | panicked : Handled env st req (.panicked, st)
  | done (st' : Store) : Handled env st req (.ok (), st')

/-- What is left of a request that has made a workspace and failed after that. -/
theorem handled_created {st' : Store} {w : Workspace}
    (hnone : st.workspaces.lookup req.id = none) (hreq : ¬ Rejected env req)
    (hcreate : Creatable env req) (hid : w.instanceID = req.id)
    (hfwb : w.fullWorkspaceBackup = req.fullWorkspaceBackup) (hst' : st' = st.put req.id w) :
    Handled env st req (match initializeContent env req with
      | some status => (.error status, st')
      | none => match markInitDone env st' req.id w with
        | (some err, st'') =>
            (.error ⟨.internal, "cannot finish workspace init: " ++ err⟩, st'')
        | (none, st'') => (.ok (), st'')) := by
  have hstores : Stores st' req := by rw [hst']; exact stores_put hid hfwb
  have hsame : st'.stateFile = st.stateFile := by rw [hst']; rfl
  split
  · next status hcontent =>
      -- no state file is written yet
      refine .failed status st' hnone hreq hcreate (code_of_initializeContent hcontent) hstores ?_
      unfold LeavesStateFile
      rw [hsame, hcontent]
      exact (or_iff_left (fun h => absurd h.1 nofun)).symm
  · next hcontent =>
      split
      · next err st'' hmark =>
          rcases markInitDone_spec hid hfwb hstores hmark with ⟨hkept, hfile⟩
          refine .failed _ st'' hnone hreq hcreate nofun hkept (hfile.trans ?_)
          unfold LeavesStateFile
          rw [hsame, hcontent]
          exact or_congr_right (and_iff_right rfl).symm
      · exact .done _

/-- A request is rejected, finds a workspace that exists already, cannot create
    one, fails with one that it has created, or succeeds. -/
theorem handled_handle (env : Env) (st : Store) (req : Request) :
    Handled env st req (handle env st req) := by
  unfold handle
  split
  · next status hcheck =>
      refine .rejected status (by_contra fun hreq => ?_) (code_of_checkRequest hcheck)
      rcases checkRequest_eq_ok_iff.mpr hreq with ⟨p, hp⟩
      exact absurd (hcheck.symm.trans hp) nofun
  · next md wsloc upperdir hcheck =>
      have hreq : ¬ Rejected env req := checkRequest_eq_ok_iff.mp ⟨_, hcheck⟩
      unfold Store.newWorkspace
      cases hw : st.workspaces.lookup req.id with
      | some w => exact .found w hreq hw
      | none =>
          unfold creator
          cases hsandbox : createSandbox env req with
          | some status =>
              refine .notCreated status hw (fun hcreate => ?_) (code_of_createSandbox hsandbox)
              exact absurd (hsandbox.symm.trans hcreate.1) nofun
          | none =>
              cases hlocation : getCheckoutLocation req with
              | none => exact .panicked
              | some checkoutLocation =>
                  cases hhooks : env.initializingHooks with
                  | some err =>
                      refine .notCreated _ hw (fun hcreate => ?_) nofun
                      exact absurd (hhooks.symm.trans hcreate.2) nofun
                  | none => exact handled_created hw hreq ⟨hsandbox, hhooks⟩ rfl rfl rfl

theorem eq_disposed_iff {w : Workspace} : { w with state := .disposed } = w ↔
    w.state = .disposed := by
  constructor
  · intro h
    rw [← h]
  · intro h
    rw [← h]

/-- The clean-up leaves a workspace that was there as it was. -/
theorem lookup_delete_eq_self_iff {name : String} {w : Workspace}
    (hw : st.workspaces.lookup name = some w) :
    (st.delete env name).2.workspaces.lookup name = some w ↔
      (st.stateFile w.instanceID = true → env.stateFileRemoved = true →
        w.state = .disposed ∧ w.fullWorkspaceBackup = false ∧ env.contentRemoved = false) := by
  rw [lookup_delete hw]
  by_cases hfile : (st.stateFile w.instanceID && env.stateFileRemoved) = true
  · rw [if_pos hfile]
    have hboth := (Bool.and_eq_true _ _).mp hfile
    by_cases hcontent : (w.fullWorkspaceBackup || env.contentRemoved) = true
    · rw [if_pos hcontent]
      refine iff_of_false nofun (fun h => ?_)
      have hleft := (h hboth.1 hboth.2).2
      rw [hleft.1, hleft.2] at hcontent
      exact absurd hcontent nofun
    · have hneither := Bool.or_eq_false_iff.mp (Bool.eq_false_iff.mpr hcontent)
      rw [if_neg hcontent, Option.some.injEq, eq_disposed_iff]
      exact ⟨fun h _ _ => ⟨h, hneither⟩, fun h => (h hboth.1 hboth.2).1⟩
  · rw [if_neg hfile]
    refine iff_of_true rfl (fun hthere hremoved => absurd ?_ hfile)
    rw [hthere, hremoved]
    rfl

/-- The clean-up removes a workspace that the request has created. -/
theorem lookup_delete_eq_none_iff (h : Stores st req) :
    (st.delete env req.id).2.workspaces.lookup req.id = none ↔
      st.stateFile req.id = true ∧ env.stateFileRemoved = true ∧
        (req.fullWorkspaceBackup = true ∨ env.contentRemoved = true) := by
  rcases h with ⟨w, hw, hid, hfwb⟩
  rw [lookup_delete hw, hid, hfwb, ← and_assoc, ← Bool.and_eq_true, ← Bool.or_eq_true]
  split_ifs with hfile hcontent
  · exact iff_of_true rfl ⟨hfile, hcontent⟩
  · exact iff_of_false nofun (fun h => hcontent h.2)
  · exact iff_of_false nofun (fun h => hfile h.1)

/-- A request that returns an error leaves the workspace of its ID as it was, or
    none if there was none, exactly when `Restores`. The clean-up is what
    decides: it runs after almost every error, whether or not this request has
    made the workspace, and stops where the state file cannot be removed. -/
theorem restored_iff (env : Env) (st : Store) (req : Request) (status : Status)
    (h : (initWorkspace env st req).1 = .error status) :
    (initWorkspace env st req).2.workspaces.lookup req.id = st.workspaces.lookup req.id ↔
      Restores env st req := by
  have hhandled := handled_handle env st req
  unfold initWorkspace at h ⊢
  unfold Restores
  generalize handle env st req = result at h hhandled ⊢
  cases hhandled with
  | rejected status hreq hcode =>
      rw [cleanUp_of_code_ne hcode]
      cases hw : st.workspaces.lookup req.id with
      | none =>
          rw [delete_of_lookup_eq_none hw]
          exact iff_of_true hw (fun hnot => absurd hreq hnot)
      | some w => exact (lookup_delete_eq_self_iff hw).trans (imp_iff_right hreq).symm
  | found w hreq hw =>
      rw [hw]
      exact iff_of_true hw (fun hrejected => absurd hrejected hreq)
  | notCreated status hnone hcreate hcode =>
      rw [cleanUp_of_code_ne hcode, hnone, delete_of_lookup_eq_none hnone]
      exact iff_of_true hnone (fun _ hcreatable => absurd hcreatable hcreate)
  | failed status st' hnone hreq hcreate hcode hstores hfile =>
      rw [cleanUp_of_code_ne hcode, hnone]
      refine (lookup_delete_eq_none_iff hstores).trans ?_
      rw [hfile]
      exact ⟨fun hgone _ _ => hgone, fun himp => himp hreq hcreate⟩
  | panicked => exact absurd h nofun
  | done => exact absurd h nofun

/-- When a failed request has left no workspace, the next one is not told that it
    exists already. -/
theorem not_alreadyExists_of_restored {status : Status}
    (hnone : st.workspaces.lookup req.id = none)
    (h : (initWorkspace env st req).1 = .error status) : status.code ≠ .alreadyExists := by
  have hhandled := handled_handle env st req
  unfold initWorkspace at h
  generalize handle env st req = result at h hhandled
  cases hhandled with
  | rejected status' _ hcode | notCreated status' _ _ hcode
  | failed status' _ _ _ _ hcode =>
      rw [cleanUp_of_code_ne hcode, Outcome.error.injEq] at h
      rw [← h]
      exact hcode
  | found w _ hw => exact absurd (hnone.symm.trans hw) nofun
  | panicked => exact absurd h nofun
  | done => exact absurd h nofun

/-- A container runtime, sandboxes and files that do what they are asked to, and
    content that cannot be initialized. -/
def brokenContent : Env where
  location := "/mnt"
  join := fun dir name => dir ++ "/" ++ name
  connected := true
  unmarshal := fun _ => none
  waitForContainer := fun id => .ok ("container-of-" ++ id)
  containerUpperdir := fun cid => .ok ("/upper/" ++ cid)
  workspaceSizeLimit := 0
  sandboxCreated := true
  mountPointCreated := true
  sandboxMounted := true
  initializingHooks := none
  hasRemoteStorage := true
  newFromRequest := none
  initializeWorkspace := some "cannot clone"
  firstPersist := .written
  readyHooks := none
  secondPersist := .written
  writeError := ""
  stateFileRemoved := true
  contentRemoved := true
  removeError := "no such file or directory"

/-- The hooks of the ready workspace fail, and the workspace is cleaned up. -/
theorem restored_iff_hooks :
    (initWorkspace
      { brokenContent with initializeWorkspace := none, readyHooks := some "no backup" }
      ⟨∅, fun _ => false⟩
      ⟨"i", some ⟨"owner", "ws"⟩, false, "", some .other⟩).2.workspaces.lookup "i" = none := by
  have hrestored := restored_iff
    { brokenContent with initializeWorkspace := none, readyHooks := some "no backup" }
    ⟨∅, fun _ => false⟩ ⟨"i", some ⟨"owner", "ws"⟩, false, "", some .other⟩
    ⟨.internal, "cannot finish workspace init: no backup"⟩ (by decide)
  refine (hrestored.mpr fun _ _ => ⟨Or.inr ⟨by decide, by decide⟩, rfl, Or.inr rfl⟩).trans ?_
  exact AList.lookup_empty "i"

/-- A request without metadata removes a ready workspace, and a workspace whose
    content cannot be initialized stays in the store, so that the next request is
    told that it exists already. -/
theorem not_restored :
    (∃ (env : Env) (st : Store) (req : Request) (status : Status) (w : Workspace),
      (initWorkspace env st req).1 = .error status ∧ w.state = .ready ∧
        st.workspaces.lookup req.id = some w ∧
          (initWorkspace env st req).2.workspaces.lookup req.id = none) ∧
    ∃ (env : Env) (st : Store) (req : Request) (status : Status),
      (initWorkspace env st req).1 = .error status ∧ st.workspaces.lookup req.id = none ∧
        (initWorkspace env st req).2.workspaces.lookup req.id ≠ none ∧
          (initWorkspace env (initWorkspace env st req).2 req).1 =
            .error ⟨.alreadyExists, "workspace exists already"⟩ := by
  refine ⟨⟨brokenContent, ⟨AList.singleton "i"
      ⟨"/mnt/i", "", "", "owner", "ws", "i", false, "", .ready⟩, fun _ => true⟩,
    ⟨"i", none, false, "", some .other⟩, _, _, rfl, rfl, rfl, rfl⟩, ?_⟩
  exact ⟨brokenContent, ⟨∅, fun _ => false⟩,
    ⟨"i", some ⟨"owner", "ws"⟩, false, "", some .other⟩,
    ⟨.internal, "cannot initialize workspace: cannot clone"⟩, by decide, rfl, by decide, by decide⟩

end Session

end WsSync

end Nxpod
