import Nxpod.WsManager.Dangling
import Nxpod.WsManager.Environment
import Nxpod.WsManager.Report
import Nxpod.WsManager.Stop

/-!
# The Pod of a Workspace

`createDefiniteWorkspacePod` of ws-manager makes the pod for a start request. What the
request says goes into labels and annotations, which its status is read off later, and into
the container of the workspace.

The feature flags of the request are gone through one after the other, and each one changes
the pod that is there by then: a volume and its mounts are taken away, an image is replaced,
a label is no longer asked of the node. Nothing keeps a request from having a flag twice, or
`REGISTRY_FACADE` after `FULL_WORKSPACE_BACKUP`, which does the same and more. The changes do
not get into each other's way, and what comes out is up to which flags there are.

There is no end of lists of flags, but they make no more than twelve kinds of pods. `Variant`
has one truth value for each thing that can be asked for, and `Shaped` says what becomes of the
pod for each of them, from the pod before the flags and without going through the list again.
So there is one lemma for each flag, that it takes a pod of one shape to one of the next, and
from them the result of any list follows by induction. Whatever is to be known of a pod is then
read off its shape.

## Main definitions

* `WorkspaceFeatureFlag`: The numbers of flags are open.
* `StartWorkspaceRequest`, `Config`, `Outside`: What the pod is made from.
* `Resources`: Limits and requests, as they are written in the configuration.
* `ImageSpec`: The image that the registry facade builds on.
* `StartWorkspaceContext`: The labels are those of everything that is created for the workspace.
* `newStartWorkspaceContext`, `createDefiniteWorkspacePod`: The source's functions.
* `SecurityContext`: What the container may do on its node.
* `VolumeMount`: A volume that a container sees at a path.
* `Volume`: A directory on the node that containers can mount.
* `Container`: What flags change of a container, and what comes with it.
* `Variant`, `Shaped`: What flags make of a pod, in whatever order.
* `Same`: Pods without a difference.
* `WellFormed`: What is expected of a pod.
* `Plain`: The pod before any flag.

## Theorems

* `shaped_applyFeature`, `shaped_foldlM`: One flag, and all of them.
* `foldlM_applyFeature_isOk`: When no flag fails.
* `plain_of_plainPod`: The pod before the flags.
* `createDefiniteWorkspacePod_ok`: What holds of every pod that is made, and that the order and
  number of its flags make no difference.
-/

namespace Nxpod

namespace WsManager

namespace Create

open Content.Git (Path)
open Environment (EnvVar GitSpec createWorkspaceEnvironment)
open Finalize ( workspaceIDAnnotation fullWorkspaceBackupAnnotation)
open Ports (metaIDLabel markerLabel servicePrefixAnnotation)
open Report
open Status (theiaVolumeName workspaceVolumeName headlessLabel workspaceNeverReadyAnnotation)

/-! ## The request -/

/-- The numbers of flags are open. -/
inductive WorkspaceFeatureFlag
  | noop
  | privileged
  | registryFacade
  | fullWorkspaceBackup
  | fixedResources
  | unknown (number : Int)
  deriving DecidableEq

open WorkspaceFeatureFlag

/-- The initializer is as it is marshalled, or why it cannot be. An admission level is a
    number, and some numbers have no name. -/
structure StartWorkspaceSpec where
  workspaceImage : String
  theiaVersion : String
  featureFlags : List WorkspaceFeatureFlag
  initializer : Except String String
  envvars : List EnvVar
  checkoutLocation : String
  workspaceLocation : String
  git : Option GitSpec
  timeout : String
  admission : Option AdmissionLevel

/-- What is asked for. The type is as it comes with the request, and may be a number that means
    nothing. -/
structure StartWorkspaceRequest where
  id : String
  servicePrefix : String
  owner : String
  metaId : String
  type : Option WorkspaceType
  spec : StartWorkspaceSpec

/-- Limits and requests, as they are written in the configuration. -/
structure Resources where
  cpu : String
  memory : Int

/-- What is read of the configuration of ws-manager. -/
structure Config where
  nxpodHostURL : String
  theiaSupervisorToken : String
  heartbeatInterval : Duration
  limits : Except String Resources
  requests : Except String Resources
  schedulerName : String
  theiaHostPath : String
  workspaceHostPath : Path
  registryFacadeHost : String

/-- The image that the registry facade builds on. -/
structure ImageSpec where
  baseRef : String
  theiaVersion : String

/-- What other code computes: templates, random bytes, times and messages. -/
structure Outside where
  renderWorkspaceURL : String → String → String → Except String String
  randRead : Nat → Except String (List UInt8)
  traceID : String
  parseDuration : String → Except String Duration
  toBase64 : ImageSpec → Except String String

/-- The names that are generated from the interface, in upper case. -/
def workspaceTypeName : WorkspaceType → String
  | .regular => "REGULAR"
  | .prebuild => "PREBUILD"
  | .probe => "PROBE"

/-- The names that are generated from the interface, in upper case. -/
def admissionLevelName : AdmissionLevel → String
  | .admitOwnerOnly => "ADMIT_OWNER_ONLY"
  | .admitEveryone => "ADMIT_EVERYONE"

/-- `strings.ToLower`, for what is put into labels. -/
def toLower (s : String) : String := String.ofList (s.toList.map Char.toLower)

/-! ## The start context -/

/-- The labels are those of everything that is created for the workspace. -/
structure StartWorkspaceContext where
  request : StartWorkspaceRequest
  labels : List (String × String)
  cliAPIKey : String
  ownerToken : String
  theiaPort : Int
  theiaSupervisorPort : Int
  workspaceURL : String
  traceID : String
  headless : Bool

/-- The characters a token may have, since it is kept in a cookie. -/
def validCookieChars : List Char :=
  ("!#$%&'()*+,-./0123456789:;<=>?@ABCDEFGHIJKLMNOPQRSTUVWXYZ[]^_".toList ++ [Char.ofNat 96]) ++
    "abcdefghijklmnopqrstuvwxyz\x7b|\x7d".toList

/-- Each byte is made a character that may be in a cookie. -/
def getRandomString (length : Nat) (read : Except String (List UInt8)) : Except String String :=
  match read with
  | .error err => .error err
  | .ok b =>
      if b.length ≠ length then .error "short write"
      else .ok (String.ofList
        (b.map fun c => validCookieChars.getD (c.toNat % validCookieChars.length) '!'))

/-- The names of the services begin with this. -/
def getServicePrefix (req : StartWorkspaceRequest) : String :=
  if req.servicePrefix ≠ "" then req.servicePrefix else req.id

/-- A type without a name is written as nothing. -/
def typeText (req : StartWorkspaceRequest) : String :=
  toLower ((req.type.map workspaceTypeName).getD "")

/-- What is settled before the pod is made: its labels, its URL and the secrets that are drawn
    for it. -/
def newStartWorkspaceContext (c : Config) (o : Outside) (req : StartWorkspaceRequest) :
    Except String StartWorkspaceContext :=
  let headless := decide (req.type ≠ some .regular)
  match o.renderWorkspaceURL req.id req.servicePrefix c.nxpodHostURL with
  | .error err => .error s!"cannot get workspace URL: {err}"
  | .ok workspaceURL => match getRandomString 32 (o.randRead 0) with
    | .error err => .error s!"cannot create CLI API key: {err}"
    | .ok cliAPIKey => match getRandomString 32 (o.randRead 1) with
      | .error err => .error s!"cannot create owner token: {err}"
      | .ok ownerToken => .ok
          { request := req
            labels := [("app", "nxpod"), ("component", "workspace"),
              (Dangling.workspaceIDLabel, req.id), (ownerLabel, req.owner),
              (metaIDLabel, req.metaId), (typeLabel, typeText req),
              (headlessLabel, if headless then "true" else "false"), (markerLabel, "true")]
            cliAPIKey := cliAPIKey
            ownerToken := ownerToken
            theiaPort := 23000
            theiaSupervisorPort := 22999
            workspaceURL := workspaceURL
            traceID := o.traceID
            headless := headless }

/-! ## The pod -/

/-- What the container may do on its node. -/
structure SecurityContext where
  allowPrivilegeEscalation : Bool
  add : List String
  drop : List String
  privileged : Bool
  readOnlyRootFilesystem : Bool
  runAsGroup : Int
  runAsNonRoot : Bool
  runAsUser : Int

/-- A volume that a container sees at a path. -/
structure VolumeMount where
  name : String
  mountPath : String
  readOnly : Bool

/-- The folder has to be there, or is made. -/
inductive HostPathType
  | directory
  | directoryOrCreate

/-- A directory on the node that containers can mount. -/
structure Volume where
  name : String
  path : String
  type : HostPathType

/-- What flags change of a container, and what comes with it. -/
structure Container where
  name : String
  image : String
  securityContext : SecurityContext
  port : Int
  limits : Resources
  requests : Resources
  volumeMounts : List VolumeMount
  readinessPort : Int
  env : List EnvVar
  preStop : Option (List String)

/-- Of the terms that select a node, all ask for labels to be there. -/
structure Pod where
  name : String
  labels : Map String String
  annotations : Map String String
  nodeSelectorTerms : List (List String)
  serviceAccountName : String
  schedulerName : String
  containers : List Container
  volumes : List Volume

/-- Where a container sees the content of the workspace. -/
def workspaceDir : String := "/workspace"

/-- Where it sees the IDE. -/
def theiaDir : String := "/theia"

/-- The label of the nodes on which ws-sync runs. -/
def wssyncLabel : String := "nxpod.khulnasoft.com/ws-sync"

/-- The label of the nodes that have a version of the IDE. -/
def theiaLabelPrefix : String := "nxpod.khulnasoft.com/theia."

/-- The label for one version. -/
def theiaVersionLabel (theiaVersion : String) : String := theiaLabelPrefix ++ theiaVersion

/-- How the content is initialized, as an encoded message. -/
def workspaceInitializerAnnotation : String := "nxpod/contentInitializer"

/-- The limit that is looked for on the node. -/
def cpuLimitAnnotation : String := "nxpod/cpuLimit"

/-- A workspace has no privileges of its own. -/
def createDefaultSecurityContext : SecurityContext where
  allowPrivilegeEscalation := false
  add := ["AUDIT_WRITE", "FSETID", "KILL", "NET_BIND_SERVICE", "SYS_PTRACE"]
  drop := ["SETPCAP", "CHOWN", "NET_RAW", "DAC_OVERRIDE", "FOWNER", "SYS_CHROOT", "SETFCAP",
    "SETUID", "SETGID"]
  privileged := false
  readOnlyRootFilesystem := false
  runAsGroup := 33333
  runAsNonRoot := true
  runAsUser := 33333

/-- What the variables of the environment are computed from. -/
def Config.environment (c : Config) : Environment.Config where
  nxpodHostURL := c.nxpodHostURL
  theiaSupervisorToken := c.theiaSupervisorToken
  heartbeatInterval := c.heartbeatInterval
  requestedMemory := c.requests.map Resources.memory

/-- The part of the context that the environment is made of. -/
def StartWorkspaceContext.environment (s : StartWorkspaceContext) : Environment.StartContext where
  id := s.request.id
  metaId := s.request.metaId
  cliAPIKey := s.cliAPIKey
  theiaPort := s.theiaPort
  theiaSupervisorPort := s.theiaSupervisorPort
  workspaceURL := s.workspaceURL
  headless := s.headless
  checkoutLocation := s.request.spec.checkoutLocation
  workspaceLocation := s.request.spec.workspaceLocation
  git := s.request.spec.git

/-- The container of a workspace before any flag, with its environment. -/
def createWorkspaceContainer (c : Config) (s : StartWorkspaceContext) :
    Except String Container :=
  match c.limits with
  | .error err => .error s!"cannot parse Workspace container limits: {err}"
  | .ok limits => match c.requests with
    | .error err => .error s!"cannot parse Workspace container requests: {err}"
    | .ok requests =>
        match createWorkspaceEnvironment c.environment s.environment s.request.spec.envvars with
        | .error err => .error s!"cannot create Workspace env: {err}"
        | .ok env => .ok
            { name := "workspace"
              image := s.request.spec.workspaceImage
              securityContext := createDefaultSecurityContext
              port := s.theiaPort
              limits := limits
              requests := requests
              volumeMounts := [⟨workspaceVolumeName, workspaceDir, false⟩,
                ⟨theiaVolumeName, theiaDir, true⟩]
              readinessPort := s.theiaSupervisorPort
              env := env
              preStop := none }

/-- The content of the workspace and Theia, both on the node. -/
def createWorkspaceVolumes (c : Config) (s : StartWorkspaceContext) : List Volume :=
  [⟨theiaVolumeName, c.theiaHostPath, .directory⟩,
    ⟨workspaceVolumeName, (c.workspaceHostPath.join s.request.id).toString, .directoryOrCreate⟩]

/-- The name of a pod says what it is for. -/
def podPrefix : Option WorkspaceType → String
  | some .prebuild => "prebuild"
  | some .probe => "probe"
  | some .regular | none => "ws"

/-- What a pod is to be remembered by, in the order of the source. -/
def podAnnotations (s : StartWorkspaceContext) (initializerConfig admissionLevel : String) :
    List (String × String) :=
  [("prometheus.io/scrape", "true"), ("prometheus.io/path", "/metrics"),
    ("prometheus.io/port", toString s.theiaPort), ( workspaceIDAnnotation, s.request.id),
    ( servicePrefixAnnotation, getServicePrefix s.request),
    ( workspaceURLAnnotation, s.workspaceURL),
    ( workspaceInitializerAnnotation, initializerConfig),
    ( workspaceNeverReadyAnnotation, "true"), ( workspaceAdmissionAnnotation, admissionLevel),
    ( ownerTokenAnnotation, s.ownerToken), ( Stop.traceIDAnnotation, s.traceID)]

/-- A timeout that comes with the request. -/
def timeoutAnnotations (o : Outside) (timeout : String) : Except String (List (String × String)) :=
  if timeout = "" then .ok []
  else match o.parseDuration timeout with
    | .error err => .error s!"invalid workspace timeout \"{timeout}\": {err}"
    | .ok _ => .ok [( customTimeoutAnnotation, timeout)]

/-- The pod before the flags are looked at. -/
def plainPod (c : Config) (o : Outside) (s : StartWorkspaceContext) : Except String Pod :=
  match createWorkspaceContainer c s with
  | .error err => .error s!"cannot create workspace container: {err}"
  | .ok workspaceContainer => match s.request.spec.initializer with
    | .error err => .error s!"cannot create remarshal initializer: {err}"
    | .ok initializerConfig => match s.request.spec.admission with
      | none => .error "invalid admission level"
      | some admission => match timeoutAnnotations o s.request.spec.timeout with
        | .error err => .error err
        | .ok timeoutAnnotation => .ok
            { name := s!"{podPrefix s.request.type}-{s.request.id}"
              labels := Map.insertAll ∅
                (("nxpod.khulnasoft.com/networkpolicy", "default") :: s.labels)
              annotations := Map.insertAll ∅ (podAnnotations s initializerConfig
                (toLower (admissionLevelName admission)) ++ timeoutAnnotation)
              nodeSelectorTerms :=
                [[theiaVersionLabel s.request.spec.theiaVersion, wssyncLabel]]
              serviceAccountName := "workspace"
              schedulerName := c.schedulerName
              containers := [workspaceContainer]
              volumes := createWorkspaceVolumes c s }

/-! ## The flags -/

/-- A volume is taken away, and with it the mounts of all containers. -/
def removeVolume (pod : Pod) (name : String) : Pod :=
  { pod with
    volumes := pod.volumes.filter (·.name ≠ name)
    containers := pod.containers.map fun c =>
      { c with volumeMounts := c.volumeMounts.filter (·.name ≠ name) } }

/-- Only containers with the name of that of a workspace are changed. -/
def changeWorkspaceContainer (f : Container → Container) (pod : Pod) : Pod :=
  { pod with containers := pod.containers.map fun c => if c.name = "workspace" then f c else c }

/-- What a privileged container may do. -/
def privilegedContext (context : SecurityContext) : SecurityContext :=
  { context with allowPrivilegeEscalation := true, privileged := true }

/-- The security context is shared with the container in the pod. -/
def makePrivileged (pod : Pod) : Pod :=
  { changeWorkspaceContainer (fun c =>
      { c with securityContext := privilegedContext c.securityContext }) pod with
    serviceAccountName := "workspace-privileged" }

/-- The content is in the container itself, so that no volume is needed for it. -/
def backUpFully (pod : Pod) : Pod :=
  let pod := removeVolume pod workspaceVolumeName
  changeWorkspaceContainer (fun c => { c with preStop := some ["/theia/supervisor", "backup"] })
    { pod with
      labels := pod.labels.insert fullWorkspaceBackupAnnotation "true"
      annotations := pod.annotations.insert fullWorkspaceBackupAnnotation "true" }

/-- A label that asks for a version of Theia on the node. -/
def isTheiaLabel (key : String) : Bool := theiaLabelPrefix.toList.isPrefixOf key.toList

/-- The image that the registry facade makes for this workspace. -/
def facadeImage (c : Config) (req : StartWorkspaceRequest) : String :=
  s!"{c.registryFacadeHost}/remote/{req.id}"

/-- What the registry facade is to add to the image of the request. -/
def imageSpec (req : StartWorkspaceRequest) : ImageSpec :=
  ⟨req.spec.workspaceImage, req.spec.theiaVersion⟩

/-- The image comes with Theia in it, so the volume is not needed any more, and neither is a
    node that has Theia. -/
def pullThroughFacade (c : Config) (o : Outside) (req : StartWorkspaceRequest) (pod : Pod) :
    Except String Pod :=
  let pod := removeVolume pod theiaVolumeName
  match o.toBase64 (imageSpec req) with
  | .error err => .error s!"cannot create remarshal image spec: {err}"
  | .ok ispec => .ok (changeWorkspaceContainer (fun cnt => { cnt with image := facadeImage c req })
      { pod with
        annotations := pod.annotations.insert workspaceImageSpecAnnotation ispec
        nodeSelectorTerms := pod.nodeSelectorTerms.map fun term => term.filter (!isTheiaLabel ·) })

/-- The limit of the last container with the name. -/
def cpuLimit (pod : Pod) : String :=
  (((pod.containers.filter (·.name = "workspace")).getLast?).map (·.limits.cpu)).getD ""

/-- The CPU limit of the container is noted on the pod, for whoever enforces it. -/
def fixResources (pod : Pod) : Pod :=
  { pod with annotations := pod.annotations.insert cpuLimitAnnotation (cpuLimit pod) }

/-- One turn of the loop. A full backup falls through. -/
def applyFeature (c : Config) (o : Outside) (req : StartWorkspaceRequest) (pod : Pod) :
    WorkspaceFeatureFlag → Except String Pod
  | .noop => .ok pod
  | .privileged => .ok (makePrivileged pod)
  | .fullWorkspaceBackup => pullThroughFacade c o req (backUpFully pod)
  | .registryFacade => pullThroughFacade c o req pod
  | .fixedResources => .ok (fixResources pod)
  | .unknown number => .error s!"unknown feature flag: {number}"

/-- The pod of a request, from the one that does not depend on flags. -/
def createDefiniteWorkspacePod (c : Config) (o : Outside) (s : StartWorkspaceContext) :
    Except String Pod :=
  match plainPod c o s with
  | .error err => .error err
  | .ok pod => s.request.spec.featureFlags.foldlM (applyFeature c o s.request) pod

/-! ## What flags make of a pod -/

/-- What has been asked for by then. -/
structure Variant where
  privileged : Bool
  backup : Bool
  facade : Bool
  fixed : Bool

namespace Variant

/-- Nothing was asked for. -/
def plain : Variant := ⟨false, false, false, false⟩

/-- What a flag asks for in addition. One without a name asks for nothing. -/
def add (v : Variant) : WorkspaceFeatureFlag → Variant
  | .noop | .unknown _ => v
  | .privileged => { v with privileged := true }
  | .fullWorkspaceBackup => { v with backup := true, facade := true }
  | .registryFacade => { v with facade := true }
  | .fixedResources => { v with fixed := true }

/-- A full backup implies the registry facade. -/
def ofFlags (flags : List WorkspaceFeatureFlag) : Variant where
  privileged := decide (WorkspaceFeatureFlag.privileged ∈ flags)
  backup := decide (fullWorkspaceBackup ∈ flags)
  facade := decide (registryFacade ∈ flags) || decide (fullWorkspaceBackup ∈ flags)
  fixed := decide (fixedResources ∈ flags)

/-- The volume is still there. -/
def keeps (v : Variant) (name : String) : Bool :=
  !(v.backup && decide (name = workspaceVolumeName)) &&
    !(v.facade && decide (name = theiaVolumeName))

/-- The context that comes out in the end. -/
def securityContext (v : Variant) (context : SecurityContext) : SecurityContext :=
  if v.privileged then privilegedContext context else context

/-- The container of a workspace that comes out in the end, with all changes at once. -/
def container (c : Config) (req : StartWorkspaceRequest) (v : Variant) (cnt : Container) :
    Container :=
  if cnt.name = "workspace" then
    { cnt with
      image := if v.facade then facadeImage c req else cnt.image
      securityContext := v.securityContext cnt.securityContext
      volumeMounts := cnt.volumeMounts.filter (v.keeps ·.name)
      preStop := if v.backup then some ["/theia/supervisor", "backup"] else cnt.preStop }
  else { cnt with volumeMounts := cnt.volumeMounts.filter (v.keeps ·.name) }

/-- An annotation that comes out in the end. -/
def annotation (o : Outside) (req : StartWorkspaceRequest) (v : Variant) (plain : Pod)
    (key : String) : Option String :=
  if key = workspaceImageSpecAnnotation ∧ v.facade = true then
    (o.toBase64 (imageSpec req)).toOption
  else if key = fullWorkspaceBackupAnnotation ∧ v.backup = true then some "true"
  else if key = cpuLimitAnnotation ∧ v.fixed = true then some (cpuLimit plain)
  else plain.annotations.lookup key

end Variant

/-- What has become of the pod that there was before any flag. -/
structure Shaped (c : Config) (o : Outside) (req : StartWorkspaceRequest) (plain : Pod)
    (v : Variant) (pod : Pod) : Prop where
  name : pod.name = plain.name
  schedulerName : pod.schedulerName = plain.schedulerName
  serviceAccountName : pod.serviceAccountName =
    if v.privileged then "workspace-privileged" else plain.serviceAccountName
  labels : ∀ key, pod.labels.lookup key =
    if key = fullWorkspaceBackupAnnotation ∧ v.backup = true then some "true"
    else plain.labels.lookup key
  annotations : ∀ key, pod.annotations.lookup key = v.annotation o req plain key
  nodeSelectorTerms : pod.nodeSelectorTerms =
    if v.facade then plain.nodeSelectorTerms.map fun term => term.filter (!isTheiaLabel ·)
    else plain.nodeSelectorTerms
  containers : pod.containers = plain.containers.map (v.container c req)
  volumes : pod.volumes = plain.volumes.filter (v.keeps ·.name)

/-- Pods without a difference. -/
structure Same (pod pod' : Pod) : Prop where
  labels : ∀ key, pod.labels.lookup key = pod'.labels.lookup key
  annotations : ∀ key, pod.annotations.lookup key = pod'.annotations.lookup key
  rest : { pod with labels := ∅, annotations := ∅ } = { pod' with labels := ∅, annotations := ∅ }

variable {c : Config} {o : Outside} {req : StartWorkspaceRequest} {s : StartWorkspaceContext}
  {plain pod pod' : Pod} {v : Variant} {flag : WorkspaceFeatureFlag}
  {flags flags' : List WorkspaceFeatureFlag}

theorem ofFlags_cons (flag : WorkspaceFeatureFlag) (flags : List WorkspaceFeatureFlag) :
    Variant.ofFlags (flag :: flags) = (Variant.ofFlags flags).add flag := by
  unfold Variant.ofFlags
  simp only [List.mem_cons]
  cases flag <;> simp only [Variant.add, reduceCtorEq, false_or, true_or, decide_true, Bool.true_or,
    Bool.or_true]

/-- If the registry facade was asked for then some flag has done so. -/
theorem exists_facade (h : (Variant.ofFlags flags).facade = true) :
    ∃ flag ∈ flags, (Variant.plain.add flag).facade = true := by
  have hmem : registryFacade ∈ flags ∨ fullWorkspaceBackup ∈ flags := by
    simpa [Variant.ofFlags] using h
  rcases hmem with hmem | hmem
  · exact ⟨registryFacade, hmem, rfl⟩
  · exact ⟨fullWorkspaceBackup, hmem, rfl⟩

/-- What was asked for is a matter of which flags there are. -/
theorem ofFlags_congr (h : ∀ flag, flag ∈ flags ↔ flag ∈ flags') :
    Variant.ofFlags flags = Variant.ofFlags flags' := by
  unfold Variant.ofFlags
  simp only [h]

theorem container_plain (cnt : Container) : Variant.plain.container c req cnt = cnt := by
  have hmounts : cnt.volumeMounts.filter (Variant.plain.keeps ·.name) = cnt.volumeMounts :=
    List.filter_eq_self.mpr fun _ _ => rfl
  unfold Variant.container
  rw [hmounts]
  by_cases hname : cnt.name = "workspace"
  · rw [if_pos hname]
    rfl
  · rw [if_neg hname]

theorem shaped_plain (c : Config) (o : Outside) (req : StartWorkspaceRequest) (plain : Pod) :
    Shaped c o req plain Variant.plain plain where
  name := rfl
  schedulerName := rfl
  serviceAccountName := rfl
  labels key := by
    rw [if_neg (fun h => Bool.false_ne_true h.2)]
  annotations key := by
    unfold Variant.annotation
    rw [if_neg (fun h => Bool.false_ne_true h.2), if_neg (fun h => Bool.false_ne_true h.2),
      if_neg (fun h => Bool.false_ne_true h.2)]
  nodeSelectorTerms := rfl
  containers := (List.map_id'' container_plain plain.containers).symm
  volumes := (List.filter_eq_self.mpr fun _ _ => rfl).symm

/-! ## One flag -/

theorem keeps_backup (v : Variant) (name : String) :
    { v with backup := true }.keeps name =
      (v.keeps name && decide (name ≠ workspaceVolumeName)) := by
  unfold Variant.keeps
  cases v.backup <;> cases v.facade <;> by_cases hname : name = workspaceVolumeName <;>
    simp [hname]

theorem keeps_facade (v : Variant) (name : String) :
    { v with facade := true }.keeps name = (v.keeps name && decide (name ≠ theiaVolumeName)) := by
  unfold Variant.keeps
  cases v.backup <;> cases v.facade <;> by_cases hname : name = theiaVolumeName <;>
    simp [hname]

/-- Taking volumes away one after the other is taking them away at once. -/
theorem filter_keeps {α : Type} {nameOf : α → String} {v v' : Variant} {removed : String}
    (h : ∀ name, v'.keeps name = (v.keeps name && decide (name ≠ removed))) (l : List α) :
    (l.filter (v.keeps <| nameOf ·)).filter (nameOf · ≠ removed) =
      l.filter (v'.keeps <| nameOf ·) := by
  rw [List.filter_filter]
  refine List.filter_congr fun a _ => ?_
  rw [h, Bool.and_comm]

theorem container_name (cnt : Container) : (v.container c req cnt).name = cnt.name := by
  unfold Variant.container
  split_ifs <;> rfl

/-- No flag changes the limit that is noted on the pod. -/
theorem cpuLimit_eq (h : Shaped c o req plain v pod) : cpuLimit pod = cpuLimit plain := by
  have hlimits : ∀ cnt, (v.container c req cnt).limits = cnt.limits := by
    intro cnt
    unfold Variant.container
    split_ifs <;> rfl
  unfold cpuLimit
  rw [h.containers, List.filter_map, List.getLast?_map, Option.map_map]
  simp only [Function.comp_def, container_name, hlimits]

/-- One lemma for each flag: the pod keeps its shape, with one thing more that was asked for. -/
theorem shaped_makePrivileged (h : Shaped c o req plain v pod) :
    Shaped c o req plain { v with privileged := true } (makePrivileged pod) where
  name := h.name
  schedulerName := h.schedulerName
  serviceAccountName := rfl
  labels := h.labels
  annotations := h.annotations
  nodeSelectorTerms := h.nodeSelectorTerms
  containers := by
    unfold makePrivileged changeWorkspaceContainer
    dsimp only
    rw [h.containers, List.map_map]
    refine List.map_congr_left fun cnt _ => ?_
    rw [Function.comp_apply, container_name]
    unfold Variant.container
    by_cases hname : cnt.name = "workspace"
    · rw [if_pos hname, if_pos hname, if_pos hname]
      unfold Variant.securityContext
      cases v.privileged <;> rfl
    · rw [if_neg hname, if_neg hname, if_neg hname]
      rfl
  volumes := h.volumes

theorem shaped_fixResources (h : Shaped c o req plain v pod) :
    Shaped c o req plain { v with fixed := true } (fixResources pod) where
  name := h.name
  schedulerName := h.schedulerName
  serviceAccountName := h.serviceAccountName
  labels := h.labels
  annotations key := by
    unfold fixResources
    dsimp only
    rw [Map.lookup_insert_eq_ite, h.annotations, cpuLimit_eq h]
    unfold Variant.annotation
    by_cases hkey : key = cpuLimitAnnotation
    · rw [hkey, if_pos rfl, if_neg (fun h => absurd h.1 (by decide)),
        if_neg (fun h => absurd h.1 (by decide)), if_pos ⟨rfl, rfl⟩]
    · simp only [hkey, false_and, if_false]
  nodeSelectorTerms := h.nodeSelectorTerms
  containers := h.containers
  volumes := h.volumes

theorem shaped_backUpFully (h : Shaped c o req plain v pod) :
    Shaped c o req plain { v with backup := true } (backUpFully pod) where
  name := h.name
  schedulerName := h.schedulerName
  serviceAccountName := h.serviceAccountName
  labels key := by
    unfold backUpFully changeWorkspaceContainer
    dsimp only
    rw [Map.lookup_insert_eq_ite]
    by_cases hkey : key = fullWorkspaceBackupAnnotation
    · rw [if_pos hkey, if_pos ⟨hkey, rfl⟩]
    · rw [if_neg hkey, if_neg (fun h => hkey h.1)]
      exact (h.labels key).trans (if_neg fun h => hkey h.1)
  annotations key := by
    unfold backUpFully changeWorkspaceContainer
    dsimp only
    rw [Map.lookup_insert_eq_ite]
    unfold Variant.annotation
    by_cases hkey : key = fullWorkspaceBackupAnnotation
    · rw [hkey, if_pos rfl, if_neg (fun h => absurd h.1 (by decide)), if_pos ⟨rfl, rfl⟩]
    · rw [if_neg hkey]
      refine (h.annotations key).trans ?_
      unfold Variant.annotation
      simp only [hkey, false_and, if_false]
  nodeSelectorTerms := h.nodeSelectorTerms
  containers := by
    unfold backUpFully changeWorkspaceContainer removeVolume
    dsimp only
    rw [h.containers, List.map_map, List.map_map]
    refine List.map_congr_left fun cnt _ => ?_
    rw [Function.comp_apply, Function.comp_apply]
    dsimp only
    rw [container_name]
    unfold Variant.container
    by_cases hname : cnt.name = "workspace"
    · simp only [if_pos hname, filter_keeps (keeps_backup v)]
      rfl
    · simp only [if_neg hname, filter_keeps (keeps_backup v)]
  volumes := by
    unfold backUpFully changeWorkspaceContainer removeVolume
    dsimp only
    rw [h.volumes, filter_keeps (keeps_backup v)]

theorem shaped_pullThroughFacade (h : Shaped c o req plain v pod)
    (hpull : pullThroughFacade c o req pod = .ok pod') :
    Shaped c o req plain { v with facade := true } pod' := by
  unfold pullThroughFacade at hpull
  dsimp only at hpull
  split at hpull
  · cases hpull
  · next ispec hispec =>
      cases hpull
      exact
        { name := h.name
          schedulerName := h.schedulerName
          serviceAccountName := h.serviceAccountName
          labels := h.labels
          annotations := fun key => by
            unfold changeWorkspaceContainer removeVolume
            dsimp only
            rw [Map.lookup_insert_eq_ite]
            unfold Variant.annotation
            by_cases hkey : key = workspaceImageSpecAnnotation
            · -- What the pod was to run is noted here, and no other annotation is touched.
              rw [if_pos hkey, if_pos ⟨hkey, rfl⟩, hispec]
              rfl
            · rw [if_neg hkey]
              refine (h.annotations key).trans ?_
              unfold Variant.annotation
              simp only [hkey, false_and, if_false]
          nodeSelectorTerms := by
            unfold changeWorkspaceContainer removeVolume
            dsimp only
            rw [h.nodeSelectorTerms]
            cases v.facade with
            | false => rfl
            | true =>
                -- the labels are gone already
                rw [if_pos rfl, List.map_map]
                refine List.map_congr_left fun term _ => ?_
                rw [Function.comp_apply, List.filter_filter]
                exact List.filter_congr fun label _ => Bool.and_self _
          containers := by
            unfold changeWorkspaceContainer removeVolume
            dsimp only
            rw [h.containers, List.map_map, List.map_map]
            refine List.map_congr_left fun cnt _ => ?_
            rw [Function.comp_apply, Function.comp_apply]
            dsimp only
            rw [container_name]
            unfold Variant.container
            by_cases hname : cnt.name = "workspace"
            · -- Only the container of the workspace gets the image of the facade.
              simp only [if_pos hname, filter_keeps (keeps_facade v)]
              rfl
            · simp only [if_neg hname, filter_keeps (keeps_facade v)]
          volumes := by
            unfold changeWorkspaceContainer removeVolume
            dsimp only
            rw [h.volumes, filter_keeps (keeps_facade v)] }

/-- One turn of the loop, whichever flag it is for. The flags do not get into each other's way,
    as the shape has a place for each of them. -/
theorem shaped_applyFeature (h : Shaped c o req plain v pod)
    (happly : applyFeature c o req pod flag = .ok pod') :
    Shaped c o req plain (v.add flag) pod' := by
  cases flag with
  | noop =>
      cases happly
      exact h
  | privileged =>
      cases happly
      exact shaped_makePrivileged h
  | registryFacade => exact shaped_pullThroughFacade h happly
  | fullWorkspaceBackup => exact shaped_pullThroughFacade (shaped_backUpFully h) happly
  | fixedResources =>
      cases happly
      exact shaped_fixResources h
  | unknown number => cases happly

/-- A flag does not fail, whatever pod it finds. -/
def Works (o : Outside) (req : StartWorkspaceRequest) (flag : WorkspaceFeatureFlag) : Prop :=
  (∀ number, flag ≠ unknown number) ∧
    ((Variant.plain.add flag).facade = true → ∃ ispec, o.toBase64 (imageSpec req) = .ok ispec)

theorem pullThroughFacade_isOk (pod : Pod) :
    (∃ pod', pullThroughFacade c o req pod = .ok pod') ↔
      ∃ ispec, o.toBase64 (imageSpec req) = .ok ispec := by
  unfold pullThroughFacade
  dsimp only
  cases o.toBase64 (imageSpec req) with
  | error err => simp only [reduceCtorEq, exists_false]
  | ok ispec => simp only [Except.ok.injEq, exists_eq']

/-- A flag fails if it has no name, or if it needs an image spec that cannot be written. -/
theorem applyFeature_isOk (pod : Pod) :
    (∃ pod', applyFeature c o req pod flag = .ok pod') ↔ Works o req flag := by
  cases flag with
  | registryFacade =>
      simpa [applyFeature, Works, Variant.add] using @pullThroughFacade_isOk c o req pod
  | fullWorkspaceBackup =>
      simpa [applyFeature, Works, Variant.add] using
        @pullThroughFacade_isOk c o req (backUpFully pod)
  | noop => simp [applyFeature, Works, Variant.add, Variant.plain]
  | privileged => simp [applyFeature, Works, Variant.add, Variant.plain]
  | fixedResources => simp [applyFeature, Works, Variant.add, Variant.plain]
  | unknown number => simp [applyFeature, Works]

/-! ## All flags -/

/-- The whole loop, by induction over the flags that are left. -/
theorem shaped_foldlM {seen : List WorkspaceFeatureFlag}
    (h : Shaped c o req plain (Variant.ofFlags seen) pod)
    (hflags : flags.foldlM (applyFeature c o req) pod = .ok pod') :
    Shaped c o req plain (Variant.ofFlags (flags.reverse ++ seen)) pod' := by
  induction flags generalizing pod seen with
  | nil =>
      cases hflags
      exact h
  | cons flag flags ih =>
      rw [List.foldlM_cons] at hflags
      cases happly : applyFeature c o req pod flag with
      | error err =>
          rw [happly] at hflags
          cases hflags
      | ok next =>
          rw [happly] at hflags
          have hnext := shaped_applyFeature h happly
          rw [← ofFlags_cons] at hnext
          have hrest := ih hnext hflags
          rwa [List.reverse_cons, List.append_assoc, List.singleton_append]

/-- The flags can be gone through when each of them can. -/
theorem foldlM_applyFeature_isOk (pod : Pod) :
    (∃ pod', flags.foldlM (applyFeature c o req) pod = .ok pod') ↔
      ∀ flag ∈ flags, Works o req flag := by
  induction flags generalizing pod with
  | nil => exact ⟨fun _ _ hmem => absurd hmem List.not_mem_nil, fun _ => ⟨pod, rfl⟩⟩
  | cons flag flags ih =>
      rw [List.foldlM_cons, List.forall_mem_cons, ← @applyFeature_isOk c o req flag pod]
      cases applyFeature c o req pod flag with
      | error err =>
          constructor
          · rintro ⟨pod', h⟩
            cases h
          · rintro ⟨⟨pod', h⟩, -⟩
            cases h
      | ok next =>
          constructor
          · intro h
            exact ⟨⟨next, rfl⟩, (ih next).mp h⟩
          · rintro ⟨-, hrest⟩
            exact (ih next).mpr hrest

/-- The request with other flags. -/
def StartWorkspaceContext.withFlags (s : StartWorkspaceContext)
    (flags : List WorkspaceFeatureFlag) : StartWorkspaceContext :=
  { s with request := { s.request with spec := { s.request.spec with featureFlags := flags } } }

/-- A turn of the loop reads the request, but not its flags. -/
theorem applyFeature_withFlags : applyFeature c o (s.withFlags flags).request =
    applyFeature c o s.request := by
  funext pod flag
  cases flag <;> rfl

theorem createDefiniteWorkspacePod_withFlags :
    createDefiniteWorkspacePod c o (s.withFlags flags) = .ok pod ↔
      ∃ plain, plainPod c o s = .ok plain ∧
        flags.foldlM (applyFeature c o s.request) plain = .ok pod := by
  have hplain : plainPod c o (s.withFlags flags) = plainPod c o s := rfl
  unfold createDefiniteWorkspacePod
  rw [hplain, applyFeature_withFlags]
  cases plainPod c o s with
  | error err => simp only [reduceCtorEq, false_and, exists_false]
  | ok plain => simp only [Except.ok.injEq, exists_eq_left']; rfl

/-- What comes out of the loop has the shape of all of its flags. -/
theorem shaped_of_foldlM (h : flags.foldlM (applyFeature c o req) plain = .ok pod) :
    Shaped c o req plain (Variant.ofFlags flags) pod := by
  have hplain : Shaped c o req plain (Variant.ofFlags []) plain := shaped_plain c o req plain
  have hshaped := shaped_foldlM hplain h
  have hmem : ∀ flag, flag ∈ flags.reverse ++ [] ↔ flag ∈ flags := by
    intro flag
    rw [List.append_nil, List.mem_reverse]
  rwa [ofFlags_congr hmem] at hshaped

/-- There is one pod of each shape, up to the order of annotations. -/
theorem same_of_shaped (h : Shaped c o req plain v pod) (h' : Shaped c o req plain v pod') :
    Same pod pod' where
  labels key := (h.labels key).trans (h'.labels key).symm
  annotations key := (h.annotations key).trans (h'.annotations key).symm
  rest := by
    rw [h.name, h.schedulerName, h.serviceAccountName, h.nodeSelectorTerms, h.containers,
      h.volumes, h'.name, h'.schedulerName, h'.serviceAccountName, h'.nodeSelectorTerms,
      h'.containers, h'.volumes]

/-! ## Every pod that is made -/

/-- What a maintainer expects of a pod, whatever was asked for. What is mounted is there, so
    that Kubernetes can start it. Privileges are those that were asked for, and no flag brings
    them along. Theia comes from the node or from the image, and a pod that needs it from the
    node is put on one that has it. And where the content is on no volume it is backed up from
    inside before the container ends, as it would be lost otherwise. -/
structure WellFormed (flags : List WorkspaceFeatureFlag) (theiaVersion : String) (pod : Pod) :
    Prop where
  mounts : ∀ cnt ∈ pod.containers, ∀ name,
    name ∈ cnt.volumeMounts.map VolumeMount.name ↔ name ∈ pod.volumes.map Volume.name
  privileged : ∀ cnt ∈ pod.containers,
    (cnt.securityContext.privileged = true ↔ WorkspaceFeatureFlag.privileged ∈ flags) ∧
      (cnt.securityContext.allowPrivilegeEscalation = true ↔
        WorkspaceFeatureFlag.privileged ∈ flags)
  serviceAccountName :
    pod.serviceAccountName = "workspace-privileged" ↔ WorkspaceFeatureFlag.privileged ∈ flags
  nodes : ∀ term ∈ pod.nodeSelectorTerms, wssyncLabel ∈ term ∧
    (theiaVersionLabel theiaVersion ∈ term ↔ theiaVolumeName ∈ pod.volumes.map Volume.name)
  image : theiaVolumeName ∉ pod.volumes.map Volume.name ↔
    (pod.annotations.lookup workspaceImageSpecAnnotation).isSome = true
  backup : ∀ cnt ∈ pod.containers,
    workspaceVolumeName ∉ pod.volumes.map Volume.name ↔ cnt.preStop.isSome = true

/-- The pod before any flag. -/
structure Plain (c : Config) (s : StartWorkspaceContext) (cnt : Container) (plain : Pod) :
    Prop where
  containers : plain.containers = [cnt]
  name : cnt.name = "workspace"
  image : cnt.image = s.request.spec.workspaceImage
  securityContext : cnt.securityContext = createDefaultSecurityContext
  volumeMounts : cnt.volumeMounts.map VolumeMount.name = [workspaceVolumeName, theiaVolumeName]
  preStop : cnt.preStop = none
  volumes : plain.volumes.map Volume.name = [theiaVolumeName, workspaceVolumeName]
  nodeSelectorTerms : plain.nodeSelectorTerms =
    [[theiaVersionLabel s.request.spec.theiaVersion, wssyncLabel]]
  serviceAccountName : plain.serviceAccountName = "workspace"
  labels : plain.labels =
    Map.insertAll ∅ (("nxpod.khulnasoft.com/networkpolicy", "default") :: s.labels)
  annotations : ∃ initializerConfig admission, s.request.spec.admission = some admission ∧
    plain.annotations = Map.insertAll ∅ (podAnnotations s initializerConfig
      (toLower (admissionLevelName admission)) ++
        if s.request.spec.timeout = "" then []
        else [( customTimeoutAnnotation, s.request.spec.timeout)])

theorem createWorkspaceContainer_ok {cnt : Container}
    (h : createWorkspaceContainer c s = .ok cnt) :
    cnt.name = "workspace" ∧ cnt.image = s.request.spec.workspaceImage ∧
      cnt.securityContext = createDefaultSecurityContext ∧
        cnt.volumeMounts.map VolumeMount.name = [workspaceVolumeName, theiaVolumeName] ∧
          cnt.preStop = none := by
  unfold createWorkspaceContainer at h
  split at h
  · cases h
  · split at h
    · cases h
    · split at h
      · cases h
      · cases h
        exact ⟨rfl, rfl, rfl, rfl, rfl⟩

theorem timeoutAnnotations_ok {timeout : String} {entries : List (String × String)}
    (h : timeoutAnnotations o timeout = .ok entries) :
    entries = if timeout = "" then [] else [( customTimeoutAnnotation, timeout)] := by
  unfold timeoutAnnotations at h
  by_cases htimeout : timeout = ""
  · rw [if_pos htimeout] at h ⊢
    exact (Except.ok.inj h).symm
  · rw [if_neg htimeout] at h ⊢
    split at h
    · cases h
    · exact (Except.ok.inj h).symm

/-- The function that makes the pod before the flags makes one that `Plain` describes. -/
theorem plain_of_plainPod (h : plainPod c o s = .ok plain) : ∃ cnt, Plain c s cnt plain := by
  unfold plainPod at h
  split at h
  · cases h
  · next cnt hcnt =>
      split at h
      · cases h
      · next initializerConfig _ =>
          split at h
          · cases h
          · next admission hadmission =>
              split at h
              · cases h
              · next entries hentries =>
                  cases h
                  rcases createWorkspaceContainer_ok hcnt
                    with ⟨hname, himage, hcontext, hmounts, hstop⟩
                  exact ⟨cnt,
                    { containers := rfl
                      name := hname
                      image := himage
                      securityContext := hcontext
                      volumeMounts := hmounts
                      preStop := hstop
                      volumes := rfl
                      nodeSelectorTerms := rfl
                      serviceAccountName := rfl
                      labels := rfl
                      annotations := ⟨initializerConfig, admission, hadmission, by
                        rw [timeoutAnnotations_ok hentries]⟩ }⟩

/-- The names that are left of a list are those that are kept. -/
theorem mem_names_filter {α : Type} (nameOf : α → String) (keep : String → Bool) (l : List α)
    (name : String) : name ∈ (l.filter (keep <| nameOf ·)).map nameOf ↔
      name ∈ l.map nameOf ∧ keep name = true := by
  constructor
  · intro h
    rcases List.mem_map.mp h with ⟨a, ha, rfl⟩
    exact ⟨List.mem_map_of_mem (List.mem_filter.mp ha).1, (List.mem_filter.mp ha).2⟩
  · rintro ⟨h, hkeep⟩
    rcases List.mem_map.mp h with ⟨a, ha, rfl⟩
    exact List.mem_map_of_mem (List.mem_filter.mpr ⟨ha, hkeep⟩)

/-- Of the two labels, one is that of a version of Theia. -/
theorem isTheiaLabel_theiaVersionLabel (theiaVersion : String) :
    isTheiaLabel (theiaVersionLabel theiaVersion) = true := by
  unfold isTheiaLabel theiaVersionLabel
  rw [String.toList_append]
  exact List.isPrefixOf_iff_prefix.mpr (List.prefix_append _ _)

/-- The names of all of the annotations before the flags. -/
def podAnnotationNames : List String :=
  ["prometheus.io/scrape", "prometheus.io/path", "prometheus.io/port", workspaceIDAnnotation,
    servicePrefixAnnotation, workspaceURLAnnotation, workspaceInitializerAnnotation,
    workspaceNeverReadyAnnotation, workspaceAdmissionAnnotation, ownerTokenAnnotation,
    Stop.traceIDAnnotation]

theorem names_podAnnotations (s : StartWorkspaceContext) (initializerConfig level : String) :
    (podAnnotations s initializerConfig level).map Prod.fst = podAnnotationNames := rfl

theorem lookup_imageSpec {cnt : Container} (hplain : Plain c s cnt plain) :
    plain.annotations.lookup workspaceImageSpecAnnotation = none := by
  rcases hplain.annotations with ⟨initializerConfig, admission, -, hannotations⟩
  rw [hannotations, Map.lookup_insertAll_of_not_mem]
  · rfl
  · have hname : workspaceImageSpecAnnotation ∉ podAnnotationNames := by decide
    have hcustom : workspaceImageSpecAnnotation ≠ customTimeoutAnnotation := by decide
    rw [List.map_append, List.mem_append, names_podAnnotations]
    rintro (h | h)
    · exact hname h
    · split_ifs at h
      · exact absurd h List.not_mem_nil
      · exact hcustom (List.mem_singleton.mp h)

theorem eq_container {cnt : Container} (hplain : Plain c s cnt plain)
    (h : Shaped c o s.request plain (Variant.ofFlags flags) pod) {cnt' : Container}
    (hcnt' : cnt' ∈ pod.containers) :
    cnt' = (Variant.ofFlags flags).container c s.request cnt := by
  rw [h.containers, hplain.containers] at hcnt'
  exact List.mem_singleton.mp hcnt'

theorem mem_volumes_iff {cnt : Container} (hplain : Plain c s cnt plain)
    (h : Shaped c o s.request plain (Variant.ofFlags flags) pod) (name : String) :
    name ∈ pod.volumes.map Volume.name ↔ (name = theiaVolumeName ∨ name = workspaceVolumeName) ∧
      (Variant.ofFlags flags).keeps name = true := by
  rw [h.volumes, mem_names_filter, hplain.volumes]
  simp only [List.mem_cons, List.not_mem_nil, or_false]

/-- Theia comes from the node as long as nobody asked for the registry facade. -/
theorem theiaVolume_iff {cnt : Container} (hplain : Plain c s cnt plain)
    (h : Shaped c o s.request plain (Variant.ofFlags flags) pod) :
    theiaVolumeName ∈ pod.volumes.map Volume.name ↔ (Variant.ofFlags flags).facade = false := by
  rw [mem_volumes_iff hplain h]
  unfold Variant.keeps
  cases (Variant.ofFlags flags).backup <;> cases (Variant.ofFlags flags).facade <;> decide

theorem workspaceVolume_iff {cnt : Container} (hplain : Plain c s cnt plain)
    (h : Shaped c o s.request plain (Variant.ofFlags flags) pod) :
    workspaceVolumeName ∈ pod.volumes.map Volume.name ↔ (Variant.ofFlags flags).backup = false := by
  rw [mem_volumes_iff hplain h]
  unfold Variant.keeps
  cases (Variant.ofFlags flags).backup <;> cases (Variant.ofFlags flags).facade <;> decide

/-- The node has ws-sync, and Theia if that is mounted. -/
theorem nodes_of_shaped {cnt : Container} (hplain : Plain c s cnt plain)
    (h : Shaped c o s.request plain (Variant.ofFlags flags) pod) {term : List String}
    (hterm : term ∈ pod.nodeSelectorTerms) :
    wssyncLabel ∈ term ∧ (theiaVersionLabel s.request.spec.theiaVersion ∈ term ↔
      theiaVolumeName ∈ pod.volumes.map Volume.name) := by
  rw [theiaVolume_iff hplain h]
  rw [h.nodeSelectorTerms, hplain.nodeSelectorTerms] at hterm
  cases hfacade : (Variant.ofFlags flags).facade with
  | false =>
      rw [hfacade] at hterm
      rw [List.mem_singleton.mp hterm]
      simp only [List.mem_cons, true_or, or_true, and_self]
  | true =>
      -- one of the two labels is left
      have hlabel := isTheiaLabel_theiaVersionLabel s.request.spec.theiaVersion
      have hwssync : isTheiaLabel wssyncLabel = false := by decide
      have hne : theiaVersionLabel s.request.spec.theiaVersion ≠ wssyncLabel := by
        intro heq
        rw [heq, hwssync] at hlabel
        cases hlabel
      rw [hfacade, if_pos rfl, List.map_singleton] at hterm
      rw [List.mem_singleton.mp hterm]
      simp [hlabel, hwssync, hne]

/-- The image spec is on the pod exactly if the image comes through the registry facade. -/
theorem lookup_imageSpec_of_shaped {cnt : Container} (hplain : Plain c s cnt plain)
    (h : Shaped c o s.request plain (Variant.ofFlags flags) pod)
    (hworks : ∀ flag ∈ flags, Works o s.request flag) :
    (Variant.ofFlags flags).facade = false ∧
        pod.annotations.lookup workspaceImageSpecAnnotation = none ∨
      (Variant.ofFlags flags).facade = true ∧
        ∃ ispec, pod.annotations.lookup workspaceImageSpecAnnotation = some ispec ∧
          o.toBase64 (imageSpec s.request) = .ok ispec := by
  rw [h.annotations, Variant.annotation]
  cases hfacade : (Variant.ofFlags flags).facade with
  | false =>
      refine .inl ⟨rfl, ?_⟩
      rw [if_neg (fun h => Bool.false_ne_true h.2), if_neg (fun h => absurd h.1 (by decide)),
        if_neg (fun h => absurd h.1 (by decide)), lookup_imageSpec hplain]
  | true =>
      -- some flag has written it, and did not fail
      rcases exists_facade hfacade with ⟨flag, hmem, hflag⟩
      rcases (hworks flag hmem).2 hflag with ⟨ispec, hispec⟩
      refine .inr ⟨rfl, ispec, ?_, hispec⟩
      rw [if_pos ⟨rfl, rfl⟩, hispec]
      rfl

theorem wellFormed_of_shaped {cnt : Container} (hplain : Plain c s cnt plain)
    (h : Shaped c o s.request plain (Variant.ofFlags flags) pod)
    (hworks : ∀ flag ∈ flags, Works o s.request flag) :
    WellFormed flags s.request.spec.theiaVersion pod where
  mounts cnt' hcnt' name := by
    rw [mem_volumes_iff hplain h, eq_container hplain h hcnt', Variant.container,
      if_pos hplain.name]
    dsimp only
    rw [mem_names_filter, hplain.volumeMounts]
    simp only [List.mem_cons, List.not_mem_nil, or_false]
    exact and_congr_left' or_comm
  privileged cnt' hcnt' := by
    rw [eq_container hplain h hcnt', Variant.container, if_pos hplain.name]
    unfold Variant.securityContext Variant.ofFlags
    dsimp only
    rw [hplain.securityContext]
    by_cases hmem : WorkspaceFeatureFlag.privileged ∈ flags <;>
      simp [hmem, createDefaultSecurityContext, privilegedContext]
  serviceAccountName := by
    rw [h.serviceAccountName, hplain.serviceAccountName]
    unfold Variant.ofFlags
    by_cases hmem : WorkspaceFeatureFlag.privileged ∈ flags <;> simp [hmem]
  nodes term hterm := nodes_of_shaped hplain h hterm
  image := by
    rw [theiaVolume_iff hplain h]
    rcases lookup_imageSpec_of_shaped hplain h hworks with
      ⟨hfacade, hnone⟩ | ⟨hfacade, ispec, hispec, -⟩
    · rw [hfacade, hnone]
      decide
    · rw [hfacade, hispec]
      exact ⟨fun _ => rfl, fun _ h => Bool.false_ne_true h.symm⟩
  backup cnt' hcnt' := by
    rw [workspaceVolume_iff hplain h, eq_container hplain h hcnt', Variant.container,
      if_pos hplain.name]
    dsimp only
    rw [hplain.preStop]
    cases (Variant.ofFlags flags).backup <;> decide

/-- The pod is well formed, and any request with the same flags, in whatever order and however
    often, gets the same pod. So who composes a request does not have to know in which order the
    loop goes through the flags, nor that two of them do in part the same; and what the other
    components expect of a workspace pod holds for each request that is not refused. -/
theorem createDefiniteWorkspacePod_ok
    (h : createDefiniteWorkspacePod c o (s.withFlags flags) = .ok pod) :
    WellFormed flags s.request.spec.theiaVersion pod ∧
      ∀ flags', (∀ flag, flag ∈ flags' ↔ flag ∈ flags) →
        ∃ pod', createDefiniteWorkspacePod c o (s.withFlags flags') = .ok pod' ∧ Same pod pod' := by
  rcases createDefiniteWorkspacePod_withFlags.mp h with ⟨plain, hplain, hfold⟩
  have hworks : ∀ flag ∈ flags, Works o s.request flag :=
    (foldlM_applyFeature_isOk plain).mp ⟨pod, hfold⟩
  rcases plain_of_plainPod hplain with ⟨cnt, hcnt⟩
  refine ⟨wellFormed_of_shaped hcnt (shaped_of_foldlM hfold) hworks, fun flags' hflags => ?_⟩
  have hworks' : ∀ flag ∈ flags', Works o s.request flag :=
    fun flag hmem => hworks flag ((hflags flag).mp hmem)
  rcases (@foldlM_applyFeature_isOk c o s.request flags' plain).mpr hworks' with ⟨pod', hfold'⟩
  refine ⟨pod', createDefiniteWorkspacePod_withFlags.mpr ⟨plain, hplain, hfold'⟩, ?_⟩
  have hshaped' := shaped_of_foldlM hfold'
  rw [ofFlags_congr hflags] at hshaped'
  exact same_of_shaped (shaped_of_foldlM hfold) hshaped'

/-! ## One request -/

/-- A configuration from which a pod can be made. -/
def exampleConfig : Config where
  nxpodHostURL := "https://nxpod.io"
  theiaSupervisorToken := "token"
  heartbeatInterval := Duration.clamp 30000000000
  limits := .ok ⟨"4", 8000000000⟩
  requests := .ok ⟨"1", 2000000000⟩
  schedulerName := "workspace-scheduler"
  theiaHostPath := "/mnt/theia"
  workspaceHostPath := ["mnt", "workspaces"]
  registryFacadeHost := "reg.nxpod.io"

/-- A message with one image, and one timeout. -/
def oneImage : Outside where
  renderWorkspaceURL id _ _ := .ok s!"https://{id}.ws.nxpod.io"
  randRead _ := .ok (List.replicate 32 0)
  traceID := ""
  parseDuration text :=
    if text = "60m" then .ok (Duration.clamp 3600000000000) else .error "invalid duration"
  toBase64 spec :=
    if spec.baseRef = "registry/workspace:1" ∧ spec.theiaVersion = "v1.2.3" then
      .ok "ChRyZWdpc3RyeS93b3Jrc3BhY2U6MRIGdjEuMi4z"
    else .error "another image"

/-- Two flags that ask for the same, and one that asks for more. -/
def requestWithFlags : StartWorkspaceRequest where
  id := "instance"
  servicePrefix := "instance"
  owner := "owner"
  metaId := "workspace"
  type := some .regular
  spec :=
    { workspaceImage := "registry/workspace:1"
      theiaVersion := "v1.2.3"
      featureFlags := [.registryFacade, .privileged, .fullWorkspaceBackup]
      initializer := .ok ""
      envvars := []
      checkoutLocation := "repo"
      workspaceLocation := "repo"
      git := none
      timeout := ""
      admission := some .admitOwnerOnly }

/-- A start context for the request with flags. -/
def contextWithFlags : StartWorkspaceContext where
  request := requestWithFlags
  labels := [("app", "nxpod"), ("component", "workspace"), ("workspaceID", "instance"),
    ("owner", "owner"), ("metaID", "workspace"), ("workspaceType", "regular"),
    ("headless", "false"), ("gpwsman", "true")]
  cliAPIKey := "!!!!!!!!!!!!!!!!!!!!!!!!!!!!!!!!"
  ownerToken := "!!!!!!!!!!!!!!!!!!!!!!!!!!!!!!!!"
  theiaPort := 23000
  theiaSupervisorPort := 22999
  workspaceURL := "https://instance.ws.nxpod.io"
  traceID := ""
  headless := false

theorem wellFormed_requestWithFlags : ∃ pod pod',
    createDefiniteWorkspacePod exampleConfig oneImage contextWithFlags = .ok pod ∧
      WellFormed requestWithFlags.spec.featureFlags "v1.2.3" pod ∧
        createDefiniteWorkspacePod exampleConfig oneImage (contextWithFlags.withFlags
          [.privileged, .fullWorkspaceBackup, .registryFacade, .privileged]) = .ok pod' ∧
          Same pod pod' := by
  have hsame : ∀ flag : WorkspaceFeatureFlag,
      flag ∈ [.privileged, .fullWorkspaceBackup, .registryFacade, .privileged] ↔
        flag ∈ requestWithFlags.spec.featureFlags := by
    intro flag
    simp only [requestWithFlags, List.mem_cons, List.not_mem_nil, or_false]
    tauto
  have hmade : ∀ pod, createDefiniteWorkspacePod exampleConfig oneImage
      (contextWithFlags.withFlags requestWithFlags.spec.featureFlags) = .ok pod →
      ∃ pod pod', createDefiniteWorkspacePod exampleConfig oneImage contextWithFlags = .ok pod ∧
        WellFormed requestWithFlags.spec.featureFlags "v1.2.3" pod ∧
          createDefiniteWorkspacePod exampleConfig oneImage (contextWithFlags.withFlags
            [.privileged, .fullWorkspaceBackup, .registryFacade, .privileged]) = .ok pod' ∧
            Same pod pod' := by
    intro pod h
    rcases createDefiniteWorkspacePod_ok h with ⟨hwellFormed, hcongr⟩
    rcases hcongr _ hsame with ⟨pod', hpod', hsame'⟩
    exact ⟨pod, pod', h, hwellFormed, hpod', hsame'⟩
  exact hmade _ rfl

end Create

end WsManager

end Nxpod
