import Nxpod.Content.Git
import Nxpod.Library.Duration
import Nxpod.Library.Keyed

/-!
# The Environment of a Workspace

`createWorkspaceEnvironment` of ws-manager lists the environment variables of a
workspace container. Some are computed from the configuration and the start
request, and some come with the request. Of several variables with one name, the
container runtime takes the last one.

Variables of a request whose names start with `NXPOD_` are left out, except for
two. Those that start with `THEIA_` are not, although four of the variables that
are computed start like that. These four come before the ones of the request,
which replace them.

How much memory is requested is read from the configuration, as a number of
bytes or an error.

## Main definitions

* `EnvVar`: A variable as the container gets it.
* `Config`, `StartContext`: What the variables are computed from.
* `createWorkspaceEnvironment`: All variables, without the empty ones.
* `effective`: The value that a name has in the container.
* `computedNames`: The names of the variables that are computed.
* `AddsOnly`: Requested variables only add other names.
* `NonInterfering`: The computed variables are not up to the variables of the request.
* `AsksForTheia`: A request asks for one of the four names.

## Theorems

* `environment_perm`: What is added to the computed variables.
* `effective_of_not_asksForTheia`: The values of the computed names.
* `addsOnly_iff`: When a list only adds other names.
* `nonInterfering_iff`: When two lists make no difference.
-/

namespace Nxpod

namespace WsManager

namespace Environment

open Content.Git (Path)
open Keyed

/-! ## The variables -/

/-- A variable as the container gets it. Names may occur more than once. -/
structure EnvVar where
  name : String
  value : String
  deriving DecidableEq

/-- Who the commits are by. -/
structure GitSpec where
  username : String
  email : String

/-- What is read of the start request and its context. -/
structure StartContext where
  id : String
  metaId : String
  cliAPIKey : String
  theiaPort : Int
  theiaSupervisorPort : Int
  workspaceURL : String
  headless : Bool
  checkoutLocation : String
  workspaceLocation : String
  git : Option GitSpec

/-- What is read of the configuration of ws-manager. -/
structure Config where
  nxpodHostURL : String
  theiaSupervisorToken : String
  heartbeatInterval : Duration
  requestedMemory : Except String Int

/-- A place in the workspace as the container sees it. -/
def getWorkspaceRelativePath (segment : String) : String :=
  Path.toString (Path.join ["workspace"] segment)

/-- The variables in front of those of the request. -/
def systemVars (c : Config) (s : StartContext) : List EnvVar :=
  [⟨"NXPOD_REPO_ROOT", getWorkspaceRelativePath s.checkoutLocation⟩,
    ⟨"NXPOD_CLI_APITOKEN", s.cliAPIKey⟩,
    ⟨"NXPOD_WORKSPACE_ID", s.metaId⟩,
    ⟨"NXPOD_INSTANCE_ID", s.id⟩,
    ⟨"NXPOD_THEIA_PORT", toString s.theiaPort⟩,
    ⟨"THEIA_WORKSPACE_ROOT", getWorkspaceRelativePath s.workspaceLocation⟩,
    ⟨"NXPOD_HOST", c.nxpodHostURL⟩,
    ⟨"NXPOD_WORKSPACE_URL", s.workspaceURL⟩,
    ⟨"THEIA_SUPERVISOR_TOKEN", c.theiaSupervisorToken⟩,
    ⟨"THEIA_SUPERVISOR_ENDPOINT", s!":{s.theiaSupervisorPort}"⟩,
    ⟨"THEIA_WEBVIEW_EXTERNAL_ENDPOINT", "webview-\x7b\x7bhostname\x7d\x7d"⟩] ++
  match s.git with
  | none => []
  | some git =>
      [⟨"NXPOD_GIT_USER_NAME", git.username⟩, ⟨"NXPOD_GIT_USER_EMAIL", git.email⟩]

/-- The prefix of the names that are kept for the system. -/
def hasNxpodPrefix (name : String) : Bool := "NXPOD_".toList.isPrefixOf name.toList

/-- Those that start with `NXPOD_` and may still be requested are listed. -/
def isAllowed (e : EnvVar) : Bool :=
  if e.name = "NXPOD_TASKS" ∨ e.name = "NXPOD_RESOLVED_EXTENSIONS" then true
  else !hasNxpodPrefix e.name

/-- The variables behind those of the request. -/
def trailingVars (c : Config) (s : StartContext) (requestedMemory : Int) : List EnvVar :=
  [⟨"NXPOD_INTERVAL", toString (c.heartbeatInterval.ns.tdiv 1000000)⟩,
    ⟨"NXPOD_MEMORY", toString (requestedMemory.tdiv (1000 * 1000))⟩] ++
  if s.headless then [⟨"NXPOD_HEADLESS", "true"⟩] else []

/-- A variable without a value is left out. -/
def isFilled (e : EnvVar) : Bool := e.name ≠ "" && e.value ≠ ""

/-- `envvars` are those of the request. -/
def createWorkspaceEnvironment (c : Config) (s : StartContext) (envvars : List EnvVar) :
    Except String (List EnvVar) :=
  match c.requestedMemory with
  | .error err => .error s!"cannot create environment: {err}"
  | .ok requestedMemory => .ok
      ((systemVars c s ++ envvars.filter isAllowed ++
        trailingVars c s requestedMemory).filter isFilled)

/-! ## What the container gets -/

/-- The last variable of a name wins. -/
def effective (env : List EnvVar) (name : String) : Option String :=
  (findLast EnvVar.name name env).map EnvVar.value

/-- The computed variables that are not protected. -/
def theiaNames : List String :=
  ["THEIA_WORKSPACE_ROOT", "THEIA_SUPERVISOR_TOKEN", "THEIA_SUPERVISOR_ENDPOINT",
    "THEIA_WEBVIEW_EXTERNAL_ENDPOINT"]

/-- The names with the prefix that are computed, in the order of the source. -/
def nxpodNames : List String :=
  ["NXPOD_REPO_ROOT", "NXPOD_CLI_APITOKEN", "NXPOD_WORKSPACE_ID", "NXPOD_INSTANCE_ID",
    "NXPOD_THEIA_PORT", "NXPOD_HOST", "NXPOD_WORKSPACE_URL", "NXPOD_GIT_USER_NAME",
    "NXPOD_GIT_USER_EMAIL", "NXPOD_INTERVAL", "NXPOD_MEMORY", "NXPOD_HEADLESS"]

/-- All names that are computed, with and without protection. -/
def computedNames : List String := nxpodNames ++ theiaNames

/-- Next to the variables that are there without a request, the environment has only requested ones,
    and of these none has a computed name. The order does not matter here, since the names are
    different. -/
def AddsOnly (u base env : List EnvVar) : Prop :=
  ∃ added, env.Perm (base ++ added) ∧ ∀ e ∈ added, e ∈ u ∧ e.name ∉ computedNames

/-- The values of the computed variables, which are all there is without a request, are the same in
    both environments, and each list only adds other names to them. -/
structure NonInterfering (u v base env env' : List EnvVar) : Prop where
  computed : ∀ e ∈ base, e.name ∈ computedNames
  same : ∀ n ∈ computedNames, effective env n = effective env' n
  adds : AddsOnly u base env
  adds' : AddsOnly v base env'

/-- A list asks for one of the names that are computed and not protected. -/
def AsksForTheia (envvars : List EnvVar) : Prop :=
  ∃ e ∈ envvars, isFilled e = true ∧ e.name ∈ theiaNames

theorem effective_append (env env' : List EnvVar) (name : String) :
    effective (env ++ env') name = (effective env' name).or (effective env name) := by
  rw [effective, findLast_concat, effective, effective]
  cases findLast EnvVar.name name env' <;> rfl

theorem effective_eq_none {env : List EnvVar} {name : String} (h : ∀ e ∈ env, e.name ≠ name) :
    effective env name = none := by
  rw [effective, Option.map_eq_none_iff]
  by_contra hne
  rcases List.mem_map.mp (findLast_ne_none_iff.mp hne) with ⟨e, he, hname⟩
  exact h e he hname

variable {c : Config} {s : StartContext} {u v : List EnvVar}

/-- The variables behind those of the request come first, and those in front of them last. -/
theorem effective_environment {env : List EnvVar} {m : Int} (name : String)
    (henv : env = (systemVars c s ++ u.filter isAllowed ++ trailingVars c s m).filter isFilled) :
    effective env name = (effective ((trailingVars c s m).filter isFilled) name).or
      ((effective ((u.filter isAllowed).filter isFilled) name).or
        (effective ((systemVars c s).filter isFilled) name)) := by
  rw [henv, List.filter_append, List.filter_append, effective_append, effective_append]

/-- The value of a variable has no say in whether it is allowed. -/
theorem isAllowed_name (e : EnvVar) : isAllowed e = isAllowed ⟨e.name, ""⟩ := rfl

theorem isAllowed_nxpod : ∀ n ∈ nxpodNames, isAllowed ⟨n, ""⟩ = false := by decide

theorem isAllowed_theia : ∀ n ∈ theiaNames, isAllowed ⟨n, ""⟩ = true := by decide

theorem names_systemVars : ∀ e ∈ systemVars c s, e.name ∈ computedNames := by
  unfold systemVars
  cases s.git with
  | none => simp [computedNames, nxpodNames, theiaNames]
  | some git => simp [computedNames, nxpodNames, theiaNames]

theorem names_trailingVars (m : Int) : ∀ e ∈ trailingVars c s m, e.name ∈ computedNames := by
  unfold trailingVars
  cases s.headless with
  | false => simp [computedNames, nxpodNames, theiaNames]
  | true => simp [computedNames, nxpodNames, theiaNames]

/-- Without a request there is nothing but what is computed. -/
theorem names_environment (m : Int) :
    ∀ e ∈ (systemVars c s ++ [].filter isAllowed ++ trailingVars c s m).filter isFilled,
      e.name ∈ computedNames := by
  intro e he
  have hmem := (List.mem_filter.mp he).1
  rw [List.filter_nil, List.append_nil, List.mem_append] at hmem
  rcases hmem with hsystem | htrailing
  · exact names_systemVars e hsystem
  · exact names_trailingVars m e htrailing

/-- The variables of a request that get into the environment. -/
def added (envvars : List EnvVar) : List EnvVar := (envvars.filter isAllowed).filter isFilled

/-- What a request adds is what is filled and not filtered out. -/
theorem mem_added {e : EnvVar} :
    e ∈ added u ↔ e ∈ u ∧ isAllowed e = true ∧ isFilled e = true := by
  rw [added, List.mem_filter, List.mem_filter, and_assoc]

/-- A computed name that starts with `NXPOD_` is never added, and the others are added as they are
    requested. -/
theorem forall_added_iff :
    (∀ e ∈ added u, e.name ∉ computedNames) ↔ ¬ AsksForTheia u := by
  constructor
  · rintro h ⟨e, he, hfilled, hname⟩
    have hallowed : isAllowed e = true := (isAllowed_name e).trans (isAllowed_theia e.name hname)
    exact h e (mem_added.mpr ⟨he, hallowed, hfilled⟩) (List.mem_append_right _ hname)
  · intro h e he hname
    rcases mem_added.mp he with ⟨hu, hallowed, hfilled⟩
    rcases List.mem_append.mp hname with hnxpod | htheia
    · rw [isAllowed_name, isAllowed_nxpod e.name hnxpod] at hallowed
      cases hallowed
    · exact h ⟨e, hu, hfilled, htheia⟩

/-- The requested variables stand between the computed ones. -/
theorem environment_eq (m : Int) :
    (systemVars c s ++ u.filter isAllowed ++ trailingVars c s m).filter isFilled =
      (systemVars c s).filter isFilled ++ added u ++ (trailingVars c s m).filter isFilled := by
  rw [List.filter_append, List.filter_append, added]

/-- The variables of an environment are those of one without a request, and what is added. -/
theorem environment_perm (m : Int) :
    ((systemVars c s ++ u.filter isAllowed ++ trailingVars c s m).filter isFilled).Perm
      ((systemVars c s ++ [].filter isAllowed ++ trailingVars c s m).filter isFilled ++
        added u) := by
  have hnone : added [] = [] := rfl
  rw [environment_eq, environment_eq, hnone, List.append_nil, List.append_assoc, List.append_assoc]
  exact List.Perm.append_left _ List.perm_append_comm

/-- What is added is up to the environments alone, so that it has a computed name or has not. -/
theorem addsOnly_iff (m : Int) :
    AddsOnly u ((systemVars c s ++ [].filter isAllowed ++ trailingVars c s m).filter isFilled)
      ((systemVars c s ++ u.filter isAllowed ++ trailingVars c s m).filter isFilled) ↔
    ¬ AsksForTheia u := by
  rw [← forall_added_iff]
  constructor
  · rintro ⟨other, hperm, hother⟩ e he
    have hsame := (List.perm_append_left_iff _).mp ((environment_perm m).symm.trans hperm)
    exact (hother e (hsame.subset he)).2
  · intro h
    exact ⟨added u, environment_perm m, fun e he => ⟨(mem_added.mp he).1, h e he⟩⟩

/-- A computed name has the value that it has without a request. -/
theorem effective_of_not_asksForTheia {m : Int} {n : String} (h : ¬ AsksForTheia u)
    (hn : n ∈ computedNames) :
    effective ((systemVars c s ++ u.filter isAllowed ++ trailingVars c s m).filter isFilled) n =
      (effective ((trailingVars c s m).filter isFilled) n).or
        (effective ((systemVars c s).filter isFilled) n) := by
  have hadded : effective (added u) n = none :=
    effective_eq_none fun e he heq => forall_added_iff.mpr h e he (heq ▸ hn)
  rw [environment_eq, effective_append, effective_append, hadded, Option.none_or]

/-- For every start context and every two lists of variables in a request: unless there is no
    environment at all, the lists make no difference to the computed variables and only add other
    names exactly when neither asks for one of the four names that are computed and not protected.
    Among these is the token that the supervisor is called with. -/
theorem nonInterfering_iff (c : Config) (s : StartContext) (u v : List EnvVar) :
    (∀ base env env', createWorkspaceEnvironment c s [] = .ok base →
      createWorkspaceEnvironment c s u = .ok env → createWorkspaceEnvironment c s v = .ok env' →
        NonInterfering u v base env env') ↔
    (∃ err, c.requestedMemory = .error err) ∨ ¬ AsksForTheia u ∧ ¬ AsksForTheia v := by
  unfold createWorkspaceEnvironment
  cases c.requestedMemory with
  | error err => exact iff_of_true (fun _ _ _ h => nomatch h) (.inl ⟨err, rfl⟩)
  | ok m =>
      rw [or_iff_right (fun ⟨_, h⟩ => nomatch h)]
      constructor
      · intro h
        have hboth := h _ _ _ rfl rfl rfl
        exact ⟨(addsOnly_iff m).mp hboth.adds, (addsOnly_iff m).mp hboth.adds'⟩
      · rintro ⟨hu, hv⟩ base env env' hbase henv henv'
        rw [← Except.ok.inj hbase, ← Except.ok.inj henv, ← Except.ok.inj henv']
        refine ⟨names_environment m, fun n hn => ?_, (addsOnly_iff m).mpr hu,
          (addsOnly_iff m).mpr hv⟩
        rw [effective_of_not_asksForTheia hu hn, effective_of_not_asksForTheia hv hn]

/-- A configuration with a token that is not to be known. -/
def exampleConfig : Config where
  nxpodHostURL := "host"
  theiaSupervisorToken := "secret"
  heartbeatInterval := .clamp 30000000000
  requestedMemory := .ok 1000000000

/-- A workspace that may be started with any request. -/
def exampleContext : StartContext where
  id := "id"
  metaId := "metaID"
  cliAPIKey := "key"
  theiaPort := 23000
  theiaSupervisorPort := 22999
  workspaceURL := "url"
  headless := false
  checkoutLocation := "repo"
  workspaceLocation := "repo"
  git := none

/-- A request replaces the token of the supervisor. -/
theorem token_replaced :
    ∃ env env', createWorkspaceEnvironment exampleConfig exampleContext [] = .ok env ∧
      createWorkspaceEnvironment exampleConfig exampleContext
        [⟨"THEIA_SUPERVISOR_TOKEN", "mine"⟩] = .ok env' ∧
      effective env "THEIA_SUPERVISOR_TOKEN" = some "secret" ∧
      effective env' "THEIA_SUPERVISOR_TOKEN" = some "mine" ∧
      ¬ NonInterfering [] [⟨"THEIA_SUPERVISOR_TOKEN", "mine"⟩] env env env' := by
  have hsecret : ∃ env env', createWorkspaceEnvironment exampleConfig exampleContext [] = .ok env ∧
      createWorkspaceEnvironment exampleConfig exampleContext
        [⟨"THEIA_SUPERVISOR_TOKEN", "mine"⟩] = .ok env' ∧
      effective env "THEIA_SUPERVISOR_TOKEN" = some "secret" ∧
      effective env' "THEIA_SUPERVISOR_TOKEN" = some "mine" :=
    ⟨_, _, rfl, rfl, by decide, by decide⟩
  rcases hsecret with ⟨env, env', henv, henv', hold, hnew⟩
  refine ⟨env, env', henv, henv', hold, hnew, fun h => ?_⟩
  have hsame := h.same "THEIA_SUPERVISOR_TOKEN" (by decide)
  rw [hold, hnew] at hsame
  exact absurd hsame (by decide)

end Environment

end WsManager

end Nxpod
