import Nxpod.WsProxy.Auth
import Nxpod.WsProxy.Cookies

/-!
# Routes of the Workspace Proxy

The routes a request can take once the workspace router has decided that it is
for the IDE of a workspace or for one of its ports. Every route for the IDE
that leads to the workspace's pod has the authorization in its middleware,
except the two which report readiness. The last route serves static files from
elsewhere, and its fallback to the pod is authorized where it is installed.

The routes for ports have no authorization at all, although the authorization
knows what to do with a port. So whatever address of a port can be resolved is
reached without it, and nothing else in the proxy checks.

The library that fills in and parses the addresses, the handler for
cross-origin requests and the authorization are arbitrary.

## Main definitions

* `WorkspacePodConfig`: How the addresses of pods are made.
* `Config`, `RouteHandlerConfig`: What the routes are configured with.
* `buildWorkspacePodURL`, `TargetResolver.resolve`: Where to forward to.
* `ProxyPassConfig`: The options a route may have.
* `proxyPass`: The handler that forwards.
* `RouterContents`: What is installed on a router.
* `RouteHandlers`: One handler for each route of the IDE, in the order of the
  source.
* `theiaRootHandler` and so on: The contents of each route.
* `installTheiaRoutes`, `installWorkspacePortRoutes`: All routes.
* `RouterKind`: The router the workspace router chose for the request.
* `serve`: What happens to a request.
* `AuthCovered`: The request is authorized before it reaches a pod.

## Theorems

* `proxyPass_resolved`, `proxyPass_unresolved`: What forwarding comes to.
* `authCovered_theia`: Every request for an IDE is covered.
* `authCovered_port_iff`: Requests for a port are not, if it can be resolved.
* `authCovered_iff`: Both at once.
* `port_unauthorized`: A request for a port that nobody authorized.
-/

namespace Nxpod

namespace WsProxy

open Router

/-- Where the static files of the IDE come from. -/
structure TheiaServer where
  scheme : String
  host : String
  staticVersionPathPrefix : String

/-- The installation that the proxy belongs to. -/
structure NxpodInstallation where
  hostName : String

/-- How the addresses of pods are made. -/
structure WorkspacePodConfig where
  serviceTemplate : String
  portServiceTemplate : String
  theiaPort : UInt16
  supervisorPort : UInt16

/-- What is read of the configuration of ws-proxy. -/
structure Config where
  theiaServer : TheiaServer
  nxpodInstallation : NxpodInstallation
  workspacePodConfig : WorkspacePodConfig

/-- What the routes are configured with. The first two functions stand for the
    libraries that execute a template and parse a URL. `corsAnswer` is the
    status with which the handler for cross-origin requests answers a request
    itself, `connects` says which targets the transport can reach, and
    `authVerdict` is what the authorization decides. Without further options it
    lets every request through. -/
structure RouteHandlerConfig where
  executeTemplate : String → List (String × String) → Option String
  parseURL : String → Option Url
  config : Config
  connects : Url → Bool
  corsAnswer : Request → Option Nat
  authVerdict : Request → Verdict := fun _ => .serve

/-- Authorization with what a provider knows about workspaces. -/
def withDefaultAuth (info : String → Option WorkspaceInfo) (c : RouteHandlerConfig) :
    RouteHandlerConfig :=
  { c with authVerdict := workspaceAuth c.config.nxpodInstallation.hostName info }

variable (config : RouteHandlerConfig)

/-- The template is filled in, and the result is parsed. Both may fail. -/
def buildWorkspacePodURL (tmpl workspaceID port : String) : Option Url :=
  (config.executeTemplate tmpl [("workspaceID", workspaceID), ("port", port)]).bind config.parseURL

/-- The IDE in the pod of the workspace. -/
def workspacePodResolver (req : Request) : Option Url :=
  let pod := config.config.workspacePodConfig
  buildWorkspacePodURL config pod.serviceTemplate req.workspaceID (toString pod.theiaPort)

/-- A port of the workspace. -/
def workspacePodPortResolver (req : Request) : Option Url :=
  let pod := config.config.workspacePodConfig
  buildWorkspacePodURL config pod.portServiceTemplate req.workspaceID req.workspacePort

/-- The supervisor in the pod of the workspace. -/
def workspacePodSupervisorResolver (req : Request) : Option Url :=
  let pod := config.config.workspacePodConfig
  buildWorkspacePodURL config pod.serviceTemplate req.workspaceID (toString pod.supervisorPort)

/-- The server for static files, which is always known. -/
def staticTheiaResolver (_ : Request) : Option Url :=
  let server := config.config.theiaServer
  some ⟨server.scheme, server.host, server.staticVersionPathPrefix⟩

/-- What each of the targets is resolved to. -/
def TargetResolver.resolve : TargetResolver → Request → Option Url
  | .staticTheiaResolver => WsProxy.staticTheiaResolver config
  | .workspacePodResolver => WsProxy.workspacePodResolver config
  | .workspacePodPortResolver => WsProxy.workspacePodPortResolver config
  | .workspacePodSupervisorResolver => WsProxy.workspacePodSupervisorResolver config

/-- The options a route may have. -/
structure ProxyPassConfig where
  redirectsOnError : Bool := false
  websocketSupport : Bool := false

/-- An option changes the configuration. -/
abbrev ProxyPassOpt := ProxyPassConfig → ProxyPassConfig

/-- The error handler redirects to the start page of the workspace. -/
def withOnProxyErrorRedirectToWorkspaceStartHandler : ProxyPassOpt := fun h =>
  { h with redirectsOnError := true }

/-- Requests for a websocket are passed on as such. -/
def withWebsocketSupport : ProxyPassOpt := fun h => { h with websocketSupport := true }

/-- How a client asks for one. -/
def isWebsocketRequest (req : Request) : Bool :=
  req.get "Connection" = "upgrade" && req.get "Upgrade" = "websocket"

/-- The scheme of a websocket is another one. -/
def websocketURL (url : Url) : Url :=
  if url.scheme = "https" then { url with scheme := "wss" }
  else if url.scheme = "http" then { url with scheme := "ws" }
  else url

/-- A handler that returns without writing anything has responded with 200. -/
def proxyPass (resolver : TargetResolver) (opts : List ProxyPassOpt) : Handler Request Event :=
  fun req =>
    let h := opts.foldl (fun h o => o h) {}
    match resolver.resolve config req with
    | none => [.respond 200]
    | some targetURL =>
      if h.websocketSupport && isWebsocketRequest req then
        [.forward resolver (websocketURL targetURL)]
      else if config.connects targetURL then [.forward resolver targetURL]
      else [.forward resolver targetURL, .respond (if h.redirectsOnError then 302 else 200)]

/-- The handler only adds to what is logged. -/
def logHandler : Middleware Request Event := fun h => h

/-- The handler only changes how responses are encoded. -/
def compressHandler : Middleware Request Event := fun h => h

/-- The handler answers some requests itself and adds headers to the responses
    to others. -/
def RouteHandlerConfig.corsHandler : Middleware Request Event := fun h req =>
  match config.corsAnswer req with
  | some status => [.respond status]
  | none => h req

/-- The authorization that all routes share, given by its verdict. -/
def RouteHandlerConfig.workspaceAuthHandler : Middleware Request Event :=
  authMiddleware config.authVerdict

/-- What is installed on a router. -/
structure RouterContents where
  middlewares : List (Middleware Request Event)
  routes : List (Route Request Event)
  notFoundHandler : Option (Handler Request Event) := none

/-- A route that ends in a router. -/
def RouterContents.subrouter (r : RouterContents) (matches? : Request → Bool) :
    Route Request Event :=
  .subrouter matches? r.middlewares r.routes r.notFoundHandler

/-- A route without any condition takes every request. -/
def newRoute : Request → Bool := fun _ => true

/-- The beginning of a path, which may end within a name. -/
def pathPrefix (tpl : String) : Request → Bool := fun req =>
  tpl.toList.isPrefixOf req.path.toList

/-- The path as a whole. -/
def path (tpl : String) : Request → Bool := fun req => req.path = tpl

/-- A handler installs what is behind its route. -/
abbrev RouteHandler := RouteHandlerConfig → RouterContents

/-- One handler for each route of the IDE, in the order of the source. -/
structure RouteHandlers where
  theiaRootHandler : RouteHandler
  theiaMiniBrowserHandler : RouteHandler
  theiaFileHandler : RouteHandler
  theiaHostedPluginHandler : RouteHandler
  theiaServiceHandler : RouteHandler
  theiaFileUploadHandler : RouteHandler
  theiaReadyHandler : RouteHandler
  theiaSupervisorReadyHandler : RouteHandler
  theiaWebviewHandler : RouteHandler

/-- A router that forwards to the pod what is authorized. -/
def authorizedPodRouter (opts : List ProxyPassOpt) : RouterContents where
  middlewares := [config.corsHandler, config.workspaceAuthHandler]
  routes := [.handle newRoute (proxyPass config .workspacePodResolver opts)]

/-- A router that forwards what is not authorized. -/
def openRouter (resolver : TargetResolver) (opts : List ProxyPassOpt) : RouterContents where
  middlewares := [config.corsHandler]
  routes := [.handle newRoute (proxyPass config resolver opts)]

/-- Static files without authorization, and the pod with it for what is not
    found. -/
def theiaRootHandler : RouterContents :=
  { openRouter config .staticTheiaResolver [withOnProxyErrorRedirectToWorkspaceStartHandler] with
    notFoundHandler := some (config.workspaceAuthHandler (proxyPass config .workspacePodResolver
      [withOnProxyErrorRedirectToWorkspaceStartHandler])) }

/-- This one and those below are authorized, and differ in their options. -/
def theiaMiniBrowserHandler : RouterContents := authorizedPodRouter config []

/-- Files of the workspace. -/
def theiaFileHandler : RouterContents :=
  authorizedPodRouter config [withOnProxyErrorRedirectToWorkspaceStartHandler]

/-- Plugins that are being developed. -/
def theiaHostedPluginHandler : RouterContents := authorizedPodRouter config []

/-- The connection of the IDE, which is a websocket. -/
def theiaServiceHandler : RouterContents :=
  authorizedPodRouter config
    [withWebsocketSupport, withOnProxyErrorRedirectToWorkspaceStartHandler]

/-- Files into the workspace. -/
def theiaFileUploadHandler : RouterContents :=
  authorizedPodRouter config
    [withWebsocketSupport, withOnProxyErrorRedirectToWorkspaceStartHandler]

/-- Whether the IDE is there, for everyone to ask. -/
def theiaReadyHandler : RouterContents :=
  openRouter config .workspacePodResolver [withOnProxyErrorRedirectToWorkspaceStartHandler]

/-- Whether the supervisor is there. -/
def theiaSupervisorReadyHandler : RouterContents :=
  openRouter config .workspacePodSupervisorResolver
    [withOnProxyErrorRedirectToWorkspaceStartHandler]

/-- Pages within the IDE. -/
def theiaWebviewHandler : RouterContents := authorizedPodRouter config [withWebsocketSupport]

/-- Precedence depends on order. -/
def installTheiaRoutes (rh : RouteHandlers) : RouterContents where
  middlewares := [logHandler, compressHandler]
  routes :=
    [ (rh.theiaMiniBrowserHandler config).subrouter (pathPrefix "/mini-browser"),
      (rh.theiaServiceHandler config).subrouter (path "/services"),
      (rh.theiaFileUploadHandler config).subrouter (path "/file-upload"),
      (rh.theiaFileHandler config).subrouter (pathPrefix "/file"),
      (rh.theiaFileHandler config).subrouter (pathPrefix "/files"),
      (rh.theiaHostedPluginHandler config).subrouter (pathPrefix "/hostedPlugin"),
      (rh.theiaReadyHandler config).subrouter (path "/nxpod/ready"),
      (rh.theiaSupervisorReadyHandler config).subrouter (path "/supervisor/ready"),
      (rh.theiaWebviewHandler config).subrouter (pathPrefix "/webview"),
      (rh.theiaRootHandler config).subrouter newRoute ]

/-- One route for everything, with two middlewares, neither of which is the
    authorization. -/
def installWorkspacePortRoutes : RouterContents where
  middlewares :=
    [sensitiveCookieHandler config.config.nxpodInstallation.hostName, compressHandler]
  routes := [.handle newRoute (proxyPass config .workspacePodPortResolver [withWebsocketSupport])]

/-- The handlers the proxy's server is set up with. -/
def routeHandlers : RouteHandlers where
  theiaRootHandler := theiaRootHandler
  theiaMiniBrowserHandler := theiaMiniBrowserHandler
  theiaFileHandler := theiaFileHandler
  theiaHostedPluginHandler := theiaHostedPluginHandler
  theiaServiceHandler := theiaServiceHandler
  theiaFileUploadHandler := theiaFileUploadHandler
  theiaReadyHandler := theiaReadyHandler
  theiaSupervisorReadyHandler := theiaSupervisorReadyHandler
  theiaWebviewHandler := theiaWebviewHandler

/-- The router the workspace router chose for the request. -/
inductive RouterKind where
  | theiaRouter
  | portRouter
  deriving DecidableEq

/-- What a request of each kind is led through. -/
def RouterKind.contents : RouterKind → RouterContents
  | .theiaRouter => installTheiaRoutes config routeHandlers
  | .portRouter => installWorkspacePortRoutes config

/-- What happens to a request. -/
def serve (kind : RouterKind) (req : Request) : List Event :=
  ((kind.contents config).subrouter newRoute).serve req

/-- The request is for one of the routes that report readiness. -/
def isReadinessRequest (kind : RouterKind) (req : Request) : Bool :=
  kind = .theiaRouter && (path "/nxpod/ready" req || path "/supervisor/ready" req)

/-- The request does not reach a pod unless the authorization admitted it. -/
def AuthCovered (kind : RouterKind) (req : Request) : Prop :=
  isReadinessRequest kind req = false →
    PrecededBy Event.isAdmitted Event.reachesPod (serve config kind req)

variable {config}

theorem passesOn_logHandler : PassesOn Event.reachesPod logHandler := fun _ req =>
  Or.inl ⟨req, rfl⟩

theorem passesOn_compressHandler : PassesOn Event.reachesPod compressHandler := fun _ req =>
  Or.inl ⟨req, rfl⟩

/-- A request from elsewhere is passed on or answered at once. -/
theorem passesOn_corsHandler : PassesOn Event.reachesPod config.corsHandler := by
  intro h req
  unfold RouteHandlerConfig.corsHandler
  cases config.corsAnswer req with
  | none => exact Or.inl ⟨req, rfl⟩
  | some status => exact Or.inr (fun e he => by rw [List.mem_singleton.mp he]; rfl)

/-- The authorization lets through what it has admitted, and nothing else. -/
theorem gates_workspaceAuthHandler :
    Gates Event.isAdmitted Event.reachesPod config.workspaceAuthHandler :=
  gates_authMiddleware config.authVerdict

/-- Without a target nothing is forwarded. -/
theorem proxyPass_unresolved {resolver : TargetResolver} {req : Request}
    (h : resolver.resolve config req = none) (opts : List ProxyPassOpt) :
    proxyPass config resolver opts req = [.respond 200] := by
  simp only [proxyPass, h]

/-- With a target the first thing that happens is that the request is forwarded
    to it. -/
theorem proxyPass_resolved {resolver : TargetResolver} {req : Request} {url : Url}
    (h : resolver.resolve config req = some url) (opts : List ProxyPassOpt) :
    ∃ url' es, proxyPass config resolver opts req = .forward resolver url' :: es := by
  simp only [proxyPass, h]
  split_ifs <;> exact ⟨_, _, rfl⟩

/-- The static server is no pod. -/
theorem guarded_proxyPass_static (opts : List ProxyPassOpt) :
    Guarded Event.isAdmitted Event.reachesPod
      (proxyPass config .staticTheiaResolver opts) := by
  refine fun req => precededBy_of_harmless (fun e he => ?_)
  simp only [proxyPass, TargetResolver.resolve, staticTheiaResolver] at he
  split_ifs at he
  all_goals
    simp only [List.mem_cons, List.not_mem_nil, or_false] at he
    rcases he with rfl | rfl <;> rfl

theorem guardedFor_authorizedPodRouter (opts : List ProxyPassOpt) (matches? : Request → Bool)
    (req : Request) : GuardedFor Event.isAdmitted Event.reachesPod req
      ((authorizedPodRouter config opts).subrouter matches?) := by
  refine guardedFor_subrouter_of_gates ?_
    ⟨config.workspaceAuthHandler, List.mem_cons_of_mem _ List.mem_cons_self,
      gates_workspaceAuthHandler⟩ ?_ nofun
  · intro m hm
    simp only [authorizedPodRouter, List.mem_cons, List.not_mem_nil, or_false] at hm
    rcases hm with rfl | rfl
    · exact Or.inl passesOn_corsHandler
    · exact Or.inr gates_workspaceAuthHandler
  · intro route hroute
    exact ⟨newRoute, _, List.mem_singleton.mp hroute⟩

theorem guardedFor_theiaRootHandler (req : Request) :
    GuardedFor Event.isAdmitted Event.reachesPod req
      ((theiaRootHandler config).subrouter newRoute) := by
  refine guardedFor_subrouter ?_ ?_ ?_
  · intro m hm
    exact Or.inl (List.mem_singleton.mp hm ▸ passesOn_corsHandler)
  · intro route hroute
    rw [List.mem_singleton.mp hroute]
    exact guardedFor_handle (guarded_proxyPass_static _) req newRoute
  · -- the fallback to the pod is authorized although no middleware wraps it
    intro h hh
    rw [← Option.some.inj hh]
    exact guarded_of_gates gates_workspaceAuthHandler _

/-- Every request for an IDE is covered. -/
theorem authCovered_theia (req : Request) : AuthCovered config .theiaRouter req := by
  intro hready
  simp only [isReadinessRequest, decide_true, Bool.true_and, Bool.or_eq_false_iff] at hready
  refine precededBy_serve (guardedFor_subrouter ?_ ?_ nofun)
  · intro m hm
    simp only [RouterKind.contents, installTheiaRoutes, List.mem_cons, List.not_mem_nil,
      or_false] at hm
    rcases hm with rfl | rfl
    · exact Or.inl passesOn_logHandler
    · exact Or.inl passesOn_compressHandler
  · intro route hroute
    simp only [RouterKind.contents, installTheiaRoutes, routeHandlers, List.mem_cons,
      List.not_mem_nil, or_false] at hroute
    rcases hroute with rfl | rfl | rfl | rfl | rfl | rfl | rfl | rfl | rfl | rfl
    -- the readiness routes do not match, and the last route is the static one
    case inr.inr.inr.inr.inr.inr.inl => exact guardedFor_of_not_matches hready.1
    case inr.inr.inr.inr.inr.inr.inr.inl => exact guardedFor_of_not_matches hready.2
    case inr.inr.inr.inr.inr.inr.inr.inr.inr => exact guardedFor_theiaRootHandler req
    all_goals exact guardedFor_authorizedPodRouter _ _ req

/-- A request for a port is forwarded as it comes, but for its cookies. -/
theorem serve_portRouter (req : Request) :
    serve config .portRouter req =
      proxyPass config .workspacePodPortResolver [withWebsocketSupport]
        (filterCookies config.config.nxpodInstallation.hostName req) := rfl

/-- A request for a port is covered only where there is nothing to forward it
    to. -/
theorem authCovered_port_iff (req : Request) :
    AuthCovered config .portRouter req ↔ workspacePodPortResolver config req = none := by
  unfold AuthCovered
  rw [serve_portRouter]
  -- the resolver does not look at the cookies
  have hresolve : TargetResolver.workspacePodPortResolver.resolve config
      (filterCookies config.config.nxpodInstallation.hostName req) =
        workspacePodPortResolver config req := rfl
  cases hurl : workspacePodPortResolver config req with
  | none =>
      rw [proxyPass_unresolved (hresolve.trans hurl)]
      exact ⟨fun _ => rfl, fun _ _ => Or.inr ⟨rfl, trivial⟩⟩
  | some url =>
      rcases proxyPass_resolved (hresolve.trans hurl) [withWebsocketSupport] with ⟨url', es, htrace⟩
      rw [htrace]
      refine ⟨fun h => ?_, fun h => absurd h (by simp only [reduceCtorEq, not_false_eq_true])⟩
      rcases h rfl with hadmitted | ⟨hharmless, _⟩
      · exact absurd hadmitted Bool.false_ne_true
      · exact absurd hharmless (by simp [Event.reachesPod])

variable (config)

/-- The authorization covers exactly the requests for an IDE, and those for a
    port that lead nowhere. For an IDE every route to the pod goes through the
    handler, by whichever middleware it is built. For a port none does, so what
    is not forwarded is all that is covered. -/
theorem authCovered_iff (kind : RouterKind) (req : Request) : AuthCovered config kind req ↔
    (kind = .portRouter → workspacePodPortResolver config req = none) := by
  cases kind with
  | theiaRouter =>
      exact ⟨fun _ h => absurd h (by simp only [reduceCtorEq, not_false_eq_true]), fun _ =>
        authCovered_theia req⟩
  | portRouter =>
      rw [authCovered_port_iff]
      exact ⟨fun h _ => h, fun h => h rfl⟩

/-- A workspace whose only port is private. -/
def privatePortWorkspace : WorkspaceInfo where
  id := "ws"
  instanceID := "inst"
  url := "https://ws.ws-eu01.nxpod.khulnasoft.com"
  idePublicPort := ""
  ports := [⟨{ port := 3000, visibility := .portVisibilityPrivate }, "3000"⟩]
  auth := some ⟨.admitOwnerOnly, "token"⟩

/-- Workspaces are reached at one address, whatever their port. -/
def localConfig : RouteHandlerConfig where
  executeTemplate := fun tmpl _ => some tmpl
  parseURL := fun _ => some ⟨"http", "localhost:1236", ""⟩
  config :=
    { theiaServer := ⟨"http", "localhost:20000", ""⟩
      nxpodInstallation := ⟨"nxpod.khulnasoft.com"⟩
      workspacePodConfig := ⟨"http://localhost:1236", "http://localhost:1236", 23000, 22999⟩ }
  connects := fun _ => true
  corsAnswer := fun _ => none

/-- A request for a port, by someone without a cookie. -/
def strangerRequest : Request where
  method := "GET"
  host := "3000-ws.ws-eu01.nxpod.khulnasoft.com"
  path := "/"
  workspaceID := "ws"
  workspacePort := "3000"

/-- The authorization would reject a request without any cookie for a private
    port, but it is not asked. -/
theorem port_unauthorized : ¬ ∀ (config : RouteHandlerConfig) (kind : RouterKind) (req : Request),
    AuthCovered config kind req := by
  intro hall
  have hcovered := hall (withDefaultAuth (fun _ => some privatePortWorkspace) localConfig)
    .portRouter strangerRequest
  rw [authCovered_port_iff] at hcovered
  exact absurd hcovered (by decide)

end WsProxy

end Nxpod
