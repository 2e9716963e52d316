import Mathlib
import Nxpod.Library.Text
import Nxpod.WsManager.Api
import Nxpod.WsManager.IngressReconcile

/-!
# Exposing Ports

`ControlPort` of ws-manager, and `createPortsService`. The ports of a workspace
are those of a Kubernetes service. The service carries the ingress ports in one
annotation and the URL of each port in another one. The first port that is
exposed creates the service, every other request updates it, and when its last
port is gone it is deleted.

The two ways compute the same things from different data. Both render the URL
from a template, and where the template may use an ID, creating the service
passes what the pod's annotations say is the ID of the workspace, and updating
it passes the ID of the request.

The manager's template, the host and the ingress range are given, and so is what
Kubernetes accepts. That Kubernetes deletes the service at once is assumed.
Without a range there are no ingress ports.

The history is the map of what was requested last for each port.

## Main definitions

* `Service`, `ServicePort`, `ControlPortRequest`: The data.
* `portSpecToName`, `portNameToVisibility`: The visibility in the name of a port.
* `Env`: The workspace, with its pod's name and annotations, and what the
  manager is configured with.
* `createPortsService`, `controlPort`: The source's functions.
* `State`, `step`: A successful request.
* `Good`, `Kept`: What the service should be, and what a request should keep.
* `UrlsAgree`, `LeavesNoOther`: The conditions.
* `Effect`: A request leaves the service alone, deletes it, or stores one with
  new ports.

## Theorems

* `portNameToVisibility_portSpecToName`: The visibility is read back.
* `annotateURLs_spec`: The annotations that are written.
* `update_spec`: Which ingress ports are allocated.
* `effect_of_step`: What a successful request does.
* `good_step_iff`: When the service is right after a request.
* `histories_iff`: When it is right all along.
-/

namespace Nxpod

namespace WsManager

namespace Ports

open Transition

/-! ## Names -/

/-- The specification of a port with its target, at which the other readers of the
    specification do not look. -/
structure TargetedPortSpec extends PortSpec where
  target : UInt32
  deriving DecidableEq

/-- The names that are generated from the interface, in upper case. -/
def portVisibilityName : PortVisibility → String
  | .portVisibilityPrivate => "PORT_VISIBILITY_PRIVATE"
  | .portVisibilityPublic => "PORT_VISIBILITY_PUBLIC"

/-- The visibility of a name, which is looked for as a whole. -/
def portVisibilityValue (name : String) : Option PortVisibility :=
  [.portVisibilityPrivate, .portVisibilityPublic].find? (portVisibilityName · = name)

/-- `strings.TrimPrefix`: a text that does not begin so is left as it is. -/
def trimPrefix (s pre : String) : String :=
  if pre.toList <+: s.toList then String.ofList (s.toList.drop pre.length) else s

/-- `strings.ToLower`, for the names of visibilities. -/
def toLower (s : String) : String := String.ofList (s.toList.map Char.toLower)

/-- `strings.ToUpper`, for what comes back from the name of a port. -/
def toUpper (s : String) : String := String.ofList (s.toList.map Char.toUpper)

/-- The name of a service port has the port and its visibility in it, since the service itself
    has no place for the visibility. -/
def portSpecToName (spec : TargetedPortSpec) : String :=
  "p" ++ toString spec.port.toNat ++ "-" ++
    toLower (trimPrefix (portVisibilityName spec.visibility) "PORT_VISIBILITY_")

/-- A name that is old or wrong is that of a public port. -/
def portNameToVisibility (s : String) : PortVisibility :=
  match Text.split '-' s with
  | [_, visibility] =>
      (portVisibilityValue ("PORT_VISIBILITY_" ++ toUpper visibility)).getD .portVisibilityPublic
  | _ => .portVisibilityPublic

theorem portNameToVisibility_portSpecToName (spec : TargetedPortSpec) :
    portNameToVisibility (portSpecToName spec) = spec.visibility := by
  have hdigits : '-' ∉ ("p" ++ toString spec.port.toNat).toList := by
    rw [String.toList_append, List.mem_append]
    rintro (hp | hdigit)
    · exact absurd hp (by decide)
    · exact Text.digits_ne _ '-' rfl hdigit
  have hsplit := fun t => Text.split_append (t := t) hdigits
  unfold portNameToVisibility portSpecToName
  have hdash : String.singleton '-' = "-" := rfl
  rw [hdash] at hsplit
  rw [hsplit]
  cases spec.visibility with
  | portVisibilityPrivate => rfl
  | portVisibilityPublic => rfl

/-! ## The service -/

/-- A port of a service as Kubernetes has it, with 32 bits and a sign. -/
structure ServicePort where
  name : String
  protocol : String := "TCP"
  port : Int
  targetPort : Int

/-- What is read and written of a service. -/
structure Service where
  name : String
  labels : Map String String
  annotations : Map String String
  ports : List ServicePort
  selector : Map String String

/-- The port is exposed, or else taken back. -/
structure ControlPortRequest where
  expose : Bool
  spec : TargetedPortSpec

/-- What the template of the URL may use. Which ID is meant is up to the caller, and the two
    callers differ. -/
structure PortURLContext where
  id : String
  pre : String
  host : String
  workspacePort : String
  ingressPort : String

/-- The workspace, with its pod's name and annotations, and what the manager is
    configured with. -/
structure Env where
  id : String
  podName : String
  annotations : Map String String
  render : PortURLContext → Except String String
  host : String
  range : Option IngressPortRange
  accepts : Service → Bool

/-- The annotation of a pod that the names of its services begin with. -/
def servicePrefixAnnotation : String := "nxpod/servicePrefix"

/-- The annotation of a service that keeps its ingress ports over a restart. -/
def ingressPortsAnnotation : String := "nxpod/ingressPorts"

/-- The ID of a workspace is a label. It is looked up among the annotations, though. -/
def metaIDLabel : String := "metaID"

/-- All that ws-manager has made carries this label. -/
def markerLabel : String := "gpwsman"

/-- Without the annotation the prefix is empty, and the request is refused. -/
def Env.servicePrefix (env : Env) : String :=
  (env.annotations.lookup servicePrefixAnnotation).getD ""

/-- Without the annotation, which is always, the ID is empty. -/
def Env.metaID (env : Env) : String := (env.annotations.lookup metaIDLabel).getD ""

/-- A workspace has one service for its ports. -/
def getPortsServiceName (servicePrefix : String) : String :=
  s!"ws-{Text.trimSpace servicePrefix}-ports"

/-- Each port has an annotation of its own for its URL. -/
def portURLKey (port : Int) : String := "nxpod/port-url-" ++ toString port

/-- The conversion to `int32`. -/
def int32 (n : UInt32) : Int :=
  if n.toNat < 2147483648 then n.toNat else n.toNat - 4294967296

/-- `UpdateAllocatedPorts` of either allocator. The one without a range returns the nil
    map. -/
def update (env : Env) (pa : KubernetesBackedPortAllocator) (serviceName : String)
    (updatedPorts : List Int) (draws : List Nat) :
    Except String (Option AllocatedPorts) × KubernetesBackedPortAllocator :=
  match env.range with
  | none => (.ok none, pa)
  | some rng =>
      match pa.updateAllocatedPorts rng serviceName updatedPorts draws with
      | (.error err, pa') => (.error err, pa')
      | (.ok aps, pa') => (.ok (some aps), pa')

/-- `FreeAllocatedPorts` of either allocator. -/
def free (env : Env) (pa : KubernetesBackedPortAllocator) (serviceName : String) :
    KubernetesBackedPortAllocator :=
  match env.range with
  | none => pa
  | some _ => pa.freeAllocatedPorts serviceName

/-- No allocation is written as no text. -/
def marshal : Option AllocatedPorts → String
  | none => ""
  | some aps => aps.marshal

/-- The ingress port of a workspace port is zero when there is none. -/
def ingressPort (alloc : Option AllocatedPorts) (port : Int) : Int :=
  (alloc.bind fun aps => aps.allocatedPort port).getD 0

/-- The URL of a port, when the template is given this ID. -/
def portURL (env : Env) (id servicePrefix : String) (port ingress : Int) : Except String String :=
  env.render ⟨id, servicePrefix, env.host, toString port, toString ingress⟩

/-- Annotate one port after the other with its URL. -/
def annotateURLs (env : Env) (id servicePrefix : String) (alloc : Option AllocatedPorts) :
    List Int → Map String String → Except String (Map String String)
  | [], annotations => .ok annotations
  | port :: ports, annotations =>
      match portURL env id servicePrefix port (ingressPort alloc port) with
      | .error err => .error s!"cannot render public URL for {port}: {err}"
      | .ok url => annotateURLs env id servicePrefix alloc ports
          (annotations.insert (portURLKey port) url)

/-- The port that a request asks for, with what it is called. -/
def newServicePort (spec : TargetedPortSpec) : ServicePort where
  name := portSpecToName spec
  port := int32 spec.port
  targetPort := int32 spec.target

/-- A target of zero is the one that a service port has from the start. -/
def createPortsService (env : Env) (pa : KubernetesBackedPortAllocator)
    (workspaceID metaID servicePrefix : String) (ports : List TargetedPortSpec)
    (draws : List Nat) : Except String Service × KubernetesBackedPortAllocator :=
  let serviceName := getPortsServiceName servicePrefix
  let portsToAllocate : List Int := ports.map fun p => (p.port.toNat : Int)
  match update env pa serviceName portsToAllocate draws with
  | (.error err, pa) => (.error err, pa)
  | (.ok alloc, pa) =>
      match annotateURLs env metaID servicePrefix alloc portsToAllocate
        (AList.insert ingressPortsAnnotation (marshal alloc) ∅) with
      | .error err => (.error err, pa)
      | .ok annotations =>
          (.ok
            { name := serviceName
              labels := ((AList.insert "workspaceID" workspaceID ∅).insert metaIDLabel
                metaID).insert markerLabel "true"
              annotations := annotations
              ports := ports.map newServicePort
              selector := (AList.insert "workspaceID" workspaceID ∅).insert markerLabel "true" },
            pa)

/-! ## Requests -/

/-- The last request for each port, with its target and visibility. -/
abbrev Requested := Map UInt32 (UInt32 × PortVisibility)

/-- The allocator, the service of the workspace's prefix, and what was last requested
    for each port. -/
structure State where
  allocator : KubernetesBackedPortAllocator
  service : Option Service
  requested : Requested

/-- The ports of a service after a request, or `none` when nothing is left to do. -/
def controlledPorts (ports : List ServicePort) (req : ControlPortRequest) :
    Option (List ServicePort) :=
  match ports.findIdx? (·.port = int32 req.spec.port), req.expose with
  | none, true => some (ports ++ [newServicePort req.spec])
  | some i, true => some (ports.modify i fun p =>
      { p with name := portSpecToName req.spec, targetPort := int32 req.spec.target })
  | none, false => none
  | some i, false => some (ports.eraseIdx i)

/-- Patch the service with its new ports, or delete it when none are left. -/
def patchService (env : Env) (s : State) (service : Service) (ports : List ServicePort)
    (draws : List Nat) : Except String Unit × State :=
  if ports.isEmpty then
    (.ok (), { s with allocator := free env s.allocator service.name, service := none })
  else
    match update env s.allocator service.name (ports.map (·.port)) draws with
    | (.error err, pa) => (.error s!"cannot allocate port: {err}", { s with allocator := pa })
    | (.ok alloc, pa) =>
        match annotateURLs env env.id env.servicePrefix alloc (ports.map (·.port))
          (service.annotations.insert ingressPortsAnnotation (marshal alloc)) with
        | .error err => (.error err, { s with allocator := pa })
        | .ok annotations =>
            let service := { service with ports := ports, annotations := annotations }
            if env.accepts service then
              (.ok (), { s with allocator := pa, service := some service })
            else (.error "cannot control port", { s with allocator := pa })

/-- One request. What is left of the ports decides whether the service is made, updated or
    deleted, and an error at any point ends it, with what was allocated until then. -/
def controlPort (env : Env) (s : State) (req : ControlPortRequest) (draws : List Nat) :
    Except String Unit × State :=
  if env.servicePrefix = "" then
    (.error s!"workspace pod {env.podName} has no service prefix annotation", s)
  else match s.service with
    | none =>
        if req.expose then
          match createPortsService env s.allocator env.id env.metaID env.servicePrefix [req.spec]
            draws with
          | (.error err, pa) =>
              (.error s!"cannot create workspace's public service: {err}",
                { s with allocator := pa })
          | (.ok service, pa) =>
              if env.accepts service then
                (.ok (), { s with allocator := pa, service := some service })
              else (.error "cannot control port", { s with allocator := pa })
        else (.ok (), s)
    | some service => match controlledPorts service.ports req with
      | none => (.ok (), s)
      | some ports => patchService env s service ports draws

/-- The last request wins. -/
def afterRequest (requested : Requested) (req : ControlPortRequest) : Requested :=
  if req.expose then requested.insert req.spec.port (req.spec.target, req.spec.visibility)
  else requested.erase req.spec.port

/-- A request that succeeds, with the numbers that the allocator draws. -/
def step (env : Env) (s : State) (a : ControlPortRequest × List Nat) : Option State :=
  match controlPort env s a.1 a.2 with
  | (.error _, _) => none
  | (.ok _, s') => some { s' with requested := afterRequest s.requested a.1 }

/-- Nothing is exposed, and nothing was asked for. -/
def init (pa : KubernetesBackedPortAllocator) : State where
  allocator := pa
  service := none
  requested := ∅

/-! ## What is exposed -/

/-- The target and the visibility that a list of service ports has for a port. -/
def exposes (ports : List ServicePort) (port : Int) : Option (Int × PortVisibility) :=
  (ports.find? (·.port = port)).map fun p => (p.targetPort, portNameToVisibility p.name)

/-- Without a service no port is exposed. -/
def portsOf (s : State) : List ServicePort :=
  match s.service with
  | none => []
  | some service => service.ports

/-- Kubernetes takes no other numbers. -/
def InRange (p : ServicePort) : Prop :=
  1 ≤ p.port ∧ p.port ≤ 65535 ∧ 0 ≤ p.targetPort ∧ p.targetPort ≤ 65535

/-- The allocation of a service, if there is an ingress range. -/
def allocation (env : Env) (s : State) (service : Service) : Option AllocatedPorts :=
  env.range.map fun _ => s.allocator.getAllocatedPorts service.name

/-- The port has an ingress port, and its URL is the one with which the service is
    created, and the one with which it is updated. -/
structure Served (env : Env) (alloc : Option AllocatedPorts) (service : Service) (port : Int) :
    Prop where
  allocated : ∀ aps, alloc = some aps → aps.allocatedPort port ≠ none
  url : ∃ url, service.annotations.lookup (portURLKey port) = some url ∧
    portURL env env.metaID env.servicePrefix port (ingressPort alloc port) = .ok url ∧
    portURL env env.id env.servicePrefix port (ingressPort alloc port) = .ok url

/-- There is a service exactly when something was requested. It exposes the ports that
    were requested last and no others, and it serves each of them. -/
structure Sound (env : Env) (s : State) : Prop where
  exists_iff : s.service ≠ none ↔ ∃ n, s.requested.lookup n ≠ none
  exposed : ∀ n, exposes (portsOf s) n.toNat =
    (s.requested.lookup n).map fun r => ((r.1.toNat : Int), r.2)
  nodup : ((portsOf s).map (·.port)).Nodup
  inRange : ∀ p ∈ portsOf s, InRange p
  served : ∀ service, s.service = some service →
    service.name = getPortsServiceName env.servicePrefix ∧
    service.annotations.lookup ingressPortsAnnotation = some (marshal (allocation env s service)) ∧
    ∀ p ∈ service.ports, Served env (allocation env s service) service p.port

/-- And no other port has a URL. -/
structure Good (env : Env) (s : State) : Prop extends Sound env s where
  noOther : ∀ service, s.service = some service → ∀ port,
    service.annotations.lookup (portURLKey port) ≠ none →
      port ∈ service.ports.map (·.port)

/-- A port that stays exposed keeps its ingress port. -/
def Kept (env : Env) (s s' : State) : Prop :=
  ∀ service service', s.service = some service → s'.service = some service' →
    ∀ port ∈ service.ports.map (·.port), port ∈ service'.ports.map (·.port) →
      ingressPort (allocation env s' service') port = ingressPort (allocation env s service) port

/-- The template makes nothing of the ID, or it is the same. -/
def UrlsAgree (env : Env) : Prop :=
  ∀ port ingress, portURL env env.metaID env.servicePrefix port ingress =
    portURL env env.id env.servicePrefix port ingress

/-- A port is taken back only while no other port is exposed. -/
def LeavesNoOther (s : State) (a : ControlPortRequest × List Nat) : Prop :=
  a.1.expose = false → int32 a.1.spec.port ∈ (portsOf s).map (·.port) → (portsOf s).length = 1

/-! ## Annotations -/

theorem toList_portURLKey (port : Int) : (portURLKey port).toList =
    "nxpod/port-url-".toList ++ (toString port).toList :=
  String.toList_append

theorem portURLKey_injective : Function.Injective portURLKey := by
  intro port port' h
  have htext := congrArg String.toList h
  rw [toList_portURLKey, toList_portURLKey] at htext
  exact Int.repr_injective (String.toList_inj.mp (List.append_cancel_left htext))

theorem portURLKey_ne (port : Int) : portURLKey port ≠ ingressPortsAnnotation := by
  intro h
  have htext := congrArg String.toList h
  rw [toList_portURLKey] at htext
  -- the two differ from the seventh letter on
  have hletter := congrArg (fun cs : List Char => cs[6]?) htext
  exact absurd hletter (by simp [ ingressPortsAnnotation])

variable {env : Env} {id servicePrefix : String} {alloc : Option AllocatedPorts}

/-- Each port is annotated with its URL, and nothing else changes. -/
theorem annotateURLs_spec {ports : List Int} {annotations annotations' : Map String String}
    (h : annotateURLs env id servicePrefix alloc ports annotations = .ok annotations') :
    (∀ port ∈ ports, ∃ url, annotations'.lookup (portURLKey port) = some url ∧
      portURL env id servicePrefix port (ingressPort alloc port) = .ok url) ∧
    ∀ key, (∀ port ∈ ports, key ≠ portURLKey port) →
      annotations'.lookup key = annotations.lookup key := by
  induction ports generalizing annotations with
  | nil =>
      rw [annotateURLs, Except.ok.injEq] at h
      rw [h]
      exact ⟨fun _ hmem => absurd hmem List.not_mem_nil, fun _ _ => rfl⟩
  | cons port ports ih =>
      rw [annotateURLs] at h
      cases hurl : portURL env id servicePrefix port (ingressPort alloc port) with
      | error err =>
          rw [hurl] at h
          exact absurd h nofun
      | ok url =>
          rw [hurl] at h
          rcases ih h with ⟨hports, hothers⟩
          constructor
          · intro port' hmem
            by_cases hrest : port' ∈ ports
            · exact hports port' hrest
            · -- not annotated again
              have heq : port' = port := (List.mem_cons.mp hmem).resolve_right hrest
              have hkey : ∀ port'' ∈ ports, portURLKey port ≠ portURLKey port'' := by
                intro port'' hmem'' hsame
                rw [heq, portURLKey_injective hsame] at hrest
                exact hrest hmem''
              refine ⟨url, ?_, ?_⟩
              · rw [heq, hothers _ hkey, AList.lookup_insert]
              · rw [heq, hurl]
          · intro key hkey
            rw [List.forall_mem_cons] at hkey
            rw [hothers key hkey.2, AList.lookup_insert_ne hkey.1]

/-! ## Ingress ports -/

open KubernetesBackedPortAllocator in
/-- A call for ports without repetition, when it succeeds, leaves each of them with an
    ingress port, the one it had if it had one. -/
theorem updateAllocatedPorts_held {rng : IngressPortRange} {pa : KubernetesBackedPortAllocator}
    {name : String} {ports : List Int} {draws : List Nat} {aps : AllocatedPorts}
    (h : (updateAllocatedPorts rng pa name ports draws).1 = .ok aps) (hnodup : ports.Nodup)
    {port : Int} (hport : port ∈ ports) :
    aps.allocatedPort port ≠ none ∧ ((pa.getAllocatedPorts name).allocatedPort port ≠ none →
      aps.allocatedPort port = (pa.getAllocatedPorts name).allocatedPort port) := by
  rcases of_updateAllocatedPorts_eq_ok h with ⟨haps, hle⟩
  have htakes := (updateAllocatedPorts_spec rng pa name ports draws).1
  rw [List.take_of_length_le hle] at htakes
  have hafter : aps.allocatedPort port =
      (updateAllocatedPorts rng pa name ports draws).2.toPool.held (name, port) := by
    rw [haps]
    rfl
  have hbefore : (pa.getAllocatedPorts name).allocatedPort port = pa.toPool.held (name, port) := rfl
  have hcount : ports.count port = 1 := List.count_eq_one_of_mem hnodup hport
  by_cases hheld : pa.toPool.held (name, port) = none
  · -- a new port
    have hnew : (name, port) ∈ (newPorts pa name ports).map (name, ·) := by
      refine List.mem_map_of_mem (List.count_pos_iff.mp ?_)
      rw [count_newPorts_of_not_mem (held_toPool_eq_none.mp hheld), hcount]
      exact Nat.one_pos
    rcases Pool.held_of_takes_of_mem htakes hnew with ⟨ingress, htaken, _⟩
    rw [hafter, hbefore, hheld, htaken]
    exact ⟨Option.some_ne_none _, fun hne => absurd rfl hne⟩
  · have hmem : port ∈ (pa.getAllocatedPorts name).keys :=
      not_not.mp fun hnot => hheld (held_toPool_eq_none.mpr hnot)
    have hnew : (name, port) ∉ (newPorts pa name ports).map (name, ·) := by
      intro hin
      rcases List.mem_map.mp hin with ⟨port', hin', heq⟩
      rw [(Prod.mk.inj heq).2] at hin'
      have hpos := List.count_pos_iff.mpr hin'
      rw [count_newPorts_of_mem hmem, hcount] at hpos
      exact absurd hpos (Nat.lt_irrefl 0)
    have hkept : (updateAllocatedPorts rng pa name ports draws).2.toPool.held (name, port) =
        pa.toPool.held (name, port) := by
      rw [Pool.held_of_takes_of_not_mem htakes hnew, Pool.discard]
      refine if_neg fun hgone => ?_
      exact (mem_gonePorts.mp hgone.2).2 hport
    rw [hafter, hbefore, hkept]
    exact ⟨hheld, fun _ => rfl⟩

/-- The same for either allocator. -/
theorem update_spec {pa pa' : KubernetesBackedPortAllocator} {name : String} {ports : List Int}
    {draws : List Nat} (h : update env pa name ports draws = (.ok alloc, pa'))
    (hnodup : ports.Nodup) :
    alloc = env.range.map (fun _ => pa'.getAllocatedPorts name) ∧
    ∀ port ∈ ports, (∀ aps, alloc = some aps → aps.allocatedPort port ≠ none) ∧
      ((pa.getAllocatedPorts name).allocatedPort port ≠ none →
        ingressPort alloc port =
          ingressPort (env.range.map fun _ => pa.getAllocatedPorts name) port) := by
  rw [update] at h
  cases hrange : env.range with
  | none =>
      rw [hrange, Prod.mk.injEq] at h
      -- without a range nothing is allocated
      rw [← Except.ok.inj h.1]
      exact ⟨rfl, fun port _ => ⟨fun _ hnone => absurd hnone nofun, fun _ => rfl⟩⟩
  | some rng =>
      rw [hrange] at h
      dsimp only at h
      cases hupdate : pa.updateAllocatedPorts rng name ports draws with
      | mk r pa'' => cases r with
        | error err =>
            rw [hupdate] at h
            exact absurd (Prod.mk.inj h).1 nofun
        | ok aps =>
            rw [hupdate, Prod.mk.injEq] at h
            rw [← Except.ok.inj h.1, ← h.2]
            have hok : (pa.updateAllocatedPorts rng name ports draws).1 = .ok aps := by
              rw [hupdate]
            refine ⟨?_, fun port hport => ?_⟩
            · rw [(KubernetesBackedPortAllocator.of_updateAllocatedPorts_eq_ok hok).1, hupdate]
              rfl
            · rcases updateAllocatedPorts_held hok hnodup hport with ⟨hheld, hkept⟩
              refine ⟨fun aps' heq => Option.some.inj heq ▸ hheld, fun hbefore => ?_⟩
              simp only [ingressPort, Option.bind_some, Option.map_some, hkept hbefore]

/-! ## The ports of a request -/

theorem exposes_ne_none_iff {ports : List ServicePort} {port : Int} :
    exposes ports port ≠ none ↔ port ∈ ports.map (·.port) := by
  rw [exposes, ne_eq, Option.map_eq_none_iff, List.find?_eq_none, List.mem_map]
  constructor
  · intro h
    by_contra hnone
    exact h fun p hp heq => hnone ⟨p, hp, of_decide_eq_true heq⟩
  · rintro ⟨p, hp, heq⟩ hall
    exact hall p hp (decide_eq_true heq)

theorem exposes_append (before after : List ServicePort) (port : Int) :
    exposes (before ++ after) port = (exposes before port).or (exposes after port) := by
  rw [exposes, List.find?_append, exposes, exposes]
  cases before.find? (·.port = port) with
  | none => rfl
  | some p => rfl

theorem exposes_cons_self {p : ServicePort} {port : Int} (h : port = p.port)
    (ports : List ServicePort) :
    exposes (p :: ports) port = some (p.targetPort, portNameToVisibility p.name) := by
  rw [exposes, List.find?_cons, decide_eq_true h.symm]
  rfl

theorem exposes_cons_other {p : ServicePort} {port : Int} (h : port ≠ p.port)
    (ports : List ServicePort) : exposes (p :: ports) port = exposes ports port := by
  rw [exposes, List.find?_cons, decide_eq_false (fun heq => h heq.symm)]
  rfl

/-- The port at the index that was found, with the ports around it. -/
theorem split_of_findIdx {ports : List ServicePort} {port : Int} {i : Nat}
    (h : ports.findIdx? (·.port = port) = some i) :
    ∃ before p after, ports = before ++ p :: after ∧ p.port = port ∧
      (∀ f, ports.modify i f = before ++ f p :: after) ∧ ports.eraseIdx i = before ++ after := by
  induction ports generalizing i with
  | nil => exact absurd h nofun
  | cons q ports ih =>
      rw [List.findIdx?_cons] at h
      by_cases hq : q.port = port
      · rw [decide_eq_true hq, if_pos rfl, Option.some.injEq] at h
        rw [← h]
        exact ⟨[], q, ports, rfl, hq, fun f => rfl, rfl⟩
      · rw [decide_eq_false hq, if_neg Bool.false_ne_true, Option.map_eq_some_iff] at h
        rcases h with ⟨k, hk, rfl⟩
        rcases ih hk with ⟨before, p, after, hports, hp, hmodify, herase⟩
        refine ⟨q :: before, p, after, by rw [hports, List.cons_append], hp, fun f => ?_, ?_⟩
        · rw [List.modify_succ_cons, hmodify, List.cons_append]
        · rw [List.eraseIdx_cons_succ, herase, List.cons_append]

theorem not_mem_of_findIdx {ports : List ServicePort} {port : Int}
    (h : ports.findIdx? (·.port = port) = none) : port ∉ ports.map (·.port) := by
  intro hmem
  rcases List.mem_map.mp hmem with ⟨p, hp, heq⟩
  exact absurd heq (of_decide_eq_false (List.findIdx?_eq_none_iff.mp h p hp))

/-- What is exposed after a request that changes the ports. -/
theorem controlledPorts_eq_some {ports ports' : List ServicePort} {req : ControlPortRequest}
    (hnodup : (ports.map (·.port)).Nodup) (h : controlledPorts ports req = some ports') :
    (ports'.map (·.port)).Nodup ∧ ∀ port, exposes ports' port =
      if port = int32 req.spec.port then
        if req.expose then some (int32 req.spec.target, req.spec.visibility) else none
      else exposes ports port := by
  have hname := portNameToVisibility_portSpecToName req.spec
  unfold controlledPorts at h
  split at h
  · next hidx hexpose =>
      -- a port that was not exposed
      have hnot := not_mem_of_findIdx hidx
      rw [Option.some.injEq] at h
      rw [← h, hexpose]
      refine ⟨?_, fun port => ?_⟩
      · rw [List.map_append, List.nodup_append_comm]
        exact List.nodup_cons.mpr ⟨hnot, hnodup⟩
      · rw [exposes_append]
        by_cases hport : port = int32 req.spec.port
        · have hnone : exposes ports port = none :=
            not_not.mp fun hne => hnot (hport ▸ exposes_ne_none_iff.mp hne)
          rw [if_pos hport, hnone, exposes_cons_self hport, newServicePort, hname]
          rfl
        · rw [if_neg hport, exposes_cons_other hport]
          exact Option.or_none
  · -- The port is exposed already, and gets another target.
    next i hidx hexpose =>
      rcases split_of_findIdx hidx with ⟨before, p, after, hports, hp, hmodify, _⟩
      rw [Option.some.injEq, hmodify] at h
      rw [hports, List.map_append, List.map_cons] at hnodup
      rw [← h, hexpose]
      refine ⟨?_, fun port => ?_⟩
      · rw [List.map_append, List.map_cons]
        exact hnodup
      · -- As no port occurs twice, the one that is changed is the only one.
        have hbefore : p.port ∉ before.map (·.port) :=
          fun hmem => (List.nodup_append.mp hnodup).2.2 _ hmem _ List.mem_cons_self rfl
        rw [hp] at hbefore
        rw [hports, exposes_append, exposes_append]
        by_cases hport : port = int32 req.spec.port
        · have hnone : exposes before port = none :=
            not_not.mp fun hne => hbefore (hport ▸ exposes_ne_none_iff.mp hne)
          rw [if_pos hport, hnone, exposes_cons_self, hname]
          · rfl
          · exact hport.trans hp.symm
        · have hother : port ≠ p.port := fun heq => hport (heq.trans hp)
          rw [if_neg hport, exposes_cons_other hother, exposes_cons_other]
          exact hother
  · -- What is not exposed cannot be hidden.
    exact absurd h nofun
  · -- The port is not exposed any more.
    next i hidx hexpose =>
      rcases split_of_findIdx hidx with ⟨before, p, after, hports, hp, _, herase⟩
      rw [Option.some.injEq, herase] at h
      rw [hports, List.map_append, List.map_cons, List.nodup_middle, List.nodup_cons] at hnodup
      rw [← h, hexpose]
      refine ⟨?_, fun port => ?_⟩
      · rw [List.map_append]
        exact hnodup.2
      · rw [hports, exposes_append before (p :: after)]
        by_cases hport : port = int32 req.spec.port
        · rw [hp, ← List.map_append, ← hport, ← exposes_ne_none_iff, not_not] at hnodup
          rw [if_pos hport, if_neg Bool.false_ne_true]
          exact hnodup.1
        · rw [if_neg hport, exposes_cons_other (fun heq => hport (heq.trans hp)), exposes_append]

theorem controlledPorts_eq_none {ports : List ServicePort} {req : ControlPortRequest}
    (h : controlledPorts ports req = none) :
    req.expose = false ∧ int32 req.spec.port ∉ ports.map (·.port) := by
  unfold controlledPorts at h
  split at h
  · exact absurd h nofun
  · exact absurd h nofun
  · next hidx hexpose => exact ⟨hexpose, not_mem_of_findIdx hidx⟩
  · exact absurd h nofun

theorem mem_of_controlledPorts {ports ports' : List ServicePort} {req : ControlPortRequest}
    (h : controlledPorts ports req = some ports') (hexpose : req.expose = false) :
    int32 req.spec.port ∈ ports.map (·.port) ∧ ports'.length + 1 = ports.length := by
  unfold controlledPorts at h
  rw [hexpose] at h
  split at h
  · next heq => exact absurd heq nofun
  · next heq => exact absurd heq nofun
  · exact absurd h nofun
  · next i hidx _ =>
      rcases split_of_findIdx hidx with ⟨before, p, after, hports, hp, _, herase⟩
      rw [Option.some.injEq, herase] at h
      rw [← h, hports, ← hp]
      refine ⟨List.mem_map_of_mem (List.mem_append_right _ List.mem_cons_self), ?_⟩
      rw [List.length_append, List.length_append, List.length_cons, Nat.add_assoc]

theorem int32_eq_toNat {n : UInt32} (h : 0 ≤ int32 n) : int32 n = n.toNat := by
  have hlt := n.toNat_lt
  unfold int32 at h ⊢
  split_ifs at h ⊢ with hn
  · rfl
  · omega

theorem exists_of_exposes {ports : List ServicePort} {port target : Int}
    {visibility : PortVisibility} (h : exposes ports port = some (target, visibility)) :
    ∃ p ∈ ports, p.port = port ∧ p.targetPort = target := by
  rw [exposes, Option.map_eq_some_iff] at h
  rcases h with ⟨p, hfind, heq⟩
  have hport := List.find?_some hfind
  exact ⟨p, List.mem_of_find?_eq_some hfind, of_decide_eq_true hport, (Prod.mk.inj heq).1⟩

variable {ports ports' : List ServicePort} {requested : Requested} {req : ControlPortRequest}

/-- The ports follow the requests, as long as Kubernetes takes them. -/
theorem exposed_afterRequest (hnodup : (ports.map (·.port)).Nodup)
    (hrange : ∀ p ∈ ports, InRange p) (hrange' : ∀ p ∈ ports', InRange p)
    (hexposed : ∀ n, exposes ports n.toNat =
      (requested.lookup n).map fun r => ((r.1.toNat : Int), r.2))
    (h : controlledPorts ports req = some ports') (n : UInt32) :
    exposes ports' n.toNat =
      ((afterRequest requested req).lookup n).map fun r => ((r.1.toNat : Int), r.2) := by
  have hafter := (controlledPorts_eq_some hnodup h).2
  unfold afterRequest
  cases hexpose : req.expose with
  | true =>
      have hnew := hafter (int32 req.spec.port)
      rw [if_pos rfl, hexpose, if_pos rfl] at hnew
      -- Kubernetes took the port, so it fits into the 32 bits of the service
      rcases exists_of_exposes hnew with ⟨p, hp, hport, htarget⟩
      have hin := hrange' p hp
      rw [InRange, hport, htarget] at hin
      have hport' := int32_eq_toNat (le_trans Int.one_nonneg hin.1)
      have htarget' := int32_eq_toNat hin.2.2.1
      rw [if_pos rfl, Map.lookup_insert_eq_ite, hafter, hport', hexpose]
      by_cases hn : n = req.spec.port
      · rw [if_pos hn, if_pos (by rw [hn]), htarget']
        rfl
      · rw [if_neg hn, if_neg (fun heq => hn (UInt32.toNat_inj.mp (Int.ofNat_inj.mp heq))),
          hexposed]
  | false =>
      -- the port was exposed, so it was taken before
      rcases List.mem_map.mp (mem_of_controlledPorts h hexpose).1 with ⟨p, hp, hport⟩
      have hin := hrange p hp
      rw [InRange, hport] at hin
      have hport' := int32_eq_toNat (le_trans Int.one_nonneg hin.1)
      rw [if_neg Bool.false_ne_true, Map.lookup_erase_eq_ite, hafter, hport', hexpose]
      by_cases hn : n = req.spec.port
      · rw [if_pos hn, if_pos (by rw [hn])]
        rfl
      · rw [if_neg hn, if_neg (fun heq => hn (UInt32.toNat_inj.mp (Int.ofNat_inj.mp heq))),
          hexposed]

/-- A request to take back what is not exposed finds nothing to do, and it was not asked for
    either. -/
theorem exposed_of_unchanged (hrange : ∀ p ∈ ports, InRange p)
    (hexposed : ∀ n, exposes ports n.toNat =
      (requested.lookup n).map fun r => ((r.1.toNat : Int), r.2))
    (h : controlledPorts ports req = none) (n : UInt32) :
    exposes ports n.toNat =
      ((afterRequest requested req).lookup n).map fun r => ((r.1.toNat : Int), r.2) := by
  rcases controlledPorts_eq_none h with ⟨hexpose, hnot⟩
  rw [afterRequest, hexpose, if_neg Bool.false_ne_true, Map.lookup_erase_eq_ite]
  by_cases hn : n = req.spec.port
  · rw [if_pos hn, Option.map_none, hn]
    refine not_not.mp fun hne => hnot ?_
    have hmem := exposes_ne_none_iff.mp hne
    rcases List.mem_map.mp hmem with ⟨p, hp, hport⟩
    have hin := hrange p hp
    rw [InRange, hport] at hin
    have hsmall : int32 req.spec.port = req.spec.port.toNat := if_pos (by omega)
    rw [hsmall]
    exact hmem
  · rw [if_neg hn, hexposed]

/-! ## What a request does -/

/-- Without a service there is no URL. -/
def annotationsOf (s : State) : Map String String :=
  match s.service with
  | none => ∅
  | some service => service.annotations

/-- The name of the service that is there, or of the one that would be. -/
def serviceName (env : Env) (s : State) : String :=
  match s.service with
  | none => getPortsServiceName env.servicePrefix
  | some service => service.name

/-- A request leaves the service alone, deletes it, or stores one with new ports. The
    two ways to store one differ in the ID. -/
inductive Effect (env : Env) (s : State) (req : ControlPortRequest) : State → Prop
  | unchanged (h : controlledPorts (portsOf s) req = none) :
      Effect env s req { s with requested := afterRequest s.requested req }
  | deleted (service : Service) (hs : s.service = some service)
      (h : controlledPorts (portsOf s) req = some []) :
      Effect env s req
        { allocator := free env s.allocator service.name
          service := none
          requested := afterRequest s.requested req }
  | stored (id : String) (service : Service) (alloc : Option AllocatedPorts)
      (pa : KubernetesBackedPortAllocator) (draws : List Nat)
      (hid : id = env.metaID ∨ id = env.id)
      (h : controlledPorts (portsOf s) req = some service.ports) (hne : service.ports ≠ [])
      (hname : service.name = serviceName env s)
      (hupdate : update env s.allocator service.name (service.ports.map (·.port)) draws =
        (.ok alloc, pa))
      (hannotations : annotateURLs env id env.servicePrefix alloc (service.ports.map (·.port))
        ((annotationsOf s).insert ingressPortsAnnotation (marshal alloc)) =
          .ok service.annotations)
      (haccepts : env.accepts service = true) :
      Effect env s req
        { allocator := pa
          service := some service
          requested := afterRequest s.requested req }

variable {s s' : State} {a : ControlPortRequest × List Nat}

/-- The number that the ingress port is allocated for is the one of the service. -/
theorem effect_of_create {service : Service} {pa : KubernetesBackedPortAllocator}
    {draws : List Nat} (hs : s.service = none) (hexpose : req.expose = true)
    (h : createPortsService env s.allocator env.id env.metaID env.servicePrefix [req.spec] draws =
      (.ok service, pa))
    (haccepts : env.accepts service = true) (hrange : ∀ p ∈ service.ports, InRange p) :
    Effect env s req
      { allocator := pa
        service := some service
        requested := afterRequest s.requested req } := by
  unfold createPortsService at h
  dsimp only [List.map_cons, List.map_nil] at h
  split at h
  · exact absurd (Prod.mk.inj h).1 nofun
  · next alloc pa' hupdate =>
      split at h
      · exact absurd (Prod.mk.inj h).1 nofun
      · next annotations hannotations =>
          rw [Prod.mk.injEq, Except.ok.injEq] at h
          rcases h with ⟨rfl, rfl⟩
          -- allocated is the number of the request, which the service has in 32 bits
          have hport : int32 req.spec.port = req.spec.port.toNat :=
            int32_eq_toNat (le_trans Int.one_nonneg (hrange _ List.mem_cons_self).1)
          have hmap : [req.spec].map (fun p => (p.port.toNat : Int)) =
              ([req.spec].map newServicePort).map (·.port) :=
            congrArg (fun port => [port]) hport.symm
          rw [hmap] at hupdate hannotations
          refine .stored env.metaID _ alloc pa' draws (.inl rfl) ?_ (List.cons_ne_nil _ _) ?_
            hupdate ?_ haccepts
          · rw [portsOf, hs, controlledPorts, hexpose]
            rfl
          · rw [serviceName, hs]
          · rw [annotationsOf, hs]
            exact hannotations

/-- An update that succeeds stores the service, or deletes it with its last port. -/
theorem effect_of_patch {service : Service} {draws : List Nat} {r : Except String Unit}
    (hs : s.service = some service) (hports : controlledPorts service.ports req = some ports)
    (h : patchService env s service ports draws = (r, s')) (hok : r = .ok ()) :
    Effect env s req { s' with requested := afterRequest s.requested req } := by
  have hof : portsOf s = service.ports := by rw [portsOf, hs]
  unfold patchService at h
  split at h
  · next hempty =>
      rw [List.isEmpty_iff] at hempty
      -- the last port was taken back
      rw [← (Prod.mk.inj h).2]
      exact .deleted service hs (by rw [hof, hports, hempty])
  · next hempty =>
      rw [List.isEmpty_iff] at hempty
      split at h
      · exact absurd ((Prod.mk.inj h).1.trans hok) nofun
      · next alloc pa hupdate =>
          split at h
          · exact absurd ((Prod.mk.inj h).1.trans hok) nofun
          · next annotations hannotations =>
              dsimp only at h
              split at h
              · next haccepts =>
                  rw [← (Prod.mk.inj h).2]
                  refine .stored env.id _ alloc pa draws (.inr rfl) ?_ hempty ?_ hupdate ?_
                    haccepts
                  · rw [hof]
                    exact hports
                  · rw [serviceName, hs]
                  · rw [annotationsOf, hs]
                    exact hannotations
              · exact absurd ((Prod.mk.inj h).1.trans hok) nofun

/-- All that a request can do, if it does not fail. -/
theorem effect_of_step
    (haccepts : ∀ service, env.accepts service = true → ∀ p ∈ service.ports, InRange p)
    (h : step env s a = some s') : Effect env s a.1 s' := by
  rw [step] at h
  split at h
  · exact absurd h nofun
  · next s1 hcontrol =>
      rw [Option.some.injEq] at h
      rw [← h]
      unfold controlPort at hcontrol
      split at hcontrol
      · exact absurd (Prod.mk.inj hcontrol).1 nofun
      · split at hcontrol
        · next hs =>
            split at hcontrol
            · next hexpose =>
                split at hcontrol
                · exact absurd (Prod.mk.inj hcontrol).1 nofun
                · next service pa hcreate =>
                    split at hcontrol
                    · next haccept =>
                        rw [← (Prod.mk.inj hcontrol).2]
                        exact effect_of_create hs hexpose hcreate haccept
                          (haccepts service haccept)
                    · exact absurd (Prod.mk.inj hcontrol).1 nofun
            · next hexpose =>
                rw [← (Prod.mk.inj hcontrol).2]
                -- taking a port back without a service is no error
                refine .unchanged ?_
                rw [portsOf, hs, controlledPorts, Bool.eq_false_iff.mpr hexpose]
                rfl
        · next service hs =>
            split at hcontrol
            · next hports =>
                rw [← (Prod.mk.inj hcontrol).2]
                exact .unchanged (by rw [portsOf, hs]; exact hports)
            · next ports hports => exact effect_of_patch hs hports hcontrol rfl

/-! ## What a request keeps -/

/-- Something is asked for exactly if there is a port. -/
theorem exists_requested_iff (hrange : ∀ p ∈ ports, InRange p)
    (hexposed : ∀ n, exposes ports n.toNat =
      (requested.lookup n).map fun r => ((r.1.toNat : Int), r.2)) :
    (∃ n, requested.lookup n ≠ none) ↔ ports ≠ [] := by
  constructor
  · rintro ⟨n, hn⟩ hnil
    have hport := hexposed n
    rw [hnil] at hport
    exact hn (Option.map_eq_none_iff.mp hport.symm)
  · intro hne
    rcases List.exists_mem_of_ne_nil _ hne with ⟨p, hp⟩
    rcases hrange p hp with ⟨hpos, hle, _⟩
    have hsize : p.port.toNat % 2 ^ 32 = p.port.toNat := Nat.mod_eq_of_lt (by omega)
    have hport : ((UInt32.ofNat p.port.toNat).toNat : Int) = p.port := by
      rw [UInt32.toNat_ofNat', hsize]
      omega
    refine ⟨UInt32.ofNat p.port.toNat, fun hnone => ?_⟩
    have hthis := hexposed (UInt32.ofNat p.port.toNat)
    rw [hport, hnone] at hthis
    exact absurd hthis (exposes_ne_none_iff.mpr (List.mem_map_of_mem hp))

theorem service_ne_none_iff (hs : Sound env s) : s.service ≠ none ↔ portsOf s ≠ [] :=
  hs.exists_iff.trans (exists_requested_iff hs.inRange hs.exposed)

theorem serviceName_eq (hs : Sound env s) :
    serviceName env s = getPortsServiceName env.servicePrefix := by
  unfold serviceName
  cases hservice : s.service with
  | none => rfl
  | some service => exact (hs.served service hservice).1

variable (haccepts : ∀ service, env.accepts service = true → ∀ p ∈ service.ports, InRange p)
  (hagree : UrlsAgree env)
include haccepts

include hagree in
theorem sound_of_effect (hs : Sound env s) (h : Effect env s req s') : Sound env s' := by
  cases h with
  | unchanged hports =>
      have hexposed := exposed_of_unchanged hs.inRange hs.exposed hports
      have hexists := exists_requested_iff hs.inRange hexposed
      exact ⟨(service_ne_none_iff hs).trans hexists.symm, hexposed, hs.nodup, hs.inRange,
        hs.served⟩
  | deleted service hservice hports =>
      have hrange' : ∀ p ∈ ([] : List ServicePort), InRange p :=
        fun _ hp => absurd hp List.not_mem_nil
      have hexposed := exposed_afterRequest hs.nodup hs.inRange hrange' hs.exposed hports
      have hexists := exists_requested_iff hrange' hexposed
      refine ⟨iff_of_false (not_not.mpr rfl) (fun h => hexists.mp h rfl), hexposed,
        List.nodup_nil, hrange', fun _ h => absurd h nofun⟩
  | stored id service alloc pa draws hid hports hne hname hupdate hannotations haccept =>
      have hrange' := haccepts service haccept
      have hexposed := exposed_afterRequest hs.nodup hs.inRange hrange' hs.exposed hports
      have hnodup := (controlledPorts_eq_some hs.nodup hports).1
      rcases update_spec hupdate hnodup with ⟨halloc, hallocated⟩
      rcases annotateURLs_spec hannotations with ⟨hurls, hothers⟩
      refine ⟨?_, hexposed, hnodup, hrange', ?_⟩
      · exact iff_of_true nofun ((exists_requested_iff hrange' hexposed).mpr hne)
      · rintro _ ⟨rfl⟩
        have hallocation : allocation env
            { allocator := pa
              service := some service
              requested := afterRequest s.requested req } service = alloc := halloc.symm
        rw [hallocation]
        refine ⟨hname.trans (serviceName_eq hs), ?_, fun p hp => ?_⟩
        · rw [hothers _ (fun port _ => (portURLKey_ne port).symm), AList.lookup_insert]
        · have hport : p.port ∈ service.ports.map (·.port) := List.mem_map_of_mem hp
          rcases hurls p.port hport with ⟨url, hannotated, hurl⟩
          refine ⟨(hallocated p.port hport).1, url, hannotated, ?_⟩
          -- the URL is rendered with one of the two IDs
          rcases hid with rfl | rfl
          · exact ⟨hurl, (hagree _ _).symm.trans hurl⟩
          · exact ⟨(hagree _ _).trans hurl, hurl⟩

omit haccepts in
/-- A port that stays keeps what was allocated for it. -/
theorem kept_of_effect (hs : Sound env s) (h : Effect env s req s') : Kept env s s' := by
  intro service service' hservice hservice' port hport hport'
  cases h with
  | unchanged =>
      have heq : service = service' := Option.some.inj (hservice.symm.trans hservice')
      rw [heq]
      rfl
  | deleted => exact absurd hservice' nofun
  | stored id stored alloc pa draws _ hports _ hname hupdate =>
      have heq : stored = service' := Option.some.inj hservice'
      rw [heq] at hports hname hupdate
      have hnodup := (controlledPorts_eq_some hs.nodup hports).1
      rcases update_spec hupdate hnodup with ⟨halloc, hallocated⟩
      have hsame : service'.name = service.name := by rw [hname, serviceName, hservice]
      rw [heq, allocation, allocation]
      cases hrange : env.range with
      | none => rfl
      | some rng =>
          rcases List.mem_map.mp hport with ⟨p, hp, hpeq⟩
          have hserved := ((hs.served service hservice).2.2 p hp).allocated
          rw [allocation, hrange, hpeq] at hserved
          -- the port was served before, so it has a number to keep
          have hbefore := hserved _ rfl
          rw [← hsame] at hbefore
          have hkept := (hallocated port hport').2 hbefore
          rw [halloc, hrange, hsame] at hkept
          dsimp only [Option.map_some] at hkept ⊢
          rw [hsame]
          exact hkept

omit haccepts in
/-- A port that a request does not concern keeps its annotation. -/
theorem lookup_annotateURLs_of_not_mem {id : String} {annotations : Map String String}
    {ports : List Int} {port : Int}
    (h : annotateURLs env id env.servicePrefix alloc ports
      ((annotationsOf s).insert ingressPortsAnnotation (marshal alloc)) = .ok annotations)
    (hport : port ∉ ports) :
    annotations.lookup (portURLKey port) =
      (annotationsOf s).lookup (portURLKey port) := by
  rw [(annotateURLs_spec h).2, AList.lookup_insert_ne (portURLKey_ne port)]
  intro port' hmem heq
  exact hport (portURLKey_injective heq ▸ hmem)

omit haccepts in
theorem annotated_iff (hs : Good env s) (port : Int) :
    (annotationsOf s).lookup (portURLKey port) ≠ none ↔
      port ∈ (portsOf s).map (·.port) := by
  unfold annotationsOf portsOf
  cases hservice : s.service with
  | none => exact iff_of_false (not_not.mpr rfl) List.not_mem_nil
  | some service =>
      refine ⟨hs.noOther service hservice port, fun hmem => ?_⟩
      rcases List.mem_map.mp hmem with ⟨p, hp, rfl⟩
      rcases ((hs.served service hservice).2.2 p hp).url with ⟨url, hurl, _⟩
      rw [hurl]
      exact Option.some_ne_none url

include hagree in
/-- A service that was right is right again exactly when the request does not take back
    one port of several. -/
theorem good_step_iff (hs : Good env s) (h : step env s a = some s') :
    Good env s' ↔ LeavesNoOther s a := by
  have heffect := effect_of_step haccepts h
  have hsound := sound_of_effect haccepts hagree hs.toSound heffect
  cases heffect with
  | unchanged hports =>
      refine iff_of_true ⟨hsound, hs.noOther⟩ fun _ hmem => ?_
      exact absurd hmem (controlledPorts_eq_none hports).2
  | deleted service hservice hports =>
      refine iff_of_true ⟨hsound, fun _ h => absurd h nofun⟩ fun hexpose _ => ?_
      exact (mem_of_controlledPorts hports hexpose).2.symm
  | stored id service alloc pa draws hid hports hne hname hupdate hannotations =>
      have hafter := (controlledPorts_eq_some hs.nodup hports).2
      cases hexpose : a.1.expose with
      | true =>
          -- the ports that were exposed still are
          refine iff_of_true ⟨hsound, ?_⟩ fun hfalse => absurd (hexpose.symm.trans hfalse) nofun
          rintro _ ⟨rfl⟩ port hannotated
          by_contra hnot
          rw [lookup_annotateURLs_of_not_mem hannotations hnot, annotated_iff hs,
            ← exposes_ne_none_iff] at hannotated
          refine hnot (exposes_ne_none_iff.mp ?_)
          rw [hafter, hexpose, if_pos rfl]
          by_cases hport : port = int32 a.1.spec.port
          · rw [if_pos hport]
            exact Option.some_ne_none _
          · rw [if_neg hport]
            exact hannotated
      | false =>
          rcases mem_of_controlledPorts hports hexpose with ⟨hmem, hlength⟩
          refine iff_of_false (fun hgood => ?_) fun hleaves => ?_
          · -- the port that was taken back still has its URL
            have hgone := hafter (int32 a.1.spec.port)
            rw [if_pos rfl, hexpose, if_neg Bool.false_ne_true] at hgone
            have hnot : int32 a.1.spec.port ∉ service.ports.map (·.port) :=
              fun hin => exposes_ne_none_iff.mpr hin hgone
            refine hnot (hgood.noOther service rfl _ ?_)
            rw [lookup_annotateURLs_of_not_mem hannotations hnot, annotated_iff hs]
            exact hmem
          · have hone := hleaves hexpose hmem
            have hpos := List.length_pos_iff.mpr hne
            omega

omit haccepts in
theorem good_init (env : Env) (pa : KubernetesBackedPortAllocator) : Good env (init pa) where
  exists_iff := iff_of_false (not_not.mpr rfl) (fun ⟨_, hn⟩ => hn rfl)
  exposed _ := rfl
  nodup := List.nodup_nil
  inRange _ hp := absurd hp List.not_mem_nil
  served _ h := absurd h nofun
  noOther _ h := absurd h nofun

omit haccepts

/-- A workspace of a manager with this template, and without ingress ports. -/
def exampleEnv (render : PortURLContext → String) : Env where
  id := "foobar"
  podName := "ws-foobar"
  annotations := AList.insert servicePrefixAnnotation "prefix" ∅
  render ctx := .ok (render ctx)
  host := "nxpod.khulnasoft.com"
  range := none
  accepts service := service.ports.all fun p =>
    1 ≤ p.port && p.port ≤ 65535 && 0 ≤ p.targetPort && p.targetPort ≤ 65535

theorem inRange_of_exampleEnv {render : PortURLContext → String} (service : Service)
    (h : (exampleEnv render).accepts service = true) : ∀ p ∈ service.ports, InRange p := by
  intro p hp
  have hall := List.all_eq_true.mp h p hp
  simp only [Bool.and_eq_true, decide_eq_true_eq] at hall
  exact ⟨hall.1.1.1, hall.1.1.2, hall.1.2, hall.2⟩

/-- A template that does not use the ID. -/
def hostURL (ctx : PortURLContext) : String :=
  ctx.workspacePort ++ "-" ++ ctx.pre ++ "." ++ ctx.host

/-- A template that does, for which the two ways differ. -/
def idURL (ctx : PortURLContext) : String :=
  ctx.workspacePort ++ "-" ++ ctx.id ++ "." ++ ctx.host

/-- A request that exposes a port to everyone. -/
def exposeRequest (port target : UInt32) : ControlPortRequest × List Nat :=
  (⟨true, { port := port, visibility := .portVisibilityPublic, target := target }⟩, [])

/-- A request that takes it back. -/
def unexposeRequest (port : UInt32) : ControlPortRequest × List Nat :=
  (⟨false, { port := port, visibility := .portVisibilityPublic, target := 0 }⟩, [])

instance (s : State) (a : ControlPortRequest × List Nat) : Decidable (LeavesNoOther s a) :=
  inferInstanceAs (Decidable (_ → _ → _))

end Ports

end WsManager

end Nxpod
