import Nxpod.Library.Parties
import Nxpod.WsManager.Finalize
import Nxpod.WsManager.Ports

/-!
# The Objects of All Workspaces

`getAllWorkspaceObjects` of ws-manager puts together what it knows of each
workspace from three listings: the pods, the config maps with the state that
outlives the pods, and the services. Pods and config maps carry the ID of their
workspace. Services do not, but their names are made from a prefix, which pods
and config maps carry as well.

An object is made for each ID, and the others find it through an index. The
source keeps pointers to the objects in three indices. Here the objects are in a
list, and the indices hold positions in it. Two pods with one ID have an object
each, of which only the second one stays in the index.

The indices by the names of services are filled from the pods alone. A service
whose pod is gone is in no object, although the config map of its workspace may
have the prefix.

The result is in the order of the index, which in the source is arbitrary.

## Main definitions

* `Container`: A container by its name and its image.
* `Pod`, `ConfigMap`, `WorkspaceObjects`, `Cluster`: The data.
* `Joining`, `addPod`, `addPLIS`, `addService`: The objects and their indices.
* `getAllWorkspaceObjects`: The objects of all workspaces.
* `ServiceKind`: A workspace has two services at most, one for Theia and one for
  its ports.
* `Belongs`: A service is one of a workspace.
* `Joins`: One object for each workspace, with all that is of the workspace.
* `TellsApart`: The condition on the cluster.
* `Identified`, `Indexed`: The invariants of the objects and of their indices.

## Theorems

* `eq_of_serviceName`: The name of a service says of which kind it is.
* `identified_joining`, `indexed_joining`: What the loops keep up.
* `tellsApart_of_joins`, `joins_of_tellsApart`: The two directions.
* `joins_iff`: When the objects are put together as they should be.
-/

namespace Nxpod

namespace WsManager

namespace Objects

open Finalize ( workspaceIDAnnotation)
open Ports ( servicePrefixAnnotation getPortsServiceName)
open Parties (getElem?_modify_iff mem_modify)

/-! ## The objects -/

/-- A container by its name and its image. -/
structure Container where
  name : String
  image : String

/-- A pod with what is read of it besides its status. -/
structure Pod extends Status.Pod where
  name : String
  creationTimestamp : Int
  hostIP : String
  nodeName : String
  containers : List Container

/-- A config map as it is listed. -/
structure ConfigMap extends Status.ConfigMap where
  name : String

/-- What is known of one workspace. Each part may be missing. -/
structure WorkspaceObjects where
  pod : Option Pod := none
  plis : Option ConfigMap := none
  theiaService : Option Ports.Service := none
  portsService : Option Ports.Service := none
  events : List Status.Event := []

/-- What is listed in a namespace. No two services have one name. -/
structure Cluster where
  pods : List Pod
  configMaps : List ConfigMap
  services : List Ports.Service
  nodup : (services.map Ports.Service.name).Nodup

/-- A workspace has one service for its IDE. -/
def getTheiaServiceName (servicePrefix : String) : String :=
  s!"ws-{Text.trimSpace servicePrefix}-theia"

/-- The workspace of a pod. -/
def Pod.id (pod : Pod) : Option String := pod.annotations.lookup workspaceIDAnnotation

/-- What the names of the services begin with. -/
def Pod.servicePrefix (pod : Pod) : Option String :=
  pod.annotations.lookup servicePrefixAnnotation

/-- The workspace of a config map. -/
def ConfigMap.id (plis : ConfigMap) : Option String :=
  plis.annotations.lookup workspaceIDAnnotation

/-- It is here as well, and nothing looks for it. -/
def ConfigMap.servicePrefix (plis : ConfigMap) : Option String :=
  plis.annotations.lookup servicePrefixAnnotation

/-- The annotation of the pod takes precedence. -/
def WorkspaceObjects.workspaceID (wso : WorkspaceObjects) : Option String :=
  (wso.pod.bind Pod.id).or (wso.plis.bind ConfigMap.id)

/-! ## Joining -/

/-- All objects that were made, and the positions of those that can be found. -/
structure Joining where
  objects : List WorkspaceObjects
  wsoIndex : Map String Nat
  theiaServiceIndex : Map String Nat
  portServiceIndex : Map String Nat

/-- No objects yet. -/
def newJoining : Joining where
  objects := []
  wsoIndex := ∅
  theiaServiceIndex := ∅
  portServiceIndex := ∅

/-- One turn of the loop over the pods. -/
def addPod (j : Joining) (pod : Pod) : Joining :=
  match pod.id with
  | none => j
  | some id =>
      let wso := j.objects.length
      let j := { j with
        objects := j.objects ++ [{ pod := some pod }]
        wsoIndex := j.wsoIndex.insert id wso }
      -- The loop over the config maps has no counterpart to this.
      match pod.servicePrefix with
      | none => j
      | some sp => { j with
          theiaServiceIndex := j.theiaServiceIndex.insert (getTheiaServiceName sp) wso
          portServiceIndex := j.portServiceIndex.insert (getPortsServiceName sp) wso }

/-- One turn of the loop over the config maps. -/
def addPLIS (j : Joining) (plis : ConfigMap) : Joining :=
  match plis.id with
  | none => j
  | some id => match j.wsoIndex.lookup id with
    | some wso => { j with
        objects := j.objects.modify wso fun o => { o with plis := some plis } }
    | none => { j with
        objects := j.objects ++ [{ plis := some plis }]
        wsoIndex := j.wsoIndex.insert id j.objects.length }

/-- One turn of the loop over the services. -/
def addService (j : Joining) (service : Ports.Service) : Joining :=
  match j.theiaServiceIndex.lookup service.name with
  | some wso => { j with
      objects := j.objects.modify wso fun o => { o with theiaService := some service } }
  | none => match j.portServiceIndex.lookup service.name with
    | some wso => { j with
        objects := j.objects.modify wso fun o => { o with portsService := some service } }
    | none => j

/-- The three loops, in the order of the source: services are joined last, since they are found
    through the pods. -/
def joining (pods : List Pod) (plis : List ConfigMap) (services : List Ports.Service) : Joining :=
  services.foldl addService (plis.foldl addPLIS (pods.foldl addPod newJoining))

/-- The objects in the index by IDs. -/
def Joining.result (j : Joining) : List WorkspaceObjects :=
  (Map.values j.wsoIndex).filterMap fun wso => j.objects[wso]?

/-- Each of the listings may fail. -/
def getAllWorkspaceObjects (pods : Except String (List Pod))
    (plis : Except String (List ConfigMap)) (services : Except String (List Ports.Service)) :
    Except String (List WorkspaceObjects) :=
  match pods with
  | .error err => .error s!"cannot list workspaces: {err}"
  | .ok pods => match plis with
    | .error err => .error s!"cannot list workspaces: {err}"
    | .ok plis => match services with
      | .error err => .error s!"cannot list services: {err}"
      | .ok services => .ok (joining pods plis services).result

/-! ## The two kinds of services -/

/-- A workspace has two services at most, one for Theia and one for its ports. -/
inductive ServiceKind
  | theia
  | ports
  deriving DecidableEq

/-- The name of a service is made from a prefix and says of which kind it is. -/
def serviceName : ServiceKind → String → String
  | .theia => getTheiaServiceName
  | .ports => getPortsServiceName

/-- The services of a workspace by their kind. -/
def WorkspaceObjects.service (wso : WorkspaceObjects) : ServiceKind → Option Ports.Service
  | .theia => wso.theiaService
  | .ports => wso.portsService

/-- There is an index for each kind. -/
def Joining.serviceIndex (j : Joining) : ServiceKind → Map String Nat
  | .theia => j.theiaServiceIndex
  | .ports => j.portServiceIndex

/-- A service that comes later takes the place of the one before. -/
def WorkspaceObjects.setService (wso : WorkspaceObjects) (service : Ports.Service) :
    ServiceKind → WorkspaceObjects
  | .theia => { wso with theiaService := some service }
  | .ports => { wso with portsService := some service }

theorem getLast?_getTheiaServiceName (sp : String) :
    (getTheiaServiceName sp).toList.getLast? = some 'a' := by
  rw [getTheiaServiceName, String.toList_append, List.getLast?_append]
  rfl

theorem getLast?_getPortsServiceName (sp : String) :
    (getPortsServiceName sp).toList.getLast? = some 's' := by
  rw [getPortsServiceName, String.toList_append, List.getLast?_append]
  rfl

/-- Names that end differently are those of services of different kinds. -/
theorem eq_of_serviceName {kind kind' : ServiceKind} {sp sp' : String}
    (h : serviceName kind sp = serviceName kind' sp') : kind = kind' := by
  have hlast := congrArg (·.toList.getLast?) h
  cases kind with
  | theia =>
      cases kind' with
      | theia => rfl
      | ports =>
          have hends := (getLast?_getTheiaServiceName sp).symm.trans
            (hlast.trans (getLast?_getPortsServiceName sp'))
          exact absurd hends (by decide)
  | ports =>
      cases kind' with
      | ports => rfl
      | theia =>
          have hends := (getLast?_getPortsServiceName sp).symm.trans
            (hlast.trans (getLast?_getTheiaServiceName sp'))
          exact absurd hends (by decide)

/-! ## What should be in the objects -/

/-- Some pod or config map has the ID. -/
def Known (pods : List Pod) (plis : List ConfigMap) (id : String) : Prop :=
  (∃ pod ∈ pods, pod.id = some id) ∨ ∃ m ∈ plis, m.id = some id

/-- The service has a name that is made from the prefix. -/
def Named (s : Ports.Service) (sp : Option String) : Prop :=
  ∃ kind, ∃ p ∈ sp, s.name = serviceName kind p

/-- A pod or config map of the workspace has the prefix of the service. -/
def Belongs (c : Cluster) (id : String) (s : Ports.Service) : Prop :=
  (∃ pod ∈ c.pods, pod.id = some id ∧ Named s pod.servicePrefix) ∨
    ∃ m ∈ c.configMaps, m.id = some id ∧ Named s m.servicePrefix

/-- There is one object for each workspace ID, and in it are the pod, the config map and
    the services of the workspace, each of them once, and nothing else. -/
structure Joins (c : Cluster) (result : List WorkspaceObjects) : Prop where
  one : (result.map WorkspaceObjects.workspaceID).Nodup
  ids : ∀ id, some id ∈ result.map WorkspaceObjects.workspaceID ↔ Known c.pods c.configMaps id
  known : ∀ wso ∈ result, wso.workspaceID ≠ none
  pods : ∀ wso ∈ result, ∀ pod,
    wso.pod = some pod ↔ pod ∈ c.pods ∧ pod.id = wso.workspaceID
  configMaps : ∀ wso ∈ result, ∀ m,
    wso.plis = some m ↔ m ∈ c.configMaps ∧ m.id = wso.workspaceID
  services : ∀ wso ∈ result, ∀ id, wso.workspaceID = some id → ∀ s ∈ c.services,
    Belongs c id s → ∃! kind, wso.service kind = some s
  others : ∀ wso ∈ result, ∀ id, wso.workspaceID = some id → ∀ kind s,
    wso.service kind = some s → s ∈ c.services ∧ Belongs c id s

/-- No two pods and no two config maps are of one workspace, and a service of a workspace
    has a pod of it, and none of another one. -/
structure TellsApart (c : Cluster) : Prop where
  pods : ∀ p ∈ c.pods, ∀ q ∈ c.pods, p.id ≠ none → p.id = q.id → p = q
  configMaps : ∀ m ∈ c.configMaps, ∀ n ∈ c.configMaps, m.id ≠ none → m.id = n.id → m = n
  services : ∀ s ∈ c.services, ∀ id, Belongs c id s →
    (∃ p ∈ c.pods, p.id = some id ∧ Named s p.servicePrefix) ∧
      ∀ q ∈ c.pods, q.id ≠ none → Named s q.servicePrefix → q.id = some id

/-! ## What the loops keep up -/

/-- The index by IDs and what it leads to, after some pods and config maps. -/
structure Identified (pods : List Pod) (configMaps : List ConfigMap) (j : Joining) : Prop where
  ids : ∀ id l, j.wsoIndex.lookup id = some l →
    ∃ o, j.objects[l]? = some o ∧ o.workspaceID = some id
  known : ∀ id, j.wsoIndex.lookup id ≠ none ↔ Known pods configMaps id
  pod : ∀ o ∈ j.objects, ∀ p, o.pod = some p → p ∈ pods ∧ p.id ≠ none
  /-- Of several pods with one ID, the index leads to the last one. -/
  last : ∀ l o p id, j.objects[l]? = some o → o.pod = some p → p.id = some id →
    ∃ l', l ≤ l' ∧ j.wsoIndex.lookup id = some l'
  podThere : ∀ id l o, j.wsoIndex.lookup id = some l → j.objects[l]? = some o →
    (∃ p ∈ pods, p.id = some id) → o.pod ≠ none
  plis : ∀ o ∈ j.objects, ∀ m, o.plis = some m → m ∈ configMaps ∧ m.id = o.workspaceID
  plisThere : ∀ id l o, j.wsoIndex.lookup id = some l → j.objects[l]? = some o →
    (∃ m ∈ configMaps, m.id = some id) → o.plis ≠ none

/-- The indices by names of services, which lead to pods that have the prefix, and the
    services in the objects. -/
structure Indexed (services : List Ports.Service) (j : Joining) : Prop where
  index : ∀ kind name l, (j.serviceIndex kind).lookup name = some l →
    ∃ o p sp, j.objects[l]? = some o ∧ o.pod = some p ∧ p.servicePrefix = some sp ∧
      name = serviceName kind sp
  indexed : ∀ kind l o p sp, j.objects[l]? = some o → o.pod = some p →
    p.servicePrefix = some sp →
    ∃ l', l ≤ l' ∧ (j.serviceIndex kind).lookup (serviceName kind sp) = some l'
  slot : ∀ kind l o s, j.objects[l]? = some o → o.service kind = some s →
    s ∈ services ∧ (j.serviceIndex kind).lookup s.name = some l
  slotThere : ∀ kind l o, ∀ s ∈ services, (j.serviceIndex kind).lookup s.name = some l →
    j.objects[l]? = some o → o.service kind ≠ none

/-- The invariants hold before the first turn of the first loop. -/
theorem identified_newJoining : Identified [] [] newJoining := by
  constructor <;> simp [newJoining, Known, AList.lookup_empty]

theorem indexed_newJoining : Indexed [] newJoining := by
  have hindex : ∀ kind, newJoining.serviceIndex kind = ∅ := fun kind => by cases kind <;> rfl
  constructor
  case index => exact fun kind name l h => absurd (hindex kind ▸ h) nofun
  all_goals simp [newJoining]

variable {pods : List Pod} {configMaps : List ConfigMap} {services : List Ports.Service}
  {j : Joining}

theorem getElem?_concat_iff {α : Type*} (l : List α) (a x : α) (i : Nat) :
    (l ++ [a])[i]? = some x ↔ l[i]? = some x ∨ (i = l.length ∧ x = a) := by
  rcases Nat.lt_trichotomy i l.length with hlt | heq | hgt
  · rw [List.getElem?_append_left hlt]
    exact (or_iff_left fun h => absurd h.1 (Nat.ne_of_lt hlt)).symm
  · rw [heq, List.getElem?_concat_length, List.getElem?_eq_none (Nat.le_refl _)]
    simp [eq_comm]
  · rw [List.getElem?_eq_none (by rw [List.length_append, List.length_singleton]; exact hgt),
      List.getElem?_eq_none (Nat.le_of_lt hgt)]
    simp [Nat.ne_of_gt hgt]

/-- A change of one object that leaves its pod. -/
theorem getElem?_modify_pod {f : WorkspaceObjects → WorkspaceObjects}
    (hf : ∀ o, (f o).pod = o.pod) {objects : List WorkspaceObjects} {i k : Nat}
    {o : WorkspaceObjects} (ho : (objects.modify i f)[k]? = some o) :
    ∃ y, objects[k]? = some y ∧ o.pod = y.pod := by
  rcases (getElem?_modify_iff objects f i k o).mp ho with ⟨y, hy, rfl⟩
  refine ⟨y, hy, ?_⟩
  split_ifs
  · exact hf y
  · rfl

/-- What is known of the pods stays as it is. -/
theorem Identified.pods_modify (h : Identified pods configMaps j)
    {f : WorkspaceObjects → WorkspaceObjects} (hf : ∀ o, (f o).pod = o.pod) (wso : Nat) :
    (∀ o ∈ j.objects.modify wso f, ∀ p, o.pod = some p → p ∈ pods ∧ p.id ≠ none) ∧
    (∀ l o p id, (j.objects.modify wso f)[l]? = some o → o.pod = some p → p.id = some id →
      ∃ l', l ≤ l' ∧ j.wsoIndex.lookup id = some l') ∧
    ∀ id l o, j.wsoIndex.lookup id = some l → (j.objects.modify wso f)[l]? = some o →
      (∃ p ∈ pods, p.id = some id) → o.pod ≠ none := by
  refine ⟨fun o ho p hp => ?_, fun l o p id ho hp hpid => ?_, fun id l o hl ho hp => ?_⟩
  · rcases List.mem_iff_getElem?.mp ho with ⟨k, hk⟩
    rcases getElem?_modify_pod hf hk with ⟨y, hy, hpod⟩
    exact h.pod y (List.mem_of_getElem? hy) p (hpod ▸ hp)
  · rcases getElem?_modify_pod hf ho with ⟨y, hy, hpod⟩
    exact h.last l y p id hy (hpod ▸ hp) hpid
  · rcases getElem?_modify_pod hf ho with ⟨y, hy, hpod⟩
    rw [hpod]
    exact h.podThere id l y hl hy hp

/-- A new object comes behind all others, and the index leads to it from its ID. -/
theorem Identified.index_new (h : Identified pods configMaps j) {new : WorkspaceObjects}
    {id : String} (hid : new.workspaceID = some id) :
    (∀ id' l, (j.wsoIndex.insert id j.objects.length).lookup id' = some l →
      ∃ o, (j.objects ++ [new])[l]? = some o ∧ o.workspaceID = some id') ∧
    ∀ l o p id', (j.objects ++ [new])[l]? = some o → o.pod = some p → p.id = some id' →
      ∃ l', l ≤ l' ∧ (j.wsoIndex.insert id j.objects.length).lookup id' = some l' := by
  refine ⟨fun id' l hl => ?_, fun l o p id' ho hp hpid => ?_⟩
  · simp only [getElem?_concat_iff]
    rw [Map.lookup_insert_eq_ite] at hl
    split_ifs at hl with hid'
    · cases hl
      exact ⟨new, .inr ⟨rfl, rfl⟩, hid' ▸ hid⟩
    · rcases h.ids id' l hl with ⟨o, ho, hoid⟩
      exact ⟨o, .inl ho, hoid⟩
  · rw [Map.lookup_insert_eq_ite]
    rcases (getElem?_concat_iff _ _ _ _).mp ho with ho | ⟨rfl, rfl⟩
    · split_ifs
      · exact ⟨_, Nat.le_of_lt (List.getElem?_eq_some_iff.mp ho).1, rfl⟩
      · exact h.last l o p id' ho hp hpid
    · -- The ID of an object with a pod is that of the pod.
      rw [WorkspaceObjects.workspaceID, hp, Option.bind_some, hpid, Option.some_or] at hid
      exact ⟨_, Nat.le_refl _, if_pos (Option.some.inj hid)⟩

/-- The indices by the names of services lead to the same pods. -/
theorem Indexed.pods_modify (h : Indexed services j)
    {f : WorkspaceObjects → WorkspaceObjects} (hf : ∀ o, (f o).pod = o.pod) (wso : Nat) :
    (∀ kind name l, (j.serviceIndex kind).lookup name = some l →
      ∃ o p sp, (j.objects.modify wso f)[l]? = some o ∧ o.pod = some p ∧
        p.servicePrefix = some sp ∧ name = serviceName kind sp) ∧
    ∀ kind l o p sp, (j.objects.modify wso f)[l]? = some o → o.pod = some p →
      p.servicePrefix = some sp →
      ∃ l', l ≤ l' ∧ (j.serviceIndex kind).lookup (serviceName kind sp) = some l' := by
  refine ⟨fun kind name l hl => ?_, fun kind l o p sp ho hp hsp => ?_⟩
  · rcases h.index kind name l hl with ⟨o, p, sp, ho, hp, hrest⟩
    have hmodified := (getElem?_modify_iff j.objects f wso l _).mpr ⟨o, ho, rfl⟩
    rcases getElem?_modify_pod hf hmodified with ⟨y, hy, hpod⟩
    cases Option.some.inj (ho.symm.trans hy)
    exact ⟨_, p, sp, hmodified, hpod.trans hp, hrest⟩
  · rcases getElem?_modify_pod hf ho with ⟨y, hy, hpod⟩
    exact h.indexed kind l y p sp hy (hpod ▸ hp) hsp

/-- The indices by the names of services do not change with the objects. -/
theorem serviceIndex_congr {j' : Joining} (htheia : j'.theiaServiceIndex = j.theiaServiceIndex)
    (hports : j'.portServiceIndex = j.portServiceIndex) (kind : ServiceKind) :
    j'.serviceIndex kind = j.serviceIndex kind := by
  cases kind with
  | theia => exact htheia
  | ports => exact hports

/-! ### The pods -/

/-- A pod with an ID gets an object of its own, behind all others. -/
theorem addPod_some {pod : Pod} {id : String} (hid : pod.id = some id) :
    (addPod j pod).objects = j.objects ++ [{ pod := some pod }] ∧
      (addPod j pod).wsoIndex = j.wsoIndex.insert id j.objects.length ∧
      ∀ kind name, ((addPod j pod).serviceIndex kind).lookup name =
        if pod.servicePrefix.map (serviceName kind) = some name then some j.objects.length
        else (j.serviceIndex kind).lookup name := by
  unfold addPod
  rw [hid]
  cases pod.servicePrefix with
  | none => exact ⟨rfl, rfl, fun kind name => by cases kind <;> rfl⟩
  | some sp =>
      refine ⟨rfl, rfl, fun kind name => ?_⟩
      cases kind with
      | theia =>
          refine (Map.lookup_insert_eq_ite _ _ _ _).trans ?_
          simp only [Option.map_some, Option.some.injEq, eq_comm, serviceName]
          rfl
      | ports =>
          refine (Map.lookup_insert_eq_ite _ _ _ _).trans ?_
          simp only [Option.map_some, Option.some.injEq, eq_comm, serviceName]
          rfl

/-- The ID of an object with a pod is that of the pod. -/
theorem workspaceID_pod (pod : Pod) : WorkspaceObjects.workspaceID { pod := some pod } = pod.id :=
  Option.or_none

theorem workspaceID_plis (m : ConfigMap) : WorkspaceObjects.workspaceID { plis := some m } = m.id :=
  rfl

theorem addPod_none {pod : Pod} (hid : pod.id = none) : addPod j pod = j := by
  unfold addPod
  rw [hid]

theorem identified_addPod (h : Identified pods [] j) (pod : Pod) :
    Identified (pods ++ [pod]) [] (addPod j pod) := by
  cases hid : pod.id with
  | none =>
      -- A pod without an ID is left out.
      have hmem : ∀ id, (∃ p ∈ pods ++ [pod], p.id = some id) ↔ ∃ p ∈ pods, p.id = some id := by
        simp [or_and_right, exists_or, hid]
      rw [addPod_none hid]
      exact { h with
        known := fun id => (h.known id).trans (or_congr (hmem id).symm Iff.rfl)
        pod := fun o ho p hp =>
          ⟨List.mem_append_left _ (h.pod o ho p hp).1, (h.pod o ho p hp).2⟩
        podThere := fun id l o hl ho hp => h.podThere id l o hl ho ((hmem id).mp hp) }
  | some id =>
      rcases addPod_some (j := j) hid with ⟨hobjects, hindex, -⟩
      rcases h.index_new ((workspaceID_pod pod).trans hid) with ⟨hids, hlast⟩
      rw [← hobjects, ← hindex] at hids hlast
      constructor
      case ids => exact hids
      case known =>
        intro id'
        rw [hindex, Map.lookup_insert_eq_ite]
        split_ifs with hid'
        · exact ⟨fun _ => .inl ⟨pod, by simp, hid' ▸ hid⟩, fun _ => nofun⟩
        · rw [h.known id', Known, Known]
          simp [or_and_right, exists_or, hid, Ne.symm hid']
      case pod =>
        intro o ho p hp
        rw [hobjects, List.mem_append, List.mem_singleton] at ho
        rcases ho with ho | rfl
        · exact ⟨List.mem_append_left _ (h.pod o ho p hp).1, (h.pod o ho p hp).2⟩
        · cases hp
          exact ⟨List.mem_append_right _ List.mem_cons_self, by rw [hid]; nofun⟩
      case last => exact hlast
      case podThere =>
        intro id' l o hl ho hp
        rw [hobjects, getElem?_concat_iff] at ho
        rcases ho with ho | ⟨-, rfl⟩
        · rw [hindex, Map.lookup_insert_eq_ite] at hl
          split_ifs at hl with hid'
          · cases hl
            exact absurd (List.getElem?_eq_some_iff.mp ho).1 (Nat.lt_irrefl _)
          · refine h.podThere id' l o hl ho ?_
            simpa [or_and_right, exists_or, hid, Ne.symm hid'] using hp
        · nofun
      case plis =>
        intro o ho m hm
        rw [hobjects, List.mem_append, List.mem_singleton] at ho
        rcases ho with ho | rfl
        · exact h.plis o ho m hm
        · cases hm
      case plisThere => exact fun id' l o hl ho hm => by simp at hm

/-- A pod opens an object of its own, and the indices lead to it from now on. -/
theorem indexed_addPod (h : Indexed [] j) (pod : Pod) : Indexed [] (addPod j pod) := by
  cases hid : pod.id with
  | none => rwa [addPod_none hid]
  | some id =>
      rcases addPod_some (j := j) hid with ⟨hobjects, -, hservice⟩
      constructor
      case index =>
        intro kind name l hl
        rw [hservice] at hl
        simp only [hobjects, getElem?_concat_iff]
        split_ifs at hl with hname
        · cases hl
          rcases Option.map_eq_some_iff.mp hname with ⟨sp, hsp, hname⟩
          exact ⟨_, pod, sp, .inr ⟨rfl, rfl⟩, rfl, hsp, hname.symm⟩
        · rcases h.index kind name l hl with ⟨o, p, sp, ho, hrest⟩
          exact ⟨o, p, sp, .inl ho, hrest⟩
      case indexed =>
        intro kind l o p sp ho hp hsp
        rw [hservice]
        rw [hobjects, getElem?_concat_iff] at ho
        rcases ho with ho | ⟨rfl, rfl⟩
        · split_ifs
          · exact ⟨_, Nat.le_of_lt (List.getElem?_eq_some_iff.mp ho).1, rfl⟩
          · exact h.indexed kind l o p sp ho hp hsp
        · cases hp
          exact ⟨_, Nat.le_refl _, if_pos (congrArg _ hsp)⟩
      -- No service has been added yet.
      case slot =>
        intro kind l o s ho hs
        rw [hobjects, getElem?_concat_iff] at ho
        rcases ho with ho | ⟨-, rfl⟩
        · exact absurd (h.slot kind l o s ho hs).1 nofun
        · cases kind <;> cases hs
      case slotThere => exact fun kind l o s hs => absurd hs nofun

/-! ### The config maps -/

theorem addPLIS_none {m : ConfigMap} (hid : m.id = none) : addPLIS j m = j := by
  unfold addPLIS
  rw [hid]

/-- An object does not change its ID when it gets the config map. -/
theorem workspaceID_setPlis {o : WorkspaceObjects} {m : ConfigMap} {id : String}
    (ho : o.workspaceID = some id) (hm : m.id = some id) :
    WorkspaceObjects.workspaceID { o with plis := some m } = some id := by
  unfold WorkspaceObjects.workspaceID at ho ⊢
  cases hpod : o.pod.bind Pod.id with
  | none => exact hm
  | some _ => rwa [hpod] at ho

/-- The object with the ID gets the config map, or a new object with it does. -/
theorem addPLIS_some {m : ConfigMap} {id : String} (hid : m.id = some id) :
    (∃ wso, j.wsoIndex.lookup id = some wso ∧ addPLIS j m = { j with
      objects := j.objects.modify wso fun o => { o with plis := some m } }) ∨
    (j.wsoIndex.lookup id = none ∧ addPLIS j m = { j with
      objects := j.objects ++ [{ plis := some m }]
      wsoIndex := j.wsoIndex.insert id j.objects.length }) := by
  cases hlookup : j.wsoIndex.lookup id with
  | none => exact .inr ⟨rfl, by simp only [addPLIS, hid, hlookup]⟩
  | some wso => exact .inl ⟨wso, rfl, by simp only [addPLIS, hid, hlookup]⟩

/-- One more config map makes one more ID known at most. -/
theorem known_concat {m : ConfigMap} {id : String} (hid : m.id = some id) (id' : String) :
    Known pods (configMaps ++ [m]) id' ↔ Known pods configMaps id' ∨ id' = id := by
  simp [Known, or_and_right, exists_or, hid, or_assoc, eq_comm]

/-- Some object of the workspace gets the config map. -/
theorem identified_setPlis (h : Identified pods configMaps j) {m : ConfigMap} {id : String}
    (hid : m.id = some id) {wso : Nat} (hwso : j.wsoIndex.lookup id = some wso) :
    Identified pods (configMaps ++ [m])
      { j with objects := j.objects.modify wso fun o => { o with plis := some m } } := by
  rcases h.ids id wso hwso with ⟨held, hheld, hheldID⟩
  rcases h.pods_modify (f := fun o => { o with plis := some m }) (fun _ => rfl) wso with
    ⟨hpod, hlast, hthere⟩
  constructor
  case ids =>
    intro id' l hl
    rcases h.ids id' l hl with ⟨o, ho, hoid⟩
    refine ⟨_, (getElem?_modify_iff _ _ _ _ _).mpr ⟨o, ho, rfl⟩, ?_⟩
    -- The object that gets the config map already has its ID.
    split_ifs with hwl
    · have heq : held = o := Option.some.inj ((hwl ▸ hheld).symm.trans ho)
      have hids : id' = id := Option.some.inj (hoid.symm.trans (heq ▸ hheldID))
      exact workspaceID_setPlis hoid (hids ▸ hid)
    · exact hoid
  case known =>
    intro id'
    rw [known_concat hid, ← h.known id']
    exact (or_iff_left_of_imp fun heq => by rw [heq, hwso]; nofun).symm
  case pod => exact hpod
  case last => exact hlast
  case podThere => exact hthere
  case plis =>
    intro o ho n hn
    rcases mem_modify ho with ⟨y, k, hy, rfl⟩
    split_ifs at hn ⊢ with hwk
    · cases hn
      have heq : held = y := Option.some.inj ((hwk ▸ hheld).symm.trans hy)
      refine ⟨by simp, hid.trans ?_⟩
      exact (workspaceID_setPlis (heq ▸ hheldID) hid).symm
    · rcases h.plis y (List.mem_of_getElem? hy) n hn with ⟨hmem, hnid⟩
      exact ⟨List.mem_append_left _ hmem, hnid⟩
  case plisThere =>
    intro id' l o hl ho hn
    rcases (getElem?_modify_iff _ _ _ _ _).mp ho with ⟨y, hy, rfl⟩
    split_ifs with hwl
    · nofun
    · refine h.plisThere id' l y hl hy ?_
      have hne : id ≠ id' := fun heq => hwl (Option.some.inj (hwso.symm.trans (heq ▸ hl)))
      simpa [or_and_right, exists_or, hid, hne] using hn

/-- The first that is known of the workspace is the config map. -/
theorem identified_newPlis (h : Identified pods configMaps j) {m : ConfigMap} {id : String}
    (hid : m.id = some id) (hwso : j.wsoIndex.lookup id = none) :
    Identified pods (configMaps ++ [m]) { j with
      objects := j.objects ++ [{ plis := some m }]
      wsoIndex := j.wsoIndex.insert id j.objects.length } := by
  rcases h.index_new ((workspaceID_plis m).trans hid) with ⟨hids, hlast⟩
  constructor
  case ids => exact hids
  case known =>
    intro id'
    rw [known_concat hid, ← h.known id', Map.lookup_insert_eq_ite]
    split_ifs with hid' <;> simp [hid']
  case pod =>
    intro o ho p hp
    rcases List.mem_append.mp ho with ho | ho
    · exact h.pod o ho p hp
    · rw [List.mem_singleton.mp ho] at hp
      cases hp
  case last => exact hlast
  case podThere =>
    intro id' l o hl ho hp
    rw [Map.lookup_insert_eq_ite] at hl
    split_ifs at hl with hid'
    · -- A pod of the workspace would have made it known.
      exact absurd hwso ((h.known id).mpr (.inl (hid' ▸ hp)))
    · rcases (getElem?_concat_iff _ _ _ _).mp ho with ho | ⟨rfl, -⟩
      · exact h.podThere id' l o hl ho hp
      · rcases h.ids id' _ hl with ⟨_, hlast, -⟩
        exact absurd (List.getElem?_eq_some_iff.mp hlast).1 (Nat.lt_irrefl _)
  case plis =>
    intro o ho n hn
    rcases List.mem_append.mp ho with ho | ho
    · rcases h.plis o ho n hn with ⟨hmem, hnid⟩
      exact ⟨List.mem_append_left _ hmem, hnid⟩
    · rw [List.mem_singleton.mp ho] at hn ⊢
      cases hn
      exact ⟨by simp, (workspaceID_plis m).symm⟩
  case plisThere =>
    intro id' l o hl ho hn
    rcases (getElem?_concat_iff _ _ _ _).mp ho with ho | ⟨-, rfl⟩
    · rw [Map.lookup_insert_eq_ite] at hl
      split_ifs at hl with hid'
      · cases hl
        exact absurd (List.getElem?_eq_some_iff.mp ho).1 (Nat.lt_irrefl _)
      · refine h.plisThere id' l o hl ho ?_
        simpa [or_and_right, exists_or, hid, Ne.symm hid'] using hn
    · nofun

/-- One turn of the second loop keeps both invariants. -/
theorem identified_addPLIS (h : Identified pods configMaps j) (m : ConfigMap) :
    Identified pods (configMaps ++ [m]) (addPLIS j m) := by
  cases hid : m.id with
  | none =>
      have hmem : ∀ id, (∃ n ∈ configMaps ++ [m], n.id = some id) ↔
          ∃ n ∈ configMaps, n.id = some id := by
        simp [or_and_right, exists_or, hid]
      rw [addPLIS_none hid]
      exact { h with
        known := fun id => (h.known id).trans (or_congr Iff.rfl (hmem id).symm)
        plis := fun o ho n hn =>
          ⟨List.mem_append_left _ (h.plis o ho n hn).1, (h.plis o ho n hn).2⟩
        plisThere := fun id l o hl ho hn => h.plisThere id l o hl ho ((hmem id).mp hn) }
  | some id =>
      rcases addPLIS_some (j := j) hid with ⟨wso, hwso, hadd⟩ | ⟨hwso, hadd⟩
      · exact hadd ▸ identified_setPlis h hid hwso
      · exact hadd ▸ identified_newPlis h hid hwso

/-- A config map is put into the object of its pod, if there is one. -/
theorem indexed_addPLIS (h : Indexed [] j) (m : ConfigMap) : Indexed [] (addPLIS j m) := by
  cases hid : m.id with
  | none => rwa [addPLIS_none hid]
  | some id =>
      -- The config map goes to a workspace that is known, or to a new one.
      rcases addPLIS_some (j := j) hid with ⟨wso, -, hadd⟩ | ⟨-, hadd⟩
      · rcases h.pods_modify (f := fun o => { o with plis := some m }) (fun _ => rfl) wso with
          ⟨hindex, hindexed⟩
        have hsame : ∀ kind, (addPLIS j m).serviceIndex kind = j.serviceIndex kind :=
          serviceIndex_congr (by rw [hadd]) (by rw [hadd])
        rw [hadd] at hsame ⊢
        constructor
        case index => exact fun kind name l hl => hindex kind name l (hsame kind ▸ hl)
        case indexed => exact fun kind => (hsame kind).symm ▸ hindexed kind
        case slot =>
          intro kind l o s ho hs
          rcases (getElem?_modify_iff _ _ _ _ _).mp ho with ⟨y, hy, rfl⟩
          refine absurd (h.slot kind l y s hy ?_).1 nofun
          cases kind <;> split_ifs at hs <;> exact hs
        case slotThere => exact fun kind l o s hs => absurd hs nofun
      · have hsame : ∀ kind, (addPLIS j m).serviceIndex kind = j.serviceIndex kind :=
          serviceIndex_congr (by rw [hadd]) (by rw [hadd])
        rw [hadd] at hsame ⊢
        constructor
        case index =>
          intro kind name l hl
          rcases h.index kind name l (hsame kind ▸ hl) with ⟨o, p, sp, ho, hrest⟩
          exact ⟨o, p, sp, (getElem?_concat_iff _ _ _ _).mpr (.inl ho), hrest⟩
        case indexed =>
          intro kind l o p sp ho hp hsp
          rw [hsame]
          rcases (getElem?_concat_iff _ _ _ _).mp ho with ho | ⟨-, rfl⟩
          · exact h.indexed kind l o p sp ho hp hsp
          · cases hp
        case slot =>
          intro kind l o s ho hs
          rcases (getElem?_concat_iff _ _ _ _).mp ho with ho | ⟨-, rfl⟩
          · exact absurd (h.slot kind l o s ho hs).1 nofun
          · cases kind <;> cases hs
        case slotThere => exact fun kind l o s hs => absurd hs nofun

/-! ### The services -/

/-- A service goes to the object that an index leads to, or nowhere. -/
theorem addService_cases (service : Ports.Service) :
    (∃ kind wso, (j.serviceIndex kind).lookup service.name = some wso ∧
      addService j service =
        { j with objects := j.objects.modify wso fun o => o.setService service kind }) ∨
    ((∀ kind, (j.serviceIndex kind).lookup service.name = none) ∧ addService j service = j) := by
  cases htheia : j.theiaServiceIndex.lookup service.name with
  | some wso => exact .inl ⟨.theia, wso, htheia, by simp only [addService, htheia]; rfl⟩
  | none => cases hports : j.portServiceIndex.lookup service.name with
    | some wso => exact .inl ⟨.ports, wso, hports, by simp only [addService, htheia, hports]; rfl⟩
    | none =>
        refine .inr ⟨fun kind => ?_, by simp only [addService, htheia, hports]⟩
        cases kind <;> assumption

/-- A service that is put into an object leaves the rest of it. -/
theorem setService_pod (wso : WorkspaceObjects) (s : Ports.Service) (kind : ServiceKind) :
    (wso.setService s kind).pod = wso.pod := by
  cases kind <;> rfl

theorem setService_plis (wso : WorkspaceObjects) (s : Ports.Service) (kind : ServiceKind) :
    (wso.setService s kind).plis = wso.plis := by
  cases kind <;> rfl

theorem setService_workspaceID (wso : WorkspaceObjects) (s : Ports.Service) (kind : ServiceKind) :
    (wso.setService s kind).workspaceID = wso.workspaceID := by
  cases kind <;> rfl

theorem setService_service (wso : WorkspaceObjects) (s : Ports.Service) (kind kind' : ServiceKind) :
    (wso.setService s kind).service kind' = if kind = kind' then some s else wso.service kind' := by
  cases kind <;> cases kind' <;> rfl

theorem identified_addService (h : Identified pods configMaps j) (service : Ports.Service) :
    Identified pods configMaps (addService j service) := by
  -- The service goes to the workspace of its name, if there is one.
  rcases addService_cases (j := j) service with ⟨kind, wso, -, hadd⟩ | ⟨-, hadd⟩
  · rcases h.pods_modify (f := fun o => o.setService service kind)
      (fun o => setService_pod o service kind) wso with ⟨hpod, hlast, hthere⟩
    rw [hadd]
    constructor
    case ids =>
      intro id l hl
      rcases h.ids id l hl with ⟨o, ho, hoid⟩
      refine ⟨_, (getElem?_modify_iff _ _ _ _ _).mpr ⟨o, ho, rfl⟩, ?_⟩
      split_ifs
      · rw [setService_workspaceID, hoid]
      · exact hoid
    case known => exact h.known
    case pod => exact hpod
    case last => exact hlast
    case podThere => exact hthere
    case plis =>
      intro o ho m hm
      rcases mem_modify ho with ⟨y, k, hy, rfl⟩
      split_ifs at hm ⊢
      · rw [setService_workspaceID]
        rw [setService_plis] at hm
        exact h.plis y (List.mem_of_getElem? hy) m hm
      · exact h.plis y (List.mem_of_getElem? hy) m hm
    case plisThere =>
      intro id l o hl ho hm
      rcases (getElem?_modify_iff _ _ _ _ _).mp ho with ⟨y, hy, rfl⟩
      have hthere := h.plisThere id l y hl hy hm
      split_ifs
      · rwa [setService_plis]
      · exact hthere
  · rwa [hadd]

theorem Indexed.kind_eq (h : Indexed services j) {kind kind' : ServiceKind} {name : String}
    {l l' : Nat} (hl : (j.serviceIndex kind).lookup name = some l)
    (hl' : (j.serviceIndex kind').lookup name = some l') : kind = kind' := by
  rcases h.index kind name l hl with ⟨_, _, sp, -, -, -, hname⟩
  rcases h.index kind' name l' hl' with ⟨_, _, sp', -, -, -, hname'⟩
  exact eq_of_serviceName (hname.symm.trans hname')

/-- A service goes where the index by its name leads, or nowhere. -/
theorem indexed_addService (h : Indexed services j) (service : Ports.Service) :
    Indexed (services ++ [service]) (addService j service) := by
  rcases addService_cases (j := j) service with ⟨kind, wso, hwso, hadd⟩ | ⟨hnone, hadd⟩
  · rcases h.pods_modify (f := fun o => o.setService service kind)
      (fun o => setService_pod o service kind) wso with ⟨hindex, hindexed⟩
    have hsame : ∀ kind', (addService j service).serviceIndex kind' = j.serviceIndex kind' :=
      serviceIndex_congr (by rw [hadd]) (by rw [hadd])
    rw [hadd] at hsame ⊢
    constructor
    case index => exact fun kind' name l hl => hindex kind' name l (hsame kind' ▸ hl)
    case indexed => exact fun kind' => (hsame kind').symm ▸ hindexed kind'
    case slot =>
      intro kind' l o s ho hs
      rw [hsame]
      rcases (getElem?_modify_iff _ _ _ _ _).mp ho with ⟨y, hy, rfl⟩
      have hold : y.service kind' = some s →
          s ∈ services ++ [service] ∧ (j.serviceIndex kind').lookup s.name = some l := by
        intro hs
        rcases h.slot kind' l y s hy hs with ⟨hmem, hl⟩
        exact ⟨List.mem_append_left _ hmem, hl⟩
      split_ifs at hs with hwl
      · rw [setService_service] at hs
        split_ifs at hs with hkind
        · cases hs
          exact ⟨by simp, hkind ▸ hwl ▸ hwso⟩
        · exact hold hs
      · exact hold hs
    case slotThere =>
      intro kind' l o s hs hl ho
      rw [hsame] at hl
      rcases (getElem?_modify_iff _ _ _ _ _).mp ho with ⟨y, hy, rfl⟩
      rcases List.mem_append.mp hs with hs | hs
      · have hthere := h.slotThere kind' l y s hs hl hy
        split_ifs
        · rw [setService_service]
          split_ifs
          · nofun
          · exact hthere
        · exact hthere
      · -- The name leads to the object that the service was put into.
        rw [List.mem_singleton.mp hs] at hl
        have hkind := h.kind_eq hwso hl
        have hwl : wso = l := Option.some.inj (hwso.symm.trans (hkind ▸ hl))
        rw [if_pos hwl, setService_service, if_pos hkind]
        nofun
  · rw [hadd]
    exact { h with
      slot := fun kind l o s ho hs =>
        ⟨List.mem_append_left _ (h.slot kind l o s ho hs).1, (h.slot kind l o s ho hs).2⟩
      slotThere := fun kind l o s hs hl => by
        rcases List.mem_append.mp hs with hs | hs
        · exact h.slotThere kind l o s hs hl
        · rw [List.mem_singleton.mp hs, hnone kind] at hl
          cases hl }

/-! ## All objects -/

/-- What every turn of a loop keeps up, with one more element, holds after the loop. -/
theorem foldl_along {α β : Type*} {P : List α → β → Prop} {f : β → α → β} {b : β}
    (hinit : P [] b) (hstep : ∀ xs b x, P xs b → P (xs ++ [x]) (f b x)) (xs : List α) :
    P xs (xs.foldl f b) := by
  induction xs using List.reverseRecOn with
  | nil => exact hinit
  | append_singleton xs x ih =>
      rw [List.foldl_concat]
      exact hstep xs _ x ih

/-- What holds of the objects and their IDs after all three loops. -/
theorem identified_joining (c : Cluster) :
    Identified c.pods c.configMaps (joining c.pods c.configMaps c.services) := by
  have hpods : Identified c.pods [] (c.pods.foldl addPod newJoining) :=
    foldl_along (P := fun ps j => Identified ps [] j) identified_newJoining
      (fun _ _ p h => identified_addPod h p) c.pods
  have hplis : Identified c.pods c.configMaps
      (c.configMaps.foldl addPLIS (c.pods.foldl addPod newJoining)) :=
    foldl_along (P := fun ms j => Identified c.pods ms j) hpods
      (fun _ _ m h => identified_addPLIS h m) c.configMaps
  -- The services do not change what the objects are of.
  exact foldl_along (P := fun _ j => Identified c.pods c.configMaps j) hplis
    (fun _ _ s h => identified_addService h s) c.services

/-- What holds of the indices and the services after all three loops. -/
theorem indexed_joining (c : Cluster) :
    Indexed c.services (joining c.pods c.configMaps c.services) := by
  have hpods : Indexed [] (c.pods.foldl addPod newJoining) :=
    foldl_along (P := fun _ j => Indexed [] j) indexed_newJoining
      (fun _ _ p h => indexed_addPod h p) c.pods
  have hplis : Indexed [] (c.configMaps.foldl addPLIS (c.pods.foldl addPod newJoining)) :=
    foldl_along (P := fun _ j => Indexed [] j) hpods (fun _ _ m h => indexed_addPLIS h m)
      c.configMaps
  exact foldl_along (P := fun ss j => Indexed ss j) hplis
    (fun _ _ s h => indexed_addService h s) c.services

/-- The objects of the result are those to which the index of IDs leads. -/
theorem mem_result_iff (h : Identified pods configMaps j) (wso : WorkspaceObjects) :
    wso ∈ j.result ↔ ∃ id l, j.wsoIndex.lookup id = some l ∧ j.objects[l]? = some wso ∧
      wso.workspaceID = some id := by
  rw [Joining.result, List.mem_filterMap]
  constructor
  · rintro ⟨l, hl, hwso⟩
    rcases (Map.mem_values_iff _ _).mp hl with ⟨id, hid⟩
    rcases h.ids id l hid with ⟨o, ho, hoid⟩
    exact ⟨id, l, hid, hwso, Option.some.inj (hwso.symm.trans ho) ▸ hoid⟩
  · rintro ⟨id, l, hid, hwso, -⟩
    exact ⟨l, (Map.mem_values_iff _ _).mpr ⟨id, hid⟩, hwso⟩

theorem nodup_result (h : Identified pods configMaps j) :
    (j.result.map WorkspaceObjects.workspaceID).Nodup := by
  have hkeys : (j.result.map fun wso => wso.workspaceID.getD "").Nodup := by
    refine Map.nodup_filterMap_values j.wsoIndex _ fun id l wso hid hwso => ?_
    rcases h.ids id l hid with ⟨o, ho, hoid⟩
    rw [Option.some.inj (hwso.symm.trans ho), hoid, Option.getD_some]
  refine List.Nodup.of_map (fun id => id.getD "") ?_
  rwa [List.map_map]

theorem Identified.pod_id (h : Identified pods configMaps j) {wso : WorkspaceObjects}
    (hwso : wso ∈ j.objects) {p : Pod} (hp : wso.pod = some p) : p.id = wso.workspaceID := by
  rw [WorkspaceObjects.workspaceID, hp, Option.bind_some]
  cases hid : p.id with
  | none => exact absurd hid (h.pod wso hwso p hp).2
  | some id => rfl

/-- A workspace that something is known of has an object. -/
theorem exists_mem_result (h : Identified pods configMaps j) {id : String}
    (hid : Known pods configMaps id) : ∃ wso ∈ j.result, wso.workspaceID = some id := by
  rcases Option.ne_none_iff_exists'.mp ((h.known id).mpr hid) with ⟨l, hl⟩
  rcases h.ids id l hl with ⟨wso, hwso, hwsoid⟩
  exact ⟨wso, (mem_result_iff h wso).mpr ⟨id, l, hl, hwso, hwsoid⟩, hwsoid⟩

theorem known_of_mem_result (h : Identified pods configMaps j) {wso : WorkspaceObjects}
    (hwso : wso ∈ j.result) {id : String} (hid : wso.workspaceID = some id) :
    Known pods configMaps id := by
  rcases (mem_result_iff h wso).mp hwso with ⟨id', l, hl, -, hid'⟩
  rw [Option.some.inj (hid.symm.trans hid')]
  exact (h.known id').mp (by rw [hl]; nofun)

/-- A service that is in an object has a name made from the prefix of the pod in it. -/
theorem Indexed.named (h : Indexed services j) {kind : ServiceKind} {l : Nat}
    {wso : WorkspaceObjects} {s : Ports.Service} (hwso : j.objects[l]? = some wso)
    (hs : wso.service kind = some s) : ∃ p, wso.pod = some p ∧ Named s p.servicePrefix := by
  rcases h.index kind s.name l (h.slot kind l wso s hwso hs).2 with ⟨o, p, sp, ho, hp, hsp, hname⟩
  exact ⟨p, Option.some.inj (ho.symm.trans hwso) ▸ hp, kind, sp, hsp, hname⟩

/-- A service belongs only to workspaces of which something else is known. -/
theorem Belongs.known {c : Cluster} {id : String} {s : Ports.Service} (h : Belongs c id s) :
    Known c.pods c.configMaps id := by
  rcases h with ⟨p, hp, hid, -⟩ | ⟨m, hm, hid, -⟩
  · exact .inl ⟨p, hp, hid⟩
  · exact .inr ⟨m, hm, hid⟩

variable {c : Cluster}

/-- If the objects are as they should be then the cluster can be told apart: each way in which
    it could not would have led to a wrong object. -/
theorem tellsApart_of_joins (hi : Identified c.pods c.configMaps j) (hx : Indexed c.services j)
    (h : Joins c j.result) : TellsApart c := by
  constructor
  case pods =>
    intro p hp q hq hid heq
    rcases Option.ne_none_iff_exists'.mp hid with ⟨id, hpid⟩
    rcases exists_mem_result hi (.inl ⟨p, hp, hpid⟩) with ⟨wso, hwso, hwsoid⟩
    have hwsop := (h.pods wso hwso p).mpr ⟨hp, hpid.trans hwsoid.symm⟩
    have hwsoq := (h.pods wso hwso q).mpr ⟨hq, (heq.symm.trans hpid).trans hwsoid.symm⟩
    exact Option.some.inj (hwsop.symm.trans hwsoq)
  case configMaps =>
    intro m hm n hn hid heq
    rcases Option.ne_none_iff_exists'.mp hid with ⟨id, hmid⟩
    rcases exists_mem_result hi (.inr ⟨m, hm, hmid⟩) with ⟨wso, hwso, hwsoid⟩
    have hwsom := (h.configMaps wso hwso m).mpr ⟨hm, hmid.trans hwsoid.symm⟩
    have hwson := (h.configMaps wso hwso n).mpr ⟨hn, (heq.symm.trans hmid).trans hwsoid.symm⟩
    exact Option.some.inj (hwsom.symm.trans hwson)
  case services =>
    intro s hs id hid
    -- The service is in the object of each workspace it belongs to, and that is where the
    -- index leads.
    have hslot : ∀ id, Belongs c id s → ∃ wso ∈ j.result, wso.workspaceID = some id ∧
        ∃ (kind : ServiceKind) (l : Nat), j.objects[l]? = some wso ∧
          wso.service kind = some s := by
      intro id hid
      rcases exists_mem_result hi hid.known with ⟨wso, hwso, hwsoid⟩
      rcases h.services wso hwso id hwsoid s hs hid with ⟨kind, hkind, -⟩
      rcases (mem_result_iff hi wso).mp hwso with ⟨_, l, -, hl, -⟩
      exact ⟨wso, hwso, hwsoid, kind, l, hl, hkind⟩
    rcases hslot id hid with ⟨wso, hwso, hwsoid, kind, l, hl, hkind⟩
    refine ⟨?_, fun q hq hqid hqs => ?_⟩
    · rcases hx.named hl hkind with ⟨p, hp, hnamed⟩
      rcases (h.pods wso hwso p).mp hp with ⟨hmem, hpid⟩
      exact ⟨p, hmem, hpid.trans hwsoid, hnamed⟩
    · -- The name leads to one object, which is of one workspace.
      rcases Option.ne_none_iff_exists'.mp hqid with ⟨id', hid'⟩
      rcases hslot id' (.inl ⟨q, hq, hid', hqs⟩) with ⟨wso', -, hwsoid', kind', l', hl', hkind'⟩
      have hindex := (hx.slot kind l wso s hl hkind).2
      have hindex' := (hx.slot kind' l' wso' s hl' hkind').2
      have hll : l = l' := by
        rw [hx.kind_eq hindex hindex', hindex'] at hindex
        exact (Option.some.inj hindex).symm
      have hsame : wso = wso' := Option.some.inj ((hll ▸ hl).symm.trans hl')
      rw [hid', ← hwsoid', ← hsame, hwsoid]

/-- If it can be told apart then the loops put together what belongs together. -/
theorem joins_of_tellsApart (hi : Identified c.pods c.configMaps j) (hx : Indexed c.services j)
    (h : TellsApart c) : Joins c j.result := by
  constructor
  case one => exact nodup_result hi
  -- What is known under an ID has an object, and no other ID has one.
  case ids =>
    intro id
    rw [List.mem_map]
    constructor
    · rintro ⟨wso, hwso, hid⟩
      exact known_of_mem_result hi hwso hid
    · exact exists_mem_result hi
  case known =>
    intro wso hwso
    rcases (mem_result_iff hi wso).mp hwso with ⟨id, l, -, -, hid⟩
    rw [hid]
    nofun
  case pods =>
    intro wso hwso pod
    rcases (mem_result_iff hi wso).mp hwso with ⟨id, l, hl, ho, hid⟩
    have hmem := List.mem_of_getElem? ho
    constructor
    · exact fun hp => ⟨(hi.pod wso hmem pod hp).1, hi.pod_id hmem hp⟩
    · -- The object has some pod, and by the condition only one pod has this ID.
      rintro ⟨hpod, hpodid⟩
      have hthere := hi.podThere id l wso hl ho ⟨pod, hpod, hpodid.trans hid⟩
      rcases Option.ne_none_iff_exists'.mp hthere with ⟨q, hq⟩
      have hqid := hi.pod_id hmem hq
      rw [hq, h.pods q (hi.pod wso hmem q hq).1 pod hpod (hi.pod wso hmem q hq).2
        (hqid.trans hpodid.symm)]
  case configMaps =>
    intro wso hwso m
    rcases (mem_result_iff hi wso).mp hwso with ⟨id, l, hl, ho, hid⟩
    have hmem := List.mem_of_getElem? ho
    constructor
    · exact hi.plis wso hmem m
    · -- Likewise for the config maps.
      rintro ⟨hm, hmid⟩
      have hthere := hi.plisThere id l wso hl ho ⟨m, hm, hmid.trans hid⟩
      rcases Option.ne_none_iff_exists'.mp hthere with ⟨n, hn⟩
      rcases hi.plis wso hmem n hn with ⟨hnmem, hnid⟩
      rw [hn, h.configMaps n hnmem m hm (by rw [hnid, hid]; nofun) (hnid.trans hmid.symm)]
  case services =>
    intro wso hwso id hid s hs hbelongs
    rcases (mem_result_iff hi wso).mp hwso with ⟨id', l, hl, ho, hid'⟩
    cases Option.some.inj (hid.symm.trans hid')
    -- By the condition, a service has a pod that asks for it by name.
    rcases h.services s hs id hbelongs with ⟨⟨p, hp, hpid, kind, sp, hsp, hname⟩, honly⟩
    -- The pod of the workspace is in its object.
    have hwsopod : wso.pod = some p := by
      have hthere := hi.podThere id l wso hl ho ⟨p, hp, hpid⟩
      rcases Option.ne_none_iff_exists'.mp hthere with ⟨q, hq⟩
      have hmem := List.mem_of_getElem? ho
      have hqid := (hi.pod_id hmem hq).trans hid
      rw [hq, h.pods q (hi.pod wso hmem q hq).1 p hp (hi.pod wso hmem q hq).2
        (hqid.trans hpid.symm)]
    rcases hx.indexed kind l wso p sp ho hwsopod hsp with ⟨k, hle, hk⟩
    -- What the name leads to is of the same workspace, and so it is the same object.
    have hkl : k = l := by
      rcases hx.index kind _ k hk with ⟨o, q, sq, hko, hq, hsq, hnameq⟩
      have hmem := List.mem_of_getElem? hko
      rcases hi.pod o hmem q hq with ⟨hqmem, hqid⟩
      have hqid' : q.id = some id :=
        honly q hqmem hqid ⟨kind, sq, hsq, hname.trans hnameq⟩
      rcases hi.last k o q id hko hq hqid' with ⟨l', hle', hl'⟩
      cases Option.some.inj (hl.symm.trans hl')
      exact Nat.le_antisymm hle' hle
    rw [← hname, hkl] at hk
    rcases Option.ne_none_iff_exists'.mp (hx.slotThere kind l wso s hs hk ho) with ⟨s', hs'⟩
    -- What is there under the name is a service with this name, of which there is one.
    have hsame : s' = s := by
      rcases hx.slot kind l wso s' ho hs' with ⟨hs'mem, hl'⟩
      rcases hx.index kind _ l hl' with ⟨o, q, sq, hlo, hq, hsq, hnameq⟩
      cases Option.some.inj (ho.symm.trans hlo)
      cases Option.some.inj (hwsopod.symm.trans hq)
      cases Option.some.inj (hsp.symm.trans hsq)
      exact List.inj_on_of_nodup_map c.nodup hs'mem hs (hnameq.trans hname.symm)
    refine ⟨kind, hs'.trans (congrArg some hsame), fun kind' hkind' => ?_⟩
    exact hx.kind_eq (hx.slot kind' l wso s ho hkind').2 hk
  case others =>
    intro wso hwso id hid kind s hs
    -- A service in the result was put there for the name that the pod gives it.
    rcases (mem_result_iff hi wso).mp hwso with ⟨_, l, -, ho, -⟩
    rcases hx.named ho hs with ⟨p, hp, hnamed⟩
    have hmem := List.mem_of_getElem? ho
    exact ⟨(hx.slot kind l wso s ho hs).1,
      .inl ⟨p, (hi.pod wso hmem p hp).1, (hi.pod_id hmem hp).trans hid, hnamed⟩⟩

/-- The objects are put together as they should be exactly where no workspace has two pods or
    two config maps, and where each service of a workspace is found through a pod of this
    workspace and of no other. It is the last condition that fails in practice: when the pod is
    gone its services are left over, and nothing leads to them any more. -/
theorem joins_iff (c : Cluster) :
    (∃ result, getAllWorkspaceObjects (.ok c.pods) (.ok c.configMaps) (.ok c.services) =
      .ok result ∧ Joins c result) ↔ TellsApart c := by
  have hi := identified_joining c
  have hx := indexed_joining c
  constructor
  · rintro ⟨result, hresult, hjoins⟩
    cases Except.ok.inj hresult
    exact tellsApart_of_joins hi hx hjoins
  · exact fun h => ⟨_, rfl, joins_of_tellsApart hi hx h⟩

/-- A config map whose pod is gone, and the service that its prefix names. -/
def withoutPod : Cluster where
  pods := []
  configMaps := [{
    name := "plis"
    annotations :=
      (AList.insert workspaceIDAnnotation "id" ∅).insert servicePrefixAnnotation "prefix"
    labels := ∅ }]
  services := [{
    name := "ws-prefix-theia"
    labels := ∅
    annotations := ∅
    ports := []
    selector := ∅ }]
  nodup := List.nodup_singleton _

theorem belongs_withoutPod : ∀ s ∈ withoutPod.services, Belongs withoutPod "id" s := by
  intro s hs
  rw [List.mem_singleton.mp hs]
  exact .inr ⟨_, List.mem_cons_self, rfl, .theia, "prefix", rfl, rfl⟩

/-- And still it is in no object. -/
theorem service_lost_without_pod :
    ¬ ∃ result, getAllWorkspaceObjects (.ok withoutPod.pods) (.ok withoutPod.configMaps)
      (.ok withoutPod.services) = .ok result ∧ Joins withoutPod result := by
  rintro ⟨result, hresult, hjoins⟩
  cases Except.ok.inj hresult
  have htells := tellsApart_of_joins (identified_joining withoutPod) (indexed_joining withoutPod)
    hjoins
  rcases htells.services _ List.mem_cons_self "id" (belongs_withoutPod _ List.mem_cons_self) with
    ⟨⟨_, hpod, -⟩, -⟩
  cases hpod

end Objects

end WsManager

end Nxpod
