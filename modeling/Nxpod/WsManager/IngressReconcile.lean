import Mathlib.Data.List.DropRight
import Nxpod.WsManager.IngressBooks

/-!
# Reconciling the Ingress Port Allocator

The allocator keeps its state in memory and in the cluster: the allocation of
a service is marshalled into an annotation of the service, and
`reconciliateState` rebuilds both maps from the annotations, at the start and
at regular intervals.

`Marshal` writes the JSON object of a map. `Unmarshal` decodes into a nil
`PortAllocation`, which is an interface with methods. The decoder cannot
choose an implementation of such an interface, so every JSON value but `null`
is an error, and `null` leaves the interface nil. What `Marshal` writes is
never read back. `reconciliateState` skips the services it cannot read, and so
ends with empty maps whatever the cluster holds.

## Main definitions

* `marshal`, `unmarshal`: An allocation as the text of an annotation.
* `Service`: What is read of a service object.
* `reconciliateState`: Both maps, rebuilt from the services of the cluster.
* `annotatedServices`: The services with their allocations marshalled.

## Theorems

* `unmarshal_marshal`: A marshalled allocation is not read back.
* `reconciliateState_eq_new`: Reconciling forgets every allocation.
* `unchanged_reconciliateState_iff`: When there is nothing to forget.
-/

namespace Nxpod

namespace WsManager

open Transition

/-- The JSON text of one entry: the workspace port, and its allocated port. -/
def marshalEntry (port : Int) (ap : AllocatedPort) : String :=
  "\"" ++ toString port ++ "\":\x7b\"workspacePort\":" ++ toString ap.workspacePort ++
    ",\"ingressPort\":" ++ toString ap.ingressPort ++ "\x7d"

/-- `allocatedPorts.Marshal`: the JSON text of an allocation, in the order of
    the keys as strings. -/
def AllocatedPorts.marshal (aps : AllocatedPorts) : String :=
  "\x7b" ++ ",".intercalate
    ((aps.entries.insertionSort fun e e' => toString e.1 ≤ toString e'.1).map
      fun entry => marshalEntry entry.1 entry.2) ++ "\x7d"

/-- White space between the tokens of a JSON text. -/
def isJsonSpace (c : Char) : Bool :=
  c = ' ' || c = '\t' || c = '\r' || c = '\n'

/-- `Unmarshal`: decode a text into a nil `PortAllocation`. A text that is not
    JSON is an error, and so is every JSON value but `null`, which leaves the
    interface nil. No text yields an allocation. -/
def unmarshal (input : String) : Option (Option AllocatedPorts) :=
  if ((input.toList.dropWhile isJsonSpace).reverse.dropWhile isJsonSpace).reverse =
      "null".toList then
    some none
  else
    none

/-- What is read of a service object: its name, and its annotation with the
    allocation, which is empty where there is none. -/
structure Service where
  name : String
  ingressPorts : String

namespace KubernetesBackedPortAllocator

/-- The loop of `reconciliateState`. -/
def loadServices : List Service → KubernetesBackedPortAllocator →
    Except String Unit × KubernetesBackedPortAllocator
  | [], pa => (.ok (), pa)
  | svc :: services, pa =>
      if svc.ingressPorts = "" then
        loadServices services pa
      else
        match unmarshal svc.ingressPorts with
        | none => loadServices services pa
        -- the type assertion on a nil interface fails
        | some none => (.error "unmarshalled port allocations had the wrong type", pa)
        | some (some aps) =>
            loadServices services
              { services := pa.services.insert svc.name aps
                allocatedPorts := Map.insertAll pa.allocatedPorts
                  ((Map.values aps).map fun ap => (ap.ingressPort, ap)) }

/-- Rebuild both maps from the services that were listed, or keep them when
    listing them failed. -/
def reconciliateState (listed : Except String (List Service))
    (pa : KubernetesBackedPortAllocator) : Except String Unit × KubernetesBackedPortAllocator :=
  match listed with
  | .error err => (.error err, pa)
  | .ok services => loadServices services newIngressPortAllocator

/-- The services of the allocator, each with its allocation marshalled into
    its annotation. -/
def annotatedServices (pa : KubernetesBackedPortAllocator) : List Service :=
  pa.services.entries.map fun entry => ⟨entry.1, entry.2.marshal⟩

theorem unmarshal_ne_allocation (input : String) (aps : AllocatedPorts) :
    unmarshal input ≠ some (some aps) := by
  unfold unmarshal
  split_ifs
  · simp only [ne_eq, Option.some.injEq, reduceCtorEq, not_false_eq_true]
  · simp only [ne_eq, reduceCtorEq, not_false_eq_true]

theorem marshal_toList (aps : AllocatedPorts) : ∃ rest, aps.marshal.toList = '\x7b' :: rest := by
  rw [AllocatedPorts.marshal, String.append_assoc, String.toList_append]
  exact ⟨_, rfl⟩

/-- A marshalled allocation is not read back. -/
theorem unmarshal_marshal (aps : AllocatedPorts) : unmarshal aps.marshal = none := by
  rcases marshal_toList aps with ⟨rest, htext⟩
  have hspace : ¬ isJsonSpace '\x7b' = true := by decide
  rw [unmarshal, htext, List.dropWhile_cons_of_neg hspace]
  refine if_neg fun hnull => ?_
  -- what is left is a prefix of the text, and the text is an object
  have hprefix := List.rdropWhile_prefix isJsonSpace ('\x7b' :: rest)
  rw [List.rdropWhile, hnull] at hprefix
  have hnull_cons : "null".toList = 'n' :: ['u', 'l', 'l'] := rfl
  rw [hnull_cons, List.cons_prefix_cons] at hprefix
  exact absurd hprefix.1 (by decide)

theorem loadServices_snd (services : List Service) (pa : KubernetesBackedPortAllocator) :
    (loadServices services pa).2 = pa := by
  induction services with
  | nil => rfl
  | cons svc services ih =>
      rw [loadServices]
      split_ifs
      · exact ih
      · split
        · exact ih
        · rfl
        · next aps h => exact absurd h (unmarshal_ne_allocation _ aps)

/-- Reconciling forgets every allocation, whatever the services say. -/
theorem reconciliateState_eq_new (services : List Service) (pa : KubernetesBackedPortAllocator) :
    (reconciliateState (.ok services) pa).2 = newIngressPortAllocator :=
  loadServices_snd services newIngressPortAllocator

/-- From a state the allocator can reach, marshalling every allocation into its
    service and reconciling changes nothing if and only if no ingress port is
    marked. Nothing that was written can be read back, so after a restart ports
    that services hold are given out again. -/
theorem unchanged_reconciliateState_iff (rng : IngressPortRange)
    (pa : KubernetesBackedPortAllocator)
    (hreach : ReachesWithin (callStep rng) (fun _ _ => True) newIngressPortAllocator pa) :
    Unchanged pa (reconciliateState (.ok (annotatedServices pa)) pa).2 ↔
      ∀ port, pa.allocatedPorts.lookup port = none := by
  rw [reconciliateState_eq_new]
  constructor
  · intro h port
    rw [← h.2 port]
    exact AList.lookup_empty port
  · intro hnone
    refine ⟨fun svc port => ?_, fun port => (AList.lookup_empty port).trans (hnone port).symm⟩
    -- what a service holds is marked, and nothing is
    cases hap : (pa.getAllocatedPorts svc).lookup port with
    | none => rfl
    | some ap =>
        have hheld : pa.toPool.held (svc, port) = some ap.ingressPort := by
          simp only [toPool, AllocatedPorts.allocatedPort, hap, Option.map_some]
        exact absurd (hnone ap.ingressPort)
          ((sound_of_reachesWithin hreach).marked_of_held _ _ hheld)

/-- An allocator with a service that never had a port is left as it is. -/
theorem unchanged_reconciliateState_empty :
    Unchanged (updateAllocatedPorts ⟨10, 20, by decide⟩ newIngressPortAllocator "ws" [] []).2
      (reconciliateState (.ok (annotatedServices
          (updateAllocatedPorts ⟨10, 20, by decide⟩ newIngressPortAllocator "ws" [] []).2))
        (updateAllocatedPorts ⟨10, 20, by decide⟩ newIngressPortAllocator "ws" [] []).2).2 :=
  (unchanged_reconciliateState_iff ⟨10, 20, by decide⟩ _
    (ReachesWithin.step _ _ _ (.update "ws" [] []) (ReachesWithin.refl _) trivial rfl)).mpr
    fun port => ((unchanged_updateAllocatedPorts_iff.mpr
      ⟨by decide +kernel, Or.inl (by decide +kernel)⟩).2 port).trans (AList.lookup_empty port)

/-- Reconciling forgets an allocation that was marshalled. -/
theorem changed_by_reconciliateState :
    ¬ ∀ (rng : IngressPortRange) (pa : KubernetesBackedPortAllocator),
      ReachesWithin (callStep rng) (fun _ _ => True) newIngressPortAllocator pa →
        Unchanged pa (reconciliateState (.ok (annotatedServices pa)) pa).2 := by
  intro hall
  have hsame := (hall ⟨10, 20, by decide⟩ _ (ReachesWithin.step _ _ _ (.update "ws" [8080] [])
    (ReachesWithin.refl _) trivial rfl)).2 10
  rw [reconciliateState_eq_new] at hsame
  have hbad : newIngressPortAllocator.allocatedPorts.lookup 10 ≠
      (updateAllocatedPorts ⟨10, 20, by decide⟩ newIngressPortAllocator "ws" [8080]
        []).2.allocatedPorts.lookup 10 := by decide +kernel
  exact hbad hsame

end KubernetesBackedPortAllocator

end WsManager

end Nxpod
