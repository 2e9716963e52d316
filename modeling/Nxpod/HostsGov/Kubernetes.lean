import Nxpod.HostsGov.Source
import Nxpod.Library.Text

/-!
# Pods and Services as Sources

The hosts of a node's registry are the nodes that certain pods run on, or the services in front of
them. `PodHostIPSource` remembers a pod by its name. It lists the pod's own address, though, and
takes the address of the node from the events only.

`ServiceClusterIPSource` remembers a port of a service by the service's name and the port's number,
and when a service is deleted it removes every key that begins with the service's name.

## Main definitions

* `PodPhase`: The phases a pod can have.
* `Pod`: What is read of a pod.
* `podHostIPSource`, `serviceClusterIPSource`: The two sources.
* `hostIPs`, `podIPs`: The addresses of the nodes of running pods, and of the pods.
* `ServicePort`: A port of a service.
* `Service`: What is read of a service.

## Theorems

* `portKey_inj`: The parts of a key.
* `podHostIPs_published`: What is published for pods.
* `clusterIPs_published`: What is published for services.
-/

namespace Nxpod

namespace HostsGov

open Transition View Source

/-! ## Pods -/

/-- The phases a pod can have. -/
inductive PodPhase
  | pending
  | running
  | succeeded
  | failed
  | unknown
  deriving DecidableEq

/-- What is read of a pod. The address of the node is in its status as well. -/
structure Pod where
  name : String
  phase : PodPhase
  podIP : String
  hostIP : String
  deriving DecidableEq

/-- The source that is read off pods. What it takes at the listing is another address than
    later. -/
def podHostIPSource : Reader Pod where
  name := Pod.name
  skips pod := pod.phase ≠ .running
  listed pod := [(pod.name, pod.podIP)]
  addresses pod := [(pod.name, pod.hostIP)]
  removes pod key := key = pod.name
  reconnects := false
  own_keys pod pod' key value value' h h' := by
    rw [List.mem_singleton, Prod.mk.injEq] at h h'
    exact h.1.symm.trans h'.1
  one_value pod key value value' h h' := by
    rw [List.mem_singleton, Prod.mk.injEq] at h h'
    exact h.2.trans h'.2.symm
  removes_own pod pod' key value hname h := by
    rw [List.mem_singleton, Prod.mk.injEq] at h
    exact decide_eq_true (h.1.trans hname)

/-- The addresses of the pods that run. -/
def runningIPs (ip : Pod → String) (cluster : Cluster podHostIPSource) : Finset String :=
  ((cluster.list.filter fun pod => pod.phase = .running).map ip).toFinset

/-- Where they run. -/
def hostIPs : Cluster podHostIPSource → Finset String :=
  runningIPs Pod.hostIP

/-- Their own ones. -/
def podIPs : Cluster podHostIPSource → Finset String :=
  runningIPs Pod.podIP

theorem map_running (ip : Pod → String) (pods : List Pod) :
    (pods.flatMap fun pod => if podHostIPSource.skips pod then [] else [(pod.name, ip pod)]).map
        Prod.snd =
      (pods.filter fun pod => pod.phase = .running).map ip := by
  induction pods with
  | nil => rfl
  | cons pod pods ih =>
      rw [List.flatMap_cons, List.map_append, ih]
      by_cases hrunning : pod.phase = .running
      · have hskips : podHostIPSource.skips pod = false := decide_eq_false (not_not.mpr hrunning)
        rw [hskips, if_neg Bool.false_ne_true, List.filter_cons, if_pos (decide_eq_true hrunning)]
        rfl
      · have hskips : podHostIPSource.skips pod = true := decide_eq_true hrunning
        rw [hskips, if_pos rfl, List.filter_cons, if_neg (by rwa [decide_eq_true_eq])]
        rfl

/-- What the source should have is where the pods run. -/
theorem clusterAddresses_eq_hostIPs (cluster : Cluster podHostIPSource) :
    clusterAddresses cluster = hostIPs cluster :=
  congrArg List.toFinset (map_running Pod.hostIP cluster.list)

/-- What it has after the listing are the addresses of the pods. -/
theorem start_published_eq_podIPs (cluster : Cluster podHostIPSource) :
    (start cluster).published = podIPs cluster := by
  let listing : Contribution Pod String String String :=
    { name := Pod.name
      entries := fun pod => if podHostIPSource.skips pod then [] else [(pod.name, pod.podIP)]
      same := fun pod pod' key value value' h h' => by
        have hkey : ∀ (pod : Pod) (value : String), (key, value) ∈
            (if podHostIPSource.skips pod then [] else [(pod.name, pod.podIP)]) →
              key = pod.name := by
          intro pod value h
          split at h
          · exact absurd h List.not_mem_nil
          · exact (Prod.mk.inj (List.mem_singleton.mp h)).1
        exact (hkey pod value h).symm.trans (hkey pod' value' h')
      only := fun pod key value value' h h' => by
        split at h
        · exact absurd h List.not_mem_nil
        · next hskips =>
            rw [if_neg hskips] at h'
            exact (Prod.mk.inj (List.mem_singleton.mp h)).2.trans
              (Prod.mk.inj (List.mem_singleton.mp h')).2.symm }
  rw [published_start_eq cluster listing rfl fun _ => rfl]
  exact congrArg List.toFinset (map_running Pod.podIP cluster.list)

/-- A start publishes the addresses of the nodes if these are the addresses of the pods. As long
    as no pod stops running, or is gone when a watch begins, and nothing changes after the
    channel was closed, a source that is in touch has published the addresses of the nodes of
    the running pods. What it remembers is only added to by most events, so the condition names
    what would have to be taken out. -/
theorem podHostIPs_published (cluster : Cluster podHostIPSource) (as : List (Action Pod))
    (s : Source podHostIPSource) (htold : MeetsAlong step Told as (start cluster))
    (hrun : runActions step as (start cluster) = some s) (htouch : s.inTouch) :
    s.published = hostIPs s.cluster ∧ ∀ cluster : Cluster podHostIPSource,
      (start cluster).published = hostIPs cluster ↔ podIPs cluster = hostIPs cluster := by
  constructor
  · rw [published_of_told cluster as s htold hrun htouch, clusterAddresses_eq_hostIPs]
  · intro cluster
    rw [start_published_eq_podIPs]

/-- A pod that runs and one that does not yet. -/
def twoPods : Cluster podHostIPSource where
  list := [⟨"a", .running, "10.0.0.1", "192.168.0.1"⟩, ⟨"b", .pending, "", "192.168.0.2"⟩]
  nodup := by decide

/-- The second pod begins to run, the watch is lost while there is a third one, and the first one is
gone after that. -/
theorem podHostIPs_published_reconnected :
    ∃ s, runActions step [.watch, .put ⟨"b", .running, "10.0.0.2", "192.168.0.2"⟩, .tell .error,
      .put ⟨"c", .running, "10.0.0.3", "192.168.0.2"⟩, .watch, .remove "a"] (start twoPods) =
        some s ∧ s.published = hostIPs s.cluster := by
  refine exists_run_of_any (fun s => decide s.inTouch) (by decide +kernel) fun s hrun htouch => ?_
  exact (podHostIPs_published twoPods _ s (by decide +kernel) hrun (of_decide_eq_true htouch)).1

/-- The address of a pod that has failed stays. -/
theorem published_after_failure : ¬ ∀ (cluster : Cluster podHostIPSource) (as : List (Action Pod))
    (s : Source podHostIPSource), runActions step as (start cluster) = some s →
      s.link = .watching → s.published = hostIPs s.cluster := by
  intro hall
  rcases exists_of_runActions_any step
    [.watch, .put ⟨"a", .failed, "10.0.0.1", "192.168.0.1"⟩] (start twoPods)
    (fun s => decide (s.link = .watching ∧ s.published ≠ hostIPs s.cluster)) (by decide +kernel)
    with ⟨s, hrun, hs⟩
  rcases of_decide_eq_true hs with ⟨hlink, hne⟩
  exact hne (hall twoPods _ s hrun hlink)

/-! ## Services -/

/-- How a service is reached. -/
inductive ServiceType
  | clusterIP
  | nodePort
  | loadBalancer
  | externalName
  deriving DecidableEq

/-- Only the first of these is looked at. -/
inductive Protocol
  | tcp
  | udp
  | sctp
  deriving DecidableEq

/-- A port of a service. -/
structure ServicePort where
  protocol : Protocol
  port : Int
  deriving DecidableEq

/-- What is read of a service. -/
structure Service where
  name : String
  type : ServiceType
  clusterIP : String
  ports : List ServicePort
  deriving DecidableEq

/-- Both the keys and the addresses end in the number of a port. -/
def portKey (host : String) (port : Int) : String :=
  host ++ ":" ++ toString port

/-- A number has no colon, so it can be told where the name ends. -/
theorem colon_not_mem_port (port : Int) : ':' ∉ (toString port).toList := by
  cases port with
  | ofNat n => exact Text.digits_ne n ':' rfl
  | negSucc n =>
      have hminus : (toString (Int.negSucc n)).toList = '-' :: (toString (n + 1)).toList :=
        String.toList_append
      rw [hminus]
      intro hmem
      rcases List.mem_cons.mp hmem with h | hmem
      · exact absurd h (by decide)
      · exact Text.digits_ne (n + 1) ':' rfl hmem

/-- The last colon ends the name. -/
theorem portKey_inj {host host' : String} {port port' : Int}
    (h : portKey host port = portKey host' port') :
    host = host' ∧ toString port = toString port' := by
  have hreverse : ∀ (host : String) (port : Int), (portKey host port).toList.reverse =
      (toString port).toList.reverse ++ ':' :: host.toList.reverse := by
    intro host port
    have hcolon : ":".toList = [':'] := rfl
    simp only [portKey, String.toList_append, hcolon, List.reverse_append, List.reverse_cons,
      List.reverse_nil, List.nil_append, List.cons_append]
  have hparts : (portKey host port).toList.reverse = (portKey host' port').toList.reverse := by
    rw [h]
  rw [hreverse, hreverse] at hparts
  have hnot : ∀ port : Int, ':' ∉ (toString port).toList.reverse := fun port hmem =>
    colon_not_mem_port port (List.mem_reverse.mp hmem)
  rcases Text.append_separator_inj (hnot port) (hnot port') hparts with ⟨hport, hhost⟩
  exact ⟨String.toList_inj.mp (List.reverse_inj.mp hhost),
    String.toList_inj.mp (List.reverse_inj.mp hport)⟩

/-- The ports that TCP is spoken at. -/
def tcpAddresses (srv : Service) : List (String × String) :=
  (srv.ports.filter fun prt => prt.protocol = .tcp).map fun prt =>
    (portKey srv.name prt.port, portKey srv.clusterIP prt.port)

theorem mem_tcpAddresses {srv : Service} {key value : String}
    (h : (key, value) ∈ tcpAddresses srv) :
    ∃ port, key = portKey srv.name port ∧ value = portKey srv.clusterIP port := by
  rcases List.mem_map.mp h with ⟨prt, -, hprt⟩
  exact ⟨prt.port, (Prod.mk.inj hprt).1.symm, (Prod.mk.inj hprt).2.symm⟩

/-- The source that is read off services. What it takes out is told by how a key begins. -/
def serviceClusterIPSource : Reader Service where
  name := Service.name
  skips srv := srv.type ≠ .clusterIP ∨ srv.clusterIP = "" ∨ srv.clusterIP = "None"
  listed := tcpAddresses
  addresses := tcpAddresses
  removes srv key := srv.name.toList <+: key.toList
  reconnects := true
  own_keys srv srv' key value value' h h' := by
    rcases mem_tcpAddresses h with ⟨port, rfl, -⟩
    rcases mem_tcpAddresses h' with ⟨port', hkey, -⟩
    exact (portKey_inj hkey).1
  one_value srv key value value' h h' := by
    rcases mem_tcpAddresses h with ⟨port, rfl, rfl⟩
    rcases mem_tcpAddresses h' with ⟨port', hkey, rfl⟩
    rw [portKey, portKey, (portKey_inj hkey).2]
  removes_own srv srv' key value hname h := by
    rcases mem_tcpAddresses h with ⟨port, rfl, -⟩
    refine decide_eq_true ?_
    rw [portKey, ← hname, String.toList_append, String.toList_append, List.append_assoc]
    exact List.prefix_append _ _

/-- A start publishes the addresses of the services. As long as a service keeps its ports while
    it is watched, no deleted service's name begins a key of another one, and no key is gone
    when a watch begins, a source that is in touch has published the addresses of the services
    there are. A key is a name and a port, which is why a name that begins another one is
    mistaken for it. -/
theorem clusterIPs_published (cluster : Cluster serviceClusterIPSource)
    (as : List (Action Service)) (s : Source serviceClusterIPSource)
    (htold : MeetsAlong step Told as (start cluster))
    (hrun : runActions step as (start cluster) = some s) (htouch : s.inTouch) :
    s.published = clusterAddresses s.cluster ∧ ∀ cluster : Cluster serviceClusterIPSource,
      (start cluster).published = clusterAddresses cluster := by
  constructor
  · exact published_of_told cluster as s htold hrun htouch
  · exact fun cluster =>
      published_start_eq cluster serviceClusterIPSource.contribution rfl fun _ => rfl

/-- A service whose name goes on after the name of another one. -/
def twoServices : Cluster serviceClusterIPSource where
  list := [⟨"registry", .clusterIP, "10.0.0.1", [⟨.tcp, 443⟩]⟩,
    ⟨"registry-facade", .clusterIP, "10.0.0.2", [⟨.tcp, 80⟩, ⟨.udp, 53⟩]⟩]
  nodup := by decide

/-- The service with the longer name gets one more port, and then another address while the watch is
lost. After that it is gone. -/
theorem clusterIPs_published_reconnected :
    ∃ s, runActions step
      [.watch, .put ⟨"registry-facade", .clusterIP, "10.0.0.2", [⟨.tcp, 80⟩, ⟨.tcp, 443⟩]⟩,
        .tell .empty, .put ⟨"registry-facade", .clusterIP, "10.0.0.3", [⟨.tcp, 80⟩, ⟨.tcp, 443⟩]⟩,
        .watch, .remove "registry-facade"] (start twoServices) = some s ∧
      s.published = clusterAddresses s.cluster := by
  refine exists_run_of_any (fun s => decide s.inTouch) (by decide +kernel) fun s hrun htouch => ?_
  exact (clusterIPs_published twoServices _ s (by decide +kernel) hrun
    (of_decide_eq_true htouch)).1

/-- When the service with the shorter name is deleted, the addresses of the other one are gone. -/
theorem published_after_deletion : ¬ ∀ (cluster : Cluster serviceClusterIPSource)
    (as : List (Action Service)) (s : Source serviceClusterIPSource),
    runActions step as (start cluster) = some s → s.link = .watching →
      s.published = clusterAddresses s.cluster := by
  intro hall
  rcases exists_of_runActions_any step [.watch, .remove "registry"] (start twoServices)
    (fun s => decide (s.link = .watching ∧ s.published ≠ clusterAddresses s.cluster))
    (by decide +kernel) with ⟨s, hrun, hs⟩
  rcases of_decide_eq_true hs with ⟨hlink, hne⟩
  exact hne (hall twoServices _ s hrun hlink)

end HostsGov

end Nxpod
