import Nxpod.Consensus.Server
import Nxpod.Library.Transition
import Mathlib.Data.Fintype.Card

/-!
# The Cluster

A fixed set of servers and the messenger between them, as a partial step
function.

The messenger broadcasts: a message handed to it is put in flight once for
every server, the sender included, and is either delivered or lost. Any
message in flight may be taken next, so delays and reorderings are the choice
of the next action. `sent` is the record of everything handed to the
messenger. No server reads it; the properties of a run are stated over it.

A server runs one activation at a time. Its timer, an arriving message and a
settled promise are callbacks, and JavaScript calls them only while nothing
runs. So a beat may begin while earlier ones still wait, but no callback falls
inside a stretch between two awaits. An activation whose promise is rejected
is one that is never resumed.

## Main definitions

* `Node`: A server with its activations.
* `Cluster`: The nodes, the messages in flight and the record of sends.
* `Action`: What can happen next.
* `step`: The transition function.
* `Reachable`, `ReachableWithin`: States of runs, and of guarded runs.
* `WhenExecuting`: A guard on the stretches that are executed.

## Theorems

* `beatClock`'s effects reach the cluster through `step_cases`: a step executes
  one stretch or moves only messages.
* `queued_sent`: Whatever a server receives has been sent.
-/

namespace Nxpod

namespace Consensus

open Transition

variable {Uid : Type}

/-- A server, the point its current activation is at if one runs, and the
    points where activations wait for a promise. -/
structure Node (Uid : Type) where
  server : ConsensusLeaderQorum Uid := {}
  running : Option Point := none
  suspended : List Point := []

/-- The servers with what each of them has under way, and the messages in flight
    to them. -/
structure Cluster (Uid : Type) where
  nodes : Uid → Node Uid
  inFlight : Uid → List (RaftMessage Uid)
  sent : List (RaftMessage Uid)

/-- What can happen next: the `k`-th message in flight to a server arrives or
    is lost, its timer fires, the promise of its `k`-th waiting activation
    settles, or its current activation executes its next stretch. -/
inductive Action (Uid : Type) where
  | deliver (i : Uid) (k : Nat)
  | lose (i : Uid) (k : Nat)
  | beat (i : Uid)
  | resume (i : Uid) (k : Nat)
  | execute (i : Uid) (clock : Reading)

/-- All servers have just been started and nothing has been sent. -/
def initial : Cluster Uid := { nodes := fun _ => {}, inFlight := fun _ => [], sent := [] }

/-- Where a node is after a stretch of its activation. -/
def settle (node : Node Uid) (turn : Turn Uid) : Node Uid :=
  match turn.control with
  | .goto .done => { node with server := turn.server, running := none }
  | .goto p => { node with server := turn.server, running := some p }
  | .await p => { server := turn.server, running := none, suspended := node.suspended ++ [p] }

@[simp] theorem settle_server (node : Node Uid) (turn : Turn Uid) :
    (settle node turn).server = turn.server := by
  unfold settle
  split <;> rfl

/-- The server with a message added to its queue. -/
def Node.receive (node : Node Uid) (msg : RaftMessage Uid) : Node Uid :=
  { node with server := { node.server with messages := node.server.messages ++ [msg] } }

/-- What a step that executes nothing leaves alone: every server's election
    and the record of sends. Messages only move towards their receivers. -/
structure MovesMessages (c c' : Cluster Uid) : Prop where
  sent : c'.sent = c.sent
  keeps : ∀ j, Keeps (c.nodes j).server (c'.nodes j).server
  lastHeartbeat : ∀ j, (c'.nodes j).server.lastHeartbeatFromLeader
    = (c.nodes j).server.lastHeartbeatFromLeader
  queued : ∀ j, ∀ m ∈ (c'.nodes j).server.messages,
    m ∈ (c.nodes j).server.messages ∨ m ∈ c.inFlight j
  inFlight : ∀ j, c'.inFlight j ⊆ c.inFlight j

/-- A step that changes at most the activations of nodes moves no message to a
    server. -/
theorem movesMessages_of_server {c c' : Cluster Uid} (hsent : c'.sent = c.sent)
    (hserver : ∀ j, (c'.nodes j).server = (c.nodes j).server)
    (hflight : ∀ j, c'.inFlight j ⊆ c.inFlight j) : MovesMessages c c' where
  sent := hsent
  keeps := fun j => by rw [hserver j]; exact ⟨rfl, rfl, rfl, rfl⟩
  lastHeartbeat := fun j => by rw [hserver j]
  queued := fun j m hm => by rw [hserver j] at hm; exact Or.inl hm
  inFlight := hflight

/-- A guard on the stretches that are executed. -/
def WhenExecuting (P : Cluster Uid → Uid → Reading → Point → Prop) (c : Cluster Uid)
    (a : Action Uid) : Prop :=
  match a with
  | .execute i clock => match (c.nodes i).running with
      | some p => P c i clock p
      | none => True
  | _ => True

instance decidableWhenExecuting (P : Cluster Uid → Uid → Reading → Point → Prop)
    [∀ c i clock p, Decidable (P c i clock p)] (c : Cluster Uid) (a : Action Uid) :
    Decidable (WhenExecuting P c a) :=
  match a with
  | .execute i clock => match h : (c.nodes i).running with
      | some p => decidable_of_iff (P c i clock p) (by simp only [WhenExecuting, h])
      | none => isTrue (by simp only [WhenExecuting, h])
  | .deliver _ _ => isTrue trivial
  | .lose _ _ => isTrue trivial
  | .beat _ => isTrue trivial
  | .resume _ _ => isTrue trivial

/-- A guard on the stretches executed does not concern the other steps. -/
theorem whenExecuting_of_ne (P : Cluster Uid → Uid → Reading → Point → Prop) (c : Cluster Uid)
    {a : Action Uid} (ha : ∀ i clock, a ≠ .execute i clock) : WhenExecuting P c a := by
  cases a with
  | execute i clock => exact absurd rfl (ha i clock)
  | deliver _ _ | lose _ _ | beat _ | resume _ _ => trivial

/-- What the guard says about the stretch that is executed. -/
theorem whenExecuting_iff (P : Cluster Uid → Uid → Reading → Point → Prop) {c : Cluster Uid}
    {i : Uid} {clock : Reading} {p : Point} (hrun : (c.nodes i).running = some p) :
    WhenExecuting P c (.execute i clock) ↔ P c i clock p := by
  simp only [WhenExecuting, hrun]

/-- The clock at a time, with the shortest election timeout drawn. -/
def readAt (now : Nat) (h : 0 < now := by decide) : Reading := ⟨now, 0, h, Nat.zero_le _⟩

/-- The next `k` stretches of a node's current activation. -/
def stretches (i : Uid) (clock : Reading) (k : Nat) : List (Action Uid) :=
  List.replicate k (.execute i clock)

/-- A follower beats once at `seen`, beats again at `timeout`, a term timeout
    later, starts an election and requests votes. -/
def stand (i : Uid) (seen timeout : Reading) : List (Action Uid) :=
  .beat i :: stretches i seen 3 ++ .beat i :: stretches i timeout 2 ++
    .resume i 0 :: stretches i timeout 1

variable [DecidableEq Uid]

/-- The cluster with one node replaced. -/
def Cluster.setNode (c : Cluster Uid) (i : Uid) (node : Node Uid) : Cluster Uid :=
  { c with nodes := fun j => if j = i then node else c.nodes j }

theorem setNode_nodes_self (c : Cluster Uid) (i : Uid) (node : Node Uid) :
    (c.setNode i node).nodes i = node := by
  simp only [Cluster.setNode, if_true]

theorem setNode_nodes_other (c : Cluster Uid) (i j : Uid) (node : Node Uid) (hj : j ≠ i) :
    (c.setNode i node).nodes j = c.nodes j := by
  simp only [Cluster.setNode, if_neg hj]

/-- Replacing only the activations of a node changes no server. -/
theorem setNode_server (c : Cluster Uid) (i : Uid) (node : Node Uid)
    (hserver : node.server = (c.nodes i).server) (j : Uid) :
    ((c.setNode i node).nodes j).server = (c.nodes j).server := by
  by_cases hj : j = i
  · rw [hj, setNode_nodes_self, hserver]
  · rw [setNode_nodes_other c i j node hj]

/-- The cluster with the `k`-th message to a server no longer in flight. -/
def Cluster.takeMessage (c : Cluster Uid) (i : Uid) (k : Nat) : Cluster Uid :=
  { c with inFlight := fun j => if j = i then (c.inFlight i).eraseIdx k else c.inFlight j }

theorem takeMessage_inFlight_subset (c : Cluster Uid) (i : Uid) (k : Nat) (j : Uid) :
    (c.takeMessage i k).inFlight j ⊆ c.inFlight j := by
  by_cases hj : j = i
  · simp only [Cluster.takeMessage, hj, if_true]
    exact List.eraseIdx_subset
  · simp only [Cluster.takeMessage, if_neg hj, List.Subset.refl]

/-- A delivery moves a message from the flight into a queue. -/
theorem movesMessages_deliver (c : Cluster Uid) (i : Uid) (k : Nat) (msg : RaftMessage Uid)
    (hget : (c.inFlight i)[k]? = some msg) :
    MovesMessages c ((c.takeMessage i k).setNode i ((c.nodes i).receive msg)) where
  sent := rfl
  keeps := by
    intro j
    by_cases hj : j = i
    · rw [hj, setNode_nodes_self]
      exact ⟨rfl, rfl, rfl, rfl⟩
    · rw [setNode_nodes_other _ i j _ hj]
      exact ⟨rfl, rfl, rfl, rfl⟩
  lastHeartbeat := by
    intro j
    by_cases hj : j = i
    · rw [hj, setNode_nodes_self]
      rfl
    · rw [setNode_nodes_other _ i j _ hj]
      rfl
  queued := by
    intro j m hm
    by_cases hj : j = i
    · rw [hj, setNode_nodes_self] at hm
      rcases List.mem_append.mp hm with hold | hnew
      · exact Or.inl (hj ▸ hold)
      · rw [List.mem_singleton.mp hnew, hj]
        exact Or.inr (List.mem_of_getElem? hget)
    · rw [setNode_nodes_other _ i j _ hj] at hm
      exact Or.inl hm
  inFlight := takeMessage_inFlight_subset c i k

/-- The cluster with messages put in flight to every server. -/
def Cluster.broadcast (c : Cluster Uid) (msgs : List (RaftMessage Uid)) : Cluster Uid :=
  { c with inFlight := fun j => c.inFlight j ++ msgs, sent := c.sent ++ msgs }

variable [Fintype Uid]

/-- What the current activation of a node does from the point it is at. -/
def turnOf (c : Cluster Uid) (i : Uid) (clock : Reading) (p : Point) : Turn Uid :=
  beatClock i (Fintype.card Uid) clock (c.nodes i).server p

/-- One step of the cluster. It is `none` where the action is not possible. -/
def step (c : Cluster Uid) : Action Uid → Option (Cluster Uid)
  -- a callback runs only while no activation of the node does
  | .deliver i k => match (c.nodes i).running, (c.inFlight i)[k]? with
      | none, some msg => some ((c.takeMessage i k).setNode i ((c.nodes i).receive msg))
      | _, _ => none
  | .lose i k => match (c.inFlight i)[k]? with
      | some _ => some (c.takeMessage i k)
      | none => none
  | .beat i => match (c.nodes i).running with
      | none => some (c.setNode i { c.nodes i with running := some .messages })
      | some _ => none
  | .resume i k => match (c.nodes i).running, (c.nodes i).suspended[k]? with
      | none, some p => some (c.setNode i { c.nodes i with
          running := some p, suspended := (c.nodes i).suspended.eraseIdx k })
      | _, _ => none
  | .execute i clock => match (c.nodes i).running with
      | some p => some ((c.setNode i (settle (c.nodes i) (turnOf c i clock p))).broadcast
          (turnOf c i clock p).sent)
      | none => none

/-- States of runs whose steps all meet a guard. -/
def ReachableWithin (ok : Cluster Uid → Action Uid → Prop) (c : Cluster Uid) : Prop :=
  ReachesWithin step ok initial c

/-- States of runs. -/
def Reachable (c : Cluster Uid) : Prop := ReachableWithin (fun _ _ => True) c

/-- What executing a stretch of node `i` from point `p` does to the cluster. -/
structure Executes (c c' : Cluster Uid) (i : Uid) (clock : Reading) (p : Point) : Prop where
  running : (c.nodes i).running = some p
  server : (c'.nodes i).server = (turnOf c i clock p).server
  others : ∀ j, j ≠ i → c'.nodes j = c.nodes j
  sent : c'.sent = c.sent ++ (turnOf c i clock p).sent
  inFlight : ∀ j, c'.inFlight j = c.inFlight j ++ (turnOf c i clock p).sent

/-- A step executes one stretch or moves messages. -/
theorem step_cases {c c' : Cluster Uid} {a : Action Uid} (h : step c a = some c') :
    (∃ i clock p, a = .execute i clock ∧ Executes c c' i clock p) ∨
      ((∀ i clock, a ≠ .execute i clock) ∧ MovesMessages c c') := by
  have hsub : ∀ j, c.inFlight j ⊆ c.inFlight j := fun j => List.Subset.refl _
  cases a with
  | execute i clock =>
      simp only [step] at h
      -- only a running activation executes
      cases hrun : (c.nodes i).running with
      | none => rw [hrun] at h; exact absurd h (by simp only [reduceCtorEq, not_false_eq_true])
      | some p =>
          rw [hrun, Option.some.injEq] at h
          subst h
          refine Or.inl ⟨i, clock, p, rfl, hrun, ?_, ?_, rfl, fun j => rfl⟩
          · simp only [Cluster.broadcast, setNode_nodes_self, settle_server]
          · intro j hj
            simp only [Cluster.broadcast, setNode_nodes_other _ i j _ hj]
  | deliver i k =>
      simp only [step] at h
      split at h
      · rename_i msg hrun hget
        rw [Option.some.injEq] at h
        exact Or.inr ⟨nofun, h ▸ movesMessages_deliver c i k msg hget⟩
      · exact absurd h (by simp only [reduceCtorEq, not_false_eq_true])
  | lose i k =>
      simp only [step] at h
      split at h
      · rw [Option.some.injEq] at h
        exact Or.inr ⟨nofun, h ▸ movesMessages_of_server rfl (fun j => rfl)
          (takeMessage_inFlight_subset c i k)⟩
      · exact absurd h (by simp only [reduceCtorEq, not_false_eq_true])
  | beat i =>
      simp only [step] at h
      split at h
      · rw [Option.some.injEq] at h
        exact Or.inr ⟨nofun,
          h ▸ movesMessages_of_server rfl (setNode_server c i _ rfl) hsub⟩
      · exact absurd h (by simp only [reduceCtorEq, not_false_eq_true])
  | resume i k =>
      simp only [step] at h
      split at h
      · rw [Option.some.injEq] at h
        exact Or.inr ⟨nofun,
          h ▸ movesMessages_of_server rfl (setNode_server c i _ rfl) hsub⟩
      · exact absurd h (by simp only [reduceCtorEq, not_false_eq_true])

/-- A node whose activation runs can execute its next stretch. -/
theorem step_execute (c : Cluster Uid) (i : Uid) (clock : Reading) (p : Point)
    (hrun : (c.nodes i).running = some p) :
    ∃ c', step c (.execute i clock) = some c' ∧
      c'.nodes i = settle (c.nodes i) (turnOf c i clock p) := by
  refine ⟨(c.setNode i (settle (c.nodes i) (turnOf c i clock p))).broadcast
    (turnOf c i clock p).sent, ?_, ?_⟩
  · simp only [step, hrun]
  · simp only [Cluster.broadcast, setNode_nodes_self]

/-- Whatever is in flight to a server or in its queue has been sent. -/
def QueuedSent (c : Cluster Uid) : Prop :=
  ∀ i m, m ∈ c.inFlight i ∨ m ∈ (c.nodes i).server.messages → m ∈ c.sent

/-- The step lemma: whatever is queued or in flight was sent. -/
theorem step_queuedSent {c c' : Cluster Uid} {a : Action Uid} (hq : QueuedSent c)
    (h : step c a = some c') : QueuedSent c' := by
  intro j m hm
  rcases step_cases h with ⟨i, clock, p, _, hex⟩ | ⟨_, hmove⟩
  · -- what the stretch sends is recorded and put in flight at once
    rw [hex.sent, List.mem_append]
    rw [hex.inFlight j, List.mem_append] at hm
    rcases hm with (hold | hnew) | hqueue
    · exact Or.inl (hq j m (Or.inl hold))
    · exact Or.inr hnew
    · by_cases hj : j = i
      · rw [hj, hex.server] at hqueue
        exact Or.inl (hq i m (Or.inr (beatClock_messages_subset _ _ _ _ _ hqueue)))
      · rw [hex.others j hj] at hqueue
        exact Or.inl (hq j m (Or.inr hqueue))
  · rw [hmove.sent]
    rcases hm with hflight | hqueue
    · exact hq j m (Or.inl (hmove.inFlight j hflight))
    · exact hq j m (Or.symm (hmove.queued j m hqueue))

/-- In every run, whatever a server receives has been sent. -/
theorem queued_sent {ok : Cluster Uid → Action Uid → Prop} {c : Cluster Uid}
    (hr : ReachableWithin ok c) : QueuedSent c :=
  invariant_of_reachesWithin (fun _ _ _ _ hq _ h => step_queuedSent hq h) hr
    (fun i m hm => by simp only [initial, List.not_mem_nil, or_self] at hm)

/-! ## Schedules -/

/-- The only server wins term 1 and announces it. The heartbeat is delayed
    past the election deadline, so the server stands again, in term 2. Then the
    heartbeat arrives and the candidate accepts it. -/
def delayedHeartbeatSchedule : List (Action (Fin 1)) := List.flatten
  [stand 0 (readAt 1) (readAt 160001),
    [.deliver 0 0, .beat 0], stretches 0 (readAt 160002) 1,
    [.resume 0 1], stretches 0 (readAt 160002) 1,
    [.resume 0 0], stretches 0 (readAt 260001) 1,
    [.deliver 0 1, .beat 0], stretches 0 (readAt 260002) 1]

/-- Servers 0 and 1 stand in term 1 and server 2 votes for 0. The two votes
    for 0 make it announce itself; its heartbeat clears server 2's record, and
    server 2 then grants the request of 1. -/
def rivalSchedule : List (Action (Fin 3)) := List.flatten
  [stand 0 (readAt 1) (readAt 160001), stand 1 (readAt 1) (readAt 160001),
    [.deliver 2 1, .beat 2], stretches 2 (readAt 160002) 1,
    [.resume 2 0], stretches 2 (readAt 160002) 3,
    [.deliver 0 0, .deliver 0 3, .beat 0], stretches 0 (readAt 160003) 1,
    [.resume 0 1], stretches 0 (readAt 160003) 2,
    [.resume 0 1], stretches 0 (readAt 160003) 1,
    [.deliver 2 4, .deliver 2 2, .beat 2], stretches 2 (readAt 160004) 2]

/-- Server 2 votes for 0 in term 1, which is not enough. In the election of
    term 2 that vote is still recorded, and with its own vote server 0 counts
    a majority. -/
def staleVoteSchedule : List (Action (Fin 3)) := List.flatten
  [stand 0 (readAt 1) (readAt 160001),
    [.deliver 2 1, .beat 2], stretches 2 (readAt 160002) 1,
    [.deliver 0 2, .beat 0], stretches 0 (readAt 160003) 1,
    [.resume 0 1], stretches 0 (readAt 160003) 4,
    [.beat 0], stretches 0 (readAt 260001) 3,
    [.resume 0 1], stretches 0 (readAt 260001) 1,
    [.deliver 0 2, .beat 0], stretches 0 (readAt 260002) 1,
    [.resume 0 2], stretches 0 (readAt 260002) 1]

/-- Server 0 wins term 1 with both votes. Server 1 hears of it, then nothing
    for a term timeout, and stands in term 2. Server 0 votes for it without
    giving up its role, and server 1 wins. -/
def twoLeaderSchedule : List (Action (Fin 2)) := List.flatten
  [stand 0 (readAt 1) (readAt 160001),
    [.deliver 1 1, .beat 1], stretches 1 (readAt 160002) 1,
    [.resume 1 0], stretches 1 (readAt 160002) 3,
    [.deliver 0 0, .deliver 0 1, .beat 0], stretches 0 (readAt 160003) 1,
    [.resume 0 1], stretches 0 (readAt 160003) 2,
    [.resume 0 1], stretches 0 (readAt 160003) 1,
    [.deliver 0 1, .resume 0 1], stretches 0 (readAt 160003) 4,
    [.deliver 1 2, .beat 1], stretches 1 (readAt 160004) 4,
    [.beat 1], stretches 1 (readAt 320004) 2,
    [.resume 1 0], stretches 1 (readAt 320004) 1,
    [.deliver 0 3, .beat 0], stretches 0 (readAt 320005) 1,
    [.deliver 1 3, .deliver 1 4, .beat 1], stretches 1 (readAt 320006) 1,
    [.resume 1 1], stretches 1 (readAt 320006) 2,
    [.resume 1 1], stretches 1 (readAt 320006) 1,
    [.deliver 1 4, .resume 1 1], stretches 1 (readAt 320007) 1]

end Consensus

end Nxpod
