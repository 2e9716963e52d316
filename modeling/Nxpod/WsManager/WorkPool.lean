import Mathlib.Data.Finset.Basic
import Nxpod.Library.Parties
import Nxpod.Library.Transition

/-!
# The Event Worker Pool

`EventWorkerPool` of ws-manager. `Add` puts an event into a journal and then
hands a notification to a worker that waits for one. A worker looks through the
journal for the first event whose queue is not in use, takes the event out,
marks its queue and handles the event. After that it gives the queue back, tries
to notify another worker, and looks through the journal again. A worker that
finds nothing waits.

The journal and the set of queues are changed under one mutex, so looking
through the journal is one step, and so is giving a queue back. Everything in
between takes steps of its own: calling `WorkOn`, its return, the notification,
and the way from the journal to the receive, on which a notification is missed.

Events are numbered as they enter the journal, and the pool remembers what has
entered and for what `WorkOn` was called.

## Main definitions

* `Item`, `Phase`, `Pool`: The journal, the workers and the pool.
* `takeFree`: Looking through the journal.
* `step`: What can happen.
* `Guarantees`: What the pool guarantees for every queue.
* `Effect`: The worker goes on with the same in its hands.
* `Inv`, `Busy`: The invariants.

## Theorems

* `takeFree_eq_some`, `takeFree_eq_none`: What is found in the journal.
* `effect_of_step`: What a step can do.
* `inv_step`, `busy_step`: What a step preserves.
* `guarantees_of_reaches`: The guarantees hold in every run.
* `empty_of_all_waiting`: No event is forgotten.
-/

namespace Nxpod

namespace WsManager

namespace WorkPool

open Transition Parties

variable {Q E : Type}

/-! ## The pool -/

/-- An event with its queue, the `no`-th one that has entered the journal. -/
structure Item (Q E : Type) where
  no : Nat
  queue : Q
  evt : E

/-- Where a worker is in `work`. -/
inductive Phase (Q E : Type)
  | ready
  | claimed (item : Item Q E)
  | working (item : Item Q E)
  | worked (item : Item Q E)
  | released
  | idle
  | waiting
  | left

namespace Phase

/-- The event that the worker has taken out of the journal and is not done with. -/
def held : Phase Q E → List (Item Q E)
  | .claimed item | .working item | .worked item => [item]
  | .ready | .released | .idle | .waiting | .left => []

/-- The event that the worker has taken and not yet called `WorkOn` for. -/
def pending : Phase Q E → List (Item Q E)
  | .claimed item => [item]
  | _ => []

/-- The worker will look through the journal before it waits. -/
def active : Phase Q E → Bool
  | .ready | .claimed _ | .working _ | .worked _ | .released => true
  | .idle | .waiting | .left => false

/-- The worker is at the receive. -/
def isWaiting : Phase Q E → Bool
  | .waiting => true
  | _ => false

/-- The queue that a worker has marked, if it has marked one. -/
def queues (w : Phase Q E) : List Q :=
  w.held.map (·.queue)

theorem queues_eq_nil {w : Phase Q E} (h : w.held = []) : w.queues = [] := by
  rw [queues, h, List.map_nil]

theorem queues_congr {w w' : Phase Q E} (h : w'.held = w.held) : w'.queues = w.queues := by
  rw [queues, h, queues]

/-- What a worker is about to handle is in its hands. -/
theorem mem_queues_of_mem_pending {w : Phase Q E} {item : Item Q E} (h : item ∈ w.pending) :
    item.queue ∈ w.queues := by
  cases w with
  | claimed other =>
      rw [pending, List.mem_singleton] at h
      rw [queues, held, List.map_singleton, List.mem_singleton, h]
  | _ => exact absurd h List.not_mem_nil

/-- A worker that holds a queue is going to look through the journal. -/
theorem active_of_mem_queues {w : Phase Q E} {q : Q} (h : q ∈ w.queues) : w.active = true := by
  cases w with
  | claimed | working | worked => rfl
  | ready | released | idle | waiting | left => exact absurd h List.not_mem_nil

theorem mem_flatMap_queues {ws : List (Phase Q E)} {q : Q} :
    q ∈ ws.flatMap queues ↔ ∃ w ∈ ws, ∃ item ∈ w.held, item.queue = q := by
  simp only [List.mem_flatMap, queues, List.mem_map]

/-- The other workers are as they were, and this one is not less active. -/
theorem exists_active_set {ws : List (Phase Q E)} {i : Nat} {w w' : Phase Q E}
    (hw : ws[i]? = some w) (hactive : w.active = true → w'.active = true)
    (h : ∃ v ∈ ws, v.active = true) : ∃ v ∈ ws.set i w', v.active = true := by
  have hlt : i < ws.length := (List.getElem?_eq_some_iff.mp hw).1
  rcases h with ⟨v, hv, hact⟩
  by_cases hvw : v = w
  · rw [hvw] at hact
    exact ⟨w', List.mem_set hlt w', hactive hact⟩
  · exact ⟨v, mem_set_of_mem_of_ne hw hv hvw, hact⟩

end Phase

/-- `adding` counts the calls of `Add` that wait for a worker to receive, and the
    last two fields are the history. -/
structure Pool (Q E : Type) where
  journal : List (Item Q E)
  queueSet : Finset Q
  workers : List (Phase Q E)
  adding : Nat
  stopped : Bool
  entered : List (Item Q E)
  started : List (Item Q E)

variable [DecidableEq Q]

/-- The events of a queue. -/
def ofQueue (q : Q) (items : List (Item Q E)) : List (Item Q E) :=
  items.filter (·.queue = q)

/-- There are no workers before the pool is started. -/
def newEventWorkerPool : Pool Q E where
  journal := []
  queueSet := ∅
  workers := []
  adding := 0
  stopped := false
  entered := []
  started := []

/-- The first event whose queue is not in use, and the journal without it. -/
def takeFree (inUse : Finset Q) : List (Item Q E) → Option (Item Q E × List (Item Q E))
  | [] => none
  | item :: items =>
      if item.queue ∈ inUse then
        (takeFree inUse items).map fun found => (found.1, item :: found.2)
      else some (item, items)

/-- One case for every step that the mutex and the channel allow. -/
inductive Action (Q E : Type)
  | start (workers : Nat)
  | add (queue : Q) (evt : E)
  | scan (i : Nat)
  | call (i : Nat)
  | finish (i : Nat)
  | release (i : Nat)
  | notify (i j : Nat)
  | skip (i : Nat)
  | arrive (i : Nat)
  | deliver (i : Nat)
  | stop
  | leave (i : Nat)

/-- A notification after some work goes to a worker that waits for one, and is
    dropped when there is none. -/
def step (s : Pool Q E) : Action Q E → Option (Pool Q E)
  | .start n => some { s with workers := s.workers ++ List.replicate n .ready }
  | .add queue evt =>
      let item : Item Q E := ⟨s.entered.length, queue, evt⟩
      some { s with
        journal := s.journal ++ [item]
        adding := s.adding + 1
        entered := s.entered ++ [item] }
  | .scan i => match s.workers[i]? with
    | some .ready => match takeFree s.queueSet s.journal with
      | some (item, journal) => some { s with
          journal := journal
          queueSet := insert item.queue s.queueSet
          workers := s.workers.set i (.claimed item) }
      | none => some { s with workers := s.workers.set i .idle }
    | _ => none
  | .call i => match s.workers[i]? with
    | some (.claimed item) => some { s with
        workers := s.workers.set i (.working item)
        started := s.started ++ [item] }
    | _ => none
  | .finish i => match s.workers[i]? with
    | some (.working item) => some { s with workers := s.workers.set i (.worked item) }
    | _ => none
  | .release i => match s.workers[i]? with
    | some (.worked item) => some { s with
        queueSet := s.queueSet.erase item.queue
        workers := s.workers.set i .released }
    | _ => none
  | .notify i j => match s.workers[i]?, s.workers[j]? with
    | some .released, some .waiting =>
        some { s with workers := (s.workers.set i .ready).set j .ready }
    | _, _ => none
  | .skip i => match s.workers[i]? with
    | some .released =>
        if s.workers.any Phase.isWaiting then none
        else some { s with workers := s.workers.set i .ready }
    | _ => none
  | .arrive i => match s.workers[i]? with
    | some .idle => some { s with workers := s.workers.set i .waiting }
    | _ => none
  | .deliver i => match s.workers[i]? with
    | some .waiting =>
        if s.adding = 0 then none
        else some { s with workers := s.workers.set i .ready, adding := s.adding - 1 }
    | _ => none
  | .stop => if s.stopped then none else some { s with stopped := true }
  | .leave i => match s.workers[i]? with
    | some .waiting =>
        if s.stopped then some { s with workers := s.workers.set i .left } else none
    | _ => none

/-- Each event is handled once at most, those of a queue in the order in which they
    have entered the journal and one at a time, and a queue is in use exactly while
    one of its events is handled. -/
structure Guarantees (s : Pool Q E) : Prop where
  once : s.started.Nodup
  ordered : ∀ q, ofQueue q s.started <+: ofQueue q s.entered
  exclusive : ∀ (i j : Nat) (w w' : Phase Q E) (item item' : Item Q E),
    s.workers[i]? = some w → s.workers[j]? = some w' → item ∈ w.held → item' ∈ w'.held →
      item.queue = item'.queue → i = j
  inUse : ∀ q, q ∈ s.queueSet ↔ ∃ w ∈ s.workers, ∃ item ∈ w.held, item.queue = q

/-! ## Looking through the journal -/

/-- What is taken is out of the journal, and the rest keeps its order. -/
theorem takeFree_eq_some {inUse : Finset Q} {journal rest : List (Item Q E)} {item : Item Q E}
    (h : takeFree inUse journal = some (item, rest)) :
    item.queue ∉ inUse ∧ ∃ before after, journal = before ++ item :: after ∧
      rest = before ++ after ∧ ∀ other ∈ before, other.queue ∈ inUse := by
  induction journal generalizing rest with
  | nil => exact absurd h nofun
  | cons first journal ih =>
      unfold takeFree at h
      split_ifs at h with hin
      · rcases Option.map_eq_some_iff.mp h with ⟨⟨found, rest'⟩, htake, heq⟩
        rcases Prod.mk.inj heq with ⟨rfl, rfl⟩
        rcases ih htake with ⟨hfree, before, after, hjournal, hrest, hbefore⟩
        refine ⟨hfree, first :: before, after, by rw [hjournal, List.cons_append], ?_, ?_⟩
        · rw [hrest, List.cons_append]
        · exact List.forall_mem_cons.mpr ⟨hin, hbefore⟩
      · rw [Option.some.injEq, Prod.mk.injEq] at h
        rw [← h.1, ← h.2]
        exact ⟨hin, [], journal, rfl, rfl, fun _ hmem => absurd hmem List.not_mem_nil⟩

theorem takeFree_eq_none {inUse : Finset Q} {journal : List (Item Q E)}
    (h : takeFree inUse journal = none) : ∀ item ∈ journal, item.queue ∈ inUse := by
  induction journal with
  | nil => exact fun _ hmem => absurd hmem List.not_mem_nil
  | cons first journal ih =>
      unfold takeFree at h
      split_ifs at h with hin
      exact List.forall_mem_cons.mpr ⟨hin, ih (Option.map_eq_none_iff.mp h)⟩

/-! ## What a step can do -/

variable {s s' : Pool Q E} {a : Action Q E}

/-- The worker goes on with the same in its hands. It becomes idle only after it has
    looked through the journal, and an `Add` is done only when it has woken one. -/
inductive Effect (s : Pool Q E) : Pool Q E → Prop
  | hired (n : Nat) : Effect s { s with workers := s.workers ++ List.replicate n .ready }
  | added (queue : Q) (evt : E) : Effect s { s with
      journal := s.journal ++ [⟨s.entered.length, queue, evt⟩]
      adding := s.adding + 1
      entered := s.entered ++ [⟨s.entered.length, queue, evt⟩] }
  | took (i : Nat) (item : Item Q E) (journal : List (Item Q E))
      (hw : s.workers[i]? = some .ready)
      (htake : takeFree s.queueSet s.journal = some (item, journal)) : Effect s { s with
        journal := journal
        queueSet := insert item.queue s.queueSet
        workers := s.workers.set i (.claimed item) }
  | foundNothing (i : Nat) (hw : s.workers[i]? = some .ready)
      (htake : takeFree s.queueSet s.journal = none) :
      Effect s { s with workers := s.workers.set i .idle }
  | called (i : Nat) (item : Item Q E) (hw : s.workers[i]? = some (.claimed item)) :
      Effect s { s with
        workers := s.workers.set i (.working item)
        started := s.started ++ [item] }
  | gaveBack (i : Nat) (item : Item Q E) (hw : s.workers[i]? = some (.worked item)) :
      Effect s { s with
        queueSet := s.queueSet.erase item.queue
        workers := s.workers.set i .released }
  | moved (i : Nat) (w w' : Phase Q E) (adding : Nat) (hw : s.workers[i]? = some w)
      (hheld : w'.held = w.held) (hpending : w'.pending = w.pending)
      (hactive : w.active = true → w'.active = true)
      (hadding : s.adding = adding ∨ w'.active = true) :
      Effect s { s with workers := s.workers.set i w', adding := adding }
  | notified (i j : Nat) (hi : s.workers[i]? = some .released)
      (hj : s.workers[j]? = some .waiting) :
      Effect s { s with workers := (s.workers.set i .ready).set j .ready }
  | stopped : Effect s { s with stopped := true }

/-- All that a step can do to the journal, the queues and the workers. -/
theorem effect_of_step (h : step s a = some s') : Effect s s' := by
  cases a with
  | start n =>
      rw [step, Option.some.injEq] at h
      rw [← h]
      exact .hired n
  | add queue evt =>
      rw [step, Option.some.injEq] at h
      rw [← h]
      exact .added queue evt
  | scan i =>
      rw [step] at h
      split at h
      · next hw =>
          -- The worker takes the first event whose queue is not in use.
          split at h
          · next item journal htake =>
              rw [Option.some.injEq] at h
              rw [← h]
              exact .took i item journal hw htake
          · next htake =>
              rw [Option.some.injEq] at h
              rw [← h]
              exact .foundNothing i hw htake
      · exact absurd h nofun
  | call i =>
      rw [step] at h
      split at h
      · next item hw =>
          rw [Option.some.injEq] at h
          rw [← h]
          exact .called i item hw
      · exact absurd h nofun
  | finish i =>
      rw [step] at h
      split at h
      · next item hw =>
          -- The item stays in the hands of the worker, so the queue is still in use.
          rw [Option.some.injEq] at h
          rw [← h]
          exact .moved i _ (.worked item) s.adding hw rfl rfl (fun _ => rfl) (.inl rfl)
      · exact absurd h nofun
  | release i =>
      rw [step] at h
      split at h
      · next item hw =>
          rw [Option.some.injEq] at h
          rw [← h]
          exact .gaveBack i item hw
      · exact absurd h nofun
  | notify i j =>
      rw [step] at h
      -- The notification is received by someone who waits.
      split at h
      · next hi hj =>
          rw [Option.some.injEq] at h
          rw [← h]
          exact .notified i j hi hj
      · exact absurd h nofun
  | skip i =>
      rw [step] at h
      split at h
      · next hw =>
          -- Nobody waits, and the notification is dropped.
          rw [Option.ite_none_left_eq_some, Option.some.injEq] at h
          rw [← h.2]
          exact .moved i _ .ready s.adding hw rfl rfl (fun _ => rfl) (.inl rfl)
      · exact absurd h nofun
  | arrive i =>
      rw [step] at h
      split at h
      · next hw =>
          rw [Option.some.injEq] at h
          rw [← h]
          exact .moved i _ .waiting s.adding hw rfl rfl nofun (.inl rfl)
      · exact absurd h nofun
  | deliver i =>
      rw [step] at h
      split at h
      · next hw =>
          -- The notification of an `Add` is received, and one call less waits.
          rw [Option.ite_none_left_eq_some, Option.some.injEq] at h
          rw [← h.2]
          exact .moved i _ .ready (s.adding - 1) hw rfl rfl (fun _ => rfl) (.inr rfl)
      · exact absurd h nofun
  | stop =>
      rw [step, Option.ite_none_left_eq_some, Option.some.injEq] at h
      rw [← h.2]
      exact .stopped
  | leave i =>
      rw [step] at h
      split at h
      · next hw =>
          -- A worker returns only once the pool was stopped.
          rw [Option.ite_none_right_eq_some, Option.some.injEq] at h
          rw [← h.2]
          exact .moved i _ .left s.adding hw rfl rfl nofun (.inl rfl)
      · exact absurd h nofun

/-! ## The invariants -/

/-- The numbers are those of the entries, no two workers have events of one queue,
    and what has entered of a queue was handled, is about to be, or is in the journal. -/
structure Inv (s : Pool Q E) : Prop where
  numbered : s.entered.map (·.no) = List.range s.entered.length
  exclusive : (s.workers.flatMap Phase.queues).Nodup
  inUse : ∀ q, q ∈ s.queueSet ↔ q ∈ s.workers.flatMap Phase.queues
  ordered : ∀ q, ofQueue q s.entered = ofQueue q s.started ++
    ofQueue q (s.workers.flatMap Phase.pending) ++ ofQueue q s.journal

/-- While there is something in the journal, a worker is going to look, or a call of
    `Add` is going to wake one. -/
def Busy (s : Pool Q E) : Prop :=
  s.journal ≠ [] → s.adding ≠ 0 ∨ ∃ w ∈ s.workers, w.active = true

theorem ofQueue_append (q : Q) (items items' : List (Item Q E)) :
    ofQueue q (items ++ items') = ofQueue q items ++ ofQueue q items' :=
  List.filter_append ..

theorem ofQueue_cons_self {q : Q} {item : Item Q E} (h : item.queue = q)
    (items : List (Item Q E)) : ofQueue q (item :: items) = item :: ofQueue q items :=
  List.filter_cons_of_pos (decide_eq_true h)

theorem ofQueue_cons_other {q : Q} {item : Item Q E} (h : item.queue ≠ q)
    (items : List (Item Q E)) : ofQueue q (item :: items) = ofQueue q items :=
  List.filter_cons_of_neg (fun heq => h (of_decide_eq_true heq))

theorem ofQueue_eq_nil {q : Q} {items : List (Item Q E)} (h : ∀ item ∈ items, item.queue ≠ q) :
    ofQueue q items = [] :=
  List.filter_eq_nil_iff.mpr fun item hmem heq => h item hmem (of_decide_eq_true heq)

/-- Of a queue that no worker has, no event is about to be handled. -/
theorem ofQueue_pending_eq_nil {ws : List (Phase Q E)} {q : Q}
    (h : q ∉ ws.flatMap Phase.queues) : ofQueue q (ws.flatMap Phase.pending) = [] := by
  refine ofQueue_eq_nil fun item hmem hq => ?_
  rcases List.mem_flatMap.mp hmem with ⟨w, hw, hitem⟩
  rw [← hq] at h
  exact h (List.mem_flatMap.mpr ⟨w, hw, Phase.mem_queues_of_mem_pending hitem⟩)

/-- A worker that goes on with the same in its hands. -/
theorem inv_of_same {i : Nat} {w w' : Phase Q E} {adding : Nat} (hs : Inv s)
    (hw : s.workers[i]? = some w) (hheld : w'.held = w.held) (hpending : w'.pending = w.pending) :
    Inv { s with workers := s.workers.set i w', adding := adding } := by
  have hsame := exclusive_set_of_eq ⟨hs.exclusive, hs.inUse⟩ hw (Phase.queues_congr hheld)
  have habout := flatMap_set_of_eq hw hpending
  refine ⟨hs.numbered, hsame.nodup, hsame.mem_iff, ?_⟩
  dsimp only
  rw [habout]
  exact hs.ordered

/-- A queue that is not in use, and the first event of it in the journal. -/
theorem inv_of_took {i : Nat} {item : Item Q E} {journal : List (Item Q E)} (hs : Inv s)
    (hw : s.workers[i]? = some .ready)
    (htake : takeFree s.queueSet s.journal = some (item, journal)) :
    Inv { s with
      journal := journal
      queueSet := insert item.queue s.queueSet
      workers := s.workers.set i (.claimed item) } := by
  rcases takeFree_eq_some htake with ⟨hfree, before, after, hjournal, rfl, hbefore⟩
  have htaken : Exclusive Phase.queues (insert item.queue s.queueSet)
      (s.workers.set i (.claimed item)) :=
    exclusive_insert ⟨hs.exclusive, hs.inUse⟩ hw hfree rfl rfl
  rcases split_set hw with ⟨front, back, hsplit, hset⟩
  have hordered := hs.ordered
  rw [hs.inUse, hsplit] at hfree
  rw [hsplit] at hordered
  simp only [List.flatMap_append, List.flatMap_cons, Phase.queues_eq_nil (w := .ready) rfl,
    List.nil_append] at hfree
  simp only [List.flatMap_append, List.flatMap_cons, Phase.pending, List.nil_append] at hordered
  refine ⟨hs.numbered, htaken.nodup, htaken.mem_iff, ?_⟩
  intro q
  have hall := hordered q
  dsimp only
  rw [hset, List.flatMap_append, List.flatMap_cons, Phase.pending, List.singleton_append]
  by_cases hq : item.queue = q
  · -- before this event there is none of its queue, neither in the journal nor taken
    have hskipped : ofQueue q before = [] := by
      refine ofQueue_eq_nil fun other hmem heq => ?_
      have hin := hbefore other hmem
      rw [heq, ← hq, hs.inUse, hsplit] at hin
      simp only [List.flatMap_append, List.flatMap_cons, Phase.queues_eq_nil (w := .ready) rfl,
        List.nil_append] at hin
      exact hfree hin
    have hnone : ofQueue q (front.flatMap Phase.pending ++ back.flatMap Phase.pending) = [] := by
      rw [← List.flatMap_append]
      refine ofQueue_pending_eq_nil ?_
      rw [← hq, List.flatMap_append]
      exact hfree
    rw [ofQueue_append, List.append_eq_nil_iff] at hnone
    rw [ofQueue_append, hnone.1, hnone.2, hjournal, ofQueue_append, hskipped,
      ofQueue_cons_self hq] at hall
    rw [ofQueue_append, hnone.1, ofQueue_cons_self hq, hnone.2, ofQueue_append, hskipped, hall]
    simp only [List.nil_append, List.append_nil, List.append_assoc, List.singleton_append]
  · rw [hjournal, ofQueue_append q before, ofQueue_cons_other hq, ← ofQueue_append q before]
      at hall
    rw [ofQueue_append q (front.flatMap Phase.pending), ofQueue_cons_other hq,
      ← ofQueue_append q (front.flatMap Phase.pending)]
    exact hall

/-- The worker has the queue, so no other event of it is about to be handled. -/
theorem inv_of_called {i : Nat} {item : Item Q E} (hs : Inv s)
    (hw : s.workers[i]? = some (.claimed item)) :
    Inv { s with
      workers := s.workers.set i (.working item)
      started := s.started ++ [item] } := by
  rcases split_set hw with ⟨front, back, hsplit, hset⟩
  have hsame : Exclusive Phase.queues s.queueSet (s.workers.set i (.working item)) :=
    exclusive_set_of_eq ⟨hs.exclusive, hs.inUse⟩ hw rfl
  refine ⟨hs.numbered, hsame.nodup, hsame.mem_iff, ?_⟩
  intro q
  have hall := hs.ordered q
  have hexclusive := hs.exclusive
  have hclaimed : (Phase.claimed item).queues = [item.queue] := rfl
  rw [hsplit, List.flatMap_append, List.flatMap_cons, hclaimed, List.singleton_append,
    List.nodup_middle, List.nodup_cons] at hexclusive
  dsimp only
  rw [hset, List.flatMap_append, List.flatMap_cons, Phase.pending, List.nil_append,
    ofQueue_append q s.started]
  · rw [hsplit, List.flatMap_append, List.flatMap_cons, Phase.pending, List.singleton_append]
      at hall
    by_cases hq : item.queue = q
    · -- No other worker has an event of the queue.
      have hnone : ofQueue q (front.flatMap Phase.pending ++ back.flatMap Phase.pending) =
          [] := by
        rw [← List.flatMap_append]
        refine ofQueue_pending_eq_nil ?_
        rw [← hq, List.flatMap_append]
        exact hexclusive.1
      rw [hnone, ofQueue_cons_self hq]
      rw [ofQueue_append, List.append_eq_nil_iff] at hnone
      rw [ofQueue_append q (front.flatMap Phase.pending), hnone.1, ofQueue_cons_self hq,
        hnone.2] at hall
      rw [hall, List.nil_append, List.append_nil]
      rfl
    · rw [ofQueue_append q (front.flatMap Phase.pending), ofQueue_cons_other hq,
        ← ofQueue_append q (front.flatMap Phase.pending)] at hall
      rw [ofQueue_cons_other hq, hall]
      exact congrArg (· ++ _ ++ _) (List.append_nil _).symm
  · exact nofun

/-- A queue that is given back was used by this worker alone. -/
theorem inv_of_gaveBack {i : Nat} {item : Item Q E} (hs : Inv s)
    (hw : s.workers[i]? = some (.worked item)) :
    Inv { s with
      queueSet := s.queueSet.erase item.queue
      workers := s.workers.set i .released } := by
  have hgiven : Exclusive Phase.queues (s.queueSet.erase item.queue)
      (s.workers.set i .released) :=
    exclusive_erase ⟨hs.exclusive, hs.inUse⟩ hw rfl rfl
  refine ⟨hs.numbered, hgiven.nodup, hgiven.mem_iff, ?_⟩
  have hsame : (s.workers.set i .released).flatMap Phase.pending =
      s.workers.flatMap Phase.pending := flatMap_set_of_eq hw rfl
  dsimp only
  rw [hsame]
  exact hs.ordered

theorem inv_of_added (hs : Inv s) (queue : Q) (evt : E) :
    Inv { s with
      journal := s.journal ++ [⟨s.entered.length, queue, evt⟩]
      adding := s.adding + 1
      entered := s.entered ++ [⟨s.entered.length, queue, evt⟩] } := by
  refine ⟨?_, hs.exclusive, hs.inUse, fun q => ?_⟩
  · dsimp only
    rw [List.map_append, List.length_append, List.length_singleton, List.range_succ, hs.numbered]
    rfl
  · dsimp only
    rw [ofQueue_append q s.entered, ofQueue_append q s.journal, hs.ordered q,
      List.append_assoc (_ ++ _)]

theorem inv_of_hired (hs : Inv s) (n : Nat) :
    Inv { s with workers := s.workers ++ List.replicate n .ready } := by
  have hnone : ∀ {β : Type} (f : Phase Q E → List β), f Phase.ready = [] →
      (s.workers ++ List.replicate n Phase.ready).flatMap f = s.workers.flatMap f := by
    intro β f hf
    have hnew : (List.replicate n (Phase.ready : Phase Q E)).flatMap f = [] := by
      refine List.flatMap_eq_nil_iff.mpr fun w hw => ?_
      rw [List.eq_of_mem_replicate hw, hf]
    rw [List.flatMap_append, hnew, List.append_nil]
  refine ⟨hs.numbered, ?_, ?_, ?_⟩
  · dsimp only
    rw [hnone Phase.queues rfl]
    exact hs.exclusive
  · dsimp only
    rw [hnone Phase.queues rfl]
    exact hs.inUse
  · dsimp only
    rw [hnone Phase.pending rfl]
    exact hs.ordered

theorem inv_new : Inv (newEventWorkerPool : Pool Q E) where
  numbered := rfl
  exclusive := List.nodup_nil
  inUse q := iff_of_false (Finset.notMem_empty q) List.not_mem_nil
  ordered _ := rfl

/-- One case for each thing that a step can do. -/
theorem inv_step (hs : Inv s) (h : step s a = some s') : Inv s' := by
  cases effect_of_step h with
  | hired n => exact inv_of_hired hs n
  | added queue evt => exact inv_of_added hs queue evt
  | took i item journal hw htake => exact inv_of_took hs hw htake
  | foundNothing i hw => exact inv_of_same hs hw rfl rfl
  | called i item hw => exact inv_of_called hs hw
  | gaveBack i item hw => exact inv_of_gaveBack hs hw
  | moved i w w' adding hw hheld hpending => exact inv_of_same hs hw hheld hpending
  | notified i j hi hj =>
      -- the two are not the same worker, so the second one is still waiting
      have hne : i ≠ j := by
        rintro rfl
        rw [hi] at hj
        exact absurd hj nofun
      have hwaiting : (s.workers.set i .ready)[j]? = some .waiting := by
        rw [List.getElem?_set_ne hne]
        exact hj
      have hfirst : Inv { s with workers := s.workers.set i .ready } :=
        inv_of_same hs hi rfl rfl
      exact inv_of_same hfirst hwaiting rfl rfl
  | stopped => exact ⟨hs.numbered, hs.exclusive, hs.inUse, hs.ordered⟩

theorem inv_of_reaches (hr : ReachesWithin step (fun _ _ => True) newEventWorkerPool s) : Inv s :=
  invariant_of_reachesWithin (fun _ _ _ _ hs _ h => inv_step hs h) hr inv_new

/-- A worker that ends its work looks through the journal again, so events cannot be left behind
    by a notification that nobody heard. -/
theorem busy_step (hs : Inv s) (hb : Busy s) (h : step s a = some s') : Busy s' := by
  cases effect_of_step h with
  | hired n =>
      intro hne
      rcases hb hne with hadding | ⟨w, hw, hactive⟩
      · exact .inl hadding
      · exact .inr ⟨w, List.mem_append_left _ hw, hactive⟩
  | added queue evt => exact fun _ => .inl (Nat.succ_ne_zero _)
  | took i item journal hw =>
      have hlt : i < s.workers.length := (List.getElem?_eq_some_iff.mp hw).1
      exact fun _ => .inr ⟨.claimed item, List.mem_set hlt _, rfl⟩
  | foundNothing i hw htake =>
      -- the queue of the first event is in use, so another worker has it
      intro hne
      rcases List.exists_mem_of_ne_nil _ hne with ⟨item, hitem⟩
      have hin := takeFree_eq_none htake item hitem
      rw [hs.inUse, List.mem_flatMap] at hin
      rcases hin with ⟨w, hmem, hq⟩
      have hother : w ≠ .ready := by
        intro heq
        rw [heq] at hq
        exact absurd hq List.not_mem_nil
      exact .inr ⟨w, mem_set_of_mem_of_ne hw hmem hother, Phase.active_of_mem_queues hq⟩
  | called i item hw =>
      intro hne
      exact (hb hne).imp_right (Phase.exists_active_set hw fun _ => rfl)
  | gaveBack i item hw =>
      intro hne
      exact (hb hne).imp_right (Phase.exists_active_set hw fun _ => rfl)
  | moved i w w' adding hw hheld hpending hactive hadding =>
      intro hne
      rcases hadding with rfl | hact
      · exact (hb hne).imp_right (Phase.exists_active_set hw hactive)
      · have hlt : i < s.workers.length := (List.getElem?_eq_some_iff.mp hw).1
        exact .inr ⟨w', List.mem_set hlt w', hact⟩
  | notified i j hi hj =>
      have hlt : j < (s.workers.set i .ready).length := by
        rw [List.length_set]
        exact (List.getElem?_eq_some_iff.mp hj).1
      exact fun _ => .inr ⟨.ready, List.mem_set hlt _, rfl⟩
  | stopped => exact hb

theorem busy_of_reaches (hr : ReachesWithin step (fun _ _ => True) newEventWorkerPool s) :
    Busy s :=
  invariant_of_reachesWithin (fun _ _ _ hreach hb _ h => busy_step (inv_of_reaches hreach) hb h) hr
    fun hne => absurd rfl hne

/-! ## The guarantees -/

theorem nodup_entered (hs : Inv s) : s.entered.Nodup := by
  refine List.Nodup.of_map (·.no) ?_
  rw [hs.numbered]
  exact List.nodup_range

/-- A list all whose queues have no repetition has none. -/
theorem nodup_of_ofQueue {items : List (Item Q E)} (h : ∀ q, (ofQueue q items).Nodup) :
    items.Nodup := by
  induction items with
  | nil => exact List.nodup_nil
  | cons item items ih =>
      have hitem := h item.queue
      rw [ofQueue_cons_self rfl, List.nodup_cons] at hitem
      refine List.nodup_cons.mpr ⟨fun hmem => ?_, ih fun q => ?_⟩
      · exact hitem.1 (List.mem_filter.mpr ⟨hmem, decide_eq_true rfl⟩)
      · by_cases hq : item.queue = q
        · rw [← hq]
          exact hitem.2
        · have hrest := h q
          rw [ofQueue_cons_other hq] at hrest
          exact hrest

/-- The events of a queue are begun in the order in which they came. -/
theorem ofQueue_started_isPrefixOf (hs : Inv s) (q : Q) :
    ofQueue q s.started <+: ofQueue q s.entered := by
  rw [hs.ordered, List.append_assoc]
  exact List.prefix_append ..

/-- In every run, with any number of workers and any queues, each event is handled once at most,
    and the events of a queue one at a time and in their order. The queues are the workspaces,
    so whoever handles an event of one need not look out for another handler of the same. -/
theorem guarantees_of_reaches
    (hr : ReachesWithin step (fun _ _ => True) newEventWorkerPool s) : Guarantees s := by
  have hs := inv_of_reaches hr
  refine ⟨?_, ofQueue_started_isPrefixOf hs, ?_, ?_⟩
  · refine nodup_of_ofQueue fun q => ?_
    have hentered : (ofQueue q s.entered).Nodup := (nodup_entered hs).filter _
    exact hentered.sublist (ofQueue_started_isPrefixOf hs q).sublist
  · intro i j w w' item item' hi hj hitem hitem' hq
    have hmem : item.queue ∈ w.queues := List.mem_map_of_mem hitem
    have hmem' : item.queue ∈ w'.queues := hq ▸ List.mem_map_of_mem hitem'
    exact eq_of_nodup_flatMap hs.exclusive hi hj hmem hmem'
  · intro q
    rw [hs.inUse, Phase.mem_flatMap_queues]

/-- Two workers and two queues. The second event of the first queue waits in the
    journal while a worker handles the first one, and the other worker goes on with
    the event behind it. -/
def twoQueues : List (Action Bool Nat) :=
  [.start 2, .scan 0, .add true 7, .arrive 0, .deliver 0, .scan 0, .call 0, .add true 8,
    .add false 9, .scan 1, .call 1]

theorem guarantees_twoQueues : ∃ s : Pool Bool Nat,
    runActions step twoQueues newEventWorkerPool = some s ∧
      s.started.map (·.evt) = [7, 9] ∧ s.journal.map (·.evt) = [8] ∧ Guarantees s :=
  ⟨_, rfl, rfl, rfl, guarantees_of_reaches
    (reaches_of_runActions (rfl : runActions step twoQueues newEventWorkerPool = some _))⟩

/-- When all workers wait for a notification and none is under way, nothing is in the journal
    and no queue is in use. A worker that ends its work notifies only who is there to hear it,
    and this says that the notifications nobody heard were not needed. -/
theorem empty_of_all_waiting
    (hr : ReachesWithin step (fun _ _ => True) newEventWorkerPool s)
    (hwaiting : ∀ w ∈ s.workers, w = .waiting) (hadding : s.adding = 0) :
    s.journal = [] ∧ s.queueSet = ∅ := by
  constructor
  · by_contra hne
    rcases busy_of_reaches hr hne with hpending | ⟨w, hw, hactive⟩
    · exact hpending hadding
    · rw [hwaiting w hw] at hactive
      exact absurd hactive Bool.false_ne_true
  · refine Finset.eq_empty_of_forall_notMem fun q hq => ?_
    rw [(inv_of_reaches hr).inUse, Phase.mem_flatMap_queues] at hq
    rcases hq with ⟨w, hw, item, hitem, _⟩
    rw [hwaiting w hw] at hitem
    exact absurd hitem List.not_mem_nil

/-- Two workers finish their events while no other one is at the receive. Both
    notifications are dropped, and the event in the journal is handled all the same. -/
def droppedNotifications : List (Action Bool Nat) :=
  [.start 2, .scan 0, .scan 1, .add true 7, .add false 8, .arrive 0, .deliver 0, .arrive 1,
    .deliver 1, .scan 0, .call 0, .scan 1, .call 1, .finish 0, .release 0, .skip 0, .finish 1,
    .release 1, .skip 1, .scan 0, .scan 1, .arrive 0, .add true 9, .deliver 0, .scan 0, .call 0,
    .finish 0, .release 0, .skip 0, .scan 0, .arrive 0, .arrive 1]

theorem empty_droppedNotifications : ∃ s : Pool Bool Nat,
    runActions step droppedNotifications newEventWorkerPool = some s ∧
      s.started.map (·.evt) = [7, 8, 9] ∧ s.journal = [] ∧ s.queueSet = ∅ := by
  have hwaiting : ∀ w ∈ ([.waiting, .waiting] : List (Phase Bool Nat)), w = .waiting := by
    intro w hw
    rwa [List.mem_cons, List.mem_singleton, or_self_iff] at hw
  exact ⟨_, rfl, rfl, empty_of_all_waiting
    (reaches_of_runActions (rfl : runActions step droppedNotifications newEventWorkerPool = some _))
    hwaiting rfl⟩

end WorkPool

end WsManager

end Nxpod
