import Nxpod.Library.Parties
import Nxpod.Library.Transition
import Mathlib.Data.List.Infix

/-!
# Listening to the Log of a Build

What is written to a build goes to all that listen to it. `Write` offers it to one
listener after the other: it sends the bytes on one channel, and then waits until the
listener acknowledges on another one. It does not wait long for either. A listener that
is late is broken, and is closed when all listeners have been served. A `Read` returns as
many of the bytes as the buffer takes, and keeps the remainder for the next one.

A build knows the listeners that are open. Closing a listener, or the build, closes the
channels. The lock of the build is held for reading while `Write` serves the listeners,
and for writing where a listener is added or closed. Calls of `Write` may overlap.

A nil slice that is written looks to the listener like the end of the log. Sending on a
channel that was closed panics, and that ends the program.

## Main definitions

* `Reader`, `Listener`: The listeners. `delivered`, `acknowledged` and `returned` are what
  became of the writes, and no step depends on them.
* `WriteCall`, `Build`, `step`: The build, and what can happen.
* `Action`: `order` is the order in which the map of the open listeners is gone through.
* `Listener.Sound`, `Sound`: Nothing is lost, and nobody sends on a closed channel.
* `InOrder`: The condition on a step.
* `Inv`: What is kept: of each listener, of each call, and that nothing was sent on a closed
  channel.

## Theorems

* `panics_of_closed`: A listener that was closed too early.
* `inv_step`: What a step preserves.
* `sound_iff`: The runs in which nothing is lost and nothing panics.
-/

namespace Nxpod

namespace ImageBuilder

namespace LogListener

open Transition Parties

/-- What is written or read at once. -/
abbrev Bytes := List UInt8

/-! ## The listeners -/

/-- Where a listener is in `Read`. It is `acknowledging` what the call `w` of `Write` has
    sent, and `read` are the bytes that it will return. -/
inductive Reader
  | idle
  | receiving (size : Nat)
  | acknowledging (w : Nat) (read : Bytes) (p : Bytes)
  | closing
  | ended

/-- A listener, with what was sent to it, what it has acknowledged, and what its reader was
    given. -/
structure Listener where
  isOpen : Bool
  reader : Reader
  remainder : Bytes
  delivered : List Bytes
  acknowledged : List Bytes
  returned : Bytes

/-- A listener that has heard nothing. -/
def newListener : Listener where
  isOpen := true
  reader := .idle
  remainder := []
  delivered := []
  acknowledged := []
  returned := []

/-- Its channels are closed. What it has in hand it keeps. -/
def Listener.close (l : Listener) : Listener :=
  { l with isOpen := false }

/-- What `Read` does before it receives anything. -/
def Listener.read (l : Listener) (size : Nat) : Listener :=
  if l.isOpen then
    if l.remainder.length > 0 then
      { l with
        remainder := l.remainder.drop size
        returned := l.returned ++ l.remainder.take size }
    else { l with reader := .receiving size }
  else { l with reader := .ended }

/-- The bytes `nd` are received. -/
def Listener.receive (l : Listener) (size : Nat) (w : Nat) : Option Bytes → Listener
  | none => { l with reader := .closing }
  | some nd =>
      { l with
        reader := .acknowledging w (nd.take size) nd
        remainder := if nd.length - (nd.take size).length > 0 then nd.drop size else l.remainder
        delivered := l.delivered ++ [nd] }

/-- The call that has sent `p` takes the acknowledgement. -/
def Listener.acknowledge (l : Listener) (read : Bytes) (p : Option Bytes) : Listener :=
  { l with
    reader := .idle
    acknowledged := l.acknowledged ++ [p.getD []]
    returned := l.returned ++ read }

/-! ## The build -/

/-- A call of `Write` that is `sending` to the first listener of `todo`, is `awaiting` the
    acknowledgement of one, or has served all. The ones that were late are `broken`. -/
inductive WriteCall
  | sending (p : Option Bytes) (todo : List Nat) (broken : List Nat)
  | awaiting (p : Option Bytes) (l : Nat) (todo : List Nat) (broken : List Nat)
  | closing (broken : List Nat)
  | done

/-- Whether the lock of the build is held for reading. -/
def WriteCall.locks : WriteCall → Bool
  | .sending .. => true
  | .awaiting .. => true
  | _ => false

/-- A build, and all that has to do with its log. -/
structure Build where
  closed : Bool
  listeners : List Listener
  calls : List WriteCall
  panicked : Bool

/-- `order` is the order in which the map of the open listeners is gone through. -/
inductive Action
  | listen
  | write (p : Option Bytes) (order : List Nat)
  | send (w : Nat)
  | timeout (w : Nat)
  | acknowledge (w : Nat)
  | goOn (w : Nat)
  | read (l : Nat) (size : Nat)
  | readOn (l : Nat)
  | closeListener (l : Nat)
  | close

/-- Nobody listens. -/
def newBuild : Build where
  closed := false
  listeners := []
  calls := []
  panicked := false

/-- Whether `Write` holds the lock. -/
def locked (s : Build) : Bool :=
  s.calls.any WriteCall.locks

/-- Those that a write goes to. -/
def openListeners (s : Build) : List Nat :=
  (List.range s.listeners.length).filter fun i => (s.listeners[i]?).any (·.isOpen)

/-- One listener is changed. -/
def setListener (s : Build) (i : Nat) (l : Listener) : Build :=
  { s with listeners := s.listeners.set i l }

/-- One call is changed. -/
def setCall (s : Build) (w : Nat) (c : WriteCall) : Build :=
  { s with calls := s.calls.set w c }

/-- A listener is closed once its channels are not used by `Write`. -/
def closeListener (s : Build) (i : Nat) : Option Build :=
  if locked s then none
  else match s.listeners[i]? with
    | some l => some (setListener s i l.close)
    | none => none

/-- The call goes on with the next listener. -/
def goOn (s : Build) (w : Nat) : WriteCall → Option Build
  | .sending _ [] broken => some (setCall s w (.closing broken))
  | .closing (i :: broken) => closeListener (setCall s w (.closing broken)) i
  | .closing [] => some (setCall s w .done)
  | _ => none

/-- A channel that is closed gives nil, and nothing may be sent on it. -/
def readOn (s : Build) (i : Nat) (l : Listener) : Option Build :=
  match l.reader with
  | .receiving _ =>
      if l.isOpen then none else some (setListener s i { l with reader := .closing })
  | .acknowledging _ _ _ =>
      if l.isOpen then none else some { s with panicked := true }
  | .closing =>
      if locked s then none
      else some (setListener s i { l.close with reader := .ended })
  | _ => none

/-- What two goroutines do together is a step of the call of `Write`. -/
def step (s : Build) (a : Action) : Option Build :=
  if s.panicked then none
  else match a with
  | .listen =>
      if locked s then none else some { s with listeners := s.listeners ++ [newListener] }
  | .write p order =>
      if s.closed then some s
      else if order.Perm (openListeners s) then
        some { s with calls := s.calls ++ [.sending p order []] }
      else none
  | .send w => match s.calls[w]? with
    | some (.sending p (i :: todo) broken) => match s.listeners[i]? with
      | some l =>
          if l.isOpen then match l.reader with
            | .receiving size =>
                some (setCall (setListener s i (l.receive size w p)) w (.awaiting p i todo broken))
            | _ => none
          else some { s with panicked := true }
      | none => none
    | _ => none
  | .timeout w => match s.calls[w]? with
    | some (.sending p (i :: todo) broken) =>
        some (setCall s w (.sending p todo (broken ++ [i])))
    | some (.awaiting p i todo broken) =>
        some (setCall s w (.sending p todo (broken ++ [i])))
    | _ => none
  | .acknowledge w => match s.calls[w]? with
    | some (.awaiting p i todo broken) => match s.listeners[i]? with
      | some l => match l.reader with
        | .acknowledging _ read _ =>
            some (setCall (setListener s i (l.acknowledge read p)) w (.sending p todo broken))
        | _ => none
      | none => none
    | _ => none
  | .goOn w => match s.calls[w]? with
    | some c => goOn s w c
    | none => none
  | .read i size => match s.listeners[i]? with
    | some l => match l.reader with
      | .idle => some (setListener s i (l.read size))
      | _ => none
    | none => none
  | .readOn i => match s.listeners[i]? with
    | some l => readOn s i l
    | none => none
  | .closeListener i => closeListener s i
  | .close =>
      if locked s then none
      else if s.closed then some s
      else some { s with
        closed := true
        listeners := s.listeners.map Listener.close }

/-! ## What is claimed of the listeners -/

/-- What a listener returns is what was delivered to it, in order. When it says that the log
    has ended it has returned all that it has acknowledged. It does not acknowledge
    anything on a channel that was closed. -/
structure Listener.Sound (l : Listener) : Prop where
  returned : l.returned <+: l.delivered.flatten
  ended : l.reader = .ended → l.returned = l.acknowledged.flatten
  acknowledging : ∀ w read p, l.reader = .acknowledging w read p → l.isOpen = true

/-- What a listener gives to its reader is what it has acknowledged, and no goroutine has
    panicked. -/
structure Sound (s : Build) : Prop where
  listeners : ∀ l ∈ s.listeners, l.Sound
  panicked : s.panicked = false

/-- The listener is not between receiving and acknowledging. -/
def Listener.Quiet (l : Listener) : Prop :=
  ∀ w read p, l.reader ≠ .acknowledging w read p

/-- The same for one in a list. -/
def QuietAt (s : Build) (i : Nat) : Prop :=
  ∀ l, s.listeners[i]? = some l → l.Quiet

/-- A listener is not closed while it is about to acknowledge something, and one that was
    closed is not read from while it has a remainder. -/
def InOrder (s : Build) : Action → Prop
  | .read i _ => ∀ l, s.listeners[i]? = some l → l.isOpen = true ∨ l.remainder = []
  | .goOn w => ∀ i broken, s.calls[w]? = some (.closing (i :: broken)) → QuietAt s i
  | .closeListener i => QuietAt s i
  | .close => s.closed = true ∨ ∀ l ∈ s.listeners, l.Quiet
  | _ => True

/-- What was delivered has been returned or remains. -/
def Listener.Holds (l : Listener) : Prop :=
  match l.reader with
  | .idle => l.returned ++ l.remainder = l.delivered.flatten ∧ l.acknowledged = l.delivered
  | .receiving _ =>
      l.remainder = [] ∧ l.returned = l.delivered.flatten ∧ l.acknowledged = l.delivered
  | .acknowledging _ read p =>
      l.isOpen = true ∧ l.delivered = l.acknowledged ++ [p] ∧
        l.returned = l.acknowledged.flatten ∧ read ++ l.remainder = p
  | .closing => l.returned = l.delivered.flatten ∧ l.acknowledged = l.delivered
  | .ended => l.returned = l.delivered.flatten ∧ l.acknowledged = l.delivered

/-- The listener is open. -/
def IsOpenAt (ls : List Listener) (i : Nat) : Prop :=
  ∃ l, ls[i]? = some l ∧ l.isOpen = true

/-- The listener has been sent `p` by the call `w` of `Write`. -/
def Listener.Sent (l : Listener) (w : Nat) : Option Bytes → Prop
  | some nd => ∃ read, l.reader = .acknowledging w read nd
  | none => l.reader = .closing

/-- What a call that holds the lock may rely on. -/
def WriteCall.Holds (ls : List Listener) (w : Nat) : WriteCall → Prop
  | .sending _ todo _ => ∀ i ∈ todo, IsOpenAt ls i
  | .awaiting p i todo _ =>
      (∀ j ∈ todo, IsOpenAt ls j) ∧ ∃ l, ls[i]? = some l ∧ l.isOpen = true ∧ l.Sent w p
  | _ => True

/-- What is kept: of each listener, of each call, and that nothing was sent on a closed channel. -/
structure Inv (s : Build) : Prop where
  listeners : ∀ l ∈ s.listeners, l.Holds
  calls : ∀ (w : Nat) (c : WriteCall), s.calls[w]? = some c → c.Holds s.listeners w
  panicked : s.panicked = false

variable {s s' : Build} {a : Action} {ls : List Listener} {l l' : Listener} {c : WriteCall}
  {i w : Nat}

/-! ## One listener -/

theorem sound_of_holds (h : l.Holds) : l.Sound := by
  unfold Listener.Holds at h
  cases hreader : l.reader with
  | idle =>
      rw [hreader] at h
      refine ⟨⟨l.remainder, h.1⟩, fun hended => ?_, fun _ _ _ hack => ?_⟩
      · exact absurd (hreader.symm.trans hended) nofun
      · exact absurd (hreader.symm.trans hack) nofun
  | receiving size =>
      rw [hreader] at h
      refine ⟨⟨[], ?_⟩, fun hended => ?_, fun _ _ _ hack => ?_⟩
      · rw [List.append_nil, h.2.1]
      · exact absurd (hreader.symm.trans hended) nofun
      · exact absurd (hreader.symm.trans hack) nofun
  | acknowledging w read p =>
      rw [hreader] at h
      -- The part that was read but not acknowledged is what is still missing.
      rcases h with ⟨hopen, hdelivered, hreturned, hread⟩
      refine ⟨⟨p, ?_⟩, fun hended => ?_, fun _ _ _ _ => hopen⟩
      · rw [hreturned, hdelivered, List.flatten_append, List.flatten_singleton]
      · exact absurd (hreader.symm.trans hended) nofun
  | closing =>
      rw [hreader] at h
      refine ⟨⟨[], ?_⟩, fun hended => ?_, fun _ _ _ hack => ?_⟩
      · rw [List.append_nil, h.1]
      · exact absurd (hreader.symm.trans hended) nofun
      · exact absurd (hreader.symm.trans hack) nofun
  | ended =>
      rw [hreader] at h
      refine ⟨⟨[], ?_⟩, fun _ => ?_, fun _ _ _ hack => ?_⟩
      · rw [List.append_nil, h.1]
      · rw [h.1, h.2]
      · exact absurd (hreader.symm.trans hack) nofun

theorem holds_newListener : newListener.Holds :=
  ⟨rfl, rfl⟩

/-- Closing is of no consequence to a listener that is not about to acknowledge anything. -/
theorem holds_close (h : l.Holds) (hquiet : l.Quiet) : l.close.Holds := by
  unfold Listener.Holds Listener.close at *
  cases hreader : l.reader with
  | acknowledging w read p => exact absurd hreader (hquiet w read p)
  | idle =>
      rw [hreader] at h
      exact h
  | receiving size =>
      rw [hreader] at h
      exact h
  | closing =>
      rw [hreader] at h
      exact h
  | ended =>
      rw [hreader] at h
      exact h

theorem holds_read (h : l.Holds) (hidle : l.reader = .idle)
    (hin : l.isOpen = true ∨ l.remainder = []) (size : Nat) : (l.read size).Holds := by
  unfold Listener.Holds at h
  rw [hidle] at h
  rcases h with ⟨hreturned, hacknowledged⟩
  unfold Listener.read
  split_ifs with hopen hremainder
  · unfold Listener.Holds
    dsimp only
    rw [hidle]
    refine ⟨?_, hacknowledged⟩
    rw [List.append_assoc, List.take_append_drop]
    exact hreturned
  · have hnil : l.remainder = [] := List.eq_nil_of_length_eq_zero (by omega)
    rw [hnil, List.append_nil] at hreturned
    exact ⟨hnil, hreturned, hacknowledged⟩
  · rw [hin.resolve_left hopen, List.append_nil] at hreturned
    exact ⟨hreturned, hacknowledged⟩

theorem holds_receive {size : Nat} (h : l.Holds) (hreceiving : l.reader = .receiving size)
    (hopen : l.isOpen = true) (w : Nat) (p : Option Bytes) : (l.receive size w p).Holds := by
  unfold Listener.Holds at h
  rw [hreceiving] at h
  rcases h with ⟨hnil, hreturned, hacknowledged⟩
  cases p with
  | none => exact ⟨hreturned, hacknowledged⟩
  | some nd =>
      refine ⟨hopen, ?_, ?_, ?_⟩
      · unfold Listener.receive
        rw [hacknowledged]
      · exact hreturned.trans (congrArg List.flatten hacknowledged.symm)
      · unfold Listener.receive
        dsimp only
        split_ifs with hlnr
        · exact List.take_append_drop size nd
        · -- the buffer has taken all of it
          rw [hnil, List.append_nil, List.take_of_length_le]
          rw [List.length_take] at hlnr
          omega

/-- What is acknowledged goes to the reader, or to the remainder. -/
theorem holds_acknowledge {read p : Bytes} (h : l.Holds)
    (hreader : l.reader = .acknowledging w read p) : (l.acknowledge read (some p)).Holds := by
  unfold Listener.Holds at h
  rw [hreader] at h
  rcases h with ⟨_, hdelivered, hreturned, hread⟩
  refine ⟨?_, hdelivered.symm⟩
  unfold Listener.acknowledge
  dsimp only
  rw [hdelivered, hreturned, List.append_assoc, hread, List.flatten_append,
    List.flatten_singleton]

theorem isOpen_receive (size w : Nat) (p : Option Bytes) :
    (l.receive size w p).isOpen = l.isOpen := by
  cases p <;> rfl

theorem isOpen_read (size : Nat) : (l.read size).isOpen = l.isOpen := by
  unfold Listener.read
  split_ifs <;> rfl

/-! ## The calls of `Write` -/

theorem holds_of_not_locks (h : c.locks = false) : c.Holds ls w := by
  cases c with
  | sending p todo broken => exact absurd h nofun
  | awaiting p i todo broken => exact absurd h nofun
  | closing broken => trivial
  | done => trivial

theorem isOpenAt_set {j : Nat} (hi : ls[i]? = some l) (hopen : l'.isOpen = l.isOpen)
    (h : IsOpenAt ls j) : IsOpenAt (ls.set i l') j := by
  rcases h with ⟨lj, hj, hlj⟩
  by_cases hij : i = j
  · refine ⟨l', ?_, ?_⟩
    · rw [← hij, List.getElem?_set_self (List.getElem?_eq_some_iff.mp hi).1]
    · rw [hopen, Option.some.inj (hi.symm.trans (hij ▸ hj))]
      exact hlj
  · exact ⟨lj, (List.getElem?_set_ne hij).trans hj, hlj⟩

/-- A listener does something that the call has no part in. -/
theorem holds_setListener (hi : ls[i]? = some l) (hopen : l'.isOpen = l.isOpen)
    (hsent : ∀ p, ¬ l.Sent w p) (h : c.Holds ls w) : c.Holds (ls.set i l') w := by
  cases c with
  | sending p todo broken => exact fun j hj => isOpenAt_set hi hopen (h j hj)
  | awaiting p j todo broken =>
      rcases h with ⟨htodo, lj, hj, hlj, hsentj⟩
      refine ⟨fun k hk => isOpenAt_set hi hopen (htodo k hk), lj, ?_, hlj, hsentj⟩
      have hij : i ≠ j := by
        intro hij
        have hsame : l = lj := Option.some.inj (hi.symm.trans (hij ▸ hj))
        rw [← hsame] at hsentj
        exact hsent p hsentj
      exact (List.getElem?_set_ne hij).trans hj
  | closing broken => trivial
  | done => trivial

theorem not_sent_of_idle (h : l.reader = .idle) (p : Option Bytes) : ¬ l.Sent w p := by
  intro hsent
  cases p with
  | none => exact absurd (h.symm.trans hsent) nofun
  | some nd => exact absurd (h.symm.trans hsent.choose_spec) nofun

theorem not_sent_of_receiving {size : Nat} (h : l.reader = .receiving size) (p : Option Bytes) :
    ¬ l.Sent w p := by
  intro hsent
  cases p with
  | none => exact absurd (h.symm.trans hsent) nofun
  | some nd => exact absurd (h.symm.trans hsent.choose_spec) nofun

/-! ## One step -/

theorem inv_setCall {c' : WriteCall} (hs : Inv s) (hw : c'.Holds s.listeners w) :
    Inv (setCall s w c') := by
  refine ⟨hs.listeners, fun w' c hc => ?_, hs.panicked⟩
  unfold setCall at hc
  dsimp only at hc
  rw [List.getElem?_set] at hc
  split_ifs at hc with heq hlt
  · rw [← Option.some.inj hc, ← heq]
    exact hw
  · exact hs.calls w' c hc

/-- No call has a part in what a listener does. -/
theorem inv_setListener (hs : Inv s) (hi : s.listeners[i]? = some l)
    (hopen : l'.isOpen = l.isOpen) (hsent : ∀ w p, ¬ l.Sent w p) (hl' : l'.Holds) :
    Inv (setListener s i l') :=
  ⟨forall_mem_set hs.listeners hl',
    fun w c hc => holds_setListener hi hopen (hsent w) (hs.calls w c hc), hs.panicked⟩

theorem not_locks_of_not_locked (h : locked s = false) (hc : s.calls[w]? = some c) :
    c.locks = false := by
  unfold locked at h
  rw [List.any_eq_false] at h
  exact Bool.eq_false_iff.mpr (h c (List.mem_of_getElem? hc))

/-- While no call holds the lock, the listeners can be changed. -/
theorem inv_of_not_locked (hs : Inv s) (hlocked : locked s = false)
    (hcalls : s'.calls = s.calls) (hpanicked : s'.panicked = s.panicked)
    (hl : ∀ l ∈ s'.listeners, l.Holds) : Inv s' := by
  refine ⟨hl, fun w c hc => ?_, hpanicked.trans hs.panicked⟩
  rw [hcalls] at hc
  exact holds_of_not_locks (not_locks_of_not_locked hlocked hc)

/-- Closing a listener does no harm if it has nothing to acknowledge. -/
theorem inv_closeListener (hs : Inv s) (hquiet : QuietAt s i)
    (h : closeListener s i = some s') : Inv s' := by
  unfold closeListener at h
  split_ifs at h with hlocked
  split at h
  · next l hi =>
      rw [← Option.some.inj h]
      refine inv_of_not_locked hs (Bool.eq_false_iff.mpr hlocked) rfl rfl ?_
      exact forall_mem_set hs.listeners
        (holds_close (hs.listeners l (List.mem_of_getElem? hi)) (hquiet l hi))
  · exact absurd h nofun

theorem inv_goOn (hs : Inv s) (hc : s.calls[w]? = some c) (hin : InOrder s (.goOn w))
    (h : goOn s w c = some s') : Inv s' := by
  unfold goOn at h
  split at h
  · rw [← Option.some.inj h]
    exact inv_setCall hs trivial
  · next i broken =>
      have hset : Inv (setCall s w (.closing broken)) := inv_setCall hs trivial
      exact inv_closeListener hset (hin i broken hc) h
  · rw [← Option.some.inj h]
    exact inv_setCall hs trivial
  · exact absurd h nofun

theorem inv_readOn (hs : Inv s) (hi : s.listeners[i]? = some l) (h : readOn s i l = some s') :
    Inv s' := by
  have hl := hs.listeners l (List.mem_of_getElem? hi)
  unfold readOn at h
  unfold Listener.Holds at hl
  cases hreader : l.reader with
  | idle =>
      rw [hreader] at h
      exact absurd h nofun
  | receiving size =>
      rw [hreader] at h hl
      dsimp only at h
      split_ifs at h with hopen
      rw [← Option.some.inj h]
      exact inv_setListener hs hi rfl (fun _ => not_sent_of_receiving hreader) hl.2
  | acknowledging w read p =>
      rw [hreader] at h hl
      dsimp only at h
      -- It waits for the acknowledgement, as its listener is open.
      rw [if_pos hl.1] at h
      exact absurd h nofun
  | closing =>
      rw [hreader] at h hl
      dsimp only at h
      split_ifs at h with hlocked
      rw [← Option.some.inj h]
      exact inv_of_not_locked hs (Bool.eq_false_iff.mpr hlocked) rfl rfl
        (forall_mem_set hs.listeners hl)
  | ended =>
      rw [hreader] at h
      exact absurd h nofun

/-- What is sent is with the listener until it acknowledges it. -/
theorem inv_send {p : Option Bytes} {todo broken : List Nat} {size : Nat} (hs : Inv s)
    (hc : s.calls[w]? = some (.sending p (i :: todo) broken)) (hi : s.listeners[i]? = some l)
    (hopen : l.isOpen = true) (hreader : l.reader = .receiving size) :
    Inv (setCall (setListener s i (l.receive size w p)) w (.awaiting p i todo broken)) := by
  have hset : Inv (setListener s i (l.receive size w p)) :=
    inv_setListener hs hi (isOpen_receive size w p) (fun _ => not_sent_of_receiving hreader)
      (holds_receive (hs.listeners l (List.mem_of_getElem? hi)) hreader hopen w p)
  refine inv_setCall hset ⟨fun j hj => ?_, l.receive size w p, ?_, ?_, ?_⟩
  · exact isOpenAt_set hi (isOpen_receive size w p)
      (hs.calls w _ hc j (List.mem_cons_of_mem i hj))
  · exact List.getElem?_set_self (List.getElem?_eq_some_iff.mp hi).1
  · exact (isOpen_receive size w p).trans hopen
  · cases p with
    | none => rfl
    | some nd => exact ⟨nd.take size, rfl⟩

/-- The call that takes the acknowledgement is the one that has sent what is acknowledged. -/
theorem inv_acknowledge {p : Option Bytes} {todo broken : List Nat} {w' : Nat} {read nd : Bytes}
    (hs : Inv s) (hc : s.calls[w]? = some (.awaiting p i todo broken))
    (hi : s.listeners[i]? = some l) (hreader : l.reader = .acknowledging w' read nd) :
    Inv (setCall (setListener s i (l.acknowledge read p)) w (.sending p todo broken)) := by
  rcases hs.calls w _ hc with ⟨htodo, l', hi', _, hsent⟩
  rw [← Option.some.inj (hi.symm.trans hi')] at hsent
  cases p with
  | none => exact absurd (hreader.symm.trans hsent) nofun
  | some nd' =>
      rcases hsent with ⟨read', hsent⟩
      have heq := hreader.symm.trans hsent
      rw [Reader.acknowledging.injEq] at heq
      rcases heq with ⟨rfl, _, rfl⟩
      have hl := holds_acknowledge (hs.listeners l (List.mem_of_getElem? hi)) hreader
      refine ⟨forall_mem_set hs.listeners hl, fun w'' c hc' => ?_, hs.panicked⟩
      unfold setCall at hc'
      dsimp only at hc'
      rw [List.getElem?_set] at hc'
      split_ifs at hc' with heq hlt
      · rw [← Option.some.inj hc']
        exact fun j hj => isOpenAt_set hi rfl (htodo j hj)
      · refine holds_setListener hi rfl (fun p'' hsent'' => ?_) (hs.calls w'' c hc')
        -- the listener has been sent something by one call only
        cases p'' with
        | none => exact absurd (hreader.symm.trans hsent'') nofun
        | some nd'' =>
            have hsame := hreader.symm.trans hsent''.choose_spec
            rw [Reader.acknowledging.injEq] at hsame
            exact heq hsame.1

theorem isOpenAt_of_mem_openListeners (h : i ∈ openListeners s) : IsOpenAt s.listeners i := by
  rcases List.mem_filter.mp h with ⟨_, hopen⟩
  rcases Option.any_eq_true_iff_get .. |>.mp hopen with ⟨hsome, hl⟩
  exact ⟨_, (Option.some_get hsome).symm, hl⟩

/-- One case for each action. -/
theorem inv_step (hs : Inv s) (hin : InOrder s a) (h : step s a = some s') : Inv s' := by
  unfold step at h
  rw [if_neg (Bool.eq_false_iff.mp hs.panicked)] at h
  cases a with
  | listen =>
      dsimp only at h
      split_ifs at h with hlocked
      rw [← Option.some.inj h]
      -- A listener that is added has got nothing yet.
      refine inv_of_not_locked hs (Bool.eq_false_iff.mpr hlocked) rfl rfl fun l hl => ?_
      rcases List.mem_append.mp hl with hold | hnew
      · exact hs.listeners l hold
      · rw [List.mem_singleton.mp hnew]
        exact holds_newListener
  | write p order =>
      dsimp only at h
      split_ifs at h with hclosed horder
      · rw [← Option.some.inj h]
        exact hs
      · rw [← Option.some.inj h]
        refine ⟨hs.listeners, fun w c hc => ?_, hs.panicked⟩
        dsimp only at hc
        rw [List.getElem?_append] at hc
        split_ifs at hc with hlt
        · exact hs.calls w c hc
        · have hnew := List.mem_singleton.mp (List.mem_of_getElem? hc)
          rw [hnew]
          -- The call begins with the listeners that are open, in some order.
          exact fun i hi => isOpenAt_of_mem_openListeners (horder.mem_iff.mp hi)
  | send w =>
      dsimp only at h
      split at h
      · next p i todo broken hc =>
          -- The next listener of a call was not closed meanwhile.
          rcases hs.calls w _ hc i List.mem_cons_self with ⟨l, hi, hopen⟩
          rw [hi] at h
          dsimp only at h
          rw [if_pos hopen] at h
          split at h
          · next size hreader =>
              rw [← Option.some.inj h]
              exact inv_send hs hc hi hopen hreader
          · exact absurd h nofun
      · exact absurd h nofun
  | timeout w =>
      dsimp only at h
      split at h
      · next p i todo broken hc =>
          rw [← Option.some.inj h]
          exact inv_setCall hs fun j hj => hs.calls w _ hc j (List.mem_cons_of_mem i hj)
      · next p i todo broken hc =>
          rw [← Option.some.inj h]
          exact inv_setCall hs (hs.calls w _ hc).1
      · exact absurd h nofun
  | acknowledge w =>
      dsimp only at h
      split at h
      · next p i todo broken hc =>
          split at h
          · next l hi =>
              split at h
              · next w' read nd hreader =>
                  rw [← Option.some.inj h]
                  exact inv_acknowledge hs hc hi hreader
              · exact absurd h nofun
          · exact absurd h nofun
      · exact absurd h nofun
  | goOn w =>
      dsimp only at h
      split at h
      · next c hc => exact inv_goOn hs hc hin h
      · exact absurd h nofun
  | read i size =>
      dsimp only at h
      split at h
      · next l hi =>
          split at h
          · next hidle =>
              rw [← Option.some.inj h]
              exact inv_setListener hs hi (isOpen_read size) (fun _ => not_sent_of_idle hidle)
                (holds_read (hs.listeners l (List.mem_of_getElem? hi)) hidle (hin l hi) size)
          · exact absurd h nofun
      · exact absurd h nofun
  | readOn i =>
      dsimp only at h
      split at h
      · next l hi => exact inv_readOn hs hi h
      · exact absurd h nofun
  | closeListener i => exact inv_closeListener hs hin h
  | close =>
      dsimp only at h
      split_ifs at h with hlocked hclosed
      · rw [← Option.some.inj h]
        exact hs
      · rw [← Option.some.inj h]
        refine inv_of_not_locked hs (Bool.eq_false_iff.mpr hlocked) rfl rfl fun l hl => ?_
        rcases List.mem_map.mp hl with ⟨l0, hl0, rfl⟩
        exact holds_close (hs.listeners l0 hl0) (hin.resolve_left hclosed l0 hl0)

theorem sound_of_inv (hs : Inv s) : Sound s :=
  ⟨fun l hl => sound_of_holds (hs.listeners l hl), hs.panicked⟩

/-! ## What goes wrong -/

/-- A listener that is closed before it acknowledges what it was sent ends the program. -/
theorem panics_of_closed {read p : Bytes} {w' : Nat} (hs : s.panicked = false)
    (hi : s.listeners[i]? = some l) (hreader : l.reader = .acknowledging w' read p)
    (hclosed : l.isOpen = false) : step s (.readOn i) = some { s with panicked := true } := by
  unfold step
  rw [if_neg (Bool.eq_false_iff.mp hs)]
  dsimp only
  rw [hi]
  unfold readOn
  dsimp only
  rw [hreader]
  dsimp only
  rw [if_neg (Bool.eq_false_iff.mp hclosed)]

theorem quiet_of_sound_close (h : l.close.Sound) : l.Quiet :=
  fun w read p hreader => absurd (h.acknowledging w read p hreader) Bool.false_ne_true

theorem quietAt_of_sound (h : closeListener s i = some s') (hsound : Sound s') : QuietAt s i := by
  intro l hi
  unfold closeListener at h
  split_ifs at h
  rw [hi, Option.some.injEq] at h
  rw [← h] at hsound
  exact quiet_of_sound_close
    (hsound.listeners _ (List.mem_set (List.getElem?_eq_some_iff.mp hi).1 _))

/-- The remainder of a listener that has reached the end is lost. -/
theorem inOrder_of_sound_read {size : Nat} (hl : l.Holds) (hidle : l.reader = .idle)
    (hsound : (l.read size).Sound) : l.isOpen = true ∨ l.remainder = [] := by
  unfold Listener.Holds at hl
  rw [hidle] at hl
  unfold Listener.read at hsound
  split_ifs at hsound with hopen hremainder
  · exact .inl hopen
  · exact .inl hopen
  · have hended := hsound.ended rfl
    dsimp only at hended
    rw [hl.2, ← hl.1] at hended
    exact .inr (List.append_right_eq_self.mp hended.symm)

theorem inOrder_of_sound (hs : Inv s) (h : step s a = some s') (hsound : Sound s') :
    InOrder s a := by
  unfold step at h
  rw [if_neg (Bool.eq_false_iff.mp hs.panicked)] at h
  cases a with
  | listen => trivial
  | write p order => trivial
  | send w => trivial
  | timeout w => trivial
  | acknowledge w => trivial
  | readOn i => trivial
  | goOn w =>
      intro i broken hc
      dsimp only at h
      rw [hc] at h
      exact quietAt_of_sound (s := setCall s w (.closing broken)) h hsound
  | read i size =>
      intro l hi
      dsimp only at h
      rw [hi] at h
      dsimp only at h
      split at h
      · next hidle =>
          rw [← Option.some.inj h] at hsound
          exact inOrder_of_sound_read (hs.listeners l (List.mem_of_getElem? hi)) hidle
            (hsound.listeners _ (List.mem_set (List.getElem?_eq_some_iff.mp hi).1 _))
      · exact absurd h nofun
  | closeListener i => exact quietAt_of_sound h hsound
  | close =>
      dsimp only at h
      split_ifs at h with hlocked hclosed
      · exact .inl hclosed
      · rw [← Option.some.inj h] at hsound
        exact .inr fun l hl =>
          quiet_of_sound_close (hsound.listeners _ (List.mem_map_of_mem hl))

theorem inv_newBuild : Inv newBuild where
  listeners _ hmem := absurd hmem List.not_mem_nil
  calls _ _ h := absurd h nofun
  panicked := rfl

/-- The runs in which the listeners return all that they acknowledge, and nothing is sent on a
    closed channel, are those in which no listener is closed before it acknowledges what it was
    sent, and none is read from after it was closed with a remainder. A writer that waits in
    vain closes the listener, and it is this time-out that meets the listener half-way. -/
theorem sound_iff (as : List Action) :
    StepsAlong step (fun _ _ s' => Sound s') as newBuild ↔ MeetsAlong step InOrder as newBuild :=
  stepsAlong_iff_meetsAlong_while
    (fun _ _ _ hs h hsound => inv_step hs (inOrder_of_sound hs h hsound) h)
    (fun _ _ _ hs h =>
      ⟨inOrder_of_sound hs h, fun hin => sound_of_inv (inv_step hs hin h)⟩) as _ inv_newBuild

/-- The build is closed when the listener has read two of four bytes, and the next `Read` says
    that the log has ended. And a listener that was late to acknowledge is closed, and then
    sends. -/
theorem lost_remainder :
    (∃ t l, runActions step [.listen, .read 0 2, .write (some [97, 98, 99, 100]) [0], .send 0,
        .acknowledge 0, .goOn 0, .goOn 0, .close, .read 0 2] newBuild = some t ∧
      t.listeners[0]? = some l ∧ l.reader = .ended ∧ l.acknowledged = [[97, 98, 99, 100]] ∧
      l.returned = [97, 98]) ∧
    ∃ t, runActions step [.listen, .read 0 4, .write (some [97, 98]) [0], .send 0, .timeout 0,
        .goOn 0, .goOn 0, .readOn 0] newBuild = some t ∧ t.panicked = true :=
  ⟨⟨_, _, rfl, rfl, rfl, rfl, rfl⟩, _, rfl, rfl⟩

end LogListener

end ImageBuilder

end Nxpod
