import Nxpod.Library.Map
import Nxpod.Library.Transition

/-!
# Connection Pool

The pool of the connections to the nodes. `Get` looks for a connection under the read lock, looks
at its state without a lock, and where there is none that is alive goes on to `add`, which takes the
write lock. `Close` holds the write lock from the beginning to the end. So in between the steps of
a `Get` there is room for a whole `Close`.

What is done under a lock at once is one step. `Close` takes one step for each connection, since the
state of a connection is looked at without a lock.

A `Get` looks at the flag of a closed pool once, and `add` does not. So a `Get` that is called
after `Close` has returned is refused, in every run. But one that was called before may come to
`add` then, and it makes a connection that nobody closes.

## Main definitions

* `ClientConn`, `Call`, `Pool`: The connections, the calls of `Get` and the pool.
* `Phase`: Where a call of `Get` is.
* `Action`: What happens.
* `step`: What can happen.
* `Kept`: What is asked of a step.
* `Timely`: Where a step does that.
* `Effect`: What a step can do.
* `Booked`: A host has a connection to it, and every live connection is held.

## Theorems

* `effect_of_step`: What a step can do.
* `booked_step`, `booked_of_reaches`: Every live connection is held, in every run.
* `refused_of_get`: A closed pool refuses.
* `drained_step`: Closing.
* `kept_iff_timely`: One step.
* `kept_iff`: Every run.
-/

namespace Nxpod

namespace WsManager

namespace GrpcPool

open Transition

/-! ## The pool -/

/-- `ErrPoolClosed` -/
def errPoolClosed : String := "pool is closed"

/-- A connection that was made. -/
structure ClientConn where
  host : String
  shutdown : Bool

/-- Where a call of `Get` is. A connection is known by its place among all that were made. -/
inductive Phase
  /-- The read lock was given back. -/
  | looked (conn : Option Nat)
  | adding
  | returning (result : Except String Nat)
  | returned (result : Except String Nat)

/-- A call of `Get` that has not returned. -/
structure Call where
  host : String
  phase : Phase

/-- A call of `Close` that has the write lock. -/
structure Closing where
  hosts : List String
  errs : List String

/-- The pool, with what was made, the calls of `Get`, the call of `Close` and those that have
returned. -/
structure Pool where
  connections : Map String Nat
  closed : Bool
  made : List ClientConn
  calls : List Call
  closing : Option Closing
  closeReturned : List (Except String Unit)

/-- No connection, and nobody there. -/
def Pool.new : Pool := ⟨∅, false, [], [], none, []⟩

/-- `conn.GetState() == connectivity.Shutdown` -/
def isShutdown (made : List ClientConn) (conn : Nat) : Bool :=
  (made[conn]?.map ClientConn.shutdown).getD true

/-- A connection that is shut down is never alive again. -/
def shutdown (made : List ClientConn) (conn : Nat) : List ClientConn :=
  made.modify conn fun c => { c with shutdown := true }

/-- The part of `Get` under the read lock. -/
def look (p : Pool) (host : String) : Phase :=
  if p.closed then .returning (.error errPoolClosed) else .looked (p.connections.lookup host)

/-- The rest of `Get`, without `add`. -/
def inspect (p : Pool) (conn : Option Nat) : Phase :=
  match conn with
  | none => .adding
  | some conn => if isShutdown p.made conn then .adding else .returning (.ok conn)

/-- The call of the factory at the end of `add`. -/
def create (p : Pool) (host : String) (factory : Except String Unit) :
    Pool × Except String Nat :=
  match factory with
  | .error err => (p, .error err)
  | .ok () =>
      let conn := p.made.length
      ({ p with
          made := p.made ++ [⟨host, false⟩]
          connections := p.connections.insert host conn }, .ok conn)

/-- Under the write lock the map is looked at once more, but the flag is not. -/
def add (p : Pool) (host : String) (factory : Except String Unit) : Pool × Except String Nat :=
  match p.connections.lookup host with
  | some conn => if isShutdown p.made conn then create p host factory else (p, .ok conn)
  | none => create p host factory

/-- What `Close` returns. -/
def closeResult (errs : List String) : Except String Unit :=
  if errs.length ≠ 0 then .error ("pool close: " ++ "; ".intercalate errs) else .ok ()

/-- What happens. The result of the factory is given with `add`. -/
inductive Action
  | get (host : String)
  | inspect (call : Nat)
  | add (call : Nat) (factory : Except String Unit)
  | ret (call : Nat)
  | shutdown (conn : Nat)
  | close
  | closeNext (host : String)
  | closeReturn

/-- A call goes on. -/
def Pool.proceed (p : Pool) (call : Nat) (host : String) (phase : Phase) : Pool :=
  { p with calls := p.calls.set call ⟨host, phase⟩ }

/-- A connection that is closed again says `errClosing`. -/
def step (errClosing : String) (p : Pool) : Action → Option Pool
  | .get host =>
      if p.closing.isSome then none
      else some { p with calls := p.calls ++ [⟨host, look p host⟩] }
  | .inspect call =>
      match p.calls[call]? with
      | some ⟨host, .looked conn⟩ => some (p.proceed call host (inspect p conn))
      | _ => none
  | .add call factory =>
      if p.closing.isSome then none
      else match p.calls[call]? with
        | some ⟨host, .adding⟩ =>
            some ((add p host factory).1.proceed call host (.returning (add p host factory).2))
        | _ => none
  | .ret call =>
      match p.calls[call]? with
      | some ⟨host, .returning result⟩ => some (p.proceed call host (.returned result))
      | _ => none
  | .shutdown conn =>
      if conn < p.made.length then some { p with made := shutdown p.made conn } else none
  | .close =>
      if p.closing.isSome then none
      else some { p with closed := true, closing := some ⟨p.connections.keys, []⟩ }
  | .closeNext host =>
      match p.closing, p.connections.lookup host with
      | some ⟨hosts, errs⟩, some conn =>
          if host ∈ hosts then
            some { p with
              made := shutdown p.made conn
              closing := some ⟨hosts.erase host,
                if isShutdown p.made conn then errs ++ [errClosing] else errs⟩ }
          else none
      | _, _ => none
  | .closeReturn =>
      match p.closing with
      | some ⟨[], errs⟩ =>
          some { p with
            closing := none
            closeReturned := p.closeReturned ++ [closeResult errs] }
      | _ => none

/-! ## What is asked -/

/-- A connection to a host that is not shut down. -/
def Pool.Live (p : Pool) (conn : Nat) (host : String) : Prop :=
  p.made[conn]? = some ⟨host, false⟩

/-- What a step has to achieve. -/
structure Kept (p : Pool) (a : Action) (p' : Pool) : Prop where
  one_live : ∀ host conn conn', p'.Live conn host → p'.Live conn' host → conn = conn'
  held : ∀ conn host, p'.Live conn host → p'.connections.lookup host = some conn
  /-- When `Close` has returned. -/
  not_created : p.closeReturned ≠ [] → ∀ conn host, p'.Live conn host → p.Live conn host
  not_returned : p.closeReturned ≠ [] → ∀ call host conn, a = .ret call →
    p.calls[call]? = some ⟨host, .returning (.ok conn)⟩ → ∀ host', ¬p'.Live conn host'
  /-- A `Get` that is called then looks for nothing. -/
  refused : p.closeReturned ≠ [] → ∀ host, a = .get host →
    p'.calls = p.calls ++ [⟨host, .returning (.error errPoolClosed)⟩]

/-- The condition on a step: no call comes to a factory that succeeds when `Close` has returned. -/
def Timely (p : Pool) : Action → Prop
  | .add _ (.ok ()) => p.closeReturned = []
  | _ => True

/-! ## Steps -/

variable {errClosing : String} {p p' : Pool} {a : Action} {conn conn' : Nat}
  {host host' : String}

/-- What a step can do. -/
inductive Effect (p : Pool) : Action → Pool → Prop
  | proceeded (a : Action) (calls : List Call) : Effect p a { p with calls := calls }
  | created (call : Nat) (host : String) (calls : List Call) (hlock : p.closing = none)
      (hdead : ∀ conn, p.connections.lookup host = some conn → isShutdown p.made conn = true) :
      Effect p (.add call (.ok ())) { p with
        made := p.made ++ [⟨host, false⟩]
        connections := p.connections.insert host p.made.length
        calls := calls }
  | shut (conn : Nat) : Effect p (.shutdown conn) { p with made := shutdown p.made conn }
  | closes : Effect p .close
      { p with closed := true, closing := some ⟨p.connections.keys, []⟩ }
  | closedNext (host : String) (conn : Nat) (hosts : List String) (errs errs' : List String)
      (hclosing : p.closing = some ⟨hosts, errs⟩)
      (hconn : p.connections.lookup host = some conn) :
      Effect p (.closeNext host) { p with
        made := shutdown p.made conn
        closing := some ⟨hosts.erase host, errs'⟩ }
  | closed (errs : List String) (hclosing : p.closing = some ⟨[], errs⟩) :
      Effect p .closeReturn { p with
        closing := none
        closeReturned := p.closeReturned ++ [closeResult errs] }

theorem effect_of_add (call : Nat) (factory : Except String Unit) (hlock : p.closing = none) :
    Effect p (.add call factory)
      ((add p host factory).1.proceed call host (.returning (add p host factory).2)) := by
  have hcreate : (∀ conn, p.connections.lookup host = some conn → isShutdown p.made conn = true) →
      Effect p (.add call factory)
        ((create p host factory).1.proceed call host (.returning (create p host factory).2)) := by
    intro hdead
    cases factory with
    | error err => exact .proceeded _ _
    | ok u => exact .created call host _ hlock hdead
  rw [add]
  split
  · next conn hconn =>
      split_ifs with hshut
      · refine hcreate fun conn' hconn' => ?_
        rw [← Option.some_inj.mp (hconn.symm.trans hconn')]
        exact hshut
      · exact .proceeded _ _
  · next hnone => exact hcreate fun conn hconn => nomatch hnone.symm.trans hconn

/-- All that a step can do. -/
theorem effect_of_step (h : step errClosing p a = some p') : Effect p a p' := by
  cases a with
  | get host =>
      rw [step] at h
      split at h
      · -- `Close` has the lock, and the call has to wait.
        exact nomatch h
      · rw [← Option.some_inj.mp h]
        exact .proceeded _ _
  | inspect call =>
      rw [step] at h
      split at h
      · rw [← Option.some_inj.mp h]
        exact .proceeded _ _
      · exact nomatch h
  | add call factory =>
      rw [step] at h
      split at h
      · exact nomatch h
      · next hlock =>
          split at h
          · rw [← Option.some_inj.mp h]
            exact effect_of_add call factory (Option.not_isSome_iff_eq_none.mp hlock)
          · exact nomatch h
  | ret call =>
      rw [step] at h
      split at h
      · rw [← Option.some_inj.mp h]
        exact .proceeded _ _
      · exact nomatch h
  | shutdown conn =>
      rw [step] at h
      split at h
      · rw [← Option.some_inj.mp h]
        exact .shut conn
      · exact nomatch h
  | close =>
      rw [step] at h
      split at h
      · exact nomatch h
      · rw [← Option.some_inj.mp h]
        exact .closes
  | closeNext host =>
      rw [step] at h
      split at h
      · -- The connections are closed one at a time, in any order.
        next hosts errs conn hclosing hconn =>
          split at h
          · rw [← Option.some_inj.mp h]
            exact .closedNext host conn hosts errs _ hclosing hconn
          · exact nomatch h
      · exact nomatch h
  | closeReturn =>
      rw [step] at h
      split at h
      · next errs hclosing =>
          rw [← Option.some_inj.mp h]
          exact .closed errs hclosing
      · exact nomatch h

/-- Shutting down one connection leaves the others as they are. -/
theorem live_shutdown {made : List ClientConn}
    (h : (shutdown made conn)[conn']? = some ⟨host, false⟩) :
    conn' ≠ conn ∧ made[conn']? = some ⟨host, false⟩ := by
  rw [shutdown, List.getElem?_modify] at h
  split_ifs at h with heq
  · rcases Option.map_eq_some_iff.mp h with ⟨c, -, hc⟩
    exact nomatch congrArg ClientConn.shutdown hc
  · rw [id_map'] at h
    exact ⟨fun h => heq h.symm, h⟩

theorem live_append {made : List ClientConn}
    (h : (made ++ [⟨host, false⟩])[conn]? = some ⟨host', false⟩) :
    made[conn]? = some ⟨host', false⟩ ∨ conn = made.length ∧ host' = host := by
  rw [List.getElem?_append] at h
  split_ifs at h with hlt
  · exact Or.inl h
  · rcases List.getElem?_eq_some_iff.mp h with ⟨hlast, heq⟩
    rw [List.length_singleton] at hlast
    rw [List.getElem_singleton, ClientConn.mk.injEq] at heq
    exact Or.inr ⟨by omega, heq.1.symm⟩

/-! ## What is held -/

/-- A host has a connection to it, and every live connection is held. -/
structure Booked (p : Pool) : Prop where
  hosts : ∀ host conn, p.connections.lookup host = some conn →
    ∃ shut, p.made[conn]? = some ⟨host, shut⟩
  held : ∀ conn host, p.Live conn host → p.connections.lookup host = some conn

/-- Where what is found for a host is shut down no connection to the host is alive. -/
theorem Booked.not_live (h : Booked p)
    (hdead : ∀ conn, p.connections.lookup host = some conn → isShutdown p.made conn = true)
    (conn : Nat) : ¬p.Live conn host := by
  intro hlive
  have hshut := hdead conn (h.held conn host hlive)
  rw [isShutdown, hlive] at hshut
  exact nomatch hshut

/-- What is alive is registered, and for a host one is. -/
theorem Booked.one_live (h : Booked p) (hconn : p.Live conn host) (hconn' : p.Live conn' host) :
    conn = conn' :=
  Option.some_inj.mp ((h.held conn host hconn).symm.trans (h.held conn' host hconn'))

theorem booked_shutdown (h : Booked p) (conn : Nat) :
    Booked { p with made := shutdown p.made conn } := by
  refine ⟨fun host conn' hconn' => ?_, fun conn' host hlive => h.held conn' host
    (live_shutdown hlive).2⟩
  rcases h.hosts host conn' hconn' with ⟨shut, hmade⟩
  change ∃ shut, (shutdown p.made conn)[conn']? = _
  rw [shutdown, List.getElem?_modify, hmade]
  split_ifs
  · exact ⟨true, rfl⟩
  · exact ⟨shut, rfl⟩

/-- A connection is only made where the registered one is not alive. -/
theorem booked_step (h : Booked p) (hstep : step errClosing p a = some p') : Booked p' := by
  cases effect_of_step hstep with
  | proceeded a calls => exact ⟨h.hosts, h.held⟩
  | created call host calls hlock hdead =>
      constructor
      · intro host' conn' hconn'
        rw [Map.lookup_insert_eq_ite] at hconn'
        split_ifs at hconn' with heq
        · rw [← Option.some_inj.mp hconn', heq]
          exact ⟨false, List.getElem?_concat_length⟩
        · rcases h.hosts host' conn' hconn' with ⟨shut, hmade⟩
          have hlt := (List.getElem?_eq_some_iff.mp hmade).1
          exact ⟨shut, (List.getElem?_append_left hlt).trans hmade⟩
      · intro conn' host' hlive
        rw [Map.lookup_insert_eq_ite]
        rcases live_append hlive with hold | ⟨rfl, rfl⟩
        · rw [if_neg, h.held conn' host' hold]
          rintro rfl
          exact h.not_live hdead conn' hold
        · rw [if_pos rfl]
  | shut conn => exact booked_shutdown h conn
  | closes => exact ⟨h.hosts, h.held⟩
  | closedNext host conn hosts errs errs' hclosing hconn =>
      have hshut := booked_shutdown h conn
      exact ⟨hshut.hosts, hshut.held⟩
  | closed errs hclosing => exact ⟨h.hosts, h.held⟩

theorem booked_new : Booked Pool.new :=
  ⟨fun _ _ hlookup => (nomatch hlookup), fun _ _ hlive => (nomatch hlive)⟩

/-- In every run the pool holds every live connection, one for each host at most. -/
theorem booked_of_reaches (h : ReachesWithin (step errClosing) (fun _ _ => True) Pool.new p) :
    Booked p :=
  invariant_of_reachesWithin (fun _ _ _ _ hbooked _ hstep => booked_step hbooked hstep) h
    booked_new

/-! ## Closing -/

/-- Where all steps are timely: while a pool is closed what is alive is still to be closed, and
after that nothing is alive. The flag is set all the time. -/
structure Drained (p : Pool) : Prop where
  flag : p.closing.isSome = true ∨ p.closeReturned ≠ [] → p.closed = true
  closing : ∀ c, p.closing = some c → ∀ conn host, p.Live conn host → host ∈ c.hosts
  closed : p.closeReturned ≠ [] → ∀ conn host, ¬p.Live conn host

/-- This is where the step has to be timely. -/
theorem drained_step (hbooked : Booked p) (h : Drained p) (htimely : Timely p a)
    (hstep : step errClosing p a = some p') : Drained p' := by
  cases effect_of_step hstep with
  | proceeded a calls => exact ⟨h.flag, h.closing, h.closed⟩
  | created call host calls hlock hdead =>
      -- the lock is free, and the step is taken before `Close` has returned
      exact ⟨h.flag, fun c hc => (nomatch hlock.symm.trans hc), fun hne => absurd htimely hne⟩
  | shut conn =>
      exact ⟨h.flag, fun c hc conn' host hlive => h.closing c hc conn' host (live_shutdown hlive).2,
        fun hne conn' host hlive => h.closed hne conn' host (live_shutdown hlive).2⟩
  | closes =>
      -- what is alive is held, so it is found when the pool is gone through
      refine ⟨fun _ => rfl, fun c hc conn host hlive => ?_, h.closed⟩
      rw [← Option.some_inj.mp hc]
      refine (Map.mem_keys_iff p.connections host).mpr fun hnone => ?_
      exact nomatch hnone.symm.trans (hbooked.held conn host hlive)
  | closedNext host conn hosts errs errs' hclosing hconn =>
      refine ⟨fun _ => h.flag (Or.inl (hclosing ▸ rfl)), fun c hc conn' host' hlive => ?_,
        fun hne conn' host' hlive => h.closed hne conn' host' (live_shutdown hlive).2⟩
      rcases live_shutdown hlive with ⟨hother, hold⟩
      rw [← Option.some_inj.mp hc]
      -- a connection to the same host would be the one that was just shut down
      refine (List.mem_erase_of_ne ?_).mpr (h.closing _ hclosing conn' host' hold)
      rintro rfl
      exact hother (Option.some_inj.mp ((hbooked.held conn' host' hold).symm.trans hconn))
  | closed errs hclosing =>
      exact ⟨fun _ => h.flag (Or.inl (hclosing ▸ rfl)), fun c hc => (nomatch hc),
        fun _ conn host hlive => List.not_mem_nil (h.closing _ hclosing conn host hlive)⟩

/-- A `Get` that finds the flag set returns nothing but the error. -/
theorem refused_of_get (h : p.closed = true) (hstep : step errClosing p (.get host) = some p') :
    p'.calls = p.calls ++ [⟨host, .returning (.error errPoolClosed)⟩] := by
  rw [step] at hstep
  split at hstep
  · exact nomatch hstep
  · rw [← Option.some_inj.mp hstep, look, if_pos h]

theorem closeReturned_step (hstep : step errClosing p a = some p') (h : p.closeReturned ≠ []) :
    p'.closeReturned ≠ [] := by
  cases effect_of_step hstep with
  | closed errs hclosing => exact List.append_ne_nil_of_left_ne_nil h _
  | _ => exact h

/-- Where nothing is alive, a call that comes to a factory that succeeds makes what is. -/
theorem created_of_add {call : Nat} (hbooked : Booked p) (hnone : ∀ conn host, ¬p.Live conn host)
    (hstep : step errClosing p (.add call (.ok ())) = some p') :
    ∃ conn host, p'.Live conn host := by
  rw [step] at hstep
  split at hstep
  · exact nomatch hstep
  · split at hstep
    · next host _ =>
        have hcreate : (add p host (.ok ())).1 = (create p host (.ok ())).1 := by
          rw [add]
          split
          · next conn hconn =>
              rcases hbooked.hosts host conn hconn with ⟨shut, hmade⟩
              cases shut with
              | false => exact absurd hmade (hnone conn host)
              | true => rw [isShutdown, hmade]; rfl
          · rfl
        rw [← Option.some_inj.mp hstep, hcreate]
        exact ⟨p.made.length, host, List.getElem?_concat_length⟩
    · exact nomatch hstep

/-- A step does what is asked exactly when it is timely. -/
theorem kept_iff_timely (hbooked : Booked p) (h : Drained p)
    (hstep : step errClosing p a = some p') : Kept p a p' ↔ Timely p a := by
  constructor
  · intro hkept
    cases a with
    | add call factory =>
        cases factory with
        | error err => trivial
        | ok u =>
            by_contra hne
            rcases created_of_add hbooked (h.closed hne) hstep with ⟨conn, host, hlive⟩
            exact h.closed hne conn host (hkept.not_created hne conn host hlive)
    | _ => trivial
  · intro htimely
    have hbooked' := booked_step hbooked hstep
    have hdrained' := drained_step hbooked h htimely hstep
    exact ⟨fun _ _ _ => hbooked'.one_live, hbooked'.held,
      fun hne conn host hlive =>
        absurd hlive (hdrained'.closed (closeReturned_step hstep hne) conn host),
      fun hne _ _ conn _ _ host' => hdrained'.closed (closeReturned_step hstep hne) conn host',
      fun hne host ha => refused_of_get (h.flag (Or.inr hne)) (ha ▸ hstep)⟩

theorem drained_new : Drained Pool.new :=
  ⟨fun h => h.elim (nomatch ·) (absurd rfl ·), fun _ hclosing => (nomatch hclosing),
    fun hne => absurd rfl hne⟩

/-- In every run all steps do what is asked exactly when all of them are timely. There is one
    connection a host at most, all of them are known to the pool, and none is handed out once it
    is closed. The check that it is open is made before the lock is taken to add, so between the
    two the pool may close. -/
theorem kept_iff (errClosing : String) (acts : List Action) :
    StepsAlong (step errClosing) Kept acts Pool.new ↔
      MeetsAlong (step errClosing) Timely acts Pool.new := by
  have hinv : ∀ p a p', Booked p ∧ Drained p → step errClosing p a = some p' → Kept p a p' →
      Booked p' ∧ Drained p' := by
    rintro p a p' ⟨hbooked, hdrained⟩ hstep hkept
    have htimely := (kept_iff_timely hbooked hdrained hstep).mp hkept
    exact ⟨booked_step hbooked hstep, drained_step hbooked hdrained htimely hstep⟩
  exact stepsAlong_iff_meetsAlong_while hinv
    (fun p a p' h hstep => kept_iff_timely h.1 h.2 hstep) acts Pool.new ⟨booked_new, drained_new⟩

/-- A call of `Get` that started before `Close` makes a connection after it. -/
theorem created_after_close :
    ¬StepsAlong (step "grpc: the client connection is closing") Kept
      [.get "node", .inspect 0, .close, .closeReturn, .add 0 (.ok ())] Pool.new := by
  rintro ⟨-, -, -, -, hkept, -⟩
  exact nomatch hkept.not_created nofun 0 "node" rfl

end GrpcPool

end WsManager

end Nxpod
