import Nxpod.Library.Transition

/-!
# The Life of a Workspace in `ws-sync`

A workspace is initialized, becomes ready, and is disposed of. Requests that
come in meanwhile wait for it: `WaitForInit` until it is initialized, and
`WaitOrMarkForDisposal` until it is disposed of, both at one condition
variable.

Any number of calls is in progress at a time, each somewhere in the body of its
function. The state is read and written under one lock and the condition has a
lock of its own. What a caller does under the lock of the state is one step,
with the broadcast in it where there is one: nobody else reads the state
meanwhile, and who is woken waits for the other lock. A caller is registered
with the condition when it begins to wait and not before.

Persisting the workspace, removing its file and running its hooks can fail.

## Main definitions

* `WorkspaceState`, `Caller`, `Workspace`: The state, the calls in progress.
* `MarkInitDone`: Where a call of `MarkInitDone` is: what it has done last, or
  how it has returned.
* `Dispose`: Where a call of `Dispose` is.
* `waitForInit`, `markInitDone`, `waitOrMarkForDisposal`, `dispose`: One step
  of a call.
* `Action`, `step`: A call comes in, or one goes on.
* `Turn`: What one step of a call can do.
* `LockHeld`: Who has the lock of the condition is a call that can go on.

## Theorems

* `turn_of_step`: What a step can do.
* `lockHeld_step`: The lock of the condition stays with such a call.
* `blocked_reaches`: A caller is blocked for good only where it waits.
-/

namespace Nxpod

namespace WsSync

open Transition

/-- The states in the order in which a workspace is meant to go through them. -/
inductive WorkspaceState
  | initializing
  | ready
  | disposing
  | disposed
  deriving DecidableEq

/-- Where a call of `WaitForInit` is. It is `checked` when it has seen that the
    workspace is initializing, `locked` and `resumed` while it has the lock of
    the condition. -/
inductive WaitForInit
  | start
  | checked
  | locked
  | waiting
  | notified
  | resumed
  | returned (ready : Bool)
  deriving DecidableEq

/-- Where a call of `MarkInitDone` is: what it has done last, or how it has
    returned. -/
inductive MarkInitDone
  | start
  | persisted
  | marked
  | hooksRun
  | returned (ok : Bool)
  deriving DecidableEq

/-- Where a call of `WaitOrMarkForDisposal` is. It marks the workspace and
    persists it, or it waits with the lock of the condition in between. -/
inductive WaitOrMarkForDisposal
  | start
  | marked
  | persisted
  | checked
  | locked
  | waiting
  | notified
  | resumed
  | returned (done : Bool) (ok : Bool)
  deriving DecidableEq

/-- Where a call of `Dispose` is. The file goes before the state does. -/
inductive Dispose
  | start
  | removed
  | marked
  | hooksRun
  | returned (ok : Bool)
  deriving DecidableEq

/-- A call in progress, or one that has returned. -/
inductive Caller
  | waitForInit (pc : WaitForInit)
  | markInitDone (pc : MarkInitDone)
  | waitOrMarkForDisposal (pc : WaitOrMarkForDisposal)
  | dispose (pc : Dispose)
  deriving DecidableEq

/-- A workspace with its callers. `conditionHolder` is who has the lock of the
    operating condition, and `everReady` says whether the workspace has been
    ready. -/
structure Workspace where
  state : WorkspaceState
  everReady : Bool
  conditionHolder : Option Nat
  callers : List Caller

/-- A workspace that is new, or was loaded from disk. -/
def newWorkspace (state : WorkspaceState) : Workspace where
  state := state
  everReady := state = .ready
  conditionHolder := none
  callers := []

namespace Workspace

variable (s : Workspace)

/-- The state is written, and that the workspace was ever ready is kept. -/
def setState (state : WorkspaceState) : Workspace :=
  { s with state := state, everReady := s.everReady || state = .ready }

/-- The lock of the condition, if nobody has it. -/
def lock (i : Nat) : Option Workspace :=
  if s.conditionHolder = none then some { s with conditionHolder := some i } else none

/-- It is given back, by whoever has it. -/
def unlock : Workspace :=
  { s with conditionHolder := none }

end Workspace

/-- What a broadcast does to a caller. -/
def Caller.wake : Caller → Caller
  | .waitForInit .waiting => .waitForInit .notified
  | .waitOrMarkForDisposal .waiting => .waitOrMarkForDisposal .notified
  | caller => caller

/-- Everyone who waits is woken. Who is only about to wait is not. -/
def Workspace.broadcast (s : Workspace) : Workspace :=
  { s with callers := s.callers.map Caller.wake }

/-- A step of `WaitForInit`, from where the caller is to where he is next. -/
def waitForInit (s : Workspace) (i : Nat) : WaitForInit → Option (Workspace × WaitForInit)
  | .start => some (s,
      if s.state = .ready then .returned true
      else if s.state ≠ .initializing then .returned false
      else .checked)
  | .checked => (s.lock i).map fun s' => (s', .locked)
  | .locked => some (s.unlock, .waiting)
  | .waiting => none
  | .notified => (s.lock i).map fun s' => (s', .resumed)
  -- the state is not looked at again
  | .resumed => some (s.unlock, .returned true)
  | .returned _ => none

/-- A step of `MarkInitDone`. It ends where something fails. -/
def markInitDone (s : Workspace) (ok : Bool) : MarkInitDone → Option (Workspace × MarkInitDone)
  | .start => some (s, if ok then .persisted else .returned false)
  -- also when the workspace is being disposed of meanwhile
  | .persisted => some ((s.setState .ready).broadcast, .marked)
  | .marked => some (s, if ok then .hooksRun else .returned false)
  | .hooksRun => some (s, .returned ok)
  | .returned _ => none

/-- A step of `WaitOrMarkForDisposal`. Looking at the state and marking it is
    one step, under the lock of the state. -/
def waitOrMarkForDisposal (s : Workspace) (i : Nat) (ok : Bool) :
    WaitOrMarkForDisposal → Option (Workspace × WaitOrMarkForDisposal)
  | .start =>
      if s.state = .disposed then some (s, .returned true true)
      -- nobody who waits for the initialization is woken up
      else if s.state ≠ .disposing then some (s.setState .disposing, .marked)
      else some (s, .checked)
  | .marked => some (s, if ok then .persisted else .returned false false)
  | .persisted => some (s, .returned false ok)
  | .checked => (s.lock i).map fun s' => (s', .locked)
  | .locked => some (s.unlock, .waiting)
  | .waiting => none
  | .notified => (s.lock i).map fun s' => (s', .resumed)
  | .resumed => some (s.unlock, .returned true true)
  | .returned _ _ => none

/-- A step of `Dispose`, which broadcasts once the state is written. -/
def dispose (s : Workspace) (ok : Bool) : Dispose → Option (Workspace × Dispose)
  | .start => some (s, if ok then .removed else .returned false)
  | .removed => some ((s.setState .disposed).broadcast, .marked)
  | .marked => some (s, if ok then .hooksRun else .returned false)
  | .hooksRun => some (s, .returned ok)
  | .returned _ => none

/-- Someone calls, or someone who has called goes on. -/
inductive Action
  | call (caller : Caller)
  | run (i : Nat) (ok : Bool)

/-- A call that has just come in. -/
def Caller.isNew : Caller → Bool
  | .waitForInit .start => true
  | .markInitDone .start => true
  | .waitOrMarkForDisposal .start => true
  | .dispose .start => true
  | _ => false

/-- One step of a call. -/
def runCaller (s : Workspace) (i : Nat) (ok : Bool) : Caller → Option (Workspace × Caller)
  | .waitForInit pc => (waitForInit s i pc).map (Prod.map id Caller.waitForInit)
  | .markInitDone pc => (markInitDone s ok pc).map (Prod.map id Caller.markInitDone)
  | .waitOrMarkForDisposal pc =>
      (waitOrMarkForDisposal s i ok pc).map (Prod.map id Caller.waitOrMarkForDisposal)
  | .dispose pc => (dispose s ok pc).map (Prod.map id Caller.dispose)

/-- A step of the caller that is named. What can fail does so as the action
    says. -/
def step (s : Workspace) : Action → Option Workspace
  | .call caller => if caller.isNew then some { s with callers := s.callers ++ [caller] } else none
  | .run i ok => match s.callers[i]? with
    | none => none
    | some caller => (runCaller s i ok caller).map fun (s', caller') =>
        { s' with callers := s'.callers.set i caller' }

/-! ## What a step can do -/

/-- The call will broadcast unless it fails before. -/
def Caller.mayBroadcast : Caller → Bool
  | .markInitDone .start | .markInitDone .persisted | .dispose .start | .dispose .removed => true
  | _ => false

/-- The call is one of `WaitForInit` that has been woken up, or has said that the
    workspace is ready. -/
def Caller.isWoken : Caller → Bool
  | .waitForInit .notified | .waitForInit .resumed | .waitForInit (.returned true) => true
  | _ => false

/-- What one step of a call can do to the workspace and to the call. Most leave
    the state alone, wake nobody up and give up no broadcast but by failing. -/
inductive Turn (s : Workspace) (ok : Bool) : Caller → Caller → Workspace → Prop
  | quiet (t t' : Caller) (s' : Workspace) (hstate : s'.state = s.state)
      (hever : s'.everReady = s.everReady) (hcallers : s'.callers = s.callers)
      (hwoken : t'.isWoken = true → t.isWoken = true ∨ s.state = .ready)
      (hwaits : t' = .waitForInit .waiting → t = .waitForInit .locked)
      (hpending : t.mayBroadcast = true → t'.mayBroadcast = true ∨
        ok = false ∧ (t = .markInitDone .start ∨ t = .dispose .start)) : Turn s ok t t' s'
  | markDisposing :
      Turn s ok (.waitOrMarkForDisposal .start) (.waitOrMarkForDisposal .marked)
        (s.setState .disposing)
  | becomeReady :
      Turn s ok (.markInitDone .persisted) (.markInitDone .marked) (s.setState .ready).broadcast
  | becomeDisposed :
      Turn s ok (.dispose .removed) (.dispose .marked) (s.setState .disposed).broadcast

variable {s s' : Workspace} {i : Nat} {ok : Bool} {t t' : Caller}

/-- A turn that leaves all but the lock as it is, of a call that neither is
    woken up nor gives up a broadcast. -/
theorem turn_of_same (s' : Workspace) (hstate : s'.state = s.state)
    (hever : s'.everReady = s.everReady) (hcallers : s'.callers = s.callers)
    (hwoken : t'.isWoken = true → t.isWoken = true) (hwaits : t' ≠ .waitForInit .waiting)
    (hpending : t.mayBroadcast = true → t'.mayBroadcast = true) : Turn s ok t t' s' :=
  .quiet t t' s' hstate hever hcallers (fun h => Or.inl (hwoken h)) (fun h => absurd h hwaits)
    (fun h => Or.inl (hpending h))

/-- Taking the lock of the condition changes nothing else. -/
theorem eq_of_lock (h : s.lock i = some s') :
    s'.state = s.state ∧ s'.everReady = s.everReady ∧ s'.callers = s.callers := by
  rw [Workspace.lock, Option.ite_none_right_eq_some] at h
  rw [← Option.some.inj h.2]
  exact ⟨rfl, rfl, rfl⟩

/-- One lemma for each of the four functions: what a step of it does, to the
    workspace and to whoever takes it. -/
theorem turn_of_waitForInit {pc pc' : WaitForInit} (h : waitForInit s i pc = some (s', pc')) :
    Turn s ok (.waitForInit pc) (.waitForInit pc') s' := by
  cases pc with
  | start =>
      simp only [waitForInit, Option.some.injEq, Prod.mk.injEq] at h
      rcases h with ⟨rfl, rfl⟩
      split_ifs with hready
      · exact .quiet _ _ _ rfl rfl rfl (fun _ => Or.inr hready)
          (by simp only [Caller.waitForInit.injEq, reduceCtorEq, false_implies])
          (by simp only [Caller.mayBroadcast, Bool.false_eq_true, false_implies])
      · exact turn_of_same s rfl rfl rfl (by decide) (by decide) (by decide)
      · exact turn_of_same s rfl rfl rfl (by decide) (by decide) (by decide)
  -- Here the lock is taken.
  | checked | notified =>
      rcases Option.map_eq_some_iff.mp h with ⟨s'', hlock, heq⟩
      rw [Prod.mk.injEq] at heq
      rcases heq with ⟨rfl, rfl⟩
      rcases eq_of_lock hlock with ⟨hstate, hever, hcallers⟩
      exact turn_of_same _ hstate hever hcallers (by decide) (by decide) (by decide)
  | locked =>
      simp only [waitForInit, Option.some.injEq, Prod.mk.injEq] at h
      rcases h with ⟨rfl, rfl⟩
      exact .quiet _ _ _ rfl rfl rfl
        (by simp only [Caller.isWoken, Bool.false_eq_true, false_implies]) (fun _ => rfl)
        (by simp only [Caller.mayBroadcast, Bool.false_eq_true, false_implies])
  | resumed =>
      simp only [waitForInit, Option.some.injEq, Prod.mk.injEq] at h
      rcases h with ⟨rfl, rfl⟩
      exact turn_of_same _ rfl rfl rfl (by decide) (by decide) (by decide)
  | waiting | returned => exact absurd h (by simp only [waitForInit, reduceCtorEq,
      not_false_eq_true])

theorem turn_of_markInitDone {pc pc' : MarkInitDone} (h : markInitDone s ok pc = some (s', pc')) :
    Turn s ok (.markInitDone pc) (.markInitDone pc') s' := by
  cases pc with
  | start =>
      simp only [markInitDone, Option.some.injEq, Prod.mk.injEq] at h
      rcases h with ⟨rfl, rfl⟩
      cases ok with
      | true => exact turn_of_same s rfl rfl rfl (by decide) (by decide) (by decide)
      | false =>
          exact .quiet _ _ _ rfl rfl rfl (fun hw => absurd hw (by decide))
            (fun hw => absurd hw (by decide)) (fun _ => Or.inr ⟨rfl, Or.inl rfl⟩)
  | persisted =>
      simp only [markInitDone, Option.some.injEq, Prod.mk.injEq] at h
      rcases h with ⟨rfl, rfl⟩
      exact .becomeReady
  | marked | hooksRun =>
      simp only [markInitDone, Option.some.injEq, Prod.mk.injEq] at h
      rcases h with ⟨rfl, rfl⟩
      cases ok <;> exact turn_of_same s rfl rfl rfl (by decide) (by decide) (by decide)
  | returned => exact absurd h (by simp only [markInitDone, reduceCtorEq, not_false_eq_true])

theorem turn_of_dispose {pc pc' : Dispose} (h : dispose s ok pc = some (s', pc')) :
    Turn s ok (.dispose pc) (.dispose pc') s' := by
  cases pc with
  | start =>
      simp only [dispose, Option.some.injEq, Prod.mk.injEq] at h
      rcases h with ⟨rfl, rfl⟩
      cases ok with
      | true => exact turn_of_same s rfl rfl rfl (by decide) (by decide) (by decide)
      | false =>
          exact .quiet _ _ _ rfl rfl rfl (fun hw => absurd hw (by decide))
            (fun hw => absurd hw (by decide)) (fun _ => Or.inr ⟨rfl, Or.inr rfl⟩)
  | removed =>
      simp only [dispose, Option.some.injEq, Prod.mk.injEq] at h
      rcases h with ⟨rfl, rfl⟩
      exact .becomeDisposed
  | marked | hooksRun =>
      simp only [dispose, Option.some.injEq, Prod.mk.injEq] at h
      rcases h with ⟨rfl, rfl⟩
      cases ok <;> exact turn_of_same s rfl rfl rfl (by decide) (by decide) (by decide)
  | returned => exact absurd h (by simp only [dispose, reduceCtorEq, not_false_eq_true])

/-- No call of `WaitOrMarkForDisposal` is one that waits for the workspace to be
    initialized, or is going to broadcast. -/
theorem turn_of_waitOrMarkForDisposal {pc pc' : WaitOrMarkForDisposal}
    (h : waitOrMarkForDisposal s i ok pc = some (s', pc')) :
    Turn s ok (.waitOrMarkForDisposal pc) (.waitOrMarkForDisposal pc') s' := by
  have hsame : s'.state = s.state → s'.everReady = s.everReady → s'.callers = s.callers →
      Turn s ok (.waitOrMarkForDisposal pc) (.waitOrMarkForDisposal pc') s' :=
    fun hstate hever hcallers => turn_of_same s' hstate hever hcallers
      (fun hw => absurd hw (by simp only [Caller.isWoken, Bool.false_eq_true, not_false_eq_true]))
      (by simp only [ne_eq, reduceCtorEq, not_false_eq_true])
      (fun hb => absurd hb (by simp only [Caller.mayBroadcast, Bool.false_eq_true,
        not_false_eq_true]))
  cases pc with
  | start =>
      simp only [waitOrMarkForDisposal] at h
      split_ifs at h with hdisposed hdisposing
      all_goals rw [Option.some.injEq, Prod.mk.injEq] at h
      · exact hsame (by rw [← h.1]) (by rw [← h.1]) (by rw [← h.1])
      · rw [← h.1, ← h.2]
        exact .markDisposing
      · exact hsame (by rw [← h.1]) (by rw [← h.1]) (by rw [← h.1])
  | checked | notified =>
      rcases Option.map_eq_some_iff.mp h with ⟨s'', hlock, heq⟩
      rw [Prod.mk.injEq] at heq
      rcases eq_of_lock hlock with ⟨hstate, hever, hcallers⟩
      exact hsame (by rw [← heq.1, hstate]) (by rw [← heq.1, hever]) (by rw [← heq.1, hcallers])
  | marked | persisted | locked | resumed =>
      simp only [waitOrMarkForDisposal, Option.some.injEq, Prod.mk.injEq] at h
      exact hsame (h.1 ▸ rfl) (h.1 ▸ rfl) (h.1 ▸ rfl)
  | waiting | returned => exact absurd h (by simp only [waitOrMarkForDisposal, reduceCtorEq,
      not_false_eq_true])

/-- A step of a call is one of its function. -/
theorem eq_some_of_map {P : Type} {f : P → Caller} {o : Option (Workspace × P)}
    (h : o.map (Prod.map id f) = some (s', t')) : ∃ pc', o = some (s', pc') ∧ t' = f pc' := by
  rcases Option.map_eq_some_iff.mp h with ⟨⟨s'', pc'⟩, hpc, heq⟩
  rw [Prod.map_apply, Prod.mk.injEq] at heq
  exact ⟨pc', by rw [hpc, ← heq.1]; rfl, heq.2.symm⟩

theorem turn_of_runCaller (h : runCaller s i ok t = some (s', t')) : Turn s ok t t' s' := by
  cases t with
  | waitForInit pc =>
      rcases eq_some_of_map h with ⟨pc', hpc, rfl⟩
      exact turn_of_waitForInit hpc
  | markInitDone pc =>
      rcases eq_some_of_map h with ⟨pc', hpc, rfl⟩
      exact turn_of_markInitDone hpc
  | waitOrMarkForDisposal pc =>
      rcases eq_some_of_map h with ⟨pc', hpc, rfl⟩
      exact turn_of_waitOrMarkForDisposal hpc
  | dispose pc =>
      rcases eq_some_of_map h with ⟨pc', hpc, rfl⟩
      exact turn_of_dispose hpc

/-- A call comes in, or one takes its turn. -/
theorem turn_of_step {a : Action} (h : step s a = some s') :
    (∃ caller, caller.isNew = true ∧ s' = { s with callers := s.callers ++ [caller] }) ∨
    ∃ i ok t t' s'', a = .run i ok ∧ s.callers[i]? = some t ∧ Turn s ok t t' s'' ∧
      s' = { s'' with callers := s''.callers.set i t' } := by
  cases a with
  | call caller =>
      rw [step, Option.ite_none_right_eq_some] at h
      exact Or.inl ⟨caller, h.1, (Option.some.inj h.2).symm⟩
  | run i ok =>
      rw [step] at h
      split at h
      · exact absurd h (by simp only [reduceCtorEq, not_false_eq_true])
      · next t ht =>
          rcases Option.map_eq_some_iff.mp h with ⟨⟨s'', t'⟩, hrun, heq⟩
          exact Or.inr ⟨i, ok, t, t', s'', rfl, ht, turn_of_runCaller hrun, heq.symm⟩

/-! ## Where a caller is blocked -/

/-- The call has the lock of the condition. -/
def Caller.holdsLock : Caller → Bool
  | .waitForInit .locked | .waitForInit .resumed => true
  | .waitOrMarkForDisposal .locked | .waitOrMarkForDisposal .resumed => true
  | _ => false

/-- The lock of the condition is with a call that is at a place where it has
    it. -/
def LockHeld (s : Workspace) : Prop :=
  ∀ j, s.conditionHolder = some j → ∃ t, s.callers[j]? = some t ∧ t.holdsLock = true

theorem conditionHolder_of_lock {s s' : Workspace} {i : Nat} (h : s.lock i = some s') :
    s'.conditionHolder = some i := by
  rw [Workspace.lock, Option.ite_none_right_eq_some] at h
  rw [← Option.some.inj h.2]

/-- A call takes the lock when it gets to where it has it, and gives it back
    when it goes on from there. -/
theorem conditionHolder_runCaller (h : runCaller s i ok t = some (s', t')) :
    s'.conditionHolder =
      if t'.holdsLock then some i else if t.holdsLock then none else s.conditionHolder := by
  cases t with
  | waitForInit pc =>
      rcases eq_some_of_map h with ⟨pc', hpc, rfl⟩
      -- Who locks holds the lock afterwards, and who waits or returns has given it up.
      cases pc with
      -- Here the lock is taken.
      | checked | notified =>
          rcases Option.map_eq_some_iff.mp hpc with ⟨s'', hlock, heq⟩
          rw [Prod.mk.injEq] at heq
          rw [← heq.1, ← heq.2, conditionHolder_of_lock hlock]
          rfl
      | start =>
          simp only [waitForInit, Option.some.injEq, Prod.mk.injEq] at hpc
          have hnot : (Caller.waitForInit pc').holdsLock = false := by
            rw [← hpc.2]
            split_ifs <;> rfl
          rw [← hpc.1, hnot]
          rfl
      | locked | resumed =>
          simp only [waitForInit, Option.some.injEq, Prod.mk.injEq] at hpc
          rw [← hpc.1, ← hpc.2]
          rfl
      | waiting | returned => exact absurd hpc (by simp only [waitForInit, reduceCtorEq,
          not_false_eq_true])
  | waitOrMarkForDisposal pc =>
      rcases eq_some_of_map h with ⟨pc', hpc, rfl⟩
      cases pc with
      | checked | notified =>
          rcases Option.map_eq_some_iff.mp hpc with ⟨s'', hlock, heq⟩
          rw [Prod.mk.injEq] at heq
          rw [← heq.1, ← heq.2, conditionHolder_of_lock hlock]
          rfl
      | start =>
          simp only [waitOrMarkForDisposal] at hpc
          split_ifs at hpc
          -- Whichever branch is taken, the lock is not touched.
          all_goals
            rw [Option.some.injEq, Prod.mk.injEq] at hpc
            rw [← hpc.1, ← hpc.2]
            rfl
      | marked | persisted | locked | resumed =>
          simp only [waitOrMarkForDisposal, Option.some.injEq, Prod.mk.injEq] at hpc
          rw [← hpc.1, ← hpc.2]
          cases ok <;> rfl
      | waiting | returned => exact absurd hpc (by simp only [waitOrMarkForDisposal, reduceCtorEq,
          not_false_eq_true])
  -- These two never take the lock.
  | markInitDone pc =>
      rcases eq_some_of_map h with ⟨pc', hpc, rfl⟩
      cases pc with
      | returned => exact absurd hpc (by simp only [markInitDone, reduceCtorEq, not_false_eq_true])
      | _ =>
          simp only [markInitDone, Option.some.injEq, Prod.mk.injEq] at hpc
          rw [← hpc.1]
          rfl
  | dispose pc =>
      rcases eq_some_of_map h with ⟨pc', hpc, rfl⟩
      cases pc with
      | returned => exact absurd hpc (by simp only [dispose, reduceCtorEq, not_false_eq_true])
      | _ =>
          simp only [dispose, Option.some.injEq, Prod.mk.injEq] at hpc
          rw [← hpc.1]
          rfl

theorem holdsLock_wake (t : Caller) : t.wake.holdsLock = t.holdsLock := by
  cases t with
  | waitForInit pc => cases pc <;> rfl
  | waitOrMarkForDisposal pc => cases pc <;> rfl
  | markInitDone pc => rfl
  | dispose pc => rfl

/-- The other callers stay where they are, but for those that are woken up. -/
theorem callers_of_turn {s'' : Workspace} (h : Turn s ok t t' s'') :
    s''.callers = s.callers ∨ s''.callers = s.callers.map Caller.wake := by
  cases h with
  | quiet _ _ _ _ _ hcallers => exact Or.inl hcallers
  | markDisposing => exact Or.inl rfl
  | becomeReady => exact Or.inr rfl
  | becomeDisposed => exact Or.inr rfl

/-- One at most has the lock, and it is the one who has taken it. -/
theorem lockHeld_step {a : Action} (hl : LockHeld s) (h : step s a = some s') : LockHeld s' := by
  intro j hj
  cases a with
  | call caller =>
      rw [step, Option.ite_none_right_eq_some] at h
      rw [← Option.some.inj h.2] at hj ⊢
      rcases hl j hj with ⟨t, ht, hholds⟩
      exact ⟨t, by rw [List.getElem?_append_left (List.getElem?_eq_some_iff.mp ht).1, ht], hholds⟩
  | run i ok =>
      rw [step] at h
      split at h
      · exact absurd h (by simp only [reduceCtorEq, not_false_eq_true])
      · next t ht =>
          rcases Option.map_eq_some_iff.mp h with ⟨⟨s'', t'⟩, hrun, rfl⟩
          have hi : i < s''.callers.length := by
            rcases callers_of_turn (turn_of_runCaller hrun) with hc | hc <;> rw [hc]
            · exact (List.getElem?_eq_some_iff.mp ht).1
            · rw [List.length_map]
              exact (List.getElem?_eq_some_iff.mp ht).1
          have hholder := (conditionHolder_runCaller hrun).symm.trans hj
          split_ifs at hholder with hnew hold
          · rw [← Option.some.inj hholder]
            exact ⟨t', List.getElem?_set_self hi, hnew⟩
          · -- the lock is with somebody else
            rcases hl j hholder with ⟨u, hu, hholds⟩
            have hne : i ≠ j := by
              rintro rfl
              rw [ht, Option.some.injEq] at hu
              rw [hu] at hold
              exact hold hholds
            rw [List.getElem?_set_ne hne]
            rcases callers_of_turn (turn_of_runCaller hrun) with hc | hc
            · exact ⟨u, by rw [hc, hu], hholds⟩
            · exact ⟨u.wake, by rw [hc, List.getElem?_map, hu]; rfl, by rw [holdsLock_wake, hholds]⟩

/-- Who has the lock of the condition can go on. -/
theorem runs_of_holdsLock (ht : s.callers[i]? = some t) (hholds : t.holdsLock = true) :
    step s (.run i ok) ≠ none := by
  rw [step, ht]
  cases t with
  | waitForInit pc =>
      cases pc <;> simp only [Caller.holdsLock, Bool.false_eq_true] at hholds
      all_goals exact Option.some_ne_none _
  | waitOrMarkForDisposal pc =>
      cases pc <;> simp only [Caller.holdsLock, Bool.false_eq_true] at hholds
      all_goals exact Option.some_ne_none _
  | markInitDone pc | dispose pc => simp only [Caller.holdsLock, Bool.false_eq_true] at hholds

/-- In every state reached, a call of `WaitForInit` that cannot go on has
    returned, waits, or is about to get a lock whose holder can go on. -/
theorem blocked_reaches {guard : Workspace → Action → Prop} {state : WorkspaceState}
    (hr : ReachesWithin step guard (newWorkspace state) s) {pc : WaitForInit}
    (ht : s.callers[i]? = some (.waitForInit pc)) (hblocked : step s (.run i ok) = none) :
    (∃ ready, pc = .returned ready) ∨ pc = .waiting ∨
      ∃ j, s.conditionHolder = some j ∧ step s (.run j ok) ≠ none := by
  have hl : LockHeld s :=
    invariant_of_reachesWithin (fun _ _ _ _ hl _ hstep => lockHeld_step hl hstep) hr
      (fun j hj => absurd hj (by simp only [newWorkspace, reduceCtorEq, not_false_eq_true]))
  have hfree : s.conditionHolder ≠ none → ∃ j, s.conditionHolder = some j ∧
      step s (.run j ok) ≠ none := by
    intro hne
    rcases Option.ne_none_iff_exists'.mp hne with ⟨j, hj⟩
    rcases hl j hj with ⟨t, ht, hholds⟩
    exact ⟨j, hj, runs_of_holdsLock ht hholds⟩
  rw [step, ht] at hblocked
  cases pc with
  | checked | notified =>
      refine Or.inr (Or.inr (hfree fun hnone => ?_))
      simp only [runCaller, waitForInit, Workspace.lock, hnone, if_true, Option.map_some,
        reduceCtorEq] at hblocked
  | start | locked | resumed => exact absurd hblocked (Option.some_ne_none _)
  | waiting => exact Or.inr (Or.inl rfl)
  | returned ready => exact Or.inl ⟨ready, rfl⟩

end WsSync

end Nxpod
