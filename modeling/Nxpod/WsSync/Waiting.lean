import Nxpod.WsSync.Workspace

/-!
# Waiting for a Workspace to be Initialized

`WaitForInit` checks the state once, before it waits. Whoever wakes it up, it
says that the workspace is ready. And whoever broadcasts between the check and
the wait does not wake it up.

So a caller is let down in one of two ways. It is told that a workspace is ready
that never was, or it waits for a broadcast that does not come. It takes a step
of a few kinds to do so, and in a run without such a step nobody is let down.

## Main definitions

* `Pending`, `Waits`: A broadcast is to come, and somebody waits.
* `AnswersReady`, `Stranded`: What can go wrong for who waits.
* `Heeds`: A step that does not let down a caller that waits.
* `Sound`: What such steps keep up.

## Theorems

* `sound_turn`, `sound_step`: What a step preserves.
* `waitForInit_of_heeds`: Runs in which nobody is let down.
* `not_answersReady_and_stranded`: Runs in which somebody is.
-/

namespace Nxpod

namespace WsSync

open Transition

variable {s s' : Workspace} {i : Nat} {ok : Bool} {t t' : Caller}

/-! ## What can go wrong -/

/-- Some call in progress may broadcast. -/
def Pending (callers : List Caller) : Prop :=
  ∃ caller ∈ callers, caller.mayBroadcast = true

/-- Somebody waits for the workspace to be initialized. -/
def Waits (s : Workspace) : Prop :=
  .waitForInit .waiting ∈ s.callers

/-- Who is told that the workspace is ready is told so after it was, and who
    asks before is told otherwise. -/
def AnswersReady (s : Workspace) : Prop :=
  ∀ ready, .waitForInit (.returned ready) ∈ s.callers →
    (ready = true → s.everReady = true) ∧ (s.everReady = false → ready = false)

/-- Somebody waits for the workspace to be initialized although it no longer
    is, and no call in progress is going to broadcast. -/
def Stranded (s : Workspace) : Prop :=
  Waits s ∧ s.state ≠ .initializing ∧ ¬ Pending s.callers

/-- A step that does not let down a caller that waits: nobody begins to wait
    once the workspace is no longer initializing, the workspace is not marked
    for disposal while somebody waits, and no broadcast fails to come, unless
    there is another one to come; and a workspace that was never ready is not
    disposed of while somebody waits. -/
def Heeds (s : Workspace) : Action → Prop
  | .call _ => True
  | .run i ok => match s.callers[i]? with
    | some (.waitForInit pc) => pc = .locked → s.state = .initializing ∨ Pending s.callers
    | some (.markInitDone pc) => pc = .start → ok = false → Waits s →
        s.state = .initializing ∨ Pending (s.callers.eraseIdx i)
    | some (.waitOrMarkForDisposal pc) => pc = .start → Waits s → s.state = .initializing →
        Pending s.callers
    | some (.dispose pc) => (pc = .start → ok = false → Waits s →
        s.state = .initializing ∨ Pending (s.callers.eraseIdx i)) ∧
        (pc = .removed → Waits s → s.everReady = true)
    | none => True

instance (callers : List Caller) : Decidable (Pending callers) :=
  inferInstanceAs (Decidable (∃ caller ∈ callers, caller.mayBroadcast = true))

instance (s : Workspace) : Decidable (Waits s) :=
  inferInstanceAs (Decidable (_ ∈ s.callers))

instance (s : Workspace) : Decidable (Stranded s) :=
  inferInstanceAs (Decidable (Waits s ∧ s.state ≠ .initializing ∧ ¬ Pending s.callers))

instance (s : Workspace) : (a : Action) → Decidable (Heeds s a)
  | .call _ => isTrue trivial
  | .run i ok => match h : s.callers[i]? with
    | some (.waitForInit pc) =>
        decidable_of_iff (pc = .locked → s.state = .initializing ∨ Pending s.callers)
          (by rw [Heeds, h])
    | some (.markInitDone pc) =>
        decidable_of_iff (pc = .start → ok = false → Waits s →
          s.state = .initializing ∨ Pending (s.callers.eraseIdx i)) (by rw [Heeds, h])
    | some (.waitOrMarkForDisposal pc) =>
        decidable_of_iff (pc = .start → Waits s → s.state = .initializing → Pending s.callers)
          (by rw [Heeds, h])
    | some (.dispose pc) =>
        decidable_of_iff ((pc = .start → ok = false → Waits s →
          s.state = .initializing ∨ Pending (s.callers.eraseIdx i)) ∧
          (pc = .removed → Waits s → s.everReady = true)) (by rw [Heeds, h])
    | none => isTrue (by rw [Heeds, h]; trivial)

/-! ## Nobody is let down -/

section

variable {callers : List Caller}

theorem mem_set_of_ne {j : Nat} {u : Caller} (hu : callers[j]? = some u) (hne : j ≠ i) :
    u ∈ callers.set i t' :=
  List.mem_of_getElem? ((List.getElem?_set_ne (Ne.symm hne)).trans hu)

/-- A broadcast that some other caller is about to make is still to come. -/
theorem pending_set_of_eraseIdx (h : Pending (callers.eraseIdx i)) :
    Pending (callers.set i t') := by
  rcases h with ⟨u, hu, hb⟩
  rcases List.mem_eraseIdx_iff_getElem?.mp hu with ⟨j, hne, hj⟩
  exact ⟨u, mem_set_of_ne hj hne, hb⟩

/-- A broadcast that is to come is still to come when a call goes on that does
    not give up one. -/
theorem pending_set (ht : callers[i]? = some t)
    (hkeep : t.mayBroadcast = true → t'.mayBroadcast = true) (h : Pending callers) :
    Pending (callers.set i t') := by
  rcases h with ⟨u, hu, hb⟩
  rcases List.mem_iff_getElem?.mp hu with ⟨j, hj⟩
  by_cases hji : j = i
  · rw [hji, ht, Option.some.injEq] at hj
    rw [← hj] at hb
    exact ⟨t', List.mem_set (List.getElem?_eq_some_iff.mp ht).1 t', hkeep hb⟩
  · exact ⟨u, mem_set_of_ne hj hji, hb⟩

theorem not_waiting_of_mem_wake (h : .waitForInit .waiting ∈ callers.map Caller.wake) : False := by
  rcases List.mem_map.mp h with ⟨u, -, hu⟩
  cases u with
  | waitForInit pc => cases pc <;> exact absurd hu (by simp only [Caller.wake,
      Caller.waitForInit.injEq, reduceCtorEq, not_false_eq_true])
  | waitOrMarkForDisposal pc => cases pc <;> exact absurd hu (by simp only [Caller.wake,
      reduceCtorEq, not_false_eq_true])
  | markInitDone pc => exact absurd hu (by simp only [Caller.wake, reduceCtorEq,
      not_false_eq_true])
  | dispose pc => exact absurd hu (by simp only [Caller.wake, reduceCtorEq, not_false_eq_true])

/-- Who is woken up was waiting, or woken up before. -/
theorem isWoken_of_wake {u : Caller} (h : u.wake.isWoken = true) :
    u.isWoken = true ∨ u = .waitForInit .waiting := by
  cases u with
  | waitForInit pc => cases pc <;> first | exact Or.inr rfl | exact Or.inl h
  | waitOrMarkForDisposal pc => cases pc <;> exact Or.inl h
  | markInitDone pc => exact Or.inl h
  | dispose pc => exact Or.inl h

end

/-- What the steps of a run in which nobody is let down keep up. -/
structure Sound (s : Workspace) : Prop where
  ready : s.state = .ready → s.everReady = true
  woken : ∀ t ∈ s.callers, t.isWoken = true → s.everReady = true
  awaited : Waits s → s.state = .initializing ∨ Pending s.callers

theorem sound_call (hs : Sound s) {caller : Caller} (hnew : caller.isNew = true) :
    Sound { s with callers := s.callers ++ [caller] } := by
  refine ⟨hs.ready, fun t ht hw => ?_, fun hwaits => ?_⟩
  · rcases List.mem_append.mp ht with ht | ht
    · exact hs.woken t ht hw
    · rw [List.mem_singleton.mp ht] at hw
      cases caller with
      | waitForInit pc => cases pc <;> simp only [Caller.isNew, Caller.isWoken,
          Bool.false_eq_true] at hnew hw
      | _ => simp only [Caller.isWoken, Bool.false_eq_true] at hw
  · have hwaits : Waits s := by
      rcases List.mem_append.mp hwaits with hwaits | hwaits
      · exact hwaits
      · rw [← List.mem_singleton.mp hwaits] at hnew
        exact absurd hnew (by decide)
    refine (hs.awaited hwaits).imp_right ?_
    rintro ⟨u, hu, hb⟩
    exact ⟨u, List.mem_append_left _ hu, hb⟩

/-- A step of a caller, where the step has to be one that lets nobody down. -/
theorem sound_turn {s'' : Workspace} (hs : Sound s) (ht : s.callers[i]? = some t)
    (hok : Heeds s (.run i ok)) (hturn : Turn s ok t t' s'') :
    Sound { s'' with callers := s''.callers.set i t' } := by
  have hmem : t ∈ s.callers := List.mem_of_getElem? ht
  rw [Heeds, ht] at hok
  cases hturn with
  | quiet _ _ _ hstate hever hcallers hwoken hwaits hpending =>
      refine ⟨?_, fun u hu hw => ?_, fun hw => ?_⟩
      · -- The state is as before, and only the callers have moved.
        rw [hstate, hever]
        exact hs.ready
      · rw [hever]
        rw [hcallers] at hu
        rcases List.mem_or_eq_of_mem_set hu with hu | rfl
        · exact hs.woken u hu hw
        · exact (hwoken hw).elim (hs.woken t hmem) hs.ready
      · have hw : .waitForInit .waiting ∈ s.callers.set i t' := hcallers ▸ hw
        show s''.state = .initializing ∨ Pending (s''.callers.set i t')
        rw [hstate, hcallers]
        rcases List.mem_or_eq_of_mem_set hw with hold | hnew
        · by_cases hkeep : t.mayBroadcast = true → t'.mayBroadcast = true
          · exact (hs.awaited hold).imp_right (pending_set ht hkeep)
          · -- a broadcast fails to come, and there is another one
            rw [Classical.not_imp] at hkeep
            rcases (hpending hkeep.1).resolve_left hkeep.2 with ⟨rfl, rfl | rfl⟩
            · exact (hok rfl rfl hold).imp_right pending_set_of_eraseIdx
            · exact (hok.1 rfl rfl hold).imp_right pending_set_of_eraseIdx
        · -- somebody begins to wait
          have hlocked := hwaits hnew.symm
          rw [hlocked] at hok ht
          refine (hok rfl).imp_right (pending_set ht fun hb => ?_)
          exact absurd hb (by decide)
  | markDisposing =>
      have hnot : (s.setState .disposing).state ≠ .ready := by
        simp only [Workspace.setState, ne_eq, reduceCtorEq, not_false_eq_true]
      refine ⟨fun hready => absurd hready hnot, fun u hu hw => ?_, fun hw => Or.inr ?_⟩
      · rcases List.mem_or_eq_of_mem_set hu with hu | rfl
        · rw [Workspace.setState, hs.woken u hu hw]
          rfl
        · exact absurd hw (by decide)
      · -- Who waits was waiting before, as the caller that runs does not.
        rcases List.mem_or_eq_of_mem_set hw with hold | hnew
        · refine pending_set ht (fun hb => absurd hb (by decide)) ?_
          by_cases hinit : s.state = .initializing
          · exact hok rfl hold hinit
          · exact (hs.awaited hold).resolve_left hinit
        · exact absurd hnew (by decide)
  | becomeReady =>
      have hever : (s.setState .ready).everReady = true := by
        rw [Workspace.setState, decide_eq_true rfl, Bool.or_true]
      -- whoever was waiting is woken up, and may say so
      refine ⟨fun _ => hever, fun _ _ _ => hever, fun hw => ?_⟩
      rcases List.mem_or_eq_of_mem_set hw with hold | hnew
      · exact (not_waiting_of_mem_wake hold).elim
      · exact absurd hnew (by decide)
  | becomeDisposed =>
      have hnot : (s.setState .disposed).state ≠ .ready := by
        simp only [Workspace.setState, ne_eq, reduceCtorEq, not_false_eq_true]
      refine ⟨fun hready => absurd hready hnot, fun u hu hw => ?_, fun hw => ?_⟩
      · -- who is woken up was waiting, and nobody was unless the workspace was ready
        have hever : s.everReady = true := by
          rcases List.mem_or_eq_of_mem_set hu with hu | rfl
          · rcases List.mem_map.mp hu with ⟨v, hv, rfl⟩
            rcases isWoken_of_wake hw with hw | rfl
            · exact hs.woken v hv hw
            · exact hok.2 rfl hv
          · exact absurd hw (by decide)
        show (s.everReady || _) = true
        rw [hever]
        rfl
      · rcases List.mem_or_eq_of_mem_set hw with hold | hnew
        · exact (not_waiting_of_mem_wake hold).elim
        · exact absurd hnew (by decide)

/-- So every step keeps what is to be kept. -/
theorem sound_step {a : Action} (hs : Sound s) (h : step s a = some s') (hok : Heeds s a) :
    Sound s' := by
  rcases turn_of_step h with ⟨caller, hnew, rfl⟩ | ⟨i, ok, t, t', s'', rfl, ht, hturn, rfl⟩
  · exact sound_call hs hnew
  · exact sound_turn hs ht hok hturn

theorem sound_newWorkspace (state : WorkspaceState) : Sound (newWorkspace state) :=
  ⟨fun h => decide_eq_true h, fun _ ht => absurd ht List.not_mem_nil,
    fun hw => absurd hw List.not_mem_nil⟩

/-- In every state reached by steps that do not let down a caller that waits,
    `WaitForInit` has said that the workspace is ready only after it was, and
    nobody waits for it although it has left the initializing state and no
    broadcast will come. Both are needed: the first keeps a caller from working
    on content that is not there, the second from waiting for ever. -/
theorem waitForInit_of_heeds (state : WorkspaceState) (s : Workspace)
    (hr : ReachesWithin step Heeds (newWorkspace state) s) : AnswersReady s ∧ ¬ Stranded s := by
  have hs : Sound s :=
    invariant_of_reachesWithin (fun _ _ _ _ hs hok hstep => sound_step hs hstep hok) hr
      (sound_newWorkspace state)
  refine ⟨fun ready hmem => ?_, fun hstranded => ?_⟩
  · have hready : ready = true → s.everReady = true := by
      rintro rfl
      exact hs.woken _ hmem rfl
    refine ⟨hready, fun hnever => ?_⟩
    cases ready with
    | true => exact absurd ((hready rfl).symm.trans hnever) (by decide)
    | false => rfl
  · rcases hs.awaited hstranded.1 with hinit | hpending
    · exact hstranded.2.1 hinit
    · exact hstranded.2.2 hpending

/-- A caller that waits before the initialization is done, and one that asks
    while the workspace is being disposed of. -/
theorem waitForInit_of_heeds_ready :
    ∃ s, runActions step [.call (.waitForInit .start), .run 0 true, .run 0 true, .run 0 true,
      .call (.markInitDone .start), .run 1 true, .run 1 true, .run 0 true, .run 0 true,
      .call (.waitOrMarkForDisposal .start), .run 2 true, .call (.waitForInit .start),
      .run 3 true] (newWorkspace .initializing) = some s ∧ AnswersReady s ∧ ¬ Stranded s := by
  refine exists_run_of_any
    (fun s => decide (s.callers[0]? = some (Caller.waitForInit (.returned true))) &&
      decide (s.callers[3]? = some (Caller.waitForInit (.returned false)))) (by decide +kernel)
    fun s hrun _ => ?_
  exact waitForInit_of_heeds .initializing s
    (reachesWithin_of_runActions _ _ _ (by decide +kernel) hrun)

/-- Both fail. A workspace is disposed of without ever being ready, and who
    waited is told that it is. The initialization is done between a caller's
    check and its wait, and the caller waits for good. -/
theorem not_answersReady_and_stranded :
    (¬ ∀ (state : WorkspaceState) (s : Workspace),
      ReachesWithin step (fun _ _ => True) (newWorkspace state) s → AnswersReady s) ∧
    ¬ ∀ (state : WorkspaceState) (s : Workspace),
      ReachesWithin step (fun _ _ => True) (newWorkspace state) s → ¬ Stranded s := by
  constructor
  · intro hall
    rcases exists_of_runActions_any step [.call (.waitForInit .start), .run 0 true, .run 0 true,
        .run 0 true, .call (.waitOrMarkForDisposal .start), .run 1 true, .call (.dispose .start),
        .run 2 true, .run 2 true, .run 0 true, .run 0 true] (newWorkspace .initializing)
      (fun s => decide (.waitForInit (.returned true) ∈ s.callers) && !s.everReady)
      (by decide +kernel) with ⟨s, hrun, hs⟩
    rw [Bool.and_eq_true, decide_eq_true_eq, Bool.not_eq_true'] at hs
    have hready := (hall _ s (reaches_of_runActions hrun) true hs.1).1 rfl
    rw [hs.2] at hready
    exact absurd hready (by decide)
  · intro hall
    rcases exists_of_runActions_any step [.call (.waitForInit .start), .run 0 true,
        .call (.markInitDone .start), .run 1 true, .run 1 true, .run 1 true, .run 1 true,
        .run 0 true, .run 0 true] (newWorkspace .initializing)
      (fun s => decide (Stranded s)) (by decide +kernel) with ⟨s, hrun, hs⟩
    exact hall _ s (reaches_of_runActions hrun) (of_decide_eq_true hs)

end WsSync

end Nxpod
