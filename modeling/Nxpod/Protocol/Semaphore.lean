import Mathlib.Data.List.Range
import Nxpod.Library.Transition

/-!
# Semaphore

A semaphore counts its used permits in a field the constructor leaves undefined. What is added to
`undefined` is not a number and is compared with nothing, so the first acquire already waits, and
as nothing was acquired nobody is there to release it.

Beside the semaphore of the source stands the one whose counter starts at zero. This one does all
that is asked of a semaphore, over every run, so the initial value is the only defect.

## Main definitions

* `Counter`: A field that may hold `undefined` or `NaN`.
* `Semaphore`: In the queue an acquire is known by its number.
* `Semaphore.acquire`, `Semaphore.release`: The operations.
* `Session`, `step`: The callers of a semaphore.
* `Action`: A permit is acquired or released.
* `Fair`: What a step has to achieve.
* `Proper`: The counter counts the acquires that were not released, and the ones beyond the
  capacity are queued.

## Theorems

* `proper_step`, `fair_of_proper`: A semaphore whose counter counts.
* `fair_of_initialized`: Every run from a counter of zero.
* `fair_iff`: Every run from the constructor.
-/

namespace Nxpod

namespace Protocol

/-- A number of the source, before and after it was initialized. -/
inductive Counter
  | undefined
  | nan
  | number (n : Int)
  deriving DecidableEq

namespace Counter

/-- What `++` and `--` do. -/
def add (d : Int) : Counter → Counter
  | undefined => nan
  | nan => nan
  | number n => number (n + d)

/-- The comparison `== 0`. -/
def isZero : Counter → Bool
  | number n => n == 0
  | _ => false

/-- The comparison `<=`. -/
def le (bound : Int) : Counter → Bool
  | number n => decide (n ≤ bound)
  | _ => false

end Counter

/-- In the queue an acquire is known by its number. -/
structure Semaphore where
  queue : List Nat
  used : Counter
  capacity : Int

namespace Semaphore

/-- A semaphore for so many permits, without a number for those used. -/
def new (capacity : Int) : Except String Semaphore :=
  if capacity < 1 then .error "Capacity cannot be less than 1"
  else .ok ⟨[], .undefined, capacity⟩

/-- The second component is the acquire that is resolved. -/
def release (s : Semaphore) : Semaphore × Option Nat :=
  if s.used.isZero then (s, none)
  else match s.queue with
    | [] => ({ s with used := s.used.add (-1) }, none)
    | queued :: queue => ({ s with queue, used := s.used.add (-1) }, some queued)

/-- The second component says whether the promise is already resolved. -/
def acquire (s : Semaphore) (rs : Nat) : Semaphore × Bool :=
  let used := s.used.add 1
  if used.le s.capacity then ({ s with used }, true)
  else ({ s with used, queue := s.queue ++ [rs] }, false)

end Semaphore

/-- A semaphore and what its callers saw of it. -/
structure Session where
  semaphore : Semaphore
  /-- How many acquires were called. -/
  called : Nat
  /-- The acquires that completed, in this order. -/
  completed : List Nat
  /-- How many of these were released. -/
  released : Nat

namespace Session

/-- How many permits are held. -/
def held (s : Session) : Nat := s.completed.length - s.released

/-- A permit is acquired or released. -/
inductive Action
  | acquire
  | release
  deriving DecidableEq

/-- The session before anything happened. -/
def begin (semaphore : Semaphore) : Session := ⟨semaphore, 0, [], 0⟩

/-- A release follows a completed acquire. -/
def step (s : Session) : Action → Option Session
  | .acquire =>
      let (semaphore, resolved) := s.semaphore.acquire s.called
      some { s with
        semaphore
        called := s.called + 1
        completed := if resolved then s.completed ++ [s.called] else s.completed }
  | .release =>
      if s.released < s.completed.length then
        let (semaphore, queued) := s.semaphore.release
        some { s with
          semaphore
          completed := s.completed ++ queued.toList
          released := s.released + 1 }
      else none

/-- No more permits are held than there are, acquires complete in the order of their calls and
at once where a permit is free, and none is pending while a permit is free. -/
structure Fair (s : Session) (a : Action) (s' : Session) : Prop where
  capacity : (s'.held : Int) ≤ s'.semaphore.capacity
  order : s'.completed = List.range s'.completed.length
  immediate : a = .acquire → (s.held : Int) < s.semaphore.capacity → s.called ∈ s'.completed
  stranded : (s'.held : Int) < s'.semaphore.capacity → s'.completed.length = s'.called

end Session

open Session

/-! ## Initialized -/

/-- The counter counts the acquires that were not released, and the ones beyond the capacity
are queued. -/
structure Proper (s : Session) : Prop where
  used : s.semaphore.used = .number (s.called - s.released)
  queue : s.semaphore.queue =
    List.range' s.completed.length (s.called - s.completed.length)
  order : s.completed = List.range s.completed.length
  released : s.released ≤ s.completed.length
  called : s.completed.length ≤ s.called
  capacity : (s.held : Int) ≤ s.semaphore.capacity
  stranded : (s.held : Int) < s.semaphore.capacity → s.completed.length = s.called

/-- With a number for the counter a session begins properly. -/
theorem proper_begin {capacity : Int} (h : 1 ≤ capacity) :
    Proper (begin ⟨[], .number 0, capacity⟩) where
  used := rfl
  queue := rfl
  order := rfl
  released := Nat.le_refl 0
  called := Nat.le_refl 0
  capacity := by
    change ((0 : Nat) : Int) ≤ capacity
    omega
  stranded := fun _ => rfl

/-- What an acquire does while the counter counts. -/
theorem step_acquire {s : Session} (h : Proper s) :
    step s .acquire = some (if (s.held : Int) < s.semaphore.capacity then
      { s with
        semaphore := { s.semaphore with used := .number (s.called + 1 - s.released) }
        called := s.called + 1
        completed := s.completed ++ [s.called] }
    else
      { s with
        semaphore := { s.semaphore with
          used := .number (s.called + 1 - s.released)
          queue := s.semaphore.queue ++ [s.called] }
        called := s.called + 1 }) := by
  have hreleased := h.released
  have hcalled := h.called
  have hused : s.semaphore.used.add 1 = .number (s.called + 1 - s.released) := by
    rw [h.used, Counter.add]
    congr 1
    omega
  -- the counter is within the capacity exactly when a permit is free
  have hle : (Counter.number (s.called + 1 - s.released)).le s.semaphore.capacity =
      decide ((s.held : Int) < s.semaphore.capacity) := by
    rw [Counter.le, decide_eq_decide]
    have hstranded := h.stranded
    unfold held at hstranded ⊢
    constructor
    · intro hle
      omega
    · intro hlt
      have hall := hstranded hlt
      omega
  simp only [step, Semaphore.acquire, hused, hle]
  by_cases hfree : (s.held : Int) < s.semaphore.capacity
  · simp only [hfree, decide_true, if_true]
  · simp only [hfree, decide_false, Bool.false_eq_true, if_false]

/-- What a release does while the counter counts. -/
theorem step_release {s : Session} (h : Proper s) (hheld : s.released < s.completed.length) :
    step s .release = some (if s.completed.length < s.called then
      { s with
        semaphore := { s.semaphore with
          used := .number (s.called - s.released - 1)
          queue := List.range' (s.completed.length + 1) (s.called - s.completed.length - 1) }
        completed := s.completed ++ [s.completed.length]
        released := s.released + 1 }
    else
      { s with
        semaphore := { s.semaphore with used := .number (s.called - s.released - 1) }
        released := s.released + 1 }) := by
  have hcalled := h.called
  have hzero : s.semaphore.used.isZero = false := by
    rw [h.used, Counter.isZero, beq_eq_false_iff_ne]
    omega
  rw [step, if_pos hheld, Semaphore.release, hzero, if_neg Bool.false_ne_true, h.queue]
  by_cases hpending : s.completed.length < s.called
  · rw [if_pos hpending]
    rcases Nat.exists_eq_succ_of_ne_zero (Nat.sub_ne_zero_of_lt hpending) with ⟨n, hn⟩
    rw [hn, List.range'_succ, Nat.succ_sub_one, h.used]
    rfl
  · rw [if_neg hpending, Nat.sub_eq_zero_of_le (Nat.le_of_not_lt hpending), List.range'_zero,
      h.used]
    simp only [Option.toList, List.append_nil, Counter.add, Int.sub_eq_add_neg]
    rw [h.queue, Nat.sub_eq_zero_of_le (Nat.le_of_not_lt hpending), List.range'_zero]

theorem range_snoc {completed : List Nat} (h : completed = List.range completed.length) :
    completed ++ [completed.length] = List.range (completed ++ [completed.length]).length := by
  rw [List.length_append, List.length_singleton, List.range_succ, ← h]

/-- The step lemma of the proper semaphore. -/
theorem proper_step {s s' : Session} {a : Action} (h : Proper s) (hstep : step s a = some s') :
    Proper s' := by
  have hreleased := h.released
  have hcalled := h.called
  have hcapacity := h.capacity
  have hstranded := h.stranded
  cases a with
  | acquire =>
      rw [step_acquire h, Option.some.injEq] at hstep
      -- Either there is a permit and the acquire completes at once, or it is put at the end of the
      -- queue.
      by_cases hfree : (s.held : Int) < s.semaphore.capacity
      · rw [if_pos hfree] at hstep
        subst hstep
        -- nobody waits, so the acquire that completes is the next one
        have hall := hstranded hfree
        have hlength : (s.completed ++ [s.called]).length = s.completed.length + 1 :=
          List.length_append
        unfold held at hfree
        constructor
        · dsimp only
          push_cast
          rfl
        · rw [h.queue, hlength, ← hall, Nat.sub_self, Nat.sub_self]
          rfl
        · rw [← hall]
          exact range_snoc h.order
        · rw [hlength]
          exact Nat.le_succ_of_le hreleased
        · rw [hlength, hall]
        · simp only [held, hlength]
          omega
        · intro _
          rw [hlength, hall]
      · rw [if_neg hfree] at hstep
        subst hstep
        constructor
        · dsimp only
          push_cast
          rfl
        · rw [h.queue, Nat.succ_sub hcalled, List.range'_1_concat, Nat.add_sub_cancel' hcalled]
        · exact h.order
        · exact hreleased
        · exact Nat.le_succ_of_le hcalled
        · exact hcapacity
        · exact fun hfree' => absurd hfree' hfree
  | release =>
      have hheld : s.released < s.completed.length := by
        by_contra hnone
        rw [step, if_neg hnone] at hstep
        exact nomatch hstep
      rw [step_release h hheld, Option.some.injEq] at hstep
      unfold held at hcapacity hstranded
      -- Either someone waits and takes over the permit, or it is free again.
      by_cases hpending : s.completed.length < s.called
      · rw [if_pos hpending] at hstep
        subst hstep
        -- the permit goes to the acquire that waits longest
        have hlength : (s.completed ++ [s.completed.length]).length = s.completed.length + 1 :=
          List.length_append
        have hfull : ¬ ((s.completed.length - s.released : Nat) : Int) < s.semaphore.capacity :=
          fun hfree => absurd (hstranded hfree) (Nat.ne_of_lt hpending)
        constructor
        · dsimp only
          congr 1
          omega
        · rw [hlength, Nat.sub_add_eq]
        · exact range_snoc h.order
        · rw [hlength]
          exact Nat.succ_le_succ hreleased
        · rw [hlength]
          exact hpending
        · simp only [held, hlength]
          omega
        · simp only [held, hlength]
          omega
      · rw [if_neg hpending] at hstep
        subst hstep
        -- Everyone who has called was served, so the queue is empty.
        have hall : s.completed.length = s.called :=
          Nat.le_antisymm hcalled (Nat.le_of_not_lt hpending)
        constructor
        · dsimp only
          congr 1
          omega
        · exact h.queue
        · exact h.order
        · exact hheld
        · exact hcalled
        · simp only [held]
          omega
        · exact fun _ => hall

/-- A semaphore that counts is fair. -/
theorem fair_of_proper {s s' : Session} {a : Action} (h : Proper s)
    (hstep : step s a = some s') : Fair s a s' := by
  have h' := proper_step h hstep
  refine ⟨h'.capacity, h'.order, fun ha hfree => ?_, h'.stranded⟩
  subst ha
  rw [step_acquire h, if_pos hfree, Option.some.injEq] at hstep
  rw [← hstep]
  exact List.mem_append_right _ (List.mem_singleton_self _)

/-- With the counter initialized every run is fair. -/
theorem fair_of_initialized {capacity : Int} (h : 1 ≤ capacity) (as : List Action) :
    Transition.StepsAlong step Fair as (begin ⟨[], .number 0, capacity⟩) := by
  have hstep : ∀ s a s', Proper s → step s a = some s' → Proper s' ∧ Fair s a s' :=
    fun s a s' hs hstep => ⟨proper_step hs hstep, fair_of_proper hs hstep⟩
  exact Transition.stepsAlong_of_invariant hstep as _ (proper_begin h)

/-! ## Constructed -/

/-- Nobody completed an acquire, and the counter does not count. -/
structure Unused (s : Session) : Prop where
  used : ∀ n, s.semaphore.used ≠ .number n
  completed : s.completed = []
  capacity : 1 ≤ s.semaphore.capacity

theorem unused_acquire {s s' : Session} (h : Unused s) (hstep : step s .acquire = some s') :
    Unused s' := by
  have hadd : s.semaphore.used.add 1 = .nan := by
    cases hused : s.semaphore.used with
    | undefined => rfl
    | nan => rfl
    | number n => exact absurd hused (h.used n)
  simp only [step, Semaphore.acquire, hadd, Counter.le, Bool.false_eq_true, if_false,
    Option.some.injEq] at hstep
  subst hstep
  exact ⟨fun n => Counter.noConfusion, h.completed, h.capacity⟩

/-- So the only steps it takes are acquires. -/
theorem unused_step {s s' : Session} {a : Action} (h : Unused s) (hstep : step s a = some s') :
    a = .acquire ∧ Unused s' := by
  cases a with
  | acquire => exact ⟨rfl, unused_acquire h hstep⟩
  | release =>
      have hnone : ¬ s.released < s.completed.length := by
        rw [h.completed]
        exact Nat.not_lt_zero _
      rw [step, if_neg hnone] at hstep
      exact nomatch hstep

/-- No acquire is fair, as the first one already waits for a permit that is free. -/
theorem not_fair_of_unused {s s' : Session} {a : Action} (h : Unused s)
    (hstep : step s a = some s') : ¬ Fair s a s' := by
  rcases unused_step h hstep with ⟨ha, h'⟩
  intro hfair
  have hfree : (s.held : Int) < s.semaphore.capacity := by
    have hcapacity := h.capacity
    rw [held, h.completed, List.length_nil, Nat.zero_sub]
    omega
  have hmem := hfair.immediate ha hfree
  rw [h'.completed] at hmem
  exact absurd hmem List.not_mem_nil

/-- A run of a new semaphore is fair exactly when nothing is acquired in it. The counter is
    never set, so counting it up makes it no number, and no number is at most the capacity. The
    first to acquire waits for ever, and so does everyone after it. -/
theorem fair_iff {capacity : Int} {semaphore : Semaphore}
    (hnew : Semaphore.new capacity = .ok semaphore) (as : List Action) :
    Transition.StepsAlong step Fair as (begin semaphore) ↔
      Transition.MeetsAlong step (fun _ a => a ≠ .acquire) as (begin semaphore) := by
  have hunused : Unused (begin semaphore) := by
    unfold Semaphore.new at hnew
    split at hnew
    · exact nomatch hnew
    · next hcapacity =>
        rw [← Except.ok.inj hnew]
        exact ⟨fun n => Counter.noConfusion, rfl, Int.not_lt.mp hcapacity⟩
  have hinv : ∀ s a s', Unused s → step s a = some s' → Unused s' :=
    fun s a s' h hstep => (unused_step h hstep).2
  refine Transition.stepsAlong_iff_meetsAlong_of_invariant hinv
    (fun s a s' h hstep => ?_) as _ hunused
  exact iff_of_false (not_fair_of_unused h hstep) (not_not.mpr (unused_step h hstep).1)

theorem fair_iff_pair :
    Transition.StepsAlong step Fair [.acquire, .acquire] (begin ⟨[], .undefined, 2⟩) ↔
      Transition.MeetsAlong step (fun _ a => a ≠ .acquire) [.acquire, .acquire]
        (begin ⟨[], .undefined, 2⟩) :=
  @fair_iff 2 _ rfl _

/-- The first acquire of a new semaphore waits forever. -/
theorem first_acquire_pending :
    Semaphore.new 1 = .ok ⟨[], .undefined, 1⟩ ∧
      ¬ Transition.StepsAlong step Fair [.acquire] (begin ⟨[], .undefined, 1⟩) := by
  refine ⟨rfl, fun h => ?_⟩
  exact absurd (h.1.immediate rfl (by decide)) (by decide)

end Protocol

end Nxpod
