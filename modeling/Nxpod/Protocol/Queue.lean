import Nxpod.Library.Parties
import Nxpod.Library.Transition

/-!
# Queue

Asynchronous operations are serialized by a chain of promises. To enqueue one is to add a callback
to the promise at the end of the chain, and the promise which that makes is the new end.

The callbacks run as jobs, and a run takes any job that is ready, so what holds of all runs holds
of whatever order a scheduler prefers. An operation may enqueue others, which only makes the chain
longer, and may take any time to settle.

What carries the proofs is that a chain is known by two things: how many of its promises are
fulfilled, and how far the one call behind them has come. All callbacks further behind wait.

## Main definitions

* `PromiseState`: The states of a promise.
* `Phase`: How far the callback of a call has come.
* `Outcome`: What an operation does.
* `Call`: A call of `enqueue`.
* `Queue`: The promises, the calls of `enqueue`, and two histories of the operations.
* `Queue.enqueue`, `Queue.react`, `Queue.settle`, `Queue.adopt`: The jobs.
* `Action`: What can happen next: a call, or a job of the event loop.
* `Chained`: What is known of a queue.
* `Answered`: What the callers got.
* `Idle`: All operations settled, and no job is left.

## Theorems

* `chained_enqueue`, `of_react`, `of_settle`, `of_adopt`: One lemma for each job.
* `chained_run`: What a run of jobs does.
* `react_or_running_or_adopt`: Some job is ready or takes time while a call is not done.
* `serialized`: Every run.
-/

namespace Nxpod

namespace Protocol

/-- The states of a promise. -/
inductive PromiseState
  | pending
  | fulfilled
  | rejected
  deriving DecidableEq

/-- How far the callback of a call has come. -/
inductive Phase
  /-- It waits for the promise it was added to. -/
  | attached
  /-- It called the operation and awaits the result. -/
  | awaiting
  /-- It answered the caller. -/
  | returned
  /-- The promise that stands for it is settled. -/
  | done
  deriving DecidableEq

/-- How far a call has come, as a number. -/
def Phase.rank : Phase → Nat
  | .attached => 0
  | .awaiting => 1
  | .returned => 2
  | .done => 3

/-- What an operation does. -/
inductive Outcome (ε τ : Type*)
  | resolved (value : τ)
  | rejected (err : ε)
  | thrown (err : ε)

/-- What the caller of an operation gets. -/
def Outcome.answer {ε τ : Type*} : Outcome ε τ → Except ε τ
  | resolved value => .ok value
  | rejected err => .error err
  | thrown err => .error err

/-- A call of `enqueue`. -/
structure Call (ε τ : Type*) where
  /-- The promise the callback was added to. -/
  after : Nat
  /-- The promise this made. -/
  promise : Nat
  phase : Phase
  deferred : Option (Except ε τ)

/-- The promises, the calls of `enqueue`, and two histories of the operations. -/
structure Queue (ε τ : Type*) where
  promises : List PromiseState
  /-- The promise at the end of the chain. -/
  queue : Nat
  calls : List (Call ε τ)
  /-- The operations in the order in which they were started. -/
  started : List Nat
  /-- What they did, in the order in which they settled. -/
  outcomes : List (Nat × Outcome ε τ)

namespace Queue

variable {ε τ : Type*}

/-- A queue begins with a promise that is fulfilled. -/
def new : Queue ε τ := ⟨[.fulfilled], 0, [], [], []⟩

/-- A callback is added to the promise at the end, and a new promise becomes the end. -/
def enqueue (q : Queue ε τ) : Queue ε τ :=
  { q with
    promises := q.promises ++ [.pending]
    queue := q.promises.length
    calls := q.calls ++ [⟨q.queue, q.promises.length, .attached, none⟩] }

/-- A callback is called with what the promise before it is fulfilled with. A rejection is passed
on without it. -/
def react (q : Queue ε τ) (i : Nat) : Option (Queue ε τ) :=
  match q.calls[i]? with
  | some ⟨after, promise, .attached, deferred⟩ => match q.promises[after]? with
    | some .fulfilled => some { q with
        calls := q.calls.set i ⟨after, promise, .awaiting, deferred⟩
        started := q.started ++ [i] }
    | some .rejected => some { q with
        promises := q.promises.set promise .rejected
        calls := q.calls.set i ⟨after, promise, .done, deferred⟩ }
    | _ => none
  | _ => none

/-- The operation settles. A deferred is only settled once. -/
def settle (q : Queue ε τ) (i : Nat) (outcome : Outcome ε τ) : Option (Queue ε τ) :=
  match q.calls[i]? with
  | some ⟨after, promise, .awaiting, deferred⟩ => some { q with
      calls := q.calls.set i ⟨after, promise, .returned, deferred.or (some outcome.answer)⟩
      outcomes := q.outcomes ++ [(i, outcome)] }
  | _ => none

/-- The callback caught all errors, so its promise is fulfilled. -/
def adopt (q : Queue ε τ) (i : Nat) : Option (Queue ε τ) :=
  match q.calls[i]? with
  | some ⟨after, promise, .returned, deferred⟩ => some { q with
      promises := q.promises.set promise .fulfilled
      calls := q.calls.set i ⟨after, promise, .done, deferred⟩ }
  | _ => none

/-- What can happen next: a call, or a job of the event loop. -/
inductive Action (ε τ : Type*)
  | enqueue
  | react (i : Nat)
  | settle (i : Nat) (outcome : Outcome ε τ)
  | adopt (i : Nat)

/-- Whether it is a call. -/
def Action.isEnqueue : Action ε τ → Bool
  | enqueue => true
  | _ => false

/-- One step of the queue. It is `none` for a job that is not ready. -/
def step (q : Queue ε τ) : Action ε τ → Option (Queue ε τ)
  | .enqueue => some q.enqueue
  | .react i => q.react i
  | .settle i outcome => q.settle i outcome
  | .adopt i => q.adopt i

/-- The operation was called and did not settle. -/
def Running (q : Queue ε τ) (i : Nat) : Prop := ∃ c, q.calls[i]? = some c ∧ c.phase = .awaiting

/-- The operations that were called settled, and no job is left. -/
def Idle (q : Queue ε τ) : Prop :=
  (∀ i, ¬ Running q i) ∧ ∀ i, q.react i = none ∧ q.adopt i = none

/-! ## Chain -/

/-- The phase of each call, by how many are done and how far the next one has come. -/
def phaseAt (d : Nat) (stage : Phase) (i : Nat) : Phase :=
  if i < d then .done else if i = d then stage else .attached

/-- The call that is at work is in the phase it is known by. -/
theorem phaseAt_self {d : Nat} {stage : Phase} : phaseAt d stage d = stage := by
  rw [phaseAt, if_neg (Nat.lt_irrefl d), if_pos rfl]

/-- Only one call is neither done nor attached. -/
theorem eq_of_phaseAt {d i : Nat} {stage phase : Phase} (h : phaseAt d stage i = phase)
    (hdone : phase ≠ .done) (hattached : phase ≠ .attached) : i = d ∧ stage = phase := by
  unfold phaseAt at h
  split at h
  · exact absurd h.symm hdone
  · split at h
    · next hi => exact ⟨hi, h⟩
    · exact absurd h.symm hattached

theorem phaseAt_of_ne {d i : Nat} {stage stage' : Phase} (h : i ≠ d) :
    phaseAt d stage i = phaseAt d stage' i := by
  rw [phaseAt, phaseAt, if_neg h, if_neg h]

theorem phaseAt_succ {d i : Nat} : phaseAt (d + 1) .attached i = phaseAt d .done i := by
  unfold phaseAt
  rcases Nat.lt_trichotomy i d with hlt | heq | hgt
  · rw [if_pos (Nat.lt_succ_of_lt hlt), if_pos hlt]
  · rw [if_pos (heq ▸ Nat.lt_succ_self i), if_neg (heq ▸ Nat.lt_irrefl i), if_pos heq]
  · rw [if_neg (Nat.not_lt.mpr hgt), ite_self, if_neg (Nat.lt_asymm hgt), if_neg (Nat.ne_of_gt hgt)]

/-- The first `d` calls are done, the one behind them has come to `stage`, and the others wait. -/
structure Chained (q : Queue ε τ) (d : Nat) (stage : Phase) : Prop where
  done_le : d ≤ q.calls.length
  stage_ne : stage ≠ .done
  stage_eq : d = q.calls.length → stage = .attached
  queue : q.queue = q.calls.length
  length : q.promises.length = q.calls.length + 1
  promises : ∀ j, j ≤ q.calls.length →
    q.promises[j]? = some (if j ≤ d then .fulfilled else .pending)
  calls : ∀ i c, q.calls[i]? = some c →
    c.after = i ∧ c.promise = i + 1 ∧ c.phase = phaseAt d stage i
  started : q.started = List.range (d + if stage = .attached then 0 else 1)
  outcomes : q.outcomes.map Prod.fst = List.range (d + if stage = .returned then 1 else 0)

theorem chained_new : Chained (new : Queue ε τ) 0 .attached where
  done_le := Nat.le_refl 0
  stage_ne := Phase.noConfusion
  stage_eq := fun _ => rfl
  queue := rfl
  length := rfl
  promises := fun j hj => by
    rw [Nat.le_zero.mp hj]
    rfl
  calls := fun _ _ h => nomatch h
  started := rfl
  outcomes := rfl

variable {q q' : Queue ε τ} {d i : Nat} {stage : Phase}

theorem chained_enqueue (h : Chained q d stage) : Chained q.enqueue d stage := by
  have hcalls : q.enqueue.calls.length = q.calls.length + 1 := List.length_append
  constructor
  · rw [hcalls]
    exact Nat.le_succ_of_le h.done_le
  · exact h.stage_ne
  · rw [hcalls]
    exact fun heq => absurd h.done_le (by omega)
  · rw [hcalls]
    exact h.length
  · rw [hcalls, ← h.length]
    exact List.length_append
  · intro j hj
    rw [hcalls] at hj
    dsimp only [enqueue]
    by_cases hnew : j = q.calls.length + 1
    · have hlate : ¬ j ≤ d := fun hle => absurd h.done_le (by omega)
      rw [hnew, ← h.length, List.getElem?_concat_length, h.length, ← hnew, if_neg hlate]
    · rw [List.getElem?_append_left (by rw [h.length]; omega)]
      exact h.promises j (by omega)
  · intro i c hc
    dsimp only [enqueue] at hc
    by_cases hnew : i < q.calls.length
    · rw [List.getElem?_append_left hnew] at hc
      exact h.calls i c hc
    · have hi : i = q.calls.length := by
        have hlt := (List.getElem?_eq_some_iff.mp hc).1
        rw [List.length_append, List.length_singleton] at hlt
        omega
      rw [hi, List.getElem?_concat_length, Option.some.injEq] at hc
      rw [← hc, hi]
      refine ⟨h.queue, h.length, ?_⟩
      -- the new callback is attached also where it is the next one
      by_cases hd : q.calls.length = d
      · rw [hd, phaseAt_self, h.stage_eq hd.symm]
      · have hlate : ¬ q.calls.length < d := Nat.not_lt.mpr h.done_le
        rw [phaseAt, if_neg hlate, if_neg hd]
  · exact h.started
  · exact h.outcomes

/-- What a job at a call changes, whichever it is. The call is the one behind those that are
done, and the jobs differ in the histories and in whether a promise is settled. -/
theorem calls_set {calls : List (Call ε τ)} {c : Call ε τ} (c' : Call ε τ) {stage' : Phase}
    (hcalls : ∀ i c, calls[i]? = some c →
      c.after = i ∧ c.promise = i + 1 ∧ c.phase = phaseAt d stage i)
    (hc : calls[d]? = some c) (hafter : c'.after = c.after) (hpromise : c'.promise = c.promise)
    (hphase : c'.phase = stage') : ∀ i b, (calls.set d c')[i]? = some b →
      b.after = i ∧ b.promise = i + 1 ∧ b.phase = phaseAt d stage' i := by
  intro i b hb
  rw [Parties.getElem?_set_eq_ite hc] at hb
  by_cases hi : i = d
  · rw [if_pos hi, Option.some.injEq] at hb
    rcases hcalls d c hc with ⟨ha, hp, -⟩
    rw [← hb, hi, phaseAt_self]
    exact ⟨hafter.trans ha, hpromise.trans hp, hphase⟩
  · rw [if_neg hi] at hb
    have hsame : phaseAt d stage' i = phaseAt d stage i := phaseAt_of_ne hi
    rw [hsame]
    exact hcalls i b hb

/-- A callback that reacts is the next one, and the promise before it is never rejected. -/
theorem of_react (h : Chained q d stage) (hstep : q.react i = some q') :
    stage = .attached ∧ Chained q' d .awaiting ∧ q'.calls.length = q.calls.length := by
  unfold react at hstep
  split at hstep
  · next after promise deferred hc =>
      have hlt := (List.getElem?_eq_some_iff.mp hc).1
      rcases h.calls i _ hc with ⟨ha, -, hphase⟩
      dsimp only at ha hphase
      rw [ha, h.promises i (Nat.le_of_lt hlt)] at hstep
      have hle : i ≤ d := by
        by_contra hnot
        rw [if_neg hnot] at hstep
        exact nomatch hstep
      rw [if_pos hle, Option.some.injEq] at hstep
      -- those before are done, so it is the next one
      have hi : i = d := by
        by_contra hne
        rw [phaseAt, if_pos (Nat.lt_of_le_of_ne hle hne)] at hphase
        exact nomatch hphase
      subst hi
      rw [phaseAt_self] at hphase
      subst hphase
      rw [← hstep]
      refine ⟨rfl, ?_, List.length_set⟩
      constructor
      · rw [List.length_set]
        exact h.done_le
      · exact Phase.noConfusion
      · rw [List.length_set]
        exact fun heq => absurd hlt (Nat.not_lt.mpr (Nat.le_of_eq heq.symm))
      · rw [List.length_set]
        exact h.queue
      · rw [List.length_set]
        exact h.length
      · rw [List.length_set]
        exact h.promises
      · exact calls_set ⟨i, promise, .awaiting, deferred⟩ h.calls hc ha.symm rfl rfl
      · rw [h.started, if_pos rfl, if_neg Phase.noConfusion, List.range_succ, Nat.add_zero]
      · exact h.outcomes
  · exact nomatch hstep

/-- The inversion lemma for an operation that settles. -/
theorem of_settle {outcome : Outcome ε τ} (h : Chained q d stage)
    (hstep : q.settle i outcome = some q') :
    stage = .awaiting ∧ i = d ∧ Chained q' d .returned ∧ q'.calls.length = q.calls.length := by
  unfold settle at hstep
  split at hstep
  · next after promise deferred hc =>
      have hlt := (List.getElem?_eq_some_iff.mp hc).1
      -- Only the call whose turn it is has been called and not settled.
      rcases eq_of_phaseAt (h.calls i _ hc).2.2.symm Phase.noConfusion Phase.noConfusion
        with ⟨hi, hstage⟩
      rw [Option.some.injEq] at hstep
      subst hi hstage
      rw [← hstep]
      refine ⟨rfl, rfl, ?_, List.length_set⟩
      constructor
      · rw [List.length_set]
        exact h.done_le
      · exact Phase.noConfusion
      · rw [List.length_set]
        exact fun heq => absurd hlt (Nat.not_lt.mpr (Nat.le_of_eq heq.symm))
      · rw [List.length_set]
        exact h.queue
      · rw [List.length_set]
        exact h.length
      · rw [List.length_set]
        exact h.promises
      · exact calls_set _ h.calls hc rfl rfl rfl
      · exact h.started
      · rw [List.map_append, h.outcomes, if_neg Phase.noConfusion, if_pos rfl, List.range_succ,
          Nat.add_zero]
        rfl
  · exact nomatch hstep

/-- The inversion lemma for a promise that follows another one. -/
theorem of_adopt (h : Chained q d stage) (hstep : q.adopt i = some q') :
    stage = .returned ∧ Chained q' (d + 1) .attached ∧ q'.calls.length = q.calls.length := by
  unfold adopt at hstep
  split at hstep
  · next after promise deferred hc =>
      have hlt := (List.getElem?_eq_some_iff.mp hc).1
      rcases h.calls i _ hc with ⟨-, hpromise, hphase⟩
      dsimp only at hpromise
      rcases eq_of_phaseAt hphase.symm Phase.noConfusion Phase.noConfusion with ⟨hi, hstage⟩
      rw [Option.some.injEq] at hstep
      subst hi hstage
      rw [← hstep]
      refine ⟨rfl, ?_, List.length_set⟩
      constructor
      · rw [List.length_set]
        exact hlt
      · exact Phase.noConfusion
      · exact fun _ => rfl
      · rw [List.length_set]
        exact h.queue
      · rw [List.length_set, List.length_set]
        exact h.length
      · intro j hj
        rw [List.length_set] at hj
        have hold := h.promises (i + 1) hlt
        rw [hpromise, Parties.getElem?_set_eq_ite hold]
        -- The promise that is settled is the one the next call waits for.
        by_cases heq : j = i + 1
        · rw [if_pos heq, if_pos (Nat.le_of_eq heq)]
        · rw [if_neg heq, h.promises j hj]
          congr 2
          exact propext (by omega)
      · intro j b hb
        rw [phaseAt_succ]
        exact calls_set ⟨after, promise, .done, deferred⟩ h.calls hc rfl rfl rfl j b hb
      · rw [h.started]
        rfl
      · exact h.outcomes
  · exact nomatch hstep

/-! ## Answers -/

/-- What each caller got is what its own operation did. -/
def Answered (q : Queue ε τ) : Prop :=
  ∀ i c r, q.calls[i]? = some c →
    (c.deferred = some r ↔ ∃ outcome, (i, outcome) ∈ q.outcomes ∧ outcome.answer = r)

theorem answered_new : Answered (new : Queue ε τ) := fun _ _ _ hc => nomatch hc

/-- Only calls that were made settled. -/
theorem lt_of_mem_outcomes {outcome : Outcome ε τ} (h : Chained q d stage)
    (hmem : (i, outcome) ∈ q.outcomes) : i < d + if stage = .returned then 1 else 0 := by
  rw [← List.mem_range, ← h.outcomes]
  exact List.mem_map_of_mem hmem

theorem answered_enqueue (h : Chained q d stage) (ha : Answered q) : Answered q.enqueue := by
  intro i c r hc
  dsimp only [enqueue] at hc ⊢
  by_cases hold : i < q.calls.length
  · rw [List.getElem?_append_left hold] at hc
    exact ha i c r hc
  · rw [List.getElem?_append_right (Nat.le_of_not_lt hold)] at hc
    rw [List.mem_singleton.mp (List.mem_of_getElem? hc)]
    refine iff_of_false nofun ?_
    rintro ⟨outcome, hmem, -⟩
    have hlt := lt_of_mem_outcomes h hmem
    split at hlt
    · next hreturned =>
        -- a call that returned is one of those that were made
        have hne : d ≠ q.calls.length := fun heq => by
          rw [h.stage_eq heq] at hreturned
          exact nomatch hreturned
        exact hold (Nat.lt_of_lt_of_le hlt (Nat.lt_of_le_of_ne h.done_le hne))
    · exact hold (Nat.lt_of_lt_of_le hlt h.done_le)

/-- A job that neither settles an operation nor answers a caller. -/
theorem answered_set {c c' : Call ε τ} {promises : List PromiseState} {started : List Nat}
    (ha : Answered q) (hc : q.calls[i]? = some c) (hdeferred : c'.deferred = c.deferred) :
    Answered { q with promises, calls := q.calls.set i c', started } := by
  intro j b r hb
  dsimp only at hb ⊢
  rw [Parties.getElem?_set_eq_ite hc] at hb
  split at hb
  · next hj =>
      rw [← Option.some.inj hb, hdeferred, hj]
      exact ha i c r hc
  · exact ha j b r hb

theorem answered_react (ha : Answered q) (hstep : q.react i = some q') : Answered q' := by
  unfold react at hstep
  split at hstep
  · next after promise deferred hc =>
      split at hstep
      · rw [← Option.some.inj hstep]
        exact answered_set ha hc (by rfl)
      · rw [← Option.some.inj hstep]
        exact answered_set ha hc (by rfl)
      · exact nomatch hstep
  · exact nomatch hstep

theorem answered_adopt (ha : Answered q) (hstep : q.adopt i = some q') : Answered q' := by
  unfold adopt at hstep
  split at hstep
  · next hc =>
      rw [← Option.some.inj hstep]
      exact answered_set ha hc (by rfl)
  · exact nomatch hstep

theorem answered_settle {outcome : Outcome ε τ} (h : Chained q d stage) (ha : Answered q)
    (hstep : q.settle i outcome = some q') : Answered q' := by
  rcases of_settle h hstep with ⟨hstage, hi, -, -⟩
  -- the operation settles for the first time
  have hnew : ∀ outcome', (i, outcome') ∉ q.outcomes := fun outcome' hmem => by
    have hlt := lt_of_mem_outcomes h hmem
    rw [hstage, hi, if_neg Phase.noConfusion] at hlt
    exact Nat.lt_irrefl d hlt
  unfold settle at hstep
  split at hstep
  · next after promise deferred hc =>
      rw [← Option.some.inj hstep]
      have hnone : deferred = none := by
        cases hsome : deferred with
        | none => rfl
        | some r =>
            rcases (ha i _ r hc).mp hsome with ⟨outcome', hmem, -⟩
            exact absurd hmem (hnew outcome')
      intro j b r hb
      dsimp only at hb ⊢
      rw [Parties.getElem?_set_eq_ite hc, hnone, Option.none_or] at hb
      split at hb
      · next hj =>
          rw [← Option.some.inj hb, hj, Option.some.injEq]
          constructor
          · intro hr
            exact ⟨outcome, List.mem_append_right _ (List.mem_singleton_self _), hr⟩
          · rintro ⟨outcome', hmem, hr⟩
            rcases List.mem_append.mp hmem with hmem | hmem
            · exact absurd hmem (hnew outcome')
            · rw [← hr, (Prod.mk.inj (List.mem_singleton.mp hmem)).2]
      · next hj =>
          rw [ha j b r hb]
          refine exists_congr fun outcome' => and_congr_left' ?_
          rw [List.mem_append, List.mem_singleton, Prod.mk.injEq]
          exact ⟨Or.inl, fun hor => hor.elim id fun heq => absurd heq.1 hj⟩
  · exact nomatch hstep

/-! ## Runs -/

/-- What is known of a queue whenever a job ends. -/
def Tidy (q : Queue ε τ) : Prop := Answered q ∧ ∃ d stage, Chained q d stage

/-- The step lemma: the queue stays tidy. -/
theorem tidy_step {a : Action ε τ} (h : Tidy q) (hstep : step q a = some q') : Tidy q' := by
  rcases h with ⟨ha, d, stage, hchained⟩
  cases a with
  | enqueue =>
      rw [← Option.some.inj hstep]
      exact ⟨answered_enqueue hchained ha, d, stage, chained_enqueue hchained⟩
  | react i => exact ⟨answered_react ha hstep, d, .awaiting, (of_react hchained hstep).2.1⟩
  | settle i outcome =>
      exact ⟨answered_settle hchained ha hstep, d, .returned, (of_settle hchained hstep).2.2.1⟩
  | adopt i => exact ⟨answered_adopt ha hstep, d + 1, .attached, (of_adopt hchained hstep).2.1⟩

/-- Every run from a new queue leaves it tidy. -/
theorem tidy_of_run {as : List (Action ε τ)} (hrun : Transition.runActions step as new = some q) :
    Tidy q := by
  have hstep : ∀ (s s' : Queue ε τ) (a : Action ε τ),
      Transition.ReachesWithin step (fun _ _ => True) new s → Tidy s → True →
        step s a = some s' → Tidy s' := fun _ _ _ _ h _ hstep => tidy_step h hstep
  exact Transition.invariant_of_reachesWithin hstep (Transition.reaches_of_runActions hrun)
    ⟨answered_new, 0, .attached, chained_new⟩

/-- Only the call behind those that are done runs. -/
theorem eq_of_running (h : Chained q d stage) (hi : Running q i) : i = d := by
  rcases hi with ⟨c, hc, hphase⟩
  exact (eq_of_phaseAt ((h.calls i c hc).2.2.symm.trans hphase) Phase.noConfusion
    Phase.noConfusion).1

/-- The call behind those that are done can always go on, unless its operation takes time. -/
theorem react_or_running_or_adopt (h : Chained q d stage) (hlt : d < q.calls.length) :
    (q.react d).isSome ∨ Running q d ∨ (q.adopt d).isSome := by
  have hc := List.getElem?_eq_getElem hlt
  rcases h.calls d _ hc with ⟨hafter, -, hphase⟩
  rw [phaseAt_self] at hphase
  rcases hcall : q.calls[d] with ⟨after, promise, phase, deferred⟩
  rw [hcall] at hc hafter hphase
  dsimp only at hafter hphase
  subst hafter hphase
  cases phase with
  | attached =>
      left
      rw [react, hc]
      dsimp only
      rw [h.promises after h.done_le, if_pos (Nat.le_refl after)]
      rfl
  | awaiting =>
      right
      left
      exact ⟨_, hc, rfl⟩
  | returned =>
      right
      right
      rw [adopt, hc]
      rfl
  | done => exact absurd rfl h.stage_ne

/-- Where nothing is left to do, all calls are done. -/
theorem done_of_idle (h : Chained q d stage) (hidle : Idle q) : d = q.calls.length := by
  by_contra hne
  have hlt := Nat.lt_of_le_of_ne h.done_le hne
  rcases react_or_running_or_adopt h hlt with hreact | hrunning | hadopt
  · rw [(hidle.2 d).1] at hreact
    exact nomatch hreact
  · exact hidle.1 d hrunning
  · rw [(hidle.2 d).2] at hadopt
    exact nomatch hadopt

/-- Without new calls every step brings the one call further by one stage. -/
theorem chained_run {bs : List (Action ε τ)} (h : Chained q d stage)
    (hbs : ∀ b ∈ bs, b.isEnqueue = false)
    (hrun : Transition.runActions step bs q = some q') :
    ∃ d' stage', Chained q' d' stage' ∧ q'.calls.length = q.calls.length ∧
      3 * d' + stage'.rank = 3 * d + stage.rank + bs.length := by
  induction bs generalizing q d stage with
  | nil =>
      rw [← Option.some.inj hrun]
      exact ⟨d, stage, h, rfl, rfl⟩
  | cons b bs ih =>
      rw [Transition.runActions] at hrun
      cases hstep : step q b with
      | none =>
          rw [hstep] at hrun
          cases hrun
      | some r =>
          rw [hstep] at hrun
          have hrest : ∀ b ∈ bs, b.isEnqueue = false :=
            fun b hb => hbs b (List.mem_cons_of_mem _ hb)
          -- A call has three stages, so its rank and three times the calls before it grow by one.
          have hnext : ∃ d' stage', Chained r d' stage' ∧ r.calls.length = q.calls.length ∧
              3 * d' + stage'.rank = 3 * d + stage.rank + 1 := by
            cases b with
            | enqueue => cases hbs .enqueue List.mem_cons_self
            | react i =>
                rcases of_react h hstep with ⟨rfl, hr, hlength⟩
                exact ⟨d, .awaiting, hr, hlength, rfl⟩
            | settle i outcome =>
                rcases of_settle h hstep with ⟨rfl, -, hr, hlength⟩
                exact ⟨d, .returned, hr, hlength, rfl⟩
            | adopt i =>
                rcases of_adopt h hstep with ⟨rfl, hr, hlength⟩
                exact ⟨d + 1, .attached, hr, hlength, rfl⟩
          rcases hnext with ⟨d', stage', hr, hlength, hrank⟩
          rcases ih hr hrest hrun with ⟨d'', stage'', hq', hlength', hrank'⟩
          refine ⟨d'', stage'', hq', hlength'.trans hlength, ?_⟩
          rw [hrank', hrank, List.length_cons]
          omega

/-- Without new calls three steps a call are all there is. -/
theorem length_le_of_run {bs : List (Action ε τ)} (h : Chained q d stage)
    (hbs : ∀ b ∈ bs, b.isEnqueue = false)
    (hrun : Transition.runActions step bs q = some q') : bs.length ≤ 3 * q.calls.length := by
  rcases chained_run h hbs hrun with ⟨d', stage', h', hlength, hrank⟩
  rw [← hlength]
  have hle := h'.done_le
  have heq := h'.stage_eq
  by_cases hlast : d' = q'.calls.length
  · rw [heq hlast, Phase.rank] at hrank
    omega
  · have hstage : stage'.rank ≤ 3 := by
      cases stage' <;> decide
    omega

/-- Between being called and settling there is at most one operation. -/
theorem returned_le_called (stage : Phase) :
    (if stage = .returned then 1 else 0) ≤ (if stage = .attached then 0 else 1) ∧
      (if stage = .attached then 0 else 1) ≤ (if stage = .returned then 1 else 0) + 1 := by
  cases stage <;> decide

/-- Operations run one at a time and start in the order of the calls, each once, and each
    settles once. Every caller gets what its own operation did. Once nothing is left to do, all
    operations ran and all callers have an answer, and as long as something is, there are at
    most three steps a call until then. The last part is for whoever waits: an operation that
    fails does not stop the queue. -/
theorem serialized (as : List (Action ε τ)) (q : Queue ε τ)
    (hrun : Transition.runActions step as new = some q) :
    (∀ i j, Running q i → Running q j → i = j) ∧
    q.started = List.range q.started.length ∧ q.started.length ≤ q.calls.length ∧
    q.outcomes.map Prod.fst = List.range q.outcomes.length ∧
    q.outcomes.length ≤ q.started.length ∧ q.started.length ≤ q.outcomes.length + 1 ∧
    (∀ i c r, q.calls[i]? = some c →
      (c.deferred = some r ↔ ∃ outcome, (i, outcome) ∈ q.outcomes ∧ outcome.answer = r)) ∧
    (Idle q → q.started = List.range q.calls.length ∧
      ∀ (i : Nat) (c : Call ε τ), q.calls[i]? = some c → c.deferred.isSome = true) ∧
    ∀ bs q', (∀ b ∈ bs, b.isEnqueue = false) → Transition.runActions step bs q = some q' →
      bs.length ≤ 3 * q.calls.length := by
  rcases tidy_of_run hrun with ⟨hanswered, d, stage, h⟩
  have hlast : d + (if stage = .attached then 0 else 1) ≤ q.calls.length := by
    split
    · exact h.done_le
    · next hstage => exact Nat.lt_of_le_of_ne h.done_le fun heq => hstage (h.stage_eq heq)
  have hlength := congrArg List.length h.started
  have hlength' := congrArg List.length h.outcomes
  rw [List.length_range] at hlength hlength'
  rw [List.length_map] at hlength'
  refine ⟨fun i j hi hj => (eq_of_running h hi).trans (eq_of_running h hj).symm, ?_, ?_, ?_, ?_,
    ?_, hanswered, fun hidle => ?_, fun bs q' hbs hbsRun => length_le_of_run h hbs hbsRun⟩
  · rw [hlength]
    exact h.started
  · rw [hlength]
    exact hlast
  · rw [hlength']
    exact h.outcomes
  · rw [hlength, hlength']
    exact Nat.add_le_add_left (returned_le_called stage).1 d
  · rw [hlength, hlength', Nat.add_assoc]
    exact Nat.add_le_add_left (returned_le_called stage).2 d
  · have hd := done_of_idle h hidle
    have hstage := h.stage_eq hd
    have hstarted := h.started
    have houtcomes := h.outcomes
    rw [hstage, if_pos rfl, Nat.add_zero, hd] at hstarted
    rw [hstage, if_neg Phase.noConfusion, Nat.add_zero, hd] at houtcomes
    refine ⟨hstarted, fun i c hc => ?_⟩
    -- When all are done, each has an outcome, and that is its answer.
    have hmem : i ∈ q.outcomes.map Prod.fst := by
      rw [houtcomes, List.mem_range]
      exact (List.getElem?_eq_some_iff.mp hc).1
    rcases List.mem_map.mp hmem with ⟨⟨j, outcome⟩, hmem, hj⟩
    dsimp only at hj
    rw [hj] at hmem
    rw [(hanswered i c outcome.answer hc).mpr ⟨outcome, hmem, rfl⟩]
    rfl

/-- The first operation enqueues the second one and fails. -/
theorem serialized_pair :
    ∃ q : Queue String Nat, Transition.runActions step
        [.enqueue, .react 0, .enqueue, .settle 0 (.rejected "test error"), .adopt 0, .react 1,
          .settle 1 (.resolved 3), .adopt 1] new = some q ∧
      q.started = [0, 1] ∧ q.outcomes.map Prod.fst = List.range q.outcomes.length := by
  refine Transition.exists_run_of_any (fun q => decide (q.started = [0, 1])) rfl
    fun q hrun hstarted => ⟨of_decide_eq_true hstarted, ?_⟩
  exact (serialized _ q hrun).2.2.2.1

end Queue

end Protocol

end Nxpod
