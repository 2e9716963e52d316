import Mathlib.Algebra.GroupWithZero.Nat
import Nxpod.Library.Transition
import Nxpod.Library.Weights

/-!
# Uploading in Chunks

`uploadChunks` cuts a file into chunks, and a goroutine for each uploads it. A
goroutine that fails sends its error to a channel with room for one, then
closes its writer and leaves the wait group. One more goroutine waits for the
group and closes another channel. The call itself selects: it returns the error
it receives, or nil when the second channel is closed.

When one chunk fails, its error fits into the channel, the group is left by all
of them, and the select may find both channels ready and take the one that
says that everything went well. When two fail, the second one cannot send until
the first error was received, so the group is not left before. An error of
closing a writer is not looked at at all.

## Main definitions

* `Chunk`: A part of the file, and what becomes of it.
* `chunkSizes`, `uploadChunks`: How the file is cut, and where the call starts.
* `Progress`: Where a goroutine is.
* `Worker`: A goroutine and its chunk.
* `Upload`, `step`: The goroutines, the channels and the call.
* `Action`: A goroutine goes on, the group is waited for, or the select takes
  one of its cases.
* `Reports`: A failure is reported.
* `Moves`: Where a goroutine goes from here, and what is in the channel then.
* `Effect`: What a step can do.

## Theorems

* `sum_chunkSizes`: The chunks make up the file.
* `effect_of_step`: All that a step can do.
* `inv_step`: What a step preserves.
* `remaining_step`, `exists_step`: The call returns.
* `reaches_done`: One goroutine after the other.
* `reports_iff`: When failures are reported.
-/

namespace Nxpod

namespace Content

namespace UploadChunks

open Transition Weights

/-! ## The chunks -/

/-- What becomes of a chunk: what `io.Copy` returns, and `Close` of the writer. -/
structure ChunkOutcome where
  written : Nat
  copyErr : Option String
  closeErr : Option String
  deriving DecidableEq

/-- A part of the file, and what will come of its upload. -/
structure Chunk where
  size : Nat
  outcome : ChunkOutcome
  deriving DecidableEq

namespace Chunk

/-- The error that is sent to the channel. -/
def sends (c : Chunk) : Option String :=
  match c.outcome.copyErr with
  | some err => some err
  | none =>
    if c.outcome.written ≠ c.size then
      some ("Wrote fewer bytes than it should have, " ++ toString c.outcome.written ++
        " instead of " ++ toString c.size)
    else none

/-- The chunk was completely stored. -/
def Stored (c : Chunk) : Prop :=
  c.outcome.copyErr = none ∧ c.outcome.written = c.size ∧ c.outcome.closeErr = none

instance (c : Chunk) : Decidable c.Stored :=
  inferInstanceAs (Decidable (_ ∧ _ ∧ _))

end Chunk

/-- What the storage wants a chunk to be a multiple of. -/
def minChunkSize : Nat :=
  256 * 1024

/-- The size is rounded down to a multiple, and is at least that. -/
def chunkSize (totalSize desiredChunkCount : Nat) : Nat :=
  let size := totalSize / desiredChunkCount / minChunkSize * minChunkSize
  if size < minChunkSize then minChunkSize else size

/-- The last chunk is what is left, and that may be nothing. -/
def chunkSizes (totalSize desiredChunkCount : Nat) : List Nat :=
  let size := chunkSize totalSize desiredChunkCount
  (List.range (totalSize / size + 1)).map fun i =>
    if i * size + size > totalSize then totalSize - i * size else size

theorem chunkSize_pos (totalSize desiredChunkCount : Nat) :
    0 < chunkSize totalSize desiredChunkCount := by
  unfold chunkSize
  dsimp only
  split_ifs with hsmall
  · decide
  · exact Nat.lt_of_lt_of_le (by decide) (Nat.le_of_not_lt hsmall)

/-- The chunks make up the file. -/
theorem sum_chunkSizes (totalSize desiredChunkCount : Nat) :
    (chunkSizes totalSize desiredChunkCount).sum = totalSize := by
  have hpos := chunkSize_pos totalSize desiredChunkCount
  unfold chunkSizes
  dsimp only
  generalize chunkSize totalSize desiredChunkCount = size at hpos ⊢
  -- all but the last chunk are full
  have hfull : ∀ k, k * size ≤ totalSize → ((List.range k).map fun i =>
      if i * size + size > totalSize then totalSize - i * size else size).sum = k * size := by
    intro k hk
    induction k with
    | zero => rw [List.range_zero, List.map_nil, List.sum_nil, Nat.zero_mul]
    | succ k ih =>
        rw [Nat.succ_mul] at hk
        rw [List.range_succ, List.map_append, List.sum_append, ih (by omega), List.map_singleton,
          List.sum_singleton, if_neg (by omega), Nat.succ_mul]
  have hdiv := Nat.div_mul_le_self totalSize size
  have hlast : totalSize / size * size + size > totalSize := by
    have hmod := Nat.mod_lt totalSize hpos
    have hsum := Nat.div_add_mod totalSize size
    rw [Nat.mul_comm] at hsum
    omega
  rw [List.range_succ, List.map_append, List.sum_append, hfull _ hdiv, List.map_singleton,
    List.sum_singleton, if_pos hlast]
  omega

/-! ## The goroutines -/

/-- Where a goroutine is. Whether closing the writer works is not among it. -/
inductive Progress
  | copying
  | sending (err : String)
  | closing
  | closed
  | done
  deriving DecidableEq

/-- A goroutine and its chunk. -/
structure Worker where
  chunk : Chunk
  progress : Progress
  deriving DecidableEq

/-- The goroutines, the wait group, the two channels, and what the call has
    returned. -/
structure Upload where
  workers : List Worker
  wg : Nat
  finished : Bool
  errChannel : Option String
  result : Option (Option String)
  deriving DecidableEq

/-- A goroutine goes on, the group is waited for, or the select takes one of its
    cases. -/
inductive Action
  | worker (i : Nat)
  | wait
  | selectFinished
  | selectErr

/-- A step of `uploadChunk`. The error of `Close` is dropped. -/
def advance (s : Upload) (i : Nat) (w : Worker) : Option Upload :=
  match w.progress with
  | .copying => some { s with workers := s.workers.set i { w with progress :=
      match w.chunk.sends with
      | some err => .sending err
      | none => .closing } }
  | .sending err =>
      if s.errChannel = none then
        some { s with
          workers := s.workers.set i { w with progress := .closing }
          errChannel := some err }
      else none
  | .closing => some { s with workers := s.workers.set i { w with progress := .closed } }
  | .closed => some { s with
      workers := s.workers.set i { w with progress := .done }
      wg := s.wg - 1 }
  | .done => none

/-- A select that has two cases ready takes any of them. -/
def step (s : Upload) : Action → Option Upload
  | .worker i => match s.workers[i]? with
    | none => none
    | some w => advance s i w
  | .wait => if s.wg = 0 ∧ s.finished = false then some { s with finished := true } else none
  | .selectFinished =>
      if s.result = none ∧ s.finished = true then some { s with result := some none } else none
  | .selectErr => match s.result, s.errChannel with
    | none, some err => some { s with errChannel := none, result := some (some err) }
    | _, _ => none

/-- All goroutines have been started. -/
def start (chunks : List Chunk) : Upload where
  workers := chunks.map fun c => ⟨c, .copying⟩
  wg := chunks.length
  finished := false
  errChannel := none
  result := none

/-- The checks, and the chunks. -/
def cut (totalSize : Nat) (desiredChunkCount : Int) (outcome : Nat → ChunkOutcome) :
    Except String (List Chunk) :=
  if totalSize = 0 then .error "Total size must be greater than zero"
  else if desiredChunkCount < 1 then
    .error "Desired chunk count must be greater (or equal to) one"
  else .ok ((chunkSizes totalSize desiredChunkCount.toNat).mapIdx fun i size => ⟨size, outcome i⟩)

/-- An error, or where the goroutines start. -/
def uploadChunks (totalSize : Nat) (desiredChunkCount : Int) (outcome : Nat → ChunkOutcome) :
    Except String Upload :=
  (cut totalSize desiredChunkCount outcome).map start

/-! ## Reporting failures -/

/-- Nil is returned only if every chunk was stored, and the call returns. -/
def Reports (s₀ : Upload) : Prop :=
  ∀ s, ReachesWithin step (fun _ _ => True) s₀ s →
    (s.result = some none → ∀ w ∈ s₀.workers, w.chunk.Stored) ∧
      ((∀ a, step s a = none) → s.result ≠ none)

/-! ## What a step does -/

variable {s s' : Upload} {a : Action}

/-- Where a goroutine goes from here, and what is in the channel then. -/
inductive Moves (c : Chunk) : Progress → Option String → Progress → Option String → Prop
  | fails (err : String) (h : c.sends = some err) (channel : Option String) :
      Moves c .copying channel (.sending err) channel
  | copies (h : c.sends = none) (channel : Option String) :
      Moves c .copying channel .closing channel
  | sends (err : String) : Moves c (.sending err) none .closing (some err)
  | closes (channel : Option String) : Moves c .closing channel .closed channel
  | leaves (channel : Option String) : Moves c .closed channel .done channel

/-- What a step can do. -/
inductive Effect (s : Upload) : Upload → Prop
  | moved (s' : Upload) (i : Nat) (w : Worker) (p : Progress) (hw : s.workers[i]? = some w)
      (hmoves : Moves w.chunk w.progress s.errChannel p s'.errChannel)
      (hworkers : s'.workers = s.workers.set i { w with progress := p })
      (hwg : s'.wg = if p = .done then s.wg - 1 else s.wg)
      (hfinished : s'.finished = s.finished) (hresult : s'.result = s.result) : Effect s s'
  | waited (hwg : s.wg = 0) (hfinished : s.finished = false) :
      Effect s { s with finished := true }
  | selectedFinished (hresult : s.result = none) (hfinished : s.finished = true) :
      Effect s { s with result := some none }
  | selectedErr (err : String) (hresult : s.result = none) (herr : s.errChannel = some err) :
      Effect s { s with errChannel := none, result := some (some err) }

theorem effect_of_advance {i : Nat} {w : Worker} (hw : s.workers[i]? = some w)
    (h : advance s i w = some s') : Effect s s' := by
  unfold advance at h
  cases hp : w.progress with
  | copying =>
      rw [hp, Option.some.injEq] at h
      rw [← h]
      cases hsends : w.chunk.sends with
      | some err =>
          exact .moved _ i w _ hw (by rw [hp]; exact .fails err hsends _) rfl rfl rfl rfl
      | none => exact .moved _ i w _ hw (by rw [hp]; exact .copies hsends _) rfl rfl rfl rfl
  | sending err =>
      rw [hp, Option.ite_none_right_eq_some, Option.some.injEq] at h
      rw [← h.2]
      exact .moved _ i w _ hw (by rw [hp, h.1]; exact .sends err) rfl rfl rfl rfl
  | closing =>
      rw [hp, Option.some.injEq] at h
      rw [← h]
      exact .moved _ i w _ hw (by rw [hp]; exact .closes _) rfl rfl rfl rfl
  | closed =>
      rw [hp, Option.some.injEq] at h
      rw [← h]
      exact .moved _ i w _ hw (by rw [hp]; exact .leaves _) rfl rfl rfl rfl
  | done =>
      rw [hp] at h
      exact absurd h nofun

/-- All that a step can do. -/
theorem effect_of_step (h : step s a = some s') : Effect s s' := by
  cases a with
  | worker i =>
      rw [step] at h
      split at h
      · exact absurd h nofun
      · next w hw => exact effect_of_advance hw h
  | wait =>
      rw [step, Option.ite_none_right_eq_some, Option.some.injEq] at h
      rw [← h.2]
      exact .waited h.1.1 h.1.2
  | selectFinished =>
      rw [step, Option.ite_none_right_eq_some, Option.some.injEq] at h
      rw [← h.2]
      exact .selectedFinished h.1.1 h.1.2
  | selectErr =>
      rw [step] at h
      split at h
      · next err hresult herr =>
          rw [Option.some.injEq] at h
          rw [← h]
          exact .selectedErr err hresult herr
      · exact absurd h nofun

/-! ## The invariant -/

/-- The goroutine has not left the wait group. -/
def inGroup (w : Worker) : Nat :=
  if w.progress = .done then 0 else 1

/-- The goroutine has an error to send. -/
def fails (w : Worker) : Nat :=
  if w.chunk.sends.isSome then 1 else 0

/-- The goroutine has sent its error. -/
def sent (w : Worker) : Nat :=
  match w.progress with
  | .copying | .sending _ => 0
  | .closing | .closed | .done => fails w

/-- Who waits for the group waits for the goroutines; they send their own errors;
    while the call waits, the error that was sent is in the channel; and nil is
    returned only when all have left the group and one error was sent at most. -/
structure Inv (s : Upload) : Prop where
  wg : s.wg = weigh inGroup s.workers
  finished : s.finished = true → weigh inGroup s.workers = 0
  sending : ∀ w ∈ s.workers, ∀ err, w.progress = .sending err → w.chunk.sends = some err
  waiting : s.result = none → weigh sent s.workers = s.errChannel.toList.length
  nil : s.result = some none → weigh fails s.workers ≤ 1

theorem inGroup_eq (w : Worker) : inGroup w = 0 ↔ w.progress = .done := by
  unfold inGroup
  split_ifs with h
  · exact iff_of_true rfl h
  · exact iff_of_false nofun h

/-- Where all have left the group, all that fail have sent. -/
theorem fails_le_sent (h : weigh inGroup s.workers = 0) :
    weigh fails s.workers ≤ weigh sent s.workers := by
  refine weigh_le_weigh fun w hw => ?_
  have hdone := (inGroup_eq w).mp (weigh_eq_zero_iff.mp h w hw)
  have hsent : sent w = fails w := by
    unfold sent
    rw [hdone]
  exact Nat.le_of_eq hsent.symm

theorem ne_done_of_moves {c : Chunk} {p q : Progress} {channel channel' : Option String}
    (h : Moves c q channel p channel') : q ≠ .done := by
  cases h <;> exact nofun

theorem sending_of_moves {c : Chunk} {p q : Progress} {channel channel' : Option String}
    {err : String} (h : Moves c q channel p channel') (hp : p = .sending err) :
    c.sends = some err := by
  cases h with
  | fails err' hsends => rw [hsends, ← Progress.sending.inj hp]
  | _ => exact absurd hp nofun

/-- What a goroutine has sent and what is in the channel change together. -/
theorem sent_of_moves {w : Worker} {p q : Progress} {channel channel' : Option String}
    (h : Moves w.chunk q channel p channel') (hq : w.progress = q)
    (hsending : ∀ err, q = .sending err → w.chunk.sends = some err) :
    sent { w with progress := p } + channel.toList.length =
      sent w + channel'.toList.length := by
  have hbefore : sent w = sent { w with progress := q } := by rw [← hq]
  rw [hbefore]
  cases h with
  | fails | closes | leaves => rfl
  | copies hnone =>
      have hzero : fails w = 0 := by
        unfold fails
        rw [hnone]
        rfl
      exact congrArg (· + channel.toList.length) hzero
  | sends err =>
      have hone : fails w = 1 := by
        unfold fails
        rw [hsending err rfl]
        rfl
      exact congrArg (· + 0) hone

theorem inv_start (chunks : List Chunk) : Inv (start chunks) where
  wg := by
    unfold start
    induction chunks with
    | nil => rfl
    | cons c chunks ih =>
        dsimp only at ih ⊢
        rw [List.length_cons, List.map_cons, weigh_cons, ← ih, Nat.add_comm]
        rfl
  finished h := absurd h nofun
  sending w hw err hp := by
    rcases List.mem_map.mp hw with ⟨c, -, rfl⟩
    exact absurd hp nofun
  waiting _ := by
    refine weigh_eq_zero_iff.mpr fun w hw => ?_
    rcases List.mem_map.mp hw with ⟨c, -, rfl⟩
    rfl
  nil h := absurd h nofun

/-- A goroutine that goes on keeps what it fails with. -/
theorem weigh_of_moved {i : Nat} {w : Worker} {p : Progress} (f : Worker → Nat)
    (hw : s.workers[i]? = some w)
    (hworkers : s'.workers = s.workers.set i { w with progress := p }) :
    weigh f s'.workers + f w = weigh f s.workers + f { w with progress := p } := by
  rw [hworkers]
  exact weigh_set _ hw

/-- One lemma for all moves of a goroutine, since they are about the channel and
    the group only. -/
theorem inv_of_moved {i : Nat} {w : Worker} {p : Progress} (hs : Inv s)
    (hw : s.workers[i]? = some w)
    (hmoves : Moves w.chunk w.progress s.errChannel p s'.errChannel)
    (hworkers : s'.workers = s.workers.set i { w with progress := p })
    (hwg : s'.wg = if p = .done then s.wg - 1 else s.wg)
    (hfinished : s'.finished = s.finished) (hresult : s'.result = s.result) : Inv s' := by
  have hmem : w ∈ s.workers := List.mem_of_getElem? hw
  have hgroup := weigh_of_moved inGroup hw hworkers
  have hfails := weigh_of_moved fails hw hworkers
  have hsent := weigh_of_moved sent hw hworkers
  have hbefore := ne_done_of_moves hmoves
  -- The worker that moves is not done, so the group counts it.
  have hone : inGroup w = 1 := if_neg hbefore
  have hpos : 0 < weigh inGroup s.workers := by
    refine Nat.pos_of_ne_zero fun hzero => ?_
    exact hbefore ((inGroup_eq w).mp (weigh_eq_zero_iff.mp hzero w hmem))
  refine ⟨?_, fun hdone => ?_, fun u hu err hp => ?_, fun hnone => ?_, fun hnil => ?_⟩
  · have hnow : inGroup { w with progress := p } = if p = .done then 0 else 1 := rfl
    rw [hwg, hs.wg]
    rw [hnow] at hgroup
    split_ifs at hgroup ⊢ <;> omega
  · rw [hfinished] at hdone
    have hzero := hs.finished hdone
    omega
  · rw [hworkers] at hu
    rcases List.mem_or_eq_of_mem_set hu with hold | rfl
    · exact hs.sending u hold err hp
    · exact sending_of_moves hmoves hp
  · rw [hresult] at hnone
    have hwaiting := hs.waiting hnone
    have hboth := sent_of_moves hmoves rfl (hs.sending w hmem)
    omega
  · rw [hresult] at hnil
    have hsame : fails { w with progress := p } = fails w := rfl
    rw [hsame] at hfails
    have hle := hs.nil hnil
    omega

/-- One case for each effect. -/
theorem inv_step (hs : Inv s) (h : step s a = some s') : Inv s' := by
  cases effect_of_step h with
  | moved _ i w p hw hmoves hworkers hwg hfinished hresult =>
      exact inv_of_moved hs hw hmoves hworkers hwg hfinished hresult
  | waited hwg =>
      have hzero : weigh inGroup s.workers = 0 := by rw [← hs.wg]; exact hwg
      exact { hs with finished := fun _ => hzero }
  | selectedFinished hresult hfinished =>
      refine { hs with waiting := fun h => absurd h nofun, nil := fun _ => ?_ }
      -- all have left, and what was sent is in the channel
      have hle := fails_le_sent (hs.finished hfinished)
      have hwaiting := hs.waiting hresult
      have hroom : s.errChannel.toList.length ≤ 1 := by
        cases s.errChannel with
        | none => exact Nat.zero_le 1
        | some err => exact Nat.le_refl 1
      dsimp only
      omega
  | selectedErr err hresult herr =>
      exact { hs with waiting := fun h => absurd h nofun, nil := fun h => absurd h nofun }

theorem inv_of_reaches {chunks : List Chunk}
    (hr : ReachesWithin step (fun _ _ => True) (start chunks) s) : Inv s :=
  invariant_of_reachesWithin (fun _ _ _ _ hs _ h => inv_step hs h) hr (inv_start chunks)

/-! ## The call returns -/

/-- What a goroutine has still to do. -/
def left (w : Worker) : Nat :=
  match w.progress with
  | .copying => 4
  | .sending _ => 3
  | .closing => 2
  | .closed => 1
  | .done => 0

/-- A bound on the steps there are still to come. -/
def remaining (s : Upload) : Nat :=
  weigh left s.workers + (if s.finished then 0 else 1) + if s.result.isSome then 0 else 1

theorem left_of_moves {w : Worker} {p q : Progress} {channel channel' : Option String}
    (h : Moves w.chunk q channel p channel') (hq : w.progress = q) :
    left { w with progress := p } < left w := by
  have hbefore : left w = left { w with progress := q } := by rw [← hq]
  rw [hbefore]
  cases h <;> (dsimp only [left]; omega)

/-- There is no run without end. -/
theorem remaining_step (h : step s a = some s') : remaining s' < remaining s := by
  unfold remaining
  cases effect_of_step h with
  | moved _ i w p hw hmoves hworkers hwg hfinished hresult =>
      have hleft := weigh_of_moved left hw hworkers
      have hless := left_of_moves hmoves rfl
      rw [hfinished, hresult]
      omega
  | waited hwg hfinished =>
      rw [hfinished]
      dsimp only
      rw [if_pos rfl, if_neg Bool.false_ne_true]
      omega
  | selectedFinished hresult hfinished =>
      rw [hresult]
      exact Nat.lt_succ_self _
  | selectedErr err hresult herr =>
      rw [hresult]
      exact Nat.lt_succ_self _

/-- As long as the call has not returned, something can happen. -/
theorem exists_step (hs : Inv s) (hresult : s.result = none) : ∃ a, step s a ≠ none := by
  cases hchannel : s.errChannel with
  | some err =>
      refine ⟨.selectErr, ?_⟩
      rw [step, hresult, hchannel]
      exact nofun
  | none =>
      by_cases hgroup : weigh inGroup s.workers = 0
      · cases hfinished : s.finished with
        | true =>
            refine ⟨.selectFinished, ?_⟩
            rw [step, if_pos ⟨hresult, hfinished⟩]
            exact nofun
        | false =>
            refine ⟨.wait, ?_⟩
            rw [step, if_pos ⟨hs.wg.trans hgroup, hfinished⟩]
            exact nofun
      · -- a goroutine that has not left can go on, as there is room in the channel
        simp only [weigh_eq_zero_iff, not_forall] at hgroup
        rcases hgroup with ⟨w, hmem, hw⟩
        rcases List.mem_iff_getElem?.mp hmem with ⟨i, hi⟩
        refine ⟨.worker i, ?_⟩
        rw [step, hi]
        dsimp only
        unfold advance
        cases hp : w.progress with
        | copying | closing | closed => exact nofun
        | sending err =>
            dsimp only
            rw [if_pos hchannel]
            exact nofun
        | done => exact absurd ((inGroup_eq w).mpr hp) hw

/-! ## One goroutine after the other -/

theorem reaches_step {s₀ : Upload} (hr : ReachesWithin step (fun _ _ => True) s₀ s)
    (h : step s a = some s') : ReachesWithin step (fun _ _ => True) s₀ s' :=
  .step s₀ s s' a hr trivial h

/-- A goroutine with others before and behind it, what is in the channel, and how
    many are in the wait group. -/
def placed (s : Upload) (before behind : List Worker) (w : Worker) (channel : Option String)
    (wg : Nat) : Upload :=
  { s with workers := before ++ w :: behind, errChannel := channel, wg := wg }

/-- A goroutine that can move does so, wherever it is among the others. -/
theorem step_placed {before behind : List Worker} {c : Chunk} {p q : Progress}
    {channel channel' : Option String} {wg : Nat} (h : Moves c q channel p channel') :
    step (placed s before behind ⟨c, q⟩ channel wg) (.worker before.length) =
      some (placed s before behind ⟨c, p⟩ channel' (if p = .done then wg - 1 else wg)) := by
  have hget : (before ++ ⟨c, q⟩ :: behind)[before.length]? = some ⟨c, q⟩ := by
    rw [List.getElem?_append_right (Nat.le_refl _), Nat.sub_self, List.getElem?_cons_zero]
  have hset : ∀ w, (before ++ ⟨c, q⟩ :: behind).set before.length w = before ++ w :: behind := by
    intro w
    rw [List.set_append_right _ _ (Nat.le_refl _), Nat.sub_self, List.set_cons_zero]
  unfold placed
  rw [step]
  dsimp only
  rw [hget]
  dsimp only
  unfold advance
  cases h with
  | fails err hsends => simp only [hset, hsends, reduceCtorEq, if_false]
  | copies hsends => simp only [hset, hsends, reduceCtorEq, if_false]
  | sends err => simp only [hset, if_true, reduceCtorEq, if_false]
  | closes => simp only [hset, reduceCtorEq, if_false]
  | leaves => simp only [hset, if_true]

/-- A goroutine runs to its end, if there is room for its error. -/
theorem reaches_done (s : Upload) (before behind : List Worker) {c : Chunk}
    {channel : Option String} (wg : Nat) (hroom : c.sends ≠ none → channel = none) :
    ReachesWithin step (fun _ _ => True) (placed s before behind ⟨c, .copying⟩ channel wg)
      (placed s before behind ⟨c, .done⟩ (c.sends <|> channel) (wg - 1)) := by
  have hclosing : ReachesWithin step (fun _ _ => True)
      (placed s before behind ⟨c, .copying⟩ channel wg)
      (placed s before behind ⟨c, .closing⟩ (c.sends <|> channel) wg) := by
    cases hsends : c.sends with
    | none => exact reaches_step (.refl _) (step_placed (.copies hsends channel))
    | some err =>
        have hnone := hroom (by rw [hsends]; exact nofun)
        rw [hnone]
        exact reaches_step (reaches_step (.refl _) (step_placed (.fails err hsends none)))
          (step_placed (.sends err))
  exact reaches_step (reaches_step hclosing (step_placed (.closes _))) (step_placed (.leaves _))

/-- The first goroutines are done, and the others have not begun. -/
def doneBefore (before behind : List Chunk) (channel : Option String) : Upload where
  workers := before.map (⟨·, .done⟩) ++ behind.map (⟨·, .copying⟩)
  wg := behind.length
  finished := false
  errChannel := channel
  result := none

/-- With one error at most all goroutines get to the end, whoever receives it. -/
theorem reaches_doneBefore (behind : List Chunk) :
    ∀ (before : List Chunk) (channel : Option String),
      behind.countP (fun c => c.sends.isSome) + channel.toList.length ≤ 1 →
      ∃ channel', ReachesWithin step (fun _ _ => True) (doneBefore before behind channel)
        (doneBefore (before ++ behind) [] channel') := by
  induction behind with
  | nil =>
      intro before channel _
      rw [List.append_nil]
      exact ⟨channel, .refl _⟩
  | cons c behind ih =>
      intro before channel hone
      rw [List.countP_cons] at hone
      -- At most one of them fails, so there is room for its error.
      have hroom : c.sends ≠ none → channel = none := by
        intro hsends
        rw [if_pos (Option.isSome_iff_ne_none.mpr hsends)] at hone
        cases channel with
        | none => rfl
        | some err =>
            rw [Option.toList_some, List.length_singleton] at hone
            omega
      have hnext : behind.countP (fun c => c.sends.isSome) +
          (c.sends <|> channel).toList.length ≤ 1 := by
        cases hsends : c.sends with
        | none =>
            rw [hsends] at hone
            exact hone
        | some err =>
            rw [hsends, Option.isSome_some, if_pos rfl] at hone
            have hlength : (some err <|> channel).toList.length = 1 := rfl
            omega
      -- The first one that is still copying is done, and then the ones behind it.
      rcases ih (before ++ [c]) (c.sends <|> channel) hnext with ⟨channel', hreach⟩
      refine ⟨channel', ?_⟩
      rw [List.append_assoc, List.singleton_append] at hreach
      have hfirst : ReachesWithin step (fun _ _ => True) (doneBefore before (c :: behind) channel)
          (doneBefore (before ++ [c]) behind (c.sends <|> channel)) := by
        have hdone := reaches_done (doneBefore before (c :: behind) channel)
          (before.map (⟨·, .done⟩)) (behind.map (⟨·, .copying⟩)) (behind.length + 1) hroom
        have hlist : (before ++ [c]).map (Worker.mk · .done) ++ behind.map (Worker.mk · .copying) =
            before.map (Worker.mk · .done) ++ ⟨c, .done⟩ :: behind.map (Worker.mk · .copying) := by
          rw [List.map_append, List.append_assoc, List.map_singleton, List.singleton_append]
        unfold doneBefore
        rw [hlist]
        exact hdone
      exact reachesWithin_trans hfirst hreach

/-- When one goroutine fails at most, all of them can leave the group before the
    error is received, and nil is returned. -/
theorem reaches_nil {chunks : List Chunk}
    (h : chunks.countP (fun c => c.sends.isSome) ≤ 1) :
    ∃ s, ReachesWithin step (fun _ _ => True) (start chunks) s ∧ s.result = some none := by
  rcases reaches_doneBefore chunks [] none h with ⟨channel, hreach⟩
  have hwait : step (doneBefore ([] ++ chunks) [] channel) .wait =
      some { doneBefore ([] ++ chunks) [] channel with finished := true } := rfl
  exact ⟨_, reaches_step (a := .selectFinished) (reaches_step hreach hwait) rfl, rfl⟩

/-! ## When failures are reported -/

/-- The errors that are still to come are those of the chunks. -/
theorem weigh_fails_start (chunks : List Chunk) :
    weigh fails (start chunks).workers = chunks.countP fun c => c.sends.isSome := by
  unfold start
  induction chunks with
  | nil => rfl
  | cons c chunks ih =>
      dsimp only at ih ⊢
      rw [List.map_cons, weigh_cons, ih, List.countP_cons, Nat.add_comm]
      rfl

/-- The goroutines stay the ones they are. -/
theorem weigh_fails_step (h : step s a = some s') :
    weigh fails s'.workers = weigh fails s.workers := by
  cases effect_of_step h with
  | moved _ i w p hw hmoves hworkers =>
      exact Nat.add_right_cancel (weigh_of_moved fails hw hworkers)
  | waited | selectedFinished | selectedErr => rfl

theorem weigh_fails_of_reaches {s₀ : Upload} (hr : ReachesWithin step (fun _ _ => True) s₀ s) :
    weigh fails s.workers = weigh fails s₀.workers := by
  induction hr with
  | refl => rfl
  | step t t' a _ _ hstep ih => exact (weigh_fails_step hstep).trans ih

/-- The chunks are given: what is reported depends on how many goroutines send an
    error. -/
theorem reports_start_iff (chunks : List Chunk) : Reports (start chunks) ↔
    (∀ c ∈ chunks, c.Stored) ∨ 2 ≤ chunks.countP fun c => c.sends.isSome := by
  have hchunks : (∀ w ∈ (start chunks).workers, w.chunk.Stored) ↔ ∀ c ∈ chunks, c.Stored := by
    unfold start
    simp only [List.forall_mem_map]
  constructor
  · intro h
    by_contra hnot
    rw [not_or, Nat.not_le] at hnot
    rcases reaches_nil (Nat.le_of_lt_succ hnot.2) with ⟨s, hreach, hnil⟩
    exact hnot.1 (hchunks.mp ((h s hreach).1 hnil))
  · intro h s hreach
    have hs := inv_of_reaches hreach
    have hfails := (weigh_fails_of_reaches hreach).trans (weigh_fails_start chunks)
    refine ⟨fun hnil => ?_, fun hstuck hwaits => ?_⟩
    · rcases h with hstored | htwo
      · exact hchunks.mpr hstored
      · -- the second error was not sent before the first one was received
        have hle := hs.nil hnil
        omega
    · rcases exists_step hs hwaits with ⟨a, ha⟩
      exact ha (hstuck a)

/-- A failure is reported in every interleaving exactly when there is none, or
    when two chunks fail or more before their writers are closed. A single error
    goes into the buffer of its channel, where the last select may pass it by,
    and an error on closing is not sent at all. -/
theorem reports_iff (totalSize : Nat) (desiredChunkCount : Int) (outcome : Nat → ChunkOutcome) :
    (∀ s₀, uploadChunks totalSize desiredChunkCount outcome = .ok s₀ → Reports s₀) ↔
      ∀ chunks, cut totalSize desiredChunkCount outcome = .ok chunks →
        (∀ c ∈ chunks, c.Stored) ∨ 2 ≤ chunks.countP fun c => c.sends.isSome := by
  unfold uploadChunks
  cases cut totalSize desiredChunkCount outcome with
  | error err => exact iff_of_true (fun _ h => absurd h nofun) (fun _ h => absurd h nofun)
  | ok chunks =>
      simp only [Except.map, Except.ok.injEq, forall_eq']
      exact reports_start_iff chunks

/-- The first of two chunks cannot be copied, both goroutines end, and the select
    takes the channel that is closed. -/
theorem not_reports_copyErr :
    ∃ s₀ s, uploadChunks 300000 2 (fun i =>
        if i = 0 then ⟨1000, some "connection reset", none⟩ else ⟨37856, none, none⟩) = .ok s₀ ∧
      runActions step [.worker 0, .worker 0, .worker 0, .worker 0, .worker 1, .worker 1, .worker 1,
        .wait, .selectFinished] s₀ = some s ∧ s.result = some none ∧ ¬ Reports s₀ := by
  have hstart : uploadChunks 300000 2 (fun i =>
      if i = 0 then ⟨1000, some "connection reset", none⟩ else ⟨37856, none, none⟩) =
      .ok (start [⟨262144, 1000, some "connection reset", none⟩, ⟨37856, 37856, none, none⟩]) := rfl
  rcases exists_of_runActions_any step [.worker 0, .worker 0, .worker 0, .worker 0, .worker 1,
      .worker 1, .worker 1, .wait, .selectFinished]
      (start [⟨262144, 1000, some "connection reset", none⟩, ⟨37856, 37856, none, none⟩])
      (fun s => decide (s.result = some none)) (by decide) with ⟨s, hrun, hnil⟩
  have hnil := of_decide_eq_true hnil
  refine ⟨_, s, hstart, hrun, hnil, fun h => ?_⟩
  have hreach := reaches_of_runActions hrun
  have hstored := (h s hreach).1 hnil _ List.mem_cons_self
  exact absurd hstored.1 nofun

end UploadChunks

end Content

end Nxpod
