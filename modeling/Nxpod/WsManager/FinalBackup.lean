import Mathlib.Data.List.Basic
import Mathlib.Tactic.Common
import Nxpod.WsManager.Finalize

/-!
# What a Complete Final Backup Means

The state of a workspace says whether its final backup is complete, and with which error it
failed. Once it says complete and no error, the workspace is taken as stopped and the state is
deleted. Many finalizers may have written it by then, each of which may have tried often.

A state that says so was last written by a finalizer that had a reason. Either the workspace is
backed up as a whole, or the last attempt left no error, which ws-sync has answered if a backup
was needed. The exception is an error that has no text, which is written as if there were none.

## Main definitions

* `Backed`: The reasons of a finalizer.
* `Told`: What an unfinished finalizer has of them.
* `Honest`: A state that says complete and no error has been given a reason.
* `HonestInv`: The invariant of the finalizers, with what the state says on top of it.

## Theorems

* `told_attempted`: What an attempt leaves behind.
* `honest_step`: What a step preserves.
* `honest_run`: Every state of every run is honest.
-/

namespace Nxpod

namespace WsManager

namespace Finalize

open Transition Parties

variable {G : Type}

/-- Why a finalizer may write that the backup is complete, and no failure. -/
inductive Backed (c : Setting) (call : Call G) : Prop
  | full : call.wso.fullWorkspaceBackup = true → Backed c call
  | disposed : call.outcomes.getLast? = some none →
      (call.wso.doBackup = true → call.asked = true) → Backed c call
  | untold (err : Error) : call.outcomes.getLast? = some (some err) →
      handleGRPCError c (some err) = some "" → Backed c call

/-- A finalizer that asks for a backup it needs, and has tried before it writes. -/
def Told (call : Call G) : Prop :=
  match call.phase with
  | .completing => call.wso.fullWorkspaceBackup = true
  | .disposing _ | .disposed .. => call.wso.doBackup = true → call.asked = true
  | .recording .. => call.outcomes ≠ [] ∧
      (call.outcomes.getLast? = some none → call.wso.doBackup = true → call.asked = true)
  | .started | .attempting _ | .done => True

/-- A state that says complete and no error has been given a reason. -/
def Honest (c : Setting) (s : Monitor G) : Prop :=
  ∀ id plis, s.plis.lookup id = some plis → plis.finalBackupComplete = true →
    plis.finalBackupFailure = "" →
      ∃ call ∈ s.calls, call.workspaceID = id ∧ call.phase = .done ∧ Backed c call

/-- The invariant of the finalizers, with what the state says on top of it. -/
structure HonestInv (c : Setting) (s : Monitor G) : Prop extends Inv c s where
  told : ∀ call ∈ s.calls, Told call
  honest : Honest c s

variable {c : Setting} {s s' : Monitor G} {i : Nat} {call call' : Call G}

/-! ## Finalizers -/

/-- An attempt that ends without an error has asked for the backup, if one is needed. -/
theorem told_attempted {n : Nat} {gitStatus : Option G} {err : Option Error}
    (hasked : err = none → call.wso.doBackup = true → call.asked = true) :
    Told (call.attempted (afterAttempt c call.wso.doBackup n gitStatus err) err) := by
  have houtcomes : call.outcomes ++ [err] ≠ [] ∧
      ((call.outcomes ++ [err]).getLast? = some none →
        call.wso.doBackup = true → call.asked = true) := by
    refine ⟨List.append_ne_nil_of_right_ne_nil _ (List.cons_ne_nil _ _), fun hlast => ?_⟩
    rw [List.getLast?_concat, Option.some.injEq] at hlast
    exact hasked hlast
  unfold Told Call.attempted
  dsimp only
  unfold afterAttempt nextAttempt
  dsimp only
  split_ifs
  · exact houtcomes
  · trivial
  · exact houtcomes
  · exact houtcomes

/-- What is left of the last attempt is the reason of the record. -/
theorem backed_of_recording {dataloss : Bool} {backupError : Option String}
    {gitStatus : Option G} (hkept : call.Kept c) (htold : Told call)
    (hphase : call.phase = .recording dataloss backupError gitStatus)
    (hfailure : ∀ text, backupError = some text → text = "") :
    Backed c ({ call with phase := .done } : Call G) := by
  unfold Call.Kept at hkept
  unfold Told at htold
  rw [hphase] at hkept htold
  rcases hkept with ⟨hleft, -⟩
  rcases htold with ⟨hne, hasked⟩
  have hlast : call.outcomes.getLast? = some (call.outcomes.getLast hne) :=
    List.getLast?_eq_some_getLast hne
  have herror : call.lastError = call.outcomes.getLast hne := by
    rw [Call.lastError, hlast, Option.join_some]
  rw [herror] at hleft
  cases hend : call.outcomes.getLast hne with
  | none =>
      rw [hend] at hlast
      exact .disposed hlast (hasked hlast)
  | some err =>
      rw [hend] at hlast hleft
      refine .untold err hlast ?_
      have htext : ∃ text, handleGRPCError c (some err) = some text := ⟨_, rfl⟩
      rcases htext with ⟨text, htext⟩
      rw [htext, hfailure text (hleft.trans htext)]

/-! ## States -/

/-- The finalizer has nothing left to do. -/
def Phase.isDone : Phase G → Bool
  | .done => true
  | .started | .completing | .attempting _ | .disposing _ | .disposed .. | .recording .. => false

theorem ne_done {phase : Phase G} (hphase : call.phase = phase) (hopen : phase.isDone = false) :
    call.phase ≠ .done := by
  intro hdone
  rw [← hphase, hdone] at hopen
  cases hopen

/-- A finalizer that is not done goes on, and the states are left as they are. -/
theorem honest_of_same (hs : Honest c s) (hplis : s'.plis = s.plis)
    (hcalls : ∀ call ∈ s.calls, call.phase = .done → call ∈ s'.calls) : Honest c s' := by
  intro id plis hfound hcomplete hfailure
  rw [hplis] at hfound
  rcases hs id plis hfound hcomplete hfailure with ⟨call, hcall, hid, hdone, hbacked⟩
  exact ⟨call, hcalls call hcall hdone, hid, hdone, hbacked⟩

/-- A step of one finalizer leaves those that are done as they are. -/
theorem mem_set_of_done (hcall : s.calls[i]? = some call) (hphase : call.phase ≠ .done)
    {d : Call G} (hd : d ∈ s.calls) (hdone : d.phase = .done) : d ∈ s.calls.set i call' := by
  refine mem_set_of_mem_of_ne hcall hd ?_
  rintro rfl
  exact hphase hdone

/-- A finalizer that does not write keeps every state honest. -/
theorem honest_goOn (hs : Honest c s) (hcall : s.calls[i]? = some call)
    (hphase : call.phase ≠ .done) : Honest c (goOn s i call') :=
  honest_of_same hs rfl fun _ hd hdone => mem_set_of_done hcall hphase hd hdone

/-- A finalizer writes and is done. What it has written needs a reason only if it says complete
    and no error. -/
theorem honest_written (hs : Honest c s) (hcall : s.calls[i]? = some call)
    (hphase : call.phase ≠ .done) (patched : Bool) (f : PLIS G → PLIS G)
    (hbacked : ∀ plis, (f plis).finalBackupFailure = "" →
      Backed c ({ call with phase := .done } : Call G)) :
    Honest c (goOn (patchPLIS s call.workspaceID patched f) i { call with phase := .done }) := by
  have hcalls := calls_patchPLIS s call.workspaceID patched f
  have hkept : Honest c (goOn s i { call with phase := .done }) := honest_goOn hs hcall hphase
  intro id plis hfound hcomplete hfailure
  dsimp only [goOn] at hfound ⊢
  rw [hcalls]
  unfold patchPLIS at hfound
  split at hfound
  · next old hold =>
      split_ifs at hfound
      · dsimp only at hfound
        rw [Map.lookup_insert_eq_ite] at hfound
        split_ifs at hfound with hid
        · rw [Option.some.injEq] at hfound
          rw [← hfound] at hfailure
          refine ⟨_, List.mem_set (List.getElem?_eq_some_iff.mp hcall).1 _, hid.symm, rfl, ?_⟩
          exact hbacked old hfailure
        · exact hkept id plis hfound hcomplete hfailure
      · exact hkept id plis hfound hcomplete hfailure
  · exact hkept id plis hfound hcomplete hfailure

/-! ## Runs -/

variable [Inhabited G]

theorem told_doFinalize {n : Nat} {pool : Option Error} (hs : ∀ call ∈ s.calls, Told call) :
    ∀ d ∈ (doFinalize c s i n call pool).calls, Told d := by
  unfold doFinalize
  split_ifs with hmap hnone
  · exact forall_mem_set hs trivial
  · refine forall_mem_set hs (told_attempted fun _ hbackup => ?_)
    rw [hbackup, Bool.not_true, Bool.false_and] at hnone
    exact absurd hnone Bool.false_ne_true
  · split
    · exact forall_mem_set hs (told_attempted fun herr => by cases herr)
    · exact forall_mem_set hs fun hbackup => hbackup

theorem honest_doFinalize {n : Nat} {pool : Option Error} (hs : Honest c s)
    (hcall : s.calls[i]? = some call) (hphase : call.phase ≠ .done) :
    Honest c (doFinalize c s i n call pool) := by
  unfold doFinalize
  split_ifs
  · exact honest_goOn hs hcall hphase
  · exact honest_goOn hs hcall hphase
  · split
    · exact honest_goOn hs hcall hphase
    · exact honest_of_same hs rfl fun _ hd hdone => mem_set_of_done hcall hphase hd hdone

/-- The only steps that matter are those that write the state. -/
theorem honest_step (hmax : 0 < c.maxAttempts) {a : Action G} (hs : HonestInv c s)
    (h : step c s a = some s') : HonestInv c s' := by
  refine ⟨inv_step hs.toInv h, ?_, ?_⟩
  · cases effect_of_step h with
    | finalize wso =>
        intro d hd
        rcases List.mem_append.mp hd with hd | hd
        · exact hs.told d hd
        · rw [List.mem_singleton.mp hd]
          trivial
    | start i call hcall hphase =>
        refine forall_mem_set hs.told ?_
        unfold Told nextAttempt
        dsimp only
        -- A finalizer records a full backup at once, or begins its attempts.
        split_ifs with hfull
        · exact hfull
        · trivial
    | complete i patched call hcall hphase =>
        dsimp only [goOn]
        rw [calls_patchPLIS]
        exact forall_mem_set hs.told trivial
    | attempt i n pool call hcall hphase => exact told_doFinalize hs.told
    | backUp i call hcall => exact hs.told
    | answer i n err gitStatus call hcall hphase =>
        have htold := hs.told call (List.mem_of_getElem? hcall)
        unfold Told at htold
        rw [hphase] at htold
        exact forall_mem_set hs.told htold
    | remove i n err gitStatus call hcall hphase =>
        have htold := hs.told call (List.mem_of_getElem? hcall)
        unfold Told at htold
        rw [hphase] at htold
        exact forall_mem_set hs.told (told_attempted fun _ => htold)
    | record i patched dataloss backupError gitStatus call hcall hphase =>
        dsimp only [goOn]
        rw [calls_patchPLIS]
        exact forall_mem_set hs.told trivial
  · cases effect_of_step h with
    | finalize wso =>
        exact honest_of_same hs.honest rfl fun _ hd _ => List.mem_append_left _ hd
    | start i call hcall hphase =>
        exact honest_goOn hs.honest hcall (ne_done hphase rfl)
    | complete i patched call hcall hphase =>
        have htold := hs.told call (List.mem_of_getElem? hcall)
        unfold Told at htold
        rw [hphase] at htold
        -- This finalizer deals with a full backup, and that is why it may write so.
        exact honest_written hs.honest hcall (ne_done hphase rfl) patched _
          fun _ _ => .full htold
    | attempt i n pool call hcall hphase =>
        exact honest_doFinalize hs.honest hcall (ne_done hphase rfl)
    | backUp i call hcall => exact honest_of_same hs.honest rfl fun _ hd _ => hd
    | answer i n err gitStatus call hcall hphase =>
        exact honest_goOn hs.honest hcall (ne_done hphase rfl)
    | remove i n err gitStatus call hcall hphase =>
        exact honest_of_same hs.honest rfl fun _ hd hdone =>
          mem_set_of_done hcall (ne_done hphase rfl) hd hdone
    | record i patched dataloss backupError gitStatus call hcall hphase =>
        have hmem := List.mem_of_getElem? hcall
        have hwritten := honest_written hs.honest hcall (ne_done hphase rfl)
          patched (patch dataloss backupError gitStatus) fun plis hfailure =>
            backed_of_recording (hs.kept call hmem) (hs.told call hmem) hphase fun text htext => ?_
        · exact honest_of_same hwritten rfl fun _ hd _ => hd
        · -- an error is written whatever it is
          have hkept := hs.kept call hmem
          unfold Call.Kept at hkept
          rw [hphase] at hkept
          rw [htext] at hkept hfailure
          rw [patch, hkept.2 (Option.some_ne_none text)] at hfailure
          exact hfailure

omit [Inhabited G] in
theorem honest_new (plis : Map String (PLIS G))
    (hnew : ∀ id p, plis.lookup id = some p → p.finalBackupComplete = false) :
    HonestInv c (newMonitor plis) where
  toInv := inv_new plis
  told _ hcall := absurd hcall List.not_mem_nil
  honest id p hp hcomplete _ := by
    rw [hnew id p hp] at hcomplete
    exact absurd hcomplete Bool.false_ne_true

/-- In every run that begins without a final backup, what the states say is honest. An owner who
    is told that the backup is done may delete the local files, or open the workspace elsewhere:
    when no failure is recorded with it, some finalizer is done, and it has had an answer
    without an error or found nothing to back up. -/
theorem honest_run (c : Setting) (hmax : 0 < c.maxAttempts) (plis : Map String (PLIS G))
    (hnew : ∀ id p, plis.lookup id = some p → p.finalBackupComplete = false)
    (as : List (Action G)) :
    StepsAlong (step c) (fun _ _ s' => Honest c s') as (newMonitor plis) :=
  stepsAlong_of_invariant
    (fun _ _ _ hs h => ⟨honest_step hmax hs h, (honest_step hmax hs h).honest⟩) as _
    (honest_new plis hnew)

/-- The pod is gone, and ws-sync answers the first attempt. -/
def answeredBackup : List (Action Unit) :=
  [.finalize ⟨⟨none, some ⟨AList.singleton workspaceIDAnnotation "w", ∅⟩, []⟩, "", "10.0.0.1"⟩,
    .start 0, .attempt 0 none, .backUp 0, .answer 0 none none, .remove 0, .record 0 true]

theorem honest_answeredBackup :
    (∃ t : Monitor Unit, runActions (step ⟨id, wssyncMaxAttempts⟩) answeredBackup
        (newMonitor (AList.insert "w" newPLIS ∅)) = some t ∧
      (t.plis.lookup "w").any (fun p => p.finalBackupComplete && p.finalBackupFailure = "") =
        true) ∧
    StepsAlong (step ⟨id, wssyncMaxAttempts⟩) (fun _ _ s' => Honest ⟨id, wssyncMaxAttempts⟩ s')
      answeredBackup (newMonitor (AList.insert "w" newPLIS ∅)) := by
  refine ⟨exists_run_of_any _ (by decide +kernel) fun _ _ h => h, ?_⟩
  refine honest_run ⟨id, wssyncMaxAttempts⟩ (by decide) (AList.insert "w" newPLIS ∅)
    (fun id p hp => ?_) answeredBackup
  rw [Map.lookup_insert_eq_ite] at hp
  split_ifs at hp
  · cases hp
    rfl
  · cases hp

end Finalize

end WsManager

end Nxpod
