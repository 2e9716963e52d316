import Nxpod.Prebuilds.Bridge

/-!
# The Outcome of a Prebuild

What the bridge stores as the result of a prebuild, and whether it stays. Who opens a
workspace from a prebuild takes the snapshot of one that is available without an error,
so there has to be one, and it must not be another one the next time.

Every update that says that the instance is stopping is made into an outcome, whatever
the record says by then, and a controller run aborts the prebuild that it has read some
time ago. An error that is too long for its column is cut when it is stored.

A handler that concludes and a controller run that aborts have copies of the prebuild in
which the error and the snapshot are those of the record, or undefined where the record
has none. So an abort changes the state only, and an outcome because of a timeout leaves
the snapshot as it is.

## Main definitions

* `Usable`, `Final`: A prebuild without an error has a snapshot, and an outcome stays.
* `TellsResult`, `Repeats`: What an update says about the outcome.
* `ConcludesOnce`: The condition on a step.
* `IsCopy`, `Fresh`: What is known of the copies, and the invariant.

## Theorems

* `shortened_eq_empty_iff`: An error that is cut is not lost.
* `usable_outcome_iff`, `outcome_eq_iff`: The outcome that an update is made into.
* `fresh_next`, `fresh_step`: What a step preserves.
* `final_next_iff`, `final_iff_of_step`: The steps after which an outcome is final.
* `final_iff`: The runs with final outcomes.
-/

namespace Nxpod

namespace Prebuilds

namespace Bridge

open Transition WsManager.Status

/-- A prebuild that is said to be available without an error can be used. -/
def Usable (prebuild : PrebuildRow) : Prop :=
  prebuild.state = .available → prebuild.error = "" → prebuild.snapshot ≠ ""

instance decidableUsable (prebuild : PrebuildRow) : Decidable (Usable prebuild) :=
  inferInstanceAs (Decidable (_ → _ → _))

/-- What is stored can be used, and no outcome is stored over another one. -/
structure Final (s s' : State) : Prop where
  usable : Usable s'.prebuild
  unchanged : isSettled s.prebuild.state = true → s'.prebuild = s.prebuild

/-! ## What an update says -/

/-- The update has a reason why there is no snapshot, or a snapshot. -/
def TellsResult (status : WorkspaceStatus) : Prop :=
  status.timeout ≠ "" ∨ status.failed ≠ "" ∨ status.snapshot ≠ ""

/-- The update says again what the prebuild has come to. -/
def Repeats (status : WorkspaceStatus) (prebuild : PrebuildRow) : Prop :=
  if status.timeout ≠ "" then
    prebuild.state = .timeout ∧ prebuild.error = shortened status.timeout
  else prebuild.state = .available ∧ prebuild.error = shortened status.failed ∧
    prebuild.snapshot = status.snapshot

/-- The update that is made into an outcome tells one, or the one that is there already,
    and no abort is stored over an outcome. -/
def ConcludesOnce (s : State) : Action → Prop
  | .next _ => match s.handler with
    | .concluding status _ _ =>
        if isSettled s.prebuild.state then Repeats status s.prebuild else TellsResult status
    | _ => True
  | .controlPrebuildInstance j => match s.runs[j]? with
    | some (.marking _ _ _ (.storing _)) =>
        isSettled s.prebuild.state = true → s.prebuild.state = .aborted
    | _ => True
  | _ => True

theorem append_dots_ne_empty (text : String) : text ++ " ..." ≠ "" := by
  intro h
  have hlist := congrArg String.toList h
  rw [String.toList_append] at hlist
  exact absurd (List.append_eq_nil_iff.mp hlist).2 (by decide)

/-- Only the empty text is shortened to the empty text. -/
theorem shortened_eq_empty_iff (error : String) : shortened error = "" ↔ error = "" := by
  unfold shortened
  split_ifs with hlong
  · refine iff_of_false (append_dots_ne_empty _) ?_
    rintro rfl
    exact absurd hlong (by decide)
  · exact Iff.rfl

theorem usable_outcome_iff (status : WorkspaceStatus) (prebuild : Prebuild) (row : PrebuildRow) :
    Usable (storePrebuiltWorkspace (outcome status prebuild) row) ↔ TellsResult status := by
  unfold Usable storePrebuiltWorkspace outcome TellsResult
  by_cases htimeout : status.timeout = ""
  · rw [if_neg (not_not.mpr htimeout)]
    simp only [htimeout, ne_eq, not_true, false_or, forall_const, Option.map_some,
      Option.getD_some, shortened_eq_empty_iff]
    exact Decidable.imp_iff_not_or
  · rw [if_pos htimeout]
    exact iff_of_true (fun h => absurd h nofun) (.inl htimeout)

/-- What may be undefined is as it is in the record. -/
structure IsCopy (prebuild : Prebuild) (row : PrebuildRow) : Prop where
  error : prebuild.error = undefinedIfEmpty row.error
  snapshot : prebuild.snapshot = undefinedIfEmpty row.snapshot

/-- What is undefined because it is empty may be read as empty. -/
theorem getD_undefinedIfEmpty (text : String) : (undefinedIfEmpty text).getD text = text := by
  unfold undefinedIfEmpty
  split_ifs <;> rfl

theorem getD_getD {α : Type} (o : Option α) (x : α) : o.getD (o.getD x) = o.getD x := by
  cases o <;> rfl

theorem store_store_of_isCopy {prebuild other : Prebuild} {row : PrebuildRow}
    (h : IsCopy prebuild row) (hother : IsCopy other row) (hstate : other.state = prebuild.state) :
    storePrebuiltWorkspace other (storePrebuiltWorkspace prebuild row) =
      storePrebuiltWorkspace prebuild row := by
  unfold storePrebuiltWorkspace
  dsimp only
  rw [hother.error, hother.snapshot, ← h.error, ← h.snapshot, hstate, getD_getD, getD_getD]

/-- An outcome is stored over another one without a change only when it is the same. -/
theorem outcome_eq_iff (status : WorkspaceStatus) {prebuild : Prebuild} {row : PrebuildRow}
    (hcopy : prebuild.snapshot.getD row.snapshot = row.snapshot) :
    storePrebuiltWorkspace (outcome status prebuild) row = row ↔ Repeats status row := by
  unfold storePrebuiltWorkspace outcome Repeats
  by_cases htimeout : status.timeout = ""
  · rw [if_neg (not_not.mpr htimeout), if_neg (not_not.mpr htimeout)]
    cases row
    simp only [PrebuildRow.mk.injEq, Option.map_some, Option.getD_some, eq_comm]
  · rw [if_pos htimeout, if_pos htimeout]
    dsimp only
    rw [hcopy]
    cases row
    simp only [PrebuildRow.mk.injEq, Option.map_some, Option.getD_some, and_true, eq_comm]

/-! ## The copies -/

/-- What the handler and the controller runs have read is as good as the record. A controller run
    has read a prebuild that is building, and once that is aborted, to abort it again changes
    nothing. -/
structure Fresh (s : State) : Prop where
  usable : Usable s.prebuild
  starting : ∀ status wsi prebuild, s.handler = .starting status wsi prebuild →
    s.prebuild.state = .queued ∧ prebuild.state = .building
  concluding : ∀ status wsi prebuild, s.handler = .concluding status wsi prebuild →
    prebuild.snapshot.getD s.prebuild.snapshot = s.prebuild.snapshot
  aborting : ∀ wsi now toStore prebuild,
    .marking wsi now toStore (.storing prebuild) ∈ s.runs →
    s.prebuild.state ≠ .queued ∧ prebuild.state = .aborted ∧
      (s.prebuild.state = .building → IsCopy prebuild s.prebuild) ∧
      (s.prebuild.state = .aborted → storePrebuiltWorkspace prebuild s.prebuild = s.prebuild)

variable {s s' : State} {a : Action} {max : Nat}

/-- Only a prebuild that is available has to be usable. -/
theorem usable_of_state {prebuild : PrebuildRow} (h : prebuild.state ≠ .available) :
    Usable prebuild :=
  fun havailable => absurd havailable h

/-- A step that leaves the prebuild alone. -/
theorem final_of_same (hs : Fresh s) (h : s'.prebuild = s.prebuild) : Final s s' :=
  ⟨h ▸ hs.usable, fun _ => h⟩

/-- A handler that goes on without a change of the records. -/
theorem fresh_handler {handler : Handler} (hs : Fresh s)
    (hstarting : ∀ status wsi prebuild, handler = .starting status wsi prebuild →
      s.prebuild.state = .queued ∧ prebuild.state = .building)
    (hconcluding : ∀ status wsi prebuild, handler = .concluding status wsi prebuild →
      prebuild.snapshot.getD s.prebuild.snapshot = s.prebuild.snapshot) :
    Fresh { s with handler := handler } :=
  ⟨hs.usable, hstarting, hconcluding, hs.aborting⟩

/-- The same for a controller run. -/
theorem fresh_goOn {j : Nat} {run : Control} (hs : Fresh s)
    (hrun : ∀ wsi now toStore prebuild, run = .marking wsi now toStore (.storing prebuild) →
      s.prebuild.state ≠ .queued ∧ prebuild.state = .aborted ∧
        (s.prebuild.state = .building → IsCopy prebuild s.prebuild) ∧
        (s.prebuild.state = .aborted →
          storePrebuiltWorkspace prebuild s.prebuild = s.prebuild)) : Fresh (goOn s j run) := by
  refine ⟨hs.usable, hs.starting, hs.concluding, fun wsi now toStore prebuild hmem => ?_⟩
  rcases List.mem_or_eq_of_mem_set hmem with hold | hnew
  · exact hs.aborting wsi now toStore prebuild hold
  · exact hrun wsi now toStore prebuild hnew.symm

/-- The handler's copies after the start are those it had before. -/
theorem eq_of_afterStart_eq {status status' : WorkspaceStatus} {wsi wsi' : WorkspaceInstance}
    {prebuild prebuild' : Prebuild}
    (h : afterStart status wsi prebuild = .concluding status' wsi' prebuild') :
    prebuild = prebuild' := by
  unfold afterStart at h
  split_ifs at h
  exact (Handler.concluding.inj h).2.2

theorem store_state (prebuild : Prebuild) (row : PrebuildRow) :
    (storePrebuiltWorkspace prebuild row).state = prebuild.state := rfl

/-- A step of the handler keeps copies fresh, as long as results are final. -/
theorem fresh_next {now : Nat} (hs : Fresh s) (h : next s now s.handler = some s')
    (hfinal : Final s s') : Fresh s' := by
  cases hhandler : s.handler with
  | idle =>
      rw [hhandler] at h
      cases h
  | received status =>
      rw [hhandler, next, Option.some.injEq] at h
      rw [← h]
      refine fresh_handler hs ?_ ?_
      · intro status' wsi' prebuild' hne
        -- The update has been read, and there is no copy of the prebuild yet.
        split_ifs at hne
      · intro status' wsi' prebuild' hne
        split_ifs at hne
  | loaded status wsi =>
      rw [hhandler, next, Option.some.injEq] at h
      rw [← h]
      refine fresh_handler hs (fun _ _ _ hstarting => queued_of_starting hstarting) ?_
      intro status' wsi' prebuild' hconcluding
      -- A copy that is to be concluded is the row as it was read.
      split_ifs at hconcluding
      rw [← eq_of_afterStart_eq hconcluding]
      exact getD_undefinedIfEmpty _
  | starting status wsi prebuild =>
      rw [hhandler, next, Option.some.injEq] at h
      rw [← h]
      rcases hs.starting status wsi prebuild hhandler with ⟨hqueued, hbuilding⟩
      refine ⟨?_, ?_, ?_, ?_⟩
      · refine usable_of_state ?_
        rw [store_state, hbuilding]
        exact nofun
      · exact fun _ _ _ hstarting => absurd hstarting afterStart_ne_starting
      · intro status' wsi' prebuild' hconcluding
        rw [← eq_of_afterStart_eq hconcluding]
        exact getD_getD _ _
      · -- nobody is about to abort a prebuild that is queued
        intro wsi' now' toStore prebuild' hmem
        exact absurd hqueued (hs.aborting wsi' now' toStore prebuild' hmem).1
  | concluding status wsi prebuild =>
      rw [hhandler, next, Option.some.injEq] at h
      have hsettled := (isSettled_iff _).mp (isSettled_outcome status prebuild)
      have hoverwritten : (outcome status prebuild).state ≠ .aborted := by
        unfold outcome
        split_ifs
        · exact nofun
        · exact nofun
      rw [← h] at hfinal ⊢
      refine ⟨hfinal.usable, fun _ _ _ hne => absurd hne nofun, fun _ _ _ hne => absurd hne nofun,
        fun wsi' now' toStore prebuild' hmem => ?_⟩
      -- The aborted copies stay, but the row says neither that it is building nor that it was
      -- aborted.
      refine ⟨hsettled.1, (hs.aborting wsi' now' toStore prebuild' hmem).2.1, ?_, ?_⟩
      · exact fun hbuilding => absurd hbuilding hsettled.2
      · exact fun haborted => absurd haborted hoverwritten
  | storing status wsi =>
      rw [hhandler, next, Option.some.injEq] at h
      rw [← h]
      exact ⟨hs.usable, fun _ _ _ hne => absurd hne nofun, fun _ _ _ hne => absurd hne nofun,
        hs.aborting⟩

/-- For a step of the handler the condition is exact. Only the step that stores an outcome can
    replace another one. -/
theorem final_next_iff {now : Nat} (hs : Fresh s) (h : next s now s.handler = some s') :
    Final s s' ↔ ConcludesOnce s (.next now) := by
  unfold ConcludesOnce
  cases hhandler : s.handler with
  | idle =>
      rw [hhandler] at h
      cases h
  | received status =>
      rw [hhandler, next, Option.some.injEq] at h
      rw [← h]
      exact iff_of_true (final_of_same hs rfl) trivial
  | loaded status wsi =>
      rw [hhandler, next, Option.some.injEq] at h
      rw [← h]
      exact iff_of_true (final_of_same hs rfl) trivial
  | starting status wsi prebuild =>
      rw [hhandler, next, Option.some.injEq] at h
      rw [← h]
      rcases hs.starting status wsi prebuild hhandler with ⟨hqueued, hbuilding⟩
      refine iff_of_true ⟨usable_of_state ?_, fun hsettled => ?_⟩ trivial
      · rw [store_state, hbuilding]
        exact nofun
      · rw [hqueued] at hsettled
        exact absurd hsettled nofun
  | concluding status wsi prebuild =>
      rw [hhandler, next, Option.some.injEq] at h
      have hprebuild : s'.prebuild =
          storePrebuiltWorkspace (outcome status prebuild) s.prebuild := by rw [← h]
      dsimp only
      -- What is settled stays as it is only if the outcome is the same again.
      by_cases hsettled : isSettled s.prebuild.state = true
      · rw [if_pos hsettled]
        have hsame := outcome_eq_iff status (hs.concluding status wsi prebuild hhandler)
        rw [← hsame, ← hprebuild]
        exact ⟨fun hfinal => hfinal.unchanged hsettled, final_of_same hs⟩
      · rw [if_neg hsettled, ← usable_outcome_iff status prebuild s.prebuild, ← hprebuild]
        exact ⟨Final.usable, fun husable => ⟨husable, fun hyes => absurd hyes hsettled⟩⟩
  | storing status wsi =>
      rw [hhandler, next, Option.some.injEq] at h
      rw [← h]
      exact iff_of_true (final_of_same hs rfl) trivial

/-- An abort is final where there was no outcome, or the same one. -/
theorem final_aborted_iff {prebuild : Prebuild} (haborted : prebuild.state = .aborted)
    (hcopy : s.prebuild.state = .aborted →
      storePrebuiltWorkspace prebuild s.prebuild = s.prebuild)
    (hprebuild : s'.prebuild = storePrebuiltWorkspace prebuild s.prebuild) :
    Final s s' ↔ (isSettled s.prebuild.state = true → s.prebuild.state = .aborted) := by
  have hstate : s'.prebuild.state = .aborted := by rw [hprebuild, store_state, haborted]
  constructor
  · intro hfinal hsettled
    rw [← hfinal.unchanged hsettled, hstate]
  · intro h
    refine ⟨usable_of_state (hstate ▸ nofun), fun hsettled => ?_⟩
    rw [hprebuild, hcopy (h hsettled)]

/-- What is stored as aborted is known to the other runs that are about to abort it. -/
theorem store_of_aborting {prebuild other : Prebuild} {row : PrebuildRow}
    (hrow : row.state = .building ∨ row.state = .aborted)
    (hstate : other.state = prebuild.state)
    (h : (row.state = .building → IsCopy prebuild row) ∧
      (row.state = .aborted → storePrebuiltWorkspace prebuild row = row))
    (hother : (row.state = .building → IsCopy other row) ∧
      (row.state = .aborted → storePrebuiltWorkspace other row = row)) :
    storePrebuiltWorkspace other (storePrebuiltWorkspace prebuild row) =
      storePrebuiltWorkspace prebuild row := by
  rcases hrow with hbuilding | haborted
  · exact store_store_of_isCopy (h.1 hbuilding) (hother.1 hbuilding) hstate
  · rw [h.2 haborted, hother.2 haborted]

/-- The step lemma for fresh copies. -/
theorem fresh_step (hs : Fresh s) (h : step max s a = some s') (hfinal : Final s s') :
    Fresh s' := by
  cases effect_of_step h with
  | received status hidle =>
      exact fresh_handler hs (fun _ _ _ hne => absurd hne nofun) fun _ _ _ hne =>
        absurd hne nofun
  | handled now s' hnext => exact fresh_next hs hnext hfinal
  | threw =>
      exact fresh_handler hs (fun _ _ _ hne => absurd hne nofun) fun _ _ _ hne =>
        absurd hne nofun
  -- A run that has just begun has no copy of the prebuild.
  | began =>
      refine ⟨hs.usable, hs.starting, hs.concluding, fun wsi now toStore prebuild hmem => ?_⟩
      rcases List.mem_append.mp hmem with hold | hnew
      · exact hs.aborting wsi now toStore prebuild hold
      · exact absurd (List.mem_singleton.mp hnew) nofun
  | listed j hrun =>
      refine fresh_goOn hs fun _ _ _ _ hmarking => ?_
      split_ifs at hmarking
  | answered j known now wsi hrun =>
      refine fresh_goOn hs fun _ _ _ _ hmarking => ?_
      -- One that begins to mark has not looked it up either.
      split_ifs at hmarking
      rw [Control.marking.injEq] at hmarking
      exact absurd hmarking.2.2.2 nofun
  | stored j wsi now prebuild hrun =>
      have hkept : Fresh (goOn s j (.marking wsi now false prebuild)) := by
        refine fresh_goOn hs fun wsi' now' toStore prebuild' hmarking => ?_
        rw [Control.marking.injEq] at hmarking
        rw [hmarking.2.2.2] at hrun
        exact hs.aborting wsi now true prebuild' (List.mem_of_getElem? hrun)
      exact ⟨hkept.usable, hkept.starting, hkept.concluding, hkept.aborting⟩
  | lookedUp j wsi now toStore hrun =>
      refine fresh_goOn hs fun wsi' now' toStore' prebuild' hmarking => ?_
      rw [Control.marking.injEq] at hmarking
      -- The copy is made here, and only of a prebuild that is building.
      rcases hmarking with ⟨-, -, -, hstoring⟩
      split_ifs at hstoring with hbuilding
      rw [Aborting.storing.injEq] at hstoring
      rw [← hstoring]
      refine ⟨hbuilding ▸ nofun, rfl, fun _ => ⟨rfl, rfl⟩, fun haborted => ?_⟩
      exact absurd (hbuilding.symm.trans haborted) nofun
  | aborted j wsi now toStore prebuild hrun =>
      rcases hs.aborting wsi now toStore prebuild (List.mem_of_getElem? hrun) with
        ⟨hnot, haborted, hcopies⟩
      -- By the condition, what was settled with another outcome is not replaced.
      have hopen := (final_aborted_iff haborted hcopies.2 rfl).mp hfinal
      have hrow : s.prebuild.state = .building ∨ s.prebuild.state = .aborted := by
        by_cases hsettled : isSettled s.prebuild.state = true
        · exact .inr (hopen hsettled)
        · rw [isSettled_iff, not_and, not_not] at hsettled
          exact .inl (hsettled hnot)
      have hkept : Fresh (goOn s j (.marking wsi now toStore .done)) := by
        refine fresh_goOn hs fun _ _ _ _ hmarking => ?_
        rw [Control.marking.injEq] at hmarking
        exact absurd hmarking.2.2.2 nofun
      refine ⟨hfinal.usable, ?_, ?_, ?_⟩
      · -- the handler has a copy of a prebuild that is queued, and this one was not
        intro status' wsi' prebuild' hstarting
        exact absurd (hs.starting status' wsi' prebuild' hstarting).1 hnot
      · -- the snapshot stays as the handler knows it
        intro status' wsi' prebuild' hconcluding
        have hsame : (storePrebuiltWorkspace prebuild s.prebuild).snapshot =
            s.prebuild.snapshot := by
          rcases hrow with hbuilding | habortedRow
          · unfold storePrebuiltWorkspace
            dsimp only
            rw [(hcopies.1 hbuilding).snapshot, getD_undefinedIfEmpty]
          · rw [hcopies.2 habortedRow]
        dsimp only
        rw [hsame]
        exact hs.concluding status' wsi' prebuild' hconcluding
      · intro wsi' now' toStore' prebuild' hmem
        rcases hkept.aborting wsi' now' toStore' prebuild' hmem with ⟨_, haborted', hcopies'⟩
        refine ⟨?_, haborted', fun hbuilding => ?_, fun _ => ?_⟩
        · rw [store_state, haborted]
          exact nofun
        · rw [store_state, haborted] at hbuilding
          exact absurd hbuilding nofun
        · -- both runs have read the same prebuild
          exact store_of_aborting hrow (haborted'.trans haborted.symm) hcopies hcopies'

/-- Only a step that stores an outcome or an abort can take one back. -/
theorem final_iff_of_step (hs : Fresh s) (h : step max s a = some s') :
    Final s s' ↔ ConcludesOnce s a := by
  cases effect_of_step h with
  | received status hidle => exact iff_of_true (final_of_same hs rfl) trivial
  | handled now s' hnext => exact final_next_iff hs hnext
  | threw => exact iff_of_true (final_of_same hs rfl) trivial
  | began => exact iff_of_true (final_of_same hs rfl) trivial
  | listed j hrun => exact iff_of_true (final_of_same hs rfl) trivial
  | answered j known now wsi hrun => exact iff_of_true (final_of_same hs rfl) trivial
  | stored j wsi now prebuild hrun => exact iff_of_true (final_of_same hs rfl) trivial
  | lookedUp j wsi now toStore hrun =>
      refine iff_of_true (final_of_same hs rfl) ?_
      unfold ConcludesOnce
      dsimp only
      rw [hrun]
      trivial
  | aborted j wsi now toStore prebuild hrun =>
      rcases hs.aborting wsi now toStore prebuild (List.mem_of_getElem? hrun) with
        ⟨_, haborted, -, hcopy⟩
      unfold ConcludesOnce
      dsimp only
      rw [hrun]
      exact final_aborted_iff haborted hcopy rfl

theorem fresh_new {prebuild : PrebuildRow} (h : Usable prebuild) (wsi : WorkspaceInstance) :
    Fresh (newState wsi prebuild) where
  usable := h
  starting _ _ _ hne := absurd hne nofun
  concluding _ _ _ hne := absurd hne nofun
  aborting _ _ _ _ hmem := absurd hmem List.not_mem_nil

/-- The runs in which all that is stored is usable and final are those in which every outcome is
    told and stored once, or the same again, and no abort is stored over it. That is up to the
    updates and to the order of the accesses, and not to the bridge, which does not look at what
    is there already. -/
theorem final_iff {prebuild : PrebuildRow} (h : Usable prebuild) (wsi : WorkspaceInstance)
    (as : List Action) :
    StepsAlong (step max) (fun s _ s' => Final s s') as (newState wsi prebuild) ↔
      MeetsAlong (step max) ConcludesOnce as (newState wsi prebuild) :=
  stepsAlong_iff_meetsAlong_while (fun _ _ _ hs hstep hfinal => fresh_step hs hstep hfinal)
    (fun _ _ _ hs hstep => final_iff_of_step hs hstep) as _ (fresh_new h wsi)

instance decidableTellsResult (status : WorkspaceStatus) : Decidable (TellsResult status) :=
  inferInstanceAs (Decidable (_ ∨ _ ∨ _))

instance decidableRepeats (status : WorkspaceStatus) (prebuild : PrebuildRow) :
    Decidable (Repeats status prebuild) := by
  unfold Repeats
  infer_instance

instance decidableConcludesOnce (s : State) (a : Action) : Decidable (ConcludesOnce s a) := by
  unfold ConcludesOnce
  split
  · split
    · split_ifs <;> infer_instance
    · infer_instance
  · split
    · infer_instance
    · infer_instance
  · infer_instance

/-- An update that the instance is stopping, with what became of the prebuild. -/
def prebuildStopping (timeout failed snapshot : String) : WorkspaceStatus :=
  { prebuildIn .stopping with timeout := timeout, failed := failed, snapshot := snapshot }

/-- The update with the snapshot is delivered twice, and a controller run does not find a
    prebuild that is building any more. -/
def repeated : List Action :=
  [.handleStatusUpdate (prebuildIn .running), .next 1, .next 1, .next 1, .next 1,
    .controlInstallationInstances, .list 0,
    .handleStatusUpdate (prebuildStopping "" "" "snapshot"), .next 2, .next 2, .next 2, .next 2,
    .answer 0 false 2, .controlPrebuildInstance 0,
    .handleStatusUpdate (prebuildStopping "" "" "snapshot"), .next 3, .next 3, .next 3, .next 3]

/-- The run comes to its end, with the snapshot in the record. -/
theorem final_repeated :
    (∃ s, runActions (step 3600) repeated (newState startedInstance ⟨.queued, "", ""⟩) = some s ∧
      s.prebuild = ⟨.available, "", "snapshot"⟩) ∧
    StepsAlong (step 3600) (fun s _ s' => Final s s') repeated
      (newState startedInstance ⟨.queued, "", ""⟩) :=
  ⟨⟨_, rfl, rfl⟩, (final_iff (by decide) _ _).mpr (by decide)⟩

/-- The first update that the instance is stopping makes the prebuild available without a
    snapshot, the next one changes it, and an abort of the prebuild as it was read before is
    stored over the outcome. -/
theorem overwritten_outcome :
    (∃ s s', runActions (step 3600) [.handleStatusUpdate (prebuildStopping "" "" ""), .next 1,
        .next 1, .next 1, .next 1] (newState startedInstance ⟨.building, "", ""⟩) = some s ∧
      s.prebuild = ⟨.available, "", ""⟩ ∧
      runActions (step 3600) [.handleStatusUpdate (prebuildStopping "timed out" "" ""), .next 2,
        .next 2, .next 2, .next 2] s = some s' ∧ s'.prebuild = ⟨.timeout, "timed out", ""⟩) ∧
    ∃ s s', runActions (step 0) [.controlInstallationInstances, .list 0, .answer 0 false 1,
        .controlPrebuildInstance 0, .handleStatusUpdate (prebuildStopping "" "" "snapshot"),
        .next 1, .next 1, .next 1, .next 1] (newState startedInstance ⟨.building, "", ""⟩) =
        some s ∧ s.prebuild = ⟨.available, "", "snapshot"⟩ ∧
      runActions (step 0) [.controlPrebuildInstance 0] s = some s' ∧
      s'.prebuild = ⟨.aborted, "", "snapshot"⟩ :=
  ⟨⟨_, _, rfl, rfl, rfl, rfl⟩, _, _, rfl, rfl, rfl, rfl⟩

end Bridge

end Prebuilds

end Nxpod
