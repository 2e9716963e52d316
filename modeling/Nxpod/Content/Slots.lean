import Mathlib.Data.Finset.Card
import Mathlib.Data.Finset.Sort
import Nxpod.Content.Storage
import Nxpod.Library.Transition

/-!
# Slots for Snapshots

`Upload` of the GCloud storage may keep the number of objects of a workspace within a limit. All
that is not the default backup has to find a slot first. The objects of all workspaces of one
owner are in one bucket, and those of a workspace are the ones whose names begin with the prefix
of the workspace and a slash.

The objects are counted by the prefix alone, so those of a workspace whose name is longer
count as well. And the number that there are is compared with the limit, not the number that
there will be.

A backup trail makes a copy of what is going to be overwritten and deletes old copies. What is
uploaded first is without a trail, so either way one object is added at most. The chunks an
upload is put together from have names that do not begin like those of a workspace, and they are
left out.

## Main definitions

* `Workspace`, `Bucket`, `own`: The objects of a workspace.
* `GCPConfig`: The two limits, of which only the number is looked at here.
* `UploadOptions`: A trail has the ID of this backup and a length.
* `Env`: What the storage and the file system answer.
* `ensureBackupSlotAvailable`: The guard.
* `trailBackup`, `upload`: What becomes of the bucket.
* `Guards`: The guard counts what it should, and lets through what it should.
* `Countable`: The condition on the bucket.

## Theorems

* `upload_cases`, `card_own_upload_le`: What an upload adds.
* `guards_iff_countable`: When the guard is right.
* `card_own_of_reaches`: Guarded uploads where it is.
-/

namespace Nxpod

namespace Content

namespace Slots

open Storage Transition

/-! ## Names -/

/-- No ID of a workspace has a slash. -/
structure Workspace where
  name : String
  noSlash : '/' ∉ name.toList

/-- What the names of a workspace begin with, without the slash. -/
def workspacePrefix (w : Workspace) : String :=
  "workspaces/" ++ w.name

/-- The name of an object of the workspace. -/
def objectName (w : Workspace) (name : String) : String :=
  workspacePrefix w ++ "/" ++ name

/-- What the names of its copies begin with. -/
def trailPrefix (w : Workspace) : String :=
  workspacePrefix w ++ "/trail-"

/-- A copy is named by the time at which it was made. -/
def trailingObjectName (w : Workspace) (id : String) (unix : Int) : String :=
  trailPrefix w ++ toString unix ++ "-" ++ id

/-- The names of the objects in the bucket of an owner. -/
abbrev Bucket := Finset String

/-- What is listed for a query. -/
def matching (p : String) (b : Bucket) : Finset String :=
  b.filter fun name => p.toList <+: name.toList

/-- The objects of a workspace. -/
def own (b : Bucket) (w : Workspace) : Finset String :=
  matching (objectName w "") b

theorem objectName_eq (w : Workspace) (name : String) :
    objectName w name = gcpObjectName w.name name :=
  rfl

/-! ## Uploading -/

/-- The two limits, of which only the number is looked at here. -/
structure GCPConfig where
  maximumBackupCount : Int
  maximumBackupSize : Int

/-- A trail has the ID of this backup and a length. -/
structure UploadOptions where
  backupTrail : Option (String × Int)

/-- What the storage and the file system answer. An iterator has an error in the place of some
    object, or of its end. -/
structure Env where
  hasClient : Bool
  nextErr : Nat → Option String
  openErr : Option String
  statErr : Option String
  totalSize : Int
  chunksErr : Option String
  attrsErr : Option String
  copyErr : Option String
  trailErr : Option String
  deleteErr : String → Option String
  composeErr : Option String
  updateErr : Option String
  unix : Int

/-- The loop over an iterator that has so many objects left. -/
def countObjects (env : Env) : Nat → Nat → Except String Nat
  | objcnt, left =>
    match env.nextErr objcnt with
    | some err => .error err
    | none => match left with
      | 0 => .ok objcnt
      | left + 1 => countObjects env (objcnt + 1) left

/-- A limit of zero is none. -/
def ensureBackupSlotAvailable (cfg : GCPConfig) (env : Env) (b : Bucket) (w : Workspace) :
    Except String Unit :=
  if cfg.maximumBackupCount = 0 then .ok ()
  else if !env.hasClient then .error "no gcloud client avialable - did you call Init()?"
  else match countObjects env 0 (matching (workspacePrefix w) b).card with
    | .error err => .error err
    | .ok objcnt =>
        if (objcnt : Int) > cfg.maximumBackupCount then
          .error s!"Maximum number of snapshots ({objcnt} of {cfg.maximumBackupCount}) reached"
        else .ok ()

/-- The copy is there before the trail is listed. Of the trail only the last ones stay, by name,
    except for those that cannot be deleted. -/
def trailBackup (env : Env) (b : Bucket) (w : Workspace) (obj id : String) (trailLength : Int) :
    Bucket :=
  if obj ∉ b ∨ env.copyErr ≠ none then b
  else
    let copied := insert (trailingObjectName w id env.unix) b
    if env.trailErr ≠ none then copied
    else
      let trail := (matching (trailPrefix w) copied).sort (· ≤ ·)
      (trail.take (trail.length - trailLength).toNat).foldl
        (fun b name => if env.deleteErr name ≠ none then b else b.erase name) copied

/-- The file is opened and uploaded in chunks. -/
def uploadFile (cfg : GCPConfig) (env : Env) : Except String Unit :=
  match env.openErr, env.statErr with
  | some err, _ => .error s!"cannot open file for uploading: {err}"
  | none, some err => .error err
  | none, none =>
    if cfg.maximumBackupSize > 0 ∧ env.totalSize > cfg.maximumBackupSize then
      .error (s!"Workspace is too big and cannot be uploaded. Workspace size is " ++
        s!"{env.totalSize} bytes, max size is {cfg.maximumBackupSize} bytes")
    else match env.chunksErr with
      | some err => .error err
      | none => .ok ()

/-- What comes before anything is stored under the name of the workspace. -/
def prepare (cfg : GCPConfig) (env : Env) (b : Bucket) (w : Workspace) (name : String) :
    Except String Unit :=
  if !env.hasClient then .error "no gcloud client avialable - did you call Init()?"
  else match if name ≠ defaultBackup then ensureBackupSlotAvailable cfg env b w else .ok () with
    | .error err => .error err
    | .ok () => uploadFile cfg env

/-- The trail is kept before the object is overwritten. An error of the trail is logged. -/
def maintainTrail (env : Env) (b : Bucket) (w : Workspace) (name : String)
    (options : UploadOptions) : Bucket :=
  let firstBackup := env.attrsErr = none ∧ objectName w name ∉ b
  match options.backupTrail with
  | some (id, trailLength) =>
      if firstBackup then b else trailBackup env b w (objectName w name) id trailLength
  | none => b

/-- What is returned is the name of the object. -/
def upload (cfg : GCPConfig) (env : Env) (b : Bucket) (w : Workspace) (name : String)
    (options : UploadOptions) : Except String String × Bucket :=
  match prepare cfg env b w name with
  | .error err => (.error err, b)
  | .ok () =>
    let trailed := maintainTrail env b w name options
    match env.composeErr, env.updateErr with
    | some err, _ => (.error err, trailed)
    | none, some err => (.error err, insert (objectName w name) trailed)
    | none, none => (.ok (objectName w name), insert (objectName w name) trailed)

/-! ## The guard -/

/-- The storage answers. -/
def Env.Answers (env : Env) : Prop :=
  env.hasClient = true ∧ ∀ objcnt, env.nextErr objcnt = none

/-- Where the storage answers, the objects of the workspace are counted, and there is a slot
    exactly if with one more they are within the limit. -/
def Guards (cfg : GCPConfig) (b : Bucket) (w : Workspace) : Prop :=
  ∀ env : Env, env.Answers →
    countObjects env 0 (matching (workspacePrefix w) b).card = .ok (own b w).card ∧
    (ensureBackupSlotAvailable cfg env b w = .ok () ↔
      ((own b w).card : Int) + 1 ≤ cfg.maximumBackupCount)

/-- Whatever in the bucket begins with the prefix of the workspace is its own, and the workspace
    does not have as many objects as it may have. -/
structure Countable (cfg : GCPConfig) (b : Bucket) (w : Workspace) : Prop where
  noOther : ∀ name ∈ b, (workspacePrefix w).toList <+: name.toList →
    (objectName w "").toList <+: name.toList
  notFull : ((own b w).card : Int) ≠ cfg.maximumBackupCount

section Guard

variable {cfg : GCPConfig} {env : Env} {b b' : Bucket} {w w' : Workspace} {name : String}

/-- The objects of a workspace are told by the prefix with the slash. -/
theorem mem_own : name ∈ own b w ↔ name ∈ b ∧ (objectName w "").toList <+: name.toList :=
  Finset.mem_filter

/-- If the storage answers, all that it lists are counted. -/
theorem countObjects_eq (hanswers : ∀ objcnt, env.nextErr objcnt = none) (objcnt left : Nat) :
    countObjects env objcnt left = .ok (objcnt + left) := by
  induction left generalizing objcnt with
  | zero =>
      rw [countObjects, hanswers]
      rfl
  | succ left ih =>
      rw [countObjects, hanswers]
      show countObjects env (objcnt + 1) left = _
      rw [ih, Nat.succ_add_eq_add_succ]

/-- What the guard does with the number it counts. -/
theorem ensureBackupSlotAvailable_iff (hanswers : env.Answers)
    (hlimit : 0 < cfg.maximumBackupCount) :
    ensureBackupSlotAvailable cfg env b w = .ok () ↔
      ((matching (workspacePrefix w) b).card : Int) ≤ cfg.maximumBackupCount := by
  unfold ensureBackupSlotAvailable
  rw [if_neg (by omega), hanswers.1, countObjects_eq hanswers.2, Nat.zero_add]
  simp only [Bool.not_true, Bool.false_eq_true, if_false]
  split_ifs with hmore
  · exact iff_of_false nofun (by omega)
  · exact iff_of_true rfl (by omega)

/-- The prefix of a workspace is the beginning of the names of its objects. -/
theorem workspacePrefix_isPrefix (w : Workspace) :
    (workspacePrefix w).toList <+: (objectName w "").toList := by
  rw [objectName, String.append_assoc, String.toList_append]
  exact List.prefix_append _ _

theorem own_subset_matching : own b w ⊆ matching (workspacePrefix w) b := by
  intro name hname
  rcases mem_own.mp hname with ⟨hmem, hown⟩
  exact Finset.mem_filter.mpr ⟨hmem, (workspacePrefix_isPrefix w).trans hown⟩

/-- The number of objects that are counted is right exactly if all of them are the workspace's. -/
theorem card_matching_eq_iff : (matching (workspacePrefix w) b).card = (own b w).card ↔
    ∀ name ∈ b, (workspacePrefix w).toList <+: name.toList →
      (objectName w "").toList <+: name.toList := by
  constructor
  · intro hcard name hname hmatch
    have heq := Finset.eq_of_subset_of_card_le (own_subset_matching (b := b) (w := w)) hcard.le
    have hmem : name ∈ own b w := heq ▸ Finset.mem_filter.mpr ⟨hname, hmatch⟩
    exact (mem_own.mp hmem).2
  · intro h
    refine congrArg Finset.card (Finset.Subset.antisymm (fun name hname => ?_)
      own_subset_matching)
    rcases Finset.mem_filter.mp hname with ⟨hmem, hmatch⟩
    exact mem_own.mpr ⟨hmem, h name hmem hmatch⟩

/-- A storage that answers everything. -/
def answering : Env where
  hasClient := true
  nextErr _ := none
  openErr := none
  statErr := none
  totalSize := 0
  chunksErr := none
  attrsErr := none
  copyErr := none
  trailErr := none
  deleteErr _ := none
  composeErr := none
  updateErr := none
  unix := 0

theorem answers_answering : answering.Answers :=
  ⟨rfl, fun _ => rfl⟩

/-- The guard counts what it should exactly if nothing else begins so, and says yes once too
    often if it is full. -/
theorem guards_iff_countable (hlimit : 0 < cfg.maximumBackupCount) :
    Guards cfg b w ↔ Countable cfg b w := by
  constructor
  · intro h
    rcases h answering answers_answering with ⟨hcount, hslot⟩
    rw [countObjects_eq answers_answering.2, Nat.zero_add, Except.ok.injEq] at hcount
    rw [ensureBackupSlotAvailable_iff answers_answering hlimit, hcount] at hslot
    exact ⟨card_matching_eq_iff.mp hcount, by omega⟩
  · rintro ⟨hother, hfull⟩ env hanswers
    have hcount := card_matching_eq_iff.mpr hother
    rw [countObjects_eq hanswers.2, ensureBackupSlotAvailable_iff hanswers hlimit, hcount,
      Nat.zero_add]
    exact ⟨rfl, by omega⟩

theorem of_countObjects_eq_ok {objcnt left n : Nat} (h : countObjects env objcnt left = .ok n) :
    n = objcnt + left := by
  induction left generalizing objcnt with
  | zero =>
      rw [countObjects] at h
      cases hnext : env.nextErr objcnt with
      | none =>
          rw [hnext] at h
          exact (Except.ok.inj h).symm
      | some err =>
          rw [hnext] at h
          exact absurd h nofun
  | succ left ih =>
      rw [countObjects] at h
      cases hnext : env.nextErr objcnt with
      | none =>
          rw [hnext] at h
          rw [ih h, Nat.succ_add_eq_add_succ]
      | some err =>
          rw [hnext] at h
          exact absurd h nofun

/-- Whatever the storage answers, who gets through has found no more than the limit. -/
theorem le_of_ensureBackupSlotAvailable (hlimit : 0 < cfg.maximumBackupCount)
    (h : ensureBackupSlotAvailable cfg env b w = .ok ()) :
    ((matching (workspacePrefix w) b).card : Int) ≤ cfg.maximumBackupCount := by
  unfold ensureBackupSlotAvailable at h
  rw [if_neg (by omega)] at h
  split_ifs at h with hclient
  cases hcount : countObjects env 0 (matching (workspacePrefix w) b).card with
  | error err =>
      rw [hcount] at h
      exact absurd h nofun
  | ok objcnt =>
      rw [hcount] at h
      simp only at h
      split_ifs at h with hmore
      rw [of_countObjects_eq_ok hcount, Nat.zero_add] at hmore
      exact not_lt.mp hmore

end Guard

/-! ## What an upload adds -/

section Adds

variable {cfg : GCPConfig} {env : Env} {b b' : Bucket} {w w' : Workspace} {name : String}
  {options : UploadOptions}

theorem trailingObjectName_eq (w : Workspace) (id : String) (unix : Int) :
    trailingObjectName w id unix = objectName w ("trail-" ++ toString unix ++ "-" ++ id) := by
  have htrail : "/trail-" = "/" ++ "trail-" := rfl
  simp only [trailingObjectName, trailPrefix, objectName, htrail, String.append_assoc]

theorem foldl_erase_subset (keeps : String → Prop) [DecidablePred keeps] (names : List String)
    (b : Bucket) : names.foldl (fun b name => if keeps name then b else b.erase name) b ⊆ b := by
  induction names generalizing b with
  | nil => exact Finset.Subset.refl b
  | cons name names ih =>
      rw [List.foldl_cons]
      refine (ih _).trans ?_
      split_ifs
      · exact Finset.Subset.refl b
      · exact Finset.erase_subset name b

/-- A trail is only added to where there is something to copy. -/
theorem trailBackup_cases (env : Env) (b : Bucket) (w : Workspace) (obj id : String)
    (trailLength : Int) : trailBackup env b w obj id trailLength = b ∨
      obj ∈ b ∧ trailBackup env b w obj id trailLength ⊆
        insert (trailingObjectName w id env.unix) b := by
  unfold trailBackup
  dsimp only
  split_ifs with hcopy hlist
  · exact Or.inl rfl
  · exact Or.inr ⟨not_not.mp (not_or.mp hcopy).1, Finset.Subset.refl _⟩
  · exact Or.inr ⟨not_not.mp (not_or.mp hcopy).1, foldl_erase_subset _ _ _⟩

/-- Who gets through has passed the guard, unless for the default backup. -/
theorem guard_of_prepare (h : prepare cfg env b w name = .ok ()) (hname : name ≠ defaultBackup) :
    ensureBackupSlotAvailable cfg env b w = .ok () := by
  unfold prepare at h
  rw [if_pos hname] at h
  split_ifs at h
  cases hguard : ensureBackupSlotAvailable cfg env b w with
  | ok _ => rfl
  | error err =>
      rw [hguard] at h
      exact absurd h nofun

theorem maintainTrail_cases (env : Env) (b : Bucket) (w : Workspace) (name : String)
    (options : UploadOptions) : maintainTrail env b w name options = b ∨
      objectName w name ∈ b ∧
        ∃ added, maintainTrail env b w name options ⊆ insert (objectName w added) b := by
  unfold maintainTrail
  rcases options.backupTrail with _ | ⟨id, trailLength⟩
  · exact Or.inl rfl
  · dsimp only
    split_ifs with hfirst
    · exact Or.inl rfl
    · rcases trailBackup_cases env b w (objectName w name) id trailLength with heq | ⟨hmem, hsub⟩
      · exact Or.inl heq
      · rw [trailingObjectName_eq] at hsub
        exact Or.inr ⟨hmem, _, hsub⟩

/-- The backup and what its trail has got are one object more at most: with a trail the backup
    was there before. -/
theorem insert_maintainTrail (env : Env) (b : Bucket) (w : Workspace) (name : String)
    (options : UploadOptions) :
    ∃ added, insert (objectName w name) (maintainTrail env b w name options) ⊆
      insert (objectName w added) b := by
  rcases maintainTrail_cases env b w name options with heq | ⟨hmem, added, hsub⟩
  · exact ⟨name, by rw [heq]⟩
  · exact ⟨added, Finset.insert_subset (Finset.mem_insert_of_mem hmem) hsub⟩

/-- An upload that changes the bucket has passed the guard, unless it is of the default backup,
    and adds one object of the workspace at most. -/
theorem upload_cases (cfg : GCPConfig) (env : Env) (b : Bucket) (w : Workspace) (name : String)
    (options : UploadOptions) : (upload cfg env b w name options).2 = b ∨
      (name ≠ defaultBackup → ensureBackupSlotAvailable cfg env b w = .ok ()) ∧
      ∃ added, (upload cfg env b w name options).2 ⊆ insert (objectName w added) b := by
  unfold upload
  cases hprepare : prepare cfg env b w name with
  | error err => exact Or.inl rfl
  | ok _ =>
      refine Or.inr ⟨guard_of_prepare hprepare, ?_⟩
      rcases insert_maintainTrail env b w name options with ⟨added, hsub⟩
      refine ⟨added, ?_⟩
      dsimp only
      split
      · exact (Finset.subset_insert _ _).trans hsub
      · exact hsub
      · exact hsub

/-- An object is in one workspace only. -/
theorem isPrefix_objectName_iff : (objectName w' "").toList <+: (objectName w name).toList ↔
    w'.name = w.name := by
  have hlist : ∀ (w : Workspace) (name : String), (objectName w name).toList =
      "workspaces/".toList ++ (w.name.toList ++ '/' :: name.toList) := by
    intro w name
    have hslash : "/".toList = ['/'] := rfl
    simp only [objectName, workspacePrefix, String.toList_append, hslash, List.append_assoc,
      List.singleton_append]
  rw [hlist, hlist, List.prefix_append_right_inj]
  constructor
  · rintro ⟨rest, hrest⟩
    rw [List.append_assoc, List.cons_append] at hrest
    -- the names end at the first slash of both
    exact String.toList_inj.mp (Text.append_separator_inj w'.noSlash w.noSlash hrest).1
  · intro h
    rw [h, List.prefix_append_right_inj]
    exact ⟨name.toList, rfl⟩

theorem card_own_insert_le (added : String) (h : b' ⊆ insert (objectName w added) b) :
    (own b' w').card ≤ (own b w').card + if w'.name = w.name then 1 else 0 := by
  split_ifs with hsame
  · have hsub : own b' w' ⊆ insert (objectName w added) (own b w') := by
      intro name hname
      rcases mem_own.mp hname with ⟨hmem, hown⟩
      rcases Finset.mem_insert.mp (h hmem) with rfl | hmem
      · exact Finset.mem_insert_self _ _
      · exact Finset.mem_insert_of_mem (mem_own.mpr ⟨hmem, hown⟩)
    exact (Finset.card_le_card hsub).trans (Finset.card_insert_le _ _)
  · have hsub : own b' w' ⊆ own b w' := by
      intro name hname
      rcases mem_own.mp hname with ⟨hmem, hown⟩
      rcases Finset.mem_insert.mp (h hmem) with rfl | hmem
      · exact absurd (isPrefix_objectName_iff.mp hown) hsame
      · exact mem_own.mpr ⟨hmem, hown⟩
    exact Finset.card_le_card hsub

end Adds

/-! ## Guarded uploads -/

section Runs

variable {cfg : GCPConfig} {b b' : Bucket}

/-- An upload, with what it meets. -/
structure Call where
  workspace : Workspace
  name : String
  options : UploadOptions
  env : Env

/-- An upload that has to pass the guard. -/
def step (cfg : GCPConfig) (b : Bucket) (call : Call) : Option Bucket :=
  if call.name = defaultBackup then none
  else some (upload cfg call.env b call.workspace call.name call.options).2

/-- Within the limit. -/
def Within (cfg : GCPConfig) (b : Bucket) : Prop :=
  ∀ w, ((own b w).card : Int) ≤ cfg.maximumBackupCount

/-- An upload that is made where the condition holds leaves every workspace within the limit. -/
theorem within_step {call : Call} (hlimit : 0 < cfg.maximumBackupCount) (hb : Within cfg b)
    (hok : Countable cfg b call.workspace) (h : step cfg b call = some b') : Within cfg b' := by
  intro w
  unfold step at h
  split_ifs at h with hname
  rw [Option.some.injEq] at h
  rcases upload_cases cfg call.env b call.workspace call.name call.options with
    heq | ⟨hguard, added, hsub⟩
  · rw [← h, heq]
    exact hb w
  · have hcount := le_of_ensureBackupSlotAvailable hlimit (hguard hname)
    rw [card_matching_eq_iff.mpr hok.noOther] at hcount
    have hfull := hok.notFull
    rw [h] at hsub
    have hadded : (own b' w).card ≤ _ := card_own_insert_le added hsub
    split_ifs at hadded with hsame
    · -- the workspace of the call is not full yet
      have hw : own b w = own b call.workspace := by
        unfold own objectName workspacePrefix
        rw [hsame]
      rw [hw] at hadded
      omega
    · have hle := hb w
      omega

/-- With a limit, the guard is right exactly where what begins with the prefix of the workspace
    is its own and the workspace is not full. As long as uploads are made where this is so, no
    workspace exceeds the limit. What is full already is the case that the guard is there for,
    and in which it lets one more through. -/
theorem guards_iff (cfg : GCPConfig) (hlimit : 0 < cfg.maximumBackupCount) :
    (∀ b w, Guards cfg b w ↔ Countable cfg b w) ∧
    ∀ b b', Within cfg b →
      ReachesWithin (step cfg) (fun b call => Countable cfg b call.workspace) b b' →
      Within cfg b' :=
  ⟨fun _ _ => guards_iff_countable hlimit, fun _ _ hb hreach =>
    invariant_of_reachesWithin (fun _ _ _ _ hb hok h => within_step hlimit hb hok h) hreach hb⟩

/-- Two snapshots at most. -/
theorem guards_iff_two :
    (∀ b w, Guards ⟨2, 0⟩ b w ↔ Countable ⟨2, 0⟩ b w) ∧
    ∀ b b', Within ⟨2, 0⟩ b →
      ReachesWithin (step ⟨2, 0⟩) (fun b call => Countable ⟨2, 0⟩ b call.workspace) b b' →
      Within ⟨2, 0⟩ b' :=
  guards_iff ⟨2, 0⟩ (by decide)

/-- A workspace. -/
def redFox : Workspace where
  name := "red-fox-12345678"
  noSlash := by decide

/-- A workspace that has the one snapshot it may have may have another one. -/
theorem full_workspace_guarded : ¬ ∀ cfg b w, 0 < cfg.maximumBackupCount → Guards cfg b w := by
  intro hall
  have hown : (own {"workspaces/red-fox-12345678/snapshot-1.tar"} redFox).card = 1 := by
    decide +kernel
  have hguards := hall ⟨1, 0⟩ {"workspaces/red-fox-12345678/snapshot-1.tar"} redFox (by decide)
  exact (guards_iff_countable (by decide)).mp hguards |>.notFull (by rw [hown]; rfl)

end Runs

end Slots

end Content

end Nxpod
