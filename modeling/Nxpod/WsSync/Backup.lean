import Mathlib.Tactic.Ring
import Nxpod.Content.Manifest

/-!
# Backups of a Workspace

`uploadWorkspaceContent` takes an archive of the content, uploads it as a layer
and, for a workspace with full backup, uploads a content manifest: what the
workspace was started from, with the new layer. Each of these is tried several
times. The next instance of the workspace is started from the manifest that was
uploaded.

The layers of the old manifest are copied into a new list, the new layer is
added to it, and the result is appended to the layers of the old manifest. So
the old layers are listed twice, and their number doubles with every backup.

## Main definitions

* `retryIfErr`: Several attempts at one thing.
* `Session`: A workspace that is backed up.
* `Uploaded`: What a backup has uploaded.
* `uploadWorkspaceContent`: A backup.
* `backups`: Backups each of which starts from what the one before uploaded.
* `Chained`: Each manifest adds one layer to the one before.

## Theorems

* `retryIfErr_eq_ok`: What is returned was the result of an attempt.
* `uploadWorkspaceContent_eq_ok`: What a backup uploads.
* `length_layers_of_backups`: The number of layers after some backups.
* `chained_iff`: The backups that add one layer each.
-/

namespace Nxpod

namespace WsSync

namespace Backup

open Content

/-- Attempt number `i`, with some more left. The context is looked at before an
    attempt, and again before the next one is waited for. -/
def retryFrom {α : Type} (ctxErr : Nat → Option String) (op : Nat → Except String α) (i : Nat) :
    Nat → Except String α
  | 0 => match ctxErr (2 * i) with
    | some cerr => .error cerr
    | none => op i
  | left + 1 => match ctxErr (2 * i) with
    | some cerr => .error cerr
    | none => match op i with
      | .ok a => .ok a
      | .error _ => match ctxErr (2 * i + 1) with
        | some cerr => .error cerr
        | none => retryFrom ctxErr op (i + 1) left

/-- There is at least one attempt. -/
def retryIfErr {α : Type} (attempts : Nat) (ctxErr : Nat → Option String)
    (op : Nat → Except String α) : Except String α :=
  retryFrom ctxErr op 0 (attempts - 1)

/-- A workspace that is backed up. `latest` is the latest live backup, and there is
    no manifest if its bytes are not a document. -/
structure Session where
  location : String
  instanceID : String
  fullWorkspaceBackup : Bool
  contentManifest : Option Json
  latest : Option (Except String String)
  hasRemoteStorage : Bool

/-- What a backup meets in its three stages: an archive of a location has a digest
    and a size, and an upload has a bucket and an object. -/
structure Env where
  attempts : Nat
  ctxErr : Nat → Nat → Option String
  createArchive : String → Nat → Except String (String × Int)
  uploadLayer : Nat → Except String (String × String)
  writeManifest : Nat → Option String
  uploadManifest : Nat → Except String (String × String)

/-- What a backup has uploaded. -/
structure Uploaded where
  layer : ContentLayer
  manifest : Option Json

/-- Where the content is, and the manifest the workspace was started from. -/
def loadManifest (sess : Session) : Except String (String × ContentManifest) :=
  if sess.fullWorkspaceBackup then
    match sess.latest with
    | none => .error "workspace has no live backup configured"
    | some (.error err) => .error ("no live backup available: " ++ err)
    | some (.ok loc) => match sess.contentManifest.bind ContentManifest.unmarshal with
      | none => .error "cannot unmarshal original content manifest"
      | some mf => .ok (loc, mf)
  else .ok (sess.location, .zero)

/-- The layer that was uploaded. -/
def newLayer (sess : Session) (digest : String) (size : Int) (bucket object : String) :
    ContentLayer where
  mediaType := mediaTypeUncompressedLayer
  digest := digest
  size := size
  bucket := bucket
  object := object
  diffID := digest
  instanceID := sess.instanceID

/-- The new manifest. The list it appends has the old layers already. -/
def newManifest (mf : ContentManifest) (layer : ContentLayer) : ContentManifest :=
  let ls := mf.layers ++ [layer]
  { type := mf.type, layers := mf.layers ++ ls }

/-- One attempt to upload the manifest of a workspace with full backup. -/
def uploadManifest (env : Env) (sess : Session) (mf : ContentManifest) (layer : ContentLayer)
    (i : Nat) : Except String (Option Json) :=
  if !sess.fullWorkspaceBackup then .ok none
  else match env.writeManifest i with
    | some err => .error err
    | none => match env.uploadManifest i with
      | .error err => .error err
      | .ok _ => .ok (some (newManifest mf layer).marshal)

/-- Archive, layer and manifest, one after the other. The manifest comes last,
    so that it never lists a layer that is not there. -/
def uploadWorkspaceContent (env : Env) (sess : Session) : Except String Uploaded :=
  match loadManifest sess with
  | .error err => .error err
  | .ok (loc, mf) =>
    if !sess.hasRemoteStorage then .error "no remote storage configured"
    else match retryIfErr env.attempts (env.ctxErr 0) (env.createArchive loc) with
      | .error err => .error ("cannot create archive: " ++ err)
      | .ok (digest, size) => match retryIfErr env.attempts (env.ctxErr 1) env.uploadLayer with
        | .error err => .error ("cannot upload workspace content: " ++ err)
        | .ok (bucket, object) =>
          let layer := newLayer sess digest size bucket object
          match retryIfErr env.attempts (env.ctxErr 2) (uploadManifest env sess mf layer) with
          | .error err => .error ("cannot upload workspace content manifest: " ++ err)
          | .ok manifest => .ok ⟨layer, manifest⟩

/-- Backups of a workspace. Each starts from the manifest that the one before has
    uploaded, the first one from the given one. All of them succeed. -/
def backups : List (Env × Session) → Option Json → Option (List Uploaded)
  | [], _ => some []
  | (env, sess) :: rest, content =>
      match uploadWorkspaceContent env
          { sess with fullWorkspaceBackup := true, contentManifest := content } with
      | .error _ => none
      | .ok up => (backups rest up.manifest).map (up :: ·)

/-! ## One layer each -/

/-- Each manifest that was uploaded lists the layers of the one before, in their
    order and each once, and then the layer that was uploaded with it. -/
def Chained : ContentManifest → List Uploaded → Prop
  | _, [] => True
  | mf, up :: ups => ∃ mf', up.manifest.bind ContentManifest.unmarshal = some mf' ∧
      mf'.layers = mf.layers ++ [up.layer] ∧ Chained mf' ups

/-- What succeeds in the end has succeeded in some attempt. -/
theorem retryFrom_eq_ok {α : Type} {ctxErr : Nat → Option String} {op : Nat → Except String α}
    {a : α} {left : Nat} : ∀ {i : Nat}, retryFrom ctxErr op i left = .ok a → ∃ j, op j = .ok a := by
  induction left with
  | zero =>
      intro i h
      unfold retryFrom at h
      split at h
      · exact absurd h nofun
      · exact ⟨i, h⟩
  | succ left ih =>
      intro i h
      unfold retryFrom at h
      split at h
      · exact absurd h nofun
      · cases hop : op i with
        | ok b =>
            rw [hop, Except.ok.injEq] at h
            exact ⟨i, hop.trans (congrArg Except.ok h)⟩
        | error err =>
            simp only [hop] at h
            split at h
            · exact absurd h nofun
            · exact ih h

theorem retryIfErr_eq_ok {α : Type} {attempts : Nat} {ctxErr : Nat → Option String}
    {op : Nat → Except String α} {a : α} (h : retryIfErr attempts ctxErr op = .ok a) :
    ∃ i, op i = .ok a :=
  retryFrom_eq_ok h

/-- A backup of a workspace with full backup that succeeds uploads the manifest
    that was loaded, with the layer that was uploaded. -/
theorem uploadWorkspaceContent_eq_ok {env : Env} {sess : Session} {up : Uploaded}
    (hfwb : sess.fullWorkspaceBackup = true) (h : uploadWorkspaceContent env sess = .ok up) :
    ∃ mf, sess.contentManifest.bind ContentManifest.unmarshal = some mf ∧
      up.manifest = some (newManifest mf up.layer).marshal := by
  unfold uploadWorkspaceContent at h
  split at h
  · exact absurd h nofun
  · next loc mf hload =>
      -- Only the branch with a manifest that unmarshals goes on.
      have hmf : sess.contentManifest.bind ContentManifest.unmarshal = some mf := by
        unfold loadManifest at hload
        rw [if_pos hfwb] at hload
        repeat' split at hload
        all_goals cases hload
        assumption
      refine ⟨mf, hmf, ?_⟩
      split_ifs at h
      split at h
      · exact absurd h nofun
      · split at h
        · exact absurd h nofun
        · dsimp only at h
          split at h
          · exact absurd h nofun
          · next manifest hmanifest =>
              rcases retryIfErr_eq_ok hmanifest with ⟨i, hi⟩
              rw [Except.ok.injEq] at h
              rw [← h]
              unfold uploadManifest at hi
              rw [if_neg (by rw [hfwb]; decide)] at hi
              repeat' split at hi
              all_goals cases hi
              rfl

variable {mf : ContentManifest} {bs : List (Env × Session)} {content : Option Json}
  {ups : List Uploaded}

/-- The first backup of several, and the others. -/
theorem backups_cons {b : Env × Session} (h : backups (b :: bs) content = some ups)
    (hmf : content.bind ContentManifest.unmarshal = some mf) :
    ∃ up rest, ups = up :: rest ∧
      up.manifest.bind ContentManifest.unmarshal = some (newManifest mf up.layer) ∧
        backups bs up.manifest = some rest := by
  unfold backups at h
  split at h
  · exact absurd h nofun
  · next up hup =>
      rcases Option.map_eq_some_iff.mp h with ⟨rest, hrest, rfl⟩
      rcases uploadWorkspaceContent_eq_ok rfl hup with ⟨mf', hmf', hmanifest⟩
      have hsame : mf' = mf := Option.some.inj (hmf'.symm.trans hmf)
      refine ⟨up, rest, rfl, ?_, hrest⟩
      rw [hmanifest, hsame]
      exact ContentManifest.unmarshal_marshal _

theorem length_newManifest (mf : ContentManifest) (layer : ContentLayer) :
    (newManifest mf layer).layers.length + 1 = 2 * (mf.layers.length + 1) := by
  unfold newManifest
  rw [List.length_append, List.length_append, List.length_singleton]
  omega

/-- With every backup the number of layers doubles, and one is added. -/
theorem length_layers_of_backups (bs : List (Env × Session)) (content : Option Json)
    (ups : List Uploaded) (mf : ContentManifest) (h : backups bs content = some ups)
    (hmf : content.bind ContentManifest.unmarshal = some mf) (up : Uploaded)
    (hup : ups.getLast? = some up) :
    ∃ mf', up.manifest.bind ContentManifest.unmarshal = some mf' ∧
      mf'.layers.length + 1 = 2 ^ bs.length * (mf.layers.length + 1) := by
  induction bs generalizing content ups mf with
  | nil =>
      rw [backups, Option.some.injEq] at h
      rw [← h] at hup
      exact absurd hup nofun
  | cons b bs ih =>
      rcases backups_cons h hmf with ⟨first, rest, rfl, hfirst, hrest⟩
      cases rest with
      | nil =>
          -- the first backup is the last one
          rw [List.getLast?_singleton, Option.some.injEq] at hup
          rw [← hup]
          refine ⟨_, hfirst, ?_⟩
          have hnone : bs = [] := by
            cases bs with
            | nil => rfl
            | cons c cs =>
                rcases backups_cons hrest hfirst with ⟨next, others, hnext, -⟩
                exact absurd hnext nofun
          rw [hnone, length_newManifest]
          rfl
      | cons next others =>
          rw [List.getLast?_cons_cons] at hup
          rcases ih first.manifest (next :: others) _ hrest hfirst hup with ⟨mf', hmf', hlength⟩
          refine ⟨mf', hmf', ?_⟩
          rw [hlength, length_newManifest, List.length_cons, Nat.pow_succ]
          ring

theorem layers_newManifest_iff (mf : ContentManifest) (layer : ContentLayer) :
    (newManifest mf layer).layers = mf.layers ++ [layer] ↔ mf.layers = [] := by
  unfold newManifest
  constructor
  · intro h
    have hlength := congrArg List.length h
    rw [List.length_append, List.length_append] at hlength
    exact List.length_eq_zero_iff.mp (by omega)
  · intro h
    rw [h]
    rfl

/-- Backups add one layer each exactly when there is one of a workspace without
    layers, or none. Every backup lists the layers of the one before twice, so
    their number more than doubles each time. -/
theorem chained_iff (bs : List (Env × Session)) (content : Option Json) (ups : List Uploaded)
    (mf : ContentManifest) (h : backups bs content = some ups)
    (hmf : content.bind ContentManifest.unmarshal = some mf) :
    Chained mf ups ↔ bs = [] ∨ bs.length = 1 ∧ mf.layers = [] := by
  cases bs with
  | nil =>
      rw [backups, Option.some.injEq] at h
      rw [← h]
      exact iff_of_true trivial (Or.inl rfl)
  | cons b bs =>
      rcases backups_cons h hmf with ⟨up, rest, rfl, hup, hrest⟩
      have hsingle : Chained mf (up :: rest) ↔
          mf.layers = [] ∧ Chained (newManifest mf up.layer) rest := by
        rw [Chained, hup, ← layers_newManifest_iff mf up.layer]
        constructor
        · rintro ⟨mf', hmf', hlayers, hchained⟩
          rw [Option.some.injEq] at hmf'
          rw [hmf']
          exact ⟨hlayers, hchained⟩
        · intro hboth
          exact ⟨_, rfl, hboth⟩
      rw [hsingle, List.length_cons, Nat.add_eq_right, List.length_eq_zero_iff]
      cases bs with
      | nil =>
          rw [backups, Option.some.injEq] at hrest
          rw [← hrest]
          exact ⟨fun hboth => Or.inr ⟨rfl, hboth.1⟩, fun hor =>
            ⟨(hor.resolve_left nofun).2, trivial⟩⟩
      | cons c cs =>
          -- a second backup starts from a manifest that has a layer
          rcases backups_cons hrest hup with ⟨next, others, rfl, hnext, -⟩
          refine iff_of_false (fun hboth => ?_) (fun hor => ?_)
          · rcases hboth.2 with ⟨mf', hmf', hlayers, -⟩
            rw [hnext, Option.some.injEq] at hmf'
            rw [← hmf', layers_newManifest_iff] at hlayers
            exact absurd (List.append_eq_nil_iff.mp (List.append_eq_nil_iff.mp hlayers).2).2 nofun
          · exact absurd (hor.resolve_left nofun).1 nofun

/-- Archives and uploads that succeed at once. -/
def smooth (digest object : String) : Env where
  attempts := 3
  ctxErr := fun _ _ => none
  createArchive := fun _ _ => .ok (digest, 10)
  uploadLayer := fun _ => .ok ("bucket", object)
  writeManifest := fun _ => none
  uploadManifest := fun _ => .ok ("bucket", "workspaces/ws/wsfull.json")

/-- A workspace with full backup, which has no manifest yet. -/
def running (instanceID : String) : Session where
  location := "/workspace"
  instanceID := instanceID
  fullWorkspaceBackup := true
  contentManifest := none
  latest := some (.ok "/live")
  hasRemoteStorage := true

/-- The first backup of a workspace without layers. -/
theorem chained_iff_first :
    ∃ ups, backups [(smooth "d1" "workspaces/ws/full.tar", running "i1")]
      (some (ContentManifest.mk typeFullWorkspaceContentV1 []).marshal) = some ups ∧
        Chained ⟨typeFullWorkspaceContentV1, []⟩ ups := by
  refine ⟨_, rfl, (chained_iff [(smooth "d1" "workspaces/ws/full.tar", running "i1")]
    (some (ContentManifest.mk typeFullWorkspaceContentV1 []).marshal) _ _ rfl rfl).mpr ?_⟩
  exact Or.inr ⟨rfl, rfl⟩

/-- The second backup lists the layer of the first one twice. -/
theorem not_chained :
    ∃ ups, backups [(smooth "d1" "o1", running "i1"), (smooth "d2" "o2", running "i2")]
      (some (ContentManifest.mk typeFullWorkspaceContentV1 []).marshal) = some ups ∧
        ¬ Chained ⟨typeFullWorkspaceContentV1, []⟩ ups ∧
        ups.map (fun up => (up.manifest.bind ContentManifest.unmarshal).map
          fun mf => mf.layers.map ContentLayer.digest) =
            [some ["d1"], some ["d1", "d1", "d2"]] := by
  refine ⟨_, rfl, ?_, rfl⟩
  rintro ⟨mf, hmf, -, mf', hmf', hlayers, -⟩
  rw [← Option.some.inj hmf, ← Option.some.inj hmf'] at hlayers
  exact absurd (congrArg List.length hlayers) nofun

end Backup

end WsSync

end Nxpod
