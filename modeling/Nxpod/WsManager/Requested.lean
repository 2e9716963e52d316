import Nxpod.WsManager.Create
import Nxpod.WsManager.Patch
import Nxpod.WsManager.Timeout

/-!
# What Was Requested and What Is Reported

A start request goes into the labels, the annotations and the container of a pod, and the status
of the workspace is read off them. Between the two, Kubernetes changes the rest of the pod as it
likes, ws-manager notes on it what it has seen, and clients set the timeout and the admission level.
Each of these is an annotation, too.

Next to the pod is kept what the clients have been granted: the timeout and the admission level
that were accepted last. The status says just that, and of the rest what the request said,
whichever flags it came with.

The two directions are in different places of the source, which agree by convention only: what is
written under one name when the pod is made has to be read under the same name when its status is
computed. `Carries` is the list of these conventions, and it is all that the proof has to carry
through a run. Who changes the name of an annotation on one side only breaks a lemma here.

## Main definitions

* `markWorkspace`, `setTimeout`, `controlAdmission`: The source's functions.
* `Note`: What ws-manager notes on a pod.
* `Setting`: What stays the same: how annotations are read, and the configured timeout.
* `Granted`: What has been granted, and the last snapshot.
* `Started`, `step`, `run`: The pod, and what was granted.
* `Change`: What may happen to a pod.
* `Carries`: What is read off the pod is what it should be.
* `Tells`: The status says what was requested and granted.

## Theorems

* `lookup_markOne`: A mark changes the annotation it names, and perhaps one more.
* `carries_start`, `carries_step`, `carries_run`: The pod in every run.
* `tells_of_run`: The status in every run.
-/

namespace Nxpod

namespace WsManager

namespace Requested

open Create
open Finalize ( workspaceIDAnnotation fullWorkspaceBackupAnnotation)
open Patch (Mark addMark deleteMark)
open Ports (metaIDLabel)
open Report hiding Env ImageSpec WorkspaceStatus
open Status (headlessLabel workspaceNeverReadyAnnotation workspaceTimedOutAnnotation
  workspaceExplicitFailAnnotation workspaceFailedBeforeStoppingAnnotation
  firstUserActivityAnnotation)
open Timeout ( workspaceClosedAnnotation)

/-! ## Marks -/

/-- One turn of the loop. A failure is also one from before stopping. -/
def markOne (annotations : Map String String) (a : Mark) : Map String String :=
  let annotations := (a.apply annotations).1
  if a.name = workspaceExplicitFailAnnotation then
    annotations.insert workspaceFailedBeforeStoppingAnnotation "true"
  else annotations

/-- How a mark is written in the log. -/
def describe (a : Mark) : String := if a.delete then "-" ++ a.name else "+" ++ a.name

/-- Marks are made on annotations, one after the other. -/
def marked (pod : Objects.Pod) (marks : List Mark) : Objects.Pod :=
  { pod with annotations := marks.foldl markOne pod.annotations }

/-- The update is that of the last attempt, and the pod is the one that was found for it. -/
def markWorkspace (update : Except String Unit) (workspaceID : String) (pod : Objects.Pod)
    (marks : List Mark) : Except String Objects.Pod :=
  match update with
  | .error err =>
      let names := String.intercalate ", " (marks.map describe)
      .error s!"cannot mark workspace {workspaceID} with {names}: {err}"
  | .ok () => .ok (marked pod marks)

/-- What ws-manager notes on a pod of what it has seen and heard. -/
inductive Note
  | closed
  | reopened
  | firstUserActivity (time : String)
  | failedBeforeStopping
  | explicitFail (message : String)
  | untraced
  | snapshot (url : String)
  | ready
  | timedOut (reason : String)

/-- The mark for what ws-manager has seen. -/
def Note.mark : Note → Mark
  | .closed => addMark workspaceClosedAnnotation "true"
  | .reopened => deleteMark workspaceClosedAnnotation
  | .firstUserActivity time => addMark firstUserActivityAnnotation time
  | .failedBeforeStopping => addMark workspaceFailedBeforeStoppingAnnotation "true"
  | .explicitFail message => addMark workspaceExplicitFailAnnotation message
  | .untraced => deleteMark Stop.traceIDAnnotation
  | .snapshot url => addMark workspaceSnapshotAnnotation url
  | .ready => deleteMark workspaceNeverReadyAnnotation
  | .timedOut reason => addMark workspaceTimedOutAnnotation reason

/-! ## Requests -/

/-- What stays the same: how annotations are read, and the configured timeout. -/
structure Setting (Stamp : Type) where
  env : Report.Env Stamp
  regularWorkspace : Duration
  parseDuration : String → Except String Duration

variable {Stamp : Type}

/-- A client sets the timeout, if it is a duration. -/
def setTimeout (g : Setting Stamp) (update : Except String Unit) (workspaceID : String)
    (pod : Objects.Pod) (duration : String) : Except String Objects.Pod :=
  match g.parseDuration duration with
  | .error err => .error s!"invalid duration \"{duration}\": {err}"
  | .ok _ =>
      match markWorkspace update workspaceID pod [addMark customTimeoutAnnotation duration] with
      | .error err => .error s!"cannot set workspace timeout: {err}"
      | .ok pod => .ok pod

/-- The other objects of the workspace are given. What has failed is left out of the messages. -/
def controlAdmission (g : Setting Stamp) (update : Except String Unit) (workspaceID : String)
    (pod : Objects.Pod) (others : Objects.WorkspaceObjects) (level : Option AdmissionLevel) :
    Except (Finalize.Code × String) Objects.Pod :=
  match getWorkspaceStatus g.env g.regularWorkspace { others with pod := some pod } with
  | .error _ => .error (.internal, "cannot get workspace status")
  | .ok sts =>
      if sts.phase = .stopping ∨ sts.phase = .stopped then
        .error (.failedPrecondition, "cannot control admission of stopping workspaces")
      else match level with
        | none => .error (.invalidArgument, "invalid admission level")
        | some level =>
            match markWorkspace update workspaceID pod
              [addMark workspaceAdmissionAnnotation (toLower (admissionLevelName level))] with
            | .error _ => .error (.internal, "cannot change workspace admission level")
            | .ok pod => .ok pod

/-! ## Runs -/

/-- What has been granted, and the last snapshot. -/
structure Granted where
  timeout : Option String
  admission : Option AdmissionLevel
  snapshot : String

/-- The pod with what its clients have been granted. -/
structure Started where
  pod : Objects.Pod
  granted : Granted

/-- What may happen to a pod. A client's request may be refused, and the API server may fail. -/
inductive Change
  | kubernetes (now : Objects.Pod)
  | note (n : Note) (update : Except String Unit)
  | setTimeout (duration : String) (update : Except String Unit)
  | controlAdmission (level : Option AdmissionLevel) (others : Objects.WorkspaceObjects)
      (update : Except String Unit)

/-- What was made of a request by ws-manager, and all else by Kubernetes. -/
def stored (made : Create.Pod) (now : Objects.Pod) : Objects.Pod :=
  { now with
    name := made.name
    labels := made.labels
    annotations := made.annotations
    containers := made.containers.map fun cnt => ⟨cnt.name, cnt.image⟩ }

/-- The pod as it was made, with what the request asked for. -/
def start (s : StartWorkspaceContext) (made : Create.Pod) (now : Objects.Pod) : Started where
  pod := stored made now
  granted :=
    { timeout := if s.request.spec.timeout = "" then none else some s.request.spec.timeout
      admission := s.request.spec.admission
      snapshot := "" }

/-- One change. Kubernetes leaves names, labels, annotations and containers alone. -/
def step (g : Setting Stamp) (workspaceID : String) (w : Started) : Change → Started
  | .kubernetes now =>
      { w with
        pod :=
          { now with
            name := w.pod.name
            labels := w.pod.labels
            annotations := w.pod.annotations
            containers := w.pod.containers } }
  | .note n update => match markWorkspace update workspaceID w.pod [n.mark] with
    | .error _ => w
    | .ok pod => match n with
      | .snapshot url => ⟨pod, { w.granted with snapshot := url }⟩
      | _ => ⟨pod, w.granted⟩
  | .setTimeout duration update => match setTimeout g update workspaceID w.pod duration with
    | .error _ => w
    | .ok pod => ⟨pod, { w.granted with timeout := some duration }⟩
  | .controlAdmission level others update =>
      match controlAdmission g update workspaceID w.pod others level with
      | .error _ => w
      | .ok pod => ⟨pod, { w.granted with admission := level }⟩

/-- One change after the other. -/
def run (g : Setting Stamp) (workspaceID : String) (w : Started) (changes : List Change) :
    Started :=
  changes.foldl (step g workspaceID) w

/-! ## What the status says -/

/-- The status says what was requested, and what was granted last. -/
structure Tells (g : Setting Stamp) (s : StartWorkspaceContext) (granted : Granted)
    (status : Report.WorkspaceStatus Stamp) : Prop where
  id : status.id = s.request.id
  owner : status.metadata.owner = s.request.owner
  metaId : status.metadata.metaId = s.request.metaId
  type : s.request.type = some status.spec.type
  headless : status.spec.headless = decide (status.spec.type ≠ .regular)
  workspaceImage : status.spec.workspaceImage = s.request.spec.workspaceImage
  url : status.spec.url = s.workspaceURL
  timeout : status.spec.timeout = granted.timeout.getD
    (if 0 < g.regularWorkspace.ns then g.regularWorkspace.toText else "")
  admission : granted.admission = some status.auth.admission
  ownerToken : status.auth.ownerToken = s.ownerToken
  snapshot : status.snapshot = granted.snapshot

/-- What is read off the pod. -/
structure Carries (o : Outside) (s : StartWorkspaceContext) (w : Started) : Prop where
  owner : w.pod.labels.lookup ownerLabel = some s.request.owner
  metaId : w.pod.labels.lookup metaIDLabel = some s.request.metaId
  type : w.pod.labels.lookup typeLabel = some (typeText s.request)
  headless : w.pod.labels.lookup headlessLabel =
    some (if s.request.type = some .regular then "false" else "true")
  id : w.pod.annotations.lookup workspaceIDAnnotation = some s.request.id
  url : w.pod.annotations.lookup workspaceURLAnnotation = some s.workspaceURL
  ownerToken : w.pod.annotations.lookup ownerTokenAnnotation = some s.ownerToken
  container : ∃ cnt, getContainer w.pod "workspace" = some cnt ∧
    (w.pod.annotations.lookup workspaceImageSpecAnnotation = none ∧
        cnt.image = s.request.spec.workspaceImage ∨
      ∃ ispec, w.pod.annotations.lookup workspaceImageSpecAnnotation = some ispec ∧
        o.toBase64 (imageSpec s.request) = .ok ispec)
  timeout : w.pod.annotations.lookup customTimeoutAnnotation = w.granted.timeout
  admission : ∃ level, w.granted.admission = some level ∧
    w.pod.annotations.lookup workspaceAdmissionAnnotation =
      some (toLower (admissionLevelName level))
  snapshot : (w.pod.annotations.lookup workspaceSnapshotAnnotation).getD "" = w.granted.snapshot

variable {g : Setting Stamp} {o : Outside} {s : StartWorkspaceContext} {w : Started}
  {c : Config} {req : StartWorkspaceRequest} {made : Create.Pod} {now : Objects.Pod}

/-! ## One mark -/

theorem lookup_markOne {annotations : Map String String} {name value key : String} {delete : Bool}
    (hname : name ≠ key) (hfailed : workspaceFailedBeforeStoppingAnnotation ≠ key) :
    (markOne annotations ⟨name, value, delete⟩).lookup key = annotations.lookup key := by
  unfold markOne
  dsimp only
  have happly : (Mark.apply ⟨name, value, delete⟩ annotations).1.lookup key =
      annotations.lookup key := by
    unfold Mark.apply
    dsimp only
    split_ifs
    · rw [Map.lookup_erase_eq_ite, if_neg hname.symm]
    · rw [Map.lookup_insert_eq_ite, if_neg hname.symm]
  split_ifs
  · rw [Map.lookup_insert_eq_ite, if_neg hfailed.symm, happly]
  · exact happly

theorem lookup_markOne_self {annotations : Map String String} {name value : String}
    (hname : name ≠ workspaceExplicitFailAnnotation) :
    (markOne annotations ⟨name, value, false⟩).lookup name = some value := by
  unfold markOne
  dsimp only
  rw [if_neg hname]
  exact AList.lookup_insert annotations

/-- What the status says of the request is read off these. -/
def readNames : List String :=
  [ workspaceIDAnnotation, workspaceURLAnnotation, ownerTokenAnnotation,
    workspaceImageSpecAnnotation, customTimeoutAnnotation, workspaceAdmissionAnnotation,
    workspaceSnapshotAnnotation]

/-- What ws-manager notes on a pod is not among what is read of the request. -/
theorem apart_mark {n : Note} (h : ∀ url, n ≠ .snapshot url) : n.mark.name ∉ readNames := by
  have hnames : ∀ name ∈ [ workspaceClosedAnnotation, firstUserActivityAnnotation,
      workspaceFailedBeforeStoppingAnnotation, workspaceExplicitFailAnnotation,
      Stop.traceIDAnnotation, workspaceNeverReadyAnnotation, workspaceTimedOutAnnotation],
      name ∉ readNames := by decide
  refine hnames n.mark.name ?_
  cases n with
  | snapshot url => exact absurd rfl (h url)
  | closed | reopened | firstUserActivity time | failedBeforeStopping | explicitFail message
  | untraced | ready | timedOut reason =>
      simp only [Note.mark, addMark, deleteMark, List.mem_cons, true_or, or_true]

/-- Kubernetes changes neither labels nor annotations nor images. -/
theorem carries_kubernetes (h : Carries o s w) (now : Objects.Pod) :
    Carries o s
      { w with
        pod :=
          { now with
            name := w.pod.name
            labels := w.pod.labels
            annotations := w.pod.annotations
            containers := w.pod.containers } } where
  owner := h.owner
  metaId := h.metaId
  type := h.type
  headless := h.headless
  id := h.id
  url := h.url
  ownerToken := h.ownerToken
  container := h.container
  timeout := h.timeout
  admission := h.admission
  snapshot := h.snapshot

/-- Of the last three, whatever the mark has changed is given. -/
theorem carries_marked (h : Carries o s w) {name value : String} {delete : Bool}
    (hname : name ∉ [ workspaceIDAnnotation, workspaceURLAnnotation, ownerTokenAnnotation,
      workspaceImageSpecAnnotation]) {granted : Granted}
    (htimeout : (markOne w.pod.annotations ⟨name, value, delete⟩).lookup
      customTimeoutAnnotation = granted.timeout)
    (hadmission : ∃ level, granted.admission = some level ∧
      (markOne w.pod.annotations ⟨name, value, delete⟩).lookup workspaceAdmissionAnnotation =
        some (toLower (admissionLevelName level)))
    (hsnapshot : ((markOne w.pod.annotations ⟨name, value, delete⟩).lookup
      workspaceSnapshotAnnotation).getD "" = granted.snapshot) :
    Carries o s ⟨marked w.pod [⟨name, value, delete⟩], granted⟩ := by
  simp only [List.mem_cons, List.not_mem_nil, or_false, not_or] at hname
  rcases hname with ⟨hid, hurl, htoken, hspec⟩
  exact
    { owner := h.owner
      metaId := h.metaId
      type := h.type
      headless := h.headless
      id := (lookup_markOne hid (by decide)).trans h.id
      url := (lookup_markOne hurl (by decide)).trans h.url
      ownerToken := (lookup_markOne htoken (by decide)).trans h.ownerToken
      container := by
        have hsame : (markOne w.pod.annotations ⟨name, value, delete⟩).lookup
            workspaceImageSpecAnnotation = w.pod.annotations.lookup workspaceImageSpecAnnotation :=
          lookup_markOne hspec (by decide)
        rcases h.container with ⟨cnt, hcnt, himage⟩
        refine ⟨cnt, hcnt, ?_⟩
        rw [← hsame] at himage
        exact himage
      timeout := htimeout
      admission := hadmission
      snapshot := hsnapshot }

theorem carries_apart (h : Carries o s w) {a : Mark} (hname : a.name ∉ readNames) :
    Carries o s ⟨marked w.pod [a], w.granted⟩ := by
  have hfailed : workspaceFailedBeforeStoppingAnnotation ∉ readNames := by decide
  have hother : ∀ key ∈ readNames, (markOne w.pod.annotations a).lookup key =
      w.pod.annotations.lookup key := fun key hkey =>
    lookup_markOne (fun heq => hname (heq ▸ hkey)) (fun heq => hfailed (heq ▸ hkey))
  have hread : ∀ key ∈ [ workspaceIDAnnotation, workspaceURLAnnotation, ownerTokenAnnotation,
      workspaceImageSpecAnnotation], key ∈ readNames := by decide
  rcases h.admission with ⟨level, hlevel, hadmission⟩
  refine carries_marked h (fun hmem => hname (hread _ hmem)) ?_ ⟨level, hlevel, ?_⟩ ?_
  · exact (hother _ (by decide)).trans h.timeout
  · exact (hother _ (by decide)).trans hadmission
  · exact (congrArg (·.getD "") (hother _ (by decide))).trans h.snapshot

theorem markWorkspace_ok {update : Except String Unit} {workspaceID : String} {marks : List Mark}
    {pod pod' : Objects.Pod} (h : markWorkspace update workspaceID pod marks = .ok pod') :
    pod' = marked pod marks := by
  unfold markWorkspace at h
  split at h
  · cases h
  · exact (Except.ok.inj h).symm

theorem setTimeout_ok {update : Except String Unit} {workspaceID duration : String}
    {pod pod' : Objects.Pod} (h : setTimeout g update workspaceID pod duration = .ok pod') :
    pod' = marked pod [addMark customTimeoutAnnotation duration] := by
  unfold setTimeout at h
  split at h
  · cases h
  · split at h
    · cases h
    · next stored hstored =>
        cases h
        exact markWorkspace_ok hstored

theorem controlAdmission_ok {update : Except String Unit} {workspaceID : String}
    {others : Objects.WorkspaceObjects} {level : Option AdmissionLevel} {pod pod' : Objects.Pod}
    (h : controlAdmission g update workspaceID pod others level = .ok pod') :
    ∃ granted, level = some granted ∧ pod' =
      marked pod [addMark workspaceAdmissionAnnotation (toLower (admissionLevelName granted))] := by
  unfold controlAdmission at h
  split at h
  · cases h
  · split_ifs at h
    split at h
    · cases h
    · next granted =>
        split at h
        · cases h
        · next stored hstored =>
            cases h
            exact ⟨granted, rfl, markWorkspace_ok hstored⟩

/-! ## Every run -/

/-- Whatever happens next, the pod carries what it should. There is one case for each kind of
    change, and requests that fail change nothing. -/
theorem carries_step (h : Carries o s w) (workspaceID : String) (change : Change) :
    Carries o s (step g workspaceID w change) := by
  rcases h.admission with ⟨level, hlevel, hadmission⟩
  cases change with
  | kubernetes now => exact carries_kubernetes h now
  | note n update =>
      rw [step]
      split
      · exact h
      · next pod hpod =>
          rw [markWorkspace_ok hpod]
          cases n with
          | snapshot url =>
              refine carries_marked h (by decide) ?_ ⟨level, hlevel, ?_⟩ ?_
              · exact (lookup_markOne (by decide) (by decide)).trans h.timeout
              · exact (lookup_markOne (by decide) (by decide)).trans hadmission
              · rw [lookup_markOne_self (by decide)]
                rfl
          | closed | reopened | firstUserActivity time | failedBeforeStopping
          | explicitFail message | untraced | ready | timedOut reason =>
              exact carries_apart h (apart_mark fun url hurl => by cases hurl)
  | setTimeout duration update =>
      rw [step]
      split
      · exact h
      · next pod hpod =>
          rw [setTimeout_ok hpod]
          refine carries_marked h (by decide) ?_ ⟨level, hlevel, ?_⟩ ?_
          · exact lookup_markOne_self (by decide)
          · exact (lookup_markOne (by decide) (by decide)).trans hadmission
          · rw [lookup_markOne (by decide) (by decide), h.snapshot]
  | controlAdmission asked others update =>
      rw [step]
      split
      · exact h
      · next pod hpod =>
          rcases controlAdmission_ok hpod with ⟨granted, hgranted, hmarked⟩
          rw [hmarked]
          refine carries_marked h (by decide) ?_ ⟨granted, hgranted, ?_⟩ ?_
          · exact (lookup_markOne (by decide) (by decide)).trans h.timeout
          · exact lookup_markOne_self (by decide)
          · rw [lookup_markOne (by decide) (by decide), h.snapshot]

/-- And so it does after any number of changes. -/
theorem carries_run (h : Carries o s w) (workspaceID : String) (changes : List Change) :
    Carries o s (run g workspaceID w changes) := by
  induction changes generalizing w with
  | nil => exact h
  | cons change changes ih => exact ih (carries_step h workspaceID change)

/-! ## The pod that is created -/

/-- What is on the pod before the flags, by the names under which it is read. -/
theorem lookup_plain {cnt : Container} {plain : Create.Pod} (hplain : Plain c s cnt plain) :
    ∃ initializerConfig admission, s.request.spec.admission = some admission ∧
      (∀ key, key ≠ customTimeoutAnnotation → plain.annotations.lookup key =
        (Map.insertAll ∅ (podAnnotations s initializerConfig
          (toLower (admissionLevelName admission)))).lookup key) ∧
      plain.annotations.lookup customTimeoutAnnotation =
        if s.request.spec.timeout = "" then none else some s.request.spec.timeout := by
  rcases hplain.annotations with ⟨initializerConfig, admission, hadmission, hannotations⟩
  refine ⟨initializerConfig, admission, hadmission, fun key hkey => ?_, ?_⟩
  · rw [hannotations, Map.insertAll_append, Map.lookup_insertAll_of_not_mem]
    split_ifs
    · exact List.not_mem_nil
    · exact fun h => hkey (List.mem_singleton.mp h)
  · rw [hannotations, Map.insertAll_append]
    by_cases htimeout : s.request.spec.timeout = ""
    · rw [if_pos htimeout, if_pos htimeout]
      rfl
    · rw [if_neg htimeout, if_neg htimeout]
      exact AList.lookup_insert _

/-- The labels say who the workspace is, whose it is and of which type. -/
theorem labels_of_newStartWorkspaceContext (h : newStartWorkspaceContext c o req = .ok s) :
    s.request = req ∧ s.labels = [("app", "nxpod"), ("component", "workspace"),
      (Dangling.workspaceIDLabel, req.id), (ownerLabel, req.owner), (metaIDLabel, req.metaId),
      (typeLabel, typeText req),
      (headlessLabel, if req.type = some .regular then "false" else "true"),
      (Ports.markerLabel, "true")] := by
  unfold newStartWorkspaceContext at h
  dsimp only at h
  split at h
  · cases h
  · split at h
    · cases h
    · split at h
      · cases h
      · cases h
        refine ⟨rfl, ?_⟩
        dsimp only
        by_cases hregular : req.type = some .regular
        · simp only [hregular, ne_eq, not_true_eq_false, decide_false, Bool.false_eq_true, if_false,
            if_true]
        · simp only [hregular, ne_eq, not_false_eq_true, decide_true, if_true, if_false]

/-- The request is in the pod that is made, whatever flags it comes with. -/
theorem carries_start (hcontext : newStartWorkspaceContext c o req = .ok s)
    (hmade : createDefiniteWorkspacePod c o s = .ok made) (now : Objects.Pod) :
    Carries o s (start s made now) := by
  -- The flags of the request are part of it, so the pod is one with flags put on a plain pod.
  have hflags : s.withFlags s.request.spec.featureFlags = s := rfl
  rw [← hflags] at hmade
  rcases createDefiniteWorkspacePod_withFlags.mp hmade with ⟨plain, hplain, hfold⟩
  have hworks : ∀ flag ∈ s.request.spec.featureFlags, Works o s.request flag :=
    (foldlM_applyFeature_isOk plain).mp ⟨made, hfold⟩
  rcases plain_of_plainPod hplain with ⟨cnt, hcnt⟩
  have hshaped := shaped_of_foldlM hfold
  rcases lookup_plain hcnt with ⟨initializerConfig, admission, hadmission, hkeys, htimeout⟩
  rcases labels_of_newStartWorkspaceContext hcontext with ⟨hreq, hcontextLabels⟩
  -- The flags leave the other labels and annotations as they are in the plain pod.
  have hlabels : ∀ key, key ≠ fullWorkspaceBackupAnnotation → made.labels.lookup key =
      (Map.insertAll ∅
        (("nxpod.khulnasoft.com/networkpolicy", "default") :: s.labels)).lookup key := by
    intro key hkey
    rw [hshaped.labels, if_neg (fun h => hkey h.1), hcnt.labels]
  have hannotations : ∀ key, key ∉ [ workspaceImageSpecAnnotation, fullWorkspaceBackupAnnotation,
      cpuLimitAnnotation] → made.annotations.lookup key = plain.annotations.lookup key := by
    intro key hkey
    simp only [List.mem_cons, List.not_mem_nil, or_false, not_or] at hkey
    rw [hshaped.annotations]
    unfold Variant.annotation
    simp only [hkey, false_and, if_false]
  rw [hcontextLabels, ← hreq] at hlabels
  exact
    { owner := hlabels _ (by decide)
      metaId := hlabels _ (by decide)
      type := hlabels _ (by decide)
      headless := hlabels _ (by decide)
      id := (hannotations _ (by decide)).trans (hkeys _ (by decide))
      url := (hannotations _ (by decide)).trans (hkeys _ (by decide))
      ownerToken := (hannotations _ (by decide)).trans (hkeys _ (by decide))
      container := by
        refine ⟨⟨cnt.name, ((Variant.ofFlags s.request.spec.featureFlags).container c s.request
          cnt).image⟩, ?_, ?_⟩
        · unfold getContainer start stored
          dsimp only
          rw [hshaped.containers, hcnt.containers, List.map_singleton, List.map_singleton,
            container_name, hcnt.name]
          rfl
        · dsimp only [start, stored]
          rw [Variant.container, if_pos hcnt.name]
          -- Either the image is that of the plain pod, or the annotation says which one it was.
          rcases lookup_imageSpec_of_shaped hcnt hshaped hworks with
            ⟨hfacade, hnone⟩ | ⟨-, ispec, hispec, hwritten⟩
          · refine .inl ⟨hnone, ?_⟩
            rw [hfacade]
            exact hcnt.image
          · exact .inr ⟨ispec, hispec, hwritten⟩
      timeout := (hannotations _ (by decide)).trans htimeout
      admission := ⟨admission, hadmission,
        (hannotations _ (by decide)).trans (hkeys _ (by decide))⟩
      snapshot := by
        have hnone : made.annotations.lookup workspaceSnapshotAnnotation = none :=
          (hannotations _ (by decide)).trans (hkeys _ (by decide))
        dsimp only [start, stored]
        rw [hnone]
        rfl }

/-! ## Reading it again -/

/-- A type is read again from the label it was written to. -/
theorem workspaceTypeValue_typeText (req : StartWorkspaceRequest) :
    workspaceTypeValue (toUpper (typeText req)) = req.type := by
  unfold typeText
  cases req.type with
  | none => rfl
  | some type => cases type <;> rfl

theorem admissionLevelValue_toLower (level : AdmissionLevel) :
    admissionLevelValue (toUpper (toLower (admissionLevelName level))) = some level := by
  cases level <;> rfl

/-- What is read off the status of the pod and of the state comes on top. -/
theorem extractStatus_rest {env : Report.Env Stamp} {wso : Objects.WorkspaceObjects}
    {pod : Objects.Pod} {initial status : Report.WorkspaceStatus Stamp}
    (h : extractStatus env wso pod initial = .ok status) :
    status.id = initial.id ∧ status.metadata = initial.metadata ∧ status.spec = initial.spec ∧
      status.auth = initial.auth ∧ status.snapshot = initial.snapshot := by
  have hplis : ∀ (result : Report.WorkspaceStatus Stamp) plis,
      (extractStatusFromPLIS result wso plis).id = result.id ∧
        (extractStatusFromPLIS result wso plis).metadata = result.metadata ∧
          (extractStatusFromPLIS result wso plis).spec = result.spec ∧
            (extractStatusFromPLIS result wso plis).auth = result.auth ∧
              (extractStatusFromPLIS result wso plis).snapshot = result.snapshot := by
    intro result plis
    unfold extractStatusFromPLIS
    split
    · dsimp only
      split_ifs <;> exact ⟨rfl, rfl, rfl, rfl, rfl⟩
    · exact ⟨rfl, rfl, rfl, rfl, rfl⟩
  unfold extractStatus at h
  split at h
  · cases h
  · dsimp only at h
    split at h
    · cases h
      exact ⟨rfl, rfl, rfl, rfl, rfl⟩
    · split at h
      · cases h
      · cases h
        exact hplis _ _

/-- The ID is read off the pod, whatever else there is. -/
theorem workspaceID_of_carries (h : Carries o s w) (others : Objects.WorkspaceObjects) :
    Objects.WorkspaceObjects.workspaceID { others with pod := some w.pod } =
      some s.request.id := by
  unfold Objects.WorkspaceObjects.workspaceID Objects.Pod.id
  rw [Option.bind_some, h.id, Option.some_or]

/-- The image is that of the request, whether the container has it or the image spec. -/
theorem workspaceImage_of_carries (h : Carries o s w)
    (hreads : ∀ text, o.toBase64 (imageSpec s.request) = .ok text →
      g.env.imageSpecFromBase64 text = .ok ⟨s.request.spec.workspaceImage⟩) :
    ∃ cnt, getContainer w.pod "workspace" = some cnt ∧
      workspaceImage g.env w.pod cnt = .ok s.request.spec.workspaceImage := by
  rcases h.container with ⟨cnt, hcnt, himage⟩
  refine ⟨cnt, hcnt, ?_⟩
  unfold workspaceImage
  rcases himage with ⟨hnone, himage⟩ | ⟨ispec, hispec, hwritten⟩
  · rw [hnone, himage]
  · rw [hispec]
    dsimp only
    rw [hreads _ hwritten]

/-- Only regular workspaces have something to be seen. -/
theorem isWorkspaceHeadless_of_carries (h : Carries o s w) {type : WorkspaceType}
    (htype : s.request.type = some type) (others : Objects.WorkspaceObjects) :
    isWorkspaceHeadless { others with pod := some w.pod } = decide (type ≠ .regular) := by
  unfold isWorkspaceHeadless Status.isWorkspaceHeadless statusObjects
  dsimp only [Option.map_some]
  rw [h.headless, htype]
  cases type <;> decide

/-- The timeout that was granted last counts, and else that of the configuration. -/
theorem timeoutText_of_carries (h : Carries o s w) :
    timeoutText g.regularWorkspace w.pod = w.granted.timeout.getD
      (if 0 < g.regularWorkspace.ns then g.regularWorkspace.toText else "") := by
  unfold timeoutText
  rw [h.timeout]
  cases w.granted.timeout with
  | none => rfl
  | some timeout => rfl

theorem admission_of_carries (h : Carries o s w) :
    w.granted.admission = some (admission w.pod) := by
  rcases h.admission with ⟨level, hlevel, hadmission⟩
  unfold admission
  rw [hlevel, hadmission, Option.getD_some, admissionLevelValue_toLower]
  rfl

/-- The status that the rest is added to says it all. -/
theorem tells_of_initialStatus (h : Carries o s w) {type : WorkspaceType}
    (htype : s.request.type = some type) {others : Objects.WorkspaceObjects}
    {status : Report.WorkspaceStatus Stamp}
    (hstatus : extractStatus g.env { others with pod := some w.pod } w.pod
      (initialStatus g.env { others with pod := some w.pod } w.pod s.request.id
        s.request.spec.workspaceImage s.workspaceURL type
        (timeoutText g.regularWorkspace w.pod)) = .ok status) :
    Tells g s w.granted (withServices status { others with pod := some w.pod }) := by
  rcases extractStatus_rest hstatus with ⟨hid, hmetadata, hspec, hauth, hsnapshot⟩
  unfold withServices
  exact
    { id := hid
      owner := by
        rw [hmetadata]
        dsimp only [initialStatus, getWorkspaceMetadata]
        rw [h.owner]
        rfl
      metaId := by
        rw [hmetadata]
        dsimp only [initialStatus, getWorkspaceMetadata]
        rw [h.metaId]
        rfl
      type := by
        rw [htype, hspec]
        rfl
      headless := by
        rw [hspec]
        exact isWorkspaceHeadless_of_carries h htype others
      workspaceImage := by
        rw [hspec]
        rfl
      url := by
        rw [hspec]
        rfl
      timeout := by
        rw [hspec]
        exact timeoutText_of_carries h
      admission := by
        rw [hauth]
        exact admission_of_carries h
      ownerToken := by
        rw [hauth]
        dsimp only [initialStatus]
        rw [h.ownerToken]
        rfl
      snapshot := by
        rw [hsnapshot]
        exact h.snapshot }

theorem tells_of_carries (h : Carries o s w)
    (hreads : ∀ text, o.toBase64 (imageSpec s.request) = .ok text →
      g.env.imageSpecFromBase64 text = .ok ⟨s.request.spec.workspaceImage⟩)
    {others : Objects.WorkspaceObjects} {status : Report.WorkspaceStatus Stamp}
    (hstatus : getWorkspaceStatus g.env g.regularWorkspace { others with pod := some w.pod } =
      .ok status) : Tells g s w.granted status := by
  rcases workspaceImage_of_carries h hreads with ⟨cnt, hcnt, hread⟩
  unfold getWorkspaceStatus at hstatus
  rw [workspaceID_of_carries h] at hstatus
  dsimp only at hstatus
  split at hstatus
  · cases hstatus
  · next computed hcomputed =>
      cases hstatus
      unfold getWorkspaceStatusFromPod workspaceType at hcomputed
      rw [hcnt, h.url] at hcomputed
      dsimp only [Option.map_some, Option.some_or] at hcomputed
      rw [h.type] at hcomputed
      dsimp only at hcomputed
      rw [workspaceTypeValue_typeText, hread] at hcomputed
      cases htype : s.request.type with
      | none =>
          -- a type without a name is not read back
          rw [htype] at hcomputed
          cases hcomputed
      | some type =>
          rw [htype] at hcomputed
          exact tells_of_initialStatus h htype hcomputed

/-- At any time after a workspace was started, a status that is reported says what the request
    said, with the timeout and the admission level that were granted last. The rest of the
    system knows of a workspace by its status alone: the bridge finds the instance by the ID,
    the proxy lets its owner in by the token and the others by the admission level, and the
    dashboard shows the URL and the timeout. So whatever ws-manager, Kubernetes and clients have
    done to the pod meanwhile, they all go by what was requested and granted. -/
theorem tells_of_run (hcontext : newStartWorkspaceContext c o req = .ok s)
    (hmade : createDefiniteWorkspacePod c o s = .ok made)
    (hreads : ∀ text, o.toBase64 (imageSpec s.request) = .ok text →
      g.env.imageSpecFromBase64 text = .ok ⟨s.request.spec.workspaceImage⟩)
    (now : Objects.Pod) (changes : List Change) (others : Objects.WorkspaceObjects)
    {status : Report.WorkspaceStatus Stamp}
    (hstatus : getWorkspaceStatus g.env g.regularWorkspace
      { others with pod := some (run g req.id (start s made now) changes).pod } = .ok status) :
    Tells g s (run g req.id (start s made now) changes).granted status :=
  tells_of_carries (carries_run (carries_start hcontext hmade now) req.id changes) hreads hstatus

/-! ## One workspace -/

def oneSetting : Setting Unit where
  env :=
    { readsNothing with
      imageSpecFromBase64 := fun text =>
        if text = "ChRyZWdpc3RyeS93b3Jrc3BhY2U6MRIGdjEuMi4z" then .ok ⟨"registry/workspace:1"⟩
        else .error "another message" }
  regularWorkspace := Duration.clamp 1800000000000
  parseDuration := oneImage.parseDuration

/-- The timeout is set twice, and once with a text that is no duration. -/
def changes : List Change :=
  [.note .ready (.ok ()), .setTimeout "60m" (.ok ()), .setTimeout "soon" (.ok ()),
    .kubernetes (podWithPhase .running)]

theorem tells_requestWithFlags : ∃ s made status,
    newStartWorkspaceContext exampleConfig oneImage requestWithFlags = .ok s ∧
      createDefiniteWorkspacePod exampleConfig oneImage s = .ok made ∧
        getWorkspaceStatus oneSetting.env oneSetting.regularWorkspace
          { pod := some (run oneSetting "instance" (start s made (podWithPhase .pending))
            changes).pod } = .ok status ∧
          Tells oneSetting s (run oneSetting "instance" (start s made (podWithPhase .pending))
            changes).granted status := by
  have hreads : ∀ text, oneImage.toBase64 (imageSpec requestWithFlags) = .ok text →
      oneSetting.env.imageSpecFromBase64 text = .ok ⟨requestWithFlags.spec.workspaceImage⟩ := by
    intro text htext
    rw [← Except.ok.inj htext]
    rfl
  have hcontext : newStartWorkspaceContext exampleConfig oneImage requestWithFlags =
      .ok contextWithFlags := rfl
  have htells : ∀ made status,
      createDefiniteWorkspacePod exampleConfig oneImage contextWithFlags = .ok made →
        getWorkspaceStatus oneSetting.env oneSetting.regularWorkspace
          { pod := some (run oneSetting "instance" (start contextWithFlags made
            (podWithPhase .pending)) changes).pod } = .ok status →
          Tells oneSetting contextWithFlags (run oneSetting "instance" (start contextWithFlags made
            (podWithPhase .pending)) changes).granted status :=
    fun made status hmade hstatus => tells_of_run hcontext hmade hreads _ changes {} hstatus
  exact ⟨contextWithFlags, _, _, hcontext, rfl, rfl, htells _ _ rfl rfl⟩

end Requested

end WsManager

end Nxpod
