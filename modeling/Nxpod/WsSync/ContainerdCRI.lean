import Nxpod.Library.Parties
import Nxpod.Library.Paths
import Nxpod.ResourceGov.Dispatch

/-!
# The Container of a Workspace

`ContainerdCRI` of ws-sync keeps what it has learned of the containers on its node from the events
of containerd. A sandbox gets a record, which its workspace container and the task of that add to.
The record is found by the name of the pod, by the instance and by the container.

`WaitForContainer` waits for a broadcast before it looks for the first time, and there is a
broadcast with every task. A goroutine that was woken up looks when it gets the lock, and by then
other events may have been handled. Its request may have been cancelled, which it only finds out
then.

A pod may get a second workspace container. It shares the record with the first one.

## Main definitions

* `ContainerInfo`, `State`: The records, who waits, and what has been seen.
* `Mount`: A mount as containerd reports it with a task.
* `Event`: A container is looked up when its event comes, and may be gone.
* `handleNewContainer`, `handleNewTask`, `containerUpperdir`: The source's functions.
* `Stat`: What `os.Stat` finds.
* `Action`: An event comes in, a request begins to wait, someone who was woken looks, or a request
  is cancelled.
* `step`: One event, or one turn of a request.
* `mapNodePath`: Where a path of the node is found in the container.
* `Earned`, `Mapped`, `Located`: What an answer rests on, and a directory that is found.
* `Known`: What a record says has been seen.
* `Sound`: What is kept up by every step.

## Theorems

* `sound_handleNewContainer`, `sound_handleNewTask`, `sound_check`: One turn.
* `sound_step`: One step.
* `answers_of_run`: All answers and directories, in every run.
-/

namespace Nxpod

namespace WsSync

namespace ContainerdCRI

open ResourceGov (Container label containerLabelCRIKind containerLabelK8sPodName workspaceIDLabel
  metaIDLabel)
open Parties (getElem?_modify_iff mem_modify)
open Paths (filepathJoin)
open Transition

/-- Kubernetes says by this label which container of a pod it is. -/
def containerLabelK8sContainerName : String := "io.kubernetes.container.name"

/-- Who the workspace belongs to. -/
def ownerLabel : String := "owner"

/-! ## Records -/

/-- What is known of the container of a workspace. It grows with the events. -/
structure ContainerInfo where
  workspaceID : String
  instanceID : String
  ownerID : String
  containerID : String
  podName : String
  seenTask : Bool
  upperDir : String

/-- A mount as containerd reports it with a task. -/
structure Mount where
  type : String
  options : List String

/-- A container is looked up when its event comes, and may be gone. -/
inductive Event
  | containerCreate (found : Option Container)
  | taskCreate (containerID : String) (rootfs : List Mount)
  | taskDelete
  | containerDelete (id : String)

/-- A goroutine, with the number of tasks that had been seen when it began to wait. -/
structure Waiter where
  id : Nat
  instanceID : String
  since : Nat

/-- What a request was answered. -/
structure Answer where
  waiter : Waiter
  containerID : String

/-- The indices hold positions of records. What has been seen is kept besides. -/
structure State where
  infos : List ContainerInfo
  podIdx : Map String Nat
  wsiIdx : Map String Nat
  cntIdx : Map String Nat
  waiting : List Waiter
  woken : List Waiter
  cancelled : List Nat
  answers : List Answer
  known : List Nat
  seen : List Container
  tasks : List (String × List Mount)

/-- Nothing is known, and nobody waits. -/
def newState : State := ⟨[], ∅, ∅, ∅, [], [], [], [], [], [], []⟩

/-- The pod a container belongs to. -/
def podName (c : Container) : String := label c.labels containerLabelK8sPodName

/-- The container of the pod itself, with the labels of a workspace. -/
def IsSandbox (c : Container) : Prop :=
  podName c ≠ "" ∧ label c.labels containerLabelCRIKind = "sandbox" ∧
    label c.labels workspaceIDLabel ≠ ""

/-- The container in which the workspace runs. -/
def IsWorkspace (c : Container) : Prop :=
  podName c ≠ "" ∧ label c.labels containerLabelCRIKind = "container" ∧
    label c.labels containerLabelK8sContainerName = "workspace"

instance (c : Container) : Decidable (IsSandbox c) := inferInstanceAs (Decidable (_ ∧ _))

instance (c : Container) : Decidable (IsWorkspace c) := inferInstanceAs (Decidable (_ ∧ _))

/-- What the sandbox says of the workspace. -/
def infoOf (c : Container) : ContainerInfo where
  workspaceID := label c.labels metaIDLabel
  instanceID := label c.labels workspaceIDLabel
  ownerID := label c.labels ownerLabel
  containerID := ""
  podName := podName c
  seenTask := false
  upperDir := ""

/-- The sandbox comes first. A container whose sandbox has not been seen is left out. -/
def handleNewContainer (s : State) (c : Container) : State :=
  let s := { s with seen := c :: s.seen }
  if IsSandbox c then
    { s with
      infos := s.infos ++ [infoOf c]
      podIdx := s.podIdx.insert (podName c) s.infos.length
      wsiIdx := s.wsiIdx.insert (label c.labels workspaceIDLabel) s.infos.length }
  else if IsWorkspace c then match s.podIdx.lookup (podName c) with
    | none => s
    | some k =>
        { s with
          infos := s.infos.modify k fun info => { info with containerID := c.id }
          cntIdx := s.cntIdx.insert c.id k }
  else s

/-- What comes after a text that another one starts with. -/
def after (start text : String) : Option String :=
  (start.toList.isPrefixOf? text.toList).map String.ofList

/-- The loop over the mounts of a task. It ends with an overlay once there is a directory, which
    may be there from a task before. -/
def findUpperDir : List Mount → String → String
  | [], dir => dir
  | rfs :: rootfs, dir =>
      if rfs.type ≠ "overlay" then findUpperDir rootfs dir
      else
        let dir := (rfs.options.findSome? (after "upperdir=")).getD dir
        if dir ≠ "" then dir else findUpperDir rootfs dir

/-- All who wait are woken up. -/
def handleNewTask (s : State) (cid : String) (rootfs : List Mount) : State :=
  match s.cntIdx.lookup cid with
  | none => s
  | some k =>
      { s with
        infos := s.infos.modify k fun info =>
          { info with seenTask := true, upperDir := findUpperDir rootfs info.upperDir }
        woken := s.woken ++ s.waiting
        waiting := []
        tasks := (cid, rootfs) :: s.tasks }

/-- The record of the container, if it has one. -/
def State.container (s : State) (id : String) : Option ContainerInfo :=
  (s.cntIdx.lookup id).bind fun k => s.infos[k]?

/-- A container, a task and a deletion are handled, and everything else is passed over. -/
def handleContainerdEvent (s : State) : Event → State
  | .containerCreate none | .taskDelete => s
  | .containerCreate (some c) => handleNewContainer s c
  | .taskCreate containerID rootfs => handleNewTask s containerID rootfs
  | .containerDelete id => match s.container id with
    | none => s
    | some info =>
        { s with
          cntIdx := s.cntIdx.erase id
          wsiIdx := s.wsiIdx.erase info.instanceID
          podIdx := s.podIdx.erase info.podName }

/-- What `os.Stat` finds. -/
inductive Stat
  | absent
  | failed (err : String)
  | file
  | dir
deriving DecidableEq

/-- A path on the node, as a path in the container. The first mapping that fits is the only one that
    is tried, and Go takes them in any order. -/
def mapNodePath (stat : String → Stat) (nodePath : String) :
    List (String × String) → Except String String
  | [] => .error ("mount entry " ++ nodePath ++ " has no appropriate mapping")
  | (np, cp) :: mapping => match after np nodePath with
    | none => mapNodePath stat nodePath mapping
    | some rest =>
        let pth := filepathJoin [cp, rest]
        match stat pth with
        | .absent => .error ("mount entry does not exist in container at " ++ pth)
        | .failed err => .error err
        | .file => .error ("mount entry is not a directory in the container at " ++ pth)
        | .dir => .ok pth

/-- Where the content of the container is, as seen from ws-sync. -/
def containerUpperdir (stat : String → Stat) (mapping : List (String × String)) (s : State)
    (id : String) : Except String String :=
  match s.container id with
  | none => .error "not found"
  | some info => mapNodePath stat info.upperDir mapping

/-! ## Requests -/

/-- An event comes in, a request begins to wait, someone who was woken looks, or a request is
    cancelled. -/
inductive Action
  | event (ev : Event)
  /-- A request begins to wait. -/
  | wait (id : Nat) (instanceID : String)
  /-- A goroutine that was woken up gets the lock. -/
  | check (i : Nat)
  | cancel (id : Nat)

/-- What a goroutine finds for its instance. -/
def State.found (s : State) (instanceID : String) : Option ContainerInfo :=
  ((s.wsiIdx.lookup instanceID).bind fun k => s.infos[k]?).filter (·.seenTask)

/-- The goroutine answers, ends, or waits again. There is room for its answer in the channel. -/
def check (s : State) (i : Nat) (w : Waiter) : State :=
  let s := { s with woken := s.woken.eraseIdx i }
  match s.found w.instanceID with
  | some info => { s with answers := ⟨w, info.containerID⟩ :: s.answers }
  | none => if w.id ∈ s.cancelled then s else { s with waiting := s.waiting ++ [w] }

/-- A cancelled request goes on waiting until it is woken. -/
def step (s : State) : Action → Option State
  | .event ev => some (handleContainerdEvent s ev)
  | .wait id instanceID =>
      if id ∈ s.known then none
      else some { s with
        waiting := s.waiting ++ [⟨id, instanceID, s.tasks.length⟩]
        known := id :: s.known }
  | .check i => match s.woken[i]? with
    | none => none
    | some w => some (check s i w)
  | .cancel id => if id ∈ s.known then some { s with cancelled := id :: s.cancelled } else none

/-! ## What answers rest on -/

/-- A workspace container of the pod has been seen under the ID. -/
def OfPod (seen : List Container) (pod id : String) : Prop :=
  ∃ c ∈ seen, IsWorkspace c ∧ podName c = pod ∧ c.id = id

/-- The pod is one of the instance. -/
def PodOf (seen : List Container) (pod instanceID : String) : Prop :=
  ∃ c ∈ seen, IsSandbox c ∧ podName c = pod ∧ label c.labels workspaceIDLabel = instanceID

/-- An overlay among the mounts has the upper directory. -/
def Mounted (rootfs : List Mount) (dir : String) : Prop :=
  ∃ rfs ∈ rootfs, rfs.type = "overlay" ∧ rfs.options.findSome? (after "upperdir=") = some dir

/-- The container that is answered and one whose task was seen belong to a pod of the instance, and
    some task was seen after the request had begun to wait. -/
def Earned (s : State) (a : Answer) : Prop :=
  a.waiter.since < s.tasks.length ∧ ∃ pod, PodOf s.seen pod a.waiter.instanceID ∧
    OfPod s.seen pod a.containerID ∧ ∃ t ∈ s.tasks, OfPod s.seen pod t.1

/-- A directory, where there is one, is that of a task of the same pod. -/
def Located (s : State) (id dir : String) : Prop :=
  ∃ pod, OfPod s.seen pod id ∧
    (dir ≠ "" → ∃ t ∈ s.tasks, OfPod s.seen pod t.1 ∧ Mounted t.2 dir)

/-- A directory of the container that a mapping gives for the path. -/
def Mapped (stat : String → Stat) (mapping : List (String × String)) (nodePath loc : String) :
    Prop :=
  ∃ m ∈ mapping, ∃ rest, after m.1 nodePath = some rest ∧ loc = filepathJoin [m.2, rest] ∧
    stat loc = .dir

/-- What a record says has been seen. -/
structure Known (seen : List Container) (tasks : List (String × List Mount))
    (info : ContainerInfo) : Prop where
  sandbox : PodOf seen info.podName info.instanceID
  task : info.seenTask = true →
    OfPod seen info.podName info.containerID ∧ ∃ t ∈ tasks, OfPod seen info.podName t.1
  upperDir : info.upperDir ≠ "" →
    ∃ t ∈ tasks, OfPod seen info.podName t.1 ∧ Mounted t.2 info.upperDir

/-- What is known comes from events, and what is answered comes from what is known. -/
structure Sound (s : State) : Prop where
  infos : ∀ info ∈ s.infos, Known s.seen s.tasks info
  podIdx : ∀ pod k, s.podIdx.lookup pod = some k → ∃ info, s.infos[k]? = some info ∧
    info.podName = pod
  wsiIdx : ∀ instanceID k, s.wsiIdx.lookup instanceID = some k →
    ∃ info, s.infos[k]? = some info ∧ info.instanceID = instanceID
  cntIdx : ∀ id k, s.cntIdx.lookup id = some k → ∃ info, s.infos[k]? = some info ∧
    OfPod s.seen info.podName id ∧ OfPod s.seen info.podName info.containerID
  waiting : ∀ w ∈ s.waiting, w.since ≤ s.tasks.length
  woken : ∀ w ∈ s.woken, w.since < s.tasks.length
  answers : ∀ a ∈ s.answers, Earned s a

variable {s s' : State} {c : Container} {info : ContainerInfo} {seen seen' : List Container}
  {tasks tasks' : List (String × List Mount)} {pod id dir : String}

theorem OfPod.mono (h : OfPod seen pod id) (hseen : seen ⊆ seen') : OfPod seen' pod id := by
  rcases h with ⟨c, hc, hrest⟩
  exact ⟨c, hseen hc, hrest⟩

theorem Known.mono (h : Known seen tasks info) (hseen : seen ⊆ seen') (htasks : tasks ⊆ tasks') :
    Known seen' tasks' info where
  sandbox := by
    rcases h.sandbox with ⟨c, hc, hrest⟩
    exact ⟨c, hseen hc, hrest⟩
  task hinfo := by
    rcases h.task hinfo with ⟨hcontainer, t, ht, hof⟩
    exact ⟨hcontainer.mono hseen, t, htasks ht, hof.mono hseen⟩
  upperDir hinfo := by
    rcases h.upperDir hinfo with ⟨t, ht, hof, hmounted⟩
    exact ⟨t, htasks ht, hof.mono hseen, hmounted⟩

theorem Earned.mono {a : Answer} (h : Earned s a) (hseen : s.seen ⊆ s'.seen)
    (htasks : s.tasks ⊆ s'.tasks) (hlength : s.tasks.length ≤ s'.tasks.length) : Earned s' a := by
  rcases h with ⟨hsince, pod, ⟨c, hc, hrest⟩, hcontainer, t, ht, hof⟩
  exact ⟨hsince.trans_le hlength, pod, ⟨c, hseen hc, hrest⟩, hcontainer.mono hseen, t, htasks ht,
    hof.mono hseen⟩

/-- A directory is found in the mounts, or was there before. -/
theorem mounted_findUpperDir (rootfs : List Mount) (dir : String) :
    findUpperDir rootfs dir = dir ∨ Mounted rootfs (findUpperDir rootfs dir) := by
  induction rootfs generalizing dir with
  | nil => exact .inl rfl
  | cons rfs rootfs ih =>
      have hrest : ∀ dir', findUpperDir rootfs dir' = dir' ∨
          Mounted (rfs :: rootfs) (findUpperDir rootfs dir') := by
        intro dir'
        rcases ih dir' with h | ⟨rfs', hmem, hrfs'⟩
        · exact .inl h
        · exact .inr ⟨rfs', List.mem_cons_of_mem _ hmem, hrfs'⟩
      rw [findUpperDir]
      by_cases htype : rfs.type = "overlay"
      · rw [if_neg (not_not_intro htype)]
        dsimp only
        cases hfound : rfs.options.findSome? (after "upperdir=") with
        | none =>
            rw [Option.getD_none]
            by_cases hdir : dir = ""
            · rw [if_neg (not_not_intro hdir)]
              exact hrest dir
            · rw [if_pos hdir]
              exact .inl rfl
        | some found =>
            have hmounted : Mounted (rfs :: rootfs) found :=
              ⟨rfs, List.mem_cons_self, htype, hfound⟩
            rw [Option.getD_some]
            by_cases hdir : found = ""
            · -- an option without a directory, which the loop goes past
              rw [if_neg (not_not_intro hdir)]
              rcases hrest found with h | h
              · rw [h]
                exact .inr hmounted
              · exact .inr h
            · rw [if_pos hdir]
              exact .inr hmounted
      · rw [if_pos htype]
        exact hrest dir

/-! ## One event -/

theorem Sound.see (hs : Sound s) (c : Container) : Sound { s with seen := c :: s.seen } := by
  have hseen : s.seen ⊆ c :: s.seen := List.subset_cons_self c s.seen
  exact
    { infos := fun info hinfo => (hs.infos info hinfo).mono hseen (List.Subset.refl _)
      podIdx := hs.podIdx
      wsiIdx := hs.wsiIdx
      cntIdx := fun id k hk => by
        rcases hs.cntIdx id k hk with ⟨info, hinfo, hid, hcontainer⟩
        exact ⟨info, hinfo, hid.mono hseen, hcontainer.mono hseen⟩
      waiting := hs.waiting
      woken := hs.woken
      answers := fun a ha => (hs.answers a ha).mono hseen (List.Subset.refl _) le_rfl }

/-- A record is changed, but not whose it is. -/
theorem Sound.modify (hs : Sound s) {k : Nat} {f : ContainerInfo → ContainerInfo}
    (hpod : ∀ info, (f info).podName = info.podName)
    (hinstance : ∀ info, (f info).instanceID = info.instanceID)
    (hknown : ∀ info, s.infos[k]? = some info → Known s.seen s.tasks (f info))
    (hcontainer : ∀ info, s.infos[k]? = some info → OfPod s.seen info.podName info.containerID →
      OfPod s.seen info.podName (f info).containerID) :
    Sound { s with infos := s.infos.modify k f } := by
  have hother : ∀ j info, s.infos[j]? = some info → ∃ info', (s.infos.modify k f)[j]? = some info' ∧
      (info' = info ∨ j = k ∧ info' = f info) := by
    intro j info hj
    refine ⟨_, (getElem?_modify_iff s.infos f k j _).mpr ⟨info, hj, rfl⟩, ?_⟩
    split_ifs with hk
    · exact .inr ⟨hk.symm, rfl⟩
    · exact .inl rfl
  exact
    { infos := fun info hinfo => by
        rcases mem_modify hinfo with ⟨old, j, hold, rfl⟩
        split_ifs with hk
        · rw [← hk] at hold
          exact hknown old hold
        · exact hs.infos old (List.mem_of_getElem? hold)
      podIdx := fun pod j hj => by
        rcases hs.podIdx pod j hj with ⟨info, hinfo, hname⟩
        rcases hother j info hinfo with ⟨info', hinfo', rfl | ⟨rfl, rfl⟩⟩
        · exact ⟨_, hinfo', hname⟩
        · exact ⟨_, hinfo', (hpod info).trans hname⟩
      wsiIdx := fun instanceID j hj => by
        rcases hs.wsiIdx instanceID j hj with ⟨info, hinfo, hid⟩
        rcases hother j info hinfo with ⟨info', hinfo', rfl | ⟨rfl, rfl⟩⟩
        · exact ⟨_, hinfo', hid⟩
        · exact ⟨_, hinfo', (hinstance info).trans hid⟩
      cntIdx := fun id j hj => by
        rcases hs.cntIdx id j hj with ⟨info, hinfo, hid, hcnt⟩
        rcases hother j info hinfo with ⟨info', hinfo', rfl | ⟨rfl, rfl⟩⟩
        · exact ⟨_, hinfo', hid, hcnt⟩
        · refine ⟨_, hinfo', ?_, ?_⟩
          · rw [hpod]
            exact hid
          · rw [hpod]
            exact hcontainer info hinfo hcnt
      waiting := hs.waiting
      woken := hs.woken
      answers := hs.answers }

/-- A sandbox gets a record of its own, in place of that of an earlier one. -/
theorem Sound.sandbox (hs : Sound s) (hc : c ∈ s.seen) (hsandbox : IsSandbox c) :
    Sound
      { s with
        infos := s.infos ++ [infoOf c]
        podIdx := s.podIdx.insert (podName c) s.infos.length
        wsiIdx := s.wsiIdx.insert (label c.labels workspaceIDLabel) s.infos.length } := by
  have hold : ∀ (k : Nat) info, s.infos[k]? = some info →
      (s.infos ++ [infoOf c])[k]? = some info := by
    intro k info hk
    rw [List.getElem?_append_left (List.getElem?_eq_some_iff.mp hk).1, hk]
  have hnew : (s.infos ++ [infoOf c])[s.infos.length]? = some (infoOf c) :=
    List.getElem?_concat_length
  exact
    { infos := fun info hinfo => by
        rcases List.mem_append.mp hinfo with hinfo | hinfo
        · exact hs.infos info hinfo
        · rw [List.mem_singleton.mp hinfo]
          exact
            { sandbox := ⟨c, hc, hsandbox, rfl, rfl⟩
              task := fun h => absurd h Bool.false_ne_true
              upperDir := fun h => absurd rfl h }
      podIdx := fun pod k hk => by
        rw [Map.lookup_insert_eq_ite] at hk
        split_ifs at hk with hpod
        · cases hk
          exact ⟨_, hnew, hpod.symm⟩
        · rcases hs.podIdx pod k hk with ⟨info, hinfo, hname⟩
          exact ⟨info, hold k info hinfo, hname⟩
      wsiIdx := fun instanceID k hk => by
        rw [Map.lookup_insert_eq_ite] at hk
        split_ifs at hk with hid
        · cases hk
          exact ⟨_, hnew, hid.symm⟩
        · rcases hs.wsiIdx instanceID k hk with ⟨info, hinfo, hname⟩
          exact ⟨info, hold k info hinfo, hname⟩
      cntIdx := fun id k hk => by
        rcases hs.cntIdx id k hk with ⟨info, hinfo, hrest⟩
        exact ⟨info, hold k info hinfo, hrest⟩
      waiting := hs.waiting
      woken := hs.woken
      answers := hs.answers }

/-- A workspace container is added to the record of its pod. -/
theorem Sound.workspace (hs : Sound s) (hc : c ∈ s.seen) (hworkspace : IsWorkspace c) {k : Nat}
    (hk : s.podIdx.lookup (podName c) = some k) :
    Sound
      { s with
        infos := s.infos.modify k fun info => { info with containerID := c.id }
        cntIdx := s.cntIdx.insert c.id k } := by
  rcases hs.podIdx _ k hk with ⟨info, hinfo, hname⟩
  have hcontainer : OfPod s.seen info.podName c.id := ⟨c, hc, hworkspace, hname.symm, rfl⟩
  have hmodified : Sound
      { s with infos := s.infos.modify k fun info => { info with containerID := c.id } } := by
    refine hs.modify (fun _ => rfl) (fun _ => rfl) (fun info' hinfo' => ?_) fun info' hinfo' _ => ?_
    · cases hinfo.symm.trans hinfo'
      have hold := hs.infos info (List.mem_of_getElem? hinfo)
      exact
        { sandbox := hold.sandbox
          task := fun h => ⟨hcontainer, (hold.task h).2⟩
          upperDir := hold.upperDir }
    · cases hinfo.symm.trans hinfo'
      exact hcontainer
  have hrecord : (s.infos.modify k fun info => { info with containerID := c.id })[k]? =
      some { info with containerID := c.id } :=
    (getElem?_modify_iff s.infos _ k k _).mpr ⟨info, hinfo, (if_pos rfl).symm⟩
  exact
    { infos := hmodified.infos
      podIdx := hmodified.podIdx
      wsiIdx := hmodified.wsiIdx
      cntIdx := fun id j hj => by
        rw [Map.lookup_insert_eq_ite] at hj
        split_ifs at hj with hid
        · cases hj
          rw [hid]
          exact ⟨_, hrecord, hcontainer, hcontainer⟩
        · exact hmodified.cntIdx id j hj
      waiting := hs.waiting
      woken := hs.woken
      answers := hs.answers }

/-- A container is entered in the record of its pod, if there is one. -/
theorem sound_handleNewContainer (hs : Sound s) (c : Container) :
    Sound (handleNewContainer s c) := by
  have hseen := hs.see c
  unfold handleNewContainer
  dsimp only
  by_cases hsandbox : IsSandbox c
  · rw [if_pos hsandbox]
    exact hseen.sandbox List.mem_cons_self hsandbox
  · rw [if_neg hsandbox]
    by_cases hworkspace : IsWorkspace c
    · rw [if_pos hworkspace]
      split
      · exact hseen
      · next k hk => exact hseen.workspace List.mem_cons_self hworkspace hk
    · -- a container of another kind changes no record
      rw [if_neg hworkspace]
      exact hseen

/-- There is one more task now than when any of those who are woken up began to wait. -/
theorem Sound.wake (hs : Sound s) (task : String × List Mount) :
    Sound
      { s with
        woken := s.woken ++ s.waiting
        waiting := []
        tasks := task :: s.tasks } := by
  have htasks : s.tasks ⊆ task :: s.tasks := List.subset_cons_self task s.tasks
  exact
    { infos := fun info hinfo => (hs.infos info hinfo).mono (List.Subset.refl _) htasks
      podIdx := hs.podIdx
      wsiIdx := hs.wsiIdx
      cntIdx := hs.cntIdx
      waiting := fun w hw => absurd hw List.not_mem_nil
      woken := fun w hw => by
        rw [List.length_cons]
        rcases List.mem_append.mp hw with hw | hw
        · exact Nat.lt_succ_of_lt (hs.woken w hw)
        · exact Nat.lt_succ_of_le (hs.waiting w hw)
      answers := fun a ha =>
        (hs.answers a ha).mono (List.Subset.refl _) htasks (Nat.le_succ s.tasks.length) }

/-- A task wakes everyone, and it may be the wrong task for most of them. -/
theorem sound_handleNewTask (hs : Sound s) (cid : String) (rootfs : List Mount) :
    Sound (handleNewTask s cid rootfs) := by
  unfold handleNewTask
  split
  · exact hs
  · next k hk =>
      rcases hs.cntIdx cid k hk with ⟨info, hinfo, hid, hcontainer⟩
      -- the broadcast comes first here, so that the record is changed where its task is known
      have hwoken := hs.wake (cid, rootfs)
      refine hwoken.modify (fun _ => rfl) (fun _ => rfl) (fun info' hinfo' => ?_)
        fun info' _ hcnt => hcnt
      cases hinfo.symm.trans hinfo'
      have hold := hwoken.infos info (List.mem_of_getElem? hinfo)
      exact
        { sandbox := hold.sandbox
          task := fun _ => ⟨hcontainer, _, List.mem_cons_self, hid⟩
          upperDir := fun hdir => by
            dsimp only at hdir ⊢
            rcases mounted_findUpperDir rootfs info.upperDir with hsame | hmounted
            · -- the mounts name no directory, and that of an earlier task of the pod stays
              rw [hsame] at hdir ⊢
              exact hold.upperDir hdir
            · exact ⟨_, List.mem_cons_self, hid, hmounted⟩ }

/-- A record is taken out of the indices, and is still known to those who have it. -/
theorem sound_containerDelete (hs : Sound s) (id : String) (info : ContainerInfo) :
    Sound
      { s with
        cntIdx := s.cntIdx.erase id
        wsiIdx := s.wsiIdx.erase info.instanceID
        podIdx := s.podIdx.erase info.podName } where
  infos := hs.infos
  podIdx pod k hk := by
    rw [Map.lookup_erase_eq_ite] at hk
    split_ifs at hk
    exact hs.podIdx pod k hk
  wsiIdx instanceID k hk := by
    rw [Map.lookup_erase_eq_ite] at hk
    split_ifs at hk
    exact hs.wsiIdx instanceID k hk
  cntIdx id' k hk := by
    rw [Map.lookup_erase_eq_ite] at hk
    split_ifs at hk
    exact hs.cntIdx id' k hk
  waiting := hs.waiting
  woken := hs.woken
  answers := hs.answers

theorem sound_handleContainerdEvent (hs : Sound s) (ev : Event) :
    Sound (handleContainerdEvent s ev) := by
  cases ev with
  | containerCreate found =>
      cases found with
      | none => exact hs
      | some c => exact sound_handleNewContainer hs c
  | taskCreate containerID rootfs => exact sound_handleNewTask hs containerID rootfs
  | taskDelete => exact hs
  | containerDelete id =>
      rw [handleContainerdEvent]
      split
      · exact hs
      · next info _ => exact sound_containerDelete hs id info

/-! ## One request -/

/-- What is found was found through the index, and its task has been seen. -/
theorem found_eq_some {instanceID : String} (hs : Sound s) (h : s.found instanceID = some info) :
    info.instanceID = instanceID ∧ info.seenTask = true ∧ Known s.seen s.tasks info := by
  rcases Option.filter_eq_some_iff.mp h with ⟨hfound, htask⟩
  rcases Option.bind_eq_some_iff.mp hfound with ⟨k, hk, hinfo⟩
  rcases hs.wsiIdx instanceID k hk with ⟨info', hinfo', hid⟩
  cases hinfo.symm.trans hinfo'
  exact ⟨hid, htask, hs.infos info (List.mem_of_getElem? hinfo)⟩

/-- Whoever looks and finds something is answered with it, and whoever does not waits again. -/
theorem sound_check (hs : Sound s) {i : Nat} {w : Waiter} (hw : s.woken[i]? = some w) :
    Sound (check s i w) := by
  have hsince : w.since < s.tasks.length := hs.woken w (List.mem_of_getElem? hw)
  have hleft : Sound { s with woken := s.woken.eraseIdx i } :=
    { infos := hs.infos
      podIdx := hs.podIdx
      wsiIdx := hs.wsiIdx
      cntIdx := hs.cntIdx
      waiting := hs.waiting
      woken := fun w' hw' => hs.woken w' (List.mem_of_mem_eraseIdx hw')
      answers := hs.answers }
  unfold check
  dsimp only
  split
  · next info hfound =>
      rcases found_eq_some hleft hfound with ⟨hid, htask, hknown⟩
      rcases hknown.task htask with ⟨hcontainer, t, ht, hof⟩
      have hpod : PodOf s.seen info.podName w.instanceID := hid ▸ hknown.sandbox
      exact
        { infos := hleft.infos
          podIdx := hleft.podIdx
          wsiIdx := hleft.wsiIdx
          cntIdx := hleft.cntIdx
          waiting := hleft.waiting
          woken := hleft.woken
          answers := fun a ha => by
            rcases List.mem_cons.mp ha with rfl | ha
            · exact ⟨hsince, info.podName, hpod, hcontainer, t, ht, hof⟩
            · exact hs.answers a ha }
  · split_ifs
    · exact hleft
    · -- it waits again, as before for some later task
      exact
        { infos := hleft.infos
          podIdx := hleft.podIdx
          wsiIdx := hleft.wsiIdx
          cntIdx := hleft.cntIdx
          waiting := fun w' hw' => by
            rcases List.mem_append.mp hw' with hw' | hw'
            · exact hs.waiting w' hw'
            · rw [List.mem_singleton.mp hw']
              exact hsince.le
          woken := hleft.woken
          answers := hleft.answers }

/-- One case for each action. -/
theorem sound_step (hs : Sound s) {a : Action} (h : step s a = some s') : Sound s' := by
  cases a with
  | event ev =>
      cases h
      exact sound_handleContainerdEvent hs ev
  | wait id instanceID =>
      simp only [step, Option.ite_none_left_eq_some, Option.some.injEq] at h
      rcases h with ⟨-, rfl⟩
      exact
        { infos := hs.infos
          podIdx := hs.podIdx
          wsiIdx := hs.wsiIdx
          cntIdx := hs.cntIdx
          waiting := fun w hw => by
            rcases List.mem_append.mp hw with hw | hw
            · exact hs.waiting w hw
            · rw [List.mem_singleton.mp hw]
          woken := hs.woken
          answers := hs.answers }
  | check i =>
      rw [step] at h
      split at h
      · cases h
      · next w hw =>
          cases h
          exact sound_check hs hw
  | cancel id =>
      simp only [step, Option.ite_none_right_eq_some, Option.some.injEq] at h
      rcases h with ⟨-, rfl⟩
      exact
        { infos := hs.infos
          podIdx := hs.podIdx
          wsiIdx := hs.wsiIdx
          cntIdx := hs.cntIdx
          waiting := hs.waiting
          woken := hs.woken
          answers := hs.answers }

/-! ## Every run -/

theorem sound_newState : Sound newState where
  infos info hinfo := absurd hinfo List.not_mem_nil
  podIdx pod k hk := by cases hk
  wsiIdx instanceID k hk := by cases hk
  cntIdx id k hk := by cases hk
  waiting w hw := absurd hw List.not_mem_nil
  woken w hw := absurd hw List.not_mem_nil
  answers a ha := absurd ha List.not_mem_nil

/-- The place that is found is one to which the configuration maps the directory, and is a
    directory itself. -/
theorem mapped_of_mapNodePath {stat : String → Stat} {nodePath loc : String}
    {mapping : List (String × String)} (h : mapNodePath stat nodePath mapping = .ok loc) :
    Mapped stat mapping nodePath loc := by
  induction mapping with
  | nil => cases h
  | cons m mapping ih =>
      rw [mapNodePath] at h
      split at h
      · rcases ih h with ⟨m', hm', hrest⟩
        exact ⟨m', List.mem_cons_of_mem _ hm', hrest⟩
      · next rest hrest =>
          dsimp only at h
          split at h
          all_goals cases h
          next hdir => exact ⟨m, List.mem_cons_self, rest, hrest, rfl, hdir⟩

theorem located_of_containerUpperdir (hs : Sound s) {stat : String → Stat}
    {mapping : List (String × String)} {loc : String}
    (h : containerUpperdir stat mapping s id = .ok loc) :
    ∃ dir, Mapped stat mapping dir loc ∧ Located s id dir := by
  rw [containerUpperdir] at h
  split at h
  · cases h
  · next info hinfo =>
      rcases Option.bind_eq_some_iff.mp hinfo with ⟨k, hk, hrecord⟩
      rcases hs.cntIdx id k hk with ⟨info', hinfo', hid, -⟩
      cases hrecord.symm.trans hinfo'
      have hdir := (hs.infos info (List.mem_of_getElem? hrecord)).upperDir
      exact ⟨info.upperDir, mapped_of_mapNodePath h, info.podName, hid, hdir⟩

/-- In every run, a request is only answered with a workspace container of a pod of its
    instance, of which a task has been seen, and not before there was a task after it had begun
    to wait. The directory that is found for a container is mapped from that of a task of its
    pod. ws-sync reads and writes the files of the workspace there, and an answer for the wrong
    pod would show one user's files to another. -/
theorem answers_of_run (stat : String → Stat) (mapping : List (String × String))
    (as : List Action) :
    StepsAlong step (fun _ _ s' => (∀ a ∈ s'.answers, Earned s' a) ∧
      ∀ id loc, containerUpperdir stat mapping s' id = .ok loc →
        ∃ dir, Mapped stat mapping dir loc ∧ Located s' id dir) as newState := by
  refine stepsAlong_of_invariant (fun s a s' hs h => ?_) as newState sound_newState
  have hs' : Sound s' := sound_step hs h
  exact ⟨hs', hs'.answers, fun id loc hloc => located_of_containerUpperdir hs' hloc⟩

end ContainerdCRI

end WsSync

end Nxpod
