import Nxpod.Library.Map
import Nxpod.Library.Parties
import Nxpod.Library.Transition

/-!
# The Prebuild Queue

The queue maintainer of the server starts queued prebuilds. Once a minute it goes
through all of them, oldest first, and when a prebuild has finished it looks for one
more of the same repository. Before it starts a prebuild it counts how many of the
repository are building. A run over the queue counts once for each clone URL and
remembers the answer.

That a prebuild is building is reported later by someone else. Until then it is
queued, and it counts for nothing. Any number of runs is in progress at a time, each
stopping at every access to the database, and any of them may end with an error.

A count is only worth something while it is fresh. It leaves out what was started and
not reported yet, and it says nothing about what is started after it. Both are lost
on the queue maintainer, which starts the second prebuild of a repository on the count
that was made for the first one. Where every start rests on a fresh count, the limit
is kept, and that is what the rate limiter was meant for.

Two histories are kept beside the state: what is started and not reported yet, with
one entry for each start, and the counts that are fresh.

## Main definitions

* `PrebuiltWorkspaceState`: The states of a prebuild.
* `PrebuiltWorkspace`: The columns of a prebuild that do not change.
* `Database`, `findQueuedPrebuilds`, `countRunningPrebuilds`: The prebuilds.
* `canBuildNow`, `shouldStillBuild`: The rate limiter.
* `Run`, `Server`, `step`: The runs in progress, and what can happen.
* `Action`: What can happen next.
* `WithinLimit`: What holds of what is started.
* `OnFreshCount`: The condition on a step, that a start rests on a fresh count.
* `Says`, `Inv`: What a fresh count says, and the invariant.

## Theorems

* `countRunningPrebuilds_setState_le`, `countRunningPrebuilds_setState_building`: One
  prebuild changes its state.
* `inv_count`, `inv_startWorkspace`: A run counts, and a run starts a prebuild.
* `inv_next`, `inv_step`: What a step preserves.
* `withinLimit_of_reaches`: The limit in the runs that meet the condition.
-/

namespace Nxpod

namespace Prebuilds

open Transition Parties

/-! ## The database -/

/-- The states of a prebuild. -/
inductive PrebuiltWorkspaceState
  | queued
  | building
  | aborted
  | timeout
  | available
  deriving DecidableEq

/-- The columns of a prebuild that do not change. -/
structure PrebuiltWorkspace where
  id : String
  cloneURL : String
  buildWorkspaceId : String
  deriving DecidableEq

/-- The prebuilds in the order of their creation. A workspace is given by its owner. -/
structure Database where
  prebuilds : List PrebuiltWorkspace
  unique : prebuilds.Nodup
  state : PrebuiltWorkspace → PrebuiltWorkspaceState
  workspaces : Map String String
  users : List String

namespace Database

/-- An empty clone URL is as good as none. -/
def findQueuedPrebuilds (db : Database) (cloneURL : String) :
    List (PrebuiltWorkspace × String) :=
  db.prebuilds.filterMap fun p =>
    if db.state p = .queued ∧ (cloneURL = "" ∨ p.cloneURL = cloneURL) then
      (db.workspaces.lookup p.buildWorkspaceId).map (p, ·)
    else none

/-- How many prebuilds of a repository are building. -/
def countRunningPrebuilds (db : Database) (cloneURL : String) : Nat :=
  db.prebuilds.countP fun p => p.cloneURL = cloneURL ∧ db.state p = .building

/-- The clone URL of the prebuild that was built in a workspace, if the workspace and its
    owner are there. -/
def findFinished (db : Database) (workspaceID : String) : Option String :=
  match db.prebuilds.find? (·.buildWorkspaceId = workspaceID) with
  | some p =>
      if (db.workspaces.lookup p.buildWorkspaceId).any (· ∈ db.users) then some p.cloneURL
      else none
  | none => none

/-- One prebuild changes its state. -/
def setState (db : Database) (p : PrebuiltWorkspace) (state : PrebuiltWorkspaceState) :
    Database :=
  { db with state := fun q => if q = p then state else db.state q }

end Database

/-! ## The rate limiter -/

/-- The rate limit, on the count of the moment. -/
def canBuildNow (maxConcurrentPrebuildsPerRef : Nat) (db : Database) (cloneURL : String) :
    Bool :=
  db.countRunningPrebuilds cloneURL < maxConcurrentPrebuildsPerRef

/-- The check is a constant in the source. -/
def shouldStillBuild (_ : PrebuiltWorkspace) : Bool := true

/-! ## Runs -/

/-- A call of `periodicQueueMaintainance` or of `handlePrebuildFinished`, with the
    prebuilds that it has read and has still before it. -/
inductive Run
  | finding
  | leading (todo : List (PrebuiltWorkspace × String))
  | looping (todo : List (PrebuiltWorkspace × String)) (canBuildCache : Map String Bool)
  | finished (workspaceID : String)
  | queueing (cloneURL : String)
  | checking (cloneURL : String) (todo : List (PrebuiltWorkspace × String))
  | asking (todo : List (PrebuiltWorkspace × String))
  | starting (todo : List (PrebuiltWorkspace × String))
  | done

/-- `waiting` is what was started and has not been reported since, and `fresh` names a run and a
    repository for each count that is fresh, the histories. -/
structure Server where
  db : Database
  runs : List Run
  waiting : List PrebuiltWorkspace
  fresh : List (Nat × String)

/-- Nothing is under way. -/
def newServer (db : Database) : Server where
  db := db
  runs := []
  waiting := []
  fresh := []

namespace Server

/-- A run goes on. -/
def goOn (s : Server) (i : Nat) (run : Run) : Server :=
  { s with runs := s.runs.set i run }

/-- What was started of a repository and is not reported yet. -/
def startedOf (s : Server) (cloneURL : String) : List PrebuiltWorkspace :=
  s.waiting.filter (·.cloneURL = cloneURL)

/-- A run has counted. The count is fresh if it has left out nothing. -/
def count (s : Server) (i : Nat) (cloneURL : String) : Server :=
  { s with fresh := if s.startedOf cloneURL = [] then (i, cloneURL) :: s.fresh else s.fresh }

/-- A new instance is created in any case. No count of the repository is fresh after that. -/
def startWorkspace (s : Server) (p : PrebuiltWorkspace) : Server :=
  { s with
    waiting := s.waiting ++ [p]
    fresh := s.fresh.filter (·.2 ≠ p.cloneURL) }

/-- A prebuild that should not be built is aborted. -/
def discardPrebuild (s : Server) (p : PrebuiltWorkspace) : Server :=
  { s with db := s.db.setState p .aborted }

end Server

/-- What can happen next. Runs begin, go on and fail; prebuilds are reported, finish and are
    created. -/
inductive Action
  | periodicQueueMaintainance
  | handlePrebuildFinished (workspaceID : String)
  | next (i : Nat) (areWeLeader : Bool)
  | throw (i : Nat)
  | report (p : PrebuiltWorkspace)
  | settle (p : PrebuiltWorkspace) (state : PrebuiltWorkspaceState)
  | create (p : PrebuiltWorkspace)
  | edit (workspaces : Map String String) (users : List String)

/-- What a run does up to the next access to the database. -/
def next (limit : Nat) (s : Server) (i : Nat) (areWeLeader : Bool) : Run → Option Server
  | .finding =>
      let todo := s.db.findQueuedPrebuilds ""
      some (s.goOn i (if todo.isEmpty then .done else .leading todo))
  | .leading todo => some (s.goOn i (if areWeLeader then .looping todo ∅ else .done))
  | .looping [] _ => some (s.goOn i .done)
  | .looping ((p, owner) :: todo) cache =>
      if !shouldStillBuild p then some ((s.discardPrebuild p).goOn i (.looping todo cache))
      else match cache.lookup p.cloneURL with
        | none => some ((s.count i p.cloneURL).goOn i (.looping ((p, owner) :: todo)
            (cache.insert p.cloneURL (canBuildNow limit s.db p.cloneURL))))
        | some false => some (s.goOn i (.looping todo cache))
        | some true => some
            ((if owner ∈ s.db.users then s.startWorkspace p else s).goOn i (.looping todo cache))
  | .finished workspaceID => some (s.goOn i
      (match s.db.findFinished workspaceID with
      | some cloneURL => .queueing cloneURL
      | none => .done))
  | .queueing cloneURL =>
      let todo := s.db.findQueuedPrebuilds cloneURL
      some (s.goOn i (if todo.isEmpty then .done else .checking cloneURL todo))
  | .checking cloneURL todo =>
      some ((s.count i cloneURL).goOn i
        (if canBuildNow limit s.db cloneURL then .asking todo else .done))
  | .asking todo => some (s.goOn i (if areWeLeader then .starting todo else .done))
  | .starting [] => some (s.goOn i .done)
  | .starting ((p, _) :: todo) =>
      if !shouldStillBuild p then some ((s.discardPrebuild p).goOn i (.starting todo))
      else some ((s.startWorkspace p).goOn i .done)
  | .done => none

/-- That a prebuild is building is reported only of what was started. Everything else may
    happen to a prebuild at any time. -/
def step (limit : Nat) (s : Server) : Action → Option Server
  | .periodicQueueMaintainance => some { s with runs := s.runs ++ [.finding] }
  | .handlePrebuildFinished workspaceID =>
      some { s with runs := s.runs ++ [.finished workspaceID] }
  | .next i areWeLeader => match s.runs[i]? with
    | some run => next limit s i areWeLeader run
    | none => none
  | .throw i => match s.runs[i]? with
    | some _ => some (s.goOn i .done)
    | none => none
  | .report p =>
      if p ∈ s.waiting then
        some { s with db := s.db.setState p .building, waiting := s.waiting.filter (· ≠ p) }
      else none
  | .settle p state =>
      if state = .building ∨ state = .queued then none
      else some
        { s with db := s.db.setState p state, waiting := s.waiting.filter (· ≠ p) }
  | .create p =>
      if hp : p ∈ s.db.prebuilds then none
      else some { s with db := { s.db.setState p .queued with
        prebuilds := s.db.prebuilds ++ [p]
        unique := List.nodup_append_comm.mp (List.nodup_cons.mpr ⟨hp, s.db.unique⟩) } }
  | .edit workspaces users =>
      some { s with db := { s.db with workspaces := workspaces, users := users } }

/-! ## What holds of what is started -/

/-- What is running and what was newly started is within the limit, and nothing is started
    again while it waits. -/
structure WithinLimit (limit : Nat) (s : Server) : Prop where
  limited : ∀ cloneURL,
    s.db.countRunningPrebuilds cloneURL + (s.startedOf cloneURL).length ≤ limit
  once : s.waiting.Nodup

/-- A run that is about to start a prebuild has a fresh count of its repository. Nothing is asked of
    a run that goes on to count, or that starts nothing. -/
def StartsOnFreshCount (s : Server) (i : Nat) : Run → Prop
  | .looping ((p, owner) :: _) cache =>
      cache.lookup p.cloneURL = some true → owner ∈ s.db.users → (i, p.cloneURL) ∈ s.fresh
  | .starting ((p, _) :: _) => (i, p.cloneURL) ∈ s.fresh
  | _ => True

/-- A step that starts a prebuild does so on a fresh count. -/
def OnFreshCount (s : Server) : Action → Prop
  | .next i _ => match s.runs[i]? with
    | some run => StartsOnFreshCount s i run
    | none => True
  | _ => True

/-! ## Counting -/

theorem countP_le_add {α : Type} {p q r : α → Bool} {l : List α}
    (h : ∀ x ∈ l, p x = true → q x = true ∨ r x = true) :
    l.countP p ≤ l.countP q + l.countP r := by
  induction l with
  | nil => exact Nat.le_refl 0
  | cons x l ih =>
      have hl := ih fun y hy => h y (List.mem_cons_of_mem x hy)
      have hx := h x List.mem_cons_self
      rw [List.countP_cons, List.countP_cons, List.countP_cons]
      cases hp : p x with
      | false => rw [if_neg Bool.false_ne_true]; omega
      | true =>
          rcases hx hp with hq | hr
          · rw [hq, if_pos rfl]; omega
          · rw [hr, if_pos rfl]; omega

theorem filter_singleton_pos {p : PrebuiltWorkspace} {cloneURL : String}
    (h : p.cloneURL = cloneURL) : [p].filter (·.cloneURL = cloneURL) = [p] := by
  rw [List.filter_singleton, decide_eq_true h, cond_true]

theorem filter_singleton_neg {p : PrebuiltWorkspace} {cloneURL : String}
    (h : p.cloneURL ≠ cloneURL) : [p].filter (·.cloneURL = cloneURL) = [] := by
  rw [List.filter_singleton, decide_eq_false h, cond_false]

namespace Database

variable (db : Database) (p : PrebuiltWorkspace)

theorem state_setState (state : PrebuiltWorkspaceState) : (db.setState p state).state p = state :=
  if_pos rfl

/-- Leaving the state of building does not raise the count. -/
theorem countRunningPrebuilds_setState_le {state : PrebuiltWorkspaceState}
    (hstate : state ≠ .building) (cloneURL : String) :
    (db.setState p state).countRunningPrebuilds cloneURL ≤ db.countRunningPrebuilds cloneURL := by
  refine List.countP_mono_left fun q _ hq => ?_
  rw [decide_eq_true_eq] at hq ⊢
  refine ⟨hq.1, ?_⟩
  have hbuilding := hq.2
  unfold setState at hbuilding
  dsimp only at hbuilding
  split_ifs at hbuilding
  · exact absurd hbuilding hstate
  · exact hbuilding

/-- One prebuild more is building, and it is there once. -/
theorem countRunningPrebuilds_setState_building (cloneURL : String) :
    (db.setState p .building).countRunningPrebuilds cloneURL ≤
      db.countRunningPrebuilds cloneURL + ([p].filter (·.cloneURL = cloneURL)).length := by
  have hone : db.prebuilds.countP (fun q => q = p ∧ q.cloneURL = cloneURL) ≤
      ([p].filter (·.cloneURL = cloneURL)).length := by
    by_cases hurl : p.cloneURL = cloneURL
    · rw [filter_singleton_pos hurl]
      refine Nat.le_trans (List.countP_mono_left fun q _ hq => ?_)
        (List.nodup_iff_count_le_one.mp db.unique p)
      rw [decide_eq_true_eq] at hq
      exact beq_iff_eq.mpr hq.1
    · refine Nat.le_trans (Nat.le_of_eq (List.countP_eq_zero.mpr fun q _ hq => ?_)) (Nat.zero_le _)
      rw [decide_eq_true_eq] at hq
      exact hurl (hq.1 ▸ hq.2)
  refine Nat.le_trans (countP_le_add fun q _ hq => ?_) (Nat.add_le_add_left hone _)
  rw [decide_eq_true_eq] at hq
  rw [decide_eq_true_eq, decide_eq_true_eq]
  have hbuilding := hq.2
  unfold setState at hbuilding
  dsimp only at hbuilding
  split_ifs at hbuilding with hqp
  · exact .inr ⟨hqp, hq.1⟩
  · exact .inl ⟨hq.1, hbuilding⟩

end Database

/-! ## The limit -/

/-- What a fresh count of a repository says of the run that has made it: when the run may build,
    fewer prebuilds than the limit are running. -/
def Says (limit : Nat) (s : Server) (cloneURL : String) : Run → Prop
  | .looping _ cache => ∃ canBuild, cache.lookup cloneURL = some canBuild ∧
      (canBuild = true → s.db.countRunningPrebuilds cloneURL < limit)
  | .asking _ | .starting _ => s.db.countRunningPrebuilds cloneURL < limit
  | .done => True
  | _ => False

/-- A fresh count leaves nothing out, and it still says what it has said. -/
structure Inv (limit : Nat) (s : Server) : Prop where
  within : WithinLimit limit s
  fresh : ∀ c ∈ s.fresh, s.startedOf c.2 = [] ∧
    ∃ run, s.runs[c.1]? = some run ∧ Says limit s c.2 run

variable {limit : Nat} {s s' : Server} {a : Action} {i : Nat} {run run' : Run}

theorem Says.mono {cloneURL : String} (h : Says limit s cloneURL run)
    (hcount : s'.db.countRunningPrebuilds cloneURL ≤ s.db.countRunningPrebuilds cloneURL) :
    Says limit s' cloneURL run := by
  cases run with
  | looping todo cache =>
      rcases h with ⟨canBuild, hcache, hlt⟩
      exact ⟨canBuild, hcache, fun hbuild => Nat.lt_of_le_of_lt hcount (hlt hbuild)⟩
  | asking todo => exact Nat.lt_of_le_of_lt hcount h
  | starting todo => exact Nat.lt_of_le_of_lt hcount h
  | done => trivial
  | finding | leading | finished | queueing | checking => exact h

/-- Less is running and waiting than before, and no count is new. -/
theorem inv_of_le (hs : Inv limit s)
    (hcount : ∀ cloneURL,
      s'.db.countRunningPrebuilds cloneURL ≤ s.db.countRunningPrebuilds cloneURL)
    (hwaiting : s'.waiting.Sublist s.waiting) (hfresh : s'.fresh ⊆ s.fresh)
    (hruns : ∀ c ∈ s'.fresh, ∀ run, s.runs[c.1]? = some run → Says limit s c.2 run →
      ∃ run', s'.runs[c.1]? = some run' ∧ Says limit s c.2 run') :
    Inv limit s' := by
  have hstarted : ∀ cloneURL, (s'.startedOf cloneURL).Sublist (s.startedOf cloneURL) :=
    fun cloneURL => hwaiting.filter _
  refine ⟨⟨fun cloneURL => ?_, hs.within.once.sublist hwaiting⟩, fun c hc => ?_⟩
  · have hle := hs.within.limited cloneURL
    have hrunning := hcount cloneURL
    have hlength := (hstarted cloneURL).length_le
    omega
  · rcases hs.fresh c (hfresh hc) with ⟨hnone, run, hrun, hsaid⟩
    rcases hruns c hc run hrun hsaid with ⟨run', hrun', hsaid'⟩
    exact ⟨List.sublist_nil.mp (hnone ▸ hstarted c.2), run', hrun', hsaid'.mono (hcount c.2)⟩

/-- A run goes on, and what its fresh counts say is still right. -/
theorem inv_goOn (hs : Inv limit s) (hrun : s.runs[i]? = some run)
    (hsaid : ∀ cloneURL, Says limit s cloneURL run → Says limit s cloneURL run') :
    Inv limit (s.goOn i run') := by
  refine inv_of_le hs (fun _ => Nat.le_refl _) (List.Sublist.refl _) (List.Subset.refl _) ?_
  intro c _ old hold hc
  unfold Server.goOn
  dsimp only
  rw [getElem?_set_eq_ite hrun]
  split_ifs with hi
  · rw [hi, hrun, Option.some.injEq] at hold
    exact ⟨run', rfl, hsaid c.2 (hold ▸ hc)⟩
  · exact ⟨old, hold, hc⟩

/-- A run that has not counted yet has no fresh count to answer for. -/
theorem inv_of_uncounted (hs : Inv limit s) (hrun : s.runs[i]? = some run)
    (hnot : ∀ cloneURL, ¬ Says limit s cloneURL run) : Inv limit (s.goOn i run') :=
  inv_goOn hs hrun fun cloneURL h => absurd h (hnot cloneURL)

theorem inv_done (hs : Inv limit s) (hrun : s.runs[i]? = some run) : Inv limit (s.goOn i .done) :=
  inv_goOn hs hrun fun _ _ => trivial

/-- A run counts: what the new count says is right now, and the others are not touched. -/
theorem inv_count (hs : Inv limit s) (hrun : s.runs[i]? = some run) {url : String}
    (hnew : Says limit s url run')
    (hold : ∀ cloneURL, Says limit s cloneURL run → Says limit s cloneURL run') :
    Inv limit ((s.count i url).goOn i run') := by
  have hgoOn := inv_goOn hs hrun hold
  refine ⟨⟨hgoOn.within.limited, hgoOn.within.once⟩, fun c hc => ?_⟩
  have hc' : c ∈ s.fresh ∨ c = (i, url) ∧ s.startedOf url = [] := by
    unfold Server.goOn Server.count at hc
    dsimp only at hc
    split_ifs at hc with hnone
    · rcases List.mem_cons.mp hc with heq | hmem
      · exact .inr ⟨heq, hnone⟩
      · exact .inl hmem
    · exact .inl hc
  rcases hc' with hmem | ⟨rfl, hnone⟩
  · exact hgoOn.fresh c hmem
  · refine ⟨hnone, run', ?_, hnew⟩
    unfold Server.goOn
    dsimp only
    exact (getElem?_set_eq_ite hrun run' i).trans (if_pos rfl)

/-- A run starts a prebuild on a fresh count. This is where the limit of the count is used: nothing
    else waits, and fewer than the limit are running. -/
theorem inv_startWorkspace (hs : Inv limit s) (hrun : s.runs[i]? = some run)
    {p : PrebuiltWorkspace} (hfresh : (i, p.cloneURL) ∈ s.fresh)
    (hlt : Says limit s p.cloneURL run → s.db.countRunningPrebuilds p.cloneURL < limit)
    (hsaid : ∀ cloneURL, Says limit s cloneURL run → Says limit s cloneURL run') :
    Inv limit ((s.startWorkspace p).goOn i run') := by
  have hgoOn := inv_goOn hs hrun hsaid
  rcases hs.fresh _ hfresh with ⟨hnone, run'', hrun'', hsaid''⟩
  cases hrun.symm.trans hrun''
  have hcount := hlt hsaid''
  have hstarted : ∀ cloneURL, ((s.startWorkspace p).goOn i run').startedOf cloneURL =
      s.startedOf cloneURL ++ [p].filter (·.cloneURL = cloneURL) :=
    fun cloneURL => List.filter_append ..
  have hwaits : p ∉ s.waiting := by
    intro hp
    have hmem : p ∈ s.startedOf p.cloneURL := List.mem_filter.mpr ⟨hp, decide_eq_true rfl⟩
    rw [hnone] at hmem
    exact absurd hmem List.not_mem_nil
  refine ⟨⟨fun cloneURL => ?_, ?_⟩, fun c hc => ?_⟩
  · rw [hstarted]
    have hle := hs.within.limited cloneURL
    by_cases hurl : p.cloneURL = cloneURL
    · rw [filter_singleton_pos hurl, ← hurl, hnone]
      exact hcount
    · rw [filter_singleton_neg hurl, List.append_nil]
      exact hle
  · exact List.nodup_append_comm.mp (List.nodup_cons.mpr ⟨hwaits, hs.within.once⟩)
  · rcases List.mem_filter.mp hc with ⟨hmem, hother⟩
    rw [decide_eq_true_eq] at hother
    rcases hgoOn.fresh c hmem with ⟨hc2, hrest⟩
    refine ⟨?_, hrest⟩
    rw [hstarted, filter_singleton_neg (Ne.symm hother), List.append_nil]
    exact hc2

/-- A run over the queue comes to the next prebuild. -/
theorem inv_looping {p : PrebuiltWorkspace} {owner : String}
    {todo : List (PrebuiltWorkspace × String)} {cache : Map String Bool} {areWeLeader : Bool}
    (hs : Inv limit s) (hrun : s.runs[i]? = some (.looping ((p, owner) :: todo) cache))
    (hok : StartsOnFreshCount s i (.looping ((p, owner) :: todo) cache))
    (h : next limit s i areWeLeader (.looping ((p, owner) :: todo) cache) = some s') :
    Inv limit s' := by
  have hpass : Inv limit (s.goOn i (.looping todo cache)) := inv_goOn hs hrun fun _ h => h
  rw [next, if_neg (by rw [shouldStillBuild]; exact Bool.false_ne_true)] at h
  split at h
  · next hcache =>
      rw [← Option.some.inj h]
      refine inv_count hs hrun ⟨canBuildNow limit s.db p.cloneURL, ?_, fun hbuild => ?_⟩ ?_
      · rw [Map.lookup_insert_eq_ite, if_pos rfl]
      · exact of_decide_eq_true hbuild
      · rintro cloneURL ⟨canBuild, hlookup, hlt⟩
        -- the run has not counted this repository before
        have hne : cloneURL ≠ p.cloneURL := by
          rintro rfl
          rw [hcache] at hlookup
          cases hlookup
        refine ⟨canBuild, ?_, hlt⟩
        rw [Map.lookup_insert_eq_ite, if_neg hne]
        exact hlookup
  · rw [← Option.some.inj h]
    exact hpass
  · next hcache =>
      rw [← Option.some.inj h]
      split_ifs with howner
      · refine inv_startWorkspace hs hrun (hok hcache howner) ?_ fun _ h => h
        rintro ⟨canBuild, hlookup, hlt⟩
        cases hcache.symm.trans hlookup
        exact hlt rfl
      · exact hpass

/-- A step of a run keeps the invariant. The case of a start uses that the count is fresh. -/
theorem inv_next {areWeLeader : Bool} (hs : Inv limit s) (hrun : s.runs[i]? = some run)
    (hok : StartsOnFreshCount s i run) (h : next limit s i areWeLeader run = some s') :
    Inv limit s' := by
  cases run with
  | finding =>
      rw [next, Option.some.injEq] at h
      rw [← h]
      exact inv_of_uncounted hs hrun fun _ hsaid => hsaid
  | leading todo =>
      rw [next, Option.some.injEq] at h
      rw [← h]
      exact inv_of_uncounted hs hrun fun _ hsaid => hsaid
  | looping todo cache =>
      cases todo with
      | nil =>
          rw [next, Option.some.injEq] at h
          rw [← h]
          exact inv_done hs hrun
      | cons entry todo => exact inv_looping hs hrun hok h
  | finished workspaceID =>
      rw [next, Option.some.injEq] at h
      rw [← h]
      exact inv_of_uncounted hs hrun fun _ hsaid => hsaid
  | queueing cloneURL =>
      rw [next, Option.some.injEq] at h
      rw [← h]
      exact inv_of_uncounted hs hrun fun _ hsaid => hsaid
  | checking cloneURL todo =>
      rw [next, Option.some.injEq] at h
      rw [← h]
      refine inv_count hs hrun ?_ fun _ hsaid => absurd hsaid id
      cases hbuild : canBuildNow limit s.db cloneURL with
      | true =>
          have hlt : s.db.countRunningPrebuilds cloneURL < limit := of_decide_eq_true hbuild
          exact hlt
      | false => trivial
  | asking todo =>
      rw [next, Option.some.injEq] at h
      rw [← h]
      split_ifs
      · exact inv_goOn hs hrun fun _ hsaid => hsaid
      · exact inv_done hs hrun
  | starting todo =>
      cases todo with
      | nil =>
          rw [next, Option.some.injEq] at h
          rw [← h]
          exact inv_done hs hrun
      | cons entry todo =>
          rw [next, if_neg (by rw [shouldStillBuild]; exact Bool.false_ne_true),
            Option.some.injEq] at h
          rw [← h]
          exact inv_startWorkspace hs hrun hok id fun _ _ => trivial
  | done => exact absurd h nofun

theorem inv_newRun (hs : Inv limit s) (run : Run) :
    Inv limit { s with runs := s.runs ++ [run] } := by
  refine inv_of_le hs (fun _ => Nat.le_refl _) (List.Sublist.refl _) (List.Subset.refl _) ?_
  intro c _ old hold hsaid
  refine ⟨old, ?_, hsaid⟩
  dsimp only
  rw [List.getElem?_append_left (List.getElem?_eq_some_iff.mp hold).1]
  exact hold

/-- One prebuild of the waiting ones is building. No count of its repository is fresh, since there
    is one that waits. -/
theorem inv_report {p : PrebuiltWorkspace} (hs : Inv limit s) (hp : p ∈ s.waiting) :
    Inv limit { s with db := s.db.setState p .building, waiting := s.waiting.filter (· ≠ p) } := by
  have hsub : ∀ cloneURL, ((s.waiting.filter (· ≠ p)).filter (·.cloneURL = cloneURL)).Sublist
      (s.startedOf cloneURL) := fun cloneURL => List.filter_sublist.filter _
  have hcount := s.db.countRunningPrebuilds_setState_building p
  refine ⟨⟨fun cloneURL => ?_, hs.within.once.filter _⟩, fun c hc => ?_⟩
  · have hfewer : ((s.waiting.filter (· ≠ p)).filter (·.cloneURL = cloneURL)).length +
        ([p].filter (·.cloneURL = cloneURL)).length ≤ (s.startedOf cloneURL).length := by
      by_cases hurl : p.cloneURL = cloneURL
      · rw [filter_singleton_pos hurl, List.filter_comm]
        refine List.length_filter_lt_length_iff_exists.mpr ⟨p, ?_, ?_⟩
        · exact List.mem_filter.mpr ⟨hp, decide_eq_true hurl⟩
        · rw [decide_eq_true_eq, not_not]
      · rw [filter_singleton_neg hurl]
        exact (hsub cloneURL).length_le
    have hle := hs.within.limited cloneURL
    have hrunning := hcount cloneURL
    unfold Server.startedOf at hfewer hle ⊢
    dsimp only
    omega
  · rcases hs.fresh c hc with ⟨hnone, run, hrun, hsaid⟩
    have hurl : p.cloneURL ≠ c.2 := by
      intro hurl
      have hmem : p ∈ s.startedOf c.2 := List.mem_filter.mpr ⟨hp, decide_eq_true hurl⟩
      rw [hnone] at hmem
      exact absurd hmem List.not_mem_nil
    refine ⟨List.sublist_nil.mp (hnone ▸ hsub c.2), run, hrun, hsaid.mono ?_⟩
    have hrunning := hcount c.2
    rwa [filter_singleton_neg hurl, List.length_nil, Nat.add_zero] at hrunning

/-- The step lemma of the invariant. -/
theorem inv_step (hs : Inv limit s) (hok : OnFreshCount s a) (h : step limit s a = some s') :
    Inv limit s' := by
  cases a with
  | periodicQueueMaintainance =>
      rw [step, Option.some.injEq] at h
      rw [← h]
      exact inv_newRun hs .finding
  | handlePrebuildFinished workspaceID =>
      rw [step, Option.some.injEq] at h
      rw [← h]
      exact inv_newRun hs (.finished workspaceID)
  | next i areWeLeader =>
      rw [step] at h
      unfold OnFreshCount at hok
      split at h
      · next run hrun =>
          dsimp only at hok
          rw [hrun] at hok
          -- A run starts a prebuild only on a count that is still right, and this is the
          -- condition.
          exact inv_next hs hrun hok h
      · exact absurd h nofun
  | throw i =>
      rw [step] at h
      split at h
      · next run hrun =>
          rw [← Option.some.inj h]
          exact inv_done hs hrun
      · exact absurd h nofun
  | report p =>
      rw [step, Option.ite_none_right_eq_some, Option.some.injEq] at h
      rcases h with ⟨hp, h⟩
      rw [← h]
      exact inv_report hs hp
  -- A prebuild that is settled is not building any more, so no count becomes larger.
  | settle p state =>
      rw [step, Option.ite_none_left_eq_some, Option.some.injEq] at h
      rcases h with ⟨hstate, h⟩
      rw [← h]
      rw [not_or] at hstate
      refine inv_of_le hs (s.db.countRunningPrebuilds_setState_le p hstate.1) List.filter_sublist
        (List.Subset.refl _) fun c _ run hrun hsaid => ⟨run, hrun, hsaid⟩
  | create p =>
      rw [step] at h
      split_ifs at h with hp
      rw [← Option.some.inj h]
      refine inv_of_le hs (fun cloneURL => ?_) (List.Sublist.refl _) (List.Subset.refl _)
        fun c _ run hrun hsaid => ⟨run, hrun, hsaid⟩
      -- a new prebuild is queued, so it counts for nothing
      have hnew : ¬ (p.cloneURL = cloneURL ∧
          (s.db.setState p .queued).state p = .building) := by
        rw [Database.state_setState]
        exact fun hbuilding => absurd hbuilding.2 nofun
      have hqueued : PrebuiltWorkspaceState.queued ≠ .building := nofun
      have hcount := s.db.countRunningPrebuilds_setState_le p hqueued cloneURL
      unfold Database.countRunningPrebuilds at hcount ⊢
      rw [List.countP_append, List.countP_singleton, if_neg (by rwa [decide_eq_true_eq])]
      exact hcount
  -- Editing users and workspaces changes no count.
  | edit workspaces users =>
      rw [step, Option.some.injEq] at h
      rw [← h]
      exact inv_of_le hs (fun _ => Nat.le_refl _) (List.Sublist.refl _) (List.Subset.refl _)
        fun c _ run hrun hsaid => ⟨run, hrun, hsaid⟩

/-- From every state of the database in which the limit is kept, the runs in which each start rests
    on a fresh count keep the limit, and start nothing again while it waits. So the rate limiter
    does its work wherever it is asked in time. -/
theorem withinLimit_of_reaches {db : Database}
    (hdb : ∀ cloneURL, db.countRunningPrebuilds cloneURL ≤ limit)
    (hr : ReachesWithin (step limit) OnFreshCount (newServer db) s) : WithinLimit limit s :=
  (invariant_of_reachesWithin (fun _ _ _ _ hs hok h => inv_step hs hok h) hr
    ⟨⟨hdb, List.nodup_nil⟩, fun _ hc => absurd hc List.not_mem_nil⟩).within

instance decidableStartsOnFreshCount (s : Server) (i : Nat) :
    ∀ run, Decidable (StartsOnFreshCount s i run)
  | .looping ((_, _) :: _) _ => inferInstanceAs (Decidable (_ → _ → _ ∈ _))
  | .starting ((_, _) :: _) => inferInstanceAs (Decidable (_ ∈ _))
  | .looping [] _ | .starting [] | .finding | .leading _ | .finished _ | .queueing _
  | .checking .. | .asking _ | .done => isTrue trivial

instance decidableOnFreshCount (s : Server) : ∀ a, Decidable (OnFreshCount s a)
  | .next i _ => match h : s.runs[i]? with
    | some run => decidable_of_iff (StartsOnFreshCount s i run) (by simp only [OnFreshCount, h])
    | none => isTrue (by simp only [OnFreshCount, h])
  | .periodicQueueMaintainance | .handlePrebuildFinished _ | .throw _ | .report _ | .settle ..
  | .create _ | .edit .. => isTrue trivial

/-- Two prebuilds of a repository wait for their turn. -/
def twoQueued : Database where
  prebuilds := [⟨"p1", "repo", "w1"⟩, ⟨"p2", "repo", "w2"⟩]
  unique := by decide
  state := fun _ => .queued
  workspaces := (((∅ : Map String String).insert "w1" "u").insert "w2" "u").insert "w3" "u"
  users := ["u"]

theorem countRunningPrebuilds_twoQueued (cloneURL : String) :
    twoQueued.countRunningPrebuilds cloneURL = 0 := by
  refine List.countP_eq_zero.mpr fun p _ hp => ?_
  rw [decide_eq_true_eq] at hp
  exact absurd hp.2 nofun

/-- With a limit of two, the prebuilds of a repository are started one after the other, each on a
    count of its own. One of them is started when another one has finished, and a server that is not
    the leader starts none. -/
theorem withinLimit_twoQueued : ∃ s, s.waiting = [⟨"p3", "repo", "w3"⟩] ∧
    s.db.countRunningPrebuilds "repo" = 1 ∧ WithinLimit 2 s := by
  have hrun : ((runActions (step 2) [.periodicQueueMaintainance, .next 0 true, .next 0 true,
      .next 0 true, .next 0 true, .throw 0, .report ⟨"p1", "repo", "w1"⟩,
      .periodicQueueMaintainance, .next 1 true, .next 1 false,
      .periodicQueueMaintainance, .next 2 true, .next 2 true, .next 2 true, .next 2 true,
      .next 2 true, .report ⟨"p2", "repo", "w2"⟩, .create ⟨"p3", "repo", "w3"⟩,
      .settle ⟨"p1", "repo", "w1"⟩ .available, .handlePrebuildFinished "w1", .next 3 true,
      .next 3 true, .next 3 true, .next 3 true, .next 3 true] (newServer twoQueued)).any
        fun s => decide (s.waiting = [⟨"p3", "repo", "w3"⟩] ∧
          s.db.countRunningPrebuilds "repo" = 1)) = true := by
    decide +kernel
  rcases exists_of_runActions_any _ _ _ _ hrun with ⟨s, hs, hend⟩
  rw [decide_eq_true_eq] at hend
  refine ⟨s, hend.1, hend.2, withinLimit_of_reaches (fun cloneURL => ?_)
    (reachesWithin_of_runActions _ _ s (by decide +kernel) hs)⟩
  rw [countRunningPrebuilds_twoQueued]
  exact Nat.zero_le 2

/-- With a limit of one, a run over the queue counts once and starts both. -/
theorem overLimit_twoQueued : ¬ ∀ (limit : Nat) (db : Database),
    (∀ cloneURL, db.countRunningPrebuilds cloneURL ≤ limit) → ∀ s,
    ReachesWithin (step limit) (fun _ _ => True) (newServer db) s → WithinLimit limit s := by
  intro h
  have hrun : ((runActions (step 1) [.periodicQueueMaintainance, .next 0 true, .next 0 true,
      .next 0 true, .next 0 true, .next 0 true] (newServer twoQueued)).any
        fun s => decide ((s.startedOf "repo").length = 2)) = true := by
    decide +kernel
  rcases exists_of_runActions_any _ _ _ _ hrun with ⟨s, hs, hend⟩
  rw [decide_eq_true_eq] at hend
  have hwithin := h 1 twoQueued (fun cloneURL => by
    rw [countRunningPrebuilds_twoQueued]
    exact Nat.zero_le 1) s
    (reaches_of_runActions hs)
  have hle := hwithin.limited "repo"
  omega

end Prebuilds

end Nxpod
