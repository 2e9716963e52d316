import Nxpod.Library.Map
import Nxpod.Library.Parties
import Nxpod.Library.Transition
import Mathlib.Tactic.Tauto

/-!
# The Plugins of a User

Installing and uninstalling plugins. A user's plugins are one document, and each
operation reads it, changes what it has read, and stores the whole of it again. The
document is the array of the plugins' ids. A user without one has no plugins.

Storing is several accesses to the database in turn. The row is looked up, and then it
is either updated or saved as a new one. The update is given the row as it was looked up
and throws where it does not find it. That it finds the row is a parameter of the model,
as the update is a function of the library that the server accesses its database with.
An access may also fail, and then the operation fails.

An operation either has added or removed a plugin, or does not concern it. So the orders
in which operations may have been applied can be told from the plugins one by one.

## Main definitions

* `Operation`, `doUpdate`: The operations and what they make of the plugins.
* `Phase`: How far a call has come: before each access to the database, or at its end.
* `Call`: A call for a user.
* `Server`, `step`: The operations in progress, and what can happen.
* `Action`: What can happen next: a call, or the next access of one, which may fail.
* `Serializes`: Some order of operations makes one set of plugins into another.
* `Serial`: The operations that have completed, for every user.
* `Agrees`: The condition on a step.
* `Inv`: The invariant: what was done can be put in an order, and what is about to be stored is
  prepared.
* `Effect`: What a step does.

## Theorems

* `mem_doUpdate`: A plugin after an operation.
* `serializes_iff`: What can be reached with the operations in some order.
* `serializes_cons_iff`: The same with one operation more.
* `effect_of_step`: The inversion lemma for all steps.
* `inv_step`: What a step preserves.
* `serial_iff`: The runs that lose no operation.
-/

namespace Nxpod

namespace UserStore

namespace Plugins

open Transition Parties

/-! ## The operations -/

/-- The plugins to install. -/
structure InstallPluginsParams where
  pluginIds : List String

/-- The plugin to uninstall. -/
structure UninstallPluginParams where
  pluginId : String

/-- What is asked of the service. -/
inductive Operation
  | installUserPlugins (params : InstallPluginsParams)
  | uninstallUserPlugin (params : UninstallPluginParams)

/-- The elements of a JavaScript set, in the order in which they were added. -/
def add (pluginIds : List String) (pluginId : String) : List String :=
  if pluginId ∈ pluginIds then pluginIds else pluginIds ++ [pluginId]

/-- One round of the loop that installs plugins, which also notes that there is something to
    store. -/
def installNext (r : Bool × List String) (pluginId : String) : Bool × List String :=
  if pluginId ∈ r.2 then r else (true, add r.2 pluginId)

/-- Whether the plugins should be stored, and the plugins afterwards. -/
def doUpdate : Operation → List String → Bool × List String
  | .installUserPlugins params, pluginIds => params.pluginIds.foldl installNext (false, pluginIds)
  | .uninstallUserPlugin params, pluginIds =>
      (params.pluginId ∈ pluginIds, pluginIds.filter (· ≠ params.pluginId))

/-! ## The operations in progress -/

/-- How far a call has come: before each access to the database, or at its end. -/
inductive Phase
  | loading
  | lookingUp (pluginIds : List String)
  | updating (pluginIds : List String) (resource : List String)
  | saving (pluginIds : List String)
  | done (result : Bool)
  | failed

/-- A call for a user. -/
structure Call where
  userId : String
  operation : Operation
  phase : Phase

/-- Each user has one row for plugins, and `db` is what is in it. -/
structure Server where
  db : Map String (List String)
  calls : List Call

/-- What can happen next: a call, or the next access of one, which may fail. -/
inductive Action
  | request (userId : String) (operation : Operation)
  | next (i : Nat)
  | throw (i : Nat)

/-- The plugins of a user. The document is read into a set. -/
def getUserPlugins (db : Map String (List String)) (userId : String) : List String :=
  match db.lookup userId with
  | some json => json.foldl add []
  | none => []

/-- There is nothing to do when no plugins are to be installed. -/
def begin : Operation → Phase
  | .installUserPlugins ⟨[]⟩ => .done false
  | _ => .loading

/-- A call has gone on. -/
def goOn (s : Server) (i : Nat) (c : Call) (phase : Phase) : Server :=
  { s with calls := s.calls.set i { c with phase := phase } }

/-- `finds` is whether the repository finds the row that is to be updated, given the row
    as it was looked up and as it is. -/
def next (finds : List String → List String → Bool) (s : Server) (i : Nat) (c : Call) :
    Option Server :=
  match c.phase with
  | .loading => match doUpdate c.operation (getUserPlugins s.db c.userId) with
    | (true, pluginIds) => some (goOn s i c (.lookingUp pluginIds))
    | (false, _) => some (goOn s i c (.done false))
  | .lookingUp pluginIds => match s.db.lookup c.userId with
    | some resource => some (goOn s i c (.updating pluginIds resource))
    | none => some (goOn s i c (.saving pluginIds))
  | .updating pluginIds resource =>
      if (s.db.lookup c.userId).any (finds resource) then
        some (goOn s i c (.saving pluginIds))
      else some (goOn s i c .failed)
  | .saving pluginIds =>
      some { goOn s i c (.done true) with db := s.db.insert c.userId pluginIds }
  | .done _ => none
  | .failed => none

/-- One step of the server. -/
def step (finds : List String → List String → Bool) (s : Server) : Action → Option Server
  | .request userId operation =>
      some { s with calls := s.calls ++ [⟨userId, operation, begin operation⟩] }
  | .next i => match s.calls[i]? with
    | some c => next finds s i c
    | none => none
  | .throw i => match s.calls[i]? with
    | some c => match c.phase with
      | .done _ => none
      | .failed => none
      | _ => some (goOn s i c .failed)
    | none => none

/-- No call is under way. -/
def newServer (db : Map String (List String)) : Server where
  db := db
  calls := []

/-! ## What is claimed of the plugins -/

/-- What a call has done for a user. -/
def Call.completedOf (userId : String) (c : Call) : List Operation :=
  match c.phase with
  | .done _ => if c.userId = userId then [c.operation] else []
  | _ => []

/-- All that was done for a user. -/
def completed (s : Server) (userId : String) : List Operation :=
  s.calls.flatMap (Call.completedOf userId)

/-- What an operation makes of some plugins. -/
def apply (plugins : List String) (operation : Operation) : List String :=
  (doUpdate operation plugins).2

/-- Applied one after the other in some order, the operations make the plugins `before`
    into the plugins `after`. -/
def Serializes (operations : List Operation) (before after : List String) : Prop :=
  ∃ order : List Operation, order.Perm operations ∧ ∀ p, p ∈ after ↔ p ∈ order.foldl apply before

/-- No operation that has completed is lost. -/
def Serial (db : Map String (List String)) (s : Server) : Prop :=
  ∀ userId, Serializes (completed s userId) (getUserPlugins db userId)
    (getUserPlugins s.db userId)

/-- The operation installs the plugin. -/
def Installs (p : String) : Operation → Prop
  | .installUserPlugins params => p ∈ params.pluginIds
  | .uninstallUserPlugin _ => False

/-- The operation uninstalls the plugin. -/
def Uninstalls (p : String) : Operation → Prop
  | .installUserPlugins _ => False
  | .uninstallUserPlugin params => p = params.pluginId

instance decidableInstalls (p : String) (operation : Operation) :
    Decidable (Installs p operation) := by
  cases operation <;> unfold Installs <;> infer_instance

instance decidableUninstalls (p : String) (operation : Operation) :
    Decidable (Uninstalls p operation) := by
  cases operation <;> unfold Uninstalls <;> infer_instance

/-- Some operation installs the plugin. -/
def Installed (operations : List Operation) (p : String) : Prop :=
  ∃ o ∈ operations, Installs p o

/-- Some operation uninstalls the plugin. -/
def Uninstalled (operations : List Operation) (p : String) : Prop :=
  ∃ o ∈ operations, Uninstalls p o

instance decidableInstalled (operations : List Operation) (p : String) :
    Decidable (Installed operations p) := by
  unfold Installed
  infer_instance

instance decidableUninstalled (operations : List Operation) (p : String) :
    Decidable (Uninstalled operations p) := by
  unfold Uninstalled
  infer_instance

/-- What is to be stored and what is stored differ in plugins of the operation itself, or in
    such that were both installed and uninstalled. -/
def Agrees (s : Server) : Action → Prop
  | .next i => match s.calls[i]? with
    | some ⟨userId, operation, .saving pluginIds⟩ =>
        ∀ p, Installs p operation ∨ Uninstalls p operation ∨
          Installed (completed s userId) p ∧ Uninstalled (completed s userId) p ∨
          (p ∈ pluginIds ↔ p ∈ getUserPlugins s.db userId)
    | _ => True
  | _ => True

variable {finds : List String → List String → Bool} {s s' : Server} {a : Action}
  {operations operations' : List Operation} {operation : Operation} {plugins : List String}
  {before after after' : List String} {p : String} {db : Map String (List String)}

/-! ## A plugin and the operations -/

theorem mem_foldl_add (pluginIds : List String) :
    p ∈ pluginIds.foldl add plugins ↔ p ∈ plugins ∨ p ∈ pluginIds := by
  induction pluginIds generalizing plugins with
  | nil => simp only [List.foldl_nil, List.not_mem_nil, or_false]
  | cons pluginId pluginIds ih =>
      have hadd : p ∈ add plugins pluginId ↔ p ∈ plugins ∨ p = pluginId := by
        unfold add
        split_ifs with hmem
        · exact ⟨Or.inl, fun h => h.elim id fun heq => heq ▸ hmem⟩
        · rw [List.mem_append, List.mem_singleton]
      rw [List.foldl_cons, ih, hadd, List.mem_cons, or_assoc]

theorem foldl_installNext_snd (r : Bool × List String) (pluginIds : List String) :
    (pluginIds.foldl installNext r).2 = pluginIds.foldl add r.2 := by
  induction pluginIds generalizing r with
  | nil => rfl
  | cons pluginId pluginIds ih =>
      have hnext : (installNext r pluginId).2 = add r.2 pluginId := by
        unfold installNext
        split_ifs with hmem
        · exact (if_pos hmem).symm
        · rfl
      rw [List.foldl_cons, ih, hnext, List.foldl_cons]

/-- Nothing is to be stored only if all plugins were there. -/
theorem foldl_installNext_fst {r : Bool × List String} {pluginIds : List String}
    (h : (pluginIds.foldl installNext r).1 = false) :
    r.1 = false ∧ ∀ p ∈ pluginIds, p ∈ r.2 := by
  induction pluginIds generalizing r with
  | nil => exact ⟨h, fun _ hp => absurd hp List.not_mem_nil⟩
  | cons pluginId pluginIds ih =>
      rw [List.foldl_cons] at h
      rcases ih h with ⟨hfst, hall⟩
      unfold installNext at hfst hall
      -- the loop goes on with `true` when the plugin was not there
      split_ifs at hfst hall with hmem
      exact ⟨hfst, List.forall_mem_cons.mpr ⟨hmem, hall⟩⟩

/-- A plugin is there afterwards if it was just installed, or was there before and was not
    just uninstalled. -/
theorem mem_doUpdate (operation : Operation) :
    p ∈ (doUpdate operation plugins).2 ↔
      Installs p operation ∨ p ∈ plugins ∧ ¬ Uninstalls p operation := by
  cases operation with
  | installUserPlugins params =>
      unfold doUpdate Installs Uninstalls
      dsimp only
      rw [foldl_installNext_snd, mem_foldl_add, not_false_eq_true, and_true, or_comm]
  | uninstallUserPlugin params =>
      unfold doUpdate Installs Uninstalls
      dsimp only
      rw [List.mem_filter, false_or, decide_eq_true_eq]

/-- An operation stores nothing when the plugins are as it would have them. -/
theorem doUpdate_eq_false (h : (doUpdate operation plugins).1 = false) :
    (∀ p, Installs p operation → p ∈ plugins) ∧ ∀ p, Uninstalls p operation → p ∉ plugins := by
  cases operation with
  | installUserPlugins params =>
      unfold doUpdate at h
      exact ⟨(foldl_installNext_fst h).2, fun p hp => absurd hp id⟩
  | uninstallUserPlugin params =>
      unfold doUpdate at h
      refine ⟨fun p hp => absurd hp id, fun p hp => ?_⟩
      rw [show p = params.pluginId from hp]
      exact of_decide_eq_false h

/-- Installed by the first operation or by another one. -/
theorem installed_cons :
    Installed (operation :: operations) p ↔ Installs p operation ∨ Installed operations p :=
  List.exists_mem_cons_iff ..

/-- Uninstalled by the first operation or by another one. -/
theorem uninstalled_cons :
    Uninstalled (operation :: operations) p ↔ Uninstalls p operation ∨ Uninstalled operations p :=
  List.exists_mem_cons_iff ..

/-- A plugin that nothing uninstalls is there if it was or something installs it. -/
theorem mem_foldl_apply_of_not_uninstalls (h : ¬ Uninstalled operations p) :
    p ∈ operations.foldl apply plugins ↔ p ∈ plugins ∨ Installed operations p := by
  induction operations generalizing plugins with
  | nil =>
      unfold Installed
      simp only [List.foldl_nil, List.not_mem_nil, false_and, exists_false, or_false]
  | cons operation operations ih =>
      rw [uninstalled_cons, not_or] at h
      have hhead : p ∈ apply plugins operation ↔ Installs p operation ∨ p ∈ plugins := by
        unfold apply
        rw [mem_doUpdate, and_iff_left h.1]
      rw [List.foldl_cons, ih h.2, hhead, installed_cons, or_comm (a := Installs p operation),
        or_assoc]

/-- A plugin that nothing installs is there if it was and nothing uninstalls it. -/
theorem mem_foldl_apply_of_not_installs (h : ¬ Installed operations p) :
    p ∈ operations.foldl apply plugins ↔ p ∈ plugins ∧ ¬ Uninstalled operations p := by
  induction operations generalizing plugins with
  | nil =>
      unfold Uninstalled
      simp only [List.foldl_nil, List.not_mem_nil, false_and, exists_false, not_false_eq_true,
        and_true]
  | cons operation operations ih =>
      rw [installed_cons, not_or] at h
      have hhead : p ∈ apply plugins operation ↔ p ∈ plugins ∧ ¬ Uninstalls p operation := by
        unfold apply
        rw [mem_doUpdate, or_iff_right h.1]
      rw [List.foldl_cons, ih h.2, hhead, and_assoc, uninstalled_cons, not_or]

/-! ## Orders of operations -/

/-- Whether there is an order does not depend on how the operations are listed. -/
theorem serializes_perm (h : operations.Perm operations') :
    Serializes operations before after ↔ Serializes operations' before after :=
  exists_congr fun _ => and_congr_left' ⟨fun ho => ho.trans h, fun ho => ho.trans h.symm⟩

/-- Whether an operation uninstalls a plugin that is there in the end. -/
def early (after : List String) : Operation → Bool
  | .installUserPlugins _ => false
  | .uninstallUserPlugin params => params.pluginId ∈ after

/-- Whether the operation installs something. -/
def isInstall : Operation → Bool
  | .installUserPlugins _ => true
  | .uninstallUserPlugin _ => false

/-- The plugins that are there in the end are uninstalled first, and the others last. -/
def serialOrder (operations : List Operation) (after : List String) : List Operation :=
  operations.filter (early after) ++
    ((operations.filter (!early after ·)).filter isInstall ++
      (operations.filter (!early after ·)).filter (!isInstall ·))

/-- The order that is tried has all of the operations. -/
theorem serialOrder_perm (operations : List Operation) (after : List String) :
    (serialOrder operations after).Perm operations :=
  ((List.filter_append_perm isInstall _).append_left _).trans
    (List.filter_append_perm (early after) operations)

/-- Looking for an operation of one kind in a part of the list. -/
theorem exists_mem_filter_iff {P : Operation → Prop} {f : Operation → Bool} {q : Prop}
    (h : ∀ o, P o → (f o = true ↔ q)) :
    (∃ o ∈ operations.filter f, P o) ↔ q ∧ ∃ o ∈ operations, P o := by
  constructor
  · intro hfilter
    rcases hfilter with ⟨o, ho, hp⟩
    rcases List.mem_filter.mp ho with ⟨hmem, hf⟩
    exact ⟨(h o hp).mp hf, o, hmem, hp⟩
  · intro hall
    rcases hall with ⟨hq, o, hmem, hp⟩
    exact ⟨o, List.mem_filter.mpr ⟨hmem, (h o hp).mpr hq⟩, hp⟩

/-- Who installs a plugin comes in the middle of that order. -/
theorem early_of_installs (after : List String) {o : Operation} (h : Installs p o) :
    early after o = false ∧ isInstall o = true := by
  cases o with
  | installUserPlugins params => exact ⟨rfl, rfl⟩
  | uninstallUserPlugin params => exact absurd h id

/-- Who uninstalls a plugin comes first if it is there in the end, and last otherwise. -/
theorem early_of_uninstalls (after : List String) {o : Operation} (h : Uninstalls p o) :
    early after o = decide (p ∈ after) ∧ isInstall o = false := by
  cases o with
  | installUserPlugins params => exact absurd h id
  | uninstallUserPlugin params =>
      rw [show p = params.pluginId from h]
      exact ⟨rfl, rfl⟩

/-- Of each of the three parts, what it installs and uninstalls. -/
theorem mem_foldl_serialOrder :
    p ∈ (serialOrder operations after).foldl apply before ↔
      (p ∈ before ∧ ¬ (p ∈ after ∧ Uninstalled operations p) ∨ Installed operations p) ∧
      ¬ (p ∉ after ∧ Uninstalled operations p) := by
  -- The first part uninstalls what is installed in the end, and the last one the rest.
  have hinstalled1 : Installed (operations.filter (early after)) p ↔
      False ∧ Installed operations p :=
    exists_mem_filter_iff fun o ho => by simp [early_of_installs after ho]
  have huninstalled1 : Uninstalled (operations.filter (early after)) p ↔
      p ∈ after ∧ Uninstalled operations p :=
    exists_mem_filter_iff fun o ho => by simp [early_of_uninstalls after ho]
  have hinstalled : Installed (operations.filter (!early after ·)) p ↔
      True ∧ Installed operations p :=
    exists_mem_filter_iff fun o ho => by simp [early_of_installs after ho]
  have hinstalled2 : Installed ((operations.filter (!early after ·)).filter isInstall) p ↔
      True ∧ Installed (operations.filter (!early after ·)) p :=
    exists_mem_filter_iff fun o ho => by simp [early_of_installs after ho]
  have huninstalled2 : Uninstalled ((operations.filter (!early after ·)).filter isInstall) p ↔
      False ∧ Uninstalled (operations.filter (!early after ·)) p :=
    exists_mem_filter_iff fun o ho => by simp [early_of_uninstalls after ho]
  have huninstalled : Uninstalled (operations.filter (!early after ·)) p ↔
      p ∉ after ∧ Uninstalled operations p :=
    exists_mem_filter_iff fun o ho => by simp [early_of_uninstalls after ho]
  have hinstalled3 : Installed ((operations.filter (!early after ·)).filter (!isInstall ·)) p ↔
      False ∧ Installed (operations.filter (!early after ·)) p :=
    exists_mem_filter_iff fun o ho => by simp [early_of_installs after ho]
  have huninstalled3 :
      Uninstalled ((operations.filter (!early after ·)).filter (!isInstall ·)) p ↔
        True ∧ Uninstalled (operations.filter (!early after ·)) p :=
    exists_mem_filter_iff fun o ho => by simp [early_of_uninstalls after ho]
  rw [false_and] at hinstalled1 huninstalled2 hinstalled3
  rw [true_and] at hinstalled hinstalled2 huninstalled3
  unfold serialOrder
  rw [List.foldl_append, List.foldl_append, mem_foldl_apply_of_not_installs hinstalled3.mp,
    mem_foldl_apply_of_not_uninstalls huninstalled2.mp,
    mem_foldl_apply_of_not_installs hinstalled1.mp, hinstalled2, hinstalled, huninstalled3,
    huninstalled, huninstalled1]

/-- What operations can come to in some order. A plugin that is both installed and uninstalled
    may be there or not, and of any other it is clear. -/
theorem serializes_iff : Serializes operations before after ↔
    ∀ p, Installed operations p ∧ Uninstalled operations p ∨
      (p ∈ after ↔ Installed operations p ∨ p ∈ before ∧ ¬ Uninstalled operations p) := by
  constructor
  · rintro ⟨order, hperm, hafter⟩ p
    have hinstalled : Installed operations p ↔ Installed order p :=
      exists_congr fun o => and_congr_left' hperm.mem_iff.symm
    have huninstalled : Uninstalled operations p ↔ Uninstalled order p :=
      exists_congr fun o => and_congr_left' hperm.mem_iff.symm
    rw [hinstalled, huninstalled, hafter]
    by_cases hi : Installed order p
    · by_cases hu : Uninstalled order p
      · exact .inl ⟨hi, hu⟩
      · refine .inr ?_
        rw [mem_foldl_apply_of_not_uninstalls hu]
        exact iff_of_true (.inr hi) (.inl hi)
    · refine .inr ?_
      rw [mem_foldl_apply_of_not_installs hi, or_iff_right hi]
  · intro h
    refine ⟨_, serialOrder_perm operations after, fun p => ?_⟩
    rw [mem_foldl_serialOrder]
    by_cases hu : Uninstalled operations p
    · -- a plugin that is uninstalled is there only if it is installed as well
      have hi : p ∈ after → Installed operations p := by
        intro hmem
        rcases h p with ⟨hi, _⟩ | hafter
        · exact hi
        · exact (hafter.mp hmem).resolve_right fun hbefore => hbefore.2 hu
      constructor
      · exact fun hmem => ⟨.inr (hi hmem), fun hc => hc.1 hmem⟩
      · exact fun ⟨_, hnot⟩ => by_contra fun hc => hnot ⟨hc, hu⟩
    · have hafter := (h p).resolve_left fun hboth => hu hboth.2
      have hkept : ¬ (p ∈ after ∧ Uninstalled operations p) := fun hc => hu hc.2
      have hnever : ¬ (p ∉ after ∧ Uninstalled operations p) := fun hc => hu hc.2
      rw [and_iff_left hnever, and_iff_left hkept, hafter, and_iff_left hu, or_comm]

/-- With one operation more, whose plugins are as it would have them, the other plugins must
    be as they were. -/
theorem serializes_cons_iff (h : Serializes operations before after)
    (hinstalls : ∀ p, Installs p operation → p ∈ after')
    (huninstalls : ∀ p, Uninstalls p operation → p ∉ after') :
    Serializes (operation :: operations) before after' ↔
      ∀ p, Installs p operation ∨ Uninstalls p operation ∨
        Installed operations p ∧ Uninstalled operations p ∨ (p ∈ after' ↔ p ∈ after) := by
  rw [serializes_iff] at h ⊢
  refine forall_congr' fun p => ?_
  rw [installed_cons, uninstalled_cons]
  by_cases hi : Installs p operation
  · -- installed by the operation itself
    exact iff_of_true (.inr (iff_of_true (hinstalls p hi) (.inl (.inl hi)))) (.inl hi)
  · by_cases hu : Uninstalls p operation
    · refine iff_of_true ?_ (.inr (.inl hu))
      by_cases hold : Installed operations p
      · exact .inl ⟨.inr hold, .inl hu⟩
      · refine .inr (iff_of_false (huninstalls p hu) ?_)
        rintro ((hnew | hnew) | ⟨_, hnot⟩)
        · exact hi hnew
        · exact hold hnew
        · exact hnot (.inl hu)
    · rw [or_iff_right hi, or_iff_right hu, or_iff_right hi, or_iff_right hu]
      rcases h p with hboth | hafter
      · exact iff_of_true (.inl hboth) (.inl hboth)
      · rw [hafter]

/-! ## One step -/

/-- The plugins that a call is about to store. -/
def Phase.held : Phase → Option (List String)
  | .lookingUp pluginIds => some pluginIds
  | .updating pluginIds _ => some pluginIds
  | .saving pluginIds => some pluginIds
  | _ => none

/-- The plugins are as the operation would have them. -/
def Settled (operation : Operation) (plugins : List String) : Prop :=
  (∀ p, Installs p operation → p ∈ plugins) ∧ ∀ p, Uninstalls p operation → p ∉ plugins

/-- What a call is about to store has what it was asked for. -/
def Prepared (c : Call) : Prop :=
  ∀ pluginIds, c.phase.held = some pluginIds → Settled c.operation pluginIds

/-- The invariant: what was done can be put in an order, and what is about to be stored is
    prepared. -/
structure Inv (db : Map String (List String)) (s : Server) : Prop where
  serial : Serial db s
  prepared : ∀ c ∈ s.calls, Prepared c

/-- What an operation makes of some plugins is as the operation would have it. -/
theorem settled_doUpdate (operation : Operation) (plugins : List String) :
    Settled operation (doUpdate operation plugins).2 := by
  refine ⟨fun p hp => (mem_doUpdate operation).mpr (.inl hp), fun p hp hmem => ?_⟩
  rcases (mem_doUpdate operation).mp hmem with hinstalls | ⟨_, hnot⟩
  · cases operation with
    | installUserPlugins params => exact hp
    | uninstallUserPlugin params => exact hinstalls
  · exact hnot hp

/-- Storing what is a set already. -/
theorem mem_getUserPlugins_insert (userId : String) (pluginIds : List String) :
    p ∈ getUserPlugins (db.insert userId pluginIds) userId ↔ p ∈ pluginIds := by
  unfold getUserPlugins
  rw [AList.lookup_insert]
  dsimp only
  rw [mem_foldl_add, or_iff_right List.not_mem_nil]

theorem getUserPlugins_insert_of_ne {userId userId' : String} (pluginIds : List String)
    (h : userId' ≠ userId) :
    getUserPlugins (db.insert userId pluginIds) userId' = getUserPlugins db userId' := by
  unfold getUserPlugins
  rw [AList.lookup_insert_ne h]

theorem completedOf_eq_nil {c : Call} (userId : String) (h : ∀ result, c.phase ≠ .done result) :
    c.completedOf userId = [] := by
  unfold Call.completedOf
  split
  · next result hphase => exact absurd hphase (h result)
  · rfl

/-- A call goes on, and does not complete. -/
theorem completed_goOn {i : Nat} {c : Call} {phase : Phase} (hi : s.calls[i]? = some c)
    (hc : ∀ result, c.phase ≠ .done result) (hphase : ∀ result, phase ≠ .done result)
    (userId : String) : completed (goOn s i c phase) userId = completed s userId :=
  flatMap_set_of_eq hi
    ((completedOf_eq_nil userId hphase).trans (completedOf_eq_nil userId hc).symm)

theorem completed_goOn_done {i : Nat} {c : Call} {result : Bool} (hi : s.calls[i]? = some c)
    (hc : ∀ result, c.phase ≠ .done result) (userId : String) :
    (completed (goOn s i c (.done result)) userId).Perm
      ((if c.userId = userId then [c.operation] else []) ++ completed s userId) := by
  refine flatMap_set_perm_append hi ?_
  rw [completedOf_eq_nil userId hc, List.append_nil]
  rfl

/-- What a step does. Only a call that has come to `saving` changes the plugins. -/
inductive Effect (s : Server) : Action → Server → Prop
  | requested (userId : String) (operation : Operation) :
      Effect s (.request userId operation)
        { s with calls := s.calls ++ [⟨userId, operation, begin operation⟩] }
  | wentOn (a : Action) (i : Nat) (c : Call) (phase : Phase) (hi : s.calls[i]? = some c)
      (hc : ∀ result, c.phase ≠ .done result) (hphase : ∀ result, phase ≠ .done result)
      (hheld : ∀ pluginIds, phase.held = some pluginIds → Settled c.operation pluginIds)
      (hagrees : Agrees s a) : Effect s a (goOn s i c phase)
  | unchanged (i : Nat) (userId : String) (operation : Operation)
      (hi : s.calls[i]? = some ⟨userId, operation, .loading⟩)
      (hsettled : Settled operation (getUserPlugins s.db userId)) :
      Effect s (.next i) (goOn s i ⟨userId, operation, .loading⟩ (.done false))
  | stored (i : Nat) (userId : String) (operation : Operation) (pluginIds : List String)
      (hi : s.calls[i]? = some ⟨userId, operation, .saving pluginIds⟩)
      (hsettled : Settled operation pluginIds) :
      Effect s (.next i)
        { goOn s i ⟨userId, operation, .saving pluginIds⟩ (.done true) with
          db := s.db.insert userId pluginIds }

/-- A step that stores nothing agrees with what there is. -/
theorem agrees_of_not_saving {i : Nat} {c : Call} (hi : s.calls[i]? = some c)
    (hc : ∀ pluginIds, c.phase ≠ .saving pluginIds) : Agrees s (.next i) := by
  unfold Agrees
  dsimp only
  rw [hi]
  split
  · next userId operation pluginIds heq =>
      exact absurd (congrArg Call.phase (Option.some.inj heq)) (hc pluginIds)
  · trivial

theorem effect_of_next {i : Nat} {c : Call} (hc : Prepared c) (hi : s.calls[i]? = some c)
    (h : next finds s i c = some s') : Effect s (.next i) s' := by
  cases c with
  | mk userId operation phase =>
      unfold next at h
      cases phase with
      | loading =>
          dsimp only at h
          split at h
          · next pluginIds heq =>
              rw [← Option.some.inj h]
              refine .wentOn _ i _ _ hi nofun nofun (fun held hheld => ?_)
                (agrees_of_not_saving hi nofun)
              -- The list in hand has the operation applied to what was stored by then.
              have hsettled := settled_doUpdate operation (getUserPlugins s.db userId)
              rw [heq] at hsettled
              rw [← Option.some.inj hheld]
              exact hsettled
          · next pluginIds heq =>
              rw [← Option.some.inj h]
              exact .unchanged i userId operation hi (doUpdate_eq_false (congrArg Prod.fst heq))
      | lookingUp pluginIds =>
          dsimp only at h
          split at h
          · rw [← Option.some.inj h]
            exact .wentOn _ i _ _ hi nofun nofun hc (agrees_of_not_saving hi nofun)
          · rw [← Option.some.inj h]
            exact .wentOn _ i _ _ hi nofun nofun hc (agrees_of_not_saving hi nofun)
      | updating pluginIds resource =>
          dsimp only at h
          split_ifs at h with hfinds
          · rw [← Option.some.inj h]
            exact .wentOn _ i _ _ hi nofun nofun hc (agrees_of_not_saving hi nofun)
          · rw [← Option.some.inj h]
            exact .wentOn _ i _ _ hi nofun nofun nofun (agrees_of_not_saving hi nofun)
      | saving pluginIds =>
          rw [← Option.some.inj h]
          exact .stored i userId operation pluginIds hi (hc pluginIds rfl)
      | done result => exact absurd h nofun
      | failed => exact absurd h nofun

/-- The inversion lemma for all steps. -/
theorem effect_of_step (hs : ∀ c ∈ s.calls, Prepared c) (h : step finds s a = some s') :
    Effect s a s' := by
  cases a with
  | request userId operation =>
      rw [step, Option.some.injEq] at h
      rw [← h]
      exact .requested userId operation
  | next i =>
      rw [step] at h
      split at h
      · next c hi => exact effect_of_next (hs c (List.mem_of_getElem? hi)) hi h
      · exact absurd h nofun
  | throw i =>
      rw [step] at h
      split at h
      · next c hi =>
          split at h
          · exact absurd h nofun
          · exact absurd h nofun
          · next hdone hfailed =>
              rw [← Option.some.inj h]
              exact .wentOn _ i c _ hi hdone nofun nofun trivial
      · exact absurd h nofun

/-- An operation that has nothing to do completes. -/
theorem serializes_unchanged {userId : String} (hs : Serial db s)
    (hsettled : Settled operation (getUserPlugins s.db userId)) :
    Serializes (operation :: completed s userId) (getUserPlugins db userId)
      (getUserPlugins s.db userId) :=
  (serializes_cons_iff (hs userId) hsettled.1 hsettled.2).mpr fun _ => .inr (.inr (.inr Iff.rfl))

theorem settled_of_begin {result : Bool} (h : begin operation = .done result) :
    Settled operation plugins := by
  unfold begin at h
  split at h
  · exact ⟨fun _ hp => absurd hp List.not_mem_nil, fun _ hp => absurd hp id⟩
  · exact absurd h nofun

theorem prepared_begin (userId : String) (operation : Operation) :
    Prepared ⟨userId, operation, begin operation⟩ := by
  intro pluginIds hheld
  dsimp only at hheld
  unfold begin at hheld
  split at hheld <;> exact absurd hheld nofun

theorem serial_requested (hs : Serial db s) (userId : String) (operation : Operation) :
    Serial db { s with calls := s.calls ++ [⟨userId, operation, begin operation⟩] } := by
  intro userId'
  have hcompleted : completed { s with calls := s.calls ++ [⟨userId, operation, begin operation⟩] }
      userId' = completed s userId' ++
        Call.completedOf userId' ⟨userId, operation, begin operation⟩ := by
    unfold completed
    rw [List.flatMap_append, List.flatMap_singleton]
  rw [hcompleted]
  unfold Call.completedOf
  split
  · next result hphase =>
      split_ifs with huser
      · refine (serializes_perm List.perm_append_comm).mpr ?_
        exact serializes_unchanged hs (settled_of_begin hphase)
      · rw [List.append_nil]
        exact hs userId'
  · rw [List.append_nil]
    exact hs userId'

theorem serial_unchanged {i : Nat} {userId : String} (hs : Serial db s)
    (hi : s.calls[i]? = some ⟨userId, operation, .loading⟩)
    (hsettled : Settled operation (getUserPlugins s.db userId)) :
    Serial db (goOn s i ⟨userId, operation, .loading⟩ (.done false)) := by
  intro userId'
  refine (serializes_perm (completed_goOn_done hi nofun userId')).mpr ?_
  split_ifs with huser
  · rw [← (show userId = userId' from huser)]
    exact serializes_unchanged hs hsettled
  · exact hs userId'

/-- The other users are not concerned. -/
theorem serial_stored_iff {i : Nat} {userId : String} {pluginIds : List String}
    (hs : Serial db s) (hi : s.calls[i]? = some ⟨userId, operation, .saving pluginIds⟩)
    (hsettled : Settled operation pluginIds) :
    Serial db { goOn s i ⟨userId, operation, .saving pluginIds⟩ (.done true) with
        db := s.db.insert userId pluginIds } ↔ Agrees s (.next i) := by
  have hself : Serializes (operation :: completed s userId) (getUserPlugins db userId)
      (getUserPlugins (s.db.insert userId pluginIds) userId) ↔ Agrees s (.next i) := by
    rw [serializes_cons_iff (hs userId)
      (fun p hp => (mem_getUserPlugins_insert userId pluginIds).mpr (hsettled.1 p hp))
      (fun p hp hmem =>
        hsettled.2 p hp ((mem_getUserPlugins_insert userId pluginIds).mp hmem))]
    unfold Agrees
    dsimp only
    rw [hi]
    simp only [mem_getUserPlugins_insert]
  rw [← hself]
  constructor
  · intro h
    have huser := (serializes_perm (completed_goOn_done hi nofun userId)).mp (h userId)
    rw [if_pos rfl] at huser
    exact huser
  · intro h userId'
    refine (serializes_perm (completed_goOn_done hi nofun userId')).mpr ?_
    split_ifs with huser
    · rw [← (show userId = userId' from huser)]
      exact h
    · dsimp only
      rw [getUserPlugins_insert_of_ne pluginIds (Ne.symm huser)]
      exact hs userId'

/-- A step keeps an order possible exactly if what it stores agrees. -/
theorem serial_iff_of_step (hs : Inv db s) (h : step finds s a = some s') :
    Serial db s' ↔ Agrees s a := by
  cases effect_of_step hs.prepared h with
  | requested userId operation =>
      exact iff_of_true (serial_requested hs.serial userId operation) trivial
  | wentOn _ i c phase hi hc hphase hheld hagrees =>
      refine iff_of_true (fun userId => ?_) hagrees
      rw [completed_goOn hi hc hphase]
      exact hs.serial userId
  | unchanged i userId operation hi hsettled =>
      exact iff_of_true (serial_unchanged hs.serial hi hsettled) (agrees_of_not_saving hi nofun)
  | stored i userId operation pluginIds hi hsettled =>
      exact serial_stored_iff hs.serial hi hsettled

/-- The step lemma of the invariant. -/
theorem inv_step (hs : Inv db s) (h : step finds s a = some s') (hserial : Serial db s') :
    Inv db s' := by
  refine ⟨hserial, ?_⟩
  cases effect_of_step hs.prepared h with
  | requested userId operation =>
      intro c hc
      rcases List.mem_append.mp hc with hold | hnew
      · exact hs.prepared c hold
      · rw [List.mem_singleton.mp hnew]
        exact prepared_begin userId operation
  | wentOn _ i c phase hi hc hphase hheld hagrees => exact forall_mem_set hs.prepared hheld
  | unchanged i userId operation hi hsettled => exact forall_mem_set hs.prepared nofun
  | stored i userId operation pluginIds hi hsettled => exact forall_mem_set hs.prepared nofun

theorem inv_newServer (db : Map String (List String)) : Inv db (newServer db) where
  serial userId := serializes_iff.mpr fun p => by
    have hi : ¬ Installed [] p := fun h => absurd h.choose_spec.1 List.not_mem_nil
    have hu : ¬ Uninstalled [] p := fun h => absurd h.choose_spec.1 List.not_mem_nil
    exact .inr ⟨fun hp => .inr ⟨hp, hu⟩, fun h => (h.resolve_left hi).1⟩
  prepared _ hmem := absurd hmem List.not_mem_nil

/-- The runs in which the plugins are always those that the completed operations have made of
    them are those in which nothing is stored over plugins that were changed meanwhile. It does
    not matter who was first to read, only that whoever writes has read what is there. -/
theorem serial_iff (finds : List String → List String → Bool) (db : Map String (List String))
    (as : List Action) :
    StepsAlong (step finds) (fun _ _ s' => Serial db s') as (newServer db) ↔
      MeetsAlong (step finds) Agrees as (newServer db) :=
  stepsAlong_iff_meetsAlong_while (fun _ _ _ hs h hserial => inv_step hs h hserial)
    (fun _ _ _ hs h => serial_iff_of_step hs h) as _ (inv_newServer db)

/-- Ada's plugins, of which `vim` is installed by one operation and `go` by another one that
    had read them before. -/
theorem lost_install : ∃ t, runActions (step fun resource row => resource = row)
      [.request "ada" (.installUserPlugins ⟨["go"]⟩), .next 0,
        .request "ada" (.installUserPlugins ⟨["vim"]⟩), .next 1, .next 1, .next 1, .next 1,
        .next 0, .next 0, .next 0]
      (newServer ((∅ : Map String (List String)).insert "ada" ["rust"])) = some t ∧
    (∀ c ∈ t.calls, c.phase = .done true) ∧ getUserPlugins t.db "ada" = ["rust", "go"] ∧
    ¬ Serial ((∅ : Map String (List String)).insert "ada" ["rust"]) t := by
  refine ⟨_, rfl, fun c hc => ?_, rfl, fun hserial => ?_⟩
  · rcases List.mem_cons.mp hc with rfl | hc
    · rfl
    · rw [List.mem_singleton.mp hc]
  · exact absurd (serializes_iff.mp (hserial "ada") "vim") (by decide)

end Plugins

end UserStore

end Nxpod
