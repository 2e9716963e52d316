import Nxpod.WsManager.Objects
import Nxpod.WsManager.Stop

/-!
# Dangling Services

From time to time ws-manager deletes the services whose workspace is gone. It goes through the
endpoints, which have the names of their services. Those that have a ready address are left alone,
and so are those for whose workspace there is a pod, or may be one. A deletion that fails is
reported, and the next one is tried.

The addresses of endpoints are in subsets. The loop over the subsets sets a flag for each of them,
so that the last one decides whether there is a ready address.

What the API server answers may be different in every round. In a dry run a deletion that would
have been tried is logged instead.

## Main definitions

* `Subset`: The ready addresses of a subset.
* `Endpoints`: What is read of endpoints.
* `EndpointsList`: The names of the endpoints in a namespace are different.
* `Answers`: What the API server answers in one round: the pods with a label, and the error of a
  deletion.
* `Event`: What a run does that can be seen from outside.
* `deleteDanglingServices`: The source's function.
* `Protected`: A service that is to be left alone.
* `Sweeps`: What is deleted, and what is not.
* `Mistaken`: The endpoints with a wrong result.

## Theorems

* `hasReadyEndpoint_iff`: The last subset decides.
* `deleteService_mem_round_iff`: What one round deletes.
* `mem_sweep_iff`: All rounds are made.
* `sweeps_iff`: When the right services are deleted.
-/

namespace Nxpod

namespace WsManager

namespace Dangling

open Stop (KubeError isKubernetesObjNotFoundError)
open Objects (Pod)

/-! ## The rounds -/

/-- The ready addresses of a subset. -/
structure Subset where
  addresses : List String

/-- What is read of endpoints. They have the name of their service. -/
structure Endpoints where
  name : String
  labels : Map String String
  subsets : List Subset

/-- The names of the endpoints in a namespace are different. -/
structure EndpointsList where
  items : List Endpoints
  nodup : (items.map Endpoints.name).Nodup

/-- What the API server answers in one round: the pods with a label, and the error of a deletion. -/
structure Answers where
  pods : String → Except KubeError (List Pod)
  deletion : String → Option KubeError

/-- What a run does that can be seen from outside. -/
inductive Event
  | deleteService (name : String)
  | onError (message : String)
  | dryRun (workspaceID name : String)
  | deleted (workspaceID name : String)
  deriving DecidableEq

/-- The workspace the service is for. -/
def workspaceIDLabel : String := "workspaceID"

/-- The flag is set anew for each subset, so that the last one decides. -/
def hasReadyEndpoint (subsets : List Subset) : Bool :=
  subsets.foldl (fun _ s => 0 < s.addresses.length) false

/-- How the pods of a workspace are asked for. -/
def labelSelector (workspaceID : String) : String := s!"workspaceID={workspaceID}"

/-- The one pod of a workspace. That there is none is an error of the same kind as that of the
    API server. -/
def findWorkspacePod (answers : Answers) (workspaceID : String) : Except KubeError Pod :=
  match answers.pods (labelSelector workspaceID) with
  | .error err => .error err
  | .ok [] => .error ⟨true, s!"pod for workspace {workspaceID} not found"⟩
  | .ok [pod] => .ok pod
  | .ok pods =>
      .error ⟨false, s!"found {pods.length} candidates for workspace {workspaceID}"⟩

/-- The error, if there is one. -/
def errorOf {α : Type} : Except KubeError α → Option KubeError
  | .error err => some err
  | .ok _ => none

/-- What is done with one of the endpoints. -/
def round (dryRun : Bool) (answers : Answers) (e : Endpoints) : List Event :=
  if hasReadyEndpoint e.subsets then []
  else match e.labels.lookup workspaceIDLabel with
    | none => [.onError s!"service endpoint {e.name} does not have {workspaceIDLabel} label"]
    | some workspaceID =>
        if !isKubernetesObjNotFoundError (errorOf (findWorkspacePod answers workspaceID)) then []
        else if dryRun then [.dryRun workspaceID e.name]
        else .deleteService e.name :: match answers.deletion e.name with
          | some err => [.onError s!"deleteDanglingServices: {err.text}"]
          | none => [.deleted workspaceID e.name]

/-- The loop, from the round `i` on. -/
def sweep (dryRun : Bool) (cluster : Nat → Answers) : Nat → List Endpoints → List Event
  | _, [] => []
  | i, e :: es => round dryRun (cluster i) e ++ sweep dryRun cluster (i + 1) es

/-- What is done, and the error that is returned. -/
def deleteDanglingServices (dryRun : Bool) (endpoints : Except String EndpointsList)
    (cluster : Nat → Answers) : List Event × Option String :=
  match endpoints with
  | .error err => ([], some s!"deleteDanglingServices: {err}")
  | .ok endpoints => (sweep dryRun cluster 0 endpoints.items, none)

/-! ## What is to be deleted -/

/-- There is somewhere an address that is ready. -/
def Ready (e : Endpoints) : Prop :=
  ∃ s ∈ e.subsets, s.addresses ≠ []

/-- There is a ready address, or a pod, or it is not known whether there is a pod. -/
def Protected (answers : Answers) (e : Endpoints) : Prop :=
  Ready e ∨ ∃ workspaceID, e.labels.lookup workspaceIDLabel = some workspaceID ∧
    answers.pods (labelSelector workspaceID) ≠ .ok []

/-- What a run is to do: leave alone what may be in use, and try to delete the rest. -/
structure Sweeps (dryRun : Bool) (endpoints : EndpointsList) (cluster : Nat → Answers) :
    Prop where
  spares : ∀ i e, endpoints.items[i]? = some e → Protected (cluster i) e →
    .deleteService e.name ∉ (deleteDanglingServices dryRun (.ok endpoints) cluster).1
  tries : ∀ i e workspaceID, endpoints.items[i]? = some e →
    e.labels.lookup workspaceIDLabel = some workspaceID → ¬Protected (cluster i) e →
    (if dryRun then .dryRun workspaceID e.name else .deleteService e.name) ∈
      (deleteDanglingServices dryRun (.ok endpoints) cluster).1

/-- The last subset has no ready address, and the pod of the workspace is said not to be there. But
    another subset has one, or it was the listing of the pods that was not found. -/
def Mistaken (answers : Answers) (e : Endpoints) : Prop :=
  (∀ s, e.subsets.getLast? = some s → s.addresses = []) ∧
    ∃ workspaceID, e.labels.lookup workspaceIDLabel = some workspaceID ∧
      ((answers.pods (labelSelector workspaceID) = .ok [] ∧ Ready e) ∨
        ∃ err, answers.pods (labelSelector workspaceID) = .error err ∧ err.notFound = true)

/-! ## One round -/

section Round

variable {dryRun : Bool} {answers : Answers} {e : Endpoints} {workspaceID : String}

/-- The last subset decides. -/
theorem hasReadyEndpoint_iff (subsets : List Subset) : hasReadyEndpoint subsets = true ↔
    ∃ s, subsets.getLast? = some s ∧ s.addresses ≠ [] := by
  induction subsets using List.reverseRecOn with
  | nil => exact iff_of_false nofun fun ⟨_, h, _⟩ => nomatch h
  | append_singleton subsets s _ =>
      rw [hasReadyEndpoint, List.foldl_concat, List.getLast?_concat, decide_eq_true_iff,
        List.length_pos_iff]
      constructor
      · exact fun h => ⟨s, rfl, h⟩
      · rintro ⟨_, heq, h⟩
        cases heq
        exact h

theorem hasReadyEndpoint_eq_false_iff (subsets : List Subset) : hasReadyEndpoint subsets = false ↔
    ∀ s, subsets.getLast? = some s → s.addresses = [] := by
  rw [← Bool.not_eq_true, hasReadyEndpoint_iff]
  push Not
  rfl

/-- The pod is said not to be there. -/
theorem isNotFound_findWorkspacePod_iff :
    isKubernetesObjNotFoundError (errorOf (findWorkspacePod answers workspaceID)) = true ↔
      answers.pods (labelSelector workspaceID) = .ok [] ∨
        ∃ err, answers.pods (labelSelector workspaceID) = .error err ∧ err.notFound = true := by
  unfold findWorkspacePod
  split
  · rename_i err heq
    rw [heq]
    constructor
    · exact fun h => Or.inr ⟨err, rfl, h⟩
    · rintro (h | ⟨_, h, hfound⟩)
      · exact nomatch h
      · cases h
        exact hfound
  · rename_i heq
    exact iff_of_true rfl (Or.inl heq)
  · rename_i pod heq
    rw [heq]
    refine iff_of_false nofun ?_
    rintro (h | ⟨_, h, -⟩)
    · exact nomatch h
    · exact nomatch h
  · rename_i pods hnil hone heq
    rw [heq]
    refine iff_of_false nofun ?_
    rintro (h | ⟨_, h, -⟩)
    · exact hnil (Except.ok.inj h)
    · exact nomatch h

/-- The service is one that a round tries to delete. -/
def Dangles (answers : Answers) (e : Endpoints) (workspaceID : String) : Prop :=
  hasReadyEndpoint e.subsets = false ∧ e.labels.lookup workspaceIDLabel = some workspaceID ∧
    isKubernetesObjNotFoundError (errorOf (findWorkspacePod answers workspaceID)) = true

theorem round_of_dangles (h : Dangles answers e workspaceID) :
    (if dryRun then .dryRun workspaceID e.name else .deleteService e.name) ∈
      round dryRun answers e := by
  rcases h with ⟨hready, hlabel, hfound⟩
  unfold round
  rw [hready, hlabel, if_neg Bool.false_ne_true]
  dsimp only
  rw [hfound, if_neg (by decide)]
  split_ifs
  · exact List.mem_singleton_self _
  · exact List.mem_cons_self

theorem dangles_of_mem_round {name : String} (h : .deleteService name ∈ round dryRun answers e) :
    name = e.name ∧ dryRun = false ∧ ∃ workspaceID, Dangles answers e workspaceID := by
  unfold round at h
  by_cases hready : hasReadyEndpoint e.subsets = true
  · rw [if_pos hready] at h
    exact absurd h List.not_mem_nil
  rw [if_neg hready] at h
  cases hlabel : e.labels.lookup workspaceIDLabel with
  | none =>
      rw [hlabel] at h
      exact nomatch List.mem_singleton.mp h
  | some workspaceID =>
      rw [hlabel] at h
      dsimp only at h
      split_ifs at h with hfound hdry
      · exact absurd h List.not_mem_nil
      · exact nomatch List.mem_singleton.mp h
      · rw [Bool.not_eq_true] at hready hfound hdry
        rw [Bool.not_eq_false'] at hfound
        rcases List.mem_cons.mp h with heq | hmem
        · exact ⟨Event.deleteService.inj heq, hdry, workspaceID, hready, hlabel, hfound⟩
        · split at hmem <;> exact nomatch List.mem_singleton.mp hmem

/-- A service that is to be left alone and that a round tries to delete is a mistake. -/
theorem mistaken_iff : Mistaken answers e ↔
    Protected answers e ∧ ∃ workspaceID, Dangles answers e workspaceID := by
  unfold Mistaken Dangles
  rw [← hasReadyEndpoint_eq_false_iff]
  simp only [isNotFound_findWorkspacePod_iff]
  constructor
  · rintro ⟨hready, workspaceID, hlabel, ⟨hpods, hr⟩ | ⟨err, hpods, herr⟩⟩
    · exact ⟨Or.inl hr, workspaceID, hready, hlabel, Or.inl hpods⟩
    · refine ⟨Or.inr ⟨workspaceID, hlabel, ?_⟩, workspaceID, hready, hlabel,
        Or.inr ⟨err, hpods, herr⟩⟩
      rw [hpods]
      exact nofun
  · rintro ⟨hprotected, workspaceID, hready, hlabel, hpods | hpods⟩
    · refine ⟨hready, workspaceID, hlabel, Or.inl ⟨hpods, ?_⟩⟩
      rcases hprotected with hr | ⟨other, hother, hne⟩
      · exact hr
      · cases hlabel.symm.trans hother
        exact absurd hpods hne
    · exact ⟨hready, workspaceID, hlabel, Or.inr hpods⟩

/-- A service that is not to be left alone is one that a round tries to delete. -/
theorem dangles_of_not_protected (hlabel : e.labels.lookup workspaceIDLabel = some workspaceID)
    (h : ¬Protected answers e) : Dangles answers e workspaceID := by
  unfold Protected Ready at h
  push Not at h
  rcases h with ⟨hready, hpods⟩
  refine ⟨?_, hlabel, isNotFound_findWorkspacePod_iff.mpr (Or.inl (hpods workspaceID hlabel))⟩
  rw [hasReadyEndpoint_eq_false_iff]
  exact fun s hs => hready s (List.mem_of_getLast? hs)

end Round

/-! ## All rounds -/

section Rounds

variable {dryRun : Bool} {endpoints : EndpointsList} {cluster : Nat → Answers}

/-- All rounds are made, whatever happens in one of them. -/
theorem mem_sweep_iff {es : List Endpoints} {i : Nat} {event : Event} :
    event ∈ sweep dryRun cluster i es ↔
      ∃ j e, es[j]? = some e ∧ event ∈ round dryRun (cluster (i + j)) e := by
  induction es generalizing i with
  | nil => exact iff_of_false List.not_mem_nil fun ⟨_, _, h, _⟩ => nomatch h
  | cons e es ih =>
      rw [sweep, List.mem_append, ih]
      constructor
      · rintro (h | ⟨j, e', hj, h⟩)
        · exact ⟨0, e, rfl, h⟩
        · refine ⟨j + 1, e', hj, ?_⟩
          rw [← Nat.add_assoc, Nat.add_right_comm]
          exact h
      · rintro ⟨j, e', hj, h⟩
        cases j with
        | zero =>
            cases hj
            exact Or.inl h
        | succ j =>
            refine Or.inr ⟨j, e', hj, ?_⟩
            rw [Nat.add_right_comm, Nat.add_assoc]
            exact h

/-- The rounds do not depend on each other, so an error in one of them does not end the run. -/
theorem mem_deleteDanglingServices_iff {event : Event} :
    event ∈ (deleteDanglingServices dryRun (.ok endpoints) cluster).1 ↔
      ∃ i e, endpoints.items[i]? = some e ∧ event ∈ round dryRun (cluster i) e := by
  unfold deleteDanglingServices
  rw [mem_sweep_iff]
  simp only [Nat.zero_add]

/-- The endpoints with a name are those of one round. -/
theorem index_unique {i j : Nat} {e e' : Endpoints} (hi : endpoints.items[i]? = some e)
    (hj : endpoints.items[j]? = some e') (hname : e.name = e'.name) : i = j := by
  have hi' : (endpoints.items.map Endpoints.name)[i]? = some e.name := by
    rw [List.getElem?_map, hi]
    rfl
  have hj' : (endpoints.items.map Endpoints.name)[j]? = some e.name := by
    rw [List.getElem?_map, hj, hname]
    rfl
  have hlt := (List.getElem?_eq_some_iff.mp hi').1
  exact (List.getElem?_inj hlt endpoints.nodup).mp (hi'.trans hj'.symm)

/-- A deletion is tried in the round of its own endpoints. -/
theorem deleteService_mem_iff {i : Nat} {e : Endpoints} (hi : endpoints.items[i]? = some e) :
    .deleteService e.name ∈ (deleteDanglingServices dryRun (.ok endpoints) cluster).1 ↔
      dryRun = false ∧ ∃ workspaceID, Dangles (cluster i) e workspaceID := by
  rw [mem_deleteDanglingServices_iff]
  constructor
  · rintro ⟨j, e', hj, hmem⟩
    rcases dangles_of_mem_round hmem with ⟨hname, hdry, hdangles⟩
    obtain rfl := index_unique hi hj hname
    cases hi.symm.trans hj
    exact ⟨hdry, hdangles⟩
  · rintro ⟨rfl, workspaceID, hdangles⟩
    exact ⟨i, e, hi, round_of_dangles hdangles⟩

/-- The right services are deleted exactly if it is a dry run, or no endpoints are mistaken.
    They are mistaken if they are taken for unready because of their last subset, and then the
    listing of the pods is all that could still save the service of a workspace that runs. -/
theorem sweeps_iff (dryRun : Bool) (endpoints : EndpointsList) (cluster : Nat → Answers) :
    Sweeps dryRun endpoints cluster ↔
      dryRun = true ∨ ∀ i e, endpoints.items[i]? = some e → ¬Mistaken (cluster i) e := by
  constructor
  · intro h
    by_contra hno
    rw [not_or, Bool.not_eq_true] at hno
    refine hno.2 fun i e hi hmistaken => ?_
    rcases mistaken_iff.mp hmistaken with ⟨hprotected, hdangles⟩
    exact h.spares i e hi hprotected ((deleteService_mem_iff hi).mpr ⟨hno.1, hdangles⟩)
  · intro h
    refine ⟨fun i e hi hprotected hmem => ?_, fun i e workspaceID hi hlabel hnot => ?_⟩
    · rcases (deleteService_mem_iff hi).mp hmem with ⟨hdry, hdangles⟩
      rcases h with hdry' | hnone
      · exact absurd (hdry.symm.trans hdry') Bool.false_ne_true
      · exact hnone i e hi (mistaken_iff.mpr ⟨hprotected, hdangles⟩)
    · exact mem_deleteDanglingServices_iff.mpr
        ⟨i, e, hi, round_of_dangles (dangles_of_not_protected hlabel hnot)⟩

/-- Two subsets, of which the first one has a ready address. -/
def mixed : Endpoints where
  name := "ws-a-theia"
  labels := (∅ : Map String String).insert workspaceIDLabel "a"
  subsets := [⟨["10.0.0.1"]⟩, ⟨[]⟩]

/-- The ready address is overlooked. -/
theorem ready_service_deleted : ¬∀ dryRun endpoints cluster, Sweeps dryRun endpoints cluster := by
  intro h
  have hsweeps := h false ⟨[mixed], List.nodup_singleton _⟩
    fun _ => ⟨fun _ => .ok [], fun _ => none⟩
  have hready : Ready mixed := ⟨_, List.mem_cons_self, List.cons_ne_nil _ _⟩
  exact hsweeps.spares 0 mixed rfl (Or.inl hready) (by decide)

end Rounds

end Dangling

end WsManager

end Nxpod
