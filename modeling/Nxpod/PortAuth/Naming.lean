import Mathlib.Data.List.TakeWhile

/-!
# Workspace Names

How a workspace is named in a host name and in a cookie. Both functions are
regular expressions in the source, over characters that are letters and
digits of ASCII; nothing else counts as one there.

In the expression for a workspace ID every group of letters and digits is
followed by a character outside the group, so a match from a given start is
determined and backtracking never helps. What remains of the search is to try
every start from left to right.

## Main definitions

* `parseWorkspaceIdFromHostname`: The workspace ID in a host name.
* `worspacePortAuthCookieName`: The name of the port authorization cookie of a
  workspace, spelled as in the source.

## Theorems

* `parseWorkspaceIdFromHostname_chars`: A workspace ID consists of lower case
  letters, digits and dashes.
-/

namespace Nxpod

namespace PortAuth

/-- `[0-9a-z]` -/
def isIdChar (c : Char) : Bool := c.isDigit || c.isLower

/-- `[0-9a-z]+` and what follows it. -/
def idGroup (cs : List Char) : Option (List Char × List Char) :=
  match cs.takeWhile isIdChar with
  | [] => none
  | group => some (group, cs.dropWhile isIdChar)

/-- `([0-9a-z]+\-){n}[0-9a-z]+` and what follows it. -/
def idGroups : Nat → List Char → Option (List Char × List Char)
  | 0, cs => idGroup cs
  | n + 1, cs => match idGroup cs with
    | some (group, '-' :: rest) => match idGroups n rest with
      | some (groups, rest) => some (group ++ '-' :: groups, rest)
      | none => none
    | _ => none

/-- The workspace ID that starts here, if `.ws` follows it. -/
def workspaceIdHere : List Char → Option (List Char)
  | [] => none
  | c :: cs =>
    if c.isLower then
      match idGroups 4 cs with
      | some (groups, '.' :: 'w' :: 's' :: _) => some (c :: groups)
      | _ => none
    else none

/-- The leftmost workspace ID. -/
def findWorkspaceId : List Char → Option (List Char)
  | [] => none
  | c :: cs => match workspaceIdHere (c :: cs) with
    | some id => some id
    | none => findWorkspaceId cs

/-- The workspace a host name is about, if it has the form of one. -/
def parseWorkspaceIdFromHostname (hostname : String) : Option String :=
  (findWorkspaceId hostname.toList).map String.ofList

example : parseWorkspaceIdFromHostname
    "webview-1234-b7e0eaf8-ec73-44ec-81ea-04859263b656.ws-eu01.nxpod.khulnasoft.com" =
      some "b7e0eaf8-ec73-44ec-81ea-04859263b656" := by decide +kernel

/-- `replace(/https?/, '')`: the first occurrence is removed. -/
def removeScheme : List Char → List Char
  | 'h' :: 't' :: 't' :: 'p' :: 's' :: cs => cs
  | 'h' :: 't' :: 't' :: 'p' :: cs => cs
  | c :: cs => c :: removeScheme cs
  | [] => []

/-- `replace(/[\W_]+/g, "_")`: every run of other characters than letters and
    digits becomes one underscore. The flag says that a run has begun. -/
def collapseRuns : Bool → List Char → List Char
  | _, [] => []
  | inRun, c :: cs =>
    if c.isAlphanum then c :: collapseRuns false cs
    else if inRun then collapseRuns true cs
    else '_' :: collapseRuns true cs

/-- The name of the cookie for the ports of a workspace. The name is spelled so
    in the source. -/
def worspacePortAuthCookieName (host workspaceId : String) : String :=
  String.ofList (collapseRuns false (removeScheme host.toList)) ++
    "_ws_" ++ workspaceId ++ "_port_auth_"

theorem idGroup_chars {cs group rest : List Char} (h : idGroup cs = some (group, rest)) :
    ∀ c ∈ group, isIdChar c = true := by
  intro c hc
  unfold idGroup at h
  split at h
  · exact absurd h (by simp only [reduceCtorEq, not_false_eq_true])
  · rw [Option.some.injEq, Prod.mk.injEq] at h
    rw [← h.1] at hc
    exact List.mem_takeWhile_imp hc

theorem idGroups_chars (n : Nat) {cs groups rest : List Char}
    (h : idGroups n cs = some (groups, rest)) :
    ∀ c ∈ groups, isIdChar c = true ∨ c = '-' := by
  induction n generalizing cs groups rest with
  | zero =>
      intro c hc
      exact Or.inl (idGroup_chars h c hc)
  | succ n ih =>
      simp only [idGroups] at h
      split at h
      · rename_i group tail hgroup
        split at h
        · rename_i groups' tail' hgroups
          rw [Option.some.injEq, Prod.mk.injEq] at h
          intro c hc
          rw [← h.1] at hc
          -- the first group, the dash behind it, or the groups after that
          rcases List.mem_append.mp hc with hfirst | hrest
          · exact Or.inl (idGroup_chars hgroup c hfirst)
          · rcases List.mem_cons.mp hrest with hdash | hlater
            · exact Or.inr hdash
            · exact ih hgroups c hlater
        · exact absurd h (by simp only [reduceCtorEq, not_false_eq_true])
      · exact absurd h (by simp only [reduceCtorEq, not_false_eq_true])

theorem workspaceIdHere_chars {cs id : List Char} (h : workspaceIdHere cs = some id) :
    ∀ c ∈ id, isIdChar c = true ∨ c = '-' := by
  unfold workspaceIdHere at h
  split at h
  · exact absurd h (by simp only [reduceCtorEq, not_false_eq_true])
  · rename_i first tail
    split_ifs at h with hlower
    split at h
    · rename_i groups _ hgroups
      rw [Option.some.injEq] at h
      intro c hc
      rw [← h] at hc
      rcases List.mem_cons.mp hc with hfirst | hlater
      · exact Or.inl (by rw [isIdChar, hfirst, hlower, Bool.or_true])
      · exact idGroups_chars 4 hgroups c hlater
    · exact absurd h (by simp only [reduceCtorEq, not_false_eq_true])

theorem findWorkspaceId_chars {cs id : List Char} (h : findWorkspaceId cs = some id) :
    ∀ c ∈ id, isIdChar c = true ∨ c = '-' := by
  induction cs with
  | nil => exact absurd h (by simp only [findWorkspaceId, reduceCtorEq, not_false_eq_true])
  | cons c cs ih =>
      simp only [findWorkspaceId] at h
      split at h
      · rename_i id' hhere
        rw [Option.some.injEq] at h
        exact workspaceIdHere_chars (h ▸ hhere)
      · exact ih h

/-- A workspace ID consists of lower case letters, digits and dashes. -/
theorem parseWorkspaceIdFromHostname_chars {hostname id : String}
    (h : parseWorkspaceIdFromHostname hostname = some id) :
    ∀ c ∈ id.toList, isIdChar c = true ∨ c = '-' := by
  unfold parseWorkspaceIdFromHostname at h
  rcases Option.map_eq_some_iff.mp h with ⟨cs, hcs, hid⟩
  rw [← hid, String.toList_ofList]
  exact findWorkspaceId_chars hcs

end PortAuth

end Nxpod
