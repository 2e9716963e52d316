import Nxpod.Library.Regex
import Nxpod.Library.Text
import Nxpod.PortAuth.Naming

/-!
# Workspaces in Host Names

A request names its workspace in the host it is for, with a port or the word `webview` before it
and a suffix for the region behind it. The proxy reads the host with two regular expressions, the
one for ports first, and the server reads the same host with another one.

The proxy's expressions start at the beginning of the host and count the digits of the workspace
ID. The server's searches for five groups before the suffix, and any group before them is one too
many, so that only the first letter of the ID starts a match. This is where it matters that the ID
does not start with a digit.

## Main definitions

* `Uuid`, `generateWorkspaceId`: The IDs of workspaces.
* `HostSuffix`: A region's suffix.
* `Vars`: What the router found out about a request.
* `matchWorkspacePortHostHeader`, `matchWorkspaceHostHeader`, `hostBasedRouter`: The proxy.

## Theorems

* `idGroups_dashed`, `findWorkspaceId_skip`, `findWorkspaceId_uuid`: The server's search.
* `run_workspaceIDRegex`, `run_suffixRegex`: The parts of the proxy's expressions.
* `same_workspace`: Both find the same workspace.
-/

namespace Nxpod

namespace WsProxy

open PortAuth

/-! ## Workspace IDs -/

/-- `[0-9a-f]` -/
def isHexDigit (c : Char) : Bool := c.isDigit || (c.isLower && decide (c ≤ 'f'))

/-- Groups with dashes between them. -/
def dashed (groups : List (List Char)) : List Char := ['-'].intercalate groups

/-- Five groups of digits in the usual lengths. -/
structure Uuid where
  groups : List (List Char)
  lengths : groups.map List.length = [8, 4, 4, 4, 12]
  hex : ∀ g ∈ groups, ∀ c ∈ g, isHexDigit c = true

/-- The groups with dashes between them. -/
def Uuid.text (uuid : Uuid) : String := String.ofList (dashed uuid.groups)

/-- The first UUID that starts with no number. -/
def generateWorkspaceId : List Uuid → Option String
  | [] => none
  | uuid :: draws =>
      if (uuid.text.toList.head?.any Char.isDigit) = true then generateWorkspaceId draws
      else some uuid.text

/-! ## The proxy -/

/-- The characters of a host name. -/
def isHostChar (c : Char) : Bool := c.isAlphanum || c == '-' || c == '.'

/-- What follows the workspace in a host name. -/
structure HostSuffix where
  text : String
  start : ".ws".toList <+: text.toList
  chars : ∀ c ∈ text.toList, isHostChar c = true

open Regex

/-- The expression counts the digits of each group. -/
def workspaceIDRegex (i : Nat) : Regex :=
  group i (seq (times (char isHexDigit) 8) (seq (word ['-'])
    (seq (times (char isHexDigit) 4) (seq (word ['-'])
      (seq (times (char isHexDigit) 4) (seq (word ['-'])
        (seq (times (char isHexDigit) 4) (seq (word ['-'])
          (times (char isHexDigit) 12)))))))))

/-- A number and a dash. -/
def workspacePortRegex (i : Nat) : Regex :=
  seq (group i (plus (char Char.isDigit))) (word ['-'])

/-- The suffix is used as an expression, so each of its dots is any character. -/
def suffixRegex : List Char → Regex
  | [] => empty
  | c :: cs => seq (if c = '.' then char (· != '\n') else char (· == c)) (suffixRegex cs)

/-- `(webview-)?` -/
def webviewRegex : Regex := opt (group 1 (word "webview-".toList))

/-- What the router found out about a request. -/
structure Vars where
  workspaceID : String
  workspacePort : Option String
  deriving DecidableEq

/-- The text of a group, if it is not empty. -/
def submatch (caps : Captures) (i : Nat) : Option String :=
  match caps i with
  | none => none
  | some text => if text = [] then none else some (String.ofList text)

/-- The matcher for the IDE. -/
def matchWorkspaceHostHeader (wsHostSuffix hostname : String) : Option Vars :=
  if hostname = "" then none
  else match (seq webviewRegex (seq (workspaceIDRegex 2)
      (suffixRegex wsHostSuffix.toList))).runAt hostname.toList with
    | none => none
    | some (_, caps) => match submatch caps 2 with
      | none => none
      | some workspaceID => some ⟨workspaceID, none⟩

/-- The matcher for ports. -/
def matchWorkspacePortHostHeader (wsHostSuffix hostname : String) : Option Vars :=
  if hostname = "" then none
  else match (seq webviewRegex (seq (workspacePortRegex 2) (seq (workspaceIDRegex 3)
      (suffixRegex wsHostSuffix.toList)))).runAt hostname.toList with
    | none => none
    | some (_, caps) => match submatch caps 3 with
      | none => none
      | some workspaceID => match submatch caps 2 with
        | none => none
        | some workspacePort => some ⟨workspaceID, some workspacePort⟩

/-- The router for ports comes first. -/
def hostBasedRouter (wsHostSuffix hostname : String) : Option Vars :=
  (matchWorkspacePortHostHeader wsHostSuffix hostname).or
    (matchWorkspaceHostHeader wsHostSuffix hostname)

/-! ## Groups -/

theorem dashed_cons {g g' : List Char} {gs : List (List Char)} :
    dashed (g :: g' :: gs) = g ++ '-' :: dashed (g' :: gs) := by
  rw [dashed, List.intercalate_cons_cons, List.append_assoc]
  rfl

theorem dashed_singleton {g : List Char} : dashed [g] = g := List.intercalate_singleton

theorem isIdChar_of_isHexDigit {c : Char} (h : isHexDigit c = true) : isIdChar c = true := by
  unfold isHexDigit at h
  unfold isIdChar
  rw [Bool.or_eq_true] at h ⊢
  rw [Bool.and_eq_true] at h
  exact h.imp_right And.left

/-- A group of the server's expression. -/
def IsGroup (g : List Char) : Prop := g ≠ [] ∧ ∀ c ∈ g, isIdChar c = true

theorem Uuid.isGroup (uuid : Uuid) : ∀ g ∈ uuid.groups, IsGroup g := by
  intro g hg
  refine ⟨fun hnil => ?_, fun c hc => isIdChar_of_isHexDigit (uuid.hex g hg c hc)⟩
  have hmem : g.length ∈ uuid.groups.map List.length := List.mem_map_of_mem hg
  rw [uuid.lengths, hnil] at hmem
  exact absurd hmem (by decide)

theorem idGroup_append {g rest : List Char} (hg : IsGroup g)
    (hrest : ∀ c, rest.head? = some c → isIdChar c = false) :
    idGroup (g ++ rest) = some (g, rest) := by
  have htake : (g ++ rest).takeWhile isIdChar = g := by
    rw [List.takeWhile_append_of_pos hg.2]
    cases rest with
    | nil => rw [List.takeWhile_nil, List.append_nil]
    | cons c rest =>
        rw [List.takeWhile_cons_of_neg (by rw [hrest c rfl]; exact Bool.false_ne_true),
          List.append_nil]
  have hdrop : (g ++ rest).dropWhile isIdChar = rest := by
    rw [List.dropWhile_append_of_pos hg.2]
    cases rest with
    | nil => rfl
    | cons c rest =>
        rw [List.dropWhile_cons_of_neg (by rw [hrest c rfl]; exact Bool.false_ne_true)]
  rw [idGroup, htake, hdrop]
  cases g with
  | nil => exact absurd rfl hg.1
  | cons c g => rfl

theorem idGroups_dashed {g : List Char} {gs : List (List Char)} {rest : List Char}
    (hgs : ∀ g' ∈ g :: gs, IsGroup g')
    (hrest : ∀ c, rest.head? = some c → isIdChar c = false) :
    idGroups gs.length (dashed (g :: gs) ++ rest) = some (dashed (g :: gs), rest) := by
  induction gs generalizing g with
  | nil =>
      rw [dashed_singleton]
      exact idGroup_append (hgs g List.mem_cons_self) hrest
  | cons g' gs ih =>
      have hdash : ∀ c, ('-' :: (dashed (g' :: gs) ++ rest)).head? = some c →
          isIdChar c = false := by
        intro c hc
        rw [← Option.some.inj hc]
        rfl
      rw [dashed_cons, List.append_assoc, List.cons_append, List.length_cons, idGroups,
        idGroup_append (hgs g List.mem_cons_self) hdash]
      simp only [ih fun g'' hg'' => hgs g'' (List.mem_cons_of_mem _ hg'')]

/-! ## The server -/

/-- Two rows of groups are one, with a dash between them. -/
theorem dashed_append {gs gs' : List (List Char)} (hgs : gs ≠ []) (hgs' : gs' ≠ []) :
    dashed (gs ++ gs') = dashed gs ++ '-' :: dashed gs' := by
  induction gs with
  | nil => exact absurd rfl hgs
  | cons g gs ih =>
      cases gs with
      | nil =>
          cases gs' with
          | nil => exact absurd rfl hgs'
          | cons g' gs' => rw [List.singleton_append, dashed_cons, dashed_singleton]
      | cons g' gs =>
          rw [List.cons_append, List.cons_append, dashed_cons, dashed_cons, ← List.cons_append,
            ih (List.cons_ne_nil g' gs), List.append_assoc, List.cons_append]

theorem idGroups_dash (n : Nat) (cs : List Char) : idGroups n ('-' :: cs) = none := by
  have hgroup : idGroup ('-' :: cs) = none := by
    rw [idGroup, List.takeWhile_cons_of_neg (by decide)]
  cases n with
  | zero => exact hgroup
  | succ n => rw [idGroups, hgroup]

/-- No workspace ID starts in the first of more than five groups. -/
theorem workspaceIdHere_of_more {c : Char} {g rest : List Char} {gs gs' : List (List Char)}
    (hg : ∀ d ∈ g, isIdChar d = true) (hgs : ∀ g' ∈ gs, IsGroup g') (hlength : gs.length = 4)
    (hgs' : gs' ≠ []) :
    workspaceIdHere (c :: (g ++ '-' :: (dashed (gs ++ gs') ++ rest))) = none := by
  have hne : gs ≠ [] := by
    intro hnil
    rw [hnil] at hlength
    exact nomatch hlength
  rw [workspaceIdHere]
  by_cases hc : c.isLower = true
  · rw [if_pos hc]
    by_cases hnil : g = []
    · rw [hnil, List.nil_append, idGroups_dash]
    · have hall : ∀ g' ∈ g :: gs, IsGroup g' := by
        intro g' hg'
        rcases List.mem_cons.mp hg' with rfl | hg'
        · exact ⟨hnil, hg⟩
        · exact hgs g' hg'
      have hdash : ∀ d, ('-' :: (dashed gs' ++ rest)).head? = some d → isIdChar d = false := by
        intro d hd
        rw [← Option.some.inj hd]
        rfl
      -- four groups are read behind the first one, and then there is a dash
      have hread : g ++ '-' :: (dashed (gs ++ gs') ++ rest) =
          dashed (g :: gs) ++ '-' :: (dashed gs' ++ rest) := by
        have hcons : dashed (g :: gs) = g ++ '-' :: dashed gs := by
          rw [← List.singleton_append, dashed_append (List.cons_ne_nil g []) hne, dashed_singleton]
        rw [hcons, dashed_append hne hgs', List.append_assoc, List.append_assoc,
          List.cons_append, List.cons_append]
      have hgroups := idGroups_dashed hall hdash
      rw [hlength] at hgroups
      rw [hread, hgroups]
      rfl
  · rw [if_neg hc]

/-- What stands before five groups is skipped. -/
theorem findWorkspaceId_skip {w rest : List Char} {gs : List (List Char)}
    (hw : ∀ d ∈ w, isIdChar d = true) (hgs : ∀ g ∈ gs, IsGroup g) (hlength : 4 < gs.length) :
    findWorkspaceId (w ++ '-' :: (dashed gs ++ rest)) = findWorkspaceId (dashed gs ++ rest) := by
  induction w with
  | nil => rw [List.nil_append, findWorkspaceId, workspaceIdHere, if_neg (by decide)]
  | cons c w ih =>
      have hsplit : gs.take 4 ++ gs.drop 4 = gs := List.take_append_drop 4 gs
      have hrest : gs.drop 4 ≠ [] := by
        rw [ne_eq, List.drop_eq_nil_iff]
        exact Nat.not_le_of_lt hlength
      have hnone : workspaceIdHere
          (c :: (w ++ '-' :: (dashed (gs.take 4 ++ gs.drop 4) ++ rest))) = none :=
        workspaceIdHere_of_more (fun d hd => hw d (List.mem_cons_of_mem c hd))
          (fun g hg => hgs g (List.mem_of_mem_take hg))
          (List.length_take_of_le (Nat.le_of_lt hlength)) hrest
      rw [hsplit] at hnone
      rw [List.cons_append, findWorkspaceId, hnone]
      exact ih fun d hd => hw d (List.mem_cons_of_mem c hd)

/-- The five groups of a UUID. -/
theorem Uuid.exists_groups (uuid : Uuid) : ∃ a b c d e, uuid.groups = [a, b, c, d, e] ∧
    a.length = 8 ∧ b.length = 4 ∧ c.length = 4 ∧ d.length = 4 ∧ e.length = 12 := by
  rcases uuid with ⟨groups, hlengths, -⟩
  rcases groups with _ | ⟨a, _ | ⟨b, _ | ⟨c, _ | ⟨d, _ | ⟨e, _ | ⟨f, gs⟩⟩⟩⟩⟩⟩
  case cons.cons.cons.cons.cons.nil =>
    simp only [List.map_cons, List.map_nil, List.cons.injEq, and_true] at hlengths
    exact ⟨a, b, c, d, e, rfl, hlengths⟩
  all_goals
    simp only [List.map_cons, List.map_nil, List.cons.injEq, reduceCtorEq, and_false] at hlengths

/-- The first group of a UUID and its first character. -/
theorem Uuid.exists_first (uuid : Uuid) :
    ∃ c g gs, uuid.groups = (c :: g) :: gs ∧ g ≠ [] ∧ gs.length = 4 := by
  rcases uuid.exists_groups with ⟨a, b, c, d, e, hgroups, ha, -⟩
  rcases List.exists_cons_of_length_eq_add_one ha with ⟨first, g, rfl⟩
  refine ⟨first, g, [b, c, d, e], hgroups, fun hnil => ?_, rfl⟩
  rw [hnil, List.length_singleton] at ha
  exact absurd ha (by decide)

/-- The text of a UUID begins with a hexadecimal digit. -/
theorem Uuid.exists_cons (uuid : Uuid) :
    ∃ c cs, dashed uuid.groups = c :: cs ∧ isHexDigit c = true := by
  rcases uuid.exists_first with ⟨c, g, gs, hgroups, -, -⟩
  refine ⟨c, dashed (g :: gs), ?_, ?_⟩
  · rw [hgroups]
    exact List.intercalate_cons_cons_left
  · exact uuid.hex (c :: g) (by rw [hgroups]; exact List.mem_cons_self) c List.mem_cons_self

theorem Uuid.dashed_ne_nil (uuid : Uuid) : dashed uuid.groups ≠ [] := by
  rcases uuid.exists_cons with ⟨c, cs, hcons, -⟩
  rw [hcons]
  exact List.cons_ne_nil c cs

/-- The search finds a workspace ID that starts with a letter. -/
theorem findWorkspaceId_uuid {uuid : Uuid} {rest : List Char}
    (hfirst : (dashed uuid.groups).head?.any Char.isDigit = false) :
    findWorkspaceId (dashed uuid.groups ++ '.' :: 'w' :: 's' :: rest) =
      some (dashed uuid.groups) := by
  have hisGroup := uuid.isGroup
  have hhex := uuid.hex
  rcases uuid.exists_first with ⟨c, g, gs, hgroups, hg, hlength⟩
  have hcons : dashed uuid.groups = c :: dashed (g :: gs) := by
    rw [hgroups]
    exact List.intercalate_cons_cons_left
  rw [hgroups] at hisGroup hhex
  have hlower : c.isLower = true := by
    have hc := hhex _ List.mem_cons_self c List.mem_cons_self
    rw [hcons, List.head?_cons, Option.any_some] at hfirst
    rw [isHexDigit, hfirst, Bool.false_or, Bool.and_eq_true] at hc
    exact hc.1
  have hrest : ∀ g' ∈ g :: gs, IsGroup g' := by
    intro g' hg'
    rcases List.mem_cons.mp hg' with rfl | hg'
    · exact ⟨hg, fun d hd => (hisGroup _ List.mem_cons_self).2 d (List.mem_cons_of_mem c hd)⟩
    · exact hisGroup g' (List.mem_cons_of_mem _ hg')
  have hdot : ∀ d, ('.' :: 'w' :: 's' :: rest).head? = some d → isIdChar d = false := by
    intro d hd
    rw [← Option.some.inj hd]
    rfl
  have hread := idGroups_dashed hrest hdot
  rw [hlength] at hread
  rw [hcons, List.cons_append, findWorkspaceId, workspaceIdHere, if_pos hlower, hread]
  rfl

/-! ## The expressions -/

variable {β : Type*} {k : Continuation β} {caps : Captures}

/-- A group of hexadecimal digits of one length and the dash behind it. -/
theorem run_hexGroup {g : List Char} {n : Nat} (hg : ∀ c ∈ g, isHexDigit c = true)
    (hn : g.length = n) (r : Regex) (rest : List Char) :
    run (seq (times (char isHexDigit) n) (seq (word ['-']) r)) k (g ++ '-' :: rest) caps =
      run r k rest caps := by
  rw [run_seq, run_times hg hn, run_seq]
  exact run_word ['-'] rest

theorem run_workspaceIDRegex (i : Nat) (uuid : Uuid) (rest : List Char) :
    run (workspaceIDRegex i) k (dashed uuid.groups ++ rest) caps =
      k rest (caps.set i (dashed uuid.groups)) := by
  rcases uuid.exists_groups with ⟨a, b, c, d, e, hgroups, ha, hb, hc, hd, he⟩
  have hhex := uuid.hex
  simp only [hgroups, List.forall_mem_cons] at hhex
  rcases hhex with ⟨ha', hb', hc', hd', he', -⟩
  refine run_group_append fun k => ?_
  simp only [hgroups, dashed_cons, dashed_singleton, List.append_assoc, List.cons_append]
  rw [run_hexGroup ha' ha, run_hexGroup hb' hb, run_hexGroup hc' hc, run_hexGroup hd' hd,
    run_times he' he]

theorem run_suffixRegex (suffix : HostSuffix) (rest : List Char) :
    run (suffixRegex suffix.text.toList) k (suffix.text.toList ++ rest) caps = k rest caps := by
  have hrun : ∀ cs : List Char, (∀ c ∈ cs, isHostChar c = true) →
      run (suffixRegex cs) k (cs ++ rest) caps = k rest caps := by
    intro cs hcs
    induction cs with
    | nil => rfl
    | cons c cs ih =>
        rw [suffixRegex, run_seq, List.cons_append]
        have hrest := ih fun d hd => hcs d (List.mem_cons_of_mem c hd)
        by_cases hdot : c = '.'
        · rw [if_pos hdot, hdot, run_char_cons, if_pos (by decide)]
          exact hrest
        · rw [if_neg hdot, run_char_cons, if_pos (beq_self_eq_true c)]
          exact hrest
  exact hrun _ suffix.chars

/-- The word `webview` is tried first, and taken back if nothing comes of it. -/
theorem run_webviewRegex (cs : List Char) :
    run webviewRegex k ("webview-".toList ++ cs) caps =
      (k cs ((caps.forget [1]).set 1 "webview-".toList)).or (k ("webview-".toList ++ cs) caps) := by
  have hshorter : cs.length < ("webview-".toList ++ cs).length := by
    rw [List.length_append]
    exact Nat.lt_add_of_pos_left (by decide)
  rw [webviewRegex, run_opt, run_group_append fun k => run_word _ cs, if_pos hshorter]
  rfl

theorem run_webviewRegex_of_not_prefix {cs : List Char} (h : ¬ "webview-".toList <+: cs) :
    run webviewRegex k cs caps = k cs caps := by
  rw [webviewRegex, run_opt, run_group, run_word_of_not_prefix h, Option.none_or]

theorem not_prefix_of_head? {w cs : List Char} {c d : Char} (hw : w.head? = some c)
    (hcs : cs.head? = some d) (hne : d ≠ c) : ¬ w <+: cs := by
  rintro ⟨rest, rfl⟩
  rw [List.head?_append, hw] at hcs
  exact hne (Option.some.inj hcs).symm

/-- What follows the digits is no digit. -/
theorem run_digits (i : Nat) (cs : List Char) :
    run (workspacePortRegex i) k cs caps =
      if cs.takeWhile Char.isDigit = [] then none
      else run (word ['-']) k (cs.dropWhile Char.isDigit) (caps.set i
        (cs.take (cs.length - (cs.dropWhile Char.isDigit).length))) := by
  rw [workspacePortRegex, run_seq, run_group]
  refine run_plus fun c cs caps hc => ?_
  refine run_word_of_not_prefix (not_prefix_of_head? rfl rfl fun heq => ?_)
  rw [heq] at hc
  exact absurd hc (by decide)

theorem run_workspacePortRegex {digits : List Char} (hne : digits ≠ [])
    (hdigits : ∀ c ∈ digits, c.isDigit = true) (i : Nat) (rest : List Char) :
    run (workspacePortRegex i) k (digits ++ '-' :: rest) caps = k rest (caps.set i digits) := by
  have htake : (digits ++ '-' :: rest).takeWhile Char.isDigit = digits := by
    rw [List.takeWhile_append_of_pos hdigits, List.takeWhile_cons_of_neg (by decide),
      List.append_nil]
  have hdrop : (digits ++ '-' :: rest).dropWhile Char.isDigit = '-' :: rest := by
    rw [List.dropWhile_append_of_pos hdigits, List.dropWhile_cons_of_neg (by decide)]
  rw [run_digits, htake, if_neg hne, hdrop, List.length_append, Nat.add_sub_cancel,
    List.take_left]
  exact run_word ['-'] rest

theorem run_workspacePortRegex_of_not_digit {cs : List Char}
    (h : cs.head?.any Char.isDigit = false) (i : Nat) :
    run (workspacePortRegex i) k cs caps = none := by
  rw [run_digits, if_pos]
  cases cs with
  | nil => rfl
  | cons c cs =>
      rw [List.head?_cons, Option.any_some] at h
      rw [List.takeWhile_cons_of_neg (by rw [h]; exact Bool.false_ne_true)]

/-- What is left after the parts before the workspace ID. -/
theorem run_idAndSuffix (i : Nat) (uuid : Uuid) (suffix : HostSuffix) :
    run (seq (workspaceIDRegex i) (suffixRegex suffix.text.toList))
      (fun rest caps => some (rest, caps)) (dashed uuid.groups ++ suffix.text.toList) caps =
        some ([], caps.set i (dashed uuid.groups)) := by
  have hsuffix : run (suffixRegex suffix.text.toList) (fun rest caps => some (rest, caps))
      (suffix.text.toList ++ []) (caps.set i (dashed uuid.groups)) =
        some ([], caps.set i (dashed uuid.groups)) := run_suffixRegex suffix []
  rw [List.append_nil] at hsuffix
  rw [run_seq, run_workspaceIDRegex, hsuffix]

/-! ## Routing -/

theorem submatch_set {caps : Captures} {i : Nat} {text : List Char} (h : text ≠ []) :
    submatch (caps.set i text) i = some (String.ofList text) := by
  simp only [submatch, Captures.set, if_true, if_neg h]

theorem submatch_set_of_ne {caps : Captures} {i j : Nat} {text : List Char} (h : j ≠ i) :
    submatch (caps.set i text) j = submatch caps j := by
  simp only [submatch, Captures.set, if_neg h]

/-- The IDs that are generated do not start with a number. -/
theorem exists_uuid_of_generate {draws : List Uuid} {id : String}
    (h : generateWorkspaceId draws = some id) :
    ∃ uuid : Uuid, id = uuid.text ∧ (dashed uuid.groups).head?.any Char.isDigit = false := by
  induction draws with
  | nil => exact nomatch h
  | cons uuid draws ih =>
      rw [generateWorkspaceId] at h
      by_cases hdigit : (uuid.text.toList.head?.any Char.isDigit) = true
      · rw [if_pos hdigit] at h
        exact ih h
      · rw [if_neg hdigit] at h
        rw [Uuid.text, String.toList_ofList, Bool.not_eq_true] at hdigit
        exact ⟨uuid, (Option.some.inj h).symm, hdigit⟩

section

variable {suffix : HostSuffix} {hostname : String} {cs : List Char} {caps : Captures}

/-- What the expression for ports finds. -/
theorem matchWorkspacePortHostHeader_eq (hhost : hostname.toList = cs) (hne : cs ≠ [])
    {id port : List Char} (hid : id ≠ []) (hport : port ≠ [])
    (hrun : (seq webviewRegex (seq (workspacePortRegex 2) (seq (workspaceIDRegex 3)
      (suffixRegex suffix.text.toList)))).runAt cs = some ([], (caps.set 2 port).set 3 id)) :
    matchWorkspacePortHostHeader suffix.text hostname =
      some ⟨String.ofList id, some (String.ofList port)⟩ := by
  have hnonempty : hostname ≠ "" := fun heq => hne (by rw [← hhost, heq]; rfl)
  rw [matchWorkspacePortHostHeader, if_neg hnonempty, hhost, hrun]
  simp only [submatch_set hid, submatch_set_of_ne (by decide : 2 ≠ 3), submatch_set hport]

/-- What the expression for workspaces finds where the one for ports finds nothing. -/
theorem hostBasedRouter_eq (hhost : hostname.toList = cs) (hne : cs ≠ []) {id : List Char}
    (hid : id ≠ [])
    (hports : (seq webviewRegex (seq (workspacePortRegex 2) (seq (workspaceIDRegex 3)
      (suffixRegex suffix.text.toList)))).runAt cs = none)
    (hrun : (seq webviewRegex (seq (workspaceIDRegex 2)
      (suffixRegex suffix.text.toList))).runAt cs = some ([], caps.set 2 id)) :
    hostBasedRouter suffix.text hostname = some ⟨String.ofList id, none⟩ := by
  have hnonempty : hostname ≠ "" := fun heq => hne (by rw [← hhost, heq]; rfl)
  rw [hostBasedRouter, matchWorkspacePortHostHeader, if_neg hnonempty, hhost, hports,
    matchWorkspaceHostHeader, if_neg hnonempty, hhost, hrun]
  simp only [submatch_set hid, Option.none_or]

end

/-- The server and the proxy find the same in a host name. -/
def Agree (suffix : HostSuffix) (hostname id : String) (port : Option String) : Prop :=
  parseWorkspaceIdFromHostname hostname = some id ∧
    hostBasedRouter suffix.text hostname = some ⟨id, port⟩

section

variable {uuid : Uuid} {suffix : HostSuffix} {hostname : String} {w cs : List Char}

/-- The word `webview` that may stand before a workspace, or nothing. -/
def IsWebview (w : List Char) : Prop := w = [] ∨ w = "webview-".toList

/-- The word may be taken or not, and what counts is the rest. -/
theorem run_webview_some {f : Captures → β} (hw : IsWebview w) (hcs : ¬ "webview-".toList <+: cs)
    (h : ∀ caps, k cs caps = some (f caps)) :
    ∃ caps', run webviewRegex k (w ++ cs) caps = some (f caps') := by
  rcases hw with rfl | rfl
  · exact ⟨caps, by rw [List.nil_append, run_webviewRegex_of_not_prefix hcs, h]⟩
  · exact ⟨(caps.forget [1]).set 1 "webview-".toList, by rw [run_webviewRegex, h, Option.some_or]⟩

theorem run_webview_none (hw : IsWebview w) (hcs : ¬ "webview-".toList <+: cs)
    (h : ∀ caps, k cs caps = none) (h' : ∀ caps, k ("webview-".toList ++ cs) caps = none) :
    run webviewRegex k (w ++ cs) caps = none := by
  rcases hw with rfl | rfl
  · rw [List.nil_append, run_webviewRegex_of_not_prefix hcs, h]
  · rw [run_webviewRegex, h, h', Option.none_or]

theorem exists_head (hletter : (dashed uuid.groups).head?.any Char.isDigit = false)
    (rest : List Char) :
    ∃ c, (dashed uuid.groups ++ rest).head? = some c ∧ c.isDigit = false ∧ c ≠ 'w' := by
  rcases uuid.exists_cons with ⟨c, cs, hcons, hhex⟩
  rw [hcons] at hletter ⊢
  refine ⟨c, rfl, hletter, fun hw => ?_⟩
  rw [hw] at hhex
  exact absurd hhex (by decide)

/-- The server, where it skips what stands before the workspace ID. -/
theorem parse_eq (hletter : (dashed uuid.groups).head?.any Char.isDigit = false)
    (hskip : ∀ rest, findWorkspaceId (cs ++ (dashed uuid.groups ++ rest)) =
      findWorkspaceId (dashed uuid.groups ++ rest))
    (hhost : hostname.toList = cs ++ (dashed uuid.groups ++ suffix.text.toList)) :
    parseWorkspaceIdFromHostname hostname = some uuid.text := by
  rcases suffix.start with ⟨rest, hrest⟩
  have hsuffix : suffix.text.toList = '.' :: 'w' :: 's' :: rest := hrest.symm
  rw [parseWorkspaceIdFromHostname, hhost, hskip, hsuffix, findWorkspaceId_uuid hletter]
  rfl

/-- The server's search passes over the word and what belongs to it. -/
theorem skip_webview {gs : List (List Char)} (hw : IsWebview w) (hgs : ∀ g ∈ gs, IsGroup g)
    (hlength : 4 < gs.length) (rest : List Char) :
    findWorkspaceId (w ++ (dashed gs ++ rest)) = findWorkspaceId (dashed gs ++ rest) := by
  rcases hw with rfl | rfl
  · rfl
  · have hword : "webview-".toList = ['w', 'e', 'b', 'v', 'i', 'e', 'w'] ++ ['-'] := rfl
    rw [hword, List.append_assoc]
    exact findWorkspaceId_skip (List.all_eq_true.mp rfl) hgs hlength

theorem Uuid.length_groups (uuid : Uuid) : uuid.groups.length = 5 := by
  rcases uuid.exists_groups with ⟨a, b, c, d, e, hgroups, -⟩
  rw [hgroups]
  rfl

/-- Hosts without a port. -/
theorem agree_workspace (hletter : (dashed uuid.groups).head?.any Char.isDigit = false)
    (hw : IsWebview w)
    (hhost : hostname.toList = w ++ (dashed uuid.groups ++ suffix.text.toList)) :
    Agree suffix hostname uuid.text none := by
  have hlength : 4 < uuid.groups.length := Nat.lt_of_lt_of_eq (by decide) uuid.length_groups.symm
  refine ⟨parse_eq hletter (skip_webview hw uuid.isGroup hlength) hhost, ?_⟩
  rcases exists_head hletter suffix.text.toList with ⟨c, hhead, hdigit, hne⟩
  have hprefix : ¬ "webview-".toList <+: dashed uuid.groups ++ suffix.text.toList :=
    not_prefix_of_head? rfl hhead hne
  have hne : w ++ (dashed uuid.groups ++ suffix.text.toList) ≠ [] := fun hnil =>
    uuid.dashed_ne_nil (List.append_eq_nil_iff.mp (List.append_eq_nil_iff.mp hnil).2).1
  have hparts : ∀ caps, run (seq (workspaceIDRegex 2) (suffixRegex suffix.text.toList))
      (fun rest caps => some (rest, caps)) (dashed uuid.groups ++ suffix.text.toList) caps =
        some ([], caps.set 2 (dashed uuid.groups)) := fun _ => run_idAndSuffix 2 uuid suffix
  rcases run_webview_some hw hprefix hparts with ⟨caps, hrun⟩
  refine hostBasedRouter_eq hhost hne uuid.dashed_ne_nil ?_ hrun
  rw [runAt, run_seq]
  refine run_webview_none hw hprefix (fun caps => ?_) fun caps => ?_
  · rw [run_seq]
    refine run_workspacePortRegex_of_not_digit ?_ 2
    rw [hhead]
    exact hdigit
  · rw [run_seq]
    exact run_workspacePortRegex_of_not_digit rfl 2

theorem isDigit_of_mem_toString {n : Nat} {c : Char} (h : c ∈ (toString n).toList) :
    c.isDigit = true := by
  by_contra hdigit
  exact Text.digits_ne n c (Bool.not_eq_true _ ▸ hdigit) h

theorem toList_toString_ne_nil (n : Nat) : (toString n).toList ≠ [] := by
  rw [Nat.toString_eq_repr, Nat.repr, String.toList_ofList]
  exact Nat.toDigits_ne_nil

/-- Hosts with a port. -/
theorem agree_port (hletter : (dashed uuid.groups).head?.any Char.isDigit = false)
    (hw : IsWebview w) (port : Nat) (hhost : hostname.toList =
      w ++ ((toString port).toList ++ '-' :: (dashed uuid.groups ++ suffix.text.toList))) :
    Agree suffix hostname uuid.text (some (toString port)) := by
  have hdigits : ∀ c ∈ (toString port).toList, c.isDigit = true :=
    fun c => isDigit_of_mem_toString
  have hne := toList_toString_ne_nil port
  have hisGroup : ∀ g ∈ (toString port).toList :: uuid.groups, IsGroup g := by
    intro g hg
    rcases List.mem_cons.mp hg with rfl | hg
    · exact ⟨hne, fun c hc => by rw [isIdChar, hdigits c hc, Bool.true_or]⟩
    · exact uuid.isGroup g hg
  have hlength : uuid.groups.length = 5 := uuid.length_groups
  constructor
  · have hhost' : hostname.toList = (w ++ ((toString port).toList ++ ['-'])) ++
        (dashed uuid.groups ++ suffix.text.toList) := by
      rw [hhost, List.append_assoc, List.append_assoc]
      rfl
    refine parse_eq hletter (fun rest => ?_) hhost'
    -- the port is one more group, before which `webview` is skipped, and is skipped itself
    have hport : dashed ((toString port).toList :: uuid.groups) =
        (toString port).toList ++ '-' :: dashed uuid.groups := by
      have hgroups : uuid.groups ≠ [] := fun hnil => by rw [hnil] at hlength; cases hlength
      rw [← List.singleton_append, dashed_append (List.cons_ne_nil _ []) hgroups,
        dashed_singleton]
    have hskip := skip_webview hw hisGroup (by rw [List.length_cons, hlength]; decide) rest
    rw [hport, List.append_assoc] at hskip
    rw [List.append_assoc, List.append_assoc]
    refine hskip.trans (findWorkspaceId_skip (hisGroup _ List.mem_cons_self).2 uuid.isGroup ?_)
    rw [hlength]
    decide
  · rcases List.exists_cons_of_ne_nil hne with ⟨c, digits, hcons⟩
    have hc : c.isDigit = true := hdigits c (hcons ▸ List.mem_cons_self)
    have hprefix : ¬ "webview-".toList <+: (toString port).toList ++
        '-' :: (dashed uuid.groups ++ suffix.text.toList) := by
      refine not_prefix_of_head? rfl (by rw [hcons]; rfl) fun hw => ?_
      rw [hw] at hc
      exact absurd hc (by decide)
    have hparts : ∀ caps, run (seq (workspacePortRegex 2) (seq (workspaceIDRegex 3)
        (suffixRegex suffix.text.toList))) (fun rest caps => some (rest, caps))
        ((toString port).toList ++ '-' :: (dashed uuid.groups ++ suffix.text.toList)) caps =
          some ([], (caps.set 2 (toString port).toList).set 3 (dashed uuid.groups)) := by
      intro caps
      rw [run_seq, run_workspacePortRegex hne hdigits, run_idAndSuffix]
    rcases run_webview_some hw hprefix hparts with ⟨caps, hrun⟩
    have hnonempty : w ++ ((toString port).toList ++
        '-' :: (dashed uuid.groups ++ suffix.text.toList)) ≠ [] := fun hnil =>
      hne (List.append_eq_nil_iff.mp (List.append_eq_nil_iff.mp hnil).2).1
    rw [hostBasedRouter, matchWorkspacePortHostHeader_eq hhost hnonempty uuid.dashed_ne_nil
      hne hrun, Option.some_or, String.ofList_toList]
    rfl

/-- Whatever workspace ID is generated, the server and the proxy agree on it, and the proxy
    finds the port. Both read the ID off the host name with expressions of their own, in two
    languages. Were they to differ, a cookie for one workspace would be looked for under the
    name of another. -/
theorem same_workspace (draws : List Uuid) (id : String)
    (h : generateWorkspaceId draws = some id) (suffix : HostSuffix) (port : Nat) :
    Agree suffix (id ++ suffix.text) id none ∧
      Agree suffix (toString port ++ "-" ++ id ++ suffix.text) id (some (toString port)) ∧
      Agree suffix ("webview-" ++ id ++ suffix.text) id none ∧
      Agree suffix ("webview-" ++ toString port ++ "-" ++ id ++ suffix.text) id
        (some (toString port)) := by
  rcases exists_uuid_of_generate h with ⟨uuid, rfl, hletter⟩
  have hid : uuid.text.toList = dashed uuid.groups := String.toList_ofList
  have hdash : ∀ s t : String, (s ++ "-" ++ t).toList = s.toList ++ '-' :: t.toList := by
    intro s t
    rw [String.toList_append, String.toList_append, List.append_assoc]
    rfl
  refine ⟨agree_workspace hletter (Or.inl rfl) ?_, agree_port hletter (Or.inl rfl) port ?_,
    agree_workspace hletter (Or.inr rfl) ?_, agree_port hletter (Or.inr rfl) port ?_⟩
  · rw [String.toList_append, hid]
    rfl
  · rw [String.toList_append, hdash, hid, List.append_assoc]
    rfl
  · rw [String.toList_append, String.toList_append, hid, List.append_assoc]
  · rw [String.toList_append, hdash, String.toList_append, hid, List.append_assoc,
      List.append_assoc]
    rfl

end

/-- The workspace ID of the source's documentation. -/
def documentedUuid : Uuid where
  groups := ["b7e0eaf8".toList, "ec73".toList, "44ec".toList, "81ea".toList, "04859263b656".toList]
  lengths := rfl
  hex := fun g hg c hc => by
    have hall : ["b7e0eaf8".toList, "ec73".toList, "44ec".toList, "81ea".toList,
        "04859263b656".toList].all (fun g => g.all isHexDigit) = true := rfl
    exact List.all_eq_true.mp (List.all_eq_true.mp hall g hg) c hc

/-- The suffix of the example in the source. -/
def documentedSuffix : HostSuffix where
  text := ".ws-eu01.nxpod.khulnasoft.com"
  start := ⟨"-eu01.nxpod.khulnasoft.com".toList, rfl⟩
  chars := List.all_eq_true.mp rfl

theorem same_workspace_documented :
    Agree documentedSuffix (toString 1234 ++ "-" ++ documentedUuid.text ++ documentedSuffix.text)
      documentedUuid.text (some (toString 1234)) :=
  (same_workspace [documentedUuid] _ rfl documentedSuffix 1234).2.1

end WsProxy

end Nxpod
