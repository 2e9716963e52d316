import Nxpod.WsProxy.Cors

/-!
# Hosts of Workspaces

Which hosts the two matchers of the proxy take, whatever the host and whatever the suffix of the
installation. Both expressions begin with the host, and what they extract are its parts. But they
do not end with the host, and the suffix is an expression, in which a dot is any character.

No host is taken by both of them: behind a port there are eight digits up to the next dash, and
behind the first part of an ID there are four.

## Main definitions

* `WorkspaceSuffix`: The suffix of the installation.
* `HostParts`: What is before the suffix.
* `Ends`: What should be behind the parts.
* `Exact`: The matchers take the hosts they should.
* `SuffixLike`: What the expression of a suffix takes.

## Theorems

* `run_workspaceIDRegex_some`, `run_workspacePortRegex_some`, `run_suffixRegex_iff`: What the parts
  of the expressions take.
* `matchWorkspaceHostHeader_iff`, `matchWorkspacePortHostHeader_iff`: What the matchers take.
* `parts_unique`: There is only one way to read a host.
* `exact_iff`: When a host is treated as it should be.
-/

namespace Nxpod

namespace WsProxy

open Regex

/-! ## Hosts -/

/-- A suffix is used as an expression, but has only the characters of host names. -/
structure WorkspaceSuffix where
  text : String
  ne : text ≠ ""
  chars : ∀ c ∈ text.toList, isHostChar c = true

/-- The beginning of a host, with a port if it is one for ports. -/
structure HostParts where
  webview : List Char
  port : Option (List Char)
  uuid : Uuid
  isWebview : IsWebview webview
  isPort : ∀ digits, port = some digits → digits ≠ [] ∧ ∀ c ∈ digits, c.isDigit = true

/-- A port is followed by a dash. -/
def portText : Option (List Char) → List Char
  | none => []
  | some digits => digits ++ ['-']

/-- The parts one behind the other, as they stand in a host. -/
def HostParts.text (parts : HostParts) : List Char :=
  parts.webview ++ (portText parts.port ++ dashed parts.uuid.groups)

/-- What is to be extracted of them. -/
def HostParts.vars (parts : HostParts) : Vars :=
  ⟨parts.uuid.text, parts.port.map String.ofList⟩

/-- The suffix, and then only the matcher for workspaces takes a port behind a colon. -/
def Ends (suffix : WorkspaceSuffix) (parts : HostParts) (behind : List Char) : Prop :=
  ∃ rest, behind = suffix.text.toList ++ rest ∧ IsPort rest ∧ (parts.port ≠ none → rest = [])

/-- The host consists of these parts and of the suffix, with a port where there may be one. -/
def IsHost (suffix : WorkspaceSuffix) (parts : HostParts) (hostname : String) : Prop :=
  ∃ behind, hostname.toList = parts.text ++ behind ∧ Ends suffix parts behind

/-- The matchers take the hosts they should, and find out their parts. -/
structure Exact (suffix : WorkspaceSuffix) (hostname : String) : Prop where
  workspace : ∀ vars, matchWorkspaceHostHeader suffix.text hostname = some vars ↔
    ∃ parts : HostParts, parts.port = none ∧ IsHost suffix parts hostname ∧ vars = parts.vars
  port : ∀ vars, matchWorkspacePortHostHeader suffix.text hostname = some vars ↔
    ∃ parts : HostParts, parts.port ≠ none ∧ IsHost suffix parts hostname ∧ vars = parts.vars
  disjoint : matchWorkspaceHostHeader suffix.text hostname = none ∨
    matchWorkspacePortHostHeader suffix.text hostname = none

/-- A dot takes any character, and every other character itself. -/
def Takes (c d : Char) : Prop := c = d ∨ c = '.' ∧ d ≠ '\n'

/-- The text begins with the suffix, but with any characters instead of its dots. -/
def SuffixLike (suffix : WorkspaceSuffix) (cs : List Char) : Prop :=
  ∃ s rest, cs = s ++ rest ∧ List.Forall₂ Takes suffix.text.toList s

/-! ## The expressions -/

variable {β : Type*} {k : Continuation β} {cs : List Char} {caps : Captures} {b : β}

/-- A group and the dash behind it were taken. -/
theorem run_hexGroup_some {n : Nat} {r : Regex}
    (h : run (seq (times (char isHexDigit) n) (seq (word ['-']) r)) k cs caps = some b) :
    ∃ g rest, cs = g ++ '-' :: rest ∧ g.length = n ∧ (∀ c ∈ g, isHexDigit c = true) ∧
      run r k rest caps = some b := by
  rw [run_seq] at h
  rcases run_times_some h with ⟨g, rest, rfl, hn, hg, hrest⟩
  rw [run_seq] at hrest
  rcases run_word_some hrest with ⟨rest', rfl, hk⟩
  exact ⟨g, rest', rfl, hn, hg, hk⟩

theorem run_workspaceIDRegex_some {i : Nat} (h : run (workspaceIDRegex i) k cs caps = some b) :
    ∃ (uuid : Uuid) (rest : List Char), cs = dashed uuid.groups ++ rest ∧
      k rest (caps.set i (dashed uuid.groups)) = some b := by
  rw [workspaceIDRegex, run_group] at h
  rcases run_hexGroup_some h with ⟨g₁, rest₁, hcs, hn₁, hg₁, h₁⟩
  rcases run_hexGroup_some h₁ with ⟨g₂, rest₂, rfl, hn₂, hg₂, h₂⟩
  rcases run_hexGroup_some h₂ with ⟨g₃, rest₃, rfl, hn₃, hg₃, h₃⟩
  rcases run_hexGroup_some h₃ with ⟨g₄, rest₄, rfl, hn₄, hg₄, h₄⟩
  rcases run_times_some h₄ with ⟨g₅, rest, rfl, hn₅, hg₅, hk⟩
  have hlengths : [g₁, g₂, g₃, g₄, g₅].map List.length = [8, 4, 4, 4, 12] := by
    simp only [List.map_cons, List.map_nil, hn₁, hn₂, hn₃, hn₄, hn₅]
  have hhex : ∀ g ∈ [g₁, g₂, g₃, g₄, g₅], ∀ c ∈ g, isHexDigit c = true := by
    simp only [List.forall_mem_cons]
    exact ⟨hg₁, hg₂, hg₃, hg₄, hg₅, List.forall_mem_nil _⟩
  have hdashed : cs = dashed [g₁, g₂, g₃, g₄, g₅] ++ rest := by
    simp only [hcs, dashed_cons, dashed_singleton, List.append_assoc, List.cons_append]
  rw [hdashed, List.length_append, Nat.add_sub_cancel, List.take_left] at hk
  exact ⟨⟨_, hlengths, hhex⟩, rest, hdashed, hk⟩

/-- What the expression of a port has taken is a number with a dash behind it. -/
theorem run_workspacePortRegex_some {i : Nat}
    (h : run (workspacePortRegex i) k cs caps = some b) :
    ∃ digits rest, cs = digits ++ '-' :: rest ∧ digits ≠ [] ∧
      (∀ c ∈ digits, c.isDigit = true) ∧ k rest (caps.set i digits) = some b := by
  have hdigits : ∀ c ∈ cs.takeWhile Char.isDigit, c.isDigit = true :=
    fun c hc => List.mem_takeWhile_imp hc
  have hrun := h
  rw [run_digits] at hrun
  by_cases hnil : cs.takeWhile Char.isDigit = []
  · rw [if_pos hnil] at hrun
    exact nomatch hrun
  · rw [if_neg hnil] at hrun
    rcases run_word_some hrun with ⟨rest, hrest, -⟩
    have hcs : cs = cs.takeWhile Char.isDigit ++ '-' :: rest := by
      rw [← List.singleton_append, ← hrest, List.takeWhile_append_dropWhile]
    rw [hcs, run_workspacePortRegex hnil hdigits] at h
    exact ⟨_, rest, hcs, hnil, hdigits, h⟩

/-- One character of the suffix takes one character of the host. -/
theorem run_suffixRegex_cons {c d : Char} {suffix : List Char} :
    run (suffixRegex (c :: suffix)) k (d :: cs) caps = some b ↔
      Takes c d ∧ run (suffixRegex suffix) k cs caps = some b := by
  rw [suffixRegex, run_seq, Takes]
  by_cases hdot : c = '.'
  · rw [if_pos hdot, run_char_cons]
    by_cases hd : d = '\n'
    · subst hdot hd
      simp
    · simp [hdot, hd]
  · rw [if_neg hdot, run_char_cons]
    by_cases hd : d = c
    · simp [hd]
    · have hne : c ≠ d := fun h => hd h.symm
      simp [hdot, hd, hne]

theorem run_suffixRegex_iff {suffix : List Char} :
    run (suffixRegex suffix) k cs caps = some b ↔
      ∃ s rest, cs = s ++ rest ∧ List.Forall₂ Takes suffix s ∧ k rest caps = some b := by
  induction suffix generalizing cs with
  | nil =>
      constructor
      · intro h
        exact ⟨[], cs, rfl, .nil, h⟩
      · rintro ⟨s, rest, rfl, hs, hk⟩
        rw [List.forall₂_nil_left_iff.mp hs]
        exact hk
  | cons c suffix ih =>
      constructor
      · intro h
        cases cs with
        | nil =>
            rw [suffixRegex, run_seq] at h
            split at h
            · cases h
            · cases h
        | cons d cs =>
            rcases run_suffixRegex_cons.mp h with ⟨htakes, hrest⟩
            rcases ih.mp hrest with ⟨s, rest, rfl, hs, hk⟩
            exact ⟨d :: s, rest, rfl, .cons htakes hs, hk⟩
      · rintro ⟨s, rest, rfl, hs, hk⟩
        cases hs with
        | @cons _ d _ s htakes hs =>
            exact run_suffixRegex_cons.mpr ⟨htakes, ih.mpr ⟨s, rest, rfl, hs, hk⟩⟩

/-- The word `webview` was taken, or nothing. -/
theorem run_webviewRegex_some (h : run webviewRegex k cs caps = some b) :
    ∃ w rest caps', IsWebview w ∧ cs = w ++ rest ∧ k rest caps' = some b := by
  -- The word is taken first, and left out if what follows fails.
  by_cases hprefix : "webview-".toList <+: cs
  · rcases hprefix with ⟨rest, rfl⟩
    rw [run_webviewRegex, Option.or_eq_some_iff] at h
    rcases h with h | ⟨-, h⟩
    · exact ⟨_, rest, _, Or.inr rfl, rfl, h⟩
    · exact ⟨[], _, caps, Or.inl rfl, rfl, h⟩
  · have hskip : run webviewRegex k cs caps = k cs caps := run_webviewRegex_of_not_prefix hprefix
    rw [hskip] at h
    exact ⟨[], cs, caps, Or.inl rfl, rfl, h⟩

/-! ## The parts of a host -/

theorem dash_not_mem {g : List Char} (h : ∀ c ∈ g, isHexDigit c = true) : '-' ∉ g :=
  fun hmem => absurd (h '-' hmem) (by decide)

/-- The first two groups of an ID. -/
theorem Uuid.exists_dashed (uuid : Uuid) : ∃ g g' rest,
    dashed uuid.groups = g ++ '-' :: (g' ++ '-' :: rest) ∧ '-' ∉ g ∧ '-' ∉ g' ∧
      g.length = 8 ∧ g'.length = 4 ∧ rest.length = 22 := by
  rcases uuid.exists_groups with ⟨a, b, c, d, e, hgroups, ha, hb, hc, hd, he⟩
  have hhex := uuid.hex
  simp only [hgroups, List.forall_mem_cons] at hhex
  refine ⟨a, b, c ++ '-' :: (d ++ '-' :: e), ?_, dash_not_mem hhex.1, dash_not_mem hhex.2.1, ha,
    hb, ?_⟩
  · simp only [hgroups, dashed_cons, dashed_singleton]
  · simp only [List.length_append, List.length_cons]
    omega

theorem Uuid.length_dashed (uuid : Uuid) : (dashed uuid.groups).length = 36 := by
  rcases uuid.exists_dashed with ⟨g, g', rest, hdashed, -, -, hg, hg', hrest⟩
  rw [hdashed]
  simp only [List.length_append, List.length_cons]
  omega

variable {suffix : WorkspaceSuffix} {hostname : String} {parts parts' : HostParts}
  {behind behind' : List Char}

/-- Behind the word `webview` there is a digit, or the first character of an ID. -/
theorem not_webview_core (parts : HostParts) (behind : List Char) :
    ¬ "webview-".toList <+: portText parts.port ++ (dashed parts.uuid.groups ++ behind) := by
  cases hport : parts.port with
  | none =>
      rcases parts.uuid.exists_cons with ⟨c, cs, hcons, hhex⟩
      rw [hcons]
      refine not_prefix_of_head? (d := c) rfl rfl fun hc => ?_
      exact absurd hhex (by rw [hc]; decide)
  | some digits =>
      rcases parts.isPort digits hport with ⟨hne, hdigits⟩
      rcases List.exists_cons_of_ne_nil hne with ⟨c, digits, rfl⟩
      refine not_prefix_of_head? (d := c) rfl rfl fun hc => ?_
      exact absurd (hdigits c List.mem_cons_self) (by rw [hc]; decide)

theorem webview_unique {w w' cs cs' : List Char} (hw : IsWebview w) (hw' : IsWebview w')
    (hcs : ¬ "webview-".toList <+: cs) (hcs' : ¬ "webview-".toList <+: cs')
    (h : w ++ cs = w' ++ cs') : cs = cs' := by
  rcases hw with rfl | rfl
  · rcases hw' with rfl | rfl
    · exact h
    · exact absurd ⟨cs', h.symm⟩ hcs
  · rcases hw' with rfl | rfl
    · exact absurd ⟨cs, h⟩ hcs'
    · exact List.append_cancel_left h

/-- Digits and a dash are no beginning of an ID that another ID follows. -/
theorem dashed_ne_port {uuid uuid' : Uuid} {digits : List Char}
    (hdigits : ∀ c ∈ digits, c.isDigit = true) :
    dashed uuid.groups ++ behind ≠ digits ++ '-' :: (dashed uuid'.groups ++ behind') := by
  intro h
  have hdash : '-' ∉ digits := fun hmem => absurd (hdigits '-' hmem) (by decide)
  rcases uuid.exists_dashed with ⟨g₁, g₂, rest, hdashed, hg₁, hg₂, -, hlength₂, -⟩
  rcases uuid'.exists_dashed with ⟨g₁', g₂', rest', hdashed', hg₁', -, hlength₁', -, -⟩
  simp only [hdashed, hdashed', List.append_assoc, List.cons_append] at h
  rcases Text.append_separator_inj hg₁ hdash h with ⟨-, hrest⟩
  rcases Text.append_separator_inj hg₂ hg₁' hrest with ⟨hsame, -⟩
  -- Four characters, and eight.
  rw [hsame, hlength₁'] at hlength₂
  exact absurd hlength₂ (by decide)

theorem parts_unique (h : parts.text ++ behind = parts'.text ++ behind') :
    parts.port = parts'.port ∧ behind = behind' := by
  simp only [HostParts.text, List.append_assoc] at h
  have hcore := webview_unique parts.isWebview parts'.isWebview (not_webview_core parts behind)
    (not_webview_core parts' behind') h
  cases hport : parts.port with
  | none =>
      cases hport' : parts'.port with
      | none =>
          simp only [hport, hport', portText, List.nil_append] at hcore
          -- All IDs have the same length.
          have hlength := parts.uuid.length_dashed.trans parts'.uuid.length_dashed.symm
          exact ⟨rfl, (List.append_inj hcore hlength).2⟩
      | some digits =>
          simp only [hport, hport', portText, List.nil_append, List.append_assoc,
            List.singleton_append] at hcore
          exact absurd hcore (dashed_ne_port (parts'.isPort digits hport').2)
  | some digits =>
      cases hport' : parts'.port with
      | none =>
          simp only [hport, hport', portText, List.nil_append, List.append_assoc,
            List.singleton_append] at hcore
          exact absurd hcore.symm (dashed_ne_port (parts.isPort digits hport).2)
      | some digits' =>
          have hdash : '-' ∉ digits :=
            fun hmem => absurd ((parts.isPort digits hport).2 '-' hmem) (by decide)
          have hdash' : '-' ∉ digits' :=
            fun hmem => absurd ((parts'.isPort digits' hport').2 '-' hmem) (by decide)
          simp only [hport, hport', portText, List.append_assoc, List.singleton_append] at hcore
          rcases Text.append_separator_inj hdash hdash' hcore with ⟨hdigits, hrest⟩
          have hlength := parts.uuid.length_dashed.trans parts'.uuid.length_dashed.symm
          exact ⟨by rw [hdigits], (List.append_inj hrest hlength).2⟩

/-! ## The matchers -/

theorem suffixLike_self (suffix : WorkspaceSuffix) (rest : List Char) :
    SuffixLike suffix (suffix.text.toList ++ rest) :=
  ⟨_, rest, rfl, List.forall₂_same.mpr fun _ _ => Or.inl rfl⟩

theorem hostname_ne_empty (h : hostname.toList = parts.text ++ behind) : hostname ≠ "" := by
  rintro rfl
  rw [HostParts.text, List.append_assoc, List.append_assoc] at h
  have hnil := (List.append_eq_nil_iff.mp (List.append_eq_nil_iff.mp h.symm).2).2
  exact parts.uuid.dashed_ne_nil (List.append_eq_nil_iff.mp hnil).1

/-- What the expression for the ID and the suffix finds. -/
theorem run_idAndSuffix_some {i : Nat} {rest : List Char} {caps' : Captures}
    (h : run (seq (workspaceIDRegex i) (suffixRegex suffix.text.toList))
      (fun rest caps => some (rest, caps)) cs caps = some (rest, caps')) :
    ∃ (uuid : Uuid) (behind : List Char), cs = dashed uuid.groups ++ behind ∧
      SuffixLike suffix behind ∧ caps' = caps.set i (dashed uuid.groups) := by
  rw [run_seq] at h
  rcases run_workspaceIDRegex_some h with ⟨uuid, behind, hcs, hrun⟩
  rcases run_suffixRegex_iff.mp hrun with ⟨s, rest', hbehind, hs, hk⟩
  exact ⟨uuid, behind, hcs, ⟨s, rest', hbehind, hs⟩, (Prod.mk.inj (Option.some.inj hk)).2.symm⟩

theorem run_idAndSuffix_of_like (i : Nat) (uuid : Uuid) (h : SuffixLike suffix behind) :
    ∃ rest, ∀ caps, run (seq (workspaceIDRegex i) (suffixRegex suffix.text.toList))
      (fun rest caps => some (rest, caps)) (dashed uuid.groups ++ behind) caps =
        some (rest, caps.set i (dashed uuid.groups)) := by
  rcases h with ⟨s, rest, rfl, hs⟩
  refine ⟨rest, fun caps => ?_⟩
  rw [run_seq, run_workspaceIDRegex]
  exact run_suffixRegex_iff.mpr ⟨s, rest, rfl, hs, rfl⟩

/-- A host that the first matcher takes has parts, without a port. -/
theorem parts_of_matchWorkspace {vars : Vars}
    (h : matchWorkspaceHostHeader suffix.text hostname = some vars) :
    ∃ (parts : HostParts) (behind : List Char), parts.port = none ∧
      hostname.toList = parts.text ++ behind ∧ SuffixLike suffix behind ∧ vars = parts.vars := by
  rw [matchWorkspaceHostHeader] at h
  by_cases hempty : hostname = ""
  · rw [if_pos hempty] at h
    cases h
  rw [if_neg hempty] at h
  cases hrun : (seq webviewRegex (seq (workspaceIDRegex 2)
      (suffixRegex suffix.text.toList))).runAt hostname.toList with
  | none =>
      rw [hrun] at h
      cases h
  | some found =>
      rcases found with ⟨rest, caps⟩
      have hmatch := hrun
      rw [runAt, run_seq] at hmatch
      rcases run_webviewRegex_some hmatch with ⟨w, cs, caps', hw, hcs, hrest⟩
      rcases run_idAndSuffix_some hrest with ⟨uuid, behind, rfl, hlike, rfl⟩
      rw [hrun] at h
      simp only [submatch_set uuid.dashed_ne_nil] at h
      refine ⟨⟨w, none, uuid, hw, by intro _ hc; cases hc⟩, behind, rfl, ?_, hlike,
        (Option.some.inj h).symm⟩
      rw [hcs, HostParts.text, portText, List.nil_append, List.append_assoc]

theorem matchWorkspace_of_parts (hport : parts.port = none)
    (hhost : hostname.toList = parts.text ++ behind) (hlike : SuffixLike suffix behind) :
    matchWorkspaceHostHeader suffix.text hostname = some parts.vars := by
  rcases run_idAndSuffix_of_like 2 parts.uuid hlike with ⟨rest, hrun⟩
  have hcore := not_webview_core parts behind
  rw [hport, portText, List.nil_append] at hcore
  rcases run_webview_some parts.isWebview hcore hrun with ⟨caps, hmatch⟩
  rw [matchWorkspaceHostHeader, if_neg (hostname_ne_empty hhost), hhost, HostParts.text, hport,
    portText, List.nil_append, List.append_assoc, runAt, run_seq, hmatch]
  simp only [submatch_set parts.uuid.dashed_ne_nil]
  rw [HostParts.vars, hport]
  rfl

theorem matchWorkspaceHostHeader_iff {vars : Vars} :
    matchWorkspaceHostHeader suffix.text hostname = some vars ↔
      ∃ (parts : HostParts) (behind : List Char), parts.port = none ∧
        hostname.toList = parts.text ++ behind ∧ SuffixLike suffix behind ∧
        vars = parts.vars := by
  constructor
  · exact parts_of_matchWorkspace
  · rintro ⟨parts, behind, hport, hhost, hlike, rfl⟩
    exact matchWorkspace_of_parts hport hhost hlike

/-- A host that the second matcher takes has parts, with a port. -/
theorem parts_of_matchPort {vars : Vars}
    (h : matchWorkspacePortHostHeader suffix.text hostname = some vars) :
    ∃ (parts : HostParts) (behind : List Char), parts.port ≠ none ∧
      hostname.toList = parts.text ++ behind ∧ SuffixLike suffix behind ∧ vars = parts.vars := by
  rw [matchWorkspacePortHostHeader] at h
  by_cases hempty : hostname = ""
  · rw [if_pos hempty] at h
    cases h
  rw [if_neg hempty] at h
  cases hrun : (seq webviewRegex (seq (workspacePortRegex 2) (seq (workspaceIDRegex 3)
      (suffixRegex suffix.text.toList)))).runAt hostname.toList with
  | none =>
      rw [hrun] at h
      cases h
  | some found =>
      rcases found with ⟨rest, caps⟩
      have hmatch := hrun
      rw [runAt, run_seq] at hmatch
      rcases run_webviewRegex_some hmatch with ⟨w, cs, caps', hw, hcs, hport⟩
      rw [run_seq] at hport
      rcases run_workspacePortRegex_some hport with ⟨digits, cs, rfl, hne, hdigits, hrest⟩
      rcases run_idAndSuffix_some hrest with ⟨uuid, behind, rfl, hlike, rfl⟩
      -- The group of the ID was set after that of the port.
      rw [hrun] at h
      simp only [submatch_set uuid.dashed_ne_nil, submatch_set_of_ne (by decide : 2 ≠ 3),
        submatch_set hne] at h
      have hparts : ∀ digits', some digits = some digits' →
          digits' ≠ [] ∧ ∀ c ∈ digits', c.isDigit = true := by
        rintro digits' ⟨⟩
        exact ⟨hne, hdigits⟩
      refine ⟨⟨w, some digits, uuid, hw, hparts⟩, behind, (by intro hc; cases hc), ?_, hlike,
        (Option.some.inj h).symm⟩
      simp only [hcs, HostParts.text, portText, List.append_assoc, List.cons_append,
        List.nil_append]

theorem matchPort_of_parts (hport : parts.port ≠ none)
    (hhost : hostname.toList = parts.text ++ behind) (hlike : SuffixLike suffix behind) :
    matchWorkspacePortHostHeader suffix.text hostname = some parts.vars := by
  rcases Option.ne_none_iff_exists'.mp hport with ⟨digits, hdigits⟩
  rcases parts.isPort digits hdigits with ⟨hne, hall⟩
  rcases run_idAndSuffix_of_like 3 parts.uuid hlike with ⟨rest, hrun⟩
  have hcore := not_webview_core parts behind
  simp only [hdigits, portText, List.append_assoc, List.singleton_append] at hcore
  have hparts : ∀ caps, run (seq (workspacePortRegex 2) (seq (workspaceIDRegex 3)
      (suffixRegex suffix.text.toList))) (fun rest caps => some (rest, caps))
      (digits ++ '-' :: (dashed parts.uuid.groups ++ behind)) caps =
        some (rest, (caps.set 2 digits).set 3 (dashed parts.uuid.groups)) := by
    intro caps
    rw [run_seq, run_workspacePortRegex hne hall, hrun]
  rcases run_webview_some parts.isWebview hcore hparts with ⟨caps, hmatch⟩
  have htext : parts.text ++ behind = parts.webview ++
      (digits ++ '-' :: (dashed parts.uuid.groups ++ behind)) := by
    simp only [HostParts.text, hdigits, portText, List.append_assoc, List.cons_append,
      List.nil_append]
  rw [matchWorkspacePortHostHeader, if_neg (hostname_ne_empty hhost), hhost, htext, runAt,
    run_seq, hmatch]
  simp only [submatch_set parts.uuid.dashed_ne_nil, submatch_set_of_ne (by decide : 2 ≠ 3),
    submatch_set hne]
  rw [HostParts.vars, hdigits]
  rfl

theorem matchWorkspacePortHostHeader_iff {vars : Vars} :
    matchWorkspacePortHostHeader suffix.text hostname = some vars ↔
      ∃ (parts : HostParts) (behind : List Char), parts.port ≠ none ∧
        hostname.toList = parts.text ++ behind ∧ SuffixLike suffix behind ∧
        vars = parts.vars := by
  constructor
  · exact parts_of_matchPort
  · rintro ⟨parts, behind, hport, hhost, hlike, rfl⟩
    exact matchPort_of_parts hport hhost hlike

/-- No host is taken by both matchers. -/
theorem not_both : matchWorkspaceHostHeader suffix.text hostname = none ∨
    matchWorkspacePortHostHeader suffix.text hostname = none := by
  cases hworkspace : matchWorkspaceHostHeader suffix.text hostname with
  | none => exact Or.inl rfl
  | some vars =>
      cases hport : matchWorkspacePortHostHeader suffix.text hostname with
      | none => exact Or.inr rfl
      | some vars' =>
          rcases parts_of_matchWorkspace hworkspace with ⟨parts, behind, hnone, hhost, -⟩
          rcases parts_of_matchPort hport with ⟨parts', behind', hsome, hhost', -⟩
          rw [hhost] at hhost'
          -- The parts of a host are unique, and there is a port or there is none.
          rw [(parts_unique hhost').1] at hnone
          exact absurd hnone hsome

/-- If what is behind the parts of every host that is taken is right, the hosts that are taken are
the right ones. -/
theorem taken_iff {vars : Vars} {P : Option (List Char) → Prop}
    (h : ∀ (parts : HostParts) (behind : List Char), hostname.toList = parts.text ++ behind →
      SuffixLike suffix behind → Ends suffix parts behind) :
    (∃ (parts : HostParts) (behind : List Char), P parts.port ∧
        hostname.toList = parts.text ++ behind ∧ SuffixLike suffix behind ∧ vars = parts.vars) ↔
      ∃ parts : HostParts, P parts.port ∧ IsHost suffix parts hostname ∧ vars = parts.vars := by
  constructor
  · rintro ⟨parts, behind, hport, hhost, hlike, hvars⟩
    exact ⟨parts, hport, ⟨behind, hhost, h parts behind hhost hlike⟩, hvars⟩
  · rintro ⟨parts, hport, ⟨behind, hhost, hends⟩, hvars⟩
    refine ⟨parts, behind, hport, hhost, ?_, hvars⟩
    rcases hends with ⟨rest, rfl, -⟩
    exact suffixLike_self suffix rest

/-- A host is treated as it should be exactly when it does not have something like the suffix
    behind its parts, or has the suffix itself there, with nothing behind it but a port where
    there may be one. It is the same condition for both matchers, although only one of them
    reads a port off the host. -/
theorem exact_iff (suffix : WorkspaceSuffix) (hostname : String) :
    Exact suffix hostname ↔ ∀ (parts : HostParts) (behind : List Char),
      hostname.toList = parts.text ++ behind → SuffixLike suffix behind →
        Ends suffix parts behind := by
  constructor
  · intro hexact parts behind hhost hlike
    -- The host is taken with its parts, so it is one of those that should be.
    have hhost' : ∃ parts' : HostParts, IsHost suffix parts' hostname := by
      by_cases hport : parts.port = none
      · rcases (hexact.workspace _).mp (matchWorkspace_of_parts hport hhost hlike) with
          ⟨parts', -, hishost, -⟩
        exact ⟨parts', hishost⟩
      · rcases (hexact.port _).mp (matchPort_of_parts hport hhost hlike) with
          ⟨parts', -, hishost, -⟩
        exact ⟨parts', hishost⟩
    rcases hhost' with ⟨parts', behind', hsame, rest, hbehind, hrest, hnone⟩
    rw [hhost] at hsame
    rcases parts_unique hsame with ⟨hport, rfl⟩
    exact ⟨rest, hbehind, hrest, by rw [hport]; exact hnone⟩
  · intro h
    refine ⟨fun vars => ?_, fun vars => ?_, not_both⟩
    · rw [matchWorkspaceHostHeader_iff]
      exact taken_iff (P := (· = none)) h
    · rw [matchWorkspacePortHostHeader_iff]
      exact taken_iff (P := (· ≠ none)) h

/-- The suffix of an installation. -/
def sampleSuffix : WorkspaceSuffix where
  text := ".nxpod.khulnasoft.com"
  ne := by decide
  chars := List.all_eq_true.mp rfl

/-- A workspace without a port. -/
def sampleParts : HostParts where
  webview := []
  port := none
  uuid := documentedUuid
  isWebview := Or.inl rfl
  isPort := nofun

/-- A host that goes on behind the suffix. -/
theorem longer_host_taken :
    ¬ ∀ (suffix : WorkspaceSuffix) (hostname : String), Exact suffix hostname := by
  intro hall
  have hexact := hall sampleSuffix
    "b7e0eaf8-ec73-44ec-81ea-04859263b656.nxpod.khulnasoft.com.evil.example"
  have hends := (exact_iff _ _).mp hexact sampleParts ".nxpod.khulnasoft.com.evil.example".toList
    (by decide) (suffixLike_self sampleSuffix ".evil.example".toList)
  rcases hends with ⟨rest, hrest, hport, -⟩
  have hsplit : ".nxpod.khulnasoft.com.evil.example".toList =
      sampleSuffix.text.toList ++ ".evil.example".toList := by decide
  rw [hsplit] at hrest
  have heq : rest = ".evil.example".toList := (List.append_cancel_left hrest).symm
  rcases hport with hnil | ⟨digits, hdigits, -⟩
  · rw [heq] at hnil
    exact absurd hnil (by decide)
  · rw [heq] at hdigits
    exact absurd (List.cons.inj hdigits).1 (by decide)

end WsProxy

end Nxpod
