import Nxpod.WsProxy.WorkspaceRouter

/-!
# Origins

The proxy lets the pages of other origins read its answers, with the user's credentials, if their
host is the one of the installation or a subdomain of it. The header is matched against a regular
expression: anything, and then the host name, whose dots are escaped. Nothing says that the match
has to begin or to end with the header, and nothing says that there is a dot before the host name.

So every origin is allowed that has the host name somewhere.

## Main definitions

* `HostName`: The name of the installation.
* `compile`, `originRegex`: The expression.
* `originValidator`: The validator.
* `InstallationOrigin`: The origins of the installation.
* `Framed`: Only the scheme and subdomains are before the host name, and only a port is behind it.

## Theorems

* `originValidator_iff`: Which origins are allowed.
* `dotted_iff`: The labels of a subdomain.
* `validates_iff`: When an origin is treated as it should be.
-/

namespace Nxpod

namespace WsProxy

open Regex

/-! ## The validator -/

/-- A name as it is configured for an installation: it is not empty, and has no characters that
    mean something in an expression but dots. -/
structure HostName where
  text : String
  ne : text ≠ ""
  chars : ∀ c ∈ text.toList, isHostChar c = true

/-- The expression of a pattern of characters, dots, escaped characters and `.*`. -/
def compile : List Char → Regex
  | [] => empty
  | '.' :: '*' :: cs => seq (star (char (· != '\n'))) (compile cs)
  | '.' :: cs => seq (char (· != '\n')) (compile cs)
  | '\\' :: c :: cs => seq (char (· == c)) (compile cs)
  | c :: cs => seq (char (· == c)) (compile cs)

/-- A dot is to be a dot. -/
def escapeDot (c : Char) : List Char := if c = '.' then ['\\', '.'] else [c]

/-- The host name as an expression. -/
def domainRegex (hostname : String) : List Char := hostname.toList.flatMap escapeDot

/-- Anything, and then the host name. -/
def originRegex (hostname : String) : Regex := compile (".*".toList ++ domainRegex hostname)

/-- Is the origin a subdomain of the installation's hostname? -/
def originValidator (hostname origin : String) : Bool :=
  ((originRegex hostname).exec origin.toList).isSome

/-! ## Origins of the installation -/

/-- What a part of a host name may have. -/
def isLabelChar (c : Char) : Bool := c.isAlphanum || c == '-'

/-- A part of a host name. -/
def IsLabel (label : List Char) : Prop := label ≠ [] ∧ ∀ c ∈ label, isLabelChar c = true

/-- Labels with a dot behind each. -/
def subdomain (labels : List (List Char)) : List Char := labels.flatMap fun label => label ++ ['.']

/-- Nothing, or a port behind a colon. -/
def IsPort (cs : List Char) : Prop :=
  cs = [] ∨ ∃ digits, cs = ':' :: digits ∧ digits ≠ [] ∧ ∀ c ∈ digits, c.isDigit = true

/-- An origin of the installation: the scheme, parts with a dot behind each, the host name, and
    a port or none. -/
def InstallationOrigin (scheme hostname origin : String) : Prop :=
  ∃ labels port, (∀ label ∈ labels, IsLabel label) ∧ IsPort port ∧
    origin.toList = scheme.toList ++ "://".toList ++ subdomain labels ++ hostname.toList ++ port

/-- A dot stands behind a label, and a label is followed by a dot. -/
def dotted : Bool → List Char → Bool
  | inLabel, [] => !inLabel
  | inLabel, c :: cs =>
      if c = '.' then inLabel && dotted false cs else isLabelChar c && dotted true cs

/-- What is before the host name and what is behind it. -/
def Framed (scheme hostname origin : String) : Prop :=
  ∃ before behind, origin.toList = before ++ hostname.toList ++ behind ∧ IsPort behind ∧
    ∃ cs, before = scheme.toList ++ "://".toList ++ cs ∧ dotted false cs = true

/-! ## What is allowed -/

theorem isHostChar_ne {c : Char} (h : isHostChar c = true) : c ≠ '\\' := by
  rintro rfl
  exact absurd h (by decide)

/-- Escaped, a host name stands for itself. -/
theorem compile_domainRegex {cs : List Char} (h : ∀ c ∈ cs, isHostChar c = true) :
    compile (cs.flatMap escapeDot) = word cs := by
  induction cs with
  | nil => rfl
  | cons c cs ih =>
      rw [List.forall_mem_cons] at h
      rw [List.flatMap_cons, word, ← ih h.2]
      by_cases hdot : c = '.'
      · rw [hdot]
        rfl
      · -- No other character of a host name means anything in an expression.
        have hescape : escapeDot c = [c] := if_neg hdot
        have hslash := isHostChar_ne h.1
        rw [hescape, List.singleton_append, compile]
        · exact fun _ hc _ => hdot hc
        · exact hdot
        · exact fun _ _ hc _ => hslash hc

theorem originRegex_eq (hostname : HostName) :
    originRegex hostname.text = seq (star (char (· != '\n'))) (word hostname.text.toList) := by
  rw [originRegex, domainRegex, ← compile_domainRegex hostname.chars]
  rfl

/-- The host name may stand anywhere. -/
theorem originValidator_iff (hostname : HostName) (origin : String) :
    originValidator hostname.text origin = true ↔ hostname.text.toList <:+: origin.toList := by
  rw [originValidator, exec_isSome_iff, originRegex_eq]
  constructor
  · rintro ⟨before, rest, horigin, hrun⟩
    rcases Option.isSome_iff_exists.mp hrun with ⟨⟨behind, caps⟩, hmatch⟩
    rcases runAt_sound hmatch with ⟨w, hw, hlanguage⟩
    rcases Language.mem_mul.mp hlanguage with ⟨any, -, host, hhost, rfl⟩
    rw [mem_language_word.mp hhost] at hw
    -- The search begins where it likes, and `.*` takes any characters.
    refine ⟨before ++ any, behind, ?_⟩
    rw [horigin, hw]
    simp only [List.append_assoc]
  · rintro ⟨before, behind, horigin⟩
    refine ⟨before, hostname.text.toList ++ behind, ?_, ?_⟩
    · rw [← horigin, List.append_assoc]
    · rw [runAt, run_seq]
      refine run_star_isSome ?_
      rw [run_word]
      rfl

/-! ## What is before and behind -/

theorem isLabelChar_ne {c : Char} (h : isLabelChar c = true) : c ≠ '.' := by
  rintro rfl
  exact absurd h (by decide)

theorem subdomain_cons (label : List Char) (labels : List (List Char)) :
    subdomain (label :: labels) = label ++ '.' :: subdomain labels := by
  rw [subdomain, List.flatMap_cons, List.append_assoc]
  rfl

/-- The rest of a label and its dot are read. -/
theorem dotted_append {label cs : List Char} (h : ∀ c ∈ label, isLabelChar c = true) :
    dotted true (label ++ '.' :: cs) = dotted false cs := by
  induction label with
  | nil => rw [List.nil_append, dotted, if_pos rfl, Bool.true_and]
  | cons c label ih =>
      rw [List.forall_mem_cons] at h
      rw [List.cons_append, dotted, if_neg (isLabelChar_ne h.1), h.1, Bool.true_and]
      exact ih h.2

theorem dotted_subdomain {labels : List (List Char)} (h : ∀ label ∈ labels, IsLabel label) :
    dotted false (subdomain labels) = true := by
  induction labels with
  | nil => rfl
  | cons label labels ih =>
      rw [List.forall_mem_cons] at h
      rcases List.exists_cons_of_ne_nil h.1.1 with ⟨c, cs, hlabel⟩
      have hchars := h.1.2
      rw [hlabel, List.forall_mem_cons] at hchars
      rw [subdomain_cons, hlabel, List.cons_append, dotted, if_neg (isLabelChar_ne hchars.1),
        hchars.1, Bool.true_and, dotted_append hchars.2]
      exact ih h.2

/-- Of a label the first characters have been read. -/
theorem exists_labels {label cs : List Char} (hlabel : ∀ c ∈ label, isLabelChar c = true)
    (h : dotted (decide (label ≠ [])) cs = true) :
    ∃ labels, (∀ label ∈ labels, IsLabel label) ∧ label ++ cs = subdomain labels := by
  -- The induction is on what has not been read, and the label grows until its dot.
  induction cs generalizing label with
  | nil =>
      rw [dotted, Bool.not_eq_true', decide_eq_false_iff_not, not_not] at h
      exact ⟨[], nofun, by rw [h]; rfl⟩
  | cons c cs ih =>
      rw [dotted] at h
      by_cases hdot : c = '.'
      · rw [if_pos hdot, Bool.and_eq_true, decide_eq_true_eq] at h
        rcases ih (List.forall_mem_nil _) (h.2) with ⟨labels, hlabels, heq⟩
        refine ⟨label :: labels, List.forall_mem_cons.mpr ⟨⟨h.1, hlabel⟩, hlabels⟩, ?_⟩
        rw [subdomain_cons, hdot, ← heq, List.nil_append]
      · rw [if_neg hdot, Bool.and_eq_true] at h
        have hnext : ∀ d ∈ label ++ [c], isLabelChar d = true := by
          intro d hd
          rcases List.mem_append.mp hd with hd | hd
          · exact hlabel d hd
          · rw [List.mem_singleton.mp hd]
            exact h.1
        have hne : decide (label ++ [c] ≠ []) = true := by
          simp
        rcases ih hnext (by rw [hne]; exact h.2) with ⟨labels, hlabels, heq⟩
        rw [List.append_assoc, List.singleton_append] at heq
        exact ⟨labels, hlabels, heq⟩

theorem dotted_iff {cs : List Char} : dotted false cs = true ↔
    ∃ labels, (∀ label ∈ labels, IsLabel label) ∧ cs = subdomain labels := by
  constructor
  · intro h
    exact exists_labels (List.forall_mem_nil _) h
  · rintro ⟨labels, hlabels, rfl⟩
    exact dotted_subdomain hlabels

theorem installationOrigin_iff_framed {scheme hostname origin : String} :
    InstallationOrigin scheme hostname origin ↔ Framed scheme hostname origin := by
  constructor
  · rintro ⟨labels, port, hlabels, hport, horigin⟩
    exact ⟨_, port, horigin, hport, subdomain labels, rfl, dotted_subdomain hlabels⟩
  · rintro ⟨before, behind, horigin, hbehind, cs, rfl, hdotted⟩
    rcases dotted_iff.mp hdotted with ⟨labels, hlabels, rfl⟩
    exact ⟨labels, behind, hlabels, hbehind, horigin⟩

theorem isInfix_of_installationOrigin {scheme hostname origin : String}
    (h : InstallationOrigin scheme hostname origin) : hostname.toList <:+: origin.toList := by
  rcases h with ⟨labels, port, -, -, horigin⟩
  exact ⟨_, port, horigin.symm⟩

/-- An origin is treated as it should be exactly when it does not have the host name anywhere,
    or has nothing but the scheme and subdomains before it and nothing but a port behind it.
    What is at stake is that a page of another site, which has the host name somewhere in its
    own, may make requests with the credentials of a user. -/
theorem validates_iff (scheme : String) (hostname : HostName) (origin : String) :
    (originValidator hostname.text origin = true ↔
        InstallationOrigin scheme hostname.text origin) ↔
      ¬ hostname.text.toList <:+: origin.toList ∨ Framed scheme hostname.text origin := by
  rw [originValidator_iff]
  constructor
  · intro h
    -- What is allowed has the host name in it.
    by_cases hinfix : hostname.text.toList <:+: origin.toList
    · exact Or.inr (installationOrigin_iff_framed.mp (h.mp hinfix))
    · exact Or.inl hinfix
  · rintro (hnot | hframed)
    · exact ⟨fun h => absurd h hnot, isInfix_of_installationOrigin⟩
    · exact ⟨fun _ => installationOrigin_iff_framed.mpr hframed, isInfix_of_installationOrigin⟩

/-! ## Foreign hosts -/

/-- The last character is the one of the host name, or a digit of the port. -/
theorem getLast?_of_installationOrigin {scheme origin : String} {hostname : HostName}
    (h : InstallationOrigin scheme hostname.text origin) :
    origin.toList.getLast? = hostname.text.toList.getLast? ∨
      origin.toList.getLast?.any Char.isDigit = true := by
  rcases h with ⟨labels, port, -, hport, horigin⟩
  have hne : hostname.text.toList ≠ [] := fun hnil => hostname.ne (String.toList_eq_nil_iff.mp hnil)
  rw [horigin]
  rcases hport with rfl | ⟨digits, rfl, hdigits, hall⟩
  · rw [List.append_nil, List.getLast?_append_of_ne_nil _ hne]
    exact Or.inl rfl
  · right
    rcases List.eq_nil_or_concat digits with hnil | ⟨front, last, hlast⟩
    · exact absurd hnil hdigits
    · rw [List.concat_eq_append] at hlast
      rw [hlast, ← List.cons_append, ← List.append_assoc, List.getLast?_concat, Option.any_some]
      exact hall last (by rw [hlast]; exact List.mem_append_right _ List.mem_cons_self)

/-- The host name of an installation. -/
def sampleHostName : HostName where
  text := "nxpod.khulnasoft.com"
  ne := by decide
  chars := List.all_eq_true.mp rfl

/-- A host that only begins with the name of the installation. -/
theorem foreign_origin_allowed : ¬ ∀ (scheme : String) (hostname : HostName) (origin : String),
    originValidator hostname.text origin = true ↔
      InstallationOrigin scheme hostname.text origin := by
  intro hall
  have hinfix : sampleHostName.text.toList <:+:
      "https://nxpod.khulnasoft.com.evil.example".toList :=
    ⟨"https://".toList, ".evil.example".toList, by decide⟩
  have horigin := (hall "https" sampleHostName "https://nxpod.khulnasoft.com.evil.example").mp
    ((originValidator_iff sampleHostName _).mpr hinfix)
  rcases getLast?_of_installationOrigin horigin with hlast | hlast
  · exact absurd hlast (by decide)
  · exact absurd hlast (by decide)

end WsProxy

end Nxpod
