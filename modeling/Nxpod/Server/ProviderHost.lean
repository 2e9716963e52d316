import Nxpod.Library.Url
import Nxpod.Server.EnvvarPrefix

/-!
# The Host of a Git Provider

The parser of a git provider takes a context URL that begins with the host of the provider, after
`https://` or with nothing before it. Only the beginning of the text is looked at, so the host of
the URL may go on behind it, or be behind an `@`. A URL that has the host in another spelling is not
taken.

The first parser that takes a URL is the one that handles it.

## Main definitions

* `normalize`, `canHandle`: The parser of one provider.
* `IsHost`: A host that is the host of its URL.
* `Denotes`: The host that a context URL means.
* `Ends`: What may be behind the host.
* `Recognizes`: The provider is found by the host that is meant.
* `Meets`: The beginning of the text shows the host.

## Theorems

* `parse_eq`: The parser that handles a URL.
* `httpsHost_eq_iff`: The host of a URL that begins with it.
* `right_iff`: When one parser is right.
* `recognizes_iff`: When the right parser is found.
-/

namespace Nxpod

namespace Server

open Text Url

/-! ## Parsers -/

/-- `startsWith` of a text. -/
def startsWith (s start : String) : Bool :=
  start.toList.isPrefixOf s.toList

/-- What is to be taken for a URL of the provider. -/
def normalize (host contextUrl : String) : Option String :=
  let url := trim contextUrl
  let url := if startsWith url host then "https://" ++ url else url
  if startsWith url ("https://" ++ host) then some url else none

/-- The provider takes what it can normalize. -/
def canHandle (host contextUrl : String) : Bool :=
  (normalize host contextUrl).isSome

/-- The parser of a provider. What it makes of a URL is up to the provider. -/
def hostContextParser {γ : Type} (handle : String → String → Except String γ) (host : String) :
    IContextParser γ where
  normalize := normalize host
  canHandle := canHandle host
  handle := handle host

/-- The first provider that can handle a URL does it. -/
theorem parse_eq {γ : Type} (prefixParser : List (IPrefixContextParser γ))
    (handle : String → String → Except String γ) (hosts : List String) (contextURL : String) :
    (ContextParser.mk prefixParser (hosts.map (hostContextParser handle))).parse contextURL =
      match hosts.find? fun host => canHandle host contextURL with
      | none => .error ("Couldn't parse context '" ++ contextURL ++ "'.")
      | some host => match handle host contextURL with
        | .error err => .error err
        | .ok context => .ok ⟨context, none⟩ := by
  have hfind : (hosts.map (hostContextParser handle)).find? (fun p => p.canHandle contextURL) =
      (hosts.find? fun host => canHandle host contextURL).map (hostContextParser handle) := by
    rw [List.find?_map]
    rfl
  rw [ContextParser.parse, hfind]
  cases hosts.find? fun host => canHandle host contextURL with
  | none => rfl
  | some host => rfl

/-! ## Hosts -/

variable (hostParser : List Char → Option (List Char))

/-- A host that is the host of its URL. -/
structure IsHost (host : String) : Prop where
  plain : ∀ c ∈ host.toList, isPlain c = true
  host : hostPort hostParser host.toList = some host.toList

/-- The text is a URL with this host, or it has no scheme and is one with `https://` before it. -/
def Denotes (host url : String) : Prop :=
  httpsHost hostParser url.toList = some host.toList ∨
    (scheme (clean url.toList) = none ∧
      httpsHost hostParser (httpsPrefix ++ url.toList) = some host.toList)

/-- What is accepted is what means the host, and becomes a URL with it. -/
def Right (host contextUrl : String) : Prop :=
  (canHandle host contextUrl = true ↔ Denotes hostParser host (trim contextUrl)) ∧
    ∀ url, normalize host contextUrl = some url →
      httpsHost hostParser url.toList = some host.toList

/-- Every parser is right, and the first one is that of the host that is meant. -/
def Recognizes (hosts : List String) (contextUrl : String) : Prop :=
  (∀ host ∈ hosts, Right hostParser host contextUrl) ∧
    ∀ host, (hosts.find? fun host => canHandle host contextUrl) = some host ↔
      host ∈ hosts ∧ Denotes hostParser host (trim contextUrl)

/-- What is behind a host up to the next delimiter. -/
def authorityRest (rest : List Char) : List Char :=
  (cleanRest rest).takeWhile fun c => !isDelimiter c

/-- Behind the host there is nothing more of it, but maybe the default port. Or it was only user
information, and the host comes behind that. -/
def Ends (host : String) (rest : List Char) : Prop :=
  if '@' ∈ authorityRest rest then
    hostPort hostParser (hostText (authorityRest rest)) = some host.toList
  else hostPort hostParser (host.toList ++ authorityRest rest) = some host.toList

/-- A text that begins with the host goes on as it should, and one that does not begin so does not
mean the host. -/
structure Meets (host contextUrl : String) : Prop where
  bare : ∀ rest, (trim contextUrl).toList = host.toList ++ rest →
    Ends hostParser host rest ∧ (scheme (clean (trim contextUrl).toList) = none ∨
      httpsHost hostParser (trim contextUrl).toList = some host.toList)
  full : ∀ rest, ¬ host.toList <+: (trim contextUrl).toList →
    (trim contextUrl).toList = httpsPrefix ++ host.toList ++ rest → Ends hostParser host rest
  other : ¬ host.toList <+: (trim contextUrl).toList →
    ¬ httpsPrefix ++ host.toList <+: (trim contextUrl).toList →
      ¬ Denotes hostParser host (trim contextUrl)

variable {hostParser} {host contextUrl url : String} {rest : List Char}

theorem startsWith_iff {s start : String} :
    startsWith s start = true ↔ start.toList <+: s.toList :=
  List.isPrefixOf_iff_prefix

theorem toList_https (s : String) : ("https://" ++ s).toList = httpsPrefix ++ s.toList :=
  String.toList_append

theorem ne_nil_of_isHost (h : IsHost hostParser host) : host.toList ≠ [] := by
  intro hnil
  have hhost := h.host
  rw [hnil] at hhost
  exact nomatch hhost

/-- The host of a URL that begins so is this one exactly if it ends there. -/
theorem httpsHost_eq_iff (h : IsHost hostParser host) (rest : List Char) :
    httpsHost hostParser (httpsPrefix ++ host.toList ++ rest) = some host.toList ↔
      Ends hostParser host rest := by
  rw [httpsHost_append (ne_nil_of_isHost h) h.plain, Ends, authorityRest]
  split <;> rfl

/-- The host may be followed by a delimiter, or by nothing at all. -/
theorem ends_of_delimiter (h : IsHost hostParser host)
    (hrest : ∀ c, rest.head? = some c → isDelimiter c = true) : Ends hostParser host rest := by
  have hnone : authorityRest rest = [] := by
    cases rest with
    | nil => rfl
    | cons c cs =>
        have hdelimiter := hrest c rfl
        have hcontrol : isC0ControlOrSpace c = false := by
          simp only [isDelimiter, isSlash, Bool.or_eq_true, beq_iff_eq] at hdelimiter
          rcases hdelimiter with ((rfl | rfl) | rfl) | rfl <;> rfl
        have hclean : cleanRest (c :: cs) = c :: cleanRest cs := by
          have hlast : ∀ d, [c].getLast? = some d → isC0ControlOrSpace d = false := by
            intro d hd
            rw [← Option.some.inj hd]
            exact hcontrol
          have hkeep := rdropWhile_append hlast cs
          rw [List.singleton_append] at hkeep
          rw [cleanRest, hkeep, List.singleton_append, List.filter_cons_of_pos, cleanRest]
          rw [not_isTabOrNewline hcontrol]
          rfl
        rw [authorityRest, hclean, List.takeWhile_cons_of_neg]
        rw [hdelimiter]
        exact Bool.false_ne_true
  rw [Ends, hnone, if_neg List.not_mem_nil, List.append_nil]
  exact h.host

/-- A text without a scheme means the host of the URL it becomes. -/
theorem denotes_unique {host host' : String} (h : Denotes hostParser host url)
    (h' : Denotes hostParser host' url) : host = host' := by
  -- With a scheme the text has a host itself, and without one it does not.
  have hnone : ∀ cs : List Char, scheme (clean cs) = none → httpsHost hostParser cs = none := by
    intro cs hscheme
    rw [httpsHost, hscheme]
  rcases h with h | ⟨hscheme, h⟩
  · rcases h' with h' | ⟨hscheme', -⟩
    · rw [h] at h'
      exact String.toList_injective (Option.some.inj h')
    · rw [hnone _ hscheme'] at h
      cases h
  · rcases h' with h' | ⟨-, h'⟩
    · rw [hnone _ hscheme] at h'
      cases h'
    · rw [h] at h'
      exact String.toList_injective (Option.some.inj h')

/-! ## One provider -/

theorem normalize_of_bare (h : host.toList <+: (trim contextUrl).toList) :
    normalize host contextUrl = some ("https://" ++ trim contextUrl) := by
  have hstart : startsWith (trim contextUrl) host = true := startsWith_iff.mpr h
  have hfull : startsWith ("https://" ++ trim contextUrl) ("https://" ++ host) = true := by
    rw [startsWith_iff, toList_https, toList_https, List.prefix_append_right_inj]
    exact h
  simp only [normalize, hstart, if_true, hfull]

theorem normalize_of_not_bare (h : ¬ host.toList <+: (trim contextUrl).toList) :
    normalize host contextUrl = if httpsPrefix ++ host.toList <+: (trim contextUrl).toList then
      some (trim contextUrl) else none := by
  have hstart : startsWith (trim contextUrl) host = false := by
    rw [Bool.eq_false_iff, ne_eq, startsWith_iff]
    exact h
  simp only [normalize, hstart, Bool.false_eq_true, if_false, startsWith_iff, toList_https]

/-- A text that is taken has to mean the host, and so does the URL it becomes. -/
theorem right_iff_of_some (hnormalize : normalize host contextUrl = some url) :
    Right hostParser host contextUrl ↔ Denotes hostParser host (trim contextUrl) ∧
      httpsHost hostParser url.toList = some host.toList := by
  have hcan : canHandle host contextUrl = true := by
    rw [canHandle, hnormalize]
    rfl
  constructor
  · rintro ⟨haccepts, hhost⟩
    exact ⟨haccepts.mp hcan, hhost url hnormalize⟩
  · rintro ⟨hdenotes, hhost⟩
    refine ⟨iff_of_true hcan hdenotes, fun url' hurl => ?_⟩
    rw [hnormalize, Option.some.injEq] at hurl
    rw [← hurl]
    exact hhost

/-- A text that is not taken must not mean the host. -/
theorem right_iff_of_none (hnormalize : normalize host contextUrl = none) :
    Right hostParser host contextUrl ↔ ¬ Denotes hostParser host (trim contextUrl) := by
  have hcan : ¬ canHandle host contextUrl = true := by
    rw [canHandle, hnormalize]
    exact Bool.false_ne_true
  constructor
  · rintro ⟨haccepts, -⟩ hdenotes
    exact hcan (haccepts.mpr hdenotes)
  · intro hnot
    refine ⟨iff_of_false hcan hnot, fun url hurl => ?_⟩
    rw [hnormalize] at hurl
    exact nomatch hurl

theorem right_iff_of_bare (h : IsHost hostParser host)
    (hrest : host.toList ++ rest = (trim contextUrl).toList) :
    Right hostParser host contextUrl ↔ Meets hostParser host contextUrl := by
  have hends : httpsHost hostParser (httpsPrefix ++ (trim contextUrl).toList) =
      some host.toList ↔ Ends hostParser host rest := by
    rw [← hrest, ← List.append_assoc]
    exact httpsHost_eq_iff h rest
  rw [right_iff_of_some (normalize_of_bare ⟨rest, hrest⟩), toList_https, hends]
  constructor
  · rintro ⟨hdenotes, hends'⟩
    refine ⟨fun rest' hrest' => ?_, fun _ hnot => absurd ⟨rest, hrest⟩ hnot,
      fun hnot => absurd ⟨rest, hrest⟩ hnot⟩
    rw [← hrest, List.append_cancel_left_eq] at hrest'
    rw [← hrest']
    refine ⟨hends', ?_⟩
    rcases hdenotes with hself | ⟨hscheme, -⟩
    · exact .inr hself
    · exact .inl hscheme
  · intro hmeets
    rcases hmeets.bare rest hrest.symm with ⟨hends', hscheme⟩
    refine ⟨?_, hends'⟩
    rcases hscheme with hscheme | hself
    · exact .inr ⟨hscheme, hends.mpr hends'⟩
    · exact .inl hself

theorem right_iff_of_full (h : IsHost hostParser host)
    (hbare : ¬ host.toList <+: (trim contextUrl).toList)
    (hrest : httpsPrefix ++ host.toList ++ rest = (trim contextUrl).toList) :
    Right hostParser host contextUrl ↔ Meets hostParser host contextUrl := by
  have hnormalize := normalize_of_not_bare hbare
  rw [if_pos ⟨rest, hrest⟩] at hnormalize
  have hends : httpsHost hostParser (trim contextUrl).toList = some host.toList ↔
      Ends hostParser host rest := by
    rw [← hrest]
    exact httpsHost_eq_iff h rest
  rw [right_iff_of_some hnormalize, hends]
  constructor
  · rintro ⟨-, hends'⟩
    refine ⟨fun rest' hrest' => absurd ⟨rest', hrest'.symm⟩ hbare, fun rest' _ hrest' => ?_,
      fun _ hnot => absurd ⟨rest, hrest⟩ hnot⟩
    rw [← hrest, List.append_cancel_left_eq] at hrest'
    rw [← hrest']
    exact hends'
  · intro hmeets
    have hends' := hmeets.full rest hbare hrest.symm
    exact ⟨.inl (hends.mpr hends'), hends'⟩

theorem right_iff (h : IsHost hostParser host) (contextUrl : String) :
    Right hostParser host contextUrl ↔ Meets hostParser host contextUrl := by
  by_cases hbare : host.toList <+: (trim contextUrl).toList
  · rcases hbare with ⟨rest, hrest⟩
    exact right_iff_of_bare h hrest
  by_cases hfull : httpsPrefix ++ host.toList <+: (trim contextUrl).toList
  · rcases hfull with ⟨rest, hrest⟩
    exact right_iff_of_full h hbare hrest
  -- The text begins in neither way, so it is not taken.
  have hnormalize := normalize_of_not_bare hbare
  rw [if_neg hfull] at hnormalize
  rw [right_iff_of_none hnormalize]
  constructor
  · intro hnot
    exact ⟨fun rest' hrest' => absurd ⟨rest', hrest'.symm⟩ hbare,
      fun rest' _ hrest' => absurd ⟨rest', hrest'.symm⟩ hfull, fun _ _ => hnot⟩
  · exact fun hmeets => hmeets.other hbare hfull

/-! ## Several providers -/

/-- Where every parser is right, the first one that takes a URL is that of its host. -/
theorem find_of_right {hosts : List String}
    (hright : ∀ host ∈ hosts, Right hostParser host contextUrl) (host : String) :
    (hosts.find? fun host => canHandle host contextUrl) = some host ↔
      host ∈ hosts ∧ Denotes hostParser host (trim contextUrl) := by
  constructor
  · intro hfind
    have hmem := List.mem_of_find?_eq_some hfind
    exact ⟨hmem, (hright host hmem).1.mp
      (List.find?_some (p := fun host => canHandle host contextUrl) hfind)⟩
  · rintro ⟨hmem, hdenotes⟩
    have hcan := (hright host hmem).1.mpr hdenotes
    cases hfind : hosts.find? fun host => canHandle host contextUrl with
    | none => exact absurd hcan (List.find?_eq_none.mp hfind host hmem)
    | some host' =>
        have hdenotes' := (hright host' (List.mem_of_find?_eq_some hfind)).1.mp
          (List.find?_some (p := fun host => canHandle host contextUrl) hfind)
        rw [denotes_unique hdenotes' hdenotes]

/-- The provider is recognized exactly where each of the hosts shows at the beginning of the
    text just when it is the one that is meant. The URL is not parsed for this. The condition
    therefore is about what stands behind the host in the text, and about other ways to write
    the same URL. -/
theorem recognizes_iff (hostParser : List Char → Option (List Char)) (hosts : List String)
    (hhosts : ∀ host ∈ hosts, IsHost hostParser host) (contextUrl : String) :
    Recognizes hostParser hosts contextUrl ↔
      ∀ host ∈ hosts, Meets hostParser host contextUrl := by
  constructor
  · intro h host hmem
    exact (right_iff (hhosts host hmem) contextUrl).mp (h.1 host hmem)
  · intro h
    have hright : ∀ host ∈ hosts, Right hostParser host contextUrl :=
      fun host hmem => (right_iff (hhosts host hmem) contextUrl).mpr (h host hmem)
    exact ⟨hright, find_of_right hright⟩

/-- A host parser for names of ASCII. -/
def asciiHost (cs : List Char) : Option (List Char) :=
  if cs.all fun c => c.isAlphanum || c == '.' || c == '-' then some (cs.map Char.toLower) else none

theorem isHost_asciiHost {host : String} (hplain : host.toList.all isPlain = true)
    (hhost : hostPort asciiHost host.toList = some host.toList) : IsHost asciiHost host :=
  ⟨List.all_eq_true.mp hplain, hhost⟩

theorem recognizes_iff_github :
    Recognizes asciiHost ["gitlab.com", "github.com"] "https://github.com/octo" := by
  have hhost : IsHost asciiHost "github.com" := isHost_asciiHost (by rfl) (by rfl)
  have hhosts : ∀ host ∈ ["gitlab.com", "github.com"], IsHost asciiHost host := by
    intro host hmem
    simp only [List.mem_cons, List.not_mem_nil, or_false] at hmem
    rcases hmem with rfl | rfl
    · exact isHost_asciiHost (by rfl) (by rfl)
    · exact hhost
  have htrim : (trim "https://github.com/octo").toList =
      httpsPrefix ++ "github.com".toList ++ ['/', 'o', 'c', 't', 'o'] := by rfl
  refine (recognizes_iff asciiHost _ hhosts _).mpr fun host hmem => ?_
  simp only [List.mem_cons, List.not_mem_nil, or_false] at hmem
  rcases hmem with rfl | rfl
  · refine ⟨fun rest hrest => (nomatch hrest), fun rest _ hrest => (nomatch hrest), fun _ _ => ?_⟩
    rintro (hdenotes | ⟨hscheme, -⟩)
    · exact absurd hdenotes (by decide)
    · exact nomatch hscheme
  · refine ⟨fun rest hrest => (nomatch hrest), fun rest _ hrest => ?_, fun _ hnot _ => ?_⟩
    · rw [htrim, List.append_cancel_left_eq] at hrest
      rw [← hrest]
      refine ends_of_delimiter hhost fun c hc => ?_
      rw [List.head?_cons, Option.some.injEq] at hc
      rw [← hc]
      rfl
    · exact hnot ⟨_, htrim.symm⟩

/-- A host that only begins with the host of the provider. -/
theorem evil_host_accepted :
    ¬ ∀ (hostParser : List Char → Option (List Char)) (hosts : List String),
    (∀ host ∈ hosts, IsHost hostParser host) → ∀ contextUrl,
      Recognizes hostParser hosts contextUrl := by
  intro hall
  have hhosts : ∀ host ∈ ["github.com"], IsHost asciiHost host := by
    intro host hmem
    rw [List.mem_singleton.mp hmem]
    exact isHost_asciiHost (by rfl) (by rfl)
  have hright := (hall asciiHost ["github.com"] hhosts "https://github.com.evil.example/octo").1
    "github.com" List.mem_cons_self
  exact absurd (hright.2 "https://github.com.evil.example/octo" (by rfl)) (by decide)

end Server

end Nxpod
