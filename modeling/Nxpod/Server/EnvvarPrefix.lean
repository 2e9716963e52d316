import Nxpod.Library.Regex
import Nxpod.Library.Text

/-!
# Environment Variables Before a Context URL

A context URL may start with environment variables for the workspace. They are found with one
regular expression, which repeats a group for all pairs behind the first one, and they are read
from its groups.

A group in a repetition has the text of its last iteration, so the pairs between the first and the
last one are lost, and where there is only one pair the groups of the repetition are `undefined`
and become a variable of this name. The expression is not tied to the start of the URL either. It
finds a pair in the middle, and then as many characters are cut off from the start.

The parser of variables is the first of the parsers of prefixes. Others may come after it, as the
one of the enterprise edition that starts a prebuild, and a URL that this parser leaves alone goes
to them.

## Main definitions

* `decodeURIComponent`: The built-in function.
* `WithEnvvarsContext`: A context, and the variables if there are any.
* `IPrefixContextParser`: A parser for what may stand before them.
* `EnvvarPrefixParser.findPrefix`, `EnvvarPrefixParser.handle`: The parser of variables.
* `ContextParser.handle`: What happens to a context URL.
* `ContextParser`: All parsers, in the order in which they are asked.
* `contextParser`: The parsers of the server, with any others.
* `Pair`: A name and a value as they stand in a URL.
* `EncodedPair`: A pair whose value can be decoded.
* `Parses`, `Untouched`: What is asked of it.

## Theorems

* `runAt_pairsText`, `pairsText_of_runAt`: What the expression matches.
* `parses_iff`: Two pairs are parsed.
* `untouched_iff`: URLs without a pair anywhere are left alone.
* `handle_iff`: Both at once.
-/

namespace Nxpod

namespace Server

/-! ## Percent encoding -/

/-- The bytes of an encoded text. A percent sign without two digits behind it is none. -/
def percentBytes : List Char → Option (List UInt8)
  | [] => some []
  | '%' :: a :: b :: cs => match Text.digitValue 16 a, Text.digitValue 16 b with
    | some x, some y => (percentBytes cs).map (UInt8.ofNat (16 * x + y) :: ·)
    | _, _ => none
  | '%' :: _ => none
  | c :: cs => (percentBytes cs).map (String.utf8EncodeChar c ++ ·)

/-- The bytes have to be a text again. -/
def decodeURIComponent (cs : List Char) : Except String String :=
  match percentBytes cs with
  | none => .error "URI malformed"
  | some bytes => match String.fromUTF8? ⟨bytes.toArray⟩ with
    | none => .error "URI malformed"
    | some s => .ok s

/-! ## Context parsers -/

/-- A variable as it is stored. -/
structure UserEnvVarValue where
  /-- `undefined` for a group that took no part in a match. -/
  name : Option String
  value : String
  repositoryPattern : String
  deriving DecidableEq

/-- A context, and the variables if there are any. -/
structure WithEnvvarsContext (γ : Type) where
  context : γ
  envvars : Option (List UserEnvVarValue)

/-- A parser for URLs of some kind. -/
structure IContextParser (γ : Type) where
  normalize : String → Option String
  canHandle : String → Bool
  handle : String → Except String γ

/-- A parser for what may stand before them. -/
structure IPrefixContextParser (γ : Type) where
  normalize : String → Option String
  findPrefix : String → Option String
  handle : String → WithEnvvarsContext γ → Except String (WithEnvvarsContext γ)

variable {γ : Type}

open Regex

/-- `[\w-_]` -/
def isNameChar (c : Char) : Bool := c.isAlphanum || c == '_' || c == '-'

/-- `[^,/=]` -/
def isValueChar (c : Char) : Bool := c != ',' && c != '/' && c != '='

/-- The repetition in the expression. -/
def moreRegex : Regex :=
  star (group 3 (seq (word [',']) (seq (group 4 (plus (char isNameChar)))
    (seq (word ['=']) (group 5 (plus (char isValueChar)))))))

/-- A pair, then any number of pairs with a comma before each, and a slash. -/
def envvarRegexp : Regex :=
  seq (group 1 (plus (char isNameChar))) (seq (word ['='])
    (seq (group 2 (plus (char isValueChar))) (seq moreRegex (word ['/']))))

namespace EnvvarPrefixParser

def findPrefix (context : String) : Option String :=
  (exec envvarRegexp context.toList).map fun m => String.ofList m.text

/-- What is not there is converted to a text. -/
def decodeGroup : Option (List Char) → Except String String
  | none => .ok "undefined"
  | some text => decodeURIComponent text

/-- The first of three elements is the group as a whole. -/
def readEnvvars : List (Option (List Char)) → Except String (List UserEnvVarValue)
  | _ :: name :: value :: rest => match decodeGroup value with
    | .error err => .error err
    | .ok decoded => match readEnvvars rest with
      | .error err => .error err
      | .ok envvars => .ok (⟨name.map String.ofList, decoded, "#/#"⟩ :: envvars)
  | _ => .ok []

def handle (found : String) (context : WithEnvvarsContext γ) :
    Except String (WithEnvvarsContext γ) :=
  match exec envvarRegexp found.toList with
  | none => .ok context
  | some m =>
      match readEnvvars [some m.text, m.captures 1, m.captures 2, m.captures 3, m.captures 4,
        m.captures 5] with
      | .error err => .error err
      | .ok envvars => .ok { context with envvars := some envvars }

end EnvvarPrefixParser

/-- The parser for variables leaves a URL as it is. -/
def envvarPrefixParser : IPrefixContextParser γ where
  normalize := fun _ => none
  findPrefix := EnvvarPrefixParser.findPrefix
  handle := EnvvarPrefixParser.handle

/-- All parsers, in the order in which they are asked. -/
structure ContextParser (γ : Type) where
  prefixParser : List (IPrefixContextParser γ)
  allContextParsers : List (IContextParser γ)

namespace ContextParser

variable (parser : ContextParser γ)

/-- The first result that is not empty. -/
def firstTruthy (fs : List (String → Option String)) (s : String) : Option String :=
  fs.findSome? fun f => (f s).filter (· ≠ "")

/-- The first that has something to say is heard. -/
def normalizeContextURL (contextURL : String) : String :=
  (firstTruthy (parser.prefixParser.map IPrefixContextParser.normalize ++
    parser.allContextParsers.map IContextParser.normalize) contextURL).getD contextURL

def findPrefix (context : String) : Option (String × IPrefixContextParser γ) :=
  parser.prefixParser.findSome? fun p =>
    ((p.findPrefix context).filter (· ≠ "")).map fun found => (found, p)

/-- The context parser that can handle the URL handles it. -/
def parse (contextURL : String) : Except String (WithEnvvarsContext γ) :=
  match parser.allContextParsers.find? fun p => p.canHandle contextURL with
  | none => .error ("Couldn't parse context '" ++ contextURL ++ "'.")
  | some p => match p.handle contextURL with
    | .error err => .error err
    | .ok context => .ok ⟨context, none⟩

def handle (contextURL : String) : Except String (WithEnvvarsContext γ) :=
  match parser.findPrefix contextURL with
  | none => parser.parse contextURL
  | some (found, prefixParser) =>
      let rest := String.ofList (contextURL.toList.drop found.toList.length)
      match parser.parse (parser.normalizeContextURL rest) with
      | .error err => .error err
      | .ok result => prefixParser.handle found result

end ContextParser

/-- The parsers of the server, with further ones of prefixes. -/
def contextParser (further : List (IPrefixContextParser γ))
    (allContextParsers : List (IContextParser γ)) : ContextParser γ :=
  ⟨envvarPrefixParser :: further, allContextParsers⟩

/-! ## Pairs -/

/-- A name and a value as they stand in a URL. -/
structure Pair where
  name : List Char
  value : List Char
  nameChars : ∀ c ∈ name, isNameChar c = true
  valueChars : ∀ c ∈ value, isValueChar c = true

/-- A pair with nothing missing. -/
def Pair.Filled (p : Pair) : Prop := p.name ≠ [] ∧ p.value ≠ []

/-- A pair as it is written. -/
def Pair.text (p : Pair) : List Char := p.name ++ '=' :: p.value

/-- The pairs behind the first one and the slash. -/
def moreText : List Pair → List Char
  | [] => ['/']
  | p :: ps => ',' :: (p.text ++ moreText ps)

/-- Pairs with commas between them. -/
def pairsText (p : Pair) (ps : List Pair) : List Char := p.text ++ moreText ps

/-- A pair whose value can be decoded. -/
structure EncodedPair extends Pair where
  decoded : String
  decodes : decodeURIComponent value = .ok decoded

/-- The variable a pair stands for, for all repositories. -/
def EncodedPair.envvar (p : EncodedPair) : UserEnvVarValue :=
  ⟨some (String.ofList p.name), p.decoded, "#/#"⟩

/-- The pairs before the URL become variables, in their order, and the URL is handled. -/
def Parses (p : EncodedPair) (ps : List EncodedPair) (url : String) : Prop :=
  ∀ (γ : Type) (further : List (IPrefixContextParser γ))
      (allContextParsers : List (IContextParser γ)),
    let parser := contextParser further allContextParsers
    parser.handle (String.ofList (pairsText p.toPair (ps.map EncodedPair.toPair)) ++ url) =
      match parser.parse (parser.normalizeContextURL url) with
      | .error err => .error err
      | .ok result => .ok { result with envvars := some ((p :: ps).map EncodedPair.envvar) }

/-- The URL is handled as it would be without the parser of variables. -/
def Untouched (contextURL : String) : Prop :=
  ∀ (γ : Type) (further : List (IPrefixContextParser γ))
      (allContextParsers : List (IContextParser γ)),
    (contextParser further allContextParsers).handle contextURL =
      (⟨further, allContextParsers⟩ : ContextParser γ).handle contextURL

/-- Somewhere in the URL there are pairs and a slash. -/
def HasPairs (contextURL : String) : Prop :=
  ∃ before p ps rest, (∀ q ∈ p :: ps, Pair.Filled q) ∧
    contextURL.toList = before ++ (pairsText p ps ++ rest)

/-! ## The expression -/

/-- What the last pair leaves in the groups of the repetition. -/
def lastGroups (caps : Captures) (ps : List Pair) : Option (List Char) × Option (List Char) :=
  match ps.getLast? with
  | none => (caps 4, caps 5)
  | some q => (some q.name, some q.value)

theorem moreText_head? (ps : List Pair) (rest : List Char) :
    ∃ c cs, moreText ps ++ rest = c :: cs ∧ isValueChar c = false := by
  cases ps with
  | nil => exact ⟨'/', rest, rfl, rfl⟩
  | cons p ps => exact ⟨',', p.text ++ moreText ps ++ rest, rfl, rfl⟩

theorem run_moreRegex {ps : List Pair} (hps : ∀ p ∈ ps, p.Filled) (rest : List Char)
    (caps : Captures) :
    ∃ caps', run (seq moreRegex (word ['/'])) (fun rest caps => some (rest, caps))
        (moreText ps ++ rest) caps = some (rest, caps') ∧
      caps' 1 = caps 1 ∧ caps' 2 = caps 2 ∧ (caps' 4, caps' 5) = lastGroups caps ps := by
  induction ps generalizing caps with
  | nil =>
      refine ⟨caps, ?_, rfl, rfl, rfl⟩
      rw [run_seq, moreRegex, run_star, run_group, run_seq]
      rfl
  | cons p ps ih =>
      rcases hps p List.mem_cons_self with ⟨hname, hvalue⟩
      have hrest : ∀ q ∈ ps, q.Filled := fun q hq => hps q (List.mem_cons_of_mem p hq)
      -- What comes after the pair does not begin with a character of a value.
      rcases moreText_head? ps rest with ⟨c, cs, hmore, hc⟩
      have htext : moreText (p :: ps) ++ rest =
          ',' :: (p.name ++ '=' :: (p.value ++ (moreText ps ++ rest))) := by
        rw [moreText, Pair.text, List.cons_append, List.append_assoc, List.append_assoc,
          List.cons_append]
      rw [htext]
      generalize htext' : ',' :: (p.name ++ '=' :: (p.value ++ (moreText ps ++ rest))) = text
      -- the groups after the iteration that takes the pair
      rcases ih hrest ((((caps.forget [3, 4, 5]).set 4 p.name).set 5 p.value).set 3
        (text.take (text.length - (moreText ps ++ rest).length))) with
        ⟨caps', hrun, hname', hvalue', hlast⟩
      have hshorter : (moreText ps ++ rest).length < text.length := by
        simp only [← htext', List.length_cons, List.length_append]
        omega
      have hcomma : ∀ (k : Continuation (List Char × Captures)) (caps : Captures),
          run (word [',']) k text caps =
            k (p.name ++ '=' :: (p.value ++ (moreText ps ++ rest))) caps := by
        intro k caps
        rw [← htext']
        exact run_word [','] _
      have hequals : ∀ d, ('=' :: (p.value ++ (moreText ps ++ rest))).head? = some d →
          isNameChar d = false := by
        intro d hd
        rw [← Option.some.inj hd]
        rfl
      have hbehind : ∀ d, (moreText ps ++ rest).head? = some d → isValueChar d = false := by
        intro d hd
        rw [hmore] at hd
        rw [← Option.some.inj hd]
        exact hc
      refine ⟨caps', ?_, hname', hvalue', ?_⟩
      · -- The star goes on, as the iteration has taken at least the comma.
        rw [run_seq, moreRegex, run_star, Option.or_eq_some_iff]
        left
        rw [run_group, run_seq, hcomma, run_seq]
        refine run_group_plus_some hname p.nameChars hequals ?_
        rw [run_seq]
        refine (run_word ['='] _).trans ?_
        refine run_group_plus_some hvalue p.valueChars hbehind ?_
        rw [if_pos hshorter]
        exact hrun
      · -- The groups are those of the last pair, or of this one if there are no more.
        rw [hlast, lastGroups, lastGroups, List.getLast?_cons]
        cases ps.getLast? with
        | none => rfl
        | some q => rfl

theorem pairsText_append (p : Pair) (ps : List Pair) (rest : List Char) :
    pairsText p ps ++ rest = p.name ++ '=' :: (p.value ++ (moreText ps ++ rest)) := by
  rw [pairsText, Pair.text, List.append_assoc, List.append_assoc, List.cons_append]

/-- The expression takes all pairs before a URL. -/
theorem runAt_pairsText {p : Pair} {ps : List Pair} (hps : ∀ q ∈ p :: ps, q.Filled)
    (rest : List Char) :
    ∃ caps, envvarRegexp.runAt (pairsText p ps ++ rest) = some (rest, caps) ∧
      caps 1 = some p.name ∧ caps 2 = some p.value ∧
      (caps 4, caps 5) = lastGroups (fun _ => none) ps := by
  rcases hps p List.mem_cons_self with ⟨hname, hvalue⟩
  have hmore : ∀ q ∈ ps, q.Filled := fun q hq => hps q (List.mem_cons_of_mem p hq)
  rcases moreText_head? ps rest with ⟨c, cs, hcons, hc⟩
  -- A name ends with the sign, and a value ends where the next pair or the URL begins.
  have hequals : ∀ d, ('=' :: (p.value ++ (moreText ps ++ rest))).head? = some d →
      isNameChar d = false := by
    intro d hd
    rw [← Option.some.inj hd]
    rfl
  have hbehind : ∀ d, (moreText ps ++ rest).head? = some d → isValueChar d = false := by
    intro d hd
    rw [hcons] at hd
    rw [← Option.some.inj hd]
    exact hc
  rcases run_moreRegex hmore rest
    (Captures.set (Captures.set (fun _ => none) 1 p.name) 2 p.value) with
    ⟨caps, hrun, hname', hvalue', hlast⟩
  refine ⟨caps, ?_, hname', hvalue', ?_⟩
  · rw [runAt, pairsText_append, envvarRegexp, run_seq]
    refine run_group_plus_some hname p.nameChars hequals ?_
    rw [run_seq]
    refine (run_word ['='] _).trans ?_
    rw [run_seq]
    exact run_group_plus_some hvalue p.valueChars hbehind hrun
  · rw [hlast, lastGroups, lastGroups]
    cases ps.getLast? with
    | none => rfl
    | some q => rfl

theorem moreText_of_language {ws : List (List Char)}
    (hws : ∀ w ∈ ws, w ∈ (seq (word [',']) (seq (group 4 (plus (char isNameChar)))
      (seq (word ['=']) (group 5 (plus (char isValueChar)))))).language) :
    ∃ ps : List Pair, (∀ q ∈ ps, q.Filled) ∧ ws.flatten ++ ['/'] = moreText ps := by
  induction ws with
  | nil => exact ⟨[], nofun, rfl⟩
  | cons w ws ih =>
      rcases ih fun v hv => hws v (List.mem_cons_of_mem w hv) with ⟨ps, hps, hmore⟩
      rcases Language.mem_mul.mp (hws w List.mem_cons_self) with ⟨a, ha, b, hb, rfl⟩
      rcases Language.mem_mul.mp hb with ⟨name, hname, b', hb', rfl⟩
      rcases Language.mem_mul.mp hb' with ⟨e, he, value, hvalue, rfl⟩
      rcases mem_language_plus hname with ⟨hnonempty, hchars⟩
      rcases mem_language_plus hvalue with ⟨hnonempty', hchars'⟩
      refine ⟨⟨name, value, hchars, hchars'⟩ :: ps,
        List.forall_mem_cons.mpr ⟨⟨hnonempty, hnonempty'⟩, hps⟩, ?_⟩
      rw [List.flatten_cons, List.append_assoc, hmore, moreText, Pair.text,
        mem_language_word.mp ha, mem_language_word.mp he]
      rfl

/-- What the expression takes are pairs. -/
theorem pairsText_of_runAt {cs rest : List Char} {caps : Captures}
    (h : envvarRegexp.runAt cs = some (rest, caps)) :
    ∃ p ps, (∀ q ∈ p :: ps, Pair.Filled q) ∧ cs = pairsText p ps ++ rest := by
  rcases runAt_sound h with ⟨w, rfl, hw⟩
  rcases Language.mem_mul.mp hw with ⟨name, hname, b, hb, rfl⟩
  rcases Language.mem_mul.mp hb with ⟨e, he, b', hb', rfl⟩
  rcases Language.mem_mul.mp hb' with ⟨value, hvalue, b'', hb'', rfl⟩
  rcases Language.mem_mul.mp hb'' with ⟨more, hmore, slash, hslash, rfl⟩
  rcases Language.mem_kstar.mp hmore with ⟨ws, rfl, hws⟩
  rcases moreText_of_language hws with ⟨ps, hps, htext⟩
  rcases mem_language_plus hname with ⟨hnonempty, hchars⟩
  rcases mem_language_plus hvalue with ⟨hnonempty', hchars'⟩
  refine ⟨⟨name, value, hchars, hchars'⟩, ps,
    List.forall_mem_cons.mpr ⟨⟨hnonempty, hnonempty'⟩, hps⟩, ?_⟩
  rw [mem_language_word.mp he, mem_language_word.mp hslash, htext, pairsText_append]
  rw [List.append_assoc, List.append_assoc, List.append_assoc]
  rfl

/-! ## Parsing -/

theorem percentBytes_eq_nil {cs : List Char} (h : percentBytes cs = some []) : cs = [] := by
  unfold percentBytes at h
  split at h
  · rfl
  · split at h
    · exact absurd (Option.map_eq_some_iff.mp h) nofun
    · exact nomatch h
  · exact nomatch h
  · rcases Option.map_eq_some_iff.mp h with ⟨bytes, -, hbytes⟩
    exact absurd (List.append_eq_nil_iff.mp hbytes).1 String.utf8EncodeChar_ne_nil

/-- Only nothing is decoded to nothing. -/
theorem eq_nil_of_decode {cs : List Char} (h : decodeURIComponent cs = .ok "") : cs = [] := by
  unfold decodeURIComponent at h
  split at h
  · exact nomatch h
  · next bytes hbytes =>
      split at h
      · exact nomatch h
      · next s hs =>
          rw [Except.ok.inj h, String.fromUTF8?] at hs
          split at hs
          · next hvalid =>
              have hempty : (⟨bytes.toArray⟩ : ByteArray) = "".toByteArray :=
                congrArg String.toByteArray (Option.some.inj hs)
              have hnil : bytes = [] := congrArg (fun a => a.data.toList) hempty
              exact percentBytes_eq_nil (hbytes.trans (congrArg some hnil))
          · exact nomatch hs

/-- What the groups are read as: the first pair, and the last one of the others. -/
def readPairs (p : Pair) (ps : List Pair) : Except String (List UserEnvVarValue) :=
  match decodeURIComponent p.value with
  | .error err => .error err
  | .ok decoded =>
      match EnvvarPrefixParser.decodeGroup (ps.getLast?.map Pair.value) with
      | .error err => .error err
      | .ok decoded' => .ok [⟨some (String.ofList p.name), decoded, "#/#"⟩,
          ⟨ps.getLast?.map fun q => String.ofList q.name, decoded', "#/#"⟩]

theorem pairsText_ne_nil (p : Pair) (ps : List Pair) : pairsText p ps ≠ [] := by
  intro hnil
  have htext := (List.append_eq_nil_iff.mp hnil).1
  exact absurd (List.append_eq_nil_iff.mp htext).2 (List.cons_ne_nil _ _)

/-- The search finds the pairs before a URL, with the last pair in the groups behind the first. -/
theorem exec_pairsText {p : Pair} {ps : List Pair} (hps : ∀ q ∈ p :: ps, q.Filled)
    (rest : List Char) :
    ∃ caps, exec envvarRegexp (pairsText p ps ++ rest) = some ⟨[], pairsText p ps, caps⟩ ∧
      caps 1 = some p.name ∧ caps 2 = some p.value ∧
      caps 4 = ps.getLast?.map Pair.name ∧ caps 5 = ps.getLast?.map Pair.value := by
  rcases runAt_pairsText hps rest with ⟨caps, hrun, hname, hvalue, hlast⟩
  refine ⟨caps, exec_append (pairsText_ne_nil p ps) hrun, hname, hvalue, ?_⟩
  rw [lastGroups] at hlast
  cases hps' : ps.getLast? with
  | none =>
      rw [hps'] at hlast
      exact Prod.mk.inj hlast
  | some q =>
      rw [hps'] at hlast
      exact Prod.mk.inj hlast

/-- What is read of the groups are the first pair and the last one. -/
theorem handle_pairs {p : Pair} {ps : List Pair} (hps : ∀ q ∈ p :: ps, q.Filled)
    (context : WithEnvvarsContext γ) :
    EnvvarPrefixParser.handle (String.ofList (pairsText p ps)) context =
      match readPairs p ps with
      | .error err => .error err
      | .ok envvars => .ok { context with envvars := some envvars } := by
  rcases exec_pairsText hps [] with ⟨caps, hexec, hname, hvalue, hname', hvalue'⟩
  rw [List.append_nil] at hexec
  rw [EnvvarPrefixParser.handle, String.toList_ofList, hexec]
  dsimp only
  rw [hname, hvalue, hname', hvalue', readPairs]
  have hfirst : EnvvarPrefixParser.decodeGroup (some p.value) = decodeURIComponent p.value := rfl
  simp only [EnvvarPrefixParser.readEnvvars, Option.map_map, hfirst]
  cases decodeURIComponent p.value with
  | error err => rfl
  | ok decoded =>
      dsimp only
      cases EnvvarPrefixParser.decodeGroup (ps.getLast?.map Pair.value) with
      | error err => rfl
      | ok decoded' => rfl

theorem normalizeContextURL_contextParser (further : List (IPrefixContextParser γ))
    (allContextParsers : List (IContextParser γ)) :
    (contextParser further allContextParsers).normalizeContextURL =
      (⟨further, allContextParsers⟩ : ContextParser γ).normalizeContextURL :=
  rfl

/-- Where nothing is found the others handle the URL. -/
theorem handle_of_exec_eq_none {contextURL : String}
    (h : exec envvarRegexp contextURL.toList = none) : Untouched contextURL := by
  intro γ further allContextParsers
  have hfound : (contextParser further allContextParsers).findPrefix contextURL =
      (⟨further, allContextParsers⟩ : ContextParser γ).findPrefix contextURL := by
    simp only [ContextParser.findPrefix, contextParser, envvarPrefixParser,
      EnvvarPrefixParser.findPrefix, h, List.findSome?_cons, Option.map_none, Option.filter_none]
  rw [ContextParser.handle, ContextParser.handle, hfound, normalizeContextURL_contextParser]
  rfl

/-- What is found is cut off from the start, wherever it was, and becomes variables. -/
theorem handle_of_exec_eq_some {contextURL : String} {p : Pair} {ps : List Pair}
    {before : List Char} {caps : Captures} (hps : ∀ q ∈ p :: ps, q.Filled)
    (h : exec envvarRegexp contextURL.toList = some ⟨before, pairsText p ps, caps⟩)
    (further : List (IPrefixContextParser γ)) (allContextParsers : List (IContextParser γ)) :
    (contextParser further allContextParsers).handle contextURL =
      match (contextParser further allContextParsers).parse
        ((contextParser further allContextParsers).normalizeContextURL
          (String.ofList (contextURL.toList.drop (pairsText p ps).length))) with
      | .error err => .error err
      | .ok result => match readPairs p ps with
        | .error err => .error err
        | .ok envvars => .ok { result with envvars := some envvars } := by
  have hfound : (contextParser further allContextParsers).findPrefix contextURL =
      some (String.ofList (pairsText p ps), envvarPrefixParser) := by
    have hne : String.ofList (pairsText p ps) ≠ "" := fun hempty =>
      pairsText_ne_nil p ps (by rw [← String.toList_ofList (l := pairsText p ps), hempty]; rfl)
    simp only [ContextParser.findPrefix, contextParser, envvarPrefixParser,
      EnvvarPrefixParser.findPrefix, h, List.findSome?_cons, Option.map_some, Option.filter_some,
      decide_true, hne, ne_eq, not_false_eq_true, if_true]
  rw [ContextParser.handle, hfound]
  dsimp only
  rw [String.toList_ofList]
  cases (contextParser further allContextParsers).parse
    ((contextParser further allContextParsers).normalizeContextURL
      (String.ofList (contextURL.toList.drop (pairsText p ps).length))) with
  | error err => rfl
  | ok result => exact handle_pairs hps result

/-- The context parser that hands on what it is given. -/
def echoParser : IContextParser String where
  normalize := fun _ => none
  canHandle := fun _ => true
  handle := fun contextURL => .ok contextURL

theorem parse_echo (contextURL : String) :
    (contextParser [] [echoParser]).parse ((contextParser [] [echoParser]).normalizeContextURL
      contextURL) = .ok ⟨contextURL, none⟩ := rfl

theorem handle_echo (contextURL : String) :
    (⟨[], [echoParser]⟩ : ContextParser String).handle contextURL = .ok ⟨contextURL, none⟩ := rfl

/-- What is found is there. -/
theorem pairs_of_exec {contextURL : String} {m : Match}
    (h : exec envvarRegexp contextURL.toList = some m) :
    ∃ p ps rest, (∀ q ∈ p :: ps, Pair.Filled q) ∧ m.text = pairsText p ps ∧
      contextURL.toList = m.before ++ (pairsText p ps ++ rest) := by
  rcases exec_eq_some h with ⟨rest, hcs, hrun⟩
  rcases pairsText_of_runAt hrun with ⟨p, ps, hps, htext⟩
  have htext' := List.append_cancel_right htext
  exact ⟨p, ps, rest, hps, htext', htext' ▸ hcs⟩

/-- A URL is left alone exactly when there are no pairs anywhere in it. -/
theorem untouched_iff (contextURL : String) : Untouched contextURL ↔ ¬ HasPairs contextURL := by
  constructor
  · rintro huntouched ⟨before, p, ps, rest, hps, htext⟩
    cases hexec : exec envvarRegexp contextURL.toList with
    | none =>
        rcases runAt_pairsText hps rest with ⟨caps, hrun, -⟩
        rw [htext] at hexec
        rw [runAt_of_exec_eq_none hexec] at hrun
        exact nomatch hrun
    | some m =>
        rcases pairs_of_exec hexec with ⟨p', ps', rest', hps', hm, -⟩
        have hexec' : exec envvarRegexp contextURL.toList =
            some ⟨m.before, pairsText p' ps', m.captures⟩ := by rw [hexec, ← hm]
        -- with variables the context is another one
        have hecho := huntouched String [] [echoParser]
        rw [handle_of_exec_eq_some hps' hexec', parse_echo, handle_echo] at hecho
        dsimp only at hecho
        split at hecho
        · exact nomatch hecho
        · exact nomatch congrArg WithEnvvarsContext.envvars (Except.ok.inj hecho)
  · intro hnone
    refine handle_of_exec_eq_none ?_
    cases hexec : exec envvarRegexp contextURL.toList with
    | none => rfl
    | some m =>
        rcases pairs_of_exec hexec with ⟨p, ps, rest, hps, -, htext⟩
        exact absurd ⟨m.before, p, ps, rest, hps, htext⟩ hnone

/-- Two pairs are read as they are. -/
theorem readPairs_two (p q : EncodedPair) :
    readPairs p.toPair [q.toPair] = .ok [p.envvar, q.envvar] := by
  rw [readPairs, p.decodes]
  dsimp only [List.getLast?_singleton, Option.map_some]
  rw [EnvvarPrefixParser.decodeGroup, q.decodes]
  rfl

/-- A variable that was read is of no pair with something missing. -/
theorem filled_of_envvar_eq {p : Pair} {decoded : String} (hp : p.Filled)
    (hdecode : decodeURIComponent p.value = .ok decoded) {q : EncodedPair}
    (h : q.envvar = ⟨some (String.ofList p.name), decoded, "#/#"⟩) : q.Filled := by
  rcases hp with ⟨hname, hvalue⟩
  rw [EncodedPair.envvar, UserEnvVarValue.mk.injEq, Option.some.injEq, String.ofList_inj] at h
  refine ⟨fun hnil => hname (h.1 ▸ hnil), fun hnil => hvalue (eq_nil_of_decode ?_)⟩
  have hempty : decodeURIComponent [] = .ok "" := rfl
  rw [hdecode, ← h.2.1, ← q.decodes, hnil, hempty]

/-- What is read has two variables, and if all of them are from pairs nothing is missing. -/
theorem filled_of_readPairs {p : Pair} {ps : List Pair} {qs : List EncodedPair}
    (hps : ∀ q ∈ p :: ps, q.Filled) (h : readPairs p ps = .ok (qs.map EncodedPair.envvar)) :
    qs.length = 2 ∧ ∀ q ∈ qs, q.Filled := by
  unfold readPairs at h
  split at h
  · exact nomatch h
  · next decoded hdecode =>
      split at h
      · exact nomatch h
      · next decoded' hdecode' =>
          have hlength := congrArg List.length (Except.ok.inj h).symm
          rw [List.length_map] at hlength
          rcases List.length_eq_two.mp hlength with ⟨a, b, rfl⟩
          have hab := List.cons.inj (Except.ok.inj h).symm
          have hb := (List.cons.inj hab.2).1
          refine ⟨rfl, List.forall_mem_cons.mpr ⟨filled_of_envvar_eq (hps p List.mem_cons_self)
            hdecode hab.1, List.forall_mem_singleton.mpr ?_⟩⟩
          -- without a second pair the second variable has no name
          cases hlast : ps.getLast? with
          | none =>
              rw [hlast] at hb
              exact nomatch congrArg UserEnvVarValue.name hb
          | some q =>
              rw [hlast] at hb hdecode'
              have hq : q ∈ p :: ps := List.mem_cons_of_mem p (List.mem_of_getLast? hlast)
              exact filled_of_envvar_eq (hps q hq) hdecode' hb

/-- Pairs are parsed exactly when there are two of them, with nothing missing. -/
theorem parses_iff (p : EncodedPair) (ps : List EncodedPair) (url : String) :
    Parses p ps url ↔ ps.length = 1 ∧ ∀ q ∈ p :: ps, q.Filled := by
  generalize hcontext :
    String.ofList (pairsText p.toPair (ps.map EncodedPair.toPair)) ++ url = contextURL
  constructor
  · intro hparses
    -- A parser that answers with the URL it gets shows what the other ones get.
    have hecho := hparses String [] [echoParser]
    dsimp only at hecho
    rw [hcontext, parse_echo] at hecho
    cases hexec : exec envvarRegexp contextURL.toList with
    | none =>
        rw [handle_of_exec_eq_none hexec, handle_echo] at hecho
        exact nomatch congrArg WithEnvvarsContext.envvars (Except.ok.inj hecho)
    | some m =>
        rcases pairs_of_exec hexec with ⟨p', ps', rest, hps', hm, -⟩
        have hexec' : exec envvarRegexp contextURL.toList =
            some ⟨m.before, pairsText p' ps', m.captures⟩ := by rw [hexec, ← hm]
        rw [handle_of_exec_eq_some hps' hexec', parse_echo] at hecho
        dsimp only at hecho
        split at hecho
        · exact nomatch hecho
        · next envvars henvvars =>
            have heq := congrArg WithEnvvarsContext.envvars (Except.ok.inj hecho)
            rw [Option.some.inj heq] at henvvars
            rcases filled_of_readPairs hps' henvvars with ⟨hlength, hfilled⟩
            exact ⟨Nat.succ.inj hlength, hfilled⟩
  · rintro ⟨hlength, hfilled⟩ γ further allContextParsers
    rcases List.length_eq_one_iff.mp hlength with ⟨q, rfl⟩
    have hps : ∀ r ∈ p.toPair :: [q.toPair], r.Filled :=
      List.forall_mem_cons.mpr ⟨hfilled p List.mem_cons_self, List.forall_mem_singleton.mpr
        (hfilled q (List.mem_cons_of_mem p (List.mem_singleton_self q)))⟩
    have htext : contextURL.toList = pairsText p.toPair [q.toPair] ++ url.toList := by
      rw [← hcontext, String.toList_append, String.toList_ofList]
      rfl
    rcases exec_pairsText hps url.toList with ⟨caps, hexec, -⟩
    rw [← htext] at hexec
    have hrest : String.ofList (contextURL.toList.drop (pairsText p.toPair [q.toPair]).length) =
        url := by
      rw [htext, List.drop_left, String.ofList_toList]
    dsimp only
    rw [hcontext, handle_of_exec_eq_some hps hexec, hrest, readPairs_two]
    rfl

/-- Of the lists of pairs only those with two pairs and nothing missing are parsed, and of the
    URLs only those are left alone that have no pairs anywhere. The expression keeps the first
    and the last pair of a prefix, which are all of them when there are two, and it may find a
    prefix in the middle of a URL. -/
theorem handle_iff (p : EncodedPair) (ps : List EncodedPair) (url contextURL : String) :
    (Parses p ps url ↔ ps.length = 1 ∧ ∀ q ∈ p :: ps, q.Filled) ∧
      (Untouched contextURL ↔ ¬ HasPairs contextURL) :=
  ⟨parses_iff p ps url, untouched_iff contextURL⟩

/-- The pair `foo=bar`. -/
def fooBar : EncodedPair where
  name := ['f', 'o', 'o']
  value := ['b', 'a', 'r']
  nameChars := List.all_eq_true.mp rfl
  valueChars := List.all_eq_true.mp rfl
  decoded := "bar"
  decodes := rfl

/-- One pair becomes two variables, and a branch's name becomes variables too. -/
theorem single_pair_not_parsed :
    ¬ Parses fooBar [] "https://github.com/khulnasoft/nxpod" ∧
      ¬ Untouched "https://github.com/khulnasoft/nxpod/tree/foo=bar/baz" := by
  refine ⟨fun h => ?_, fun h => ?_⟩
  · exact nomatch ((parses_iff _ _ _).mp h).1
  · refine (untouched_iff _).mp h ⟨"https://github.com/khulnasoft/nxpod/tree/".toList,
      fooBar.toPair, [], "baz".toList, ?_, rfl⟩
    exact List.forall_mem_singleton.mpr ⟨List.cons_ne_nil _ _, List.cons_ne_nil _ _⟩

end Server

end Nxpod
