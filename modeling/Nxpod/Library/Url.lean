import Mathlib.Data.List.DropRight
import Mathlib.Tactic.Common
import Nxpod.Library.Text

/-!
# The Host of a URL

How the URL parser of the web reads the host of a URL with the scheme `https`, which is more than
looking at its beginning. Control characters and spaces around the URL are cut off and tabs and line
ends are removed from it. The scheme may be in upper case, and there may be any number of slashes
behind it, forward or backward. The authority goes on to the next slash, question mark or hash.
What is before its last `@` is user information, and a port may follow the host.

The host itself is decoded, normalized and checked by a host parser, which is a parameter.

## Main definitions

* `clean`: What is left of the input.
* `scheme`: The scheme, if there is one.
* `authority`, `hostText`: The parts of the rest.
* `hostPort`: The host with its port, unless it is the default one.
* `httpsHost`: The host of a URL.

## Theorems

* `clean_append`: A beginning without anything to remove.
* `scheme_https`, `authority_append`, `hostText_append`: One part after the other.
* `httpsHost_append`: The host of a URL that begins with a scheme and a name.
-/

namespace Nxpod

namespace Url

open Text

/-- Control characters and the space are cut off at both ends. -/
def isC0ControlOrSpace (c : Char) : Bool :=
  c.toNat ≤ 0x20

/-- Tabs and line ends are removed wherever they are. -/
def isTabOrNewline (c : Char) : Bool :=
  c == '\t' || c == '\n' || c == '\r'

/-- A slash of either kind, as the parser takes them for special schemes. -/
def isSlash (c : Char) : Bool :=
  c == '/' || c == '\\'

/-- What ends an authority. -/
def isDelimiter (c : Char) : Bool :=
  isSlash c || c == '?' || c == '#'

/-- A character of a scheme. -/
def isSchemeChar (c : Char) : Bool :=
  c.isAlphanum || c == '+' || c == '-' || c == '.'

/-- The text before it is looked at. -/
def clean (cs : List Char) : List Char :=
  (trimWhere isC0ControlOrSpace cs).filter fun c => !isTabOrNewline c

/-- The scheme in lower case, and what is behind its colon. -/
def scheme (cs : List Char) : Option (List Char × List Char) :=
  match cs with
  | [] => none
  | c :: _ =>
      if c.isAlpha then
        match cs.dropWhile isSchemeChar with
        | ':' :: rest => some ((cs.takeWhile isSchemeChar).map Char.toLower, rest)
        | _ => none
      else none

/-- What is behind the scheme, without its slashes. -/
def authority (cs : List Char) : List Char :=
  (cs.dropWhile isSlash).takeWhile fun c => !isDelimiter c

/-- What is behind the user information, which is all before the last `@`. -/
def hostText (cs : List Char) : List Char :=
  cs.rtakeWhile fun c => c != '@'

/-- The host, and the port if there is a colon. In brackets a colon belongs to the host. -/
def splitPort : Bool → List Char → List Char × Option (List Char)
  | _, [] => ([], none)
  | inside, c :: cs =>
      if c = ':' ∧ inside = false then ([], some cs)
      else
        let inside := if c = '[' then true else if c = ']' then false else inside
        (c :: (splitPort inside cs).1, (splitPort inside cs).2)

/-- The number of a port. -/
def portNumber (digits : List Char) : Nat :=
  digits.foldl (fun n d => n * 10 + (d.toNat - '0'.toNat)) 0

/-- What a port adds to the host, or `none` if there is no such port. -/
def portSuffix (digits : List Char) : Option (List Char) :=
  if ¬ digits.all Char.isDigit then none
  else if digits = [] ∨ portNumber digits = 443 then some []
  else if portNumber digits > 65535 then none
  else some (':' :: (toString (portNumber digits)).toList)

variable (hostParser : List Char → Option (List Char))

/-- The host with the port, unless this is the default one. -/
def hostPort (cs : List Char) : Option (List Char) :=
  if (splitPort false cs).1 = [] then none
  else match hostParser (splitPort false cs).1 with
    | none => none
    | some host => match (splitPort false cs).2 with
      | none => some host
      | some digits => (portSuffix digits).map (host ++ ·)

/-- The host of a URL with the scheme `https`. -/
def httpsHost (cs : List Char) : Option (List Char) :=
  match scheme (clean cs) with
  | none => none
  | some (name, rest) =>
      if name = ['h', 't', 't', 'p', 's'] then hostPort hostParser (hostText (authority rest))
      else none

/-! ## A known beginning -/

/-- Characters that stay where they are and belong to a host. -/
def isPlain (c : Char) : Bool :=
  !isC0ControlOrSpace c && !isDelimiter c && c != '@'

variable {hostParser} {cs rest : List Char}

theorem rdropWhile_append {p : Char → Bool} (hlast : ∀ c, cs.getLast? = some c → p c = false)
    (rest : List Char) : (cs ++ rest).rdropWhile p = cs ++ rest.rdropWhile p := by
  have hkeep : cs.reverse.dropWhile p = cs.reverse := by
    cases hrev : cs.reverse with
    | nil => rfl
    | cons c ds =>
        have hc : p c = false := hlast c (by rw [← List.head?_reverse, hrev]; rfl)
        rw [List.dropWhile_cons_of_neg]
        rw [hc]
        exact Bool.false_ne_true
  rw [List.rdropWhile, List.rdropWhile, List.reverse_append, List.dropWhile_append, hkeep]
  split
  · next hnil =>
      rw [List.isEmpty_iff.mp hnil, List.reverse_nil, List.append_nil, List.reverse_reverse]
  · rw [List.reverse_append, List.reverse_reverse]

/-- What is cut off and removed behind a beginning that stays. -/
def cleanRest (rest : List Char) : List Char :=
  (rest.rdropWhile isC0ControlOrSpace).filter fun c => !isTabOrNewline c

/-- What is no control character is neither a tab nor a line end. -/
theorem not_isTabOrNewline {c : Char} (h : isC0ControlOrSpace c = false) :
    isTabOrNewline c = false := by
  have hcode : 0x20 < c.toNat := by
    simpa [isC0ControlOrSpace] using h
  have hne : ∀ d : Char, d.toNat ≤ 0x20 → (c == d) = false := by
    intro d hd
    refine beq_eq_false_iff_ne.mpr ?_
    rintro rfl
    omega
  rw [isTabOrNewline, hne '\t' (by decide), hne '\n' (by decide), hne '\r' (by decide)]
  rfl

/-- A beginning without control characters is left as it is. -/
theorem clean_append (hne : cs ≠ []) (hcs : ∀ c ∈ cs, isC0ControlOrSpace c = false)
    (rest : List Char) : clean (cs ++ rest) = cs ++ cleanRest rest := by
  have hdrop : (cs ++ rest).dropWhile isC0ControlOrSpace = cs ++ rest := by
    cases cs with
    | nil => exact absurd rfl hne
    | cons c ds =>
        rw [List.cons_append, List.dropWhile_cons_of_neg]
        rw [hcs c List.mem_cons_self]
        exact Bool.false_ne_true
  have htrim : trimWhere isC0ControlOrSpace (cs ++ rest) =
      cs ++ rest.rdropWhile isC0ControlOrSpace := by
    rw [trimWhere, hdrop]
    exact rdropWhile_append (fun c hc => hcs c (List.mem_of_getLast? hc)) rest
  have hfilter : cs.filter (fun c => !isTabOrNewline c) = cs := by
    rw [List.filter_eq_self]
    intro c hc
    rw [not_isTabOrNewline (hcs c hc)]
    rfl
  rw [clean, htrim, List.filter_append, hfilter, cleanRest]

/-- The URL begins with the scheme and two slashes. -/
def httpsPrefix : List Char :=
  ['h', 't', 't', 'p', 's', ':', '/', '/']

theorem all_httpsPrefix : httpsPrefix.all (fun c => !isC0ControlOrSpace c) = true := by
  rfl

theorem scheme_https (rest : List Char) :
    scheme (httpsPrefix ++ rest) = some (['h', 't', 't', 'p', 's'], '/' :: '/' :: rest) :=
  rfl

/-- What has no delimiter in it belongs to the authority. -/
theorem authority_append (hne : cs ≠ []) (hcs : ∀ c ∈ cs, isDelimiter c = false)
    (rest : List Char) : authority ('/' :: '/' :: (cs ++ rest)) =
      cs ++ rest.takeWhile fun c => !isDelimiter c := by
  have hslash : (cs ++ rest).dropWhile isSlash = cs ++ rest := by
    cases cs with
    | nil => exact absurd rfl hne
    | cons c ds =>
        have hc := hcs c List.mem_cons_self
        rw [isDelimiter, Bool.or_eq_false_iff, Bool.or_eq_false_iff] at hc
        rw [List.cons_append, List.dropWhile_cons_of_neg]
        rw [hc.1.1]
        exact Bool.false_ne_true
  have hall : ∀ c ∈ cs, (!isDelimiter c) = true := by
    intro c hc
    rw [hcs c hc]
    rfl
  rw [authority, List.dropWhile_cons_of_pos (by rfl), List.dropWhile_cons_of_pos (by rfl), hslash,
    List.takeWhile_append_of_pos hall]

/-- Behind a beginning without user information there is either more of the host, or all before
was user information. -/
theorem hostText_append (hcs : '@' ∉ cs) (rest : List Char) :
    hostText (cs ++ rest) = if '@' ∈ rest then hostText rest else cs ++ rest := by
  have hne : ∀ ds : List Char, '@' ∉ ds → ∀ c ∈ ds, (c != '@') = true := by
    intro ds hds c hc
    refine bne_iff_ne.mpr ?_
    rintro rfl
    exact hds hc
  by_cases hat : '@' ∈ rest
  · rw [if_pos hat, hostText, hostText, List.rtakeWhile, List.rtakeWhile, List.reverse_append,
      List.takeWhile_append]
    split
    · next hlength =>
        -- Then the rest would have no `@`.
        have hself := (List.takeWhile_prefix (fun c => c != '@')).eq_of_length hlength
        exact absurd (List.takeWhile_eq_self_iff.mp hself '@' (List.mem_reverse.mpr hat))
          (by decide)
    · rfl
  · rw [if_neg hat, hostText, List.rtakeWhile_eq_self_iff]
    intro c hc
    rcases List.mem_append.mp hc with hc | hc
    · exact hne cs hcs c hc
    · exact hne rest hat c hc

/-- The host of a URL that begins with the scheme and characters of a host. -/
theorem httpsHost_append (hne : cs ≠ []) (hcs : ∀ c ∈ cs, isPlain c = true) (rest : List Char) :
    httpsHost hostParser (httpsPrefix ++ cs ++ rest) =
      if '@' ∈ (cleanRest rest).takeWhile fun c => !isDelimiter c then
        hostPort hostParser (hostText ((cleanRest rest).takeWhile fun c => !isDelimiter c))
      else hostPort hostParser (cs ++ (cleanRest rest).takeWhile fun c => !isDelimiter c) := by
  have hplain : ∀ c ∈ cs, isC0ControlOrSpace c = false ∧ isDelimiter c = false ∧ c ≠ '@' := by
    intro c hc
    have hplain := hcs c hc
    rw [isPlain, Bool.and_eq_true, Bool.and_eq_true, Bool.not_eq_true', Bool.not_eq_true'] at hplain
    exact ⟨hplain.1.1, hplain.1.2, bne_iff_ne.mp hplain.2⟩
  have hbegin : ∀ c ∈ httpsPrefix ++ cs, isC0ControlOrSpace c = false := by
    intro c hc
    rcases List.mem_append.mp hc with hc | hc
    · simpa only [Bool.not_eq_true'] using List.all_eq_true.mp all_httpsPrefix c hc
    · exact (hplain c hc).1
  have hat : '@' ∉ cs := fun hmem => (hplain '@' hmem).2.2 rfl
  rw [httpsHost, clean_append (by simp [httpsPrefix]) hbegin, List.append_assoc, scheme_https]
  simp only [if_pos]
  rw [authority_append hne fun c hc => (hplain c hc).2.1, hostText_append hat]
  split <;> rfl

end Url

end Nxpod
