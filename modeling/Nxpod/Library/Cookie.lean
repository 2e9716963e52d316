import Nxpod.Library.Text

/-!
# Cookie Headers

Cookies as Go's `net/http` reads them from a request and writes them back. A
cookie is a name, which is a token, and a value from a range of printable
characters. Reading drops whatever is not of that form, so validity is part of
the type here. A character stands for a byte; a byte above ASCII is valid in
neither place and may be any character above ASCII.

Writing quotes a value that contains a space or a comma, and reading takes one
pair of quotes away. Neither changes the cookie, which is the round trip
`readCookies_map_string`.

## Main definitions

* `Cookie`: A cookie with a valid name and value.
* `readCookies`: The cookies of the lines of a header.
* `Cookie.string`: A line with one cookie.

## Theorems

* `lineParts_of_plain`: A line without semicolons is one part.
* `parsePart_string`: A written cookie is parsed back.
* `readCookies_map_string`: So are all of them, in order.
-/

namespace Nxpod

namespace Cookies

open Text

/-- The quotation mark. -/
def quote : Char := Char.ofNat 0x22

/-- The characters of a token. -/
def isTokenChar (c : Char) : Bool :=
  c.toNat < 0x7F && (c.isAlphanum || "!#$%&'*+-.^_`|~".toList.contains c)

/-- A name is a token. -/
def isCookieNameValid (name : String) : Bool := name ≠ "" && name.toList.all isTokenChar

/-- Printable, and no quote, semicolon or backslash. -/
def validCookieValueByte (c : Char) : Bool :=
  0x20 ≤ c.toNat && c.toNat < 0x7F && c ≠ quote && c ≠ ';' && c.toNat ≠ 0x5C

/-- A value is of printable characters. -/
def isCookieValueValid (value : String) : Bool := value.toList.all validCookieValueByte

/-- A cookie whose name and value are valid. -/
structure Cookie where
  name : String
  value : String
  name_valid : isCookieNameValid name = true
  value_valid : isCookieValueValid value = true
  deriving DecidableEq

/-- The parts of a line between semicolons. What has been read of the current
    part is kept in reverse. A semicolon where a part would start separates
    nothing: the rest of the line is one part. -/
def lineParts (part : List Char) : List Char → List (List Char)
  | [] => if part = [] then [] else [part.reverse]
  | c :: rest =>
    if c = ';' then
      if part = [] then [c :: rest] else part.reverse :: lineParts [] rest
    else lineParts (c :: part) rest

/-- The value without one pair of quotes around it. -/
def unquote (raw : List Char) : List Char :=
  match raw with
  | [] => []
  | c :: rest => if c = quote ∧ rest.getLast? = some quote then rest.dropLast else raw

/-- The cookie a part of a line stands for, if it is a valid one. -/
def parsePart (part : List Char) : Option Cookie :=
  let part := trimWhere isUnicodeSpace part
  let name := String.ofList (part.takeWhile (· ≠ '='))
  let value := String.ofList (unquote (part.dropWhile (· ≠ '=')).tail)
  if hname : isCookieNameValid name = true then
    if hvalue : isCookieValueValid value = true then some ⟨name, value, hname, hvalue⟩ else none
  else none

/-- The cookies of all header lines. A part that is no cookie is skipped. -/
def readCookies (lines : List String) : List Cookie :=
  lines.flatMap fun line =>
    (lineParts [] (trimWhere isUnicodeSpace line.toList)).filterMap parsePart

/-- The value as it is written: in quotes where it has a space or a comma. -/
def sanitizeCookieValue (value : String) : String :=
  let v := value.toList.filter validCookieValueByte
  if v.contains ' ' || v.contains ',' then String.ofList (quote :: v ++ [quote])
  else String.ofList v

/-- The cookie as it is written. -/
def Cookie.string (c : Cookie) : String := c.name ++ "=" ++ sanitizeCookieValue c.value

theorem isTokenChar_props {c : Char} (h : isTokenChar c = true) :
    isUnicodeSpace c = false ∧ c ≠ ';' ∧ c ≠ '=' := by
  have hascii : c.toNat < 128 := by
    simp only [isTokenChar, Bool.and_eq_true, decide_eq_true_eq] at h
    omega
  exact of_forall_ascii
    (fun c => isTokenChar c = true → isUnicodeSpace c = false ∧ c ≠ ';' ∧ c ≠ '=')
    (by decide +kernel) hascii h

/-- A character of a value ends neither the value nor the cookie. -/
theorem validCookieValueByte_props {c : Char} (h : validCookieValueByte c = true) :
    (c ≠ ' ' → isUnicodeSpace c = false) ∧ c ≠ ';' ∧ c ≠ quote := by
  have hascii : c.toNat < 128 := by
    simp only [validCookieValueByte, Bool.and_eq_true, decide_eq_true_eq] at h
    omega
  exact of_forall_ascii
    (fun c => validCookieValueByte c = true →
      (c ≠ ' ' → isUnicodeSpace c = false) ∧ c ≠ ';' ∧ c ≠ quote)
    (by decide +kernel) hascii h

/-- A line without semicolons is one part. -/
theorem lineParts_of_plain (part line : List Char) (hline : ';' ∉ line)
    (hne : part ≠ [] ∨ line ≠ []) : lineParts part line = [part.reverse ++ line] := by
  induction line generalizing part with
  | nil =>
      have hpart : part ≠ [] := by simpa only [ne_eq, not_true_eq_false, or_false] using hne
      rw [lineParts, if_neg hpart, List.append_nil]
  | cons c line ih =>
      have hc : c ≠ ';' := fun hc => hline (hc ▸ List.mem_cons_self)
      rw [lineParts, if_neg hc, ih (c :: part) (fun h => hline (List.mem_cons_of_mem c h))
        (Or.inl (List.cons_ne_nil c part)), List.reverse_cons, List.append_assoc,
        List.singleton_append]

/-- The value as written, without what validity makes superfluous. -/
theorem sanitizeCookieValue_eq (c : Cookie) :
    (sanitizeCookieValue c.value).toList =
      if c.value.toList.contains ' ' || c.value.toList.contains ',' then
        quote :: c.value.toList ++ [quote]
      else c.value.toList := by
  have hfilter : c.value.toList.filter validCookieValueByte = c.value.toList :=
    List.filter_eq_self.mpr (List.all_eq_true.mp c.value_valid)
  simp only [sanitizeCookieValue, hfilter]
  split_ifs <;> rw [String.toList_ofList]

/-- Reading a written value takes the quotes away again. -/
theorem unquote_sanitizeCookieValue (c : Cookie) :
    unquote (sanitizeCookieValue c.value).toList = c.value.toList := by
  have hvalid := List.all_eq_true.mp c.value_valid
  rw [sanitizeCookieValue_eq]
  split_ifs with hspecial
  · -- the text behind the first quote ends with the second
    have hlast : (c.value.toList ++ [quote]).getLast? = some quote := List.getLast?_concat
    rw [List.cons_append, unquote, if_pos ⟨rfl, hlast⟩, List.dropLast_concat]
  · -- a value does not start with a quote
    cases hvalue : c.value.toList with
    | nil => rfl
    | cons first rest =>
        have hfirst : first ≠ quote :=
          (validCookieValueByte_props (hvalid first (hvalue ▸ List.mem_cons_self))).2.2
        rw [unquote, if_neg (fun hc => hfirst hc.1)]

theorem string_toList (c : Cookie) :
    c.string.toList = c.name.toList ++ '=' :: (sanitizeCookieValue c.value).toList := by
  simp only [Cookie.string, String.toList_append, List.append_assoc]
  rfl

theorem name_chars (c : Cookie) {ch : Char} (h : ch ∈ c.name.toList) :
    isUnicodeSpace ch = false ∧ ch ≠ ';' ∧ ch ≠ '=' := by
  have hvalid := c.name_valid
  simp only [isCookieNameValid, Bool.and_eq_true] at hvalid
  exact isTokenChar_props (List.all_eq_true.mp hvalid.2 ch h)

theorem name_ne_nil (c : Cookie) : c.name.toList ≠ [] := by
  have hvalid := c.name_valid
  simp only [isCookieNameValid, Bool.and_eq_true, decide_eq_true_eq] at hvalid
  intro hc
  exact hvalid.1 (String.toList_inj.mp hc)

theorem semicolon_notMem_string (c : Cookie) : ';' ∉ c.string.toList := by
  have hvalid := List.all_eq_true.mp c.value_valid
  -- not in the name, nor the equals sign, nor in the value, quoted or not
  rw [string_toList, sanitizeCookieValue_eq, List.mem_append, List.mem_cons]
  rintro (hname | heq | hvalue)
  · exact (name_chars c hname).2.1 rfl
  · exact absurd heq (by decide)
  · split_ifs at hvalue
    · rcases List.mem_append.mp hvalue with hfront | hback
      · rcases List.mem_cons.mp hfront with hquote | hmem
        · exact absurd hquote (by decide)
        · exact (validCookieValueByte_props (hvalid _ hmem)).2.1 rfl
      · exact absurd (List.mem_singleton.mp hback) (by decide)
    · exact (validCookieValueByte_props (hvalid _ hvalue)).2.1 rfl

/-- A written value does not end with a space: it would be in quotes. -/
theorem sanitizeCookieValue_last (c : Cookie) {ch : Char}
    (h : (sanitizeCookieValue c.value).toList.getLast? = some ch) : isUnicodeSpace ch = false := by
  have hvalid := List.all_eq_true.mp c.value_valid
  rw [sanitizeCookieValue_eq] at h
  split_ifs at h with hspecial
  · rw [List.getLast?_concat, Option.some.injEq] at h
    rw [← h]
    decide
  · have hmem : ch ∈ c.value.toList := List.mem_of_getLast? h
    refine (validCookieValueByte_props (hvalid ch hmem)).1 (fun hc => ?_)
    simp only [Bool.or_eq_true, List.contains_eq_mem, decide_eq_true_eq, not_or] at hspecial
    exact hspecial.1 (hc ▸ hmem)

/-- There is nothing to trim on a written line. -/
theorem trimWhere_string (c : Cookie) :
    trimWhere isUnicodeSpace c.string.toList = c.string.toList := by
  -- it starts with the name and ends with the value or the equals sign
  refine trimWhere_eq_self isUnicodeSpace _ (fun ch hch => ?_) (fun ch hch => ?_)
  · rw [string_toList, List.head?_append_of_ne_nil _ (name_ne_nil c)] at hch
    exact (name_chars c (List.mem_of_head? hch)).1
  · rw [string_toList, List.getLast?_append_of_ne_nil _ (List.cons_ne_nil _ _)] at hch
    cases hvalue : (sanitizeCookieValue c.value).toList with
    | nil =>
        rw [hvalue, List.getLast?_singleton, Option.some.injEq] at hch
        rw [← hch]
        decide
    | cons first rest =>
        rw [hvalue, List.getLast?_cons_cons] at hch
        exact sanitizeCookieValue_last c (hvalue ▸ hch)

/-- A written cookie is parsed back. -/
theorem parsePart_string (c : Cookie) : parsePart c.string.toList = some c := by
  -- the name ends at the first equals sign, for it contains none
  have hname : ∀ ch ∈ c.name.toList, decide (ch ≠ '=') = true := fun ch hch =>
    decide_eq_true (name_chars c hch).2.2
  have htake : c.string.toList.takeWhile (· ≠ '=') = c.name.toList := by
    rw [string_toList, List.takeWhile_append_of_pos hname]
    exact List.append_nil _
  have hdrop : (c.string.toList.dropWhile (· ≠ '=')).tail =
      (sanitizeCookieValue c.value).toList := by
    rw [string_toList, List.dropWhile_append_of_pos hname]
    rfl
  unfold parsePart
  simp only [trimWhere_string, htake, hdrop, unquote_sanitizeCookieValue, String.ofList_toList,
    c.name_valid, c.value_valid, dif_pos]

/-- Written cookies, one a line, are read back in order. -/
theorem readCookies_map_string (cs : List Cookie) : readCookies (cs.map Cookie.string) = cs := by
  induction cs with
  | nil => rfl
  | cons c cs ih =>
      have hline : lineParts [] c.string.toList = [c.string.toList] := by
        rw [lineParts_of_plain [] _ (semicolon_notMem_string c)]
        · rfl
        · rw [string_toList]
          exact Or.inr (List.append_ne_nil_of_right_ne_nil _ (List.cons_ne_nil _ _))
      unfold readCookies at ih ⊢
      rw [List.map_cons, List.flatMap_cons, ih, trimWhere_string, hline]
      simp only [List.filterMap_cons, parsePart_string, List.filterMap_nil, List.singleton_append]

end Cookies

end Nxpod
