import Mathlib.Data.String.Basic
import Mathlib.Tactic.Common

/-!
# Text

The string operations of ECMAScript and Go that this development's programs
use, and the one fact about separators their keys rest on. A string is handled
as its list of characters. The two languages do not agree on what white space
is: a byte order mark is white space in ECMAScript only, and U+0085 only in Go.

A name built from parts with a separator between them can be taken apart again
when the separator occurs in none of the parts but the last
(`append_separator_inj`). The parts are usually a number or an identifier, so
`digits_ne` supplies the hypothesis for decimal numbers.

## Main definitions

* `isSpace`, `isUnicodeSpace`: White space, in ECMAScript and in Go.
* `trimWhere`: A text without certain characters at either end.
* `trim`, `trimSpace`: `String.prototype.trim`, and `strings.TrimSpace` of Go.
* `split`, `join`: `String.prototype.split` and `Array.prototype.join` with one
  character.
* `fields`: What is between white space.
* `parseInt`: `Number.parseInt` without a radix, exact at any length.

## Theorems

* `append_separator_inj`: Two texts cut at the first separator.
* `split_of_not_mem`, `split_append`, `split_join`: Splitting at the separators.
* `join_split`, `join_cons_cons`, `join_concat`: Joining the parts again, from either end.
* `fields_concat`: White space at the end.
* `splitOn_flatMap`: Splitting where every part is ended by a separator.
* `not_mem_or_exists_last`: The last separator.
* `trimWhere_eq_self`, `trimWhere_trimWhere`, `trimSpace_trimSpace`: Where there is nothing to
  trim.
* `of_forall_ascii`: A property of the characters of ASCII.
* `digits_ne`: A decimal numeral has no character but digits.
-/

namespace Nxpod

namespace Text

/-- White space and line terminators of ECMAScript. -/
def isSpace (c : Char) : Bool :=
  [0x9, 0xA, 0xB, 0xC, 0xD, 0x20, 0xA0, 0x1680, 0x2028, 0x2029, 0x202F, 0x205F, 0x3000,
    0xFEFF].contains c.toNat || (0x2000 ≤ c.toNat && c.toNat ≤ 0x200A)

/-- White space of Unicode, as Go's standard library has it. -/
def isUnicodeSpace (c : Char) : Bool :=
  [0x9, 0xA, 0xB, 0xC, 0xD, 0x20, 0x85, 0xA0, 0x1680, 0x2028, 0x2029, 0x202F, 0x205F,
    0x3000].contains c.toNat || (0x2000 ≤ c.toNat && c.toNat ≤ 0x200A)

/-- What is between white space. -/
def fields (cs : List Char) : List (List Char) :=
  (cs.splitOnP isUnicodeSpace).filter (· ≠ [])

/-- The text without the characters in question at either end. -/
def trimWhere (p : Char → Bool) (cs : List Char) : List Char :=
  ((cs.dropWhile p).reverse.dropWhile p).reverse

/-- `String.prototype.trim`. -/
def trim (s : String) : String := String.ofList (trimWhere isSpace s.toList)

/-- `strings.TrimSpace`. -/
def trimSpace (s : String) : String :=
  String.ofList (trimWhere isUnicodeSpace s.toList)

/-- The parts between separators. -/
def split (separator : Char) (s : String) : List String :=
  (s.toList.splitOn separator).map String.ofList

/-- The parts with a separator between them. -/
def join (separator : Char) (parts : List String) : String :=
  String.ofList ([separator].intercalate (parts.map String.toList))

/-- The value of a digit in a radix up to sixteen. -/
def digitValue (radix : Nat) (c : Char) : Option Nat :=
  let value :=
    if c.isDigit then some (c.toNat - '0'.toNat)
    else if 'a' ≤ c && c ≤ 'f' then some (c.toNat - 'a'.toNat + 10)
    else if 'A' ≤ c && c ≤ 'F' then some (c.toNat - 'A'.toNat + 10)
    else none
  value.filter (· < radix)

/-- The number the leading digits stand for, or `none` without any. -/
def leadingDigits (radix : Nat) (cs : List Char) : Option Nat :=
  match (cs.map (digitValue radix)).takeWhile Option.isSome with
  | [] => none
  | ds => some (ds.foldl (fun n d => n * radix + d.getD 0) 0)

/-- Digits after an optional sign, hexadecimal behind the prefix `0x`. -/
def magnitude : List Char → Option Nat
  | '0' :: 'x' :: rest => leadingDigits 16 rest
  | '0' :: 'X' :: rest => leadingDigits 16 rest
  | cs => leadingDigits 10 cs

/-- `Number.parseInt`, with `none` for a result that is not a number. -/
def parseInt (s : String) : Option Int :=
  match s.toList.dropWhile isSpace with
  | '-' :: rest => (magnitude rest).map fun n => -(n : Int)
  | '+' :: rest => (magnitude rest).map fun n => (n : Int)
  | rest => (magnitude rest).map fun n => (n : Int)

example : parseInt " 3000/" = some 3000 := by decide

/-- White space at the end does not matter. -/
theorem fields_concat {c : Char} (cs : List Char) (hc : isUnicodeSpace c = true) :
    fields (cs ++ [c]) = fields cs := by
  unfold fields
  rw [List.splitOnP_append_cons cs [] hc, List.filter_append, List.splitOnP_nil]
  simp only [ne_eq, List.filter_cons, not_true_eq_false, decide_false, Bool.false_eq_true, if_false,
    List.filter_nil, List.append_nil]

theorem ne_nil_of_mem_fields {cs field : List Char} (h : field ∈ fields cs) : field ≠ [] :=
  of_decide_eq_true (List.mem_filter.mp h).2

/-- Two texts that agree agree before and behind their first separator. -/
theorem append_separator_inj {α : Type*} {sep : α} {xs ys rest rest' : List α}
    (hx : sep ∉ xs) (hy : sep ∉ ys) (h : xs ++ sep :: rest = ys ++ sep :: rest') :
    xs = ys ∧ rest = rest' := by
  induction xs generalizing ys with
  | nil =>
      cases ys with
      | nil =>
          rw [List.nil_append, List.nil_append, List.cons.injEq] at h
          exact ⟨rfl, h.2⟩
      | cons y ys =>
          -- the second text would start with the separator
          rw [List.nil_append, List.cons_append, List.cons.injEq] at h
          exact absurd (List.mem_cons.mpr (Or.inl h.1)) hy
  | cons x xs ih =>
      cases ys with
      | nil =>
          rw [List.nil_append, List.cons_append, List.cons.injEq] at h
          exact absurd (List.mem_cons.mpr (Or.inl h.1.symm)) hx
      | cons y ys =>
          rw [List.cons_append, List.cons_append, List.cons.injEq] at h
          rcases h with ⟨hhead, htail⟩
          rcases ih (fun hc => hx (List.mem_cons_of_mem x hc))
            (fun hc => hy (List.mem_cons_of_mem y hc)) htail with ⟨htails, hrest⟩
          exact ⟨by rw [hhead, htails], hrest⟩

theorem split_of_not_mem {sep : Char} {s : String} (h : sep ∉ s.toList) : split sep s = [s] := by
  have hne : ∀ c ∈ s.toList, (c == sep) = false := by
    intro c hc
    refine beq_eq_false_iff_ne.mpr ?_
    rintro rfl
    exact h hc
  rw [split, List.splitOn_eq_splitOnP, List.splitOnP_eq_singleton hne, List.map_singleton,
    String.ofList_toList]

/-- What is before the first separator is the first part. -/
theorem split_append {sep : Char} {s t : String} (h : sep ∉ s.toList) :
    split sep (s ++ String.singleton sep ++ t) = s :: split sep t := by
  have hne : ∀ c ∈ s.toList, (c == sep) = false := by
    intro c hc
    refine beq_eq_false_iff_ne.mpr ?_
    rintro rfl
    exact h hc
  have hlist : (s ++ String.singleton sep ++ t).toList = s.toList ++ sep :: t.toList := by
    rw [String.toList_append, String.toList_append, String.toList_singleton, List.append_assoc]
    rfl
  rw [split, hlist, List.splitOn_eq_splitOnP,
    List.splitOnP_append_cons_of_forall_mem hne sep (beq_self_eq_true sep), List.map_cons,
    String.ofList_toList, split, List.splitOn_eq_splitOnP]

/-- Parts without a separator in them are found again. -/
theorem split_join {sep : Char} {parts : List String} (hne : parts ≠ [])
    (h : ∀ part ∈ parts, sep ∉ part.toList) : split sep (join sep parts) = parts := by
  rw [split, join, String.toList_ofList, List.splitOn_intercalate, List.map_map]
  · exact List.map_id'' (fun part => String.ofList_toList) parts
  · intro cs hcs
    rcases List.mem_map.mp hcs with ⟨part, hpart, rfl⟩
    exact h part hpart
  · exact fun hnil => hne (List.map_eq_nil_iff.mp hnil)

theorem split_ne_nil (sep : Char) (s : String) : split sep s ≠ [] := by
  rw [split, ne_eq, List.map_eq_nil_iff]
  exact List.splitOn_ne_nil _ _

theorem join_split (sep : Char) (s : String) : join sep (split sep s) = s := by
  apply String.toList_injective
  have hid : (String.toList ∘ String.ofList) = id := by
    funext cs
    exact String.toList_ofList
  rw [join, split, String.toList_ofList, List.map_map, hid, List.map_id]
  exact List.intercalate_splitOn _

theorem join_singleton (sep : Char) (part : String) : join sep [part] = part := by
  simp [join, List.intercalate]

theorem join_cons_cons (sep : Char) (part part' : String) (parts : List String) :
    join sep (part :: part' :: parts) =
      part ++ String.singleton sep ++ join sep (part' :: parts) := by
  apply String.toList_injective
  rw [String.toList_append, String.toList_append, String.toList_singleton]
  simp [join, List.intercalate]

theorem join_concat (sep : Char) {parts : List String} (hne : parts ≠ []) (part : String) :
    join sep (parts ++ [part]) = join sep parts ++ String.singleton sep ++ part := by
  induction parts with
  | nil => exact absurd rfl hne
  | cons first parts ih =>
      cases parts with
      | nil => rw [List.singleton_append, join_cons_cons, join_singleton, join_singleton]
      | cons second parts =>
          rw [List.cons_append, List.cons_append, join_cons_cons, ← List.cons_append,
            ih (List.cons_ne_nil second parts), join_cons_cons]
          simp only [String.append_assoc]

theorem not_mem_of_mem_split {sep : Char} {s part : String} (h : part ∈ split sep s) :
    sep ∉ part.toList := by
  have hparts : ∀ cs : List Char, ∀ ds ∈ cs.splitOn sep, sep ∉ ds := by
    intro cs
    induction cs with
    | nil =>
        intro ds hds
        rw [List.splitOn_nil, List.mem_singleton] at hds
        rw [hds]
        exact List.not_mem_nil
    | cons c cs ih =>
        intro ds hds
        rw [List.splitOn_cons_eq_if_modifyHead] at hds
        split at hds
        · rcases List.mem_cons.mp hds with rfl | hds
          · exact List.not_mem_nil
          · exact ih ds hds
        · next hc =>
            -- A character that does not separate goes to the first part.
            cases hrest : cs.splitOn sep with
            | nil => exact absurd hrest (List.splitOn_ne_nil sep cs)
            | cons first rest =>
                rw [hrest] at hds ih
                rcases List.mem_cons.mp hds with rfl | hds
                · intro hmem
                  rcases List.mem_cons.mp hmem with rfl | hmem
                  · exact hc (beq_self_eq_true sep)
                  · exact ih first List.mem_cons_self hmem
                · exact ih ds (List.mem_cons_of_mem first hds)
  rcases List.mem_map.mp h with ⟨cs, hcs, rfl⟩
  rw [String.toList_ofList]
  exact hparts s.toList cs hcs

/-- What holds of the codes below 128 holds of the characters of ASCII, so it
    can be checked by evaluation. -/
theorem of_forall_ascii (P : Char → Prop) (h : ∀ n < 128, P (Char.ofNat n)) {c : Char}
    (hc : c.toNat < 128) : P c := by
  have hcode := h c.toNat hc
  rw [Char.ofNat_toNat] at hcode
  exact hcode

/-- A text that starts and ends with characters to keep is kept. -/
theorem trimWhere_eq_self (p : Char → Bool) (cs : List Char)
    (hfirst : ∀ c, cs.head? = some c → p c = false)
    (hlast : ∀ c, cs.getLast? = some c → p c = false) : trimWhere p cs = cs := by
  have hdrop : ∀ ds : List Char, (∀ c, ds.head? = some c → p c = false) → ds.dropWhile p = ds := by
    intro ds hd
    cases ds with
    | nil => rfl
    | cons c ds => rw [List.dropWhile_cons_of_neg]; simp only [hd c rfl, Bool.false_eq_true,
        not_false_eq_true]
  rw [trimWhere, hdrop cs hfirst, hdrop cs.reverse, List.reverse_reverse]
  intro c hc
  exact hlast c (by rw [← hc, List.head?_reverse])

/-- What is left after trimming begins what is left after trimming in front. -/
theorem isPrefix_trimWhere (p : Char → Bool) (cs : List Char) :
    trimWhere p cs <+: cs.dropWhile p := by
  refine List.reverse_suffix.mp ?_
  rw [trimWhere, List.reverse_reverse]
  exact List.dropWhile_suffix p

theorem isInfix_trimWhere (p : Char → Bool) (cs : List Char) : trimWhere p cs <:+: cs :=
  (isPrefix_trimWhere p cs).isInfix.trans (List.dropWhile_suffix p).isInfix

theorem trimWhere_trimWhere (p : Char → Bool) (cs : List Char) :
    trimWhere p (trimWhere p cs) = trimWhere p cs := by
  have hhead : ∀ (ds : List Char) (c : Char), (ds.dropWhile p).head? = some c → p c = false := by
    intro ds c hc
    have hnot := List.head?_dropWhile_not p ds
    rwa [hc] at hnot
  refine trimWhere_eq_self p _ (fun c hc => ?_) fun c hc => ?_
  · rcases isPrefix_trimWhere p cs with ⟨rest, hrest⟩
    refine hhead cs c ?_
    rw [← hrest, List.head?_append, hc]
    rfl
  · refine hhead (cs.dropWhile p).reverse c ?_
    rw [← hc, trimWhere, List.getLast?_reverse]

theorem trimSpace_trimSpace (s : String) : trimSpace (trimSpace s) = trimSpace s := by
  rw [trimSpace, trimSpace, String.toList_ofList, trimWhere_trimWhere]

/-- A text whose parts are all ended by a separator. -/
theorem splitOn_flatMap {α : Type*} [DecidableEq α] {sep : α} {parts : List (List α)}
    (h : ∀ part ∈ parts, sep ∉ part) :
    (parts.flatMap fun part => part ++ [sep]).splitOn sep = parts ++ [[]] := by
  induction parts with
  | nil => rfl
  | cons part parts ih =>
      rw [List.flatMap_cons, List.append_assoc, List.singleton_append,
        List.splitOn_append_cons_self_of_not_mem (h part List.mem_cons_self),
        ih fun rest hrest => h rest (List.mem_cons_of_mem part hrest)]
      rfl

/-- A text has no separator or a last one. -/
theorem not_mem_or_exists_last {α : Type*} [DecidableEq α] (sep : α) (xs : List α) :
    sep ∉ xs ∨ ∃ ys rest, xs = ys ++ sep :: rest ∧ sep ∉ rest := by
  induction xs with
  | nil => exact Or.inl List.not_mem_nil
  | cons x xs ih =>
      rcases ih with hnone | ⟨ys, rest, rfl, hrest⟩
      · by_cases hx : x = sep
        · exact Or.inr ⟨[], xs, by rw [hx, List.nil_append], hnone⟩
        · exact Or.inl fun hmem => (List.mem_cons.mp hmem).elim (fun h => hx h.symm) hnone
      · exact Or.inr ⟨x :: ys, rest, rfl, hrest⟩

/-- A text with a separator is never one without. -/
theorem append_separator_ne {α : Type*} {sep : α} {xs ys rest : List α} (hy : sep ∉ ys) :
    xs ++ sep :: rest ≠ ys := by
  intro h
  refine hy ?_
  rw [← h]
  exact List.mem_append_right xs (List.mem_cons_self)

/-- A decimal numeral has no character but digits. -/
theorem digits_ne (n : Nat) (sep : Char) (hsep : sep.isDigit = false) :
    sep ∉ (toString n).toList := by
  intro hmem
  rw [Nat.toString_eq_repr, Nat.repr, String.toList_ofList] at hmem
  have hdigit := Nat.isDigit_of_mem_toDigits (by omega) (by omega) hmem
  rw [hsep] at hdigit
  exact absurd hdigit (by simp only [Bool.false_eq_true, not_false_eq_true])

end Text

end Nxpod
