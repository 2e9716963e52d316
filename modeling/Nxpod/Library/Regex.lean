import Mathlib.Computability.Language
import Mathlib.Data.List.TakeWhile

/-!
# Regular Expressions

A backtracking matcher with groups, in the style of a specification by continuations: what matches
an expression is handed what is to be matched behind it, and a choice is taken back when that
fails. Repetitions are greedy and no iteration is empty, so the remaining text bounds their
number.

Most expressions of programs are written so that a repetition ends where its last character can no
longer go on, since what follows it starts with another one. Then there is nothing to take back,
and the matcher is a plain function of the text.

## Main definitions

* `Regex`: The expressions.
* `Regex.run`: The matcher.
* `Match`: A match in a text.
* `Regex.exec`: The leftmost match in a text.
* `Regex.language`: The texts that match.

## Theorems

* `run_char_cons`, `run_seq`, `run_group`: The equations of the matcher.
* `run_star`: A repetition, one iteration at a time.
* `run_word`, `run_times`: What matches a text of one length only.
* `run_plus`: A repetition of characters, where what follows takes none of them.
* `run_plus_some`: A repetition of characters that other ones follow.
* `run_sound`: The matcher takes texts of the language.
* `exec_append`, `exec_eq_some`, `runAt_of_exec_eq_none`: The leftmost match.
* `exec_isSome_iff`: When there is a match.
-/

namespace Nxpod

/-- Regular expressions with groups. -/
inductive Regex
  /-- One character of a class. -/
  | char (p : Char → Bool)
  | empty
  | seq (r s : Regex)
  /-- `r?` -/
  | opt (r : Regex)
  /-- `r*` -/
  | star (r : Regex)
  /-- A group and its number. -/
  | group (i : Nat) (r : Regex)

namespace Regex

/-- The texts of the groups that took part in a match. -/
abbrev Captures := Nat → Option (List Char)

variable {β : Type*}

/-- What a match is followed by. -/
abbrev Continuation (β : Type*) := List Char → Captures → Option β

/-- At most `n` iterations, as many as possible first. -/
def iterate (m : Continuation β → Continuation β) (k : Continuation β) : Nat → Continuation β
  | 0, cs, caps => k cs caps
  | n + 1, cs, caps =>
      (m (fun rest caps => if rest.length < cs.length then iterate m k n rest caps else none)
        cs caps).or (k cs caps)

/-- The groups inside an expression. -/
def groups : Regex → List Nat
  | char _ => []
  | empty => []
  | seq r s => r.groups ++ s.groups
  | opt r => r.groups
  | star r => r.groups
  | group i r => i :: r.groups

/-- Groups inside a repetition are forgotten before each iteration. -/
def Captures.forget (caps : Captures) (gs : List Nat) : Captures :=
  fun i => if i ∈ gs then none else caps i

/-- What a group has matched is kept. -/
def Captures.set (caps : Captures) (i : Nat) (text : List Char) : Captures :=
  fun j => if j = i then some text else caps j

/-- The matcher. A group keeps what was taken from the text, and an iteration forgets the groups
    in it. -/
def run : Regex → Continuation β → Continuation β
  | char _, _, [], _ => none
  | char p, k, c :: cs, caps => if p c then k cs caps else none
  | empty, k, cs, caps => k cs caps
  | seq r s, k, cs, caps => run r (run s k) cs caps
  | opt r, k, cs, caps =>
      iterate (fun k cs caps => run r k cs (caps.forget r.groups)) k 1 cs caps
  | star r, k, cs, caps =>
      iterate (fun k cs caps => run r k cs (caps.forget r.groups)) k (cs.length + 1) cs caps
  | group i r, k, cs, caps =>
      run r (fun rest caps => k rest (caps.set i (cs.take (cs.length - rest.length)))) cs caps

/-- `r+` -/
def plus (r : Regex) : Regex := seq r (star r)

/-- `r{n}` -/
def times (r : Regex) : Nat → Regex
  | 0 => empty
  | n + 1 => seq r (times r n)

/-- A text as an expression. -/
def word : List Char → Regex
  | [] => empty
  | c :: cs => seq (char (· == c)) (word cs)

/-- What a match leaves of the text, and its groups. -/
def runAt (r : Regex) (cs : List Char) : Option (List Char × Captures) :=
  r.run (fun rest caps => some (rest, caps)) cs fun _ => none

/-- A match in a text. -/
structure Match where
  before : List Char
  text : List Char
  captures : Captures

/-- The match that starts leftmost. -/
def exec (r : Regex) : List Char → Option Match
  | [] => (r.runAt []).map fun m => ⟨[], [], m.2⟩
  | c :: cs => match r.runAt (c :: cs) with
    | some (rest, caps) => some ⟨[], (c :: cs).take (cs.length + 1 - rest.length), caps⟩
    | none => (exec r cs).map fun m => { m with before := c :: m.before }

/-! ## Matching -/

variable {k : Continuation β} {cs : List Char} {caps : Captures}

/-- One more iteration if it takes something, else what comes behind. -/
theorem iterate_succ (m : Continuation β → Continuation β) (n : Nat) :
    iterate m k (n + 1) cs caps =
      (m (fun rest caps => if rest.length < cs.length then iterate m k n rest caps else none)
        cs caps).or (k cs caps) := rfl

theorem run_char_nil (p : Char → Bool) : run (char p) k [] caps = none := rfl

theorem run_char_cons (p : Char → Bool) (c : Char) :
    run (char p) k (c :: cs) caps = if p c then k cs caps else none := rfl

/-- What comes behind the first part is the second one. -/
theorem run_seq (r s : Regex) : run (seq r s) k cs caps = run r (run s k) cs caps := rfl

theorem run_group (i : Nat) (r : Regex) :
    run (group i r) k cs caps =
      run r (fun rest caps => k rest (caps.set i (cs.take (cs.length - rest.length)))) cs caps :=
  rfl

/-- With more iterations than there are characters left their number does not matter. -/
theorem iterate_eq_of_lt (m : Continuation β → Continuation β) {n n' : Nat}
    (hn : cs.length < n) (hn' : cs.length < n') :
    iterate m k n cs caps = iterate m k n' cs caps := by
  induction n generalizing n' cs caps with
  | zero => exact absurd hn (Nat.not_lt_zero _)
  | succ n ih =>
      cases n' with
      | zero => exact absurd hn' (Nat.not_lt_zero _)
      | succ n' =>
          rw [iterate_succ, iterate_succ]
          congr 2
          funext rest caps
          split
          · next hlt =>
              exact ih (Nat.lt_of_lt_of_le hlt (Nat.le_of_lt_succ hn))
                (Nat.lt_of_lt_of_le hlt (Nat.le_of_lt_succ hn'))
          · rfl

/-- A repetition is an iteration and the repetition, or nothing. -/
theorem run_star (r : Regex) :
    run (star r) k cs caps =
      (run r (fun rest caps => if rest.length < cs.length then run (star r) k rest caps else none)
        cs (caps.forget r.groups)).or (k cs caps) := by
  have hrun : run (star r) k cs caps = iterate (fun k cs caps => run r k cs
      (caps.forget r.groups)) k (cs.length + 1) cs caps := rfl
  rw [hrun, iterate_succ]
  congr 2
  funext rest caps
  split
  · next hlt => exact iterate_eq_of_lt _ hlt (Nat.lt_succ_self _)
  · rfl

theorem run_opt (r : Regex) :
    run (opt r) k cs caps =
      (run r (fun rest caps => if rest.length < cs.length then k rest caps else none)
        cs (caps.forget r.groups)).or (k cs caps) := rfl

theorem run_word (w rest : List Char) : run (word w) k (w ++ rest) caps = k rest caps := by
  induction w with
  | nil => rfl
  | cons c w ih =>
      rw [List.cons_append, word, run_seq, run_char_cons, if_pos (beq_self_eq_true c)]
      exact ih

/-- A text that starts otherwise. -/
theorem run_word_of_not_prefix {w : List Char} (h : ¬ w <+: cs) :
    run (word w) k cs caps = none := by
  induction w generalizing cs with
  | nil => exact absurd List.nil_prefix h
  | cons c w ih =>
      cases cs with
      | nil => rfl
      | cons d cs =>
          rw [word, run_seq, run_char_cons]
          by_cases hd : (d == c) = true
          · rw [if_pos hd]
            refine ih fun hprefix => h ?_
            rw [eq_of_beq hd]
            exact (List.prefix_cons_inj c).mpr hprefix
          · rw [if_neg hd]

/-- The inverse of `run_word`. -/
theorem run_word_some {w : List Char} {b : β} (h : run (word w) k cs caps = some b) :
    ∃ rest, cs = w ++ rest ∧ k rest caps = some b := by
  by_cases hprefix : w <+: cs
  · rcases hprefix with ⟨rest, rfl⟩
    rw [run_word] at h
    exact ⟨rest, rfl, h⟩
  · have hnone : run (word w) k cs caps = none := run_word_of_not_prefix hprefix
    rw [hnone] at h
    exact nomatch h

theorem run_times {p : Char → Bool} {w : List Char} (hw : ∀ c ∈ w, p c = true) {n : Nat}
    (hn : w.length = n) (rest : List Char) :
    run (times (char p) n) k (w ++ rest) caps = k rest caps := by
  subst hn
  induction w with
  | nil => rfl
  | cons c w ih =>
      rw [List.length_cons, times, run_seq, List.cons_append, run_char_cons,
        if_pos (hw c List.mem_cons_self)]
      exact ih fun c hc => hw c (List.mem_cons_of_mem _ hc)

/-- The inverse of `run_times`. -/
theorem run_times_some {p : Char → Bool} {n : Nat} {b : β}
    (h : run (times (char p) n) k cs caps = some b) :
    ∃ w rest, cs = w ++ rest ∧ w.length = n ∧ (∀ c ∈ w, p c = true) ∧ k rest caps = some b := by
  induction n generalizing cs with
  | zero => exact ⟨[], cs, rfl, rfl, nofun, h⟩
  | succ n ih =>
      rw [times, run_seq] at h
      cases cs with
      | nil => exact nomatch h
      | cons c cs =>
          rw [run_char_cons] at h
          by_cases hc : p c = true
          · rw [if_pos hc] at h
            rcases ih h with ⟨w, rest, rfl, hn, hw, hk⟩
            exact ⟨c :: w, rest, rfl, congrArg Nat.succ hn, List.forall_mem_cons.mpr ⟨hc, hw⟩, hk⟩
          · rw [if_neg hc] at h
            exact nomatch h

theorem run_star_isSome {r : Regex} (h : (k cs caps).isSome = true) :
    (run (star r) k cs caps).isSome = true := by
  rw [run_star, Option.isSome_or, h, Bool.or_true]

theorem forget_char (caps : Captures) (p : Char → Bool) : caps.forget (char p).groups = caps :=
  funext fun _ => if_neg List.not_mem_nil

/-- Every character is taken where what follows takes none of the class. -/
theorem run_star_char {p : Char → Bool} (hk : ∀ c cs caps, p c = true → k (c :: cs) caps = none) :
    run (star (char p)) k cs caps = k (cs.dropWhile p) caps := by
  induction cs generalizing caps with
  | nil => rw [run_star, run_char_nil, Option.none_or, List.dropWhile_nil]
  | cons c cs ih =>
      have hlt : cs.length < (c :: cs).length := Nat.lt_succ_self _
      rw [run_star, run_char_cons, forget_char]
      by_cases hc : p c = true
      · rw [if_pos hc, if_pos hlt, ih, hk c cs caps hc, Option.or_none,
          List.dropWhile_cons_of_pos hc]
      · rw [if_neg hc, Option.none_or, List.dropWhile_cons_of_neg hc]

/-- The same for at least one character. -/
theorem run_plus {p : Char → Bool} (hk : ∀ c cs caps, p c = true → k (c :: cs) caps = none) :
    run (plus (char p)) k cs caps =
      if cs.takeWhile p = [] then none else k (cs.dropWhile p) caps := by
  rw [plus, run_seq]
  cases cs with
  | nil => rw [run_char_nil, List.takeWhile_nil, if_pos rfl]
  | cons c cs =>
      rw [run_char_cons]
      by_cases hc : p c = true
      · rw [if_pos hc, run_star_char hk, List.takeWhile_cons_of_pos hc,
          if_neg (List.cons_ne_nil _ _), List.dropWhile_cons_of_pos hc]
      · rw [if_neg hc, List.takeWhile_cons_of_neg hc, if_pos rfl]

/-- The longest run of characters comes first. -/
theorem run_star_char_some {p : Char → Bool} {w rest : List Char} {b : β}
    (hw : ∀ c ∈ w, p c = true) (hrest : ∀ c, rest.head? = some c → p c = false)
    (hk : k rest caps = some b) : run (star (char p)) k (w ++ rest) caps = some b := by
  induction w with
  | nil =>
      rw [List.nil_append, run_star]
      cases rest with
      | nil => rw [run_char_nil, Option.none_or, hk]
      | cons c rest =>
          rw [run_char_cons, hrest c rfl, if_neg Bool.false_ne_true, Option.none_or, hk]
  | cons c w ih =>
      have hlt : (w ++ rest).length < (c :: (w ++ rest)).length := Nat.lt_succ_self _
      rw [run_star, forget_char, List.cons_append, run_char_cons,
        if_pos (hw c List.mem_cons_self), if_pos hlt,
        ih fun d hd => hw d (List.mem_cons_of_mem c hd), Option.some_or]

/-- A repetition that cannot go on any further takes all it can, and nothing is taken back. -/
theorem run_plus_some {p : Char → Bool} {w rest : List Char} {b : β} (hne : w ≠ [])
    (hw : ∀ c ∈ w, p c = true) (hrest : ∀ c, rest.head? = some c → p c = false)
    (hk : k rest caps = some b) : run (plus (char p)) k (w ++ rest) caps = some b := by
  cases w with
  | nil => exact absurd rfl hne
  | cons c w =>
      rw [plus, run_seq, List.cons_append, run_char_cons, if_pos (hw c List.mem_cons_self)]
      exact run_star_char_some (fun d hd => hw d (List.mem_cons_of_mem c hd)) hrest hk

/-- A group around what takes the first characters. -/
theorem run_group_append {i : Nat} {r : Regex} {w rest : List Char}
    (h : ∀ k : Continuation β, run r k (w ++ rest) caps = k rest caps) :
    run (group i r) k (w ++ rest) caps = k rest (caps.set i w) := by
  rw [run_group, h, List.length_append, Nat.add_sub_cancel, List.take_left]

theorem run_group_plus_some {i : Nat} {p : Char → Bool} {w rest : List Char} {b : β}
    (hne : w ≠ []) (hw : ∀ c ∈ w, p c = true)
    (hrest : ∀ c, rest.head? = some c → p c = false) (hk : k rest (caps.set i w) = some b) :
    run (group i (plus (char p))) k (w ++ rest) caps = some b := by
  rw [run_group]
  refine run_plus_some hne hw hrest ?_
  rw [List.length_append, Nat.add_sub_cancel, List.take_left, hk]

/-! ## Language -/

/-- The texts that match, wherever they stand. -/
def language : Regex → Language Char
  | char p => {w | ∃ c, p c = true ∧ w = [c]}
  | empty => 1
  | seq r s => r.language * s.language
  | opt r => 1 + r.language
  | star r => KStar.kstar r.language
  | group _ r => r.language

/-- What repetitions take is in the closure of the language. -/
theorem iterate_sound {m : Continuation β → Continuation β} {l : Language Char} {b : β}
    (hm : ∀ (k : Continuation β) cs caps, m k cs caps = some b →
      ∃ w rest caps', cs = w ++ rest ∧ w ∈ l ∧ k rest caps' = some b) (n : Nat)
    (h : iterate m k n cs caps = some b) :
    ∃ ws rest caps', cs = List.flatten ws ++ rest ∧ ws.length ≤ n ∧ (∀ w ∈ ws, w ∈ l) ∧
      k rest caps' = some b := by
  induction n generalizing cs caps with
  | zero => exact ⟨[], cs, caps, rfl, Nat.le_refl 0, nofun, h⟩
  | succ n ih =>
      rw [iterate_succ, Option.or_eq_some_iff] at h
      rcases h with h | ⟨-, h⟩
      · rcases hm _ cs caps h with ⟨w, rest, caps', rfl, hw, hrest⟩
        split at hrest
        · rcases ih hrest with ⟨ws, rest', caps'', rfl, hlength, hws, hk⟩
          refine ⟨w :: ws, rest', caps'', ?_, Nat.succ_le_succ hlength, ?_, hk⟩
          · rw [List.flatten_cons, List.append_assoc]
          · exact List.forall_mem_cons.mpr ⟨hw, hws⟩
        · exact nomatch hrest
      · exact ⟨[], cs, caps, rfl, Nat.zero_le _, nofun, h⟩

/-- What the matcher takes is a text of the language. -/
theorem run_sound {r : Regex} {b : β} (h : run r k cs caps = some b) :
    ∃ w rest caps', cs = w ++ rest ∧ w ∈ r.language ∧ k rest caps' = some b := by
  -- The induction is on the expression, for every continuation.
  induction r generalizing k cs caps with
  | char p =>
      cases cs with
      | nil => exact nomatch h
      | cons c cs =>
          rw [run_char_cons] at h
          by_cases hc : p c = true
          · rw [if_pos hc] at h
            exact ⟨[c], cs, caps, rfl, ⟨c, hc, rfl⟩, h⟩
          · rw [if_neg hc] at h
            exact nomatch h
  | empty => exact ⟨[], cs, caps, rfl, rfl, h⟩
  | seq r s ihr ihs =>
      rcases ihr h with ⟨w, rest, caps', rfl, hw, hrest⟩
      rcases ihs hrest with ⟨w', rest', caps'', rfl, hw', hk⟩
      exact ⟨w ++ w', rest', caps'', (List.append_assoc _ _ _).symm,
        Language.append_mem_mul hw hw', hk⟩
  | opt r ih =>
      rw [run_opt, Option.or_eq_some_iff] at h
      rcases h with h | ⟨-, h⟩
      · rcases ih h with ⟨w, rest, caps', hcs, hw, hk⟩
        split at hk
        · exact ⟨w, rest, caps', hcs, Or.inr hw, hk⟩
        · exact nomatch hk
      · exact ⟨[], cs, caps, rfl, Or.inl rfl, h⟩
  | star r ih =>
      rcases iterate_sound (fun k cs caps h => ih h) _ h with ⟨ws, rest, caps', hcs, -, hws, hk⟩
      exact ⟨ws.flatten, rest, caps', hcs, Language.mem_kstar.mpr ⟨ws, rfl, hws⟩, hk⟩
  | group i r ih =>
      rcases ih h with ⟨w, rest, caps', hcs, hw, hk⟩
      exact ⟨w, rest, _, hcs, hw, hk⟩

theorem mem_language_word {w v : List Char} : v ∈ (word w).language ↔ v = w := by
  induction w generalizing v with
  | nil => exact Iff.rfl
  | cons c w ih =>
      rw [word, language, Language.mem_mul]
      constructor
      · rintro ⟨a, ⟨d, hd, rfl⟩, b, hb, rfl⟩
        rw [ih.mp hb, eq_of_beq hd]
        rfl
      · rintro rfl
        exact ⟨[c], ⟨c, beq_self_eq_true c, rfl⟩, w, ih.mpr rfl, rfl⟩

/-- The language of a repetition: not empty, and of the class. -/
theorem mem_language_plus {p : Char → Bool} {w : List Char}
    (h : w ∈ (plus (char p)).language) : w ≠ [] ∧ ∀ c ∈ w, p c = true := by
  rcases Language.mem_mul.mp h with ⟨a, ⟨c, hc, rfl⟩, b, hb, rfl⟩
  refine ⟨List.cons_ne_nil c b, List.forall_mem_cons.mpr ⟨hc, fun d hd => ?_⟩⟩
  rcases Language.mem_kstar.mp hb with ⟨ws, rfl, hws⟩
  rcases List.mem_flatten.mp hd with ⟨w, hw, hdw⟩
  rcases hws w hw with ⟨e, he, rfl⟩
  rw [List.mem_singleton.mp hdw]
  exact he

/-! ## Searching -/

theorem runAt_sound {r : Regex} {rest : List Char} (h : r.runAt cs = some (rest, caps)) :
    ∃ w, cs = w ++ rest ∧ w ∈ r.language := by
  rcases run_sound h with ⟨w, rest', caps', hcs, hw, heq⟩
  rw [(Prod.mk.inj (Option.some.inj heq)).1] at hcs
  exact ⟨w, hcs, hw⟩

/-- A match that starts with the text. -/
theorem exec_append {r : Regex} {w rest : List Char} (hne : w ≠ [])
    (h : r.runAt (w ++ rest) = some (rest, caps)) :
    exec r (w ++ rest) = some ⟨[], w, caps⟩ := by
  cases w with
  | nil => exact absurd rfl hne
  | cons c w =>
      rw [List.cons_append] at h
      have hlength : (w ++ rest).length + 1 - rest.length = (c :: w).length := by
        rw [List.length_append, List.length_cons]
        omega
      rw [List.cons_append, exec, h]
      dsimp only
      rw [hlength, ← List.cons_append, List.take_left]

/-- Where there is a match, the matcher takes its text. -/
theorem exec_eq_some {r : Regex} {m : Match} (h : exec r cs = some m) :
    ∃ rest, cs = m.before ++ (m.text ++ rest) ∧
      r.runAt (m.text ++ rest) = some (rest, m.captures) := by
  induction cs generalizing m with
  | nil =>
      rw [exec, Option.map_eq_some_iff] at h
      rcases h with ⟨⟨rest, caps⟩, hrun, rfl⟩
      rcases runAt_sound hrun with ⟨w, hw, -⟩
      rw [(List.append_eq_nil_iff.mp hw.symm).2] at hrun
      exact ⟨[], rfl, hrun⟩
  | cons c cs ih =>
      rw [exec] at h
      split at h
      · next rest caps hrun =>
          rcases runAt_sound hrun with ⟨w, hw, -⟩
          have hlength : (w ++ rest).length - rest.length = w.length := by
            rw [List.length_append, Nat.add_sub_cancel]
          rw [← List.length_cons, hw, hlength, List.take_left] at h
          rw [hw] at hrun
          rw [← Option.some.inj h]
          exact ⟨rest, hw, hrun⟩
      · rw [Option.map_eq_some_iff] at h
        rcases h with ⟨m', hm', rfl⟩
        rcases ih hm' with ⟨rest, hcs, hrun⟩
        exact ⟨rest, congrArg (List.cons c) hcs, hrun⟩

/-- Where there is none, the matcher takes nothing from anywhere. -/
theorem runAt_of_exec_eq_none {r : Regex} {before rest : List Char}
    (h : exec r (before ++ rest) = none) : r.runAt rest = none := by
  induction before with
  | nil =>
      rw [List.nil_append] at h
      cases rest with
      | nil => exact Option.map_eq_none_iff.mp h
      | cons c rest =>
          rw [exec] at h
          split at h
          · exact nomatch h
          · next hnone => exact hnone
  | cons c before ih =>
      rw [List.cons_append, exec] at h
      split at h
      · exact nomatch h
      · exact ih (Option.map_eq_none_iff.mp h)

/-- There is a match where the expression matches somewhere. -/
theorem exec_isSome_iff {r : Regex} : (exec r cs).isSome = true ↔
    ∃ before rest, cs = before ++ rest ∧ (r.runAt rest).isSome = true := by
  constructor
  · intro h
    rcases Option.isSome_iff_exists.mp h with ⟨m, hm⟩
    rcases exec_eq_some hm with ⟨rest, hcs, hrun⟩
    exact ⟨m.before, m.text ++ rest, hcs, by rw [hrun]; rfl⟩
  · rintro ⟨before, rest, rfl, hrun⟩
    by_contra hnone
    rw [Bool.not_eq_true, Option.isSome_eq_false_iff, Option.isNone_iff_eq_none] at hnone
    rw [runAt_of_exec_eq_none hnone] at hrun
    exact nomatch hrun

end Regex

end Nxpod
