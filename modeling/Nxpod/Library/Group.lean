import Mathlib.Data.List.Induction
import Mathlib.Data.List.Nodup

/-!
# Rows by Their Keys

Rows are put into groups of one key, one after the other. A group is where its
first row was, and has its rows in their order. Then a loop takes the first of
the best rows of a group.

## Main definitions

* `push`, `groups`: The groups, after one more row and after all of them.
* `bestOf`: The loop that keeps the best row.

## Theorems

* `nodup_keys_groups`: Every key has one group.
* `mem_groups_iff`: What a group has.
* `bestOf_some`: The best row is one of them, no other one is better, and the first one stays.
-/

namespace Nxpod

namespace Group

variable {α κ : Type*}

section Groups

variable [DecidableEq κ] (key : α → κ)

/-- A row goes to the group of its key, which may be new. -/
def push (groups : List (κ × List α)) (row : α) : List (κ × List α) :=
  if key row ∈ groups.map Prod.fst then
    groups.map fun g => if g.1 = key row then (g.1, g.2 ++ [row]) else g
  else groups ++ [(key row, [row])]

/-- The groups of all rows, in the order of their first rows. -/
def groups (rows : List α) : List (κ × List α) :=
  rows.foldl (push key) []

variable {key}

theorem groups_concat (rows : List α) (row : α) :
    groups key (rows ++ [row]) = push key (groups key rows) row := by
  rw [groups, List.foldl_append]
  rfl

/-- The keys after one more row: a new key is put at the end. -/
theorem keys_push (gs : List (κ × List α)) (row : α) : (push key gs row).map Prod.fst =
    if key row ∈ gs.map Prod.fst then gs.map Prod.fst else gs.map Prod.fst ++ [key row] := by
  rw [push]
  split
  · rw [List.map_map]
    refine List.map_congr_left fun g _ => ?_
    rw [Function.comp_apply]
    split <;> rfl
  · rw [List.map_append]
    rfl

theorem nodup_keys_groups (rows : List α) : ((groups key rows).map Prod.fst).Nodup := by
  induction rows using List.reverseRecOn with
  | nil => exact List.nodup_nil
  | append_singleton rows row ih =>
      rw [groups_concat, keys_push]
      split
      · exact ih
      · next hnew =>
          -- A group that is added has a new key.
          rw [List.nodup_append]
          refine ⟨ih, List.nodup_singleton _, fun k hk k' hk' heq => hnew ?_⟩
          rw [← List.mem_singleton.mp hk', ← heq]
          exact hk

theorem mem_keys_groups_iff (rows : List α) (k : κ) :
    k ∈ (groups key rows).map Prod.fst ↔ k ∈ rows.map key := by
  induction rows using List.reverseRecOn with
  | nil => exact Iff.rfl
  | append_singleton rows row ih =>
      rw [groups_concat, keys_push, List.map_append, List.mem_append, ← ih]
      split
      · next hold =>
          refine ⟨.inl, fun h => h.elim id fun hk => ?_⟩
          rw [List.mem_singleton.mp hk]
          exact hold
      · rw [List.mem_append]
        rfl

/-- A group has the rows of its key. -/
theorem snd_of_mem_groups {rows : List α} {g : κ × List α} (h : g ∈ groups key rows) :
    g.2 = rows.filter fun row => decide (key row = g.1) := by
  induction rows using List.reverseRecOn generalizing g with
  | nil => exact nomatch h
  | append_singleton rows row ih =>
      rw [groups_concat, push] at h
      rw [List.filter_append]
      by_cases hseen : key row ∈ (groups key rows).map Prod.fst
      · rw [if_pos hseen] at h
        rcases List.mem_map.mp h with ⟨g', hg', heq⟩
        -- One of the groups has got the row, and the other ones have none of its key.
        by_cases hkey : g'.1 = key row
        · rw [if_pos hkey] at heq
          rw [← heq, ih hg', List.filter_singleton, decide_eq_true hkey.symm]
          rfl
        · rw [if_neg hkey] at heq
          rw [← heq, ih hg', List.filter_singleton, decide_eq_false (fun h => hkey h.symm)]
          exact (List.append_nil _).symm
      · rw [if_neg hseen, List.mem_append, List.mem_singleton] at h
        rcases h with h | h
        · have hne : ¬ key row = g.1 := by
            intro heq
            apply hseen
            rw [heq]
            exact List.mem_map_of_mem h
          rw [ih h, List.filter_singleton, decide_eq_false hne]
          exact (List.append_nil _).symm
        · -- There was no row of this key before.
          have hnone : (rows.filter fun r => decide (key r = key row)) = [] := by
            rw [List.filter_eq_nil_iff]
            intro r hr hk
            apply hseen
            rw [mem_keys_groups_iff, ← of_decide_eq_true hk]
            exact List.mem_map_of_mem hr
          rw [h, hnone, List.filter_singleton, decide_eq_true rfl]
          rfl

/-- The groups, told without the loop: all rows of a key, in their order. -/
theorem mem_groups_iff (rows : List α) (g : κ × List α) : g ∈ groups key rows ↔
    g.1 ∈ rows.map key ∧ g.2 = rows.filter fun row => decide (key row = g.1) := by
  constructor
  · intro h
    exact ⟨(mem_keys_groups_iff rows g.1).mp (List.mem_map_of_mem h), snd_of_mem_groups h⟩
  · rintro ⟨hkey, hrows⟩
    rcases List.mem_map.mp ((mem_keys_groups_iff rows g.1).mpr hkey) with ⟨g', hg', heq⟩
    have hsame : g' = g := by
      refine Prod.ext heq ?_
      rw [snd_of_mem_groups hg', hrows, heq]
    rw [← hsame]
    exact hg'

end Groups

/-! ## The best row -/

/-- The best row of these and the one that was found before. -/
def bestOf (score : α → Nat) : Nat → Option α → List α → Option α
  | _, best, [] => best
  | minscore, best, e :: rest =>
      if best.isNone ∨ score e < minscore then bestOf score (score e) (some e) rest
      else bestOf score minscore best rest

variable {score : α → Nat}

/-- Once there is a row, it is as good as the score says. -/
theorem bestOf_some (b : α) (rest : List α) : ∃ r ∈ b :: rest,
    bestOf score (score b) (some b) rest = some r ∧ (∀ e ∈ b :: rest, score r ≤ score e) ∧
      ((∀ e ∈ rest, score b ≤ score e) → r = b) := by
  induction rest generalizing b with
  | nil =>
      refine ⟨b, List.mem_cons_self, rfl, fun e he => ?_, fun _ => rfl⟩
      exact Nat.le_of_eq (congrArg score (List.mem_singleton.mp he).symm)
  | cons e rest ih =>
      rw [bestOf]
      by_cases hlt : score e < score b
      · rcases ih e with ⟨r, hr, hbest, hle, hfirst⟩
        rw [if_pos (.inr hlt)]
        refine ⟨r, List.mem_cons_of_mem _ hr, hbest, fun e' he' => ?_, fun hall => ?_⟩
        · rcases List.mem_cons.mp he' with heq | he'
          · have hre := hle e List.mem_cons_self
            rw [heq]
            omega
          · exact hle e' he'
        · have hbe := hall e List.mem_cons_self
          omega
      · rcases ih b with ⟨r, hr, hbest, hle, hfirst⟩
        -- A row with the same score does not replace the first one.
        have hnot : ¬ ((some b).isNone ∨ score e < score b) := by
          rintro (h | h)
          · exact nomatch h
          · exact hlt h
        rw [if_neg hnot]
        refine ⟨r, ?_, hbest, fun e' he' => ?_, fun hall => hfirst fun e' he' =>
          hall e' (List.mem_cons_of_mem _ he')⟩
        · rcases List.mem_cons.mp hr with heq | hr
          · exact heq ▸ List.mem_cons_self
          · exact List.mem_cons_of_mem _ (List.mem_cons_of_mem _ hr)
        · rcases List.mem_cons.mp he' with heq | he'
          · exact hle e' (heq ▸ List.mem_cons_self)
          · rcases List.mem_cons.mp he' with heq | he'
            · have hrb := hle b List.mem_cons_self
              rw [heq]
              omega
            · exact hle e' (List.mem_cons_of_mem _ he')

/-- The first row is taken in any case. -/
theorem bestOf_none (minscore : Nat) (b : α) (rest : List α) :
    bestOf score minscore none (b :: rest) = bestOf score (score b) (some b) rest := by
  rw [bestOf, if_pos (.inl rfl)]

end Group

end Nxpod
