import Mathlib.Data.List.Induction

/-!
# Ledgers

A list of entries that several parties write to. Who an entry belongs to can be told from the entry
itself. A party that posts something new takes out whatever is its own and puts the new entries at
the end, so that one post after the other changes nothing that belongs to nobody.

## Main definitions

* `post`: One post.
* `latest`: The last post of each party, in their order.

## Theorems

* `mem_latest_iff`: What a party has not posted over.
* `foldl_post`: The entries after some posts.
-/

namespace Nxpod

namespace Ledger

variable {ι ε : Type*} [DecidableEq ι] (owns : ι → ε → Bool)

/-- A party takes out what is its own and adds its new entries. -/
def post (entries : List ε) (p : ι × List ε) : List ε :=
  (entries.filter fun e => !owns p.1 e) ++ p.2

/-- The last post of each party, in the order of posting. -/
def latest (posts : List (ι × List ε)) : List (ι × List ε) :=
  posts.foldl (fun ps p => (ps.filter fun q => q.1 ≠ p.1) ++ [p]) []

theorem latest_concat (posts : List (ι × List ε)) (p : ι × List ε) :
    latest (posts ++ [p]) = ((latest posts).filter fun q => q.1 ≠ p.1) ++ [p] := by
  rw [latest, List.foldl_append]
  rfl

/-- A post is the latest of its party if the party posts nothing after it. -/
theorem mem_latest_iff (posts : List (ι × List ε)) (p : ι × List ε) :
    p ∈ latest posts ↔ ∃ before after, posts = before ++ p :: after ∧ ∀ q ∈ after, q.1 ≠ p.1 := by
  induction posts using List.reverseRecOn with
  | nil =>
      refine iff_of_false List.not_mem_nil ?_
      rintro ⟨before, after, h, -⟩
      exact absurd h.symm (List.append_ne_nil_of_right_ne_nil before (List.cons_ne_nil p after))
  | append_singleton posts last ih =>
      rw [latest_concat, List.mem_append, List.mem_filter, ih, decide_eq_true_eq,
        List.mem_singleton]
      constructor
      · rintro (⟨⟨before, after, rfl, hafter⟩, hne⟩ | rfl)
        · refine ⟨before, after ++ [last], by rw [List.append_assoc, List.cons_append], ?_⟩
          intro q hq
          rcases List.mem_append.mp hq with hq | hq
          · exact hafter q hq
          · rw [List.mem_singleton.mp hq]
            exact fun heq => hne heq.symm
        · exact ⟨posts, [], rfl, fun _ hq => absurd hq List.not_mem_nil⟩
      · rintro ⟨before, after, h, hafter⟩
        -- Either it is the last one, or nothing behind it has its key.
        induction after using List.reverseRecOn with
        | nil => exact .inr (List.append_inj_right' h rfl |> List.singleton_inj.mp).symm
        | append_singleton after q _ =>
            rw [← List.cons_append, ← List.append_assoc] at h
            have hlast : last = q := List.singleton_inj.mp (List.append_inj_right' h rfl)
            refine .inl ⟨⟨before, after, List.append_inj_left' h rfl, fun r hr => ?_⟩, ?_⟩
            · exact hafter r (List.mem_append_left [q] hr)
            · rw [hlast]
              exact fun heq => hafter q (List.mem_append_right after (List.mem_singleton_self q))
                heq.symm

theorem mem_of_mem_latest {posts : List (ι × List ε)} {p : ι × List ε} (h : p ∈ latest posts) :
    p ∈ posts := by
  rcases (mem_latest_iff posts p).mp h with ⟨before, after, rfl, -⟩
  exact List.mem_append_right before List.mem_cons_self

variable {owns}

/-- What a party takes out of the entries of others is everything that is its own. -/
theorem filter_flatMap {posts : List (ι × List ε)} {i : ι}
    (howns : ∀ q ∈ posts, ∀ e ∈ q.2, owns i e = decide (i = q.1)) :
    (posts.flatMap Prod.snd).filter (fun e => !owns i e) =
      (posts.filter fun q => q.1 ≠ i).flatMap Prod.snd := by
  induction posts with
  | nil => rfl
  | cons q posts ih =>
      rw [List.flatMap_cons, List.filter_append,
        ih fun r hr => howns r (List.mem_cons_of_mem q hr)]
      have hq := howns q List.mem_cons_self
      by_cases hi : q.1 = i
      · rw [List.filter_cons_of_neg (by rw [decide_eq_true_eq]; exact not_not.mpr hi)]
        rw [List.filter_eq_nil_iff.mpr fun e he => ?_, List.nil_append]
        rw [hq e he, decide_eq_true hi.symm]
        exact Bool.false_ne_true
      · have hpos : decide (q.1 ≠ i) = true := decide_eq_true hi
        rw [List.filter_cons, if_pos hpos, List.flatMap_cons]
        rw [List.filter_eq_self.mpr fun e he => ?_]
        rw [hq e he, decide_eq_false fun h => hi h.symm]
        rfl

/-- Where everybody owns what they post and nothing of the others', the entries are what belonged
to nobody in the beginning, and the last post of each. -/
theorem foldl_post {posts : List (ι × List ε)} (entries : List ε)
    (howns : ∀ p ∈ posts, ∀ q ∈ posts, ∀ e ∈ q.2, owns p.1 e = decide (p.1 = q.1)) :
    posts.foldl (post owns) entries =
      (entries.filter fun e => posts.all fun p => !owns p.1 e) ++
        (latest posts).flatMap Prod.snd := by
  induction posts using List.reverseRecOn with
  | nil =>
      rw [List.foldl_nil]
      exact (List.append_nil _).symm ▸ (List.filter_eq_self.mpr fun _ _ => rfl).symm
  | append_singleton posts p ih =>
      have hbefore : ∀ q ∈ posts, q ∈ posts ++ [p] := fun q hq => List.mem_append_left [p] hq
      have hlast : p ∈ posts ++ [p] := List.mem_append_right posts (List.mem_singleton_self p)
      rw [List.foldl_append, ih fun q hq r hr => howns q (hbefore q hq) r (hbefore r hr),
        latest_concat, List.flatMap_append, List.foldl_cons, List.foldl_nil, post,
        List.filter_append, List.filter_filter, List.append_assoc,
        filter_flatMap fun q hq => howns p hlast q (hbefore q (mem_of_mem_latest hq))]
      congr 1
      · refine List.filter_congr fun e _ => ?_
        rw [List.all_append, Bool.and_comm]
        simp only [List.all_cons, List.all_nil, Bool.and_true]
      · rw [List.flatMap_singleton]

end Ledger

end Nxpod
