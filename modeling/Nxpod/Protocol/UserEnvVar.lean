import Nxpod.Library.Group
import Nxpod.Library.Text

/-!
# The Environment Variables of a Repository

A user has environment variables for repositories, which are given by patterns of two segments. A
segment is a value, or it is `*` or `#` and stands for anything. Of the variables of one name whose
patterns match a repository only one is used, the first one with the lowest score.

The score is a precedence of the patterns. Every pattern with a `#` has the same score, though the
variables that come with a URL always have `#/#`. Where there are only such patterns, and not all
of them are the same, the order of the list decides.

How a text is turned into lower case depends on the locale and is a parameter.

## Main definitions

* `UserEnvVarValue`: A variable with the pattern of the repositories it is for.
* `normalizeRepoPattern`, `score`, `filter`: The functions of the code.
* `Matches`, `level`: What a pattern means, and which one takes precedence.
* `Segment`: What a segment can be.
* `Filtered`: One variable for each name, and the one with the most specific pattern.
* `Ranked`: No name has nothing but different patterns with a `#`.

## Theorems

* `applies_iff`, `score_eq_level`: The code's reading of a pattern.
* `mem_filter_iff`: What is returned.
* `filtered_filter`: What is returned is what is asked for.
* `filter_spec`: When the order of the list does not matter.
-/

namespace Nxpod

namespace Protocol

namespace UserEnvVar

open Text

/-- A variable with the pattern of the repositories it is for. -/
structure UserEnvVarValue where
  id : Option String
  name : String
  repositoryPattern : String
  value : String
  deriving DecidableEq

variable {T : Type*} (asValue : T → UserEnvVarValue) (toLocaleLowerCase : String → String)

/-- Without a second segment this is a type error. -/
def normalizeRepoPattern (pattern : String) : Option String :=
  match split '/' pattern with
  | owner :: repo :: _ => some (toLocaleLowerCase owner ++ "/" ++ toLocaleLowerCase repo)
  | _ => none

/-- A segment may be undefined. -/
def segmentApplies (segmentPattern : Option String) (segment : String) : Bool :=
  !(segmentPattern ≠ some "*" && segmentPattern ≠ some "#" &&
    (segment ≠ "" && segmentPattern ≠ some (toLocaleLowerCase segment)))

/-- A pattern applies if both of its segments do. -/
def applies (owner repo pattern : String) : Bool :=
  segmentApplies toLocaleLowerCase (split '/' pattern)[0]? owner &&
    segmentApplies toLocaleLowerCase (split '/' pattern)[1]? repo

/-- The precedence of a pattern. The assignments of the source are kept in their order. -/
def score (pattern : String) : Nat :=
  let ownerPattern := (split '/' pattern)[0]?
  let repoPattern := (split '/' pattern)[1]?
  let score := 0
  let score := if repoPattern = some "*" then score + 1 else score
  let score := if ownerPattern = some "*" then score + 2 else score
  if ownerPattern = some "#" ∨ repoPattern = some "#" then 4 else score

/-- The candidates have one name. -/
def bestCandidate (candidates : List T) : Option T :=
  match candidates with
  | [e] => some e
  | candidates => Group.bestOf (fun e => score (asValue e).repositoryPattern) 10 none candidates

/-- The variables for a repository, one for each name. -/
def filter (vars : List T) (owner repo : String) : List T :=
  let result := vars.filter fun e => applies toLocaleLowerCase owner repo
    (asValue e).repositoryPattern
  let resmap := Group.groups (fun e => (asValue e).name) result
  resmap.filterMap fun entry => bestCandidate asValue entry.2

/-! ## Patterns -/

/-- A pattern of two segments. -/
def TwoSegments (pattern : String) : Prop :=
  ∃ owner repo : String, '/' ∉ owner.toList ∧ '/' ∉ repo.toList ∧
    pattern = owner ++ "/" ++ repo

/-- A segment stands for anything, or for its value. -/
def SegmentMatches (segmentPattern segment : String) : Prop :=
  segmentPattern = "*" ∨ segmentPattern = "#" ∨ segmentPattern = toLocaleLowerCase segment

/-- What it means that a pattern of two segments matches. -/
def Matches (owner repo pattern : String) : Prop :=
  ∃ ownerPattern repoPattern : String, '/' ∉ ownerPattern.toList ∧ '/' ∉ repoPattern.toList ∧
    pattern = ownerPattern ++ "/" ++ repoPattern ∧
    SegmentMatches toLocaleLowerCase ownerPattern owner ∧
    SegmentMatches toLocaleLowerCase repoPattern repo

/-- What a segment can be. -/
inductive Segment
  | value
  | star
  | hash
  deriving DecidableEq

/-- What a segment is. -/
def segmentOf (segmentPattern : String) : Segment :=
  if segmentPattern = "*" then .star else if segmentPattern = "#" then .hash else .value

/-- The precedence of two segments. The more specific pattern comes first. -/
def precedence : Segment → Segment → Nat
  | .value, .value => 0
  | .value, .star => 1
  | .star, .value => 2
  | .star, .star => 3
  | .hash, _ => 4
  | _, .hash => 4

/-- The precedence the score is meant to be. -/
def level (pattern : String) : Nat :=
  match split '/' pattern with
  | [ownerPattern, repoPattern] => precedence (segmentOf ownerPattern) (segmentOf repoPattern)
  | _ => 5

variable {asValue toLocaleLowerCase} {owner repo pattern ownerPattern repoPattern : String}

/-- A pattern of two segments is taken apart as it was put together. -/
theorem split_twoSegments (howner : '/' ∉ ownerPattern.toList) (hrepo : '/' ∉ repoPattern.toList) :
    split '/' (ownerPattern ++ "/" ++ repoPattern) = [ownerPattern, repoPattern] := by
  have hseparator : ownerPattern ++ "/" ++ repoPattern =
      ownerPattern ++ String.singleton '/' ++ repoPattern := rfl
  rw [hseparator, split_append howner, split_of_not_mem hrepo]

/-- A normalized pattern has two segments, if lower case has no slashes of its own. -/
theorem twoSegments_normalizeRepoPattern {normalized : String}
    (hlower : ∀ s : String, '/' ∉ s.toList → '/' ∉ (toLocaleLowerCase s).toList)
    (h : normalizeRepoPattern toLocaleLowerCase pattern = some normalized) :
    TwoSegments normalized := by
  rw [normalizeRepoPattern] at h
  split at h
  · next owner repo rest hsplit =>
      have howner : owner ∈ split '/' pattern := by
        rw [hsplit]
        exact List.mem_cons_self
      have hrepo : repo ∈ split '/' pattern := by
        rw [hsplit]
        exact List.mem_cons_of_mem _ List.mem_cons_self
      exact ⟨_, _, hlower _ (not_mem_of_mem_split howner), hlower _ (not_mem_of_mem_split hrepo),
        (Option.some.inj h).symm⟩
  · exact nomatch h

/-- A segment applies if it matches, as long as there is something to match. -/
theorem segmentApplies_iff {segmentPattern segment : String} (hne : segment ≠ "") :
    segmentApplies toLocaleLowerCase (some segmentPattern) segment = true ↔
      SegmentMatches toLocaleLowerCase segmentPattern segment := by
  simp only [segmentApplies, SegmentMatches, ne_eq, Option.some.injEq, hne, not_false_eq_true,
    decide_true, Bool.true_and, Bool.not_eq_true', Bool.and_eq_false_iff, decide_eq_false_iff_not,
    not_not, or_assoc]

theorem applies_iff (howner : owner ≠ "") (hrepo : repo ≠ "") (htwo : TwoSegments pattern) :
    applies toLocaleLowerCase owner repo pattern = true ↔
      Matches toLocaleLowerCase owner repo pattern := by
  rcases htwo with ⟨ownerPattern, repoPattern, hownerPattern, hrepoPattern, rfl⟩
  have happlies : applies toLocaleLowerCase owner repo (ownerPattern ++ "/" ++ repoPattern) = true ↔
      SegmentMatches toLocaleLowerCase ownerPattern owner ∧
        SegmentMatches toLocaleLowerCase repoPattern repo := by
    rw [applies, split_twoSegments hownerPattern hrepoPattern, Bool.and_eq_true,
      ← segmentApplies_iff howner, ← segmentApplies_iff hrepo]
    rfl
  rw [happlies]
  constructor
  · rintro ⟨hmatch, hmatch'⟩
    exact ⟨_, _, hownerPattern, hrepoPattern, rfl, hmatch, hmatch'⟩
  · rintro ⟨o, r, ho, hr, heq, hmatch, hmatch'⟩
    have hsegments := congrArg (split '/') heq
    rw [split_twoSegments hownerPattern hrepoPattern, split_twoSegments ho hr, List.cons.injEq,
      List.cons.injEq] at hsegments
    rw [hsegments.1, hsegments.2.1]
    exact ⟨hmatch, hmatch'⟩

theorem level_twoSegments (howner : '/' ∉ ownerPattern.toList)
    (hrepo : '/' ∉ repoPattern.toList) : level (ownerPattern ++ "/" ++ repoPattern) =
      precedence (segmentOf ownerPattern) (segmentOf repoPattern) := by
  rw [level, split_twoSegments howner hrepo]

/-- The score is the precedence. -/
theorem score_eq_level (htwo : TwoSegments pattern) : score pattern = level pattern := by
  rcases htwo with ⟨ownerPattern, repoPattern, howner, hrepo, rfl⟩
  have hdistinct : ¬ "#" = "*" := by decide
  have hdistinct' : ¬ "*" = "#" := by decide
  rw [level_twoSegments howner hrepo, score, split_twoSegments howner hrepo]
  simp only [List.getElem?_cons_zero, List.getElem?_cons_succ, Option.some.injEq, segmentOf]
  by_cases hostar : ownerPattern = "*"
  · by_cases hrstar : repoPattern = "*"
    · simp [hostar, hrstar, precedence]
    · by_cases hrhash : repoPattern = "#" <;> simp [hostar, hrstar, hrhash, precedence]
  · by_cases hohash : ownerPattern = "#"
    · simp [hohash, precedence]
    · by_cases hrstar : repoPattern = "*"
      · simp [hostar, hohash, hrstar, precedence]
      · by_cases hrhash : repoPattern = "#" <;> simp [hostar, hohash, hrstar, hrhash, precedence]

theorem precedence_le (o r : Segment) : precedence o r ≤ 4 := by
  cases o <;> cases r <;> decide

theorem level_le (htwo : TwoSegments pattern) : level pattern ≤ 4 := by
  rcases htwo with ⟨ownerPattern, repoPattern, howner, hrepo, rfl⟩
  rw [level_twoSegments howner hrepo]
  exact precedence_le _ _

/-- Without a `#` the precedence tells which segments are values. -/
theorem segments_of_precedence {o r o' r' : Segment} (heq : precedence o r = precedence o' r')
    (hlt : precedence o r < 4) : o = o' ∧ r = r' ∧ o ≠ .hash ∧ r ≠ .hash := by
  cases o <;> cases r <;> cases o' <;> cases r' <;> simp_all [precedence]

/-- A segment that matches and is no `#` is known from its kind. -/
theorem segment_eq {p q segment : String} (hp : SegmentMatches toLocaleLowerCase p segment)
    (hq : SegmentMatches toLocaleLowerCase q segment) (heq : segmentOf p = segmentOf q)
    (hne : segmentOf p ≠ .hash) : p = q := by
  -- Such a segment is a star, or the value itself.
  have hkind : ∀ s : String, SegmentMatches toLocaleLowerCase s segment → segmentOf s ≠ .hash →
      s = if segmentOf s = .star then "*" else toLocaleLowerCase segment := by
    intro s hs hhash
    by_cases hstar : s = "*"
    · rw [segmentOf, if_pos hstar, if_pos rfl]
      exact hstar
    · by_cases hh : s = "#"
      · rw [segmentOf, if_neg hstar, if_pos hh] at hhash
        exact absurd rfl hhash
      · rw [segmentOf, if_neg hstar, if_neg hh, if_neg (by decide)]
        exact (hs.resolve_left hstar).resolve_left hh
  rw [hkind p hp hne, hkind q hq (heq ▸ hne), heq]

/-- Of the patterns that match a repository at most one has some precedence below 4. -/
theorem pattern_eq_of_level {p q : String} (hp : Matches toLocaleLowerCase owner repo p)
    (hq : Matches toLocaleLowerCase owner repo q) (heq : level p = level q)
    (hlt : level p < 4) : p = q := by
  rcases hp with ⟨o, r, ho, hr, rfl, hmo, hmr⟩
  rcases hq with ⟨o', r', ho', hr', rfl, hmo', hmr'⟩
  rw [level_twoSegments ho hr] at heq hlt
  rw [level_twoSegments ho' hr'] at heq
  rcases segments_of_precedence heq hlt with ⟨howner, hrepo, hne, hne'⟩
  rw [segment_eq hmo hmo' howner hne, segment_eq hmr hmr' hrepo hne']

/-! ## The candidates -/

variable (asValue toLocaleLowerCase)

/-- The variables of a name that apply. -/
def candidates (vars : List T) (owner repo name : String) : List T :=
  (vars.filter fun e => applies toLocaleLowerCase owner repo
    (asValue e).repositoryPattern).filter fun e => decide ((asValue e).name = name)

variable {asValue toLocaleLowerCase} {vars vars' : List T} {name : String} {v w : T}

/-- A candidate is a variable of the name whose pattern matches. -/
theorem mem_candidates_iff (howner : owner ≠ "") (hrepo : repo ≠ "")
    (htwo : ∀ v ∈ vars, TwoSegments (asValue v).repositoryPattern) :
    v ∈ candidates asValue toLocaleLowerCase vars owner repo name ↔
      v ∈ vars ∧ Matches toLocaleLowerCase owner repo (asValue v).repositoryPattern ∧
        (asValue v).name = name := by
  rw [candidates, List.mem_filter, List.mem_filter, decide_eq_true_iff]
  constructor
  · rintro ⟨⟨hv, happlies⟩, hname⟩
    exact ⟨hv, (applies_iff howner hrepo (htwo v hv)).mp happlies, hname⟩
  · rintro ⟨hv, hmatch, hname⟩
    exact ⟨⟨hv, (applies_iff howner hrepo (htwo v hv)).mpr hmatch⟩, hname⟩

variable (asValue) in
/-- The first one of the best candidates. -/
theorem bestCandidate_cons (b : T) (rest : List T) : ∃ v ∈ b :: rest,
    bestCandidate asValue (b :: rest) = some v ∧
      (∀ e ∈ b :: rest, score (asValue v).repositoryPattern ≤ score (asValue e).repositoryPattern) ∧
      ((∀ e ∈ rest, score (asValue b).repositoryPattern ≤ score (asValue e).repositoryPattern) →
        v = b) := by
  have hloop : bestCandidate asValue (b :: rest) =
      Group.bestOf (fun e => score (asValue e).repositoryPattern)
        (score (asValue b).repositoryPattern) (some b) rest := by
    cases rest with
    | nil => rfl
    | cons e rest =>
        rw [bestCandidate]
        · exact Group.bestOf_none _ _ _
        · nofun
  rw [hloop]
  exact Group.bestOf_some b rest

theorem of_bestCandidate {es : List T} (h : bestCandidate asValue es = some v) : v ∈ es ∧
    ∀ e ∈ es, score (asValue v).repositoryPattern ≤ score (asValue e).repositoryPattern := by
  cases es with
  | nil => exact nomatch h
  | cons b rest =>
      rcases bestCandidate_cons asValue b rest with ⟨v', hmem, hbest, hle, -⟩
      rw [hbest, Option.some.injEq] at h
      rw [← h]
      exact ⟨hmem, hle⟩

variable (asValue) in
theorem exists_bestCandidate {es : List T} (h : v ∈ es) :
    ∃ w, bestCandidate asValue es = some w := by
  cases es with
  | nil => exact nomatch h
  | cons b rest =>
      rcases bestCandidate_cons asValue b rest with ⟨w, -, hbest, -⟩
      exact ⟨w, hbest⟩

/-- What is returned is the best candidate of its name. -/
theorem mem_filter_iff : v ∈ filter asValue toLocaleLowerCase vars owner repo ↔
    bestCandidate asValue
      (candidates asValue toLocaleLowerCase vars owner repo (asValue v).name) = some v := by
  simp only [filter, List.mem_filterMap]
  constructor
  · rintro ⟨g, hg, hbest⟩
    rw [Group.snd_of_mem_groups hg] at hbest
    have hname := of_decide_eq_true (List.mem_filter.mp (of_bestCandidate hbest).1).2
    rw [candidates, hname]
    exact hbest
  · intro hbest
    have hmem := (of_bestCandidate hbest).1
    refine ⟨((asValue v).name, candidates asValue toLocaleLowerCase vars owner repo
      (asValue v).name), ?_, hbest⟩
    rw [Group.mem_groups_iff]
    exact ⟨List.mem_map_of_mem (List.mem_filter.mp hmem).1, rfl⟩

/-- Every group has a best candidate, whose name is the one of the group. -/
theorem names_filter (vars : List T) (owner repo : String) :
    (filter asValue toLocaleLowerCase vars owner repo).map (fun e => (asValue e).name) =
      (Group.groups (fun e => (asValue e).name) (vars.filter fun e =>
        applies toLocaleLowerCase owner repo (asValue e).repositoryPattern)).map Prod.fst := by
  have hgroup : ∀ g ∈ Group.groups (fun e => (asValue e).name) (vars.filter fun e =>
      applies toLocaleLowerCase owner repo (asValue e).repositoryPattern),
      ∃ v, bestCandidate asValue g.2 = some v ∧ (asValue v).name = g.1 := by
    intro g hg
    rcases (Group.mem_groups_iff _ g).mp hg with ⟨hkey, hrows⟩
    rcases List.mem_map.mp hkey with ⟨e, he, hname⟩
    have hmem : e ∈ g.2 := by
      rw [hrows, List.mem_filter]
      exact ⟨he, decide_eq_true hname⟩
    rcases exists_bestCandidate asValue hmem with ⟨v, hbest⟩
    have hv := (of_bestCandidate hbest).1
    rw [hrows, List.mem_filter] at hv
    exact ⟨v, hbest, of_decide_eq_true hv.2⟩
  rw [filter]
  generalize Group.groups (fun e => (asValue e).name) (vars.filter fun e =>
    applies toLocaleLowerCase owner repo (asValue e).repositoryPattern) = gs at hgroup ⊢
  induction gs with
  | nil => rfl
  | cons g gs ih =>
      rcases hgroup g List.mem_cons_self with ⟨v, hbest, hname⟩
      rw [List.filterMap_cons_some (f := fun entry : String × List T =>
        bestCandidate asValue entry.2) hbest,
        List.map_cons, List.map_cons, hname,
        ih fun g' hg' => hgroup g' (List.mem_cons_of_mem _ hg')]

/-! ## What is returned -/

variable (asValue toLocaleLowerCase)

/-- There is one variable for every name that has one that matches, and it matches and no other one
of its name is more specific. -/
structure Filtered (vars : List T) (owner repo : String) (result : List T) : Prop where
  nodup : (result.map fun v => (asValue v).name).Nodup
  names : ∀ name, name ∈ (result.map fun v => (asValue v).name) ↔ ∃ v ∈ vars,
    (asValue v).name = name ∧ Matches toLocaleLowerCase owner repo (asValue v).repositoryPattern
  matching : ∀ v ∈ result, v ∈ vars ∧
    Matches toLocaleLowerCase owner repo (asValue v).repositoryPattern
  specific : ∀ v ∈ result, ∀ w ∈ vars, (asValue w).name = (asValue v).name →
    Matches toLocaleLowerCase owner repo (asValue w).repositoryPattern →
      ¬ level (asValue w).repositoryPattern < level (asValue v).repositoryPattern

/-- The pattern that is chosen for a name. -/
def Chosen (vars : List T) (owner repo name pattern : String) : Prop :=
  ∃ v ∈ filter asValue toLocaleLowerCase vars owner repo,
    (asValue v).name = name ∧ (asValue v).repositoryPattern = pattern

/-- Two patterns with a `#` that match for one name are the same, unless there is a match without
one. -/
def Ranked (vars : List T) (owner repo : String) : Prop :=
  ∀ v ∈ vars, ∀ w ∈ vars, (asValue v).name = (asValue w).name →
    Matches toLocaleLowerCase owner repo (asValue v).repositoryPattern →
    Matches toLocaleLowerCase owner repo (asValue w).repositoryPattern →
    level (asValue v).repositoryPattern = 4 → level (asValue w).repositoryPattern = 4 →
      (asValue v).repositoryPattern = (asValue w).repositoryPattern ∨
      ∃ u ∈ vars, (asValue u).name = (asValue v).name ∧
        Matches toLocaleLowerCase owner repo (asValue u).repositoryPattern ∧
        level (asValue u).repositoryPattern < 4

variable {asValue toLocaleLowerCase}

variable (toLocaleLowerCase) in
/-- What is filtered has one variable for each name that has a candidate. -/
theorem filtered_filter (howner : owner ≠ "") (hrepo : repo ≠ "")
    (htwo : ∀ v ∈ vars, TwoSegments (asValue v).repositoryPattern) :
    Filtered asValue toLocaleLowerCase vars owner repo
      (filter asValue toLocaleLowerCase vars owner repo) where
  nodup := by
    rw [names_filter]
    exact Group.nodup_keys_groups _
  names name := by
    rw [names_filter, Group.mem_keys_groups_iff, List.mem_map]
    constructor
    · rintro ⟨v, hv, hname⟩
      rw [List.mem_filter] at hv
      exact ⟨v, hv.1, hname, (applies_iff howner hrepo (htwo v hv.1)).mp hv.2⟩
    · rintro ⟨v, hv, hname, hmatch⟩
      refine ⟨v, ?_, hname⟩
      rw [List.mem_filter]
      exact ⟨hv, (applies_iff howner hrepo (htwo v hv)).mpr hmatch⟩
  matching v hv := by
    have hmem := (of_bestCandidate (mem_filter_iff.mp hv)).1
    rw [mem_candidates_iff howner hrepo htwo] at hmem
    exact ⟨hmem.1, hmem.2.1⟩
  specific v hv w hw hname hmatch := by
    rcases of_bestCandidate (mem_filter_iff.mp hv) with ⟨hmem, hle⟩
    have hscore := hle w ((mem_candidates_iff howner hrepo htwo).mpr ⟨hw, hmatch, hname⟩)
    rw [mem_candidates_iff howner hrepo htwo] at hmem
    rw [score_eq_level (htwo v hmem.1), score_eq_level (htwo w hw)] at hscore
    omega

/-- With such patterns, what is chosen from two orders of a list has the same pattern. -/
theorem chosen_of_perm (howner : owner ≠ "") (hrepo : repo ≠ "")
    (htwo : ∀ v ∈ vars, TwoSegments (asValue v).repositoryPattern)
    (hranked : Ranked asValue toLocaleLowerCase vars owner repo) (hperm : vars.Perm vars')
    (h : Chosen asValue toLocaleLowerCase vars owner repo name pattern) :
    Chosen asValue toLocaleLowerCase vars' owner repo name pattern := by
  have htwo' : ∀ v ∈ vars', TwoSegments (asValue v).repositoryPattern :=
    fun v hv => htwo v (hperm.mem_iff.mpr hv)
  have hfiltered := filtered_filter toLocaleLowerCase howner hrepo htwo
  have hfiltered' := filtered_filter toLocaleLowerCase howner hrepo htwo'
  rcases h with ⟨v, hv, hname, hpattern⟩
  rcases hfiltered.matching v hv with ⟨hvars, hmatch⟩
  rcases List.mem_map.mp ((hfiltered'.names name).mpr
    ⟨v, hperm.mem_iff.mp hvars, hname, hmatch⟩) with ⟨v', hv', hname'⟩
  rcases hfiltered'.matching v' hv' with ⟨hvars', hmatch'⟩
  have hmem := hperm.mem_iff.mpr hvars'
  have hsame : (asValue v').name = (asValue v).name := hname'.trans hname.symm
  -- Each of the two is as specific as the other.
  have hle := hfiltered.specific v hv v' hmem hsame hmatch'
  have hge := hfiltered'.specific v' hv' v (hperm.mem_iff.mp hvars) hsame.symm hmatch
  have hlevel : level (asValue v).repositoryPattern = level (asValue v').repositoryPattern := by
    omega
  refine ⟨v', hv', hname', ?_⟩
  rw [← hpattern]
  by_cases hlt : level (asValue v).repositoryPattern < 4
  · exact (pattern_eq_of_level hmatch hmatch' hlevel hlt).symm
  · have hfour : level (asValue v).repositoryPattern = 4 := by
      have hbound := level_le (htwo v hvars)
      omega
    rcases hranked v hvars v' hmem hsame.symm hmatch hmatch' hfour (hlevel ▸ hfour) with
      heq | ⟨u, hu, huname, humatch, hulevel⟩
    · exact heq.symm
    · -- A pattern without `#` would have been chosen.
      have hbest := hfiltered.specific v hv u hu huname humatch
      omega

/-- The first one in the list is chosen, where no other one is better. -/
theorem chosen_cons (howner : owner ≠ "") (hrepo : repo ≠ "")
    (htwo : ∀ u ∈ v :: vars, TwoSegments (asValue u).repositoryPattern)
    (hmatch : Matches toLocaleLowerCase owner repo (asValue v).repositoryPattern)
    (hle : ∀ u ∈ vars, (asValue u).name = (asValue v).name →
      Matches toLocaleLowerCase owner repo (asValue u).repositoryPattern →
        level (asValue v).repositoryPattern ≤ level (asValue u).repositoryPattern) :
    Chosen asValue toLocaleLowerCase (v :: vars) owner repo (asValue v).name
      (asValue v).repositoryPattern := by
  refine ⟨v, ?_, rfl, rfl⟩
  rw [mem_filter_iff]
  have happlies := (applies_iff howner hrepo (htwo v List.mem_cons_self)).mpr hmatch
  have hcandidates : candidates asValue toLocaleLowerCase (v :: vars) owner repo (asValue v).name =
      v :: candidates asValue toLocaleLowerCase vars owner repo (asValue v).name := by
    rw [candidates, List.filter_cons_of_pos (p := fun e => applies toLocaleLowerCase owner repo
      (asValue e).repositoryPattern) happlies, List.filter_cons, if_pos (decide_eq_true rfl)]
    rfl
  rw [hcandidates]
  rcases bestCandidate_cons asValue v (candidates asValue toLocaleLowerCase vars owner
    repo (asValue v).name) with ⟨v', -, hbest, -, hfirst⟩
  rw [hbest, hfirst]
  intro e he
  have htail : ∀ u ∈ vars, TwoSegments (asValue u).repositoryPattern :=
    fun u hu => htwo u (List.mem_cons_of_mem _ hu)
  rw [mem_candidates_iff howner hrepo htail] at he
  rw [score_eq_level (htwo v List.mem_cons_self), score_eq_level (htail e he.1)]
  exact hle e he.1 he.2.2 he.2.1

theorem chosen_unique {p q : String} (howner : owner ≠ "") (hrepo : repo ≠ "")
    (htwo : ∀ v ∈ vars, TwoSegments (asValue v).repositoryPattern)
    (hp : Chosen asValue toLocaleLowerCase vars owner repo name p)
    (hq : Chosen asValue toLocaleLowerCase vars owner repo name q) : p = q := by
  rcases hp with ⟨v, hv, hname, hpattern⟩
  rcases hq with ⟨w, hw, hname', hpattern'⟩
  have hnodup := (filtered_filter toLocaleLowerCase howner hrepo htwo).nodup
  rw [← hpattern, ← hpattern',
    List.inj_on_of_nodup_map hnodup hv hw (hname.trans hname'.symm)]

/-- If the choice never depends on the order of the variables, precedences tell the patterns
    apart. -/
theorem ranked_of_chosen (howner : owner ≠ "") (hrepo : repo ≠ "")
    (htwo : ∀ v ∈ vars, TwoSegments (asValue v).repositoryPattern)
    (h : ∀ vars', vars.Perm vars' → ∀ name pattern,
      Chosen asValue toLocaleLowerCase vars owner repo name pattern ↔
        Chosen asValue toLocaleLowerCase vars' owner repo name pattern) :
    Ranked asValue toLocaleLowerCase vars owner repo := by
  -- Any of the best candidates is chosen if it comes first.
  have hfirst : ∀ u ∈ vars, Matches toLocaleLowerCase owner repo (asValue u).repositoryPattern →
      (∀ e ∈ vars, (asValue e).name = (asValue u).name →
        Matches toLocaleLowerCase owner repo (asValue e).repositoryPattern →
          level (asValue u).repositoryPattern ≤ level (asValue e).repositoryPattern) →
      Chosen asValue toLocaleLowerCase vars owner repo (asValue u).name
        (asValue u).repositoryPattern := by
    intro u hu hmatch hle
    rcases List.append_of_mem hu with ⟨before, behind, hvars⟩
    have hperm : vars.Perm (u :: (before ++ behind)) := hvars ▸ List.perm_middle
    refine (h _ hperm _ _).mpr (chosen_cons howner hrepo
      (fun e he => htwo e (hperm.mem_iff.mpr he)) hmatch fun e he => hle e ?_)
    exact hperm.mem_iff.mpr (List.mem_cons_of_mem _ he)
  intro v hv w hw hname hmatch hmatch' hfour hfour'
  -- Without a better one, both of them can come first.
  by_cases hbetter : ∃ u ∈ vars, (asValue u).name = (asValue v).name ∧
      Matches toLocaleLowerCase owner repo (asValue u).repositoryPattern ∧
      level (asValue u).repositoryPattern < 4
  · exact .inr hbetter
  · have hle : ∀ e ∈ vars, (asValue e).name = (asValue v).name →
        Matches toLocaleLowerCase owner repo (asValue e).repositoryPattern →
          4 ≤ level (asValue e).repositoryPattern := by
      intro e he hename hematch
      by_contra hlt
      exact hbetter ⟨e, he, hename, hematch, by omega⟩
    have hchosen := hfirst v hv hmatch fun e he hename hematch =>
      hfour.symm ▸ hle e he hename hematch
    have hchosen' := hfirst w hw hmatch' fun e he hename hematch =>
      hfour'.symm ▸ hle e he (hename.trans hname.symm) hematch
    rw [← hname] at hchosen'
    exact .inl (chosen_unique howner hrepo htwo hchosen hchosen')

/-- For each name there is one variable, with a pattern that matches and is as specific as
    possible. Its pattern does not depend on the order of the list, as long as no name has only
    patterns with a `#` which are not all the same. The patterns are put in order by a score,
    and what has the same score is left as it came. -/
theorem filter_spec (asValue : T → UserEnvVarValue) (toLocaleLowerCase : String → String)
    (vars : List T) (owner repo : String) (howner : owner ≠ "") (hrepo : repo ≠ "")
    (htwo : ∀ v ∈ vars, TwoSegments (asValue v).repositoryPattern) :
    Filtered asValue toLocaleLowerCase vars owner repo
      (filter asValue toLocaleLowerCase vars owner repo) ∧
    ((∀ vars', vars.Perm vars' → ∀ name pattern,
      Chosen asValue toLocaleLowerCase vars owner repo name pattern ↔
        Chosen asValue toLocaleLowerCase vars' owner repo name pattern) ↔
      Ranked asValue toLocaleLowerCase vars owner repo) := by
  refine ⟨filtered_filter toLocaleLowerCase howner hrepo htwo,
    ranked_of_chosen howner hrepo htwo, ?_⟩
  intro hranked vars' hperm name pattern
  have hranked' : Ranked asValue toLocaleLowerCase vars' owner repo := by
    intro v hv w hw hname hmatch hmatch' hfour hfour'
    rcases hranked v (hperm.mem_iff.mpr hv) w (hperm.mem_iff.mpr hw) hname hmatch hmatch' hfour
      hfour' with heq | ⟨u, hu, hrest⟩
    · exact .inl heq
    · exact .inr ⟨u, hperm.mem_iff.mp hu, hrest⟩
  exact ⟨chosen_of_perm howner hrepo htwo hranked hperm,
    chosen_of_perm howner hrepo (fun v hv => htwo v (hperm.mem_iff.mpr hv)) hranked' hperm.symm⟩

/-- For every organization, and for the one that is asked for. -/
def editors : List UserEnvVarValue :=
  [⟨some "1", "EDITOR", "*/*", "vi"⟩, ⟨some "2", "EDITOR", "acme/*", "ed"⟩,
    ⟨none, "EDITOR", "#/#", "code"⟩]

/-- The other way round, the same one is chosen. -/
theorem filter_spec_editors :
    Chosen id String.toLower editors.reverse "acme" "anvil" "EDITOR" "acme/*" := by
  have htwo : ∀ v ∈ editors, TwoSegments v.repositoryPattern := by
    intro v hv
    simp only [editors, List.mem_cons, List.not_mem_nil, or_false] at hv
    rcases hv with rfl | rfl | rfl
    · exact ⟨"*", "*", by decide, by decide, rfl⟩
    · exact ⟨"acme", "*", by decide, by decide, rfl⟩
    · exact ⟨"#", "#", by decide, by decide, rfl⟩
  have hfilter : filter id String.toLower editors "acme" "anvil" =
      [⟨some "2", "EDITOR", "acme/*", "ed"⟩] := by decide +kernel
  refine ((filter_spec id String.toLower editors "acme" "anvil" (by decide) (by decide)
    htwo).2.mpr ?_ editors.reverse editors.reverse_perm.symm "EDITOR" "acme/*").mp
    ⟨_, hfilter ▸ List.mem_cons_self, rfl, rfl⟩
  -- Only one of the patterns has a `#`.
  have hlevel : ∀ v ∈ editors, level v.repositoryPattern = 4 → v.repositoryPattern = "#/#" := by
    decide
  intro v hv w hw hname hmatch hmatch' hfour hfour'
  exact .inl ((hlevel v hv hfour).trans (hlevel w hw hfour').symm)

/-- Two patterns with a `#` have one score, and the first one is chosen. -/
theorem first_hash_chosen : ¬ ∀ (toLocaleLowerCase : String → String) (vars vars' :
    List UserEnvVarValue) (owner repo : String), owner ≠ "" → repo ≠ "" →
    (∀ v ∈ vars, TwoSegments v.repositoryPattern) → vars.Perm vars' → ∀ name pattern,
      Chosen id toLocaleLowerCase vars owner repo name pattern ↔
        Chosen id toLocaleLowerCase vars' owner repo name pattern := by
  intro hall
  have htwo : ∀ v ∈ ([⟨none, "EDITOR", "#/#", "code"⟩, ⟨none, "EDITOR", "#/*", "vi"⟩] :
      List UserEnvVarValue), TwoSegments v.repositoryPattern := by
    intro v hv
    simp only [List.mem_cons, List.not_mem_nil, or_false] at hv
    rcases hv with rfl | rfl
    · exact ⟨"#", "#", by decide, by decide, rfl⟩
    · exact ⟨"#", "*", by decide, by decide, rfl⟩
  have hchosen := (hall id _ _ "acme" "anvil" (by decide) (by decide) htwo
    (List.Perm.swap _ _ _).symm "EDITOR" "#/#").mp ⟨_, List.mem_cons_self, rfl, rfl⟩
  rcases hchosen with ⟨v, hv, -, hpattern⟩
  have hreturned : v ∈ ([⟨none, "EDITOR", "#/*", "vi"⟩] : List UserEnvVarValue) := hv
  rw [List.mem_singleton.mp hreturned] at hpattern
  exact absurd hpattern (by decide)

end UserEnvVar

end Protocol

end Nxpod
