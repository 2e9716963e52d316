import Mathlib.Data.List.Infix
import Nxpod.Library.Ledger
import Nxpod.Library.Text

/-!
# The Hosts File

The governer of a node's hosts file writes the hosts of several sources to it. A line that it has
added ends in a comment that names the source, and when the source has other hosts, all lines with
this comment are left out and the new ones are added at the end. The other lines are trimmed, and
empty ones are left out as well.

A line that holds the comment of a source is taken for a line of this source. The comment ends in
the name of the source, so the lines of a source whose name goes on after the name of another one
are taken for lines of that one too.

Apart from blank lines and the white space around lines, the file is a ledger.

## Main definitions

* `Host`: An address and the name for it.
* `HostUpdate`: All the hosts that a source has now.
* `markerComment`, `hostLine`: The comment, and a line with it.
* `updateHostsFile`: The file after an update.
* `Attempt`: An update, and whether the lock on the file was acquired.
* `run`: The file after some updates, where not every one gets the lock.
* `entries`: The lines of a file, trimmed and without blank ones.
* `Proper`: The lines of an update can be told from the others.
* `Plain`: Names and addresses without what the comment and the lines are made of.

## Theorems

* `split_updateHostsFile`: The lines of an updated file.
* `entries_updateHostsFile`: An update is a post to the ledger.
* `contains_hostLine_iff`, `trimSpace_hostLine`: What the lines of a source hold.
* `entries_run`: The file after some updates.
-/

namespace Nxpod

namespace HostsGov

open Text

/-- `strings.Contains`. -/
def contains (s substr : String) : Bool :=
  decide (substr.toList <:+: s.toList)

/-- An address and the name for it. -/
structure Host where
  addr : String
  name : String
  deriving DecidableEq

/-- All the hosts that a source has now. -/
structure HostUpdate where
  src : String
  hosts : List Host

/-- The comment by which the governer knows its lines again. -/
def markerComment (name src : String) : String :=
  " # added by ws-manager-node " ++ name ++ ": " ++ src

/-- A line of the file, with fields as the system reads them. -/
def hostLine (name src : String) (h : Host) : String :=
  h.addr ++ "\t" ++ h.name ++ "\t" ++ markerComment name src

/-- The lines of the updated file: those that did not come from the source, then its hosts. -/
def newhosts (name file : String) (update : HostUpdate) : List String :=
  ((split '\n' file).filter fun l =>
    !contains l (markerComment name update.src) && l != "").map trimSpace ++
      update.hosts.map (hostLine name update.src)

/-- The whole file is written anew, with a line end behind the last line. -/
def updateHostsFile (name file : String) (update : HostUpdate) : String :=
  join '\n' (newhosts name file update ++ [""])

/-- An update, and whether the lock on the file was acquired. -/
structure Attempt where
  update : HostUpdate
  acquired : Bool

/-- An attempt that does not get the lock in time does nothing. -/
def run (name file : String) (attempts : List Attempt) : String :=
  attempts.foldl
    (fun file a => if a.acquired then updateHostsFile name file a.update else file) file

/-- The updates that were made. -/
def published (attempts : List Attempt) : List HostUpdate :=
  (attempts.filter Attempt.acquired).map Attempt.update

/-- The lines that say something, without the white space around them. -/
def entries (file : String) : List String :=
  ((split '\n' file).map trimSpace).filter fun e => e != ""

/-- The lines that are not empty, as they are. -/
def filled (file : String) : List String :=
  (split '\n' file).filter fun l => l != ""

/-- What an update has to say to the ledger. -/
def posted (name : String) (update : HostUpdate) : String × List String :=
  (update.src, update.hosts.map fun h => trimSpace (hostLine name update.src h))

/-! ## Trimming -/

theorem trimSpace_empty : trimSpace "" = "" := rfl

theorem contains_of_trimSpace {s substr : String} (h : contains (trimSpace s) substr = true) :
    contains s substr = true := by
  refine decide_eq_true ((of_decide_eq_true h).trans ?_)
  rw [trimSpace, String.toList_ofList]
  exact isInfix_trimWhere isUnicodeSpace s.toList

theorem not_mem_trimSpace {s : String} {c : Char} (h : c ∉ s.toList) :
    c ∉ (trimSpace s).toList := by
  rw [trimSpace, String.toList_ofList]
  exact fun hmem => h ((isInfix_trimWhere isUnicodeSpace s.toList).subset hmem)

theorem toList_markerComment (name src : String) :
    (markerComment name src).toList =
      ' ' :: '#' :: (" added by ws-manager-node ".toList ++ (name.toList ++
        (": ".toList ++ src.toList))) := by
  -- The texts are variables here, since they would be evaluated otherwise.
  have happend : ∀ s t : String, (s ++ name ++ t ++ src).toList =
      s.toList ++ (name.toList ++ (t.toList ++ src.toList)) := by
    intro s t
    simp only [String.toList_append, List.append_assoc]
  have hhash : " # added by ws-manager-node ".toList =
      ' ' :: '#' :: " added by ws-manager-node ".toList := by decide +kernel
  have hcons : ∀ cs ds : List Char, (' ' :: '#' :: cs) ++ ds = ' ' :: '#' :: (cs ++ ds) :=
    fun _ _ => rfl
  exact (happend _ _).trans ((congrArg (· ++ _) hhash).trans (hcons _ _))

theorem toList_hostLine (name src : String) (h : Host) :
    (hostLine name src h).toList =
      h.addr.toList ++ '\t' :: (h.name.toList ++ '\t' :: (markerComment name src).toList) := by
  have htab : "\t".toList = ['\t'] := rfl
  simp only [hostLine, String.toList_append, htab, List.append_assoc, List.cons_append,
    List.nil_append]

theorem contains_hostLine (name src : String) (h : Host) :
    contains (hostLine name src h) (markerComment name src) = true := by
  refine decide_eq_true ?_
  rw [toList_hostLine]
  refine List.IsSuffix.isInfix ⟨h.addr.toList ++ '\t' :: (h.name.toList ++ ['\t']), ?_⟩
  simp only [List.append_assoc, List.cons_append, List.nil_append]

theorem ne_empty_of_contains {s name src : String}
    (h : contains s (markerComment name src) = true) : s ≠ "" := by
  rintro rfl
  have hnil : (markerComment name src).toList = [] := List.infix_nil.mp (of_decide_eq_true h)
  rw [toList_markerComment] at hnil
  exact List.cons_ne_nil _ _ hnil

/-! ## One update -/

variable {name file : String} {update : HostUpdate}

/-- No line of the update is more than one. -/
def OneLine (name : String) (update : HostUpdate) : Prop :=
  ∀ h ∈ update.hosts, '\n' ∉ (hostLine name update.src h).toList

theorem split_updateHostsFile (hone : OneLine name update) :
    split '\n' (updateHostsFile name file update) = newhosts name file update ++ [""] := by
  have hne : newhosts name file update ++ [""] ≠ [] :=
    List.append_ne_nil_of_right_ne_nil _ (List.cons_ne_nil _ _)
  refine split_join hne fun part hpart => ?_
  rcases List.mem_append.mp hpart with hpart | hpart
  · rcases List.mem_append.mp hpart with hpart | hpart
    · rcases List.mem_map.mp hpart with ⟨l, hl, rfl⟩
      exact not_mem_trimSpace (not_mem_of_mem_split (List.mem_of_mem_filter hl))
    · rcases List.mem_map.mp hpart with ⟨h, hh, rfl⟩
      exact hone h hh
  · rw [List.mem_singleton.mp hpart]
    exact List.not_mem_nil

/-- Where trimming hides no comment of the source, an update is a post. -/
theorem entries_updateHostsFile (hone : OneLine name update)
    (hown : ∀ h ∈ update.hosts,
      contains (trimSpace (hostLine name update.src h)) (markerComment name update.src) = true)
    (hfile : ∀ l ∈ split '\n' file, contains l (markerComment name update.src) = true →
      contains (trimSpace l) (markerComment name update.src) = true) :
    entries (updateHostsFile name file update) =
      Ledger.post (fun src e => contains e (markerComment name src)) (entries file)
        (posted name update) := by
  rw [entries, split_updateHostsFile hone, newhosts, List.append_assoc, List.map_append,
    List.filter_append, Ledger.post]
  -- First the lines that were kept, then the ones that were written.
  refine congrArg₂ HAppend.hAppend ?_ ?_
  · rw [List.map_map, entries, List.filter_filter, List.filter_map, List.filter_map,
      List.filter_filter]
    have htrim : trimSpace ∘ trimSpace = trimSpace := funext trimSpace_trimSpace
    rw [htrim]
    refine congrArg (List.map trimSpace) (List.filter_congr fun l hl => ?_)
    have hsame : contains (trimSpace l) (markerComment name update.src) =
        contains l (markerComment name update.src) :=
      Bool.eq_iff_iff.mpr ⟨contains_of_trimSpace, hfile l hl⟩
    simp only [Function.comp_apply, posted, hsame]
    by_cases hempty : l = ""
    · rw [hempty, trimSpace_empty]
      simp only [bne_self_eq_false, Bool.and_false]
    · simp only [bne_iff_ne.mpr hempty, Bool.true_and, Bool.and_comm]
  · rw [List.map_append, List.filter_append, List.map_map]
    have hlast : ([""].map trimSpace).filter (fun e => e != "") = [] := rfl
    rw [hlast, List.append_nil, List.filter_eq_self.mpr]
    · rfl
    · intro e he
      rcases List.mem_map.mp he with ⟨h, hh, rfl⟩
      exact bne_iff_ne.mpr (ne_empty_of_contains (hown h hh))

/-- The same update again leaves out the lines that were trimmed to nothing. -/
theorem filled_updateHostsFile (hone : OneLine name update) :
    filled (updateHostsFile name (updateHostsFile name file update) update) =
      filled (updateHostsFile name file update) := by
  have hlines : ∀ l ∈ update.hosts.map (hostLine name update.src),
      contains l (markerComment name update.src) = true := by
    intro l hl
    rcases List.mem_map.mp hl with ⟨h, -, rfl⟩
    exact contains_hostLine name update.src h
  -- The second update drops what the first has written, and writes it again.
  have hagain : newhosts name (updateHostsFile name file update) update =
      (newhosts name file update).filter fun l => l != "" := by
    rw [newhosts, split_updateHostsFile hone, newhosts, List.filter_append, List.filter_append,
      List.filter_append, List.map_append, List.map_append]
    have hlast : ([""].filter fun l => !contains l (markerComment name update.src) && l != "") =
        [] := by
      rw [List.filter_cons_of_neg, List.filter_nil]
      simp only [bne_self_eq_false, Bool.and_false, Bool.false_eq_true, not_false_eq_true]
    have hdropped : ((update.hosts.map (hostLine name update.src)).filter fun l =>
        !contains l (markerComment name update.src) && l != "") = [] := by
      refine List.filter_eq_nil_iff.mpr fun l hl => ?_
      rw [hlines l hl]
      exact Bool.false_ne_true
    have hkept : ((update.hosts.map (hostLine name update.src)).filter fun l => l != "") =
        update.hosts.map (hostLine name update.src) :=
      List.filter_eq_self.mpr fun l hl => bne_iff_ne.mpr (ne_empty_of_contains (hlines l hl))
    rw [hlast, hdropped, hkept, List.map_nil, List.append_nil, List.append_nil]
    refine congrArg₂ HAppend.hAppend ?_ rfl
    rw [List.filter_map, List.filter_map, List.map_map, List.filter_filter, List.filter_filter,
      show trimSpace ∘ trimSpace = trimSpace from funext trimSpace_trimSpace]
    refine congrArg (List.map trimSpace) (List.filter_congr fun l _ => ?_)
    simp only [Function.comp_apply]
    by_cases hmarked : contains l (markerComment name update.src) = true
    · simp only [hmarked, Bool.not_true, Bool.false_and, Bool.and_false]
    · have htrimmed : contains (trimSpace l) (markerComment name update.src) = false :=
        Bool.eq_false_iff.mpr fun h => hmarked (contains_of_trimSpace h)
      simp only [htrimmed, Bool.not_false, Bool.true_and]
  have hempty : ∀ ls : List String, (ls ++ [""]).filter (fun l => l != "") =
      ls.filter fun l => l != "" := by
    intro ls
    rw [List.filter_append]
    exact List.append_nil _
  rw [filled, split_updateHostsFile hone, hempty, hagain, List.filter_filter, filled,
    split_updateHostsFile hone, hempty]
  refine List.filter_congr fun l _ => ?_
  rw [Bool.and_self]

/-! ## Several sources -/

/-- Each line of the update is one line, holds its own comment when it is trimmed, and holds the
comment of no other source. -/
structure Proper (name : String) (updates : List HostUpdate) (update : HostUpdate) : Prop where
  one : OneLine name update
  own : ∀ h ∈ update.hosts,
    contains (trimSpace (hostLine name update.src h)) (markerComment name update.src) = true
  other : ∀ h ∈ update.hosts, ∀ v ∈ updates, v.src ≠ update.src →
    contains (hostLine name update.src h) (markerComment name v.src) = false

/-- Trimming a line of the file hides no comment of a source. -/
def Shown (name : String) (updates : List HostUpdate) (file : String) : Prop :=
  ∀ l ∈ split '\n' file, ∀ v ∈ updates, contains l (markerComment name v.src) = true →
    contains (trimSpace l) (markerComment name v.src) = true

/-- Where a comment begins is the same for all sources. -/
theorem markerComment_cut (hname : '#' ∉ name.toList) :
    ∃ mid, '#' ∉ mid ∧
      ∀ src, (markerComment name src).toList = ' ' :: '#' :: (mid ++ src.toList) := by
  refine ⟨" added by ws-manager-node ".toList ++ (name.toList ++ ": ".toList), ?_, fun src => ?_⟩
  · intro hmem
    rcases List.mem_append.mp hmem with hmem | hmem
    · exact absurd hmem (by decide +kernel)
    · rcases List.mem_append.mp hmem with hmem | hmem
      · exact hname hmem
      · exact absurd hmem (by decide +kernel)
  · rw [toList_markerComment]
    simp only [List.append_assoc]

/-- Where there is no other comment in it, the line of a source holds the comments of the sources
whose names its own name begins with. -/
theorem contains_hostLine_iff {src src' : String} {h : Host} (hname : '#' ∉ name.toList)
    (hsrc : '#' ∉ src.toList) (haddr : '#' ∉ h.addr.toList) (hhost : '#' ∉ h.name.toList) :
    contains (hostLine name src h) (markerComment name src') = true ↔
      src'.toList <+: src.toList := by
  rcases markerComment_cut hname with ⟨mid, hmid, hcut⟩
  have hline : (hostLine name src h).toList =
      (h.addr.toList ++ '\t' :: (h.name.toList ++ ['\t', ' '])) ++ '#' :: (mid ++ src.toList) := by
    rw [toList_hostLine, hcut]
    simp only [List.append_assoc, List.cons_append, List.nil_append]
  have hfirst : '#' ∉ h.addr.toList ++ '\t' :: (h.name.toList ++ ['\t', ' ']) := by
    intro hmem
    rcases List.mem_append.mp hmem with hmem | hmem
    · exact haddr hmem
    · rcases List.mem_cons.mp hmem with hmem | hmem
      · exact absurd hmem (by decide)
      · rcases List.mem_append.mp hmem with hmem | hmem
        · exact hhost hmem
        · exact absurd hmem (by decide)
  constructor
  · intro hcontains
    rcases of_decide_eq_true hcontains with ⟨pre, post, hpre⟩
    rw [hline, hcut] at hpre
    -- The line has one such character, so the comment it holds begins where its own does.
    have hcount := congrArg (List.count '#') hpre
    simp only [List.count_append, List.count_cons_self, List.count_eq_zero_of_not_mem hfirst,
      List.count_eq_zero_of_not_mem hmid, List.count_eq_zero_of_not_mem hsrc] at hcount
    have hspace : '#' ∉ pre ++ [' '] := by
      rw [← List.count_eq_zero, List.count_append]
      have hblank : List.count '#' [' '] = 0 := by decide
      have hcons : List.count '#' (' ' :: '#' :: (mid ++ src'.toList)) =
          List.count '#' (mid ++ src'.toList) + 1 := by
        rw [List.count_cons_of_ne (by decide), List.count_cons_self]
      omega
    have hcuts : (pre ++ [' ']) ++ '#' :: (mid ++ (src'.toList ++ post)) =
        (h.addr.toList ++ '\t' :: (h.name.toList ++ ['\t', ' '])) ++
          '#' :: (mid ++ src.toList) := by
      rw [← hpre]
      simp only [List.append_assoc, List.cons_append, List.nil_append]
    exact ⟨post, List.append_cancel_left (append_separator_inj hspace hfirst hcuts).2⟩
  · rintro ⟨rest, hrest⟩
    refine decide_eq_true ⟨h.addr.toList ++ '\t' :: (h.name.toList ++ ['\t']), rest, ?_⟩
    rw [hline, hcut, ← hrest]
    simp only [List.append_assoc, List.cons_append, List.nil_append]

/-- There is nothing to trim where the address starts the line and the name of the source ends
it. -/
theorem trimSpace_hostLine {src : String} {h : Host}
    (haddr : h.addr.toList.head?.any (fun c => !isUnicodeSpace c) = true)
    (hsrc : src.toList.getLast?.any (fun c => !isUnicodeSpace c) = true) :
    trimSpace (hostLine name src h) = hostLine name src h := by
  rcases (Option.any_eq_true _ _).mp haddr with ⟨first, hfirst, hfirstSpace⟩
  rcases (Option.any_eq_true _ _).mp hsrc with ⟨last, hlast, hlastSpace⟩
  have hpre : ∃ pre, (hostLine name src h).toList = pre ++ src.toList := by
    refine ⟨h.addr.toList ++ '\t' :: (h.name.toList ++ '\t' :: ' ' :: '#' ::
      (" added by ws-manager-node ".toList ++ (name.toList ++ ": ".toList))), ?_⟩
    rw [toList_hostLine, toList_markerComment]
    simp only [List.append_assoc, List.cons_append]
  rcases hpre with ⟨pre, hpre⟩
  have htrim : trimWhere isUnicodeSpace (hostLine name src h).toList =
      (hostLine name src h).toList := by
    refine trimWhere_eq_self isUnicodeSpace _ (fun c hc => ?_) fun c hc => ?_
    · rw [toList_hostLine, List.head?_append, hfirst] at hc
      rwa [← Option.some.inj hc, ← Bool.not_eq_true']
    · rw [hpre, List.getLast?_append, hlast] at hc
      rwa [← Option.some.inj hc, ← Bool.not_eq_true']
  rw [trimSpace, htrim, String.ofList_toList]

/-- Names and addresses without what the comment and the lines are made of. -/
structure Plain (name : String) (update : HostUpdate) : Prop where
  comment : ∀ s ∈ name :: update.src :: (update.hosts.map Host.addr ++ update.hosts.map Host.name),
    '#' ∉ s.toList ∧ '\n' ∉ s.toList
  first : ∀ h ∈ update.hosts, h.addr.toList.head?.any (fun c => !isUnicodeSpace c) = true
  last : update.src.toList.getLast?.any (fun c => !isUnicodeSpace c) = true

theorem oneLine_of_plain (hplain : Plain name update) : OneLine name update := by
  intro h hh hmem
  have hnot : ∀ s ∈ name :: update.src :: (update.hosts.map Host.addr ++
      update.hosts.map Host.name), '\n' ∉ s.toList := fun s hs => (hplain.comment s hs).2
  simp only [List.mem_cons, List.mem_append, List.mem_map] at hnot
  rw [toList_hostLine, toList_markerComment] at hmem
  rcases List.mem_append.mp hmem with hmem | hmem
  · exact hnot _ (.inr (.inr (.inl ⟨h, hh, rfl⟩))) hmem
  have hrest := (List.mem_cons.mp hmem).resolve_left (by decide)
  rcases List.mem_append.mp hrest with hmem | hmem
  · exact hnot _ (.inr (.inr (.inr ⟨h, hh, rfl⟩))) hmem
  have hspace := (List.mem_cons.mp hmem).resolve_left (by decide)
  have hhash := (List.mem_cons.mp hspace).resolve_left (by decide)
  have htext := (List.mem_cons.mp hhash).resolve_left (by decide)
  rcases List.mem_append.mp htext with hmem | hmem
  · exact absurd hmem (by decide +kernel)
  rcases List.mem_append.mp hmem with hmem | hmem
  · exact hnot _ (.inl rfl) hmem
  rcases List.mem_append.mp hmem with hmem | hmem
  · exact absurd hmem (by decide +kernel)
  · exact hnot _ (.inr (.inl rfl)) hmem

/-- Then it is enough that no source's name begins with another one's. -/
theorem proper_of_plain {updates : List HostUpdate} (hplain : ∀ u ∈ updates, Plain name u)
    (hnames : ∀ u ∈ updates, ∀ v ∈ updates, v.src.toList <+: u.src.toList → v.src = u.src)
    (hupdate : update ∈ updates) : Proper name updates update where
  one := oneLine_of_plain (hplain update hupdate)
  own h hh := by
    have hp := hplain update hupdate
    rw [trimSpace_hostLine (hp.first h hh) hp.last]
    exact contains_hostLine name update.src h
  other h hh v hv hne := by
    have hp := hplain update hupdate
    have haddr : h.addr ∈ update.hosts.map Host.addr := List.mem_map_of_mem hh
    have hhost : h.name ∈ update.hosts.map Host.name := List.mem_map_of_mem hh
    refine Bool.eq_false_iff.mpr fun hcontains => hne (hnames update hupdate v hv ?_)
    refine (contains_hostLine_iff (hp.comment name List.mem_cons_self).1
      (hp.comment update.src (List.mem_cons_of_mem _ List.mem_cons_self)).1 ?_ ?_).mp hcontains
    · exact (hp.comment h.addr (List.mem_cons_of_mem _ (List.mem_cons_of_mem _
        (List.mem_append_left _ haddr)))).1
    · exact (hp.comment h.name (List.mem_cons_of_mem _ (List.mem_cons_of_mem _
        (List.mem_append_right _ hhost)))).1

variable {updates : List HostUpdate}

/-- After an update the file is again one in which sources can be told apart. -/
theorem shown_updateHostsFile (hproper : Proper name updates update) :
    Shown name updates (updateHostsFile name file update) := by
  intro l hl v hv hcontains
  rw [split_updateHostsFile hproper.one] at hl
  rcases List.mem_append.mp hl with hl | hl
  · rcases List.mem_append.mp hl with hl | hl
    · rcases List.mem_map.mp hl with ⟨l', -, rfl⟩
      rwa [trimSpace_trimSpace]
    · rcases List.mem_map.mp hl with ⟨h, hh, rfl⟩
      by_cases hsrc : v.src = update.src
      · rw [hsrc]
        exact hproper.own h hh
      · rw [hproper.other h hh v hv hsrc] at hcontains
        exact absurd hcontains Bool.false_ne_true
  · rw [List.mem_singleton.mp hl] at hcontains ⊢
    exact hcontains

theorem run_eq (name file : String) (attempts : List Attempt) :
    run name file attempts = (published attempts).foldl (updateHostsFile name) file := by
  unfold run published
  induction attempts generalizing file with
  | nil => rfl
  | cons a attempts ih =>
      rw [List.foldl_cons, ih]
      by_cases ha : a.acquired = true
      · rw [if_pos ha, List.filter_cons_of_pos ha, List.map_cons, List.foldl_cons]
      · rw [if_neg ha, List.filter_cons_of_neg ha]

theorem entries_foldl {us : List HostUpdate} (hus : ∀ u ∈ us, u ∈ updates)
    (hproper : ∀ u ∈ updates, Proper name updates u) (hfile : Shown name updates file) :
    entries (us.foldl (updateHostsFile name) file) =
      (us.map (posted name)).foldl (Ledger.post fun src e => contains e (markerComment name src))
        (entries file) := by
  induction us generalizing file with
  | nil => rfl
  | cons u us ih =>
      have hu := hus u List.mem_cons_self
      rw [List.foldl_cons, ih (fun v hv => hus v (List.mem_cons_of_mem u hv))
        (shown_updateHostsFile (hproper u hu)), List.map_cons, List.foldl_cons,
        entries_updateHostsFile (hproper u hu).one (hproper u hu).own fun l hl => hfile l hl u hu]

/-- The entries after any updates are those of the file that belong to no source which made an
    update, and for each of these sources what it wrote last. The same update once more changes
    nothing but blank lines. So sources may come and go in any order, and what the node had in
    the file before is never touched. -/
theorem entries_run (name file : String) (attempts : List Attempt)
    (hfile : Shown name (published attempts) file)
    (hproper : ∀ u ∈ published attempts, Proper name (published attempts) u) :
    entries (run name file attempts) =
        ((entries file).filter fun e => (published attempts).all fun u =>
          !contains e (markerComment name u.src)) ++
          (Ledger.latest ((published attempts).map (posted name))).flatMap Prod.snd ∧
      ∀ (update : HostUpdate) (file : String), OneLine name update →
        filled (updateHostsFile name (updateHostsFile name file update) update) =
          filled (updateHostsFile name file update) := by
  refine ⟨?_, fun update file hone => filled_updateHostsFile hone⟩
  rw [run_eq, entries_foldl (fun _ hu => hu) hproper hfile, Ledger.foldl_post]
  · congr 1
    refine List.filter_congr fun e _ => ?_
    rw [List.all_map]
    rfl
  · intro p hp q hq e he
    rcases List.mem_map.mp hp with ⟨v, hv, rfl⟩
    rcases List.mem_map.mp hq with ⟨u, hu, rfl⟩
    rcases List.mem_map.mp he with ⟨h, hh, rfl⟩
    -- The comment of a source is on all of its own lines, and on no others.
    by_cases hsrc : v.src = u.src
    · rw [posted, hsrc, (hproper u hu).own h hh]
      exact (decide_eq_true rfl).symm
    · have hother : contains (trimSpace (hostLine name u.src h)) (markerComment name v.src) =
          false := by
        refine Bool.eq_false_iff.mpr fun hcontains => ?_
        have hline := contains_of_trimSpace hcontains
        rw [(hproper u hu).other h hh v hv hsrc] at hline
        exact Bool.false_ne_true hline
      exact hother.trans (decide_eq_false hsrc).symm

/-- A source that publishes twice around another one, and an update without the lock. -/
def twoSources : List Attempt :=
  [⟨⟨"registry", [⟨"10.0.0.1", "reg.local"⟩, ⟨"10.0.0.2", "reg.local"⟩]⟩, true⟩,
    ⟨⟨"blobs", [⟨"10.0.0.9", "blobs.local"⟩]⟩, true⟩,
    ⟨⟨"registry", [⟨"10.0.0.3", "reg.local"⟩]⟩, true⟩,
    ⟨⟨"blobs", []⟩, false⟩]

theorem proper_twoSources (u : HostUpdate) (hu : u ∈ published twoSources) :
    Proper "default" (published twoSources) u := by
  have hplain : ∀ u ∈ published twoSources, (∀ s ∈ "default" :: u.src ::
      (u.hosts.map Host.addr ++ u.hosts.map Host.name), '#' ∉ s.toList ∧ '\n' ∉ s.toList) ∧
        (∀ h ∈ u.hosts, h.addr.toList.head?.any (fun c => !isUnicodeSpace c) = true) ∧
          u.src.toList.getLast?.any (fun c => !isUnicodeSpace c) = true := by decide +kernel
  refine proper_of_plain (fun u hu => ?_) (by decide +kernel) hu
  rcases hplain u hu with ⟨hcomment, hfirst, hlast⟩
  exact ⟨hcomment, hfirst, hlast⟩

/-- The file has a blank line, and a line that was written for a source that is not there. -/
theorem entries_run_twoSources :
    entries (run "default"
      "127.0.0.1\tlocalhost\n\n  10.0.0.7 old # added by ws-manager-node x: y\n"
      twoSources) = ["127.0.0.1\tlocalhost", "10.0.0.7 old # added by ws-manager-node x: y",
        "10.0.0.9\tblobs.local\t # added by ws-manager-node default: blobs",
        "10.0.0.3\treg.local\t # added by ws-manager-node default: registry"] := by
  rw [(entries_run _ _ _ (by unfold Shown; decide +kernel) proper_twoSources).1]
  decide +kernel

/-- A line that is indented is not kept as it is. -/
theorem indented_line_changed : ¬ ∀ (name file : String) (attempts : List Attempt),
    (∀ a ∈ attempts, a.acquired = true) →
      (split '\n' (run name file attempts)).filter (fun l => (published attempts).all fun u =>
        !contains l (markerComment name u.src)) =
          (split '\n' file).filter fun l => (published attempts).all fun u =>
            !contains l (markerComment name u.src) := by
  intro hall
  have h := hall "default" " 10.0.0.7\told\n" [⟨⟨"registry", []⟩, true⟩] (by decide)
  exact absurd h (by decide +kernel)

end HostsGov

end Nxpod
