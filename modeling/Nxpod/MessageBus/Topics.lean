import Mathlib.Data.List.Basic
import Mathlib.Tactic.Common
import Nxpod.Library.Text
import Nxpod.Library.Topic

/-!
# Topics of Workspaces

The components tell each other over a message bus what happens to workspaces. A message is
published under the topic of its user, its workspace and what it is about. Who listens leaves out
what does not matter, and gets a pattern with a star or, at its end, a hash instead.

Messages are published to the local exchange of a cluster. All of them are passed on to the exchange
where the queues of the listeners are.

An ID that is empty counts as left out, so whoever listens for nobody hears everybody. An ID with a
dot would be two words. For IDs as they are, exactly those hear a message who listen for it
(`heard_iff`).

## Main definitions

* `WorkspaceSubtopic`: What messages are about.
* `Id`: An ID that is a word of a topic.
* `getWsTopicForListening`, `getWsTopicForPublishing`: The topics.
* `WorkspaceTopic`: The parts of a topic.
* `getWsInformationFromTopic`: What a topic is about.
* `Heard`: A message gets to a queue.

## Theorems

* `words_publishing`, `patterns_listening`: What the topics consist of.
* `getWsInformationFromTopic_eq_some_iff`: Which topics are read.
* `heard_iff`: Who hears a message.
-/

namespace Nxpod

namespace MessageBus

open Topic

/-- What messages are about. -/
inductive WorkspaceSubtopic
  | updates
  | log
  | credit
  | headlessLog
  | ports
  deriving DecidableEq

/-- The word for it in a topic. -/
def WorkspaceSubtopic.text : WorkspaceSubtopic → String
  | .updates => "updates"
  | .log => "log"
  | .credit => "credit"
  | .headlessLog => "headless-log"
  | .ports => "ports"

/-- A word of a topic that stands for itself. -/
structure Id where
  text : String
  ne_empty : text ≠ ""
  ne_star : text ≠ "*"
  ne_hash : text ≠ "#"
  noDot : '.' ∉ text.toList
  deriving DecidableEq

/-- These words can be told from a star or a hash and have no dot. -/
def WorkspaceSubtopic.id (subtopic : WorkspaceSubtopic) : Id where
  text := subtopic.text
  ne_empty := by cases subtopic <;> decide
  ne_star := by cases subtopic <;> decide
  ne_hash := by cases subtopic <;> decide
  noDot := by cases subtopic <;> decide

/-! ## Topics -/

/-- A text that is empty is as good as none. -/
def orElse (given : Option String) (default : String) : String :=
  (given.filter (· ≠ "")).getD default

/-- The user and the workspace, or a star for all of them. -/
def getWsTopicBase (userid wsid : Option String) : String :=
  orElse userid "*" ++ "." ++ orElse wsid "*"

/-- The pattern of a listener. -/
def getWsTopicForListening (userid wsid subtopic : Option String) : String :=
  getWsTopicBase userid wsid ++ "." ++ orElse subtopic "#"

/-- The topic of a message. -/
def getWsTopicForPublishing (userid wsid subtopic : String) : String :=
  getWsTopicForListening (some userid) (some wsid) (some subtopic)

/-- The parts of a topic. -/
structure WorkspaceTopic where
  userid : String
  wsid : String
  subtopic : String
  deriving DecidableEq

/-- A topic is taken apart at its dots. -/
def getWsInformationFromTopic (topic : String) : Option WorkspaceTopic :=
  match Text.split '.' topic with
  | [userid, wsid, subtopic] => some ⟨userid, wsid, subtopic⟩
  | _ => none

/-! ## The exchanges -/

/-- The words of a topic. -/
def words (topic : String) : List String := Text.split '.' topic

/-- What a word stands for in a pattern. -/
def toPattern (word : String) : Pattern String :=
  if word = "*" then .star else if word = "#" then .hash else .word word

/-- A pattern as the exchange reads it. -/
def patterns (topic : String) : List (Pattern String) := (words topic).map toPattern

/-- The queue is bound with a topic to the exchange that all messages are passed on to. -/
def Heard (listening publishing : String) : Prop :=
  Matches (patterns "#") (words publishing) ∧ Matches (patterns listening) (words publishing)

/-! ## What is heard -/

theorem orElse_id (id : Id) (default : String) : orElse (some id.text) default = id.text := by
  have hne : decide (id.text ≠ "") = true := decide_eq_true id.ne_empty
  rw [orElse, Option.filter_some_pos (p := fun s => decide (s ≠ "")) hne, Option.getD_some]

theorem toPattern_id (id : Id) : toPattern id.text = .word id.text := by
  rw [toPattern, if_neg id.ne_star, if_neg id.ne_hash]

theorem noDot_orElse (id : Option Id) {default : String} (h : '.' ∉ default.toList) :
    '.' ∉ (orElse (id.map Id.text) default).toList := by
  cases id with
  | none => exact h
  | some id =>
      rw [Option.map_some, orElse_id]
      exact id.noDot

theorem words_dot {s : String} (h : '.' ∉ s.toList) (t : String) :
    words (s ++ "." ++ t) = s :: words t :=
  Text.split_append h

/-- A topic has the words it was made of. -/
theorem words_listening (userid wsid subtopic : Option Id) :
    words (getWsTopicForListening (userid.map Id.text) (wsid.map Id.text)
        (subtopic.map Id.text)) =
      [orElse (userid.map Id.text) "*", orElse (wsid.map Id.text) "*",
        orElse (subtopic.map Id.text) "#"] := by
  have huser := noDot_orElse userid (by decide : '.' ∉ "*".toList)
  have hws := noDot_orElse wsid (by decide : '.' ∉ "*".toList)
  have hsub := noDot_orElse subtopic (by decide : '.' ∉ "#".toList)
  rw [getWsTopicForListening, getWsTopicBase]
  generalize orElse (userid.map Id.text) "*" = u at huser ⊢
  generalize orElse (wsid.map Id.text) "*" = ws at hws ⊢
  generalize orElse (subtopic.map Id.text) "#" = sub at hsub ⊢
  have hassoc : u ++ "." ++ ws ++ "." ++ sub = u ++ "." ++ (ws ++ "." ++ sub) := by
    simp only [String.append_assoc]
  rw [hassoc, words_dot huser, words_dot hws, words, Text.split_of_not_mem hsub]

theorem words_publishing (userid wsid subtopic : Id) :
    words (getWsTopicForPublishing userid.text wsid.text subtopic.text) =
      [userid.text, wsid.text, subtopic.text] := by
  have h := words_listening (some userid) (some wsid) (some subtopic)
  rwa [Option.map_some, Option.map_some, Option.map_some, orElse_id, orElse_id, orElse_id] at h

/-- A topic is read back as what it was made for, and everything that is read is of that form. -/
theorem getWsInformationFromTopic_eq_some_iff (topic : String) (info : WorkspaceTopic) :
    getWsInformationFromTopic topic = some info ↔
      words topic = [info.userid, info.wsid, info.subtopic] := by
  unfold getWsInformationFromTopic words
  constructor
  · intro h
    split at h
    · next userid wsid subtopic hsplit =>
        cases h
        exact hsplit
    · cases h
  · intro h
    rw [h]

/-- What is listened for stands for itself, and what is left out for any one word. -/
theorem matches_orElse_star (id : Option Id) {word : String} {ps : List (Pattern String)}
    {key : List String} :
    Matches (toPattern (orElse (id.map Id.text) "*") :: ps) (word :: key) ↔
      (∀ i ∈ id, i.text = word) ∧ Matches ps key := by
  cases id with
  | none =>
      have hstar : toPattern (orElse (none : Option String) "*") = .star := by decide
      rw [Option.map_none, hstar, matches_cons_star]
      exact (and_iff_right fun i hi => absurd hi (Option.not_mem_none i)).symm
  | some id =>
      rw [Option.map_some, orElse_id, toPattern_id, matches_cons_word]
      simp only [Option.mem_some_iff, forall_eq']

/-- A hash at the end matches a last word, and an ID only itself. -/
theorem matches_orElse_hash (id : Option Id) {word : String} :
    Matches [toPattern (orElse (id.map Id.text) "#")] [word] ↔ ∀ i ∈ id, i.text = word := by
  cases id with
  | none =>
      have hhash : toPattern (orElse (none : Option String) "#") = .hash := by decide
      rw [Option.map_none, hhash]
      exact iff_of_true (matches_hash _) fun i hi => absurd hi (Option.not_mem_none i)
  | some id =>
      rw [Option.map_some, orElse_id, toPattern_id, matches_cons_word, matches_nil,
        and_iff_left rfl]
      simp only [Option.mem_some_iff, forall_eq']

/-- A message is heard by those who listen for its user, its workspace and what it is about, or
    have left these out, and by nobody else. What it is about can be told from its topic. So the
    updates of one user's workspaces do not reach another user, and none of one's own gets lost
    on the way through the topics. -/
theorem heard_iff (userid wsid subtopic : Option Id) (userid' wsid' subtopic' : Id) :
    (Heard (getWsTopicForListening (userid.map Id.text) (wsid.map Id.text) (subtopic.map Id.text))
        (getWsTopicForPublishing userid'.text wsid'.text subtopic'.text) ↔
      (∀ i ∈ userid, i = userid') ∧ (∀ i ∈ wsid, i = wsid') ∧ ∀ i ∈ subtopic, i = subtopic') ∧
    getWsInformationFromTopic (getWsTopicForPublishing userid'.text wsid'.text subtopic'.text) =
      some ⟨userid'.text, wsid'.text, subtopic'.text⟩ := by
  have htext : ∀ i j : Id, i.text = j.text ↔ i = j := by
    intro i j
    cases i
    cases j
    rw [Id.mk.injEq]
  have hpassed : Matches (patterns "#")
      (words (getWsTopicForPublishing userid'.text wsid'.text subtopic'.text)) := by
    have hhash : patterns "#" = [.hash] := by decide
    rw [hhash]
    exact matches_hash _
  refine ⟨?_, (getWsInformationFromTopic_eq_some_iff _ _).mpr (words_publishing _ _ _)⟩
  rw [Heard, and_iff_right hpassed, patterns, words_listening, words_publishing, List.map_cons,
    List.map_cons, List.map_cons, List.map_nil, matches_orElse_star, matches_orElse_star,
    matches_orElse_hash]
  simp only [htext]

end MessageBus

end Nxpod
