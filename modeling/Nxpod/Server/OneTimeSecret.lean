import Mathlib.Data.List.Basic
import Mathlib.Tactic.Common
import Nxpod.Library.History
import Nxpod.Library.Text

/-!
# One-Time Secrets

The server keeps the credentials for a Git host under a key that nobody can guess, and gives them to
who asks for the key first. The row is read, stored as deleted, and then the answer is sent. Between
the steps of one request there can be those of others.

So two requests that overlap may both get the secret. A request that reads the row after another one
has stored it does not, nor one that reads it after the secret was disposed of or pruned. A request
that has read the row before it was disposed of stores it again, but as deleted.

The time until which a secret is available is compared with the text of the time that it is. What
the comparison says depends on what the driver of the database makes of a time, and it is a
parameter here.

Who asks takes what is before the first colon for the name of the user.

## Main definitions

* `OneTimeSecret`: A row of the table.
* `Request`: A request that has read the row of its key.
* `State`, `Action`, `step`: The rows and the requests.
* `answer`, `credentials`: What is sent, and what is made of it.
* `Closed`: Nobody is to get the secret any more.
* `Earned`: What a request that gets a secret has done.
* `Sound`: What is known of the table and of the requests from what has happened.

## Theorems

* `closed_step`: A row that was closed stays so.
* `credentials_eq`: What was served is what is read.
* `earned_run`: Which requests get a secret.
-/

namespace Nxpod

namespace OneTimeSecrets

open Transition

/-! ## The database -/

/-- A row of the table. -/
structure OneTimeSecret where
  value : String
  expirationTime : Nat
  deleted : Bool
  deriving DecidableEq

/-- A request that has read the row of its key. -/
structure Request where
  id : Nat
  key : String
  row : OneTimeSecret
  saved : Bool
  deriving DecidableEq

/-- The keys that were made up and the requests that there were are kept, since none comes twice. -/
structure State where
  now : Nat
  rows : String → Option OneTimeSecret
  issued : List String
  requests : List Request
  known : List Nat

/-- Time passes, a secret is served, a request takes its next step, or someone else writes the
    table. -/
inductive Action
  | tick (milliseconds : Nat)
  | serve (key username token : String) (expirationTime : Nat)
  | read (id : Nat) (key : String)
  | save (r : Request)
  | reply (r : Request)
  | drop (r : Request)
  | dispose (key : String)
  | pruneExpired
  | synchronize (key : String)

/-- One row is written. -/
def State.setRow (s : State) (key : String) (row : Option OneTimeSecret) : State :=
  { s with rows := fun k => if k = key then row else s.rows k }

/-- What the server has it serve for a user of a host. -/
def secretOf (username token : String) : String := username ++ ":" ++ token

/-- The time of the database is in seconds. -/
def isExpired (now : Nat) (row : OneTimeSecret) : Bool :=
  !row.deleted && decide (row.expirationTime < now / 1000 * 1000)

/-- A request takes its steps in order, with anything in between. -/
def step (s : State) : Action → Option State
  | .tick milliseconds => some { s with now := s.now + milliseconds }
  | .serve key username token expirationTime =>
      if key ∈ s.issued then none
      else some { s.setRow key (some ⟨secretOf username token, expirationTime, false⟩) with
        issued := key :: s.issued }
  | .read id key =>
      if id ∈ s.known then none
      else
        let s := { s with known := id :: s.known }
        match s.rows key with
        | none => some s
        | some row =>
            if row.deleted then some s
            else some { s with requests := ⟨id, key, row, false⟩ :: s.requests }
  | .save r =>
      if r ∈ s.requests ∧ r.saved = false then
        some { s.setRow r.key (some { r.row with deleted := true }) with
          requests := { r with saved := true } :: s.requests.erase r }
      else none
  | .reply r =>
      if r ∈ s.requests ∧ r.saved = true then some { s with requests := s.requests.erase r }
      else none
  | .drop r =>
      if r ∈ s.requests then some { s with requests := s.requests.erase r } else none
  | .dispose key => if key ∈ s.issued then some (s.setRow key none) else none
  | .pruneExpired =>
      some { s with rows := fun key => (s.rows key).map fun row =>
        if isExpired s.now row then { row with deleted := true } else row }
  | .synchronize key =>
      if (s.rows key).any OneTimeSecret.deleted then some (s.setRow key none) else none

/-- What is sent, after the row was stored. The comparison is that of a time with a text. -/
def answer (isAfter : Nat → Nat → Bool) (now : Nat) (row : OneTimeSecret) : Option String :=
  if isAfter row.expirationTime now then none else some row.value

/-- `downloadOTS` of what it was sent. -/
def credentials (secret : String) : String × String :=
  match Text.split ':' secret with
  | user :: segment :: segments => (user, Text.join ':' (segment :: segments))
  | _ => ("", secret)

/-! ## The past of a request -/

/-- A request has stored the row, or the secret was disposed of or has been pruned. -/
def Closed (key : String) : Past State Action → Prop :=
  Once fun _ s a => (∃ r ∈ s.requests, r.key = key ∧ a = .save r) ∨ a = .dispose key ∨
    (a = .pruneExpired ∧ ∃ row ∈ s.rows key, isExpired s.now row = true)

/-- The secret was put there under this key. -/
def Served (key username token : String) (expirationTime : Nat) : Past State Action → Prop :=
  Once fun _ _ a => a = .serve key username token expirationTime

/-- The request has read the row when it was closed already. -/
def IsLate (id : Nat) (key : String) : Past State Action → Prop :=
  Once fun earlier _ a => a = .read id key ∧ Closed key earlier

/-- A request that gets a secret was not late, the secret is the one served under the key, and the
    time until which it is served did not compare as later. A name without a colon is read as it was
    served. -/
def Earned (isAfter : Nat → Nat → Bool) (past : Past State Action) (s : State) (a : Action)
    (_ : State) : Prop :=
  ∀ r, a = .reply r → ∀ secret, answer isAfter s.now r.row = some secret →
    ¬ IsLate r.id r.key past ∧ ∃ username token expirationTime,
      Served r.key username token expirationTime past ∧ secret = secretOf username token ∧
        isAfter expirationTime s.now = false ∧
          (':' ∉ username.toList → credentials secret = (username, token))

/-! ## The invariant -/

/-- The row is as it was served, but for its mark. -/
def AsServed (past : Past State Action) (key : String) (row : OneTimeSecret) : Prop :=
  ∃ username token, Served key username token row.expirationTime past ∧
    row.value = secretOf username token

/-- What is known of the table and of the requests from what has happened. -/
structure Sound (past : Past State Action) (s : State) : Prop where
  late : ∀ id key, IsLate id key past → id ∈ s.known
  closed : ∀ key, Closed key past → key ∈ s.issued ∧ ∀ row ∈ s.rows key, row.deleted = true
  rows : ∀ key, ∀ row ∈ s.rows key, key ∈ s.issued ∧ AsServed past key row
  requests : ∀ r ∈ s.requests, r.id ∈ s.known ∧ r.key ∈ s.issued ∧ AsServed past r.key r.row ∧
    ¬ IsLate r.id r.key past

variable {past : Past State Action} {s s' : State} {a : Action}

theorem mem_setRow {key k : String} {row : Option OneTimeSecret} {row' : OneTimeSecret}
    (h : row' ∈ (s.setRow key row).rows k) : k = key ∧ row' ∈ row ∨ row' ∈ s.rows k := by
  unfold State.setRow at h
  dsimp only at h
  split_ifs at h with hk
  · exact .inl ⟨hk, h⟩
  · exact .inr h

/-- Where a row has come from. -/
theorem row_cases (h : step s a = some s') {key : String} {row' : OneTimeSecret}
    (hrow' : row' ∈ s'.rows key) : row' ∈ s.rows key ∨
      (∃ row ∈ s.rows key, row' = { row with deleted := true }) ∨
      (∃ r ∈ s.requests, r.key = key ∧ row' = { r.row with deleted := true }) ∨
      ∃ username token expirationTime, a = .serve key username token expirationTime ∧
        key ∉ s.issued ∧ row' = ⟨secretOf username token, expirationTime, false⟩ := by
  cases a with
  | tick milliseconds =>
      cases h
      exact .inl hrow'
  | serve k username token expirationTime =>
      simp only [step, Option.ite_none_left_eq_some, Option.some.injEq] at h
      rcases h with ⟨hnew, rfl⟩
      -- Only a key that was never given out is served.
      rcases mem_setRow hrow' with ⟨rfl, hrow⟩ | hrow
      · cases hrow
        exact .inr (.inr (.inr ⟨username, token, expirationTime, rfl, hnew, rfl⟩))
      · exact .inl hrow
  | read id k =>
      simp only [step] at h
      split_ifs at h
      split at h
      · cases h
        exact .inl hrow'
      · -- The table is as it was, whatever the request has read.
        split_ifs at h <;> cases h <;> exact .inl hrow'
  | save r =>
      simp only [step, Option.ite_none_right_eq_some, Option.some.injEq] at h
      rcases h with ⟨⟨hr, -⟩, rfl⟩
      -- The request stores what it has read, with the mark.
      rcases mem_setRow hrow' with ⟨rfl, hrow⟩ | hrow
      · cases hrow
        exact .inr (.inr (.inl ⟨r, hr, rfl, rfl⟩))
      · exact .inl hrow
  | reply r =>
      simp only [step, Option.ite_none_right_eq_some, Option.some.injEq] at h
      rcases h with ⟨-, rfl⟩
      exact .inl hrow'
  | drop r =>
      simp only [step, Option.ite_none_right_eq_some, Option.some.injEq] at h
      rcases h with ⟨-, rfl⟩
      exact .inl hrow'
  | dispose k =>
      simp only [step, Option.ite_none_right_eq_some, Option.some.injEq] at h
      rcases h with ⟨-, rfl⟩
      rcases mem_setRow hrow' with ⟨-, hrow⟩ | hrow
      · cases hrow
      · exact .inl hrow
  | pruneExpired =>
      cases h
      -- Pruning marks a row or leaves it.
      rcases Option.map_eq_some_iff.mp hrow' with ⟨row, hrow, rfl⟩
      split_ifs
      · exact .inr (.inl ⟨row, hrow, rfl⟩)
      · exact .inl hrow
  | synchronize k =>
      simp only [step, Option.ite_none_right_eq_some, Option.some.injEq] at h
      rcases h with ⟨-, rfl⟩
      rcases mem_setRow hrow' with ⟨-, hrow⟩ | hrow
      · cases hrow
      · exact .inl hrow

/-- Where a request has come from. -/
theorem request_cases (h : step s a = some s') {r' : Request} (hr' : r' ∈ s'.requests) :
    r' ∈ s.requests ∨ (∃ r ∈ s.requests, r' = { r with saved := true }) ∨
      (a = .read r'.id r'.key ∧ r'.row ∈ s.rows r'.key ∧ r'.row.deleted = false) := by
  cases a with
  | tick milliseconds =>
      cases h
      exact .inl hr'
  | serve k username token expirationTime =>
      simp only [step, Option.ite_none_left_eq_some, Option.some.injEq] at h
      rcases h with ⟨-, rfl⟩
      exact .inl hr'
  | read id k =>
      simp only [step] at h
      split_ifs at h
      split at h
      · cases h
        exact .inl hr'
      · next row hrow =>
          split_ifs at h with hdeleted
          · cases h
            exact .inl hr'
          · cases h
            rcases List.mem_cons.mp hr' with rfl | hr'
            · exact .inr (.inr ⟨rfl, hrow, Bool.eq_false_iff.mpr hdeleted⟩)
            · exact .inl hr'
  | save r =>
      simp only [step, Option.ite_none_right_eq_some, Option.some.injEq] at h
      rcases h with ⟨⟨hr, -⟩, rfl⟩
      rcases List.mem_cons.mp hr' with rfl | hr'
      · exact .inr (.inl ⟨r, hr, rfl⟩)
      · exact .inl (List.mem_of_mem_erase hr')
  | reply r =>
      simp only [step, Option.ite_none_right_eq_some, Option.some.injEq] at h
      rcases h with ⟨-, rfl⟩
      exact .inl (List.mem_of_mem_erase hr')
  | drop r =>
      simp only [step, Option.ite_none_right_eq_some, Option.some.injEq] at h
      rcases h with ⟨-, rfl⟩
      exact .inl (List.mem_of_mem_erase hr')
  | dispose k =>
      simp only [step, Option.ite_none_right_eq_some, Option.some.injEq] at h
      rcases h with ⟨-, rfl⟩
      exact .inl hr'
  | pruneExpired =>
      cases h
      exact .inl hr'
  | synchronize k =>
      simp only [step, Option.ite_none_right_eq_some, Option.some.injEq] at h
      rcases h with ⟨-, rfl⟩
      exact .inl hr'

theorem issued_subset (h : step s a = some s') : s.issued ⊆ s'.issued := by
  cases a <;> simp only [step] at h <;> (repeat' split at h) <;> cases h <;>
    first | exact List.Subset.refl _ | exact List.subset_cons_self _ _

theorem known_subset (h : step s a = some s') : s.known ⊆ s'.known := by
  cases a <;> simp only [step] at h <;> (repeat' split at h) <;> cases h <;>
    first | exact List.Subset.refl _ | exact List.subset_cons_self _ _

theorem known_of_read {id : Nat} {key : String} (h : step s (.read id key) = some s') :
    id ∉ s.known ∧ id ∈ s'.known := by
  simp only [step] at h
  split_ifs at h with hknown
  refine ⟨hknown, ?_⟩
  split at h
  · cases h
    exact List.mem_cons_self
  · split_ifs at h <;> cases h <;> exact List.mem_cons_self

theorem issued_of_serve {key username token : String} {expirationTime : Nat}
    (h : step s (.serve key username token expirationTime) = some s') : key ∈ s'.issued := by
  simp only [step, Option.ite_none_left_eq_some, Option.some.injEq] at h
  rcases h with ⟨-, rfl⟩
  exact List.mem_cons_self

theorem AsServed.cons {key : String} {row : OneTimeSecret} (h : AsServed past key row)
    (entry : State × Action) : AsServed (entry :: past) key row := by
  rcases h with ⟨username, token, hserved, hvalue⟩
  exact ⟨username, token, hserved.cons entry, hvalue⟩

/-- A step after which nobody is to get the secret leaves no row that is not deleted. -/
theorem deleted_of_closing (hs : Sound past s) (h : step s a = some s') {key : String}
    (hclosing : (∃ r ∈ s.requests, r.key = key ∧ a = .save r) ∨ a = .dispose key ∨
      (a = .pruneExpired ∧ ∃ row ∈ s.rows key, isExpired s.now row = true)) :
    key ∈ s.issued ∧ ∀ row ∈ s'.rows key, row.deleted = true := by
  rcases hclosing with ⟨r, hr, rfl, rfl⟩ | rfl | ⟨rfl, row, hrow, hexpired⟩
  · simp only [step, Option.ite_none_right_eq_some, Option.some.injEq] at h
    rcases h with ⟨-, rfl⟩
    refine ⟨(hs.requests r hr).2.1, fun row hrow => ?_⟩
    rw [State.setRow] at hrow
    dsimp only at hrow
    rw [if_pos rfl] at hrow
    cases hrow
    rfl
  · simp only [step, Option.ite_none_right_eq_some, Option.some.injEq] at h
    rcases h with ⟨hissued, rfl⟩
    refine ⟨hissued, fun row hrow => ?_⟩
    rw [State.setRow] at hrow
    dsimp only at hrow
    rw [if_pos rfl] at hrow
    cases hrow
  · refine ⟨(hs.rows key row hrow).1, fun row' hrow' => ?_⟩
    cases h
    rcases Option.map_eq_some_iff.mp hrow' with ⟨row'', hrow'', rfl⟩
    have heq : row'' = row := Option.mem_unique hrow'' hrow
    rw [heq, if_pos hexpired]

/-- What is closed stays so, since a row is only ever stored as deleted, and no key is served
    twice. -/
theorem closed_step (hs : Sound past s) (h : step s a = some s') {key : String}
    (hclosed : Closed key ((s, a) :: past)) :
    key ∈ s'.issued ∧ ∀ row ∈ s'.rows key, row.deleted = true := by
  rcases once_cons.mp hclosed with hclosing | hclosed
  · exact (deleted_of_closing hs h hclosing).imp_left fun hkey => issued_subset h hkey
  · rcases hs.closed key hclosed with ⟨hissued, hdeleted⟩
    refine ⟨issued_subset h hissued, fun row' hrow' => ?_⟩
    rcases row_cases h hrow' with hrow | ⟨row, -, rfl⟩ | ⟨r, -, -, rfl⟩ | ⟨_, _, _, -, hnew, -⟩
    · exact hdeleted row' hrow
    · rfl
    · rfl
    · exact absurd hissued hnew

/-- A row that is read later is one that is not deleted, so nothing was closed. -/
theorem notLate_cons (hs : Sound past s) {id : Nat} {key : String}
    (hnot : ¬ IsLate id key past)
    (hread : a = .read id key → ∃ row ∈ s.rows key, row.deleted = false) :
    ¬ IsLate id key ((s, a) :: past) := by
  intro hlate
  rcases once_cons.mp hlate with ⟨ha, hclosed⟩ | hlate
  · rcases hread ha with ⟨row, hrow, hdeleted⟩
    rw [(hs.closed key hclosed).2 row hrow] at hdeleted
    cases hdeleted
  · exact hnot hlate

/-- One case for each action. -/
theorem sound_step (hs : Sound past s) (h : step s a = some s') : Sound ((s, a) :: past) s' where
  late := by
    intro id key hlate
    rcases once_cons.mp hlate with ⟨rfl, -⟩ | hlate
    · exact (known_of_read h).2
    · exact known_subset h (hs.late id key hlate)
  closed := fun _ hclosed => closed_step hs h hclosed
  rows := by
    intro key row' hrow'
    rcases row_cases h hrow' with hrow | ⟨row, hrow, rfl⟩ | ⟨r, hr, rfl, rfl⟩ |
      ⟨username, token, expirationTime, rfl, -, rfl⟩
    · rcases hs.rows key row' hrow with ⟨hissued, hserved⟩
      exact ⟨issued_subset h hissued, hserved.cons (s, a)⟩
    · rcases hs.rows key row hrow with ⟨hissued, hserved⟩
      exact ⟨issued_subset h hissued, hserved.cons (s, a)⟩
    · rcases hs.requests r hr with ⟨-, hissued, hserved, -⟩
      exact ⟨issued_subset h hissued, hserved.cons (s, a)⟩
    · exact ⟨issued_of_serve h, username, token, Once.here rfl, rfl⟩
  requests := by
    have hkept : ∀ r ∈ s.requests, r.id ∈ s'.known ∧ r.key ∈ s'.issued ∧
        AsServed ((s, a) :: past) r.key r.row ∧ ¬ IsLate r.id r.key ((s, a) :: past) := by
      intro r hr
      rcases hs.requests r hr with ⟨hknown, hissued, hserved, hnot⟩
      refine ⟨known_subset h hknown, issued_subset h hissued, hserved.cons (s, a),
        notLate_cons hs hnot fun ha => ?_⟩
      -- no two requests have the same ID
      rw [ha] at h
      exact absurd hknown (known_of_read h).1
    intro r' hr'
    rcases request_cases h hr' with hr | ⟨r, hr, rfl⟩ | ⟨ha, hrow, hdeleted⟩
    · exact hkept r' hr
    · exact hkept r hr
    · rcases hs.rows r'.key r'.row hrow with ⟨hissued, hserved⟩
      have hread : step s (.read r'.id r'.key) = some s' := ha ▸ h
      refine ⟨(known_of_read hread).2, issued_subset h hissued, hserved.cons (s, a),
        notLate_cons hs (fun hlate => ?_) fun _ => ⟨r'.row, hrow, hdeleted⟩⟩
      exact (known_of_read hread).1 (hs.late _ _ hlate)

/-! ## Answers -/

/-- The token may have colons. -/
theorem credentials_eq {username : String} (h : ':' ∉ username.toList) (token : String) :
    credentials (secretOf username token) = (username, token) := by
  have hsplit : Text.split ':' (secretOf username token) = username :: Text.split ':' token :=
    Text.split_append h
  rcases List.exists_cons_of_ne_nil (Text.split_ne_nil ':' token) with ⟨segment, segments, hcons⟩
  rw [credentials, hsplit, hcons]
  dsimp only
  rw [← hcons, Text.join_split]

/-- An answer has what was served under its key, and its request did not come late. -/
theorem earned_step (isAfter : Nat → Nat → Bool) (hs : Sound past s) (h : step s a = some s') :
    Earned isAfter past s a s' := by
  rintro r rfl secret hsecret
  simp only [step, Option.ite_none_right_eq_some] at h
  rcases h with ⟨⟨hr, -⟩, -⟩
  rcases hs.requests r hr with ⟨-, -, ⟨username, token, hserved, hvalue⟩, hnot⟩
  unfold answer at hsecret
  split_ifs at hsecret with hafter
  cases hsecret
  exact ⟨hnot, username, token, r.row.expirationTime, hserved, hvalue,
    Bool.eq_false_iff.mpr hafter, fun hcolon => hvalue ▸ credentials_eq hcolon token⟩

/-- No secret yet. -/
def start (now : Nat) : State where
  now := now
  rows := fun _ => none
  issued := []
  requests := []
  known := []

/-- Along every run, a request gets the secret that was served under its key, and only if it has
    read the row before any other request had stored it and before the secret was disposed of or
    pruned. So a URL that leaks after its secret was fetched is worth nothing. The comparison of
    the times is a parameter, and nothing is said of when a secret expires. -/
theorem earned_run (isAfter : Nat → Nat → Bool) (now : Nat) (as : List Action) :
    StepsAlong (remember step) (fun h a h' => Earned isAfter h.1 h.2 a h'.2) as
      ([], start now) := by
  have hpast : ∀ P : Past State Action → State → Action → Prop, ¬ Once P [] := by
    rintro P ⟨earlier, s, a, hsuffix, -⟩
    exact absurd (List.eq_nil_of_suffix_nil hsuffix) (List.cons_ne_nil _ _)
  have hstart : Sound [] (start now) := by
    refine ⟨fun _ _ h => absurd h (hpast _), fun _ h => absurd h (hpast _), fun key row hrow => ?_,
      fun r hr => absurd hr List.not_mem_nil⟩
    cases hrow
  exact stepsAlong_remember_of_invariant
    (fun _ _ _ _ hs h => ⟨sound_step hs h, earned_step isAfter hs h⟩) hstart as

/-- Two requests that overlap are both about to get the secret. -/
example : (runActions step [.serve "k" "oauth2" "t" 5, .read 1 "k", .read 2 "k",
      .save ⟨1, "k", ⟨"oauth2:t", 5, false⟩, false⟩, .save ⟨2, "k", ⟨"oauth2:t", 5, false⟩, false⟩]
    (start 0)).any (fun s => s.requests.length = 2 ∧ s.requests.all fun r => r.saved) := by
  decide +kernel

end OneTimeSecrets

end Nxpod
