import Nxpod.Library.Parties
import Nxpod.Library.Transition

/-!
# A Single Token for Each Identity

Storing the token of an identity. `storeSingleToken` marks the tokens that the identity
has as deleted and then adds the new one. It reads the tokens, stores each of them
again, and stores the new one, and every one of these is an access to the database
between which other calls make theirs. Any of them may fail, and then the call ends
where it is.

The rows are never removed. A row is known by its number.

## Main definitions

* `Identity`, `TokenEntry`, `Table`: The rows.
* `Token`: A token.
* `findTokensForIdentity`, `findTokenForIdentity`: What is read.
* `Call`, `Server`, `step`: The calls in progress, and what can happen.
* `Action`: What can happen next: a call, or the next access of one, which may fail.
* `Single`: No identity has two tokens.
* `SingleWhenQuiescent`: And none will have, when the calls in progress end.
* `SeesAll`: The condition on a step.
* `Inv`: What a call has still to mark as deleted of the rows it has seen.

## Theorems

* `findTokenForIdentity_isOk_iff`: When a token can be looked up.
* `single_addToken_iff`: When there is one token after another one was added.
* `exists_quiescent`: The calls in progress may all fail.
* `inv_step`: What a step preserves.
* `single_iff`: The runs that end with single tokens.
-/

namespace Nxpod

namespace UserStore

namespace SingleToken

open Transition Parties

/-! ## The table -/

/-- Who a token belongs to. -/
structure Identity where
  authProviderId : String
  authId : String
  authName : String

/-- A token. -/
structure Token where
  value : String
  expiryDate : Option String
  refreshToken : Option String

/-- A row of the table. -/
structure TokenEntry where
  uid : Nat
  authProviderId : String
  authId : String
  token : Token
  expiryDate : Option String
  refreshable : Bool
  deleted : Bool

/-- The rows, each in the place of its number. -/
structure Table where
  entries : List TokenEntry
  numbered : ∀ (i : Nat) (e : TokenEntry), entries[i]? = some e → e.uid = i

/-- The row is one of the identity. -/
def belongsTo (identity : Identity) (e : TokenEntry) : Bool :=
  e.authProviderId = identity.authProviderId && e.authId = identity.authId

/-- The rows of an identity, without the marked ones if so wanted. -/
def findTokensForIdentity (db : Table) (identity : Identity) (includeDeleted : Bool) :
    List TokenEntry :=
  (db.entries.filter (belongsTo identity)).filter fun te => includeDeleted || !te.deleted

/-- The token of an identity. More than one is an error. -/
def findTokenForIdentity (db : Table) (identity : Identity) : Except String (Option Token) :=
  match findTokensForIdentity db identity false with
  | [] => .ok none
  | [entry] => .ok (some entry.token)
  | _ => .error
      s!"Found more than one active token for {identity.authProviderId} and user {identity.authName}"

/-- `repo.save` of a row that is there. -/
def Table.save (db : Table) (entry : TokenEntry) : Table where
  entries := db.entries.set entry.uid entry
  numbered i e h := by
    rw [List.getElem?_set] at h
    split_ifs at h with huid hlt
    · rw [← Option.some.inj h, huid]
    · exact db.numbered i e h

/-- A new row, with the next number. -/
def addToken (db : Table) (identity : Identity) (token : Token) : Table where
  entries := db.entries ++
    [{ uid := db.entries.length
       authProviderId := identity.authProviderId
       authId := identity.authId
       token := token
       expiryDate := token.expiryDate
       refreshable := token.refreshToken.any (· ≠ "")
       deleted := false }]
  numbered i e h := by
    rw [List.getElem?_append] at h
    split_ifs at h with hlt
    · exact db.numbered i e h
    · rw [List.getElem?_singleton] at h
      split_ifs at h with hzero
      rw [← Option.some.inj h]
      exact Nat.le_antisymm (Nat.not_lt.mp hlt) (Nat.sub_eq_zero_iff_le.mp hzero)

/-! ## The calls -/

/-- `seen` is how many rows there were when the tokens were read, and `todo` are the tokens
    that are still to be stored as deleted. -/
inductive Call
  | finding (identity : Identity) (token : Token)
  | deleting (identity : Identity) (token : Token) (seen : Nat) (todo : List TokenEntry)
  | done
  | failed

/-- The table and the calls that are under way. -/
structure Server where
  db : Table
  calls : List Call

/-- What can happen next: a call, or the next access of one, which may fail. -/
inductive Action
  | storeSingleToken (identity : Identity) (token : Token)
  | next (i : Nat)
  | throw (i : Nat)

/-- A call has gone on. -/
def goOn (s : Server) (i : Nat) (call : Call) : Server :=
  { s with calls := s.calls.set i call }

/-- One step of the server. -/
def step (s : Server) : Action → Option Server
  | .storeSingleToken identity token =>
      some { s with calls := s.calls ++ [.finding identity token] }
  | .next i => match s.calls[i]? with
    | some (.finding identity token) => some (goOn s i
        (.deleting identity token s.db.entries.length (findTokensForIdentity s.db identity false)))
    | some (.deleting identity token seen (existing :: todo)) =>
        some { goOn s i (.deleting identity token seen todo) with
          db := s.db.save { existing with deleted := true } }
    | some (.deleting identity token _ []) =>
        some { goOn s i .done with db := addToken s.db identity token }
    | _ => none
  | .throw i => match s.calls[i]? with
    | some (.finding ..) | some (.deleting ..) => some (goOn s i .failed)
    | _ => none

/-- No call is under way. -/
def newServer (db : Table) : Server where
  db := db
  calls := []

/-! ## What is claimed of the tokens -/

/-- No identity has two tokens, and the one that it has is found. -/
def Single (db : Table) : Prop :=
  ∀ identity, (findTokensForIdentity db identity false).length ≤ 1 ∧
    (findTokenForIdentity db identity).isOk = true

/-- No call is in progress. -/
def Quiescent (s : Server) : Prop :=
  ∀ c ∈ s.calls, c = .done ∨ c = .failed

/-- The step is a failure. -/
def Fails (_ : Server) : Action → Prop
  | .throw _ => True
  | _ => False

/-- There are single tokens when no call is in progress, and when those in progress fail. -/
def SingleWhenQuiescent (s : Server) : Prop :=
  ∀ t, ReachesWithin step Fails s t → Quiescent t → Single t.db

/-- When a token is added, all tokens of the identity that the call has not seen are marked
    as deleted. -/
def SeesAll (s : Server) : Action → Prop
  | .next i => match s.calls[i]? with
    | some (.deleting identity _ seen []) =>
        ∀ e ∈ s.db.entries.drop seen, belongsTo identity e = true → e.deleted = true
    | _ => True
  | _ => True

/-- What a call has still to mark as deleted of the rows it has seen. -/
structure Inv (s : Server) : Prop where
  single : Single s.db
  deleting : ∀ identity token seen todo, .deleting identity token seen todo ∈ s.calls →
    seen ≤ s.db.entries.length ∧ ∀ i e, s.db.entries[i]? = some e → i < seen →
      belongsTo identity e = true → e.deleted = false → i ∈ todo.map (·.uid)

/-! ## The rows after an access -/

variable {db : Table} {identity : Identity} {token : Token} {s s' : Server} {a : Action}

theorem mem_findTokensForIdentity {e : TokenEntry} :
    e ∈ findTokensForIdentity db identity false ↔
      e ∈ db.entries ∧ belongsTo identity e = true ∧ e.deleted = false := by
  unfold findTokensForIdentity
  rw [List.mem_filter, List.mem_filter, Bool.false_or, Bool.not_eq_true', and_assoc]

/-- A token can be looked up unless there are several. -/
theorem findTokenForIdentity_isOk_iff (db : Table) (identity : Identity) :
    (findTokenForIdentity db identity).isOk = true ↔
      (findTokensForIdentity db identity false).length ≤ 1 := by
  unfold findTokenForIdentity
  cases findTokensForIdentity db identity false with
  | nil => exact iff_of_true rfl (Nat.zero_le 1)
  | cons entry entries =>
      cases entries with
      | nil => exact iff_of_true rfl (Nat.le_refl 1)
      | cons entry' entries =>
          refine iff_of_false nofun fun h => ?_
          rw [List.length_cons, List.length_cons] at h
          omega

/-- The condition by the number of rows that are found. -/
theorem single_iff_length (db : Table) : Single db ↔
    ∀ identity, (findTokensForIdentity db identity false).length ≤ 1 := by
  unfold Single
  simp only [findTokenForIdentity_isOk_iff, and_self]

/-- Marking a row as deleted adds no token. -/
theorem single_save (h : Single db) (entry : TokenEntry) :
    Single (db.save { entry with deleted := true }) := by
  rw [single_iff_length] at h ⊢
  intro identity
  refine Nat.le_trans ?_ (h identity)
  unfold findTokensForIdentity Table.save
  dsimp only
  cases hold : db.entries[entry.uid]? with
  | none => rw [List.set_eq_of_length_le (List.getElem?_eq_none_iff.mp hold)]
  | some old =>
      rcases split_set hold with ⟨before, behind, hentries, hset⟩
      have hone : ((([{ entry with deleted := true }].filter (belongsTo identity)).filter
          fun te => false || !te.deleted)).length = 0 := by
        rw [List.length_eq_zero_iff, List.filter_filter,
          List.filter_cons_of_neg (by simp), List.filter_nil]
      rw [hset, hentries, List.append_cons, List.append_cons before old]
      simp only [List.filter_append, List.length_append, hone]
      omega

theorem findTokensForIdentity_addToken (db : Table) (identity identity' : Identity)
    (token : Token) :
    (findTokensForIdentity (addToken db identity token) identity' false).length =
      (findTokensForIdentity db identity' false).length +
        if identity.authProviderId = identity'.authProviderId ∧
          identity.authId = identity'.authId then 1 else 0 := by
  unfold findTokensForIdentity addToken
  rw [List.filter_append, List.filter_append, List.length_append]
  congr 1
  split_ifs with howner
  · simp [belongsTo, howner]
  · simp [belongsTo, howner]

/-- A token can be added when the identity has none. -/
theorem single_addToken_iff (h : Single db) (identity : Identity) (token : Token) :
    Single (addToken db identity token) ↔ findTokensForIdentity db identity false = [] := by
  rw [single_iff_length] at h ⊢
  constructor
  · intro hadded
    have hlength := hadded identity
    rw [findTokensForIdentity_addToken, if_pos ⟨rfl, rfl⟩] at hlength
    exact List.eq_nil_of_length_eq_zero (by omega)
  · intro hnone identity'
    rw [findTokensForIdentity_addToken]
    split_ifs with howner
    · have hsame : belongsTo identity' = belongsTo identity := by
        funext e
        unfold belongsTo
        rw [howner.1, howner.2]
      unfold findTokensForIdentity at hnone ⊢
      rw [hsame, hnone]
      exact Nat.le_refl 1
    · exact h identity'

/-! ## The calls in progress may fail -/

theorem eq_goOn_of_fails (ha : Fails s a) (h : step s a = some s') :
    ∃ i, s' = goOn s i .failed := by
  cases a with
  | storeSingleToken identity token => exact absurd ha id
  | next i => exact absurd ha id
  | throw i =>
      rw [step] at h
      split at h
      · exact ⟨i, (Option.some.inj h).symm⟩
      · exact ⟨i, (Option.some.inj h).symm⟩
      · exact absurd h nofun

theorem fails_db (h : ReachesWithin step Fails s s') : s'.db = s.db := by
  induction h with
  | refl => rfl
  | step t t' a _ ha hstep ih =>
      rcases eq_goOn_of_fails ha hstep with ⟨i, rfl⟩
      exact ih

theorem fails_length (h : ReachesWithin step Fails s s') :
    s'.calls.length = s.calls.length := by
  induction h with
  | refl => rfl
  | step t t' a _ ha hstep ih =>
      rcases eq_goOn_of_fails ha hstep with ⟨i, rfl⟩
      rw [goOn, List.length_set]
      exact ih

/-- The first calls have ended, and so can the next one. -/
theorem exists_ended (s : Server) (k : Nat) : ∃ t, ReachesWithin step Fails s t ∧
    ∀ i c, i < k → t.calls[i]? = some c → c = .done ∨ c = .failed := by
  induction k with
  | zero => exact ⟨s, .refl s, fun i _ hlt => absurd hlt (Nat.not_lt_zero i)⟩
  | succ k ih =>
      rcases ih with ⟨t, hreach, hended⟩
      -- A call that is still going on may fail now.
      have hfail : ∀ c, t.calls[k]? = some c → step t (.throw k) = some (goOn t k .failed) →
          ∃ t, ReachesWithin step Fails s t ∧
            ∀ i c, i < k + 1 → t.calls[i]? = some c → c = .done ∨ c = .failed := by
        intro c hc hstep
        refine ⟨_, .step s t _ (.throw k) hreach trivial hstep, fun i c' hlt hc' => ?_⟩
        by_cases hi : i = k
        · rw [hi, goOn, List.getElem?_set_self (List.getElem?_eq_some_iff.mp hc).1] at hc'
          exact .inr (Option.some.inj hc').symm
        · rw [goOn, List.getElem?_set_ne (Ne.symm hi)] at hc'
          exact hended i c' (by omega) hc'
      have hkeep : (∀ c, t.calls[k]? = some c → c = .done ∨ c = .failed) →
          ∃ t, ReachesWithin step Fails s t ∧
            ∀ i c, i < k + 1 → t.calls[i]? = some c → c = .done ∨ c = .failed := by
        intro hc
        refine ⟨t, hreach, fun i c hlt hi => ?_⟩
        rcases Nat.lt_succ_iff_lt_or_eq.mp hlt with hlt | rfl
        · exact hended i c hlt hi
        · exact hc c hi
      cases hcall : t.calls[k]? with
      | none => exact hkeep fun c hc => absurd (hcall.symm.trans hc) nofun
      | some c =>
          cases c with
          | finding identity token => exact hfail _ hcall (by rw [step, hcall])
          | deleting identity token seen todo => exact hfail _ hcall (by rw [step, hcall])
          | done => exact hkeep fun c hc => .inl (Option.some.inj (hcall.symm.trans hc)).symm
          | failed => exact hkeep fun c hc => .inr (Option.some.inj (hcall.symm.trans hc)).symm

/-- From any state on all calls may fail, and then nothing is under way. -/
theorem exists_quiescent (s : Server) :
    ∃ t, ReachesWithin step Fails s t ∧ Quiescent t := by
  rcases exists_ended s s.calls.length with ⟨t, hreach, hended⟩
  refine ⟨t, hreach, fun c hc => ?_⟩
  rcases List.getElem?_of_mem hc with ⟨i, hi⟩
  have hlt := (List.getElem?_eq_some_iff.mp hi).1
  exact hended i c (fails_length hreach ▸ hlt) hi

/-- So there must not be two tokens at any time. -/
theorem singleWhenQuiescent_iff (s : Server) : SingleWhenQuiescent s ↔ Single s.db := by
  constructor
  · intro h
    rcases exists_quiescent s with ⟨t, hreach, hquiescent⟩
    rw [← fails_db hreach]
    exact h t hreach hquiescent
  · intro h t hreach _
    rw [fails_db hreach]
    exact h

/-! ## One step -/

/-- A call goes on, and has nothing more to mark than it had. -/
theorem inv_goOn {i : Nat} {call : Call} (hs : Inv s)
    (hcall : ∀ identity token seen todo, call = .deleting identity token seen todo →
      seen ≤ s.db.entries.length ∧ ∀ i e, s.db.entries[i]? = some e → i < seen →
        belongsTo identity e = true → e.deleted = false → i ∈ todo.map (·.uid)) :
    Inv (goOn s i call) := by
  refine ⟨hs.single, fun identity token seen todo hmem => ?_⟩
  rcases List.mem_or_eq_of_mem_set hmem with hold | hnew
  · exact hs.deleting identity token seen todo hold
  · exact hcall identity token seen todo hnew.symm

/-- A token is stored as deleted. -/
theorem inv_deleted {i seen : Nat} {existing : TokenEntry} {todo : List TokenEntry} (hs : Inv s)
    (hi : s.calls[i]? = some (.deleting identity token seen (existing :: todo))) :
    Inv { goOn s i (.deleting identity token seen todo) with
      db := s.db.save { existing with deleted := true } } := by
  -- An entry that is not deleted now was there before, and is another one.
  have hentry : ∀ j e, (s.db.save { existing with deleted := true }).entries[j]? = some e →
      e.deleted = false → j ≠ existing.uid ∧ s.db.entries[j]? = some e := by
    intro j e hj hdeleted
    unfold Table.save at hj
    dsimp only at hj
    rw [List.getElem?_set] at hj
    split_ifs at hj with huid hlt
    · rw [← Option.some.inj hj] at hdeleted
      exact absurd hdeleted nofun
    · exact ⟨Ne.symm huid, hj⟩
  have hlength : (s.db.save { existing with deleted := true }).entries.length =
      s.db.entries.length := List.length_set ..
  refine ⟨single_save hs.single existing, fun identity' token' seen' todo' hmem => ?_⟩
  dsimp only
  rw [hlength]
  rcases List.mem_or_eq_of_mem_set hmem with hold | hnew
  · rcases hs.deleting identity' token' seen' todo' hold with ⟨hle, htodo⟩
    exact ⟨hle, fun j e hj hlt howner hdeleted =>
      htodo j e (hentry j e hj hdeleted).2 hlt howner hdeleted⟩
  · rw [Call.deleting.injEq] at hnew
    rcases hnew with ⟨rfl, rfl, rfl, rfl⟩
    rcases hs.deleting _ _ _ _ (List.mem_of_getElem? hi) with ⟨hle, htodo⟩
    refine ⟨hle, fun j e hj hlt howner hdeleted => ?_⟩
    rcases hentry j e hj hdeleted with ⟨hne, hj'⟩
    have hmem' := htodo j e hj' hlt howner hdeleted
    rw [List.map_cons, List.mem_cons] at hmem'
    exact hmem'.resolve_left hne

/-- The new row comes behind all that were seen. -/
theorem inv_added {i : Nat} (hs : Inv s) (hsingle : Single (addToken s.db identity token)) :
    Inv { goOn s i .done with db := addToken s.db identity token } := by
  refine ⟨hsingle, fun identity' token' seen' todo' hmem => ?_⟩
  rcases List.mem_or_eq_of_mem_set hmem with hold | hnew
  · rcases hs.deleting identity' token' seen' todo' hold with ⟨hle, htodo⟩
    refine ⟨?_, fun j e hj hlt => ?_⟩
    · dsimp only [addToken]
      rw [List.length_append]
      exact Nat.le_add_right_of_le hle
    · have hj' : s.db.entries[j]? = some e := by
        rw [← hj]
        exact (List.getElem?_append_left (Nat.lt_of_lt_of_le hlt hle)).symm
      exact htodo j e hj' hlt
  · exact absurd hnew nofun

/-- The step lemma of the invariant. -/
theorem inv_step (hs : Inv s) (h : step s a = some s') (hsingle : Single s'.db) : Inv s' := by
  cases a with
  | storeSingleToken identity token =>
      rw [step, Option.some.injEq] at h
      rw [← h]
      refine ⟨hs.single, fun identity' token' seen todo hmem => ?_⟩
      rcases List.mem_append.mp hmem with hold | hnew
      · exact hs.deleting identity' token' seen todo hold
      · exact absurd (List.mem_singleton.mp hnew) nofun
  | next i =>
      rw [step] at h
      split at h
      · next identity token hi =>
          rw [← Option.some.inj h]
          refine inv_goOn hs fun identity' token' seen todo hcall => ?_
          rw [Call.deleting.injEq] at hcall
          rcases hcall with ⟨rfl, rfl, rfl, rfl⟩
          refine ⟨Nat.le_refl _, fun j e hj hlt howner hdeleted => ?_⟩
          -- all tokens that there are have been read
          refine List.mem_map.mpr ⟨e, ?_, s.db.numbered j e hj⟩
          exact mem_findTokensForIdentity.mpr ⟨List.mem_of_getElem? hj, howner, hdeleted⟩
      · next identity token seen existing todo hi =>
          rw [← Option.some.inj h]
          exact inv_deleted hs hi
      · next identity token seen hi =>
          rw [← Option.some.inj h] at hsingle ⊢
          exact inv_added hs hsingle
      · exact absurd h nofun
  | throw i =>
      rw [step] at h
      split at h
      · rw [← Option.some.inj h]
        exact inv_goOn hs fun _ _ _ _ hne => absurd hne nofun
      · rw [← Option.some.inj h]
        exact inv_goOn hs fun _ _ _ _ hne => absurd hne nofun
      · exact absurd h nofun

/-- What a call has seen it has marked as deleted when it adds its token. -/
theorem findTokensForIdentity_eq_nil_iff {i seen : Nat} (hs : Inv s)
    (hi : s.calls[i]? = some (.deleting identity token seen [])) :
    findTokensForIdentity s.db identity false = [] ↔
      ∀ e ∈ s.db.entries.drop seen, belongsTo identity e = true → e.deleted = true := by
  rcases hs.deleting _ _ _ _ (List.mem_of_getElem? hi) with ⟨_, htodo⟩
  rw [List.eq_nil_iff_forall_not_mem]
  constructor
  · intro hnone e he howner
    by_contra hdeleted
    refine hnone e (mem_findTokensForIdentity.mpr ⟨List.mem_of_mem_drop he, howner, ?_⟩)
    exact Bool.eq_false_iff.mpr hdeleted
  · intro hall e he
    rcases mem_findTokensForIdentity.mp he with ⟨hmem, howner, hdeleted⟩
    rcases List.getElem?_of_mem hmem with ⟨j, hj⟩
    by_cases hlt : j < seen
    · exact absurd (htodo j e hj hlt howner hdeleted) List.not_mem_nil
    · have hdrop : e ∈ s.db.entries.drop seen := by
        refine List.mem_of_getElem? (i := j - seen) ?_
        rw [List.getElem?_drop, Nat.add_sub_of_le (Nat.not_lt.mp hlt)]
        exact hj
      rw [hall e hdrop howner] at hdeleted
      exact absurd hdeleted nofun

/-- A step leaves a single token exactly if it sees all tokens there are. -/
theorem single_iff_of_step (hs : Inv s) (h : step s a = some s') :
    Single s'.db ↔ SeesAll s a := by
  cases a with
  | storeSingleToken identity token =>
      rw [step, Option.some.injEq] at h
      rw [← h]
      exact iff_of_true hs.single trivial
  | next i =>
      rw [step] at h
      unfold SeesAll
      dsimp only
      split at h
      · next identity token hi =>
          rw [← Option.some.inj h, hi]
          exact iff_of_true hs.single trivial
      · next identity token seen existing todo hi =>
          rw [← Option.some.inj h, hi]
          exact iff_of_true (single_save hs.single existing) trivial
      · next identity token seen hi =>
          rw [← Option.some.inj h, hi]
          -- The token is added now, and no other one may be left.
          exact (single_addToken_iff hs.single identity token).trans
            (findTokensForIdentity_eq_nil_iff hs hi)
      · exact absurd h nofun
  | throw i =>
      rw [step] at h
      split at h
      · rw [← Option.some.inj h]
        exact iff_of_true hs.single trivial
      · rw [← Option.some.inj h]
        exact iff_of_true hs.single trivial
      · exact absurd h nofun

/-- The runs after which there are single tokens, whenever the calls end, are those in which no
    call adds a token beside one that it has not seen. Each call looks for the tokens it is to
    replace and adds its own in another access, so two calls side by side leave two tokens, and
    with two the look-up fails until the next login. -/
theorem single_iff (h : Single db) (as : List Action) :
    StepsAlong step (fun _ _ s' => SingleWhenQuiescent s') as (newServer db) ↔
      MeetsAlong step SeesAll as (newServer db) := by
  refine stepsAlong_iff_meetsAlong_while (fun s a s' (hs : Inv s) hstep hquiet => ?_)
    (fun s a s' hs hstep => ?_) as _ ⟨h, fun _ _ _ _ hmem => absurd hmem List.not_mem_nil⟩
  · exact inv_step hs hstep ((singleWhenQuiescent_iff s').mp hquiet)
  · exact (singleWhenQuiescent_iff s').trans (single_iff_of_step hs hstep)

instance decidableSeesAll (s : Server) (a : Action) : Decidable (SeesAll s a) := by
  unfold SeesAll
  split
  · split <;> infer_instance
  · infer_instance

def emptyTable : Table where
  entries := []
  numbered _ _ h := absurd h nofun

theorem single_emptyTable : Single emptyTable :=
  fun _ => ⟨Nat.zero_le 1, rfl⟩

def ada : Identity := ⟨"Public-GitHub", "1815", "ada"⟩

def login (value : String) : Token := ⟨value, none, none⟩

/-- One login after the other. -/
theorem single_relogin : ∃ db, Single db ∧
    StepsAlong step (fun _ _ s' => SingleWhenQuiescent s')
      [.storeSingleToken ada (login "a"), .next 0, .next 0,
        .storeSingleToken ada (login "b"), .next 1, .next 1, .next 1] (newServer db) :=
  ⟨emptyTable, single_emptyTable, (single_iff single_emptyTable _).mpr (by decide)⟩

/-- Of two logins at a time neither sees the token of the other. When both have ended, no
    token can be looked up. -/
theorem two_tokens : ∃ t, runActions step
      [.storeSingleToken ada (login "a"), .storeSingleToken ada (login "b"), .next 0, .next 1,
        .next 0, .next 1] (newServer emptyTable) = some t ∧
    Quiescent t ∧ (findTokensForIdentity t.db ada false).length = 2 ∧
    findTokenForIdentity t.db ada =
      .error "Found more than one active token for Public-GitHub and user ada" := by
  refine ⟨_, rfl, fun c hc => .inl ?_, rfl, rfl⟩
  rcases List.mem_cons.mp hc with hc | hc
  · exact hc
  · exact List.mem_singleton.mp hc

end SingleToken

end UserStore

end Nxpod
