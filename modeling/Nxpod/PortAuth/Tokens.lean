import Nxpod.Library.Keyed
import Mathlib.Data.String.Basic

/-!
# Token Entries and the Port Authorization Cookie

The value of a port authorization cookie is the ID of a token entry. The
server accepts the cookie when the entry carries the scope of the workspace's
ports (`checkPortAuthHeader`).

Entries are deleted softly. `deleteTokens` and the sweep over expired entries
only mark a row, and another job removes marked rows later. The lookups by
identity skip marked rows; the lookup by ID does not, and it does not look at
the expiry date either. So a row's token goes on opening ports from its expiry
to its removal, whatever is deleted and replaced meanwhile, and in whatever
order (`checkPortAuthHeader_changes`).

Dates are the strings the source stores, in the format of `toISOString`, which
the database compares as strings.

## Main definitions

* `Token`: A token with its scopes.
* `TokenEntry`: A row of the token table.
* `Identity`: Who a token belongs to.
* `TokenTable`: The table, with its primary key.
* `checkPortAuthHeader`: The decision on a cookie.
* `Change`: What happens to the tokens of a table while they are used.
* `PortAuthValid`: What the cookie should stand for.
* `namesStaleToken`: The cookie names a row with the scope that is deleted or
  expired.

## Theorems

* `findTokenEntryById_of_mem`: A row is found by its ID.
* `checkPortAuthHeader_of_sameTokens`: The decision depends only on the tokens
  that lookups by ID find.
* `checkPortAuthHeader_deleteTokens`, `checkPortAuthHeader_storeSingleToken`,
  `checkPortAuthHeader_deleteExpired`: What one change does to a decision.
* `checkPortAuthHeader_changes`: What any number of them do.
* `checkPortAuthHeader_sound_iff`: An accepted cookie is valid exactly when it
  does not name a stale token.
* `expired_cookie_accepted`: Some accepted cookie is not valid.
-/

namespace Nxpod

namespace PortAuth

open Keyed

/-- A token with its scopes. -/
structure Token where
  value : String
  scopes : List String
  expiryDate : Option String := none
  refreshToken : Option String := none
  deriving DecidableEq

/-- A row of the table. -/
structure TokenEntry where
  uid : String
  authProviderId : String
  authId : String
  token : Token
  expiryDate : Option String := none
  refreshable : Bool := false
  deleted : Bool := false
  deriving DecidableEq

/-- Who a token belongs to. -/
structure Identity where
  authProviderId : String
  authId : String

/-- The token table. Its primary key is `uid`. -/
structure TokenTable where
  rows : List TokenEntry
  uids_nodup : (rows.map TokenEntry.uid).Nodup

namespace TokenTable

/-- A table without rows. -/
def empty : TokenTable := ⟨[], List.nodup_nil⟩

/-- The row with an ID, marked as deleted or not. -/
def findTokenEntryById (table : TokenTable) (uid : String) : Option TokenEntry :=
  findKey TokenEntry.uid uid table.rows

/-- Update rows in place, keeping their IDs. -/
def updateRows (table : TokenTable) (f : TokenEntry → TokenEntry)
    (hf : ∀ te, (f te).uid = te.uid) : TokenTable :=
  ⟨table.rows.map f, nodup_map_of_keys f hf table.uids_nodup⟩

/-- The repository's `save`: update the row with this ID, or insert one. -/
def save (table : TokenTable) (entry : TokenEntry) : TokenTable :=
  if h : table.findTokenEntryById entry.uid = none then
    ⟨table.rows ++ [entry], nodup_append_of_new table.uids_nodup h rfl⟩
  else
    table.updateRows (fun te => if te.uid = entry.uid then entry else te)
      (fun te => by split_ifs with hc <;> simp only [hc])

theorem findTokenEntryById_of_mem (table : TokenTable) {te : TokenEntry}
    (h : te ∈ table.rows) : table.findTokenEntryById te.uid = some te :=
  (findKey_eq_some_iff table.uids_nodup).mpr ⟨h, rfl⟩

/-- An update of the rows in place is seen in the row that is found. -/
theorem findTokenEntryById_updateRows (table : TokenTable) (f : TokenEntry → TokenEntry)
    (hf : ∀ te, (f te).uid = te.uid) (uid : String) :
    (table.updateRows f hf).findTokenEntryById uid = (table.findTokenEntryById uid).map f :=
  findKey_map f hf

theorem findTokenEntryById_save_self (table : TokenTable) (entry : TokenEntry) :
    (table.save entry).findTokenEntryById entry.uid = some entry := by
  unfold save
  split_ifs with h
  · exact findKey_append_self h rfl
  · -- the row with this ID is there and is replaced
    rcases Option.ne_none_iff_exists'.mp h with ⟨te, hte⟩
    rw [findTokenEntryById_updateRows, hte, Option.map_some,
      if_pos (mem_of_findKey hte).2]

theorem findTokenEntryById_save_other (table : TokenTable) (entry : TokenEntry) {uid : String}
    (hne : uid ≠ entry.uid) :
    (table.save entry).findTokenEntryById uid = table.findTokenEntryById uid := by
  unfold save
  split_ifs with h
  · exact findKey_append_other (Ne.symm hne)
  · rw [findTokenEntryById_updateRows]
    cases hfind : table.findTokenEntryById uid with
    | none => rfl
    | some te =>
        rw [Option.map_some, if_neg (fun hc => hne ((mem_of_findKey hfind).2.symm.trans hc))]

/-- A new row for a token. -/
def addToken (table : TokenTable) (uid : String) (identity : Identity) (token : Token) :
    TokenTable :=
  table.save {
    uid := uid
    authProviderId := identity.authProviderId
    authId := identity.authId
    token := token
    expiryDate := token.expiryDate
    refreshable := token.refreshToken.any (· ≠ "") }

theorem findTokenEntryById_addToken_other (table : TokenTable) {uid value : String}
    (identity : Identity) (token : Token) (hne : value ≠ uid) :
    (table.addToken uid identity token).findTokenEntryById value =
      table.findTokenEntryById value :=
  findTokenEntryById_save_other table _ hne

/-- The rows of an identity, with the marked ones if wanted. -/
def findTokensForIdentity (table : TokenTable) (identity : Identity) (includeDeleted : Bool) :
    List TokenEntry :=
  (table.rows.filter fun te =>
    te.authProviderId = identity.authProviderId ∧ te.authId = identity.authId).filter
      fun te => includeDeleted || !te.deleted

/-- Mark the identity's entries as deleted, one by one. -/
def deleteTokens (table : TokenTable) (identity : Identity) (shouldDelete : TokenEntry → Bool) :
    TokenTable :=
  ((table.findTokensForIdentity identity false).filter shouldDelete).foldl
    (fun t existing => t.save { existing with deleted := true }) table

/-- All tokens of the identity are marked as deleted, and one is added. -/
def storeSingleToken (table : TokenTable) (uid : String) (identity : Identity) (token : Token) :
    TokenTable :=
  (table.deleteTokens identity fun _ => true).addToken uid identity token

end TokenTable

/-- The entry's expiry date has passed. An empty date never does. -/
def TokenEntry.expired (now : String) (te : TokenEntry) : Bool :=
  match te.expiryDate with
  | none => false
  | some date => date ≠ "" && date ≤ now

/-- Mark the expired entries that cannot be refreshed. -/
def TokenTable.deleteExpiredTokenEntries (table : TokenTable) (date : String) : TokenTable :=
  table.updateRows
    (fun te => if te.expired date && !te.refreshable then { te with deleted := true } else te)
    (fun te => by split_ifs <;> rfl)

/-- The scope that opens the ports of a workspace. -/
def generateWorkspacePortAuthScope (workspaceId : String) : String :=
  "access/workspace/" ++ workspaceId ++ "/port/*"

/-- Issue a token for the workspace's ports. Its value is the ID of its entry,
    which the front end sets as the cookie. -/
def getFreshPortAuthenticationToken (table : TokenTable) (uid : String) (identity : Identity)
    (workspaceId expiryDate : String) : TokenTable :=
  table.addToken uid identity {
    value := uid
    scopes := [generateWorkspacePortAuthScope workspaceId]
    expiryDate := some expiryDate }

/-- Whether a token opens the ports of a workspace. -/
def TokenEntry.grants (workspaceId : String) (te : TokenEntry) : Bool :=
  te.token.scopes.any fun s => s == generateWorkspacePortAuthScope workspaceId

/-- Whether the value of a cookie is the ID of a token that opens the ports. -/
def checkPortAuthHeader (table : TokenTable) (workspaceId : String)
    (portAuthCookieValue : Option String) : Bool :=
  match portAuthCookieValue with
  | none => false
  | some value =>
    if value = "" then false
    else match table.findTokenEntryById value with
      | none => false
      -- neither the mark of deletion nor the expiry date is looked at
      | some te => te.grants workspaceId

/-- The cookie names an entry which is neither deleted nor expired and carries
    the scope of exactly this workspace. -/
def PortAuthValid (table : TokenTable) (workspaceId : String) (cookie : Option String)
    (now : String) : Prop :=
  ∃ te ∈ table.rows, cookie = some te.uid ∧ te.deleted = false ∧ te.expired now = false ∧
    generateWorkspacePortAuthScope workspaceId ∈ te.token.scopes

/-- The cookie names an entry that carries the scope but is deleted or
    expired. -/
def namesStaleToken (table : TokenTable) (workspaceId : String) (cookie : Option String)
    (now : String) : Bool :=
  match cookie with
  | none => false
  | some value => value ≠ "" && table.rows.any fun te =>
      te.uid == value && te.grants workspaceId && (te.deleted || te.expired now)

/-- Lookups by ID find the same tokens in both tables. -/
def SameTokens (table table' : TokenTable) : Prop :=
  ∀ uid, (table.findTokenEntryById uid).map TokenEntry.token =
    (table'.findTokenEntryById uid).map TokenEntry.token

theorem grants_iff (workspaceId : String) (te : TokenEntry) :
    te.grants workspaceId = true ↔
      generateWorkspacePortAuthScope workspaceId ∈ te.token.scopes := by
  simp only [TokenEntry.grants, List.any_eq_true, beq_iff_eq, exists_eq_right]

/-- A cookie is accepted when it names an entry with the scope, and that is
    all. -/
theorem checkPortAuthHeader_iff (table : TokenTable) (workspaceId : String)
    (cookie : Option String) :
    checkPortAuthHeader table workspaceId cookie = true ↔
      ∃ te ∈ table.rows, cookie = some te.uid ∧ te.uid ≠ "" ∧ te.grants workspaceId = true := by
  cases cookie with
  | none => simp only [checkPortAuthHeader, Bool.false_eq_true, reduceCtorEq, false_and, and_false,
      exists_false]
  | some value =>
      constructor
      · intro h
        simp only [checkPortAuthHeader] at h
        split_ifs at h with hne
        split at h
        · exact absurd h (by simp only [Bool.false_eq_true, not_false_eq_true])
        · rename_i te hfind
          rcases mem_of_findKey hfind with ⟨hmem, huid⟩
          exact ⟨te, hmem, by rw [huid], huid ▸ hne, h⟩
      · rintro ⟨te, hmem, hvalue, hne, hgrants⟩
        rw [Option.some.injEq] at hvalue
        simp only [checkPortAuthHeader, hvalue, if_neg hne,
          table.findTokenEntryById_of_mem hmem, hgrants]

/-- A cookie names a stale token if the row of its ID opens the ports and is marked or has
    expired. -/
theorem namesStaleToken_iff (table : TokenTable) (workspaceId : String) (cookie : Option String)
    (now : String) :
    namesStaleToken table workspaceId cookie now = true ↔
      ∃ te ∈ table.rows, cookie = some te.uid ∧ te.uid ≠ "" ∧ te.grants workspaceId = true ∧
        (te.deleted = true ∨ te.expired now = true) := by
  cases cookie with
  | none => simp only [namesStaleToken, Bool.false_eq_true, reduceCtorEq, false_and, and_false,
      exists_false]
  | some value =>
      simp only [namesStaleToken, Bool.and_eq_true, decide_eq_true_eq, List.any_eq_true,
        beq_iff_eq, Bool.or_eq_true, Option.some.injEq]
      constructor
      · rintro ⟨hne, te, hmem, ⟨huid, hgrants⟩, hstale⟩
        exact ⟨te, hmem, huid.symm, huid ▸ hne, hgrants, hstale⟩
      · rintro ⟨te, hmem, hvalue, hne, hgrants, hstale⟩
        exact ⟨hvalue ▸ hne, te, hmem, ⟨hvalue.symm, hgrants⟩, hstale⟩

/-- Tables in which lookups by ID find the same tokens accept the same
    cookies. -/
theorem checkPortAuthHeader_of_sameTokens {table table' : TokenTable}
    (h : SameTokens table table') (workspaceId : String) (cookie : Option String) :
    checkPortAuthHeader table workspaceId cookie =
      checkPortAuthHeader table' workspaceId cookie := by
  cases cookie with
  | none => rfl
  | some value =>
      have hv := h value
      simp only [checkPortAuthHeader]
      split_ifs with hne
      · rfl
      · cases hfind : table.findTokenEntryById value <;>
          cases hfind' : table'.findTokenEntryById value <;>
          simp only [hfind, hfind', Option.map_none, Option.map_some, reduceCtorEq,
            Option.some.injEq] at hv ⊢
        simp only [TokenEntry.grants, hv]

/-- Saving a row with the token it had is not seen by lookups by ID. -/
theorem sameTokens_save {table table' : TokenTable} (h : SameTokens table table')
    (entry : TokenEntry)
    (hentry : (table.findTokenEntryById entry.uid).map TokenEntry.token = some entry.token) :
    SameTokens table (table'.save entry) := by
  intro uid
  by_cases huid : uid = entry.uid
  · rw [huid, hentry, TokenTable.findTokenEntryById_save_self, Option.map_some]
  · rw [TokenTable.findTokenEntryById_save_other _ _ huid]
    exact h uid

theorem sameTokens_deleteTokens (table : TokenTable) (identity : Identity)
    (shouldDelete : TokenEntry → Bool) :
    SameTokens table (table.deleteTokens identity shouldDelete) := by
  -- each row saved is one of the original table's, whatever was saved before
  have hfold : ∀ (entries : List TokenEntry) (table' : TokenTable), entries ⊆ table.rows →
      SameTokens table table' → SameTokens table
        (entries.foldl (fun t existing => t.save { existing with deleted := true }) table') := by
    intro entries
    induction entries with
    | nil => exact fun _ _ h => h
    | cons te entries ih =>
        intro table' hsub h
        refine ih _ (fun x hx => hsub (List.mem_cons_of_mem te hx)) (sameTokens_save h _ ?_)
        simp only [table.findTokenEntryById_of_mem (hsub List.mem_cons_self), Option.map_some]
  refine hfold _ table (fun te hte => ?_) (fun _ => rfl)
  exact List.mem_of_mem_filter (List.mem_of_mem_filter (List.mem_of_mem_filter hte))

theorem sameTokens_deleteExpired (table : TokenTable) (date : String) :
    SameTokens table (table.deleteExpiredTokenEntries date) := by
  intro uid
  rw [TokenTable.deleteExpiredTokenEntries, TokenTable.findTokenEntryById_updateRows,
    Option.map_map]
  congr 1
  funext te
  simp only [Function.comp_apply]
  split_ifs <;> rfl

/-- Deleting an identity's tokens changes no decision on a cookie. -/
theorem checkPortAuthHeader_deleteTokens (table : TokenTable) (identity : Identity)
    (shouldDelete : TokenEntry → Bool) (workspaceId : String) (cookie : Option String) :
    checkPortAuthHeader (table.deleteTokens identity shouldDelete) workspaceId cookie =
      checkPortAuthHeader table workspaceId cookie :=
  (checkPortAuthHeader_of_sameTokens (sameTokens_deleteTokens table identity shouldDelete)
    workspaceId cookie).symm

/-- Replacing an identity's tokens by a new one does not either, except for the
    cookie that names the new one. -/
theorem checkPortAuthHeader_storeSingleToken (table : TokenTable) (uid : String)
    (identity : Identity) (token : Token) (workspaceId : String) (cookie : Option String)
    (hcookie : cookie ≠ some uid) :
    checkPortAuthHeader (table.storeSingleToken uid identity token) workspaceId cookie =
      checkPortAuthHeader table workspaceId cookie := by
  cases cookie with
  | none => rfl
  | some value =>
      have hne : value ≠ uid := fun hc => hcookie (congrArg some hc)
      rw [← checkPortAuthHeader_deleteTokens table identity (fun _ => true)]
      simp only [checkPortAuthHeader, TokenTable.storeSingleToken,
        TokenTable.findTokenEntryById_addToken_other _ identity token hne]

/-- Neither does the sweep over expired entries. -/
theorem checkPortAuthHeader_deleteExpired (table : TokenTable) (date workspaceId : String)
    (cookie : Option String) :
    checkPortAuthHeader (table.deleteExpiredTokenEntries date) workspaceId cookie =
      checkPortAuthHeader table workspaceId cookie :=
  (checkPortAuthHeader_of_sameTokens (sameTokens_deleteExpired table date) workspaceId
    cookie).symm

/-- What happens to the tokens of a table while they are used. -/
inductive Change
  | deleteTokens (identity : Identity) (shouldDelete : TokenEntry → Bool)
  | storeSingleToken (uid : String) (identity : Identity) (token : Token)
  | deleteExpiredTokenEntries (date : String)

/-- The changes a table goes through. -/
def TokenTable.change (table : TokenTable) : Change → TokenTable
  | .deleteTokens identity shouldDelete => table.deleteTokens identity shouldDelete
  | .storeSingleToken uid identity token => table.storeSingleToken uid identity token
  | .deleteExpiredTokenEntries date => table.deleteExpiredTokenEntries date

/-- The ID of the token that is new. -/
def Change.uid : Change → Option String
  | .storeSingleToken uid _ _ => some uid
  | .deleteTokens _ _ | .deleteExpiredTokenEntries _ => none

/-- A cookie opens in the end what it opened in the beginning, whatever has happened to the tokens
    in between. It just must not name one that was new. Deleting a token, at the logout of its owner
    for one, does not close the ports it opens. -/
theorem checkPortAuthHeader_changes (changes : List Change) (table : TokenTable)
    (workspaceId : String) (cookie : Option String)
    (hcookie : ∀ change ∈ changes, ∀ uid, change.uid = some uid → cookie ≠ some uid) :
    checkPortAuthHeader (changes.foldl TokenTable.change table) workspaceId cookie =
      checkPortAuthHeader table workspaceId cookie := by
  induction changes generalizing table with
  | nil => rfl
  | cons change changes ih =>
      rw [List.foldl_cons, ih _ fun c hc => hcookie c (List.mem_cons_of_mem change hc)]
      cases change with
      | deleteTokens identity shouldDelete =>
          exact checkPortAuthHeader_deleteTokens table identity shouldDelete workspaceId cookie
      | storeSingleToken uid identity token =>
          exact checkPortAuthHeader_storeSingleToken table uid identity token workspaceId cookie
            (hcookie _ List.mem_cons_self uid rfl)
      | deleteExpiredTokenEntries date =>
          exact checkPortAuthHeader_deleteExpired table date workspaceId cookie

/-- An accepted cookie is valid exactly when it does not name a stale token. The token is looked
    up by its ID alone, so neither the mark of deletion nor the expiry date is asked for, and
    the scope of the workspace is all that stands between a cookie and its port. -/
theorem checkPortAuthHeader_sound_iff (table : TokenTable) (workspaceId : String)
    (cookie : Option String) (now : String) :
    (checkPortAuthHeader table workspaceId cookie = true →
      PortAuthValid table workspaceId cookie now) ↔
      namesStaleToken table workspaceId cookie now = false := by
  rw [← Bool.not_eq_true, namesStaleToken_iff, checkPortAuthHeader_iff]
  constructor
  · rintro hvalid ⟨te, hmem, hcookie, hne, hgrants, hstale⟩
    rcases hvalid ⟨te, hmem, hcookie, hne, hgrants⟩ with ⟨te', hmem', hcookie', hdel, hexp, _⟩
    -- the key makes the two rows one
    have hsame : te' = te := by
      have huid : te'.uid = te.uid := Option.some.inj (hcookie'.symm.trans hcookie)
      have hfind := table.findTokenEntryById_of_mem hmem'
      rw [huid, table.findTokenEntryById_of_mem hmem, Option.some.injEq] at hfind
      exact hfind.symm
    rw [hsame] at hdel hexp
    rw [hdel, hexp] at hstale
    exact absurd hstale (by simp only [Bool.false_eq_true, or_self, not_false_eq_true])
  · rintro hfresh ⟨te, hmem, hcookie, hne, hgrants⟩
    refine ⟨te, hmem, hcookie, ?_, ?_, (grants_iff workspaceId te).mp hgrants⟩
    · by_contra hdel
      exact hfresh ⟨te, hmem, hcookie, hne, hgrants, Or.inl (Bool.not_eq_false _ ▸ hdel)⟩
    · by_contra hexp
      exact hfresh ⟨te, hmem, hcookie, hne, hgrants, Or.inr (Bool.not_eq_false _ ▸ hexp)⟩

/-- A token for the ports of `ws` whose expiry date passes and which the sweep
    then marks as deleted. -/
def sweptTokenTable : TokenTable :=
  (getFreshPortAuthenticationToken .empty "t1" ⟨"nxpod", "alice"⟩ "ws"
    "2021-01-01T00:30:00.000Z").deleteExpiredTokenEntries "2021-01-01T00:35:00.000Z"

/-- Not every accepted cookie is valid. -/
theorem expired_cookie_accepted : ¬ ∀ (table : TokenTable) (workspaceId : String)
    (cookie : Option String) (now : String),
      checkPortAuthHeader table workspaceId cookie = true →
        PortAuthValid table workspaceId cookie now := by
  intro hall
  -- the only row that the cookie can name is marked
  rcases hall sweptTokenTable "ws" (some "t1") "2021-01-01T00:35:00.000Z" (by decide +kernel) with
    ⟨te, hmem, _, hdel, _⟩
  have hmarked : ∀ te ∈ sweptTokenTable.rows, te.deleted = true := by decide +kernel
  rw [hmarked te hmem] at hdel
  exact absurd hdel (by simp only [Bool.true_eq_false, not_false_eq_true])

end PortAuth

end Nxpod
