import Mathlib
import Nxpod.Library.Memo
import Nxpod.Library.Text
import Nxpod.Library.Transition
import Nxpod.PortAuth.Cache
import Nxpod.PortAuth.Naming
import Nxpod.PortAuth.Tokens
import Nxpod.WsManager.Api

/-!
# Port Authorization

`authorizeWorkspacePortAccess` decides whether a request for a workspace's
port is let through. The decision needs the database and the workspace
manager, so the service caches it for a few seconds.

A request is handled in two parts. The first runs without waiting: it parses
the request, and answers at once when parsing fails or the cache holds a
positive decision under the request's key. Otherwise the second part decides
after the answers of the database have arrived, and stores the decision. Any
number of requests can be between the two parts, so the model is a step
function over the cache and the pending requests.

The key names the workspace, the port and the cookie, but not the user. With
`portAccessForUsersOnly` off, the decision does not depend on the user
(`decision_eq_of_anyone`). With it on, it does: a positive decision taken for
one user is served to the next one who asks with the same key.

A port is a natural number here; `Number.parseInt` rounds from 2^53 on, which
is far past the ports there are.

## Main definitions

* `Env`: What is configured.
* `User`: A user, by the ID.
* `Backend`: What the service asks the database and the workspace manager.
* `Request`: The request as the route handler passes it on.
* `PortRequest`: A request after parsing.
* `cacheKey`: The key of its entry.
* `WorkspacePortAuthorizationService.decide`: The rule.
* `uncached`: The answer to a request without the cache.
* `Pending`: A request that waits for the answers of the database.
* `ServiceState`: The cache and the requests that wait for the database.
* `Event`: A request arrives, the database has answered the `k`-th pending
  request, or the cache is swept.
* `serve`, `step`: The service, event by event.
* `hasStanding`: What the rule for users only asks of the user.
* `NeverSharesGrant`: A cached grant is served only to users with standing.

## Theorems

* `cacheKey_inj`: Requests with one key ask for the same.
* `decision_of_granted`: Where someone was let through, standing decides.
* `cacheGranted_step`: Every entry is the decision on some request of its key.
* `answers_uncached_iff`: All answers of a run are the uncached ones exactly
  when no grant is shared with a user without standing.
* `grant_shared`: Some run gives another answer.
-/

namespace Nxpod

namespace PortAuth

open Text Transition Memo WsManager

/-- What is configured. -/
structure Env where
  hostUrl : String
  portAccessForUsersOnly : Bool

/-- A user, by the ID. -/
structure User where
  id : String

/-- The workspace and its latest instance, as the database joins them. -/
structure WorkspacePortsAuthData where
  ownerId : String
  shareable : Bool
  instanceId : String
  region : String

/-- The fixed state of the database and of the workspace managers. A manager
    that cannot be reached, or does not know the instance, gives no ports. -/
structure Backend where
  tokens : TokenTable
  findWorkspacePortsAuthDataById : String → Option WorkspacePortsAuthData
  describeWorkspace : String → String → Option (List PortSpec)

/-- What is known about the workspace and the port. When nothing is known,
    nothing is granted. -/
structure WsAndPortConfig where
  isPortPublic : Bool := false
  isWsShared : Bool := false
  isUserWsOwner : Bool := false

/-- The request as the route handler passes it on. -/
structure Request where
  port : Option String
  hostname : String
  authenticatedUser : Option User
  portAuthHeader : Option String

/-- A request after parsing. The workspace ID has no slash, being matched by
    an expression without one. -/
structure PortRequest where
  workspaceId : String
  workspacePort : Nat
  portAuthCookieValue : Option String
  workspaceId_plain : '/' ∉ workspaceId.toList

/-- The port, or `none` for what the source returns as undefined or as not a
    number. Its caller treats both alike. -/
def parseWorkspacePortFromParameter (maybePort : Option String) : Option Nat :=
  match maybePort with
  | none => none
  | some text =>
    if text = "" then none
    else match parseInt text with
      | none => none
      | some workspacePort => if workspacePort < 0 then none else some workspacePort.toNat

/-- The value of the first cookie with the name that has one. -/
def cookieValue (cookies : List String) (cookieName : String) : Option String :=
  match cookies with
  | [] => none
  | c :: cookies =>
    match split '=' c with
    | k :: v :: _ =>
        if trim k = cookieName ∧ v ≠ "" then some (trim v) else cookieValue cookies cookieName
    | _ => cookieValue cookies cookieName

/-- The port authorization cookie of the header. An empty value counts as
    none. -/
def portAuthCookieValue (env : Env) (portAuthHeader : Option String) (workspaceId : String) :
    Option String :=
  match portAuthHeader with
  | none => none
  | some header =>
    if header = "" then none
    else (cookieValue (split ';' header)
      (worspacePortAuthCookieName env.hostUrl workspaceId)).filter (· ≠ "")

/-- The ID of a workspace has no slash in it, so the parts of a key stay apart. -/
theorem workspaceId_plain_of_parse {hostname id : String}
    (h : parseWorkspaceIdFromHostname hostname = some id) : '/' ∉ id.toList := by
  intro hslash
  rcases parseWorkspaceIdFromHostname_chars h '/' hslash with hchar | hdash
  · exact absurd hchar (by decide)
  · exact absurd hdash (by decide)

/-- The first lines of `authorizeWorkspacePortAccess`, up to the cache. -/
def parseRequest (env : Env) (req : Request) : Option PortRequest :=
  match hid : parseWorkspaceIdFromHostname req.hostname,
      parseWorkspacePortFromParameter req.port with
  | some workspaceId, some workspacePort =>
      if workspaceId = "" ∨ workspacePort = 0 then none
      else some {
        workspaceId := workspaceId
        workspacePort := workspacePort
        portAuthCookieValue := portAuthCookieValue env req.portAuthHeader workspaceId
        workspaceId_plain := workspaceId_plain_of_parse hid }
  | _, _ => none

/-- The key of a decision: the workspace, the port and, if there is one, the
    cookie. -/
def cacheKey (target : PortRequest) : String :=
  match target.portAuthCookieValue with
  | none => target.workspaceId ++ "/" ++ toString target.workspacePort
  | some value => target.workspaceId ++ "/" ++ toString target.workspacePort ++ "/" ++ value

/-- How the workspace manager says the port is shown, if it knows the port. -/
def getWorkspacePortVisibility (backend : Backend) (instanceId region : String)
    (workspacePort : Nat) : Option PortVisibility :=
  match backend.describeWorkspace region instanceId with
  | none => none
  | some portSpecs => (portSpecs.find? (·.port.toNat = workspacePort)).map PortSpec.visibility

/-- What the database and the workspace manager say together. -/
def checkWorkspaceAndPortVisibility (backend : Backend) (workspaceId : String)
    (workspacePort : Nat) (userId : Option String) : WsAndPortConfig :=
  match backend.findWorkspacePortsAuthDataById workspaceId with
  | none => {}
  | some authData => {
      isUserWsOwner := match userId with
        | none => false
        | some id => id ≠ "" && authData.ownerId = id
      isWsShared := authData.shareable
      isPortPublic := getWorkspacePortVisibility backend authData.instanceId authData.region
        workspacePort = some .portVisibilityPublic }

/-- The decision itself. -/
def WorkspacePortAuthorizationService.decide (portAccessForUsersOnly hasValidCookieForWorkspace
    userAuthenticated : Bool) (wsAndPortConfig : WsAndPortConfig) : Bool :=
  if portAccessForUsersOnly then
    if hasValidCookieForWorkspace then
      -- only the owner has access, unless the workspace is shared
      if wsAndPortConfig.isWsShared then true else wsAndPortConfig.isUserWsOwner
    else if wsAndPortConfig.isPortPublic || wsAndPortConfig.isWsShared then userAuthenticated
    else false
  else
    hasValidCookieForWorkspace || wsAndPortConfig.isPortPublic || wsAndPortConfig.isWsShared

/-- The decision on a parsed request for a user. -/
def decision (env : Env) (backend : Backend) (target : PortRequest) (user : Option User) : Bool :=
  WorkspacePortAuthorizationService.decide env.portAccessForUsersOnly
    (checkPortAuthHeader backend.tokens target.workspaceId target.portAuthCookieValue)
    user.isSome
    (checkWorkspaceAndPortVisibility backend target.workspaceId target.workspacePort
      (user.map User.id))

/-- The answer to a request without the cache. -/
def uncached (env : Env) (backend : Backend) (req : Request) : Bool :=
  match parseRequest env req with
  | none => false
  | some target => decision env backend target req.authenticatedUser

/-- Decisions are cached for five seconds. -/
def defaultMaxAge : Nat := 5000

/-- A request that waits for the answers of the database. -/
structure Pending (env : Env) where
  request : Request
  target : PortRequest
  parsed : parseRequest env request = some target

/-- The cache and the requests that wait for the database. -/
structure ServiceState (env : Env) where
  accessDecisionCache : GarbageCollectedCache Bool
  pending : List (Pending env)

/-- A request arrives, the database has answered the `k`-th pending request,
    or the cache is swept. -/
inductive Event where
  | arrive (req : Request)
  | complete (k : Nat) (now : Nat)
  | collectGarbage (now : Nat)

/-- Nothing is cached and nobody waits. -/
def ServiceState.initial (env : Env) : ServiceState env := ⟨.empty, []⟩

/-- The state after an event, with the request it answers and the answer. -/
def serve (env : Env) (backend : Backend) (s : ServiceState env) :
    Event → Option (ServiceState env × Option (Request × Bool))
  | .arrive req => match hparse : parseRequest env req with
    | none => some (s, some (req, false))
    | some target => match s.accessDecisionCache.get (cacheKey target) with
      -- a negative decision is taken again
      | some true => some (s, some (req, true))
      | _ => some ({ s with pending := s.pending ++ [⟨req, target, hparse⟩] }, none)
  | .complete k now => match s.pending[k]? with
    | none => none
    | some p =>
        let decided := decision env backend p.target p.request.authenticatedUser
        some ({
          accessDecisionCache :=
            s.accessDecisionCache.set defaultMaxAge now (cacheKey p.target) decided
          pending := s.pending.eraseIdx k }, some (p.request, decided))
  | .collectGarbage now =>
      some ({ s with accessDecisionCache := s.accessDecisionCache.collectGarbage now }, none)

/-- One event, without what is answered. -/
def step (env : Env) (backend : Backend) (s : ServiceState env) (e : Event) :
    Option (ServiceState env) :=
  (serve env backend s e).map Prod.fst

/-- The answer the event gives, if it gives one, is the uncached one. -/
def AnswersUncached (env : Env) (backend : Backend) (s : ServiceState env) (e : Event)
    (_ : ServiceState env) : Prop :=
  match serve env backend s e with
  | some (_, some (req, answer)) => answer = uncached env backend req
  | _ => True

instance (env : Env) (backend : Backend) (s : ServiceState env) (e : Event)
    (s' : ServiceState env) : Decidable (AnswersUncached env backend s e s') :=
  match h : serve env backend s e with
  | some (_, some (req, answer)) =>
      decidable_of_iff (answer = uncached env backend req) (by simp only [AnswersUncached, h])
  | some (_, none) => isTrue (by simp only [AnswersUncached, h])
  | none => isTrue (by simp only [AnswersUncached, h])

/-- What the rule for users only asks of the user himself: with a valid cookie
    to be the owner, unless the workspace is shared, and to be logged in
    without one. -/
def hasStanding (backend : Backend) (target : PortRequest) (user : Option User) : Bool :=
  let config := checkWorkspaceAndPortVisibility backend target.workspaceId target.workspacePort
    (user.map User.id)
  if checkPortAuthHeader backend.tokens target.workspaceId target.portAuthCookieValue then
    config.isWsShared || config.isUserWsOwner
  else user.isSome

/-- With access for users only, a request that finds a grant in the cache
    comes from a user with standing. -/
def NeverSharesGrant (env : Env) (backend : Backend) (s : ServiceState env) (e : Event) : Prop :=
  match e with
  | .arrive req => match parseRequest env req with
    | some target => env.portAccessForUsersOnly = true →
        s.accessDecisionCache.get (cacheKey target) = some true →
          hasStanding backend target req.authenticatedUser = true
    | none => True
  | _ => True

/-- Neither the workspace ID nor the port contains the slash between them, so
    the key can be taken apart. -/
theorem cacheKey_inj {target target' : PortRequest} (h : cacheKey target = cacheKey target') :
    target = target' := by
  have hport := fun n : Nat => digits_ne n '/' (by decide)
  rcases target with ⟨id, port, cookie, hid⟩
  rcases target' with ⟨id', port', cookie', hid'⟩
  have hparts : id.toList = id'.toList ∧ port = port' ∧ cookie = cookie' := by
    unfold cacheKey at h
    rw [← String.toList_inj] at h
    -- the key without a cookie ends with the port, the other one goes on
    cases cookie with
    | none =>
        cases cookie' with
        | none =>
            simp only [String.toList_append, List.append_assoc] at h
            rcases append_separator_inj hid hid' h with ⟨hids, hports⟩
            exact ⟨hids, Nat.repr_injective (String.toList_inj.mp hports), rfl⟩
        | some value' =>
            -- the second key has a slash more
            simp only [String.toList_append, List.append_assoc] at h
            rcases append_separator_inj hid hid' h with ⟨_, hports⟩
            exact absurd hports.symm (append_separator_ne (hport port))
    | some value =>
        cases cookie' with
        | none =>
            simp only [String.toList_append, List.append_assoc] at h
            rcases append_separator_inj hid hid' h with ⟨_, hports⟩
            exact absurd hports (append_separator_ne (hport port'))
        | some value' =>
            simp only [String.toList_append, List.append_assoc] at h
            rcases append_separator_inj hid hid' h with ⟨hids, hrest⟩
            rcases append_separator_inj (hport port) (hport port') hrest with ⟨hports, hvalues⟩
            exact ⟨hids, Nat.repr_injective (String.toList_inj.mp hports),
              congrArg some (String.toList_inj.mp hvalues)⟩
  rcases hparts with ⟨hids, rfl, rfl⟩
  have hids' := String.toList_inj.mp hids
  subst hids'
  rfl

/-- What the configuration says about the workspace and the port does not
    depend on who asks. -/
theorem config_of_anyone (backend : Backend) (workspaceId : String) (workspacePort : Nat)
    (userId userId' : Option String) :
    (checkWorkspaceAndPortVisibility backend workspaceId workspacePort userId).isPortPublic =
        (checkWorkspaceAndPortVisibility backend workspaceId workspacePort userId').isPortPublic ∧
      (checkWorkspaceAndPortVisibility backend workspaceId workspacePort userId).isWsShared =
        (checkWorkspaceAndPortVisibility backend workspaceId workspacePort userId').isWsShared := by
  unfold checkWorkspaceAndPortVisibility
  split <;> exact ⟨rfl, rfl⟩

/-- With access for everyone the decision does not depend on the user. -/
theorem decision_eq_of_anyone (env : Env) (backend : Backend) (target : PortRequest)
    (user user' : Option User) (hall : env.portAccessForUsersOnly = false) :
    decision env backend target user = decision env backend target user' := by
  rcases config_of_anyone backend target.workspaceId target.workspacePort
    (user.map User.id) (user'.map User.id) with ⟨hpublic, hshared⟩
  simp only [decision, WorkspacePortAuthorizationService.decide, hall, Bool.false_eq_true,
    if_false, hpublic, hshared]

/-- With access for users only, where someone was let through the decision on
    the same request for a user is whether he has standing. -/
theorem decision_of_granted (env : Env) (backend : Backend) (target : PortRequest)
    (user user' : Option User) (honly : env.portAccessForUsersOnly = true)
    (hgranted : decision env backend target user' = true) :
    decision env backend target user = hasStanding backend target user := by
  rcases config_of_anyone backend target.workspaceId target.workspacePort
    (user'.map User.id) (user.map User.id) with ⟨hpublic, hshared⟩
  simp only [decision, WorkspacePortAuthorizationService.decide, honly, if_true, hpublic,
    hshared] at hgranted
  simp only [decision, WorkspacePortAuthorizationService.decide, honly, if_true, hasStanding]
  by_cases hcookie :
      checkPortAuthHeader backend.tokens target.workspaceId target.portAuthCookieValue = true
  · rw [if_pos hcookie, if_pos hcookie]
    cases (checkWorkspaceAndPortVisibility backend target.workspaceId target.workspacePort
      (user.map User.id)).isWsShared <;> rfl
  · rw [if_neg hcookie] at hgranted
    rw [if_neg hcookie, if_neg hcookie]
    -- somebody without a valid cookie came in, so the port is open to users
    split_ifs at hgranted with hopen
    rw [if_pos hopen]

/-- A request that does not parse is denied at once. -/
theorem serve_unparsed (env : Env) (backend : Backend) (s : ServiceState env) (req : Request)
    (hparse : parseRequest env req = none) :
    serve env backend s (.arrive req) = some (s, some (req, false)) := by
  simp only [serve]
  split
  · rfl
  · rename_i target hsome
    exact absurd (hparse.symm.trans hsome) (by simp only [reduceCtorEq, not_false_eq_true])

/-- A request that finds a grant is let through at once. -/
theorem serve_hit (env : Env) (backend : Backend) (s : ServiceState env) (req : Request)
    (target : PortRequest) (hparse : parseRequest env req = some target)
    (hhit : s.accessDecisionCache.get (cacheKey target) = some true) :
    serve env backend s (.arrive req) = some (s, some (req, true)) := by
  simp only [serve]
  split
  · rename_i hnone
    exact absurd (hnone.symm.trans hparse) (by simp only [reduceCtorEq, not_false_eq_true])
  · rename_i target' hsome
    have htarget : target = target' := Option.some.inj (hparse.symm.trans hsome)
    subst htarget
    simp only [hhit]

/-- Any other request waits, and the cache stays as it is. -/
theorem serve_miss (env : Env) (backend : Backend) (s : ServiceState env) (req : Request)
    (target : PortRequest) (hparse : parseRequest env req = some target)
    (hmiss : s.accessDecisionCache.get (cacheKey target) ≠ some true) :
    ∃ s', serve env backend s (.arrive req) = some (s', none) ∧
      s'.accessDecisionCache = s.accessDecisionCache := by
  simp only [serve]
  split
  · rename_i hnone
    exact absurd (hnone.symm.trans hparse) (by simp only [reduceCtorEq, not_false_eq_true])
  · rename_i target' hsome
    have htarget : target = target' := Option.some.inj (hparse.symm.trans hsome)
    split
    · rename_i hhit
      exact absurd (htarget ▸ hhit) hmiss
    · exact ⟨_, rfl, rfl⟩

/-- Every entry of the cache is the decision on some request of its key. -/
def CacheGranted (env : Env) (backend : Backend) (s : ServiceState env) : Prop :=
  Justified (fun r : PortRequest × Option User => decision env backend r.1 r.2)
    (fun r => cacheKey r.1) s.accessDecisionCache.get

theorem cacheGranted_initial (env : Env) (backend : Backend) :
    CacheGranted env backend (.initial env) :=
  justified_empty

/-- The step lemma: a decision that is stored was just taken, and sweeping only
    removes some. -/
theorem cacheGranted_step (env : Env) (backend : Backend) (s : ServiceState env) (e : Event)
    (s' : ServiceState env) (hinv : CacheGranted env backend s)
    (h : step env backend s e = some s') : CacheGranted env backend s' := by
  cases e with
  | arrive req =>
      -- arrivals do not touch the cache
      have hcache : s'.accessDecisionCache = s.accessDecisionCache := by
        unfold step at h
        cases hparse : parseRequest env req with
        | none =>
            rw [serve_unparsed env backend s req hparse] at h
            rw [← Option.some.inj h]
        | some target =>
            by_cases hhit : s.accessDecisionCache.get (cacheKey target) = some true
            · rw [serve_hit env backend s req target hparse hhit] at h
              rw [← Option.some.inj h]
            · rcases serve_miss env backend s req target hparse hhit with ⟨s₁, hserve, hsame⟩
              rw [hserve] at h
              rw [← Option.some.inj h]
              exact hsame
      rw [CacheGranted, hcache]
      exact hinv
  | complete k now =>
      simp only [step, serve] at h
      split at h
      · exact absurd h (by simp only [Option.map_none, reduceCtorEq, not_false_eq_true])
      · rename_i p _
        rw [← Option.some.inj h]
        -- the decision stored is the one on the request that waited
        refine justified_insert hinv (p.target, p.request.authenticatedUser) ?_
        exact fun key value hget => GarbageCollectedCache.get_set_cases _ _ _ _ _ _ _ hget
  | collectGarbage now =>
      rw [← Option.some.inj h]
      exact justified_of_subset hinv
        (GarbageCollectedCache.get_of_get_collectGarbage s.accessDecisionCache now)

/-- What a hit means: the same request was granted to someone. -/
theorem granted_of_hit {env : Env} {backend : Backend} {s : ServiceState env}
    (hinv : CacheGranted env backend s) {target : PortRequest}
    (hhit : s.accessDecisionCache.get (cacheKey target) = some true) :
    ∃ user, decision env backend target user = true := by
  rcases hinv (cacheKey target) true hhit with ⟨⟨target', user⟩, hkey, hgranted⟩
  have htarget : target' = target := cacheKey_inj hkey
  exact ⟨user, htarget ▸ hgranted⟩

/-- A hit is the uncached answer unless it shares a grant. -/
theorem hit_eq_decision_iff {env : Env} {backend : Backend} {s : ServiceState env}
    (hinv : CacheGranted env backend s) {target : PortRequest} (user : Option User)
    (hhit : s.accessDecisionCache.get (cacheKey target) = some true) :
    true = decision env backend target user ↔
      (env.portAccessForUsersOnly = true → hasStanding backend target user = true) := by
  by_cases honly : env.portAccessForUsersOnly = true
  · rcases granted_of_hit hinv hhit with ⟨user', hgranted⟩
    rw [decision_of_granted env backend target user user' honly hgranted]
    exact ⟨fun h _ => h.symm, fun h => (h honly).symm⟩
  · -- the key determines the decision, so the hit is right
    have hall : env.portAccessForUsersOnly = false := Bool.not_eq_true _ ▸ honly
    have hdet : KeyDetermines (fun r : PortRequest × Option User => decision env backend r.1 r.2)
        (fun r => cacheKey r.1) (target, user) := by
      rintro ⟨target', user'⟩ hkey
      have htarget : target' = target := cacheKey_inj hkey
      rw [htarget]
      exact decision_eq_of_anyone env backend target user' user hall
    exact ⟨fun _ hc => absurd hc honly, fun _ => hit_eq hinv hdet hhit⟩

/-- The event's answer is the uncached one exactly when it shares no grant. -/
theorem answersUncached_iff (env : Env) (backend : Backend) (s : ServiceState env) (e : Event)
    (s' : ServiceState env) (hinv : CacheGranted env backend s)
    (h : step env backend s e = some s') :
    AnswersUncached env backend s e s' ↔ NeverSharesGrant env backend s e := by
  cases e with
  | arrive req =>
      unfold AnswersUncached NeverSharesGrant
      cases hparse : parseRequest env req with
      | none => simp only [serve_unparsed env backend s req hparse, uncached, hparse]
      | some target =>
          by_cases hhit : s.accessDecisionCache.get (cacheKey target) = some true
          · simp only [serve_hit env backend s req target hparse hhit, uncached, hparse, hhit,
              forall_const]
            exact hit_eq_decision_iff hinv req.authenticatedUser hhit
          · -- without a hit nothing is answered yet
            rcases serve_miss env backend s req target hparse hhit with ⟨s₁, hserve, _⟩
            simp only [hserve, hparse, hhit, false_implies, implies_true]
  | complete k now =>
      -- a decision taken now is the uncached one
      unfold step at h
      unfold AnswersUncached NeverSharesGrant
      simp only [serve] at h ⊢
      split at h
      · exact absurd h (by simp only [Option.map_none, reduceCtorEq, not_false_eq_true])
      · rename_i p _
        simp only [uncached, p.parsed]
  | collectGarbage now => exact Iff.rfl

/-- In a run of the service, all answers are those an uncached evaluation gives
    exactly when no grant is shared with a user without standing. A denial that
    is cached does no harm, because it is not looked at: the key leaves out who
    asks, so what can go wrong is a grant to one user that another finds. -/
theorem answers_uncached_iff (env : Env) (backend : Backend) (es : List Event) :
    StepsAlong (step env backend) (AnswersUncached env backend) es (.initial env) ↔
      MeetsAlong (step env backend) (NeverSharesGrant env backend) es (.initial env) :=
  stepsAlong_iff_meetsAlong_of_invariant (cacheGranted_step env backend)
    (answersUncached_iff env backend) es (.initial env) (cacheGranted_initial env backend)

/-- A workspace of `alice` with a public port, on an installation that admits
    only users. -/
def usersOnly : Env := ⟨"https://nxpod.khulnasoft.com", true⟩

def publicPort : Backend where
  tokens := .empty
  findWorkspacePortsAuthDataById := fun _ => some ⟨"alice", false, "inst", "eu01"⟩
  describeWorkspace := fun _ _ => some [{ port := 3000, visibility := .portVisibilityPublic }]

def visit (user : Option User) : Request where
  port := some "3000"
  hostname := "3000-b7e0eaf8-ec73-44ec-81ea-04859263b656.ws-eu01.nxpod.khulnasoft.com"
  authenticatedUser := user
  portAuthHeader := none

/-- Not every answer is the uncached one: after a user has visited the port,
    somebody who is not logged in is let in as well. -/
theorem grant_shared : ¬ ∀ (env : Env) (backend : Backend) (es : List Event),
    StepsAlong (step env backend) (AnswersUncached env backend) es (.initial env) := by
  intro hall
  have hbad : ¬ StepsAlong (step usersOnly publicPort) (AnswersUncached usersOnly publicPort)
      [.arrive (visit (some ⟨"bob"⟩)), .complete 0 1000, .arrive (visit none)]
      (.initial usersOnly) := by decide +kernel
  exact hbad (hall usersOnly publicPort _)

end PortAuth

end Nxpod
