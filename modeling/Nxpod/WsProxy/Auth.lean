import Mathlib.Algebra.Group.Int.Defs
import Nxpod.WsManager.Api
import Nxpod.WsProxy.Request

/-!
# Workspace Authorization

`WorkspaceAuthHandler` lets a request through to a workspace if the workspace
admits everyone, if the request is for a public port, or if it carries the
owner token in a cookie.

What the provider holds about a workspace comes from the workspace manager and
may lack the authorization data. The handler checks for that when it asks
whether the workspace admits everyone, but not when it compares tokens. There
it panics on a workspace without authorization data, and an empty owner token
is matched by an empty cookie. `comparesTokens` says which requests get there,
and these two cases are all that can go wrong.

## Main definitions

* `PortInfo`: A port of the workspace, and where it is reached from outside.
* `WorkspaceInfo`, `mapWorkspaceStatusToInfo`: What the provider holds.
* `atoi`, `queryUnescape`: The functions of Go's library the handler calls.
* `workspaceAuth`: The handler's verdict.
* `workspaceAuthHandler`: The handler as middleware.
* `Admissible`: What a request has to have to be let through.
* `AuthSound`: The handler answers, and lets only admissible requests through.
* `comparesTokens`: The request gets as far as the comparison of tokens.
* `lacksToken`: There is no token to compare with.

## Theorems

* `exposesPublicly_of_portIsPublic`: A port the handler takes for public is
  exposed as public.
* `workspaceAuth_of_comparesTokens`: The verdict after the comparison.
* `authSound_of_comparesTokens_iff`: When the comparison is sound.
* `workspaceAuth_sound_iff`: The handler is sound on a request exactly when
  the request does not get to a comparison without a token.
* `missing_auth_panics`: On some request it is not.
-/

namespace Nxpod

namespace WsProxy

open Cookies Router WsManager

/-- A port of the workspace, and where it is reached from outside. -/
structure PortInfo where
  portSpec : PortSpec
  publicPort : String

/-- What the proxy knows of a workspace. -/
structure WorkspaceInfo where
  id : String
  instanceID : String
  url : String
  idePublicPort : String
  ports : List PortInfo
  auth : Option WorkspaceAuthentication

/-- The information about a workspace as the provider stores it. Exposed ports
    whose URL names no port are left out. `getPortStr` is the port of a URL. -/
def mapWorkspaceStatusToInfo (getPortStr : String → String) (status : WorkspaceStatus) :
    WorkspaceInfo where
  id := status.metaId
  instanceID := status.id
  url := status.url
  idePublicPort := getPortStr status.url
  ports := status.exposedPorts.filterMap fun spec =>
    if getPortStr spec.url = "" then none else some ⟨spec, getPortStr spec.url⟩
  auth := status.auth

/-- `strconv.Atoi`: digits after an optional sign, within 64 bits. -/
def atoi (s : String) : Option Int :=
  let digits (negative : Bool) (ds : List Char) : Option Int :=
    if ds = [] ∨ ¬ ds.all Char.isDigit then none
    else
      let magnitude := ds.foldl (fun n d => n * 10 + (d.toNat - '0'.toNat)) 0
      let value : Int := if negative then -magnitude else magnitude
      if -2 ^ 63 ≤ value ∧ value < 2 ^ 63 then some value else none
  match s.toList with
  | '-' :: ds => digits true ds
  | '+' :: ds => digits false ds
  | ds => digits false ds

/-- `url.QueryUnescape`, or `none` where an escape is malformed. The result is
    a byte string. -/
def queryUnescape : List Char → Option (List UInt8)
  | [] => some []
  | '%' :: a :: b :: rest => match Text.digitValue 16 a, Text.digitValue 16 b with
    | some x, some y => (queryUnescape rest).map (UInt8.ofNat (16 * x + y) :: ·)
    | _, _ => none
  | '%' :: _ => none
  | '+' :: rest => (queryUnescape rest).map (0x20 :: ·)
  | c :: rest => (queryUnescape rest).map (String.utf8EncodeChar c ++ ·)

/-- The bytes of a string. -/
def bytes (s : String) : List UInt8 := s.toList.flatMap String.utf8EncodeChar

/-- Where nothing is known of the authorization nobody is admitted by it. -/
def admitsEveryone (ws : WorkspaceInfo) : Bool :=
  match ws.auth with
  | none => false
  | some auth => auth.admission = .admitEveryone

/-- The first port of the workspace with the requested number is public. -/
def portIsPublic (ws : WorkspaceInfo) (port : String) : Bool :=
  if port = "" then false
  else match atoi port with
    | none => false
    | some prt => match ws.ports.find? (fun p => (p.portSpec.port.toNat : Int) = prt) with
      | none => false
      | some p => p.portSpec.visibility = .portVisibilityPublic

/-- The verdict of `WorkspaceAuthHandler` on a request. -/
def workspaceAuth (domain : String) (info : String → Option WorkspaceInfo) (req : Request) :
    Verdict :=
  if req.workspaceID = "" then .reject 403
  else match info req.workspaceID with
    | none => .reject 404
    | some ws =>
      if admitsEveryone ws then .serve
      else if portIsPublic ws req.workspacePort then .serve
      else match req.cookie (ownerCookieName domain ws.instanceID) with
        | none => .reject 401
        | some c => match queryUnescape c.value.toList with
          | none => .reject 400
          | some tkn => match ws.auth with
            -- the data is dereferenced without a check
            | none => .panic
            | some auth => if tkn ≠ bytes auth.ownerToken then .reject 403 else .serve

/-- The handler as it is put in front of others. -/
def workspaceAuthHandler (domain : String) (info : String → Option WorkspaceInfo) :
    Middleware Request Event :=
  authMiddleware (workspaceAuth domain info)

/-- The workspace exposes the requested port with public visibility, in any of
    the entries for it. -/
def exposesPublicly (ws : WorkspaceInfo) (port : String) : Bool :=
  ws.ports.any fun p => atoi port = some (p.portSpec.port.toNat : Int) &&
    p.portSpec.visibility = .portVisibilityPublic

/-- The request carries the owner cookie of the instance, and its value stands
    for the workspace's owner token, which is not empty. -/
def CarriesOwnerToken (domain : String) (ws : WorkspaceInfo) (req : Request) : Prop :=
  ∃ auth, ws.auth = some auth ∧ auth.ownerToken ≠ "" ∧
    ∃ c ∈ req.cookies, c.name = ownerCookieName domain ws.instanceID ∧
      queryUnescape c.value.toList = some (bytes auth.ownerToken)

/-- The workspace is known, and lets the request in for one of three reasons. -/
def Admissible (domain : String) (info : String → Option WorkspaceInfo) (req : Request) : Prop :=
  ∃ ws, info req.workspaceID = some ws ∧ (admitsEveryone ws = true ∨
    exposesPublicly ws req.workspacePort = true ∨ CarriesOwnerToken domain ws req)

/-- The handler does not panic, and it invokes the handler it wraps only on
    admissible requests. -/
def AuthSound (domain : String) (info : String → Option WorkspaceInfo) (req : Request) : Prop :=
  workspaceAuth domain info req ≠ .panic ∧
    (workspaceAuth domain info req = .serve → Admissible domain info req)

/-- The workspace and the decoded owner cookie of a request that gets as far
    as the comparison of tokens: nothing lets it through before, and its owner
    cookie can be decoded. -/
def comparesTokens (domain : String) (info : String → Option WorkspaceInfo) (req : Request) :
    Option (WorkspaceInfo × List UInt8) :=
  if req.workspaceID = "" then none
  else match info req.workspaceID with
    | none => none
    | some ws =>
      if admitsEveryone ws || portIsPublic ws req.workspacePort then none
      else match req.cookie (ownerCookieName domain ws.instanceID) with
        | none => none
        | some c => (queryUnescape c.value.toList).map (ws, ·)

/-- The workspace has no authorization data, or an empty owner token that an
    empty cookie matches, and no entry makes the port public. -/
def lacksToken (ws : WorkspaceInfo) (port : String) (tkn : List UInt8) : Bool :=
  match ws.auth with
  | none => true
  | some auth => auth.ownerToken = "" && tkn = [] && !exposesPublicly ws port

/-- A port the handler takes for public is exposed as public. -/
theorem exposesPublicly_of_portIsPublic {ws : WorkspaceInfo} {port : String}
    (h : portIsPublic ws port = true) : exposesPublicly ws port = true := by
  unfold portIsPublic at h
  split_ifs at h
  split at h
  · exact absurd h (by simp only [Bool.false_eq_true, not_false_eq_true])
  · rename_i prt hatoi
    split at h
    · exact absurd h (by simp only [Bool.false_eq_true, not_false_eq_true])
    · rename_i p hfind
      have hport := List.find?_some hfind
      rw [decide_eq_true_eq] at h hport
      refine List.any_eq_true.mpr ⟨p, List.mem_of_find?_eq_some hfind, ?_⟩
      simp only [hatoi, hport, h, decide_true, Bool.and_self]

/-- Only the empty string has no bytes. -/
theorem bytes_eq_nil_iff (s : String) : bytes s = [] ↔ s = "" := by
  constructor
  · intro h
    rw [bytes, List.flatMap_eq_nil_iff] at h
    refine String.toList_inj.mp (List.eq_nil_iff_forall_not_mem.mpr (fun c hc => ?_))
    exact absurd (h c hc) (by simp)
  · intro h
    rw [h]
    rfl

/-- What is known of a request that gets to the comparison: its workspace is
    not open to everyone, its owner cookie decodes to the token compared, and
    the verdict is the comparison's. -/
theorem workspaceAuth_of_comparesTokens {domain : String} {info : String → Option WorkspaceInfo}
    {req : Request} {ws : WorkspaceInfo} {tkn : List UInt8}
    (h : comparesTokens domain info req = some (ws, tkn)) :
    info req.workspaceID = some ws ∧ admitsEveryone ws = false ∧
      (∃ c ∈ req.cookies, c.name = ownerCookieName domain ws.instanceID ∧
        queryUnescape c.value.toList = some tkn) ∧
      workspaceAuth domain info req = match ws.auth with
        | none => .panic
        | some auth => if tkn ≠ bytes auth.ownerToken then .reject 403 else .serve := by
  unfold comparesTokens at h
  split_ifs at h with hid
  cases hinfo : info req.workspaceID with
  | none =>
      rw [hinfo] at h
      exact absurd h (by simp only [reduceCtorEq, not_false_eq_true])
  | some ws' =>
      rw [hinfo] at h
      simp only at h
      split_ifs at h with hopen
      rw [Bool.or_eq_true, not_or, Bool.not_eq_true, Bool.not_eq_true] at hopen
      cases hcookie : req.cookie (ownerCookieName domain ws'.instanceID) with
      | none =>
          rw [hcookie] at h
          exact absurd h (by simp only [reduceCtorEq, not_false_eq_true])
      | some c =>
          rw [hcookie] at h
          rcases Option.map_eq_some_iff.mp h with ⟨tkn', htkn, hpair⟩
          rw [Prod.mk.injEq] at hpair
          rcases hpair with ⟨rfl, rfl⟩
          have hname := List.find?_some hcookie
          rw [decide_eq_true_eq] at hname
          -- every earlier branch has been passed, so the comparison is next
          refine ⟨rfl, hopen.1, ⟨c, List.mem_of_find?_eq_some hcookie, hname, htkn⟩, ?_⟩
          simp only [workspaceAuth, if_neg hid, hinfo, hopen.1, hopen.2, Bool.false_eq_true,
            if_false, hcookie, htkn]

/-- Any other request is answered, and served only by a workspace or a port
    that is open to everyone. -/
theorem workspaceAuth_of_not_comparesTokens {domain : String}
    {info : String → Option WorkspaceInfo} {req : Request}
    (h : comparesTokens domain info req = none) :
    workspaceAuth domain info req ≠ .panic ∧ (workspaceAuth domain info req = .serve →
      ∃ ws, info req.workspaceID = some ws ∧
        (admitsEveryone ws = true ∨ portIsPublic ws req.workspacePort = true)) := by
  unfold comparesTokens at h
  unfold workspaceAuth
  split_ifs at h ⊢ with hid
  · exact ⟨nofun, nofun⟩
  cases hinfo : info req.workspaceID with
  | none => exact ⟨nofun, nofun⟩
  | some ws =>
      rw [hinfo] at h
      simp only at h ⊢
      by_cases hall : admitsEveryone ws = true
      · rw [if_pos hall]
        exact ⟨nofun, fun _ => ⟨ws, rfl, Or.inl hall⟩⟩
      by_cases hport : portIsPublic ws req.workspacePort = true
      · rw [if_neg hall, if_pos hport]
        exact ⟨nofun, fun _ => ⟨ws, rfl, Or.inr hport⟩⟩
      rw [if_neg (by simp only [hall, hport, Bool.or_self, Bool.false_eq_true,
        not_false_eq_true])] at h
      rw [if_neg hall, if_neg hport]
      -- Neither the workspace nor the port is open, so a token is needed.
      cases hcookie : req.cookie (ownerCookieName domain ws.instanceID) with
      | none => exact ⟨nofun, nofun⟩
      | some c =>
          rw [hcookie] at h
          simp only [Option.map_eq_none_iff.mp h]
          exact ⟨nofun, nofun⟩

/-- With authorization data, what passes the comparison is admissible exactly
    when the token compared is not empty or the port is exposed as public. -/
theorem admissible_of_match_iff {domain : String} {info : String → Option WorkspaceInfo}
    {req : Request} {ws : WorkspaceInfo} {auth : WorkspaceAuthentication}
    (hcompares : comparesTokens domain info req = some (ws, bytes auth.ownerToken))
    (hauth : ws.auth = some auth) :
    Admissible domain info req ↔
      auth.ownerToken ≠ "" ∨ exposesPublicly ws req.workspacePort = true := by
  rcases workspaceAuth_of_comparesTokens hcompares with
    ⟨hinfo, hclosed, ⟨c, hc, hname, htkn⟩, _⟩
  constructor
  · -- the workspace is the one found, and it is not open to everyone
    rintro ⟨ws', hinfo', hall | hport | ⟨auth', hauth', hne, _⟩⟩
    · rw [hinfo, Option.some.injEq] at hinfo'
      rw [← hinfo', hclosed] at hall
      exact absurd hall (by simp only [Bool.false_eq_true, not_false_eq_true])
    · rw [hinfo, Option.some.injEq] at hinfo'
      exact Or.inr (hinfo' ▸ hport)
    · rw [hinfo, Option.some.injEq] at hinfo'
      rw [← hinfo', hauth, Option.some.injEq] at hauth'
      exact Or.inl (hauth' ▸ hne)
  · rintro (hne | hport)
    · exact ⟨ws, hinfo, Or.inr (Or.inr ⟨auth, hauth, hne, c, hc, hname, htkn⟩)⟩
    · exact ⟨ws, hinfo, Or.inr (Or.inl hport)⟩

/-- Where the comparison is reached, the handler is sound exactly when there is
    a token to compare with. -/
theorem authSound_of_comparesTokens_iff {domain : String} {info : String → Option WorkspaceInfo}
    {req : Request} {ws : WorkspaceInfo} {tkn : List UInt8}
    (hcompares : comparesTokens domain info req = some (ws, tkn)) :
    AuthSound domain info req ↔ lacksToken ws req.workspacePort tkn = false := by
  rcases workspaceAuth_of_comparesTokens hcompares with ⟨_, _, _, hverdict⟩
  rw [AuthSound, hverdict, lacksToken]
  cases hauth : ws.auth with
  | none =>
      -- the handler panics here
      simp only [ne_eq, not_true_eq_false, false_and, Bool.true_eq_false]
  | some auth =>
      by_cases htkn : tkn = bytes auth.ownerToken
      · rw [htkn] at hcompares
        simp only [htkn, ne_eq, not_true_eq_false, if_false, reduceCtorEq, not_false_eq_true,
          true_and, forall_const, admissible_of_match_iff hcompares hauth, bytes_eq_nil_iff,
          Bool.and_eq_false_iff, decide_eq_false_iff_not, Bool.not_eq_false', or_self]
      · -- a wrong token is rejected, and it is not empty where the owner token is
        have hne : auth.ownerToken = "" → tkn ≠ [] := by
          intro hempty hnil
          exact htkn (hnil.trans ((bytes_eq_nil_iff _).mpr hempty).symm)
        simp only [ne_eq, htkn, not_false_eq_true, if_true, reduceCtorEq, false_implies,
          and_self, true_iff, Bool.and_eq_false_iff, decide_eq_false_iff_not]
        by_cases hempty : auth.ownerToken = ""
        · exact Or.inl (Or.inr (hne hempty))
        · exact Or.inl (Or.inl hempty)

/-- The handler is sound on a request exactly when the request does not get to
    the comparison of tokens at a workspace that has no token to compare with
    the cookie. Where it does get there, an empty cookie is as good as an empty
    token, and a workspace without auth data makes the handler panic. -/
theorem workspaceAuth_sound_iff (domain : String) (info : String → Option WorkspaceInfo)
    (req : Request) : AuthSound domain info req ↔
      ∀ ws tkn, comparesTokens domain info req = some (ws, tkn) →
        lacksToken ws req.workspacePort tkn = false := by
  cases hcompares : comparesTokens domain info req with
  | none =>
      rcases workspaceAuth_of_not_comparesTokens hcompares with ⟨hanswers, hopen⟩
      refine ⟨fun _ _ _ h => absurd h (by simp only [reduceCtorEq, not_false_eq_true]), fun _ =>
        ⟨hanswers, fun hserve => ?_⟩⟩
      rcases hopen hserve with ⟨ws, hinfo, hall | hport⟩
      · exact ⟨ws, hinfo, Or.inl hall⟩
      · exact ⟨ws, hinfo, Or.inr (Or.inl (exposesPublicly_of_portIsPublic hport))⟩
  | some found =>
      rcases found with ⟨ws, tkn⟩
      rw [authSound_of_comparesTokens_iff hcompares]
      -- the condition is about this workspace and this token
      refine ⟨fun h ws' tkn' heq => ?_, fun h => h ws tkn rfl⟩
      rw [Option.some.injEq, Prod.mk.injEq] at heq
      rw [← heq.1, ← heq.2]
      exact h

/-- A workspace that was reported without authorization data. -/
def unauthenticatedStatus : WorkspaceStatus where
  id := "inst"
  metaId := "ws"
  url := "https://ws.ws-eu01.nxpod.khulnasoft.com"
  exposedPorts := []
  auth := none

/-- A request of the owner, with a cookie. -/
def ownerCookieRequest : Request where
  method := "GET"
  host := "ws.ws-eu01.nxpod.khulnasoft.com"
  path := "/services"
  workspaceID := "ws"
  header := fun name =>
    if name = "Cookie" then ["_nxpod_khulnasoft_com_ws_inst_owner_=token"] else []

/-- The handler is not sound on every request: with an owner cookie it panics
    at a workspace without authorization data. -/
theorem missing_auth_panics : ¬ ∀ (domain : String) (info : String → Option WorkspaceInfo)
    (req : Request), AuthSound domain info req := by
  intro hall
  have hpanic : workspaceAuth "nxpod.khulnasoft.com"
      (fun _ => some (mapWorkspaceStatusToInfo (fun _ => "") unauthenticatedStatus))
      ownerCookieRequest = .panic := by decide +kernel
  exact (hall _ _ _).1 hpanic

end WsProxy

end Nxpod
