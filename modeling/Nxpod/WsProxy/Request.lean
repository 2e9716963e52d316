import Nxpod.Library.Cookie
import Nxpod.Library.Router

/-!
# Requests to the Workspace Proxy

A request as the proxy's handlers see it, after the workspace router has put
the coordinates of the workspace into its variables, and the events a handler
can be observed by.

The cookies of an installation start with its host name, in which the proxy
replaces spaces, dashes and dots by underscores (`hostPart`). Everything else
in the host name stays as it is.

## Main definitions

* `Request`: A request with its variables.
* `Event`: What a handler does.
* `Verdict`, `authMiddleware`: Middleware that lets a request through or not.
* `hostPart`, `ownerCookieName`: Cookie names.

## Theorems

* `hostPart_eq`: The replacements at once.
* `gates_authMiddleware`: The verdict is a gate.
-/

namespace Nxpod

namespace WsProxy

open Cookies Router

/-- `workspaceID` and `workspacePort` are the variables set by the router,
    which are empty when it sets none. Header names are canonical. -/
structure Request where
  method : String
  host : String
  path : String
  workspaceID : String := ""
  workspacePort : String := ""
  header : String → List String := fun _ => []

/-- The first value of a header, or the empty string. -/
def Request.get (req : Request) (name : String) : String := (req.header name).headD ""

/-- A header is replaced, whatever it was. -/
def Request.set (req : Request) (name : String) (values : List String) : Request :=
  { req with header := fun n => if n = name then values else req.header n }

/-- The cookies as the library reads them off the header. -/
def Request.cookies (req : Request) : List Cookie := readCookies (req.header "Cookie")

/-- The first cookie with the name. -/
def Request.cookie (req : Request) (name : String) : Option Cookie :=
  req.cookies.find? (·.name = name)

/-- The functions that find out where to forward a request to. -/
inductive TargetResolver where
  | staticTheiaResolver
  | workspacePodResolver
  | workspacePodPortResolver
  | workspacePodSupervisorResolver
  deriving DecidableEq

/-- What is looked at of an address. -/
structure Url where
  scheme : String
  host : String
  path : String
  deriving DecidableEq

/-- What a handler does: the authorization admits the request, the handler
    responds or panics, or it forwards the request to what a resolver found. -/
inductive Event where
  | admitted
  | respond (status : Nat)
  | panic
  | forward (resolver : TargetResolver) (url : Url)
  deriving DecidableEq

/-- The outcome of an authorization: serve the request with the handler that
    is wrapped, or respond or panic instead. -/
inductive Verdict where
  | serve
  | reject (status : Nat)
  | panic
  deriving DecidableEq

/-- Middleware that invokes the handler it wraps on the requests admitted. -/
def authMiddleware (verdict : Request → Verdict) : Middleware Request Event := fun h req =>
  match verdict req with
  | .serve => .admitted :: h req
  | .reject status => [.respond status]
  | .panic => [.panic]

/-- The request goes to a pod of the workspace. -/
def Event.reachesPod : Event → Bool
  | .forward resolver _ => resolver ≠ .staticTheiaResolver
  | _ => false

/-- The authorization has let the request through. -/
def Event.isAdmitted : Event → Bool
  | .admitted => true
  | _ => false

/-- Whatever is behind the authorization is only reached with its consent. -/
theorem gates_authMiddleware (verdict : Request → Verdict) :
    Gates Event.isAdmitted Event.reachesPod (authMiddleware verdict) := by
  intro h req
  unfold authMiddleware
  cases verdict req with
  | serve => exact Or.inl ⟨.admitted, h req, rfl, rfl⟩
  | reject status => exact Or.inr (fun e he => by rw [List.mem_singleton.mp he]; rfl)
  | panic => exact Or.inr (fun e he => by rw [List.mem_singleton.mp he]; rfl)

/-- `strings.ReplaceAll`, for one character by another. -/
def replaceAll (old new : Char) (cs : List Char) : List Char :=
  cs.map fun c => if c = old then new else c

/-- The host name as it occurs in cookie names. -/
def hostPart (domain : String) : String :=
  String.ofList ([' ', '-', '.'].foldl (fun cs c => replaceAll c '_' cs) domain.toList)

/-- The character the replacements put in the place of another. -/
def hostChar (c : Char) : Char := if c = ' ' ∨ c = '-' ∨ c = '.' then '_' else c

/-- An underscore is not replaced again, so the replacements can be made at
    once. -/
theorem hostPart_eq (domain : String) :
    (hostPart domain).toList = domain.toList.map hostChar := by
  simp only [hostPart, String.toList_ofList, List.foldl_cons, List.foldl_nil, replaceAll,
    List.map_map]
  refine List.map_congr_left (fun c _ => ?_)
  simp only [Function.comp_apply, hostChar]
  by_cases hspace : c = ' '
  · rw [hspace]; decide
  · by_cases hdash : c = '-'
    · rw [hdash]; decide
    · simp only [hspace, hdash, if_false, false_or]

/-- What the names of the cookies of an installation begin with. -/
def cookiePrefix (domain : String) : String := "_" ++ hostPart domain ++ "_ws_"

/-- The name of the cookie for one instance. -/
def ownerCookieName (domain instanceID : String) : String :=
  cookiePrefix domain ++ instanceID ++ "_owner_"

end WsProxy

end Nxpod
