import Mathlib.Data.List.Basic

/-!
# Request Routers

Routers in the manner of `gorilla/mux`. A router tries its routes in order and
the first one that matches gets the request. A route ends in a handler or in a
router of its own. Middleware installed on a router wraps the handlers its
routes end in, the ones of its subrouters included, with the middleware
installed first outermost. A router without a matching route falls back on its
own handler for that case, if it has one, and no middleware wraps that.

A handler is seen from outside: it maps a request to the trace of what it
does. That suffices to say that something happens only after something else
has, `PrecededBy`, and what a piece of middleware contributes to that.

## Main definitions

* `Handler`, `Middleware`: What a router is made of.
* `Route`: A route, with the router it ends in where it does.
* `Found`: What matching comes to: a handler that middleware is to wrap, or one
  for requests that were not found.
* `Route.find`: The handler a request gets.
* `PrecededBy`: A trace in which no danger comes before a gate.
* `Guarded`: A handler all of whose traces are of that kind.
* `GuardedFor`: A route that gives a request to guarded handlers only.
* `PassesOn`, `Gates`: Middleware that keeps guarded handlers guarded, and
  middleware that guards any handler.

## Theorems

* `guarded_wrap`: Middleware that passes on keeps a handler guarded.
* `guarded_wrap_of_gates`: One gate among it guards any handler.
* `guardedFor_subrouter`, `guardedFor_subrouter_of_gates`: The same for the
  router a route ends in.
* `precededBy_serve`: What a guarded route does with the request.
-/

namespace Nxpod

namespace Router

/-- A handler maps a request to the trace of what it does. -/
abbrev Handler (ρ ε : Type) := ρ → List ε

/-- What is put around a handler. -/
abbrev Middleware (ρ ε : Type) := Handler ρ ε → Handler ρ ε

/-- A route ends in a handler, or in a router with middleware, routes and a
    handler for requests that none of the routes matches. -/
inductive Route (ρ ε : Type) where
  | handle (matches? : ρ → Bool) (handler : Handler ρ ε)
  | subrouter (matches? : ρ → Bool) (middlewares : List (Middleware ρ ε))
      (routes : List (Route ρ ε)) (notFoundHandler : Option (Handler ρ ε))

/-- What matching comes to: a handler that middleware is to wrap, or one for
    requests that were not found. -/
inductive Found (ρ ε : Type) where
  | matched (handler : Handler ρ ε)
  | notFound (handler : Handler ρ ε)

variable {ρ ε : Type}

/-- The middleware installed first is outermost. -/
def wrap (middlewares : List (Middleware ρ ε)) (h : Handler ρ ε) : Handler ρ ε :=
  middlewares.foldr (fun m h => m h) h

/-- The handler that gets the request in the end. -/
def Found.handler : Found ρ ε → Handler ρ ε
  | .matched h => h
  | .notFound h => h

/-- Middleware goes around handlers, except for those for requests that nothing
    matches. -/
def Found.wrap (middlewares : List (Middleware ρ ε)) : Found ρ ε → Found ρ ε
  | .matched h => .matched (Router.wrap middlewares h)
  | .notFound h => .notFound h

mutual

/-- The handler a request gets from a route, if the route takes it. -/
def Route.find (req : ρ) : Route ρ ε → Option (Found ρ ε)
  | .handle matches? h => if matches? req then some (.matched h) else none
  | .subrouter matches? middlewares routes notFoundHandler =>
      if matches? req then
        match findFirst req routes with
        | some found => some (found.wrap middlewares)
        | none => notFoundHandler.map .notFound
      else none

/-- The first route that has something for the request. -/
def findFirst (req : ρ) : List (Route ρ ε) → Option (Found ρ ε)
  | [] => none
  | route :: routes => match route.find req with
    | some found => some found
    | none => findFirst req routes

end

/-- What a route does with a request. -/
def Route.serve (route : Route ρ ε) (req : ρ) : List ε :=
  match route.find req with
  | some found => found.handler req
  | none => []

/-- No danger comes before a gate. -/
def PrecededBy (gate danger : ε → Bool) : List ε → Prop
  | [] => True
  | e :: es => gate e = true ∨ danger e = false ∧ PrecededBy gate danger es

variable {gate danger : ε → Bool}

/-- All traces of the handler have a gate before any danger. -/
def Guarded (gate danger : ε → Bool) (h : Handler ρ ε) : Prop :=
  ∀ req, PrecededBy gate danger (h req)

/-- The middleware hands every request on, perhaps changed, or answers it
    without danger. -/
def PassesOn (danger : ε → Bool) (m : Middleware ρ ε) : Prop :=
  ∀ h req, (∃ req', m h req = h req') ∨ ∀ e ∈ m h req, danger e = false

/-- The middleware lets a request through a gate or answers it without
    danger. -/
def Gates (gate danger : ε → Bool) (m : Middleware ρ ε) : Prop :=
  ∀ h req, (∃ e es, m h req = e :: es ∧ gate e = true) ∨ ∀ e ∈ m h req, danger e = false

/-- Where nothing dangerous happens, nothing has to happen before. -/
theorem precededBy_of_harmless {es : List ε} (h : ∀ e ∈ es, danger e = false) :
    PrecededBy gate danger es := by
  induction es with
  | nil => exact trivial
  | cons e es ih =>
      exact Or.inr ⟨h e List.mem_cons_self, ih (fun x hx => h x (List.mem_cons_of_mem e hx))⟩

theorem guarded_of_gates {m : Middleware ρ ε} (hm : Gates gate danger m) (h : Handler ρ ε) :
    Guarded gate danger (m h) := by
  intro req
  rcases hm h req with ⟨e, es, htrace, hgate⟩ | hharmless
  · rw [htrace]
    exact Or.inl hgate
  · exact precededBy_of_harmless hharmless

/-- Middleware that only passes on leaves a guarded handler guarded. -/
theorem guarded_of_passesOn {m : Middleware ρ ε} (hm : PassesOn danger m) {h : Handler ρ ε}
    (hh : Guarded gate danger h) : Guarded gate danger (m h) := by
  intro req
  rcases hm h req with ⟨req', htrace⟩ | hharmless
  · rw [htrace]
    exact hh req'
  · exact precededBy_of_harmless hharmless

/-- Middleware that passes on or gates keeps a handler guarded. -/
theorem guarded_wrap {middlewares : List (Middleware ρ ε)}
    (hall : ∀ m ∈ middlewares, PassesOn danger m ∨ Gates gate danger m) {h : Handler ρ ε}
    (hh : Guarded gate danger h) : Guarded gate danger (wrap middlewares h) := by
  induction middlewares with
  | nil => exact hh
  | cons m ms ih =>
      have hrest := ih (fun x hx => hall x (List.mem_cons_of_mem m hx))
      rcases hall m List.mem_cons_self with hpass | hgate
      · exact guarded_of_passesOn hpass hrest
      · exact guarded_of_gates hgate _

/-- One gate among the middleware guards any handler. -/
theorem guarded_wrap_of_gates {middlewares : List (Middleware ρ ε)}
    (hall : ∀ m ∈ middlewares, PassesOn danger m ∨ Gates gate danger m)
    (hsome : ∃ m ∈ middlewares, Gates gate danger m) (h : Handler ρ ε) :
    Guarded gate danger (wrap middlewares h) := by
  induction middlewares with
  | nil =>
      rcases hsome with ⟨m, hm, _⟩
      exact absurd hm List.not_mem_nil
  | cons m ms ih =>
      rcases hsome with ⟨g, hg, hgates⟩
      rcases List.mem_cons.mp hg with rfl | hlater
      · exact guarded_of_gates hgates _
      · -- the gate is further in, and `m` does not open it
        have hrest := ih (fun x hx => hall x (List.mem_cons_of_mem m hx)) ⟨g, hlater, hgates⟩
        rcases hall m List.mem_cons_self with hpass | hgate
        · exact guarded_of_passesOn hpass hrest
        · exact guarded_of_gates hgate _

/-- Whatever handler the request gets from the route is guarded. -/
def GuardedFor (gate danger : ε → Bool) (req : ρ) (route : Route ρ ε) : Prop :=
  ∀ found, route.find req = some found → Guarded gate danger found.handler

/-- A route that ends in a guarded handler is guarded. -/
theorem guardedFor_handle {h : Handler ρ ε} (hh : Guarded gate danger h) (req : ρ)
    (matches? : ρ → Bool) : GuardedFor gate danger req (.handle matches? h) := by
  intro found hfind
  simp only [Route.find] at hfind
  split_ifs at hfind
  rw [← Option.some.inj hfind]
  exact hh

/-- A route that does not match is guarded for the request. -/
theorem guardedFor_of_not_matches {req : ρ} {matches? : ρ → Bool}
    {middlewares : List (Middleware ρ ε)} {routes : List (Route ρ ε)}
    {notFoundHandler : Option (Handler ρ ε)} (hno : matches? req = false) :
    GuardedFor gate danger req (.subrouter matches? middlewares routes notFoundHandler) := by
  intro found hfind
  simp only [Route.find, hno, Bool.false_eq_true, if_false, reduceCtorEq] at hfind

/-- A handler found by a list of routes is found by one of them. -/
theorem exists_of_findFirst {req : ρ} {routes : List (Route ρ ε)} {found : Found ρ ε}
    (h : findFirst req routes = some found) : ∃ route ∈ routes, route.find req = some found := by
  induction routes with
  | nil => exact absurd h (by simp only [findFirst, reduceCtorEq, not_false_eq_true])
  | cons route routes ih =>
      simp only [findFirst] at h
      cases hfind : route.find req with
      | some found' =>
          rw [hfind] at h
          exact ⟨route, List.mem_cons_self, hfind.trans h⟩
      | none =>
          rw [hfind] at h
          rcases ih h with ⟨route', hmem, hfound⟩
          exact ⟨route', List.mem_cons_of_mem route hmem, hfound⟩

/-- What a request gets from the router a route ends in. -/
theorem find_subrouter_cases {req : ρ} {matches? : ρ → Bool}
    {middlewares : List (Middleware ρ ε)} {routes : List (Route ρ ε)}
    {notFoundHandler : Option (Handler ρ ε)} {found : Found ρ ε}
    (h : (Route.subrouter matches? middlewares routes notFoundHandler).find req = some found) :
    (∃ route ∈ routes, ∃ inner, route.find req = some inner ∧ found = inner.wrap middlewares) ∨
      ∃ h, notFoundHandler = some h ∧ found = .notFound h := by
  simp only [Route.find] at h
  split_ifs at h
  split at h
  · rename_i inner hinner
    rcases exists_of_findFirst hinner with ⟨route, hmem, hfind⟩
    exact Or.inl ⟨route, hmem, inner, hfind, (Option.some.inj h).symm⟩
  · rcases Option.map_eq_some_iff.mp h with ⟨handler, hhandler, hfound⟩
    exact Or.inr ⟨handler, hhandler, hfound.symm⟩

/-- A router whose routes are guarded and whose middleware keeps it so. -/
theorem guardedFor_subrouter {req : ρ} {matches? : ρ → Bool}
    {middlewares : List (Middleware ρ ε)} {routes : List (Route ρ ε)}
    {notFoundHandler : Option (Handler ρ ε)}
    (hall : ∀ m ∈ middlewares, PassesOn danger m ∨ Gates gate danger m)
    (hroutes : ∀ route ∈ routes, GuardedFor gate danger req route)
    (hnotFound : ∀ h, notFoundHandler = some h → Guarded gate danger h) :
    GuardedFor gate danger req (.subrouter matches? middlewares routes notFoundHandler) := by
  intro found hfind
  rcases find_subrouter_cases hfind with ⟨route, hmem, inner, hinner, rfl⟩ | ⟨h, hh, rfl⟩
  · have hguarded := hroutes route hmem inner hinner
    cases inner with
    | matched h => exact guarded_wrap hall hguarded
    | notFound h => exact hguarded
  · exact hnotFound h hh

/-- A router of plain handlers with a gate among its middleware. -/
theorem guardedFor_subrouter_of_gates {req : ρ} {matches? : ρ → Bool}
    {middlewares : List (Middleware ρ ε)} {routes : List (Route ρ ε)}
    {notFoundHandler : Option (Handler ρ ε)}
    (hall : ∀ m ∈ middlewares, PassesOn danger m ∨ Gates gate danger m)
    (hsome : ∃ m ∈ middlewares, Gates gate danger m)
    (hroutes : ∀ route ∈ routes, ∃ matches? h, route = .handle matches? h)
    (hnotFound : ∀ h, notFoundHandler = some h → Guarded gate danger h) :
    GuardedFor gate danger req (.subrouter matches? middlewares routes notFoundHandler) := by
  intro found hfind
  rcases find_subrouter_cases hfind with ⟨route, hmem, inner, hinner, rfl⟩ | ⟨h, hh, rfl⟩
  · rcases hroutes route hmem with ⟨m, h, rfl⟩
    -- a plain handler is matched, so the middleware wraps it
    simp only [Route.find] at hinner
    split_ifs at hinner
    rw [← Option.some.inj hinner]
    exact guarded_wrap_of_gates hall hsome h
  · exact hnotFound h hh

theorem precededBy_serve {req : ρ} {route : Route ρ ε} (h : GuardedFor gate danger req route) :
    PrecededBy gate danger (route.serve req) := by
  unfold Route.serve
  cases hfind : route.find req with
  | none => exact trivial
  | some found => exact h found hfind req

end Router

end Nxpod
