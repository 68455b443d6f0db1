import Ducknng.Http.Routes

namespace Ducknng

/-!
# Route-local authentication

The HTTP handler for routes, from the lookup to the start of the route's SQL, event relay or
stream, with the identity policy that `ducknng_set_http_route_auth` attaches to a route.

* `listed_of_routeLocalAuth` — whom the policy lets through.
* `admitsOnlyListed_iff` — when an allowlist admits only the identities it lists.
-/

/-! ### The policy -/

/-- The route-local checks: the status and text of a refusal. `room` is the memory of the
    JSON reader. -/
def routeLocalAuth (room : Nat → Bool) (route : HttpRoute) (callerIdentity : Option CStr) :
    Option (Nat × String) :=
  if route.authRequireIdentity = true ∧ CStr.present callerIdentity = none then
    some (401, "ducknng: route requires caller identity")
  else match CStr.present route.authAllowIdentitiesJson, CStr.present callerIdentity with
    | some allow, some identity =>
      match jsonStringArrayContains room allow.bytes identity.bytes with
      | .ok (true, _) => none
      | _ => some (403, "ducknng: caller identity not allowed for this route")
    | _, _ => none

/-! ### The handler -/

/-- What the handler reads of a request. `callerIdentity` is the identity that TLS has
    verified, if it has. -/
structure RouteRequest where
  method : CStr
  path : CStr
  bodyLen : Nat
  callerIdentity : Option CStr

/-- What the calls of the handler answer. -/
structure RouteCalls where
  stopping : Bool
  serviceStopping : Bool
  headersRead : Bool
  lookup : LookupMemory
  admission : Except (Option String) Unit
  beginRequest : Except (Option String) Unit
  authorize : Except (Int × Option String) Unit
  routeCopied : Bool
  identityRoom : Nat → Bool
  resolveEvent : Except (Option String) Bool
  startRelay : Except (Option String) Unit
  streamBegin : Bool
  handleRoute : Except (Option String) Unit
  response : Except (Option String) Unit

/-- What a route sets going. -/
inductive Started
  | handlerSql
  | eventRelay
  | stream

/-- What becomes of the response. -/
inductive RouteResponse
  | text (status : Nat) (body : String)
  | reply
  | hijacked

/-- What the handler has done when it returns. -/
structure HandlerRun where
  started : List Started
  response : RouteResponse

/-- A response without anything started. -/
def refused (status : Nat) (body : String) : HandlerRun := ⟨[], .text status body⟩

/-- The part of `ducknng_http_route_handler` behind the route-local checks. An event route
    runs its SQL to find its subscription. -/
def startRoute (calls : RouteCalls) (route : HttpRoute) : HandlerRun :=
  match route.responseMode with
  | .events =>
    match calls.resolveEvent with
    | .error e => ⟨[.handlerSql], .text 500 (e.getD "ducknng: event route handler failed")⟩
    | .ok false =>
      ⟨[.handlerSql], .text 404 "ducknng: event route has no subscription for this request"⟩
    | .ok true =>
      match calls.startRelay with
      | .error e => ⟨[.handlerSql], .text 503 (e.getD "ducknng: event relay did not start")⟩
      | .ok () => ⟨[.handlerSql, .eventRelay], .hijacked⟩
  | .stream =>
    if calls.streamBegin then ⟨[.stream], .hijacked⟩
    else refused 503 "ducknng: HTTP server is stopping"
  | .oneshot =>
    match calls.handleRoute with
    | .error e => ⟨[.handlerSql], .text 500 (e.getD "ducknng: HTTP route handler failed")⟩
    | .ok () =>
      match calls.response with
      | .error e =>
        ⟨[.handlerSql], .text 500 (e.getD "ducknng: failed to build HTTP route response")⟩
      | .ok () => ⟨[.handlerSql], .reply⟩

/-- The status of a denial of the authorizer. -/
def denialStatus (status : Int) : Nat :=
  if 100 ≤ status ∧ status ≤ 599 then status.toNat else 403

/-- The part of `ducknng_http_route_handler` behind the lookup. -/
def serveRoute (calls : RouteCalls) (route : HttpRoute) (req : RouteRequest) : HandlerRun :=
  if route.requestMaxBytes > 0 ∧ req.bodyLen > route.requestMaxBytes then
    refused 413 "ducknng: HTTP route request body too large"
  else match calls.admission with
    | .error e => refused 403 (e.getD "ducknng: peer is not admitted")
    | .ok () =>
      match calls.beginRequest with
      | .error e => refused 503 (e.getD "ducknng: max inflight requests exceeded")
      | .ok () =>
        match calls.authorize with
        | .error (status, reason) =>
          refused (denialStatus status) (reason.getD "ducknng: request is not authorized")
        | .ok () =>
          if !calls.routeCopied then refused 500 "ducknng: failed to copy HTTP route context"
          else match routeLocalAuth calls.identityRoom route req.callerIdentity with
            | some (status, body) => refused status body
            | none => startRoute calls route

/-- `ducknng_http_route_handler`. -/
def httpRouteHandler (calls : RouteCalls) (svc : HttpService) (req : RouteRequest) : HandlerRun :=
  if calls.stopping || calls.serviceStopping then refused 503 "ducknng: HTTP server is stopping"
  else if svc.rpcMountPath = some req.path then
    refused 405 "ducknng: framed RPC mount accepts POST only"
  else if !calls.headersRead then refused 500 "ducknng: failed to read HTTP request headers"
  else match lookupHttpRoute calls.lookup svc req.method req.path.bytes with
    | .error e => refused 500 e
    | .ok none => refused 404 "ducknng: HTTP route not found"
    | .ok (some (route, _)) => serveRoute calls route req

/-! ### What is let through -/

/-- The request has a verified identity, and it is an element of the route's allowlist. -/
def Listed (route : HttpRoute) (callerIdentity : Option CStr) : Prop :=
  ∃ identity allow values, CStr.present callerIdentity = some identity ∧
    route.authAllowIdentitiesJson = some allow ∧ JsonStringArray allow.bytes values ∧
    identity.bytes ∈ values

/-- Some request is resolved to the route. -/
def Resolvable (route : HttpRoute) : Prop :=
  ∃ svc mem method path params, svc.rpcMountPath ≠ some path ∧
    lookupHttpRoute mem svc method (CStr.bytes path) = .ok (some (route, params))

/-- Whatever else happens to a request with the identity that is resolved to the route,
    nothing is started unless the identity is listed. -/
def AdmitsOnlyListed (route : HttpRoute) (callerIdentity : Option CStr) : Prop :=
  ∀ calls svc req params, req.callerIdentity = callerIdentity →
    lookupHttpRoute calls.lookup svc req.method req.path.bytes = .ok (some (route, params)) →
    (httpRouteHandler calls svc req).started ≠ [] → Listed route callerIdentity

variable {route : HttpRoute}

/-- A request with an identity that passes the policy of an allowlist is listed. -/
theorem listed_of_routeLocalAuth {room : Nat → Bool} {callerIdentity : Option CStr}
    {allow identity : CStr} (hallow : CStr.present route.authAllowIdentitiesJson = some allow)
    (hidentity : CStr.present callerIdentity = some identity)
    (h : routeLocalAuth room route callerIdentity = none) : Listed route callerIdentity := by
  unfold routeLocalAuth at h
  split at h
  · cases h
  simp only [hallow, hidentity] at h
  split at h
  · next count hcontains =>
    obtain ⟨values, harray, -, hfound⟩ := jsonStringArrayContains_sound hcontains
    exact ⟨identity, allow, values, hidentity, CStr.eq_of_present hallow, harray, hfound.1 rfl⟩
  · cases h

/-- What the handler starts is the route of the lookup, and has passed its policy. -/
theorem routeLocalAuth_of_started {calls : RouteCalls} {svc : HttpService} {req : RouteRequest}
    {params : Option (List UInt8)}
    (hlookup : lookupHttpRoute calls.lookup svc req.method req.path.bytes =
      .ok (some (route, params))) (h : (httpRouteHandler calls svc req).started ≠ []) :
    routeLocalAuth calls.identityRoom route req.callerIdentity = none := by
  unfold httpRouteHandler at h
  split at h
  · exact absurd rfl h
  split at h
  · exact absurd rfl h
  split at h
  · exact absurd rfl h
  simp only [hlookup] at h
  unfold serveRoute at h
  split at h
  · exact absurd rfl h
  split at h
  · exact absurd rfl h
  split at h
  · exact absurd rfl h
  split at h
  · exact absurd rfl h
  split at h
  · exact absurd rfl h
  split at h
  · exact absurd rfl h
  · assumption

/-- Every call of the handler succeeds. -/
def RouteCalls.calm (mem : LookupMemory) : RouteCalls where
  stopping := false
  serviceStopping := false
  headersRead := true
  lookup := mem
  admission := .ok ()
  beginRequest := .ok ()
  authorize := .ok ()
  routeCopied := true
  identityRoom := fun _ => true
  resolveEvent := .ok true
  startRelay := .ok ()
  streamBegin := true
  handleRoute := .ok ()
  response := .ok ()

/-- If no call fails, what passes the policy is started. -/
theorem started_of_routeLocalAuth {mem : LookupMemory} {svc : HttpService}
    {params : Option (List UInt8)} {method path : CStr} {callerIdentity : Option CStr}
    (hmount : svc.rpcMountPath ≠ some path)
    (hlookup : lookupHttpRoute mem svc method path.bytes = .ok (some (route, params)))
    (h : routeLocalAuth (fun _ => true) route callerIdentity = none) :
    (httpRouteHandler (.calm mem) svc ⟨method, path, 0, callerIdentity⟩).started ≠ [] := by
  have hstart : (startRoute (.calm mem) route).started ≠ [] := by
    unfold startRoute
    cases route.responseMode <;> exact List.cons_ne_nil _ _
  have hlookup' : lookupHttpRoute (RouteCalls.calm mem).lookup svc method path.bytes =
    .ok (some (route, params)) := hlookup
  have hauth : routeLocalAuth (RouteCalls.calm mem).identityRoom route callerIdentity = none := h
  unfold httpRouteHandler
  rw [if_neg (by simp [RouteCalls.calm]), if_neg hmount, if_neg (by simp [RouteCalls.calm])]
  simp only [hlookup']
  unfold serveRoute
  rw [if_neg (by simp)]
  simp only [hauth]
  exact hstart

/-- **Route allowlists.** For a route with an allowlist that some request can reach: exactly
    if the route requires an identity, or the request has one, is everything the route starts
    for it started for a listed identity. The list is not consulted for a request without an
    identity. -/
theorem admitsOnlyListed_iff {route : HttpRoute} {allow : CStr}
    (hallow : CStr.present route.authAllowIdentitiesJson = some allow) (hreach : Resolvable route)
    (callerIdentity : Option CStr) :
    AdmitsOnlyListed route callerIdentity ↔
      route.authRequireIdentity = true ∨ CStr.present callerIdentity ≠ none := by
  constructor
  · intro h
    by_contra hnot
    obtain ⟨hrequire, hanonymous⟩ := not_or.1 hnot
    have hnone : CStr.present callerIdentity = none := not_not.1 hanonymous
    -- without an identity the allowlist is not consulted
    have hauth : routeLocalAuth (fun _ => true) route callerIdentity = none := by
      unfold routeLocalAuth
      rw [if_neg fun hboth => hrequire hboth.1]
      simp only [hallow, hnone]
    obtain ⟨svc, mem, method, path, params, hmount, hlookup⟩ := hreach
    obtain ⟨identity, _, _, hpresent, -⟩ := h (.calm mem) svc ⟨method, path, 0, callerIdentity⟩
      params rfl hlookup (started_of_routeLocalAuth hmount hlookup hauth)
    rw [hnone] at hpresent
    cases hpresent
  · intro hcond calls svc req params hreq hlookup hstarted
    subst hreq
    have hauth := routeLocalAuth_of_started hlookup hstarted
    cases hidentity : CStr.present req.callerIdentity with
    | some identity => exact listed_of_routeLocalAuth hallow hidentity hauth
    | none =>
      have hrequire : route.authRequireIdentity = true :=
        hcond.resolve_right fun hne => hne hidentity
      unfold routeLocalAuth at hauth
      rw [if_pos ⟨hrequire, hidentity⟩] at hauth
      cases hauth

/-- A route `GET /a` of a service mounted at `/d` with the allowlist `["x"]`, which asks for an
    identity or not. -/
def listedRoute (require : Bool) : HttpRoute :=
  { newRoute 1 .exactMatch getMethod CStr.slashA CStr.empty 0 with
    authRequireIdentity := require
    authAllowIdentitiesJson := some ⟨[0x5b, 0x22, 0x78, 0x22, 0x5d], by decide⟩ }

/-- The registry with that route. -/
def listedService (require : Bool) : HttpService :=
  { mountedAt ⟨[0x2f, 0x64], by decide⟩ with
    nextHttpRouteId := 2
    routes := [listedRoute require] }

theorem listedRoute_resolvable (require : Bool) : Resolvable (listedRoute require) :=
  ⟨listedService require, ⟨true, fun _ _ => true, fun _ => true⟩, getMethod,
    ⟨[0x2f, 0x61], by decide⟩, none, by cases require <;> decide, rfl⟩

/-- With an identity required, only `x` gets to the route. -/
theorem admitsOnlyListed_required :
    AdmitsOnlyListed (listedRoute true) none ∧
      AdmitsOnlyListed (listedRoute true) (some ⟨[0x79], by decide⟩) :=
  ⟨(admitsOnlyListed_iff rfl (listedRoute_resolvable true) _).2 (.inl rfl),
    (admitsOnlyListed_iff rfl (listedRoute_resolvable true) _).2 (.inl rfl)⟩

/-- Without, an anonymous request runs the handler of a route whose list admits only `x`. -/
theorem allowlist_admits_anonymous :
    Runs.run routeStep (mountedAt ⟨[0x2f, 0x64], by decide⟩)
      [registerGet ⟨[0x2f, 0x61], by decide⟩,
        .setAuth true getMethod ⟨[0x2f, 0x61], by decide⟩ false
          (some ⟨[0x5b, 0x22, 0x78, 0x22, 0x5d], by decide⟩)] = some (listedService false) ∧
      listedRoute false ∈ (listedService false).routes ∧
      ¬AdmitsOnlyListed (listedRoute false) none := by
  refine ⟨rfl, List.mem_singleton_self _, ?_⟩
  intro h
  obtain ⟨svc, mem, method, path, params, hmount, hlookup⟩ := listedRoute_resolvable false
  obtain ⟨identity, _, _, hpresent, -⟩ := h (.calm mem) svc ⟨method, path, 0, none⟩ params rfl
    hlookup (started_of_routeLocalAuth hmount hlookup rfl)
  cases hpresent

end Ducknng
