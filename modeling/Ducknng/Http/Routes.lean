import Ducknng.Http.Template
import Ducknng.Lib.Runs
import Ducknng.Service.Peers

namespace Ducknng

open Option List

/-!
# The route registry of an HTTP service

Registration, removal and lookup of HTTP routes. Every section the source runs under the
service mutex is one step; the checks before it read only what never changes while the
service exists.

* `lookupLoop_bestOf` — the scan keeps the best candidate seen so far.
* `RegistryOk.step` — what every step keeps.
* `routeResolution` — resolution in every reachable registry.
-/

/-! ### Texts -/

/-- A C string cut after `n` bytes. -/
def CStr.truncate (text : CStr) (n : Nat) : CStr :=
  ⟨text.bytes.take n, fun h => text.noNul (mem_of_mem_take h)⟩

/-- An ASCII letter in upper case. -/
def upperAscii (c : UInt8) : UInt8 := if 0x61 ≤ c ∧ c ≤ 0x7a then c - 0x20 else c

theorem upperAscii_ne_zero {c : UInt8} (h : c ≠ 0) : upperAscii c ≠ 0 := by
  unfold upperAscii
  split
  · next hlower =>
    obtain ⟨hlo, hhi⟩ := hlower
    intro hzero
    have hsub : c - 0x20 + 0x20 = 0 + 0x20 := by rw [hzero]
    rw [UInt8.sub_add_cancel] at hsub
    subst hsub
    exact absurd hlo (by decide)
  · exact h

/-- A text in upper case. -/
def CStr.upper (text : CStr) : CStr :=
  ⟨text.bytes.map upperAscii, fun h => by
    obtain ⟨c, hc, hzero⟩ := mem_map.1 h
    exact upperAscii_ne_zero (fun h0 => text.noNul (h0 ▸ hc)) hzero⟩

/-- The bytes of an HTTP token. -/
def isTokenByte (c : UInt8) : Bool :=
  (0x41 ≤ c && c ≤ 0x5a) || (0x61 ≤ c && c ≤ 0x7a) || (0x30 ≤ c && c ≤ 0x39) ||
    [0x21, 0x23, 0x24, 0x25, 0x26, 0x27, 0x2a, 0x2b, 0x2d, 0x2e, 0x5e, 0x5f, 0x60, 0x7c,
      0x7e].contains c

/-- `ducknng_http_token_is_valid`. -/
def httpTokenIsValid (text : CStr) : Bool := text.bytes ≠ [] && text.bytes.all isTokenByte

/-- `ducknng_http_route_method_normalize_dup`; `alloc` is the outcome of the allocation. -/
def methodNormalize (alloc : Bool) (method : CStr) : Except String CStr :=
  if method.bytes = [] then .error "ducknng: HTTP route method is required"
  else if !alloc then .error "ducknng: out of memory normalizing HTTP route method"
  else if httpTokenIsValid method.upper then .ok method.upper
  else .error "ducknng: HTTP route method must be an HTTP token"

/-! ### Routes and patterns -/

/-- `DUCKNNG_HTTP_ROUTE_RESPONSE_*`. -/
inductive ResponseMode
  | oneshot
  | stream
  | events
  deriving DecidableEq

/-- `ducknng_http_route`. -/
structure HttpRoute where
  routeId : Nat
  matchKind : RouteMatchKind
  responseMode : ResponseMode
  method : CStr
  path : CStr
  handlerSql : CStr
  requestMaxBytes : Nat
  staticDirPath : Option CStr
  streamContentType : Option CStr
  eventHeartbeatMs : Nat
  authRequireIdentity : Bool
  authAllowIdentitiesJson : Option CStr
  deriving DecidableEq

/-- `ducknng_http_route_prefix_matches`. -/
def prefixMatches (pattern path : List UInt8) : Bool :=
  if pattern = [] then false
  else if !pattern.isPrefixOf path then false
  else if path.length = pattern.length then true
  else if pattern.getLast? = some slash then true
  else (path.drop pattern.length).head? = some slash

/-- `ducknng_http_route_pattern_matches`. -/
def patternMatches (room : Nat → Bool) (kind : RouteMatchKind) (pattern path : List UInt8) :
    RouteMatch :=
  match kind with
  | .prefixMatch => if prefixMatches pattern path then .matched none else .noMatch
  | .templateMatch => templateMatches room pattern path
  | .exactMatch => if pattern = path then .matched none else .noMatch

/-- Whether a pattern matches a path, memory aside. -/
def PatternMatches (kind : RouteMatchKind) (pattern path : List UInt8) : Prop :=
  ∃ params, patternMatches (fun _ => true) kind pattern path = .matched params

/-! ### The service -/

/-- What the registry reads and writes of `ducknng_service`. `transport` is what parsing
    the listen URL says: its error, or whether the scheme is HTTP; `urlPath` is the path
    that `nng_url_parse` finds in it. -/
structure HttpService where
  transport : Except String Bool
  urlPath : Option CStr
  recvMaxBytes : Nat
  nextHttpRouteId : Nat
  routes : List HttpRoute

variable (svc : HttpService)

/-- The path at which the framed RPC handler is mounted. -/
def HttpService.rpcMountPath : Option CStr :=
  svc.urlPath.filter fun path => path.bytes.head? = some slash

/-- `ducknng_service_http_mount_path`: the mount path in a buffer of 1024 bytes. -/
def HttpService.mountPathBuffer : Option CStr :=
  svc.rpcMountPath.map (·.truncate 1023)

/-- The outcomes of the allocations of a registration. -/
structure RegisterMemory where
  room : Nat → Bool
  normalize : Bool
  copies : Bool
  reserve : Bool

/-- A route a registration makes. -/
def newRoute (id : Nat) (kind : RouteMatchKind) (method path handlerSql : CStr)
    (requestMaxBytes : Nat) : HttpRoute :=
  ⟨id, kind, .oneshot, method, path, handlerSql, requestMaxBytes, none, none, 0, false, none⟩

/-- What tells two routes apart: kind, method and path. -/
def HttpRoute.key (r : HttpRoute) : RouteMatchKind × CStr × CStr := (r.matchKind, r.method, r.path)

/-- The checks of `ducknng_service_register_http_route_inner` before it makes the route. -/
def registerChecks (mem : RegisterMemory) (svc : HttpService) (method : CStr)
    (kind : RouteMatchKind) (path : CStr) (requestMaxBytes : Nat) : Except String CStr := do
  let isHttp ← svc.transport
  if !isHttp then .error "ducknng: HTTP routes require an http:// or https:// service"
  else do
    patternValid kind path.bytes
    let mountMatch := match svc.mountPathBuffer with
      | some mount => patternMatches mem.room kind path.bytes mount.bytes
      | none => .noMatch
    match mountMatch with
    | .outOfMemory => .error "ducknng: out of memory matching HTTP route pattern"
    | .matched _ => .error "ducknng: HTTP route path conflicts with the framed RPC mount"
    | .noMatch =>
      if requestMaxBytes > svc.recvMaxBytes then
        .error "ducknng: HTTP route request_max_bytes cannot exceed the service recv_max_bytes"
      else methodNormalize mem.normalize method

/-- `ducknng_service_register_http_route_inner`. A refused registration may still have used
    up a route id. -/
def registerHttpRouteInner (mem : RegisterMemory) (svc : HttpService) (method : CStr)
    (kind : RouteMatchKind) (path handlerSql : CStr) (requestMaxBytes : Nat) :
    HttpService × Except String Unit :=
  match registerChecks mem svc method kind path requestMaxBytes with
  | .error e => (svc, .error e)
  | .ok normMethod =>
    let route := newRoute svc.nextHttpRouteId kind normMethod path handlerSql requestMaxBytes
    let svc := { svc with nextHttpRouteId := (svc.nextHttpRouteId + 1) % 2 ^ 64 }
    if !mem.copies then (svc, .error "ducknng: out of memory registering HTTP route")
    else if svc.routes.any fun r => r.key = route.key then
      (svc, .error "ducknng: HTTP route already registered")
    else if !mem.reserve then
      (svc, .error "ducknng: out of memory growing HTTP route registry")
    else ({ svc with routes := svc.routes ++ [route] }, .ok ())

/-- `ducknng_service_unregister_http_route_inner`: the first route with the key is moved out;
    whether there was one. -/
def unregisterHttpRouteInner (alloc : Bool) (svc : HttpService) (method : CStr)
    (kind : RouteMatchKind) (path : CStr) : HttpService × Except String Bool :=
  match methodNormalize alloc method with
  | .error e => (svc, .error e)
  | .ok normMethod =>
    let hasKey := fun r : HttpRoute => decide (r.key = (kind, normMethod, path))
    if svc.routes.any hasKey then ({ svc with routes := svc.routes.eraseP hasKey }, .ok true)
    else (svc, .ok false)

/-- The first route with a property, changed. -/
def updateFirst (p : HttpRoute → Bool) (f : HttpRoute → HttpRoute) : List HttpRoute → List HttpRoute
  | [] => []
  | r :: routes => if p r then f r :: routes else r :: updateFirst p f routes

/-- The registry with its first route that has a property changed. -/
def HttpService.updateRoute (p : HttpRoute → Bool)
    (f : HttpRoute → HttpRoute) : HttpService :=
  { svc with routes := updateFirst p f svc.routes }

/-- `ducknng_service_set_http_route_auth`: the first route with the method and path as given,
    of whatever kind. When the copy of the identities fails the route is left without them. -/
def setHttpRouteAuth (alloc : Bool) (svc : HttpService) (method path : CStr) (require : Bool)
    (allowJson : Option CStr) : HttpService × Except String Unit :=
  let hasTexts := fun r : HttpRoute => r.method = method ∧ r.path = path
  let json := CStr.present allowJson
  let stored := if alloc then json else none
  if svc.routes.any fun r => hasTexts r then
    (svc.updateRoute (fun r => hasTexts r)
      fun r => { r with authRequireIdentity := require, authAllowIdentitiesJson := stored },
      if stored = json then .ok () else .error "ducknng: out of memory for identities JSON")
  else (svc, .error "ducknng: HTTP route not found")

/-- `"GET"`. -/
def getMethod : CStr := ⟨[0x47, 0x45, 0x54], by decide⟩

/-- One locked section of the registry. An event route is a `register` and a `markEvents`, a
    stream route a `register` and a `markStream` (or an `unregister` when the content type
    cannot be copied), a static route a `register`, a `setAuth` and a `setStaticDir`; sections
    of other calls may come between them. -/
inductive RouteOp
  | register (mem : RegisterMemory) (method : CStr) (kind : RouteMatchKind)
      (path handlerSql : CStr) (requestMaxBytes : Nat)
  | markEvents (path : CStr) (heartbeatMs : Nat)
  | markStream (method path contentType : CStr)
  | unregister (alloc : Bool) (method : CStr) (kind : RouteMatchKind) (path : CStr)
  | setAuth (alloc : Bool) (method path : CStr) (require : Bool) (allowJson : Option CStr)
  | setStaticDir (path dir : CStr)

/-- The registry after a section. -/
def routeStep : RouteOp → Option HttpService
  | .register mem method kind path handlerSql requestMaxBytes =>
    some (registerHttpRouteInner mem svc method kind path handlerSql requestMaxBytes).1
  | .markEvents path heartbeatMs =>
    some (svc.updateRoute
      (fun r => r.method = getMethod ∧ r.path = path ∧ r.matchKind = .exactMatch)
      fun r => { r with responseMode := .events, eventHeartbeatMs := heartbeatMs })
  | .markStream method path contentType =>
    some (svc.updateRoute
      (fun r => r.method = method ∧ r.path = path ∧ r.matchKind = .exactMatch)
      fun r => { r with responseMode := .stream, streamContentType := some contentType })
  | .unregister alloc method kind path =>
      some (unregisterHttpRouteInner alloc svc method kind path).1
  | .setAuth alloc method path require allowJson =>
    some (setHttpRouteAuth alloc svc method path require allowJson).1
  | .setStaticDir path dir =>
    some (svc.updateRoute
      (fun r => r.matchKind = .prefixMatch ∧ r.method = getMethod ∧ r.path = path)
      fun r => { r with staticDirPath := some dir })

/-! ### Lookup -/

/-- The rank of a kind in the score. -/
def kindRank : RouteMatchKind → Nat
  | .exactMatch => 3
  | .templateMatch => 2
  | .prefixMatch => 1

/-- The 64-bit score of a route that matches. -/
def routeScore (r : HttpRoute) : Nat :=
  (kindRank r.matchKind * 2 ^ 32 + r.path.bytes.length) % 2 ^ 64

/-- The outcomes of the allocations of a lookup. -/
structure LookupMemory where
  normalize : Bool
  room : HttpRoute → Nat → Bool
  copied : HttpRoute → Bool

/-- The loop of `ducknng_service_lookup_http_route` over the routes that are left: the route
    chosen so far with its parameters, and its score. -/
def lookupLoop (mem : LookupMemory) (method : CStr) (path : List UInt8) :
    List HttpRoute → Option (HttpRoute × Option (List UInt8)) → Nat →
    Except String (Option (HttpRoute × Option (List UInt8)))
  | [], best, _ => .ok best
  | r :: routes, best, bestScore =>
    if r.method ≠ method then lookupLoop mem method path routes best bestScore
    else match patternMatches (mem.room r) r.matchKind r.path.bytes path with
      | .outOfMemory => .error "ducknng: out of memory matching HTTP route"
      | .noMatch => lookupLoop mem method path routes best bestScore
      | .matched params =>
        if routeScore r ≥ bestScore then
          if mem.copied r then lookupLoop mem method path routes (some (r, params)) (routeScore r)
          else .error "ducknng: out of memory copying HTTP route"
        else lookupLoop mem method path routes best bestScore

/-- `ducknng_service_lookup_http_route`. -/
def lookupHttpRoute (mem : LookupMemory) (svc : HttpService) (method : CStr)
    (path : List UInt8) : Except String (Option (HttpRoute × Option (List UInt8))) := do
  let normMethod ← methodNormalize mem.normalize method
  lookupLoop mem normMethod path svc.routes none 0

/-- Every allocation of a lookup succeeds. -/
structure LookupMemory.Ample (mem : LookupMemory) : Prop where
  normalize : mem.normalize = true
  room : ∀ r n, mem.room r n = true
  copied : ∀ r, mem.copied r = true

/-! ### What a lookup is for -/

/-- The route is for the method, in any letter case, and its pattern matches the path. -/
def HttpRoute.Serves (r : HttpRoute) (method : CStr) (path : List UInt8) : Prop :=
  r.method = method.upper ∧ PatternMatches r.matchKind r.path.bytes path

/-- An exact route is preferred to a template and a template to a prefix; of two routes of
    one kind the one with the longer pattern. -/
def HttpRoute.PreferredTo (r other : HttpRoute) : Prop :=
  kindRank other.matchKind < kindRank r.matchKind ∨
    r.matchKind = other.matchKind ∧ other.path.bytes.length ≤ r.path.bytes.length

/-- A lookup that finds a preferred route for the request if there is one, and no route
    otherwise. -/
structure Resolves (mem : LookupMemory) (svc : HttpService) (method : CStr) (path : List UInt8) :
    Prop where
  found : (∃ r ∈ svc.routes, r.Serves method path) → ∃ r ∈ svc.routes, r.Serves method path ∧
    (∀ other ∈ svc.routes, other.Serves method path → r.PreferredTo other) ∧
    ∃ params, lookupHttpRoute mem svc method path = .ok (some (r, params))
  notFound : (¬∃ r ∈ svc.routes, r.Serves method path) →
    ∀ found, lookupHttpRoute mem svc method path ≠ .ok (some found)

/-! ### Matching and memory -/

/-- With room for the parameter text, a pattern matches or it does not. -/
theorem patternMatches_cases {room : Nat → Bool} (hroom : ∀ n, room n = true)
    (kind : RouteMatchKind) (pattern path : List UInt8) :
    (¬PatternMatches kind pattern path ∧ patternMatches room kind pattern path = .noMatch) ∨
      ∃ params, PatternMatches kind pattern path ∧
        patternMatches room kind pattern path = .matched params := by
  have hsame : patternMatches room kind pattern path =
      patternMatches (fun _ => true) kind pattern path := by
    obtain rfl : room = fun _ => true := funext hroom
    rfl
  rw [hsame]
  cases hanswer : patternMatches (fun _ => true) kind pattern path with
  | noMatch => exact .inl ⟨fun ⟨params, h⟩ => (by rw [hanswer] at h; cases h), rfl⟩
  | matched params => exact .inr ⟨params, ⟨params, hanswer⟩, rfl⟩
  | outOfMemory =>
    cases kind with
    | templateMatch =>
      have hwalk := templateMatches_eq_walkSegments (fun _ => rfl) pattern path
      exact absurd (hwalk.symm.trans hanswer) (by unfold walkAnswer; split <;> simp)
    | exactMatch =>
      simp only [patternMatches] at hanswer
      split at hanswer <;> cases hanswer
    | prefixMatch =>
      simp only [patternMatches] at hanswer
      split at hanswer <;> cases hanswer

variable {kind : RouteMatchKind} {method path : CStr} {svc : HttpService}

/-- However little memory there is, what is found not to match does not match. -/
theorem not_patternMatches_of_noMatch {room : Nat → Bool} {pattern path : List UInt8}
    (h : patternMatches room kind pattern path = .noMatch) :
    ¬PatternMatches kind pattern path := by
  rintro ⟨params, hmatch⟩
  cases kind with
  | templateMatch =>
    have hwalk := templateMatches_eq_walkSegments (fun _ => rfl) pattern path
    rw [walkSegments_of_noMatch h] at hwalk
    exact absurd (hwalk.symm.trans hmatch) (by simp [walkAnswer])
  | exactMatch =>
    simp only [patternMatches] at h hmatch
    rw [h] at hmatch
    cases hmatch
  | prefixMatch =>
    simp only [patternMatches] at h hmatch
    rw [h] at hmatch
    cases hmatch

/-! ### The scan keeps the best candidate -/

/-- A route for a (normalized) method and a path. -/
def HttpRoute.Candidate (r : HttpRoute) (method : CStr) (path : List UInt8) : Prop :=
  r.method = method ∧ PatternMatches r.matchKind r.path.bytes path

/-- The state of the scan after some routes: a candidate of the highest score, if there is
    any candidate. -/
structure BestOf (method : CStr) (path : List UInt8) (seen : List HttpRoute)
    (best : Option (HttpRoute × Option (List UInt8))) (score : Nat) : Prop where
  chosen : ∀ b, best = some b → b.1 ∈ seen ∧ b.1.Candidate method path ∧ score = routeScore b.1
  unset : best = none → score = 0
  top : ∀ r ∈ seen, r.Candidate method path → best ≠ none ∧ routeScore r ≤ score

namespace BestOf

variable {method : CStr} {path : List UInt8} {seen : List HttpRoute}
  {best : Option (HttpRoute × Option (List UInt8))} {score : Nat} {r : HttpRoute}

/-- A route that is no candidate, or one that is beaten, changes nothing. -/
theorem skip (h : BestOf method path seen best score)
    (hr : r.Candidate method path → best ≠ none ∧ routeScore r ≤ score) :
    BestOf method path (seen ++ [r]) best score where
  chosen b hb := by
    obtain ⟨hmem, hrest⟩ := h.chosen b hb
    exact ⟨mem_append_left _ hmem, hrest⟩
  unset := h.unset
  top := forall_mem_append.2 ⟨h.top, forall_mem_singleton.2 hr⟩

/-- A candidate that is not beaten is chosen. -/
theorem take (h : BestOf method path seen best score) (hr : r.Candidate method path)
    (hscore : score ≤ routeScore r) (params : Option (List UInt8)) :
    BestOf method path (seen ++ [r]) (some (r, params)) (routeScore r) where
  chosen b hb := by
    obtain rfl := some.inj hb
    exact ⟨mem_append_right _ (mem_singleton_self r), hr, rfl⟩
  unset h := by cases h
  top := by
    intro other hother hcand
    refine ⟨some_ne_none _, ?_⟩
    rcases mem_append.1 hother with hseen | hlast
    · exact Nat.le_trans (h.top other hseen hcand).2 hscore
    · obtain rfl := mem_singleton.1 hlast
      exact Nat.le_refl _

end BestOf

/-- The scan ends with the best candidate of all routes. -/
theorem lookupLoop_bestOf {mem : LookupMemory} (hmem : mem.Ample) {path : List UInt8}
    (routes : List HttpRoute) {seen : List HttpRoute}
    {best : Option (HttpRoute × Option (List UInt8))} {score : Nat}
    (h : BestOf method path seen best score) :
    ∃ best' score', lookupLoop mem method path routes best score = .ok best' ∧
      BestOf method path (seen ++ routes) best' score' := by
  induction routes generalizing seen best score with
  | nil => exact ⟨best, score, rfl, by rwa [append_nil]⟩
  | cons r routes ih =>
    have hcons : seen ++ r :: routes = (seen ++ [r]) ++ routes := by simp
    rw [hcons, lookupLoop]
    by_cases hmethod : r.method = method
    · rw [if_neg (not_not.2 hmethod)]
      rcases patternMatches_cases (hmem.room r) r.matchKind r.path.bytes path with
        ⟨hno, hanswer⟩ | ⟨params, hyes, hanswer⟩
      · simp only [hanswer]
        exact ih (h.skip fun hcand => absurd hcand.2 hno)
      · simp only [hanswer, hmem.copied]
        split
        · next hscore => exact ih (h.take ⟨hmethod, hyes⟩ hscore params)
        · next hscore =>
          refine ih (h.skip fun _ => ⟨?_, Nat.le_of_lt (Nat.lt_of_not_le hscore)⟩)
          -- nothing beats a score of 0
          intro hnone
          exact hscore (h.unset hnone ▸ Nat.zero_le _)
    · rw [if_pos hmethod]
      exact ih (h.skip fun hcand => absurd hcand.1 hmethod)

/-! ### What every step keeps -/

/-- What a key was checked for when it was registered. -/
structure KeyOk (mount : Option CStr) (key : RouteMatchKind × CStr × CStr) : Prop where
  token : httpTokenIsValid key.2.1 = true
  short : key.2.2.bytes.length < 2 ^ 32
  offMount : ∀ m, mount = some m → ¬PatternMatches key.1 key.2.2.bytes m.bytes

/-- The keys of a registry are distinct, and each has passed the checks. -/
structure RegistryOk (svc : HttpService) : Prop where
  nodup : (svc.routes.map HttpRoute.key).Nodup
  keyOk : ∀ key ∈ svc.routes.map HttpRoute.key, KeyOk svc.mountPathBuffer key

/-- A registered path is shorter than 4 GiB. -/
def RouteOp.ShortPath : RouteOp → Prop
  | .register _ _ _ path _ _ => path.bytes.length < 2 ^ 32
  | _ => True

theorem updateFirst_key {p : HttpRoute → Bool} {f : HttpRoute → HttpRoute}
    (hf : ∀ r, (f r).key = r.key) (routes : List HttpRoute) :
    (updateFirst p f routes).map HttpRoute.key = routes.map HttpRoute.key := by
  induction routes with
  | nil => rfl
  | cons r routes ih =>
    unfold updateFirst
    split
    · rw [map_cons, hf, map_cons]
    · rw [map_cons, ih, map_cons]

/-- A change that keeps the keys keeps the registry in order. -/
theorem RegistryOk.updateRoute (h : RegistryOk svc) {p : HttpRoute → Bool}
    {f : HttpRoute → HttpRoute} (hf : ∀ r, (f r).key = r.key) :
    RegistryOk (svc.updateRoute p f) where
  nodup := by
    show ((updateFirst p f svc.routes).map HttpRoute.key).Nodup
    rw [updateFirst_key hf]
    exact h.nodup
  keyOk := by
    show ∀ key ∈ (updateFirst p f svc.routes).map HttpRoute.key, KeyOk svc.mountPathBuffer key
    rw [updateFirst_key hf]
    exact h.keyOk

theorem methodNormalize_eq_ok {alloc : Bool} {norm : CStr}
    (h : methodNormalize alloc method = .ok norm) :
    norm = method.upper ∧ httpTokenIsValid norm = true := by
  unfold methodNormalize at h
  split at h
  · cases h
  split at h
  · cases h
  split at h
  · next hvalid =>
    obtain rfl := Except.ok.inj h
    exact ⟨rfl, hvalid⟩
  · cases h

/-- A token is not empty, so neither is the method it was made from. -/
theorem methodNormalize_of_token (h : httpTokenIsValid method.upper = true) :
    methodNormalize true method = .ok method.upper := by
  have hne : method.bytes ≠ [] := by
    intro hnil
    simp [httpTokenIsValid, CStr.upper, hnil] at h
  unfold methodNormalize
  rw [if_neg hne, if_neg (by decide), if_pos h]

theorem registerChecks_eq_ok {mem : RegisterMemory} {norm : CStr} {requestMaxBytes : Nat}
    (h : registerChecks mem svc method kind path requestMaxBytes = .ok norm) :
    norm = method.upper ∧ httpTokenIsValid norm = true ∧
      ∀ m, svc.mountPathBuffer = some m → ¬PatternMatches kind path.bytes m.bytes := by
  unfold registerChecks at h
  cases htransport : svc.transport with
  | error e => simp [htransport, bind, Except.bind] at h
  | ok isHttp =>
    simp only [htransport, bind, Except.bind] at h
    split at h
    · cases h
    split at h
    · cases h
    split at h
    · cases h
    · cases h
    next hanswer =>
    split at h
    · cases h
    obtain ⟨hupper, htoken⟩ := methodNormalize_eq_ok h
    refine ⟨hupper, htoken, ?_⟩
    intro m hm
    simp only [hm] at hanswer
    exact not_patternMatches_of_noMatch hanswer

/-- A registration that succeeds adds a route whose key is new and has passed the checks; one
    that fails changes no route. -/
theorem registerHttpRouteInner_routes {mem : RegisterMemory} {svc' : HttpService}
    {handlerSql : CStr} {requestMaxBytes : Nat} {result : Except String Unit}
    (h : registerHttpRouteInner mem svc method kind path handlerSql requestMaxBytes =
      (svc', result)) :
    svc'.mountPathBuffer = svc.mountPathBuffer ∧ svc'.rpcMountPath = svc.rpcMountPath ∧
      (result ≠ .ok () ∧ svc'.routes = svc.routes ∨
        svc'.routes = svc.routes ++ [newRoute svc.nextHttpRouteId kind method.upper path handlerSql
          requestMaxBytes] ∧
        (kind, method.upper, path) ∉ svc.routes.map HttpRoute.key ∧
        httpTokenIsValid method.upper = true ∧
        ∀ m, svc.mountPathBuffer = some m → ¬PatternMatches kind path.bytes m.bytes) := by
  unfold registerHttpRouteInner at h
  split at h
  · cases h
    exact ⟨rfl, rfl, .inl ⟨(by simp), rfl⟩⟩
  next norm hchecks =>
  obtain ⟨rfl, htoken, hmount⟩ := registerChecks_eq_ok hchecks
  dsimp only at h
  split at h
  · cases h
    exact ⟨rfl, rfl, .inl ⟨(by simp), rfl⟩⟩
  split at h
  · cases h
    exact ⟨rfl, rfl, .inl ⟨(by simp), rfl⟩⟩
  next hnew =>
  split at h
  · cases h
    exact ⟨rfl, rfl, .inl ⟨(by simp), rfl⟩⟩
  cases h
  refine ⟨rfl, rfl, .inr ⟨rfl, ?_, htoken, hmount⟩⟩
  intro hkey
  obtain ⟨r, hr, hsame⟩ := mem_map.1 hkey
  exact hnew (any_eq_true.2 ⟨r, hr, decide_eq_true hsame⟩)

theorem unregisterHttpRouteInner_routes {alloc : Bool} {svc' : HttpService}
    (h : (unregisterHttpRouteInner alloc svc method kind path).1 = svc') :
    svc'.mountPathBuffer = svc.mountPathBuffer ∧ svc'.rpcMountPath = svc.rpcMountPath ∧
      Sublist svc'.routes svc.routes := by
  unfold unregisterHttpRouteInner at h
  split at h
  · subst h
    exact ⟨rfl, rfl, Sublist.refl _⟩
  dsimp only at h
  split at h
  · subst h
    exact ⟨rfl, rfl, eraseP_sublist⟩
  · subst h
    exact ⟨rfl, rfl, Sublist.refl _⟩

/-- Every step keeps the registry in order and the mount where it is. -/
theorem RegistryOk.step {svc' : HttpService} {op : RouteOp} (h : RegistryOk svc)
    (hop : op.ShortPath) (hstep : routeStep svc op = some svc') :
    RegistryOk svc' ∧ svc'.rpcMountPath = svc.rpcMountPath := by
  cases op with
  | register mem method kind path handlerSql requestMaxBytes =>
    obtain rfl := some.inj hstep
    -- a registration is refused or adds a key that was not there
    obtain ⟨hbuffer, hpath, ⟨-, hsame⟩ | ⟨hroutes, hnew, htoken, hmount⟩⟩ :=
      registerHttpRouteInner_routes (Prod.eta
        (registerHttpRouteInner mem svc method kind path handlerSql requestMaxBytes)).symm
    · refine ⟨⟨?_, ?_⟩, hpath⟩
      · rw [hsame]
        exact h.nodup
      · rw [hsame, hbuffer]
        exact h.keyOk
    · refine ⟨⟨?_, ?_⟩, hpath⟩
      · rw [hroutes, map_append, nodup_append]
        refine ⟨h.nodup, nodup_cons.2 ⟨not_mem_nil, nodup_nil⟩, ?_⟩
        intro key hkey last hlast hsame
        obtain rfl := mem_singleton.1 hlast
        subst hsame
        exact hnew hkey
      · rw [hroutes, hbuffer, map_append]
        exact forall_mem_append.2 ⟨h.keyOk, forall_mem_singleton.2 ⟨htoken, hop, hmount⟩⟩
  | unregister alloc method kind path =>
    obtain ⟨hbuffer, hpath, hsub⟩ := unregisterHttpRouteInner_routes (some.inj hstep)
    have hkeys := hsub.map HttpRoute.key
    refine ⟨⟨h.nodup.sublist hkeys, ?_⟩, hpath⟩
    intro key hkey
    rw [hbuffer]
    exact h.keyOk key (hkeys.subset hkey)
  -- the other steps change a route but not its key
  | markEvents path heartbeatMs =>
    obtain rfl := some.inj hstep
    exact ⟨h.updateRoute fun _ => rfl, rfl⟩
  | markStream method path contentType =>
    obtain rfl := some.inj hstep
    exact ⟨h.updateRoute fun _ => rfl, rfl⟩
  | setStaticDir path dir =>
    obtain rfl := some.inj hstep
    exact ⟨h.updateRoute fun _ => rfl, rfl⟩
  | setAuth alloc method path require allowJson =>
    obtain rfl := some.inj hstep
    unfold setHttpRouteAuth
    dsimp only
    split
    · exact ⟨h.updateRoute fun _ => rfl, rfl⟩
    · exact ⟨h, rfl⟩

/-! ### Resolution -/

/-- For paths shorter than 4 GiB the score orders by kind first and by length then. -/
theorem preferredTo_of_score {r other : HttpRoute} (hr : r.path.bytes.length < 2 ^ 32)
    (ho : other.path.bytes.length < 2 ^ 32) (h : routeScore other ≤ routeScore r) :
    r.PreferredTo other := by
  have hrank : ∀ kind, kindRank kind ≤ 3 := by
    intro kind
    cases kind <;> decide
  have hinj : kindRank r.matchKind = kindRank other.matchKind → r.matchKind = other.matchKind := by
    cases r.matchKind <;> cases other.matchKind <;> simp [kindRank]
  have hr3 := hrank r.matchKind
  have ho3 := hrank other.matchKind
  unfold routeScore at h
  rcases Nat.lt_trichotomy (kindRank other.matchKind) (kindRank r.matchKind) with hlt | heq | hgt
  · exact .inl hlt
  · refine .inr ⟨hinj heq.symm, ?_⟩
    omega
  · omega

/-- In a registry in order every request is resolved. -/
theorem RegistryOk.resolves (h : RegistryOk svc) {mem : LookupMemory} (hmem : mem.Ample)
    (method : CStr) (path : List UInt8) : Resolves mem svc method path := by
  have hkey : ∀ r ∈ svc.routes, KeyOk svc.mountPathBuffer r.key := fun r hr =>
    h.keyOk r.key (mem_map_of_mem hr)
  have hstart : BestOf method.upper path [] none 0 :=
    ⟨fun b hb => (some_ne_none b hb.symm).elim, fun _ => rfl, forall_mem_nil _⟩
  obtain ⟨best, score, hloop, hbest⟩ := lookupLoop_bestOf hmem svc.routes hstart
  constructor
  · rintro ⟨r, hr, hserves⟩
    have htoken : httpTokenIsValid method.upper = true := hserves.1 ▸ (hkey r hr).token
    have hlookup : lookupHttpRoute mem svc method path = .ok best := by
      unfold lookupHttpRoute
      rw [hmem.normalize, methodNormalize_of_token htoken]
      exact hloop
    cases best with
    | none => exact absurd rfl (hbest.top r hr hserves).1
    | some b =>
      obtain ⟨hb, hcand, hscore⟩ := hbest.chosen b rfl
      refine ⟨b.1, hb, hcand, ?_, b.2, hlookup⟩
      intro other ho hother
      have hle := (hbest.top other ho hother).2
      rw [hscore] at hle
      exact preferredTo_of_score (hkey b.1 hb).short (hkey other ho).short hle
  · rintro hno ⟨r, params⟩ hlookup
    unfold lookupHttpRoute at hlookup
    cases hnorm : methodNormalize mem.normalize method with
    | error e => simp [hnorm, bind, Except.bind] at hlookup
    | ok norm =>
      obtain ⟨rfl, -⟩ := methodNormalize_eq_ok hnorm
      simp only [hnorm, bind, Except.bind, hloop, Except.ok.injEq] at hlookup
      obtain ⟨hr, hcand, -⟩ := hbest.chosen _ hlookup
      exact hno ⟨r, hr, hcand⟩

/-- **Route resolution.** Take a service whose RPC mount path fits the buffer in which
    registration compares it, and any run of registry operations from an empty registry that
    registers paths shorter than 4 GiB. Every request is then resolved, no two routes have
    one kind, method and path, and no pattern matches the mount. -/
theorem routeResolution {svc₀ svc : HttpService} {ops : List RouteOp} (hempty : svc₀.routes = [])
    (hmount : ∀ m, svc₀.rpcMountPath = some m → m.bytes.length ≤ 1023)
    (hshort : Runs.Along routeStep (fun _ op => op.ShortPath) svc₀ ops)
    (hrun : Runs.run routeStep svc₀ ops = some svc) :
    (∀ mem : LookupMemory, mem.Ample → ∀ method path, Resolves mem svc method path) ∧
      (svc.routes.map HttpRoute.key).Nodup ∧
      ∀ r ∈ svc.routes, ∀ m, svc.rpcMountPath = some m →
        ¬PatternMatches r.matchKind r.path.bytes m.bytes := by
  have hstart : RegistryOk svc₀ := by
    constructor
    · rw [hempty]
      exact nodup_nil
    · intro key hkey
      rw [hempty] at hkey
      exact absurd hkey not_mem_nil
  obtain ⟨hok, hpath⟩ := Runs.run_induction
    (fun _ svc => RegistryOk svc ∧ svc.rpcMountPath = svc₀.rpcMountPath)
    (fun _ _ _ _ hinv hop hstep =>
      ⟨(hinv.1.step hop hstep).1, (hinv.1.step hop hstep).2.trans hinv.2⟩)
    ⟨hstart, rfl⟩ hshort hrun
  refine ⟨fun mem hmem method path => hok.resolves hmem method path, hok.nodup, ?_⟩
  intro r hr m hm
  -- the buffer holds the whole mount path
  have hbuffer : svc.mountPathBuffer = some m := by
    have hlen := hmount m (hpath ▸ hm)
    unfold HttpService.mountPathBuffer
    rw [hm, map_some]
    congr 1
    exact CStr.ext (take_of_length_le hlen)
  exact (hok.keyOk r.key (mem_map_of_mem hr)).offMount m hbuffer

/-- A registry without routes on a service mounted at `mount`. -/
def mountedAt (mount : CStr) : HttpService := ⟨.ok true, some mount, 1024, 1, []⟩

/-- `GET` on an exact path, with all the memory it needs. -/
def registerGet (path : CStr) : RouteOp :=
  .register ⟨fun _ => true, true, true, true⟩ getMethod .exactMatch path CStr.empty 0

/-- Registers `/a` for `GET`, exactly and as a prefix. -/
def registerBoth : List RouteOp :=
  [registerGet CStr.slashA,
    .register ⟨fun _ => true, true, true, true⟩ getMethod .prefixMatch CStr.slashA CStr.empty 0]

/-- A service mounted at `/d` with two routes for the path `/a`: the exact one is preferred. -/
theorem routeResolution_twoKinds :
    ∃ svc, Runs.run routeStep (mountedAt ⟨[0x2f, 0x64], by decide⟩) registerBoth = some svc ∧
      svc.routes.map HttpRoute.matchKind = [.exactMatch, .prefixMatch] ∧
      (lookupHttpRoute ⟨true, fun _ _ => true, fun _ => true⟩ svc getMethod CStr.slashA.bytes).map
        (Option.map fun x => x.1.matchKind) = .ok (some .exactMatch) ∧
      ∀ method path, Resolves ⟨true, fun _ _ => true, fun _ => true⟩ svc method path := by
  have hrun : Runs.run routeStep (mountedAt ⟨[0x2f, 0x64], by decide⟩) registerBoth = some _ := rfl
  refine ⟨_, hrun, rfl, rfl, ?_⟩
  have hmount : ∀ m, (mountedAt ⟨[0x2f, 0x64], by decide⟩).rpcMountPath = some m →
      m.bytes.length ≤ 1023 := by
    intro m hm
    obtain rfl := some.inj hm
    decide
  have hshort : Runs.Along routeStep (fun _ op => op.ShortPath)
      (mountedAt ⟨[0x2f, 0x64], by decide⟩) registerBoth := by
    have hpath : CStr.slashA.bytes.length < 2 ^ 32 := by decide
    exact ⟨hpath, fun _ _ => ⟨hpath, fun _ _ => trivial⟩⟩
  exact (routeResolution rfl hmount hshort hrun).1 _ ⟨rfl, fun _ _ => rfl, fun _ => rfl⟩

/-- A path of 1024 bytes. -/
def longPath : CStr where
  bytes := slash :: replicate 1023 0x61
  noNul h := by
    rcases mem_cons.1 h with hslash | hrest
    · exact absurd hslash (by decide)
    · exact absurd (mem_replicate.1 hrest).2 (by decide)

/-- An exact route is accepted when its path differs from the buffered mount path. -/
theorem registerGet_accepted {mount : CStr} (hhead : mount.bytes.head? = some slash)
    (hvalid : patternValid .exactMatch path.bytes = .ok ())
    (hcut : path.bytes ≠ (mount.truncate 1023).bytes) :
    Runs.run routeStep (mountedAt mount) [registerGet path] =
      some { mountedAt mount with
        nextHttpRouteId := 2
        routes := [newRoute 1 .exactMatch getMethod path CStr.empty 0] } := by
  have hmount : (mountedAt mount).mountPathBuffer = some (mount.truncate 1023) := by
    simp [HttpService.mountPathBuffer, HttpService.rpcMountPath, mountedAt, hhead]
  have hnorm : methodNormalize true getMethod = .ok getMethod := rfl
  have hchecks : registerChecks ⟨fun _ => true, true, true, true⟩ (mountedAt mount) getMethod
      .exactMatch path 0 = .ok getMethod := by
    have htransport : (mountedAt mount).transport = .ok true := rfl
    unfold registerChecks
    simp only [hvalid, hmount, patternMatches, if_neg hcut]
    rfl
  simp only [Runs.run, routeStep, registerGet, registerHttpRouteInner, hchecks]
  rfl

/-- A service mounted at a path of 1024 bytes accepts a route at its own mount. -/
theorem route_registered_at_mount :
    ∃ svc, Runs.run routeStep (mountedAt longPath) [registerGet longPath] = some svc ∧
      svc.rpcMountPath = some longPath ∧
      ∃ r ∈ svc.routes, PatternMatches r.matchKind r.path.bytes longPath.bytes := by
  have hvalid : patternValid .exactMatch longPath.bytes = .ok () := by
    unfold patternValid
    rw [if_pos (by decide +kernel)]
  -- the buffer has lost the last byte of the mount path
  have hcut : longPath.bytes ≠ (longPath.truncate 1023).bytes := by
    intro h
    have hlen := congrArg length h
    simp only [CStr.truncate, longPath, length_take, length_cons, length_replicate] at hlen
    omega
  have hself : ∀ path, PatternMatches .exactMatch path path := fun path => ⟨none, if_pos rfl⟩
  exact ⟨_, registerGet_accepted rfl hvalid hcut, rfl, _, mem_singleton_self _,
    hself longPath.bytes⟩

end Ducknng
