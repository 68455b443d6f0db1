import Ducknng.Http.RoutePolicy

namespace Ducknng

open List

/-!
# Registering a stream route

A stream route is registered as an ordinary one and then searched for to be marked. The
registration stores the method in upper case, the search compares it as it was given.

* `streamTakesEffect_iff` — the mark is set when the method is given in upper case, and only
  then; `lowercase_stream_lost` — a route for `get` that answers at once.
-/

/-- `"text/event-stream; charset=utf-8"`. -/
def eventStreamType : CStr :=
  ⟨"text/event-stream; charset=utf-8".toUTF8.data.toList, by decide +kernel⟩

/-- What the second section searches for. -/
def namedAsGiven (method path : CStr) (r : HttpRoute) : Bool :=
  r.method = method ∧ r.path = path ∧ r.matchKind = .exactMatch

/-- What it makes of the route it finds. -/
def HttpRoute.asStream (contentType : CStr) (r : HttpRoute) : HttpRoute :=
  { r with responseMode := .stream, streamContentType := some contentType }

/-- `ducknng_service_register_http_stream_route`; `copied` and `alloc` are the copy of the
    content type and the one that the removal makes. -/
def registerHttpStreamRoute (mem : RegisterMemory) (copied alloc : Bool) (svc : HttpService)
    (method path handlerSql : CStr) (contentType : Option CStr) (requestMaxBytes : Nat) :
    HttpService × Except String Unit :=
  match registerHttpRouteInner mem svc method .exactMatch path handlerSql requestMaxBytes with
  | (svc, .error e) => (svc, .error e)
  | (svc, .ok ()) =>
    if !copied then
      ((unregisterHttpRouteInner alloc svc method .exactMatch path).1,
        .error "ducknng: out of memory registering stream route content type")
    else
      (svc.updateRoute (namedAsGiven method path)
        (.asStream ((CStr.present contentType).getD eventStreamType)), .ok ())

/-- Every lookup of the method and path that returns the route registered for them sees it in
    stream mode, with its content type and its query. -/
def StreamTakesEffect (svc : HttpService) (method path handlerSql contentType : CStr) : Prop :=
  ∀ mem r params, lookupHttpRoute mem svc method path.bytes = .ok (some (r, params)) →
    r.key = (.exactMatch, method.upper, path) →
    r.responseMode = .stream ∧ r.streamContentType = some contentType ∧ r.handlerSql = handlerSql

theorem updateFirst_last {p : HttpRoute → Bool} {f : HttpRoute → HttpRoute}
    {routes : List HttpRoute} {last : HttpRoute} (hnone : ∀ r ∈ routes, ¬p r) (hlast : p last) :
    updateFirst p f (routes ++ [last]) = routes ++ [f last] := by
  induction routes with
  | nil => simp [updateFirst, hlast]
  | cons r routes ih =>
    obtain ⟨hr, hrest⟩ := forall_mem_cons.1 hnone
    simp [updateFirst, hr, ih hrest]

section
variable {svc : HttpService} {method path : CStr} {routes : List HttpRoute} {last : HttpRoute}

/-- The route is found: no other is exact for this method and path. -/
theorem RegistryOk.lookup_exact (h : RegistryOk svc) (hlast : last ∈ svc.routes)
    (hkey : last.key = (.exactMatch, method.upper, path)) :
    ∃ mem r params, lookupHttpRoute mem svc method path.bytes = .ok (some (r, params)) ∧
      r ∈ svc.routes ∧ r.key = (.exactMatch, method.upper, path) := by
  obtain ⟨hkind, hmethod, hpath⟩ : last.matchKind = .exactMatch ∧ last.method = method.upper ∧
      last.path = path := by simpa [HttpRoute.key] using hkey
  have hserves : last.Serves method path.bytes := by
    refine ⟨hmethod, none, ?_⟩
    rw [hkind, hpath]
    exact if_pos rfl
  have hmem : LookupMemory.Ample ⟨true, fun _ _ => true, fun _ => true⟩ :=
    ⟨rfl, fun _ _ => rfl, fun _ => rfl⟩
  obtain ⟨r, hr, hrserves, hpreferred, params, hlookup⟩ :=
    (h.resolves hmem method path.bytes).found ⟨last, hlast, hserves⟩
  refine ⟨_, r, params, hlookup, hr, ?_⟩
  -- nothing but an exact route is preferred to an exact one
  have hexact : r.matchKind = .exactMatch := by
    rcases hpreferred last hlast hserves with hrank | ⟨hsame, -⟩
    · rw [hkind] at hrank
      cases hrkind : r.matchKind <;> simp [hrkind, kindRank] at hrank
    · exact hsame.trans hkind
  obtain ⟨hrmethod, rparams, hmatch⟩ := hrserves
  have hrpath : r.path = path := by
    apply CStr.ext
    by_contra hne
    simp [hexact, patternMatches, hne] at hmatch
  simp [HttpRoute.key, hexact, hrmethod, hrpath]

/-- With the registered route last and its key nowhere else, lookups see that route. -/
theorem streamTakesEffect_iff_last {handlerSql contentType : CStr} (h : RegistryOk svc)
    (hroutes : svc.routes = routes ++ [last])
    (hkey : last.key = (.exactMatch, method.upper, path))
    (hnew : (.exactMatch, method.upper, path) ∉ routes.map HttpRoute.key) :
    StreamTakesEffect svc method path handlerSql contentType ↔
      last.responseMode = .stream ∧ last.streamContentType = some contentType ∧
        last.handlerSql = handlerSql := by
  have honly : ∀ r ∈ svc.routes, r.key = (.exactMatch, method.upper, path) → r = last := by
    intro r hr hrkey
    rw [hroutes] at hr
    rcases mem_append.1 hr with hr | hr
    · exact absurd (hrkey ▸ mem_map_of_mem hr) hnew
    · exact mem_singleton.1 hr
  constructor
  · intro heffect
    obtain ⟨mem, r, params, hlookup, hr, hrkey⟩ := h.lookup_exact (by simp [hroutes]) hkey
    exact honly r hr hrkey ▸ heffect mem r params hlookup hrkey
  · intro hlast mem r params hlookup hrkey
    rw [honly r (lookupHttpRoute_mem hlookup) hrkey]
    exact hlast

end

/-- A registration that reports success takes effect when the method is given in upper case,
    and is lost when it is not. -/
theorem streamTakesEffect_iff {svc₀ svc svc' : HttpService} {ops : List RouteOp}
    {mem : RegisterMemory} {copied alloc : Bool} {method path handlerSql : CStr}
    {contentType : Option CStr} {requestMaxBytes : Nat} (hempty : svc₀.routes = [])
    (hshort : Runs.Along routeStep (fun _ op => op.ShortPath) svc₀ ops)
    (hrun : Runs.run routeStep svc₀ ops = some svc) (hpath : path.bytes.length < 2 ^ 32)
    (hok : registerHttpStreamRoute mem copied alloc svc method path handlerSql contentType
      requestMaxBytes = (svc', .ok ())) :
    StreamTakesEffect svc' method path handlerSql
      ((CStr.present contentType).getD eventStreamType) ↔ method.upper = method := by
  have hstart : RegistryOk svc₀ := ⟨by simp [hempty], by simp [hempty]⟩
  have hregistry := Runs.run_induction (fun _ svc => RegistryOk svc)
    (fun _ _ _ _ h hop hstep => (h.step hop hstep).1) hstart hshort hrun
  have hupper := Runs.run_invariant MethodsUpper (fun _ _ _ h hstep => h.step hstep)
    (fun r hr => absurd (hempty ▸ hr) not_mem_nil) hrun
  unfold registerHttpStreamRoute at hok
  split at hok
  · cases hok
  next svc₁ hregister =>
  split at hok
  · cases hok
  cases hok
  obtain ⟨-, -, ⟨hne, -⟩ | ⟨hroutes, hnew, -⟩⟩ := registerHttpRouteInner_routes hregister
  · exact absurd rfl hne
  have hregistry₁ : RegistryOk svc₁ := by
    refine (@RegistryOk.step svc svc₁ (.register mem method .exactMatch path handlerSql
      requestMaxBytes) hregistry hpath ?_).1
    simp [routeStep, hregister]
  generalize (CStr.present contentType).getD eventStreamType = sent
  have hmarked := hregistry₁.updateRoute (p := namedAsGiven method path)
    (f := .asStream sent) fun _ => rfl
  by_cases hmethod : method.upper = method
  · -- the search finds the new route, which is the only one with its key
    have hothers : ∀ r ∈ svc.routes, ¬namedAsGiven method path r := by
      intro r hr hp
      obtain ⟨hrmethod, hrpath, hrkind⟩ := of_decide_eq_true hp
      refine hnew (mem_map.2 ⟨r, hr, ?_⟩)
      simp [HttpRoute.key, hrmethod, hrpath, hrkind, hmethod]
    have hlist := (congrArg (updateFirst _ (.asStream sent)) hroutes).trans
      (updateFirst_last hothers (by simp [namedAsGiven, newRoute, hmethod]))
    exact iff_of_true ((streamTakesEffect_iff_last hmarked hlist rfl hnew).2
      ⟨rfl, rfl, rfl⟩) hmethod
  · -- no stored method is the given one, so nothing is marked
    have hupper₁ := hupper.register mem method .exactMatch path handlerSql requestMaxBytes
    rw [hregister] at hupper₁
    have hlist : (svc₁.updateRoute (namedAsGiven method path) (.asStream sent)).routes =
      svc₁.routes := by
      refine updateFirst_eq_self_iff.2 fun first hfirst => absurd ?_ hmethod
      have hfound := of_decide_eq_true (find?_some hfirst : namedAsGiven method path first)
      rw [← hfound.1]
      exact hupper₁ first (mem_of_find?_eq_some hfirst)
    refine iff_of_false (fun heffect => ?_) hmethod
    have hlast := (streamTakesEffect_iff_last hmarked (hlist.trans hroutes) rfl hnew).1 heffect
    cases hlast.1

/-- The empty registry of a service without a mount. -/
def unmounted : HttpService := ⟨.ok true, none, 1024, 1, []⟩

/-- Memory for everything. -/
def RegisterMemory.ample : RegisterMemory := ⟨fun _ => true, true, true, true⟩

/-- `GET /a` is a stream route. -/
theorem streamTakesEffect_get :
    StreamTakesEffect
      (registerHttpStreamRoute .ample true true unmounted getMethod .slashA .a (some .t) 0).1
      getMethod .slashA .a .t :=
  (@streamTakesEffect_iff unmounted unmounted _ [] .ample true true getMethod .slashA .a (some .t) 0
    rfl trivial rfl (by decide) rfl).2 rfl

/-- `"get"`. -/
def lowercaseGet : CStr := ⟨[0x67, 0x65, 0x74], by decide⟩

/-- `get /a` is registered with success, is found, and answers at once. -/
theorem lowercase_stream_lost :
    (registerHttpStreamRoute .ample true true unmounted lowercaseGet .slashA .a (some .t) 0).2 =
      .ok () ∧
    ¬StreamTakesEffect
      (registerHttpStreamRoute .ample true true unmounted lowercaseGet .slashA .a (some .t) 0).1
      lowercaseGet .slashA .a .t := by
  refine ⟨rfl, fun heffect => ?_⟩
  cases (heffect ⟨true, fun _ _ => true, fun _ => true⟩
    (newRoute 1 .exactMatch getMethod .slashA .a 0) none (by decide +kernel) rfl).1

end Ducknng
