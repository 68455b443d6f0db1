import Ducknng.Http.Routes

namespace Ducknng

open List

/-!
# Which routes a policy reaches

A registration stores its method in upper case and tells routes apart by kind, method and
path. `setHttpRouteAuth` looks for the texts as they are given, whatever the kind, and stops
at the first route that has them.

* `MethodsUpper.step` — the stored methods are in upper case, whatever happened before.
* `protectsWhole_iff` — when setting a policy does what it is for.
-/

/-! ### The policy of a method and a path -/

/-- The route-local policy of a route. -/
structure RoutePolicy where
  requireIdentity : Bool
  allowIdentitiesJson : Option CStr
  deriving DecidableEq

/-- The policy a route carries. -/
def HttpRoute.policy (r : HttpRoute) : RoutePolicy :=
  ⟨r.authRequireIdentity, r.authAllowIdentitiesJson⟩

/-- The route with another policy. -/
def HttpRoute.withPolicy (r : HttpRoute) (policy : RoutePolicy) : HttpRoute :=
  { r with
    authRequireIdentity := policy.requireIdentity
    authAllowIdentitiesJson := policy.allowIdentitiesJson }

/-- The route was registered with the method, in any letter case, and the path. -/
def HttpRoute.Has (method path : CStr) (r : HttpRoute) : Prop :=
  r.method = method.upper ∧ r.path = path

instance (method path : CStr) : DecidablePred (HttpRoute.Has method path) := fun _ =>
  inferInstanceAs (Decidable (_ ∧ _))

/-- The call needs no memory, or gets it: an empty allowlist is not copied. -/
def CopySucceeds (alloc : Bool) (allowJson : Option CStr) : Prop :=
  alloc = true ∨ CStr.present allowJson = none

/-- What setting a policy is for: with memory for the allowlist the call succeeds where a
    route was registered with the texts; after a success every such route carries the policy,
    so no lookup gives one without it; a call that fails changes no route. -/
structure ProtectsWhole (alloc : Bool) (svc : HttpService) (method path : CStr) (require : Bool)
    (allowJson : Option CStr) : Prop where
  succeeds : (∃ r ∈ svc.routes, r.Has method path) → CopySucceeds alloc allowJson →
    (setHttpRouteAuth alloc svc method path require allowJson).2 = .ok ()
  carried : (setHttpRouteAuth alloc svc method path require allowJson).2 = .ok () →
    ∀ r ∈ (setHttpRouteAuth alloc svc method path require allowJson).1.routes,
      r.Has method path → r.policy = ⟨require, CStr.present allowJson⟩
  looked : (setHttpRouteAuth alloc svc method path require allowJson).2 = .ok () →
    ∀ mem asked requested r params,
      lookupHttpRoute mem (setHttpRouteAuth alloc svc method path require allowJson).1 asked
        requested = .ok (some (r, params)) →
      r.Has method path → r.policy = ⟨require, CStr.present allowJson⟩
  kept : (setHttpRouteAuth alloc svc method path require allowJson).2 ≠ .ok () →
    (setHttpRouteAuth alloc svc method path require allowJson).1.routes = svc.routes

/-! ### The first route with a property -/

variable {routes : List HttpRoute} {r : HttpRoute} {svc : HttpService} {method : CStr}

section
variable {p : HttpRoute → Bool} {f : HttpRoute → HttpRoute}

/-- Changing the first route leaves the others as they are. -/
theorem mem_updateFirst :
    r ∈ updateFirst p f routes ↔
      r ∈ routes.eraseP p ∨ ∃ first, routes.find? p = some first ∧ r = f first := by
  induction routes with
  | nil => simp [updateFirst]
  | cons head routes ih =>
    unfold updateFirst
    by_cases hp : p head = true
    · simp [hp, or_comm]
    · rw [if_neg hp, eraseP_cons_of_neg hp, find?_cons_of_neg hp, mem_cons, ih, mem_cons, or_assoc]

/-- Nothing changes just when the first route is one that the change leaves as it is. -/
theorem updateFirst_eq_self_iff :
    updateFirst p f routes = routes ↔ ∀ first, routes.find? p = some first → f first = first := by
  induction routes with
  | nil => simp [updateFirst]
  | cons head routes ih =>
    unfold updateFirst
    by_cases hp : p head = true
    · simp [hp]
    · rw [if_neg hp, find?_cons_of_neg hp, cons.injEq, and_iff_right rfl, ih]

end

/-! ### Stored methods are in upper case -/

theorem upperAscii_upperAscii (c : UInt8) : upperAscii (upperAscii c) = upperAscii c := by
  unfold upperAscii
  split
  · next hlower =>
    -- what an upper case letter came from was a lower case one, 0x20 above it
    rw [if_neg]
    rintro ⟨hlo, -⟩
    obtain ⟨hfrom, hto⟩ := hlower
    rw [UInt8.le_iff_toNat_le] at hlo hfrom hto
    rw [UInt8.toNat_sub_of_le _ _ (UInt8.le_iff_toNat_le.2 (by simp at hfrom ⊢; omega))] at hlo
    simp at hlo hto
    omega
  · rfl

theorem CStr.upper_upper (text : CStr) : text.upper.upper = text.upper := by
  refine CStr.ext ?_
  show (text.bytes.map upperAscii).map upperAscii = text.bytes.map upperAscii
  rw [map_map]
  exact map_congr_left fun c _ => upperAscii_upperAscii c

/-- Every stored method is in upper case. -/
def MethodsUpper (svc : HttpService) : Prop := ∀ r ∈ svc.routes, r.method.upper = r.method

/-- A change that keeps the keys keeps the methods. -/
theorem MethodsUpper.updateRoute (h : MethodsUpper svc) {p : HttpRoute → Bool}
    {f : HttpRoute → HttpRoute} (hf : ∀ r, (f r).method = r.method) :
    MethodsUpper (svc.updateRoute p f) := by
  intro r hr
  rcases mem_updateFirst.1 hr with hr | ⟨first, hfirst, rfl⟩
  · exact h r (mem_of_mem_eraseP hr)
  · rw [hf]
    exact h first (mem_of_find?_eq_some hfirst)

/-- A registration adds a route whose method it has put in upper case, or changes none. -/
theorem MethodsUpper.register (h : MethodsUpper svc) (mem : RegisterMemory) (method : CStr)
    (kind : RouteMatchKind) (path handlerSql : CStr) (requestMaxBytes : Nat) :
    MethodsUpper
      (registerHttpRouteInner mem svc method kind path handlerSql requestMaxBytes).1 := by
  obtain ⟨-, -, ⟨-, hsame⟩ | ⟨hroutes, -⟩⟩ := registerHttpRouteInner_routes (Prod.eta
    (registerHttpRouteInner mem svc method kind path handlerSql requestMaxBytes)).symm
  · intro r hr
    exact h r (hsame ▸ hr)
  · unfold MethodsUpper
    rw [hroutes]
    exact forall_mem_append.2 ⟨h, forall_mem_singleton.2 (CStr.upper_upper method)⟩

/-- Every step keeps the stored methods in upper case. -/
theorem MethodsUpper.step {svc' : HttpService} {op : RouteOp} (h : MethodsUpper svc)
    (hstep : routeStep svc op = some svc') : MethodsUpper svc' := by
  cases op with
  | register mem method kind path handlerSql requestMaxBytes =>
    obtain rfl := Option.some.inj hstep
    exact h.register mem method kind path handlerSql requestMaxBytes
  | unregister alloc method kind path =>
    obtain ⟨-, -, hsub⟩ := unregisterHttpRouteInner_routes (Option.some.inj hstep)
    exact fun r hr => h r (hsub.subset hr)
  | markEvents path heartbeatMs =>
    obtain rfl := Option.some.inj hstep
    exact h.updateRoute fun _ => rfl
  | markStream method path contentType =>
    obtain rfl := Option.some.inj hstep
    exact h.updateRoute fun _ => rfl
  | setStaticDir path dir =>
    obtain rfl := Option.some.inj hstep
    exact h.updateRoute fun _ => rfl
  | setAuth alloc method path require allowJson =>
    obtain rfl := Option.some.inj hstep
    show MethodsUpper (setHttpRouteAuth alloc svc method path require allowJson).1
    unfold setHttpRouteAuth
    dsimp only
    split
    · exact h.updateRoute fun _ => rfl
    · exact h

/-- In a table with stored methods in upper case, texts are found as given just when the
    method is in upper case. -/
theorem MethodsUpper.found_iff (h : MethodsUpper svc) {path : CStr} (hr : r ∈ svc.routes) :
    r.method = method ∧ r.path = path ↔ method.upper = method ∧ r.Has method path := by
  constructor
  · rintro ⟨rfl, rfl⟩
    exact ⟨h r hr, (h r hr).symm, rfl⟩
  · rintro ⟨hupper, hmethod, hpath⟩
    exact ⟨hmethod.trans hupper, hpath⟩

/-! ### What setting a policy does -/

section
variable {svc : HttpService} {method path : CStr}

/-- A method that is not in upper case, or texts that no route has, are not found. -/
theorem setHttpRouteAuth_notFound (h : MethodsUpper svc)
    (hnot : ¬(method.upper = method ∧ ∃ r ∈ svc.routes, r.Has method path)) (alloc require : Bool)
    (allowJson : Option CStr) :
    setHttpRouteAuth alloc svc method path require allowJson =
      (svc, .error "ducknng: HTTP route not found") := by
  unfold setHttpRouteAuth
  rw [if_neg]
  intro hany
  obtain ⟨r, hr, htexts⟩ := any_eq_true.1 hany
  obtain ⟨hupper, hhas⟩ := (h.found_iff hr).1 (of_decide_eq_true htexts)
  exact hnot ⟨hupper, r, hr, hhas⟩

/-- A method in upper case is found where it was registered: the first route gets the policy,
    with the allowlist if it could be copied. -/
theorem setHttpRouteAuth_found (hupper : method.upper = method)
    (hsome : ∃ r ∈ svc.routes, r.Has method path) (alloc require : Bool)
    (allowJson : Option CStr) :
    setHttpRouteAuth alloc svc method path require allowJson =
      (svc.updateRoute (fun r => r.Has method path) fun r =>
          r.withPolicy ⟨require, if alloc then CStr.present allowJson else none⟩,
        if (if alloc then CStr.present allowJson else none) = CStr.present allowJson then .ok ()
        else .error "ducknng: out of memory for identities JSON") := by
  have htexts : (fun r : HttpRoute => decide (r.method = method ∧ r.path = path)) =
      fun r => decide (r.Has method path) := by
    funext r
    refine decide_eq_decide.2 ?_
    show _ ↔ r.method = method.upper ∧ r.path = path
    rw [hupper]
  unfold setHttpRouteAuth
  dsimp only
  rw [htexts, if_pos]
  · rfl
  · obtain ⟨r, hr, hhas⟩ := hsome
    exact any_eq_true.2 ⟨r, hr, decide_eq_true hhas⟩

/-- The allowlist is stored as given just when the copy succeeds. -/
theorem stored_eq_iff {alloc : Bool} {allowJson : Option CStr} :
    (if alloc then CStr.present allowJson else none) = CStr.present allowJson ↔
      CopySucceeds alloc allowJson := by
  unfold CopySucceeds
  cases alloc with
  | true => simp
  | false => simp [eq_comm]

end

/-- A lookup gives a stored route. -/
theorem lookupLoop_mem {mem : LookupMemory} {path : List UInt8}
    {best : Option (HttpRoute × Option (List UInt8))} {score : Nat}
    {found : HttpRoute × Option (List UInt8)}
    (h : lookupLoop mem method path routes best score = .ok (some found)) :
    found.1 ∈ routes ∨ best = some found := by
  induction routes generalizing best score with
  | nil => exact .inr (Except.ok.inj h)
  | cons r routes ih =>
    unfold lookupLoop at h
    have hpass : ∀ {score}, lookupLoop mem method path routes best score = .ok (some found) →
        found.1 ∈ r :: routes ∨ best = some found := fun hrest =>
      (ih hrest).imp_left (mem_cons_of_mem r)
    split at h
    · exact hpass h
    split at h
    · cases h
    · exact hpass h
    split at h
    · split at h
      · rcases ih h with hmem | hbest
        · exact .inl (mem_cons_of_mem r hmem)
        · obtain rfl := Option.some.inj hbest
          exact .inl mem_cons_self
      · cases h
    · exact hpass h

theorem lookupHttpRoute_mem {mem : LookupMemory} {path : List UInt8} {params : Option (List UInt8)}
    (h : lookupHttpRoute mem svc method path = .ok (some (r, params))) : r ∈ svc.routes := by
  unfold lookupHttpRoute at h
  cases hnorm : methodNormalize mem.normalize method with
  | error e => simp [hnorm, bind, Except.bind] at h
  | ok norm =>
    simp only [hnorm] at h
    rcases lookupLoop_mem h with hmem | hbest
    · exact hmem
    · cases hbest

/-! ### When a policy reaches the whole of a method and a path -/

/-- Where a route was registered with the texts: with memory for the allowlist, the method is
    given in upper case and all routes with the texts but the first carry the policy already;
    without, no route is found or the first one already carries the policy without a list. -/
structure PolicyReaches (alloc : Bool) (svc : HttpService) (method path : CStr) (require : Bool)
    (allowJson : Option CStr) : Prop where
  copied : CopySucceeds alloc allowJson → method.upper = method ∧
    ∀ r ∈ svc.routes.eraseP fun r => r.Has method path, r.Has method path →
      r.policy = ⟨require, CStr.present allowJson⟩
  notCopied : ¬CopySucceeds alloc allowJson → method.upper = method →
    ∀ first, (svc.routes.find? fun r => r.Has method path) = some first →
      first.policy = ⟨require, none⟩

section
variable {alloc : Bool} {svc : HttpService} {method path : CStr} {require : Bool}
  {allowJson : Option CStr}

/-- A call that finds no route has failed its purpose if there was one to find. -/
theorem protectsWhole_iff_of_notFound
    (hcall : setHttpRouteAuth alloc svc method path require allowJson =
      (svc, .error "ducknng: HTTP route not found")) :
    ProtectsWhole alloc svc method path require allowJson ↔
      ((∃ r ∈ svc.routes, r.Has method path) → ¬CopySucceeds alloc allowJson) := by
  have herror : (setHttpRouteAuth alloc svc method path require allowJson).2 ≠ .ok () := by
    rw [hcall]
    exact nofun
  constructor
  · intro h hsome hcopy
    exact herror (h.succeeds hsome hcopy)
  · intro h
    refine ⟨fun hsome hcopy => absurd hcopy (h hsome), fun hok => absurd hok herror,
      fun hok => absurd hok herror, fun _ => ?_⟩
    rw [hcall]

/-- A call that finds a route and has the memory gives the policy to the first one. -/
theorem protectsWhole_iff_of_copied (hupper : method.upper = method)
    (hsome : ∃ r ∈ svc.routes, r.Has method path) (hcopy : CopySucceeds alloc allowJson) :
    ProtectsWhole alloc svc method path require allowJson ↔
      ∀ r ∈ svc.routes.eraseP fun r => r.Has method path, r.Has method path →
        r.policy = ⟨require, CStr.present allowJson⟩ := by
  have hcall := setHttpRouteAuth_found hupper hsome alloc require allowJson
  rw [stored_eq_iff.2 hcopy, if_pos rfl] at hcall
  constructor
  · intro h r hr hhas
    refine h.carried (by rw [hcall]) r ?_ hhas
    rw [hcall]
    exact mem_updateFirst.2 (.inl hr)
  · intro hothers
    have hcarried : ∀ r ∈ (setHttpRouteAuth alloc svc method path require allowJson).1.routes,
        r.Has method path → r.policy = ⟨require, CStr.present allowJson⟩ := by
      rw [hcall]
      intro r hr hhas
      rcases mem_updateFirst.1 hr with hother | ⟨first, -, rfl⟩
      · exact hothers r hother hhas
      · rfl
    refine ⟨fun _ _ => by rw [hcall], fun _ => hcarried, ?_, fun hfail => ?_⟩
    · intro _ mem asked requested r params hlookup
      exact hcarried r (lookupHttpRoute_mem hlookup)
    · rw [hcall] at hfail
      exact absurd rfl hfail

/-- A call that finds a route and cannot copy the allowlist leaves the first one without. -/
theorem protectsWhole_iff_of_not_copied (hupper : method.upper = method)
    (hsome : ∃ r ∈ svc.routes, r.Has method path) (hcopy : ¬CopySucceeds alloc allowJson) :
    ProtectsWhole alloc svc method path require allowJson ↔
      ∀ first, (svc.routes.find? fun r => r.Has method path) = some first →
        first.policy = ⟨require, none⟩ := by
  have hcall := setHttpRouteAuth_found hupper hsome alloc require allowJson
  have halloc : alloc = false := by
    cases alloc with
    | false => rfl
    | true => exact absurd (.inl rfl) hcopy
  rw [if_neg (mt stored_eq_iff.1 hcopy), halloc, if_neg Bool.false_ne_true, ← halloc] at hcall
  -- the call fails, but has already changed the first route
  have herror : (setHttpRouteAuth alloc svc method path require allowJson).2 ≠ .ok () := by
    rw [hcall]
    exact nofun
  have hkept : (setHttpRouteAuth alloc svc method path require allowJson).1.routes = svc.routes ↔
      ∀ first, (svc.routes.find? fun r => r.Has method path) = some first →
        first.policy = ⟨require, none⟩ := by
    rw [hcall]
    refine updateFirst_eq_self_iff.trans (forall₂_congr fun first _ => ?_)
    constructor
    · intro h
      rw [← h]
      rfl
    · intro h
      rw [← h]
      rfl
  constructor
  · intro h
    exact hkept.1 (h.kept herror)
  · intro h
    exact ⟨fun _ hcopied => absurd hcopied hcopy, fun hok => absurd hok herror,
      fun hok => absurd hok herror, fun _ => hkept.2 h⟩

end

/-- **Setting a policy.** In every registry reached from an empty one, setting a policy does
    what it is for just when no route was registered with the texts or the policy reaches all
    that were. -/
theorem protectsWhole_iff {svc₀ svc : HttpService} {ops : List RouteOp}
    (hempty : svc₀.routes = []) (hrun : Runs.run routeStep svc₀ ops = some svc) (alloc : Bool)
    (method path : CStr) (require : Bool) (allowJson : Option CStr) :
    ProtectsWhole alloc svc method path require allowJson ↔
      ((∃ r ∈ svc.routes, r.Has method path) →
        PolicyReaches alloc svc method path require allowJson) := by
  have hstart : MethodsUpper svc₀ := fun r hr => absurd (hempty ▸ hr) not_mem_nil
  have hmethods := Runs.run_invariant MethodsUpper (fun _ _ _ h hstep => h.step hstep) hstart hrun
  by_cases hfound : method.upper = method ∧ ∃ r ∈ svc.routes, r.Has method path
  · obtain ⟨hupper, hsome⟩ := hfound
    by_cases hcopy : CopySucceeds alloc allowJson
    · rw [protectsWhole_iff_of_copied hupper hsome hcopy]
      exact ⟨fun h _ => ⟨fun _ => ⟨hupper, h⟩, fun hno => absurd hcopy hno⟩,
        fun h => ((h hsome).copied hcopy).2⟩
    · rw [protectsWhole_iff_of_not_copied hupper hsome hcopy]
      exact ⟨fun h _ => ⟨fun hyes => absurd hyes hcopy, fun _ _ => h⟩,
        fun h => (h hsome).notCopied hcopy hupper⟩
  · rw [protectsWhole_iff_of_notFound
      (setHttpRouteAuth_notFound hmethods hfound alloc require allowJson)]
    -- where there is a route, its method was not given in upper case
    refine forall_congr' fun hsome => ?_
    have hlower : method.upper ≠ method := fun hupper => hfound ⟨hupper, hsome⟩
    exact ⟨fun h => ⟨fun hcopy => absurd hcopy h, fun _ hupper => absurd hupper hlower⟩,
      fun h hcopy => hlower (h.copied hcopy).1⟩

/-- An allowlist. -/
def someList : CStr := ⟨[0x5b, 0x5d], by decide⟩

/-- With an exact and a prefix route at `/a`, of which the exact one has got a policy: it is taken
    back, and the prefix route has none anyway. -/
theorem protectsWhole_twoKinds :
    ∃ svc, Runs.run routeStep (mountedAt ⟨[0x2f, 0x64], by decide⟩)
        (registerBoth ++ [.setAuth true getMethod CStr.slashA true (some someList)]) = some svc ∧
      svc.routes.map HttpRoute.policy = [⟨true, some someList⟩, ⟨false, none⟩] ∧
      ProtectsWhole true svc getMethod CStr.slashA false none := by
  have hrun : Runs.run routeStep (mountedAt ⟨[0x2f, 0x64], by decide⟩)
      (registerBoth ++ [.setAuth true getMethod CStr.slashA true (some someList)]) = some _ := rfl
  refine ⟨_, hrun, rfl, (protectsWhole_iff rfl hrun true getMethod _ false none).2 fun _ =>
    ⟨?_, ?_⟩⟩
  · refine fun _ => ⟨by decide, fun r hr _ => ?_⟩
    obtain rfl := mem_singleton.1 hr
    rfl
  · exact fun hno => absurd (.inl rfl) hno

/-- With an exact and a prefix route at `/a`: the method in lower case is not found; the
    prefix route gets no policy; and where the allowlist cannot be copied the policy in force
    is lost. -/
theorem policy_misses_routes :
    ∃ svc, Runs.run routeStep (mountedAt ⟨[0x2f, 0x64], by decide⟩) registerBoth = some svc ∧
      ¬ProtectsWhole true svc ⟨[0x67, 0x65, 0x74], by decide⟩ ⟨[0x2f, 0x61], by decide⟩ true none ∧
      ¬ProtectsWhole true svc getMethod ⟨[0x2f, 0x61], by decide⟩ true none ∧
      ¬ProtectsWhole false svc getMethod ⟨[0x2f, 0x61], by decide⟩ true (some someList) := by
  have hrun : Runs.run routeStep (mountedAt ⟨[0x2f, 0x64], by decide⟩) registerBoth = some _ := rfl
  refine ⟨_, hrun, fun h => ?_, fun h => ?_, fun h => ?_⟩
  · exact absurd (h.succeeds ⟨_, mem_cons_self, by decide, rfl⟩ (.inl rfl)) (by decide)
  · exact absurd (h.carried (by decide) _ (mem_cons_of_mem _ mem_cons_self)
      ⟨by decide, rfl⟩) (by decide)
  · exact absurd (h.kept (by decide)) (by decide)

end Ducknng
