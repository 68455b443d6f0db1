import Ducknng.Http.RouteAuth
import Ducknng.Lib.Prog
import Ducknng.Rpc.Dispatch
import Ducknng.Service.Authorizer

namespace Ducknng

/-!
# The ways into a service

A framed request comes in through NNG, through NNG with an identity that is known already, or
as the body of an HTTP request or a WebSocket message; other HTTP requests go to a route. Each
of the four is written out in the source with the same steps: network admission, the in-flight
limits, the authorizer, and what the request is for. They are programs over `GateOp`, which has
an action for every section under a mutex and every call whose outcome is up to somebody else.

* `GateState`, `GateOp`, `gateMachine` — the shared state and the actions on it.
* `networkAdmissionCheck`, `authorizeRequest`, `dispatchFrame` — the steps.
* `handleRequest`, `handleRequestWithIdentity`, `authorizeAndDispatchFrame`, `httpRouteRequest` —
  the four ways.
-/

/-! ### Shared state -/

/-- What can be changed about a service while it runs. The authorizer is there when it is
    active and not empty. -/
structure GateConfig where
  shuttingDown : Bool
  policy : AdmissionPolicy
  authorizerSql : Option CStr
  registry : List MethodDescriptor
  http : HttpService

/-- What the requests of a service share. -/
structure GateState where
  config : GateConfig
  limits : RequestLimits
  counters : InflightCounters

/-- `ducknng_method_registry_find`. -/
def methodRegistryFind (registry : List MethodDescriptor) (name : List UInt8) :
    Option MethodDescriptor :=
  registry.find? fun method => method.name.bytes = name

/-! ### Actions -/

/-- The actions of a request, by what they answer. An allowlist answers whether it is active
    and whether it admits; a copy of the authorizer may fail. -/
inductive GateOp : Type → Type where
  | requiresPeerIdentity : GateOp Bool
  | peerAllowlist (callerIdentity : Option CStr) : GateOp (Bool × Bool)
  | ipAllowlist (remoteAddr : Option SockAddr) : GateOp (Bool × Bool)
  | beginRequest (callerIdentity : Option CStr) : GateOp (Except String Unit)
  | endRequest (callerIdentity : Option CStr) (replyBytes : Nat) : GateOp Unit
  | copyAuthorizerSql : GateOp (Option (Option CStr))
  | runAuthorizer (sql : CStr) (ctx : AuthorizerContext) : GateOp AuthorizerRun
  | pruneIdleSessions : GateOp Unit
  | findMethod (name : List UInt8) : GateOp (Option MethodDescriptor)
  | handler (method : MethodDescriptor) (frame : Frame) (callerIdentity : Option CStr)
      (decision : AuthorizerDecision) : GateOp (Bool × MethodReply)
  | strdup (text : String) : GateOp (Option String)
  | allocMessage : GateOp Bool
  | stopping : GateOp Bool
  | rpcMountPath : GateOp (Option CStr)
  | readHeaders : GateOp Bool
  | lookupRoute (method : CStr) (path : List UInt8) : GateOp (Except String (Option HttpRoute))
  | copyRoute (route : HttpRoute) : GateOp Bool
  | jsonRoom : GateOp (Nat → Bool)
  | resolveEvent (route : HttpRoute) : GateOp (Except (Option String) Bool)
  | startRelay (route : HttpRoute) : GateOp (Except (Option String) Unit)
  | streamBegin : GateOp Bool
  | serveStream (route : HttpRoute) : GateOp Unit
  | streamEnd : GateOp Unit
  | handleRoute (route : HttpRoute) : GateOp (Except (Option String) Unit × Nat)
  | routeResponse : GateOp (Except (Option String) Unit)
  | configure (change : GateConfig → GateConfig) : GateOp Unit
  | recordSessionOpen (maxRate : Nat) (attempt : OpenAttempt) : GateOp Unit

/-- What DuckDB, the allocator, the handlers and the HTTP server answer to an action. -/
structure GateWorld where
  allocPeer : Bool
  authorizerCopied : Bool
  authorizer : AuthorizerRun
  handler : Bool × MethodReply
  strdup : Bool
  message : Bool
  serverStopping : Bool
  headersRead : Bool
  lookup : LookupMemory
  routeCopied : Bool
  jsonRoom : Nat → Bool
  resolveEvent : Except (Option String) Bool
  startRelay : Except (Option String) Unit
  streamBegin : Bool
  handleRoute : Except (Option String) Unit × Nat
  routeResponse : Except (Option String) Unit

/-- What an action does. -/
def gateExec (st : GateState) (world : GateWorld) : {α : Type} → GateOp α → Option (α × GateState)
  | _, .requiresPeerIdentity => some (st.config.policy.requiresPeerIdentity, st)
  | _, .peerAllowlist callerIdentity =>
    some ((st.config.policy.peerAllowlistActive,
      st.config.policy.tlsOptsPeerAllowed callerIdentity), st)
  | _, .ipAllowlist remoteAddr =>
    some ((st.config.policy.ipAllowlistActive,
      st.config.policy.remoteAddrMatchesIpAllowlist remoteAddr), st)
  | _, .beginRequest callerIdentity =>
    let (answer, counters) := beginRequest st.limits st.config.shuttingDown world.allocPeer
      callerIdentity st.counters
    some (answer, { st with counters })
  | _, .endRequest callerIdentity replyBytes =>
    some ((), { st with counters := endRequest callerIdentity replyBytes st.counters })
  | _, .copyAuthorizerSql =>
    some (st.config.authorizerSql.map fun sql => if world.authorizerCopied then some sql else none,
      st)
  | _, .runAuthorizer _ _ => some (world.authorizer, st)
  | _, .pruneIdleSessions => some ((), st)
  | _, .findMethod name => some (methodRegistryFind st.config.registry name, st)
  | _, .handler _ _ _ _ => some (world.handler, st)
  | _, .strdup text => some (if world.strdup then some text else none, st)
  | _, .allocMessage => some (world.message, st)
  | _, .stopping => some (world.serverStopping || st.config.shuttingDown, st)
  | _, .rpcMountPath => some (st.config.http.rpcMountPath, st)
  | _, .readHeaders => some (world.headersRead, st)
  | _, .lookupRoute method path =>
    some ((lookupHttpRoute world.lookup st.config.http method path).map fun found =>
      found.map (·.1), st)
  | _, .copyRoute _ => some (world.routeCopied, st)
  | _, .jsonRoom => some (world.jsonRoom, st)
  | _, .resolveEvent _ => some (world.resolveEvent, st)
  | _, .startRelay _ => some (world.startRelay, st)
  | _, .streamBegin => some (world.streamBegin, st)
  | _, .serveStream _ => some ((), st)
  | _, .streamEnd => some ((), st)
  | _, .handleRoute _ => some (world.handleRoute, st)
  | _, .routeResponse => some (world.routeResponse, st)
  | _, .configure change => some ((), { st with config := change st.config })
  | _, .recordSessionOpen maxRate attempt =>
    some ((), { st with counters := { st.counters with
      peers := (checkAndRecordSessionOpen maxRate st.counters.peers attempt).2 } })

/-- The machine that requests run on. -/
def gateMachine : Machine GateState GateWorld GateOp where
  exec _ st op world := gateExec st world op

/-- A program of a request. -/
abbrev GateProg (ρ : Type) := Prog GateOp ρ

section
open Prog (perform)

/-! ### Admission -/

/-- `ducknng_service_peer_admission_check`. -/
def peerAdmissionCheck (callerIdentity : Option CStr) : GateProg (Except (Option String) Unit) := do
  let required ← perform .requiresPeerIdentity
  let (active, allowed) ← perform (.peerAllowlist callerIdentity)
  if required = true ∧ CStr.present callerIdentity = none then
    return .error (← perform (.strdup "ducknng: mTLS peer identity is required"))
  else if active = true ∧ allowed = false then
    return .error (← perform (.strdup "ducknng: peer identity is not admitted"))
  else return .ok ()

/-- `ducknng_service_network_admission_check`. -/
def networkAdmissionCheck (callerIdentity : Option CStr) (remoteAddr : Option SockAddr) :
    GateProg (Except (Option String) Unit) := do
  match ← peerAdmissionCheck callerIdentity with
  | .error e => return .error e
  | .ok () =>
    let (active, allowed) ← perform (.ipAllowlist remoteAddr)
    if active = true ∧ allowed = false then
      return .error (← perform (.strdup "ducknng: remote address is not admitted"))
    else return .ok ()

/-- `ducknng_service_begin_request`, with the copy of its text. -/
def beginRequestOrText (callerIdentity : Option CStr) :
    GateProg (Except (Option String) Unit) := do
  match ← perform (.beginRequest callerIdentity) with
  | .ok () => return .ok ()
  | .error e => return .error (← perform (.strdup e))

/-! ### The authorizer -/

/-- Whether a text is missing or empty. -/
def noText : Option String → Bool
  | none => true
  | some text => text = ""

/-- The outcome of the authorizer: whether it allows the request, the error text, and the
    decision. -/
abbrev Verdict := Bool × Option String × AuthorizerDecision

/-- The reason of a denial: the one of the row, or a general one. -/
def denialReason (reason : Option String) : GateProg (Option String) :=
  if noText reason then perform (.strdup "ducknng: SQL authorizer denied request") else pure reason

/-- `ducknng_parse_authorizer_result`. -/
def parseAuthorizerResult (r : AuthorizerResult) (decision : AuthorizerDecision) :
    GateProg Verdict := do
  if r.rows ≠ 1 then
    return (false, ← perform (.strdup "ducknng: SQL authorizer must return exactly one row"),
      decision)
  else if r.extraRows > 0 then
    return (false, ← perform (.strdup "ducknng: SQL authorizer must return exactly one row"),
      decision)
  else match r.column "allow" with
    | none =>
      return (false, ← perform (.strdup "ducknng: SQL authorizer must return an allow column"),
        decision)
    | some col =>
      if col.type ≠ .boolean then
        return (false, ← perform (.strdup "ducknng: SQL authorizer allow column must be BOOLEAN"),
          decision)
      else if col.boolValue.getD false then
        return (true, none, ⟨true, 200, r.varchar "reason", r.varchar "principal",
          r.varchar "claims_json", r.cacheTtlMs⟩)
      else
        let reason ← denialReason (r.varchar "reason")
        return (false, none, ⟨false, r.status, reason, r.varchar "principal",
          r.varchar "claims_json", r.cacheTtlMs⟩)

/-- `ducknng_strdup` of a text that may be missing. -/
def strdupText : Option String → GateProg (Option String)
  | none => pure none
  | some text => perform (.strdup text)

/-- A text that is there, or a copy of the one that stands in for it. -/
def textOrStrdup (text : Option String) (fallback : String) : GateProg (Option String) :=
  if text = none then perform (.strdup fallback) else pure text

/-- `ducknng_service_run_sql_authorizer`. -/
def runSqlAuthorizer (sql : CStr) (ctx : AuthorizerContext) (decision : AuthorizerDecision) :
    GateProg Verdict := do
  match ← perform (.runAuthorizer sql ctx) with
  | .notEntered e =>
    let err ← perform (.strdup e.text)
    let reason ← perform (.strdup (err.getD "ducknng: missing SQL authorizer state"))
    return (false, err, { decision with allow := false, httpStatus := 500, reason })
  | .failed detail =>
    let msg ← strdupText (detail.map fun d => "ducknng: SQL authorizer error: " ++ d.text)
    let msg ← textOrStrdup msg "ducknng: SQL authorizer error"
    let reason ← strdupText msg
    return (false, msg, { decision with allow := false, httpStatus := 500, reason })
  | .result r =>
    let (allowed, parseErr, decision) ← parseAuthorizerResult r decision
    if allowed then return (true, none, decision)
    else if parseErr = none then
      let err ← perform (.strdup (decision.reason.getD "ducknng: SQL authorizer denied request"))
      return (false, err, decision)
    else return (false, parseErr, decision)

/-- The reason of a decision, or the error text if the decision has none. -/
def reasonOrError (reason err : Option String) : GateProg (Option String) :=
  if noText reason && err.isSome then strdupText err else pure reason

/-- `ducknng_service_authorize_request`; no caller asks for its error text. -/
def authorizeRequest (ctx : AuthorizerContext) : GateProg (Bool × AuthorizerDecision) := do
  match ← networkAdmissionCheck ctx.callerIdentity ctx.remoteAddr with
  | .error e =>
    let reason ← textOrStrdup e "ducknng: peer is not admitted"
    return (false, { AuthorizerDecision.init with allow := false, httpStatus := 403, reason })
  | .ok () =>
    match ← perform .copyAuthorizerSql with
    | none => return (true, .init)
    | some none =>
      let reason ← perform (.strdup "ducknng: failed to copy SQL authorizer")
      return (false, { AuthorizerDecision.init with allow := false, httpStatus := 500, reason })
    | some (some sql) =>
      let (allowed, err, decision) ← runSqlAuthorizer sql ctx .init
      if allowed then return (true, decision)
      else
        let reason ← reasonOrError decision.reason err
        return (false, { decision with
          allow := false
          httpStatus := if decision.httpStatus = 200 then 403 else decision.httpStatus
          reason })

/-! ### Dispatch -/

/-- The type of a frame; the decoder accepts no byte above the last one. -/
def RpcType.ofByte (b : UInt8) : RpcType :=
  if b = RpcType.manifest.code then .manifest
  else if b = RpcType.call.code then .call
  else if b = RpcType.result.code then .result
  else if b = RpcType.error.code then .error
  else .event

/-- What the dispatcher reads of a frame. -/
def Frame.request (frame : Frame) (callerIdentity : Option CStr) : RpcRequest :=
  ⟨RpcType.ofByte frame.type, frame.flags, frame.payload.bytes, callerIdentity⟩

/-- `"manifest"`. -/
def manifestName : List UInt8 := [0x6d, 0x61, 0x6e, 0x69, 0x66, 0x65, 0x73, 0x74]

/-- The name that a frame is looked up under. -/
def Frame.methodName (frame : Frame) : List UInt8 :=
  if RpcType.ofByte frame.type = .manifest then manifestName else frame.name.bytes

/-- The length of the message of a reply. -/
def ReplyFrame.wireLength (frame : ReplyFrame) : Nat :=
  wireHeaderLen + (frame.name.map (·.bytes.length)).getD 0 +
    (frame.error.map String.utf8ByteSize).getD 0 + frame.payload.length

/-- The length of a reply that may be missing. -/
def replyLength (reply : Option ReplyFrame) : Nat := (reply.map ReplyFrame.wireLength).getD 0

/-- `ducknng_error_msg` without a method. -/
def errorReply (code : Status) (message : String) : GateProg (Option ReplyFrame) := do
  let alloc ← perform .allocMessage
  return errorMsg alloc none code message

/-- The lookup of `ducknng_dispatch_request`; other types are refused without one. -/
def lookupMethod (frame : Frame) : GateProg (Option MethodDescriptor) :=
  if RpcType.ofByte frame.type = .manifest ∨ RpcType.ofByte frame.type = .call then
    perform (.findMethod frame.methodName)
  else pure none

/-- `ducknng_dispatch_request` from the lookup on. -/
def dispatchFound (frame : Frame) (callerIdentity : Option CStr) (decision : AuthorizerDecision) :
    GateProg (Option ReplyFrame) := do
  let method ← lookupMethod frame
  let errorAlloc ← perform .allocMessage
  match dispatchGate ⟨.ok (), method, true, errorAlloc⟩ (frame.request callerIdentity) with
  | .error answer => return answer
  | .ok found =>
    let (failed, reply) ← perform (.handler found frame callerIdentity decision)
    let replyAlloc ← perform .allocMessage
    let errorAlloc ← perform .allocMessage
    return dispatchFinish ⟨.ok (), method, replyAlloc, errorAlloc⟩ found failed reply

/-- `ducknng_dispatch_request`. -/
def dispatchFrame (frame : Frame) (callerIdentity : Option CStr) (decision : AuthorizerDecision) :
    GateProg (Option ReplyFrame) := do
  match ← peerAdmissionCheck callerIdentity with
  | .error e => errorReply .unauthorized (e.getD "ducknng: peer identity is not admitted")
  | .ok () =>
    perform .pruneIdleSessions
    dispatchFound frame callerIdentity decision

/-! ### Framed requests -/

/-- The body that the two functions for NNG have in common. -/
def handleRequestFrom (body : Slice) (callerIdentity : Option CStr)
    (remoteAddr : Option SockAddr) : GateProg (Option ReplyFrame) :=
  match decodeFrameBytes body with
  | none => errorReply .invalid "invalid RPC envelope"
  | some frame => do
    match ← networkAdmissionCheck callerIdentity remoteAddr with
    | .error e => errorReply .unauthorized (e.getD "ducknng: peer is not admitted")
    | .ok () =>
      match ← beginRequestOrText callerIdentity with
      | .error e => errorReply .busy (e.getD "ducknng: max inflight requests exceeded")
      | .ok () =>
        let (allowed, decision) ← authorizeRequest
          { frame := some frame, transportFamily := .nng, phase := .rpcRequest, callerIdentity,
            remoteAddr }
        if allowed then
          let reply ← dispatchFrame frame callerIdentity decision
          perform (.endRequest callerIdentity (replyLength reply))
          return reply
        else
          let reply ← errorReply .unauthorized
            (decision.reason.getD "ducknng: request is not authorized")
          perform (.endRequest callerIdentity 0)
          return reply

/-- `ducknng_handle_request`; the identity and the address are those of the pipe. -/
def handleRequest (body : Slice) (callerIdentity : Option CStr) (remoteAddr : Option SockAddr) :
    GateProg (Option ReplyFrame) :=
  handleRequestFrom body callerIdentity remoteAddr

/-- `ducknng_handle_request_with_identity`, which knows no address. -/
def handleRequestWithIdentity (body : Slice) (callerIdentity : Option CStr) :
    GateProg (Option ReplyFrame) :=
  handleRequestFrom body callerIdentity none

/-- What the carrier of an HTTP or WebSocket frame gives along with it. -/
structure HttpCarrier where
  scheme : TransportScheme
  httpMethod : Option CStr
  httpPath : Option CStr
  contentType : Option CStr

/-- What `ducknng_service_authorize_and_dispatch_frame` returns and stores through its out
    pointers. -/
structure HttpFrameAnswer where
  reply : Option ReplyFrame
  status : Nat
  error : Option String

/-- A rejection with its text. -/
def rejectFrame (status : Nat) (text : String) : GateProg HttpFrameAnswer := do
  return ⟨none, status, ← perform (.strdup text)⟩

/-- `ducknng_service_authorize_and_dispatch_frame`. -/
def authorizeAndDispatchFrame (body : Slice) (callerIdentity : Option CStr)
    (remoteAddr : Option SockAddr) (carrier : HttpCarrier) : GateProg HttpFrameAnswer :=
  match decodeFrameBytes body with
  | none => rejectFrame 400 "ducknng: invalid frame envelope"
  | some frame => do
    match ← networkAdmissionCheck callerIdentity remoteAddr with
    | .error e => return ⟨none, 403, ← textOrStrdup e "ducknng: peer is not admitted"⟩
    | .ok () =>
      match ← beginRequestOrText callerIdentity with
      | .error e => return ⟨none, 503, ← textOrStrdup e "ducknng: max inflight requests exceeded"⟩
      | .ok () =>
        let (allowed, decision) ← authorizeRequest
          { frame := some frame, transportFamily := .http, scheme := carrier.scheme,
            phase := .rpcRequest, callerIdentity, remoteAddr, httpMethod := carrier.httpMethod,
            httpPath := carrier.httpPath, contentType := carrier.contentType,
            bodyBytes := body.len }
        if allowed then
          let reply ← dispatchFrame frame callerIdentity decision
          perform (.endRequest callerIdentity (replyLength reply))
          if reply = none then rejectFrame 500 "ducknng: failed to dispatch request"
          else return ⟨reply, 200, none⟩
        else
          let error ← perform (.strdup
            (decision.reason.getD "ducknng: request is not authorized"))
          perform (.endRequest callerIdentity 0)
          return ⟨none, denialStatus decision.httpStatus, error⟩

/-! ### Routes -/

/-- A request for a route, with what the authorizer can see of it. -/
structure RouteArrival where
  request : RouteRequest
  remoteAddr : Option SockAddr
  scheme : TransportScheme
  contentType : Option CStr

/-- The part of `ducknng_http_route_handler` behind the route-local checks. -/
def runRoute (route : HttpRoute) (callerIdentity : Option CStr) : GateProg RouteResponse :=
  match route.responseMode with
  | .events => do
    let found ← perform (.resolveEvent route)
    perform (.endRequest callerIdentity 0)
    match found with
    | .error e => return .text 500 (e.getD "ducknng: event route handler failed")
    | .ok false => return .text 404 "ducknng: event route has no subscription for this request"
    | .ok true =>
      match ← perform (.startRelay route) with
      | .error e => return .text 503 (e.getD "ducknng: event relay did not start")
      | .ok () => return .hijacked
  | .stream => do
    if ← perform .streamBegin then
      perform (.serveStream route)
      perform (.endRequest callerIdentity 0)
      perform .streamEnd
      return .hijacked
    else
      perform (.endRequest callerIdentity 0)
      return .text 503 "ducknng: HTTP server is stopping"
  | .oneshot => do
    let (result, replyBytes) ← perform (.handleRoute route)
    perform (.endRequest callerIdentity replyBytes)
    match result with
    | .error e => return .text 500 (e.getD "ducknng: HTTP route handler failed")
    | .ok () =>
      match ← perform .routeResponse with
      | .error e => return .text 500 (e.getD "ducknng: failed to build HTTP route response")
      | .ok () => return .reply

/-- The part of `ducknng_http_route_handler` behind `ducknng_service_begin_request`. -/
def routeInFlight (a : RouteArrival) (route : HttpRoute) : GateProg RouteResponse := do
  let (allowed, decision) ← authorizeRequest
    { frame := none, transportFamily := .http, scheme := a.scheme, phase := .httpRoute,
      callerIdentity := a.request.callerIdentity, remoteAddr := a.remoteAddr,
      httpMethod := some a.request.method, httpPath := some a.request.path,
      contentType := a.contentType, bodyBytes := a.request.bodyLen }
  if allowed then
    if ← perform (.copyRoute route) then
      let room ← perform .jsonRoom
      match routeLocalAuth room route a.request.callerIdentity with
      | some (status, text) =>
        perform (.endRequest a.request.callerIdentity 0)
        return .text status text
      | none => runRoute route a.request.callerIdentity
    else
      perform (.endRequest a.request.callerIdentity 0)
      return .text 500 "ducknng: failed to copy HTTP route context"
  else
    perform (.endRequest a.request.callerIdentity 0)
    return .text (denialStatus decision.httpStatus)
      (decision.reason.getD "ducknng: request is not authorized")

/-- `ducknng_http_route_handler`. -/
def httpRouteRequest (a : RouteArrival) : GateProg RouteResponse := do
  if ← perform .stopping then return .text 503 "ducknng: HTTP server is stopping"
  else if (← perform .rpcMountPath) = some a.request.path then
    return .text 405 "ducknng: framed RPC mount accepts POST only"
  else if ← perform .readHeaders then
    match ← perform (.lookupRoute a.request.method a.request.path.bytes) with
    | .error e => return .text 500 e
    | .ok none => return .text 404 "ducknng: HTTP route not found"
    | .ok (some route) =>
      if route.requestMaxBytes > 0 ∧ a.request.bodyLen > route.requestMaxBytes then
        return .text 413 "ducknng: HTTP route request body too large"
      else match ← networkAdmissionCheck a.request.callerIdentity a.remoteAddr with
        | .error e => return .text 403 (e.getD "ducknng: peer is not admitted")
        | .ok () =>
          match ← beginRequestOrText a.request.callerIdentity with
          | .error e => return .text 503 (e.getD "ducknng: max inflight requests exceeded")
          | .ok () => routeInFlight a route
  else return .text 500 "ducknng: failed to read HTTP request headers"

/-! ### All ways -/

/-- What is asked of a service: the four ways in, a change of its configuration, and an attempt
    of a handler to open a session, which works on the same table of identities. -/
inductive GateCall where
  | request (body : Slice) (callerIdentity : Option CStr) (remoteAddr : Option SockAddr)
  | requestWithIdentity (body : Slice) (callerIdentity : Option CStr)
  | httpFrame (body : Slice) (callerIdentity : Option CStr) (remoteAddr : Option SockAddr)
      (carrier : HttpCarrier)
  | route (arrival : RouteArrival)
  | configure (change : GateConfig → GateConfig)
  | openSession (maxRate : Nat) (attempt : OpenAttempt)

/-- What comes back. -/
inductive GateAnswer where
  | frame (reply : Option ReplyFrame)
  | http (answer : HttpFrameAnswer)
  | route (response : RouteResponse)
  | done

/-- What a call runs. -/
def gateEntry : GateCall → GateProg GateAnswer
  | .request body callerIdentity remoteAddr => do
    return .frame (← handleRequest body callerIdentity remoteAddr)
  | .requestWithIdentity body callerIdentity => do
    return .frame (← handleRequestWithIdentity body callerIdentity)
  | .httpFrame body callerIdentity remoteAddr carrier => do
    return .http (← authorizeAndDispatchFrame body callerIdentity remoteAddr carrier)
  | .route arrival => do return .route (← httpRouteRequest arrival)
  | .configure change => do
    perform (.configure change)
    return .done
  | .openSession maxRate attempt => do
    perform (.recordSessionOpen maxRate attempt)
    return .done

end

/-! ### A service that lets everybody in -/

/-- A method without restrictions. -/
def openMethod : MethodDescriptor :=
  ⟨⟨manifestName, by decide⟩, false, 0, 0, 0, 0, false⟩

/-- A configuration without allowlists and authorizer. -/
def GateConfig.open : GateConfig where
  shuttingDown := false
  policy := ⟨false, 0, false, [], false, []⟩
  authorizerSql := none
  registry := [openMethod]
  http := ⟨.ok true, none, 0, 1, []⟩

/-- A world in which everything works; an authorizer would deny with status 204. -/
def GateWorld.calm : GateWorld where
  allocPeer := true
  authorizerCopied := true
  authorizer := .result ⟨1, 0,
    [{ name := "allow", type := .boolean, boolValue := some false },
      { name := "status", type := .integer, int32Value := some 204 }]⟩
  handler := (false, .ofPayload 0 [])
  strdup := true
  message := true
  serverStopping := false
  headersRead := true
  lookup := ⟨true, fun _ _ => true, fun _ => true⟩
  routeCopied := true
  jsonRoom := fun _ => true
  resolveEvent := .ok true
  startRelay := .ok ()
  streamBegin := true
  handleRoute := (.ok (), 0)
  routeResponse := .ok ()

/-- The frame of a request for the manifest. -/
def manifestBody : Slice := .buf ⟨[1, 0] ++ List.replicate 20 0, by decide⟩

end Ducknng
