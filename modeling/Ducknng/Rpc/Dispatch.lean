import Ducknng.Service.Peers
import Ducknng.Wire.Core

namespace Ducknng

/-!
# Dispatching a request

`ducknng_dispatch_request`: the checks before a method's handler runs, and what may still
turn its reply into an error afterwards. The handler works on a state of any type.

* `dispatchFinish` — from the handler's reply to the frame that is sent.
* `dispatchRequest` — the whole.
* `dispatchRequest_of_gate`, `dispatchRequest_of_refused` — its two cases.
-/

/-! ### Methods, replies and frames -/

/-- What the dispatcher reads of `ducknng_method_descriptor`. -/
structure MethodDescriptor where
  name : CStr
  disabled : Bool
  acceptedRequestFlags : UInt32
  emittedReplyFlags : UInt32
  maxRequestBytes : Nat
  maxReplyBytes : Nat
  requiresAuth : Bool

/-- `ducknng_method_reply` without a prebuilt message. -/
structure MethodReply where
  type : RpcType
  status : Status
  flags : UInt32
  error : Option String
  payload : List UInt8

/-- `ducknng_method_reply_set_payload`. -/
def MethodReply.ofPayload (flags : UInt32) (payload : List UInt8) : MethodReply :=
  ⟨.result, .ok, flags, none, payload⟩

/-- `ducknng_method_reply_set_error`. -/
def MethodReply.ofError (status : Status) (message : String) : MethodReply :=
  ⟨.error, status, 0, some message, []⟩

/-- A reply as it goes into a frame. -/
structure ReplyFrame where
  type : RpcType
  name : Option CStr
  flags : UInt32
  status : Status
  error : Option String
  payload : List UInt8

/-- What `ducknng_frame_parts_validate` accepts of a reply. -/
def ReplyFrame.acceptable (frame : ReplyFrame) : Bool :=
  let nameLen := (frame.name.map (·.bytes.length)).getD 0
  let errorLen := (frame.error.map String.utf8ByteSize).getD 0
  nameLen ≤ maxMethodNameLen && errorLen ≤ u32Max && frame.flags &&& ~~~rpcFlagsMask = 0 &&
    (if frame.type = .error then
      frame.status ≠ .ok && frame.status.code ≤ Status.disabled.code && errorLen ≠ 0
    else frame.status = .ok && errorLen = 0) &&
    wireHeaderLen + nameLen + errorLen + frame.payload.length ≤ sizeMax

/-- `ducknng_build_reply_status`: no message when the parts are refused or the allocation of
    the message fails. -/
def buildReplyStatus (alloc : Bool) (frame : ReplyFrame) : Option ReplyFrame :=
  if frame.acceptable && alloc then some frame else none

/-- `ducknng_error_msg`. -/
def errorMsg (alloc : Bool) (name : Option CStr) (code : Status) (message : String) :
    Option ReplyFrame :=
  let code := if code = .ok ∨ code.code > Status.disabled.code then .internal else code
  buildReplyStatus alloc ⟨.error, name, 0, code, some message, []⟩

/-! ### The dispatcher -/

/-- What the dispatcher reads of a request. -/
structure RpcRequest where
  type : RpcType
  flags : UInt32
  payload : List UInt8
  callerIdentity : Option CStr

/-- What the calls of the dispatcher answer: the peer admission, the registry lookup and the
    allocations of the reply and of an error message. -/
structure DispatchCalls where
  admission : Except (Option String) Unit
  method : Option MethodDescriptor
  replyAlloc : Bool
  errorAlloc : Bool

/-- The checks of `ducknng_dispatch_request` before the handler: the method, or the answer
    that refuses the request. -/
def dispatchGate (calls : DispatchCalls) (req : RpcRequest) :
    Except (Option ReplyFrame) MethodDescriptor :=
  let refuse := fun name code message => .error (errorMsg calls.errorAlloc name code message)
  match calls.admission with
  | .error e => refuse none .unauthorized (e.getD "ducknng: peer identity is not admitted")
  | .ok () =>
    if req.type ≠ .manifest ∧ req.type ≠ .call then
      refuse none .invalid "ducknng: unsupported message type"
    else match calls.method with
      | none => refuse none .notFound "ducknng: unknown RPC method"
      | some method =>
        if method.disabled then refuse method.name .disabled "ducknng: RPC method is disabled"
        else if req.flags &&& ~~~method.acceptedRequestFlags ≠ 0 then
          refuse method.name .invalid "ducknng: request used unsupported flag bits for this method"
        else if method.maxRequestBytes > 0 ∧ req.payload.length > method.maxRequestBytes then
          refuse method.name .invalid "ducknng: request payload exceeds method limit"
        else if method.requiresAuth = true ∧ CStr.present req.callerIdentity = none then
          refuse method.name .unauthorized "ducknng: method requires verified peer identity"
        else .ok method

/-- The part of `ducknng_dispatch_request` behind the handler, which has failed or not. -/
def dispatchFinish (calls : DispatchCalls) (method : MethodDescriptor) (failed : Bool)
    (reply : MethodReply) : Option ReplyFrame :=
  let refuse := errorMsg calls.errorAlloc (some method.name)
  if failed = true ∧ reply.type ≠ .error then
    refuse .internal "ducknng: method handler failed without structured error reply"
  else if reply.type = .result ∧ reply.flags &&& ~~~method.emittedReplyFlags ≠ 0 then
    refuse .internal "ducknng: method emitted unsupported reply flags"
  else if method.maxReplyBytes > 0 ∧ reply.payload.length > method.maxReplyBytes then
    refuse .busy "ducknng: reply payload exceeds method limit"
  else
    (buildReplyStatus calls.replyAlloc
      ⟨reply.type, some method.name, reply.flags, reply.status, reply.error, reply.payload⟩).or
      (refuse .internal "ducknng: failed to allocate reply message")

/-- `ducknng_dispatch_request`: the state the handler leaves and the frame that is sent, if
    there is memory for one. A handler gets the method and says whether it failed. -/
def dispatchRequest {σ : Type} (calls : DispatchCalls) (req : RpcRequest)
    (handler : MethodDescriptor → σ → σ × Bool × MethodReply) (s : σ) : σ × Option ReplyFrame :=
  match dispatchGate calls req with
  | .error answer => (s, answer)
  | .ok method =>
    let (s', failed, reply) := handler method s
    (s', dispatchFinish calls method failed reply)

/-! ### The two cases -/

section
variable {σ : Type} {calls : DispatchCalls} {req : RpcRequest} {method : MethodDescriptor}
  {handler : MethodDescriptor → σ → σ × Bool × MethodReply} {s : σ}

theorem dispatchRequest_of_gate (h : dispatchGate calls req = .ok method) :
    dispatchRequest calls req handler s = ((handler method s).1,
      dispatchFinish calls method (handler method s).2.1 (handler method s).2.2) := by
  unfold dispatchRequest
  rw [h]

theorem dispatchRequest_of_refused {answer : Option ReplyFrame}
    (h : dispatchGate calls req = .error answer) :
    dispatchRequest calls req handler s = (s, answer) := by
  unfold dispatchRequest
  rw [h]

variable {frame : ReplyFrame}

theorem buildReplyStatus_eq_some {alloc : Bool} {built : ReplyFrame} :
    buildReplyStatus alloc frame = some built ↔
      built = frame ∧ frame.acceptable = true ∧ alloc = true := by
  unfold buildReplyStatus
  split
  · next h =>
    rw [Bool.and_eq_true] at h
    simp [h, eq_comm]
  · next h =>
    rw [Bool.and_eq_true] at h
    simp [h]

theorem errorMsg_type {alloc : Bool} {name : Option CStr} {code : Status} {message : String}
    (h : errorMsg alloc name code message = some frame) :
    frame.type = .error := by
  obtain ⟨rfl, -⟩ := buildReplyStatus_eq_some.1 h
  rfl

/-- An error text is always sent if it is neither empty nor too long. -/
theorem errorMsg_isSome {name : Option CStr} (code : Status) {message : String}
    (hname : (name.map (·.bytes.length)).getD 0 ≤ maxMethodNameLen)
    (hmessage : message.utf8ByteSize ≠ 0 ∧ message.utf8ByteSize ≤ u32Max) :
    ∃ frame, errorMsg true name code message = some frame ∧ frame.type = .error := by
  have hcode : ∀ code : Status,
      (if code = .ok ∨ code.code > Status.disabled.code then .internal else code) ≠ .ok ∧
      (if code = .ok ∨ code.code > Status.disabled.code then .internal else code).code ≤
        Status.disabled.code := by
    intro code
    cases code <;> decide
  obtain ⟨hstatus, hdocumented⟩ := hcode code
  have hsize : wireHeaderLen + (name.map (·.bytes.length)).getD 0 + message.utf8ByteSize ≤
      sizeMax := by
    have hshort := hmessage.2
    simp only [maxMethodNameLen, u32Max, wireHeaderLen, sizeMax] at hname hshort ⊢
    omega
  refine ⟨_, buildReplyStatus_eq_some.2 ⟨rfl, ?_, rfl⟩, rfl⟩
  generalize (if code = .ok ∨ code.code > Status.disabled.code then .internal else code) = status
    at hstatus hdocumented ⊢
  simp [ReplyFrame.acceptable, hname, hstatus, hdocumented, hmessage, hsize]

/-- A frame that is no error is the handler's reply. -/
theorem dispatchFinish_result {failed : Bool} {reply : MethodReply}
    (h : dispatchFinish calls method failed reply = some frame) (htype : frame.type ≠ .error) :
    frame = ⟨reply.type, some method.name, reply.flags, reply.status, reply.error,
      reply.payload⟩ := by
  unfold dispatchFinish at h
  split at h
  · exact absurd (errorMsg_type h) htype
  split at h
  · exact absurd (errorMsg_type h) htype
  split at h
  · exact absurd (errorMsg_type h) htype
  rcases Option.or_eq_some_iff.1 h with hreply | ⟨-, herror⟩
  · exact (buildReplyStatus_eq_some.1 hreply).1
  · exact absurd (errorMsg_type herror) htype

/-- What the dispatcher asks of a result: flags that the method emits, a payload within the
    limit and a frame that can be built. -/
structure MethodDescriptor.Sends (method : MethodDescriptor) (calls : DispatchCalls)
    (flags : UInt32) (payload : List UInt8) : Prop where
  emitted : flags &&& ~~~method.emittedReplyFlags = 0
  limit : method.maxReplyBytes = 0 ∨ payload.length ≤ method.maxReplyBytes
  alloc : calls.replyAlloc = true
  acceptable : ReplyFrame.acceptable ⟨.result, some method.name, flags, .ok, none, payload⟩ = true

theorem MethodDescriptor.Sends.dispatchFinish {flags : UInt32} {payload : List UInt8}
    (h : method.Sends calls flags payload) :
    Ducknng.dispatchFinish calls method false (.ofPayload flags payload) =
      some ⟨.result, some method.name, flags, .ok, none, payload⟩ := by
  have hlimit : ¬(method.maxReplyBytes > 0 ∧ payload.length > method.maxReplyBytes) := by
    rcases h.limit with hzero | hle
    · omega
    · omega
  unfold Ducknng.dispatchFinish
  simp only [MethodReply.ofPayload, Bool.false_eq_true, false_and, if_false, true_and, h.emitted,
    ne_eq, not_true_eq_false, hlimit]
  rw [buildReplyStatus_eq_some.2 ⟨rfl, h.acceptable, h.alloc⟩]
  rfl

/-- The gate lets the method of the registry through. -/
theorem dispatchGate_eq_ok (h : dispatchGate calls req = .ok method) :
    calls.method = some method ∧ ¬method.disabled = true ∧
      ¬req.flags &&& ~~~method.acceptedRequestFlags ≠ 0 ∧
      ¬(method.maxRequestBytes > 0 ∧ req.payload.length > method.maxRequestBytes) ∧
      ¬(method.requiresAuth = true ∧ CStr.present req.callerIdentity = none) := by
  unfold dispatchGate at h
  split at h
  · cases h
  split at h
  · cases h
  split at h
  · cases h
  next found hfound =>
  split at h
  · cases h
  next hdisabled =>
  split at h
  · cases h
  next hflags =>
  split at h
  · cases h
  next hsize =>
  split at h
  · cases h
  next hauth =>
  cases h
  exact ⟨hfound, hdisabled, hflags, hsize, hauth⟩

/-- What a refusal says: a text of its own unless it is the admission's, and the name of the
    method if one was found. -/
theorem dispatchGate_refused {answer : Option ReplyFrame}
    (h : dispatchGate calls req = .error answer) :
    ∃ name code message, answer = errorMsg calls.errorAlloc name code message ∧
      (∀ n, name = some n → ∃ m, calls.method = some m ∧ m.name = n) ∧
      (calls.admission = .ok () → message.utf8ByteSize ≠ 0 ∧ message.utf8ByteSize ≤ u32Max) := by
  unfold dispatchGate at h
  split at h
  · next e he =>
    cases h
    refine ⟨_, _, _, rfl, by simp, fun hok => ?_⟩
    cases he.symm.trans hok
  split at h
  · cases h
    exact ⟨_, _, _, rfl, by simp, fun _ => by decide⟩
  split at h
  · cases h
    exact ⟨_, _, _, rfl, by simp, fun _ => by decide⟩
  next m hm =>
  have hname : ∀ n, some m.name = some n → ∃ m', calls.method = some m' ∧ m'.name = n :=
    fun n hn => ⟨m, hm, Option.some.inj hn⟩
  split at h
  · cases h
    exact ⟨_, _, _, rfl, hname, fun _ => by decide⟩
  split at h
  · cases h
    exact ⟨_, _, _, rfl, hname, fun _ => by decide⟩
  split at h
  · cases h
    exact ⟨_, _, _, rfl, hname, fun _ => by decide⟩
  split at h
  · cases h
    exact ⟨_, _, _, rfl, hname, fun _ => by decide⟩
  · cases h

/-- A refusal is an error frame. -/
theorem dispatchGate_refused_type {answer : Option ReplyFrame}
    (h : dispatchGate calls req = .error answer) (hframe : answer = some frame) :
    frame.type = .error := by
  obtain ⟨name, code, message, rfl, -⟩ := dispatchGate_refused h
  exact errorMsg_type hframe

end

end Ducknng
