import Ducknng.Rpc.Dispatch
import Ducknng.Wire.RoundTrip

namespace Ducknng

open List

/-!
# Replies that are built in place

A handler may encode its payload straight into the message, behind room for the header and the
method's name, which the dispatcher fills in later.

* `encodeFrameBytes_prefix` — filling in the prefix gives the whole frame.
-/

/-- `ducknng_method_reply` with a prebuilt message. -/
structure PrebuiltReply where
  type : RpcType
  flags : UInt32
  message : Buffer
  prefixSize : Nat
  payloadLen : Nat

/-- The parts of a reply without error text. -/
def resultParts (type : RpcType) (flags : UInt32) (name : Buffer) (payload : Slice) : FrameParts :=
  ⟨type.code, 0, flags, .buf name, .null 0 (Nat.zero_le _), payload⟩

/-- The part of `ducknng_dispatch_request` behind a handler that has built its message and has
    failed or not: the bytes that are sent, or the status and text of the error that is sent
    instead. -/
def dispatchPrebuilt (method : MethodDescriptor) (failed : Bool) (reply : PrebuiltReply) :
    Except (Status × String) (List UInt8) :=
  if failed = true ∧ reply.type ≠ .error then
    .error (.internal, "ducknng: method handler failed without structured error reply")
  else if reply.type = .result ∧ reply.flags &&& ~~~method.emittedReplyFlags ≠ 0 then
    .error (.internal, "ducknng: method emitted unsupported reply flags")
  else if method.maxReplyBytes > 0 ∧ reply.payloadLen > method.maxReplyBytes then
    .error (.busy, "ducknng: reply payload exceeds method limit")
  else if h : wireHeaderLen + method.name.bytes.length + reply.payloadLen ≤ sizeMax ∧
      reply.prefixSize = wireHeaderLen + method.name.bytes.length ∧
      reply.message.bytes.length = reply.prefixSize + reply.payloadLen then
    let parts := resultParts reply.type reply.flags ⟨method.name.bytes, by omega⟩
      (.null reply.payloadLen (by omega))
    let out := encodeFramePrefix parts (.buf (reply.message.sub 0 reply.prefixSize))
    if out.ok ∧ out.written = reply.prefixSize then
      .ok (out.destination ++ reply.message.bytes.drop reply.prefixSize)
    else .error (.internal, "ducknng: failed to encode prebuilt reply prefix")
  else .error (.internal, "ducknng: prebuilt reply message has inconsistent sizing")

/-- Filling in the prefix of a message gives the whole frame. -/
theorem encodeFrameBytes_prefix (type : RpcType) (flags : UInt32) {name payload message : Buffer}
    {reserved : List UInt8} (hmessage : message.bytes = reserved ++ payload.bytes)
    (hreserved : reserved.length = wireHeaderLen + name.bytes.length) :
    ∃ ok front, encodeFramePrefix (resultParts type flags name
        (.null payload.bytes.length payload.fits)) (.buf (message.sub 0 reserved.length)) =
          ⟨ok, if ok then reserved.length else 0, front⟩ ∧
      encodeFrameBytes (resultParts type flags name (.buf payload)) (.buf message) =
        if ok then ⟨true, message.bytes.length, front ++ payload.bytes⟩
        else ⟨false, 0, message.bytes⟩ := by
  -- the payload is not needed to check the frame, only its length
  have hsame : framePartsValidate (resultParts type flags name
      (.null payload.bytes.length payload.fits)) false =
        framePartsValidate (resultParts type flags name (.buf payload)) true := by
    simp [framePartsValidate, resultParts, Slice.len, Slice.isNull]
  have hsub : (message.sub 0 reserved.length).bytes = reserved := by
    simp [Buffer.sub, hmessage]
  rw [encodeFramePrefix, hsame]
  cases hval : framePartsValidate (resultParts type flags name (.buf payload)) true with
  | none => exact ⟨false, _, rfl, by rw [encodeFrameBytes, hval]; rfl⟩
  | some required =>
    obtain ⟨hv, rfl⟩ := framePartsValidate_eq_some.1 hval
    have hsize : (resultParts type flags name (.buf payload)).size = message.bytes.length := by
      rw [hmessage, length_append, hreserved]
      rfl
    have hlen := FrameParts.frameBytes_length hv
    rw [FrameParts.frameBytes, length_append, hsize, hmessage, length_append] at hlen
    have hfront := Nat.add_right_cancel hlen
    refine ⟨true, wireWritePrefix (resultParts type flags name (.buf payload)), ?_, ?_⟩
    · have hover : overwrite reserved (wireWritePrefix (resultParts type flags name
          (.buf payload))) = wireWritePrefix (resultParts type flags name (.buf payload)) := by
        rw [overwrite, hfront, drop_length, append_nil]
      simp only [Slice.isNull, Slice.len, Slice.contents, hsub, hsize, hmessage, length_append]
      rw [if_neg (by simp [resultParts])]
      exact congrArg₂ (EncodeOutcome.mk true) (Nat.add_sub_cancel ..) hover
    · rw [encodeFrameBytes_of_valid hv (Nat.le_of_eq hsize), hsize, drop_length, append_nil]
      rfl

/-- **Prebuilt replies.** A reply that was built in place is sent as the frame that the encoder
    makes of its type, flags, name and payload, exactly if the handler has not failed, the method
    emits the flags, the payload is within the method's limit and the encoder accepts the parts. -/
theorem prebuilt_ordinary (method : MethodDescriptor) (failed : Bool) (type : RpcType)
    (flags : UInt32) (name payload message : Buffer) (reserved bytes : List UInt8)
    (hname : name.bytes = method.name.bytes) (hmessage : message.bytes = reserved ++ payload.bytes)
    (hreserved : reserved.length = wireHeaderLen + name.bytes.length) :
    dispatchPrebuilt method failed
        ⟨type, flags, message, reserved.length, payload.bytes.length⟩ = .ok bytes ↔
      ¬(failed = true ∧ type ≠ .error) ∧
      ¬(type = .result ∧ flags &&& ~~~method.emittedReplyFlags ≠ 0) ∧
      ¬(method.maxReplyBytes > 0 ∧ payload.bytes.length > method.maxReplyBytes) ∧
      encodeFrameBytes (resultParts type flags name (.buf payload)) (.buf message) =
        ⟨true, message.bytes.length, bytes⟩ := by
  have hfits := message.fits
  have hlen : message.bytes.length = reserved.length + payload.bytes.length := by
    rw [hmessage, length_append]
  have hrest : message.bytes.drop reserved.length = payload.bytes := by rw [hmessage, drop_left]
  have hsame : (⟨method.name.bytes, hname ▸ name.fits⟩ : Buffer) = name := Buffer.ext hname.symm
  obtain ⟨ok, front, hprefix, hwhole⟩ := encodeFrameBytes_prefix type flags hmessage hreserved
  unfold dispatchPrebuilt
  split
  · next hfailed => exact ⟨fun h => (by cases h), fun h => absurd hfailed h.1⟩
  next hfailed =>
  split
  · next hflags => exact ⟨fun h => (by cases h), fun h => absurd hflags h.2.1⟩
  next hflags =>
  split
  · next hlimit => exact ⟨fun h => (by cases h), fun h => absurd hlimit h.2.2.1⟩
  next hlimit =>
  rw [dif_pos (by dsimp only; rw [hname] at hreserved; omega)]
  simp only [hsame, hprefix, hrest, hwhole]
  cases ok with
  | false => simp
  | true => simp [hfailed, hflags, hlimit]

/-- A method that emits no flags. -/
def flaglessMethod : MethodDescriptor := ⟨.a, false, 0, 0, 0, 0, false⟩

/-- A message with room for the header and the method's name before a payload of two bytes. -/
def unheadedMessage : Buffer := ⟨replicate 23 0 ++ [7, 8], by decide⟩

theorem prebuilt_ordinary_flagless :
    ∃ bytes, dispatchPrebuilt flaglessMethod false ⟨.result, 0, unheadedMessage, 23, 2⟩ =
      .ok bytes :=
  ⟨_, (prebuilt_ordinary flaglessMethod false .result 0 ⟨CStr.a.bytes, by decide⟩
    ⟨[7, 8], by decide⟩ unheadedMessage (replicate 23 0) _ rfl rfl rfl).2
      ⟨by decide, by decide, by decide, rfl⟩⟩

/-- Flags that the method does not emit are refused, also in a frame that could be encoded. -/
theorem prebuilt_refused :
    dispatchPrebuilt flaglessMethod false ⟨.result, 1, unheadedMessage, 23, 2⟩ =
      .error (.internal, "ducknng: method emitted unsupported reply flags") ∧
    (encodeFrameBytes (resultParts .result 1 ⟨CStr.a.bytes, by decide⟩ (.buf ⟨[7, 8], by decide⟩))
      (.buf unheadedMessage)).ok = true :=
  ⟨rfl, rfl⟩

end Ducknng
