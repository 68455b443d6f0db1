import Ducknng.Checked
import Ducknng.Lib.LittleEndian

namespace Ducknng

open ByteCodec

/-!
# The frame codec (`ducknng_wire_core.c`)

Every message of the RPC protocol is one frame: a header of 22 bytes, then the
counted method name, the counted error text and the payload.

* `Buffer`, `Slice` — counted byte strings as the C code sees them.
* `RpcType`, `Status` — the enumerations of `ducknng_wire_core.h`.
* `FrameParts` / `Frame` — what the encoder is given, what the decoder returns.
* `framePartsValidate`, `frameMeasure`, `encodeFramePrefix`, `encodeFrameBytes`,
  `decodeFrameBytes` — the codec.
* `uploadAppendParsePrefix` — the counted prefix of an upload-append body.
-/

/-! ### Counted byte strings -/

/-- A readable region: its length is a `size_t`. -/
@[ext] structure Buffer where
  /-- The bytes of the region. -/
  bytes : List UInt8
  /-- A region is never longer than `SIZE_MAX`. -/
  fits : bytes.length ≤ sizeMax
  deriving DecidableEq, Repr

/-- The part of a buffer that starts at `off` and holds at most `n` bytes. -/
def Buffer.sub (b : Buffer) (off n : Nat) : Buffer where
  bytes := (b.bytes.drop off).take n
  fits := by
    have := b.fits
    simp only [List.length_take, List.length_drop]
    omega

/-- A pointer and a count: either a null pointer with any count, or a readable
    region of exactly that many bytes. -/
inductive Slice where
  /-- A null pointer that still comes with a count. -/
  | null (len : Nat) (fits : len ≤ sizeMax)
  /-- A pointer to a region. -/
  | buf (region : Buffer)
  deriving DecidableEq, Repr

/-- The count that goes with the pointer. -/
def Slice.len : Slice → Nat
  | .null len _ => len
  | .buf region => region.bytes.length

/-- Whether the pointer is null. -/
def Slice.isNull : Slice → Bool
  | .null _ _ => true
  | .buf _ => false

/-- The bytes that can be read through the pointer. -/
def Slice.contents : Slice → List UInt8
  | .null _ _ => []
  | .buf region => region.bytes

theorem Slice.len_le (s : Slice) : s.len ≤ sizeMax := by
  cases s with
  | null _ fits => exact fits
  | buf region => exact region.fits

/-- A pointer that passed the `len > 0 && !ptr` check can be read in full. -/
theorem Slice.contents_length {s : Slice} (h : ¬(0 < s.len ∧ s.isNull)) :
    s.contents.length = s.len := by
  cases s with
  | null len _ =>
    simp only [Slice.len, Slice.isNull, and_true, not_lt, Nat.le_zero] at h
    simp [Slice.len, Slice.contents, h]
  | buf region => rfl

/-! ### Constants of the header -/

/-- `DUCKNNG_WIRE_VERSION`. -/
def wireVersion : UInt8 := 1

/-- `DUCKNNG_MAX_METHOD_NAME_LEN`. -/
def maxMethodNameLen : Nat := 128

/-- `DUCKNNG_WIRE_HEADER_LEN`. -/
def wireHeaderLen : Nat := 22

/-- `DUCKNNG_RPC_STATUS_MASK`: the high byte of the control word. -/
def rpcStatusMask : UInt32 := 0xff000000

/-- `DUCKNNG_RPC_FLAGS_MASK`: the low 24 bits of the control word. -/
def rpcFlagsMask : UInt32 := 0x00ffffff

/-- `DUCKNNG_RPC_STATUS_SHIFT`. -/
def rpcStatusShift : UInt32 := 24

/-- `DUCKNNG_UPLOAD_TOKEN_MAX`. -/
def uploadTokenMax : Nat := 256

/-- `enum ducknng_rpc_type`. -/
inductive RpcType where
  | manifest | call | result | error | event
  deriving DecidableEq, Repr

/-- The byte a frame type is sent as. -/
def RpcType.code : RpcType → UInt8
  | .manifest => 0
  | .call => 1
  | .result => 2
  | .error => 3
  | .event => 4

/-- `enum ducknng_status`; `unspecified` only comes out of the decoder, for a
    legacy error frame with a zero status. -/
inductive Status where
  | ok | invalid | notFound | busy | sqlError | arrowError | internal
  | cancelled | tlsError | unauthorized | disabled | unspecified
  deriving DecidableEq, Repr

/-- The number of a status. -/
def Status.code : Status → Nat
  | .ok => 0
  | .invalid => 1
  | .notFound => 2
  | .busy => 3
  | .sqlError => 4
  | .arrowError => 5
  | .internal => 6
  | .cancelled => 7
  | .tlsError => 8
  | .unauthorized => 9
  | .disabled => 10
  | .unspecified => 255

/-! ### The header -/

/-- The fixed fields of a frame, in wire order. -/
@[ext] structure Header where
  version : UInt8
  type : UInt8
  control : UInt32
  nameLen : UInt32
  errorLen : UInt32
  payloadLen : UInt64
  deriving DecidableEq, Repr

/-- The 22 bytes `ducknng_wire_write_prefix` puts first. -/
def Header.toBytes (h : Header) : List UInt8 :=
  [h.version, h.type] ++ leBytes 4 h.control.toNat ++ leBytes 4 h.nameLen.toNat ++
    leBytes 4 h.errorLen.toNat ++ leBytes 8 h.payloadLen.toNat

/-- `ducknng_wire_le16_read` at an offset. -/
def wireLe16Read (bs : List UInt8) (off : Nat) : Nat := leVal ((bs.drop off).take 2)

/-- `ducknng_wire_le32_read` at an offset. -/
def wireLe32Read (bs : List UInt8) (off : Nat) : UInt32 :=
  UInt32.ofNat (leVal ((bs.drop off).take 4))

/-- `ducknng_wire_le64_read` at an offset. -/
def wireLe64Read (bs : List UInt8) (off : Nat) : UInt64 :=
  UInt64.ofNat (leVal ((bs.drop off).take 8))

/-- The header fields as `ducknng_decode_frame_bytes` reads them. -/
def Header.ofBytes (bs : List UInt8) : Header where
  version := bs.getD 0 0
  type := bs.getD 1 0
  control := wireLe32Read bs 2
  nameLen := wireLe32Read bs 6
  errorLen := wireLe32Read bs 10
  payloadLen := wireLe64Read bs 14

/-! ### Encoding -/

/-- `ducknng_frame_parts`: the counted input of the encoder. -/
structure FrameParts where
  type : UInt8
  /-- An `int32_t`; only the documented codes are accepted. -/
  status : Int32
  flags : UInt32
  name : Slice
  error : Slice
  payload : Slice
  deriving DecidableEq, Repr

/-- `ducknng_frame_parts_validate`: the size of the frame, if the parts are
    acceptable. -/
def framePartsValidate (parts : FrameParts) (requirePayloadPointer : Bool) : Option Nat :=
  if parts.type > RpcType.event.code then none
  else if parts.name.len > maxMethodNameLen then none
  else if parts.error.len > u32Max then none
  else if parts.flags &&& ~~~rpcFlagsMask ≠ 0 then none
  else if parts.name.len > 0 ∧ parts.name.isNull then none
  else if parts.error.len > 0 ∧ parts.error.isNull then none
  else if requirePayloadPointer ∧ parts.payload.len > 0 ∧ parts.payload.isNull then none
  else if parts.type = RpcType.error.code ∧
      (parts.status.toInt ≤ Status.ok.code ∨ parts.status.toInt > Status.disabled.code ∨
        parts.error.len = 0) then none
  else if parts.type ≠ RpcType.error.code ∧
      (parts.status.toInt ≠ Status.ok.code ∨ parts.error.len ≠ 0) then none
  else do
    let total ← sizeAdd wireHeaderLen parts.name.len
    let total ← sizeAdd total parts.error.len
    sizeAdd total parts.payload.len

/-- `ducknng_frame_measure`. -/
def frameMeasure (parts : FrameParts) : Option Nat :=
  framePartsValidate parts true

/-- The header of a frame with the given parts; the counts are cast to their
    wire widths as in the source. -/
def FrameParts.header (parts : FrameParts) : Header where
  version := wireVersion
  type := parts.type
  control := parts.flags ||| (parts.status.toUInt32 <<< rpcStatusShift)
  nameLen := UInt32.ofNat parts.name.len
  errorLen := UInt32.ofNat parts.error.len
  payloadLen := UInt64.ofNat parts.payload.len

/-- `ducknng_wire_write_prefix`: the bytes it stores from offset 0 on. -/
def wireWritePrefix (parts : FrameParts) : List UInt8 :=
  parts.header.toBytes ++ parts.name.contents ++ parts.error.contents

/-- What an encoder call leaves behind: its return code, `*written`, and the
    destination region. -/
structure EncodeOutcome where
  ok : Bool
  written : Nat
  destination : List UInt8
  deriving DecidableEq, Repr

/-- Storing bytes at the start of a region. -/
def overwrite (region bs : List UInt8) : List UInt8 := bs ++ region.drop bs.length

/-- `ducknng_encode_frame_prefix`. -/
def encodeFramePrefix (parts : FrameParts) (destination : Slice) : EncodeOutcome :=
  match framePartsValidate parts false with
  | none => ⟨false, 0, destination.contents⟩
  | some required =>
    let prefixSize := required - parts.payload.len
    if destination.isNull ∨ destination.len < prefixSize then
      ⟨false, prefixSize, destination.contents⟩
    else ⟨true, prefixSize, overwrite destination.contents (wireWritePrefix parts)⟩

/-- `ducknng_encode_frame_bytes`. -/
def encodeFrameBytes (parts : FrameParts) (destination : Slice) : EncodeOutcome :=
  match framePartsValidate parts true with
  | none => ⟨false, 0, destination.contents⟩
  | some required =>
    if destination.isNull ∨ destination.len < required then
      ⟨false, required, destination.contents⟩
    else
      ⟨true, required,
        overwrite destination.contents (wireWritePrefix parts ++ parts.payload.contents)⟩

/-! ### Decoding -/

/-- `ducknng_frame`: a decoded frame; the three strings borrow from the input. -/
@[ext] structure Frame where
  version : UInt8
  type : UInt8
  status : UInt8
  flags : UInt32
  name : Buffer
  error : Buffer
  payload : Buffer
  deriving DecidableEq, Repr

/-- The status byte of a control word. -/
def controlStatus (control : UInt32) : UInt32 :=
  (control &&& rpcStatusMask) >>> rpcStatusShift

/-- `ducknng_decode_frame_bytes`; `none` is the return code -1, after which no
    caller reads the output frame. -/
def decodeFrameBytes (data : Slice) : Option Frame :=
  match data with
  | .null _ _ => none
  | .buf region =>
    if region.bytes.length < wireHeaderLen then none
    else
      let h := Header.ofBytes region.bytes
      if h.version ≠ wireVersion ∨ h.type > RpcType.event.code then none
      else
        let status := controlStatus h.control
        if h.nameLen.toNat > maxMethodNameLen then none
        else do
          let fixedLen ← sizeAdd wireHeaderLen h.nameLen.toNat
          let fixedLen ← sizeAdd fixedLen h.errorLen.toNat
          if region.bytes.length < fixedLen then none
          else if h.payloadLen.toNat ≠ region.bytes.length - fixedLen then none
          else if h.type = RpcType.error.code ∧
              (status.toNat > Status.disabled.code ∨ h.errorLen.toNat = 0) then none
          else if h.type ≠ RpcType.error.code ∧
              (status.toNat ≠ Status.ok.code ∨ h.errorLen.toNat ≠ 0) then none
          else
            some {
              version := h.version
              type := h.type
              -- A zero status of an error frame is reported as "unspecified".
              status :=
                if h.type = RpcType.error.code ∧ status.toNat = Status.ok.code then
                  UInt8.ofNat Status.unspecified.code
                else status.toUInt8
              flags := h.control &&& rpcFlagsMask
              name := region.sub wireHeaderLen h.nameLen.toNat
              error := region.sub (wireHeaderLen + h.nameLen.toNat) h.errorLen.toNat
              payload := region.sub (wireHeaderLen + h.nameLen.toNat + h.errorLen.toNat)
                h.payloadLen.toNat }

/-- The decoded fields handed back to the encoder. -/
def Frame.parts (frame : Frame) : FrameParts where
  type := frame.type
  status := Int32.ofNat frame.status.toNat
  flags := frame.flags
  name := .buf frame.name
  error := .buf frame.error
  payload := .buf frame.payload

/-! ### The upload-append prefix -/

/-- What `ducknng_upload_append_parse_prefix` stores through its out pointers. -/
structure UploadPrefix where
  sessionId : Nat
  token : List UInt8
  quackOffset : Nat
  deriving DecidableEq, Repr

/-- `ducknng_upload_append_parse_prefix`: a session id, a token length and the
    token, before the Quack body. -/
def uploadAppendParsePrefix (payload : List UInt8) : Option UploadPrefix :=
  if payload.length < 10 then none
  else
    let tokenLen := wireLe16Read payload 8
    if tokenLen = 0 ∨ tokenLen > uploadTokenMax ∨ tokenLen > payload.length - 10 then none
    else some {
      sessionId := (wireLe64Read payload 0).toNat
      token := (payload.drop 10).take tokenLen
      quackOffset := 10 + tokenLen }

end Ducknng
