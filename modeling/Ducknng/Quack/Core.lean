import Ducknng.Checked
import Ducknng.Lib.Codec
import Ducknng.Lib.LittleEndian

namespace Ducknng

open ByteCodec

/-!
# The Quack byte kernel (`ducknng_quack_core.c`)

Readers and writers for the subset of the serialisation format that carries
batches: booleans, 16-bit field identifiers, base-128 integers and counted byte
strings, together with the bounds every decoder applies.

* `QkStatus` — the stable error kinds of the kernel.
* `Qk.readU8` … `Qk.skip` — the reader; `Qk.writeBytes` … `Qk.writeCounted` —
  the writer.
* `Err`, `Quack.readerResult`, `Quack.writerResult` — how `ducknng_quack.c` turns
  a kernel status into a message, and the adapters built that way.
-/

/-- `ducknng_qk_status`, without `OK`, which is the absence of an error. -/
inductive QkStatus where
  | invalid | overflow | noSpace | truncated
  deriving DecidableEq, Repr

/-- The kernel's reader: the cursor counts `materialized_values`. -/
abbrev QkRead (α : Type) := Step QkStatus α

/-- The kernel's writer. -/
abbrev QkWrite := Emit QkStatus Unit

namespace Qk

/-! ### Reading -/

/-- `ducknng_qk_reader_remaining`. -/
def readerRemaining (r : Cursor) : Nat :=
  if r.off > r.data.length then 0 else r.data.length - r.off

/-- `ducknng_qk_reader_need`. -/
def readerNeed (size : Nat) : QkRead Unit := .atom (fun _ => .need size) fun r =>
  if r.off > r.data.length ∨ size > r.data.length - r.off then .error .truncated
  else .ok ((), r)

theorem readerNeed_apply (size : Nat) (r : Cursor) : readerNeed size r =
    if r.off > r.data.length ∨ size > r.data.length - r.off then .error .truncated
    else .ok ((), r) := rfl

/-- The bytes are there, and the reader has not moved. -/
theorem readerNeed_eq_ok {size : Nat} {r r' : Cursor} {u : Unit} :
    readerNeed size r = .ok (u, r') ↔ (r.off ≤ r.data.length ∧ r.off + size ≤ r.data.length) ∧
      r' = r := by
  rw [readerNeed_apply]
  split
  · next hshort => exact ⟨fun h => (by cases h), fun h => by omega⟩
  · next hthere => exact ⟨fun h => (by cases h; exact ⟨by omega, rfl⟩), fun h => by rw [h.2]⟩

/-- The next `size` bytes, after `reader_need` has been asked for them. -/
def takeBytes (size : Nat) : QkRead (List UInt8) := .atom (fun r => .slice (r.off + size)) fun r =>
  .ok ((r.data.drop r.off).take size, r.advance size 0)

/-- A look at the next `size` bytes, after `reader_need` has been asked for them. -/
def peekBytes (size : Nat) : QkRead (List UInt8) := .atom (fun r => .slice (r.off + size)) fun r =>
  .ok ((r.data.drop r.off).take size, r)

/-- `ducknng_qk_read_u8`. -/
def readU8 : QkRead UInt8 := do
  readerNeed 1
  let bs ← takeBytes 1
  pure (bs.headD 0)

/-- `ducknng_qk_read_boolean`. -/
def readBoolean : QkRead Bool := do
  let value ← readU8
  if value > 1 then throw .invalid
  else pure (value == 1)

/-- `ducknng_qk_peek_u16le`. -/
def peekU16le : QkRead Nat := do
  readerNeed 2
  let bs ← peekBytes 2
  pure (leVal bs)

/-- `ducknng_qk_read_u16le`. -/
def readU16le : QkRead Nat := do
  let value ← peekU16le
  let _ ← takeBytes 2
  pure value

/-- The loop of `ducknng_qk_read_uleb128`; the shift grows by seven, so eleven
    rounds reach the overflow check. -/
def readUleb128Loop : Nat → Nat → Nat → QkRead Nat
  | 0, _, _ => throw .overflow
  | fuel + 1, shift, value =>
    if shift ≥ 64 then throw .overflow
    else do
      let byte ← readU8
      if shift = 63 ∧ byte &&& 0x7e ≠ 0 then throw .overflow
      else
        let value := value ||| ((byte &&& 0x7f).toNat <<< shift)
        if byte &&& 0x80 = 0 then pure value
        else readUleb128Loop fuel (shift + 7) value

/-- `ducknng_qk_read_uleb128`. -/
def readUleb128 : QkRead Nat := readUleb128Loop 11 0 0

/-- The loop of `ducknng_qk_read_sleb128`: the collected bits, the last shift and
    the last byte. -/
def readSleb128Loop : Nat → Nat → Nat → QkRead (Nat × Nat × UInt8)
  | 0, _, _ => throw .overflow
  | fuel + 1, shift, bits =>
    if shift ≥ 64 then throw .overflow
    else do
      let byte ← readU8
      let payload := byte &&& 0x7f
      if shift = 63 ∧ payload ≠ 0 ∧ payload ≠ 0x7f then throw .overflow
      else
        let bits := (bits ||| (payload.toNat <<< shift)) % 2 ^ 64
        if byte &&& 0x80 = 0 then pure (bits, shift, byte)
        else readSleb128Loop fuel (shift + 7) bits

/-- `ducknng_qk_read_sleb128`: the bits are sign-extended from the last group and
    reinterpreted as an `int64_t`. -/
def readSleb128 : QkRead Int := do
  let (bits, shift, byte) ← readSleb128Loop 11 0 0
  let bits :=
    if shift < 63 ∧ byte &&& 0x40 ≠ 0 then (bits ||| ((2 ^ 64 - 1) <<< (shift + 7))) % 2 ^ 64
    else bits
  pure (BitVec.ofNat 64 bits).toInt

/-- `ducknng_qk_read_counted`. -/
def readCounted : QkRead (List UInt8) := do
  let length ← readUleb128
  if length > sizeMax then throw .overflow
  else do
    readerNeed length
    takeBytes length

/-- `ducknng_qk_skip`. -/
def skip (size : Nat) : QkRead Unit := do
  readerNeed size
  let _ ← takeBytes size
  pure ()

/-! ### Writing -/

/-- `ducknng_qk_writer_init_measure`. -/
def writerInitMeasure : Sink := ⟨false, 0, 0, []⟩

/-- `ducknng_qk_writer_init_fixed`. -/
def writerInitFixed (capacity : Nat) : Sink := ⟨true, capacity, 0, []⟩

/-- `ducknng_qk_write_bytes`. -/
def writeBytes (source : List UInt8) : QkWrite := fun w =>
  match sizeAdd w.position source.length with
  | none => .error .overflow
  | some next =>
    if w.storing ∧ next > w.capacity then .error .noSpace
    else .ok ((), { w with
      position := next
      data := if w.storing then w.data ++ source else w.data })

/-- `ducknng_qk_write_u8`. -/
def writeU8 (value : UInt8) : QkWrite := writeBytes [value]

/-- `ducknng_qk_write_u16le`. -/
def writeU16le (value : Nat) : QkWrite := writeBytes (leBytes 2 value)

/-- `ducknng_qk_write_field`. -/
def writeField (field : Nat) : QkWrite := writeU16le field

/-- The loop of `ducknng_qk_write_uleb128`; a 64-bit value has at most ten groups
    of seven bits. -/
def writeUleb128Loop : Nat → Nat → QkWrite
  | 0, _ => pure ()
  | fuel + 1, value => do
    let byte := value % 128
    let value := value / 128
    writeU8 (UInt8.ofNat (if value ≠ 0 then byte + 128 else byte))
    if value ≠ 0 then writeUleb128Loop fuel value else pure ()

/-- `ducknng_qk_write_uleb128`. -/
def writeUleb128 (value : Nat) : QkWrite := writeUleb128Loop 10 value

/-- `ducknng_qk_write_counted`. -/
def writeCounted (source : List UInt8) : QkWrite := do
  writeUleb128 source.length
  writeBytes source

/-- `ducknng_qk_validity_bytes`: a mask of one bit a row in whole 64-bit words;
    `SIZE_MAX` when the count cannot be represented. -/
def validityBytes (rows : Nat) : Nat :=
  if rows > u64Max - 63 then sizeMax else (rows + 63) / 64 * 8

end Qk

/-! ### Messages -/

/-- The message a failing call leaves behind; `none` for a call that returns -1
    without setting one. -/
abbrev Err := Option String

/-- A decoder of `ducknng_quack.c`. -/
abbrev QuackRead (α : Type) := Step Err α

/-- An encoder of `ducknng_quack.c`. -/
abbrev QuackWrite := Emit Err Unit

namespace Quack

/-- `DUCKNNG_QUACK_MAX_MATERIALIZED_VALUES`. -/
def maxMaterializedValues : Nat := 2 ^ 22

/-- Failing with a message, as `ducknng_quack_set_error` followed by `return -1`. -/
def fail {α : Type} (message : String) : QuackRead α := throw (some message)

/-- Failing in an encoder. -/
def failWrite (message : String) : QuackWrite := throw (some message)

/-- The message `ducknng_quack_reader_result` picks for a kernel status. -/
def readerMessage (invalidMessage : String) : QkStatus → String
  | .truncated => "ducknng: truncated quack payload"
  | .overflow => "ducknng: quack integer or byte length exceeds supported size"
  | _ => invalidMessage

/-- `ducknng_quack_reader_result`. -/
def readerResult {α : Type} (invalidMessage : String) (p : QkRead α) : QuackRead α where
  run r := match p r with
    | .ok x => .ok x
    | .error status => .error (some (readerMessage invalidMessage status))
  log := p.log

theorem readerResult_apply {α : Type} (invalidMessage : String) (p : QkRead α) (r : Cursor) :
    readerResult invalidMessage p r =
      (p r).mapError fun status => some (readerMessage invalidMessage status) := by
  show (match p r with | .ok x => _ | .error status => _) = _
  cases p r <;> rfl

/-- Choosing a message does not change what is read. -/
theorem readerResult_eq_ok {α : Type} {invalidMessage : String} {p : QkRead α} {r : Cursor}
    {x : α × Cursor} : readerResult invalidMessage p r = .ok x ↔ p r = .ok x := by
  rw [readerResult_apply]
  cases p r with
  | error status => exact ⟨fun h => (by cases h), fun h => (by cases h)⟩
  | ok y => exact ⟨fun h => (by cases h; rfl), fun h => (by cases h; rfl)⟩

/-- The message `ducknng_quack_writer_result` picks for a kernel status. -/
def writerMessage : QkStatus → String
  | .overflow => "ducknng: quack payload size overflow"
  | .noSpace => "ducknng: measured quack output buffer is too small"
  | _ => "ducknng: invalid quack encoder input"

/-- `ducknng_quack_writer_result`. -/
def writerResult (p : QkWrite) : QuackWrite := fun w =>
  match p w with
  | .ok x => .ok x
  | .error status => .error (some (writerMessage status))

/-- `ducknng_quack_read_boolean`. -/
def readBoolean (message : String) : QuackRead Bool := readerResult message Qk.readBoolean

/-- `ducknng_quack_peek_u16le`. -/
def peekU16le : QuackRead Nat := readerResult "ducknng: invalid quack payload" Qk.peekU16le

/-- `ducknng_quack_read_u16le`. -/
def readU16le : QuackRead Nat := readerResult "ducknng: invalid quack payload" Qk.readU16le

/-- `ducknng_quack_read_expect_field`. -/
def readExpectField (expected : Nat) : QuackRead Unit := do
  let fieldId ← readU16le
  if fieldId ≠ expected then
    fail s!"ducknng: unexpected quack field id {fieldId} (expected {expected})"
  else pure ()

/-- `ducknng_qk_reader_remaining` of the reader at hand. -/
def readerRemaining : QuackRead Nat := do
  let r ← look
  pure (Qk.readerRemaining r)

/-- `ducknng_quack_read_uleb128`. -/
def readUleb128 : QuackRead Nat :=
  readerResult "ducknng: invalid quack uleb128 integer" Qk.readUleb128

/-- `ducknng_quack_read_sleb128`. -/
def readSleb128 : QuackRead Int :=
  readerResult "ducknng: invalid quack sleb128 integer" Qk.readSleb128

/-- `ducknng_quack_read_blob_view`. -/
def readBlobView : QuackRead (List UInt8) :=
  readerResult "ducknng: invalid quack counted byte field" Qk.readCounted

/-- `ducknng_quack_read_string_dup`: identifiers must not contain a NUL. -/
def readStringDup : QuackRead CStr := do
  let data ← readBlobView
  if h : 0 ∈ data then fail "ducknng: quack identifier contains an embedded NUL"
  else pure ⟨data, h⟩

/-- `ducknng_quack_skip_string`. -/
def skipString : QuackRead Unit := do
  let _ ← readBlobView
  pure ()

/-- `ducknng_quack_write_byte`. -/
def writeByte (value : UInt8) : QuackWrite := writerResult (Qk.writeU8 value)

/-- `ducknng_quack_write_field_id`. -/
def writeFieldId (fieldId : Nat) : QuackWrite := writerResult (Qk.writeField fieldId)

/-- `DUCKNNG_QUACK_FIELD_END`. -/
def fieldEnd : Nat := 0xffff

/-- `ducknng_quack_write_field_end`. -/
def writeFieldEnd : QuackWrite := writeFieldId fieldEnd

/-- `ducknng_quack_write_uleb128`. -/
def writeUleb128 (value : Nat) : QuackWrite := writerResult (Qk.writeUleb128 value)

/-- `ducknng_quack_write_blob` and `ducknng_quack_write_string_len`. -/
def writeBlob (data : List UInt8) : QuackWrite := writerResult (Qk.writeCounted data)

/-- A part of the output that is only there under a condition. -/
def writeWhen (condition : Bool) (p : QuackWrite) : QuackWrite := if condition then p else pure ()

/-- `ducknng_quack_write_string`. -/
def writeString (text : CStr) : QuackWrite := writeBlob text.bytes

end Quack

end Ducknng
