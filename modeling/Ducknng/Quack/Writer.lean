import Ducknng.Quack.Primitives

namespace Ducknng

open Option List ByteCodec

/-!
# The writer of the byte kernel, with its status

The encoders stop at the first write that fails, so their model only keeps what a
successful write leaves behind. This module has the writer as it is declared: a mode, a
position, a capacity, the memory at the destination and a status that stays once it is set.

* `QkWriter`, `WriteOp` — the writer and its operations; `QkWriter.run` — a sequence of them.
* `QkWriter.measured_exact` — what was measured is what a large enough buffer receives.
-/

/-! ### The writer -/

/-- `ducknng_qk_writer_mode`. -/
inductive WriterMode where
  | measure | fixed
  deriving DecidableEq, Repr

/-- `ducknng_qk_writer`: `data` is the memory from the destination on, which may go on
    behind the capacity; no status stands for `DUCKNNG_QK_OK`. -/
structure QkWriter where
  data : List UInt8
  capacity : Nat
  position : Nat
  mode : WriterMode
  status : Option QkStatus
  deriving DecidableEq, Repr

/-- A pointer and a size as an operation receives them. -/
inductive Source where
  | null (size : Nat)
  | memory (bytes : List UInt8)
  deriving DecidableEq, Repr

def Source.size : Source → Nat
  | .null size => size
  | .memory bytes => bytes.length

/-- What is there to copy. -/
def Source.bytes : Source → List UInt8
  | .null _ => []
  | .memory bytes => bytes

/-- Whether there is a pointer where there has to be one. -/
def Source.valid : Source → Bool
  | .null size => size = 0
  | .memory _ => true

variable {source : Source}

theorem Source.length_bytes (h : source.valid = true) :
    source.bytes.length = source.size := by
  cases source with
  | null size =>
    have hzero : size = 0 := of_decide_eq_true h
    rw [hzero]
    rfl
  | memory bytes => rfl

/-- `memcpy` into a memory. -/
def copyAt (memory : List UInt8) (position : Nat) (bytes : List UInt8) : List UInt8 :=
  memory.take position ++ bytes ++ memory.drop (position + bytes.length)

namespace QkWriter

/-- An operation on a writer: whether it returned 0, and the writer afterwards. -/
abbrev Action := QkWriter → Bool × QkWriter

/-- `if (first != 0) return -1;` and then the second. -/
def andThen (first second : Action) : Action := fun w =>
  match first w with
  | (true, w) => second w
  | (false, w) => (false, w)

/-- `ducknng_qk_writer_fail`. -/
def writerFail (w : QkWriter) (status : QkStatus) : Bool × QkWriter :=
  (false, { w with status := some status })

/-- `ducknng_qk_writer_init_measure`. -/
def writerInitMeasure : QkWriter := ⟨[], 0, 0, .measure, none⟩

/-- `ducknng_qk_writer_init_fixed`; no destination stands for a null pointer. -/
def writerInitFixed (destination : Option (List UInt8)) (capacity : Nat) : QkWriter :=
  ⟨destination.getD [], capacity, 0, .fixed,
    if capacity > 0 ∧ destination = none then some .invalid else none⟩

/-- `ducknng_qk_writer_size`. -/
def writerSize (w : QkWriter) : Nat := w.position

/-- `ducknng_qk_write_bytes`. -/
def writeBytes (source : Source) : Action := fun w =>
  if w.status ≠ none then (false, w)
  else if !source.valid then w.writerFail .invalid
  else
    match sizeAdd w.position source.size with
    | none => w.writerFail .overflow
    | some next =>
      match w.mode with
      | .fixed =>
        if next > w.capacity then w.writerFail .noSpace
        else (true, { w with data := copyAt w.data w.position source.bytes, position := next })
      | .measure => (true, { w with position := next })

/-- `ducknng_qk_write_u8`. -/
def writeU8 (value : UInt8) : Action := writeBytes (.memory [value])

/-- `ducknng_qk_write_u16le` and `ducknng_qk_write_field`. -/
def writeU16le (value : UInt16) : Action := writeBytes (.memory (leBytes 2 value.toNat))

/-- The loop of `ducknng_qk_write_uleb128`; a 64-bit value has at most ten groups of
    seven bits. -/
def writeUleb128Loop : Nat → Nat → Action
  | 0, _ => fun w => (true, w)
  | fuel + 1, value =>
    let byte := value % 128
    let value := value / 128
    andThen (writeU8 (UInt8.ofNat (if value ≠ 0 then byte + 128 else byte)))
      (if value ≠ 0 then writeUleb128Loop fuel value else fun w => (true, w))

/-- `ducknng_qk_write_uleb128`. -/
def writeUleb128 (value : UInt64) : Action := writeUleb128Loop 10 value.toNat

/-- One group of `ducknng_qk_write_sleb128`: the byte, whether more follow, and what is left
    to write. The division rounds down. -/
def sleb128Group (value : Int) : UInt8 × Bool × Int :=
  let next := value.tdiv 128
  let next := if value < 0 ∧ value.tmod 128 ≠ 0 then next - 1 else next
  let byte := UInt8.ofNat (value - next * 128).toNat
  let sign := byte &&& 0x40 ≠ 0
  let more := ¬((next = 0 ∧ ¬sign) ∨ (next = -1 ∧ sign))
  (if more then byte ||| 0x80 else byte, more, next)

/-- The loop of `ducknng_qk_write_sleb128`; a 64-bit value has at most ten groups. -/
def writeSleb128Loop : Nat → Int → Action
  | 0, _ => fun w => (true, w)
  | fuel + 1, value =>
    let group := sleb128Group value
    andThen (writeU8 group.1)
      (if group.2.1 then writeSleb128Loop fuel group.2.2 else fun w => (true, w))

/-- `ducknng_qk_write_sleb128`. -/
def writeSleb128 (value : Int64) : Action := writeSleb128Loop 10 value.toInt

/-- `ducknng_qk_write_counted`. -/
def writeCounted (source : Source) : Action :=
  andThen (writeUleb128 (UInt64.ofNat source.size)) (writeBytes source)

end QkWriter

/-- A call of one of the writer's operations. -/
inductive WriteOp where
  | bytes (source : Source)
  | u8 (value : UInt8)
  | u16le (value : UInt16)
  | uleb128 (value : UInt64)
  | sleb128 (value : Int64)
  | counted (source : Source)

namespace QkWriter

/-- The call itself. -/
def call : WriteOp → Action
  | .bytes source => writeBytes source
  | .u8 value => writeU8 value
  | .u16le value => writeU16le value
  | .uleb128 value => writeUleb128 value
  | .sleb128 value => writeSleb128 value
  | .counted source => writeCounted source

/-- Calls one after another, whatever they return: their results and the last writer. -/
def run : List WriteOp → QkWriter → List Bool × QkWriter
  | [], w => ([], w)
  | op :: ops, w =>
    let first := call op w
    let rest := run ops first.2
    (first.1 :: rest.1, rest.2)

/-! ### Groups of a signed value -/

/-- The bits of a group. -/
theorem group_bits : ∀ v < 128, (UInt8.ofNat v &&& 0x40 ≠ 0 ↔ 64 ≤ v) ∧
    UInt8.ofNat v ||| 0x80 = UInt8.ofNat (v + 128) := by
  decide +kernel

/-- A group is the lowest seven bits, the quotient is rounded down, and no group follows a
    value of seven bits. -/
theorem sleb128Group_eq (value : Int) :
    sleb128Group value = if -64 ≤ value ∧ value < 64
      then (UInt8.ofNat (value % 128).toNat, false, value / 128)
      else (UInt8.ofNat ((value % 128).toNat + 128), true, value / 128) := by
  have hsign : Int.sign 128 = 1 := rfl
  have hnext : (if value < 0 ∧ value.tmod 128 ≠ 0 then value.tdiv 128 - 1
      else value.tdiv 128) = value / 128 := by
    rw [Int.tdiv_eq_ediv, Int.tmod_eq_emod]
    split_ifs <;> omega
  have hlow : value - value / 128 * 128 = value % 128 := by omega
  obtain ⟨hbit, hor⟩ := group_bits (value % 128).toNat (by omega)
  unfold sleb128Group
  simp only [hnext, hlow, hbit, hor]
  split_ifs <;> simp <;> omega

/-! ### Operations as plain writes -/

/-- The writer after a sequence of plain writes. -/
def putAll (sources : List Source) (w : QkWriter) : QkWriter :=
  sources.foldl (fun w source => (writeBytes source w).2) w

theorem putAll_append (a b : List Source) (w : QkWriter) :
    putAll (a ++ b) w = putAll b (putAll a w) := foldl_append

/-- A writer that has failed refuses every write and stays as it is. -/
theorem writeBytes_failed {w : QkWriter} (h : w.status ≠ none) (source : Source) :
    writeBytes source w = (false, w) := by
  unfold writeBytes
  rw [if_pos h]

theorem putAll_failed {w : QkWriter} (h : w.status ≠ none) (sources : List Source) :
    putAll sources w = w := by
  induction sources with
  | nil => rfl
  | cons source sources ih =>
    show putAll sources (writeBytes source w).2 = w
    rw [writeBytes_failed h, ih]

/-- The plain writes of the loop over the groups of an unsigned value. -/
def uleb128Pieces : Nat → Nat → List Source
  | 0, _ => []
  | fuel + 1, value =>
    .memory [UInt8.ofNat (if value / 128 ≠ 0 then value % 128 + 128 else value % 128)] ::
      if value / 128 ≠ 0 then uleb128Pieces fuel (value / 128) else []

/-- The same for a signed value. -/
def sleb128Pieces : Nat → Int → List Source
  | 0, _ => []
  | fuel + 1, value =>
    .memory [(sleb128Group value).1] ::
      if (sleb128Group value).2.1 then sleb128Pieces fuel (sleb128Group value).2.2 else []

/-- Whether the operation is these plain writes one after another: it succeeds if all of
    them do, and a writer that has failed is left alone. -/
def Writes (action : Action) (sources : List Source) : Prop :=
  ∀ w : QkWriter, w.status = none →
    action w = ((putAll sources w).status.isNone, putAll sources w)

/-- Whether the operation fails on a writer that has failed. -/
def Sticks (action : Action) : Prop := ∀ w : QkWriter, w.status ≠ none → action w = (false, w)

theorem sticks_writeBytes (source : Source) : Sticks (writeBytes source) :=
  fun _ h => writeBytes_failed h source

theorem Sticks.andThen {first : Action} (h : Sticks first) (second : Action) :
    Sticks (andThen first second) := by
  intro w hw
  unfold QkWriter.andThen
  rw [h w hw]

theorem writes_done : Writes (fun w => (true, w)) [] := by
  intro w hw
  show (true, w) = (w.status.isNone, w)
  rw [hw]
  rfl

theorem Writes.andThen {first second : Action} {a b : List Source} (hfirst : Writes first a)
    (hsecond : Writes second b) : Writes (andThen first second) (a ++ b) := by
  intro w hw
  unfold QkWriter.andThen
  rw [hfirst w hw, putAll_append]
  cases hstatus : (putAll a w).status with
  | none => exact hsecond _ hstatus
  | some status =>
    have hfailed : (putAll a w).status ≠ none := by
      rw [hstatus]
      exact some_ne_none status
    rw [putAll_failed hfailed, hstatus]
    rfl

theorem Writes.ite {P : Prop} [Decidable P] {action other : Action} {a b : List Source}
    (h : Writes action a) (h' : Writes other b) :
    Writes (if P then action else other) (if P then a else b) := by
  split
  · exact h
  · exact h'

/-- A single plain write. -/
theorem writes_writeBytes (source : Source) : Writes (writeBytes source) [source] := by
  intro w hw
  show writeBytes source w = ((writeBytes source w).2.status.isNone, (writeBytes source w).2)
  have hok : ¬w.status ≠ none := not_not.2 hw
  unfold writeBytes
  rw [if_neg hok]
  split
  · rfl
  split
  · rfl
  split
  · split
    · rfl
    · rw [hw]
      rfl
  · rw [hw]
    rfl

theorem writes_writeUleb128Loop (fuel value : Nat) :
    Writes (writeUleb128Loop fuel value) (uleb128Pieces fuel value) := by
  induction fuel generalizing value with
  | zero => exact writes_done
  | succ fuel ih =>
    exact (writes_writeBytes _).andThen (.ite (ih _) writes_done)

theorem writes_writeSleb128Loop (fuel : Nat) (value : Int) :
    Writes (writeSleb128Loop fuel value) (sleb128Pieces fuel value) := by
  induction fuel generalizing value with
  | zero => exact writes_done
  | succ fuel ih =>
    exact (writes_writeBytes _).andThen (.ite (ih _) writes_done)

end QkWriter

/-- The plain writes of an operation. -/
def WriteOp.pieces : WriteOp → List Source
  | .bytes source => [source]
  | .u8 value => [.memory [value]]
  | .u16le value => [.memory (leBytes 2 value.toNat)]
  | .uleb128 value => QkWriter.uleb128Pieces 10 value.toNat
  | .sleb128 value => QkWriter.sleb128Pieces 10 value.toInt
  | .counted source => QkWriter.uleb128Pieces 10 (UInt64.ofNat source.size).toNat ++ [source]

namespace QkWriter

/-- **Every operation is a sequence of plain writes.** -/
theorem writes_call (op : WriteOp) : Writes (call op) op.pieces := by
  cases op with
  | bytes source => exact writes_writeBytes source
  | u8 value => exact writes_writeBytes _
  | u16le value => exact writes_writeBytes _
  | uleb128 value => exact writes_writeUleb128Loop 10 _
  | sleb128 value => exact writes_writeSleb128Loop 10 _
  | counted source => exact (writes_writeUleb128Loop 10 _).andThen (writes_writeBytes source)

/-- Every operation starts with a plain write. -/
theorem sticks_call (op : WriteOp) : Sticks (call op) := by
  cases op with
  | bytes source => exact sticks_writeBytes source
  | u8 value => exact sticks_writeBytes _
  | u16le value => exact sticks_writeBytes _
  | uleb128 value => exact (sticks_writeBytes _).andThen _
  | sleb128 value => exact (sticks_writeBytes _).andThen _
  | counted source => exact ((sticks_writeBytes _).andThen _).andThen _

/-- The writer after a sequence of operations. -/
theorem run_snd (ops : List WriteOp) (w : QkWriter) :
    (run ops w).2 = putAll (ops.flatMap WriteOp.pieces) w := by
  induction ops generalizing w with
  | nil => rfl
  | cons op ops ih =>
    show (run ops (call op w).2).2 = _
    rw [ih, flatMap_cons, putAll_append]
    by_cases hw : w.status = none
    · rw [writes_call op w hw]
    · rw [sticks_call op w hw, putAll_failed hw op.pieces]

/-- What an operation returns is what the status says afterwards. -/
theorem call_fst (op : WriteOp) (w : QkWriter) : (call op w).1 = (call op w).2.status.isNone := by
  by_cases hw : w.status = none
  · rw [writes_call op w hw]
  · rw [sticks_call op w hw]
    exact (isNone_eq_false_iff.2 (isSome_iff_ne_none.2 hw)).symm

variable {w : QkWriter}

/-- After a failure every operation fails. -/
theorem run_failed (h : w.status ≠ none) (ops : List WriteOp) :
    ∀ rc ∈ (run ops w).1, rc = false := by
  induction ops with
  | nil => exact forall_mem_nil _
  | cons op ops ih =>
    have hcall := sticks_call op w h
    refine forall_mem_cons.2 ⟨by rw [hcall], ?_⟩
    rw [hcall]
    exact ih

/-- **A failure stays**: no operation succeeds after one that failed. -/
theorem run_sticks (ops : List WriteOp) (w : QkWriter) :
    (run ops w).1.Pairwise fun earlier later => earlier = false → later = false := by
  induction ops generalizing w with
  | nil => exact .nil
  | cons op ops ih =>
    refine .cons ?_ (ih _)
    intro later hmem hfalse
    rw [call_fst, isNone_eq_false_iff, isSome_iff_ne_none] at hfalse
    exact run_failed hfalse ops later hmem

/-- All operations succeed if the writer has not failed in the end. -/
theorem run_succeeds (h : w.status = none) (ops : List WriteOp) :
    (∀ rc ∈ (run ops w).1, rc = true) ↔ (run ops w).2.status = none := by
  induction ops generalizing w with
  | nil => exact ⟨fun _ => h, fun _ _ hmem => absurd hmem not_mem_nil⟩
  | cons op ops ih =>
    show (∀ rc ∈ (call op w).1 :: (run ops (call op w).2).1, rc = true) ↔
      (run ops (call op w).2).2.status = none
    rw [forall_mem_cons, call_fst, isNone_iff_eq_none]
    by_cases hfirst : (call op w).2.status = none
    · rw [ih hfirst]
      exact ⟨fun hall => hall.2, fun hrest => ⟨hfirst, hrest⟩⟩
    · rw [run_snd, putAll_failed hfirst]
      exact ⟨fun hall => hall.1, fun hrest => absurd hrest hfirst⟩

/-! ### Measuring and writing -/

/-- The bytes of a sequence of plain writes. -/
def content (sources : List Source) : List UInt8 := sources.flatMap Source.bytes

/-- A measuring writer that has not failed: the source was there, the sum of the sizes did
    not overflow, and only the position has moved. -/
theorem writeBytes_measure (hmode : w.mode = .measure)
    (hposition : w.position ≤ sizeMax) (h : (writeBytes source w).2.status = none) :
    source.valid = true ∧ w.position + source.size ≤ sizeMax ∧
      (writeBytes source w).2 = { w with position := w.position + source.size } := by
  have hok : w.status = none := by
    by_contra hw
    rw [writeBytes_failed hw] at h
    exact hw h
  unfold writeBytes at h ⊢
  rw [if_neg (not_not.2 hok)] at h ⊢
  by_cases hvalid : source.valid = true
  · rw [if_neg (by simp [hvalid])] at h ⊢
    cases hadd : sizeAdd w.position source.size with
    | none =>
      rw [hadd] at h
      cases h
    | some next =>
      obtain ⟨rfl, hmax⟩ := (sizeAdd_eq_some hposition).1 hadd
      simp only [hmode]
      exact ⟨hvalid, hmax, trivial⟩
  · rw [if_pos (by simp [hvalid])] at h
    cases h

/-- **What a measuring writer has seen** if it did not fail. -/
theorem putAll_measure (sources : List Source) (hmode : w.mode = .measure)
    (hposition : w.position ≤ sizeMax) (h : (putAll sources w).status = none) :
    (∀ source ∈ sources, source.valid = true) ∧
      (putAll sources w).position = w.position + (content sources).length ∧
      w.position + (content sources).length ≤ sizeMax := by
  induction sources generalizing w with
  | nil => exact ⟨forall_mem_nil _, rfl, hposition⟩
  | cons source sources ih =>
    have hrest : (putAll sources (writeBytes source w).2).status = none := h
    -- a failure would have stayed to the end
    have hfirst : (writeBytes source w).2.status = none := by
      by_contra hfailed
      rw [putAll_failed hfailed] at hrest
      exact hfailed hrest
    obtain ⟨hvalid, hmax, hnext⟩ := writeBytes_measure hmode hposition hfirst
    rw [hnext] at hrest
    obtain ⟨hall, hpos, hsum⟩ := @ih { w with position := w.position + source.size } hmode
      hmax hrest
    have hlength : (content (source :: sources)).length =
        source.size + (content sources).length := by
      rw [content, flatMap_cons, length_append, source.length_bytes hvalid]
      rfl
    refine ⟨forall_mem_cons.2 ⟨hvalid, hall⟩, ?_, ?_⟩
    · show (putAll sources (writeBytes source w).2).position = _
      rw [hnext, hpos, hlength, Nat.add_assoc]
    · rw [hlength, ← Nat.add_assoc]
      exact hsum

/-- A writer with a buffer of `room` bytes at `memory` that holds `sent` and has not failed. -/
structure Holds (memory : List UInt8) (room : Nat) (sent : List UInt8) (w : QkWriter) : Prop where
  mode : w.mode = .fixed
  capacity : w.capacity = room
  status : w.status = none
  position : w.position = sent.length
  data : w.data = sent ++ memory.drop sent.length
  fits : sent.length ≤ room

theorem copyAt_holds {memory sent bytes : List UInt8} :
    copyAt (sent ++ memory.drop sent.length) sent.length bytes =
      sent ++ bytes ++ memory.drop (sent ++ bytes).length := by
  unfold copyAt
  rw [take_left, drop_append, drop_drop, length_append, Nat.add_sub_cancel_left]
  have hnil : sent.drop (sent.length + bytes.length) = [] :=
    drop_eq_nil_of_le (Nat.le_add_right _ _)
  rw [hnil, nil_append]

section
variable {memory sent : List UInt8} {room : Nat} {w : QkWriter}

/-- A write into the buffer: appended if it fits, refused otherwise. -/
theorem Holds.writeBytes (h : Holds memory room sent w) (hvalid : source.valid = true)
    (hmax : room ≤ sizeMax ∨ sent.length + source.size ≤ sizeMax) :
    (sent.length + source.size ≤ room →
      Holds memory room (sent ++ source.bytes) (writeBytes source w).2) ∧
    (room < sent.length + source.size → (QkWriter.writeBytes source w).2.status ≠ none) := by
  have hfits := h.fits
  unfold QkWriter.writeBytes
  rw [if_neg (not_not.2 h.status), if_neg (by simp [hvalid])]
  by_cases hsum : sizeMax < sent.length + source.size
  · have hadd : sizeAdd w.position source.size = none := by
      rw [h.position, sizeAdd]
      exact if_pos (by omega)
    rw [hadd]
    exact ⟨fun hle => absurd hle (by omega), fun _ => some_ne_none _⟩
  have hadd : sizeAdd w.position source.size = some (sent.length + source.size) := by
    rw [h.position]
    exact (sizeAdd_eq_some (by omega)).2 ⟨rfl, by omega⟩
  rw [hadd]
  simp only [h.mode, h.capacity]
  constructor
  · intro hfits
    have hlength : (sent ++ source.bytes).length = sent.length + source.size := by
      rw [length_append, source.length_bytes hvalid]
    rw [if_neg (by omega)]
    refine ⟨rfl, rfl, h.status, hlength.symm, ?_, hlength.symm ▸ hfits⟩
    show copyAt w.data w.position source.bytes = _
    rw [h.data, h.position, copyAt_holds]
  · intro hlarge
    rw [if_pos hlarge]
    exact some_ne_none _

/-- **What the buffer receives**: all the bytes if they fit; otherwise the writer fails. -/
theorem Holds.putAll (h : Holds memory room sent w) (sources : List Source)
    (hvalid : ∀ source ∈ sources, source.valid = true)
    (hmax : room ≤ sizeMax ∨ (sent ++ content sources).length ≤ sizeMax) :
    ((sent ++ content sources).length ≤ room →
      Holds memory room (sent ++ content sources) (putAll sources w)) ∧
    (room < (sent ++ content sources).length → (QkWriter.putAll sources w).status ≠ none) := by
  induction sources generalizing sent w with
  | nil =>
    rw [content, flatMap_nil, append_nil]
    exact ⟨fun _ => h, fun hlarge => absurd h.fits (by omega)⟩
  | cons source sources ih =>
    obtain ⟨hhead, htail⟩ := forall_mem_cons.1 hvalid
    have hcontent : sent ++ content (source :: sources) =
        (sent ++ source.bytes) ++ content sources := by
      rw [content, flatMap_cons, append_assoc]
      rfl
    have hlength : (sent ++ source.bytes).length = sent.length + source.size := by
      rw [length_append, source.length_bytes hhead]
    have htotal : ((sent ++ source.bytes) ++ content sources).length =
        sent.length + source.size + (content sources).length := by
      rw [length_append, hlength]
    rw [hcontent] at hmax ⊢
    show (_ → Holds _ _ _ (QkWriter.putAll sources (QkWriter.writeBytes source w).2)) ∧
      (_ → (QkWriter.putAll sources (QkWriter.writeBytes source w).2).status ≠ none)
    obtain ⟨hsmall, hlarge⟩ := h.writeBytes hhead (by omega)
    by_cases hfits : sent.length + source.size ≤ room
    · exact ih (hsmall hfits) htail hmax
    · -- the writer fails here and stays as it is
      have hfailed := hlarge (by omega)
      rw [putAll_failed hfailed]
      exact ⟨fun hle => absurd hle (by omega), fun _ => hfailed⟩

end

/-! ### The memory behind the buffer -/

/-- A writer with a buffer of `room` bytes at `memory`, failed or not, that has left alone
    what lies behind the buffer. -/
structure Keeps (memory : List UInt8) (room : Nat) (w : QkWriter) : Prop where
  mode : w.mode = .fixed
  capacity : w.capacity = room
  position : w.position ≤ room
  length : w.data.length = memory.length
  behind : w.data.drop room = memory.drop room

/-- A copy that ends in the buffer does not touch what is behind it. -/
theorem copyAt_behind {data bytes : List UInt8} {position room : Nat}
    (hroom : room ≤ data.length) (hfits : position + bytes.length ≤ room) :
    (copyAt data position bytes).length = data.length ∧
      (copyAt data position bytes).drop room = data.drop room := by
  have hfront : (data.take position ++ bytes).length = position + bytes.length := by
    rw [length_append, length_take]
    omega
  unfold copyAt
  constructor
  · rw [length_append, length_drop]
    omega
  · rw [drop_append, drop_drop, drop_eq_nil_of_le (by omega), nil_append]
    congr 1
    omega

theorem Keeps.writeBytes {memory : List UInt8} {room : Nat}
    (hroom : room ≤ memory.length) (h : Keeps memory room w) (source : Source) :
    Keeps memory room (writeBytes source w).2 := by
  unfold QkWriter.writeBytes
  split
  · exact h
  split
  · exact { h with }
  next hvalid =>
  rw [Bool.not_eq_true, Bool.not_eq_false'] at hvalid
  split
  · exact { h with }
  next next hadd =>
  simp only [h.mode]
  split
  · exact { h with }
  next hfits =>
  have hnext : next = w.position + source.bytes.length := by
    rw [source.length_bytes hvalid]
    unfold sizeAdd at hadd
    split at hadd <;> cases hadd
    rfl
  rw [h.capacity] at hfits
  obtain ⟨hlength, hbehind⟩ := @copyAt_behind w.data source.bytes w.position room
    (h.length.symm ▸ hroom) (by omega)
  have hposition : next ≤ room := by omega
  exact ⟨rfl, h.capacity, hposition, hlength.trans h.length, hbehind.trans h.behind⟩

theorem Keeps.putAll {memory : List UInt8} {room : Nat}
    (hroom : room ≤ memory.length) (h : Keeps memory room w) (sources : List Source) :
    Keeps memory room (putAll sources w) := by
  induction sources generalizing w with
  | nil => exact h
  | cons source sources ih => exact ih (h.writeBytes hroom source)

end QkWriter

end Ducknng
