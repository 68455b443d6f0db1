import Ducknng.Quack.Writer
import Ducknng.Quack.Payload

namespace Ducknng

open ByteCodec

/-!
# Measuring a payload, then writing it

A result payload is encoded twice, first with a writer that only counts and then with a
writer over a buffer of the size that was counted. Everything an encoder writes depends on
the result alone and not on the writer, so the second pass fills the buffer exactly.

* `Quack.measured_exact` — sequences of operations, and the two passes of the encoder.
-/

/-! ### The sink of the encoders is this writer -/

namespace QkWriter

/-- The sink and the writer are at the same place, and the writer has not failed. -/
structure Follows (s : Sink) (w : QkWriter) : Prop where
  status : w.status = none
  position : w.position = s.position
  capacity : w.capacity = s.capacity
  mode : w.mode = if s.storing then .fixed else .measure
  length : s.storing = true → s.data.length = s.position
  data : s.storing = true → ∃ rest, w.data = s.data ++ rest

/-- Where the sink's program succeeds, so does the operation; where it fails, the operation
    leaves that status behind. -/
def Simulates (action : Action) (p : QkWrite) : Prop :=
  ∀ s w, Follows s w →
    (∀ s', p s = .ok ((), s') → ∃ w', action w = (true, w') ∧ Follows s' w') ∧
    (∀ e, p s = .error e → ∃ w', action w = (false, w') ∧ w'.status = some e)

theorem simulates_done : Simulates (fun w => (true, w)) (pure ()) := by
  intro s w h
  constructor
  · intro s' hs
    cases hs
    exact ⟨w, rfl, h⟩
  · intro e he
    cases he

theorem Simulates.andThen {first second : Action} {p q : QkWrite} (hfirst : Simulates first p)
    (hsecond : Simulates second q) : Simulates (andThen first second) (p >>= fun _ => q) := by
  intro s w h
  obtain ⟨hok, herror⟩ := hfirst s w h
  have hbind : (p >>= fun _ => q) s = (p s).bind fun x => q x.2 := rfl
  unfold QkWriter.andThen
  rw [hbind]
  cases hp : p s with
  | error e =>
    obtain ⟨w', hw, hstatus⟩ := herror e hp
    rw [hw]
    refine ⟨fun s' hs => (by cases hs), fun e' he => ?_⟩
    cases he
    exact ⟨w', rfl, hstatus⟩
  | ok x =>
    obtain ⟨w', hw, hfollows⟩ := hok x.2 hp
    rw [hw]
    exact hsecond x.2 w' hfollows

theorem simulates_writeBytes (bytes : List UInt8) :
    Simulates (writeBytes (.memory bytes)) (Qk.writeBytes bytes) := by
  intro s w h
  have hvalid : ¬(!(Source.memory bytes).valid) = true := by simp [Source.valid]
  have hsize : (Source.memory bytes).size = bytes.length := rfl
  unfold writeBytes Qk.writeBytes
  rw [if_neg (not_not.2 h.status), h.position, hsize]
  cases hadd : sizeAdd s.position bytes.length with
  | none =>
    refine ⟨fun s' hs => (by cases hs), fun e he => ?_⟩
    cases he
    exact ⟨_, rfl, rfl⟩
  | some next =>
    have hnext : next = s.position + bytes.length := by
      unfold sizeAdd at hadd
      split at hadd <;> cases hadd
      rfl
    have hmode := h.mode
    cases hstoring : s.storing with
    -- measuring only moves the position
    | false =>
      rw [hstoring] at hmode
      simp only [hmode]
      refine ⟨fun s' hs => ?_, fun e he => (by cases he)⟩
      cases hs
      refine ⟨_, rfl, ?_⟩
      exact ⟨h.status, rfl, h.capacity, rfl, fun hs => (by cases hs), fun hs => by cases hs⟩
    | true =>
      rw [hstoring] at hmode
      simp only [hmode, h.capacity, true_and, if_true]
      -- storing needs room for the whole piece
      by_cases hlarge : next > s.capacity
      · rw [if_pos hlarge, if_pos hlarge]
        refine ⟨fun s' hs => (by cases hs), fun e he => ?_⟩
        cases he
        exact ⟨_, rfl, rfl⟩
      · rw [if_neg hlarge, if_neg hlarge]
        refine ⟨fun s' hs => ?_, fun e he => (by cases he)⟩
        cases hs
        obtain ⟨rest, hdata⟩ := h.data hstoring
        have hlength := h.length hstoring
        refine ⟨_, rfl, ?_⟩
        refine ⟨h.status, rfl, rfl, rfl, fun _ => ?_, fun _ => ⟨rest.drop bytes.length, ?_⟩⟩
        · rw [List.length_append, hlength, hnext]
        -- what was in the buffer behind the piece stays there
        · show copyAt w.data s.position bytes = _
          rw [hdata, ← hlength]
          unfold copyAt
          rw [List.take_left, List.drop_append, List.drop_eq_nil_of_le (Nat.le_add_right _ _),
            List.nil_append, Nat.add_sub_cancel_left]

theorem simulates_writeUleb128Loop (fuel value : Nat) :
    Simulates (writeUleb128Loop fuel value) (Qk.writeUleb128Loop fuel value) := by
  induction fuel generalizing value with
  | zero => exact simulates_done
  | succ fuel ih =>
    refine (simulates_writeBytes _).andThen ?_
    by_cases hmore : value / 128 ≠ 0
    · rw [if_pos hmore, if_pos hmore]
      exact ih _
    · rw [if_neg hmore, if_neg hmore]
      exact simulates_done

/-- **The writer does what the sink does**, for every operation the encoders use. -/
theorem simulates_call :
    (∀ bytes, Simulates (call (.bytes (.memory bytes))) (Qk.writeBytes bytes)) ∧
    (∀ value, Simulates (call (.u8 value)) (Qk.writeU8 value)) ∧
    (∀ value : UInt16, Simulates (call (.u16le value)) (Qk.writeU16le value.toNat)) ∧
    (∀ value : UInt64, Simulates (call (.uleb128 value)) (Qk.writeUleb128 value.toNat)) ∧
    (∀ bytes : List UInt8, bytes.length ≤ sizeMax →
      Simulates (call (.counted (.memory bytes))) (Qk.writeCounted bytes)) := by
  refine ⟨simulates_writeBytes, fun value => simulates_writeBytes _,
    fun value => simulates_writeBytes _, fun value => simulates_writeUleb128Loop 10 _,
    fun bytes hsize => ?_⟩
  have hcount : (UInt64.ofNat bytes.length).toNat = bytes.length := by
    exact Nat.mod_eq_of_lt (Nat.lt_of_le_of_lt hsize (by decide))
  refine Simulates.andThen ?_ (simulates_writeBytes bytes)
  show Simulates (writeUleb128Loop 10 (UInt64.ofNat bytes.length).toNat) _
  rw [hcount]
  exact simulates_writeUleb128Loop 10 _

end QkWriter

namespace Quack

/-! ### What an encoder writes does not depend on the writer -/

instance (value : UInt8) : Steady sizeMax (writeByte value) := (emits_writeByte value).steady

instance (fieldId : Nat) : Steady sizeMax (writeFieldId fieldId) :=
  (emits_writeFieldId fieldId).steady

instance : Steady sizeMax writeFieldEnd := emits_writeFieldEnd.steady

instance (value : Nat) : Steady sizeMax (writeUleb128 value) := (emits_writeUleb128 value).steady

instance (data : List UInt8) : Steady sizeMax (writeBlob data) := (emits_writeBlob data).steady

instance (text : CStr) : Steady sizeMax (writeString text) := (emits_writeString text).steady

instance (message : String) : Steady sizeMax (failWrite message) := by
  unfold failWrite
  infer_instance

instance (condition : Bool) (p : QuackWrite) [Steady sizeMax p] :
    Steady sizeMax (writeWhen condition p) := by
  unfold writeWhen
  infer_instance

section
variable {writeChild : TypeNode → QuackWrite} [∀ node, Steady sizeMax (writeChild node)]

instance (fieldId value : Nat) : Steady sizeMax (writeNonzeroField fieldId value) := by
  unfold writeNonzeroField
  infer_instance

instance (pair : CStr × TypeNode) : Steady sizeMax (writeChildPair writeChild pair) := by
  unfold writeChildPair
  infer_instance

instance (node : TypeNode) : Steady sizeMax (writeTypeInfo writeChild node) := by
  have hlist : Steady sizeMax (match node.children with
      | [child] => do
        writeUleb128 4
        writeFieldId 200
        writeChild child
      | _ => failWrite "ducknng: quack list/map type requires one child") := by
    split <;> infer_instance
  have harray : Steady sizeMax (match node.children with
      | [child] => do
        writeUleb128 9
        writeFieldId 200
        writeChild child
        writeNonzeroField 201 node.arraySize
      | _ => failWrite "ducknng: quack array type requires one child") := by
    split <;> infer_instance
  unfold writeTypeInfo
  infer_instance

end

instance (left : Nat) (node : TypeNode) : Steady sizeMax (writeTypeNode left node) := by
  induction left generalizing node with
  | zero => exact inferInstanceAs (Steady sizeMax (failWrite nestingMessage))
  | succ left ih =>
    unfold writeTypeNode
    infer_instance

instance (vec : Vec) (node : TypeNode) (rows : Nat) :
    Steady sizeMax (encodeFixedData vec node rows) := by
  unfold encodeFixedData
  split
  · infer_instance
  · split <;> infer_instance

instance (encodeChild : Nat → QuackWrite) [∀ rows, Steady sizeMax (encodeChild rows)]
    (rows size : Nat) : Steady sizeMax (encodeArrayChild encodeChild rows size) := by
  unfold encodeArrayChild
  split <;> infer_instance

instance (left : Nat) (vec : Vec) (node : TypeNode) (rows : Nat) :
    Steady sizeMax (encodeVector left vec node rows) := by
  induction left generalizing vec node rows with
  | zero => exact inferInstanceAs (Steady sizeMax (failWrite vectorNestingMessage))
  | succ left ih =>
    unfold encodeVector encodeValidity encodeValidityBlob encodeListEntry
    -- one goal for each kind of vector
    refine Steady.bind inferInstance ?_
    split
    · infer_instance
    split
    · infer_instance
    split
    · split <;> infer_instance
    split
    · split <;> infer_instance
    · infer_instance

instance (ncols : Nat) (chunk : DataChunk) : Steady sizeMax (encodeOneChunk ncols chunk) := by
  unfold encodeOneChunk
  dsimp only
  split <;> infer_instance

instance (column : ResultColumn) : Steady sizeMax (encodeResultType column) := by
  unfold encodeResultType
  split <;> infer_instance

instance (columns : List ResultColumn) (chunks : List DataChunk) (includeSchema : Bool) :
    Steady sizeMax (encodeResultPayloadPass columns chunks includeSchema) := by
  unfold encodeResultPayloadPass encodeSchema encodeResults
  infer_instance

/-! ### The two passes -/

/-- The second pass fills the buffer that the first one measured. -/
theorem encodeResultPayload_exact {columns : List ResultColumn} {chunks : List DataChunk}
    {includeSchema : Bool} {measured : Sink}
    (h : encodeResultPayloadPass columns chunks includeSchema Qk.writerInitMeasure =
      .ok ((), measured)) :
    ∃ bytes, encodeResultPayload columns chunks includeSchema = .ok bytes ∧
      bytes.length = measured.position := by
  have hsteady : Steady sizeMax (encodeResultPayloadPass columns chunks includeSchema) :=
    inferInstance
  obtain ⟨bytes, hlength, hpass⟩ := hsteady.exact h
  refine ⟨bytes, ?_, hlength⟩
  have hfixed : encodeResultPayloadPass columns chunks includeSchema
      (Qk.writerInitFixed measured.position) = _ := hpass
  unfold encodeResultPayload
  rw [h]
  dsimp only
  rw [hfixed]
  simp

open QkWriter in
/-- **Measured encoding is exact.** If a sequence of operations succeeds on a measuring writer
    and ends at size `n`, then with a buffer it succeeds exactly if there is room for `n`
    bytes, and it writes the same `n` bytes into every such buffer. No sequence touches the
    memory behind the buffer, and no operation succeeds after one that failed. The result
    encoder, which measures and then writes, fills its buffer exactly. -/
theorem measured_exact :
    (∀ ops, (∀ rc ∈ (run ops writerInitMeasure).1, rc = true) →
      ∃ bytes, bytes.length = writerSize (run ops writerInitMeasure).2 ∧
        ∀ (destination : Option (List UInt8)) (capacity : Nat),
          capacity ≤ (destination.getD []).length →
          ((∀ rc ∈ (run ops (writerInitFixed destination capacity)).1, rc = true) ↔
            bytes.length ≤ capacity) ∧
          (bytes.length ≤ capacity →
            writerSize (run ops (writerInitFixed destination capacity)).2 = bytes.length ∧
            (run ops (writerInitFixed destination capacity)).2.data =
              bytes ++ (destination.getD []).drop bytes.length)) ∧
    (∀ ops (destination : Option (List UInt8)) (capacity : Nat),
      capacity ≤ (destination.getD []).length →
        (run ops (writerInitFixed destination capacity)).2.data.drop capacity =
          (destination.getD []).drop capacity) ∧
    (∀ ops w, (run ops w).1.Pairwise fun earlier later => earlier = false → later = false) ∧
    (∀ columns chunks includeSchema measured,
      encodeResultPayloadPass columns chunks includeSchema Qk.writerInitMeasure =
        .ok ((), measured) →
      ∃ bytes, encodeResultPayload columns chunks includeSchema = .ok bytes ∧
        bytes.length = measured.position) := by
  -- a destination with room for the capacity is not a null pointer
  have hstart : ∀ (destination : Option (List UInt8)) (capacity : Nat),
      capacity ≤ (destination.getD []).length →
      (writerInitFixed destination capacity).status = none := by
    intro destination capacity hroom
    have hnull : ¬(capacity > 0 ∧ destination = none) := by
      rintro ⟨hpos, rfl⟩
      exact absurd hroom (Nat.not_le.2 hpos)
    exact if_neg hnull
  refine ⟨fun ops hok => ?_, fun ops destination capacity hroom => ?_, run_sticks,
    fun _ _ _ _ h => encodeResultPayload_exact h⟩
  · rw [run_succeeds rfl, run_snd] at hok
    obtain ⟨hvalid, hposition, hmax⟩ := putAll_measure _ rfl (Nat.zero_le sizeMax) hok
    have hzero : writerInitMeasure.position = 0 := rfl
    rw [hzero, Nat.zero_add] at hposition hmax
    refine ⟨content (ops.flatMap WriteOp.pieces), ?_, fun destination capacity hroom => ?_⟩
    · rw [run_snd]
      exact hposition.symm
    have hstatus := hstart destination capacity hroom
    have hholds : Holds (destination.getD []) capacity [] (writerInitFixed destination capacity) :=
      ⟨rfl, rfl, hstatus, rfl, rfl, Nat.zero_le _⟩
    obtain ⟨hsmall, hlarge⟩ := hholds.putAll (ops.flatMap WriteOp.pieces) hvalid (.inr hmax)
    rw [List.nil_append] at hsmall hlarge
    rw [run_succeeds hstatus, run_snd]
    refine ⟨⟨fun hsuccess => ?_, fun hfits => (hsmall hfits).status⟩, fun hfits => ?_⟩
    · by_contra hfits
      exact hlarge (by omega) hsuccess
    · exact ⟨(hsmall hfits).position, (hsmall hfits).data⟩
  · have hkeeps : Keeps (destination.getD []) capacity (writerInitFixed destination capacity) :=
      ⟨rfl, rfl, Nat.zero_le _, rfl, rfl⟩
    rw [run_snd]
    exact (hkeeps.putAll hroom _).behind

open QkWriter in
/-- A byte, two counted bytes and a negative integer need five bytes. -/
theorem measured_exact_five :
    (∀ rc ∈ (run [.u8 1, .counted (.memory [2, 3]), .sleb128 (-5)]
      (writerInitFixed (some [9, 9, 9, 9, 9, 9]) 5)).1, rc = true) ∧
    ¬∀ rc ∈ (run [.u8 1, .counted (.memory [2, 3]), .sleb128 (-5)]
      (writerInitFixed (some [9, 9, 9, 9, 9, 9]) 4)).1, rc = true := by
  obtain ⟨bytes, hlength, hfixed⟩ :=
    measured_exact.1 [.u8 1, .counted (.memory [2, 3]), .sleb128 (-5)] (by decide)
  have hfive : bytes.length = 5 := hlength
  have hlarge := (hfixed (some [9, 9, 9, 9, 9, 9]) 5 (by decide)).1
  have hsmall := (hfixed (some [9, 9, 9, 9, 9, 9]) 4 (by decide)).1
  exact ⟨hlarge.2 (by omega), fun h => absurd (hsmall.1 h) (by omega)⟩

end Quack

end Ducknng
