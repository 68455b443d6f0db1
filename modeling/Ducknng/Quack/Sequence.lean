import Ducknng.Quack.Vector

namespace Ducknng

open List ByteCodec

/-!
# Sequence vectors

A sequence vector stores a start and an increment. Its decoder adds in 64-bit
modular arithmetic and compares the sum with the range of the column type
afterwards, so a sum that wraps back into the range goes unnoticed.

* `Quack.SequenceExact` — whatever is decoded is exact, and what leaves the range is
  refused.
* `Quack.sequenceExact_iff` — when that holds: no row may wrap around, or one that
  does must land outside the range.
-/

namespace Quack

/-! ### Integers and their storage -/

/-- The smallest and largest integer of a column type, by its wire identifier. -/
def columnRange : Nat → Option (Int × Int)
  | 31 => some (0, 2 ^ 64 - 1)
  | id => sequenceRange id

/-- The integer is a value of the column type. -/
def InColumn (node : TypeNode) (value : Int) : Prop :=
  ∃ low high, columnRange node.logicalTypeId = some (low, high) ∧ low ≤ value ∧ value ≤ high

/-- The integer passes the range check of the decoder. -/
def InChecked (node : TypeNode) (value : Int) : Prop :=
  ∃ low high, sequenceRange node.logicalTypeId = some (low, high) ∧ low ≤ value ∧ value ≤ high

/-- The integer that the bytes of a row stand for; the signed types come first. -/
def storedInteger (node : TypeNode) (bytes : List UInt8) : Int :=
  if node.logicalTypeId ≤ 14 then (leVal bytes : Int).bmod (256 ^ typeFixedWidth node)
  else leVal bytes

/-- The bytes the decoder stores for a value that passed its check. -/
def storeInteger (node : TypeNode) (value : Int) : List UInt8 :=
  leBytes (typeFixedWidth node) (value % 2 ^ (8 * typeFixedWidth node)).toNat

/-- The element of a sequence at a row, without wrap-around. -/
def exactValue (start increment : BitVec 64) (row : Nat) : Int :=
  start.toInt + row * increment.toInt

/-- The values of an `int64_t`. -/
def InInt64 (value : Int) : Prop := -2 ^ 63 ≤ value ∧ value < 2 ^ 63

theorem sequenceValue_toInt (start increment : BitVec 64) (row : Nat) :
    sequenceValue start.toInt increment.toInt row =
      (exactValue start increment row).bmod (2 ^ 64) := by
  rw [sequenceValue, exactValue, Int.mul_comm]

variable {value : Int} {node : TypeNode}

/-- Nothing wraps inside the range of an `int64_t`. -/
theorem bmod_of_inInt64 (h : InInt64 value) : value.bmod (2 ^ 64) = value := by
  obtain ⟨hlow, hhigh⟩ := h
  exact Int.bmod_eq_of_le (by omega) (by omega)

theorem inInt64_bmod (value : Int) : InInt64 (value.bmod (2 ^ 64)) := by
  have hlow := Int.le_bmod (x := value) (m := 2 ^ 64) (by decide)
  have hhigh := Int.bmod_lt (x := value) (m := 2 ^ 64) (by decide)
  constructor <;> omega

/-- What passes the check of the decoder is a value of the type. -/
theorem InChecked.inColumn (h : InChecked node value) :
    InColumn node value := by
  obtain ⟨low, high, hrange, hlow, hhigh⟩ := h
  by_cases hid : node.logicalTypeId = 31
  · rw [hid] at hrange
    cases hrange
    refine ⟨0, 2 ^ 64 - 1, by rw [hid]; rfl, hlow, by omega⟩
  · refine ⟨low, high, ?_, hlow, hhigh⟩
    rw [← hrange]
    unfold columnRange
    split
    · contradiction
    · rfl

/-- The wire identifiers of the integer types. -/
theorem sequenceInteger_cases (h : typeIsSequenceInteger node = true) :
    node.logicalTypeId = 11 ∨ node.logicalTypeId = 12 ∨ node.logicalTypeId = 13 ∨
    node.logicalTypeId = 14 ∨ node.logicalTypeId = 28 ∨ node.logicalTypeId = 29 ∨
    node.logicalTypeId = 30 ∨ node.logicalTypeId = 31 := by
  simpa [typeIsSequenceInteger] using h

/-- The checked range is that of a signed or of an unsigned number as wide as the
    column; for the widest unsigned type it is only the lower half. -/
theorem InChecked.fits (h : InChecked node value) :
    (node.logicalTypeId ≤ 14 ∧ -(256 ^ typeFixedWidth node : Nat) ≤ 2 * value ∧
      2 * value < (256 ^ typeFixedWidth node : Nat)) ∨
    (¬node.logicalTypeId ≤ 14 ∧ 0 ≤ value ∧ value < (256 ^ typeFixedWidth node : Nat)) := by
  obtain ⟨low, high, hrange, hlow, hhigh⟩ := h
  have hid : typeIsSequenceInteger node = true := by
    unfold sequenceRange at hrange
    split at hrange <;> simp_all [typeIsSequenceInteger]
  rcases sequenceInteger_cases hid with hid | hid | hid | hid | hid | hid | hid | hid
  all_goals
    rw [hid] at hrange
    cases hrange
    simp only [typeFixedWidth, hid, logicalEnum, logicalDecimal, Nat.reduceEqDiff, if_false]
    omega

/-- A value that passed the check is read back as it was. -/
theorem storedInteger_storeInteger (h : InChecked node value) :
    storedInteger node (storeInteger node value) = value := by
  have hpow : (2 : Int) ^ (8 * typeFixedWidth node) = (256 ^ typeFixedWidth node : Nat) := by
    rw [pow_mul]
    norm_num
  have hpos : (0 : Int) < (256 ^ typeFixedWidth node : Nat) := by positivity
  have hval : (leVal (storeInteger node value) : Int) =
    value % (256 ^ typeFixedWidth node : Nat) := by
    rw [storeInteger, hpow, leVal_leBytes (by omega)]
    omega
  rw [storedInteger, hval]
  rcases h.fits with ⟨hid, hlow, hhigh⟩ | ⟨hid, hlow, hhigh⟩
  · rw [if_pos hid, Int.emod_bmod]
    exact Int.bmod_eq_of_le (by omega) (by omega)
  · rw [if_neg hid]
    exact Int.emod_eq_of_lt hlow hhigh

/-! ### What the decoder accepts -/

/-- The range an integer type is checked against. -/
theorem sequenceRange_isSome (h : typeIsSequenceInteger node = true) :
    ∃ low high, sequenceRange node.logicalTypeId = some (low, high) := by
  rcases sequenceInteger_cases h with hid | hid | hid | hid | hid | hid | hid | hid
  all_goals
    rw [hid]
    exact ⟨_, _, rfl⟩

section
variable {node : TypeNode} {start increment : BitVec 64} {offset outCount : Nat}

/-- The decoder reads nothing: it returns the wrapped values if all of them pass. -/
theorem decodeSequence_ok (hnode : typeIsSequenceInteger node = true)
    (h : ∀ row < outCount, InChecked node
      ((exactValue start increment (offset + row)).bmod (2 ^ 64))) (c : Cursor) :
    decodeSequence node start.toInt increment.toInt offset outCount c =
      .ok ((range outCount).map fun row =>
        .fixed (storeInteger node ((exactValue start increment (offset + row)).bmod (2 ^ 64))),
          c) := by
  obtain ⟨low, high, hrange⟩ := sequenceRange_isSome hnode
  have hpass : ∀ row < outCount, ¬(sequenceValue start.toInt increment.toInt (offset + row) < low ∨
      high < sequenceValue start.toInt increment.toInt (offset + row)) := by
    intro row hrow
    obtain ⟨low', high', hrange', hlow, hhigh⟩ := h row hrow
    rw [hrange] at hrange'
    cases hrange'
    rw [sequenceValue_toInt]
    omega
  unfold decodeSequence
  simp only [hnode, hrange, Bool.not_true, Bool.false_eq_true, if_false]
  rw [if_neg]
  · simp only [sequenceValue_toInt, map_map]
    rfl
  · simpa using hpass

/-- Otherwise it refuses the vector. -/
theorem decodeSequence_error (hnode : typeIsSequenceInteger node = true) {row : Nat}
    (hrow : row < outCount)
    (h : ¬InChecked node ((exactValue start increment (offset + row)).bmod (2 ^ 64))) (c : Cursor) :
    decodeSequence node start.toInt increment.toInt offset outCount c =
      .error (some sequenceRangeMessage) := by
  obtain ⟨low, high, hrange⟩ := sequenceRange_isSome hnode
  have hfail : sequenceValue start.toInt increment.toInt (offset + row) < low ∨
      high < sequenceValue start.toInt increment.toInt (offset + row) := by
    rw [sequenceValue_toInt]
    by_contra hout
    exact h ⟨low, high, hrange, by omega, by omega⟩
  unfold decodeSequence
  simp only [hnode, hrange, Bool.not_true, Bool.false_eq_true, if_false]
  rw [if_pos]
  · rfl
  · rw [any_map, any_eq_true]
    exact ⟨row, mem_range.2 hrow, by simpa using hfail⟩

end

/-! ### Exactness -/

/-- What a sequence vector promises: every row that is decoded holds the exact element,
    which is a value of the column type, and a sequence with an element outside the
    type is refused. -/
def SequenceExact (node : TypeNode) (start increment : BitVec 64) (offset outCount : Nat) : Prop :=
  (∀ c values c', decodeSequence node start.toInt increment.toInt offset outCount c =
      .ok (values, c') →
    values.length = outCount ∧ ∀ row < outCount, ∃ bytes, values[row]? = some (.fixed bytes) ∧
      storedInteger node bytes = exactValue start increment (offset + row) ∧
      InColumn node (exactValue start increment (offset + row))) ∧
  ((∃ row < outCount, ¬InColumn node (exactValue start increment (offset + row))) →
    ∀ c, ∃ e, decodeSequence node start.toInt increment.toInt offset outCount c = .error e)

/-- No element leaves the range of an `int64_t`, or one of them leaves the range of the
    type and no multiple of `2 ^ 64` brings it back. -/
def SequenceTells (node : TypeNode) (start increment : BitVec 64) (offset outCount : Nat) : Prop :=
  (∀ row < outCount, InInt64 (exactValue start increment (offset + row))) ∨
  ∃ row < outCount, ∀ k : Int,
    ¬InChecked node (exactValue start increment (offset + row) + k * 2 ^ 64)

/-- A sum and its wrapped form differ by a multiple of `2 ^ 64`. -/
theorem bmod_eq_add (value : Int) : ∃ k : Int, value.bmod (2 ^ 64) = value + k * 2 ^ 64 := by
  have h := Int.bmod_eq_self_sub_bdiv_mul value (2 ^ 64)
  refine ⟨-value.bdiv (2 ^ 64), ?_⟩
  rw [h, Int.neg_mul]
  rfl

/-- Values of the checked range that agree modulo `2 ^ 64` are the same, so the wrapped
    form is the only candidate. -/
theorem inChecked_add_iff :
    (∃ k : Int, InChecked node (value + k * 2 ^ 64)) ↔ InChecked node (value.bmod (2 ^ 64)) := by
  constructor
  · rintro ⟨k, h⟩
    have hint : InInt64 (value + k * 2 ^ 64) := by
      obtain ⟨low, high, hrange, hlow, hhigh⟩ := h
      unfold sequenceRange at hrange
      split at hrange <;> cases hrange <;> constructor <;> omega
    have hsame : (value + k * 2 ^ 64).bmod (2 ^ 64) = value.bmod (2 ^ 64) := by
      have h := Int.add_mul_bmod_self_right value k (2 ^ 64)
      exact h
    rwa [← hsame, bmod_of_inInt64 hint]
  · intro h
    obtain ⟨k, hk⟩ := bmod_eq_add value
    exact ⟨k, hk ▸ h⟩

section
variable {node : TypeNode} {start increment : BitVec 64} {offset outCount : Nat}

/-- Without wrap-around the decoder is exact. -/
theorem sequenceExact_of_inInt64 (hnode : typeIsSequenceInteger node = true)
    (h : ∀ row < outCount, InInt64 (exactValue start increment (offset + row))) :
    SequenceExact node start increment offset outCount := by
  by_cases hall : ∀ row < outCount, InChecked node
      ((exactValue start increment (offset + row)).bmod (2 ^ 64))
  · have hin : ∀ row < outCount, InChecked node (exactValue start increment (offset + row)) := by
      intro row hrow
      have hpass := hall row hrow
      rwa [bmod_of_inInt64 (h row hrow)] at hpass
    refine ⟨fun c values c' hrun => ?_, fun ⟨row, hrow, hout⟩ => ?_⟩
    · rw [decodeSequence_ok hnode hall c] at hrun
      cases hrun
      refine ⟨by simp, fun row hrow => ⟨storeInteger node (exactValue start increment
        (offset + row)), ?_, storedInteger_storeInteger (hin row hrow), (hin row hrow).inColumn⟩⟩
      rw [getElem?_map, getElem?_range hrow, Option.map_some, bmod_of_inInt64 (h row hrow)]
    · exact absurd (hin row hrow).inColumn hout
  · push Not at hall
    obtain ⟨row, hrow, hout⟩ := hall
    have herror := decodeSequence_error hnode hrow hout
    refine ⟨fun c values c' hrun => ?_, fun _ c => ⟨_, herror c⟩⟩
    rw [herror c] at hrun
    cases hrun

/-- **When sequence vectors are exact.** -/
theorem sequenceExact_iff_tells (hnode : typeIsSequenceInteger node = true) :
    SequenceExact node start increment offset outCount ↔
      SequenceTells node start increment offset outCount := by
  constructor
  · intro ⟨hexact, _⟩
    by_cases hall : ∀ row < outCount, InChecked node
        ((exactValue start increment (offset + row)).bmod (2 ^ 64))
    · -- The vector is accepted, so what is stored is exact and therefore did not wrap.
      left
      intro row hrow
      have hrun := decodeSequence_ok hnode hall ⟨[], 0, 0⟩
      obtain ⟨bytes, hget, hstored, _⟩ := (hexact _ _ _ hrun).2 row hrow
      simp only [getElem?_map, getElem?_range hrow, Option.map_some, Option.some.injEq,
        Value.fixed.injEq] at hget
      rw [← hget, storedInteger_storeInteger (hall row hrow)] at hstored
      rw [← hstored]
      exact inInt64_bmod _
    · right
      push Not at hall
      obtain ⟨row, hrow, hout⟩ := hall
      exact ⟨row, hrow, fun k hk => hout (inChecked_add_iff.1 ⟨k, hk⟩)⟩
  · rintro (hint | ⟨row, hrow, hout⟩)
    · exact sequenceExact_of_inInt64 hnode hint
    · have hrefused : ¬InChecked node ((exactValue start increment (offset + row)).bmod
        (2 ^ 64)) := by
        intro h
        obtain ⟨k, hk⟩ := inChecked_add_iff.2 h
        exact hout k hk
      have herror := decodeSequence_error hnode hrow hrefused
      refine ⟨fun c values c' hrun => ?_, fun _ c => ⟨_, herror c⟩⟩
      rw [herror c] at hrun
      cases hrun

theorem exactValue_zero : exactValue start increment 0 = start.toInt := by
  simp [exactValue]

theorem exactValue_succ (row : Nat) :
    exactValue start increment (row + 1) = exactValue start increment row + increment.toInt := by
  unfold exactValue
  push_cast
  ring

theorem inInt64_toInt (word : BitVec 64) : InInt64 word.toInt := by
  have hlow := word.le_toInt
  have hhigh := word.toInt_lt
  constructor <;> omega

/-- The next element after one in the range of a type other than `BIGINT`: if it leaves
    the range of an `int64_t`, its wrapped form is far from the range of the type. -/
theorem inInt64_succ {step : Int} (hbig : node.logicalTypeId ≠ 14) (hvalue : InChecked node value)
    (hstep : InInt64 step) (hnext : InChecked node ((value + step).bmod (2 ^ 64))) :
    InInt64 (value + step) := by
  obtain ⟨low, high, hrange, hlow, hhigh⟩ := hvalue
  obtain ⟨low', high', hrange', hlow', hhigh'⟩ := hnext
  rw [hrange] at hrange'
  cases hrange'
  obtain ⟨k, hk⟩ := bmod_eq_add (value + step)
  obtain ⟨hstep₁, hstep₂⟩ := hstep
  unfold sequenceRange at hrange
  split at hrange
  case h_4 hid => exact absurd hid hbig
  all_goals cases hrange <;> constructor <;> omega

/-- **From the first row on, only a `BIGINT` sequence can wrap unnoticed.** -/
theorem sequenceTells_of_ne_bigint (hbig : node.logicalTypeId ≠ 14) :
    SequenceTells node start increment 0 outCount := by
  by_cases hall : ∀ row < outCount, InChecked node
      ((exactValue start increment (0 + row)).bmod (2 ^ 64))
  · left
    intro row
    simp only [Nat.zero_add] at hall ⊢
    -- Every row is in range, so the next one cannot wrap.
    induction row with
    | zero =>
      intro _
      rw [exactValue_zero]
      exact inInt64_toInt start
    | succ row ih =>
      intro hrow
      have hint := ih (by omega)
      have hvalue := hall row (by omega)
      have hnext := hall (row + 1) hrow
      rw [bmod_of_inInt64 hint] at hvalue
      rw [exactValue_succ] at hnext ⊢
      exact inInt64_succ hbig hvalue (inInt64_toInt increment) hnext
  · right
    push Not at hall
    obtain ⟨row, hrow, hout⟩ := hall
    exact ⟨row, hrow, fun k hk => hout (inChecked_add_iff.1 ⟨k, hk⟩)⟩

end

/-- **Exactness of sequence vectors.** It holds exactly when no element wraps around in 64
    bits or a wrapped one is out of range, which is always so from the first row on of a
    type other than `BIGINT`. -/
theorem sequenceExact_iff (node : TypeNode) (start increment : BitVec 64) (offset outCount : Nat)
    (hnode : typeIsSequenceInteger node = true) :
    (SequenceExact node start increment offset outCount ↔
      SequenceTells node start increment offset outCount) ∧
    (offset = 0 → node.logicalTypeId ≠ 14 →
      SequenceExact node start increment offset outCount) := by
  refine ⟨sequenceExact_iff_tells hnode, ?_⟩
  rintro rfl hbig
  exact (sequenceExact_iff_tells hnode).2 (sequenceTells_of_ne_bigint hbig)

/-- A `TINYINT` column of three rows, counting up from 5. -/
theorem sequenceExact_iff_tinyint :
    typeIsSequenceInteger (nodeNew 11) = true ∧ SequenceExact (nodeNew 11) 5 1 0 3 :=
  ⟨rfl, (sequenceExact_iff (nodeNew 11) 5 1 0 3 rfl).2 rfl (by decide)⟩

/-- The largest `BIGINT` and its successor: the second row wraps to the smallest one and
    is accepted. -/
theorem sequence_wraps :
    ¬SequenceExact (nodeNew 14) (BitVec.ofNat 64 (2 ^ 63 - 1)) 1 0 2 := by
  intro ⟨_, hrefuse⟩
  have hout : ¬InColumn (nodeNew 14)
      (exactValue (BitVec.ofNat 64 (2 ^ 63 - 1)) 1 (0 + 1)) := by
    rintro ⟨low, high, hrange, hlow, hhigh⟩
    cases hrange
    exact absurd hhigh (by decide)
  obtain ⟨e, he⟩ := hrefuse ⟨1, by decide, hout⟩ ⟨[], 0, 0⟩
  cases he

end Quack

end Ducknng
