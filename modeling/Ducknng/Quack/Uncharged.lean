import Ducknng.Quack.Vector

namespace Ducknng

open ByteCodec

/-!
# Readers that are not charged

Only the decoder of a vector charges the cursor for the values it materialises. Every
other reader does the same whatever has been charged before, which is what makes its
runs comparable with those of the decoder.
-/

namespace Qk

instance (n : Nat) : Uncharged (readerNeed n) where
  charged c s := by
    simp only [readerNeed_apply, Cursor.charged_off, Cursor.charged_data]
    by_cases h : c.off > c.data.length ∨ n > c.data.length - c.off
    · simp [h, Except.map]
    · simp [h, Except.map]
  data c a c' h := by
    rw [(readerNeed_eq_ok.1 h).2]

instance (n : Nat) : Uncharged (takeBytes n) where
  charged c s := rfl
  data c a c' h := by
    cases h
    rfl

instance (n : Nat) : Uncharged (peekBytes n) where
  charged c s := rfl
  data c a c' h := by
    cases h
    rfl

instance : Uncharged peekU16le := by
  unfold peekU16le
  infer_instance

instance (fuel shift value : Nat) : Uncharged (readUleb128Loop fuel shift value) := by
  induction fuel generalizing shift value with
  | zero => exact inferInstanceAs (Uncharged (throw _))
  | succ fuel ih =>
    rw [readUleb128Loop, readU8]
    infer_instance

instance (fuel shift bits : Nat) : Uncharged (readSleb128Loop fuel shift bits) := by
  induction fuel generalizing shift bits with
  | zero => exact inferInstanceAs (Uncharged (throw _))
  | succ fuel ih =>
    rw [readSleb128Loop, readU8]
    infer_instance

end Qk

namespace Quack

instance {α : Type} (message : String) : Uncharged (fail message : QuackRead α) := by
  unfold fail
  infer_instance

instance {α : Type} (message : String) (p : QkRead α) [hp : Uncharged p] :
    Uncharged (readerResult message p) where
  charged c s := by
    rw [readerResult_apply, readerResult_apply, hp.charged]
    cases p c <;> rfl
  data c a c' h := by
    exact hp.data c a c' (readerResult_eq_ok.1 h)

instance : Uncharged peekU16le := by
  unfold peekU16le
  infer_instance

instance : Uncharged readU16le := by
  unfold readU16le Qk.readU16le
  infer_instance

instance (message : String) : Uncharged (readBoolean message) := by
  unfold readBoolean Qk.readBoolean Qk.readU8
  infer_instance

instance (field : Nat) : Uncharged (readExpectField field) := by
  unfold readExpectField
  infer_instance

instance : Uncharged readerRemaining := Uncharged.of_look Qk.readerRemaining fun _ _ => rfl

instance : Uncharged readUleb128 := by
  unfold readUleb128 Qk.readUleb128
  infer_instance

instance : Uncharged readSleb128 := by
  unfold readSleb128 Qk.readSleb128
  infer_instance

instance : Uncharged readBlobView := by
  unfold readBlobView Qk.readCounted Qk.readUleb128
  infer_instance

instance : Uncharged readStringDup := by
  unfold readStringDup
  infer_instance

instance : Uncharged skipString := by
  unfold skipString
  infer_instance

section
variable (readChild : QuackRead TypeNode) [Uncharged readChild]

instance (fuel : Nat) (name : Option CStr) (type : Option TypeNode) :
    Uncharged (readChildPairLoop readChild fuel name type) := by
  induction fuel generalizing name type with
  | zero => exact inferInstanceAs (Uncharged (throw _))
  | succ fuel ih =>
    unfold readChildPairLoop
    cases type <;> infer_instance

instance (field : Nat) (s : TypeInfoState) : Uncharged (readTypeInfoField readChild field s) := by
  unfold readTypeInfoField readTypeInfo200 readTypeInfo201 readChildPair
  infer_instance

/-- The last check of a type, which reads nothing. -/
theorem uncharged_shapeCheck (node : TypeNode) : Uncharged
    (match typeShapeValidate node with
      | some message => fail message
      | none => pure node : QuackRead TypeNode) := by
  split <;> infer_instance

instance (fuel : Nat) (s : TypeInfoState) : Uncharged (readTypeInfoLoop readChild fuel s) := by
  induction fuel generalizing s with
  | zero => exact inferInstanceAs (Uncharged (throw _))
  | succ fuel ih =>
    have hshape := uncharged_shapeCheck s.node
    rw [readTypeInfoLoop]
    infer_instance

instance (s : TypeNodeState) : Uncharged (finishTypeNode s) := by
  have hshape := uncharged_shapeCheck s.node
  unfold finishTypeNode
  infer_instance

instance (fuel : Nat) (s : TypeNodeState) : Uncharged (readTypeNodeLoop readChild fuel s) := by
  induction fuel generalizing s with
  | zero => exact inferInstanceAs (Uncharged (throw _))
  | succ fuel ih =>
    unfold readTypeNodeLoop readTypeInfo
    infer_instance

end

instance (left : Nat) : Uncharged (readTypeNode left) := by
  induction left with
  | zero => exact inferInstanceAs (Uncharged (fail _))
  | succ left ih =>
    rw [readTypeNode]
    infer_instance

instance : Uncharged readVectorType := by
  unfold readVectorType readVectorTypeField
  infer_instance

instance (rows : Nat) : Uncharged (readFlatValidity rows) := by
  unfold readFlatValidity readFlatVectorPrologue
  infer_instance

instance (rows : Nat) : Uncharged (readDictionaryHeader rows) := by
  unfold readDictionaryHeader
  cases sizeMul 4 rows <;> infer_instance

instance : Uncharged readSequence := by
  unfold readSequence
  infer_instance

instance (rows : Nat) : Uncharged (readVarlenItems rows) := by
  unfold readVarlenItems
  infer_instance

instance (node : TypeNode) : Uncharged (readStructCount node) := by
  unfold readStructCount
  infer_instance

instance (rows : Nat) : Uncharged (readListHeader rows) := by
  unfold readListHeader
  infer_instance

instance (childSize : Nat) : Uncharged (readListEntry childSize) := by
  unfold readListEntry
  infer_instance

instance (node : TypeNode) (rows : Nat) : Uncharged (readFixedData node rows) := by
  unfold readFixedData
  infer_instance

instance (rows size : Nat) : Uncharged (arrayRows rows size) := by
  unfold arrayRows
  cases u64Mul rows size <;> infer_instance

section
variable (skipChild : TypeNode → Nat → QuackRead Unit)
  [∀ node rows, Uncharged (skipChild node rows)]
variable (node : TypeNode) (rows : Nat)

instance : Uncharged (skipStruct skipChild node rows) := by
  unfold skipStruct
  infer_instance

instance : Uncharged (skipList skipChild node rows) := by
  unfold skipList
  split <;> infer_instance

instance : Uncharged (skipArray skipChild node rows) := by
  unfold skipArray
  split <;> infer_instance

instance : Uncharged (skipFlat skipChild node rows) := by
  unfold skipFlat
  infer_instance

end

instance (left : Nat) (node : TypeNode) (rows : Nat) :
    Uncharged (skipVectorNode left node rows) := by
  induction left generalizing node rows with
  | zero => exact inferInstanceAs (Uncharged (fail _))
  | succ left ih =>
    rw [skipVectorNode]
    infer_instance

end Quack

end Ducknng
