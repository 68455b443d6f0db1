import Ducknng.Quack.Payload
import Ducknng.Quack.Uncharged

namespace Ducknng

open ByteCodec

/-!
# What a batch demands of its decoder

The structural validation walks a payload without building anything; the decoder
walks it again and may refuse it for two more reasons, a sequence that leaves the
range of its type and a chunk with too many values. The survey of a vector reads it
as the validation does and reports both.

* `Quack.skipVectorNode_eq` — skipping a vector is surveying it and keeping nothing.
-/

/-! ### The survey -/

/-- What a vector asks of its decoder: the number of values to materialise, its own
    and those of the vectors below it, and whether every sequence in it stays inside
    the range of its type. -/
structure Demand where
  values : Nat
  inRange : Bool
  deriving DecidableEq, Repr

/-- The demand of several vectors. -/
def Demand.join (demands : List Demand) : Demand :=
  ⟨(demands.map Demand.values).sum, demands.all Demand.inRange⟩

/-- The demand of a vector with so many rows and what is below it. -/
def Demand.charge (rows : Nat) (below : Demand) : Demand := ⟨rows + below.values, below.inRange⟩

namespace Quack

/-- Whether the first `rows` elements of a sequence are values of the type. -/
def sequenceInRange (node : TypeNode) (start increment : Int) (rows : Nat) : Bool :=
  match sequenceRange node.logicalTypeId with
  | none => false
  | some (low, high) => (List.range rows).all fun row =>
      low ≤ sequenceValue start increment row ∧ sequenceValue start increment row ≤ high

section
variable (surveyChild : TypeNode → Nat → QuackRead Demand) (node : TypeNode) (rows : Nat)

/-- What lies below a structure or a union. -/
def surveyStruct : QuackRead Demand := do
  readStructCount node
  let demands ← forEach (fun child => surveyChild child rows) node.children
  readExpectField fieldEnd
  pure (.join demands)

/-- What lies below a list or a map. -/
def surveyList : QuackRead Demand :=
  match node.children with
  | [child] => do
    let childSize ← readListHeader rows
    let _ ← repeatRead (readListEntry childSize) rows
    readExpectField 106
    let demand ← surveyChild child childSize
    readExpectField fieldEnd
    pure demand
  | _ => fail "ducknng: quack list/map vector has no child type"

/-- What lies below an array. -/
def surveyArray : QuackRead Demand :=
  match node.children with
  | [child] => do
    readExpectField 103
    let asize ← readUleb128
    readExpectField 104
    if asize ≠ node.arraySize then fail "ducknng: quack array vector fixed-size mismatch"
    else do
      let childRows ← arrayRows rows asize
      let demand ← surveyChild child childRows
      readExpectField fieldEnd
      pure demand
  | _ => fail "ducknng: quack array vector has no child type"

/-- What lies below a flat vector. -/
def surveyFlat : QuackRead Demand := do
  let _ ← readFlatValidity rows
  if typeIsVarlen node then do
    let _ ← readVarlenItems rows
    readExpectField fieldEnd
    pure ⟨0, true⟩
  else if node.logicalTypeId = logicalStruct ∨ node.logicalTypeId = logicalUnion then
    surveyStruct surveyChild node rows
  else if node.logicalTypeId = logicalList ∨ node.logicalTypeId = logicalMap then
    surveyList surveyChild node rows
  else if node.logicalTypeId = logicalArray then surveyArray surveyChild node rows
  else do
    let _ ← readFixedData node rows
    readExpectField fieldEnd
    pure ⟨0, true⟩

/-- What lies below a vector of the given encoding. -/
def surveyBelow (vectorType : Nat) : QuackRead Demand :=
  if vectorType = 1 then fail "ducknng: FSST quack vectors are unsupported"
  else if vectorType = 2 then surveyChild node 1
  else if vectorType = 3 then do
    let header ← readDictionaryHeader rows
    surveyChild node header.2
  else if vectorType = 4 then
    if !typeIsSequenceInteger node then
      fail "ducknng: sequence quack vector requires an integer logical type"
    else do
      let fields ← readSequence
      readExpectField fieldEnd
      pure ⟨0, sequenceInRange node fields.1 fields.2 rows⟩
  else surveyFlat surveyChild node rows

end

/-- The demand of a vector, read as `ducknng_quack_skip_vector_node` reads it. -/
def surveyVectorNode : Nat → TypeNode → Nat → QuackRead Demand
  | 0, _, _ => fail vectorNestingMessage
  | left + 1, node, rows => nested do
    let vectorType ← readVectorType
    let below ← surveyBelow (surveyVectorNode left) node rows vectorType
    pure (below.charge rows)

/-! ### Skipping is surveying -/

section
variable {skipChild : TypeNode → Nat → QuackRead Unit}
variable {surveyChild : TypeNode → Nat → QuackRead Demand}
variable (h : ∀ node rows, skipChild node rows = (fun _ => ()) <$> surveyChild node rows)
include h

theorem skipList_eq (node : TypeNode) (rows : Nat) :
    skipList skipChild node rows = (fun _ => ()) <$> surveyList surveyChild node rows := by
  unfold skipList surveyList
  rcases node.children with _ | ⟨child, _ | _⟩
  · rfl
  · simp only [h, map_bind, map_pure, bind_map_left, bind_pure_unit]
  · rfl

theorem skipArray_eq (node : TypeNode) (rows : Nat) :
    skipArray skipChild node rows = (fun _ => ()) <$> surveyArray surveyChild node rows := by
  unfold skipArray surveyArray
  rcases node.children with _ | ⟨child, _ | _⟩
  · rfl
  · simp only [h, map_bind, map_pure, bind_map_left, bind_pure_unit,
      apply_ite (Functor.map fun _ => ())]
    rfl
  · rfl

theorem skipFlat_eq (node : TypeNode) (rows : Nat) :
    skipFlat skipChild node rows = (fun _ => ()) <$> surveyFlat surveyChild node rows := by
  unfold skipFlat surveyFlat
  simp only [skipStruct, surveyStruct, skipList_eq h, skipArray_eq h, h, forEach_discard, map_bind,
    map_pure, bind_pure_unit, apply_ite (Functor.map fun _ => ())]

end

/-- **A vector is skipped as it is surveyed**, and the demand is thrown away. -/
theorem skipVectorNode_eq (left : Nat) (node : TypeNode) (rows : Nat) :
    skipVectorNode left node rows = (fun _ => ()) <$> surveyVectorNode left node rows := by
  induction left generalizing node rows with
  | zero => rfl
  | succ left ih =>
    simp only [skipVectorNode, surveyVectorNode, map_nested, map_bind, bind_pure_comp,
      Functor.map_map]
    congr 1
    refine bind_congr fun vectorType => ?_
    simp only [surveyBelow, skipFlat_eq ih, ih, apply_ite (Functor.map fun _ => ()), map_bind,
      map_pure, bind_pure_unit]
    rfl

end Quack

end Ducknng
