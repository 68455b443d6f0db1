import Ducknng.Quack.TypeRoundTrip
import Ducknng.Quack.Agreement

namespace Ducknng

open List ByteCodec

/-!
# Vectors survive the wire

What the encoder writes for a vector is taken back by both readers: the one that
skips it ends at the same place, and the one that decodes it returns the value of
every row. The decoder is charged one unit for every row of the vector and of the
vectors below it.

* `Quack.emits_encodeVector`, `Quack.reads_decodeVectorInto` — the encoder and the decoder.
-/

/-! ### Stores, their rows and their cost -/

/-- The store holds a vector of `rows` rows of the type: the mask and the data are
    long enough, the children are there, and list entries lie inside their child. -/
def Vec.conforms : Nat → Vec → TypeNode → Nat → Bool
  | 0, _, _, _ => false
  | left + 1, vec, node, rows =>
    vec.validity.all (fun mask => Qk.validityBytes rows ≤ mask.length) &&
    if Quack.typeIsVarlen node then rows ≤ vec.strings.length
    else if node.logicalTypeId = Quack.logicalStruct ∨ node.logicalTypeId = Quack.logicalUnion then
      vec.children.length == node.children.length &&
        (node.children.zip vec.children).all fun child => conforms left child.2 child.1 rows
    else if node.logicalTypeId = Quack.logicalList ∨ node.logicalTypeId = Quack.logicalMap then
      match node.children, vec.children with
      | [childNode], [child] =>
        rows ≤ vec.entries.length &&
          (range rows).all (fun row => !Quack.vectorRowIsValid vec.validity row ||
            (vec.entries.getD row (0, 0)).1 + (vec.entries.getD row (0, 0)).2 ≤ vec.listSize) &&
          conforms left child childNode vec.listSize
      | _, _ => false
    else if node.logicalTypeId = Quack.logicalArray then
      match node.children, vec.children with
      | [childNode], [child] => conforms left child childNode (rows * node.arraySize)
      | _, _ => false
    else Quack.typeFixedWidth node * rows ≤ vec.data.length

namespace Quack

/-- The number of vector values that decoding materialises, children included. -/
def vectorCost : Nat → Vec → TypeNode → Nat → Nat
  | 0, _, _, _ => 0
  | left + 1, vec, node, rows =>
    rows +
    if typeIsVarlen node then 0
    else if node.logicalTypeId = logicalStruct ∨ node.logicalTypeId = logicalUnion then
      ((node.children.zip vec.children).map fun child =>
        vectorCost left child.2 child.1 rows).sum
    else if node.logicalTypeId = logicalList ∨ node.logicalTypeId = logicalMap then
      match node.children, vec.children with
      | [childNode], [child] => vectorCost left child childNode vec.listSize
      | _, _ => 0
    else if node.logicalTypeId = logicalArray then
      match node.children, vec.children with
      | [childNode], [child] => vectorCost left child childNode (rows * node.arraySize)
      | _, _ => 0
    else 0

/-- The values of the rows of a vector. -/
def vectorValues : Nat → Vec → TypeNode → Nat → List Value
  | 0, _, _, _ => []
  | left + 1, vec, node, rows =>
    maskRows vec.validity 0 rows <|
      if typeIsVarlen node then fun row => .text (vec.strings.getD row [])
      else if node.logicalTypeId = logicalStruct ∨ node.logicalTypeId = logicalUnion then
        let columns := (node.children.zip vec.children).map fun child =>
          vectorValues left child.2 child.1 rows
        fun row => .struct (columns.map fun column => column.getD row .null)
      else if node.logicalTypeId = logicalList ∨ node.logicalTypeId = logicalMap then
        match node.children, vec.children with
        | [childNode], [child] =>
          let items := vectorValues left child childNode vec.listSize
          fun row =>
            let entry := vec.entries.getD row (0, 0)
            .list ((items.drop entry.1).take entry.2)
        | _, _ => fun _ => .null
      else if node.logicalTypeId = logicalArray then
        match node.children, vec.children with
        | [childNode], [child] =>
          let items := vectorValues left child childNode (rows * node.arraySize)
          fun row => .array ((items.drop (row * node.arraySize)).take node.arraySize)
        | _, _ => fun _ => .null
      else fun row => .fixed (slot vec.data (typeFixedWidth node) row)

/-! ### A vector on the wire -/

/-- The mask of a vector with `rows` rows. -/
def maskBytes (mask : List UInt8) (rows : Nat) : List UInt8 := mask.take (Qk.validityBytes rows)

/-- The validity prologue. -/
def validityPrologueBytes (validity : Option (List UInt8)) (rows : Nat) : List UInt8 :=
  fieldBytes 100 ++ ([if validity.isSome then 1 else 0] ++
    if validity.isSome then fieldBytes 101 ++ countedBytes (maskBytes (validity.getD []) rows)
    else [])

/-- One item of a variable-width vector; nothing is kept of an invalid row. -/
def varlenItem (vec : Vec) (row : Nat) : List UInt8 :=
  if vectorRowIsValid vec.validity row then vec.strings.getD row [] else []

/-- One entry of a list vector; nothing is kept of an invalid row. -/
def listEntry (vec : Vec) (row : Nat) : Nat × Nat :=
  if vectorRowIsValid vec.validity row then vec.entries.getD row (0, 0) else (0, 0)

/-- One entry of a list vector on the wire. -/
def listEntryBytes (entry : Nat × Nat) : List UInt8 :=
  fieldBytes 100 ++ (ulebBytes 10 entry.1 ++ (fieldBytes 101 ++ (ulebBytes 10 entry.2 ++
    fieldBytes fieldEnd)))

/-- The items of a variable-width vector on the wire. -/
def varlenBytes (vec : Vec) (rows : Nat) : List UInt8 :=
  fieldBytes 102 ++ (ulebBytes 10 rows ++
    (range rows).flatMap fun row => countedBytes (varlenItem vec row))

/-- The child count of a structure vector on the wire. -/
def structCountBytes (node : TypeNode) : List UInt8 :=
  fieldBytes 103 ++ ulebBytes 10 node.children.length

/-- The child size and the entry count of a list vector on the wire. -/
def listHeaderBytes (size rows : Nat) : List UInt8 :=
  fieldBytes 104 ++ (ulebBytes 10 size ++ (fieldBytes 105 ++ ulebBytes 10 rows))

/-- The entries of a list vector on the wire. -/
def listEntriesBytes (vec : Vec) (rows : Nat) : List UInt8 :=
  (range rows).flatMap fun row => listEntryBytes (listEntry vec row)

/-- The data of a fixed-width vector on the wire. -/
def fixedBytes (vec : Vec) (node : TypeNode) (rows : Nat) : List UInt8 :=
  fieldBytes 102 ++ countedBytes (vec.data.take (typeFixedWidth node * rows))

/-- A flat vector of at most `left` levels. -/
def vectorBytes : Nat → Vec → TypeNode → Nat → List UInt8
  | 0, _, _, _ => []
  | left + 1, vec, node, rows =>
    validityPrologueBytes vec.validity rows ++
    if typeIsVarlen node then varlenBytes vec rows ++ fieldBytes fieldEnd
    else if node.logicalTypeId = logicalStruct ∨ node.logicalTypeId = logicalUnion then
      structCountBytes node ++ ((node.children.zip vec.children).flatMap (fun child =>
        vectorBytes left child.2 child.1 rows) ++ fieldBytes fieldEnd)
    else if node.logicalTypeId = logicalList ∨ node.logicalTypeId = logicalMap then
      match node.children, vec.children with
      | [childNode], [child] =>
        listHeaderBytes vec.listSize rows ++ (listEntriesBytes vec rows ++ (fieldBytes 106 ++
          (vectorBytes left child childNode vec.listSize ++ fieldBytes fieldEnd)))
      | _, _ => []
    else if node.logicalTypeId = logicalArray then
      match node.children, vec.children with
      | [childNode], [child] =>
        fieldBytes 103 ++ (ulebBytes 10 node.arraySize ++ (fieldBytes 104 ++
          (vectorBytes left child childNode (rows * node.arraySize) ++ fieldBytes fieldEnd)))
      | _, _ => []
    else fixedBytes vec node rows ++ fieldBytes fieldEnd

/-! ### The five shapes of a vector -/

/-- The shapes of a stored vector of a canonical type: which branch of the codec it
    takes and what it has for that branch. -/
inductive VecShape (left : Nat) (vec : Vec) (node : TypeNode) (rows : Nat) : Prop where
  | varlen (hvar : typeIsVarlen node = true)
  | members (hvar : ¬typeIsVarlen node = true)
      (hid : node.logicalTypeId = logicalStruct ∨ node.logicalTypeId = logicalUnion)
      (hpos : 1 ≤ node.children.length) (hmax : node.children.length ≤ maxStructMembers)
      (hlen : vec.children.length = node.children.length)
      (hchild : ∀ child ∈ node.children.zip vec.children,
        child.1.Canonical left ∧ child.2.conforms left child.1 rows = true)
  | list (hvar : ¬typeIsVarlen node = true)
      (hmem : ¬(node.logicalTypeId = logicalStruct ∨ node.logicalTypeId = logicalUnion))
      (hid : node.logicalTypeId = logicalList ∨ node.logicalTypeId = logicalMap)
      (childNode : TypeNode) (child : Vec) (hnode : node.children = [childNode])
      (hvec : vec.children = [child])
      (hentry : ∀ row < rows, (listEntry vec row).1 + (listEntry vec row).2 ≤ vec.listSize)
      (hcanon : childNode.Canonical left)
      (hchild : child.conforms left childNode vec.listSize = true)
  | array (hvar : ¬typeIsVarlen node = true)
      (hmem : ¬(node.logicalTypeId = logicalStruct ∨ node.logicalTypeId = logicalUnion))
      (hlist : ¬(node.logicalTypeId = logicalList ∨ node.logicalTypeId = logicalMap))
      (hid : node.logicalTypeId = logicalArray)
      (childNode : TypeNode) (child : Vec) (hnode : node.children = [childNode])
      (hvec : vec.children = [child]) (hpos : 1 ≤ node.arraySize) (hmax : node.arraySize ≤ u32Max)
      (hcanon : childNode.Canonical left)
      (hchild : child.conforms left childNode (rows * node.arraySize) = true)
  | fixed (hvar : ¬typeIsVarlen node = true)
      (hmem : ¬(node.logicalTypeId = logicalStruct ∨ node.logicalTypeId = logicalUnion))
      (hlist : ¬(node.logicalTypeId = logicalList ∨ node.logicalTypeId = logicalMap))
      (harr : ¬node.logicalTypeId = logicalArray)
      (hpos : 1 ≤ typeFixedWidth node) (hmax : typeFixedWidth node ≤ 16)
      (hdata : typeFixedWidth node * rows ≤ vec.data.length)

variable {left width cost row : Nat} {α : Type} {bs : List UInt8} {a : α}
  {validity : Option (List UInt8)}

variable {node : TypeNode} {rows : Nat} {vec : Vec}

/-- The width of a canonical type that has one. -/
theorem fixedWidth_of_canonical (hnode : node.Canonical left) (hvar : ¬typeIsVarlen node = true)
    (hnested : typeIsNested node = false) :
    1 ≤ typeFixedWidth node ∧ typeFixedWidth node ≤ 16 := by
  cases hnode with
  | flat kind => cases kind <;> first | exact absurd rfl hvar | decide
  | decimal hwidth hmax _ =>
    simp only [typeFixedWidth]
    split_ifs <;> omega
  | enum _ =>
    simp only [typeFixedWidth]
    split_ifs <;> simp_all
  | list | map | array | struct | union => cases hnested

/-- The member count of a canonical structure or union. -/
theorem memberCount_of_canonical (hnode : node.Canonical left)
    (hid : node.logicalTypeId = logicalStruct ∨ node.logicalTypeId = logicalUnion) :
    1 ≤ node.children.length ∧ node.children.length ≤ maxStructMembers := by
  cases hnode with
  | flat kind => cases kind <;> exact absurd hid (by decide)
  | struct _ hpos hmax _ => exact ⟨hpos, hmax⟩
  | union _ hpos hmax _ _ => exact ⟨by simp, hmax⟩
  | _ => exact absurd hid (by simp only; decide)

/-- The size of a canonical array. -/
theorem arraySize_of_canonical (hnode : node.Canonical left)
    (hid : node.logicalTypeId = logicalArray) :
    1 ≤ node.arraySize ∧ node.arraySize ≤ u32Max := by
  cases hnode with
  | flat kind => cases kind <;> exact absurd hid (by decide)
  | array _ hpos hmax => exact ⟨hpos, hmax⟩
  | _ => exact absurd hid (by simp only; decide)

/-- **Every stored vector of a canonical type has one of the five shapes.** -/
theorem vecShape (hnode : node.Canonical (left + 1))
    (hconf : vec.conforms (left + 1) node rows = true) : VecShape left vec node rows := by
  rw [Vec.conforms, Bool.and_eq_true] at hconf
  obtain ⟨_, hconf⟩ := hconf
  by_cases hvar : typeIsVarlen node = true
  · exact .varlen hvar
  rw [if_neg hvar] at hconf
  by_cases hmem : node.logicalTypeId = logicalStruct ∨ node.logicalTypeId = logicalUnion
  · obtain ⟨hpos, hmax⟩ := memberCount_of_canonical hnode hmem
    rw [if_pos hmem, Bool.and_eq_true, beq_iff_eq, all_eq_true] at hconf
    exact .members hvar hmem hpos hmax hconf.1 fun child hchild =>
      ⟨hnode.children _ (of_mem_zip hchild).1, hconf.2 child hchild⟩
  rw [if_neg hmem] at hconf
  by_cases hlist : node.logicalTypeId = logicalList ∨ node.logicalTypeId = logicalMap
  · rw [if_pos hlist] at hconf
    split at hconf
    case h_2 => cases hconf
    case h_1 childNode child hn hv =>
      simp only [Bool.and_eq_true, all_eq_true, mem_range] at hconf
      obtain ⟨⟨_, hentry⟩, hchild⟩ := hconf
      refine .list hvar hmem hlist childNode child hn hv (fun row hrow => ?_)
        (hnode.children _ (by rw [hn]; exact mem_singleton.2 rfl)) hchild
      have h := hentry row hrow
      unfold listEntry
      by_cases hvalid : vectorRowIsValid vec.validity row = true
      · simpa [hvalid] using h
      · rw [if_neg hvalid]
        exact Nat.zero_le _
  rw [if_neg hlist] at hconf
  by_cases harr : node.logicalTypeId = logicalArray
  · obtain ⟨hpos, hmax⟩ := arraySize_of_canonical hnode harr
    rw [if_pos harr] at hconf
    split at hconf
    case h_2 => cases hconf
    case h_1 childNode child hn hv =>
      exact .array hvar hmem hlist harr childNode child hn hv hpos hmax
        (hnode.children _ (by rw [hn]; exact mem_singleton.2 rfl)) hconf
  · rw [if_neg harr] at hconf
    have hnested : typeIsNested node = false := by
      simp [typeIsNested, hmem, hlist, harr]
    obtain ⟨hpos, hmax⟩ := fixedWidth_of_canonical hnode hvar hnested
    exact .fixed hvar hmem hlist harr hpos hmax (of_decide_eq_true hconf)

/-! ### Encoding -/

theorem rows_le_vectorCost (left : Nat) (vec : Vec) (node : TypeNode) (rows : Nat) :
    rows ≤ vectorCost (left + 1) vec node rows := by
  exact Nat.le_add_right rows _

/-- The same for a stored vector at any level. -/
theorem rows_le_cost_of_conforms (hconf : vec.conforms left node rows = true) :
    rows ≤ vectorCost left vec node rows := by
  cases left with
  | zero => cases hconf
  | succ left => exact rows_le_vectorCost left vec node rows

/-- A member costs no more than all members together. -/
theorem memberCost_le {members : List (TypeNode × Vec)} {child : TypeNode × Vec}
    (hcost : rows + (members.map fun child => vectorCost left child.2 child.1 rows).sum ≤ cost)
    (hmem : child ∈ members) : vectorCost left child.2 child.1 rows ≤ cost := by
  have hle : vectorCost left child.2 child.1 rows ≤
      (members.map fun child => vectorCost left child.2 child.1 rows).sum :=
    le_sum_of_mem (mem_map_of_mem hmem)
  omega

theorem validityBytes_lt (h : rows ≤ maxMaterializedValues) :
    Qk.validityBytes rows < sizeMax := by
  unfold maxMaterializedValues at h
  unfold Qk.validityBytes u64Max sizeMax
  split <;> omega

theorem emits_encodeValidity (validity : Option (List UInt8)) (h : rows ≤ maxMaterializedValues) :
    Emits sizeMax (encodeValidity validity rows) (validityPrologueBytes validity rows) := by
  refine (emits_writeFieldId 100).bind ((emits_writeByte _).bind (emits_writeWhen fun _ => ?_))
  refine (emits_writeFieldId 101).bind ?_
  unfold encodeValidityBlob
  rw [if_neg (Nat.ne_of_lt (validityBytes_lt h))]
  exact emits_writeBlob _

theorem emits_encodeListEntry (vec : Vec) (row : Nat) :
    Emits sizeMax (encodeListEntry vec row) (listEntryBytes (listEntry vec row)) :=
  (emits_writeFieldId 100).bind ((emits_writeUleb128 _).bind ((emits_writeFieldId 101).bind
    ((emits_writeUleb128 _).bind emits_writeFieldEnd)))

/-- The row count of an array's child is a 64-bit number. -/
theorem u64Mul_of_le {a b : Nat} (h : a * b ≤ maxMaterializedValues) : u64Mul a b =
    some (a * b) := by
  rw [u64Mul_eq_sizeMul, sizeMul_eq_some]
  exact ⟨rfl, Nat.le_trans h (by decide)⟩

theorem sizeMul_width (hwidth : width ≤ 16) (hrows : rows ≤ maxMaterializedValues) :
    sizeMul width rows = some (width * rows) := by
  rw [sizeMul_eq_some]
  refine ⟨rfl, Nat.le_trans (Nat.mul_le_mul hwidth hrows) (by decide)⟩

/-- **Encoding a vector.** -/
theorem emits_encodeVector (hnode : node.Canonical left)
    (hconf : vec.conforms left node rows = true)
    (hcost : vectorCost left vec node rows ≤ maxMaterializedValues) :
    Emits sizeMax (encodeVector left vec node rows) (vectorBytes left vec node rows) := by
  induction left generalizing vec node rows with
  | zero => cases hnode
  | succ left ih =>
    have hrows := Nat.le_trans (rows_le_vectorCost left vec node rows) hcost
    rw [vectorCost] at hcost
    refine (emits_encodeValidity _ hrows).bind ?_
    cases vecShape hnode hconf with
    | varlen hvar =>
      rw [if_pos hvar, if_pos hvar, varlenBytes, append_assoc, append_assoc]
      exact (emits_writeFieldId 102).bind ((emits_writeUleb128 _).bind
        ((Emits.emitEach fun row _ => emits_writeBlob _).bind emits_writeFieldEnd))
    | members hvar hid _ _ _ hchild =>
      simp only [if_neg hvar, if_pos hid] at hcost ⊢
      refine (emits_writeFieldId 103).bind ((emits_writeUleb128 _).bind
        ((Emits.emitEach fun child hmem => ?_).bind emits_writeFieldEnd))
      exact ih (hchild child hmem).1 (hchild child hmem).2 (memberCost_le hcost hmem)
    | list hvar hmem hid childNode child hn hv _ hcanon hchild =>
      simp only [if_neg hvar, if_neg hmem, if_pos hid, hn, hv, listHeaderBytes,
        append_assoc] at hcost ⊢
      exact (emits_writeFieldId 104).bind ((emits_writeUleb128 _).bind
        ((emits_writeFieldId 105).bind ((emits_writeUleb128 _).bind
          ((Emits.emitEach fun row _ => emits_encodeListEntry vec row).bind
            ((emits_writeFieldId 106).bind
              ((ih hcanon hchild (by omega)).bind emits_writeFieldEnd))))))
    | array hvar hmem hlist hid childNode child hn hv _ _ hcanon hchild =>
      simp only [if_neg hvar, if_neg hmem, if_neg hlist, if_pos hid, hn, hv] at hcost ⊢
      have hchildRows := rows_le_cost_of_conforms hchild
      have hbody := ih hcanon hchild (by omega)
      refine (emits_writeFieldId 103).bind ((emits_writeUleb128 _).bind
        ((emits_writeFieldId 104).bind (Emits.bind ?_ emits_writeFieldEnd)))
      unfold encodeArrayChild
      rw [u64Mul_of_le (by omega)]
      exact hbody
    | fixed hvar hmem hlist harr hpos hmax _ =>
      simp only [if_neg hvar, if_neg hmem, if_neg hlist, if_neg harr]
      unfold encodeFixedData
      rw [if_neg (by omega), sizeMul_width hmax hrows]
      exact (emits_writeFieldId 102).bind ((emits_writeBlob _).bind emits_writeFieldEnd)

/-! ### Reading the pieces -/

/-- A flat vector does not announce its type: the next field is the prologue's. -/
theorem reads_readVectorType {k : Nat → QuackRead α}
    (hk : Reads readBounds (k 0) (fieldBytes 100 ++ bs) cost a) :
    Reads readBounds (readVectorType >>= k) (fieldBytes 100 ++ bs) cost a := by
  unfold readVectorType
  rw [bind_assoc]
  refine reads_peek (by decide) ?_
  exact hk

/-- The stored mask of a vector, cut to its rows. -/
def storedMask (validity : Option (List UInt8)) (rows : Nat) : Option (List UInt8) :=
  validity.map fun mask => maskBytes mask rows

theorem reads_readFlatValidity
    (hmask : validity.all (fun mask => Qk.validityBytes rows ≤ mask.length) = true) :
    Reads readBounds (readFlatValidity rows) (validityPrologueBytes validity rows) 0
      (storedMask validity rows) := by
  cases validity with
  | none =>
    have hprologue : Reads readBounds readFlatVectorPrologue (validityPrologueBytes none rows) 0
        none :=
      reads_field (by decide)
        ((reads_readBoolean _ false).bind_nil (Reads.pure none))
    exact hprologue.bind_nil (Reads.pure none)
  | some mask =>
    have hlen : (maskBytes mask rows).length = Qk.validityBytes rows := by
      rw [maskBytes, length_take, Nat.min_eq_left (of_decide_eq_true hmask)]
    have hprologue : Reads readBounds readFlatVectorPrologue
        (validityPrologueBytes (some mask) rows) 0 (some (maskBytes mask rows)) :=
      reads_field (by decide) ((reads_readBoolean _ true).bind_free
        (reads_field (by decide)
          ((reads_readBlobView _).bind_nil (Reads.pure _))))
    refine hprologue.bind_nil ?_
    rw [if_neg (by simp [hlen])]
    exact Reads.pure _

/-- Cutting the mask to whole words keeps the bits of the rows. -/
theorem vectorRowIsValid_storedMask (hrows : rows ≤ maxMaterializedValues) (hrow : row < rows) :
    vectorRowIsValid (storedMask validity rows) row = vectorRowIsValid validity row := by
  cases validity with
  | none => rfl
  | some mask =>
    have hbyte : row / 8 < Qk.validityBytes rows := by
      unfold maxMaterializedValues at hrows
      unfold Qk.validityBytes u64Max sizeMax
      split <;> omega
    simp only [storedMask, Option.map_some, vectorRowIsValid, maskBytes]
    congr 4
    rw [getD_eq_getElem?_getD, getD_eq_getElem?_getD, getElem?_take_of_lt hbyte]

/-- Rows that agree wherever they are valid. -/
theorem maskRows_storedMask {f g : Nat → Value} (hrows : rows ≤ maxMaterializedValues)
    (h : ∀ row < rows, vectorRowIsValid validity row = true → f row = g row) :
    maskRows (storedMask validity rows) 0 rows f = maskRows validity 0 rows g := by
  refine map_congr_left fun row hrow => ?_
  have hlt := mem_range.1 hrow
  rw [Nat.zero_add, vectorRowIsValid_storedMask hrows hlt]
  by_cases hvalid : vectorRowIsValid validity row = true
  · rw [if_pos hvalid, if_pos hvalid, h row hlt hvalid]
  · rw [if_neg hvalid, if_neg hvalid]

theorem reads_readVarlenItems (vec : Vec) (hrows : rows ≤ maxMaterializedValues) :
    Reads readBounds (readVarlenItems rows) (varlenBytes vec rows) 0
      ((range rows).map (varlenItem vec)) := by
  refine reads_number (by decide) (Nat.le_trans hrows (by decide)) ?_
  rw [if_neg (by simp)]
  have h := Reads.repeatRead fun row (_ : row ∈ range rows) =>
    reads_readBlobView (varlenItem vec row)
  rwa [length_range] at h

theorem reads_readStructCount (hpos : 1 ≤ node.children.length)
    (hmax : node.children.length ≤ maxStructMembers) :
    Reads readBounds (readStructCount node) (structCountBytes node) 0 () := by
  refine reads_field (by decide) ?_
  refine (reads_readUleb128 (Nat.le_trans hmax (by decide))).bind_nil ?_
  have hne : node.children.isEmpty = false := by
    rw [isEmpty_eq_false_iff, ← length_pos_iff]
    exact hpos
  rw [if_neg (by simp [hne])]
  exact Reads.pure ()

theorem reads_readListHeader {size : Nat} (hrows : rows ≤ maxMaterializedValues)
    (hsize : size ≤ maxMaterializedValues) :
    Reads readBounds (readListHeader rows) (listHeaderBytes size rows) 0 size := by
  refine reads_number (by decide) (Nat.le_trans hsize (by decide)) ?_
  refine reads_field (by decide) ?_
  refine (reads_readUleb128 (Nat.le_trans hrows (by decide))).bind_nil ?_
  rw [if_neg (by simp)]
  exact Reads.pure size

theorem reads_readListEntries (hsize : vec.listSize ≤ maxMaterializedValues)
    (hentry : ∀ row < rows, (listEntry vec row).1 + (listEntry vec row).2 ≤ vec.listSize) :
    Reads readBounds (repeatRead (readListEntry vec.listSize) rows) (listEntriesBytes vec rows) 0
      ((range rows).map (listEntry vec)) := by
  have h := Reads.repeatRead fun row (hrow : row ∈ range rows) => by
    have hle := hentry row (mem_range.1 hrow)
    have hmax : vec.listSize ≤ u64Max := Nat.le_trans hsize (by decide)
    have hread : Reads readBounds (readListEntry vec.listSize)
        (listEntryBytes (listEntry vec row)) 0 (listEntry vec row) := by
      refine reads_number (by decide) (by omega) ?_
      refine reads_number (by decide) (by omega) ?_
      refine reads_readFieldEnd.bind_nil ?_
      rw [if_neg (by omega)]
      exact Reads.pure _
    exact hread
  rwa [length_range] at h

theorem reads_readFixedData (hrows : rows ≤ maxMaterializedValues) (hpos : 1 ≤ typeFixedWidth node)
    (hmax : typeFixedWidth node ≤ 16) (hdata : typeFixedWidth node * rows ≤ vec.data.length) :
    Reads readBounds (readFixedData node rows) (fixedBytes vec node rows) 0
      (vec.data.take (typeFixedWidth node * rows)) := by
  refine reads_field (by decide) ?_
  refine (reads_readBlobView _).bind_nil ?_
  have hlen : (vec.data.take (typeFixedWidth node * rows)).length = typeFixedWidth node * rows := by
    rw [length_take, Nat.min_eq_left hdata]
  rw [sizeMul_width hmax hrows, if_neg (by simp; omega)]
  exact Reads.pure _

theorem reads_arrayRows {size : Nat} (h : rows * size ≤ maxMaterializedValues) :
    Reads readBounds (arrayRows rows size) [] 0 (rows * size) := by
  unfold arrayRows
  rw [u64Mul_of_le h]
  exact Reads.pure _

/-- The members of a structure, read one after another. -/
theorem reads_members {β : Type} (p : TypeNode → QuackRead β) (bytes : TypeNode × Vec → List UInt8)
    (cost : TypeNode × Vec → Nat) (value : TypeNode × Vec → β) {nodes : List TypeNode}
    {vecs : List Vec} (hlen : vecs.length = nodes.length)
    (h : ∀ child ∈ nodes.zip vecs,
      Reads readBounds (p child.1) (bytes child) (cost child) (value child)) :
    Reads readBounds (forEach p nodes) ((nodes.zip vecs).flatMap bytes)
      ((nodes.zip vecs).map cost).sum ((nodes.zip vecs).map value) := by
  have hfst : (nodes.zip vecs).map Prod.fst = nodes := map_fst_zip (Nat.le_of_eq hlen.symm)
  have hread := Reads.forEach h
  rwa [← forEach_map p Prod.fst, hfst] at hread

/-! ### Decoding -/

/-- The mask of a stored vector is long enough. -/
theorem mask_of_conforms (hconf : vec.conforms (left + 1) node rows = true) :
    vec.validity.all (fun mask => Qk.validityBytes rows ≤ mask.length) = true := by
  rw [Vec.conforms, Bool.and_eq_true] at hconf
  exact hconf.1

/-- The value that is read, written another way. -/
theorem reads_value {p : QuackRead α} {b : α} (h : Reads readBounds p bs cost a) (heq : a = b) :
    Reads readBounds p bs cost b := heq ▸ h

/-- Charging for the rows of a vector. -/
theorem reads_charge {n : Nat} {k : Unit → QuackRead α} (hk : Reads readBounds (k ()) bs cost a) :
    Reads readBounds (checkMaterializedValues n true >>= k) bs (n + cost) a := by
  have hcharge : Reads readBounds (checkMaterializedValues n true) [] n () := by
    intro c rest _ _ hbudget
    exact checkMaterializedValues_eq_ok.2 ⟨hbudget, rfl⟩
  exact hcharge.bind hk

/-- Reserving ahead for rows that will be charged for later. -/
theorem reads_reserveListChild {n : Nat} {k : Unit → QuackRead α} (hle : n ≤ cost)
    (hk : Reads readBounds (k ()) bs cost a) :
    Reads readBounds (reserveListChild n >>= k) bs cost a := by
  intro c rest hsize hdrop hbudget
  have hcost : c.spent + cost ≤ maxMaterializedValues := hbudget
  rw [Step.bind_eq_ok]
  exact ⟨(), c, reserveListChild_eq_ok.2 ⟨by omega, rfl⟩, hk c rest hsize hdrop hbudget⟩

theorem getD_map_range (f : Nat → α) (d : α) (h : row < rows) :
    ((range rows).map f).getD row d = f row := by
  simp [h]

/-- The elements below a cut are those of the whole. -/
theorem slot_take {data : List UInt8} (h : row < rows) :
    slot (data.take (width * rows)) width row = slot data width row := by
  have hle : row * width + width ≤ width * rows := by
    rw [Nat.mul_comm]
    exact Nat.mul_le_mul_left width h
  unfold slot
  rw [drop_take, take_take, Nat.min_eq_left (by omega)]

theorem reads_checkFixedSlice {data : List UInt8} (hwidth : width ≤ 16)
    (hrows : rows ≤ maxMaterializedValues) (hdata : width * rows ≤ data.length) :
    Reads readBounds (checkFixedSlice width (data.take (width * rows)).length 0 rows) [] 0 () := by
  have hlen : (data.take (width * rows)).length = width * rows := by
    rw [length_take, Nat.min_eq_left hdata]
  unfold checkFixedSlice
  rw [sizeMul_width hwidth hrows, sizeMul_width hwidth (Nat.zero_le _)]
  by_cases h : rows > 0
  · rw [if_pos h]
    simp only
    rw [if_neg (by omega)]
    exact Reads.pure ()
  · rw [if_neg h]
    exact Reads.pure ()

/-- **Decoding an encoded vector returns the value of every row.** -/
theorem reads_decodeVectorInto (hnode : node.Canonical left)
    (hconf : vec.conforms left node rows = true)
    (hcost : vectorCost left vec node rows ≤ maxMaterializedValues) :
    Reads readBounds (decodeVectorInto left node rows 0 rows) (vectorBytes left vec node rows)
      (vectorCost left vec node rows) (vectorValues left vec node rows) := by
  induction left generalizing vec node rows with
  | zero => cases hnode
  | succ left ih =>
    have hrows := Nat.le_trans (rows_le_vectorCost left vec node rows) hcost
    rw [vectorCost] at hcost ⊢
    rw [decodeVectorInto, if_neg (by omega), vectorBytes, validityPrologueBytes, append_assoc]
    -- the rows are charged first, then come the vector type and the mask
    refine .nested (reads_charge (reads_readVectorType ?_))
    rw [← append_assoc, vectorValues]
    have hend : ∀ {values : List Value}, Reads readBounds
        (readExpectField fieldEnd >>= fun _ => pure values) (fieldBytes fieldEnd) 0 values :=
      reads_readFieldEnd.bind_nil (Reads.pure _)
    refine (reads_readFlatValidity (mask_of_conforms hconf)).bind_free ?_
    -- the body depends on the kind of the type
    cases vecShape hnode hconf with
    | varlen hvar =>
      simp only [if_pos hvar]
      apply reads_value
      · exact (reads_readVarlenItems vec hrows).bind_free hend
      · refine maskRows_storedMask hrows fun row hrow hvalid => ?_
        rw [Nat.zero_add, getD_map_range _ _ hrow, varlenItem, if_pos hvalid]
    | members hvar hid hpos hmax hlen hchild =>
      simp only [if_neg hvar, if_pos hid] at hcost ⊢
      have hmembers := reads_members (fun child => decodeVectorInto left child rows 0 rows)
        (fun child => vectorBytes left child.2 child.1 rows)
        (fun child => vectorCost left child.2 child.1 rows)
        (fun child => vectorValues left child.2 child.1 rows) hlen
        fun child hmem => ih (hchild child hmem).1 (hchild child hmem).2 (memberCost_le hcost hmem)
      rw [← maskRows_storedMask hrows fun _ _ _ => rfl]
      exact (reads_readStructCount hpos hmax).bind_free (hmembers.bind_last hend)
    | list hvar hmem hid childNode child hn hv hentry hcanon hchild =>
      simp only [if_neg hvar, if_neg hmem, if_pos hid, decodeList, hn, hv] at hcost ⊢
      have hsize := rows_le_cost_of_conforms hchild
      have hitems : vec.listSize ≤ maxMaterializedValues := by omega
      apply reads_value
      · apply (reads_readListHeader hrows hitems).bind_free
        -- the child is reserved before its entries are read
        apply reads_reserveListChild hsize
        apply (reads_readListEntries hitems hentry).bind_free
        apply reads_field (by decide)
        exact (ih hcanon hchild (by omega)).bind_last hend
      · refine maskRows_storedMask hrows fun row hrow hvalid => ?_
        rw [Nat.zero_add, getD_map_range _ _ hrow, listEntry, if_pos hvalid]
    | array hvar hmem hlist hid childNode child hn hv _ hmax hcanon hchild =>
      simp only [if_neg hvar, if_neg hmem, if_neg hlist, if_pos hid, decodeArray, hn, hv] at hcost ⊢
      have hchildRows := rows_le_cost_of_conforms hchild
      rw [← maskRows_storedMask hrows fun _ _ _ => rfl]
      refine reads_number (by decide) (Nat.le_trans hmax (by decide)) ?_
      rw [if_neg (by simp)]
      refine reads_field (by decide) ?_
      refine (reads_arrayRows (by omega)).nil_bind ?_
      exact (ih hcanon hchild (by omega)).bind_last hend
    | fixed hvar hmem hlist harr hpos hmax hdata =>
      simp only [if_neg hvar, if_neg hmem, if_neg hlist, if_neg harr]
      apply reads_value
      · apply (reads_readFixedData hrows hpos hmax hdata).bind_free
        apply (reads_checkFixedSlice hmax hrows hdata).nil_bind
        exact hend
      · refine maskRows_storedMask hrows fun row hrow _ => ?_
        rw [Nat.zero_add, slot_take hrow]

/-! ### Every row takes a byte -/

theorem length_le_of_mem {bytes : α → List UInt8} {xs : List α} {x : α} (h : x ∈ xs) :
    (bytes x).length ≤ (xs.flatMap bytes).length := by
  rw [length_flatMap]
  exact le_sum_of_mem (mem_map_of_mem h)

/-- **A vector has no more rows than bytes.** -/
theorem rows_le_vectorBytes (hnode : node.Canonical left)
    (hconf : vec.conforms left node rows = true) :
    rows ≤ (vectorBytes left vec node rows).length := by
  induction left generalizing vec node rows with
  | zero => cases hconf
  | succ left ih =>
    cases vecShape hnode hconf with
    | varlen hvar =>
      rw [vectorBytes, if_pos hvar, varlenBytes]
      have hitems := length_le_flatMap_length fun (row : Nat) (_ : row ∈ range rows) =>
        countedBytes_length_pos (varlenItem vec row)
      rw [length_range] at hitems
      simp only [length_append]
      omega
    | members hvar hid hpos hmax hlen hchild =>
      rw [vectorBytes, if_neg hvar, if_pos hid]
      -- There is a member, and its vector has as many rows.
      have hne : (node.children.zip vec.children).length > 0 := by
        rw [length_zip]
        omega
      obtain ⟨child, hmem⟩ := exists_mem_of_length_pos hne
      have hbytes := @length_le_of_mem _ (fun child : TypeNode × Vec =>
        vectorBytes left child.2 child.1 rows) _ _ hmem
      have hrows := ih (hchild child hmem).1 (hchild child hmem).2
      simp only [length_append] at hbytes ⊢
      omega
    | list hvar hmem hid childNode child hn hv =>
      rw [vectorBytes, if_neg hvar, if_neg hmem, if_pos hid]
      simp only [hn, hv, listEntriesBytes]
      have hitems := length_le_flatMap_length fun (row : Nat) (_ : row ∈ range rows) =>
        (by simp [listEntryBytes] : 0 < (listEntryBytes (listEntry vec row)).length)
      rw [length_range] at hitems
      simp only [length_append]
      omega
    | array hvar hmem hlist hid childNode child hn hv hpos hmax hcanon hchild =>
      rw [vectorBytes, if_neg hvar, if_neg hmem, if_neg hlist, if_pos hid]
      simp only [hn, hv, length_append]
      have hrows := ih hcanon hchild
      have hmul := Nat.le_mul_of_pos_right rows hpos
      omega
    | fixed hvar hmem hlist harr hpos hmax hdata =>
      rw [vectorBytes, if_neg hvar, if_neg hmem, if_neg hlist, if_neg harr, fixedBytes,
        countedBytes]
      simp only [length_append, length_take]
      have hmul := Nat.le_mul_of_pos_left rows hpos
      omega

end Quack

end Ducknng
