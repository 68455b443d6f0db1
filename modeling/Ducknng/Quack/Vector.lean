import Ducknng.Quack.TypeNode

namespace Ducknng

open ByteCodec

/-!
# Quack vectors

The column vectors of a batch: the encoder, which only writes flat vectors, and
the two readers — the one that skips a vector without materialising it and the
one that decodes it, both of which also take constant, dictionary and sequence
vectors.

* `Vec` — a `duckdb_vector` as a plain store, read by the encoder.
* `Value` — the logical value of a row; a decoder returns one for every row of
  the output vector.
* `Quack.encodeVector`, `Quack.skipVectorNode`, `Quack.decodeVectorInto`.
-/

/-! ### Stores and values -/

/-- What the accessors of a `duckdb_vector` return: the validity mask if there is
    one, the raw data of a fixed-width vector, the strings of a variable-width one,
    the entries and child size of a list, and the child vectors. -/
structure Vec where
  validity : Option (List UInt8)
  data : List UInt8
  strings : List (List UInt8)
  entries : List (Nat × Nat)
  listSize : Nat
  children : List Vec

/-- The value of one row. -/
inductive Value where
  | null
  | fixed (bytes : List UInt8)
  | text (bytes : List UInt8)
  | struct (members : List Value)
  | list (items : List Value)
  | array (items : List Value)

namespace Quack

/-- `ducknng_quack_vector_row_is_valid`: one bit a row, least significant first. -/
def vectorRowIsValid (validity : Option (List UInt8)) (row : Nat) : Bool :=
  match validity with
  | none => true
  | some mask => ((mask.getD (row / 8) 0).toNat >>> (row % 8)) % 2 == 1

/-- The rows of an output vector: `NULL` where the source row is invalid. -/
def maskRows (validity : Option (List UInt8)) (offset count : Nat) (value : Nat → Value) :
    List Value :=
  (List.range count).map fun row =>
    if vectorRowIsValid validity (offset + row) then value row else .null

/-- Bytes `width` apart, as the elements of a fixed-width array. -/
def slot (data : List UInt8) (width row : Nat) : List UInt8 := (data.drop (row * width)).take width

/-! ### Encoding -/

/-- The message of every depth check on vectors. -/
def vectorNestingMessage : String := "ducknng: quack vector nesting exceeds supported depth"

/-- `ducknng_quack_encode_validity_blob`. -/
def encodeValidityBlob (validity : List UInt8) (rows : Nat) : QuackWrite :=
  let validityLen := Qk.validityBytes rows
  if validityLen = sizeMax then failWrite "ducknng: quack validity mask length overflows"
  else writeBlob (validity.take validityLen)

/-- The validity prologue of `ducknng_quack_encode_vector`. -/
def encodeValidity (validity : Option (List UInt8)) (rows : Nat) : QuackWrite := do
  writeFieldId 100
  writeByte (if validity.isSome then 1 else 0)
  writeWhen validity.isSome do
    writeFieldId 101
    encodeValidityBlob (validity.getD []) rows

/-- One entry of a list vector, `0, 0` for an invalid row. -/
def encodeListEntry (vec : Vec) (row : Nat) : QuackWrite := do
  let entry := if vectorRowIsValid vec.validity row then vec.entries.getD row (0, 0) else (0, 0)
  writeFieldId 100
  writeUleb128 entry.1
  writeFieldId 101
  writeUleb128 entry.2
  writeFieldEnd

/-- The fixed-width branch of `ducknng_quack_encode_vector`. -/
def encodeFixedData (vec : Vec) (node : TypeNode) (rows : Nat) : QuackWrite :=
  if typeFixedWidth node = 0 then
    failWrite "ducknng: unsupported column type for ducknng_quack_batch encoding"
  else
    match sizeMul (typeFixedWidth node) rows with
    | none => failWrite "ducknng: fixed-size quack vector payload overflows supported size"
    | some dataLen => do
      writeFieldId 102
      writeBlob (vec.data.take dataLen)
      writeFieldEnd

/-- The child of an array vector, given its encoder. -/
def encodeArrayChild (encodeChild : Nat → QuackWrite) (rows size : Nat) : QuackWrite :=
  match u64Mul rows size with
  | none => failWrite "ducknng: quack array row count overflows supported size"
  | some childRows => encodeChild childRows

/-- `ducknng_quack_encode_vector`. -/
def encodeVector : Nat → Vec → TypeNode → Nat → QuackWrite
  | 0, _, _, _ => failWrite vectorNestingMessage
  | left + 1, vec, node, rows => do
    encodeValidity vec.validity rows
    if typeIsVarlen node then do
      writeFieldId 102
      writeUleb128 rows
      emitEach (fun row => writeBlob
        (if vectorRowIsValid vec.validity row then vec.strings.getD row [] else []))
        (List.range rows)
      writeFieldEnd
    else if node.logicalTypeId = logicalStruct ∨ node.logicalTypeId = logicalUnion then do
      writeFieldId 103
      writeUleb128 node.children.length
      emitEach (fun child => encodeVector left child.2 child.1 rows)
        (node.children.zip vec.children)
      writeFieldEnd
    else if node.logicalTypeId = logicalList ∨ node.logicalTypeId = logicalMap then
      match node.children, vec.children with
      | [childNode], [child] => do
        writeFieldId 104
        writeUleb128 vec.listSize
        writeFieldId 105
        writeUleb128 rows
        emitEach (encodeListEntry vec) (List.range rows)
        writeFieldId 106
        encodeVector left child childNode vec.listSize
        writeFieldEnd
      | _, _ => failWrite "ducknng: quack list/map vector has no child type"
    else if node.logicalTypeId = logicalArray then
      match node.children, vec.children with
      | [childNode], [child] => do
        writeFieldId 103
        writeUleb128 node.arraySize
        writeFieldId 104
        encodeArrayChild (encodeVector left child childNode) rows node.arraySize
        writeFieldEnd
      | _, _ => failWrite "ducknng: quack array vector has no child type"
    else encodeFixedData vec node rows

/-! ### Pieces shared by the two readers -/

/-- The optional field 90 of a vector; flat is the default. -/
def readVectorTypeField (fieldId : Nat) : QuackRead Nat :=
  if fieldId = 90 then do
    let _ ← readU16le
    readUleb128
  else pure 0

/-- `ducknng_quack_read_vector_type`. -/
def readVectorType : QuackRead Nat := do
  let fieldId ← peekU16le
  let vectorType ← readVectorTypeField fieldId
  if vectorType > 4 then fail "ducknng: invalid quack vector type"
  else pure vectorType

/-- `ducknng_quack_read_flat_vector_prologue`. -/
def readFlatVectorPrologue : QuackRead (Option (List UInt8)) := do
  readExpectField 100
  let hasValidity ← readBoolean "ducknng: quack validity presence flag is not boolean"
  if hasValidity then do
    readExpectField 101
    let blob ← readBlobView
    pure (some blob)
  else pure none

variable (rows : Nat)

/-- The prologue together with the check of the mask's size. -/
def readFlatValidity : QuackRead (Option (List UInt8)) := do
  let validity ← readFlatVectorPrologue
  if validity.any (fun mask => mask.length ≠ Qk.validityBytes rows) then
    fail "ducknng: invalid quack validity mask size"
  else pure validity

/-- The row of the dictionary that a selection picks for `row`; a `sel_t` is four
    bytes. -/
def selectionAt (selection : List UInt8) (row : Nat) : Nat := leVal (slot selection 4 row)

/-- `ducknng_quack_read_dictionary_header`. -/
def readDictionaryHeader : QuackRead (List UInt8 × Nat) := do
  readExpectField 91
  let selection ← readBlobView
  readExpectField 92
  let dictionaryCount ← readUleb128
  match sizeMul 4 rows with
  | none => fail "ducknng: quack dictionary selection size overflows supported size"
  | some expectedLen =>
    if selection.length ≠ expectedLen then
      fail "ducknng: invalid quack dictionary selection payload"
    else if rows > 0 ∧ dictionaryCount = 0 then
      fail "ducknng: non-empty quack dictionary has no values"
    else if dictionaryCount > rows then
      fail "ducknng: quack dictionary count exceeds its selected row count"
    else if (List.range rows).any (fun row => selectionAt selection row ≥ dictionaryCount) then
      fail "ducknng: quack dictionary selection index is out of range"
    else pure (selection, dictionaryCount)

/-- The two fields of a sequence vector. -/
def readSequence : QuackRead (Int × Int) := do
  readExpectField 91
  let start ← readSleb128
  readExpectField 92
  let increment ← readSleb128
  pure (start, increment)

/-- The items of a variable-width vector. -/
def readVarlenItems : QuackRead (List (List UInt8)) := do
  readExpectField 102
  let nItems ← readUleb128
  if nItems ≠ rows then fail "ducknng: invalid variable-width quack vector payload"
  else repeatRead readBlobView rows

/-- The child count of a structure vector. -/
def readStructCount (node : TypeNode) : QuackRead Unit := do
  readExpectField 103
  let nchild ← readUleb128
  if nchild ≠ node.children.length ∨ node.children.isEmpty then
    fail "ducknng: quack struct vector child count mismatch"
  else pure ()

/-- The child size of a list vector. -/
def readListHeader : QuackRead Nat := do
  readExpectField 104
  let childSize ← readUleb128
  readExpectField 105
  let nEntries ← readUleb128
  if nEntries ≠ rows then fail "ducknng: quack list vector entry count mismatch"
  else pure childSize

/-- One list entry, which must lie inside the child vector. -/
def readListEntry (childSize : Nat) : QuackRead (Nat × Nat) := do
  readExpectField 100
  let off ← readUleb128
  readExpectField 101
  let len ← readUleb128
  readExpectField fieldEnd
  if off > childSize ∨ len > childSize - off then
    fail "ducknng: quack list entry exceeds child vector size"
  else pure (off, len)

/-- The data of a fixed-width vector. -/
def readFixedData (node : TypeNode) (rows : Nat) : QuackRead (List UInt8) := do
  readExpectField 102
  let blob ← readBlobView
  if typeFixedWidth node = 0 ∨ sizeMul (typeFixedWidth node) rows ≠ some blob.length then
    fail "ducknng: invalid fixed-size quack vector payload"
  else pure blob

/-- `ducknng_quack_idx_mul` of a row count and an array size. -/
def arrayRows (rows size : Nat) : QuackRead Nat :=
  match u64Mul rows size with
  | none => fail "ducknng: quack array row count overflows supported size"
  | some childRows => pure childRows

/-! ### Skipping

The branches of `ducknng_quack_skip_vector_node`, given the reader that skips a
child vector. -/

variable (skipChild : TypeNode → Nat → QuackRead Unit)

/-- The branch for structures and unions. -/
def skipStruct (node : TypeNode) (rows : Nat) :
    QuackRead Unit := do
  readStructCount node
  let _ ← forEach (fun child => skipChild child rows) node.children
  readExpectField fieldEnd

/-- The branch for lists and maps. -/
def skipList (node : TypeNode) (rows : Nat) :
    QuackRead Unit :=
  match node.children with
  | [child] => do
    let childSize ← readListHeader rows
    let _ ← repeatRead (readListEntry childSize) rows
    readExpectField 106
    skipChild child childSize
    readExpectField fieldEnd
  | _ => fail "ducknng: quack list/map vector has no child type"

/-- The branch for arrays. -/
def skipArray (node : TypeNode) (rows : Nat) :
    QuackRead Unit :=
  match node.children with
  | [child] => do
    readExpectField 103
    let asize ← readUleb128
    readExpectField 104
    if asize ≠ node.arraySize then fail "ducknng: quack array vector fixed-size mismatch"
    else do
      let childRows ← arrayRows rows asize
      skipChild child childRows
      readExpectField fieldEnd
  | _ => fail "ducknng: quack array vector has no child type"

/-- The flat vectors. -/
def skipFlat (node : TypeNode) (rows : Nat) :
    QuackRead Unit := do
  let _ ← readFlatValidity rows
  if typeIsVarlen node then do
    let _ ← readVarlenItems rows
    readExpectField fieldEnd
  else if node.logicalTypeId = logicalStruct ∨ node.logicalTypeId = logicalUnion then
    skipStruct skipChild node rows
  else if node.logicalTypeId = logicalList ∨ node.logicalTypeId = logicalMap then
    skipList skipChild node rows
  else if node.logicalTypeId = logicalArray then skipArray skipChild node rows
  else do
    let _ ← readFixedData node rows
    readExpectField fieldEnd

/-- `ducknng_quack_skip_vector_node`. -/
def skipVectorNode : Nat → TypeNode → Nat → QuackRead Unit
  | 0, _, _ => fail vectorNestingMessage
  | left + 1, node, rows => nested do
    let vectorType ← readVectorType
    if vectorType = 1 then fail "ducknng: FSST quack vectors are unsupported"
    else if vectorType = 2 then skipVectorNode left node 1
    else if vectorType = 3 then do
      let header ← readDictionaryHeader rows
      skipVectorNode left node header.2
    else if vectorType = 4 then
      if !typeIsSequenceInteger node then
        fail "ducknng: sequence quack vector requires an integer logical type"
      else do
        let _ ← readSequence
        readExpectField fieldEnd
    else skipFlat (skipVectorNode left) node rows

/-! ### Decoding -/

/-- The message of the materialisation budget. -/
def budgetMessage : String :=
  "ducknng: quack materialized value count exceeds supported limit"

/-- `ducknng_quack_check_materialized_values`. -/
def checkMaterializedValues (count : Nat) (commit : Bool) : QuackRead Unit :=
  .atom (fun r => .charge r.spent count commit) fun r =>
    if r.spent > maxMaterializedValues ∨ count > maxMaterializedValues - r.spent then
      .error (some budgetMessage)
    else .ok ((), if commit then { r with spent := r.spent + count } else r)

/-- A check goes through when its values fit, and only a commitment changes the reader. -/
theorem checkMaterializedValues_eq_ok {count : Nat} {commit : Bool} {c c' : Cursor} {u : Unit} :
    checkMaterializedValues count commit c = .ok (u, c') ↔
      c.spent + count ≤ maxMaterializedValues ∧
        c' = c.charged (c.spent + if commit then count else 0) := by
  show (if _ then _ else _) = _ ↔ _
  split
  · next hover => exact ⟨fun h => (by cases h), fun h => by omega⟩
  · next hfits =>
    cases commit <;> exact ⟨fun h => (by cases h; exact ⟨by omega, rfl⟩), fun h => by rw [h.2]; rfl⟩

/-- The check of a list's child size, and `duckdb_list_vector_reserve` behind it. -/
def reserveListChild (childSize : Nat) : QuackRead Unit := do
  checkMaterializedValues childSize false
  reserve childSize childSize

/-- The check of a compressed vector's source, and `duckdb_create_vector` behind it, which is
    asked for one row when there are none. -/
def createSource (childType : Except Err LogicalType) (sourceCount : Nat) : QuackRead Unit := do
  checkMaterializedValues sourceCount false
  match childType with
  | .error e => throw e
  | .ok _ => reserve sourceCount (if sourceCount = 0 then 1 else sourceCount)

theorem reserveListChild_eq_ok {childSize : Nat} {c c' : Cursor} {u : Unit} :
    reserveListChild childSize c = .ok (u, c') ↔
      c.spent + childSize ≤ maxMaterializedValues ∧ c' = c := by
  unfold reserveListChild
  rw [Step.bind_eq_ok]
  constructor
  · rintro ⟨_, _, hcheck, h⟩
    obtain ⟨hfits, rfl⟩ := checkMaterializedValues_eq_ok.1 hcheck
    cases h
    exact ⟨hfits, rfl⟩
  · rintro ⟨hfits, rfl⟩
    exact ⟨(), c', checkMaterializedValues_eq_ok.2 ⟨hfits, rfl⟩, rfl⟩

/-- A source that is created leaves the reader as it is. -/
theorem createSource_ok {childType : Except Err LogicalType} {sourceCount : Nat} {c c' : Cursor}
    {u : Unit} (h : createSource childType sourceCount c = .ok (u, c')) : c' = c := by
  obtain ⟨_, _, hcheck, h⟩ := Step.bind_eq_ok.1 h
  obtain ⟨_, rfl⟩ := checkMaterializedValues_eq_ok.1 hcheck
  cases childType with
  | error e => cases h
  | ok type =>
    cases h
    rfl

/-- The message of the range check on a sequence. -/
def sequenceRangeMessage : String :=
  "ducknng: quack sequence value is out of range for its logical type"

/-- The smallest and largest value of an integer type, by its wire identifier. -/
def sequenceRange : Nat → Option (Int × Int)
  | 11 => some (-2 ^ 7, 2 ^ 7 - 1)
  | 12 => some (-2 ^ 15, 2 ^ 15 - 1)
  | 13 => some (-2 ^ 31, 2 ^ 31 - 1)
  | 14 => some (-2 ^ 63, 2 ^ 63 - 1)
  | 28 => some (0, 2 ^ 8 - 1)
  | 29 => some (0, 2 ^ 16 - 1)
  | 30 => some (0, 2 ^ 32 - 1)
  | 31 => some (0, 2 ^ 63 - 1)
  | _ => none

/-- The element of a sequence at a row: the sum wraps around in 64 bits. -/
def sequenceValue (start increment : Int) (row : Nat) : Int :=
  (start + increment * row).bmod (2 ^ 64)

/-- `ducknng_quack_decode_sequence`. -/
def decodeSequence (node : TypeNode) (start increment : Int) (offset outCount : Nat) :
    QuackRead (List Value) :=
  if !typeIsSequenceInteger node then
    fail "ducknng: sequence quack vector requires an integer logical type"
  else
    match sequenceRange node.logicalTypeId with
    | none => throw none
    | some (low, high) =>
      let values := (List.range outCount).map fun row =>
        sequenceValue start increment (offset + row)
      if values.any (fun v => v < low ∨ high < v) then fail sequenceRangeMessage
      else
        let width := typeFixedWidth node
        pure (values.map fun v => .fixed (leBytes width (v % 2 ^ (8 * width)).toNat))

/-- `ducknng_quack_decode_compressed_copy`, given the decoder of the source vector
    and the DuckDB type it is created with. -/
def decodeCompressedCopy (decodeSource : QuackRead (List Value))
    (childType : Except Err LogicalType) (sourceCount : Nat) (selection : Option (List UInt8))
    (offset outCount : Nat) : QuackRead (List Value) := do
  createSource childType sourceCount
  let source ← decodeSource
  let picks := (List.range outCount).map fun row =>
    match selection with
    | some selection => selectionAt selection (offset + row)
    | none => 0
  if picks.any (fun pick => pick ≥ sourceCount) then
    fail "ducknng: quack materialization selection is out of range"
  else
    -- `duckdb_vector_copy_sel`.
    pure (picks.map fun pick => source.getD pick .null)

/-- The range checks before a fixed-width slice is copied. -/
def checkFixedSlice (width dataLen offset outCount : Nat) : QuackRead Unit :=
  if outCount > 0 then
    match sizeMul width offset, sizeMul width outCount with
    | some copyOffset, some copyLen =>
      if copyOffset > dataLen ∨ copyLen > dataLen - copyOffset then
        fail "ducknng: invalid fixed-size quack vector slice"
      else pure ()
    | _, _ => fail "ducknng: invalid fixed-size quack vector slice"
  else pure ()

section
variable (decodeChild : TypeNode → Nat → Nat → Nat → QuackRead (List Value))
variable (node : TypeNode) (validity : Option (List UInt8)) (srcRows offset outCount : Nat)

/-! The flat branches of `ducknng_quack_decode_vector_into`, given the decoder of a
child vector and the validity mask. -/

/-- The variable-width branch. -/
def decodeVarlen : QuackRead (List Value) := do
  let items ← readVarlenItems srcRows
  readExpectField fieldEnd
  pure (maskRows validity offset outCount fun row => .text (items.getD (offset + row) []))

/-- The branch for structures and unions. -/
def decodeStruct : QuackRead (List Value) := do
  readStructCount node
  let columns ← forEach (fun child => decodeChild child srcRows offset outCount) node.children
  readExpectField fieldEnd
  pure (maskRows validity offset outCount fun row =>
    .struct (columns.map fun column => column.getD row .null))

/-- The branch for lists and maps. -/
def decodeList : QuackRead (List Value) :=
  match node.children with
  | [child] => do
    let childSize ← readListHeader srcRows
    reserveListChild childSize
    let entries ← repeatRead (readListEntry childSize) srcRows
    readExpectField 106
    let items ← decodeChild child childSize 0 childSize
    readExpectField fieldEnd
    pure (maskRows validity offset outCount fun row =>
      let entry := entries.getD (offset + row) (0, 0)
      .list ((items.drop entry.1).take entry.2))
  | _ => fail "ducknng: quack list/map vector has no child type"

/-- The branch for arrays. The child is not shifted by `offset`: a nested vector is
    never sliced. -/
def decodeArray : QuackRead (List Value) :=
  match node.children with
  | [child] => do
    readExpectField 103
    let asize ← readUleb128
    if asize ≠ node.arraySize then fail "ducknng: quack array vector fixed-size mismatch"
    else do
      readExpectField 104
      let childRows ← arrayRows srcRows asize
      let items ← decodeChild child childRows 0 childRows
      readExpectField fieldEnd
      pure (maskRows validity offset outCount fun row =>
        .array ((items.drop (row * asize)).take asize))
  | _ => fail "ducknng: quack array vector has no child type"

/-- The fixed-width branch. -/
def decodeFixed : QuackRead (List Value) := do
  let data ← readFixedData node srcRows
  checkFixedSlice (typeFixedWidth node) data.length offset outCount
  readExpectField fieldEnd
  pure (maskRows validity offset outCount fun row =>
    .fixed (slot data (typeFixedWidth node) (offset + row)))

/-- The flat vectors. -/
def decodeFlat : QuackRead (List Value) := do
  let validity ← readFlatValidity srcRows
  if typeIsVarlen node then decodeVarlen validity srcRows offset outCount
  else if node.logicalTypeId = logicalStruct ∨ node.logicalTypeId = logicalUnion then
    decodeStruct decodeChild node validity srcRows offset outCount
  else if node.logicalTypeId = logicalList ∨ node.logicalTypeId = logicalMap then
    decodeList decodeChild node validity srcRows offset outCount
  else if node.logicalTypeId = logicalArray then
    decodeArray decodeChild node validity srcRows offset outCount
  else decodeFixed node validity srcRows offset outCount

end

/-- `ducknng_quack_decode_vector_into`: the values of output rows `0 … outCount - 1`,
    which are the source rows from `offset` on. -/
def decodeVectorInto : Nat → TypeNode → Nat → Nat → Nat → QuackRead (List Value)
  | 0, _, _, _, _ => fail vectorNestingMessage
  | left + 1, node, srcRows, offset, outCount => nested <|
    if offset > srcRows ∨ outCount > srcRows - offset then
      fail "ducknng: quack vector slice is out of range"
    else do
      checkMaterializedValues srcRows true
      let vectorType ← readVectorType
      if vectorType = 1 then fail "ducknng: FSST quack vectors are unsupported"
      else if vectorType = 2 then
        decodeCompressedCopy (decodeVectorInto left node 1 0 1) (nodeToDuckdb (left + 1) node)
          1 none offset outCount
      else if vectorType = 3 then do
        let header ← readDictionaryHeader srcRows
        decodeCompressedCopy (decodeVectorInto left node header.2 0 header.2)
          (nodeToDuckdb (left + 1) node) header.2 (some header.1) offset outCount
      else if vectorType = 4 then do
        let fields ← readSequence
        readExpectField fieldEnd
        decodeSequence node fields.1 fields.2 offset outCount
      else decodeFlat (decodeVectorInto left) node srcRows offset outCount

end Quack

end Ducknng
