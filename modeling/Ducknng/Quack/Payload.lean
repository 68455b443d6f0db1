import Ducknng.Quack.Vector

namespace Ducknng

open ByteCodec

/-!
# Quack batches

A batch is a schema — the types and names of the columns — followed by data
chunks. This module has the encoder of a result, the schema parser, the
structural validation that skips every chunk, and the scan that decodes one chunk at
a time.

* `DataChunk` — a chunk to encode; `OutputChunk` — a chunk that was decoded.
* `Quack.encodeResultPayload` — measure, then write.
* `Quack.payloadParseSchema`, `Quack.payloadBindColumns`,
  `Quack.readerValidateResults` — what a receiver checks first.
* `Quack.payloadScanBegin`, `Quack.payloadScanNext` — the scan.
* `Quack.payloadScan`, `Quack.payloadReadRowCount` — the scan that starts over at every
  call, and the row count of a payload.
-/

/-- A column of a result: its name and type. -/
structure ResultColumn where
  name : CStr
  type : LogicalType

/-- A vector together with its column type. -/
structure ColumnVector where
  type : LogicalType
  vec : Vec

/-- A `duckdb_data_chunk` that is read. -/
structure DataChunk where
  rows : Nat
  columns : List ColumnVector

/-- A `duckdb_data_chunk` that is written: its size and the values of its columns. -/
structure OutputChunk where
  size : Nat
  columns : List (List Value)

/-- A chunk after `duckdb_data_chunk_reset`. -/
def OutputChunk.reset : OutputChunk := ⟨0, []⟩

/-- The rows of a chunk, up to its size. -/
def OutputChunk.rows (chunk : OutputChunk) : List (List Value) :=
  (List.range chunk.size).map fun row => chunk.columns.map fun column => column.getD row .null

/-- One column of `ducknng_quack_schema`. -/
structure Column where
  name : CStr
  type : TypeNode

/-- `ducknng_quack_schema`. -/
abbrev Schema := List Column

namespace Quack

/-! ### Encoding a result -/

/-- `ducknng_quack_encode_one_chunk`. -/
def encodeOneChunk (ncols : Nat) (chunk : DataChunk) : QuackWrite :=
  let columns := chunk.columns.take ncols
  match columns.mapM fun column => nodeFromDuckdb maxLevels column.type with
  | .error e => throw e
  | .ok nodes => do
    writeByte 1
    writeFieldId 300
    writeFieldId 100
    writeUleb128 chunk.rows
    writeFieldId 101
    writeUleb128 ncols
    emitEach (writeTypeNode maxLevels) nodes
    writeFieldId 102
    writeUleb128 ncols
    emitEach (fun column : ColumnVector × TypeNode =>
      encodeVector maxLevels column.1.vec column.2 chunk.rows) (columns.zip nodes)
    -- The end of the chunk, then of its wrapper.
    writeFieldEnd
    writeFieldEnd

/-- One type of the schema section. -/
def encodeResultType (column : ResultColumn) : QuackWrite :=
  match nodeFromDuckdb maxLevels column.type with
  | .error e => throw e
  | .ok node => writeTypeNode maxLevels node

/-- The schema section: the types, then the names. -/
def encodeSchema (columns : List ResultColumn) : QuackWrite := do
  writeFieldId 1
  writeUleb128 columns.length
  emitEach encodeResultType columns
  writeFieldId 2
  writeUleb128 columns.length
  emitEach (fun column : ResultColumn => writeString column.name) columns

/-- The results section, absent without chunks. -/
def encodeResults (ncols : Nat) (chunks : List DataChunk) : QuackWrite :=
  writeWhen (chunks.length > 0) do
    writeFieldId 4
    writeUleb128 chunks.length
    emitEach (encodeOneChunk ncols) chunks

/-- `ducknng_quack_encode_result_payload_pass`. -/
def encodeResultPayloadPass (columns : List ResultColumn) (chunks : List DataChunk)
    (includeSchema : Bool) : QuackWrite :=
  if columns.length > maxStructMembers then
    failWrite "ducknng: quack column count exceeds supported limit"
  else do
    writeWhen includeSchema (encodeSchema columns)
    encodeResults columns.length chunks
    writeFieldEnd

/-- `ducknng_quack_encode_result_payload`: one pass to measure, one to write. -/
def encodeResultPayload (columns : List ResultColumn) (chunks : List DataChunk)
    (includeSchema : Bool) : Except Err (List UInt8) :=
  match encodeResultPayloadPass columns chunks includeSchema Qk.writerInitMeasure with
  | .error e => .error e
  | .ok (_, measured) =>
    let required := measured.position
    match encodeResultPayloadPass columns chunks includeSchema (Qk.writerInitFixed required) with
    | .error e => .error e
    | .ok (_, writer) =>
      if writer.position ≠ required then .error none else .ok writer.data

/-! ### Parsing the schema -/

/-- A reader at the start of a payload. -/
def readerAt (payload : List UInt8) (off : Nat) : Cursor := ⟨payload, off, 0⟩

/-- `ducknng_quack_reader_parse_schema`. -/
def readerParseSchema : QuackRead Schema := do
  readExpectField 1
  let ncols ← readUleb128
  if ncols > maxStructMembers then fail "ducknng: quack column count exceeds supported limit"
  else do
    let types ← repeatRead (readTypeNode maxLevels) ncols
    readExpectField 2
    let nnames ← readUleb128
    if nnames ≠ ncols then fail "ducknng: quack payload name/type count mismatch"
    else do
      let names ← repeatRead readStringDup nnames
      pure (names.zipWith Column.mk types)

/-- `ducknng_quack_payload_parse_schema`. -/
def payloadParseSchema (payload : List UInt8) : Except Err Schema :=
  if payload.length = 0 then .error (some "ducknng: missing quack payload for schema parse")
  else (readerParseSchema (readerAt payload 0)).map Prod.fst

/-! ### Validating the results -/

/-- One type that a chunk repeats. -/
def checkChunkType (type : TypeNode) : QuackRead Unit := do
  let chunkType ← readTypeNode maxLevels
  if typeEqual type chunkType then pure ()
  else fail "ducknng: quack chunk type does not match the result schema"

variable (schema : Schema)

/-- `ducknng_quack_validate_optional_chunk_types`: a chunk may repeat the schema. -/
def validateOptionalChunkTypes : QuackRead Unit := do
  let fieldId ← peekU16le
  if fieldId ≠ 101 then pure ()
  else do
    readExpectField 101
    let count ← readUleb128
    if count ≠ schema.length then
      fail "ducknng: quack chunk type count does not match the result schema"
    else do
      let _ ← forEach (fun column : Column => checkChunkType column.type) schema
      pure ()

/-- `ducknng_quack_consume_chunk_wrapper_end`; only the last wrapper must be closed. -/
def consumeChunkWrapperEnd (allowLegacyOmission : Bool) : QuackRead Unit := do
  let fieldId ← peekU16le
  if fieldId = fieldEnd then do
    let _ ← readU16le
    pure ()
  else if allowLegacyOmission then pure ()
  else fail "ducknng: missing quack data chunk wrapper terminator"

/-- The types and the column count of a chunk, after its row count. -/
def readChunkColumns : QuackRead Unit := do
  validateOptionalChunkTypes schema
  readExpectField 102
  let ncols ← readUleb128
  if ncols ≠ schema.length then fail "ducknng: quack data chunk column count mismatch"
  else pure ()

/-- Skipping the columns of a chunk and its end. -/
def skipColumns (rows : Nat) : QuackRead Unit := do
  readChunkColumns schema
  let _ ← forEach (fun column : Column => skipVectorNode maxLevels column.type rows) schema
  readExpectField fieldEnd

/-- `ducknng_quack_skip_data_chunk`. -/
def skipDataChunk : QuackRead Nat := do
  readExpectField 100
  let rows ← readUleb128
  skipColumns schema rows
  pure rows

/-- The message of the row-count overflow check. -/
def rowCountMessage : String := "ducknng: quack row count overflows supported size"

/-- `ducknng_quack_idx_add` of two row counts. -/
def addRows (a b : Nat) : QuackRead Nat :=
  match u64Add a b with
  | none => fail rowCountMessage
  | some sum => pure sum

/-- The presence flag and wrapper field before a chunk. -/
def readPresence : QuackRead Bool := readBoolean "ducknng: quack chunk presence flag is not boolean"

/-- The loop of `ducknng_quack_reader_validate_results` over the remaining chunks. -/
def validateChunks (schema : Schema) (maxChunkRows : Nat) : Nat → Nat → QuackRead Nat
  | 0, rowCount => pure rowCount
  | remaining + 1, rowCount => do
    let present ← readPresence
    if !present then fail "ducknng: quack payload contained a NULL chunk pointer"
    else do
      readExpectField 300
      let chunkRows ← skipDataChunk schema
      consumeChunkWrapperEnd (remaining > 0)
      if maxChunkRows > 0 ∧ chunkRows > maxChunkRows then
        fail "ducknng: quack chunk exceeds the supported vector size"
      else do
        let rowCount ← addRows rowCount chunkRows
        tick
        validateChunks schema maxChunkRows remaining rowCount

/-- The end of a payload: the terminator and nothing after it. -/
def readPayloadEnd : QuackRead Unit := do
  readExpectField fieldEnd
  let r ← look
  if r.off ≠ r.data.length then fail "ducknng: trailing bytes in quack payload"
  else pure ()

/-- The results section, if the next field announces one: the total row count. -/
def validateResultsSection (maxChunkRows fieldId : Nat) : QuackRead Nat :=
  if fieldId = 4 then do
    let _ ← readU16le
    let nResults ← readUleb128
    validateChunks schema maxChunkRows nResults 0
  else pure 0

/-- `ducknng_quack_reader_validate_results`; `maxChunkRows = 0` for no cap. -/
def readerValidateResults (maxChunkRows : Nat) : QuackRead Nat := do
  let fieldId ← peekU16le
  let rowCount ← validateResultsSection schema maxChunkRows fieldId
  readPayloadEnd
  pure rowCount

/-- `ducknng_quack_payload_bind_columns`: the bound columns, the schema and the
    total row count. -/
def payloadBindColumns (payload : List UInt8) :
    Except Err (List (CStr × LogicalType) × Schema × Nat) := do
  if payload.length = 0 then throw (some "ducknng: missing quack payload for bind")
  let (schema, r) ← readerParseSchema (readerAt payload 0)
  let types ← schema.mapM fun column => nodeToDuckdb maxLevels column.type
  let (rowCount, _) ← readerValidateResults schema 0 r
  pure ((schema.map Column.name).zip types, schema, rowCount)

/-! ### Scanning -/

/-- The optional schema section in front of the results of a later batch. -/
def skipSchema (ncols : Nat) : QuackRead Unit := do
  let fieldId ← peekU16le
  if fieldId = 1 then do
    readExpectField 1
    let ntypes ← readUleb128
    if ntypes ≠ ncols then fail "ducknng: quack logical type list length mismatch"
    else do
      let _ ← repeatRead (readTypeNode maxLevels) ntypes
      readExpectField 2
      let nnames ← readUleb128
      if nnames ≠ ncols then fail "ducknng: quack string list length mismatch"
      else do
        let _ ← repeatRead skipString nnames
        pure ()
  else pure ()

/-- The number of chunks announced by the results section. -/
def readResultsHeader : QuackRead Nat := do
  let fieldId ← peekU16le
  if fieldId ≠ 4 then pure 0
  else do
    let _ ← readU16le
    readUleb128

/-- `ducknng_quack_payload_scan_begin`: the offset of the first chunk and the number
    of chunks. -/
def payloadScanBegin (payload : List UInt8) (schema : Schema) : Except Err (Nat × Nat) :=
  if payload.length = 0 then .error (some "ducknng: missing quack payload scan state")
  else
    match (do skipSchema schema.length; readResultsHeader : QuackRead Nat) (readerAt payload 0) with
    | .error e => .error e
    | .ok (nResults, r) => .ok (r.off, nResults)

/-- `ducknng_quack_schema_has_nested`. -/
def schemaHasNested : Bool := schema.any fun column => typeIsNested column.type

/-- Decoding the columns of a chunk and its end. -/
def decodeColumns (rows offset copyCount : Nat) : QuackRead OutputChunk := do
  readChunkColumns schema
  let columns ← forEach
    (fun column : Column => decodeVectorInto maxLevels column.type rows offset copyCount) schema
  readExpectField fieldEnd
  pure ⟨copyCount, columns⟩

/-- `ducknng_quack_decode_data_chunk_slice`. A chunk with no row left is skipped and
    leaves the output as it was. -/
def decodeDataChunkSlice (vectorSize : Nat) (output : OutputChunk) (schema : Schema)
    (offset : Nat) : QuackRead (Nat × OutputChunk) := do
  readExpectField 100
  let rows ← readUleb128
  if rows > vectorSize then fail "ducknng: quack chunk exceeds output vector capacity"
  else if offset ≥ rows then do
    skipColumns schema rows
    pure (rows, output)
  else
    let copyCount := min (rows - offset) vectorSize
    if schemaHasNested schema then
      if offset ≠ 0 then fail "ducknng: nested quack chunk cannot resume mid-chunk"
      else do
        let chunk ← decodeColumns schema rows offset rows
        pure (rows, chunk)
    else do
      let chunk ← decodeColumns schema rows offset copyCount
      pure (rows, chunk)

/-- The part of `ducknng_quack_payload_scan_next` that reads: one chunk with its
    wrapper, and the end of the payload after the last one. -/
def scanChunk (vectorSize : Nat) (output : OutputChunk) (schema : Schema) (remaining : Nat) :
    QuackRead OutputChunk := do
  let present ← readPresence
  -- A missing chunk is refused without a message.
  if !present then throw none
  else do
    readExpectField 300
    let (_, chunk) ← decodeDataChunkSlice vectorSize output schema 0
    consumeChunkWrapperEnd (remaining > 1)
    if remaining = 1 then do
      readExpectField fieldEnd
      pure chunk
    else pure chunk

/-- `ducknng_quack_payload_scan_next`: the decoded chunk, the next offset and the
    chunks that remain. -/
def payloadScanNext (vectorSize : Nat) (output : OutputChunk) (payload : List UInt8)
    (schema : Schema) (offset remaining : Nat) : Except Err (OutputChunk × Nat × Nat) :=
  if payload.length = 0 then .error (some "ducknng: missing quack payload scan inputs")
  else if remaining = 0 then .ok ({ output with size := 0 }, offset, remaining)
  else if offset > payload.length then
    .error (some "ducknng: quack payload scan offset is out of range")
  else
    match scanChunk vectorSize output schema remaining (readerAt payload offset) with
    | .error e => .error e
    | .ok (chunk, r) => .ok (chunk, r.off, remaining - 1)

/-! ### Scanning from the start -/

/-- The loop of `ducknng_quack_payload_scan` over the remaining chunks, `seenRows` rows
    into the payload: the output and the next offset. A chunk before the global offset is
    skipped and leaves the output as it was. -/
def rescanChunks (vectorSize : Nat) (schema : Schema) (globalOffset : Nat) :
    Nat → Nat → OutputChunk → QuackRead (OutputChunk × Nat)
  | 0, _, output => do
    readExpectField fieldEnd
    pure ({ output with size := 0 }, globalOffset)
  | remaining + 1, seenRows, output => do
    let present ← readPresence
    if !present then throw none
    else do
      readExpectField 300
      let localOffset := if globalOffset ≥ seenRows then globalOffset - seenRows else 0
      let (chunkRows, chunk) ← decodeDataChunkSlice vectorSize output schema localOffset
      consumeChunkWrapperEnd (remaining > 0)
      let nextSeen ← addRows seenRows chunkRows
      if globalOffset < nextSeen then
        match u64Add globalOffset chunk.size with
        | none => fail "ducknng: quack scan offset overflows supported size"
        | some nextOffset => pure (chunk, nextOffset)
      else do
        tick
        rescanChunks vectorSize schema globalOffset remaining nextSeen chunk

/-- The part of `ducknng_quack_payload_scan` that reads. -/
def rescan (vectorSize : Nat) (schema : Schema) (globalOffset : Nat) (output : OutputChunk) :
    QuackRead (OutputChunk × Nat) := do
  skipSchema schema.length
  let fieldId ← peekU16le
  if fieldId ≠ 4 then pure ({ output with size := 0 }, globalOffset)
  else do
    let _ ← readU16le
    let nResults ← readUleb128
    rescanChunks vectorSize schema globalOffset nResults 0 output

/-- `ducknng_quack_payload_scan`: the output and the next global row offset. -/
def payloadScan (vectorSize : Nat) (output : OutputChunk) (payload : List UInt8) (schema : Schema)
    (offset : Nat) : Except Err (OutputChunk × Nat) :=
  if payload.length = 0 then .error (some "ducknng: missing quack payload scan inputs")
  else (rescan vectorSize schema offset output (readerAt payload 0)).map Prod.fst

/-! ### Counting rows -/

/-- The loop of `ducknng_quack_payload_read_row_count` over the remaining chunks. -/
def countChunks (schema : Schema) : Nat → Nat → QuackRead Nat
  | 0, rowCount => pure rowCount
  | remaining + 1, rowCount => do
    let present ← readPresence
    if !present then throw none
    else do
      readExpectField 300
      let chunkRows ← skipDataChunk schema
      consumeChunkWrapperEnd (remaining > 0)
      let rowCount ← addRows rowCount chunkRows
      tick
      countChunks schema remaining rowCount

/-- The part of `ducknng_quack_payload_read_row_count` that reads. -/
def readRowCount : QuackRead Nat := do
  skipSchema schema.length
  let fieldId ← peekU16le
  if fieldId ≠ 4 then pure 0
  else do
    let _ ← readU16le
    let nResults ← readUleb128
    let rowCount ← countChunks schema nResults 0
    readPayloadEnd
    pure rowCount

/-- `ducknng_quack_payload_read_row_count`. -/
def payloadReadRowCount (payload : List UInt8) (schema : Schema) : Except Err Nat :=
  if payload.length = 0 then .error (some "ducknng: missing quack payload row-count inputs")
  else (readRowCount schema (readerAt payload 0)).map Prod.fst

end Quack

end Ducknng
