import Ducknng.Quack.ScanAgreement
import Ducknng.Quack.VectorRoundTrip

namespace Ducknng

open List ByteCodec

/-!
# Batches survive the wire

A result over supported types, encoded with its schema, is accepted by every
receiver: the schema parser returns the columns it started from, the structural
validation counts its rows, and the scan returns the chunks one by one.

* `Quack.batch_round_trip` — the batch comes back as it was sent.
-/

/-! ### Chunks over columns -/

namespace Quack

/-- The tree of a supported type. -/
def columnNode (type : LogicalType) : TypeNode :=
  match nodeFromDuckdb maxLevels type with
  | .ok node => node
  | .error _ => nodeNew 0

theorem columnNode_represents {type : LogicalType} (h : type.withinLimits maxLevels) :
    Represents maxLevels type (columnNode type) := by
  obtain ⟨node, hnode⟩ := type.represents_of_withinLimits h
  have heq : columnNode type = node := by
    unfold columnNode
    rw [hnode.1]
  rw [heq]
  exact hnode

end Quack

/-- The vector holds as many rows of its type. -/
def ColumnVector.conforms (column : ColumnVector) (rows : Nat) : Bool :=
  column.vec.conforms Quack.maxLevels (Quack.columnNode column.type) rows

/-- What decoding the vector costs. -/
def ColumnVector.cost (column : ColumnVector) (rows : Nat) : Nat :=
  Quack.vectorCost Quack.maxLevels column.vec (Quack.columnNode column.type) rows

/-- The values of the rows of the vector. -/
def ColumnVector.values (column : ColumnVector) (rows : Nat) : List Value :=
  Quack.vectorValues Quack.maxLevels column.vec (Quack.columnNode column.type) rows

/-- The rows of a chunk. -/
def DataChunk.rowValues (chunk : DataChunk) : List (List Value) :=
  (range chunk.rows).map fun row =>
    chunk.columns.map fun column => (column.values chunk.rows).getD row .null

/-- A chunk over a list of columns: one vector of the right type for each, no more
    rows than a vector holds, and no more values than a decoder materialises. -/
structure DataChunk.Over (columns : List ResultColumn) (vectorSize : Nat) (chunk : DataChunk) :
    Prop where
  types : chunk.columns.map ColumnVector.type = columns.map ResultColumn.type
  rows_le : chunk.rows ≤ vectorSize
  stored : ∀ column ∈ chunk.columns, column.conforms chunk.rows = true
  budget : (chunk.columns.map fun column => column.cost chunk.rows).sum ≤
    Quack.maxMaterializedValues

/-- Columns that the codec carries, in vectors of a size. -/
structure Carried (columns : List ResultColumn) (vectorSize : Nat) : Prop where
  length_le : columns.length ≤ Quack.maxStructMembers
  types : ∀ column ∈ columns, column.type.withinLimits Quack.maxLevels = true
  vector : vectorSize ≤ u64Max

section
variable {columns : List ResultColumn} {vectorSize : Nat} {chunk : DataChunk}

section
variable (hchunk : chunk.Over columns vectorSize)
include hchunk

/-- The vectors of a chunk over supported columns have supported types. -/
theorem DataChunk.Over.withinLimits
    (hcols : Carried columns vectorSize) {column : ColumnVector} (hmem : column ∈ chunk.columns) :
    column.type.withinLimits Quack.maxLevels = true := by
  have h : column.type ∈ columns.map ResultColumn.type := by
    rw [← hchunk.types]
    exact mem_map_of_mem hmem
  obtain ⟨source, hsource, heq⟩ := mem_map.1 h
  rw [← heq]
  exact hcols.types source hsource

theorem DataChunk.Over.length_eq :
    chunk.columns.length = columns.length := by
  have h := congrArg length hchunk.types
  rwa [length_map, length_map] at h

/-- A vector costs no more than its chunk. -/
theorem DataChunk.Over.cost_le
    {column : ColumnVector} (hmem : column ∈ chunk.columns) :
    column.cost chunk.rows ≤ Quack.maxMaterializedValues := by
  have h := mem_map_of_mem (f := fun column : ColumnVector => column.cost chunk.rows) hmem
  exact Nat.le_trans (le_sum_of_mem h) hchunk.budget

end

end

namespace Quack

/-! ### A batch on the wire -/

/-- The schema section. -/
def schemaBytes (columns : List ResultColumn) : List UInt8 :=
  fieldBytes 1 ++ (ulebBytes 10 columns.length ++
    (columns.flatMap (fun column => typeBytes maxLevels (columnNode column.type)) ++
      (fieldBytes 2 ++ (ulebBytes 10 columns.length ++
        columns.flatMap fun column => countedBytes column.name.bytes))))

/-- The types that a chunk repeats. -/
def chunkTypesBytes (columns : List ColumnVector) : List UInt8 :=
  fieldBytes 101 ++ (ulebBytes 10 columns.length ++
    columns.flatMap fun column => typeBytes maxLevels (columnNode column.type))

/-- The types and the column count of a chunk. -/
def chunkColumnsBytes (columns : List ColumnVector) : List UInt8 :=
  chunkTypesBytes columns ++ (fieldBytes 102 ++ ulebBytes 10 columns.length)

/-- The vectors of a chunk. -/
def chunkVectorsBytes (chunk : DataChunk) : List UInt8 :=
  chunk.columns.flatMap fun column =>
    vectorBytes maxLevels column.vec (columnNode column.type) chunk.rows

/-- A chunk up to its own end. -/
def chunkBodyBytes (chunk : DataChunk) : List UInt8 :=
  fieldBytes 100 ++ (ulebBytes 10 chunk.rows ++ (chunkColumnsBytes chunk.columns ++
    (chunkVectorsBytes chunk ++ fieldBytes fieldEnd)))

/-- A chunk in its wrapper. -/
def chunkBytes (chunk : DataChunk) : List UInt8 :=
  [1] ++ (fieldBytes 300 ++ (chunkBodyBytes chunk ++ fieldBytes fieldEnd))

/-- The results section. -/
def resultsBytes (chunks : List DataChunk) : List UInt8 :=
  if chunks.length > 0 then
    fieldBytes 4 ++ (ulebBytes 10 chunks.length ++ chunks.flatMap chunkBytes)
  else []

/-- A batch with its schema. -/
def resultBytes (columns : List ResultColumn) (chunks : List DataChunk) : List UInt8 :=
  schemaBytes columns ++ (resultsBytes chunks ++ fieldBytes fieldEnd)

/-! ### Encoding -/

/-- Applying a function that succeeds everywhere to a list. -/
theorem mapM_eq_ok {α β : Type} {f : α → Except Err β} {g : α → β} {xs : List α}
    (h : ∀ x ∈ xs, f x = .ok (g x)) : xs.mapM f = .ok (xs.map g) := by
  induction xs with
  | nil => rfl
  | cons x xs ih =>
    rw [mapM_cons, h x mem_cons_self, ih fun y hy => h y (mem_cons_of_mem x hy)]
    rfl

section
variable {columns : List ResultColumn} {vectorSize : Nat}

variable (hcols : Carried columns vectorSize)
include hcols

theorem emits_encodeOneChunk {chunk : DataChunk} (hchunk : chunk.Over columns vectorSize) :
    Emits sizeMax (encodeOneChunk columns.length chunk) (chunkBytes chunk) := by
  have hnode := fun (column : ColumnVector) (hmem : column ∈ chunk.columns) =>
    columnNode_represents (hchunk.withinLimits hcols hmem)
  have hlen := hchunk.length_eq
  have htake : chunk.columns.take columns.length = chunk.columns := by
    rw [← hlen, take_length]
  have hmapM := mapM_eq_ok fun column hmem => (hnode column hmem).1
  have hzip : chunk.columns.zip (chunk.columns.map fun column => columnNode column.type) =
      chunk.columns.map fun column => (column, columnNode column.type) :=
    map_prod_left_eq_zip.symm
  have htypesEmit : Emits sizeMax
      (emitEach (writeTypeNode maxLevels) (chunk.columns.map fun column => columnNode column.type))
      (chunk.columns.flatMap fun column => typeBytes maxLevels (columnNode column.type)) := by
    rw [emitEach_map]
    exact Emits.emitEach fun column hmem => emits_writeTypeNode (hnode column hmem).2.1.wellFormed
  have hvecsEmit : Emits sizeMax
      (emitEach (fun column : ColumnVector × TypeNode =>
        encodeVector maxLevels column.1.vec column.2 chunk.rows)
        (chunk.columns.map fun column => (column, columnNode column.type)))
      (chunkVectorsBytes chunk) := by
    rw [emitEach_map]
    exact Emits.emitEach fun column hmem =>
      emits_encodeVector (hnode column hmem).2.1 (hchunk.stored column hmem) (hchunk.cost_le hmem)
  unfold encodeOneChunk
  simp only [htake, hmapM, hzip]
  unfold chunkBytes chunkBodyBytes chunkColumnsBytes chunkTypesBytes
  simp only [append_assoc, hlen]
  exact (emits_writeByte 1).bind ((emits_writeFieldId 300).bind ((emits_writeFieldId 100).bind
    ((emits_writeUleb128 _).bind ((emits_writeFieldId 101).bind ((emits_writeUleb128 _).bind
      (htypesEmit.bind ((emits_writeFieldId 102).bind ((emits_writeUleb128 _).bind
        (hvecsEmit.bind (emits_writeFieldEnd.bind emits_writeFieldEnd))))))))))

theorem emits_encodeSchema :
    Emits sizeMax (encodeSchema columns) (schemaBytes columns) := by
  have htypesEmit : Emits sizeMax (emitEach encodeResultType columns)
      (columns.flatMap fun column => typeBytes maxLevels (columnNode column.type)) := by
    refine Emits.emitEach fun column hmem => ?_
    obtain ⟨hfrom, hcanon, _⟩ := columnNode_represents (hcols.types column hmem)
    unfold encodeResultType
    rw [hfrom]
    exact emits_writeTypeNode hcanon.wellFormed
  exact (emits_writeFieldId 1).bind ((emits_writeUleb128 _).bind (htypesEmit.bind
    ((emits_writeFieldId 2).bind ((emits_writeUleb128 _).bind
      (Emits.emitEach fun column _ => emits_writeString column.name)))))

variable {chunks : List DataChunk}

/-- One pass of the encoder. -/
theorem emits_encodeResultPayloadPass (hchunks : ∀ chunk ∈ chunks, chunk.Over columns vectorSize) :
    Emits sizeMax (encodeResultPayloadPass columns chunks true) (resultBytes columns chunks) := by
  unfold encodeResultPayloadPass
  rw [if_neg (Nat.not_lt.2 hcols.length_le)]
  refine Emits.bind (emits_encodeSchema hcols) (Emits.bind ?_ emits_writeFieldEnd)
  have hresults : Emits sizeMax (encodeResults columns.length chunks)
      (if decide (chunks.length > 0) then
        fieldBytes 4 ++ (ulebBytes 10 chunks.length ++ chunks.flatMap chunkBytes) else []) :=
    emits_writeWhen fun _ => (emits_writeFieldId 4).bind ((emits_writeUleb128 _).bind
      (Emits.emitEach fun chunk hmem => emits_encodeOneChunk hcols (hchunks chunk hmem)))
  simpa only [resultsBytes, decide_eq_true_eq] using hresults

/-- **The measured pass and the writing pass agree.** A batch is produced exactly when
    its size can be represented. -/
theorem encodeResultPayload_eq (hchunks : ∀ chunk ∈ chunks, chunk.Over columns vectorSize) :
    (encodeResultPayload columns chunks true = .ok (resultBytes columns chunks) ∧
      (resultBytes columns chunks).length ≤ sizeMax) ∨
    (∃ e, encodeResultPayload columns chunks true = .error e) ∧
      sizeMax < (resultBytes columns chunks).length := by
  have hemit := emits_encodeResultPayloadPass hcols hchunks
  have hmeasure0 : Qk.writerInitMeasure.Fits sizeMax 0 := ⟨Nat.zero_le _, fun h => by cases h⟩
  by_cases hfit : (resultBytes columns chunks).length ≤ sizeMax
  · left
    refine ⟨?_, hfit⟩
    have hmeasure : Qk.writerInitMeasure.Fits sizeMax (resultBytes columns chunks).length :=
      ⟨by simpa [Qk.writerInitMeasure] using hfit, fun h => by cases h⟩
    -- The second pass has exactly the capacity that the first one measured.
    have hfixed0 : (Qk.writerInitFixed (resultBytes columns chunks).length).Fits sizeMax 0 :=
      ⟨Nat.zero_le _, fun _ => Nat.zero_le _⟩
    have hfixed : (Qk.writerInitFixed (resultBytes columns chunks).length).Fits sizeMax
        (resultBytes columns chunks).length :=
      ⟨by simpa [Qk.writerInitFixed] using hfit, fun _ => by simp [Qk.writerInitFixed]⟩
    have hposition : (Qk.writerInitMeasure.put (resultBytes columns chunks)).position =
        (resultBytes columns chunks).length := by
      simp [Sink.put, Qk.writerInitMeasure]
    unfold encodeResultPayload
    rw [(hemit _ hmeasure0).1 hmeasure]
    simp only [hposition]
    rw [(hemit _ hfixed0).1 hfixed]
    simp [Sink.put, Qk.writerInitFixed]
  · right
    have hmeasure : ¬Qk.writerInitMeasure.Fits sizeMax (resultBytes columns chunks).length :=
      fun h => hfit (by simpa [Qk.writerInitMeasure] using h.1)
    obtain ⟨e, he⟩ := (hemit _ hmeasure0).2 hmeasure
    refine ⟨⟨e, ?_⟩, by omega⟩
    unfold encodeResultPayload
    rw [he]

/-! ### Parsing the schema -/

/-- The schema that a receiver sees. -/
def resultSchema (columns : List ResultColumn) : Schema :=
  columns.map fun column => ⟨column.name, columnNode column.type⟩

omit hcols in
theorem reads_columnTypes {α : Type} {items : List α} {type : α → LogicalType}
    (htypes : ∀ item ∈ items, (type item).withinLimits maxLevels = true) :
    Reads readBounds (repeatRead (readTypeNode maxLevels) items.length)
      (items.flatMap fun item => typeBytes maxLevels (columnNode (type item))) 0
      (items.map fun item => columnNode (type item)) :=
  Reads.repeatRead fun item hmem => reads_readTypeNode
    (columnNode_represents (htypes item hmem)).2.1.wellFormed

/-- **The schema parser returns the columns.** -/
theorem reads_readerParseSchema :
    Reads readBounds readerParseSchema (schemaBytes columns) 0 (resultSchema columns) := by
  have hmax : columns.length ≤ u64Max := Nat.le_trans hcols.length_le (by decide)
  have hnames := Reads.repeatRead fun (column : ResultColumn) (_ : column ∈ columns) =>
    reads_readStringDup column.name
  refine reads_number (by decide) hmax ?_
  rw [if_neg (Nat.not_lt.2 hcols.length_le)]
  refine (reads_columnTypes hcols.types).bind_free ?_
  refine reads_number (by decide) hmax ?_
  rw [if_neg (by simp)]
  refine hnames.bind_nil ?_
  have hzip : zipWith Column.mk (columns.map ResultColumn.name)
      (columns.map fun column => columnNode column.type) = resultSchema columns := by
    rw [zipWith_map, zipWith_self, resultSchema]
  rw [hzip]
  exact Reads.pure _

/-- The optional schema in front of a scan is skipped as it is parsed. -/
theorem reads_skipSchema :
    Reads readBounds (skipSchema columns.length) (schemaBytes columns) 0 () := by
  intro c rest hsize hdrop hbudget
  have hskip := skipSchema_of_parse (reads_readerParseSchema hcols c rest hsize hdrop hbudget)
  rwa [resultSchema, length_map] at hskip

/-! ### The columns of a chunk -/

variable {cap : Nat}

section
variable {chunk : DataChunk}

omit hcols in
theorem reads_consumeChunkWrapperEnd (allowLegacyOmission : Bool) :
    Reads readBounds (consumeChunkWrapperEnd allowLegacyOmission) (fieldBytes fieldEnd) 0 () := by
  refine reads_peek (by decide) ?_
  exact (reads_readU16le (by decide)).bind_nil (Reads.pure ())

section
variable (hchunk : chunk.Over columns vectorSize)
include hchunk

omit hcols in
/-- What is done for every column of the schema is done for every vector of a chunk. -/
theorem forEach_resultSchema {β : Type} (p : TypeNode → QuackRead β) :
    forEach (fun column : Column => p column.type) (resultSchema columns) =
      forEach (fun column : ColumnVector => p (columnNode column.type)) chunk.columns := by
  rw [resultSchema, forEach_map]
  rw [← forEach_map (fun type => p (columnNode type)) ResultColumn.type, ← hchunk.types,
    forEach_map]

/-- The types that a chunk repeats are those of the schema. -/
theorem reads_readChunkColumns :
    Reads readBounds (readChunkColumns (resultSchema columns)) (chunkColumnsBytes chunk.columns) 0
      () := by
  have hlen := hchunk.length_eq
  have hschema : (resultSchema columns).length = columns.length := length_map _
  have hmax : columns.length ≤ u64Max := Nat.le_trans hcols.length_le (by decide)
  have heach : ∀ column ∈ chunk.columns, Reads readBounds (checkChunkType (columnNode column.type))
      (typeBytes maxLevels (columnNode column.type)) 0 () := by
    intro column hmem
    have hcanon := (columnNode_represents (hchunk.withinLimits hcols hmem)).2.1
    refine (reads_readTypeNode hcanon.wellFormed).bind_nil ?_
    rw [if_pos ((typeEqual_iff _ _).2 rfl)]
    exact Reads.pure ()
  have htypesRead := Reads.forEach_free heach
  rw [← forEach_resultSchema hchunk checkChunkType] at htypesRead
  have hvalidate : Reads readBounds (validateOptionalChunkTypes (resultSchema columns))
      (chunkTypesBytes chunk.columns) 0 () := by
    refine reads_peek (by decide) ?_
    refine reads_number (by decide) (by omega) ?_
    rw [if_neg (by omega)]
    exact htypesRead.bind_nil (Reads.pure ())
  refine hvalidate.bind_free ?_
  refine reads_field (by decide) ?_
  refine (reads_readUleb128 (by omega)).bind_nil ?_
  rw [if_neg (by omega)]
  exact Reads.pure ()

/-- Decoding the columns of a chunk. -/
theorem reads_decodeColumns :
    Reads readBounds (decodeColumns (resultSchema columns) chunk.rows 0 chunk.rows)
      (chunkColumnsBytes chunk.columns ++ (chunkVectorsBytes chunk ++ fieldBytes fieldEnd))
      (chunk.columns.map fun column => column.cost chunk.rows).sum
      ⟨chunk.rows, chunk.columns.map fun column => column.values chunk.rows⟩ := by
  have hvectors := Reads.forEach fun column hmem =>
    reads_decodeVectorInto (columnNode_represents (hchunk.withinLimits hcols hmem)).2.1
      (hchunk.stored column hmem) (hchunk.cost_le hmem)
  rw [← forEach_resultSchema hchunk fun node =>
    decodeVectorInto maxLevels node chunk.rows 0 chunk.rows] at hvectors
  refine (reads_readChunkColumns hcols hchunk).bind_free ?_
  exact hvectors.bind_last (reads_readFieldEnd.bind_nil (Reads.pure _))

/-- Skipping the columns of a chunk. -/
theorem reads_skipColumns :
    Reads readBounds (skipColumns (resultSchema columns) chunk.rows)
      (chunkColumnsBytes chunk.columns ++ (chunkVectorsBytes chunk ++ fieldBytes fieldEnd)) 0 () :=
  (tracks_decodeColumns _ _ 0 _).reads (reads_decodeColumns hcols hchunk) hchunk.budget

/-! ### A chunk -/

theorem reads_skipDataChunk :
    Reads readBounds (skipDataChunk (resultSchema columns)) (chunkBodyBytes chunk) 0
      chunk.rows := by
  refine reads_number (by decide) (Nat.le_trans hchunk.rows_le hcols.vector) ?_
  exact (reads_skipColumns hcols hchunk).bind_nil (Reads.pure _)

/-- The chunk that a scan returns; one without rows leaves the output alone. -/
def decodedChunk (output : OutputChunk) (chunk : DataChunk) : OutputChunk :=
  if chunk.rows = 0 then output
  else ⟨chunk.rows, chunk.columns.map fun column => column.values chunk.rows⟩

/-- What decoding a chunk costs; one without rows is skipped. -/
def decodedCost (chunk : DataChunk) : Nat :=
  if chunk.rows = 0 then 0 else (chunk.columns.map fun column => column.cost chunk.rows).sum

theorem reads_decodeDataChunkSlice (output : OutputChunk) :
    Reads readBounds (decodeDataChunkSlice vectorSize output (resultSchema columns) 0)
      (chunkBodyBytes chunk) (decodedCost chunk)
      (chunk.rows, decodedChunk output chunk) := by
  have hrows := hchunk.rows_le
  refine reads_number (by decide) (Nat.le_trans hrows hcols.vector) ?_
  rw [if_neg (by omega)]
  unfold decodedChunk decodedCost
  by_cases hzero : chunk.rows = 0
  · rw [if_pos (by omega), if_pos hzero, if_pos hzero]
    exact (reads_skipColumns hcols hchunk).bind_nil (Reads.pure _)
  · have hdecode := (reads_decodeColumns hcols hchunk).bind_pure fun out => (chunk.rows, out)
    have hmin : min (chunk.rows - 0) vectorSize = chunk.rows := by omega
    rw [if_neg (by omega), hmin]
    -- Whether or not a column is nested, all rows are copied.
    split <;> exact hdecode

end

/-! ### Validating all chunks -/

/-- **Every chunk is accepted and its rows are counted.** -/
theorem reads_validateChunks {rowCount : Nat}
    (hchunks : ∀ chunk ∈ chunks, chunk.Over columns vectorSize) (hcap : cap = 0 ∨ cap = vectorSize)
    (htotal : rowCount + (chunks.map DataChunk.rows).sum ≤ u64Max) :
    Reads readBounds (validateChunks (resultSchema columns) cap chunks.length rowCount)
      (chunks.flatMap chunkBytes) 0 (rowCount + (chunks.map DataChunk.rows).sum) := by
  induction chunks generalizing rowCount with
  | nil => exact Reads.pure _
  | cons chunk chunks ih =>
    have hchunk := hchunks chunk mem_cons_self
    have hrows := hchunk.rows_le
    rw [map_cons, sum_cons] at htotal ⊢
    have hadd : u64Add rowCount chunk.rows = some (rowCount + chunk.rows) := by
      unfold u64Add
      rw [if_neg (by omega)]
    have hrest := ih (fun c hc => hchunks c (mem_cons_of_mem chunk hc))
      (Nat.add_assoc _ _ _ ▸ htotal)
    rw [flatMap_cons, ← Nat.add_assoc, chunkBytes]
    simp only [append_assoc]
    refine (reads_readBoolean _ true).bind_free ?_
    refine reads_field (by decide) ?_
    refine (reads_skipDataChunk hcols hchunk).bind_free ?_
    refine (reads_consumeChunkWrapperEnd _).bind_free ?_
    rw [if_neg (by omega)]
    refine Reads.nil_bind ?_ hrest
    unfold addRows
    rw [hadd]
    exact Reads.pure _

omit hcols in
/-- Past the last chunk a payload holds its terminator and nothing else. -/
theorem readPayloadEnd_of_drop {c : Cursor} (hsize : c.data.length ≤ sizeMax)
    (hspent : c.spent ≤ maxMaterializedValues) (hdrop : c.data.drop c.off = fieldBytes fieldEnd) :
    readPayloadEnd c = .ok ((), c.advance 2 0) := by
  have hnil : c.data.drop c.off = fieldBytes fieldEnd ++ [] := by rw [hdrop, append_nil]
  have hlen := congrArg length hdrop
  rw [length_drop, fieldBytes_length] at hlen
  have hend : Reads readBounds (readExpectField fieldEnd) (fieldBytes fieldEnd) 0 () :=
    reads_readFieldEnd
  have hread := hend c [] hsize hnil hspent
  rw [fieldBytes_length] at hread
  unfold readPayloadEnd
  rw [Step.bind_eq_ok]
  refine ⟨(), _, hread, ?_⟩
  rw [Step.bind_eq_ok]
  refine ⟨_, _, rfl, ?_⟩
  rw [if_neg (by simp only [Cursor.advance_off, Cursor.advance_data]; omega)]
  rfl

/-- The row count of a batch. -/
def totalRows (chunks : List DataChunk) : Nat := (chunks.map DataChunk.rows).sum

omit hcols in
/-- A region holds no more chunks than bytes. -/
theorem chunkCount_le {c : Cursor} {rest : List UInt8} (hsize : c.data.length ≤ sizeMax)
    (hdrop : c.data.drop c.off = resultsBytes chunks ++ rest) : chunks.length ≤ u64Max := by
  by_cases hpos : chunks.length > 0
  · have hlen := congrArg length hdrop
    rw [resultsBytes, if_pos hpos] at hlen
    simp only [length_drop, length_append] at hlen
    have hcount := length_le_flatMap_length fun (chunk : DataChunk) (_ : chunk ∈ chunks) =>
      (by rw [chunkBytes]; simp : 0 < (chunkBytes chunk).length)
    have : sizeMax = u64Max := rfl
    omega
  · omega

/-- **The validation accepts what follows the schema of a batch.** -/
theorem readerValidateResults_of_drop {c : Cursor}
    (hchunks : ∀ chunk ∈ chunks, chunk.Over columns vectorSize) (hcap : cap = 0 ∨ cap = vectorSize)
    (htotal : totalRows chunks ≤ u64Max) (hsize : c.data.length ≤ sizeMax)
    (hspent : c.spent ≤ maxMaterializedValues)
    (hdrop : c.data.drop c.off = resultsBytes chunks ++ fieldBytes fieldEnd) :
    ∃ c', readerValidateResults (resultSchema columns) cap c = .ok (totalRows chunks, c') := by
  have hcount := chunkCount_le hsize hdrop
  -- The section is there exactly when there is a chunk.
  have hsection : ∃ f, peekU16le c = .ok (f, c) ∧
      Reads readBounds (validateResultsSection (resultSchema columns) cap f) (resultsBytes chunks) 0
        (totalRows chunks) := by
    rcases Nat.eq_zero_or_pos chunks.length with hzero | hpos
    · obtain rfl := eq_nil_of_length_eq_zero hzero
      exact ⟨fieldEnd, peekU16le_of_append (by decide) hdrop, Reads.pure 0⟩
    · have hchunksRead := reads_validateChunks hcols hchunks hcap
        ((Nat.zero_add (totalRows chunks)).symm ▸ htotal)
      rw [Nat.zero_add] at hchunksRead
      rw [resultsBytes, if_pos hpos] at hdrop ⊢
      refine ⟨4, peekU16le_of_append (by decide) hdrop, ?_⟩
      exact (reads_readU16le (by decide)).bind_free
        ((reads_readUleb128 hcount).bind_free hchunksRead)
  obtain ⟨f, hpeek, hread⟩ := hsection
  have hrest := drop_advance 0 hdrop
  have hend := @readPayloadEnd_of_drop (c.advance (resultsBytes chunks).length 0) hsize hspent hrest
  refine ⟨(c.advance (resultsBytes chunks).length 0).advance 2 0, ?_⟩
  unfold readerValidateResults
  rw [Step.bind_eq_ok]
  refine ⟨f, c, hpeek, ?_⟩
  rw [Step.bind_eq_ok]
  refine ⟨_, _, hread c _ hsize hdrop hspent, ?_⟩
  rw [Step.bind_eq_ok]
  exact ⟨(), _, hend, rfl⟩

/-! ### Scanning all chunks -/

/-- Repeated `ducknng_quack_payload_scan_next` until no chunk remains. -/
def scanLoop (vectorSize : Nat) (payload : List UInt8) (schema : Schema) :
    Nat → Nat → Except Err (List OutputChunk)
  | 0, _ => .ok []
  | remaining + 1, offset => do
    let (chunk, offset, _) ← payloadScanNext vectorSize .reset payload schema offset (remaining + 1)
    let chunks ← scanLoop vectorSize payload schema remaining offset
    pure (chunk :: chunks)

/-- `scan_begin` and repeated `scan_next`. -/
def payloadScanAll (vectorSize : Nat) (payload : List UInt8) (schema : Schema) :
    Except Err (List OutputChunk) := do
  let (offset, remaining) ← payloadScanBegin payload schema
  scanLoop vectorSize payload schema remaining offset

theorem reads_scanChunk (hchunk : chunk.Over columns vectorSize) (output : OutputChunk)
    (remaining : Nat) :
    Reads readBounds (scanChunk vectorSize output (resultSchema columns) remaining)
      (chunkBytes chunk ++ if remaining = 1 then fieldBytes fieldEnd else []) (decodedCost chunk)
      (decodedChunk output chunk) := by
  rw [chunkBytes]
  simp only [append_assoc]
  refine (reads_readBoolean _ true).bind_free ?_
  refine reads_field (by decide) ?_
  refine (reads_decodeDataChunkSlice hcols hchunk output).bind_last ?_
  refine (reads_consumeChunkWrapperEnd _).bind_free ?_
  by_cases hlast : remaining = 1
  · simp only [if_pos hlast]
    exact reads_readFieldEnd.bind_nil (Reads.pure _)
  · simp only [if_neg hlast]
    exact Reads.pure _

omit hcols in
theorem decodedCost_le (hchunk : chunk.Over columns vectorSize) :
    decodedCost chunk ≤ maxMaterializedValues := by
  unfold decodedCost
  split
  · exact Nat.zero_le _
  · exact hchunk.budget

/-- One call of `scan_next`. -/
theorem payloadScanNext_of_drop {payload rest : List UInt8} {offset remaining : Nat}
    (hchunk : chunk.Over columns vectorSize) (hsize : payload.length ≤ sizeMax)
    (hdrop : payload.drop offset =
      (chunkBytes chunk ++ if remaining + 1 = 1 then fieldBytes fieldEnd else []) ++ rest) :
    ∃ next, payloadScanNext vectorSize .reset payload (resultSchema columns) offset (remaining +
        1) = .ok (decodedChunk .reset chunk, next, remaining) ∧ payload.drop next = rest := by
  have hread := reads_scanChunk hcols hchunk .reset (remaining + 1)
    (readerAt payload offset) rest hsize hdrop (Nat.zero_add _ ▸ decodedCost_le hchunk)
  have hne : payload.drop offset ≠ [] := by
    rw [hdrop, chunkBytes]
    simp
  have hoff : offset < payload.length := by
    rw [← length_pos_iff, length_drop] at hne
    omega
  have hrest := drop_advance (c := readerAt payload offset) (decodedCost chunk) hdrop
  refine ⟨_, ?_, hrest⟩
  unfold payloadScanNext
  rw [if_neg (by omega), if_neg (by omega), if_neg (by omega), hread]
  rfl

/-- **The scan returns the chunks one by one.** -/
theorem scanLoop_of_drop {payload : List UInt8} {offset : Nat}
    (hchunks : ∀ chunk ∈ chunks, chunk.Over columns vectorSize) (hsize : payload.length ≤ sizeMax)
    (hdrop : payload.drop offset = chunks.flatMap chunkBytes ++ fieldBytes fieldEnd) :
    scanLoop vectorSize payload (resultSchema columns) chunks.length offset =
      .ok (chunks.map (decodedChunk .reset)) := by
  induction chunks generalizing offset with
  | nil => rfl
  | cons chunk chunks ih =>
    have hhead := hchunks chunk mem_cons_self
    have htail := fun c hc => hchunks c (mem_cons_of_mem chunk hc)
    rw [flatMap_cons, append_assoc] at hdrop
    by_cases hlast : chunks.length + 1 = 1
    · -- The last chunk is followed by the end of the payload, which its call consumes.
      obtain rfl : chunks = [] := eq_nil_of_length_eq_zero (by omega)
      have hbytes : payload.drop offset =
          (chunkBytes chunk ++ if 0 + 1 = 1 then fieldBytes fieldEnd else []) ++ [] := by
        simpa using hdrop
      obtain ⟨next, hnext, _⟩ := payloadScanNext_of_drop hcols hhead hsize hbytes
      simp only [length_singleton, scanLoop, hnext]
      rfl
    · have hbytes : payload.drop offset =
          (chunkBytes chunk ++ if chunks.length + 1 = 1 then fieldBytes fieldEnd else []) ++
            (chunks.flatMap chunkBytes ++ fieldBytes fieldEnd) := by
        rw [if_neg hlast, append_nil]
        exact hdrop
      obtain ⟨next, hnext, hrest⟩ := payloadScanNext_of_drop hcols hhead hsize hbytes
      simp only [length_cons, scanLoop, hnext]
      have htailRun := ih htail hrest
      simp only [bind, Except.bind, htailRun]
      rfl

omit hcols in
theorem decodedChunk_size (chunk : DataChunk) : (decodedChunk .reset chunk).size = chunk.rows := by
  unfold decodedChunk
  split
  · next h => exact h.symm
  · rfl

omit hcols in
theorem decodedChunk_rows (chunk : DataChunk) :
    (decodedChunk .reset chunk).rows = chunk.rowValues := by
  unfold decodedChunk DataChunk.rowValues
  split
  · next h => rw [h]; rfl
  · simp [OutputChunk.rows]

/-- A chunk with a column has no more rows than bytes. -/
theorem rows_le_chunkBytes (hchunk : chunk.Over columns vectorSize)
    (hne : columns ≠ []) : chunk.rows ≤ (chunkBytes chunk).length := by
  have hpos : 0 < chunk.columns.length := by
    rw [hchunk.length_eq]
    exact length_pos_iff.2 hne
  obtain ⟨column, hmem⟩ := exists_mem_of_length_pos hpos
  have hcanon := (columnNode_represents (hchunk.withinLimits hcols hmem)).2.1
  have hrows := rows_le_vectorBytes hcanon (hchunk.stored column hmem)
  have hbytes := @length_le_of_mem _ (fun column : ColumnVector =>
    vectorBytes maxLevels column.vec (columnNode column.type) chunk.rows) _ _ hmem
  simp only [chunkBytes, chunkBodyBytes, chunkVectorsBytes, length_append]
  omega

end

/-! ### The batch as a whole -/

/-- The receiver's types are the sender's. -/
theorem nodeToDuckdb_resultSchema :
    (resultSchema columns).mapM (fun column => nodeToDuckdb maxLevels column.type) =
      .ok (columns.map ResultColumn.type) := by
  rw [resultSchema, mapM_map]
  exact mapM_eq_ok fun column hmem => (columnNode_represents (hcols.types column hmem)).2.2

section
variable {chunks : List DataChunk}

/-- **`scan_begin` stops in front of the first chunk.** -/
theorem payloadScanBegin_resultBytes (hfit : (resultBytes columns chunks).length ≤ sizeMax) :
    ∃ offset, payloadScanBegin (resultBytes columns chunks) (resultSchema columns) =
        .ok (offset, chunks.length) ∧
      (0 < chunks.length → (resultBytes columns chunks).drop offset =
        chunks.flatMap chunkBytes ++ fieldBytes fieldEnd) := by
  have hne : (resultBytes columns chunks).length ≠ 0 := by
    simp [resultBytes]
  have hskip := reads_skipSchema hcols (readerAt (resultBytes columns chunks) 0) _ hfit rfl
    (Nat.zero_le _)
  rw [← (length_map _ : (resultSchema columns).length = columns.length)] at hskip
  have hrest := drop_advance (c := readerAt (resultBytes columns chunks) 0) 0 (rfl :
    (resultBytes columns chunks).drop 0 = schemaBytes columns ++ _)
  have hcount := chunkCount_le hfit hrest
  by_cases hpos : chunks.length > 0
  · rw [resultsBytes, if_pos hpos, append_assoc, append_assoc] at hrest
    have hheader : Reads readBounds readResultsHeader (fieldBytes 4 ++ ulebBytes 10 chunks.length) 0
        chunks.length :=
      reads_peek (by decide) ((reads_readU16le (by decide)).bind_free (reads_readUleb128 hcount))
    have hread := hheader _ _ hfit hrest (Nat.zero_le _)
    exact ⟨_, payloadScanBegin_eq hne hskip hread, fun _ => drop_advance 0 hrest⟩
  · -- Without chunks the section is missing and the next field is the end.
    obtain rfl : chunks = [] := eq_nil_of_length_eq_zero (by omega)
    have hpeek := peekU16le_of_append (by decide) (hrest.trans (append_nil _).symm)
    have hheader : readResultsHeader ((readerAt (resultBytes columns []) 0).advance
        (schemaBytes columns).length 0) = .ok (0, _) := Step.bind_eq_ok.2 ⟨_, _, hpeek, rfl⟩
    exact ⟨_, payloadScanBegin_eq hne hskip hheader, fun h => absurd h (by decide)⟩

/-- **A scan returns every chunk.** -/
theorem payloadScanAll_resultBytes (hchunks : ∀ chunk ∈ chunks, chunk.Over columns vectorSize)
    (hfit : (resultBytes columns chunks).length ≤ sizeMax) :
    payloadScanAll vectorSize (resultBytes columns chunks) (resultSchema columns) =
      .ok (chunks.map (decodedChunk .reset)) := by
  obtain ⟨offset, hbegin, hdrop⟩ := payloadScanBegin_resultBytes hcols hfit
  unfold payloadScanAll
  rw [hbegin]
  show scanLoop vectorSize _ _ chunks.length offset = _
  rcases Nat.eq_zero_or_pos chunks.length with hzero | hpos
  · obtain rfl := eq_nil_of_length_eq_zero hzero
    rfl
  · exact scanLoop_of_drop hcols hchunks hfit (hdrop hpos)

/-- The validation after the schema. -/
theorem readerValidateResults_resultBytes
    (hchunks : ∀ chunk ∈ chunks, chunk.Over columns vectorSize)
    (htotal : columns = [] → totalRows chunks ≤ u64Max) (hcap : cap = 0 ∨ cap = vectorSize)
    (hfit : (resultBytes columns chunks).length ≤ sizeMax) :
    ∃ r, readerValidateResults (resultSchema columns) cap
      ((readerAt (resultBytes columns chunks) 0).advance (schemaBytes columns).length 0) =
        .ok (totalRows chunks, r) := by
  have hrest := drop_advance (c := readerAt (resultBytes columns chunks) 0) 0 (rfl :
    (resultBytes columns chunks).drop 0 = schemaBytes columns ++ _)
  have hrows : totalRows chunks ≤ u64Max := by
    by_cases hnil : columns = []
    · exact htotal hnil
    · have hle : totalRows chunks ≤ (chunks.flatMap chunkBytes).length := by
        rw [length_flatMap]
        exact sum_le_sum fun chunk hmem => rows_le_chunkBytes hcols (hchunks chunk hmem) hnil
      rcases Nat.eq_zero_or_pos chunks.length with hzero | hpos
      · obtain rfl := eq_nil_of_length_eq_zero hzero
        exact Nat.zero_le _
      · simp only [resultBytes, resultsBytes, if_pos hpos, length_append] at hfit
        exact Nat.le_trans (by omega) (Nat.le_refl sizeMax)
  exact readerValidateResults_of_drop hcols hchunks hcap hrows hfit (Nat.zero_le _)
    hrest

omit hcols in
/-- **A batch comes back as it was sent.** The encoder fails only when the batch is
    larger than memory; the schema parser, the bind step, the results validation (with and
    without the vector size as a cap) and the scan all accept what it produces. A batch
    without columns has no bytes for its rows, so their number is bounded on its own. -/
theorem batch_round_trip (hcols : columns.length ≤ maxStructMembers)
    (htypes : ∀ column ∈ columns, column.type.withinLimits maxLevels = true)
    (hvector : vectorSize ≤ u64Max) (hchunks : ∀ chunk ∈ chunks, chunk.Over columns vectorSize)
    (htotal : columns = [] → totalRows chunks ≤ u64Max) :
    ((resultBytes columns chunks).length ≤ sizeMax →
      ∃ payload, encodeResultPayload columns chunks true = .ok payload) ∧
    ∀ payload, encodeResultPayload columns chunks true = .ok payload →
      ∃ schema outputs,
        payloadParseSchema payload = .ok schema ∧
        payloadBindColumns payload =
          .ok (columns.map fun column => (column.name, column.type), schema, totalRows chunks) ∧
        (∀ cap, cap = 0 ∨ cap = vectorSize → ∃ r,
          (do let schema ← readerParseSchema; readerValidateResults schema cap : QuackRead Nat)
            (readerAt payload 0) = .ok (totalRows chunks, r)) ∧
        payloadScanAll vectorSize payload schema = .ok outputs ∧
        outputs.map OutputChunk.size = chunks.map DataChunk.rows ∧
        outputs.map OutputChunk.rows = chunks.map DataChunk.rowValues := by
  have hcarried : Carried columns vectorSize := ⟨hcols, htypes, hvector⟩
  have hencode := encodeResultPayload_eq hcarried hchunks
  refine ⟨fun hfit => ?_, fun payload hpayload => ?_⟩
  · rcases hencode with ⟨hok, _⟩ | ⟨_, hlarge⟩
    · exact ⟨_, hok⟩
    · omega
  -- an encoding that succeeded has its bytes, and they fit
  rcases hencode with ⟨hok, hfit⟩ | ⟨⟨e, he⟩, _⟩
  swap
  · rw [he] at hpayload
    cases hpayload
  rw [hok] at hpayload
  cases hpayload
  have hparse := reads_readerParseSchema hcarried (readerAt (resultBytes columns chunks) 0)
    _ hfit rfl (Nat.zero_le _)
  have hne : ¬(resultBytes columns chunks).length = 0 := by
    simp [resultBytes]
  refine ⟨resultSchema columns, chunks.map (decodedChunk .reset), ?_, ?_, fun cap hcap => ?_,
    payloadScanAll_resultBytes hcarried hchunks hfit, ?_, ?_⟩
  · rw [payloadParseSchema, hparse]
    rfl
  · obtain ⟨r, hvalid⟩ := readerValidateResults_resultBytes hcarried hchunks htotal
      (Or.inl rfl) hfit
    have hnames : ((resultSchema columns).map Column.name).zip (columns.map ResultColumn.type) =
        columns.map fun column => (column.name, column.type) := by
      rw [resultSchema, map_map, zip_map']
      rfl
    unfold payloadBindColumns
    simp only [hparse, bind, Except.bind, nodeToDuckdb_resultSchema hcarried, hvalid, hnames]
    rfl
  · obtain ⟨r, hvalid⟩ := readerValidateResults_resultBytes hcarried hchunks htotal
      hcap hfit
    exact ⟨r, Step.bind_eq_ok.2 ⟨_, _, hparse, hvalid⟩⟩
  · rw [map_map]
    exact map_congr_left fun chunk _ => decodedChunk_size chunk
  · rw [map_map]
    exact map_congr_left fun chunk _ => decodedChunk_rows chunk

end

end

/-- One column of lists of integers. -/
def listColumns : List ResultColumn := [⟨.empty, .list (.flat .integer)⟩]

/-- Two rows over it: a list of one integer, and a NULL. -/
def listChunk : DataChunk :=
  ⟨2, [⟨.list (.flat .integer),
    ⟨some [1, 0, 0, 0, 0, 0, 0, 0], [], [], [(0, 1), (0, 0)], 1,
      [⟨none, [7, 0, 0, 0], [], [], 0, []⟩]⟩⟩]⟩

/-- The batch of one such chunk, scanned. -/
theorem batch_round_trip_list :
    ∃ payload schema outputs, encodeResultPayload listColumns [listChunk] true = .ok payload ∧
      payloadScanAll 2048 payload schema = .ok outputs ∧
      outputs.map OutputChunk.rows = [[[.list [.fixed [7, 0, 0, 0]]], [.null]]] := by
  have hchunks : ∀ chunk ∈ [listChunk], chunk.Over listColumns 2048 := by
    intro chunk hmem
    rw [mem_singleton] at hmem
    subst hmem
    exact ⟨rfl, by decide, by decide, by decide⟩
  obtain ⟨hencode, hread⟩ := @batch_round_trip listColumns 2048 [listChunk] (by decide) (by decide)
    (by decide) hchunks (fun h => by cases h)
  obtain ⟨payload, hpayload⟩ := hencode (by decide)
  obtain ⟨schema, outputs, _, _, _, hscan, _, hrows⟩ := hread payload hpayload
  exact ⟨payload, schema, outputs, hpayload, hscan, hrows.trans (by rfl)⟩

end Quack

end Ducknng
