import Ducknng.Checked
import Ducknng.Lib.Drain
import Mathlib.Data.List.Basic

namespace Ducknng.Arrow

open List Drain

/-!
# Arrow tables as DuckDB rows

The table functions that emit the rows of an Arrow IPC stream: `fetch_query_table` over a
fetch reply, and the body parser behind `parse_body` and `ncurl_table`, which reads an Arrow
body directly and a JSON, NDJSON or Parquet body through a query whose result is first
written as a stream. A column is the sequence of its values; how one value is converted is
the business of the column functions, which here accept a column or refuse it.

* `emits_bound_rows` — the scan emits exactly the bound array.
* `arrowTables_emit_iff` — the streams of which every row is emitted.
-/

/-! ### Batches and streams -/

/-- A record batch, or a data chunk: columns of one length. -/
structure ColumnBatch (ν : Type) where
  length : Nat
  columns : List (List ν)
  full : ∀ column ∈ columns, column.length = length

section
variable {ν : Type}

/-- The rows of a batch, from the first to the last. -/
def ColumnBatch.rows (b : ColumnBatch ν) : List (List (Option ν)) :=
  (range b.length).map fun i => b.columns.map fun column => column[i]?

/-- Rows `offset`, `offset + 1`, …, at most `count` of them. -/
def ColumnBatch.slice (b : ColumnBatch ν) (offset count : Nat) : ColumnBatch ν where
  length := min count (b.length - offset)
  columns := b.columns.map fun column => (column.drop offset).take count
  full := by
    intro column hcolumn
    obtain ⟨c, hc, rfl⟩ := mem_map.1 hcolumn
    rw [length_take, length_drop, b.full c hc]

@[simp] theorem ColumnBatch.length_rows (b : ColumnBatch ν) : b.rows.length = b.length := by
  simp [ColumnBatch.rows]

/-- A slice has the rows it was cut from. -/
theorem ColumnBatch.rows_slice (b : ColumnBatch ν) (offset count : Nat) :
    (b.slice offset count).rows = (b.rows.drop offset).take count := by
  apply ext_getElem
  · simp [slice]
  · intro i hi _
    have hcount : i < count := by
      rw [length_rows] at hi
      exact Nat.lt_of_lt_of_le hi (Nat.min_le_left _ _)
    simp [rows, slice, hcount]

/-- A batch without rows, one empty column per field. -/
def ColumnBatch.empty (fields : Nat) : ColumnBatch ν where
  length := 0
  columns := replicate fields []
  full := by
    intro column hcolumn
    rw [eq_of_mem_replicate hcolumn]
    rfl

end

/-- An Arrow IPC stream: one schema, then the record batches. -/
structure IpcStream (τ ν : Type) where
  fields : List τ
  batches : List (ColumnBatch ν)
  fits : ∀ b ∈ batches, b.columns.length = fields.length

/-- The result of a query: its columns, and its chunks in the order they are fetched. -/
structure ChunkedResult (τ ν : Type) where
  fields : List τ
  chunks : List (ColumnBatch ν)
  fits : ∀ chunk ∈ chunks, chunk.columns.length = fields.length

section
variable {τ ν : Type}

/-- All rows of a stream, batch after batch. -/
def IpcStream.rows (s : IpcStream τ ν) : List (List (Option ν)) :=
  s.batches.flatMap ColumnBatch.rows

/-- `ducknng_query_to_ipc_stream`: one record batch per chunk. -/
def queryToIpcStream (r : ChunkedResult τ ν) : IpcStream τ ν := ⟨r.fields, r.chunks, r.fits⟩

/-- `ArrowArrayStreamGetNext`: the next batch of the stream and what is left, or the end. -/
def streamGetNext : List (ColumnBatch ν) → Option (ColumnBatch ν) × List (ColumnBatch ν)
  | [] => (none, [])
  | b :: rest => (some b, rest)

/-- `ducknng_decode_ipc_table_payload`; the payload is what the IPC reader makes of it. -/
def decodeIpcTablePayload : Option (IpcStream τ ν) → Except String (List τ × ColumnBatch ν)
  | none => .error "ducknng: missing Arrow table payload"
  | some stream =>
    match (streamGetNext stream.batches).1 with
    | some array => .ok (stream.fields, array)
    | none => .ok (stream.fields, .empty stream.fields.length)

end

/-! ### Body codecs -/

/-- The queries the JSON reader builds around a body. -/
inductive JsonTemplate where
  | arrayStruct
  | arrayValue
  | object
  | scalar
  deriving DecidableEq, Repr

/-- The codecs whose result is an Arrow table. -/
inductive BodyCodec where
  | arrowIpc
  | json
  | ndjson
  | parquet
  deriving DecidableEq, Repr

/-- What DuckDB, nanoarrow and the column functions answer. -/
structure TableCalls (τ ν : Type) where
  /-- `duckdb_vector_size`. -/
  vectorSize : Nat
  /-- `ducknng_sql_arrow_schema_to_logical_type`. -/
  logicalType : τ → Except String Unit
  /-- `ducknng_sql_arrow_assign_column`: whether these values can be stored. -/
  assignColumn : τ → List ν → Except String Unit
  /-- The IPC reader on the bytes of an Arrow body. -/
  ipcReader : List UInt8 → Except String (IpcStream τ ν)
  /-- `duckdb_valid_utf8_check`. -/
  validUtf8 : List UInt8 → Bool
  /-- The codec connection's answer to a JSON query over a text. -/
  queryJson : JsonTemplate → List UInt8 → Except String (ChunkedResult τ ν)
  /-- The answer of `read_parquet` over a temporary file with these bytes. -/
  queryParquet : List UInt8 → Except String (ChunkedResult τ ν)

section
variable {τ ν : Type} (calls : TableCalls τ ν)

/-- `ducknng_sql_bytes_look_text`. -/
def bytesLookText (data : List UInt8) : Bool :=
  data.all (fun b => b ≠ 0 && (0x20 ≤ b || b = 0x09 || b = 0x0a || b = 0x0d)) &&
    (data = [] || calls.validUtf8 data)

/-- The template is chosen by the first byte that is no blank. -/
def chooseTemplate (body : List UInt8) : JsonTemplate :=
  match (body.dropWhile fun b => [0x20, 0x09, 0x0d, 0x0a].contains b).head? with
  | some 0x5b => .arrayStruct
  | some 0x7b => .object
  | _ => .scalar

/-- `ducknng_body_parse_run_duckdb_reader`, up to the written stream: an array is first read
    as an array of objects and, if that query fails, as an array of values. -/
def runDuckdbReader (body : List UInt8) : Except String (IpcStream τ ν) :=
  if body = [] then .error "ducknng: JSON body must not be empty"
  else if ¬ bytesLookText calls body then .error "ducknng: JSON body is not valid UTF-8 text"
  else match chooseTemplate body with
    | .arrayStruct =>
      match calls.queryJson .arrayStruct body with
      | .ok r => .ok (queryToIpcStream r)
      | .error _ => (calls.queryJson .arrayValue body).map queryToIpcStream
    | template => (calls.queryJson template body).map queryToIpcStream

/-- `ducknng_body_parse_run_tempfile_reader`, up to the written stream. -/
def runTempfileReader (body : List UInt8) : Except String (IpcStream τ ν) :=
  if body = [] then .error "ducknng: body must not be empty for this codec"
  else (calls.queryParquet body).map queryToIpcStream

/-- A line without the carriage returns at its end and the blanks at its start. -/
def ndjsonLine (line : List UInt8) : List UInt8 :=
  (line.reverse.dropWhile (· = 0x0d)).reverse.dropWhile fun b => b = 0x20 || b = 0x09

/-- `ducknng_ndjson_to_json_array`: the lines that are not blank, as one array. The caller
    takes its length with `strlen`. -/
def ndjsonToJsonArray (body : List UInt8) : List UInt8 :=
  let lines := ((body.splitOn 0x0a).map ndjsonLine).filter (· ≠ [])
  ([0x5b] ++ [0x2c].intercalate lines ++ [0x5d]).takeWhile (· ≠ 0)

/-- The stream the body parser decodes. -/
def bodyStream : BodyCodec → List UInt8 → Except String (IpcStream τ ν)
  | .arrowIpc, body => calls.ipcReader body
  | .json, body => runDuckdbReader calls body
  | .ndjson, body => runDuckdbReader calls (ndjsonToJsonArray body)
  | .parquet, body => runTempfileReader calls body

/-! ### Binding -/

/-- What a bind step keeps for the scan. -/
structure TableBind (τ ν : Type) where
  schema : List τ
  array : ColumnBatch ν
  rowCount : Nat

/-- The checks both bind steps make on a decoded table: the children of the array are those
    of the schema, and every column has a DuckDB type. -/
def bindTable (invalid : String) (schema : List τ) (array : ColumnBatch ν) :
    Except String (TableBind τ ν) := do
  if schema.length ≠ array.columns.length then throw invalid
  schema.forM calls.logicalType
  return ⟨schema, array, array.length⟩

/-- The reply to a fetch, as the client keeps it. -/
structure FetchReply (τ ν : Type) where
  ok : Bool
  error : Option String
  payload : Option (IpcStream τ ν)

/-- `ducknng_fetch_query_table_result_set`. -/
def fetchQueryTableResultSet (reply : FetchReply τ ν) : Except String (TableBind τ ν) :=
  if ¬ reply.ok then .error (reply.error.getD "ducknng: fetch_query_table request failed")
  else if reply.payload.isNone then
    .error "ducknng: fetch_query_table expected an Arrow row payload; use ducknng_fetch_query(...) for control-only session replies"
  else do
    let (schema, array) ← decodeIpcTablePayload reply.payload
    bindTable calls "ducknng: invalid fetch_query_table Arrow schema" schema array

/-- The message of a body whose array does not fit its schema. -/
def BodyCodec.invalidSchema : BodyCodec → String
  | .arrowIpc => "ducknng: invalid Arrow IPC body schema"
  | .json | .ndjson | .parquet => "ducknng: invalid parsed body schema"

/-- `ducknng_body_parse_prepare`, for the codecs whose result is an Arrow table. -/
def bodyParsePrepare (codec : BodyCodec) (body : List UInt8) : Except String (TableBind τ ν) := do
  let stream ← bodyStream calls codec body
  let (schema, array) ← decodeIpcTablePayload (some stream)
  bindTable calls codec.invalidSchema schema array

/-! ### Scanning -/

/-- `ducknng_sql_arrow_scan_table`: the output and the offset after it. -/
def scanTable (schema : List τ) (array : ColumnBatch ν) (rowCount offset : Nat) :
    Except String (ColumnBatch ν × Nat) :=
  if offset ≥ rowCount then .ok (.empty schema.length, offset)
  else do
    let remaining := rowCount - offset
    let chunkSize := if remaining > calls.vectorSize then calls.vectorSize else remaining
    let output := array.slice offset chunkSize
    (schema.zip output.columns).forM fun (field, values) => calls.assignColumn field values
    return (output, offset + chunkSize)

/-- One call of a table function over a bound array; `report` is the text it gives an
    error. -/
def arrowScan (report : String → String) (bind : TableBind τ ν) (offset : Nat) :
    Except String (ColumnBatch ν × Nat) :=
  if offset ≥ bind.rowCount then .ok (.empty bind.schema.length, offset)
  else (scanTable calls bind.schema bind.array bind.rowCount offset).mapError report

/-- `ducknng_fetch_query_table_scan`. -/
def fetchQueryTableScan : TableBind τ ν → Nat → Except String (ColumnBatch ν × Nat) :=
  arrowScan calls id

/-- The Arrow branch of `ducknng_body_parse_scan`. -/
def bodyParseScan : TableBind τ ν → Nat → Except String (ColumnBatch ν × Nat) :=
  arrowScan calls fun _ => "ducknng: failed to decode Arrow IPC body"

/-- The bind step succeeds, and the scan it starts emits these rows and ends. -/
def Emits (scan : TableBind τ ν → Nat → Except String (ColumnBatch ν × Nat))
    (bound : Except String (TableBind τ ν)) (rows : List (List (Option ν))) : Prop :=
  ∃ bind, bound = .ok bind ∧
    ∃ outs, Drains (scan bind) ColumnBatch.length 0 outs ∧ outs.flatMap ColumnBatch.rows = rows

/-- The columns have types the bind step and the scan know. -/
def Supported (fields : List τ) : Prop :=
  ∀ field ∈ fields, calls.logicalType field = .ok () ∧
    ∀ values, calls.assignColumn field values = .ok ()

/-! ### The scan emits the bound array -/

variable {calls}

/-- A loop of checks passes when every check does. -/
theorem forM_ok {α : Type} {check : α → Except String Unit} {xs : List α}
    (h : ∀ x ∈ xs, check x = .ok ()) : xs.forM check = .ok () := by
  induction xs with
  | nil => rfl
  | cons x xs ih =>
    obtain ⟨hx, hxs⟩ := forall_mem_cons.1 h
    show (check x >>= fun _ => xs.forM check) = .ok ()
    rw [hx]
    exact ih hxs

/-- Under supported columns a call of the scan never fails. -/
theorem scanTable_of_supported {schema : List τ} (hs : Supported calls schema)
    {array : ColumnBatch ν} {rowCount offset : Nat} (hoffset : offset < rowCount) :
    scanTable calls schema array rowCount offset =
      .ok (array.slice offset (min calls.vectorSize (rowCount - offset)),
        offset + min calls.vectorSize (rowCount - offset)) := by
  have hmin : (if rowCount - offset > calls.vectorSize then calls.vectorSize
      else rowCount - offset) = min calls.vectorSize (rowCount - offset) := by
    split <;> omega
  simp only [scanTable, if_neg (Nat.not_le.2 hoffset), hmin]
  rw [forM_ok fun p hp => (hs p.1 (of_mem_zip hp).1).2 p.2]
  rfl

/-- The scan emits the rows of the bound array, each once and in order. -/
theorem emits_bound_rows (hV : 0 < calls.vectorSize) {report : String → String}
    {schema : List τ} (hs : Supported calls schema) (array : ColumnBatch ν) :
    ∃ outs, Drains (arrowScan calls report ⟨schema, array, array.length⟩) ColumnBatch.length 0
      outs ∧ outs.flatMap ColumnBatch.rows = array.rows := by
  have hdrains := @exists_drains Nat String (ColumnBatch ν) _
    (arrowScan calls report ⟨schema, array, array.length⟩) ColumnBatch.length (fun _ => True)
    ColumnBatch.rows (fun offset => array.rows.drop offset) ColumnBatch.length_rows ?_ 0 trivial
  · exact hdrains
  · intro offset _
    by_cases hoffset : array.length ≤ offset
    · have hnil : array.rows.drop offset = [] := by simpa using hoffset
      exact ⟨.empty schema.length, offset, by simp [arrowScan, hoffset], fun _ => hnil,
        fun hpos => absurd rfl hpos⟩
    · rw [Nat.not_le] at hoffset
      refine ⟨array.slice offset (min calls.vectorSize (array.length - offset)),
        offset + min calls.vectorSize (array.length - offset), ?_, ?_, fun _ => ⟨trivial, ?_⟩⟩
      · rw [arrowScan, if_neg (Nat.not_le.2 hoffset), scanTable_of_supported hs hoffset]
        rfl
      · -- the vector size is positive, so the output is not empty before the end
        show min (min _ _) (array.length - offset) = 0 → _
        intro hzero
        omega
      · show _ = _ ++ array.rows.drop _
        rw [ColumnBatch.rows_slice, ← drop_drop, take_append_drop]

/-- What a table function emits is what its bind step kept. -/
theorem emits_iff (hV : 0 < calls.vectorSize) {report : String → String} {schema : List τ}
    (hs : Supported calls schema) {array : ColumnBatch ν} {rows : List (List (Option ν))} :
    Emits (arrowScan calls report) (.ok ⟨schema, array, array.length⟩) rows ↔
      array.rows = rows := by
  obtain ⟨outs, houts, hrows⟩ := @emits_bound_rows τ ν calls hV report schema hs array
  constructor
  · rintro ⟨bind, hbind, outs', houts', hrows'⟩
    cases hbind
    rw [← hrows, houts.unique houts', hrows']
  · intro h
    exact ⟨_, rfl, outs, houts, hrows.trans h⟩

/-! ### What is bound is the first batch -/

variable (s : IpcStream τ ν)

/-- The array the decoder returns for a stream. -/
def IpcStream.firstBatch : ColumnBatch ν :=
  s.batches.head?.getD (.empty s.fields.length)

theorem decodeIpcTablePayload_some :
    decodeIpcTablePayload (some s) = .ok (s.fields, s.firstBatch) := by
  obtain ⟨fields, batches, _⟩ := s
  cases batches with
  | nil => rfl
  | cons b rest => rfl

theorem IpcStream.firstBatch_fits :
    s.fields.length = s.firstBatch.columns.length := by
  unfold IpcStream.firstBatch
  cases hb : s.batches with
  | nil => exact (length_replicate).symm
  | cons b rest => exact (s.fits b (by simp [hb])).symm

theorem bindTable_of_supported {s : IpcStream τ ν} (hs : Supported calls s.fields)
    (invalid : String) :
    bindTable calls invalid s.fields s.firstBatch =
      .ok ⟨s.fields, s.firstBatch, s.firstBatch.length⟩ := by
  unfold bindTable
  rw [if_neg (not_not.2 s.firstBatch_fits)]
  show (s.fields.forM calls.logicalType >>= _) = _
  rw [forM_ok fun f hf => (hs f hf).1]
  rfl

/-- No row lies behind the first batch. -/
def IpcStream.EndsWithFirst : Prop := ∀ b ∈ s.batches.tail, b.length = 0

theorem IpcStream.firstBatch_rows_iff :
    s.firstBatch.rows = s.rows ↔ s.EndsWithFirst := by
  unfold IpcStream.firstBatch IpcStream.rows IpcStream.EndsWithFirst
  cases s.batches with
  | nil => simp [ColumnBatch.rows, ColumnBatch.empty]
  | cons b rest =>
    show b.rows = b.rows ++ rest.flatMap ColumnBatch.rows ↔ _
    rw [self_eq_append_right, flatMap_eq_nil_iff]
    refine forall₂_congr fun c _ => ?_
    rw [← length_eq_zero_iff, ColumnBatch.length_rows]

/-- Over a stream of supported columns, `fetch_query_table` and the body parser emit every
    row exactly when no row lies behind the first record batch. For a body that is read by a
    query the stream is the query's result, one batch per chunk. -/
theorem arrowTables_emit_iff (hV : 0 < calls.vectorSize) (s : IpcStream τ ν)
    (hs : Supported calls s.fields) :
    (∀ reply : FetchReply τ ν, reply.ok = true → reply.payload = some s →
      (Emits (fetchQueryTableScan calls) (fetchQueryTableResultSet calls reply) s.rows ↔
        s.EndsWithFirst)) ∧
    (∀ codec body, bodyStream calls codec body = .ok s →
      (Emits (bodyParseScan calls) (bodyParsePrepare calls codec body) s.rows ↔
        s.EndsWithFirst)) := by
  constructor
  · intro reply hok hpayload
    have hbind : fetchQueryTableResultSet calls reply =
        .ok ⟨s.fields, s.firstBatch, s.firstBatch.length⟩ := by
      simp only [fetchQueryTableResultSet, hok, hpayload, decodeIpcTablePayload_some]
      exact bindTable_of_supported hs _
    rw [hbind, fetchQueryTableScan, emits_iff hV hs, s.firstBatch_rows_iff]
  · intro codec body hstream
    have hbind : bodyParsePrepare calls codec body =
        .ok ⟨s.fields, s.firstBatch, s.firstBatch.length⟩ := by
      simp only [bodyParsePrepare, hstream, decodeIpcTablePayload_some]
      exact bindTable_of_supported hs _
    rw [hbind, bodyParseScan, emits_iff hV hs, s.firstBatch_rows_iff]

end

/-! ### Streams of numbers -/

/-- One column. -/
def oneColumn (ns : List Nat) : ColumnBatch Nat := ⟨ns.length, [ns], by simp⟩

/-- The stream of a query over one column, batch by batch. -/
def streamOf (batches : List (List Nat)) : IpcStream Unit Nat :=
  ⟨[()], batches.map oneColumn, by
    intro b hb
    obtain ⟨ns, _, rfl⟩ := mem_map.1 hb
    rfl⟩

/-- DuckDB and nanoarrow accept everything, and every body holds the stream. -/
def acceptingCalls (s : IpcStream Unit Nat) : TableCalls Unit Nat where
  vectorSize := 2048
  logicalType _ := .ok ()
  assignColumn _ _ := .ok ()
  ipcReader _ := .ok s
  validUtf8 _ := true
  queryJson _ _ := .ok ⟨s.fields, s.batches, s.fits⟩
  queryParquet _ := .ok ⟨s.fields, s.batches, s.fits⟩

theorem acceptingCalls_supported (s : IpcStream Unit Nat) :
    Supported (acceptingCalls s) s.fields :=
  fun _ _ => ⟨rfl, fun _ => rfl⟩

/-- A stream whose second batch is empty is emitted whole. -/
theorem arrowTables_emit_emptySecond :
    Emits (fetchQueryTableScan (acceptingCalls (streamOf [[7, 8], []])))
      (fetchQueryTableResultSet (acceptingCalls (streamOf [[7, 8], []]))
        ⟨true, none, some (streamOf [[7, 8], []])⟩) [[some 7], [some 8]] ∧
    Emits (bodyParseScan (acceptingCalls (streamOf [[7, 8], []])))
      (bodyParsePrepare (acceptingCalls (streamOf [[7, 8], []])) .parquet [0x50])
      [[some 7], [some 8]] := by
  have hends : (streamOf [[7, 8], []]).EndsWithFirst := by
    intro b hb
    rw [mem_singleton.1 hb]
    rfl
  obtain ⟨hfetch, hbody⟩ := @arrowTables_emit_iff Unit Nat (acceptingCalls (streamOf [[7, 8], []]))
    (by decide) (streamOf [[7, 8], []]) (acceptingCalls_supported _)
  exact ⟨(hfetch ⟨true, none, some _⟩ rfl rfl).2 hends, (hbody .parquet [0x50] rfl).2 hends⟩

/-- Of a stream of two batches of one row each the second row is lost, from a fetch reply, an
    Arrow body and a Parquet body alike. -/
theorem second_batch_is_lost :
    ¬ Emits (fetchQueryTableScan (acceptingCalls (streamOf [[7], [8]])))
      (fetchQueryTableResultSet (acceptingCalls (streamOf [[7], [8]]))
        ⟨true, none, some (streamOf [[7], [8]])⟩) (streamOf [[7], [8]]).rows ∧
    ¬ Emits (bodyParseScan (acceptingCalls (streamOf [[7], [8]])))
      (bodyParsePrepare (acceptingCalls (streamOf [[7], [8]])) .arrowIpc [0x41])
      (streamOf [[7], [8]]).rows ∧
    ¬ Emits (bodyParseScan (acceptingCalls (streamOf [[7], [8]])))
      (bodyParsePrepare (acceptingCalls (streamOf [[7], [8]])) .parquet [0x50])
      (streamOf [[7], [8]]).rows := by
  have hlost : (oneColumn [7]).rows ≠ (streamOf [[7], [8]]).rows := by decide
  have hV : 0 < (acceptingCalls (streamOf [[7], [8]])).vectorSize := by decide
  have hs := acceptingCalls_supported (streamOf [[7], [8]])
  refine ⟨?_, ?_, ?_⟩
  · exact fun h => hlost ((emits_iff hV hs).1 h)
  · exact fun h => hlost ((emits_iff hV hs).1 h)
  · exact fun h => hlost ((emits_iff hV hs).1 h)

end Ducknng.Arrow
