import Ducknng.Http.ClientStreamDecode
import Ducknng.Http.HeaderList
import Ducknng.Service.Authorizer
import Mathlib.Data.List.TakeWhile
import Mathlib.Tactic.IntervalCases

namespace Ducknng

open Option List Transducer

/-!
# Stream routes

A stream route answers with a chunked body: the response head, one chunk for each row of its
SQL, and the chunk of length zero that ends the body.

What the network, the memory and DuckDB do are inputs. A write that fails may have sent a part
of its bytes.

* `streamRows_spec` — what the row loop has written, and when it fails.
* `StreamServe.Complete` — a response that was ended is the response of a run that succeeded,
  with all the values in it.
* `streamComplete` — when that is so.
* `stream_received` — what the streaming client makes of the response.
* `failed_run_ended` — a run in which it is not.
-/

/-! ### Rows -/

/-- A write of some bytes: done, without memory for them, or failed behind so many of them. -/
inductive StreamWrite where
  | done
  | noMemory
  | failed (sent : Nat)
  deriving DecidableEq

/-- The column types that are told apart. -/
inductive StreamColumnType where
  | varchar | blob | other
  deriving DecidableEq

/-- A value of a column. DuckDB keeps the length of a string in 32 bits. -/
structure StreamValue where
  bytes : List UInt8
  fits : bytes.length < 2 ^ 32

/-- A row: its values, `none` for NULL; whether the value of the chunk column can be copied; and
    what becomes of the write of the chunk. -/
structure StreamRow where
  values : List (Option StreamValue)
  copied : Bool := true
  write : StreamWrite := .done

/-- A result of the SQL: names and types of its columns, and its rows in data chunks. -/
structure StreamResult where
  columns : List (String × StreamColumnType)
  chunks : List (List StreamRow)

/-- A run of the SQL of a route. -/
inductive StreamSql where
  | notEntered (error : SqlScopeError)
  | failed (detail : Option String)
  | result (result : StreamResult)

/-- The digits of `"%zx"`. -/
def hexDigits (n : Nat) : List UInt8 :=
  if n < 16 then [hexDigit (UInt8.ofNat n)]
  else hexDigits (n / 16) ++ [hexDigit (UInt8.ofNat (n % 16))]

/-- A chunk as `ducknng_http_stream_write_chunk` puts it together. -/
def chunkFrame (data : List UInt8) : List UInt8 := hexDigits data.length ++ crlf ++ data ++ crlf

/-- `"0\r\n\r\n"`. -/
def chunkTerminator : List UInt8 := [0x30] ++ crlf ++ crlf

/-- The bytes of a write that were sent. -/
def StreamWrite.sent (bytes : List UInt8) : StreamWrite → List UInt8
  | .done => bytes
  | .noMemory => []
  | .failed sent => bytes.take sent

/-- `ducknng_http_stream_write_chunk`: whether it succeeded, and the bytes sent. -/
def streamWriteChunk (data : List UInt8) (write : StreamWrite) (wire : List UInt8) :
    Bool × List UInt8 :=
  if data = [] then (true, wire)
  else (write = .done, wire ++ write.sent (chunkFrame data))

/-- `ducknng_result_column_index`. -/
def StreamResult.columnIndex (r : StreamResult) (name : String) : Option Nat :=
  r.columns.findIdx? fun col => asciiNameEqual col.1 name

variable (row : StreamRow)

variable (col : Nat)

/-- The value of a row in a column. -/
def StreamRow.value : Option StreamValue := (row.values[col]?).join

/-- What a row hands to the writer: a text up to its first NUL, a blob whole, nothing for NULL or
    when there is no memory for a copy. -/
def StreamRow.data (type : StreamColumnType) :
    Option (List UInt8) :=
  match row.value col with
  | none => none
  | some value =>
    if row.copied = false then none
    else if type = .varchar then some (value.bytes.takeWhile (· ≠ 0)) else some value.bytes

/-- The row loop, over the rows of a data chunk. -/
def streamRows (col : Nat) (type : StreamColumnType) :
    List StreamRow → List UInt8 → Bool × List UInt8
  | [], wire => (true, wire)
  | row :: rows, wire =>
    match row.data col type with
    | none => streamRows col type rows wire
    | some data =>
      match streamWriteChunk data row.write wire with
      | (true, wire) => streamRows col type rows wire
      | (false, wire) => (false, wire)

/-- The loop over the data chunks. -/
def streamChunks (col : Nat) (type : StreamColumnType) :
    List (List StreamRow) → List UInt8 → Bool × List UInt8
  | [], wire => (true, wire)
  | rows :: chunks, wire =>
    match streamRows col type rows wire with
    | (true, wire) => streamChunks col type chunks wire
    | (false, wire) => (false, wire)

/-- How a run ends. A failed write leaves no message. -/
inductive StreamCode where
  | ok
  | error (message : String)
  | writeError
  deriving DecidableEq

/-- `ducknng_service_execute_stream_route`: how it ends, and the bytes sent. -/
def executeStreamRoute (handlerSql : List UInt8) (sql : StreamSql) (wire : List UInt8) :
    StreamCode × List UInt8 :=
  if handlerSql = [] then (.error "ducknng: missing stream route SQL", wire)
  else match sql with
    | .notEntered error => (.error error.text, wire)
    | .failed detail =>
      (.error (match detail with
        | some detail => "ducknng: stream route handler error: " ++ detail
        | none => "ducknng: stream route handler error"), wire)
    | .result r =>
      match r.columnIndex "chunk" with
      -- without the column the rows are passed over
      | none => (.ok, wire)
      | some col =>
        match r.columns[col]? with
        | some (_, .other) =>
          (.error "ducknng: stream route chunk column must be VARCHAR or BLOB", wire)
        | some (_, type) =>
          let (ok, wire) := streamChunks col type r.chunks wire
          (if ok then .ok else .writeError, wire)
        | none => (.ok, wire)

/-! ### The response -/

/-- What a response is made from, and what happens to it. -/
structure StreamServe where
  contentType : List UInt8
  handlerSql : List UInt8
  sql : StreamSql
  hijacks : Bool := true
  allocates : Bool := true
  writesHead : Bool := true
  terminator : StreamWrite := .done

/-- What was sent behind the response head, how the run ended, and whether the last chunk was
    sent. -/
structure StreamServed where
  code : Option StreamCode
  body : List UInt8
  terminated : Bool

/-- `ducknng_http_serve_stream_route`. The default content type is valid. -/
def serveStreamRoute (w : StreamServe) : StreamServed :=
  if !w.hijacks || !w.allocates || !httpHeaderValueIsValid w.contentType || !w.writesHead then
    ⟨none, [], false⟩
  else
    let (code, body) := executeStreamRoute w.handlerSql w.sql []
    ⟨some code, body ++ w.terminator.sent chunkTerminator, w.terminator = .done⟩

/-- The bytes of the value of a row. -/
def StreamRow.valueBytes : List UInt8 :=
  ((row.value col).map (·.bytes)).getD []

/-- The values of the chunk column, in the order of the rows. -/
def StreamSql.chunkBytes : StreamSql → List UInt8
  | .result r =>
    match r.columnIndex "chunk" with
    | none => []
    | some col => r.chunks.flatten.flatMap fun row => row.valueBytes col
  | _ => []

/-- A response that was ended is that of a run that succeeded, and its body carries every value
    of the chunk column. -/
def StreamServe.Complete (w : StreamServe) : Prop :=
  (serveStreamRoute w).terminated = true →
    (serveStreamRoute w).code = some .ok ∧
      ∃ m : ChunkedMessage, m.bytes = (serveStreamRoute w).body ∧ m.body = w.sql.chunkBytes

/-! ### A written chunk is a chunk -/

variable {n : Nat}

theorem chunkDigit_hexDigit (hn : n < 16) :
    chunkDigit (hexDigit (UInt8.ofNat n)) = some n := by
  interval_cases n <;> rfl

theorem hexDigits_ne_nil (n : Nat) : hexDigits n ≠ [] := by
  unfold hexDigits
  split <;> simp

theorem hexDigits_isSome (n : Nat) : ∀ c ∈ hexDigits n, (chunkDigit c).isSome := by
  induction n using Nat.strongRecOn with
  | _ n ih =>
    intro c hc
    unfold hexDigits at hc
    split at hc
    · next hlt =>
      obtain rfl := mem_singleton.1 hc
      rw [chunkDigit_hexDigit hlt]
      rfl
    · rcases mem_append.1 hc with hc | hc
      · exact ih (n / 16) (by omega) c hc
      · obtain rfl := mem_singleton.1 hc
        rw [chunkDigit_hexDigit (Nat.mod_lt _ (by decide))]
        rfl

theorem digitsValue_hexDigits (n : Nat) : digitsValue (hexDigits n) = n := by
  induction n using Nat.strongRecOn with
  | _ n ih =>
    unfold hexDigits
    split
    · next hlt =>
      show pushDigit 0 (hexDigit (UInt8.ofNat n)) = n
      rw [pushDigit, chunkDigit_hexDigit hlt, getD_some, Nat.zero_add]
    · have hhigh := ih (n / 16) (by omega)
      unfold digitsValue at hhigh ⊢
      rw [foldl_append, hhigh]
      show pushDigit (n / 16) (hexDigit (UInt8.ofNat (n % 16))) = n
      rw [pushDigit, chunkDigit_hexDigit (Nat.mod_lt _ (by decide)), getD_some]
      omega

theorem hexDigits_length {k : Nat} (hn : n < 16 ^ (k + 1)) : (hexDigits n).length ≤ k + 1 := by
  induction k generalizing n with
  | zero =>
    unfold hexDigits
    rw [if_pos (by simpa using hn)]
    rfl
  | succ k ih =>
    unfold hexDigits
    split
    · exact Nat.succ_le_succ (Nat.zero_le _)
    · have hdiv : n / 16 < 16 ^ (k + 1) := by
        rw [Nat.div_lt_iff_lt_mul (by decide)]
        exact hn
      rw [length_append]
      exact Nat.succ_le_succ (ih hdiv)

theorem chunkDigit_lineByte {c : UInt8} (h : (chunkDigit c).isSome) : lineByte c = true := by
  have hrange : 0x30 ≤ c.toNat ∧ c.toNat ≤ 0x66 := by
    unfold chunkDigit at h
    split at h
    · next hdigit =>
      simp only [Bool.and_eq_true, decide_eq_true_eq] at hdigit
      exact ⟨hdigit.1, Nat.le_trans hdigit.2 (by decide)⟩
    split at h
    · next hlower =>
      simp only [Bool.and_eq_true, decide_eq_true_eq] at hlower
      exact ⟨Nat.le_trans (by decide) hlower.1, hlower.2⟩
    split at h
    · next hupper =>
      simp only [Bool.and_eq_true, decide_eq_true_eq] at hupper
      exact ⟨Nat.le_trans (by decide) hupper.1, Nat.le_trans hupper.2 (by decide)⟩
    · cases h
  have hctrl : ¬c < 0x20 := by
    exact Nat.not_lt.2 (Nat.le_trans (by decide) hrange.1)
  have hdel : c ≠ 0x7f := by
    rintro rfl
    exact absurd hrange.2 (by decide)
  simp [lineByte, hctrl, hdel]

/-- The line before a chunk that is written. -/
theorem sizeLine_hexDigits (hn : n < 2 ^ 32) : SizeLine (hexDigits n) n where
  bytes c hc := chunkDigit_lineByte (hexDigits_isSome n c hc)
  length_le := Nat.le_trans (hexDigits_length (k := 7) (by simpa using hn)) (by decide)
  digits := ⟨hexDigits n, [], (append_nil _).symm, hexDigits_ne_nil n, hexDigits_isSome n,
    nofun, digitsValue_hexDigits n⟩
  fits := Nat.lt_of_lt_of_le hn (by decide)

/-- Data that fits in a chunk. -/
structure ChunkData where
  bytes : List UInt8
  nonempty : bytes ≠ []
  fits : bytes.length < 2 ^ 32

/-- The chunk of some data. -/
def ChunkData.chunk (d : ChunkData) : Chunk where
  line := hexDigits d.bytes.length
  data := d.bytes
  size := sizeLine_hexDigits d.fits
  nonempty := d.nonempty

theorem ChunkData.chunk_bytes (d : ChunkData) : d.chunk.bytes = chunkFrame d.bytes := rfl

theorem sizeLine_zero : SizeLine (hexDigits 0) 0 := sizeLine_hexDigits (by decide)

/-- Chunks and the last one are a message. -/
def streamMessage (data : List ChunkData) : ChunkedMessage where
  chunks := data.map ChunkData.chunk
  last := hexDigits 0
  last_size := sizeLine_zero
  trailers := []
  trailer_lines := no_trailers

theorem streamMessage_bytes (data : List ChunkData) :
    (streamMessage data).bytes = data.flatMap (chunkFrame ·.bytes) ++ chunkTerminator := by
  have hlast : hexDigits 0 = [0x30] := by
    rw [hexDigits]
    rfl
  unfold ChunkedMessage.bytes streamMessage chunkTerminator
  simp [flatMap_map, ChunkData.chunk_bytes, hlast]

theorem streamMessage_body (data : List ChunkData) :
    (streamMessage data).body = data.flatMap (·.bytes) := by
  unfold ChunkedMessage.body streamMessage
  rw [flatMap_map]
  rfl

/-! ### The row loop -/

/-- The bytes of a row that are written. -/
def StreamRow.written (type : StreamColumnType) : List UInt8 :=
  (row.data col type).getD []

/-- The chunk of a row; there is none for nothing. -/
def rowFrame (data : List UInt8) : List UInt8 := if data = [] then [] else chunkFrame data

section
variable {col : Nat} {type : StreamColumnType} {row : StreamRow} {rows : List StreamRow}

theorem streamRows_cons (wire : List UInt8) :
    streamRows col type (row :: rows) wire =
      match streamWriteChunk (row.written col type) row.write wire with
      | (true, wire) => streamRows col type rows wire
      | (false, wire) => (false, wire) := by
  rw [streamRows, StreamRow.written]
  cases row.data col type with
  | none => rfl
  | some data => rfl

/-- **The row loop** succeeds when every chunk that it has to write is written, and then it has
    written the chunks of all rows. -/
theorem streamRows_spec {wire wire' : List UInt8} :
    streamRows col type rows wire = (true, wire') ↔
      (∀ row ∈ rows, row.written col type ≠ [] → row.write = .done) ∧
        wire' = wire ++ rows.flatMap fun row => rowFrame (row.written col type) := by
  induction rows generalizing wire with
  | nil =>
    simp only [streamRows, Prod.mk.injEq, true_and, not_mem_nil, false_imp_iff, implies_true,
      flatMap_nil, append_nil]
    exact eq_comm
  | cons row rows ih =>
    rw [streamRows_cons, flatMap_cons, forall_mem_cons]
    unfold streamWriteChunk rowFrame
    by_cases hnil : row.written col type = []
    · simp only [hnil, if_true, ih, ne_eq, not_true_eq_false, false_imp_iff, true_and]
      rfl
    · rw [if_neg hnil, if_neg hnil]
      by_cases hdone : row.write = .done
      · simp only [hdone, decide_true, ih, implies_true, true_and, append_assoc]
        rfl
      · simp [hnil, hdone]

theorem streamRows_append (rows rows' : List StreamRow) (wire : List UInt8) :
    streamRows col type (rows ++ rows') wire =
      match streamRows col type rows wire with
      | (true, wire) => streamRows col type rows' wire
      | (false, wire) => (false, wire) := by
  induction rows generalizing wire with
  | nil => rfl
  | cons row rows ih =>
    rw [cons_append, streamRows_cons, streamRows_cons]
    obtain ⟨ok, wire'⟩ := streamWriteChunk (row.written col type) row.write wire
    cases ok with
    | false => rfl
    | true => exact ih wire'

/-- The grouping of the rows does not matter. -/
theorem streamChunks_eq (chunks : List (List StreamRow)) (wire : List UInt8) :
    streamChunks col type chunks wire = streamRows col type chunks.flatten wire := by
  induction chunks generalizing wire with
  | nil => rfl
  | cons rows chunks ih =>
    rw [streamChunks, flatten_cons, streamRows_append]
    split
    · exact ih _
    · rfl

variable (row : StreamRow)

variable (col : Nat)

variable (type : StreamColumnType)

/-- What is written of a value is its beginning. -/
theorem StreamRow.written_prefix :
    row.written col type <+: row.valueBytes col := by
  unfold StreamRow.written StreamRow.data StreamRow.valueBytes
  cases row.value col with
  | none => exact nil_prefix
  | some value =>
    dsimp only [getD_some]
    split
    · exact nil_prefix
    split
    · exact takeWhile_prefix _
    · exact prefix_rfl

theorem StreamRow.written_length :
    (row.written col type).length < 2 ^ 32 := by
  refine Nat.lt_of_le_of_lt (row.written_prefix col type).length_le ?_
  unfold StreamRow.valueBytes
  cases row.value col with
  | none => exact (by decide : (0 : Nat) < 2 ^ 32)
  | some value => exact value.fits

/-- The rows that are written, as a message. -/
theorem exists_streamMessage (rows : List StreamRow) (col : Nat) (type : StreamColumnType) :
    ∃ m : ChunkedMessage,
      m.bytes = (rows.flatMap fun row => rowFrame (row.written col type)) ++ chunkTerminator ∧
        m.body = rows.flatMap fun row => row.written col type := by
  suffices h : ∃ data : List ChunkData,
      (rows.flatMap fun row => rowFrame (row.written col type)) =
        data.flatMap (chunkFrame ·.bytes) ∧
      (rows.flatMap fun row => row.written col type) = data.flatMap (·.bytes) by
    obtain ⟨data, hframes, hbytes⟩ := h
    exact ⟨streamMessage data, by rw [streamMessage_bytes, hframes],
      by rw [streamMessage_body, hbytes]⟩
  induction rows with
  | nil => exact ⟨[], rfl, rfl⟩
  | cons row rows ih =>
    obtain ⟨data, hframes, hbytes⟩ := ih
    rw [flatMap_cons, flatMap_cons, hframes, hbytes]
    by_cases hnil : row.written col type = []
    · exact ⟨data, by rw [rowFrame, if_pos hnil, nil_append], by rw [hnil, nil_append]⟩
    · refine ⟨⟨row.written col type, hnil, row.written_length col type⟩ :: data, ?_, ?_⟩
      · rw [rowFrame, if_neg hnil, flatMap_cons]
      · rw [flatMap_cons]

/-- Beginnings of values put together are the values put together only if each is the whole. -/
theorem flatMap_written_eq (rows : List StreamRow) (col : Nat) (type : StreamColumnType) :
    (rows.flatMap fun row => row.written col type) =
        (rows.flatMap fun row => row.valueBytes col) ↔
      ∀ row ∈ rows, row.written col type = row.valueBytes col := by
  constructor
  · intro heq
    induction rows with
    | nil => exact forall_mem_nil _
    | cons row rows ih =>
      rw [flatMap_cons, flatMap_cons] at heq
      have hlength : ∀ rows : List StreamRow,
          (rows.flatMap fun row => row.written col type).length ≤
            (rows.flatMap fun row => row.valueBytes col).length := by
        intro rows
        rw [length_flatMap, length_flatMap]
        exact sum_le_sum fun row _ => (row.written_prefix col type).length_le
      have hrow : row.written col type = row.valueBytes col := by
        have htotal := congrArg length heq
        rw [length_append, length_append] at htotal
        have hrest := hlength rows
        exact (row.written_prefix col type).eq_of_length_le (by omega)
      rw [hrow] at heq
      exact forall_mem_cons.2 ⟨hrow, ih (append_cancel_left heq)⟩
  · intro h
    exact flatMap_congr h

/-- A row whose value comes out whole: it is copied, has no NUL if it is a text, and its chunk is
    written. A row without a value, or with an empty one, has nothing to write. -/
def StreamRow.Delivered : Prop :=
  ∀ value, row.value col = some value → value.bytes ≠ [] →
    row.copied = true ∧ (type = .varchar → 0 ∉ value.bytes) ∧ row.write = .done

theorem takeWhile_ne_zero {bytes : List UInt8} :
    bytes.takeWhile (· ≠ 0) = bytes ↔ (0 : UInt8) ∉ bytes := by
  rw [takeWhile_eq_self_iff]
  simp only [decide_not, Bool.not_eq_true', decide_eq_false_iff_not]
  exact ⟨fun h hmem => h 0 hmem rfl, fun h c hc hzero => h (hzero ▸ hc)⟩

theorem StreamRow.delivered_iff :
    row.Delivered col type ↔ row.written col type = row.valueBytes col ∧
      (row.written col type ≠ [] → row.write = .done) := by
  unfold StreamRow.Delivered StreamRow.written StreamRow.data StreamRow.valueBytes
  cases row.value col with
  | none => simp
  | some value =>
    dsimp only [map_some]
    by_cases hnil : value.bytes = []
    · -- an empty value is delivered without a write
      cases row.copied <;> simp [hnil]
    by_cases hcopied : row.copied = true
    · by_cases htext : type = .varchar
      · simp only [hcopied, htext, Bool.true_eq_false, if_false, if_true, getD_some,
          takeWhile_ne_zero]
        constructor
        · intro h
          obtain ⟨-, hnul, hdone⟩ := h value rfl hnil
          exact ⟨hnul trivial, fun _ => hdone⟩
        · rintro ⟨hnul, hdone⟩ value' heq -
          obtain rfl := some.inj heq
          refine ⟨trivial, fun _ => hnul, hdone ?_⟩
          rwa [takeWhile_ne_zero.2 hnul]
      · simp [hcopied, htext]
    · simp only [hcopied]
      constructor
      · intro h
        exact absurd (h value rfl hnil).1 Bool.false_ne_true
      · rintro ⟨heq, -⟩
        exact absurd heq.symm hnil

end

/-! ### Complete responses -/

/-- The response goes as far as its last chunk. -/
structure StreamServe.Ends (w : StreamServe) : Prop where
  hijacks : w.hijacks = true
  allocates : w.allocates = true
  contentType : httpHeaderValueIsValid w.contentType = true
  writesHead : w.writesHead = true
  terminator : w.terminator = .done

/-- The SQL succeeds, its chunk column is of a type that can be sent, and every row is
    delivered. -/
def StreamSql.Delivers : StreamSql → Prop
  | .result r => ∀ col, r.columnIndex "chunk" = some col →
      ∀ name type, r.columns[col]? = some (name, type) →
        type ≠ .other ∧ ∀ row ∈ r.chunks.flatten, row.Delivered col type
  | _ => False

theorem StreamServe.terminated_iff (w : StreamServe) :
    (serveStreamRoute w).terminated = true ↔ w.Ends := by
  unfold serveStreamRoute
  split
  · next hstop =>
    constructor
    · intro h
      cases h
    · rintro ⟨h₁, h₂, h₃, h₄, -⟩
      simp [h₁, h₂, h₃, h₄] at hstop
  · next hgo =>
    simp only [Bool.or_eq_true, Bool.not_eq_true', not_or, Bool.not_eq_false] at hgo
    obtain ⟨⟨⟨h₁, h₂⟩, h₃⟩, h₄⟩ := hgo
    exact ⟨fun h => ⟨h₁, h₂, h₃, h₄, of_decide_eq_true h⟩, fun h => decide_eq_true h.terminator⟩

theorem StreamServe.Ends.served {w : StreamServe} (h : w.Ends) :
    serveStreamRoute w = ⟨some (executeStreamRoute w.handlerSql w.sql []).1,
      (executeStreamRoute w.handlerSql w.sql []).2 ++ chunkTerminator, true⟩ := by
  unfold serveStreamRoute
  rw [h.hijacks, h.allocates, h.contentType, h.writesHead, h.terminator]
  rfl

theorem StreamResult.column_of_index (r : StreamResult) {col : Nat}
    (h : r.columnIndex "chunk" = some col) : ∃ c, r.columns[col]? = some c := by
  have hlt := (findIdx?_eq_some_iff_findIdx_eq.1 h).1
  exact ⟨_, getElem?_eq_getElem hlt⟩

/-- A run that succeeds, and what it has written. -/
theorem executeStreamRoute_spec (handlerSql : List UInt8) (r : StreamResult) {body : List UInt8} :
    executeStreamRoute handlerSql (.result r) [] = (.ok, body) ↔ handlerSql ≠ [] ∧
      (r.columnIndex "chunk" = none ∧ body = [] ∨
        ∃ col name type, r.columnIndex "chunk" = some col ∧ r.columns[col]? = some (name, type) ∧
          type ≠ .other ∧
          (∀ row ∈ r.chunks.flatten, row.written col type ≠ [] → row.write = .done) ∧
          body = r.chunks.flatten.flatMap fun row => rowFrame (row.written col type)) := by
  unfold executeStreamRoute
  by_cases hsql : handlerSql = []
  · simp [hsql]
  rw [if_neg hsql]
  dsimp only
  cases hindex : r.columnIndex "chunk" with
  | none =>
    simp only [Prod.mk.injEq, true_and, reduceCtorEq, false_and, exists_false, or_false]
    exact ⟨fun h => ⟨hsql, h.symm⟩, fun h => h.2.symm⟩
  | some col =>
    obtain ⟨⟨name, type⟩, hcolumn⟩ := r.column_of_index hindex
    dsimp only
    rw [hcolumn]
    -- both column types write by the same loop
    have hrows : ∀ type : StreamColumnType, ((if (streamChunks col type r.chunks []).1 then
          StreamCode.ok else .writeError, (streamChunks col type r.chunks []).2) = (.ok, body) ↔
        (∀ row ∈ r.chunks.flatten, row.written col type ≠ [] → row.write = .done) ∧
          body = r.chunks.flatten.flatMap fun row => rowFrame (row.written col type)) := by
      intro type
      rw [streamChunks_eq, ← nil_append (flatMap _ _), ← streamRows_spec]
      generalize streamRows col type r.chunks.flatten [] = out
      obtain ⟨ok, wire⟩ := out
      cases ok <;> simp
    constructor
    · intro h
      refine ⟨hsql, .inr ⟨col, name, type, rfl, hcolumn, ?_⟩⟩
      cases type with
      | other => cases h
      | varchar => exact ⟨by decide, (hrows .varchar).1 h⟩
      | blob => exact ⟨by decide, (hrows .blob).1 h⟩
    · rintro ⟨-, ⟨hnone, -⟩ | ⟨col', name', type', hcol, hcolumn', htype, hdone⟩⟩
      · cases hnone
      obtain rfl := some.inj hcol
      obtain ⟨rfl, rfl⟩ := Prod.mk.inj (some.inj (hcolumn.symm.trans hcolumn'))
      cases type with
      | other => exact absurd rfl htype
      | varchar => exact (hrows .varchar).2 hdone
      | blob => exact (hrows .blob).2 hdone

/-- Messages with the same bytes carry the same body. -/
theorem ChunkedMessage.body_unique {m m' : ChunkedMessage} (h : m.bytes = m'.bytes) :
    m.body = m'.body := by
  have hread := reads_message m
  rw [h] at hread
  exact (hread.unique (reads_message m')).1

/-- A response of a result, ended. -/
theorem StreamResult.complete_iff (handlerSql : List UInt8) (r : StreamResult) :
    ((executeStreamRoute handlerSql (.result r) []).1 = .ok ∧
      ∃ m : ChunkedMessage,
        m.bytes = (executeStreamRoute handlerSql (.result r) []).2 ++ chunkTerminator ∧
          m.body = (StreamSql.result r).chunkBytes) ↔
      handlerSql ≠ [] ∧ (StreamSql.result r).Delivers := by
  constructor
  · rcases hexec : executeStreamRoute handlerSql (.result r) [] with ⟨code, body⟩
    rintro ⟨rfl, m, hbytes, hbody⟩
    obtain ⟨hsql, hrun⟩ := (executeStreamRoute_spec handlerSql r).1 hexec
    refine ⟨hsql, fun col hcol name type hcolumn => ?_⟩
    rcases hrun with ⟨hnone, -⟩ | ⟨col', name', type', hcol', hcolumn', htype, hdone, hframes⟩
    · exact absurd (hnone.symm.trans hcol) (by simp)
    obtain rfl := some.inj (hcol'.symm.trans hcol)
    obtain ⟨rfl, rfl⟩ := Prod.mk.inj (some.inj (hcolumn'.symm.trans hcolumn))
    obtain ⟨m', hbytes', hbody'⟩ := exists_streamMessage r.chunks.flatten col' type'
    -- the body on the wire is what was written, so that is all of the values
    have hwhole : (r.chunks.flatten.flatMap fun row => row.written col' type') =
        r.chunks.flatten.flatMap fun row => row.valueBytes col' := by
      have hsame : m'.body = m.body :=
        ChunkedMessage.body_unique (by rw [hbytes', hbytes, hframes])
      rw [← hbody', hsame, hbody, StreamSql.chunkBytes, hcol]
    refine ⟨htype, fun row hrow => (row.delivered_iff col' type').2 ⟨?_, hdone row hrow⟩⟩
    exact (flatMap_written_eq _ col' type').1 hwhole row hrow
  · rintro ⟨hsql, hdelivers⟩
    cases hindex : r.columnIndex "chunk" with
    | none =>
      have hrun := (executeStreamRoute_spec handlerSql r).2 ⟨hsql, .inl ⟨hindex, rfl⟩⟩
      rw [hrun, StreamSql.chunkBytes, hindex]
      exact ⟨rfl, streamMessage [], streamMessage_bytes [], streamMessage_body []⟩
    | some col =>
      obtain ⟨⟨name, type⟩, hcolumn⟩ := r.column_of_index hindex
      obtain ⟨htype, hrows⟩ := hdelivers col hindex name type hcolumn
      have hdone := fun row hrow => ((StreamRow.delivered_iff row col type).1 (hrows row hrow)).2
      have hrun := (executeStreamRoute_spec handlerSql r).2
        ⟨hsql, .inr ⟨col, name, type, hindex, hcolumn, htype, hdone, rfl⟩⟩
      rw [hrun, StreamSql.chunkBytes, hindex]
      obtain ⟨m, hbytes, hbody⟩ := exists_streamMessage r.chunks.flatten col type
      refine ⟨rfl, m, hbytes, ?_⟩
      rw [hbody]
      exact (flatMap_written_eq _ col type).2 fun row hrow =>
        ((row.delivered_iff col type).1 (hrows row hrow)).1

/-- **A stream response that is ended is complete** just when the SQL succeeds, its chunk column
    is of a type that can be sent, and every value that is not empty is copied, has no NUL if it
    is a text, and is written: the last chunk is sent in any case. -/
theorem streamComplete (w : StreamServe) :
    w.Complete ↔ (w.Ends → w.handlerSql ≠ [] ∧ w.sql.Delivers) := by
  unfold StreamServe.Complete
  rw [w.terminated_iff]
  refine imp_congr_right fun hends => ?_
  rw [hends.served]
  rw [some.injEq]
  cases hsql : w.sql with
  | result r => exact StreamResult.complete_iff w.handlerSql r
  | notEntered error =>
    have herror : (executeStreamRoute w.handlerSql (.notEntered error) []).1 ≠ .ok := by
      unfold executeStreamRoute
      split <;> simp
    exact ⟨fun h => absurd h.1 herror, fun h => h.2.elim⟩
  | failed detail =>
    have herror : (executeStreamRoute w.handlerSql (.failed detail) []).1 ≠ .ok := by
      unfold executeStreamRoute
      split <;> simp
    exact ⟨fun h => absurd h.1 herror, fun h => h.2.elim⟩

/-- **From the rows to the client.** What a stream route delivers is received, however its
    response is cut into raw reads and whatever the capacities of the receives: no receive fails,
    and with more receives than bytes the end comes, behind all the values of the chunk column. -/
theorem stream_received {w : StreamServe} (hends : w.Ends) (hsql : w.handlerSql ≠ [])
    (hdelivers : w.sql.Delivers) {net : RawConnection}
    (hwire : net.bytes = (serveStreamRoute w).body) (hnet : net.Ok) {caps : List Nat}
    (hcaps : ∀ cap ∈ caps, 0 < cap ∧ cap ≤ maxRecvBytes) :
    ∃ replies, ClientStream.openChunked.receives net caps = some replies ∧
      (∀ r ∈ replies, ∀ e, r.1 ≠ .error e) ∧ deliveredBy replies <+: w.sql.chunkBytes ∧
      (w.sql.chunkBytes.length < caps.length →
        (∃ r ∈ replies, r.1 = .endOfFile) ∧ deliveredBy replies = w.sql.chunkBytes) := by
  cases hr : w.sql with
  | notEntered error => rw [hr] at hdelivers; exact hdelivers.elim
  | failed detail => rw [hr] at hdelivers; exact hdelivers.elim
  | result r =>
    obtain ⟨-, m, hbytes, hbody⟩ :=
      (StreamResult.complete_iff w.handlerSql r).2 ⟨hsql, hr ▸ hdelivers⟩
    rw [hends.served, hr, ← hbytes] at hwire
    rw [← hbody]
    exact receives_message hwire hnet hcaps

/-- A row of a result with one column. -/
def blobRow (value : Option StreamValue) : StreamRow := ⟨[value], true, .done⟩

/-- A route whose SQL returns the blobs `ab` and `c` in two chunks, and a null between them. -/
def blobRoute : StreamServe :=
  ⟨[], [0x53], .result ⟨[("chunk", .blob)],
    [[blobRow (some ⟨[0x61, 0x62], by decide⟩), blobRow none],
      [blobRow (some ⟨[0x63], by decide⟩)]]⟩, true, true, true, .done⟩

/-- Its response, cut inside a line. -/
def blobWire : RawConnection :=
  ⟨[[0x32, 0x0d], [0x0a, 0x61, 0x62, 0x0d, 0x0a, 0x31, 0x0d, 0x0a, 0x63],
    [0x0d, 0x0a, 0x30, 0x0d, 0x0a, 0x0d, 0x0a]], .closed⟩

theorem stream_received_blobs :
    ∃ replies, ClientStream.openChunked.receives blobWire [4, 4, 4, 4] = some replies ∧
      deliveredBy replies = [0x61, 0x62, 0x63] := by
  have hwire : blobWire.bytes = (serveStreamRoute blobRoute).body := by
    show _ = hexDigits 2 ++ crlf ++ [0x61, 0x62] ++ crlf ++
      (hexDigits 1 ++ crlf ++ [0x63] ++ crlf) ++ chunkTerminator
    rw [hexDigits.eq_1 2, hexDigits.eq_1 1]
    rfl
  have hdelivers : blobRoute.sql.Delivers := by
    intro col hcol name type hcolumn
    obtain rfl : 0 = col := some.inj hcol
    cases hcolumn
    refine ⟨by decide, fun row hrow => ?_⟩
    obtain ⟨value, rfl⟩ : ∃ value, row = blobRow value := by
      rcases mem_cons.1 hrow with rfl | hrow
      · exact ⟨_, rfl⟩
      rcases mem_cons.1 hrow with rfl | hrow
      · exact ⟨_, rfl⟩
      exact ⟨_, mem_singleton.1 hrow⟩
    exact fun _ _ _ => ⟨rfl, fun h => (by cases h), rfl⟩
  obtain ⟨replies, hreplies, -, -, hall⟩ := stream_received ⟨rfl, rfl, rfl, rfl, rfl⟩
    (by decide) hdelivers hwire (by unfold RawConnection.Ok; decide)
    (by decide : ∀ cap ∈ [4, 4, 4, 4], 0 < cap ∧ cap ≤ maxRecvBytes)
  exact ⟨replies, hreplies, (hall (by decide)).2⟩

/-- **A failed run is ended.** The SQL fails, and the client sees a whole response with an empty
    body. -/
theorem failed_run_ended :
    serveStreamRoute ⟨[], [0x53], .failed none, true, true, true, .done⟩ =
      ⟨some (.error "ducknng: stream route handler error"), chunkTerminator, true⟩ := rfl

end Ducknng
