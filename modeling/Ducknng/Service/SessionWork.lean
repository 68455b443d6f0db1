import Ducknng.Checked

namespace Ducknng

/-!
# What happens under a session's mutex

A session is a query, whose result is fetched batch after batch, or an upload, whose batches
go into an appender inside a transaction. The sections that handlers run under the mutex of
one session are functions of its state and of what DuckDB and the allocator answer. A result
is the list of chunks it still has; what a chunk is does not matter here.

* `SessionWork` — the state of a session that these sections read and write.
* `fetchSection`, `uploadAppendSection`, `uploadCommitSection`, `cancelSection` — the sections.
-/

/-- The state of a session behind its mutex. -/
structure SessionWork (χ : Type) where
  lastTouchMs : Nat
  cancelled : Bool
  eos : Bool
  pendingOpen : Bool
  pendingReady : Bool
  resultOpen : Bool
  /-- The chunks the result still has. -/
  remaining : List χ
  batchNo : Nat
  rowSchemaSent : Bool
  fetchBatchChunks : Nat
  /-- Whether rows are sent as Quack batches, and not as an Arrow stream. -/
  quackRows : Bool
  appenderOpen : Bool
  txnOpen : Bool
  /-- The chunks the appender has. -/
  appended : List χ
  uploadRows : Nat
  deriving DecidableEq

section
variable {χ : Type}

/-- The work of a session that `ducknng_service_add_session_streaming` registers. -/
def SessionWork.query (nowMs : Nat) (result : List χ) (fetchBatchChunks : Nat) (quackRows : Bool) :
    SessionWork χ :=
  ⟨nowMs, false, false, true, false, false, result, 0, false, fetchBatchChunks, quackRows, false,
    false, [], 0⟩

/-- `DUCKNNG_DEFAULT_FETCH_BATCH_CHUNKS`, which every new session has. -/
def defaultFetchBatchChunks : Nat := 12

/-- The work of a session that `ducknng_service_add_upload_session` registers. -/
def SessionWork.upload (nowMs : Nat) : SessionWork χ :=
  ⟨nowMs, false, false, false, false, false, [], 0, false, defaultFetchBatchChunks, false, true,
    true, [], 0⟩

/-! ### Fetching -/

/-- What is answered while a batch is fetched. -/
structure FetchWorld where
  nowMs : Nat
  /-- Whether the pending execution becomes ready. -/
  pendingReady : Bool
  /-- `duckdb_execute_pending`. -/
  execute : Except String Unit
  /-- The length of the encoded batch, or how many chunks had been taken from the result when
      the encoding failed. -/
  encode : Except (Nat × String) Nat
  /-- Whether the result handle can be copied. -/
  handleCopied : Bool
  /-- The length of the encoded empty batch. -/
  encodeEmpty : Except String Nat
  deriving DecidableEq

/-- How the section of a fetch ends. -/
inductive FetchAnswer (χ : Type) where
  | cancelled
  | sqlError (message : String)
  | failed (message : String)
  | rows (chunks : List χ) (payloadLen : Nat)
  | emptyRows (payloadLen : Nat)
  | exhausted (batchIndex : Nat)
  deriving DecidableEq

variable (w : SessionWork χ)

/-- The first fetch drives the pending execution to its result. -/
def SessionWork.drive (world : FetchWorld) :
    Except String (SessionWork χ) :=
  if !w.pendingReady && w.pendingOpen then
    if !world.pendingReady then .error "ducknng: fetch execution failed"
    else match world.execute with
      | .error detail =>
        .error (if detail = "" then "ducknng: fetch failed to obtain streaming result" else detail)
      | .ok () => .ok { w with resultOpen := true, pendingReady := true, pendingOpen := false }
  else .ok w

/-- The chunks of one batch: `ducknng_result_next_chunks_to_ipc` and
    `ducknng_result_next_chunks_to_quack_message` take at least one. -/
def SessionWork.batchSize : Nat :=
  if w.fetchBatchChunks = 0 then 1 else w.fetchBatchChunks

/-- The part of the section behind the driven execution. -/
def SessionWork.nextBatch (world : FetchWorld) :
    FetchAnswer χ × SessionWork χ :=
  if !w.resultOpen then (.failed "ducknng: fetch failed to encode row batch", w)
  else match world.encode with
    | .error (taken, message) =>
      (.failed message, { w with remaining := w.remaining.drop (min taken w.batchSize) })
    | .ok payloadLen =>
      if w.remaining ≠ [] then
        (.rows (w.remaining.take w.batchSize) payloadLen,
          { w with
            remaining := w.remaining.drop w.batchSize
            batchNo := w.batchNo + 1
            rowSchemaSent := true })
      else if !world.handleCopied then
        (.failed "ducknng: out of memory copying result handle", w)
      else if w.batchNo = 0 then
        match world.encodeEmpty with
        | .error message => (.failed message, w)
        | .ok emptyLen => (.emptyRows emptyLen, { w with eos := true })
      else (.exhausted w.batchNo, { w with eos := true })

/-- What the next batch leaves as it is. -/
theorem SessionWork.nextBatch_frame (world : FetchWorld) :
    ∃ remaining batchNo rowSchemaSent eos, (w.nextBatch world).2 =
      { w with
        remaining := remaining
        batchNo := batchNo
        rowSchemaSent := rowSchemaSent
        eos := eos } := by
  unfold SessionWork.nextBatch
  repeat' split
  all_goals exact ⟨_, _, _, _, rfl⟩

/-- The locked section of `ducknng_method_fetch_handler`. -/
def fetchSection (world : FetchWorld) : FetchAnswer χ × SessionWork χ :=
  let w := { w with lastTouchMs := world.nowMs }
  if w.cancelled then (.cancelled, w)
  else match w.drive world with
    | .error message => (.sqlError message, w)
    | .ok w => w.nextBatch world

/-- The locked section of `ducknng_method_cancel_handler`. -/
def cancelSection : SessionWork χ := { w with cancelled := true }

/-! ### Uploading -/

/-- What `ducknng_quack_payload_append_to_appender` did with a payload: the chunks the
    appender took, the rows it counted, and whether it succeeded. -/
structure AppendResult (χ : Type) where
  chunks : List χ
  rows : Nat
  outcome : Except String Unit
  deriving DecidableEq

/-- The locked section of `ducknng_method_upload_append_handler`: the rows so far, or the
    status and text of the refusal. `isUpload` never changes. -/
def uploadAppendSection (isUpload : Bool) (append : List UInt8 → AppendResult χ)
    (payload : List UInt8) (nowMs : Nat) (w : SessionWork χ) :
    Except (Bool × String) Nat × SessionWork χ :=
  let w := { w with lastTouchMs := nowMs }
  if !isUpload || !w.appenderOpen then
    (.error (false, "ducknng: session is not an open upload session"), w)
  else
    let result := append payload
    let w := { w with
      appended := w.appended ++ result.chunks
      uploadRows := w.uploadRows + result.rows }
    match result.outcome with
    | .error message => (.error (true, message), w)
    | .ok () => (.ok w.uploadRows, w)

/-- What the appender and the connection answer to a commit. -/
structure CommitWorld where
  flush : Except String Unit
  close : Except String Unit
  commit : Except String Unit
  deriving DecidableEq

/-- The appender is flushed and closed; either way it is gone afterwards. -/
def SessionWork.closeAppender (world : CommitWorld) :
    Except String Unit × SessionWork χ :=
  if !w.appenderOpen then (.ok (), w)
  else (world.flush.bind fun _ => world.close, { w with appenderOpen := false })

/-- The locked section of `ducknng_method_upload_commit_handler`: the number of committed
    rows. A failed `COMMIT` is rolled back at once, a failed appender at teardown. -/
def uploadCommitSection (world : CommitWorld) :
    Except String Nat × SessionWork χ :=
  let rows := w.uploadRows
  match w.closeAppender world with
  | (.error message, w) => (.error message, w)
  | (.ok (), w) =>
    if !w.txnOpen then (.ok rows, w)
    else match world.commit with
      | .error message => (.error message, { w with txnOpen := false })
      | .ok () => (.ok rows, { w with txnOpen := false })

/-- What `ducknng_session_destroy` does behind its wait: the result, the pending execution and
    the appender are gone, and an open transaction is rolled back. -/
def SessionWork.teardown : SessionWork χ :=
  { w with resultOpen := false, pendingOpen := false, appenderOpen := false, txnOpen := false }

end

end Ducknng
