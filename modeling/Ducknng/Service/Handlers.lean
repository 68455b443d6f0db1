import Ducknng.Lib.Prog
import Ducknng.Rpc.Control
import Ducknng.Service.Sessions

namespace Ducknng

/-!
# The handlers of a service as programs

Handlers run on any number of threads. What a handler does between two sections under a mutex
is its own business, so a handler is a program over the sections: `ServiceOp` has one action
for each of them and for each call into DuckDB, and `serviceMachine` says what an action does
to the state that all threads share.

* `ServiceState`, `ServiceOp`, `serviceMachine` — the shared state and the actions on it.
* `enterRequestSql`, `leaveRequestSql`, `destroySession`, `pruneIdleSessions` — the parts.
* `queryOpenHandler`, `fetchHandler`, `closeHandler`, `cancelHandler`, `uploadOpenHandler`,
  `uploadAppendHandler`, `uploadCommitHandler`, `uploadAbortHandler` — the handlers.
* `stopService`, `destroyService`, `setExecutionModel` — the service as a whole.
* `serve` — what a call runs.
-/

/-! ### Shared state -/

/-- The connection pool of the runtime: one flag for each connection there is. -/
structure ExecutionPool where
  busy : List Bool
  max : Nat
  deriving DecidableEq, Repr

/-- One scan of `ducknng_service_acquire_execution_connection`: a free connection, a new one, or
    an end of the wait. Without any of these the caller goes on waiting. -/
def ExecutionPool.acquire (pool : ExecutionPool) (connect timedOut : Bool) :
    Option (Except String Nat × ExecutionPool) :=
  match pool.busy.findIdx? fun b => !b with
  | some slot => some (.ok slot, { pool with busy := pool.busy.set slot true })
  | none =>
    if pool.busy.length < pool.max ∧ connect then
      some (.ok pool.busy.length, { pool with busy := pool.busy ++ [true] })
    else if timedOut then
      some (.error "ducknng: DuckDB execution connection pool exhausted", pool)
    else none

/-- The locked section of `ducknng_service_release_execution_connection`. -/
def ExecutionPool.markFree (pool : ExecutionPool) (slot : Nat) : ExecutionPool :=
  if slot < pool.busy.length then { pool with busy := pool.busy.set slot false } else pool

/-- The execution models of a service. -/
inductive ExecutionModel where
  | sharedSerialized
  | serviceSerialized
  | request
  deriving DecidableEq, Repr

/-- What the threads of a service share. A lane is a mutex, held by a thread; the lane of the
    service keeps a connection once it has got one. -/
structure ServiceState (χ : Type) where
  store : SessionStore χ
  pool : ExecutionPool
  model : ExecutionModel
  runtimeLane : Option Nat
  serviceLane : Option Nat
  laneSlot : Option Nat

/-- A service with an empty table and a pool of free connections. -/
def ServiceState.init {χ : Type} (store : SessionStore χ) (connections poolMax : Nat)
    (model : ExecutionModel) : ServiceState χ :=
  ⟨store, ⟨List.replicate connections false, poolMax⟩, model, none, none, none⟩

/-! ### Actions -/

/-- A connection that SQL runs on. -/
inductive Connection where
  | runtime
  | pooled (slot : Nat)
  deriving DecidableEq, Repr

/-- What is asked of DuckDB on a connection. -/
inductive SqlCall where
  | statement
  | extract
  | prepareLeading (i : Nat)
  | executeLeading (i : Nat)
  | prepareLast
  | bindParameters
  | pending
  | beginTransaction
  | createAppender
  | columnNames
  | rollback
  | reset
  deriving DecidableEq, Repr

/-- The actions of a handler, by what they answer. -/
inductive ServiceOp (χ : Type) : Type → Type where
  | acquireConnection : ServiceOp χ (Except String Nat)
  | markFree (slot : Nat) : ServiceOp χ Unit
  | setPoolMax (max : Nat) : ServiceOp χ Unit
  | sql (con : Connection) (call : SqlCall) : ServiceOp χ (Except String Nat)
  | executionModel : ServiceOp χ ExecutionModel
  | lockRuntimeLane : ServiceOp χ Unit
  | unlockRuntimeLane : ServiceOp χ Unit
  | runtimeConnection : ServiceOp χ Bool
  | lockServiceLane : ServiceOp χ Unit
  | unlockServiceLane : ServiceOp χ Unit
  | laneConnection : ServiceOp χ (Option Nat)
  | pinLane (slot : Nat) : ServiceOp χ Unit
  | setExecutionModel (model : ExecutionModel) : ServiceOp χ (Except String (Option Nat))
  | takeLane : ServiceOp χ (Option Nat)
  | now : ServiceOp χ Nat
  | addSession (new : NewSession χ) : ServiceOp χ (Except (Int × String) AddedSession)
  | acquireSession (sessionId : Nat) (token identity : Option CStr) : ServiceOp χ Lookup
  | removeSession (sessionId : Nat) (token identity : Option CStr) : ServiceOp χ Lookup
  | pruneIdle (nowMs i : Nat) : ServiceOp χ (Option (Nat × Nat))
  | shutDown : ServiceOp χ Unit
  | detachAll : ServiceOp χ (List Nat)
  | isUpload (addr : Nat) : ServiceOp χ Bool
  | batchNo (addr : Nat) : ServiceOp χ Nat
  | resultHandle (addr : Nat) : ServiceOp χ (Option CStr)
  | fetch (addr : Nat) : ServiceOp χ (FetchAnswer χ × CStr)
  | append (addr : Nat) (batch : List UInt8) : ServiceOp χ (Except (Bool × String) Nat)
  | commit (addr : Nat) : ServiceOp χ (Except String Nat)
  | cancel (addr : Nat) : ServiceOp χ Unit
  | release (addr : Nat) : ServiceOp χ Unit
  | beginDestroy (addr : Nat) : ServiceOp χ Unit
  | awaitUnused (addr : Nat) : ServiceOp χ Unit
  | teardown (addr : Nat) : ServiceOp χ (Option Nat)
  | reply : ServiceOp χ Bool

/-- What DuckDB, the clock, the allocator and the other requests answer to an action. -/
structure ServiceWorld (χ : Type) where
  nowMs : Nat
  connect : Bool
  timedOut : Bool
  runtimeConnection : Bool
  sql : Except String Nat
  requestsInFlight : Bool
  add : AddWorld
  fetch : FetchWorld
  append : List UInt8 → AppendResult χ
  commit : CommitWorld
  copied : Bool
  replied : Bool

section
variable {χ : Type}

/-- A section under the mutex of one session. -/
def ServiceState.onSession {α : Type} (st : ServiceState χ) (addr : Nat)
    (body : Session χ → α × Session χ) : Option (α × ServiceState χ) :=
  match st.store.heap[addr]? with
  | none => none
  | some s => some ((body s).1,
      { st with store := st.store.modify addr fun s => (body s).2 })

/-- What a section on the work of a session does to the session. -/
def Session.onWork {α : Type} (s : Session χ) (r : α × SessionWork χ) : α × Session χ :=
  (r.1, { s with work := r.2 })

/-- `ducknng_session_release`. -/
def Session.release (s : Session χ) : Session χ := { s with refcount := s.refcount - 1 }

/-- What an action of a thread does. `ducknng_session_destroy` waits until nobody refers to the
    session; then nobody else can see it, so that its pool index can be taken out of it. A
    service is destroyed when its workers have been joined, so that nobody has its lane. -/
def serviceExec (thread : Nat) (st : ServiceState χ) (world : ServiceWorld χ) :
    {α : Type} → ServiceOp χ α → Option (α × ServiceState χ)
  | _, .acquireConnection =>
    (st.pool.acquire world.connect world.timedOut).map fun (answer, pool) =>
      (answer, { st with pool := pool })
  | _, .markFree slot => some ((), { st with pool := st.pool.markFree slot })
  | _, .setPoolMax max => some ((), { st with pool := { st.pool with max := max } })
  | _, .sql _ _ => some (world.sql, st)
  | _, .executionModel => some (st.model, st)
  | _, .lockRuntimeLane =>
    if st.runtimeLane = none then some ((), { st with runtimeLane := some thread }) else none
  | _, .unlockRuntimeLane => some ((), { st with runtimeLane := none })
  | _, .runtimeConnection => some (world.runtimeConnection, st)
  | _, .lockServiceLane =>
    if st.serviceLane = none then some ((), { st with serviceLane := some thread }) else none
  | _, .unlockServiceLane => some ((), { st with serviceLane := none })
  | _, .laneConnection => some (st.laneSlot, st)
  | _, .pinLane slot => some ((), { st with laneSlot := some slot })
  | _, .setExecutionModel model =>
    if world.requestsInFlight ∨ st.store.sessionCount > 0 then
      some (.error
        "ducknng: execution model cannot change while requests or sessions are active", st)
    else if st.model = model then some (.ok none, st)
    else if st.serviceLane = none then
      some (.ok st.laneSlot, { st with model := model, laneSlot := none })
    else none
  | _, .takeLane =>
    if st.serviceLane = none then some (st.laneSlot, { st with laneSlot := none }) else none
  | _, .now => some (world.nowMs, st)
  | _, .addSession new =>
    let (answer, store) := addSession st.store new world.add
    some (answer, { st with store := store })
  | _, .acquireSession sessionId token identity =>
    let (answer, store) := acquireSession st.store sessionId token identity
    some (answer, { st with store := store })
  | _, .removeSession sessionId token identity =>
    let (answer, store) := removeSession st.store sessionId token identity
    some (answer, { st with store := store })
  | _, .pruneIdle nowMs i =>
    let (answer, store) := pruneIdle st.store nowMs i
    some (answer, { st with store := store })
  | _, .shutDown => some ((), { st with store := { st.store with shuttingDown := true } })
  | _, .detachAll =>
    let (addrs, store) := detachAll st.store
    some (addrs, { st with store := store })
  | _, .isUpload addr => st.onSession addr fun s => (s.isUpload, s)
  | _, .batchNo addr => st.onSession addr fun s => (s.work.batchNo, s)
  | _, .resultHandle addr =>
    st.onSession addr fun s => (if world.copied then some s.resultHandle else none, s)
  | _, .fetch addr => st.onSession addr fun s =>
    let (answer, work) := fetchSection s.work world.fetch
    ((answer, s.resultHandle), { s with work := work })
  | _, .append addr batch => st.onSession addr fun s =>
    s.onWork (uploadAppendSection s.isUpload world.append batch world.nowMs s.work)
  | _, .commit addr => st.onSession addr fun s =>
    s.onWork (uploadCommitSection s.work world.commit)
  | _, .cancel addr => st.onSession addr fun s => s.onWork ((), cancelSection s.work)
  | _, .release addr => st.onSession addr fun s => ((), s.release)
  | _, .beginDestroy addr => st.onSession addr fun s => ((), s.markClosing)
  | _, .awaitUnused addr =>
    if (st.store.heap[addr]?.map fun s => s.refcount) = some 0 then
      st.onSession addr fun s => ((), { s with torn := s.torn + 1 })
    else none
  | _, .teardown addr => st.onSession addr fun s =>
    (s.poolIndex, { s with poolIndex := none, work := s.work.teardown })
  | _, .reply => some (world.replied, st)

/-- The machine that the programs of a service run on. -/
def serviceMachine : Machine (ServiceState χ) (ServiceWorld χ) (ServiceOp χ) where
  exec thread st op world := serviceExec thread st world op

end

/-! ### Replies -/

/-- `ducknng_session_reply_view`. -/
structure SessionReplyView where
  sessionId : Nat
  sessionToken : Option CStr := none
  state : String
  nextMethod : Option String := none
  idleTimeoutMs : Option Nat := none
  resultHandle : Option CStr := none
  batchIndex : Option Nat := none
  protocolVersion : Option Nat := none
  rowSchemaVersion : Option Nat := none
  fetchBatchChunks : Option Nat := none
  serializationMode : Option String := none
  correlationId : Option CStr := none
  deriving DecidableEq

/-- What a handler puts into its reply. -/
inductive HandlerReply (χ : Type) where
  | error (status : Status) (message : String)
  | state (flags : UInt32) (view : SessionReplyView)
  | rows (endOfStream : Bool) (chunks : List χ) (payloadLen : Nat)
  | counted (flags : UInt32) (state : String) (rows : Option Nat)
  | done
  deriving DecidableEq

/-- `DUCKNNG_RPC_FLAG_END_OF_STREAM`. -/
def flagEndOfStream : UInt32 := 16

/-- `DUCKNNG_RPC_FLAG_SESSION_OPEN`. -/
def flagSessionOpen : UInt32 := 32

/-- `DUCKNNG_RPC_FLAG_SESSION_CLOSED`. -/
def flagSessionClosed : UInt32 := 64

/-- `DUCKNNG_RPC_FLAG_CANCELLED`. -/
def flagCancelled : UInt32 := 128

/-- An error text, or the one that stands for an empty one. -/
def orDefault (detail fallback : String) : String := if detail = "" then fallback else detail

/-- The reply to a lookup that found nothing. -/
def lookupRefusal {χ : Type} (missing : String) : Lookup → HandlerReply χ
  | .unauthorized .identityMismatch =>
    .error .unauthorized "ducknng: session owner identity mismatch"
  | .unauthorized _ => .error .unauthorized "ducknng: session owner token mismatch"
  | _ => .error .notFound missing

/-! ### Parts of handlers -/

section
variable {χ : Type}

open Prog (perform)

/-- A program of a service. -/
abbrev ServiceProg (χ ρ : Type) := Prog (ServiceOp χ) ρ

/-- `ducknng_service_release_execution_connection`, and
    `ducknng_service_release_session_connection`, which unbinds the subject before. -/
def releaseExecutionConnection (slot : Nat) : ServiceProg χ Unit := do
  let _ ← perform (.sql (.pooled slot) .reset)
  perform (.markFree slot)

/-- A connection that may have to be released. -/
def releaseIfHeld : Option Nat → ServiceProg χ Unit
  | none => pure ()
  | some slot => releaseExecutionConnection slot

/-- `ducknng_session_destroy`. -/
def destroySession (addr : Nat) : ServiceProg χ Unit := do
  perform (.beginDestroy addr)
  perform (.awaitUnused addr)
  let slot ← perform (.teardown addr)
  releaseIfHeld slot

/-- The loop of a stop over the sessions it detached. -/
def destroySessions : List Nat → ServiceProg χ Unit
  | [] => pure ()
  | addr :: addrs => do
    destroySession addr
    destroySessions addrs

/-- `ducknng_service_prune_idle_sessions`. The loop ends when a round finds nothing; other
    threads may give it work as long as they like, so that every bound has its runs. -/
def pruneIdleSessions (nowMs : Nat) : Nat → Nat → ServiceProg χ Unit
  | 0, _ => pure ()
  | rounds + 1, i => do
    match ← perform (.pruneIdle nowMs i) with
    | none => pure ()
    | some (addr, next) =>
      destroySession addr
      pruneIdleSessions nowMs rounds next

/-- `ducknng_service_sql_scope`. -/
structure SqlScope where
  con : Connection
  poolIndex : Option Nat
  lockedService : Bool
  lockedRuntime : Bool

/-- `ducknng_service_leave_request_sql`. -/
def leaveRequestSql (scope : SqlScope) : ServiceProg χ Unit := do
  releaseIfHeld scope.poolIndex
  if scope.lockedService then perform .unlockServiceLane
  if scope.lockedRuntime then perform .unlockRuntimeLane

/-- `ducknng_service_enter_request_sql`. -/
def enterRequestSql : ServiceProg χ (Except String SqlScope) := do
  match ← perform .executionModel with
  | .sharedSerialized =>
    perform .lockRuntimeLane
    let scope : SqlScope := ⟨.runtime, none, false, true⟩
    if ← perform .runtimeConnection then pure (.ok scope)
    else
      leaveRequestSql scope
      pure (.error "ducknng: missing DuckDB execution connection")
  | .serviceSerialized =>
    perform .lockServiceLane
    match ← perform .laneConnection with
    | some slot => pure (.ok ⟨.pooled slot, none, true, false⟩)
    | none =>
      match ← perform .acquireConnection with
      | .error message =>
        perform .unlockServiceLane
        pure (.error message)
      | .ok slot =>
        perform (.pinLane slot)
        pure (.ok ⟨.pooled slot, none, true, false⟩)
  | .request =>
    match ← perform .acquireConnection with
    | .error message => pure (.error message)
    | .ok slot => pure (.ok ⟨.pooled slot, some slot, false, false⟩)

/-- SQL on a connection, statement by statement until one fails. -/
def runSql (con : Connection) : Nat → ServiceProg χ (Except String Unit)
  | 0 => pure (.ok ())
  | n + 1 => do
    match ← perform (.sql con .statement) with
    | .error message => pure (.error message)
    | .ok _ => runSql con n

/-- The request SQL of the exec, prepare and SQL-method handlers, of authorizers, HTTP routes
    and HTTP workers: whatever happens in between, the scope is left. -/
def requestSql (statements : Nat) : ServiceProg χ (HandlerReply χ) := do
  match ← enterRequestSql with
  | .error message => pure (.error .internal message)
  | .ok scope =>
    let answer ← runSql scope.con statements
    leaveRequestSql scope
    match answer with
    | .error message => pure (.error .sqlError message)
    | .ok () => pure .done

/-- `ducknng_session_check_kind`: `none` when the session is of the family. -/
def checkKind (sessionId : Nat) (token identity : Option CStr) (requireUpload : Bool) :
    ServiceProg χ (Option (HandlerReply χ)) := do
  match ← perform (.acquireSession sessionId token identity) with
  | .found addr =>
    let isUpload ← perform (.isUpload addr)
    perform (.release addr)
    if requireUpload && !isUpload then
      pure (some (.error .invalid "ducknng: session is not an upload session"))
    else if !requireUpload && isUpload then
      pure (some (.error .invalid
        "ducknng: session is an upload session; use the upload_* methods"))
    else pure none
  | lookup => pure (some (lookupRefusal "ducknng: session not found" lookup))

end

/-! ### Opening sessions -/

/-- What `ducknng_decode_query_open_payload` reads, and the chunks the query will have. -/
structure QueryOpenRequest (χ : Type) where
  serializationMode : Option CStr
  batchRows : Nat
  parameterCount : Nat
  correlationId : Option CStr
  result : List χ

/-- `arrow_ipc_stream`. -/
def arrowIpcStream : List UInt8 :=
  [0x61, 0x72, 0x72, 0x6f, 0x77, 0x5f, 0x69, 0x70, 0x63, 0x5f, 0x73, 0x74, 0x72, 0x65, 0x61, 0x6d]

/-- `ducknng_quack_batch`. -/
def ducknngQuackBatch : List UInt8 :=
  [0x64, 0x75, 0x63, 0x6b, 0x6e, 0x6e, 0x67, 0x5f, 0x71, 0x75, 0x61, 0x63, 0x6b, 0x5f, 0x62, 0x61,
    0x74, 0x63, 0x68]

/-- `ducknng_parse_row_payload_format`: whether rows are sent as Quack batches. -/
def parseRowPayloadFormat (value : Option CStr) : Option Bool :=
  match CStr.present value with
  | none => some false
  | some value =>
    if value.bytes = arrowIpcStream then some false
    else if value.bytes = ducknngQuackBatch then some true
    else none

/-- The chunks of a batch, from the rows that were asked for. -/
def fetchBatchChunksOf (vectorRows batchRows : Nat) : Nat :=
  if batchRows > 0 then
    let chunks := (batchRows + vectorRows - 1) % 2 ^ 64 / vectorRows
    if chunks = 0 then defaultFetchBatchChunks else min chunks 256
  else defaultFetchBatchChunks

section
variable {χ : Type}

open Prog (perform)

/-- All statements but the last are executed at once. -/
def runLeading (slot : Nat) : Nat → Nat → ServiceProg χ (Except (Status × String) Unit)
  | 0, _ => pure (.ok ())
  | n + 1, i => do
    match ← perform (.sql (.pooled slot) (.prepareLeading i)) with
    | .error detail => pure (.error (.sqlError,
        orDefault detail "ducknng: query_open: failed to prepare leading statement"))
    | .ok _ =>
      match ← perform (.sql (.pooled slot) (.executeLeading i)) with
      | .error detail => pure (.error (.sqlError,
          orDefault detail "ducknng: query_open: failed to execute leading statement"))
      | .ok _ => runLeading slot n (i + 1)

/-- The last statement is prepared and its execution started. -/
def startLast (slot : Nat) : ServiceProg χ (Except (Status × String) Unit) := do
  match ← perform (.sql (.pooled slot) .prepareLast) with
  | .error detail => pure (.error (.sqlError,
      orDefault detail "ducknng: query_open prepare failed"))
  | .ok _ =>
    match ← perform (.sql (.pooled slot) .bindParameters) with
    | .error detail => pure (.error (.invalid, detail))
    | .ok _ =>
      match ← perform (.sql (.pooled slot) .pending) with
      | .error _ => pure (.error (.sqlError,
          "ducknng: query_open failed to start streaming execution"))
      | .ok _ => pure (.ok ())

/-- From the SQL text to the pending execution of its last statement. -/
def prepareQuery (slot parameterCount : Nat) : ServiceProg χ (Except (Status × String) Unit) := do
  match ← perform (.sql (.pooled slot) .extract) with
  | .error detail => pure (.error (.sqlError,
      orDefault detail "ducknng: query_open: empty or invalid SQL"))
  | .ok statements =>
    if statements = 0 then
      pure (.error (.sqlError, "ducknng: query_open failed to extract statements"))
    else if parameterCount > 0 ∧ statements ≠ 1 then
      pure (.error (.invalid,
        "ducknng: parameterized query_open requires exactly one SQL statement"))
    else
      match ← runLeading slot (statements - 1) 0 with
      | .error e => pure (.error e)
      | .ok () => startLast slot

/-- The reply of an open; without memory for it the session is removed again. -/
def openReply (added : AddedSession) (identity : Option CStr) (view : SessionReplyView)
    (failure : String) : ServiceProg χ (HandlerReply χ) := do
  if ← perform .reply then pure (.state flagSessionOpen view)
  else
    match ← perform (.removeSession added.sessionId (some added.ownerToken) identity) with
    | .found addr =>
      destroySession addr
      pure (.error .internal failure)
    | _ => pure (.error .internal failure)

/-- `ducknng_method_query_open_handler`. -/
def queryOpenHandler (vectorRows idleMs : Nat) (identity : Option CStr)
    (decoded : Except String (QueryOpenRequest χ)) : ServiceProg χ (HandlerReply χ) := do
  match decoded with
  | .error message => pure (.error .invalid message)
  | .ok request =>
    match parseRowPayloadFormat request.serializationMode with
    | none => pure (.error .invalid
        "ducknng: unsupported serialization_mode in query_open request")
    | some quackRows =>
      let batchChunks := fetchBatchChunksOf vectorRows request.batchRows
      match ← perform .acquireConnection with
      | .error message => pure (.error .internal message)
      | .ok slot =>
        match ← prepareQuery slot request.parameterCount with
        | .error (status, message) =>
          releaseExecutionConnection slot
          pure (.error status message)
        | .ok () =>
          let nowMs ← perform .now
          match ← perform (.addSession ⟨identity, false, some slot,
              .query nowMs request.result batchChunks quackRows⟩) with
          | .error (code, message) =>
            releaseExecutionConnection slot
            pure (.error (if code > 0 then .busy else .internal) message)
          | .ok added =>
            openReply added identity
              { sessionId := added.sessionId
                sessionToken := some added.ownerToken
                state := "open"
                nextMethod := some "fetch"
                idleTimeoutMs := some idleMs
                resultHandle := some added.resultHandle
                protocolVersion := some 1
                rowSchemaVersion := some 1
                fetchBatchChunks := some batchChunks
                serializationMode :=
                  some (if quackRows then "ducknng_quack_batch" else "arrow_ipc_stream")
                correlationId := request.correlationId }
              "ducknng: failed to build query_open reply"

/-- The transaction and the appender of an upload; an error says whether the transaction has
    begun. -/
def prepareUpload (slot : Nat) : ServiceProg χ (Except (Bool × String) Unit) := do
  match ← perform (.sql (.pooled slot) .beginTransaction) with
  | .error message => pure (.error (false, message))
  | .ok _ =>
    match ← perform (.sql (.pooled slot) .createAppender) with
    | .error message => pure (.error (true, orDefault message
        "ducknng: upload_open could not open an appender on the target table"))
    | .ok _ =>
      match ← perform (.sql (.pooled slot) .columnNames) with
      | .error message => pure (.error (true, message))
      | .ok _ => pure (.ok ())

/-- The label `fail` of `ducknng_method_upload_open_handler` while the connection is its own. -/
def failUpload (slot : Nat) (txnOpen : Bool) : ServiceProg χ Unit := do
  if txnOpen then
    let _ ← perform (.sql (.pooled slot) .rollback)
    releaseExecutionConnection slot
  else releaseExecutionConnection slot

/-- `ducknng_method_upload_open_handler` behind its argument checks, whose answer is the
    correlation id. -/
def uploadOpenHandler (idleMs : Nat) (identity : Option CStr)
    (decoded : Except (Status × String) (Option CStr)) : ServiceProg χ (HandlerReply χ) := do
  match decoded with
  | .error (status, message) => pure (.error status message)
  | .ok correlationId =>
    match ← perform .acquireConnection with
    | .error message => pure (.error .internal message)
    | .ok slot =>
      match ← prepareUpload slot with
      | .error (txnOpen, message) =>
        failUpload slot txnOpen
        pure (.error .sqlError message)
      | .ok () =>
        let nowMs ← perform .now
        match ← perform (.addSession ⟨identity, true, some slot, .upload nowMs⟩) with
        | .error (code, message) =>
          failUpload slot true
          pure (.error (if code > 0 then .busy else .internal) message)
        | .ok added =>
          openReply added identity
            { sessionId := added.sessionId
              sessionToken := some added.ownerToken
              state := "open"
              nextMethod := some "upload_append"
              idleTimeoutMs := some idleMs
              correlationId := correlationId }
            "ducknng: failed to build upload_open reply"

end

/-! ### Controls -/

section
variable {χ : Type}

open Prog (perform)

variable (identity : Option CStr)

/-- `ducknng_method_fetch_handler`. -/
def fetchHandler (decoded : Except (Status × String) SessionControlRequest) :
    ServiceProg χ (HandlerReply χ) := do
  match decoded with
  | .error (status, message) => pure (.error status message)
  | .ok control =>
    match ← perform (.acquireSession control.sessionId (some control.sessionToken) identity) with
    | .found addr =>
      if ← perform (.isUpload addr) then
        perform (.release addr)
        pure (.error .invalid "ducknng: session is an upload session; use the upload_* methods")
      else
        let (answer, handle) ← perform (.fetch addr)
        perform (.release addr)
        match answer with
        | .cancelled => pure (.error .cancelled "ducknng: session was cancelled")
        | .sqlError message => pure (.error .sqlError message)
        | .failed message => pure (.error .internal message)
        | .rows chunks payloadLen => pure (.rows false chunks payloadLen)
        | .emptyRows payloadLen => pure (.rows true [] payloadLen)
        | .exhausted batchIndex =>
          if ← perform .reply then
            pure (.state flagEndOfStream
              { sessionId := control.sessionId
                state := "exhausted"
                resultHandle := some handle
                batchIndex := some batchIndex
                correlationId := control.correlationId })
          else pure (.error .internal "ducknng: failed to build fetch control reply")
    | lookup => pure (lookupRefusal "ducknng: session not found" lookup)

/-- What the controls that end a session have in common: the family of the session is checked
    before it is removed, and what then happens to it is up to the control. -/
def endSession (requireUpload : Bool) (missing : String) (identity : Option CStr)
    (control : SessionControlRequest) (finish : Nat → ServiceProg χ (HandlerReply χ)) :
    ServiceProg χ (HandlerReply χ) := do
  match ← checkKind control.sessionId (some control.sessionToken) identity requireUpload with
  | some refusal => pure refusal
  | none =>
    match ← perform (.removeSession control.sessionId (some control.sessionToken) identity) with
    | .found addr => finish addr
    | lookup => pure (lookupRefusal missing lookup)

/-- The last reply of a session, or the error when there is no memory for it. -/
def replyOr (reply : HandlerReply χ) (failure : String) : ServiceProg χ (HandlerReply χ) := do
  if ← perform .reply then pure reply else pure (.error .internal failure)

/-- `ducknng_method_close_handler`. -/
def closeHandler (decoded : Except (Status × String) SessionControlRequest) :
    ServiceProg χ (HandlerReply χ) := do
  match decoded with
  | .error (status, message) => pure (.error status message)
  | .ok control =>
    endSession false "ducknng: session not found" identity control fun addr => do
      let batchIndex ← perform (.batchNo addr)
      let handle ← perform (.resultHandle addr)
      destroySession addr
      replyOr (.state flagSessionClosed
        { sessionId := control.sessionId
          state := "closed"
          resultHandle := handle
          batchIndex := some batchIndex
          correlationId := control.correlationId })
        "ducknng: failed to build close control reply"

/-- `ducknng_method_cancel_handler`. -/
def cancelHandler (decoded : Except (Status × String) SessionControlRequest) :
    ServiceProg χ (HandlerReply χ) := do
  match decoded with
  | .error (status, message) => pure (.error status message)
  | .ok control =>
    endSession false "ducknng: session not found" identity control fun addr => do
      let batchIndex ← perform (.batchNo addr)
      let handle ← perform (.resultHandle addr)
      perform (.cancel addr)
      destroySession addr
      replyOr (.state (flagCancelled ||| flagSessionClosed)
        { sessionId := control.sessionId
          state := "cancelled"
          resultHandle := handle
          batchIndex := some batchIndex
          correlationId := control.correlationId })
        "ducknng: failed to build cancel control reply"

/-- `ducknng_method_upload_append_handler`. -/
def uploadAppendHandler (decoded : Except (Status × String) UploadAppendRequest) :
    ServiceProg χ (HandlerReply χ) := do
  match decoded with
  | .error (status, message) => pure (.error status message)
  | .ok request =>
    match ← perform (.acquireSession request.sessionId (some request.sessionToken) identity) with
    | .found addr =>
      let answer ← perform (.append addr request.batch)
      perform (.release addr)
      match answer with
      | .error (false, message) => pure (.error .invalid message)
      | .error (true, message) => pure (.error .sqlError message)
      | .ok rows =>
        replyOr (.counted 0 "open" (some rows)) "ducknng: failed to build upload_append reply"
    | lookup => pure (lookupRefusal "ducknng: upload session not found" lookup)

/-- `ducknng_method_upload_commit_handler`. -/
def uploadCommitHandler
    (decoded : Except (Status × String) SessionControlRequest) :
    ServiceProg χ (HandlerReply χ) := do
  match decoded with
  | .error (status, message) => pure (.error status message)
  | .ok control =>
    endSession true "ducknng: upload session not found" identity control fun addr => do
      if ← perform (.isUpload addr) then
        let answer ← perform (.commit addr)
        destroySession addr
        match answer with
        | .error message => pure (.error .sqlError message)
        | .ok rows =>
          replyOr (.counted flagSessionClosed "committed" (some rows))
            "ducknng: failed to build upload_commit reply"
      else
        destroySession addr
        pure (.error .invalid "ducknng: session is not an upload session")

/-- `ducknng_method_upload_abort_handler`. -/
def uploadAbortHandler
    (decoded : Except (Status × String) SessionControlRequest) :
    ServiceProg χ (HandlerReply χ) := do
  match decoded with
  | .error (status, message) => pure (.error status message)
  | .ok control =>
    endSession true "ducknng: upload session not found" identity control fun addr => do
      destroySession addr
      replyOr (.counted flagSessionClosed "aborted" none)
        "ducknng: failed to build upload_abort reply"

/-! ### The service -/

/-- `ducknng_service_stop`. -/
def stopService : ServiceProg χ Unit := do
  perform .shutDown
  let addrs ← perform .detachAll
  destroySessions addrs

/-- `ducknng_service_destroy`. -/
def destroyService : ServiceProg χ Unit := do
  stopService
  let addrs ← perform .detachAll
  destroySessions addrs
  let slot ← perform .takeLane
  releaseIfHeld slot

/-- `ducknng_service_set_execution_model`. -/
def setExecutionModel (model : ExecutionModel) : ServiceProg χ (HandlerReply χ) := do
  match ← perform (.setExecutionModel model) with
  | .error message => pure (.error .invalid message)
  | .ok slot =>
    releaseIfHeld slot
    pure .done

end

/-- The controls that name their session in a JSON payload. -/
inductive ControlMethod where
  | fetch
  | close
  | cancel
  | uploadCommit
  | uploadAbort
  deriving DecidableEq, Repr

/-- The name of a control. -/
def ControlMethod.name : ControlMethod → String
  | .fetch => "fetch"
  | .close => "close"
  | .cancel => "cancel"
  | .uploadCommit => "upload_commit"
  | .uploadAbort => "upload_abort"

/-- What a thread of a service is started for. -/
inductive ServiceRequest (χ : Type) where
  | sql (statements : Nat)
  | worker (statements : Nat)
  | queryOpen (decoded : Except String (QueryOpenRequest χ))
  | uploadOpen (decoded : Except (Status × String) (Option CStr))
  | control (method : ControlMethod) (alloc : ControlAlloc) (payload : List UInt8)
  | uploadAppend (alloc : Bool) (payload : List UInt8)
  | stop
  | destroy
  | setExecutionModel (model : ExecutionModel)
  | setPoolMax (max : Nat)

/-- A request with its caller, and the rounds its prune may take. -/
structure ServiceCall (χ : Type) where
  request : ServiceRequest χ
  identity : Option CStr
  pruneRounds : Nat

section
variable {χ : Type}

open Prog (perform)

/-- The handler of a control. -/
def ControlMethod.handler (method : ControlMethod) (identity : Option CStr)
    (decoded : Except (Status × String) SessionControlRequest) :
    ServiceProg χ (HandlerReply χ) :=
  match method with
  | .fetch => fetchHandler identity decoded
  | .close => closeHandler identity decoded
  | .cancel => cancelHandler identity decoded
  | .uploadCommit => uploadCommitHandler identity decoded
  | .uploadAbort => uploadAbortHandler identity decoded

/-- The dispatcher prunes before it looks at the request. -/
def dispatched (call : ServiceCall χ) (handler : ServiceProg χ (HandlerReply χ)) :
    ServiceProg χ (HandlerReply χ) := do
  let nowMs ← perform .now
  pruneIdleSessions nowMs call.pruneRounds 0
  handler

/-- What a call runs. -/
def serve (vectorRows idleMs : Nat) (call : ServiceCall χ) : ServiceProg χ (HandlerReply χ) :=
  match call.request with
  | .sql statements => dispatched call (requestSql statements)
  | .worker statements => requestSql statements
  | .queryOpen decoded => dispatched call (queryOpenHandler vectorRows idleMs call.identity decoded)
  | .uploadOpen decoded => dispatched call (uploadOpenHandler idleMs call.identity decoded)
  | .control method alloc payload =>
    dispatched call (method.handler call.identity
      (parseSessionControlRequest method.name alloc payload))
  | .uploadAppend alloc payload =>
    dispatched call (uploadAppendHandler call.identity (parseUploadAppend alloc payload))
  | .stop => do
    stopService
    pure .done
  | .destroy => do
    destroyService
    pure .done
  | .setExecutionModel model => setExecutionModel model
  | .setPoolMax max => do
    perform (.setPoolMax max)
    pure .done

end

end Ducknng
