import Ducknng.Json.Strings
import Ducknng.Rpc.Dispatch

namespace Ducknng

open Option

/-!
# SQL-defined methods

A SQL method runs the statements of its handler in one transaction and answers with the
first value of the last one. The statements are opaque: each is given by how DuckDB answers
when it is prepared, bound and executed, and by the changes it makes.

* `sqlMethodRun_spec` — a run commits everything or nothing.
* `atomic_iff` — when the frame that is sent says which of the two it was.
-/

/-! ### Connections -/

/-- A connection as far as transactions go: the changes of the open one, if one is open, and
    the changes that are committed. -/
structure SqlConnection (ε : Type) where
  transaction : Option (List ε)
  committed : List ε

section Connection
variable {ε : Type} (conn : SqlConnection ε)

/-- `BEGIN TRANSACTION`, if DuckDB answers so; never inside a transaction. -/
def SqlConnection.begin (answer : Except (Option String) Unit) :
    Except (Option String) (SqlConnection ε) :=
  match conn.transaction, answer with
  | some _, _ => .error (some "cannot start a transaction within a transaction")
  | none, .error e => .error e
  | none, .ok () => .ok { conn with transaction := some [] }

/-- A statement that makes some changes. -/
def SqlConnection.change (changes : List ε) : SqlConnection ε :=
  match conn.transaction with
  | some pending => { conn with transaction := some (pending ++ changes) }
  | none => { conn with committed := conn.committed ++ changes }

/-- `COMMIT`: a commit that fails leaves nothing behind. -/
def SqlConnection.commit (answer : Except (Option String) Unit) :
    SqlConnection ε × Except (Option String) Unit :=
  match answer with
  | .error e => ({ conn with transaction := none }, .error e)
  | .ok () => ({ transaction := none, committed := conn.committed ++ conn.transaction.getD [] },
      .ok ())

/-- `ROLLBACK`. -/
def SqlConnection.rollback : SqlConnection ε := { conn with transaction := none }

end Connection

/-! ### The method -/

/-- What the method reads of a DuckDB result: its kind, the columns, the type of the first
    and, if there is a row, the value in it. -/
structure SqlResult where
  isQuery : Bool
  columnCount : Nat
  isVarchar : Bool
  isJson : Bool
  firstValue : Option (Option (List UInt8))

/-- The zeroed result before the first statement. -/
def SqlResult.zero : SqlResult := ⟨false, 0, false, false, none⟩

/-- How DuckDB answers for one statement: the number of its parameters, whether the payload
    can be bound, and the changes and the result of its execution. -/
structure SqlStatement (ε : Type) where
  prepare : Except (Option String) Nat
  bind : Bool
  execute : Except (Option String) (List ε × SqlResult)

/-- Everything a call of the method depends on. -/
structure SqlMethodCalls (ε : Type) where
  payloadCopied : Bool
  payloadValid : Bool
  enterSql : Except (Option String) Unit
  statements : List (SqlStatement ε)
  extractError : Option String
  begin : Except (Option String) Unit
  commit : Except (Option String) Unit
  encodeAlloc : Bool

/-- `ducknng_sql_error_message`. -/
def sqlErrorMessage (message : String) (detail : Option String) : String :=
  match detail with
  | some text => if text = "" then message else message ++ ": " ++ text
  | none => message

section Run
variable {ε : Type}

/-- The loop of `ducknng_sql_method_run`. -/
def runStatements : List (SqlStatement ε) → SqlConnection ε → SqlResult →
    SqlConnection ε × Except String SqlResult
  | [], conn, last => (conn, .ok last)
  | stmt :: stmts, conn, _ =>
    match stmt.prepare with
    | .error e => (conn, .error (sqlErrorMessage
        "ducknng: SQL method statement failed to prepare" e))
    | .ok nparams =>
      if nparams > 1 then
        (conn, .error
          "ducknng: SQL method statements accept at most one parameter, the JSON payload")
      else if nparams = 1 ∧ stmt.bind = false then
        (conn, .error "ducknng: failed to bind the SQL method payload")
      else match stmt.execute with
        | .error e => (conn, .error (sqlErrorMessage "ducknng: SQL method failed" e))
        | .ok (changes, result) => runStatements stmts (conn.change changes) result

/-- `ducknng_sql_method_run`. -/
def sqlMethodRun (calls : SqlMethodCalls ε) (conn : SqlConnection ε) :
    SqlConnection ε × Except String SqlResult :=
  if calls.statements = [] then
    (conn, .error (sqlErrorMessage "ducknng: SQL method has no executable statement"
      calls.extractError))
  else match conn.begin calls.begin with
    | .error e =>
      (conn, .error (sqlErrorMessage "ducknng: SQL method could not begin a transaction" e))
    | .ok conn =>
      match runStatements calls.statements conn .zero with
      | (conn, .error e) => (conn.rollback, .error e)
      | (conn, .ok last) =>
        match conn.commit calls.commit with
        | (conn, .error e) =>
          (conn.rollback, .error (sqlErrorMessage "ducknng: SQL method commit failed" e))
        | (conn, .ok ()) => (conn, .ok last)

end Run

/-- What `ducknng_json_quote` writes for a byte. -/
def jsonQuoteByte (c : UInt8) : List UInt8 :=
  let hex := fun n : UInt8 => if n < 10 then 0x30 + n else 0x57 + n
  if c = quote then [backslash, quote]
  else if c = backslash then [backslash, backslash]
  else if c = 0x0a then [backslash, 0x6e]
  else if c = 0x0d then [backslash, 0x72]
  else if c = 0x09 then [backslash, 0x74]
  else if c < 0x20 then [backslash, 0x75, 0x30, 0x30, hex (c >>> 4), hex (c &&& 0xf)]
  else [c]

/-- `ducknng_json_quote`. -/
def jsonQuote (text : List UInt8) : List UInt8 := quote :: text.flatMap jsonQuoteByte ++ [quote]

/-- The bytes of `null`. -/
def jsonNull : List UInt8 := [0x6e, 0x75, 0x6c, 0x6c]

/-- `ducknng_sql_method_encode_reply`; an error without a text is `none`. -/
def sqlMethodEncodeReply (alloc : Bool) (result : SqlResult) :
    Except (Option String) (List UInt8) :=
  if result.isQuery = false ∨ result.columnCount = 0 then
    .error (some "ducknng: the last SQL method statement must return a JSON or VARCHAR column")
  else if result.isVarchar = false then
    .error (some
      "ducknng: the SQL method result column must be JSON or VARCHAR; wrap other values with to_json()")
  else match result.firstValue with
    | some (some text) =>
      if alloc then .ok (if result.isJson then text else jsonQuote text)
      else .error (some "ducknng: out of memory encoding the SQL method reply")
    | _ => if alloc then .ok jsonNull else .error none

/-- `DUCKNNG_RPC_FLAG_PAYLOAD_JSON`. -/
def flagPayloadJson : UInt32 := 4

/-- `ducknng_sql_method_handler`. -/
def sqlMethodHandler {ε : Type} (calls : SqlMethodCalls ε) (_ : MethodDescriptor)
    (conn : SqlConnection ε) : SqlConnection ε × Bool × MethodReply :=
  if !calls.payloadCopied then
    (conn, true, .ofError .internal "ducknng: out of memory copying the SQL method payload")
  else if !calls.payloadValid then
    (conn, true, .ofError .invalid "ducknng: SQL method payload must be a UTF-8 JSON object")
  else match calls.enterSql with
    | .error e => (conn, true, .ofError .internal (e.getD "ducknng: missing execution context"))
    | .ok () =>
      match sqlMethodRun calls conn with
      | (conn, .error e) => (conn, true, .ofError .sqlError e)
      | (conn, .ok last) =>
        match sqlMethodEncodeReply calls.encodeAlloc last with
        | .error e =>
          (conn, true, .ofError .sqlError (e.getD "ducknng: failed to encode the SQL method reply"))
        | .ok body => (conn, false, .ofPayload flagPayloadJson body)

/-- `ducknng_sql_method_name_valid`. -/
def sqlMethodNameValid (name : CStr) : Bool :=
  name.bytes ≠ [] && name.bytes.length ≤ 128 && name.bytes.all fun c =>
    (0x61 ≤ c && c ≤ 0x7a) || (0x41 ≤ c && c ≤ 0x5a) || (0x30 ≤ c && c ≤ 0x39) || c == 0x5f ||
      c == 0x2e || c == 0x2d

/-- A registered SQL method. Its auth flag may be changed later, and it may be disabled. -/
structure SqlMethod where
  name : CStr
  nameValid : sqlMethodNameValid name = true
  requiresAuth : Bool
  disabled : Bool

/-- The descriptor of a SQL method. -/
def SqlMethod.descriptor (m : SqlMethod) : MethodDescriptor where
  name := m.name
  disabled := m.disabled
  acceptedRequestFlags := flagPayloadJson
  emittedReplyFlags := flagPayloadJson
  maxRequestBytes := 1024 * 1024
  maxReplyBytes := 16 * 1024 * 1024
  requiresAuth := m.requiresAuth

/-- What the dispatcher finds when a SQL method is called. -/
def SqlMethod.dispatch (m : SqlMethod) (admission : Except (Option String) Unit)
    (replyAlloc : Bool) : DispatchCalls :=
  ⟨admission, some m.descriptor, replyAlloc, true⟩

/-- A request to a SQL method that reaches the dispatcher: the connection it leaves and the
    frame that is sent. -/
def callSqlMethod {ε : Type} (m : SqlMethod) (admission : Except (Option String) Unit)
    (replyAlloc : Bool) (req : RpcRequest) (calls : SqlMethodCalls ε) (conn : SqlConnection ε) :
    SqlConnection ε × Option ReplyFrame :=
  dispatchRequest (m.dispatch admission replyAlloc) req (sqlMethodHandler calls) conn

/-! ### A run commits everything or nothing -/

section Atomicity
variable {ε : Type}

/-- The changes and the result of a statement that goes through. -/
def SqlStatement.outcome (stmt : SqlStatement ε) : Option (List ε × SqlResult) :=
  match stmt.prepare, stmt.execute with
  | .ok nparams, .ok outcome =>
    if nparams > 1 ∨ nparams = 1 ∧ stmt.bind = false then none else some outcome
  | _, _ => none

/-- The changes of statements that have gone through. -/
def changesOf (outcomes : List (List ε × SqlResult)) : List ε := (outcomes.map Prod.fst).flatten

/-- The result of the last one. -/
def lastOf (outcomes : List (List ε × SqlResult)) : SqlResult :=
  (outcomes.map Prod.snd).getLastD .zero

/-- Inside a transaction the statements all go through, or one fails; nothing is committed
    by either. -/
theorem runStatements_spec (stmts : List (SqlStatement ε)) {conn : SqlConnection ε}
    {pending : List ε} (hconn : conn.transaction = some pending) (last : SqlResult) :
    (∃ outcomes, stmts.mapM SqlStatement.outcome = some outcomes ∧
      runStatements stmts conn last = ({ conn with
        transaction := some (pending ++ changesOf outcomes) },
        .ok ((outcomes.map Prod.snd).getLastD last))) ∨
    stmts.mapM SqlStatement.outcome = none ∧ ∃ conn' e,
      runStatements stmts conn last = (conn', .error e) ∧ conn'.committed = conn.committed := by
  induction stmts generalizing conn pending last with
  | nil =>
    refine .inl ⟨[], rfl, ?_⟩
    cases conn
    cases hconn
    simp [runStatements, changesOf]
  | cons stmt stmts ih =>
    rw [runStatements, List.mapM_cons]
    -- one statement without an outcome leaves the list without one
    have hfail : stmt.outcome = none →
        (do let a ← stmt.outcome
            let b ← stmts.mapM SqlStatement.outcome
            pure (a :: b)) = none := by
      intro h
      rw [h]
      rfl
    cases hprepare : stmt.prepare with
    | error e =>
      exact .inr ⟨hfail (by simp [SqlStatement.outcome, hprepare]), conn, _, rfl, rfl⟩
    | ok nparams =>
      dsimp only
      split
      -- more parameters than the one the request can bind
      · next hmany =>
        refine .inr ⟨hfail ?_, conn, _, rfl, rfl⟩
        cases hexecute : stmt.execute <;> simp [SqlStatement.outcome, hprepare, hexecute, hmany]
      next hmany =>
      split
      · next hbind =>
        refine .inr ⟨hfail ?_, conn, _, rfl, rfl⟩
        cases hexecute : stmt.execute <;> simp [SqlStatement.outcome, hprepare, hexecute, hbind]
      next hbind =>
      cases hexecute : stmt.execute with
      | error e =>
        exact .inr ⟨hfail (by simp [SqlStatement.outcome, hexecute]), conn, _, rfl, rfl⟩
      | ok outcome =>
        have houtcome : stmt.outcome = some outcome := by
          simp only [SqlStatement.outcome, hprepare, hexecute]
          rw [if_neg (not_or.2 ⟨hmany, hbind⟩)]
        have hchange : conn.change outcome.1 =
            { conn with transaction := some (pending ++ outcome.1) } := by
          simp [SqlConnection.change, hconn]
        dsimp only
        rw [houtcome, hchange]
        -- the changes are pending; the rest runs over them
        rcases @ih { conn with transaction := some (pending ++ outcome.1) } _ rfl outcome.2
          with ⟨outcomes, hall, hrun⟩ | ⟨hnone, conn', e, hrun, hsame⟩
        · refine .inl ⟨outcome :: outcomes, ?_, ?_⟩
          · rw [hall]
            rfl
          · rw [hrun, List.map_cons, List.getLastD_cons]
            simp [changesOf]
        · refine .inr ⟨?_, conn', e, hrun, hsame⟩
          rw [hnone]
          rfl

/-- What a request needs for its statements to be committed, with what becomes of them. -/
structure Commits (calls : SqlMethodCalls ε) (outcomes : List (List ε × SqlResult)) : Prop where
  payloadCopied : calls.payloadCopied = true
  payloadValid : calls.payloadValid = true
  enterSql : calls.enterSql = .ok ()
  nonempty : calls.statements ≠ []
  begin : calls.begin = .ok ()
  ran : calls.statements.mapM SqlStatement.outcome = some outcomes
  commit : calls.commit = .ok ()

variable {conn : SqlConnection ε}

/-- A run outside any transaction commits the changes of all statements, or none. -/
theorem sqlMethodRun_spec (calls : SqlMethodCalls ε) (hconn : conn.transaction = none) :
    (∃ outcomes, calls.statements ≠ [] ∧ calls.begin = .ok () ∧
      calls.statements.mapM SqlStatement.outcome = some outcomes ∧ calls.commit = .ok () ∧
      sqlMethodRun calls conn =
        (⟨none, conn.committed ++ changesOf outcomes⟩, .ok (lastOf outcomes))) ∨
    (∀ outcomes, ¬Commits calls outcomes) ∧ ∃ conn' e,
      sqlMethodRun calls conn = (conn', .error e) ∧ conn'.committed = conn.committed := by
  unfold sqlMethodRun
  by_cases hempty : calls.statements = []
  · rw [if_pos hempty]
    exact .inr ⟨fun _ h => h.nonempty hempty, conn, _, rfl, rfl⟩
  rw [if_neg hempty]
  cases hbegin : calls.begin with
  | error e =>
    refine .inr ⟨fun _ h => ?_, conn, _, by simp [SqlConnection.begin, hconn]; rfl, rfl⟩
    rw [h.begin] at hbegin
    cases hbegin
  | ok =>
    have hopen : conn.begin (.ok ()) = .ok { conn with transaction := some [] } := by
      simp [SqlConnection.begin, hconn]
    simp only [hopen]
    rcases @runStatements_spec ε calls.statements { conn with transaction := some [] } [] rfl .zero
      with ⟨outcomes, hran, hrun⟩ | ⟨hnone, conn', e, hrun, hsame⟩
    · simp only [hrun]
      cases hcommit : calls.commit with
      | error e =>
        refine .inr ⟨fun _ h => ?_, _, _, rfl, rfl⟩
        rw [h.commit] at hcommit
        cases hcommit
      | ok =>
        refine .inl ⟨outcomes, hempty, trivial, hran, rfl, ?_⟩
        simp [SqlConnection.commit, lastOf]
    · simp only [hrun]
      refine .inr ⟨fun _ h => ?_, conn'.rollback, e, rfl, hsame⟩
      rw [h.ran] at hnone
      cases hnone

/-- The reply a result is encoded as. -/
def replyBytes (result : SqlResult) : List UInt8 :=
  match result.firstValue with
  | some (some text) => if result.isJson then text else jsonQuote text
  | _ => jsonNull

theorem sqlMethodEncodeReply_eq_ok {alloc : Bool} {result : SqlResult} {body : List UInt8} :
    sqlMethodEncodeReply alloc result = .ok body ↔ (result.isQuery = true ∧
      result.columnCount ≠ 0 ∧ result.isVarchar = true ∧ alloc = true) ∧
      body = replyBytes result := by
  unfold sqlMethodEncodeReply replyBytes
  cases result.isQuery <;> cases result.isVarchar <;> cases alloc <;>
    by_cases hcount : result.columnCount = 0 <;>
    rcases result.firstValue with _ | _ | text <;> simp [hcount, @eq_comm _ body]

/-- The handler commits everything and encodes the last result, or it reports an error and
    commits nothing. -/
theorem sqlMethodHandler_spec (calls : SqlMethodCalls ε) (method : MethodDescriptor)
    (hconn : conn.transaction = none) :
    (∃ outcomes, Commits calls outcomes ∧
      sqlMethodHandler calls method conn = (⟨none, conn.committed ++ changesOf outcomes⟩,
        match sqlMethodEncodeReply calls.encodeAlloc (lastOf outcomes) with
        | .error e => (true, .ofError .sqlError
            (e.getD "ducknng: failed to encode the SQL method reply"))
        | .ok body => (false, .ofPayload flagPayloadJson body))) ∨
    (∀ outcomes, ¬Commits calls outcomes) ∧ ∃ conn' status message,
      sqlMethodHandler calls method conn = (conn', true, .ofError status message) ∧
      conn'.committed = conn.committed := by
  unfold sqlMethodHandler
  by_cases hcopied : calls.payloadCopied = true
  swap
  · rw [if_pos (by simp [hcopied])]
    exact .inr ⟨fun _ h => hcopied h.payloadCopied, conn, _, _, rfl, rfl⟩
  by_cases hvalid : calls.payloadValid = true
  swap
  · rw [if_neg (by simp [hcopied]), if_pos (by simp [hvalid])]
    exact .inr ⟨fun _ h => hvalid h.payloadValid, conn, _, _, rfl, rfl⟩
  rw [if_neg (by simp [hcopied]), if_neg (by simp [hvalid])]
  cases henter : calls.enterSql with
  | error e =>
    refine .inr ⟨fun _ h => ?_, conn, _, _, rfl, rfl⟩
    rw [h.enterSql] at henter
    cases henter
  | ok =>
    rcases sqlMethodRun_spec calls hconn with
      ⟨outcomes, hne, hbegin, hran, hcommit, hrun⟩ | ⟨hnot, conn', e, hrun, hsame⟩
    · refine .inl ⟨outcomes, ⟨hcopied, hvalid, henter, hne, hbegin, hran, hcommit⟩, ?_⟩
      rw [hrun]
      dsimp only
      cases sqlMethodEncodeReply calls.encodeAlloc (lastOf outcomes) <;> rfl
    · rw [hrun]
      exact .inr ⟨hnot, conn', _, _, rfl, hsame⟩

/-! ### What the caller is told -/

/-- The last result can be sent: it is a text in the first column, and the reply is within the
    method's limit and the memory. -/
structure Answerable (encodeAlloc replyAlloc : Bool) (last : SqlResult) : Prop where
  isQuery : last.isQuery = true
  columns : last.columnCount ≠ 0
  isVarchar : last.isVarchar = true
  encodeAlloc : encodeAlloc = true
  short : (replyBytes last).length ≤ 16 * 1024 * 1024
  replyAlloc : replyAlloc = true

variable (m : SqlMethod)

/-- What the frame says is what has happened: with a result the changes of all statements are
    committed, with an error none of them is. -/
def Atomic (admission : Except (Option String) Unit) (replyAlloc : Bool)
    (req : RpcRequest) (calls : SqlMethodCalls ε) (conn : SqlConnection ε) : Prop :=
  ∀ conn' frame, callSqlMethod m admission replyAlloc req calls conn = (conn', some frame) →
    (frame.type = .result → ∃ outcomes,
      calls.statements.mapM SqlStatement.outcome = some outcomes ∧
      conn'.committed = conn.committed ++ changesOf outcomes) ∧
    (frame.type = .error → conn'.committed = conn.committed)

theorem SqlMethod.name_length : m.name.bytes.length ≤ 128 := by
  have hvalid := m.nameValid
  simp only [sqlMethodNameValid, Bool.and_eq_true, decide_eq_true_eq] at hvalid
  exact hvalid.1.2

theorem SqlMethod.allocFailure : ∃ frame, errorMsg true (some m.name) .internal
    "ducknng: failed to allocate reply message" = some frame ∧ frame.type = .error :=
  errorMsg_isSome .internal m.name_length (by decide)

/-- A reply that is an error stays one, and is sent. -/
theorem dispatchFinish_error (admission : Except (Option String) Unit)
    (replyAlloc : Bool) (status : Status) (message : String) :
    ∃ frame, dispatchFinish (m.dispatch admission replyAlloc) m.descriptor true
      (.ofError status message) = some frame ∧ frame.type = .error := by
  unfold dispatchFinish
  cases hbuilt : buildReplyStatus (m.dispatch admission replyAlloc).replyAlloc
      ⟨.error, some m.descriptor.name, 0, status, some message, []⟩ with
  | some frame =>
    have hframe := (buildReplyStatus_eq_some.1 hbuilt).1
    exact ⟨frame, congrArg (Option.or · _) hbuilt, congrArg ReplyFrame.type hframe⟩
  | none =>
    obtain ⟨frame, hframe, htype⟩ := m.allocFailure
    exact ⟨frame, (congrArg (Option.or · _) hbuilt).trans hframe, htype⟩

/-- A reply with a payload is sent as a result if it is short enough and there is memory for
    the message, and as an error otherwise. -/
theorem dispatchFinish_payload (admission : Except (Option String) Unit)
    (replyAlloc : Bool) (body : List UInt8) :
    ∃ frame, dispatchFinish (m.dispatch admission replyAlloc) m.descriptor false
      (.ofPayload flagPayloadJson body) = some frame ∧
      frame.type =
        if body.length ≤ 16 * 1024 * 1024 ∧ replyAlloc = true then .result else .error := by
  by_cases hsent : body.length ≤ 16 * 1024 * 1024 ∧ replyAlloc = true
  · obtain ⟨hshort, rfl⟩ := hsent
    have hsize : wireHeaderLen + m.name.bytes.length + body.length ≤ sizeMax := by
      have hname := m.name_length
      simp only [wireHeaderLen, sizeMax]
      omega
    have hacceptable : ReplyFrame.acceptable
        ⟨.result, some m.name, flagPayloadJson, .ok, none, body⟩ = true := by
      have hflags : flagPayloadJson &&& ~~~rpcFlagsMask = 0 := by decide
      simp [ReplyFrame.acceptable, hflags, hsize]
      exact m.name_length
    have hsends : m.descriptor.Sends (m.dispatch admission true) flagPayloadJson body :=
      ⟨by simp [SqlMethod.descriptor], .inr hshort, rfl, hacceptable⟩
    exact ⟨_, hsends.dispatchFinish, (if_pos ⟨hshort, rfl⟩).symm⟩
  · rw [if_neg hsent]
    unfold dispatchFinish
    rw [if_neg (by simp), if_neg (by simp [MethodReply.ofPayload, SqlMethod.descriptor])]
    split
    · exact errorMsg_isSome .busy m.name_length (by decide)
    · next hlimit =>
      have hnone : replyAlloc = false := by
        refine Bool.eq_false_iff.2 fun halloc => hsent ⟨?_, halloc⟩
        exact Nat.le_of_not_lt fun hlong => hlimit ⟨by simp [SqlMethod.descriptor], hlong⟩
      obtain ⟨frame, hframe, htype⟩ := m.allocFailure
      exact ⟨frame, by simpa [buildReplyStatus, SqlMethod.dispatch, SqlMethod.descriptor, hnone]
        using hframe, htype⟩

/-- What a request that gets past the gate leaves and what it is told. -/
theorem callSqlMethod_of_gate {m : SqlMethod} {admission : Except (Option String) Unit}
    {replyAlloc : Bool} {req : RpcRequest} {method : MethodDescriptor}
    (hgate : dispatchGate (m.dispatch admission replyAlloc) req = .ok method)
    (calls : SqlMethodCalls ε) (hconn : conn.transaction = none) :
    (∃ outcomes frame, Commits calls outcomes ∧
      callSqlMethod m admission replyAlloc req calls conn =
        (⟨none, conn.committed ++ changesOf outcomes⟩, some frame) ∧
      (frame.type = .result ∧ Answerable calls.encodeAlloc replyAlloc (lastOf outcomes) ∨
        frame.type = .error ∧ ¬Answerable calls.encodeAlloc replyAlloc (lastOf outcomes))) ∨
    (∀ outcomes, ¬Commits calls outcomes) ∧ ∃ conn' frame,
      callSqlMethod m admission replyAlloc req calls conn = (conn', some frame) ∧
      frame.type = .error ∧ conn'.committed = conn.committed := by
  obtain rfl : m.descriptor = method := some.inj (dispatchGate_eq_ok hgate).1
  unfold callSqlMethod
  rw [dispatchRequest_of_gate hgate]
  rcases sqlMethodHandler_spec calls m.descriptor hconn with
    ⟨outcomes, hcommits, hhandler⟩ | ⟨hnot, conn', status, message, hhandler, hsame⟩
  · rw [hhandler]
    cases hencode : sqlMethodEncodeReply calls.encodeAlloc (lastOf outcomes) with
    | error e =>
      obtain ⟨frame, hframe, htype⟩ := dispatchFinish_error m admission replyAlloc .sqlError
        (e.getD "ducknng: failed to encode the SQL method reply")
      refine .inl ⟨outcomes, frame, hcommits, by rw [hframe], .inr ⟨htype, ?_⟩⟩
      intro h
      have hok := sqlMethodEncodeReply_eq_ok.2
        ⟨⟨h.isQuery, h.columns, h.isVarchar, h.encodeAlloc⟩, rfl⟩
      rw [hencode] at hok
      cases hok
    | ok body =>
      obtain ⟨⟨hquery, hcolumns, hvarchar, halloc⟩, rfl⟩ := sqlMethodEncodeReply_eq_ok.1 hencode
      obtain ⟨frame, hframe, htype⟩ := dispatchFinish_payload m admission replyAlloc
        (replyBytes (lastOf outcomes))
      refine .inl ⟨outcomes, frame, hcommits, by rw [hframe], ?_⟩
      split at htype
      · next h => exact .inl ⟨htype, hquery, hcolumns, hvarchar, halloc, h.1, h.2⟩
      · next h => exact .inr ⟨htype, fun hanswer => h ⟨hanswer.short, hanswer.replyAlloc⟩⟩
  · rw [hhandler]
    obtain ⟨frame, hframe, htype⟩ := dispatchFinish_error m admission replyAlloc status message
    exact .inr ⟨hnot, conn', frame, by rw [hframe], htype, hsame⟩

/-- **SQL methods.** A request to a SQL method, on a connection without an open transaction,
    is atomic for its caller exactly if this holds: once the statements are committed with
    some change, the last result can be sent. The transaction is committed before the result
    is looked at, so a reply that cannot be sent is an error with the changes in place. -/
theorem atomic_iff (m : SqlMethod) (admission : Except (Option String) Unit) (replyAlloc : Bool)
    (req : RpcRequest) (calls : SqlMethodCalls ε) {conn : SqlConnection ε}
    (hconn : conn.transaction = none) :
    Atomic m admission replyAlloc req calls conn ↔
      ∀ outcomes, (∃ method, dispatchGate (m.dispatch admission replyAlloc) req = .ok method) →
        Commits calls outcomes → changesOf outcomes = [] ∨
          Answerable calls.encodeAlloc replyAlloc (lastOf outcomes) := by
  cases hgate : dispatchGate (m.dispatch admission replyAlloc) req with
  | error answer =>
    -- a refused request runs nothing
    constructor
    · rintro - outcomes ⟨method, hmethod⟩
      cases hmethod
    · intro _ conn' frame hcall
      unfold callSqlMethod at hcall
      rw [dispatchRequest_of_refused hgate] at hcall
      obtain ⟨rfl, hanswer⟩ := Prod.mk.inj hcall
      have htype := dispatchGate_refused_type hgate hanswer
      exact ⟨fun hresult => absurd (htype.symm.trans hresult) (by decide), fun _ => rfl⟩
  | ok method =>
    rcases callSqlMethod_of_gate hgate calls hconn with
      ⟨outcomes, frame, hcommits, hcall, hframe⟩ | ⟨hnot, conn', frame, hcall, htype, hsame⟩
    · constructor
      · intro h outcomes' _ hcommits'
        obtain rfl : outcomes' = outcomes :=
          some.inj (hcommits'.ran.symm.trans hcommits.ran)
        rcases hframe with ⟨-, hanswer⟩ | ⟨htype, -⟩
        · exact .inr hanswer
        · have hnone := (h _ frame hcall).2 htype
          exact .inl (List.append_right_eq_self.1 hnone)
      · intro h conn' frame' hcall'
        rw [hcall] at hcall'
        obtain ⟨rfl, hsome⟩ := Prod.mk.inj hcall'
        obtain rfl := some.inj hsome
        refine ⟨fun _ => ⟨outcomes, hcommits.ran, rfl⟩, fun htype => ?_⟩
        rcases hframe with ⟨hresult, -⟩ | ⟨-, hanswer⟩
        · rw [hresult] at htype
          cases htype
        · have hnone := (h outcomes ⟨method, rfl⟩ hcommits).resolve_right hanswer
          show conn.committed ++ changesOf outcomes = conn.committed
          rw [hnone, List.append_nil]
    · constructor
      · intro _ outcomes _ hcommits
        exact absurd hcommits (hnot outcomes)
      · intro _ conn'' frame' hcall'
        rw [hcall] at hcall'
        obtain ⟨rfl, hsome⟩ := Prod.mk.inj hcall'
        obtain rfl := some.inj hsome
        exact ⟨fun hresult => absurd (htype.symm.trans hresult) (by decide), fun _ => hsame⟩

end Atomicity

/-- A method `m`. -/
def methodM : SqlMethod := ⟨CStr.m, by decide, false, false⟩

/-- A call of it. -/
def callM : RpcRequest := ⟨.call, flagPayloadJson, [], none⟩

/-- One statement that makes a change and has the given result. -/
def changeWith (result : SqlResult) : SqlMethodCalls Nat :=
  ⟨true, true, .ok (), [⟨.ok 0, true, .ok ([7], result)⟩], none, .ok (), .ok (), true⟩

/-- A statement that returns a text is atomic. -/
theorem atomic_text : Atomic methodM (.ok ()) true callM
    (changeWith ⟨true, 1, true, false, some (some [0x61])⟩) ⟨none, []⟩ := by
  refine (atomic_iff methodM (.ok ()) true callM _ rfl).2 ?_
  intro outcomes _ hcommits
  obtain rfl := some.inj (hcommits.ran.symm.trans rfl)
  exact .inr ⟨rfl, by decide, rfl, rfl, by decide, rfl⟩

/-- A statement that changes something and returns no text, such as an `INSERT`: the caller is
    told of an error, and the change is committed. -/
theorem insert_committed_with_error : ¬Atomic methodM (.ok ()) true callM
    (changeWith ⟨false, 1, false, false, none⟩) ⟨none, []⟩ := by
  intro h
  have hgate : dispatchGate (methodM.dispatch (.ok ()) true) callM = .ok methodM.descriptor := rfl
  have hconn : (⟨none, []⟩ : SqlConnection Nat).transaction = none := rfl
  rcases callSqlMethod_of_gate hgate (changeWith ⟨false, 1, false, false, none⟩) hconn with
    ⟨outcomes, frame, hcommits, hcall, hframe⟩ | ⟨hnot, -⟩
  · obtain rfl := some.inj (hcommits.ran.symm.trans rfl)
    rcases hframe with ⟨-, hanswer⟩ | ⟨htype, -⟩
    · cases hanswer.isQuery
    · cases (h _ frame hcall).2 htype
  · exact hnot [([7], ⟨false, 1, false, false, none⟩)]
      ⟨rfl, rfl, rfl, List.cons_ne_nil _ _, rfl, rfl, rfl⟩

end Ducknng