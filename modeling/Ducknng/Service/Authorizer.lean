import Ducknng.Service.Admission
import Ducknng.Wire.Core

namespace Ducknng

/-!
# The SQL authorizer

A service may have a SQL text that decides on every request. The text sees the request through
`ducknng_auth_context()` and answers with one row.

* `AuthorizerContext` — what the text can see.
* `AuthorizerResult`, `AuthorizerRun` — what DuckDB makes of it.
* `AuthorizerResult.Allows` — a well-formed row that allows the request.
* `AuthorizerDecision` — what the service keeps of the row.
-/

/-! ### The question -/

/-- `ducknng_transport_family`. -/
inductive TransportFamily where
  | unknown | nng | http
  deriving DecidableEq, Repr

/-- `ducknng_transport_scheme`. -/
inductive TransportScheme where
  | unknown | inproc | ipc | tcp | tlsTcp | ws | wss | http | https
  deriving DecidableEq, Repr

/-- The `phase` of a context: a framed request or a route. -/
inductive AuthorizerPhase where
  | rpcRequest | httpRoute
  deriving DecidableEq, Repr

/-- `ducknng_authorizer_context`. -/
structure AuthorizerContext where
  frame : Option Frame
  transportFamily : TransportFamily
  scheme : TransportScheme := .unknown
  phase : AuthorizerPhase
  callerIdentity : Option CStr
  remoteAddr : Option SockAddr
  httpMethod : Option CStr := none
  httpPath : Option CStr := none
  contentType : Option CStr := none
  bodyBytes : Nat := 0

/-! ### The answer -/

/-- A text of a DuckDB value, whose length is a 32-bit number. -/
structure SqlText where
  text : String
  short : text.utf8ByteSize ≤ u32Max

/-- An error text of DuckDB; there is room for the words in front of it in a 32-bit length. -/
structure SqlErrorText where
  text : String
  short : "ducknng: SQL authorizer error: ".utf8ByteSize + text.utf8ByteSize ≤ u32Max

/-- The types of columns that are told apart. -/
inductive AuthorizerColumnType where
  | boolean | integer | varchar | ubigint | other
  deriving DecidableEq, Repr

/-- A column with what each of the accessors reads in its first row; `none` is a NULL. The text
    accessor does not ask for the type of the column. -/
structure AuthorizerColumn where
  name : String
  type : AuthorizerColumnType
  boolValue : Option Bool := none
  int32Value : Option Int := none
  uint64Value : Option Nat := none
  varchar : Option SqlText := none

/-- What is read of the result of the text: the number of rows of its first two chunks, and its
    columns. -/
structure AuthorizerResult where
  rows : Nat
  extraRows : Nat
  columns : List AuthorizerColumn

/-- The reasons why `ducknng_service_enter_request_sql` gives no connection. -/
inductive SqlScopeError where
  | missingPool | poolExhausted | missingMutex | invalidModel | missingConnection
  deriving DecidableEq, Repr

/-- Their texts. -/
def SqlScopeError.text : SqlScopeError → String
  | .missingPool => "ducknng: missing DuckDB execution connection pool"
  | .poolExhausted => "ducknng: DuckDB execution connection pool exhausted"
  | .missingMutex => "ducknng: missing service execution mutex"
  | .invalidModel => "ducknng: invalid service execution model"
  | .missingConnection => "ducknng: missing DuckDB execution connection"

/-- A run of the text on a connection. -/
inductive AuthorizerRun where
  | notEntered (error : SqlScopeError)
  | failed (detail : Option SqlErrorText)
  | result (result : AuthorizerResult)

/-! ### Reading the row -/

/-- `ducknng_ascii_name_equal`. -/
def asciiNameEqual (a b : String) : Bool := a.toList.map Char.toLower = b.toList.map Char.toLower

namespace AuthorizerResult

/-- The column of `ducknng_result_column_index`. -/
def column (r : AuthorizerResult) (name : String) : Option AuthorizerColumn :=
  r.columns.find? fun col => asciiNameEqual col.name name

/-- The status of a denial: the one of the row if it is an HTTP status. -/
def status (r : AuthorizerResult) : Int :=
  match r.column "status" with
  | none => 403
  | some col =>
    match col.int32Value with
    | none => 403
    | some value => if col.type = .integer ∧ 100 ≤ value ∧ value ≤ 599 then value else 403

/-- A text column of the row. -/
def varchar (r : AuthorizerResult) (name : String) : Option String :=
  (r.column name).bind fun col => col.varchar.map (·.text)

/-- The cache hint of the row. -/
def cacheTtlMs (r : AuthorizerResult) : Nat :=
  match r.column "cache_ttl_ms" with
  | none => 0
  | some col => if col.type = .ubigint then col.uint64Value.getD 0 else 0

/-- A well-formed row that allows the request: exactly one, with a true BOOLEAN `allow`. -/
structure Allows (r : AuthorizerResult) : Prop where
  rows : r.rows = 1
  extraRows : r.extraRows = 0
  allow : ∃ col, r.column "allow" = some col ∧ col.type = .boolean ∧ col.boolValue = some true

/-- A well-formed row that does not. -/
structure Denies (r : AuthorizerResult) : Prop where
  rows : r.rows = 1
  extraRows : r.extraRows = 0
  allow : ∃ col, r.column "allow" = some col ∧ col.type = .boolean ∧ col.boolValue ≠ some true

/-- The BOOLEAN in the `allow` column, if there is one. -/
def allowColumn (r : AuthorizerResult) : Option AuthorizerColumn :=
  (r.column "allow").filter fun col => col.type = .boolean

theorem allowColumn_eq_some {r : AuthorizerResult} {col : AuthorizerColumn} :
    r.allowColumn = some col ↔ r.column "allow" = some col ∧ col.type = .boolean := by
  rw [allowColumn, Option.filter_eq_some_iff, decide_eq_true_eq]

end AuthorizerResult

instance (r : AuthorizerResult) : Decidable r.Allows :=
  decidable_of_iff (r.rows = 1 ∧ r.extraRows = 0 ∧
      (r.allowColumn.bind fun col => col.boolValue) = some true) (by
    rw [Option.bind_eq_some_iff]
    simp only [AuthorizerResult.allowColumn_eq_some, and_assoc]
    exact ⟨fun ⟨hrows, hextra, hallow⟩ => ⟨hrows, hextra, hallow⟩,
      fun ⟨hrows, hextra, hallow⟩ => ⟨hrows, hextra, hallow⟩⟩)

instance (r : AuthorizerResult) : Decidable r.Denies :=
  decidable_of_iff (r.rows = 1 ∧ r.extraRows = 0 ∧
      (r.allowColumn.any fun col => col.boolValue ≠ some true)) (by
    rw [Option.any_eq_true]
    simp only [AuthorizerResult.allowColumn_eq_some, decide_eq_true_eq, and_assoc]
    exact ⟨fun ⟨hrows, hextra, hallow⟩ => ⟨hrows, hextra, hallow⟩,
      fun ⟨hrows, hextra, hallow⟩ => ⟨hrows, hextra, hallow⟩⟩)

/-- `ducknng_authorizer_decision`. -/
structure AuthorizerDecision where
  allow : Bool
  httpStatus : Int
  reason : Option String
  principal : Option String
  claimsJson : Option String
  cacheTtlMs : Nat

/-- `ducknng_authorizer_decision_init`. -/
def AuthorizerDecision.init : AuthorizerDecision := ⟨true, 200, none, none, none, 0⟩

theorem AuthorizerResult.status_range (r : AuthorizerResult) : 100 ≤ r.status ∧ r.status ≤ 599 := by
  unfold AuthorizerResult.status
  split
  · decide
  split
  · decide
  split
  · next hrange => exact hrange.2
  · decide

end Ducknng
