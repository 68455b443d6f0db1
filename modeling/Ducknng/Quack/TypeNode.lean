import Ducknng.Quack.Core

namespace Ducknng

open ByteCodec

/-!
# Quack type trees

The logical types a batch can carry, the tree they become on the wire
(`ducknng_quack_column_schema`), and the codec of that tree.

Every recursion of the source carries a `depth` and refuses one above
`DUCKNNG_QUACK_MAX_NESTING`. Here the recursion is on the number of levels still
allowed, `left = 65 - depth`, so level `0` is the refusal.

* `LogicalType` — a `duckdb_logical_type`; `TypeNode` — the tree on the wire.
* `Quack.nodeFromDuckdb`, `Quack.nodeToDuckdb` — between the two.
* `Quack.writeTypeNode`, `Quack.readTypeNode` — the codec.
* `LogicalType.withinLimits` — the types the codec is meant to carry.
-/

/-! ### Logical types -/

/-- The types without parameters, in the order of their wire identifiers. -/
inductive FlatKind where
  | boolean | tinyint | smallint | integer | bigint | date | time
  | timestampSec | timestampMs | timestamp | timestampNs
  | float | double | varchar | blob | interval
  | utinyint | usmallint | uinteger | ubigint
  | timestampTz | timeTz | timeNs | uhugeint | hugeint | uuid
  deriving DecidableEq, Repr

/-- A `duckdb_logical_type`, as far as the codec looks into it. Names and labels
    are what the C API returns for them. -/
inductive LogicalType where
  | flat (kind : FlatKind)
  | decimal (width scale : Nat)
  | enum (labels : List CStr)
  | list (child : LogicalType)
  | array (child : LogicalType) (size : Nat)
  | map (key value : LogicalType)
  | struct (names : List CStr) (members : List LogicalType)
  | union (names : List CStr) (members : List LogicalType)
  /-- A type with an identifier that the codec has no case for. -/
  | other (id : Nat)

/-- `ducknng_quack_column_schema` without the column's own name. -/
structure TypeNode where
  logicalTypeId : Nat
  decimalWidth : Nat
  decimalScale : Nat
  arraySize : Nat
  enumLabels : List CStr
  childNames : List CStr
  children : List TypeNode

namespace Quack

/-- `ducknng_quack_node_new`. -/
def nodeNew (logicalTypeId : Nat) : TypeNode := ⟨logicalTypeId, 0, 0, 0, [], [], []⟩

/-- `ducknng_quack_node_add_child`. -/
def nodeAddChild (node child : TypeNode) (name : CStr) : TypeNode :=
  { node with
    childNames := node.childNames ++ [name]
    children := node.children ++ [child] }

/-! ### Constants -/

/-- `DUCKNNG_QUACK_MAX_NESTING` levels below the root are allowed. -/
def maxLevels : Nat := 65

/-- `DUCKNNG_QUACK_MAX_STRUCT_MEMBERS`. -/
def maxStructMembers : Nat := 65536

/-- `DUCKNNG_QUACK_MAX_ENUM_VALUES`. -/
def maxEnumValues : Nat := 2 ^ 24

/-- `DUCKNNG_QUACK_LOGICAL_DECIMAL`. -/
def logicalDecimal : Nat := 21

/-- `DUCKNNG_QUACK_LOGICAL_CHAR`, which DuckDB has no type for. -/
def logicalChar : Nat := 24

/-- `DUCKNNG_QUACK_LOGICAL_STRUCT`. -/
def logicalStruct : Nat := 100

/-- `DUCKNNG_QUACK_LOGICAL_LIST`. -/
def logicalList : Nat := 101

/-- `DUCKNNG_QUACK_LOGICAL_MAP`. -/
def logicalMap : Nat := 102

/-- `DUCKNNG_QUACK_LOGICAL_ENUM`. -/
def logicalEnum : Nat := 104

/-- `DUCKNNG_QUACK_LOGICAL_UNION`. -/
def logicalUnion : Nat := 107

/-- `DUCKNNG_QUACK_LOGICAL_ARRAY`. -/
def logicalArray : Nat := 108

end Quack

/-- The wire identifier of a type without parameters
    (`ducknng_quack_duckdb_type_to_meta`). -/
def FlatKind.logicalTypeId : FlatKind → Nat
  | .boolean => 10 | .tinyint => 11 | .smallint => 12 | .integer => 13 | .bigint => 14
  | .date => 15 | .time => 16 | .timestampSec => 17 | .timestampMs => 18
  | .timestamp => 19 | .timestampNs => 20 | .float => 22 | .double => 23
  | .varchar => 25 | .blob => 26 | .interval => 27
  | .utinyint => 28 | .usmallint => 29 | .uinteger => 30 | .ubigint => 31
  | .timestampTz => 32 | .timeTz => 34 | .timeNs => 35
  | .uhugeint => 49 | .hugeint => 50 | .uuid => 54

/-- The type a wire identifier stands for (`ducknng_quack_meta_to_duckdb_type`); a
    `CHAR` becomes a `VARCHAR`. -/
def FlatKind.ofLogicalTypeId : Nat → Option FlatKind
  | 10 => some .boolean | 11 => some .tinyint | 12 => some .smallint | 13 => some .integer
  | 14 => some .bigint | 15 => some .date | 16 => some .time | 17 => some .timestampSec
  | 18 => some .timestampMs | 19 => some .timestamp | 20 => some .timestampNs
  | 22 => some .float | 23 => some .double | 24 => some .varchar | 25 => some .varchar
  | 26 => some .blob | 27 => some .interval | 28 => some .utinyint | 29 => some .usmallint
  | 30 => some .uinteger | 31 => some .ubigint | 32 => some .timestampTz
  | 34 => some .timeTz | 35 => some .timeNs | 49 => some .uhugeint | 50 => some .hugeint
  | 54 => some .uuid
  | _ => none

namespace Quack

/-! ### Classification of nodes (`ducknng_quack_core.c`) -/

/-- `ducknng_qk_type_is_nested`. -/
def typeIsNested (node : TypeNode) : Bool :=
  node.logicalTypeId = logicalList ∨ node.logicalTypeId = logicalMap ∨
  node.logicalTypeId = logicalStruct ∨ node.logicalTypeId = logicalUnion ∨
  node.logicalTypeId = logicalArray

/-- `ducknng_qk_type_is_varlen`. -/
def typeIsVarlen (node : TypeNode) : Bool :=
  node.logicalTypeId = FlatKind.logicalTypeId .varchar ∨ node.logicalTypeId = logicalChar ∨
  node.logicalTypeId = FlatKind.logicalTypeId .blob

/-- `ducknng_qk_type_fixed_width`; `0` for a type without one. -/
def typeFixedWidth (node : TypeNode) : Nat :=
  if node.logicalTypeId = logicalEnum then
    if node.enumLabels.length ≤ 0xff then 1
    else if node.enumLabels.length ≤ 0xffff then 2
    else 4
  else if node.logicalTypeId = logicalDecimal then
    if node.decimalWidth ≤ 4 then 2
    else if node.decimalWidth ≤ 9 then 4
    else if node.decimalWidth ≤ 18 then 8
    else if node.decimalWidth ≤ 38 then 16
    else 0
  else
    match node.logicalTypeId with
    | 10 | 11 | 28 => 1
    | 12 | 29 => 2
    | 13 | 30 | 15 | 22 => 4
    | 14 | 31 | 16 | 17 | 18 | 19 | 20 | 32 | 34 | 35 | 23 => 8
    | 27 | 50 | 49 | 54 => 16
    | _ => 0

/-- `ducknng_qk_type_is_sequence_integer`. -/
def typeIsSequenceInteger (node : TypeNode) : Bool :=
  node.logicalTypeId ∈ [11, 12, 13, 14, 28, 29, 30, 31]

/-- `ducknng_qk_type_expected_info_kind`; `none` for `UINT64_MAX`. -/
def typeExpectedInfoKind (logicalTypeId : Nat) : Option Nat :=
  if logicalTypeId = logicalDecimal then some 2
  else if logicalTypeId = logicalList ∨ logicalTypeId = logicalMap then some 4
  else if logicalTypeId = logicalStruct ∨ logicalTypeId = logicalUnion then some 5
  else if logicalTypeId = logicalEnum then some 6
  else if logicalTypeId = logicalArray then some 9
  else none

/-- `ducknng_qk_type_needs_info`. -/
def typeNeedsInfo (node : TypeNode) : Bool := (typeExpectedInfoKind node.logicalTypeId).isSome

mutual

/-- `ducknng_qk_type_equal`. -/
def typeEqual : TypeNode → TypeNode → Bool
  | ⟨id, w, s, n, ls, cn, cs⟩, ⟨id', w', s', n', ls', cn', cs'⟩ =>
    id == id' && w == w' && s == s' && n == n' && ls == ls' && cn == cn' && typesEqual cs cs'

/-- The loop of `ducknng_qk_type_equal` over the children. -/
def typesEqual : List TypeNode → List TypeNode → Bool
  | [], [] => true
  | a :: as, b :: bs => typeEqual a b && typesEqual as bs
  | _, _ => false

end

/-- `ducknng_qk_type_shape_validate`: the complaint about a malformed node. -/
def typeShapeValidate (node : TypeNode) : Option String :=
  if node.logicalTypeId = logicalDecimal then
    if node.decimalWidth = 0 ∨ node.decimalWidth > 38 ∨ node.decimalScale > node.decimalWidth
    then some "ducknng: quack decimal type has invalid width or scale"
    else none
  else if node.logicalTypeId = logicalList then
    if node.children.length ≠ 1 then some "ducknng: quack list type is missing its child"
    else none
  else if node.logicalTypeId = logicalMap then
    match node.children with
    | [entry] =>
      if entry.logicalTypeId = logicalStruct ∧ entry.children.length = 2 then none
      else some "ducknng: malformed quack map type"
    | _ => some "ducknng: malformed quack map type"
  else if node.logicalTypeId = logicalStruct then
    if node.children.length = 0 then some "ducknng: quack struct type is missing its members"
    else none
  else if node.logicalTypeId = logicalUnion then
    match node.children with
    | tag :: _ :: _ =>
      if tag.logicalTypeId = FlatKind.logicalTypeId .utinyint then none
      else some "ducknng: quack union type is missing its tag or members"
    | _ => some "ducknng: quack union type is missing its tag or members"
  else if node.logicalTypeId = logicalEnum then
    if node.enumLabels.length > maxEnumValues
    then some "ducknng: quack enum type is missing its dictionary"
    else none
  else if node.logicalTypeId = logicalArray then
    if node.arraySize = 0 ∨ node.children.length ≠ 1
    then some "ducknng: quack array type is missing its child or size"
    else none
  else if !typeIsVarlen node && typeFixedWidth node == 0 then
    some "ducknng: quack payload uses an unsupported logical type"
  else none

/-! ### Between DuckDB and the tree -/

/-- The message of every depth check on type trees. -/
def nestingMessage : String := "ducknng: quack type nesting exceeds supported depth"

/-- The names of the two members of a map entry. -/
def keyName : CStr := ⟨[107, 101, 121], by decide⟩

/-- The other one. -/
def valueName : CStr := ⟨[118, 97, 108, 117, 101], by decide⟩

/-- A node with a list of named children, added one by one. -/
def nodeAddChildren (node : TypeNode) (names : List CStr) (members : List TypeNode) : TypeNode :=
  { node with
    childNames := node.childNames ++ names
    children := node.children ++ members }

/-- `ducknng_quack_node_from_duckdb`. -/
def nodeFromDuckdb : Nat → LogicalType → Except Err TypeNode
  | 0, _ => .error (some nestingMessage)
  | left + 1, type =>
    match type with
    | .list child => do
      let node ← nodeFromDuckdb left child
      pure (nodeAddChild (nodeNew logicalList) node .empty)
    | .array child size => do
      let node ← nodeFromDuckdb left child
      pure (nodeAddChild { nodeNew logicalArray with arraySize := size % 2 ^ 32 } node .empty)
    | .struct names members => do
      let nodes ← members.mapM (nodeFromDuckdb left)
      pure (nodeAddChildren (nodeNew logicalStruct) names nodes)
    | .union names members => do
      -- The leading UTINYINT tag of a union's physical layout.
      let node := nodeAddChild (nodeNew logicalUnion)
        (nodeNew (FlatKind.logicalTypeId .utinyint)) .empty
      let nodes ← members.mapM (nodeFromDuckdb left)
      pure (nodeAddChildren node names nodes)
    | .map key value =>
      -- Key and value sit two levels down, below the entry structure.
      match left with
      | 0 => .error (some nestingMessage)
      | left + 1 => do
        let keyNode ← nodeFromDuckdb left key
        let valueNode ← nodeFromDuckdb left value
        let entry := nodeAddChild (nodeAddChild (nodeNew logicalStruct) keyNode keyName)
          valueNode valueName
        pure (nodeAddChild (nodeNew logicalMap) entry .empty)
    | .enum labels => .ok { nodeNew logicalEnum with enumLabels := labels }
    | .decimal width scale =>
      .ok { nodeNew logicalDecimal with decimalWidth := width, decimalScale := scale }
    | .flat kind => .ok (nodeNew kind.logicalTypeId)
    | .other _ => .error (some ("ducknng: ducknng_quack_batch currently supports scalar " ++
        "bool/integer/float/date/time/timestamp/decimal/varchar/blob/interval/hugeint/uuid " ++
        "columns only"))

/-- `ducknng_quack_node_to_duckdb`; creating a DuckDB type is taken to succeed. -/
def nodeToDuckdb : Nat → TypeNode → Except Err LogicalType
  | 0, _ => .error (some nestingMessage)
  | left + 1, node =>
    if node.logicalTypeId = logicalList ∨ node.logicalTypeId = logicalArray then
      match node.children with
      | [childNode] => do
        let child ← nodeToDuckdb left childNode
        pure (if node.logicalTypeId = logicalList then .list child
          else .array child node.arraySize)
      | _ => .error (some "ducknng: quack list/array type requires exactly one child")
    else if node.logicalTypeId = logicalStruct then
      if node.children.length = 0 then
        .error (some "ducknng: quack struct/union type has no members")
      else do
        let members ← node.children.mapM (nodeToDuckdb left)
        pure (.struct node.childNames members)
    else if node.logicalTypeId = logicalUnion then
      -- The tag is skipped: DuckDB adds it to a union itself.
      if node.children.length ≤ 1 then
        .error (some "ducknng: quack struct/union type has no members")
      else do
        let members ← (node.children.drop 1).mapM (nodeToDuckdb left)
        pure (.union (node.childNames.drop 1) members)
    else if node.logicalTypeId = logicalMap then
      match node.children with
      | [entry] =>
        if entry.logicalTypeId ≠ logicalStruct then
          .error (some "ducknng: malformed quack map type")
        else
          match entry.children with
          | [keyNode, valueNode] =>
            match left with
            | 0 => .error (some nestingMessage)
            | left + 1 => do
              let key ← nodeToDuckdb left keyNode
              let value ← nodeToDuckdb left valueNode
              pure (.map key value)
          | _ => .error (some "ducknng: malformed quack map type")
      | _ => .error (some "ducknng: malformed quack map type")
    else if node.logicalTypeId = logicalEnum then .ok (.enum node.enumLabels)
    else if node.logicalTypeId = logicalDecimal then
      .ok (.decimal node.decimalWidth node.decimalScale)
    else
      match FlatKind.ofLogicalTypeId node.logicalTypeId with
      | some kind => .ok (.flat kind)
      | none => .error (some
          "ducknng: ducknng_quack_batch decode encountered an unsupported logical type")

/-! ### Writing a type tree -/

/-- A field that is written only when it differs from its default `0`. -/
def writeNonzeroField (fieldId value : Nat) : QuackWrite :=
  writeWhen (value != 0) do
    writeFieldId fieldId
    writeUleb128 value

/-- `ducknng_quack_write_child_pair`, given the writer of the child's type. -/
def writeChildPair (writeChild : TypeNode → QuackWrite) (pair : CStr × TypeNode) : QuackWrite := do
  writeFieldId 0
  writeString pair.1
  writeFieldId 1
  writeChild pair.2
  writeFieldEnd

/-- The part of `ducknng_quack_write_type_node` between the kind field and the end
    of the type info, given the writer of a child's type. -/
def writeTypeInfo (writeChild : TypeNode → QuackWrite) (node : TypeNode) : QuackWrite :=
  if node.logicalTypeId = logicalDecimal then do
    writeUleb128 2
    writeNonzeroField 200 node.decimalWidth
    writeNonzeroField 201 node.decimalScale
  else if node.logicalTypeId = logicalList ∨ node.logicalTypeId = logicalMap then
    match node.children with
    | [child] => do
      writeUleb128 4
      writeFieldId 200
      writeChild child
    | _ => failWrite "ducknng: quack list/map type requires one child"
  else if node.logicalTypeId = logicalStruct ∨ node.logicalTypeId = logicalUnion then do
    writeUleb128 5
    writeFieldId 200
    writeUleb128 node.children.length
    emitEach (writeChildPair writeChild) (node.childNames.zip node.children)
  else if node.logicalTypeId = logicalEnum then do
    writeUleb128 6
    writeFieldId 200
    writeUleb128 node.enumLabels.length
    writeFieldId 201
    writeUleb128 node.enumLabels.length
    emitEach writeString node.enumLabels
  else if node.logicalTypeId = logicalArray then
    match node.children with
    | [child] => do
      writeUleb128 9
      writeFieldId 200
      writeChild child
      writeNonzeroField 201 node.arraySize
    | _ => failWrite "ducknng: quack array type requires one child"
  else failWrite "ducknng: internal error writing quack type info"

/-- `ducknng_quack_write_type_node`. -/
def writeTypeNode : Nat → TypeNode → QuackWrite
  | 0, _ => failWrite nestingMessage
  | left + 1, node => do
    writeFieldId 100
    writeUleb128 node.logicalTypeId
    writeWhen (typeNeedsInfo node) do
      writeFieldId 101
      writeByte 1
      writeFieldId 100
      writeTypeInfo (writeTypeNode left) node
      writeFieldEnd
    writeFieldEnd

/-! ### Reading a type tree -/

/-- The loop of `ducknng_quack_read_child_pair`, given the reader of the member's
    type. A field is read at most once, so three rounds reach the end. -/
def readChildPairLoop (readChild : QuackRead TypeNode) :
    Nat → Option CStr → Option TypeNode → QuackRead (CStr × TypeNode)
  | 0, _, _ => throw none
  | fuel + 1, name, type => do
    let field ← readU16le
    if field = fieldEnd then
      match type with
      | none => fail "ducknng: quack struct member missing its type"
      | some type => pure (name.getD .empty, type)
    else if field = 0 then
      if name.isSome then fail "ducknng: duplicate name in quack struct member"
      else do
        let text ← readStringDup
        readChildPairLoop readChild fuel (some text) type
    else if field = 1 then
      if type.isSome then fail "ducknng: duplicate type in quack struct member"
      else do
        let node ← readChild
        readChildPairLoop readChild fuel name (some node)
    else fail "ducknng: unexpected field in quack struct member"

variable (readChild : QuackRead TypeNode)

/-- `ducknng_quack_read_child_pair`. -/
def readChildPair : QuackRead (CStr × TypeNode) :=
  readChildPairLoop readChild 3 none none

/-- What `ducknng_quack_read_type_info` has collected: the node, the fields seen
    (a bit mask in the source) and the declared number of enum labels. -/
structure TypeInfoState where
  node : TypeNode
  seen : List Nat
  declaredEnumCount : Nat

/-- Field 200 of the type info, whose meaning depends on the type. -/
def readTypeInfo200 (s : TypeInfoState) :
    QuackRead TypeInfoState :=
  let id := s.node.logicalTypeId
  if id = logicalDecimal then do
    let value ← readUleb128
    if value = 0 ∨ value > 38 then fail "ducknng: quack decimal width must be between 1 and 38"
    else pure { s with node := { s.node with decimalWidth := value } }
  else if id = logicalList ∨ id = logicalMap ∨ id = logicalArray then do
    let child ← readChild
    pure { s with node := nodeAddChild s.node child .empty }
  else if id = logicalStruct ∨ id = logicalUnion then do
    let count ← readUleb128
    let remaining ← readerRemaining
    if count > maxStructMembers ∨ count > remaining ∨ count > sizeMax then
      fail "ducknng: quack struct member count exceeds its payload bound"
    else do
      let members ← repeatRead (readChildPair readChild) count
      let node := nodeAddChildren s.node (members.map Prod.fst) (members.map Prod.snd)
      pure { s with node := node }
  else if id = logicalEnum then do
    let value ← readUleb128
    if value > maxEnumValues then fail "ducknng: quack enum size exceeds limit"
    else pure { s with declaredEnumCount := value }
  else fail "ducknng: unexpected field 200 in quack type info"

/-- Field 201 of the type info; it must come after field 200. -/
def readTypeInfo201 (s : TypeInfoState) : QuackRead TypeInfoState :=
  let id := s.node.logicalTypeId
  if 200 ∉ s.seen then fail "ducknng: quack type info field 201 precedes field 200"
  else if id = logicalDecimal then do
    let value ← readUleb128
    if value > 38 then fail "ducknng: quack decimal scale exceeds 38"
    else pure { s with node := { s.node with decimalScale := value } }
  else if id = logicalArray then do
    let value ← readUleb128
    if value = 0 ∨ value > u32Max then fail "ducknng: quack array size is invalid"
    else pure { s with node := { s.node with arraySize := value } }
  else if id = logicalEnum then do
    let n ← readUleb128
    if n ≠ s.declaredEnumCount then fail "ducknng: quack enum values disagree with count"
    else do
      let remaining ← readerRemaining
      if n > maxEnumValues ∨ n > remaining ∨ n > sizeMax then
        fail "ducknng: quack enum size exceeds its payload bound"
      else do
        let labels ← repeatRead readStringDup n
        pure { s with node := { s.node with enumLabels := labels } }
  else fail "ducknng: unexpected field 201 in quack type info"

/-- The fields a type's info must have. -/
def requiredInfoFields (logicalTypeId : Nat) : List Nat :=
  if logicalTypeId = logicalDecimal ∨ logicalTypeId = logicalList ∨
      logicalTypeId = logicalMap ∨ logicalTypeId = logicalStruct ∨
      logicalTypeId = logicalUnion then [100, 200]
  else if logicalTypeId = logicalEnum ∨ logicalTypeId = logicalArray then [100, 200, 201]
  else [100]

/-- One field of the type info after its identifier. -/
def readTypeInfoField (field : Nat) (s : TypeInfoState) :
    QuackRead TypeInfoState :=
  if field = 100 then do
    let value ← readUleb128
    -- The source compares with `UINT64_MAX` for a type that takes no info.
    if value ≠ (typeExpectedInfoKind s.node.logicalTypeId).getD u64Max then
      fail "ducknng: quack logical type and extra-info kind disagree"
    else pure s
  else if field = 101 then do
    skipString
    pure s
  else if field = 103 then do
    let present ← readBoolean "ducknng: quack extension-info presence flag is not boolean"
    if present then fail "ducknng: extension type info is not supported"
    else pure s
  else if field = 200 then readTypeInfo200 readChild s
  else if field = 201 then readTypeInfo201 s
  else fail "ducknng: unknown field in quack type info"

/-- The loop of `ducknng_quack_read_type_info`. No field may occur twice, so six
    rounds reach the end. -/
def readTypeInfoLoop (readChild : QuackRead TypeNode) :
    Nat → TypeInfoState → QuackRead TypeNode
  | 0, _ => throw none
  | fuel + 1, s => do
    let field ← readU16le
    if field = fieldEnd then
      if ¬∀ f ∈ requiredInfoFields s.node.logicalTypeId, f ∈ s.seen then
        fail "ducknng: quack type info is missing required fields"
      else
        match typeShapeValidate s.node with
        | some message => fail message
        | none => pure s.node
    else if field ∈ s.seen then fail "ducknng: duplicate field in quack type info"
    else do
      let s ← readTypeInfoField readChild field { s with seen := field :: s.seen }
      readTypeInfoLoop readChild fuel s

/-- `ducknng_quack_read_type_info`. -/
def readTypeInfo (node : TypeNode) : QuackRead TypeNode :=
  readTypeInfoLoop readChild 6 ⟨node, [], 0⟩

/-- What the loop of `ducknng_quack_read_type_node` has collected. -/
structure TypeNodeState where
  node : TypeNode
  seenId : Bool
  seenInfo : Bool
  infoPresent : Bool

/-- The checks after the loop of `ducknng_quack_read_type_node`. -/
def finishTypeNode (s : TypeNodeState) : QuackRead TypeNode :=
  if !s.seenId then fail "ducknng: quack logical type missing its id"
  else if typeNeedsInfo s.node && (!s.seenInfo || !s.infoPresent) then
    fail "ducknng: nested or parameterized quack type is missing its type info"
  else if s.infoPresent then pure s.node
  else
    match typeShapeValidate s.node with
    | some message => fail message
    | none => pure s.node

/-- The loop of `ducknng_quack_read_type_node`, given the reader of a child. Each of
    its two fields is read at most once, so three rounds reach the end. -/
def readTypeNodeLoop (readChild : QuackRead TypeNode) :
    Nat → TypeNodeState → QuackRead TypeNode
  | 0, _ => throw none
  | fuel + 1, s => do
    let field ← readU16le
    if field = fieldEnd then finishTypeNode s
    else if field = 100 then
      if s.seenId then fail "ducknng: duplicate type id in quack logical type"
      else do
        let value ← readUleb128
        if value > 2 ^ 31 - 1 then
          fail "ducknng: quack logical type id exceeds supported range"
        else
          let node := { s.node with logicalTypeId := value }
          readTypeNodeLoop readChild fuel { s with node := node, seenId := true }
    else if field = 101 then
      if !s.seenId then fail "ducknng: quack type info precedes its id"
      else if s.seenInfo then fail "ducknng: duplicate type info in quack logical type"
      else do
        let present ← readBoolean "ducknng: quack type-info presence flag is not boolean"
        if present then do
          let node ← readTypeInfo readChild s.node
          readTypeNodeLoop readChild fuel ⟨node, s.seenId, true, true⟩
        else readTypeNodeLoop readChild fuel ⟨s.node, s.seenId, true, false⟩
    else fail "ducknng: unknown field in quack logical type"

/-- `ducknng_quack_read_type_node`. -/
def readTypeNode : Nat → QuackRead TypeNode
  | 0 => fail nestingMessage
  | left + 1 => nested (readTypeNodeLoop (readTypeNode left) 3 ⟨nodeNew 0, false, false, false⟩)

end Quack

/-! ### Supported types -/

/-- The types the codec is meant to carry: at most `left` levels, the decoder's
    bounds on members and labels, and the bounds DuckDB itself puts on the
    parameters of a type. -/
def LogicalType.withinLimits : Nat → LogicalType → Bool
  | 0, _ => false
  | left + 1, type =>
    match type with
    | .flat _ => true
    | .decimal width scale => 1 ≤ width ∧ width ≤ 38 ∧ scale ≤ width
    | .enum labels => labels.length ≤ Quack.maxEnumValues
    | .list child => child.withinLimits left
    | .array child size => 1 ≤ size && size ≤ u32Max && child.withinLimits left
    | .map key value =>
      match left with
      | 0 => false
      | left + 1 => key.withinLimits left && value.withinLimits left
    | .struct names members =>
      names.length == members.length && 1 ≤ members.length &&
        members.length ≤ Quack.maxStructMembers && members.all (withinLimits left)
    | .union names members =>
      names.length == members.length && 1 ≤ members.length &&
        members.length + 1 ≤ Quack.maxStructMembers && members.all (withinLimits left)
    | .other _ => false

end Ducknng
