import Ducknng.Checked
import Ducknng.Lib.LeafTree

namespace Ducknng.Arrow

open List

/-!
# Query results as Arrow arrays

`ducknng_ipc_out.c`: the two functions that turn the chunks of a DuckDB result into the
schema and the arrays the IPC writer gets. Formats, schemas and arrays are trees: a leaf
carries values, a node only arranges its children. An ENUM leaf comes out of DuckDB
dictionary-encoded.

* `ArrowConversion.EncodesEnums` — what is assumed of DuckDB's conversion.
* `TravelsAsLabels` — what the writer may rely on: one plain schema, arrays that conform to
  it, column names kept and every ENUM value spelled out.
* `collectChunks_cons` — only the first chunk is flattened, because it rewrites the schema.
* `enumsTravelAsLabels_iff` — the results for which both functions meet it.
-/

/-! ### DuckDB types and vectors -/

/-- The nested types of DuckDB. -/
inductive NestedKind where
  | list
  | array (size : Nat)
  | map
  | struct
  | union
  deriving DecidableEq, Repr

/-- A type without children: an ENUM with its labels, or any other, by its type id. -/
inductive LeafType where
  | scalar (id : Nat)
  | enum (labels : List (List UInt8))
  deriving DecidableEq, Repr

/-- A logical type; every position carries the name it has in its parent. -/
abbrev LogicalType := LeafTree (CStr × LeafType) (CStr × NestedKind)

/-- The values of a vector without children; `none` is NULL. An ENUM value is a position in
    the list of labels. -/
inductive LeafVector where
  | scalar (id : Nat) (cells : List (Option (List UInt8)))
  | enum (labels : List (List UInt8)) (cells : List (Option (Fin labels.length)))

def LeafVector.type : LeafVector → LeafType
  | .scalar id _ => .scalar id
  | .enum labels _ => .enum labels

/-- A nested vector has one entry per row: NULL, or where the row's values lie in the
    children. -/
structure NestedRows where
  kind : NestedKind
  rows : List (Option (Nat × Nat))
  deriving DecidableEq

/-- A vector of a data chunk. -/
abbrev DuckVector := LeafTree LeafVector NestedRows

/-- The vector is one of the type. -/
def HasType : LogicalType → DuckVector → Prop :=
  LeafTree.Rel (fun t v => v.type = t.2) (fun t v => v.kind = t.2)

/-- A query result: the columns, and the chunks that are still to be fetched. -/
structure QueryResult where
  columns : List LogicalType
  chunks : List (List DuckVector)
  typed : ∀ chunk ∈ chunks, Forall₂ HasType columns chunk

/-- The name of a column or a child. -/
def LogicalType.name : LogicalType → CStr
  | .leaf (name, _) => name
  | .node (name, _) _ => name

open LogicalType

/-! ### Arrow schemas and arrays -/

/-- The format of a schema leaf: that of a DuckDB type, or the indices of a dictionary. -/
inductive LeafFormat where
  | plain (id : Nat)
  | index
  deriving DecidableEq, Repr

structure SchemaLeaf where
  name : CStr
  format : LeafFormat
  dictionary : Bool
  deriving DecidableEq

/-- A MAP's entries are its key and its value: the struct around them is never NULL and
    never dictionary-encoded. -/
abbrev ArrowSchema := LeafTree SchemaLeaf (CStr × NestedKind)

/-- The buffers of an array leaf. -/
inductive ArrayLeaf where
  | plain (id : Nat) (cells : List (Option (List UInt8)))
  | dictionary (indices : List (Option Nat)) (values : List (List UInt8))
  deriving DecidableEq

abbrev ArrowArray := LeafTree ArrayLeaf NestedRows

def ArrowSchema.name : ArrowSchema → CStr
  | .leaf s => s.name
  | .node (name, _) _ => name

/-- `schema->dictionary` of a column. -/
def ArrowSchema.hasDictionary : ArrowSchema → Bool
  | .leaf s => s.dictionary
  | .node _ _ => false

def ArrayLeaf.hasDictionary : ArrayLeaf → Bool
  | .plain _ _ => false
  | .dictionary _ _ => true

/-! ### DuckDB's conversion -/

/-- `duckdb_to_arrow_schema` for a column type, and `duckdb_data_chunk_to_arrow` for one column. -/
structure ArrowConversion where
  schema : LogicalType → ArrowSchema
  array : DuckVector → ArrowArray

/-- An ENUM has indices into a dictionary, anything else the values themselves. -/
def LeafType.toArrow : CStr × LeafType → SchemaLeaf
  | (name, .scalar id) => ⟨name, .plain id, false⟩
  | (name, .enum _) => ⟨name, .index, true⟩

/-- A schema in the shape of the type. -/
def LogicalType.toArrow (t : LogicalType) : ArrowSchema := t.map LeafType.toArrow id

def LeafVector.toArrow : LeafVector → ArrayLeaf
  | .scalar id cells => .plain id cells
  | .enum labels cells => .dictionary (cells.map (Option.map Fin.val)) labels

/-- An array in the shape of the vector. -/
def DuckVector.toArrow (v : DuckVector) : ArrowArray := v.map LeafVector.toArrow id

/-- What is assumed of DuckDB: it keeps shape and names, encodes ENUMs as dictionaries at any
    depth, and nothing else. -/
structure ArrowConversion.EncodesEnums (duckdb : ArrowConversion) : Prop where
  schema : duckdb.schema = toArrow
  array : duckdb.array = DuckVector.toArrow

/-! ### The nesting limit -/

/-- `DUCKNNG_ARROW_PRODUCE_MAX_NESTING`. -/
def arrowProduceMaxNesting : Nat := 16

/-- The kinds whose children are measured in a loop that stops at the cap. -/
def NestedKind.stopsAtCap : NestedKind → Bool
  | .struct | .union => true
  | .list | .array _ | .map => false

mutual

/-- `ducknng_logical_type_nesting_depth`. -/
def nestingDepth : LogicalType → Int → Nat
  | .leaf _, _ => 0
  | .node (_, kind) children, cap =>
    if cap < 0 then 0 else 1 + maxChildDepth kind.stopsAtCap children cap 0

def maxChildDepth (stops : Bool) : List LogicalType → Int → Nat → Nat
  | [], _, maxChild => maxChild
  | child :: rest, cap, maxChild =>
    let maxChild := max maxChild (nestingDepth child (cap - 1))
    if stops && decide ((maxChild : Int) ≥ cap) then maxChild
    else maxChildDepth stops rest cap maxChild

end

def tooDeep (t : LogicalType) : Bool :=
  decide (nestingDepth t (arrowProduceMaxNesting + 1) > arrowProduceMaxNesting)

/-- `ducknng_result_to_arrow_schema`. -/
def resultToArrowSchema (duckdb : ArrowConversion) (columns : List LogicalType) :
    Except String (List ArrowSchema) :=
  if columns.any tooDeep then
    .error ("ducknng: result column nesting is too deep to serialize to Arrow IPC " ++
      "(exceeds the supported nesting limit)")
  else .ok (columns.map duckdb.schema)

/-! ### Flattening -/

/-- `DUCKDB_TYPE_VARCHAR`, which is a plain UTF-8 string in Arrow. -/
def varcharType : Nat := 17

section
variable (viewError : String)

/-- `ducknng_flatten_one_dict_child`; `viewError` is what nanoarrow says of an array that is
    not of its schema. -/
def flattenOneDictChild : ArrowSchema → ArrowArray → Except String (ArrowSchema × ArrowArray)
  | .leaf s, .leaf (.dictionary indices values) =>
    .ok (.leaf ⟨s.name, .plain varcharType, false⟩,
      .leaf (.plain varcharType (indices.map (Option.map fun i => values.getD i []))))
  | _, _ => .error viewError

/-- The body of the column loop: the schema decides whether the column is flattened. -/
def flattenColumn (s : ArrowSchema) (a : ArrowArray) : Except String (ArrowSchema × ArrowArray) :=
  if s.hasDictionary then flattenOneDictChild viewError s a else .ok (s, a)

/-- `ducknng_flatten_dict_columns`. -/
def flattenDictColumns :
    List ArrowSchema → List ArrowArray → Except String (List ArrowSchema × List ArrowArray)
  | [], arrays => .ok ([], arrays)
  | _ :: _, [] => .error viewError
  | s :: ss, a :: as => do
    let (s', a') ← flattenColumn viewError s a
    let (ss', as') ← flattenDictColumns ss as
    .ok (s' :: ss', a' :: as')

variable (duckdb : ArrowConversion)

/-- The chunk loop: each chunk is converted, flattened and collected, and the schema the
    flattening left behind is the one the next chunk is judged by. -/
def collectChunks (schema : List ArrowSchema) :
    List (List DuckVector) → Except String (List ArrowSchema × List (List ArrowArray))
  | [] => .ok (schema, [])
  | chunk :: chunks => do
    let (schema', array) ← flattenDictColumns viewError schema (chunk.map duckdb.array)
    let (schema'', arrays) ← collectChunks schema' chunks
    .ok (schema'', array :: arrays)

/-- `ducknng_result_to_ipc_stream`: what the writer is given. -/
def resultToIpcStream (r : QueryResult) :
    Except String (List ArrowSchema × List (List ArrowArray)) := do
  let schema ← resultToArrowSchema duckdb r.columns
  collectChunks viewError duckdb schema r.chunks

/-- The chunks one call of `ducknng_result_next_chunks_to_ipc` takes. -/
def QueryResult.nextChunks (r : QueryResult) (maxChunks : Nat) : List (List DuckVector) :=
  r.chunks.take (if maxChunks = 0 then 1 else maxChunks)

/-- `ducknng_result_next_chunks_to_ipc`: what the writer is given, if anything. -/
def resultNextChunksToIpc (r : QueryResult) (maxChunks : Nat) :
    Except String (Option (List ArrowSchema × List (List ArrowArray))) := do
  let schema ← resultToArrowSchema duckdb r.columns
  let (schema', arrays) ← collectChunks viewError duckdb schema (r.nextChunks maxChunks)
  .ok (if arrays = [] then none else some (schema', arrays))

end

/-! ### What the writer may rely on -/

/-- A leaf array has the buffers of its schema. -/
def LeafConforms (s : SchemaLeaf) : ArrayLeaf → Prop
  | .plain id _ => s.format = .plain id ∧ s.dictionary = false
  | .dictionary _ _ => s.format = .index ∧ s.dictionary = true

/-- An array is one of a schema. -/
def Conforms : ArrowSchema → ArrowArray → Prop :=
  LeafTree.Rel LeafConforms fun s a => a.kind = s.2

/-- No position of a schema is dictionary-encoded. -/
def PlainSchema (s : ArrowSchema) : Prop := ∀ leaf ∈ s.leaves, leaf.dictionary = false

/-- No position of an array is dictionary-encoded. -/
def PlainArray (a : ArrowArray) : Prop := ∀ leaf ∈ a.leaves, leaf.hasDictionary = false

/-- A leaf vector with every ENUM value spelled out, NULLs kept. -/
def LeafVector.spelled : LeafVector → ArrayLeaf
  | .scalar id cells => .plain id cells
  | .enum labels cells => .plain varcharType (cells.map (Option.map labels.get))

/-- A vector with every ENUM value in it spelled out, at any depth. -/
def DuckVector.spelled (v : DuckVector) : ArrowArray := v.map LeafVector.spelled id

/-- What is handed to the writer for some chunks of a result. -/
structure TravelsAsLabels (columns : List LogicalType) (chunks : List (List DuckVector))
    (schema : List ArrowSchema) (arrays : List (List ArrowArray)) : Prop where
  conforms : ∀ array ∈ arrays, Forall₂ Conforms schema array
  plainSchema : ∀ s ∈ schema, PlainSchema s
  plainArrays : ∀ array ∈ arrays, ∀ a ∈ array, PlainArray a
  names : schema.map ArrowSchema.name = columns.map name
  labels : arrays = chunks.map (map DuckVector.spelled)

/-- A type with an ENUM inside a LIST, ARRAY, MAP, STRUCT or UNION. -/
def NestsEnum : LogicalType → Prop
  | .leaf _ => False
  | .node name children =>
    ∃ leaf ∈ (LeafTree.node name children : LogicalType).leaves, ∃ labels, leaf.2 = .enum labels

/-- A column that is an ENUM itself. -/
def IsEnum (t : LogicalType) : Prop := ∃ name labels, t = .leaf (name, .enum labels)

/-! ### One chunk -/

/-- The schema of a column after a chunk went through. -/
def LogicalType.flattened : LogicalType → ArrowSchema
  | .leaf (name, .enum _) => .leaf ⟨name, .plain varcharType, false⟩
  | t => t.toArrow

/-- A column of the first chunk, as it is collected. -/
def DuckVector.flattened : DuckVector → ArrowArray
  | .leaf (.enum labels cells) => .leaf (LeafVector.enum labels cells).spelled
  | v => v.toArrow

/-- A column is never flattened twice. -/
theorem flattenColumn_flattened (viewError : String) (t : LogicalType) (a : ArrowArray) :
    flattenColumn viewError t.flattened a = .ok (t.flattened, a) := by
  match t with
  | .leaf (name, .enum labels) => rfl
  | .leaf (name, .scalar id) => rfl
  | .node name children => rfl

/-- Looking an index up in the dictionary finds the label. -/
theorem spelled_lookup (labels : List (List UInt8)) (cells : List (Option (Fin labels.length))) :
    (cells.map (Option.map Fin.val)).map (Option.map fun i => labels.getD i []) =
      cells.map (Option.map labels.get) := by
  rw [map_map]
  refine map_congr_left fun cell _ => ?_
  cases cell with
  | none => rfl
  | some i => simp

variable {viewError : String} {t : LogicalType} {columns : List LogicalType}

/-- The first time a column is seen, an ENUM is flattened and the rest is left alone. -/
theorem flattenColumn_toArrow {v : DuckVector} (h : HasType t v) :
    flattenColumn viewError t.toArrow v.toArrow = .ok (t.flattened, v.flattened) := by
  cases h with
  | @leaf a c h =>
    obtain ⟨name, leafType⟩ := a
    cases c with
    | scalar id cells =>
      cases leafType with
      | scalar id' => rfl
      | enum labels => cases h
    | enum labels cells =>
      cases leafType with
      | scalar id' => cases h
      | enum labels' =>
        show Except.ok (_, LeafTree.leaf (ArrayLeaf.plain varcharType _)) = _
        rw [spelled_lookup]
        rfl
  | node h hs => rfl

theorem flattenDictColumns_first {chunk : List DuckVector} (h : Forall₂ HasType columns chunk) :
    flattenDictColumns viewError (columns.map toArrow)
      (chunk.map DuckVector.toArrow) =
      .ok (columns.map flattened, chunk.map DuckVector.flattened) := by
  induction h with
  | nil => rfl
  | cons h _ ih =>
    simp only [map_cons, flattenDictColumns, flattenColumn_toArrow h, ih]
    rfl

/-- Once the schema is rewritten no column is flattened any more. -/
theorem flattenDictColumns_later {arrays : List ArrowArray} (h : columns.length = arrays.length) :
    flattenDictColumns viewError (columns.map flattened) arrays =
      .ok (columns.map flattened, arrays) := by
  induction columns generalizing arrays with
  | nil => rfl
  | cons t columns ih =>
    cases arrays with
    | nil => cases h
    | cons a arrays =>
      have hlen : columns.length = arrays.length := by simpa using h
      simp only [map_cons, flattenDictColumns, flattenColumn_flattened, ih hlen]
      rfl

/-! ### The chunk loop -/

section
variable {duckdb : ArrowConversion} (hduckdb : duckdb.EncodesEnums)
include hduckdb

/-- The chunks behind the first one are collected as DuckDB gave them. -/
theorem collectChunks_later {chunks : List (List DuckVector)}
    (h : ∀ chunk ∈ chunks, Forall₂ HasType columns chunk) :
    collectChunks viewError duckdb (columns.map flattened) chunks =
      .ok (columns.map flattened, chunks.map (map DuckVector.toArrow)) := by
  induction chunks with
  | nil => rfl
  | cons chunk chunks ih =>
    obtain ⟨hchunk, hchunks⟩ := forall_mem_cons.1 h
    have hlen : columns.length = (chunk.map DuckVector.toArrow).length := by
      rw [length_map]
      exact hchunk.length_eq
    rw [collectChunks, hduckdb.array, flattenDictColumns_later hlen]
    show (collectChunks viewError _ _ chunks >>= _) = _
    rw [ih hchunks]
    rfl

/-- Only the first chunk is flattened. -/
theorem collectChunks_cons {chunk : List DuckVector} {chunks : List (List DuckVector)}
    (h : ∀ c ∈ chunk :: chunks, Forall₂ HasType columns c) :
    collectChunks viewError duckdb (columns.map toArrow) (chunk :: chunks) =
      .ok (columns.map flattened,
        chunk.map DuckVector.flattened :: chunks.map (map DuckVector.toArrow)) := by
  obtain ⟨hchunk, hchunks⟩ := forall_mem_cons.1 h
  rw [collectChunks, hduckdb.array, flattenDictColumns_first hchunk]
  show (collectChunks viewError _ _ chunks >>= _) = _
  rw [collectChunks_later hduckdb hchunks]
  rfl

end

/-! ### One column -/

theorem name_flattened (t : LogicalType) : t.flattened.name = t.name := by
  match t with
  | .leaf (name, .enum labels) => rfl
  | .leaf (name, .scalar id) => rfl
  | .node name children => rfl

/-- DuckDB's schema of a type is plain when no ENUM occurs in it. -/
theorem plainSchema_toArrow_iff :
    PlainSchema t.toArrow ↔ ∀ leaf ∈ t.leaves, ∀ labels, leaf.2 ≠ .enum labels := by
  constructor
  · intro h leaf hleaf labels henum
    have hdict := h _ (LeafTree.mem_leaves_map.2 ⟨leaf, hleaf, rfl⟩)
    obtain ⟨name, leafType⟩ := leaf
    subst henum
    cases hdict
  · intro h s hs
    obtain ⟨⟨name, leafType⟩, hleaf, rfl⟩ := LeafTree.mem_leaves_map.1 hs
    cases leafType with
    | scalar id => rfl
    | enum labels => exact absurd rfl (h _ hleaf labels)

theorem plainSchema_flattened_iff : PlainSchema t.flattened ↔ ¬ NestsEnum t := by
  match t with
  | .leaf (name, .enum labels) => simp [flattened, PlainSchema, NestsEnum]
  | .leaf (name, .scalar id) =>
    simp [flattened, toArrow, LeafType.toArrow, PlainSchema, NestsEnum]
  | .node name children =>
    refine plainSchema_toArrow_iff.trans ?_
    simp only [NestsEnum, not_exists, not_and]

/-- A column that is no ENUM is written as DuckDB gave it. -/
theorem toArrow_eq_flattened (h : ¬ IsEnum t) : t.toArrow = t.flattened := by
  match t with
  | .leaf (name, .enum labels) => exact absurd ⟨name, labels, rfl⟩ h
  | .leaf (name, .scalar id) => rfl
  | .node name children => rfl

section
variable {t : LogicalType} {v : DuckVector}

theorem vector_toArrow_eq_flattened (hv : HasType t v) (h : ¬ IsEnum t) :
    v.toArrow = v.flattened := by
  cases hv with
  | @leaf a c hv =>
    obtain ⟨name, leafType⟩ := a
    cases c with
    | scalar id cells => rfl
    | enum labels cells =>
      cases hv
      exact absurd ⟨name, labels, rfl⟩ h
  | node hv hs => rfl

/-- Without an ENUM below the top, flattening the column spells it out. -/
theorem flattened_eq_spelled (hv : HasType t v) (h : ¬ NestsEnum t) :
    v.flattened = v.spelled := by
  cases v with
  | leaf c =>
    cases c with
    | scalar id cells => rfl
    | enum labels cells => rfl
  | node b children =>
    refine LeafTree.map_eq_map_of_leaves fun leaf hleaf => ?_
    obtain ⟨a, ha, htype⟩ := LeafTree.Rel.exists_leaf hv leaf hleaf
    cases hv with
    | node hb hs =>
      cases leaf with
      | scalar id cells => rfl
      | enum labels cells => exact absurd ⟨a, ha, labels, htype.symm⟩ h

/-- A spelled-out vector has no dictionary in it. -/
theorem plainArray_spelled (v : DuckVector) : PlainArray v.spelled := by
  intro leaf hleaf
  obtain ⟨c, _, rfl⟩ := LeafTree.mem_leaves_map.1 hleaf
  cases c with
  | scalar id cells => rfl
  | enum labels cells => rfl

/-- DuckDB's array of a vector is one of DuckDB's schema of its type. -/
theorem conforms_toArrow (hv : HasType t v) : Conforms t.toArrow v.toArrow := by
  refine LeafTree.Rel.map (fun a c h => ?_) (fun b d h => h) hv
  obtain ⟨name, leafType⟩ := a
  cases c with
  | scalar id cells =>
    cases h
    exact ⟨rfl, rfl⟩
  | enum labels cells =>
    cases h
    exact ⟨rfl, rfl⟩

theorem conforms_flattened (hv : HasType t v) : Conforms t.flattened v.flattened := by
  by_cases h : IsEnum t
  · obtain ⟨name, labels, rfl⟩ := h
    cases hv with
    | @leaf a c hv =>
      cases c with
      | scalar id cells => cases hv
      | enum labels' cells => exact .leaf ⟨rfl, rfl⟩
  · rw [← toArrow_eq_flattened h, ← vector_toArrow_eq_flattened hv h]
    exact conforms_toArrow hv

/-- An ENUM column as DuckDB gives it is dictionary-encoded. -/
theorem not_plainArray_toArrow (hv : HasType t v) (h : IsEnum t) : ¬ PlainArray v.toArrow := by
  obtain ⟨name, labels, rfl⟩ := h
  intro hplain
  cases hv with
  | @leaf a c hv =>
    cases c with
    | scalar id cells => cases hv
    | enum labels' cells => exact Bool.noConfusion (hplain _ (mem_singleton_self _))

theorem not_plainSchema_toArrow (h : IsEnum t) : ¬ PlainSchema t.toArrow := by
  obtain ⟨name, labels, rfl⟩ := h
  intro hplain
  exact plainSchema_toArrow_iff.1 hplain _ (mem_singleton_self _) labels rfl

end

/-! ### The collected arrays -/

section
variable {columns : List LogicalType} {chunks : List (List DuckVector)}

/-- Flattening every chunk would do when no ENUM is nested. -/
theorem travelsAsLabels_flattened (htyped : ∀ c ∈ chunks, Forall₂ HasType columns c)
    (hnests : ∀ t ∈ columns, ¬ NestsEnum t) :
    TravelsAsLabels columns chunks (columns.map flattened)
      (chunks.map (map DuckVector.flattened)) := by
  have hspelled : ∀ c ∈ chunks, c.map DuckVector.flattened = c.map DuckVector.spelled := by
    intro c hc
    refine map_congr_left fun v hv => ?_
    obtain ⟨t, ht, hv⟩ := LeafTree.exists_left_of_forall₂ (htyped c hc) v hv
    exact flattened_eq_spelled hv (hnests t ht)
  refine ⟨?_, ?_, ?_, ?_, map_congr_left hspelled⟩
  · intro array harray
    obtain ⟨c, hc, rfl⟩ := mem_map.1 harray
    refine forall₂_map_left_iff.2 (forall₂_map_right_iff.2 ?_)
    exact (htyped c hc).imp fun t v => conforms_flattened
  · intro s hs
    obtain ⟨t, ht, rfl⟩ := mem_map.1 hs
    exact plainSchema_flattened_iff.2 (hnests t ht)
  · intro array harray a ha
    obtain ⟨c, hc, rfl⟩ := mem_map.1 harray
    rw [hspelled c hc] at ha
    obtain ⟨v, _, rfl⟩ := mem_map.1 ha
    exact plainArray_spelled v
  · rw [map_map]
    exact map_congr_left fun t _ => name_flattened t

/-- Without a top-level ENUM DuckDB's arrays are the flattened ones. -/
theorem map_toArrow_eq_flattened (htyped : ∀ c ∈ chunks, Forall₂ HasType columns c)
    (hno : ∀ t ∈ columns, ¬ IsEnum t) :
    chunks.map (map DuckVector.toArrow) = chunks.map (map DuckVector.flattened) := by
  refine map_congr_left fun c hc => map_congr_left fun v hv => ?_
  obtain ⟨t, ht, hv⟩ := LeafTree.exists_left_of_forall₂ (htyped c hc) v hv
  exact vector_toArrow_eq_flattened hv (hno t ht)

/-- What the loop collects from the chunks of a result. -/
theorem collectChunks_toArrow {duckdb : ArrowConversion} (hduckdb : duckdb.EncodesEnums)
    (viewError : String)
    (htyped : ∀ c ∈ chunks, Forall₂ HasType columns c) :
    ∃ schema arrays,
      collectChunks viewError duckdb (columns.map duckdb.schema) chunks = .ok (schema, arrays) ∧
      arrays.length = chunks.length ∧
      (TravelsAsLabels columns chunks schema arrays ↔
        (∀ t ∈ columns, ¬ NestsEnum t) ∧ ((∃ t ∈ columns, IsEnum t) → chunks.length = 1)) := by
  rw [hduckdb.schema]
  cases chunks with
  | nil =>
    refine ⟨_, _, rfl, rfl, ?_⟩
    constructor
    · intro h
      -- nothing was flattened, so the schema is the one DuckDB gave
      have hplain : ∀ t ∈ columns, ¬ IsEnum t := fun t ht henum =>
        not_plainSchema_toArrow henum (h.plainSchema _ (mem_map_of_mem ht))
      refine ⟨fun t ht => ?_, fun ⟨t, ht, henum⟩ => absurd henum (hplain t ht)⟩
      rw [← plainSchema_flattened_iff, ← toArrow_eq_flattened (hplain t ht)]
      exact h.plainSchema _ (mem_map_of_mem ht)
    · rintro ⟨hnests, hone⟩
      have hno : ∀ t ∈ columns, ¬ IsEnum t := fun t ht henum =>
        absurd (hone ⟨t, ht, henum⟩) (by simp)
      have htravels := travelsAsLabels_flattened htyped hnests
      rwa [← map_congr_left fun t ht => toArrow_eq_flattened (hno t ht)] at htravels
  | cons chunk chunks =>
    refine ⟨_, _, collectChunks_cons hduckdb htyped, by simp, ?_⟩
    obtain ⟨hchunk, hchunks⟩ := forall_mem_cons.1 htyped
    constructor
    · intro h
      refine ⟨fun t ht => plainSchema_flattened_iff.1 (h.plainSchema _ (mem_map_of_mem ht)),
        ?_⟩
      rintro ⟨t, ht, henum⟩
      cases chunks with
      | nil => rfl
      | cons later rest =>
        -- the second chunk was not flattened
        obtain ⟨v, hv, htype⟩ := LeafTree.exists_left_of_forall₂ (hchunks later (by simp)).flip t ht
        have hplain := h.plainArrays (later.map DuckVector.toArrow) (by simp) v.toArrow
          (mem_map_of_mem hv)
        exact absurd hplain (not_plainArray_toArrow htype henum)
    · rintro ⟨hnests, hone⟩
      have htravels := travelsAsLabels_flattened htyped hnests
      by_cases henum : ∃ t ∈ columns, IsEnum t
      · have hnil : chunks = [] := by simpa using hone henum
        subst hnil
        exact htravels
      · have hno : ∀ t ∈ columns, ¬ IsEnum t := fun t ht h => henum ⟨t, ht, h⟩
        rw [map_toArrow_eq_flattened hchunks hno]
        exact htravels

end

/-! ### The two functions -/

/-- A result is refused for its nesting before anything is handed over. -/
def QueryResult.refused (r : QueryResult) : Prop := r.columns.any tooDeep = true

/-- No ENUM is nested, and a top-level ENUM comes in exactly one chunk. -/
def Flattenable (columns : List LogicalType) (chunks : List (List DuckVector)) : Prop :=
  (∀ t ∈ columns, ¬ NestsEnum t) ∧ ((∃ t ∈ columns, IsEnum t) → chunks.length = 1)

section
variable (duckdb : ArrowConversion)

/-- Whatever `ducknng_result_to_ipc_stream` hands to the writer travels as labels. -/
def StreamTravels (viewError : String) (r : QueryResult) : Prop :=
  ∀ schema arrays, resultToIpcStream viewError duckdb r = .ok (schema, arrays) →
    TravelsAsLabels r.columns r.chunks schema arrays

/-- Whatever `ducknng_result_next_chunks_to_ipc` hands to the writer travels as labels. -/
def NextChunksTravel (viewError : String) (r : QueryResult) (maxChunks : Nat) : Prop :=
  ∀ schema arrays,
    resultNextChunksToIpc viewError duckdb r maxChunks = .ok (some (schema, arrays)) →
    TravelsAsLabels r.columns (r.nextChunks maxChunks) schema arrays

variable {duckdb} (hduckdb : duckdb.EncodesEnums)
include hduckdb

theorem streamTravels_iff (viewError : String) (r : QueryResult) :
    StreamTravels duckdb viewError r ↔ r.refused ∨ Flattenable r.columns r.chunks := by
  obtain ⟨schema, arrays, hcollect, _, htravels⟩ :=
    collectChunks_toArrow hduckdb viewError r.typed
  unfold StreamTravels resultToIpcStream resultToArrowSchema QueryResult.refused
  split
  · next hdeep => simp [hdeep, bind, Except.bind]
  · next hdeep =>
    simp only [hdeep, Bool.false_eq_true, false_or, bind, Except.bind, hcollect,
      Except.ok.injEq, Prod.mk.injEq]
    constructor
    · exact fun h => htravels.1 (h schema arrays ⟨rfl, rfl⟩)
    · rintro h _ _ ⟨rfl, rfl⟩
      exact htravels.2 h

theorem nextChunksTravel_iff (viewError : String) (r : QueryResult) (maxChunks : Nat) :
    NextChunksTravel duckdb viewError r maxChunks ↔
      r.refused ∨ r.chunks = [] ∨ Flattenable r.columns (r.nextChunks maxChunks) := by
  have htyped : ∀ c ∈ r.nextChunks maxChunks, Forall₂ HasType r.columns c :=
    fun c hc => r.typed c (mem_of_mem_take hc)
  have hnil : r.nextChunks maxChunks = [] ↔ r.chunks = [] := by
    unfold QueryResult.nextChunks
    rw [take_eq_nil_iff]
    refine or_iff_right ?_
    split <;> omega
  obtain ⟨schema, arrays, hcollect, hlen, htravels⟩ :=
    collectChunks_toArrow hduckdb viewError htyped
  have harrays : arrays = [] ↔ r.chunks = [] := by
    rw [← hnil, ← length_eq_zero_iff, hlen, length_eq_zero_iff]
  unfold NextChunksTravel resultNextChunksToIpc resultToArrowSchema QueryResult.refused
  split
  · next hdeep => simp [hdeep, bind, Except.bind]
  · next hdeep =>
    simp only [hdeep, Bool.false_eq_true, bind, Except.bind, hcollect, Except.ok.injEq]
    by_cases hempty : r.chunks = []
    · simp [hempty, harrays.2 hempty]
    · simp only [if_neg (mt harrays.1 hempty), Option.some.injEq, Prod.mk.injEq, hempty, false_or]
      constructor
      · exact fun h => htravels.1 (h schema arrays ⟨rfl, rfl⟩)
      · rintro h _ _ ⟨rfl, rfl⟩
        exact htravels.2 h

end

/-- Both functions hand the writer ENUM columns as labels exactly for the results whose ENUM
    columns are at the top and come in one chunk. A stream writes its schema even without a
    chunk, so there an empty result with an ENUM column is no exception. -/
theorem enumsTravelAsLabels_iff {duckdb : ArrowConversion} (hduckdb : duckdb.EncodesEnums)
    (viewError : String) (r : QueryResult) (maxChunks : Nat) :
    (StreamTravels duckdb viewError r ↔ r.refused ∨ Flattenable r.columns r.chunks) ∧
      (NextChunksTravel duckdb viewError r maxChunks ↔
        r.refused ∨ r.chunks = [] ∨ Flattenable r.columns (r.nextChunks maxChunks)) :=
  ⟨streamTravels_iff hduckdb viewError r, nextChunksTravel_iff hduckdb viewError r maxChunks⟩

/-- A conversion that does what is assumed. -/
def dictionaryConversion : ArrowConversion := ⟨toArrow, DuckVector.toArrow⟩

/-- `SELECT e FROM t` for a column `e ENUM('a')` whose rows come in two chunks of one row. -/
def enumInTwoChunks : QueryResult where
  columns := [.leaf (⟨[0x65], by decide⟩, .enum [[0x61]])]
  chunks := replicate 2 [.leaf (.enum [[0x61]] [some 0])]
  typed := by
    intro chunk hchunk
    obtain ⟨_, rfl⟩ := mem_replicate.1 hchunk
    exact .cons (.leaf rfl) .nil

theorem enumsTravelAsLabels_iff_oneOfTwo :
    NextChunksTravel dictionaryConversion "" enumInTwoChunks 1 := by
  refine (enumsTravelAsLabels_iff ⟨rfl, rfl⟩ "" enumInTwoChunks 1).2.2 (.inr (.inr ⟨?_, ?_⟩))
  · intro t ht
    rw [mem_singleton.1 ht]
    exact id
  · exact fun _ => rfl

/-- The second of two chunks reaches the writer dictionary-encoded, under a schema that says
    plain text. -/
theorem second_chunk_stays_dictionary :
    ¬ StreamTravels dictionaryConversion "" enumInTwoChunks ∧
      ¬ NextChunksTravel dictionaryConversion "" enumInTwoChunks 2 := by
  have henum : ∃ t ∈ enumInTwoChunks.columns, IsEnum t := ⟨_, mem_singleton_self _, _, _, rfl⟩
  have hshallow : ¬ enumInTwoChunks.refused := by
    unfold QueryResult.refused
    decide
  constructor
  · rw [streamTravels_iff ⟨rfl, rfl⟩]
    rintro (hrefused | ⟨_, hone⟩)
    · exact hshallow hrefused
    · exact absurd (hone henum) (by decide)
  · rw [nextChunksTravel_iff ⟨rfl, rfl⟩]
    rintro (hrefused | hnone | ⟨_, hone⟩)
    · exact hshallow hrefused
    · cases hnone
    · exact absurd (hone henum) (by decide)

end Ducknng.Arrow
