import Ducknng.Quack.Agreement

namespace Ducknng

open List ByteCodec Step Uncharged

/-!
# Compressed vectors mean their flat expansion

A constant vector wraps a vector of one row and a dictionary vector wraps one of fewer
rows; either may wrap another compressed vector. Decoding peels the layers and copies
selected rows on the way back. The result is the selection from the innermost vector:
row `0` below a constant, the row a selection names below a dictionary.

* `Quack.decodeVectorInto_wrapped` — a decoded vector is the selection through any
  number of its layers.
* `Quack.decodeVectorInto_refuses` — a selection that leaves its dictionary is refused.
* `Quack.compressed_expansion` — both, with the fact that every accepted vector unwraps.
-/

/-- One compressed encoding around a vector. -/
inductive Layer where
  | constant
  | dictionary (selection : List UInt8)

/-- The row of the inner vector that a row of the outer one stands for. -/
def Layer.pick : Layer → Nat → Nat
  | .constant, _ => 0
  | .dictionary selection, row => Quack.selectionAt selection row

/-- The same through several layers, the outermost first. -/
def pickThrough (layers : List Layer) (row : Nat) : Nat :=
  layers.foldl (fun row layer => layer.pick row) row

namespace Quack

/-! ### How many rows are decoded -/

theorem maskRows_length (validity : Option (List UInt8)) (offset count : Nat)
    (value : Nat → Value) : (maskRows validity offset count value).length = count := by
  simp [maskRows]

theorem returns_decodeCompressedCopy_length (decodeSource : QuackRead (List Value))
    (childType : Except Err LogicalType) (sourceCount : Nat) (selection : Option (List UInt8))
    (offset outCount : Nat) :
    Returns (decodeCompressedCopy decodeSource childType sourceCount selection offset outCount)
      fun values => values.length = outCount := by
  exact .after fun _ => .after fun source => .guard fun _ => .pure (by simp)

theorem returns_decodeFlat_length
    (decodeChild : TypeNode → Nat → Nat → Nat → QuackRead (List Value)) (node : TypeNode)
    (srcRows offset outCount : Nat) : Returns (decodeFlat decodeChild node srcRows offset outCount)
      fun values => values.length = outCount := by
  refine .after fun validity => .ite (fun _ => ?_) fun _ => .ite (fun _ => ?_) fun _ =>
    .ite (fun _ => ?_) fun _ => .ite (fun _ => ?_) fun _ => ?_
  · exact .after fun _ => .after fun _ => .pure (maskRows_length _ _ _ _)
  · exact .after fun _ => .after fun _ => .after fun _ => .pure (maskRows_length _ _ _ _)
  · unfold decodeList
    split
    · exact .after fun _ => .after fun _ => .after fun _ => .after fun _ => .after fun _ =>
        .after fun _ => .pure (maskRows_length _ _ _ _)
    · exact .throw _
  · unfold decodeArray
    split
    · exact .after fun _ => .after fun _ => .guard fun _ => .after fun _ =>
        .after fun _ => .after fun _ => .after fun _ => .pure (maskRows_length _ _ _ _)
    · exact .throw _
  · exact .after fun _ => .after fun _ => .after fun _ => .pure (maskRows_length _ _ _ _)

/-- **A decoded vector has the rows that were asked for.** -/
theorem returns_decodeVectorInto_length (left : Nat) (node : TypeNode)
    (srcRows offset outCount : Nat) : Returns (decodeVectorInto left node srcRows offset outCount)
      fun values => values.length = outCount := by
  cases left with
  | zero => exact .throw _
  | succ left =>
    refine .guard fun _ => .after fun _ => .after fun vectorType => ?_
    refine .guard fun _ => .ite (fun _ => ?_) fun _ => .ite (fun _ => ?_)
      fun _ => .ite (fun _ => ?_) fun _ => returns_decodeFlat_length _ _ _ _ _
    · exact returns_decodeCompressedCopy_length _ _ _ _ _ _
    · exact .after fun header => returns_decodeCompressedCopy_length _ _ _ _ _ _
    · refine .after fun fields => .after fun _ => .guard fun _ => ?_
      split
      · exact .throw _
      · exact .guard fun _ => .pure (by simp)

/-! ### One layer -/

variable {c c' c₁ c₂ : Cursor} {offset outCount count left rows left' rows' : Nat}
  {values : List Value} {node : TypeNode} {selection : List UInt8} {layers : List Layer}

/-- A check before the result. -/
theorem ite_fail_eq_ok {α : Type} {P : Prop} [Decidable P] {message : String} {a b : α} :
    (if P then fail message else pure a : QuackRead α) c = .ok (b, c') ↔
      ¬P ∧ a = b ∧ c = c' := by
  by_cases hP : P
  · rw [if_pos hP]
    constructor
    · intro h
      cases h
    · intro h
      exact absurd hP h.1
  · rw [if_neg hP, pure_eq_ok]
    exact ⟨fun h => ⟨hP, h⟩, fun h => h.2⟩

/-- **What a compressed copy is**: the picked rows of its source. -/
theorem decodeCompressedCopy_cases {decodeSource : QuackRead (List Value)}
    {childType : Except Err LogicalType} {sourceCount : Nat} {selection : Option (List UInt8)}
    (h : decodeCompressedCopy decodeSource childType sourceCount selection offset outCount c =
      .ok (values, c')) :
    ∃ source, decodeSource c = .ok (source, c') ∧ ∀ row < outCount,
      (selection.elim 0 fun s => selectionAt s (offset + row)) < sourceCount ∧
      values[row]? = some (source.getD (selection.elim 0 fun s => selectionAt s (offset + row))
        .null) := by
  obtain ⟨_, c₁, hcheck, hcopy⟩ := bind_eq_ok.1 h
  obtain rfl := createSource_ok hcheck
  obtain ⟨source, c₂, hsource, hpicks⟩ := bind_eq_ok.1 hcopy
  cases selection with
  | none | some selection =>
    obtain ⟨hrange, hvalues, rfl⟩ := ite_fail_eq_ok.1 hpicks
    refine ⟨source, hsource, fun row hrow => ⟨?_, ?_⟩⟩
    · simp only [any_map, any_eq_true, mem_range, Function.comp_apply,
        decide_eq_true_eq, not_exists, not_and] at hrange
      exact Nat.lt_of_not_le (hrange row hrow)
    · rw [← hvalues, getElem?_map, getElem?_map, getElem?_range hrow]
      rfl

/-- The part of a vector behind its encoding. -/
def decodeEncoded (left : Nat) (node : TypeNode) (rows offset outCount vectorType : Nat) :
    QuackRead (List Value) :=
  if vectorType = 1 then fail "ducknng: FSST quack vectors are unsupported"
  else if vectorType = 2 then
    decodeCompressedCopy (decodeVectorInto left node 1 0 1) (nodeToDuckdb (left + 1) node)
      1 none offset outCount
  else if vectorType = 3 then do
    let header ← readDictionaryHeader rows
    decodeCompressedCopy (decodeVectorInto left node header.2 0 header.2)
      (nodeToDuckdb (left + 1) node) header.2 (some header.1) offset outCount
  else if vectorType = 4 then do
    let fields ← readSequence
    readExpectField fieldEnd
    decodeSequence node fields.1 fields.2 offset outCount
  else decodeFlat (decodeVectorInto left) node rows offset outCount

theorem decodeEncoded_constant (left : Nat) (node : TypeNode) (rows offset outCount : Nat) :
    decodeEncoded left node rows offset outCount 2 = decodeCompressedCopy
      (decodeVectorInto left node 1 0 1) (nodeToDuckdb (left + 1) node) 1 none offset
        outCount := rfl

/-- **The decoder of a vector, opened once**: the slice lies in the vector, its rows are
    charged for, and the rest is read behind the encoding. -/
theorem decodeVectorInto_eq_ok :
    decodeVectorInto (left + 1) node rows offset outCount c = .ok (values, c') ↔
      offset ≤ rows ∧ outCount ≤ rows - offset ∧ c.spent + rows ≤ maxMaterializedValues ∧
      ∃ vectorType c₁, readVectorType c = .ok (vectorType, c₁) ∧
        decodeEncoded left node rows offset outCount vectorType (c₁.charged (c.spent + rows)) =
          .ok (values, c') := by
  have heq : decodeVectorInto (left + 1) node rows offset outCount = nested (
      if offset > rows ∨ outCount > rows - offset then
        fail "ducknng: quack vector slice is out of range"
      else (do
        checkMaterializedValues rows true
        let vectorType ← readVectorType
        decodeEncoded left node rows offset outCount vectorType)) := rfl
  rw [heq, nested_apply]
  constructor
  · intro h
    split at h
    · cases h
    next hslice =>
    obtain ⟨_, c₁, hcheck, h₁⟩ := bind_eq_ok.1 h
    obtain ⟨vectorType, c₂, hvt, h₂⟩ := bind_eq_ok.1 h₁
    obtain ⟨hbudget, rfl⟩ := checkMaterializedValues_eq_ok.1 hcheck
    refine ⟨by omega, by omega, hbudget, vectorType, c₂.charged c.spent, ?_, ?_⟩
    · have hrun := run c.spent hvt
      rwa [Cursor.charged_charged] at hrun
    · have hspent : c₂.spent = c.spent + rows := spent hvt
      rwa [Cursor.charged_charged, ← hspent]
  · rintro ⟨hoffset, hcount, hbudget, vectorType, c₁, hvt, hrest⟩
    rw [if_neg (by omega)]
    refine bind_eq_ok.2 ⟨(), _, checkMaterializedValues_eq_ok.2 ⟨hbudget, rfl⟩, ?_⟩
    exact bind_eq_ok.2 ⟨vectorType, _, run _ hvt, hrest⟩

/-- The constant layer: every row is the one inner row. -/
theorem decodeVectorInto_constant (hvt : readVectorType c = .ok (2, c₁))
    (h : decodeVectorInto (left + 1) node rows offset outCount c = .ok (values, c')) :
    ∃ s source, decodeVectorInto left node 1 0 1 (c₁.charged s) = .ok (source, c') ∧
      ∀ row < outCount, values[row]? = source[0]? := by
  obtain ⟨_, _, _, _, _, hvt', hrest⟩ := decodeVectorInto_eq_ok.1 h
  rw [hvt] at hvt'
  cases hvt'
  rw [decodeEncoded_constant] at hrest
  obtain ⟨source, hsource, hrows⟩ := decodeCompressedCopy_cases hrest
  have hlength := returns_decodeVectorInto_length left node 1 0 1 _ _ _ hsource
  refine ⟨_, source, hsource, fun row hrow => ?_⟩
  obtain ⟨_, hget⟩ := hrows row hrow
  rw [hget, Option.elim_none, getD_eq_getElem?_getD, getElem?_eq_getElem (by omega)]
  rfl

/-- The dictionary layer: every row is the inner row its selection names. -/
theorem decodeVectorInto_dictionary (hvt : readVectorType c = .ok (3, c₁))
    (hheader : readDictionaryHeader rows c₁ = .ok ((selection, count), c₂))
    (h : decodeVectorInto (left + 1) node rows offset outCount c = .ok (values, c')) :
    ∃ s source, decodeVectorInto left node count 0 count (c₂.charged s) = .ok (source, c') ∧
      ∀ row < outCount, selectionAt selection (offset + row) < count ∧
        values[row]? = source[selectionAt selection (offset + row)]? := by
  obtain ⟨_, _, _, _, _, hvt', hrest⟩ := decodeVectorInto_eq_ok.1 h
  rw [hvt] at hvt'
  cases hvt'
  obtain ⟨header, c₃, hheader', hcopy⟩ := bind_eq_ok.1 hrest
  rw [run _ hheader] at hheader'
  cases hheader'
  obtain ⟨source, hsource, hrows⟩ := decodeCompressedCopy_cases hcopy
  have hlength := returns_decodeVectorInto_length left node count 0 count _ _ _ hsource
  refine ⟨_, source, hsource, fun row hrow => ?_⟩
  obtain ⟨hpick, hget⟩ := hrows row hrow
  rw [Option.elim_some] at hpick hget
  refine ⟨hpick, ?_⟩
  rw [hget, getD_eq_getElem?_getD, getElem?_eq_getElem (by omega)]
  rfl

/-! ### Any number of layers -/

/-- The layers that a payload announces in front of a vector: from a vector of `rows` rows
    at one cursor, through the layers, to the vector they wrap. -/
inductive Wrapped : Nat → Nat → Cursor → List Layer → Nat → Nat → Cursor → Prop where
  | bare {left rows : Nat} {c : Cursor} : Wrapped left rows c [] left rows c
  | constant {left left' rows rows' : Nat} {c c₁ c' : Cursor} {layers : List Layer}
      (hvt : readVectorType c = .ok (2, c₁)) (h : Wrapped left 1 c₁ layers left' rows' c') :
      Wrapped (left + 1) rows c (.constant :: layers) left' rows' c'
  | dictionary {left left' rows rows' count : Nat} {c c₁ c₂ c' : Cursor} {layers : List Layer}
      {selection : List UInt8} (hvt : readVectorType c = .ok (3, c₁))
      (hheader : readDictionaryHeader rows c₁ = .ok ((selection, count), c₂))
      (h : Wrapped left count c₂ layers left' rows' c') :
      Wrapped (left + 1) rows c (.dictionary selection :: layers) left' rows' c'

/-- What has been charged does not change the layers. -/
theorem Wrapped.charged (h : Wrapped left rows c layers left' rows' c') (s : Nat) :
    Wrapped left rows (c.charged s) layers left' rows' (c'.charged s) := by
  induction h with
  | bare => exact .bare
  | constant hvt _ ih => exact .constant (run s hvt) ih
  | dictionary hvt hheader _ ih => exact .dictionary (run s hvt) (run s hheader) ih

/-- The innermost layer: what is decoded below it is the wrapped vector itself. -/
theorem Wrapped.bare_iff (h : Wrapped left rows c [] left' rows' c') :
    left' = left ∧ rows' = rows ∧ c' = c := by
  cases h
  exact ⟨rfl, rfl, rfl⟩

/-- The rows of a vector as selected from the vector its layers wrap. -/
def SelectedFrom (node : TypeNode) (layers : List Layer) (left' rows' : Nat) (c₁ c' : Cursor)
    (offset outCount : Nat) (values : List Value) : Prop :=
  ∃ s source, decodeVectorInto left' node rows' 0 rows' (c₁.charged s) = .ok (source, c') ∧
    source.length = rows' ∧ ∀ row < outCount, pickThrough layers (offset + row) < rows' ∧
      values[row]? = source[pickThrough layers (offset + row)]?

/-- One more layer around a selection, the inner vector having been decoded whole. -/
theorem SelectedFrom.layer {innerRows : Nat} {layer : Layer} {s : Nat} {inner : List Value}
    (hinner : decodeVectorInto left node innerRows 0 innerRows (c₂.charged s) = .ok (inner, c'))
    (hpick : ∀ row < outCount, layer.pick (offset + row) < innerRows ∧
      values[row]? = inner[layer.pick (offset + row)]?)
    (hbare : layers = [] → left' = left ∧ rows' = innerRows ∧ c₁ = c₂)
    (hdeep : layers ≠ [] → SelectedFrom node layers left' rows' c₁ c' 0 innerRows inner) :
    SelectedFrom node (layer :: layers) left' rows' c₁ c' offset outCount values := by
  by_cases hlayers : layers = []
  · obtain ⟨rfl, rfl, rfl⟩ := hbare hlayers
    subst hlayers
    exact ⟨s, inner, hinner, returns_decodeVectorInto_length _ _ _ _ _ _ _ _ hinner, hpick⟩
  · obtain ⟨t, source, hsource, hlength, hrows⟩ := hdeep hlayers
    refine ⟨t, source, hsource, hlength, fun row hrow => ?_⟩
    obtain ⟨hlt, hvalue⟩ := hpick row hrow
    obtain ⟨hlt', hvalue'⟩ := hrows _ hlt
    rw [Nat.zero_add] at hlt' hvalue'
    exact ⟨hlt', hvalue.trans hvalue'⟩

/-- **A decoded vector is the selection through its layers.** Every output row is the row of
    the wrapped vector, decoded on its own, that the layers lead to. -/
theorem decodeVectorInto_wrapped {s : Nat} (hlayers : layers ≠ [])
    (hwrapped : Wrapped left rows c layers left' rows' c₁)
    (h : decodeVectorInto left node rows offset outCount (c.charged s) = .ok (values, c')) :
    SelectedFrom node layers left' rows' c₁ c' offset outCount values := by
  induction hwrapped generalizing offset outCount values s with
  | bare => exact absurd rfl hlayers
  | constant hvt hinner ih =>
    obtain ⟨t, inner, hdecode, hrows⟩ := decodeVectorInto_constant (run s hvt) h
    rw [Cursor.charged_charged] at hdecode
    refine .layer hdecode (fun row hrow => ⟨Nat.zero_lt_one, hrows row hrow⟩) ?_ ?_
    · rintro rfl
      exact hinner.bare_iff
    · intro hlayers
      exact ih hlayers hdecode
  | dictionary hvt hheader hinner ih =>
    obtain ⟨t, inner, hdecode, hrows⟩ :=
      decodeVectorInto_dictionary (run s hvt) (run s hheader) h
    rw [Cursor.charged_charged] at hdecode
    refine .layer hdecode hrows ?_ ?_
    · rintro rfl
      exact hinner.bare_iff
    · intro hlayers
      exact ih hlayers hdecode

/-- **Every vector that is accepted unwraps**, layer by layer, down to one that is not
    compressed. -/
theorem wrapped_of_decode (h : decodeVectorInto left node rows offset outCount c = .ok (values, c'))
    :
    ∃ layers left' rows' c₁ vectorType c₂, Wrapped left rows c layers left' rows' c₁ ∧
      readVectorType c₁ = .ok (vectorType, c₂) ∧ vectorType ≠ 2 ∧ vectorType ≠ 3 := by
  induction left generalizing rows offset outCount c values with
  | zero => cases h
  | succ left ih =>
    obtain ⟨_, _, _, vectorType, c₁, hvt, hrest⟩ := decodeVectorInto_eq_ok.1 h
    by_cases hconstant : vectorType = 2
    · subst hconstant
      rw [decodeEncoded_constant] at hrest
      obtain ⟨source, hsource, _⟩ := decodeCompressedCopy_cases hrest
      obtain ⟨layers, left', rows', c₂, vt, c₃, hwrapped, hvt', hplain⟩ := ih hsource
      have hback := hwrapped.charged c₁.spent
      exact ⟨_, left', rows', _, vt, _, .constant hvt hback, run _ hvt', hplain⟩
    · by_cases hdictionary : vectorType = 3
      · subst hdictionary
        obtain ⟨⟨selection, count⟩, c₂, hheader, hcopy⟩ := bind_eq_ok.1 hrest
        obtain ⟨source, hsource, _⟩ := decodeCompressedCopy_cases hcopy
        obtain ⟨layers, left', rows', c₃, vt, c₄, hwrapped, hvt', hplain⟩ := ih hsource
        have hheader' := run c₁.spent hheader
        have hback := hwrapped.charged c₁.spent
        exact ⟨_, left', rows', _, vt, _, .dictionary hvt hheader' hback, run _ hvt',
          hplain⟩
      · exact ⟨[], left + 1, rows, c, vectorType, c₁, .bare, hvt, hconstant, hdictionary⟩

/-! ### Selections that leave their dictionary -/

/-- The two fields of a dictionary vector, before any check. -/
def readDictionaryFields : QuackRead (List UInt8 × Nat) := do
  readExpectField 91
  let selection ← readBlobView
  readExpectField 92
  let dictionaryCount ← readUleb128
  pure (selection, dictionaryCount)

/-- **What a dictionary header that was accepted says**: the fields as they are read, a
    selection of the right length, and every index inside the dictionary. -/
theorem readDictionaryHeader_cases (h : readDictionaryHeader rows c = .ok ((selection, count), c₁))
    :
    readDictionaryFields c = .ok ((selection, count), c₁) ∧ selection.length = 4 * rows ∧
      ∀ row < rows, selectionAt selection row < count := by
  obtain ⟨_, d₁, h91, h₁⟩ := bind_eq_ok.1 h
  obtain ⟨blob, d₂, hblob, h₂⟩ := bind_eq_ok.1 h₁
  obtain ⟨_, d₃, h92, h₃⟩ := bind_eq_ok.1 h₂
  obtain ⟨n, d₄, hcount, h₄⟩ := bind_eq_ok.1 h₃
  cases hsize : sizeMul 4 rows with
  | none =>
    rw [hsize] at h₄
    cases h₄
  | some expected =>
    rw [hsize] at h₄
    have hexpected := (sizeMul_eq_some.1 hsize).1
    dsimp only at h₄
    split at h₄
    · cases h₄
    next hlength =>
    split at h₄
    · cases h₄
    split at h₄
    · cases h₄
    obtain ⟨hrange, heq, rfl⟩ := ite_fail_eq_ok.1 h₄
    cases heq
    simp only [any_eq_true, mem_range, decide_eq_true_eq, not_exists, not_and] at hrange
    refine ⟨?_, by omega, fun row hrow => Nat.lt_of_not_le (hrange row hrow)⟩
    exact bind_eq_ok.2 ⟨_, d₁, h91, bind_eq_ok.2 ⟨_, d₂, hblob,
      bind_eq_ok.2 ⟨_, d₃, h92, bind_eq_ok.2 ⟨_, d₄, hcount, rfl⟩⟩⟩⟩

/-- **A selection that leaves its dictionary is refused**, whatever else the vector holds. -/
theorem decodeVectorInto_refuses {row : Nat} (hvt : readVectorType c = .ok (3, c₁))
    (hfields : readDictionaryFields c₁ = .ok ((selection, count), c₂))
    (hrow : 4 * row + 4 ≤ selection.length) (hout : count ≤ selectionAt selection row) :
    ∃ e, decodeVectorInto left node rows offset outCount c = .error e := by
  cases left with
  | zero => exact ⟨_, rfl⟩
  | succ left =>
    cases hdecode : decodeVectorInto (left + 1) node rows offset outCount c with
    | error e => exact ⟨e, rfl⟩
    | ok x =>
      exfalso
      obtain ⟨_, _, _, _, _, hvt', hrest⟩ := decodeVectorInto_eq_ok.1 hdecode
      rw [hvt] at hvt'
      cases hvt'
      obtain ⟨⟨selection', count'⟩, c₃, hheader, _⟩ := bind_eq_ok.1 hrest
      obtain ⟨hfields', hlength, hrange⟩ := readDictionaryHeader_cases hheader
      have huncharged : Uncharged readDictionaryFields := by
        unfold readDictionaryFields
        infer_instance
      rw [run _ hfields] at hfields'
      cases hfields'
      have hin := hrange row (by omega)
      omega

/-- **Compressed vectors mean their flat expansion.** Whatever is accepted unwraps down to a
    vector that is not compressed; through any number of its layers the decoded rows are the
    selected rows of the wrapped vector, decoded on its own; and a selection that leaves its
    dictionary is refused. -/
theorem compressed_expansion :
    (∀ left node rows offset outCount c values c',
      decodeVectorInto left node rows offset outCount c = .ok (values, c') →
      values.length = outCount ∧
      (∃ layers left' rows' c₁ vectorType c₂, Wrapped left rows c layers left' rows' c₁ ∧
        readVectorType c₁ = .ok (vectorType, c₂) ∧ vectorType ≠ 2 ∧ vectorType ≠ 3) ∧
      ∀ layers left' rows' c₁, layers ≠ [] → Wrapped left rows c layers left' rows' c₁ →
        SelectedFrom node layers left' rows' c₁ c' offset outCount values) ∧
    (∀ left node rows offset outCount c c₁ c₂ selection count row,
      readVectorType c = .ok (3, c₁) → readDictionaryFields c₁ = .ok ((selection, count), c₂) →
      4 * row + 4 ≤ selection.length → count ≤ selectionAt selection row →
      ∃ e, decodeVectorInto left node rows offset outCount c = .error e) := by
  constructor
  · intro left node rows offset outCount c values c' h
    refine ⟨returns_decodeVectorInto_length _ _ _ _ _ _ _ _ h, wrapped_of_decode h, ?_⟩
    intro layers left' rows' c₁ hlayers hwrapped
    exact decodeVectorInto_wrapped (s := c.spent) hlayers hwrapped h
  · intro left node rows offset outCount c c₁ c₂ selection count row hvt hfields hrow hout
    exact decodeVectorInto_refuses hvt hfields hrow hout

/-- A dictionary of one integer over two rows, around a constant. -/
theorem compressed_expansion_nested :
    SelectedFrom (nodeNew 13) [.dictionary [0, 0, 0, 0, 0, 0, 0, 0], .constant] 63 1
      ⟨[90, 0, 3, 91, 0, 8, 0, 0, 0, 0, 0, 0, 0, 0, 92, 0, 1, 90, 0, 2,
        100, 0, 0, 102, 0, 4, 1, 2, 3, 4, 255, 255], 20, 0⟩
      ⟨[90, 0, 3, 91, 0, 8, 0, 0, 0, 0, 0, 0, 0, 0, 92, 0, 1, 90, 0, 2,
        100, 0, 0, 102, 0, 4, 1, 2, 3, 4, 255, 255], 32, 4⟩
      0 2 [.fixed [1, 2, 3, 4], .fixed [1, 2, 3, 4]] :=
  (compressed_expansion.1 maxLevels (nodeNew 13) 2 0 2 ⟨[90, 0, 3, 91, 0, 8, 0, 0, 0, 0, 0, 0, 0,
    0, 92, 0, 1, 90, 0, 2, 100, 0, 0, 102, 0, 4, 1, 2, 3, 4, 255, 255], 0, 0⟩ _ _ rfl).2.2
    _ _ _ _ (by simp) (.dictionary (by rfl) (by rfl) (.constant (by rfl) .bare))

end Quack

end Ducknng
