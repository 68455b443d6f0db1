import Ducknng.Quack.TypeNode

namespace Ducknng

open List ByteCodec Quack

/-!
# Well-formed type trees

The readers of type information take fields in a flexible order and leave out what
has its default value. Whatever they accept is nevertheless a well-formed tree: every
node has the shape its kind asks for, and nothing else.

* `Quack.readTypeNode_wellFormed` — what is read from arbitrary bytes is well formed.
-/

/-! ### Well-formedness -/

/-- The fields of a node are in order: one name for every child, bounded counts, texts
    without NUL, and nothing in the fields that its kind does not use. -/
structure TypeNode.InOrder (node : TypeNode) : Prop where
  names : node.childNames.length = node.children.length
  members : node.children.length ≤ maxStructMembers
  labels : node.enumLabels.length ≤ maxEnumValues
  size : node.arraySize ≤ u32Max
  noNul : ∀ text ∈ node.childNames ++ node.enumLabels, 0 ∉ text.bytes
  decimal : node.logicalTypeId ≠ logicalDecimal →
    node.decimalWidth = 0 ∧ node.decimalScale = 0
  array : node.logicalTypeId ≠ logicalArray → node.arraySize = 0
  enum : node.logicalTypeId ≠ logicalEnum → node.enumLabels = []
  nested : typeIsNested node = false → node.children = []
  unnamed : node.logicalTypeId ≠ logicalStruct → node.logicalTypeId ≠ logicalUnion →
    ∀ name ∈ node.childNames, name = .empty

/-- A tree of at most `left` levels in which every node has the shape of its kind and
    its fields in order. -/
def TypeNode.WellFormed : Nat → TypeNode → Prop
  | 0, _ => False
  | left + 1, node => typeShapeValidate node = none ∧ node.InOrder ∧
      ∀ child ∈ node.children, child.WellFormed left

/-- A fresh node is in order, whatever its kind. -/
theorem Quack.inOrder_nodeNew (id : Nat) : (nodeNew id).InOrder where
  names := rfl
  members := Nat.zero_le _
  labels := Nat.zero_le _
  size := Nat.zero_le _
  noNul _ h := absurd h not_mem_nil
  decimal _ := ⟨rfl, rfl⟩
  array _ := rfl
  enum _ := rfl
  nested _ := rfl
  unnamed _ _ _ h := absurd h not_mem_nil

namespace Quack

/-! ### Reading type information -/

/-- What `ducknng_quack_read_type_info` has collected so far is in order; before field 200
    there are no children. -/
structure InfoSound (left : Nat) (s : TypeInfoState) : Prop where
  inOrder : s.node.InOrder
  children : ∀ child ∈ s.node.children, child.WellFormed left
  fresh : 200 ∉ s.seen → s.node.children = []

theorem returns_readChildPairLoop {readChild : QuackRead TypeNode} {P : TypeNode → Prop}
    (hchild : Returns readChild P) (fuel : Nat) (name : Option CStr) (type : Option TypeNode)
    (htype : ∀ node, type = some node → P node) :
    Returns (readChildPairLoop readChild fuel name type) fun pair => P pair.2 := by
  induction fuel generalizing name type with
  | zero => exact .throw _
  | succ fuel ih =>
    refine .after fun field => .ite (fun _ => ?_) fun _ => ?_
    · cases type with
      | none => exact .throw _
      | some node => exact .pure (htype node rfl)
    refine .ite (fun _ => .guard fun _ => .after fun text => ih _ _ htype) ?_
    intro _
    refine .ite (fun _ => .guard fun _ => hchild.bind fun node hnode => ?_)
      fun _ => .throw _
    refine ih _ _ fun node' h => ?_
    cases h
    exact hnode

section
variable {left : Nat} {readChild : QuackRead TypeNode} {s : TypeInfoState}
variable (hchild : Returns readChild (TypeNode.WellFormed left))

/-- Adding the only child of a list, a map or an array. -/
theorem inOrder_nodeAddChild {node child : TypeNode} (hnode : node.InOrder)
    (hnested : typeIsNested node = true) (hnone : node.children = []) :
    (nodeAddChild node child .empty).InOrder := by
  have hnames : node.childNames = [] := eq_nil_of_length_eq_zero (by rw [hnode.names, hnone]; rfl)
  refine ⟨?_, ?_, hnode.labels, hnode.size, fun text _ => text.noNul, hnode.decimal, hnode.array,
    hnode.enum, ?_, ?_⟩
  · simp [nodeAddChild, hnames, hnone]
  · simp [nodeAddChild, hnone, maxStructMembers]
  · intro hflat
    have : typeIsNested (nodeAddChild node child .empty) = typeIsNested node := rfl
    rw [this, hnested] at hflat
    cases hflat
  · intro _ _ name hname
    simpa [nodeAddChild, hnames] using hname

/-- Adding the members of a structure or a union. -/
theorem inOrder_nodeAddChildren {node : TypeNode} {pairs : List (CStr × TypeNode)}
    (hnode : node.InOrder)
    (hid : node.logicalTypeId = logicalStruct ∨ node.logicalTypeId = logicalUnion)
    (hnone : node.children = []) (hmax : pairs.length ≤ maxStructMembers) :
    (nodeAddChildren node (pairs.map Prod.fst) (pairs.map Prod.snd)).InOrder := by
  have hnames : node.childNames = [] := eq_nil_of_length_eq_zero (by rw [hnode.names, hnone]; rfl)
  refine ⟨?_, ?_, hnode.labels, hnode.size, fun text _ => text.noNul, hnode.decimal, hnode.array,
    hnode.enum, ?_, ?_⟩
  · simp [nodeAddChildren, hnames, hnone]
  · simpa [nodeAddChildren, hnone] using hmax
  · intro hflat
    simp only [nodeAddChildren, typeIsNested] at hflat
    rcases hid with hid | hid <;> simp [hid] at hflat
  · intro hstruct hunion
    rcases hid with hid | hid
    · exact absurd hid hstruct
    · exact absurd hid hunion

include hchild in
/-- Field 200 of a type that had none yet. -/
theorem returns_readTypeInfo200 (hs : InfoSound left s) (hnone : s.node.children = [])
    (hseen : 200 ∈ s.seen) : Returns (readTypeInfo200 readChild s) (InfoSound left) := by
  refine .ite (fun hid => ?_) fun _ => .ite (fun hid => ?_) fun _ => .ite (fun hid => ?_)
    fun _ => .ite (fun _ => ?_) fun _ => .throw _
  · -- The width of a decimal.
    refine .after fun value => .guard fun _ => .pure ⟨?_, hs.children, hs.fresh⟩
    exact { hs.inOrder with decimal := fun h => absurd hid h }
  · -- The child of a list, a map or an array.
    have hnested : typeIsNested s.node = true := by
      rcases hid with hid | hid | hid <;> simp [typeIsNested, hid]
    refine hchild.bind fun child hwf => .pure
      ⟨inOrder_nodeAddChild hs.inOrder hnested hnone, ?_, fun h => absurd hseen h⟩
    intro node hnode
    simp only [nodeAddChild, hnone, nil_append, mem_singleton] at hnode
    rw [hnode]
    exact hwf
  · -- The members of a structure or a union.
    refine .after fun count => .after fun remaining => .guard fun hcount => ?_
    have hpairs := Returns.repeatRead
      (returns_readChildPairLoop hchild 3 none none (by simp)) count
    refine hpairs.bind fun pairs ⟨hlength, hwf⟩ => .pure
      ⟨inOrder_nodeAddChildren hs.inOrder hid hnone (by omega), ?_, fun h => absurd hseen h⟩
    intro node hnode
    simp only [nodeAddChildren, hnone, nil_append, mem_map] at hnode
    obtain ⟨pair, hpair, rfl⟩ := hnode
    exact hwf pair hpair
  · -- The announced number of labels.
    exact .after fun value => .guard fun _ =>
      .pure { hs with }

/-- Field 201. -/
theorem returns_readTypeInfo201 (hs : InfoSound left s) :
    Returns (readTypeInfo201 s) (InfoSound left) := by
  refine .guard fun _ => .ite (fun hid => ?_) fun _ => .ite (fun hid => ?_)
    fun _ => .ite (fun hid => ?_) fun _ => .throw _
  · refine .after fun value => .guard fun _ => .pure ⟨?_, hs.children, hs.fresh⟩
    exact { hs.inOrder with decimal := fun h => absurd hid h }
  · refine .after fun value => .guard fun hvalue =>
      .pure ⟨?_, hs.children, hs.fresh⟩
    exact { hs.inOrder with size := by simp only; omega, array := fun h => absurd hid h }
  · refine .after fun n => .guard fun _ => .after fun remaining =>
      .guard fun hn => ?_
    refine (Returns.repeatRead (Returns.any readStringDup) n).bind fun labels ⟨hlength, _⟩ =>
      .pure ⟨?_, hs.children, hs.fresh⟩
    exact { hs.inOrder with
      labels := by simp only; omega
      noNul := fun text _ => text.noNul
      enum := fun h => absurd hid h }

include hchild in
/-- Any field of the type information that had not been seen. -/
theorem returns_readTypeInfoField {field : Nat} (hs : InfoSound left s) (hfield : field ∉ s.seen) :
    Returns (readTypeInfoField readChild field { s with seen := field :: s.seen })
      (InfoSound left) := by
  have hnext : InfoSound left { s with seen := field :: s.seen } :=
    ⟨hs.inOrder, hs.children, fun h => hs.fresh fun hmem => h (mem_cons_of_mem field hmem)⟩
  refine .ite (fun _ => ?_) fun _ => .ite (fun _ => ?_) fun _ => .ite (fun _ => ?_) fun _ =>
    .ite (fun h200 => ?_) fun _ => .ite (fun _ => returns_readTypeInfo201 hnext) fun _ => .throw _
  · exact .after fun value => .guard fun _ => .pure hnext
  · exact .after fun _ => .pure hnext
  · exact .after fun present => .guard fun _ => .pure hnext
  · subst h200
    exact returns_readTypeInfo200 hchild hnext (hs.fresh hfield) mem_cons_self

include hchild in
/-- The loop ends with the check of the shape. -/
theorem returns_readTypeInfoLoop (fuel : Nat) (hs : InfoSound left s) :
    Returns (readTypeInfoLoop readChild fuel s) (TypeNode.WellFormed (left + 1)) := by
  induction fuel generalizing s with
  | zero => exact .throw _
  | succ fuel ih =>
    refine .after fun field => .ite (fun _ => .guard fun _ => ?_) fun _ =>
      .guard fun hfield =>
        (returns_readTypeInfoField hchild hs hfield).bind fun s' hs' => ih hs'
    cases hshape : typeShapeValidate s.node with
    | some message => exact .throw _
    | none => exact .pure ⟨hshape, hs.inOrder, hs.children⟩

include hchild in
theorem returns_readTypeInfo (id : Nat) :
    Returns (readTypeInfo readChild (nodeNew id)) (TypeNode.WellFormed (left + 1)) :=
  returns_readTypeInfoLoop hchild 6
    ⟨inOrder_nodeNew id, forall_mem_nil _, fun _ => rfl⟩

/-! ### Reading a type tree -/

/-- What `ducknng_quack_read_type_node` has collected so far: a fresh node until the type
    information has been read, a well-formed one afterwards. -/
structure NodeSound (left : Nat) (s : TypeNodeState) : Prop where
  id : s.seenInfo = true → s.seenId = true
  info : s.infoPresent = true → s.seenInfo = true ∧ s.node.WellFormed (left + 1)
  fresh : s.infoPresent = false → s.node = nodeNew s.node.logicalTypeId

theorem returns_finishTypeNode {s : TypeNodeState} (hs : NodeSound left s) :
    Returns (finishTypeNode s) (TypeNode.WellFormed (left + 1)) := by
  refine .guard fun _ => .guard fun _ =>
    .ite (fun hpresent => .pure (hs.info hpresent).2) fun hpresent => ?_
  have hnode := hs.fresh (by simpa using hpresent)
  cases hshape : typeShapeValidate s.node with
  | some message => exact .throw _
  | none =>
    refine .pure ⟨hshape, hnode ▸ inOrder_nodeNew _, fun child hchild => ?_⟩
    rw [hnode] at hchild
    exact absurd hchild not_mem_nil

include hchild in
theorem returns_readTypeNodeLoop (fuel : Nat) {s : TypeNodeState} (hs : NodeSound left s) :
    Returns (readTypeNodeLoop readChild fuel s) (TypeNode.WellFormed (left + 1)) := by
  induction fuel generalizing s with
  | zero => exact .throw _
  | succ fuel ih =>
    refine .after fun field => .ite (fun _ => returns_finishTypeNode hs) fun _ =>
      .ite (fun _ => .guard fun hid => ?_) fun _ => .ite (fun _ => ?_)
        fun _ => .throw _
    · -- The identifier comes before any information, so the node is still fresh.
      refine .after fun value => .guard fun _ => ih ?_
      have hinfo : s.seenInfo = false := by
        by_contra hseen
        exact hid (hs.id (by simpa using hseen))
      have hpresent : s.infoPresent = false := by
        by_contra hpresent
        have := (hs.info (by simpa using hpresent)).1
        rw [hinfo] at this
        cases this
      have hnode := hs.fresh hpresent
      refine ⟨fun _ => rfl, fun h => ?_, fun _ => ?_⟩
      · rw [hpresent] at h
        cases h
      · show ({ s.node with logicalTypeId := value } : TypeNode) = nodeNew value
        rw [hnode]
        rfl
    · refine .guard fun hid => .guard fun hinfo =>
        .after fun present => ?_
      have hid : s.seenId = true := by simpa using hid
      have hnode : s.node = nodeNew s.node.logicalTypeId := by
        apply hs.fresh
        by_contra hpresent
        exact hinfo (hs.info (by simpa using hpresent)).1
      refine .ite (fun _ => ?_) fun _ => ih ⟨fun _ => hid, fun h => (by cases h), fun _ => hnode⟩
      rw [hnode]
      refine (returns_readTypeInfo hchild _).bind fun node hwf => ih ?_
      exact ⟨fun _ => hid, fun _ => ⟨rfl, hwf⟩, fun h => by cases h⟩

end

/-- **Whatever is read is well formed.** -/
theorem returns_readTypeNode (left : Nat) :
    Returns (readTypeNode left) (TypeNode.WellFormed left) := by
  induction left with
  | zero => exact .throw _
  | succ left ih =>
    refine returns_readTypeNodeLoop ih 3 ⟨fun h => ?_, fun h => ?_, fun _ => rfl⟩
    · cases h
    · cases h

/-- **Every tree that is read is well formed at every node**, whatever the bytes are and at
    whatever depth the reader starts. -/
theorem readTypeNode_wellFormed {left : Nat} {c c' : Cursor} {node : TypeNode}
    (h : readTypeNode left c = .ok (node, c')) : node.WellFormed left :=
  returns_readTypeNode left c node c' h

/-- A list of integers whose information comes with an alias. -/
theorem readTypeNode_wellFormed_list :
    (nodeAddChild (nodeNew logicalList) (nodeNew 13) .empty).WellFormed maxLevels :=
  readTypeNode_wellFormed (c := ⟨[100, 0, 101, 101, 0, 1, 101, 0, 1, 120, 100, 0, 4, 200, 0,
    100, 0, 13, 255, 255, 255, 255, 255, 255], 0, 0⟩) rfl

end Quack

/-! ### The forms of a well-formed node -/

/-- What a node with the shape of its kind and its fields in order looks like. -/
inductive TypeNode.Form : TypeNode → Prop where
  | plain {id : Nat} (hinfo : typeExpectedInfoKind id = none) (hid : id ≤ 108)
      (hshape : typeShapeValidate (nodeNew id) = none) : Form (nodeNew id)
  | decimal {width scale : Nat} (hwidth : 1 ≤ width) (hmax : width ≤ 38) (hscale : scale ≤ width) :
      Form ⟨logicalDecimal, width, scale, 0, [], [], []⟩
  | enum {labels : List CStr} (hcount : labels.length ≤ maxEnumValues) :
      Form ⟨logicalEnum, 0, 0, 0, labels, [], []⟩
  | list {child : TypeNode} : Form ⟨logicalList, 0, 0, 0, [], [.empty], [child]⟩
  | map {entry : TypeNode} (hid : entry.logicalTypeId = logicalStruct)
      (htwo : entry.children.length = 2) :
      Form ⟨logicalMap, 0, 0, 0, [], [.empty], [entry]⟩
  | array {size : Nat} {child : TypeNode} (hpos : 1 ≤ size) (hmax : size ≤ u32Max) :
      Form ⟨logicalArray, 0, 0, size, [], [.empty], [child]⟩
  | struct {names : List CStr} {members : List TypeNode} (hnames : names.length = members.length)
      (hpos : 1 ≤ members.length) (hmax : members.length ≤ maxStructMembers) :
      Form ⟨logicalStruct, 0, 0, 0, [], names, members⟩
  | union {names : List CStr} {tag : TypeNode} {members : List TypeNode}
      (hnames : names.length = (tag :: members).length) (hpos : 1 ≤ members.length)
      (hmax : (tag :: members).length ≤ maxStructMembers)
      (htag : tag.logicalTypeId = FlatKind.logicalTypeId .utinyint) :
      Form ⟨logicalUnion, 0, 0, 0, [], names, tag :: members⟩

section
variable {node : TypeNode}

/-- A kind without type information is none of those with parameters. -/
theorem Quack.ne_of_typeExpectedInfoKind {id : Nat} (h : typeExpectedInfoKind id = none) :
    id ≠ logicalDecimal ∧ id ≠ logicalList ∧ id ≠ logicalMap ∧ id ≠ logicalStruct ∧
      id ≠ logicalUnion ∧ id ≠ logicalEnum ∧ id ≠ logicalArray := by
  unfold typeExpectedInfoKind at h
  split_ifs at h with h₁ h₂ h₃ h₄ h₅
  simp only [not_or] at h₂ h₃
  exact ⟨h₁, h₂.1, h₂.2, h₃.1, h₃.2, h₄, h₅⟩

/-- A kind without type information that has a width or is a text is a small one. -/
theorem Quack.logicalTypeId_le_of_shape
    (hinfo : typeExpectedInfoKind node.logicalTypeId = none)
    (hshape : typeShapeValidate node = none) : node.logicalTypeId ≤ 108 := by
  obtain ⟨h₁, h₂, h₃, h₄, h₅, h₆, h₇⟩ := ne_of_typeExpectedInfoKind hinfo
  by_contra hid
  have hvarlen : typeIsVarlen node = false := by
    apply decide_eq_false
    rintro (h | h | h) <;> exact absurd (h ▸ hid) (by decide)
  have hwidth : typeFixedWidth node = 0 := by
    unfold typeFixedWidth
    rw [if_neg h₆, if_neg h₁]
    split <;> omega
  unfold typeShapeValidate at hshape
  rw [if_neg h₁, if_neg h₂, if_neg h₃, if_neg h₄, if_neg h₅, if_neg h₆, if_neg h₇, hvarlen,
    hwidth] at hshape
  cases hshape

/-- The width and the scale of a decimal. -/
theorem Quack.decimal_of_shape (hshape : typeShapeValidate node = none)
    (hid : node.logicalTypeId = logicalDecimal) : 1 ≤ node.decimalWidth ∧ node.decimalWidth ≤ 38 ∧
      node.decimalScale ≤ node.decimalWidth := by
  simp +decide only [typeShapeValidate, hid, if_true, if_false] at hshape
  split at hshape
  · cases hshape
  · omega

/-- A list, a map and an array have one child. -/
theorem Quack.single_of_shape (hshape : typeShapeValidate node = none)
    (hid : node.logicalTypeId = logicalList ∨ node.logicalTypeId = logicalMap ∨
      node.logicalTypeId = logicalArray) : node.children.length = 1 := by
  rcases hid with hid | hid | hid <;>
    simp +decide only [typeShapeValidate, hid, if_true, if_false] at hshape
  · simpa using hshape
  · split at hshape
    · next hentry => rw [hentry, length_singleton]
    · cases hshape
  · split at hshape
    · cases hshape
    · omega

namespace TypeNode

/-- There is a name for every child, and nothing stands in the fields that the kind of the node
    does not use. -/
structure Tidy (node : TypeNode) : Prop where
  names : node.childNames.length = node.children.length
  decimal : node.logicalTypeId ≠ logicalDecimal →
    node.decimalWidth = 0 ∧ node.decimalScale = 0
  array : node.logicalTypeId ≠ logicalArray → node.arraySize = 0
  enum : node.logicalTypeId ≠ logicalEnum → node.enumLabels = []
  nested : typeIsNested node = false → node.children = []
  unnamed : node.logicalTypeId ≠ logicalStruct → node.logicalTypeId ≠ logicalUnion →
    ∀ name ∈ node.childNames, name = .empty

section
variable (h : node.Tidy)
include h

/-- A node with no children has no names for them either. -/
theorem Tidy.childless (hflat : typeIsNested node = false) :
    node.childNames = [] ∧ node.children = [] := by
  have hchildren := h.nested hflat
  exact ⟨eq_nil_of_length_eq_zero (by rw [h.names, hchildren]; rfl), hchildren⟩

/-- The fields of a node, without those that its kind does not use. -/
theorem Tidy.fields {id : Nat} (hid : node.logicalTypeId = id) :
    node = ⟨id, if id = logicalDecimal then node.decimalWidth else 0,
      if id = logicalDecimal then node.decimalScale else 0,
      if id = logicalArray then node.arraySize else 0,
      if id = logicalEnum then node.enumLabels else [], node.childNames, node.children⟩ := by
  subst hid
  have hdecimal := h.decimal
  have harray := h.array
  have henum := h.enum
  obtain ⟨id, width, scale, size, labels, names, children⟩ := node
  split_ifs <;> simp_all

/-- A node that its kind gives no parameters at all. -/
theorem Tidy.plain (hinfo : typeExpectedInfoKind node.logicalTypeId = none) :
    node = nodeNew node.logicalTypeId := by
  obtain ⟨h₁, h₂, h₃, h₄, h₅, h₆, h₇⟩ := ne_of_typeExpectedInfoKind hinfo
  obtain ⟨hnames, hchildren⟩ := h.childless (by simp [typeIsNested, h₂, h₃, h₄, h₅, h₇])
  have hnode := h.fields rfl
  rwa [if_neg h₁, if_neg h₁, if_neg h₇, if_neg h₆, hnames, hchildren] at hnode

/-- The only child of a list, a map or an array has no name. -/
theorem Tidy.eq_single {id : Nat} (hid : node.logicalTypeId = id)
    (hsingle : id = logicalList ∨ id = logicalMap ∨ id = logicalArray)
    (hone : node.children.length = 1) :
    ∃ child, node.children = [child] ∧ node =
      ⟨id, 0, 0, if id = logicalArray then node.arraySize else 0, [], [.empty], [child]⟩ := by
  obtain ⟨child, hchild⟩ := length_eq_one_iff.1 hone
  obtain ⟨name, hname⟩ := length_eq_one_iff.1 (h.names.trans hone)
  have hmem : name ∈ node.childNames := hname ▸ mem_singleton.2 rfl
  have hnode := h.fields hid
  rw [hname, hchild] at hnode
  refine ⟨child, hchild, ?_⟩
  rcases hsingle with rfl | rfl | rfl <;>
    exact h.unnamed (by rw [hid]; decide) (by rw [hid]; decide) name hmem ▸ hnode

end

section
variable (h : node.InOrder)
include h

theorem InOrder.tidy : node.Tidy :=
  ⟨h.names, h.decimal, h.array, h.enum, h.nested, h.unnamed⟩

theorem InOrder.form_enum (hid : node.logicalTypeId = logicalEnum) : node.Form := by
  obtain ⟨hnames, hchildren⟩ := h.tidy.childless (by rw [typeIsNested, hid]; rfl)
  rw [h.tidy.fields hid, hnames, hchildren]
  exact .enum h.labels

variable (hshape : typeShapeValidate node = none)
include hshape

theorem InOrder.form_decimal (hid : node.logicalTypeId = logicalDecimal) : node.Form := by
  obtain ⟨hnames, hchildren⟩ := h.tidy.childless (by rw [typeIsNested, hid]; rfl)
  obtain ⟨hpos, hmax, hscale⟩ := decimal_of_shape hshape hid
  rw [h.tidy.fields hid, hnames, hchildren]
  exact .decimal hpos hmax hscale

theorem InOrder.form_list (hid : node.logicalTypeId = logicalList) : node.Form := by
  obtain ⟨child, -, hnode⟩ := h.tidy.eq_single hid (.inl rfl) (single_of_shape hshape (.inl hid))
  rw [hnode]
  exact .list

theorem InOrder.form_map (hid : node.logicalTypeId = logicalMap) : node.Form := by
  simp +decide only [typeShapeValidate, hid, if_true, if_false] at hshape
  split at hshape
  · next entry hentry =>
    split at hshape
    · next hshaped =>
      obtain ⟨child, hchild, hnode⟩ := h.tidy.eq_single hid (.inr (.inl rfl)) (by rw [hentry]; rfl)
      obtain rfl := (cons.inj (hchild.symm.trans hentry)).1
      rw [hnode]
      exact .map hshaped.1 hshaped.2
    · cases hshape
  · cases hshape

theorem InOrder.form_array (hid : node.logicalTypeId = logicalArray) : node.Form := by
  simp +decide only [typeShapeValidate, hid, if_true, if_false] at hshape
  split at hshape
  · cases hshape
  · obtain ⟨child, -, hnode⟩ := h.tidy.eq_single hid (.inr (.inr rfl)) (by omega)
    have hpos : 1 ≤ node.arraySize := by omega
    rw [hnode]
    exact .array hpos h.size

theorem InOrder.form_struct (hid : node.logicalTypeId = logicalStruct) : node.Form := by
  simp +decide only [typeShapeValidate, hid, if_true, if_false] at hshape
  split at hshape
  · cases hshape
  · rw [h.tidy.fields hid]
    exact .struct h.names (by omega) h.members

theorem InOrder.form_union (hid : node.logicalTypeId = logicalUnion) : node.Form := by
  simp +decide only [typeShapeValidate, hid, if_true, if_false] at hshape
  split at hshape
  · next tag member members hchildren =>
    split at hshape
    · next htag =>
      rw [h.tidy.fields hid, hchildren]
      exact .union (hchildren ▸ h.names) (by simp) (hchildren ▸ h.members) htag
    · cases hshape
  · cases hshape

/-- **The form of a well-formed node.** -/
theorem InOrder.form : node.Form := by
  cases hinfo : typeExpectedInfoKind node.logicalTypeId with
  | none =>
    have hid := logicalTypeId_le_of_shape hinfo hshape
    have hnode := h.tidy.plain hinfo
    rw [hnode] at hshape ⊢
    exact .plain hinfo hid hshape
  | some kind =>
    unfold typeExpectedInfoKind at hinfo
    split_ifs at hinfo with hid hid hid hid hid
    · exact h.form_decimal hshape hid
    · exact hid.elim (h.form_list hshape) (h.form_map hshape)
    · exact hid.elim (h.form_struct hshape) (h.form_union hshape)
    · exact h.form_enum hid
    · exact h.form_array hshape hid

end

/-- Every form has the shape of its kind. -/
theorem Form.shape (h : node.Form) : typeShapeValidate node = none := by
  cases h with
  | plain hinfo hid hshape => exact hshape
  | decimal hwidth hmax hscale =>
    unfold typeShapeValidate
    rw [if_pos rfl, if_neg]
    simp only
    omega
  | enum hcount =>
    have : ¬maxEnumValues < length _ := Nat.not_lt.2 hcount
    simp [typeShapeValidate, this, logicalEnum, logicalDecimal,
      logicalList, logicalMap, logicalStruct, logicalUnion]
  | list => rfl
  | map hid htwo =>
    simp [typeShapeValidate, hid, htwo, logicalMap, logicalDecimal]
  | array hpos hmax =>
    have := Nat.ne_of_gt hpos
    simp [typeShapeValidate, this, logicalDecimal, logicalMap, logicalUnion, logicalArray]
  | struct hnames hpos hmax =>
    simp [typeShapeValidate, logicalMap, logicalDecimal, logicalList, logicalStruct]
    rintro rfl
    cases hpos
  | union hnames hpos hmax htag =>
    obtain ⟨member, rest, rfl⟩ := exists_cons_of_length_pos hpos
    simp [typeShapeValidate, htag, logicalMap, logicalDecimal, logicalList, logicalUnion]

/-- Every form has its fields in order. -/
theorem Form.inOrder (h : node.Form) : node.InOrder := by
  cases h with
  | plain hinfo hid hshape => exact inOrder_nodeNew _
  | decimal hwidth hmax hscale =>
    exact { inOrder_nodeNew logicalDecimal with decimal := fun h => absurd rfl h }
  | enum hcount =>
    exact { inOrder_nodeNew logicalEnum with
      labels := hcount
      noNul := fun text _ => text.noNul
      enum := fun h => absurd rfl h }
  | list =>
    exact inOrder_nodeAddChild (inOrder_nodeNew logicalList) rfl rfl
  | map hid htwo =>
    exact inOrder_nodeAddChild (inOrder_nodeNew logicalMap) rfl rfl
  | @array size child hpos hmax =>
    have hsized : InOrder { nodeNew logicalArray with arraySize := size } :=
      { inOrder_nodeNew logicalArray with
        size := hmax
        array := fun h => absurd rfl h }
    exact inOrder_nodeAddChild hsized rfl rfl
  | struct hnames hpos hmax =>
    exact { inOrder_nodeNew logicalStruct with
      names := hnames
      members := hmax
      noNul := fun text _ => text.noNul
      nested := fun h => by cases h
      unnamed := fun h => absurd rfl h }
  | union hnames hpos hmax htag =>
    exact { inOrder_nodeNew logicalUnion with
      names := hnames
      members := hmax
      noNul := fun text _ => text.noNul
      nested := fun h => by cases h
      unnamed := fun _ h => absurd rfl h }

end TypeNode

end

end Ducknng
