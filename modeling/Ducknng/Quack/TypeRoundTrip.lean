import Ducknng.Quack.Primitives
import Ducknng.Quack.Uncharged
import Ducknng.Quack.WellFormed
import Mathlib.Algebra.Order.BigOperators.Group.List

namespace Ducknng

open List ByteCodec

/-!
# Type trees survive the wire

The codec carries every well-formed tree unchanged. A supported logical type becomes
such a tree in a canonical form, and the tree turns back into the type it came from.

* `Quack.emits_writeTypeNode`, `Quack.reads_readTypeNode` — the two halves of the
  codec; `Quack.typeNode_roundTrip` puts them together.
* `LogicalType.represents_of_withinLimits` — from a supported type to its tree and back.
-/

/-! ### Canonical trees -/

/-- The trees that supported types become, with at most `left` levels. -/
inductive TypeNode.Canonical : Nat → TypeNode → Prop where
  | flat {left : Nat} (kind : FlatKind) :
      Canonical (left + 1) ⟨kind.logicalTypeId, 0, 0, 0, [], [], []⟩
  | decimal {left width scale : Nat} (hwidth : 1 ≤ width) (hmax : width ≤ 38)
      (hscale : scale ≤ width) :
      Canonical (left + 1) ⟨Quack.logicalDecimal, width, scale, 0, [], [], []⟩
  | enum {left : Nat} {labels : List CStr} (hcount : labels.length ≤ Quack.maxEnumValues) :
      Canonical (left + 1) ⟨Quack.logicalEnum, 0, 0, 0, labels, [], []⟩
  | list {left : Nat} {child : TypeNode} (hchild : Canonical left child) :
      Canonical (left + 1) ⟨Quack.logicalList, 0, 0, 0, [], [.empty], [child]⟩
  | map {left : Nat} {entry : TypeNode} (hentry : Canonical left entry)
      (hid : entry.logicalTypeId = Quack.logicalStruct) (htwo : entry.children.length = 2) :
      Canonical (left + 1) ⟨Quack.logicalMap, 0, 0, 0, [], [.empty], [entry]⟩
  | array {left size : Nat} {child : TypeNode} (hchild : Canonical left child)
      (hpos : 1 ≤ size) (hmax : size ≤ u32Max) :
      Canonical (left + 1) ⟨Quack.logicalArray, 0, 0, size, [], [.empty], [child]⟩
  | struct {left : Nat} {names : List CStr} {members : List TypeNode}
      (hnames : names.length = members.length) (hpos : 1 ≤ members.length)
      (hmax : members.length ≤ Quack.maxStructMembers)
      (hmembers : ∀ m ∈ members, Canonical left m) :
      Canonical (left + 1) ⟨Quack.logicalStruct, 0, 0, 0, [], names, members⟩
  | union {left : Nat} {names : List CStr} {tag : TypeNode} {members : List TypeNode}
      (hnames : names.length = (tag :: members).length) (hpos : 1 ≤ members.length)
      (hmax : (tag :: members).length ≤ Quack.maxStructMembers)
      (htag : tag.logicalTypeId = FlatKind.logicalTypeId .utinyint)
      (hmembers : ∀ m ∈ tag :: members, Canonical left m) :
      Canonical (left + 1) ⟨Quack.logicalUnion, 0, 0, 0, [], names, tag :: members⟩

variable {node : TypeNode}

variable {left : Nat}

/-- The children of a canonical tree are canonical one level down. -/
theorem TypeNode.Canonical.children (h : node.Canonical (left + 1)) :
    ∀ child ∈ node.children, child.Canonical left := by
  cases h with
  | flat | decimal | enum => exact forall_mem_nil _
  | list h | map h | array h => exact forall_mem_singleton.2 h
  | struct _ _ _ h | union _ _ _ _ h => exact h

/-- A canonical tree has the form of its kind. -/
theorem TypeNode.Canonical.form (h : node.Canonical left) :
    node.Form := by
  cases h with
  | flat kind => cases kind <;> exact .plain rfl (by decide) rfl
  | decimal hwidth hmax hscale => exact .decimal hwidth hmax hscale
  | enum hcount => exact .enum hcount
  | list _ => exact .list
  | map _ hid htwo => exact .map hid htwo
  | array _ hpos hmax => exact .array hpos hmax
  | struct hnames hpos hmax _ => exact .struct hnames hpos hmax
  | union hnames hpos hmax htag _ => exact .union hnames hpos hmax htag

/-- **A canonical tree is well formed.** -/
theorem TypeNode.Canonical.wellFormed (h : node.Canonical left) :
    node.WellFormed left := by
  induction left generalizing node with
  | zero => cases h
  | succ left ih =>
    exact ⟨h.form.shape, h.form.inOrder, fun child hmem => ih (h.children child hmem)⟩

/-- Every identifier of a well-formed tree is small. -/
theorem TypeNode.Form.logicalTypeId_le (hnode : node.Form) :
    node.logicalTypeId ≤ 108 := by
  cases hnode with
  | plain hinfo hid hshape => exact hid
  | _ => simp only; decide

namespace Quack

/-! ### A tree on the wire -/

/-- A field that is only there when it differs from `0`. -/
def nonzeroFieldBytes (fieldId value : Nat) : List UInt8 :=
  if value != 0 then fieldBytes fieldId ++ ulebBytes 10 value else []

/-- A named member of a structure, given the bytes of its type. -/
def childPairBytes (childBytes : TypeNode → List UInt8) (pair : CStr × TypeNode) : List UInt8 :=
  fieldBytes 0 ++ (countedBytes pair.1.bytes ++ (fieldBytes 1 ++ (childBytes pair.2 ++
    fieldBytes fieldEnd)))

/-- The kind and parameters of a type, given the bytes of a child's type. -/
def typeInfoBytes (childBytes : TypeNode → List UInt8) (node : TypeNode) : List UInt8 :=
  if node.logicalTypeId = logicalDecimal then
    ulebBytes 10 2 ++ (nonzeroFieldBytes 200 node.decimalWidth ++
      nonzeroFieldBytes 201 node.decimalScale)
  else if node.logicalTypeId = logicalList ∨ node.logicalTypeId = logicalMap then
    ulebBytes 10 4 ++ (fieldBytes 200 ++ node.children.flatMap childBytes)
  else if node.logicalTypeId = logicalStruct ∨ node.logicalTypeId = logicalUnion then
    ulebBytes 10 5 ++ (fieldBytes 200 ++ (ulebBytes 10 node.children.length ++
      (node.childNames.zip node.children).flatMap (childPairBytes childBytes)))
  else if node.logicalTypeId = logicalEnum then
    ulebBytes 10 6 ++ (fieldBytes 200 ++ (ulebBytes 10 node.enumLabels.length ++
      (fieldBytes 201 ++ (ulebBytes 10 node.enumLabels.length ++
        node.enumLabels.flatMap fun label => countedBytes label.bytes))))
  else
    ulebBytes 10 9 ++ (fieldBytes 200 ++ (node.children.flatMap childBytes ++
      nonzeroFieldBytes 201 node.arraySize))

/-- A type tree of at most `left` levels. -/
def typeBytes : Nat → TypeNode → List UInt8
  | 0, _ => []
  | left + 1, node =>
    fieldBytes 100 ++ (ulebBytes 10 node.logicalTypeId ++
      ((if typeNeedsInfo node then
          fieldBytes 101 ++ ([1] ++ (fieldBytes 100 ++ (typeInfoBytes (typeBytes left) node ++
            fieldBytes fieldEnd)))
        else []) ++ fieldBytes fieldEnd))

/-! ### Writing -/

theorem emits_writeNonzeroField (fieldId value : Nat) :
    Emits sizeMax (writeNonzeroField fieldId value) (nonzeroFieldBytes fieldId value) :=
  emits_writeWhen fun _ => (emits_writeFieldId _).bind (emits_writeUleb128 _)

section
variable {writeChild : TypeNode → QuackWrite} {childBytes : TypeNode → List UInt8}

/-- The info of every type that has some, provided its children can be written. -/
theorem emits_writeTypeInfo (hshape : typeShapeValidate node = none) (hneeds : typeNeedsInfo node)
    (hchild : ∀ child ∈ node.children, Emits sizeMax (writeChild child) (childBytes child)) :
    Emits sizeMax (writeTypeInfo writeChild node) (typeInfoBytes childBytes node) := by
  have hsingle : ∀ child, node.children = [child] →
      Emits sizeMax (writeChild child) (childBytes child ++ []) := by
    intro child hone
    rw [append_nil]
    exact hchild child (hone ▸ mem_singleton.2 rfl)
  unfold writeTypeInfo typeInfoBytes
  split_ifs with hdecimal hlist hmember henum harray
  · exact (emits_writeUleb128 2).bind
      ((emits_writeNonzeroField 200 _).bind (emits_writeNonzeroField 201 _))
  · obtain ⟨child, hone⟩ := length_eq_one_iff.1 (single_of_shape hshape (by tauto))
    rw [hone]
    exact (emits_writeUleb128 4).bind ((emits_writeFieldId 200).bind (hsingle child hone))
  · exact (emits_writeUleb128 5).bind ((emits_writeFieldId 200).bind
      ((emits_writeUleb128 _).bind (Emits.emitEach fun pair hpair =>
        (emits_writeFieldId 0).bind ((emits_writeString _).bind ((emits_writeFieldId 1).bind
          ((hchild pair.2 (of_mem_zip hpair).2).bind emits_writeFieldEnd))))))
  · exact (emits_writeUleb128 6).bind ((emits_writeFieldId 200).bind
      ((emits_writeUleb128 _).bind ((emits_writeFieldId 201).bind ((emits_writeUleb128 _).bind
        (Emits.emitEach fun label _ => emits_writeString label)))))
  · obtain ⟨child, hone⟩ := length_eq_one_iff.1 (single_of_shape hshape (by tauto))
    rw [hone]
    exact (emits_writeUleb128 9).bind ((emits_writeFieldId 200).bind
      ((hsingle child hone).bind (emits_writeNonzeroField 201 _)))
  · simp [typeNeedsInfo, typeExpectedInfoKind, *] at hneeds

end

/-- **Writing a type tree** whose nodes all have the shape of their kind. -/
theorem emits_of_shape {Tree : Nat → TypeNode → Prop} (hzero : ∀ node, ¬Tree 0 node)
    (hsucc : ∀ left node, Tree (left + 1) node → typeShapeValidate node = none ∧
      ∀ child ∈ node.children, Tree left child) (hnode : Tree left node) :
    Emits sizeMax (writeTypeNode left node) (typeBytes left node) := by
  induction left generalizing node with
  | zero => exact absurd hnode (hzero node)
  | succ left ih =>
    refine (emits_writeFieldId 100).bind ((emits_writeUleb128 _).bind
      ((emits_writeWhen fun hneeds => ?_).bind emits_writeFieldEnd))
    obtain ⟨hshape, hchildren⟩ := hsucc left node hnode
    have hinfo := emits_writeTypeInfo hshape hneeds fun child hmem => ih (hchildren child hmem)
    exact (emits_writeFieldId 101).bind ((emits_writeByte 1).bind ((emits_writeFieldId 100).bind
      (hinfo.bind emits_writeFieldEnd)))

theorem emits_writeTypeNode (hnode : node.WellFormed left) :
    Emits sizeMax (writeTypeNode left node) (typeBytes left node) :=
  emits_of_shape (fun _ h => h) (fun _ _ h => ⟨h.1, h.2.2⟩) hnode

/-! ### Reading -/

variable {names : List CStr}

section
variable {readChild : QuackRead TypeNode}

variable {childBytes : TypeNode → List UInt8}

theorem reads_readChildPair (name : CStr)
    (hchild : Reads readBounds readChild (childBytes node) 0 node) :
    Reads readBounds (readChildPair readChild) (childPairBytes childBytes (name, node)) 0
      (name, node) := by
  -- The writer's order: the name, the type, the end.
  refine (reads_readU16le (by decide)).bind_free ?_
  refine (reads_readStringDup name).bind_free ?_
  refine (reads_readU16le (by decide)).bind_free ?_
  refine hchild.bind_free ?_
  refine (reads_readU16le (by decide)).bind_nil ?_
  exact Reads.pure _

variable {s : TypeInfoState} {bs : List UInt8} {id : Nat}

/-- One field of the type info. -/
theorem reads_readTypeInfoLoop_field {fuel f : Nat} {s' : TypeInfoState} {cs : List UInt8}
    (hf : f < fieldEnd) (hseen : f ∉ s.seen)
    (hfield : Reads readBounds (readTypeInfoField readChild f { s with seen := f :: s.seen }) bs
      0 s')
    (hrest : Reads readBounds (readTypeInfoLoop readChild fuel s') cs 0 node) :
    Reads readBounds (readTypeInfoLoop readChild (fuel + 1) s) (fieldBytes f ++ (bs ++ cs)) 0
      node := by
  have hmax : f < 2 ^ 16 := Nat.lt_trans hf (by decide)
  refine (reads_readU16le hmax).bind_free ?_
  rw [if_neg (Nat.ne_of_lt hf), if_neg hseen]
  exact hfield.bind_free hrest

/-- The end of the type info. -/
theorem reads_readTypeInfoLoop_end {fuel : Nat}
    (hseen : decide (∀ f ∈ requiredInfoFields s.node.logicalTypeId, f ∈ s.seen) = true)
    (hshape : typeShapeValidate s.node = none) :
    Reads readBounds (readTypeInfoLoop readChild (fuel + 1) s) (fieldBytes fieldEnd) 0 s.node := by
  refine (reads_readU16le (by decide)).bind_nil ?_
  rw [if_pos rfl, if_neg (not_not.2 (of_decide_eq_true hseen)), hshape]
  exact Reads.pure _

/-- The kind field, which must be the one the type asks for. -/
theorem reads_readTypeInfoField_kind (kind : Nat) (hmax : kind ≤ u64Max)
    (hkind : typeExpectedInfoKind s.node.logicalTypeId = some kind) :
    Reads readBounds (readTypeInfoField readChild 100 s) (ulebBytes 10 kind) 0 s := by
  refine (reads_readUleb128 hmax).bind_nil ?_
  rw [hkind, if_neg (by simp)]
  exact Reads.pure s

/-- The kind of a type and field 200, and what follows them. -/
theorem reads_readTypeInfo_200 (kind : Nat) {cs : List UInt8} (hmax : kind ≤ u64Max)
    (hkind : typeExpectedInfoKind id = some kind)
    (h200 : Reads readBounds (readTypeInfo200 readChild ⟨nodeNew id, [200, 100], 0⟩) bs 0 s)
    (hrest : Reads readBounds (readTypeInfoLoop readChild 4 s) cs 0 node) :
    Reads readBounds (readTypeInfo readChild (nodeNew id))
      (fieldBytes 100 ++ (ulebBytes 10 kind ++ (fieldBytes 200 ++ (bs ++ cs)))) 0 node := by
  refine reads_readTypeInfoLoop_field (by decide) not_mem_nil
    (reads_readTypeInfoField_kind kind hmax hkind) ?_
  exact reads_readTypeInfoLoop_field (by decide) (by simp) h200 hrest

/-- The info of a type is read back. -/
def InfoReads (readChild : QuackRead TypeNode) (childBytes : TypeNode → List UInt8)
    (node : TypeNode) : Prop :=
  Reads readBounds (readTypeInfo readChild (nodeNew node.logicalTypeId))
    (fieldBytes 100 ++ (typeInfoBytes childBytes node ++ fieldBytes fieldEnd)) 0 node

/-- The info of a decimal; a scale of `0` is not written. -/
theorem infoReads_decimal {width scale : Nat} (hwidth : 1 ≤ width) (hmax : width ≤ 38)
    (hscale : scale ≤ width) :
    InfoReads readChild childBytes ⟨logicalDecimal, width, scale, 0, [], [], []⟩ := by
  have h200 : Reads readBounds
      (readTypeInfo200 readChild ⟨nodeNew logicalDecimal, [200, 100], 0⟩) (ulebBytes 10 width) 0
      ⟨⟨logicalDecimal, width, 0, 0, [], [], []⟩, [200, 100], 0⟩ := by
    refine (reads_readUleb128 (Nat.le_trans hmax (by decide))).bind_nil ?_
    rw [if_neg (by omega)]
    exact Reads.pure _
  have hw : (width != 0) = true := bne_iff_ne.2 (by omega)
  have hbytes : ∀ bs, typeInfoBytes childBytes ⟨logicalDecimal, width, scale, 0, [], [], []⟩ ++ bs =
      ulebBytes 10 2 ++ (fieldBytes 200 ++ (ulebBytes 10 width ++
        (nonzeroFieldBytes 201 scale ++ bs))) := by
    intro bs
    simp only [typeInfoBytes, nonzeroFieldBytes, hw, if_true, append_assoc]
  rw [InfoReads, hbytes]
  by_cases hs : scale = 0
  · subst hs
    exact reads_readTypeInfo_200 2 (by decide) rfl h200 (reads_readTypeInfoLoop_end rfl
      (TypeNode.Form.decimal hwidth hmax (Nat.zero_le _)).shape)
  · have h201 : Reads readBounds
        (readTypeInfo201 ⟨⟨logicalDecimal, width, 0, 0, [], [], []⟩, [201, 200, 100], 0⟩)
        (ulebBytes 10 scale) 0
        ⟨⟨logicalDecimal, width, scale, 0, [], [], []⟩, [201, 200, 100], 0⟩ := by
      refine (reads_readUleb128 (Nat.le_trans hscale (Nat.le_trans hmax (by decide)))).bind_nil ?_
      rw [if_neg (by omega)]
      exact Reads.pure _
    have hs' : (scale != 0) = true := bne_iff_ne.2 hs
    simp only [nonzeroFieldBytes, hs']
    exact reads_readTypeInfo_200 2 (by decide) rfl h200 (reads_readTypeInfoLoop_field (by decide)
      (by simp) h201 (reads_readTypeInfoLoop_end rfl
        (TypeNode.Form.decimal hwidth hmax hscale).shape))

/-- As many items as there are bytes at least, when no item is empty. -/
theorem length_le_flatMap_length {α : Type} {bytes : α → List UInt8} {xs : List α}
    (h : ∀ x ∈ xs, 0 < (bytes x).length) : xs.length ≤ (xs.flatMap bytes).length := by
  rw [length_flatMap, ← length_map fun x => (bytes x).length]
  exact length_le_sum_of_one_le _ (forall_mem_map.2 h)

/-- The info of an enumeration: the count twice, then the labels. -/
theorem infoReads_enum {labels : List CStr} (hcount : labels.length ≤ maxEnumValues) :
    InfoReads readChild childBytes ⟨logicalEnum, 0, 0, 0, labels, [], []⟩ := by
  have hmax : labels.length ≤ u64Max := Nat.le_trans hcount (by decide)
  have h200 : Reads readBounds
      (readTypeInfo200 readChild ⟨nodeNew logicalEnum, [200, 100], 0⟩)
        (ulebBytes 10 labels.length) 0
      ⟨nodeNew logicalEnum, [200, 100], labels.length⟩ := by
    refine (reads_readUleb128 hmax).bind_nil ?_
    rw [if_neg (by omega)]
    exact Reads.pure _
  have h201 : Reads readBounds
      (readTypeInfo201 ⟨nodeNew logicalEnum, [201, 200, 100], labels.length⟩)
      (ulebBytes 10 labels.length ++ labels.flatMap fun label => countedBytes label.bytes) 0
      ⟨⟨logicalEnum, 0, 0, 0, labels, [], []⟩, [201, 200, 100], labels.length⟩ := by
    refine (reads_readUleb128 hmax).bind_free ?_
    rw [if_neg (by simp)]
    refine reads_remaining fun n hn => ?_
    have hle := length_le_flatMap_length fun (label : CStr) (_ : label ∈ labels) =>
      countedBytes_length_pos label.bytes
    have hsize : labels.length ≤ sizeMax := hmax
    rw [if_neg (by omega)]
    have hread := Reads.repeatRead fun (label : CStr) (_ : label ∈ labels) =>
      reads_readStringDup label
    rw [map_id'] at hread
    exact hread.bind_nil (Reads.pure _)
  have hbytes : typeInfoBytes childBytes ⟨logicalEnum, 0, 0, 0, labels, [], []⟩ =
      ulebBytes 10 6 ++ (fieldBytes 200 ++ (ulebBytes 10 labels.length ++ (fieldBytes 201 ++
        (ulebBytes 10 labels.length ++
          labels.flatMap fun label => countedBytes label.bytes)))) := rfl
  have h := reads_readTypeInfo_200 6 (by decide) rfl h200 (reads_readTypeInfoLoop_field (f := 201)
    (by decide) (by simp) h201 (reads_readTypeInfoLoop_end rfl (TypeNode.Form.enum hcount).shape))
  rw [InfoReads, hbytes]
  simpa only [append_assoc] using h

/-- The info of a type with one unnamed child. -/
theorem infoReads_child {child : TypeNode} (hid : id = logicalList ∨ id = logicalMap)
    (hshape : typeShapeValidate ⟨id, 0, 0, 0, [], [.empty], [child]⟩ = none)
    (hchild : Reads readBounds readChild (childBytes child) 0 child) :
    InfoReads readChild childBytes ⟨id, 0, 0, 0, [], [.empty], [child]⟩ := by
  have h200 : Reads readBounds (readTypeInfo200 readChild ⟨nodeNew id, [200, 100], 0⟩)
      (childBytes child) 0 ⟨⟨id, 0, 0, 0, [], [.empty], [child]⟩, [200, 100], 0⟩ := by
    rcases hid with rfl | rfl <;> exact hchild.bind_nil (Reads.pure _)
  have hbytes : typeInfoBytes childBytes ⟨id, 0, 0, 0, [], [.empty], [child]⟩ =
      ulebBytes 10 4 ++ (fieldBytes 200 ++ childBytes child) := by
    rw [← append_nil (childBytes child)]
    rcases hid with rfl | rfl <;> rfl
  rw [InfoReads, hbytes]
  rcases hid with rfl | rfl <;>
    exact reads_readTypeInfo_200 4 (by decide) rfl h200 (reads_readTypeInfoLoop_end rfl hshape)

/-- The info of an array. -/
theorem infoReads_array {size : Nat} {child : TypeNode} (hpos : 1 ≤ size)
    (hmax : size ≤ u32Max) (hchild : Reads readBounds readChild (childBytes child) 0 child) :
    InfoReads readChild childBytes ⟨logicalArray, 0, 0, size, [], [.empty], [child]⟩ := by
  have h200 : Reads readBounds (readTypeInfo200 readChild ⟨nodeNew logicalArray, [200, 100], 0⟩)
      (childBytes child) 0 ⟨⟨logicalArray, 0, 0, 0, [], [.empty], [child]⟩, [200, 100], 0⟩ :=
    hchild.bind_nil (Reads.pure _)
  have h201 : Reads readBounds
      (readTypeInfo201 ⟨⟨logicalArray, 0, 0, 0, [], [.empty], [child]⟩, [201, 200, 100], 0⟩)
      (ulebBytes 10 size) 0
      ⟨⟨logicalArray, 0, 0, size, [], [.empty], [child]⟩, [201, 200, 100], 0⟩ := by
    refine (reads_readUleb128 (Nat.le_trans hmax (by decide))).bind_nil ?_
    rw [if_neg (by omega)]
    exact Reads.pure _
  have hs : (size != 0) = true := bne_iff_ne.2 (by omega)
  have hbytes : typeInfoBytes childBytes ⟨logicalArray, 0, 0, size, [], [.empty], [child]⟩ =
      ulebBytes 10 9 ++ (fieldBytes 200 ++ (childBytes child ++ (fieldBytes 201 ++
        ulebBytes 10 size))) := by
    simp [typeInfoBytes, nonzeroFieldBytes, hs, logicalEnum, logicalDecimal, logicalList,
      logicalMap, logicalStruct, logicalUnion, logicalArray]
  rw [InfoReads, hbytes]
  simp only [append_assoc]
  exact reads_readTypeInfo_200 9 (by decide) rfl h200 (reads_readTypeInfoLoop_field (by decide)
    (by simp) h201 (reads_readTypeInfoLoop_end rfl (TypeNode.Form.array hpos hmax).shape))

/-- The info of a type with named members. -/
theorem infoReads_members {members : List TypeNode}
    (hid : id = logicalStruct ∨ id = logicalUnion)
    (hshape : typeShapeValidate ⟨id, 0, 0, 0, [], names, members⟩ = none)
    (hnames : names.length = members.length) (hmax : members.length ≤ maxStructMembers)
    (hchild : ∀ child ∈ members, Reads readBounds readChild (childBytes child) 0 child) :
    InfoReads readChild childBytes ⟨id, 0, 0, 0, [], names, members⟩ := by
  have hu64 : members.length ≤ u64Max := Nat.le_trans hmax (by decide)
  have hzip : (names.zip members).length = members.length := by
    rw [length_zip, hnames, Nat.min_self]
  have hpairs := Reads.repeatRead fun (pair : CStr × TypeNode) (hpair : pair ∈ names.zip members) =>
    reads_readChildPair pair.1 (hchild pair.2 (of_mem_zip hpair).2)
  rw [hzip, map_id'] at hpairs
  have hle := length_le_flatMap_length fun (pair : CStr × TypeNode)
    (_ : pair ∈ names.zip members) =>
      show 0 < (childPairBytes childBytes pair).length by
        rw [childPairBytes, length_append, fieldBytes_length]
        omega
  have hfst : (names.zip members).map Prod.fst = names := map_fst_zip (Nat.le_of_eq hnames)
  have hsnd : (names.zip members).map Prod.snd = members :=
    map_snd_zip (Nat.le_of_eq hnames.symm)
  have h200 : Reads readBounds (readTypeInfo200 readChild ⟨nodeNew id, [200, 100], 0⟩)
      (ulebBytes 10 members.length ++ (names.zip members).flatMap (childPairBytes childBytes)) 0
      ⟨⟨id, 0, 0, 0, [], names, members⟩, [200, 100], 0⟩ := by
    have hsize : members.length ≤ sizeMax := hu64
    rcases hid with rfl | rfl
    all_goals
      refine (reads_readUleb128 hu64).bind_free (reads_remaining fun n hn => ?_)
      rw [if_neg (by omega)]
      refine hpairs.bind_nil ?_
      rw [hfst, hsnd]
      exact Reads.pure _
  have hbytes : typeInfoBytes childBytes ⟨id, 0, 0, 0, [], names, members⟩ =
      ulebBytes 10 5 ++ (fieldBytes 200 ++ (ulebBytes 10 members.length ++
        (names.zip members).flatMap (childPairBytes childBytes))) := by
    rcases hid with rfl | rfl <;> rfl
  rw [InfoReads, hbytes]
  rcases hid with rfl | rfl
  all_goals
    have h := reads_readTypeInfo_200 5 (by decide) rfl h200 (reads_readTypeInfoLoop_end rfl hshape)
    simpa only [append_assoc] using h

/-- The info of every type that has some, provided its children can be read. -/
theorem reads_readTypeInfo (hnode : node.Form) (hneeds : typeNeedsInfo node)
    (hchild : ∀ child ∈ node.children, Reads readBounds readChild (childBytes child) 0 child) :
    InfoReads readChild childBytes node := by
  have hshape := hnode.shape
  cases hnode with
  | plain hinfo hid _ =>
    rw [typeNeedsInfo, nodeNew, hinfo] at hneeds
    cases hneeds
  | decimal hwidth hmax hscale => exact infoReads_decimal hwidth hmax hscale
  | enum hcount => exact infoReads_enum hcount
  | list => exact infoReads_child (.inl rfl) hshape (hchild _ (mem_singleton.2 rfl))
  | map hid htwo =>
    exact infoReads_child (.inr rfl) hshape (hchild _ (mem_singleton.2 rfl))
  | array hpos hmax =>
    exact infoReads_array hpos hmax (hchild _ (mem_singleton.2 rfl))
  | struct hnames hpos hmax =>
    exact infoReads_members (.inl rfl) hshape hnames hmax hchild
  | union hnames hpos hmax htag =>
    exact infoReads_members (.inr rfl) hshape hnames hmax hchild

end

/-- **Reading a type tree back.** -/
theorem reads_readTypeNode (hnode : node.WellFormed left) :
    Reads readBounds (readTypeNode left) (typeBytes left node) 0 node := by
  induction left generalizing node with
  | zero => cases hnode
  | succ left ih =>
    obtain ⟨hshape, hfields, hchildren⟩ := hnode
    have hform := hfields.form hshape
    have hid := hform.logicalTypeId_le
    -- The identifier comes first, whatever follows.
    refine .nested ((reads_readU16le (by decide)).bind_free ?_)
    refine (reads_readUleb128 (Nat.le_trans hid (by decide))).bind_free ?_
    rw [if_neg (by omega)]
    by_cases hneeds : typeNeedsInfo node
    · rw [if_pos hneeds]
      have hinfo := reads_readTypeInfo hform hneeds fun child hmem => ih (hchildren child hmem)
      refine (reads_readU16le (by decide)).bind_free ?_
      refine (reads_readBoolean _ true).bind_free ?_
      refine hinfo.bind_free ?_
      refine (reads_readU16le (by decide)).bind_nil ?_
      have hfinish : finishTypeNode ⟨node, true, true, true⟩ = pure node := by
        simp [finishTypeNode]
      show Reads readBounds (finishTypeNode ⟨node, true, true, true⟩) [] 0 node
      rw [hfinish]
      exact Reads.pure node
    · rw [if_neg hneeds]
      have hplain : node = nodeNew node.logicalTypeId := by
        cases hform with
        | plain => rfl
        | _ => exact absurd rfl hneeds
      rw [hplain] at hshape hneeds ⊢
      refine (reads_readU16le (by decide)).bind_nil ?_
      have hfinish : finishTypeNode ⟨nodeNew node.logicalTypeId, true, false, false⟩ =
          pure (nodeNew node.logicalTypeId) := by
        simp [finishTypeNode, hneeds, hshape]
      show Reads readBounds (finishTypeNode ⟨nodeNew node.logicalTypeId, true, false, false⟩) [] 0 _
      rw [hfinish]
      exact Reads.pure _

/-- **A well-formed tree survives the wire.** The writer produces the same bytes in every
    sink they fit in, and the reader, standing before them with anything around, returns
    the tree and stops right after them. -/
theorem typeNode_roundTrip {left : Nat} {node : TypeNode} (hnode : node.WellFormed left) :
    ∃ bytes, Emits sizeMax (writeTypeNode left node) bytes ∧
      ∀ (before suffix : List UInt8) (spent : Nat),
        (before ++ (bytes ++ suffix)).length ≤ sizeMax →
        readTypeNode left ⟨before ++ (bytes ++ suffix), before.length, spent⟩ =
          .ok (node, ⟨before ++ (bytes ++ suffix), before.length + bytes.length, spent⟩) := by
  refine ⟨typeBytes left node, emits_writeTypeNode hnode, fun before suffix spent hsize => ?_⟩
  have hread := reads_readTypeNode hnode ⟨before ++ (typeBytes left node ++ suffix),
    before.length, 0⟩ suffix hsize drop_left (Nat.zero_le _)
  exact Uncharged.run spent hread

/-- An array of three decimals. -/
theorem typeNode_roundTrip_array :
    (TypeNode.mk logicalArray 0 0 3 [] [.empty]
      [⟨logicalDecimal, 18, 3, 0, [], [], []⟩]).WellFormed maxLevels ∧
    ∃ bytes, Emits sizeMax (writeTypeNode maxLevels ⟨logicalArray, 0, 0, 3, [], [.empty],
      [⟨logicalDecimal, 18, 3, 0, [], [], []⟩]⟩) bytes := by
  have hchild : (TypeNode.mk logicalDecimal 18 3 0 [] [] []).Canonical 64 :=
    .decimal (by decide) (by decide) (by decide)
  have hwf := (TypeNode.Canonical.array hchild (by decide : 1 ≤ 3) (by decide)).wellFormed
  obtain ⟨bytes, hemits, _⟩ := typeNode_roundTrip hwf
  exact ⟨hwf, bytes, hemits⟩

/-! ### From a type to its tree and back -/

mutual

/-- The comparison of two trees is equality. -/
theorem typeEqual_iff : ∀ a b : TypeNode, typeEqual a b = true ↔ a = b
  | ⟨_, _, _, _, _, _, cs⟩, ⟨_, _, _, _, _, _, cs'⟩ => by
    simp [typeEqual, typesEqual_iff cs cs', and_assoc]

theorem typesEqual_iff : ∀ as bs : List TypeNode, typesEqual as bs = true ↔ as = bs
  | [], [] => by simp [typesEqual]
  | [], _ :: _ => by simp [typesEqual]
  | _ :: _, [] => by simp [typesEqual]
  | a :: as, b :: bs => by simp [typesEqual, typeEqual_iff a b, typesEqual_iff as bs]

end

/-- What a supported type becomes: a canonical tree that stands for the type. -/
def Represents (left : Nat) (type : LogicalType) (node : TypeNode) : Prop :=
  nodeFromDuckdb left type = .ok node ∧ node.Canonical left ∧ nodeToDuckdb left node = .ok type

/-- A list of supported types becomes a list of trees. -/
theorem represents_all {types : List LogicalType}
    (h : ∀ type ∈ types, ∃ node, Represents left type node) :
    ∃ nodes : List TypeNode, nodes.length = types.length ∧
      types.mapM (nodeFromDuckdb left) = .ok nodes ∧ (∀ node ∈ nodes, node.Canonical left) ∧
      nodes.mapM (nodeToDuckdb left) = .ok types := by
  induction types with
  | nil => exact ⟨[], rfl, rfl, forall_mem_nil _, rfl⟩
  | cons type types ih =>
    obtain ⟨node, hfrom, hcanon, hto⟩ := h type mem_cons_self
    obtain ⟨nodes, hlen, hfroms, hcanons, htos⟩ :=
      ih fun t ht => h t (mem_cons_of_mem type ht)
    refine ⟨node :: nodes, by simp [hlen], ?_, ?_, ?_⟩
    · rw [mapM_cons, hfrom, hfroms]
      rfl
    · exact forall_mem_cons.2 ⟨hcanon, hcanons⟩
    · rw [mapM_cons, hto, htos]
      rfl

section
variable {left : Nat}

theorem represents_list {child : LogicalType} (h : Represents left child node) :
    Represents (left + 1) (.list child) ⟨logicalList, 0, 0, 0, [], [.empty], [node]⟩ := by
  obtain ⟨hfrom, hcanon, hto⟩ := h
  refine ⟨?_, .list hcanon, ?_⟩
  · rw [nodeFromDuckdb]
    simp only [hfrom]
    rfl
  · rw [nodeToDuckdb]
    simp only [hto]
    rfl

theorem represents_array {child : LogicalType} {size : Nat} (hpos : 1 ≤ size) (hmax : size ≤ u32Max)
    (h : Represents left child node) :
    Represents (left + 1) (.array child size)
      ⟨logicalArray, 0, 0, size, [], [.empty], [node]⟩ := by
  obtain ⟨hfrom, hcanon, hto⟩ := h
  have hmod : size % 2 ^ 32 = size := Nat.mod_eq_of_lt (by unfold u32Max at hmax; omega)
  refine ⟨?_, .array hcanon hpos hmax, ?_⟩
  · rw [nodeFromDuckdb]
    simp only [hfrom, hmod]
    rfl
  · rw [nodeToDuckdb]
    simp only [hto]
    rfl

/-- The entry structure of a map takes a level of its own. -/
theorem represents_map {key value : LogicalType} {k v : TypeNode} (hk : Represents left key k)
    (hv : Represents left value v) :
    Represents (left + 2) (.map key value) ⟨logicalMap, 0, 0, 0, [], [.empty],
      [⟨logicalStruct, 0, 0, 0, [], [keyName, valueName], [k, v]⟩]⟩ := by
  obtain ⟨hkfrom, hkcanon, hkto⟩ := hk
  obtain ⟨hvfrom, hvcanon, hvto⟩ := hv
  have hentry : TypeNode.Canonical (left + 1)
      ⟨logicalStruct, 0, 0, 0, [], [keyName, valueName], [k, v]⟩ := by
    refine .struct rfl (by simp) (by simp [maxStructMembers]) ?_
    intro m hm
    rcases mem_pair.1 hm with rfl | rfl
    · exact hkcanon
    · exact hvcanon
  refine ⟨?_, .map hentry rfl rfl, ?_⟩
  · rw [nodeFromDuckdb]
    simp only [hkfrom, hvfrom]
    rfl
  · rw [nodeToDuckdb]
    simp only [hkto, hvto]
    rfl

theorem represents_struct {members : List LogicalType} (hnames : names.length = members.length)
    (hpos : 1 ≤ members.length) (hmax : members.length ≤ maxStructMembers)
    (h : ∀ type ∈ members, ∃ node, Represents left type node) :
    ∃ node, Represents (left + 1) (.struct names members) node := by
  obtain ⟨nodes, hlen, hfrom, hcanon, hto⟩ := represents_all h
  refine ⟨⟨logicalStruct, 0, 0, 0, [], names, nodes⟩, ?_,
    .struct (by omega) (by omega) (by omega) hcanon, ?_⟩
  · rw [nodeFromDuckdb]
    simp only [hfrom]
    rfl
  · rw [nodeToDuckdb, if_neg (by simp only; decide), if_pos rfl, if_neg (by simp only; omega)]
    simp only [hto]
    rfl

/-- A union gains its tag on the way to the wire and loses it on the way back. -/
theorem represents_union {members : List LogicalType} (hnames : names.length = members.length)
    (hpos : 1 ≤ members.length) (hmax : members.length + 1 ≤ maxStructMembers) (hleft : 0 < left)
    (h : ∀ type ∈ members, ∃ node, Represents left type node) :
    ∃ node, Represents (left + 1) (.union names members) node := by
  obtain ⟨nodes, hlen, hfrom, hcanon, hto⟩ := represents_all h
  obtain ⟨left, rfl⟩ := Nat.exists_eq_succ_of_ne_zero (Nat.ne_of_gt hleft)
  have htag : ∀ m ∈ nodeNew (FlatKind.logicalTypeId .utinyint) :: nodes,
      TypeNode.Canonical (left + 1) m := forall_mem_cons.2 ⟨.flat .utinyint, hcanon⟩
  refine ⟨⟨logicalUnion, 0, 0, 0, [], .empty :: names,
      nodeNew (FlatKind.logicalTypeId .utinyint) :: nodes⟩, ?_,
    .union (by simp only [length_cons]; omega) (by omega)
      (by simp only [length_cons]; omega) rfl htag, ?_⟩
  · rw [nodeFromDuckdb]
    simp only [hfrom]
    rfl
  · rw [nodeToDuckdb, if_neg (by simp only; decide), if_neg (by simp only; decide), if_pos rfl,
      if_neg (by simp only [length_cons]; omega)]
    simp only [drop_one, tail_cons, hto]
    rfl

end

end Quack

/-- **Supported types become canonical trees and come back.** -/
theorem LogicalType.represents_of_withinLimits {type : LogicalType} (h : type.withinLimits left) :
    ∃ node, Quack.Represents left type node := by
  induction left using Nat.strong_induction_on generalizing type with
  | _ left ih =>
    cases left with
    | zero => cases h
    | succ left =>
      cases type with
      | flat kind =>
        refine ⟨_, rfl, .flat kind, ?_⟩
        cases kind <;> rfl
      | decimal width scale =>
        obtain ⟨hwidth, hmax, hscale⟩ := of_decide_eq_true h
        exact ⟨_, rfl, .decimal hwidth hmax hscale, rfl⟩
      | enum labels => exact ⟨_, rfl, .enum (of_decide_eq_true h), rfl⟩
      | list child =>
        obtain ⟨node, hnode⟩ := ih left (Nat.lt_succ_self _) h
        exact ⟨_, Quack.represents_list hnode⟩
      | array child size =>
        simp only [withinLimits, Bool.and_eq_true, decide_eq_true_eq] at h
        obtain ⟨⟨hpos, hmax⟩, hchild⟩ := h
        obtain ⟨node, hnode⟩ := ih left (Nat.lt_succ_self _) hchild
        exact ⟨_, Quack.represents_array hpos hmax hnode⟩
      | map key value =>
        cases left with
        | zero => cases h
        | succ left =>
          simp only [withinLimits, Bool.and_eq_true] at h
          obtain ⟨k, hk⟩ := ih left (by omega) h.1
          obtain ⟨v, hv⟩ := ih left (by omega) h.2
          exact ⟨_, Quack.represents_map hk hv⟩
      | struct names members =>
        simp only [withinLimits, Bool.and_eq_true, decide_eq_true_eq, beq_iff_eq, all_eq_true] at h
        obtain ⟨⟨⟨hnames, hpos⟩, hmax⟩, hmembers⟩ := h
        exact Quack.represents_struct hnames hpos hmax fun m hm =>
          ih left (Nat.lt_succ_self _) (hmembers m hm)
      | union names members =>
        simp only [withinLimits, Bool.and_eq_true, decide_eq_true_eq, beq_iff_eq, all_eq_true] at h
        obtain ⟨⟨⟨hnames, hpos⟩, hmax⟩, hmembers⟩ := h
        -- A member that is within limits needs a level, and so does the tag.
        have hleft : 0 < left := by
          obtain ⟨member, rest, rfl⟩ := exists_cons_of_length_pos hpos
          have hmember := hmembers member mem_cons_self
          by_contra hzero
          rw [Nat.eq_zero_of_not_pos hzero] at hmember
          cases hmember
        exact Quack.represents_union hnames hpos hmax hleft fun m hm =>
          ih left (Nat.lt_succ_self _) (hmembers m hm)
      | other id => cases h

end Ducknng
