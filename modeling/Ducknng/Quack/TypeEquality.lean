import Ducknng.Quack.TypeRoundTrip

namespace Ducknng

open List ByteCodec Quack

/-!
# Equal types have equal encodings

Two column types are compared field by field when a payload is decoded. On trees that pass the check
of their shape, and with nothing in the fields that a kind does not use, that comparison is equality
of the bytes that the writer produces: the encoding can be taken apart from the left.

* `Quack.typeBytes_inj` — no encoding begins another one.
* `Quack.typeEqual_iff_bytes` — equal types, equal bytes; hence an equivalence.
-/

/-- The numbers of a node have 32 bits, and the lengths of its texts are sizes. -/
structure TypeNode.Sized (node : TypeNode) : Prop where
  id : node.logicalTypeId ≤ u32Max
  decimal : node.decimalWidth ≤ u32Max ∧ node.decimalScale ≤ u32Max
  array : node.arraySize ≤ u32Max
  labels : node.enumLabels.length ≤ u32Max
  members : node.children.length ≤ u32Max
  texts : ∀ text ∈ node.childNames ++ node.enumLabels, text.bytes.length ≤ sizeMax

/-- A tree of at most `left` levels that has the shape of its kind at every node, and nothing in the
    fields that the kind does not use. -/
def TypeNode.Shaped : Nat → TypeNode → Prop
  | 0, _ => False
  | left + 1, node => typeShapeValidate node = none ∧ node.Tidy ∧ node.Sized ∧
      ∀ child ∈ node.children, child.Shaped left

variable {a b : TypeNode}

/-- Nodes of one kind are equal when the fields that the kind uses are. -/
theorem TypeNode.Tidy.eq (ha : a.Tidy) (hb : b.Tidy) (hid : a.logicalTypeId = b.logicalTypeId)
    (hdecimal : a.logicalTypeId = logicalDecimal →
      a.decimalWidth = b.decimalWidth ∧ a.decimalScale = b.decimalScale)
    (harray : a.logicalTypeId = logicalArray → a.arraySize = b.arraySize)
    (henum : a.logicalTypeId = logicalEnum → a.enumLabels = b.enumLabels)
    (hnested : typeIsNested a = true → a.children = b.children)
    (hnamed : a.logicalTypeId = logicalStruct ∨ a.logicalTypeId = logicalUnion →
      a.childNames = b.childNames) : a = b := by
  have hsame : typeIsNested b = typeIsNested a := by rw [typeIsNested, typeIsNested, hid]
  have hchildren : a.children = b.children := by
    cases hflat : typeIsNested a with
    | true => exact hnested hflat
    | false => rw [ha.nested hflat, hb.nested (hsame.trans hflat)]
  have hnames : a.childNames = b.childNames := by
    by_cases hmember : a.logicalTypeId = logicalStruct ∨ a.logicalTypeId = logicalUnion
    · exact hnamed hmember
    · obtain ⟨hstruct, hunion⟩ := not_or.1 hmember
      rw [eq_replicate_of_mem (ha.unnamed hstruct hunion),
        eq_replicate_of_mem (hb.unnamed (hid ▸ hstruct) (hid ▸ hunion)), ha.names, hb.names,
        hchildren]
  rw [ha.fields rfl, hb.fields hid.symm, hchildren, hnames]
  simp only [TypeNode.mk.injEq, true_and, and_true]
  refine ⟨?_, ?_, ?_, ?_⟩ <;> split_ifs with hkind
  all_goals first | rfl | simp only [hdecimal, harray, henum, hkind]

namespace Quack

variable {r s : List UInt8}

/-! ### Taking an encoding apart -/

theorem uleb_inj {v w : Nat} (hv : v ≤ u32Max) (hw : w ≤ u32Max)
    (h : ulebBytes 10 v ++ r = ulebBytes 10 w ++ s) : v = w ∧ r = s :=
  ulebBytes_inj (Nat.lt_of_le_of_lt hv (by decide)) (Nat.lt_of_le_of_lt hw (by decide)) h

theorem text_inj {x y : CStr} (hx : x.bytes.length ≤ sizeMax) (hy : y.bytes.length ≤ sizeMax)
    (h : countedBytes x.bytes ++ r = countedBytes y.bytes ++ s) : x = y ∧ r = s := by
  rw [countedBytes, countedBytes, append_assoc, append_assoc] at h
  obtain ⟨hlen, hdata⟩ := ulebBytes_inj (Nat.lt_of_le_of_lt hx (by decide))
    (Nat.lt_of_le_of_lt hy (by decide)) h
  obtain ⟨hbytes, hrest⟩ := append_inj hdata hlen
  exact ⟨CStr.ext hbytes, hrest⟩

/-- A field that may be left out, before another field. -/
theorem nonzeroField_inj {f g v w : Nat} (hne : fieldBytes f ≠ fieldBytes g) (hv : v ≤ u32Max)
    (hw : w ≤ u32Max) (h : nonzeroFieldBytes f v ++ (fieldBytes g ++ r) =
      nonzeroFieldBytes f w ++ (fieldBytes g ++ s)) : v = w ∧ r = s := by
  have hlen : (fieldBytes f).length = (fieldBytes g).length := rfl
  by_cases hv₀ : v = 0 <;> by_cases hw₀ : w = 0 <;>
    simp [nonzeroFieldBytes, hv₀, hw₀] at h ⊢
  · exact h
  · exact absurd (append_inj h hlen.symm).1.symm hne
  · exact absurd (append_inj h hlen).1 hne
  · obtain ⟨hvw, h⟩ := uleb_inj hv hw h
    exact ⟨hvw, append_cancel_left h⟩

/-- As many items one after another. -/
theorem flatMap_inj {α : Type} {bytes : α → List UInt8} {xs ys : List α}
    (hlen : xs.length = ys.length)
    (hitem : ∀ x ∈ xs, ∀ y ∈ ys, ∀ r s, bytes x ++ r = bytes y ++ s → x = y ∧ r = s)
    (h : xs.flatMap bytes ++ r = ys.flatMap bytes ++ s) : xs = ys ∧ r = s := by
  induction xs generalizing ys with
  | nil =>
    obtain rfl := eq_nil_of_length_eq_zero hlen.symm
    exact ⟨rfl, h⟩
  | cons x xs ih =>
    cases ys with
    | nil => cases hlen
    | cons y ys =>
      rw [flatMap_cons, flatMap_cons, append_assoc, append_assoc] at h
      obtain ⟨rfl, htail⟩ := hitem x mem_cons_self y mem_cons_self _ _ h
      obtain ⟨rfl, hrest⟩ := ih (Nat.succ.inj hlen) (fun x hx y hy =>
        hitem x (mem_cons_of_mem _ hx) y (mem_cons_of_mem _ hy)) htail
      exact ⟨rfl, hrest⟩

/-- The info of two types of one kind, whose children can be taken apart. -/
theorem typeInfoBytes_inj {childBytes : TypeNode → List UInt8}
    (hsa : typeShapeValidate a = none) (hsb : typeShapeValidate b = none)
    (ha : a.Tidy) (hb : b.Tidy) (hza : a.Sized) (hzb : b.Sized)
    (hid : a.logicalTypeId = b.logicalTypeId) (hneeds : typeNeedsInfo a)
    (hchild : ∀ x ∈ a.children, ∀ y ∈ b.children, ∀ r s,
      childBytes x ++ r = childBytes y ++ s → x = y ∧ r = s)
    (h : typeInfoBytes childBytes a ++ (fieldBytes fieldEnd ++ r) =
      typeInfoBytes childBytes b ++ (fieldBytes fieldEnd ++ s)) : a = b ∧ r = s := by
  unfold typeInfoBytes at h
  rw [← hid] at h
  split_ifs at h with hdecimal hlist hmember henum <;>
    simp only [append_assoc, append_cancel_left_eq] at h
  · -- the width of a decimal is always there
    have hfield : ∀ {node : TypeNode}, typeShapeValidate node = none →
        node.logicalTypeId = logicalDecimal → nonzeroFieldBytes 200 node.decimalWidth =
          fieldBytes 200 ++ ulebBytes 10 node.decimalWidth := fun hshape hid =>
      if_pos (bne_iff_ne.2 (Nat.ne_of_gt (decimal_of_shape hshape hid).1))
    rw [hfield hsa hdecimal, hfield hsb (hid.symm.trans hdecimal), append_assoc, append_assoc,
      append_cancel_left_eq] at h
    obtain ⟨hwidth, h⟩ := uleb_inj hza.decimal.1 hzb.decimal.1 h
    obtain ⟨hscales, hrest⟩ := nonzeroField_inj (by decide) hza.decimal.2 hzb.decimal.2 h
    refine ⟨ha.eq hb hid ?_ ?_ ?_ ?_ ?_, hrest⟩ <;>
      simp +decide [hdecimal, hwidth, hscales, typeIsNested]
  · have hone := single_of_shape hsa (by tauto)
    have hone' := single_of_shape hsb (by rw [← hid]; tauto)
    obtain ⟨hchildren, hrest⟩ := flatMap_inj (hone.trans hone'.symm) hchild h
    refine ⟨?_, append_cancel_left hrest⟩
    rcases hlist with hlist | hlist <;> refine ha.eq hb hid ?_ ?_ ?_ ?_ ?_ <;>
      simp +decide [hlist, hchildren]
  · obtain ⟨hcount, h⟩ := uleb_inj hza.members hzb.members h
    have hlen : (a.childNames.zip a.children).length = (b.childNames.zip b.children).length := by
      rw [length_zip, length_zip, ha.names, hb.names, hcount]
    obtain ⟨hpairs, hrest⟩ := flatMap_inj hlen (fun x hx y hy r s hxy => by
      simp only [childPairBytes, append_assoc, append_cancel_left_eq] at hxy
      obtain ⟨hname, hxy⟩ := text_inj (hza.texts _ (mem_append_left _ (of_mem_zip hx).1))
        (hzb.texts _ (mem_append_left _ (of_mem_zip hy).1)) hxy
      rw [append_cancel_left_eq] at hxy
      obtain ⟨htype, hxy⟩ := hchild _ (of_mem_zip hx).2 _ (of_mem_zip hy).2 _ _ hxy
      exact ⟨Prod.ext hname htype, append_cancel_left hxy⟩) h
    have hnames := congrArg (map Prod.fst) hpairs
    have hchildren := congrArg (map Prod.snd) hpairs
    rw [map_fst_zip (Nat.le_of_eq ha.names), map_fst_zip (Nat.le_of_eq hb.names)] at hnames
    rw [map_snd_zip (Nat.le_of_eq ha.names.symm), map_snd_zip (Nat.le_of_eq hb.names.symm)]
      at hchildren
    refine ⟨?_, append_cancel_left hrest⟩
    rcases hmember with hmember | hmember <;> refine ha.eq hb hid ?_ ?_ ?_ ?_ ?_ <;>
      simp +decide [hmember, hnames, hchildren]
  · obtain ⟨hlen, h⟩ := uleb_inj hza.labels hzb.labels h
    rw [append_cancel_left_eq, hlen, append_cancel_left_eq] at h
    obtain ⟨hlabels, hrest⟩ := flatMap_inj hlen (fun x hx y hy r s => text_inj
      (hza.texts x (mem_append_right _ hx)) (hzb.texts y (mem_append_right _ hy))) h
    refine ⟨ha.eq hb hid ?_ ?_ ?_ ?_ ?_, append_cancel_left hrest⟩ <;>
      simp +decide [henum, hlabels, typeIsNested]
  · have harray : a.logicalTypeId = logicalArray := by
      by_contra harray
      simp [typeNeedsInfo, typeExpectedInfoKind, hdecimal, hlist, hmember, henum, harray] at hneeds
    have hone := single_of_shape hsa (by tauto)
    have hone' := single_of_shape hsb (by rw [← hid]; tauto)
    obtain ⟨hchildren, h⟩ := flatMap_inj (hone.trans hone'.symm) hchild h
    obtain ⟨hsizes, hrest⟩ := nonzeroField_inj (by decide) hza.array hzb.array h
    refine ⟨ha.eq hb hid ?_ ?_ ?_ ?_ ?_, hrest⟩ <;> simp +decide [harray, hchildren, hsizes]

/-- **No encoding of a type begins another one.** -/
theorem typeBytes_inj {left : Nat} (ha : a.Shaped left) (hb : b.Shaped left)
    (h : typeBytes left a ++ r = typeBytes left b ++ s) : a = b ∧ r = s := by
  induction left generalizing a b r s with
  | zero => cases ha
  | succ left ih =>
    obtain ⟨hsa, hta, hza, hca⟩ := ha
    obtain ⟨hsb, htb, hzb, hcb⟩ := hb
    simp only [typeBytes, append_assoc, append_cancel_left_eq] at h
    obtain ⟨hid, h⟩ := uleb_inj hza.id hzb.id h
    have hsame : typeNeedsInfo b = typeNeedsInfo a := by rw [typeNeedsInfo, typeNeedsInfo, hid]
    rw [hsame] at h
    by_cases hneeds : typeNeedsInfo a = true
    · simp only [hneeds, if_true, append_assoc, append_cancel_left_eq] at h
      obtain ⟨hab, h⟩ := typeInfoBytes_inj hsa hsb hta htb hza hzb hid hneeds
        (fun x hx y hy r s => ih (hca x hx) (hcb y hy)) h
      exact ⟨hab, append_cancel_left h⟩
    · have hplain : ∀ {node : TypeNode}, node.Tidy → ¬typeNeedsInfo node = true →
          node = nodeNew node.logicalTypeId :=
        fun ht hnot => ht.plain (Option.not_isSome_iff_eq_none.1 hnot)
      rw [if_neg hneeds, if_neg hneeds] at h
      rw [hplain hta hneeds, hplain htb (hsame ▸ hneeds), hid]
      exact ⟨rfl, append_cancel_left h⟩

/-- **Equal types are those with equal encodings.** The writer puts bytes of their own down for
    either tree, and the comparison says whether they are the same; so it is an equivalence. -/
theorem typeEqual_iff_bytes (left : Nat) (a b : TypeNode) (ha : a.Shaped left)
    (hb : b.Shaped left) :
    Emits sizeMax (writeTypeNode left a) (typeBytes left a) ∧
    Emits sizeMax (writeTypeNode left b) (typeBytes left b) ∧
    (typeEqual a b = true ↔ typeBytes left a = typeBytes left b) ∧
    Equivalence fun a b => typeEqual a b = true := by
  have hemits : ∀ {node : TypeNode}, node.Shaped left →
      Emits sizeMax (writeTypeNode left node) (typeBytes left node) :=
    emits_of_shape (fun _ h => h) fun _ _ h => ⟨h.1, h.2.2.2⟩
  simp only [typeEqual_iff]
  refine ⟨hemits ha, hemits hb, ⟨congrArg (typeBytes left), fun h => ?_⟩, eq_equivalence⟩
  rw [← append_nil (typeBytes left a), ← append_nil (typeBytes left b)] at h
  exact (typeBytes_inj ha hb h).1

/-- A structure whose member `a` is a list of the given type. -/
def structOfLists (id : Nat) : TypeNode :=
  ⟨logicalStruct, 0, 0, 0, [], [CStr.a], [⟨logicalList, 0, 0, 0, [], [.empty], [nodeNew id]⟩]⟩

theorem structOfLists_shaped {id : Nat} (hshape : typeShapeValidate (nodeNew id) = none)
    (hid : id ≤ u32Max) : (structOfLists id).Shaped maxLevels := by
  have hsized : ∀ {kind : Nat} {names : List CStr} {children : List TypeNode}, kind ≤ u32Max →
      children.length ≤ 1 → (∀ name ∈ names, name.bytes.length ≤ 1) →
        TypeNode.Sized ⟨kind, 0, 0, 0, [], names, children⟩ :=
    fun hkind hone hnames => ⟨hkind, ⟨Nat.zero_le _, Nat.zero_le _⟩, Nat.zero_le _, Nat.zero_le _,
      Nat.le_trans hone (by decide), fun text htext => Nat.le_trans
        (hnames text (by simpa using htext)) (by decide)⟩
  have hleaf : (nodeNew id).Shaped 63 :=
    ⟨hshape, (inOrder_nodeNew id).tidy, hsized hid (Nat.zero_le _) (forall_mem_nil _), nofun⟩
  refine ⟨rfl, ?_, hsized (by decide) (Nat.le_refl 1) (by decide), forall_mem_singleton.2
    ⟨rfl, ?_, hsized (by decide) (Nat.le_refl 1) (by decide), forall_mem_singleton.2 hleaf⟩⟩
  · exact ⟨rfl, fun _ => ⟨rfl, rfl⟩, fun _ => rfl, fun _ => rfl, fun h => (by cases h),
      fun h => absurd rfl h⟩
  · exact ⟨rfl, fun _ => ⟨rfl, rfl⟩, fun _ => rfl, fun _ => rfl, fun h => (by cases h),
      fun _ _ => forall_mem_singleton.2 rfl⟩

/-- Lists of integers and of big integers, in structures. -/
theorem typeEqual_iff_bytes_nested :
    (structOfLists 13).Shaped maxLevels ∧ (structOfLists 14).Shaped maxLevels ∧
    typeBytes maxLevels (structOfLists 13) ≠ typeBytes maxLevels (structOfLists 14) := by
  have ha := @structOfLists_shaped 13 rfl (by decide)
  have hb := @structOfLists_shaped 14 rfl (by decide)
  refine ⟨ha, hb, fun hbytes => ?_⟩
  have hequal := (typeEqual_iff_bytes maxLevels _ _ ha hb).2.2.1.2 hbytes
  exact absurd hequal (by decide)

end Quack

end Ducknng
