import Ducknng.Arrow.Enums

namespace Ducknng.Arrow

open List LeafTree

/-!
# How deep a column may nest

`ducknng_ipc_out.c` measures a type before it is sent; the two recursions of
`ducknng_sql_arrow.c` over what arrives count their own calls.

* `nestingDepth_eq` — the measure is the depth, cut off one above the cap.
* `withinLimit_schemaToLogicalTypeDepth`, `withinLimit_assignColumnAt` — neither gives up for
  the nesting when what it has left is the depth of the schema.
-/

/-! ### The measure -/

/-- The loop over the children may stop early: what it has found by then is the cap. -/
theorem maxChildDepth_eq {stops : Bool} {cs : List LogicalType} {k m : Nat}
    (hcs : ∀ c ∈ cs, nestingDepth c ((k : Int) - 1) = min c.depth k) (hm : m ≤ k) :
    maxChildDepth stops cs k m = min (max m ((cs.map depth).foldr max 0)) k := by
  induction cs generalizing m with
  | nil => simp [maxChildDepth, hm]
  | cons c cs ih =>
    obtain ⟨hc, hcs⟩ := forall_mem_cons.1 hcs
    simp only [maxChildDepth, hc, map_cons, foldr_cons]
    split
    case isTrue h =>
      have hcap : k ≤ max m (min c.depth k) := by
        simpa using (Bool.and_eq_true_iff.1 h).2
      omega
    case isFalse =>
      rw [ih hcs (by omega)]
      omega

/-- With one level less than the cap allows for, down to none at all. -/
theorem nestingDepth_eq (t : LogicalType) (k : Nat) :
    nestingDepth t ((k : Int) - 1) = min t.depth k := by
  induction t using LeafTree.induction generalizing k with
  | leaf a => simp [nestingDepth, depth, fold]
  | node b cs ih =>
    cases k with
    | zero => simp [nestingDepth]
    | succ k =>
      have hcap : ((k + 1 : Nat) : Int) - 1 = k := by omega
      rw [hcap, nestingDepth, if_neg (by omega),
        maxChildDepth_eq (fun c hc => ih c hc k) k.zero_le, depth_node]
      omega

theorem tooDeep_iff {t : LogicalType} : tooDeep t = true ↔ 16 < t.depth := by
  have hmeasure : nestingDepth t (arrowProduceMaxNesting + 1) = min t.depth 18 :=
    nestingDepth_eq t 18
  rw [tooDeep, decide_eq_true_iff, hmeasure, arrowProduceMaxNesting]
  omega

/-! ### What the receiver gets -/

/-- The schema on the wire: the key and the value of a MAP are the children of a struct. -/
def ArrowSchema.withEntries : ArrowSchema → ArrowSchema :=
  fold .leaf fun
    | (name, .map), cs => .node (name, .map) [.node (.empty, .struct) cs]
    | b, cs => .node b cs

/-- A MAP is two levels on the wire. -/
theorem depth_withEntries_le (s : ArrowSchema) : s.withEntries.depth ≤ 2 * s.depth := by
  induction s using LeafTree.induction with
  | leaf a => exact Nat.zero_le _
  | node b cs ih =>
    obtain ⟨name, kind⟩ := b
    have hcs : ∀ c ∈ cs.map ArrowSchema.withEntries, c.depth ≤ 2 * (cs.map depth).foldr max 0 := by
      refine forall_mem_map.2 fun c hc => (ih c hc).trans (Nat.mul_le_mul_left 2 ?_)
      exact le_max_of_le (mem_map_of_mem hc) le_rfl
    have hnode := depth_node_le (b := (CStr.empty, NestedKind.struct)) hcs
    rw [ArrowSchema.withEntries, fold_node, depth_node]
    cases kind with
    | map =>
      have hentries := depth_node_le (b := (name, NestedKind.map)) (forall_mem_singleton.2 hnode)
      exact hentries.trans (by omega)
    | list | array _ | struct | union => exact (depth_node_le hcs).trans (by omega)

/-- `DUCKNNG_ARROW_MAX_NESTING_DEPTH`. -/
def arrowMaxNestingDepth : Nat := 64

/-- Why a call fails: its nesting, or anything else, possibly without a message. -/
inductive ReceiveError where
  | nesting (message : String)
  | other (message : Option String)
  deriving DecidableEq

/-! ### Type mapping -/

/-- The number of children a schema node is mapped with. -/
def NestedKind.takes : NestedKind → Nat → Bool
  | .list, n => n == 1
  | .array size, n => decide (size > 0) && n == 1
  | .map, n => n == 2
  | .struct, _ | .union, _ => true

/-- What is done at the leaves, and by DuckDB: the type of a leaf, a nested type made of its
    children, and the values of a leaf from a row on. -/
structure ReceiverCalls where
  leafType : SchemaLeaf → Except (Option String) LogicalType
  create : CStr × NestedKind → List LogicalType → Option LogicalType
  store : SchemaLeaf → ArrowArray → Nat → Nat → Except (Option String) Unit

section
variable (calls : ReceiverCalls)

/-- The mapped children made into a type by DuckDB, if there are as many as it needs. -/
def createNested (b : CStr × NestedKind) (n : Nat)
    (types : Except ReceiveError (List LogicalType)) : Except ReceiveError LogicalType := do
  if b.2.takes n then (calls.create b (← types)).elim (.error (.other none)) .ok
  else .error (.other none)

mutual

/-- `ducknng_sql_arrow_schema_to_logical_type_depth`. -/
def schemaToLogicalTypeDepth : ArrowSchema → Nat → Except ReceiveError LogicalType
  | schema, depth =>
    if depth > arrowMaxNestingDepth then
      .error (.nesting "ducknng: Arrow schema nesting exceeds supported depth")
    else match schema with
      | .leaf s => (calls.leafType s).mapError .other
      -- the struct of a MAP's entries is passed over without a call
      | .node (name, .map) [.node _ entries] =>
        createNested calls (name, .map) entries.length (childTypes entries (depth + 1))
      | .node (_, .map) _ => .error (.other none)
      | .node b cs => createNested calls b cs.length (childTypes cs (depth + 1))

def childTypes : List ArrowSchema → Nat → Except ReceiveError (List LogicalType)
  | [], _ => .ok []
  | c :: cs, depth => do
    let type ← schemaToLogicalTypeDepth c depth
    .ok (type :: (← childTypes cs depth))

end

end

/-! ### Value assignment -/

/-- The rows of a nested array view; a UNION's are a member and a position in it. -/
def ArrowArray.rows : ArrowArray → List (Option (Nat × Nat))
  | .leaf _ => []
  | .node r _ => r.rows

/-- The rows of a range that are not NULL. -/
def ArrowArray.present (view : ArrowArray) (srcOffset count : Nat) : List (Nat × Nat) :=
  ((view.rows.drop srcOffset).take count).reduceOption

def ArrowArray.length : ArrowArray → Nat
  | .leaf (.plain _ cells) => cells.length
  | .leaf (.dictionary indices _) => indices.length
  | .node r _ => r.rows.length

def ArrowArray.children : ArrowArray → List ArrowArray
  | .leaf _ => []
  | .node _ vs => vs

/-- The error of a view or a schema that is missing or too short. -/
def outsideRange : Except ReceiveError Unit :=
  .error (.other (some "ducknng: Arrow source range is outside the decoded array"))

/-- A row of a fixed-size list: its source range is checked before the row is looked at. -/
def assignFixedRow (size : Nat) (view : ArrowArray) (src : Nat)
    (assign : Nat → Except ReceiveError Unit) : Except ReceiveError Unit :=
  if src > (2 ^ 63 - 1) / size then
    .error (.other (some "ducknng: invalid fixed-size-list Arrow source range"))
  else if src * size + size > (view.children.head?.map ArrowArray.length).getD 0 then
    .error (.other (some "ducknng: fixed-size-list child range exceeds Arrow child array"))
  else match view.rows[src]? with
    | some (some _) => assign (src * size)
    | _ => .ok ()

section
variable (calls : ReceiverCalls)

mutual

/-- `ducknng_sql_arrow_assign_column_at`. -/
def assignColumnAt : ArrowSchema → ArrowArray → Nat → Nat → Nat → Except ReceiveError Unit
  | schema, view, srcOffset, count, depth =>
    if srcOffset + count > view.length then outsideRange
    else if depth > arrowMaxNestingDepth then
      .error (.nesting "ducknng: Arrow value nesting exceeds supported depth")
    else match schema with
      | .leaf s => (calls.store s view srcOffset count).mapError .other
      | .node (_, .list) cs | .node (_, .map) cs =>
        ((view.present srcOffset count).filter (·.2 > 0)).forM fun (childStart, childLen) =>
          assignChild cs view.children 0 childStart childLen (depth + 1)
      | .node (_, .array size) cs =>
        if size = 0 || cs.isEmpty || view.children.isEmpty then
          .error (.other (some "ducknng: invalid fixed-size-list Arrow column"))
        else (range count).forM fun i =>
          assignFixedRow size view (srcOffset + i) fun childSrc =>
            assignChild cs view.children 0 childSrc size (depth + 1)
      | .node (_, .struct) cs =>
        (range view.children.length).forM fun child =>
          assignChild cs view.children child srcOffset count (depth + 1)
      | .node (_, .union) cs =>
        (view.present srcOffset count).forM fun (childIndex, childOffset) =>
          -- the loop over the members compares them as `int8_t`
          ((range view.children.length).filter (· % 256 = childIndex % 256)).forM fun _ =>
            assignChild cs view.children childIndex childOffset 1 (depth + 1)

/-- The call for one child. -/
def assignChild : List ArrowSchema → List ArrowArray → Nat → Nat → Nat → Nat →
    Except ReceiveError Unit
  | c :: _, v :: _, 0, srcOffset, count, depth => assignColumnAt c v srcOffset count depth
  | _ :: cs, _ :: vs, i + 1, srcOffset, count, depth => assignChild cs vs i srcOffset count depth
  | _, _, _, _, _, _ => outsideRange

end

end

/-! ### The limit is never met -/

/-- A call did not give up for its nesting. -/
def WithinLimit {α : Type} : Except ReceiveError α → Prop
  | .error (.nesting _) => False
  | _ => True

theorem withinLimit_mapError {α : Type} (r : Except (Option String) α) :
    WithinLimit (r.mapError .other) := by
  cases r with
  | error message => trivial
  | ok a => trivial

theorem WithinLimit.bind {α γ : Type} {r : Except ReceiveError α}
    {f : α → Except ReceiveError γ} (h : WithinLimit r) (hf : ∀ a, WithinLimit (f a)) :
    WithinLimit (r >>= f) := by
  cases r with
  | error e =>
    cases e with
    | nesting message => exact h
    | other message => trivial
  | ok a => exact hf a

theorem withinLimit_forM {α : Type} {xs : List α} {f : α → Except ReceiveError Unit}
    (h : ∀ x, WithinLimit (f x)) : WithinLimit (xs.forM f) := by
  induction xs with
  | nil => trivial
  | cons x xs ih => exact (h x).bind fun _ => ih

variable {calls : ReceiverCalls}

theorem withinLimit_createNested {b : CStr × NestedKind} {n d : Nat} {cs : List ArrowSchema}
    (h : ∀ c ∈ cs, WithinLimit (schemaToLogicalTypeDepth calls c d)) :
    WithinLimit (createNested calls b n (childTypes calls cs d)) := by
  have hall : WithinLimit (childTypes calls cs d) := by
    induction cs with
    | nil => trivial
    | cons c cs ih =>
      obtain ⟨hc, hcs⟩ := forall_mem_cons.1 h
      exact hc.bind fun _ => (ih hcs).bind fun _ => trivial
  unfold createNested
  split
  · refine hall.bind fun types => ?_
    cases calls.create b types with
    | none => trivial
    | some t => trivial
  · trivial

theorem withinLimit_schemaToLogicalTypeDepth (s : ArrowSchema) (d : Nat)
    (h : d + s.depth ≤ arrowMaxNestingDepth) :
    WithinLimit (schemaToLogicalTypeDepth calls s d) := by
  -- on the depth, since the calls for a MAP's key and value go down two levels of the tree
  induction hn : s.depth using Nat.strong_induction_on generalizing s d with
  | _ n ih =>
    subst hn
    have hcalls : ∀ c : ArrowSchema, c.depth < s.depth →
        WithinLimit (schemaToLogicalTypeDepth calls c (d + 1)) :=
      fun c hc => ih _ hc c (d + 1) (by omega) rfl
    unfold schemaToLogicalTypeDepth
    rw [if_neg (by omega)]
    split
    · exact withinLimit_mapError _
    · exact withinLimit_createNested fun c hc =>
        hcalls c ((depth_lt_node hc).trans (depth_lt_node (mem_singleton_self _)))
    · trivial
    · exact withinLimit_createNested fun c hc => hcalls c (depth_lt_node hc)

theorem withinLimit_assignChild {cs : List ArrowSchema} {vs : List ArrowArray} {i d : Nat}
    {src count : Nat}
    (h : ∀ c ∈ cs, ∀ view src count, WithinLimit (assignColumnAt calls c view src count d)) :
    WithinLimit (assignChild calls cs vs i src count d) := by
  induction cs generalizing vs i with
  | nil => trivial
  | cons c cs ih =>
    obtain ⟨hc, hcs⟩ := forall_mem_cons.1 h
    cases vs with
    | nil => trivial
    | cons v vs =>
      cases i with
      | zero => exact hc v src count
      | succ i => exact ih hcs

theorem withinLimit_assignColumnAt (s : ArrowSchema) (view : ArrowArray) (src count d : Nat)
    (h : d + s.depth ≤ arrowMaxNestingDepth) :
    WithinLimit (assignColumnAt calls s view src count d) := by
  induction s using LeafTree.induction generalizing view src count d with
  | leaf a =>
    unfold assignColumnAt
    split
    · trivial
    · rw [if_neg (by omega)]
      exact withinLimit_mapError _
  | node b cs ih =>
    -- a child is one level further down and at least one less deep
    have hchild : ∀ i src count,
        WithinLimit (assignChild calls cs view.children i src count (d + 1)) := by
      intro i src count
      refine withinLimit_assignChild fun c hc view src count => ih c hc view src count (d + 1) ?_
      have hlt := depth_lt_node (b := b) hc
      omega
    obtain ⟨name, kind⟩ := b
    unfold assignColumnAt
    split
    · trivial
    rw [if_neg (by omega)]
    cases kind with
    | list | map => exact withinLimit_forM fun row => hchild _ _ _
    | array size =>
      simp only
      split
      · trivial
      · refine withinLimit_forM fun i => ?_
        unfold assignFixedRow
        split
        · trivial
        split
        · trivial
        split
        · exact hchild _ _ _
        · trivial
    | struct => exact withinLimit_forM fun i => hchild _ _ _
    | union => exact withinLimit_forM fun row => withinLimit_forM fun i => hchild _ _ _

/-! ### The check is exact and sufficient -/

theorem depth_flattened (t : LogicalType) : t.flattened.depth = t.depth := by
  match t with
  | .leaf (name, .enum labels) => rfl
  | .leaf (name, .scalar id) => rfl
  | .node name children => exact depth_map ..

/-- The measure is the depth up to the cap, the schema of a result is refused for a column
    deeper than 16, and no other column meets a limit at the receiver. -/
theorem nestingCheck_exact {duckdb : ArrowConversion} (hduckdb : duckdb.EncodesEnums) :
    (∀ (t : LogicalType) (cap : Nat), nestingDepth t cap = min t.depth (cap + 1)) ∧
    (∀ columns, (∃ message, resultToArrowSchema duckdb columns = .error message) ↔
      ∃ t ∈ columns, 16 < t.depth) ∧
    ∀ t : LogicalType, tooDeep t = false →
      ∀ s ∈ [duckdb.schema t, t.flattened], ∀ calls,
        WithinLimit (schemaToLogicalTypeDepth calls s.withEntries 0) ∧
        ∀ view src count, WithinLimit (assignColumnAt calls s.withEntries view src count 0) := by
  refine ⟨fun t cap => ?_, fun columns => ?_, fun t ht s hs calls => ?_⟩
  · have hmeasure := nestingDepth_eq t (cap + 1)
    rwa [show ((cap + 1 : Nat) : Int) - 1 = cap by omega] at hmeasure
  · simp only [resultToArrowSchema, any_eq_true, tooDeep_iff]
    split
    case isTrue h => simpa using h
    case isFalse h => simpa using h
  · have hdeep : ¬ 16 < t.depth := by
      rw [← tooDeep_iff, ht]
      simp
    have hdepth : s.depth = t.depth := by
      rcases mem_pair.1 hs with rfl | rfl
      · rw [hduckdb.schema]
        exact depth_map ..
      · exact depth_flattened t
    have hentries := depth_withEntries_le s
    have hroom : 0 + s.withEntries.depth ≤ arrowMaxNestingDepth := by
      rw [arrowMaxNestingDepth]
      omega
    exact ⟨withinLimit_schemaToLogicalTypeDepth _ 0 hroom,
      fun _ _ _ => withinLimit_assignColumnAt _ _ _ _ 0 hroom⟩

/-- A MAP of MAPs: two levels for its sender, four on the wire. -/
def mapOfMaps : LogicalType :=
  .node (.a, .map) [.leaf (.h, .scalar 17),
    .node (.m, .map) [.leaf (.h, .scalar 17), .leaf (.t, .scalar 13)]]

theorem nestingCheck_exact_maps : tooDeep mapOfMaps = false ∧ ∀ calls,
    WithinLimit (schemaToLogicalTypeDepth calls mapOfMaps.toArrow.withEntries 0) :=
  ⟨by decide, fun calls => ((@nestingCheck_exact dictionaryConversion ⟨rfl, rfl⟩).2.2 mapOfMaps
    (by decide) _ mem_cons_self calls).1⟩

end Ducknng.Arrow
