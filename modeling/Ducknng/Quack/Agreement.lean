import Ducknng.Quack.Demand

namespace Ducknng

open ByteCodec

/-!
# Skipping agrees with decoding

A vector is walked by two recursions over the same grammar: one that skips it, for the
validation of a payload and for counting its rows, and one that decodes it. They check
their bounds in different places and only the second one is charged. Wherever decoding
succeeds, skipping succeeds as well and stops at the same offset, so that all passes
over a payload see the same chunk boundaries. Between them stands the survey, which reads
what skipping reads and counts what decoding is charged for.

* `Quack.charges_decodeVectorInto` — the charge for a vector is the demand of its survey.
* `Quack.tracks_decodeVectorInto` — the agreement on vectors.
* `Quack.tracks_decodeColumns` — the agreement on the columns of a chunk.
* `Quack.skip_of_decode` — both, as what the two calls return.
-/

namespace Quack

theorem stays_decodeSequence (node : TypeNode) (start increment : Int) (offset outCount : Nat) :
    Stays (decodeSequence node start increment offset outCount) := by
  refine .ite (.throw _) ?_
  split
  · exact .throw _
  · exact .ite (.throw _) (.pure _)

theorem stays_checkFixedSlice (width dataLen offset outCount : Nat) :
    Stays (checkFixedSlice width dataLen offset outCount) := by
  refine .ite ?_ (.pure _)
  split
  · exact .ite (.throw _) (.pure _)
  · exact .throw _

/-! ### What a vector is charged -/

variable {count : Nat} {commit : Bool} {α : Type} {c : Cursor}

/-- A reader is charged the values that its survey counts. -/
abbrev Charges {α : Type} (decode : QuackRead α) (survey : QuackRead Demand) : Prop :=
  Bills decode survey fun demand n => n = demand.values

/-- A step in front that leaves the reader as it is. -/
theorem Charges.behind {check : QuackRead Unit} {decode : Unit → QuackRead α}
    {survey : QuackRead Demand} (hcheck : ∀ c u c', check c = .ok (u, c') → c' = c)
    (h : Charges (decode ()) survey) : Charges (check >>= decode) survey := by
  refine .charge_bind (k := 0) hcheck fun _ => ?_
  exact h.mono fun _ n hn => by rw [hn]; exact Nat.zero_add _

instance (width dataLen offset outCount : Nat) :
    Uncharged (checkFixedSlice width dataLen offset outCount) := by
  unfold checkFixedSlice
  split
  · split <;> infer_instance
  · infer_instance

instance (node : TypeNode) (start increment : Int) (offset outCount : Nat) :
    Uncharged (decodeSequence node start increment offset outCount) := by
  unfold decodeSequence
  split
  · infer_instance
  · split <;> infer_instance

/-- The copy out of a compressed vector is charged what its source is charged. -/
theorem charges_decodeCompressedCopy {decodeSource : QuackRead (List Value)}
    {surveySource : QuackRead Demand} (h : Charges decodeSource surveySource)
    (childType : Except Err LogicalType) (sourceCount : Nat) (selection : Option (List UInt8))
    (offset outCount : Nat) :
    Charges (decodeCompressedCopy decodeSource childType sourceCount selection offset outCount)
      surveySource := by
  refine .behind (fun _ _ _ => createSource_ok) ?_
  exact h.bind_still fun source c values c' => (Stays.ite (.throw _) (.pure _)).still

section
variable {decodeChild : TypeNode → Nat → Nat → Nat → QuackRead (List Value)}
variable {surveyChild : TypeNode → Nat → QuackRead Demand}
variable (h : ∀ node rows offset outCount,
  Charges (decodeChild node rows offset outCount) (surveyChild node rows))
variable (node : TypeNode) (validity : Option (List UInt8)) (rows offset outCount : Nat)

include h

theorem charges_decodeList : Charges (decodeList decodeChild node validity rows offset outCount)
    (surveyList surveyChild node rows) := by
  unfold decodeList surveyList
  rcases node.children with _ | ⟨child, _ | _⟩
  · exact .throw _ _
  · -- The decoder asks for the budget before it reserves the child.
    refine .bind_same fun size => ?_
    refine Charges.behind (fun _ _ _ hrun => (reserveListChild_eq_ok.1 hrun).2)
      (.bind_same fun _ => .bind_same fun _ => ?_)
    exact (h child size 0 size).bind fun _ _ _ hn => .bind_same fun _ => .pure _ hn
  · exact .throw _ _

theorem charges_decodeArray : Charges (decodeArray decodeChild node validity rows offset outCount)
    (surveyArray surveyChild node rows) := by
  unfold decodeArray surveyArray
  rcases node.children with _ | ⟨child, _ | _⟩
  · exact .throw _ _
  · refine .bind_same fun _ => .bind_same fun asize => ?_
    refine .guard fun hsize => .bind_same fun _ => ?_
    rw [if_neg hsize]
    exact .bind_same fun childRows => (h child childRows 0 childRows).bind
      fun _ _ _ hn => .bind_same fun _ => .pure _ hn
  · exact .throw _ _

theorem charges_decodeFlat : Charges (decodeFlat decodeChild node rows offset outCount)
    (surveyFlat surveyChild node rows) := by
  refine .bind_same fun validity => .ite (fun _ => ?_) fun _ => ?_
  · exact .bind_same fun _ => .bind_same fun _ => .pure _ rfl
  refine .ite (fun _ => ?_) fun _ => ?_
  · exact .bind_same fun _ => (Bills.forEach (fun child => h child rows offset outCount) _).bind
      fun _ _ _ hn => .bind_same fun _ => .pure _ hn
  refine .ite (fun _ => charges_decodeList h node validity rows offset outCount) fun _ => ?_
  refine .ite (fun _ => charges_decodeArray h node validity rows offset outCount) fun _ => ?_
  refine .bind_same fun data => ?_
  have hslice : ∀ c (a : Unit) c', checkFixedSlice (typeFixedWidth node) data.length offset
      outCount c = .ok (a, c') → c' = c.charged (c.spent + 0) :=
    fun _ _ _ hrun => (stays_checkFixedSlice _ _ _ _).still hrun
  exact .charge_bind hslice fun _ => .bind_same fun _ => .pure _ rfl

end

/-- Values of a sequence are charged with the vector itself. -/
theorem charges_decodeSequence (node : TypeNode) (rows offset outCount : Nat) :
    Charges (do
        let fields ← readSequence
        readExpectField fieldEnd
        decodeSequence node fields.1 fields.2 offset outCount)
      (if !typeIsSequenceInteger node then
        fail "ducknng: sequence quack vector requires an integer logical type"
      else do
        let fields ← readSequence
        readExpectField fieldEnd
        pure ⟨0, sequenceInRange node fields.1 fields.2 rows⟩) := by
  by_cases hnode : typeIsSequenceInteger node = true
  · rw [if_neg (by simp [hnode])]
    refine .bind_same fun fields => .bind_same fun _ => ?_
    intro c values c' s hrun
    obtain rfl := (stays_decodeSequence _ _ _ _ _).still hrun
    exact ⟨_, 0, rfl, rfl, rfl⟩
  · intro c values c' s hrun
    obtain ⟨fields, c₁, _, hrun⟩ := Step.bind_eq_ok.1 hrun
    obtain ⟨_, c₂, _, hrun⟩ := Step.bind_eq_ok.1 hrun
    unfold decodeSequence at hrun
    rw [if_pos (by simp [hnode])] at hrun
    cases hrun

/-- **The charge for a vector is the demand of its survey**, for every encoding and every
    nesting. -/
theorem charges_decodeVectorInto (left : Nat) (node : TypeNode) (rows offset outCount : Nat) :
    Charges (decodeVectorInto left node rows offset outCount)
      (surveyVectorNode left node rows) := by
  induction left generalizing node rows offset outCount with
  | zero => exact .throw _ _
  | succ left ih =>
    refine .nested <| .guard fun _ => .charge_bind
      (fun _ _ _ hrun => (checkMaterializedValues_eq_ok.1 hrun).2)
      fun _ => .bind_same fun vectorType => ?_
    refine Bills.pure_right (W := fun demand n => n = demand.values) ?_ fun b n hn => by
      rw [hn]
      rfl
    refine .ite (fun _ => .throw _ _) fun _ => .ite (fun _ => ?_) fun _ => .ite (fun _ => ?_)
      fun _ => .ite (fun _ => charges_decodeSequence node rows offset outCount)
        fun _ => charges_decodeFlat ih node rows offset outCount
    · exact charges_decodeCompressedCopy (ih node 1 0 1) _ _ _ _ _
    · exact .bind_same fun header =>
        charges_decodeCompressedCopy (ih node header.2 0 header.2) _ _ _ _ _

/-- **Skipping a vector tracks decoding it**, for every encoding and every nesting. -/
theorem tracks_decodeVectorInto (left : Nat) (node : TypeNode) (rows offset outCount : Nat) :
    Tracks (decodeVectorInto left node rows offset outCount) (skipVectorNode left node rows) := by
  rw [skipVectorNode_eq]
  exact (charges_decodeVectorInto left node rows offset outCount).tracks

/-! ### Chunks -/

instance (type : TypeNode) : Uncharged (checkChunkType type) := by
  unfold checkChunkType
  infer_instance

instance (schema : Schema) : Uncharged (readChunkColumns schema) := by
  unfold readChunkColumns validateOptionalChunkTypes
  infer_instance

instance (schema : Schema) : Uncharged (skipDataChunk schema) := by
  unfold skipDataChunk skipColumns
  infer_instance

instance : Uncharged readPresence := by
  unfold readPresence
  infer_instance

instance (allowLegacyOmission : Bool) : Uncharged (consumeChunkWrapperEnd allowLegacyOmission) := by
  unfold consumeChunkWrapperEnd
  infer_instance

/-- The demand of the columns of a chunk. -/
def surveyColumns (schema : Schema) (rows : Nat) : QuackRead Demand := do
  readChunkColumns schema
  let demands ← forEach (fun column : Column => surveyVectorNode maxLevels column.type rows) schema
  readExpectField fieldEnd
  pure (.join demands)

theorem charges_decodeColumns (schema : Schema) (rows offset copyCount : Nat) :
    Charges (decodeColumns schema rows offset copyCount) (surveyColumns schema rows) :=
  .bind_same fun _ => (Bills.forEach
    (fun column : Column => charges_decodeVectorInto maxLevels column.type rows offset copyCount)
    schema).bind fun _ _ _ hn => .bind_same fun _ => .pure _ hn

/-- The columns of a chunk. -/
theorem tracks_decodeColumns (schema : Schema) (rows offset copyCount : Nat) :
    Tracks (decodeColumns schema rows offset copyCount) (skipColumns schema rows) := by
  have hskip : skipColumns schema rows = (fun _ => ()) <$> surveyColumns schema rows := by
    simp only [skipColumns, surveyColumns, skipVectorNode_eq, forEach_discard, map_bind, map_pure,
      bind_pure_unit]
  rw [hskip]
  exact (charges_decodeColumns schema rows offset copyCount).tracks

/-- **What a decoded chunk went through.** Its header, then either the columns that are
    skipped because no row is left, or the columns from `offset` to the last row. -/
theorem decodeDataChunkSlice_cases {vectorSize : Nat} {output chunk : OutputChunk}
    {schema : Schema} {offset rows : Nat} {c c' : Cursor}
    (h : decodeDataChunkSlice vectorSize output schema offset c = .ok ((rows, chunk), c')) :
    ∃ c₁ c₂, readExpectField 100 c = .ok ((), c₁) ∧ readUleb128 c₁ = .ok (rows, c₂) ∧
      rows ≤ vectorSize ∧
      ((rows ≤ offset ∧ chunk = output ∧ skipColumns schema rows c₂ = .ok ((), c')) ∨
        (offset < rows ∧ (schemaHasNested schema = true → offset = 0) ∧
          decodeColumns schema rows offset (rows - offset) c₂ = .ok (chunk, c'))) := by
  obtain ⟨_, c₁, hfield, h⟩ := Step.bind_eq_ok.1 h
  obtain ⟨n, c₂, hrows, h⟩ := Step.bind_eq_ok.1 h
  split at h
  · cases h
  next hcap =>
  split at h
  -- no row of this chunk is asked for
  · next hskip =>
    obtain ⟨_, c₃, hcolumns, h⟩ := Step.bind_eq_ok.1 h
    obtain ⟨heq, rfl⟩ := Step.pure_eq_ok.1 h
    cases heq
    exact ⟨c₁, c₂, hfield, hrows, by omega, .inl ⟨hskip, rfl, hcolumns⟩⟩
  next hsome =>
  split at h
  -- nested columns are decoded from their first row only
  · next hnested =>
    split at h
    · cases h
    next hzero =>
    obtain ⟨columns, c₃, hcolumns, h⟩ := Step.bind_eq_ok.1 h
    obtain ⟨heq, rfl⟩ := Step.pure_eq_ok.1 h
    cases heq
    have hoffset : offset = 0 := by omega
    subst hoffset
    exact ⟨c₁, c₂, hfield, hrows, by omega, .inr ⟨by omega, fun _ => rfl, hcolumns⟩⟩
  · next hflat =>
    obtain ⟨columns, c₃, hcolumns, h⟩ := Step.bind_eq_ok.1 h
    obtain ⟨heq, rfl⟩ := Step.pure_eq_ok.1 h
    cases heq
    have hcount : min (rows - offset) vectorSize = rows - offset := by omega
    rw [hcount] at hcolumns
    exact ⟨c₁, c₂, hfield, hrows, by omega, .inr ⟨by omega, fun hn => absurd hn hflat, hcolumns⟩⟩

/-- A chunk that can be decoded can be skipped, with the same row count and the same end. -/
theorem skipDataChunk_of_decode {vectorSize : Nat} {output chunk : OutputChunk}
    {schema : Schema} {offset rows : Nat} {c c' : Cursor}
    (h : decodeDataChunkSlice vectorSize output schema offset c = .ok ((rows, chunk), c')) :
    ∃ r, skipDataChunk schema c = .ok (rows, r) ∧ r.off = c'.off := by
  obtain ⟨c₁, c₂, hfield, hrows, _, hcolumns⟩ := decodeDataChunkSlice_cases h
  have hskip : ∃ r, skipColumns schema rows c₂ = .ok ((), r) ∧ r.off = c'.off := by
    rcases hcolumns with ⟨_, _, hskip⟩ | ⟨_, _, hdecode⟩
    · exact ⟨c', hskip, rfl⟩
    · obtain ⟨_, hskip⟩ := tracks_decodeColumns schema rows offset (rows - offset) c₂ chunk c'
        c₂.spent hdecode
      exact ⟨_, hskip, rfl⟩
  obtain ⟨r, hskip, hoff⟩ := hskip
  refine ⟨r, Step.bind_eq_ok.2 ⟨(), c₁, hfield, Step.bind_eq_ok.2 ⟨rows, c₂, hrows, ?_⟩⟩, hoff⟩
  exact Step.bind_eq_ok.2 ⟨(), r, hskip, rfl⟩

/-- **Skipping agrees with decoding**: on a vector, whatever its encoding, type, row count
    and depth, and on a data chunk, where the row counts agree as well. -/
theorem skip_of_decode :
    (∀ left node rows offset outCount c values c',
      decodeVectorInto left node rows offset outCount c = .ok (values, c') →
      ∃ r, skipVectorNode left node rows c = .ok ((), r) ∧ r.off = c'.off) ∧
    (∀ vectorSize output schema offset c rows chunk c',
      decodeDataChunkSlice vectorSize output schema offset c = .ok ((rows, chunk), c') →
      ∃ r, skipDataChunk schema c = .ok (rows, r) ∧ r.off = c'.off) := by
  constructor
  · intro left node rows offset outCount c values c' h
    obtain ⟨_, hskip⟩ := tracks_decodeVectorInto left node rows offset outCount c values c'
      c.spent h
    exact ⟨_, hskip, rfl⟩
  · intro vectorSize output schema offset c rows chunk c' h
    exact skipDataChunk_of_decode h

/-- A constant vector of two integers, and a byte behind it. -/
theorem skip_of_decode_constant :
    ∃ r, skipVectorNode maxLevels (nodeNew 13) 2 ⟨[90, 0, 2, 100, 0, 0, 102, 0, 4, 1, 2, 3, 4,
      255, 255, 7], 0, 0⟩ = .ok ((), r) ∧ r.off = 15 :=
  skip_of_decode.1 maxLevels (nodeNew 13) 2 0 2 _ [.fixed [1, 2, 3, 4], .fixed [1, 2, 3, 4]]
    ⟨_, 15, 3⟩ rfl

end Quack

end Ducknng
