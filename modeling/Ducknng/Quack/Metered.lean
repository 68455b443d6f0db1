import Ducknng.Quack.Payload
import Ducknng.Lib.Metered

namespace Ducknng

open ByteCodec

/-!
# Parsing hostile bytes

Announced counts drive the loops of the readers, and types drive their recursion. Every round
of a loop and every nested vector consumes bytes of the payload, so a call ends after a number
of steps that only depends on the length of the payload.

* `Quack.Thrifty` — a reader that takes at most 32 steps a byte, stays in the payload and keeps
  to the materialisation budget; one instance of `Costs` for every reader.
* `Quack.parsing_bounded` — the entry points.
-/

namespace Quack

/-- Thirty-two steps a byte, down to the nesting limit and within the budget. -/
def meter : Meter := ⟨32, maxLevels, maxMaterializedValues⟩

/-- A reader whose steps are paid for by the bytes it consumes. -/
abbrev Thrifty {ε α : Type} (depth : Nat) (p : Step ε α) (debt : Int) (slack : Nat) : Prop :=
  Metered meter depth p debt slack

variable {α : Type}

section
variable {depth : Nat}

/-! ### The kernel -/

/-- A program behind the question for the bytes that it looks at or takes: it hands out these
    bytes and nothing else. -/
theorem thrifty_behind {n moved : Nat} (steps : Nat) {p : QkRead α} (hmoved : moved ≤ n)
    (h : ∀ c, (∃ a, p c = .ok (a, c.advance moved 0)) ∧
      p.log depth c = List.replicate steps ⟨depth, c.off, .slice (c.off + n)⟩) :
    Thrifty depth (do Qk.readerNeed n; p) (steps + 1 - 32 * moved) 1 := by
  intro hdepth c hc hspent
  have hask : meter.Allows c.data.length [⟨depth, c.off, .need n⟩] :=
    Meter.allows_plain hdepth hc fun _ h => by cases h
  cases hneed : Qk.readerNeed n c with
  | error e =>
    have hresult : (do Qk.readerNeed n; p) c = .error e := by
      rw [Step.bind_apply, hneed]
      rfl
    rw [Step.log_bind_error hneed, hresult]
    exact ⟨hask, Nat.le_add_left 1 _, Meter.accounts_free hspent
      (List.forall_mem_singleton.2 trivial) fun _ _ h => by cases h⟩
  | ok x =>
    obtain ⟨u, c'⟩ := x
    obtain ⟨⟨_, hroom⟩, rfl⟩ := Qk.readerNeed_eq_ok.1 hneed
    obtain ⟨⟨a, hrun⟩, hlog⟩ := h c'
    have hresult : (do Qk.readerNeed n; p) c' = .ok (a, c'.advance moved 0) := by
      rw [Step.bind_apply, hneed]
      exact hrun
    rw [Step.log_bind_ok hneed, hresult, hlog]
    refine ⟨hask.append fun event hmem => ?_, ⟨rfl, Nat.le_add_right _ _, ?_, ?_⟩,
      Meter.accounts_free hspent ?_ fun _ _ h => by cases h; rfl⟩
    · rw [List.eq_of_mem_replicate hmem]
      exact ⟨hdepth, hc, fun stop hstop => by cases hstop; exact ⟨Nat.le_add_right _ _, hroom⟩⟩
    · show c'.off + moved ≤ c'.data.length
      omega
    · rw [List.length_append, List.length_replicate]
      show ((1 + steps : Nat) : Int) ≤
        32 * (((c'.off + moved : Nat) : Int) - c'.off) + (steps + 1 - 32 * moved)
      omega
    · refine List.forall_mem_append.2 ⟨List.forall_mem_singleton.2 trivial, fun event hmem => ?_⟩
      rw [List.eq_of_mem_replicate hmem]
      trivial

/-- Asking for bytes and taking them. -/
theorem thrifty_needed (n : Nat) :
    Thrifty depth (do Qk.readerNeed n; Qk.takeBytes n) (2 - 32 * n) 1 :=
  thrifty_behind 1 (Nat.le_refl n) fun _ => ⟨⟨_, rfl⟩, rfl⟩

theorem thrifty_readU8 : Thrifty depth Qk.readU8 (-28) 1 := by
  have hread : Qk.readU8 = (do Qk.readerNeed 1; Qk.takeBytes 1) >>=
    fun bs => pure (bs.headD 0) := by
    unfold Qk.readU8
    rw [bind_assoc]
  rw [hread]
  exact ((thrifty_needed 1).bind fun bs => .pure _).within (by decide)

theorem thrifty_peekU16le_kernel : Thrifty depth Qk.peekU16le 3 1 :=
  (thrifty_behind 1 (Nat.zero_le 2) fun _ => ⟨⟨_, rfl⟩, rfl⟩).within (by decide)

theorem thrifty_readU16le_kernel : Thrifty depth Qk.readU16le (-58) 1 := by
  unfold Qk.readU16le Qk.peekU16le
  rw [bind_assoc]
  exact (thrifty_behind 2 (Nat.le_refl 2) fun _ => ⟨⟨_, rfl⟩, rfl⟩).within (by decide)

instance : Costs meter depth Qk.readU8 (-28) 1 := ⟨thrifty_readU8⟩

instance : Costs meter depth Qk.peekU16le 3 1 := ⟨thrifty_peekU16le_kernel⟩

instance : Costs meter depth Qk.readU16le (-58) 1 := ⟨thrifty_readU16le_kernel⟩

instance (fuel shift value : Nat) :
    Costs meter depth (Qk.readUleb128Loop fuel shift value) (-27) 1 := by
  induction fuel generalizing shift value with
  | zero => exact ⟨.throw _⟩
  | succ fuel ih =>
    unfold Qk.readUleb128Loop
    exact .within (by decide)

instance (fuel shift bits : Nat) :
    Costs meter depth (Qk.readSleb128Loop fuel shift bits) (-27) 1 := by
  induction fuel generalizing shift bits with
  | zero => exact ⟨.throw _⟩
  | succ fuel ih =>
    unfold Qk.readSleb128Loop
    exact .within (by decide)

/-! ### The readers of `ducknng_quack.c` -/

instance {p : QkRead α} {debt : Int} {slack : Nat} [h : Costs meter depth p debt slack]
    (message : String) : Costs meter depth (readerResult message p) debt slack := by
  have heq : readerResult message p =
      ⟨fun c => (p c).mapError fun status => some (readerMessage message status), p.log⟩ := by
    ext1
    · funext c
      exact readerResult_apply message p c
    · rfl
  rw [heq]
  exact ⟨h.metered.relabel _⟩

instance (message : String) : Costs meter depth (fail message : QuackRead α) (-1000) 0 := ⟨.throw _⟩

instance (message : String) : Costs meter depth (readBoolean message) (-27) 1 := by
  unfold readBoolean Qk.readBoolean
  exact .within (by decide)

instance : Costs meter depth peekU16le 3 1 := by
  unfold peekU16le
  infer_instance

instance : Costs meter depth readU16le (-58) 1 := by
  unfold readU16le
  infer_instance

instance (field : Nat) : Costs meter depth (readExpectField field) (-57) 1 := by
  unfold readExpectField
  exact .within (by decide)

instance {ε : Type} : Costs meter depth (tick : Step ε Unit) 1 1 := ⟨.tick⟩

instance {ε : Type} : Costs meter depth (look : Step ε Cursor) 1 1 :=
  ⟨.watch (fun _ _ h => by cases h) (fun _ => trivial) fun _ _ _ h => by cases h; rfl⟩

instance : Costs meter depth readerRemaining 2 2 := by
  unfold readerRemaining
  exact .within (by decide)

instance : Costs meter depth readUleb128 (-27) 1 := by
  unfold readUleb128 Qk.readUleb128
  infer_instance

instance : Costs meter depth readSleb128 (-26) 1 := by
  unfold readSleb128 Qk.readSleb128
  exact .within (by decide)

instance : Costs meter depth readBlobView (-23) 1 := by
  have htake : ∀ length : Nat, Costs meter depth
    (do Qk.readerNeed length; Qk.takeBytes length) 2 1 :=
    fun length => ⟨(thrifty_needed length).mono (by omega) (Nat.le_refl 1)⟩
  unfold readBlobView Qk.readCounted Qk.readUleb128
  exact .within (by decide)

instance : Costs meter depth readStringDup (-22) 1 := by
  refine ⟨((inferInstance : Costs meter depth readBlobView _ _).metered.bind (b := 0) (t := 0)
    fun data => ?_).within (by decide)⟩
  split
  · exact .throw _
  · exact .pure _

instance (n : Nat) : Costs meter depth (repeatRead readStringDup n) 0 1 :=
  .repeatRead inferInstance n (by decide)

instance : Costs meter depth skipString (-22) 1 := by
  unfold skipString
  exact .within (by decide)

/-! ### Types -/

section
variable {readChild : QuackRead TypeNode} [Costs meter depth readChild (-8) 32]

instance (fuel : Nat) (name : Option CStr) (type : Option TypeNode) :
    Costs meter depth (readChildPairLoop readChild fuel name type) (-57) 32 := by
  induction fuel generalizing name type with
  | zero => exact ⟨.throw _⟩
  | succ fuel ih =>
    unfold readChildPairLoop
    cases type <;> exact .within (by decide)

instance (field : Nat) (s : TypeInfoState) :
    Costs meter depth (readTypeInfoField readChild field s) (-7) 32 := by
  have hmembers : ∀ count,
      Costs meter depth (repeatRead (readChildPairLoop readChild 3 none none) count) 0 32 :=
    fun count => .repeatRead inferInstance count (by decide)
  unfold readTypeInfoField readTypeInfo200 readTypeInfo201 readChildPair
  exact .within (by decide)

instance (fuel : Nat) (s : TypeInfoState) :
    Costs meter depth (readTypeInfoLoop readChild fuel s) (-57) 32 := by
  induction fuel generalizing s with
  | zero => exact ⟨.throw _⟩
  | succ fuel ih =>
    unfold readTypeInfoLoop
    cases typeShapeValidate s.node <;> exact .within (by decide)

instance (s : TypeNodeState) : Costs meter depth (finishTypeNode s) 0 0 := by
  unfold finishTypeNode
  cases typeShapeValidate s.node <;> exact .within (by decide)

instance (fuel : Nat) (s : TypeNodeState) :
    Costs meter depth (readTypeNodeLoop readChild fuel s) (-57) 31 := by
  induction fuel generalizing s with
  | zero => exact ⟨.throw _⟩
  | succ fuel ih =>
    unfold readTypeNodeLoop readTypeInfo
    exact .within (by decide)

end

variable {left : Nat}

/-- A type, down to the nesting limit. -/
theorem costs_readTypeNode (h : left + depth ≤ maxLevels) :
    Costs meter depth (readTypeNode left) (-8) 32 := by
  induction left generalizing depth with
  | zero => exact ⟨.throw _⟩
  | succ left ih =>
    have hchild : Costs meter (depth + 1) (readTypeNode left) (-8) 32 := ih (by omega)
    have hdepth : depth + 1 ≤ maxLevels := by omega
    unfold readTypeNode
    exact (Costs.nested hdepth).within (by decide)

/-! ### Pieces of vectors -/

/-- Behind the optional field that tells the encoding: without it the vector is flat, with it
    bytes have been consumed. -/
theorem costs_vectorType {f : Nat → QuackRead α} {a b : Int} {s t : Nat}
    (hflat : Costs meter depth (f 0) a s)
    (hother : ∀ vectorType, Costs meter depth (f vectorType) b t) :
    Costs meter depth (readVectorType >>= f) (max (a + 4) (b - 79)) (max (s + 5) (t - 8)) := by
  have heq : readVectorType >>= f = peekU16le >>= fun fieldId =>
      if fieldId = 90 then readU16le >>= fun _ => readUleb128 >>= fun vectorType =>
        if vectorType > 4 then fail "ducknng: invalid quack vector type" else f vectorType
      else f 0 := by
    unfold readVectorType readVectorTypeField
    rw [bind_assoc]
    congr 1
    funext fieldId
    split
    · simp only [bind_assoc]
      congr 1
      funext _
      congr 1
      funext vectorType
      split
      · rfl
      · exact pure_bind _ _
    · exact pure_bind _ _
  rw [heq]
  have hread {ε β : Type} {p : Step ε β} {debt : Int} {slack : Nat}
      [h : Costs meter depth p debt slack] : Thrifty depth p debt slack := h.metered
  refine ⟨.mono (hread.bind fun fieldId => .ite (hread.bind fun _ => hread.bind fun vectorType =>
    .guard (hother vectorType).metered) hflat.metered) ?_ ?_⟩
  · omega
  · omega

instance (rows : Nat) : Costs meter depth (readFlatValidity rows) (-16) 8 := by
  unfold readFlatValidity readFlatVectorPrologue
  exact .within (by decide)

instance (rows : Nat) : Costs meter depth (readDictionaryHeader rows) (-16) 8 := by
  unfold readDictionaryHeader
  cases sizeMul 4 rows <;> exact .within (by decide)

instance : Costs meter depth readSequence (-16) 8 := by
  unfold readSequence
  exact .within (by decide)

instance (rows : Nat) : Costs meter depth (readVarlenItems rows) (-16) 8 := by
  have hitems : Costs meter depth (repeatRead readBlobView rows) 0 1 :=
    .repeatRead inferInstance rows (by decide)
  unfold readVarlenItems
  exact .within (by decide)

instance (node : TypeNode) : Costs meter depth (readStructCount node) (-16) 8 := by
  unfold readStructCount
  exact .within (by decide)

instance (rows : Nat) : Costs meter depth (readListHeader rows) (-16) 8 := by
  unfold readListHeader
  exact .within (by decide)

instance (childSize rows : Nat) : Costs meter depth (repeatRead (readListEntry childSize) rows)
    0 8 := by
  have hentry : Costs meter depth (readListEntry childSize) (-16) 8 := by
    unfold readListEntry
    exact .within (by decide)
  exact .repeatRead hentry rows (by decide)

instance (node : TypeNode) (rows : Nat) : Costs meter depth (readFixedData node rows) (-16) 8 := by
  unfold readFixedData
  exact .within (by decide)

instance (rows size : Nat) : Costs meter depth (arrayRows rows size) 0 0 := by
  unfold arrayRows
  cases u64Mul rows size <;> exact .within (by decide)

/-! ### Skipping -/

section
variable {skipChild : TypeNode → Nat → QuackRead Unit} (node : TypeNode) (rows : Nat)
variable [∀ node rows, Costs meter depth (skipChild node rows) (-8) 32]

instance : Costs meter depth (skipStruct skipChild node rows) (-16) 32 := by
  have hmembers : Costs meter depth (forEach
    (fun child => skipChild child rows) node.children) 0 32 :=
    .forEach _ (by decide)
  unfold skipStruct
  exact .within (by decide)

instance : Costs meter depth (skipList skipChild node rows) (-16) 32 := by
  unfold skipList
  split <;> exact .within (by decide)

instance : Costs meter depth (skipArray skipChild node rows) (-16) 32 := by
  unfold skipArray
  split <;> exact .within (by decide)

instance : Costs meter depth (skipFlat skipChild node rows) (-16) 20 := by
  unfold skipFlat
  exact .within (by decide)

end

/-- A vector that is skipped, down to the nesting limit. -/
theorem costs_skipVectorNode (hleft : left + depth ≤ maxLevels) (node : TypeNode) (rows : Nat) :
    Costs meter depth (skipVectorNode left node rows) (-8) 32 := by
  induction left generalizing depth node rows with
  | zero => exact ⟨.throw _⟩
  | succ left ih =>
    have hchild : ∀ node rows, Costs meter (depth + 1) (skipVectorNode left node rows) (-8) 32 :=
      fun node rows => ih (by omega) node rows
    have hdepth : depth + 1 ≤ maxLevels := by omega
    have hflat : Costs meter (depth + 1) (skipFlat (skipVectorNode left) node rows) (-16) 20 :=
      inferInstance
    -- an encoding other than flat has been told by a field, and so is paid for
    refine Costs.within (h := .nested (h := costs_vectorType (b := -8) (t := 32) hflat
      fun vectorType => ?_) hdepth) (by decide)
    exact .within (by decide)

/-! ### Decoding -/

/-- A check sees the total, and goes through if its values fit. -/
theorem accounts_checkMaterializedValues (count : Nat) (commit : Bool) {c : Cursor}
    (hspent : c.spent ≤ maxMaterializedValues) :
    meter.Accounts c ((checkMaterializedValues count commit).log depth c)
      (checkMaterializedValues count commit c) := by
  cases hrun : checkMaterializedValues count commit c with
  | error e =>
    have hover : maxMaterializedValues < c.spent + count := by
      by_contra hfits
      have hfine := (@checkMaterializedValues_eq_ok count commit c _ ()).2
        ⟨Nat.le_of_not_lt hfits, rfl⟩
      rw [hfine] at hrun
      cases hrun
    exact ⟨.inr ⟨⟨rfl, hover⟩, rfl, rfl⟩, fun _ _ h => by cases h⟩
  | ok x =>
    obtain ⟨u, c'⟩ := x
    obtain ⟨hfits, rfl⟩ := checkMaterializedValues_eq_ok.1 hrun
    refine ⟨.inl ⟨⟨rfl, hfits⟩, trivial⟩, fun _ _ h => ?_⟩
    cases h
    cases commit
    · exact ⟨rfl, hspent⟩
    · exact ⟨rfl, hfits⟩

instance (count : Nat) (commit : Bool) :
    Costs meter depth (checkMaterializedValues count commit) 1 1 := by
  refine ⟨.atom (fun _ _ h => by cases h) (fun c a c' h => ?_)
    fun c hspent => accounts_checkMaterializedValues count commit hspent⟩
  rw [(checkMaterializedValues_eq_ok.1 h).2]
  exact ⟨rfl, rfl⟩

/-- **Room is reserved behind a check of as many values.** -/
theorem thrifty_reserve {count capacity : Nat} (hcapacity : capacity ≤ max count 1) :
    Thrifty depth (do checkMaterializedValues count false; reserve count capacity) 2 2 := by
  intro hdepth c hc hspent
  have hcheck : Costs meter depth (checkMaterializedValues count false) 1 1 := inferInstance
  obtain ⟨hallows, hpaid, haccounts⟩ := hcheck.metered hdepth c hc hspent
  cases hrun : checkMaterializedValues count false c with
  | error e =>
    have hresult : (do checkMaterializedValues count false; reserve count capacity) c =
        .error e := by
      rw [Step.bind_apply, hrun]
      rfl
    rw [hrun] at hpaid haccounts
    rw [Step.log_bind_error hrun, hresult]
    exact ⟨hallows, Nat.le_trans hpaid (Nat.le_succ _), haccounts.1, fun _ _ h => by cases h⟩
  | ok x =>
    obtain ⟨u, c'⟩ := x
    obtain ⟨hfits, rfl⟩ := checkMaterializedValues_eq_ok.1 hrun
    have hresult : (do checkMaterializedValues count false; reserve count capacity) c =
        .ok ((), c) := by
      rw [Step.bind_apply, hrun]
      rfl
    rw [Step.log_bind_ok hrun, hresult]
    refine ⟨hallows.append (Meter.allows_plain hdepth hc fun _ h => by cases h), ?_, ?_⟩
    · refine ⟨rfl, Nat.le_refl _, hc, ?_⟩
      show ((2 : Nat) : Int) ≤ 32 * ((c.off : Int) - c.off) + 2
      omega
    · -- the values that were checked are those that room is reserved for
      refine ⟨.inl ⟨⟨rfl, hfits⟩, .inl ⟨⟨hfits, hcapacity⟩, trivial⟩⟩, fun _ _ h => ?_⟩
      cases h
      exact ⟨rfl, hspent⟩

instance (childSize : Nat) : Costs meter depth (reserveListChild childSize) 2 2 :=
  ⟨thrifty_reserve (Nat.le_max_left _ _)⟩

instance (childType : Except Err LogicalType) (sourceCount : Nat) :
    Costs meter depth (createSource childType sourceCount) 2 2 := by
  cases childType with
  | error e =>
    unfold createSource
    exact .within (by decide)
  | ok type =>
    refine ⟨thrifty_reserve ?_⟩
    split <;> omega

instance (node : TypeNode) (start increment : Int) (offset outCount : Nat) :
    Costs meter depth (decodeSequence node start increment offset outCount) 0 0 := by
  unfold decodeSequence
  cases sequenceRange node.logicalTypeId <;> exact .within (by decide)

instance {decodeSource : QuackRead (List Value)} [Costs meter depth decodeSource (-8) 32]
    (childType : Except Err LogicalType) (sourceCount : Nat) (selection : Option (List UInt8))
    (offset outCount : Nat) : Costs meter depth
      (decodeCompressedCopy decodeSource childType sourceCount selection offset outCount)
        (-5) 34 := by
  unfold decodeCompressedCopy
  exact .within (by decide)

instance (width dataLen offset outCount : Nat) :
    Costs meter depth (checkFixedSlice width dataLen offset outCount) 0 0 := by
  unfold checkFixedSlice
  cases sizeMul width offset <;> cases sizeMul width outCount <;> exact .within (by decide)

section
variable {decodeChild : TypeNode → Nat → Nat → Nat → QuackRead (List Value)}
variable (node : TypeNode) (validity : Option (List UInt8)) (srcRows offset outCount : Nat)
variable [∀ node rows offset count, Costs meter depth (decodeChild node rows offset count) (-8) 32]

instance : Costs meter depth
    (decodeStruct decodeChild node validity srcRows offset outCount) (-16) 32 := by
  have hmembers : Costs meter depth
      (forEach (fun child => decodeChild child srcRows offset outCount) node.children) 0 32 :=
    .forEach _ (by decide)
  unfold decodeStruct
  exact .within (by decide)

instance : Costs meter depth
    (decodeList decodeChild node validity srcRows offset outCount) (-16) 32 := by
  unfold decodeList
  split <;> exact .within (by decide)

instance : Costs meter depth
    (decodeArray decodeChild node validity srcRows offset outCount) (-16) 32 := by
  unfold decodeArray
  split <;> exact .within (by decide)

instance : Costs meter depth (decodeFlat decodeChild node srcRows offset outCount) (-16) 20 := by
  unfold decodeFlat decodeVarlen decodeFixed
  exact .within (by decide)

end

/-- A vector that is decoded, down to the nesting limit. -/
theorem costs_decodeVectorInto (hleft : left + depth ≤ maxLevels) (node : TypeNode)
    (srcRows offset outCount : Nat) :
    Costs meter depth (decodeVectorInto left node srcRows offset outCount) (-8) 32 := by
  induction left generalizing depth node srcRows offset outCount with
  | zero => exact ⟨.throw _⟩
  | succ left ih =>
    have hchild : ∀ node rows offset count,
        Costs meter (depth + 1) (decodeVectorInto left node rows offset count) (-8) 32 :=
      fun node rows offset count => ih (by omega) node rows offset count
    have hdepth : depth + 1 ≤ maxLevels := by omega
    have hflat : Costs meter (depth + 1)
        (decodeFlat (decodeVectorInto left) node srcRows offset outCount) (-16) 20 := inferInstance
    refine Costs.within (h := .nested (h := ⟨.guard (.bind Costs.metered fun _ =>
      (costs_vectorType (b := 0) (t := 34) hflat fun vectorType => ?_).metered)⟩) hdepth)
        (by decide)
    exact .within (by decide)

end

/-! ### Payloads -/

section
variable (schema : Schema)

instance (n : Nat) : Costs meter 0 (repeatRead (readTypeNode maxLevels) n) 0 32 :=
  .repeatRead (costs_readTypeNode (Nat.le_refl maxLevels)) n (by decide)

instance : Costs meter 0 readerParseSchema (-16) 32 := by
  unfold readerParseSchema
  exact .within (by decide)

instance (allowLegacyOmission : Bool) :
    Costs meter 0 (consumeChunkWrapperEnd allowLegacyOmission) 4 8 := by
  unfold consumeChunkWrapperEnd
  exact .within (by decide)

instance : Costs meter 0 (readChunkColumns schema) (-16) 32 := by
  have htype := @costs_readTypeNode 0 maxLevels (Nat.le_refl maxLevels)
  have hcheck : ∀ column : Column, Costs meter 0 (checkChunkType column.type) (-7) 32 := by
    intro column
    unfold checkChunkType
    exact .within (by decide)
  have htypes : Costs meter 0 (forEach (fun column : Column => checkChunkType column.type) schema) 0
      32 := .forEach schema (by decide)
  unfold readChunkColumns validateOptionalChunkTypes
  exact .within (by decide)

instance (rows : Nat) : Costs meter 0 (skipColumns schema rows) (-16) 32 := by
  have hcolumn := @costs_skipVectorNode 0 maxLevels (Nat.le_refl maxLevels)
  have hcolumns : Costs meter 0
      (forEach (fun column : Column => skipVectorNode maxLevels column.type rows) schema) 0 32 :=
    .forEach schema (by decide)
  unfold skipColumns
  exact .within (by decide)

instance : Costs meter 0 (skipDataChunk schema) (-16) 32 := by
  unfold skipDataChunk
  exact .within (by decide)

instance (a b : Nat) : Costs meter 0 (addRows a b) 0 0 := by
  unfold addRows
  cases u64Add a b <;> exact .within (by decide)

instance : Costs meter 0 readPresence (-27) 1 := by
  unfold readPresence
  infer_instance

instance (cap remaining rowCount : Nat) :
    Costs meter 0 (validateChunks schema cap remaining rowCount) 0 32 := by
  induction remaining generalizing rowCount with
  | zero => exact ⟨(Metered.pure _).within (by decide)⟩
  | succ remaining ih =>
    unfold validateChunks
    exact .within (by decide)

instance : Costs meter 0 readPayloadEnd (-16) 8 := by
  unfold readPayloadEnd
  exact .within (by decide)

instance (cap : Nat) : Costs meter 0 (readerValidateResults schema cap) 0 40 := by
  have hsection : ∀ fieldId, Costs meter 0 (validateResultsSection schema cap fieldId) 0 8 := by
    intro fieldId
    unfold validateResultsSection
    exact .within (by decide)
  unfold readerValidateResults
  exact .within (by decide)

instance (ncols : Nat) : Costs meter 0 (skipSchema ncols) 4 32 := by
  have hnames : ∀ n, Costs meter 0 (repeatRead skipString n) 0 1 :=
    fun n => .repeatRead inferInstance n (by decide)
  unfold skipSchema
  exact .within (by decide)

instance : Costs meter 0 readResultsHeader 4 8 := by
  unfold readResultsHeader
  exact .within (by decide)

instance (rows offset copyCount : Nat) :
    Costs meter 0 (decodeColumns schema rows offset copyCount) (-16) 32 := by
  have hcolumn := @costs_decodeVectorInto 0 maxLevels (Nat.le_refl maxLevels)
  have hcolumns : Costs meter 0 (forEach (fun column : Column =>
      decodeVectorInto maxLevels column.type rows offset copyCount) schema) 0 32 :=
    .forEach schema (by decide)
  unfold decodeColumns
  exact .within (by decide)

variable (vectorSize : Nat) (output : OutputChunk)

instance (offset : Nat) :
    Costs meter 0 (decodeDataChunkSlice vectorSize output schema offset) (-16) 32 := by
  unfold decodeDataChunkSlice
  exact .within (by decide)

instance (remaining : Nat) : Costs meter 0 (scanChunk vectorSize output schema remaining)
    (-8) 32 := by
  unfold scanChunk
  exact .within (by decide)

instance (globalOffset remaining seen : Nat) :
    Costs meter 0 (rescanChunks vectorSize schema globalOffset remaining seen output) 0 32 := by
  induction remaining generalizing seen output with
  | zero =>
    unfold rescanChunks
    exact .within (by decide)
  | succ remaining ih =>
    exact ⟨((Costs.metered (p := readPresence)).bind fun _ => .guard <|
      (Costs.metered (p := readExpectField 300)).bind fun _ =>
      (Costs.metered (p := decodeDataChunkSlice vectorSize output schema _)).bind fun slice =>
      (Costs.metered (p := consumeChunkWrapperEnd _)).bind fun _ =>
      (Costs.metered (p := addRows seen slice.1)).bind fun nextSeen =>
        .ite (show Thrifty 0 _ 0 0 by
          cases u64Add globalOffset slice.2.size with
          | none => exact .throw _
          | some nextOffset => exact .pure _)
          (.bind .tick fun _ => (ih slice.2 nextSeen).metered)).within (by decide)⟩

instance (globalOffset : Nat) :
    Costs meter 0 (rescan vectorSize schema globalOffset output) 16 64 := by
  unfold rescan
  exact .within (by decide)

instance (remaining rowCount : Nat) : Costs meter 0 (countChunks schema remaining rowCount)
    0 32 := by
  induction remaining generalizing rowCount with
  | zero => exact ⟨(Metered.pure _).within (by decide)⟩
  | succ remaining ih =>
    unfold countChunks
    exact .within (by decide)

instance : Costs meter 0 (readRowCount schema) 16 64 := by
  unfold readRowCount
  exact .within (by decide)

end

/-! ### The entry points -/

/-- Reading a payload from an offset on takes a number of steps that only depends on the length
    of the payload, whether it succeeds or not. At every step the reader stands inside the
    payload, hands out bytes of the payload only, and is nested no deeper than the limit; it also
    stops inside the payload. -/
def Bounded {α : Type} (p : QuackRead α) (payload : List UInt8) (off : Nat) : Prop :=
  (p.log 0 (readerAt payload off)).length ≤ 32 * payload.length + 64 ∧
    (∀ event ∈ p.log 0 (readerAt payload off),
      event.depth ≤ maxLevels ∧ event.off ≤ payload.length ∧
      ∀ stop, event.note = .slice stop → event.off ≤ stop ∧ stop ≤ payload.length) ∧
    ∀ a c', p (readerAt payload off) = .ok (a, c') → off ≤ c'.off ∧ c'.off ≤ payload.length

theorem bounded_of_costs {p : QuackRead α} {debt : Int} {slack : Nat} [h : Costs meter 0 p
    debt slack] (hle : debt ≤ 64 ∧ slack ≤ 64) {payload : List UInt8} {off : Nat}
    (hoff : off ≤ payload.length) : Bounded p payload off := by
  obtain ⟨hallows, hpaid, _⟩ :=
    h.metered (Nat.zero_le _) (readerAt payload off) hoff (Nat.zero_le _)
  refine ⟨?_, hallows, fun a c' hp => ?_⟩
  · cases hp : p (readerAt payload off) with
    | error e =>
      rw [hp] at hpaid
      have hcount : (p.log 0 (readerAt payload off)).length ≤
        32 * (payload.length - off) + slack := hpaid
      omega
    | ok x =>
      rw [hp] at hpaid
      have hto : x.2.off ≤ payload.length := hpaid.2.2.1
      have hcount : ((p.log 0 (readerAt payload off)).length : Int) ≤
        32 * ((x.2.off : Int) - off) + debt := hpaid.2.2.2
      omega
  · rw [hp] at hpaid
    exact ⟨hpaid.2.1, hpaid.2.2.1⟩

/-- **Parsing hostile bytes stays inside the payload and ends**: parsing the schema, validating
    the results, counting the rows, and both scans. -/
theorem parsing_bounded (payload : List UInt8) :
    Bounded readerParseSchema payload 0 ∧
    (∀ schema cap off, off ≤ payload.length →
      Bounded (readerValidateResults schema cap) payload off) ∧
    (∀ schema, Bounded (readRowCount schema) payload 0) ∧
    (∀ ncols, Bounded (do skipSchema ncols; readResultsHeader) payload 0) ∧
    (∀ vectorSize output schema remaining off, off ≤ payload.length →
      Bounded (scanChunk vectorSize output schema remaining) payload off) ∧
    (∀ vectorSize schema offset output,
      Bounded (rescan vectorSize schema offset output) payload 0) := by
  have hstart : 0 ≤ payload.length := Nat.zero_le _
  exact ⟨bounded_of_costs (by decide) hstart, fun _ _ _ hoff => bounded_of_costs (by decide) hoff,
    fun _ => bounded_of_costs (by decide) hstart, fun _ => bounded_of_costs (by decide) hstart,
    fun _ _ _ _ _ hoff => bounded_of_costs (by decide) hoff,
    fun _ _ _ _ => bounded_of_costs (by decide) hstart⟩

/-- A chunk that is announced in three bytes and never comes. -/
theorem parsing_bounded_short : Bounded (scanChunk 2048 .reset [] 1) [1, 44, 1] 0 :=
  (parsing_bounded [1, 44, 1]).2.2.2.2.1 2048 .reset [] 1 0 (by decide)

end Quack

end Ducknng
