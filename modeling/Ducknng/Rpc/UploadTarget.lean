import Ducknng.Checked
import Mathlib.Data.List.TakeWhile

namespace Ducknng

open List

/-!
# Targets of an upload

The table that an upload writes to is named by one to three identifiers with dots between them.
The client scans the name in place before it runs the source query; the server cuts a copy at
its dots and looks at the pieces. Memory for the copies is taken as given.

* `uploadTarget_iff` — both sides accept exactly the texts that stand for names.
-/

/-- `[A-Za-z_]`. -/
def identStart (c : UInt8) : Bool := (65 ≤ c && c ≤ 90) || (97 ≤ c && c ≤ 122) || c == 95

/-- `[A-Za-z0-9_$]`. -/
def identRest (c : UInt8) : Bool := identStart c || (48 ≤ c && c ≤ 57) || c == 36

/-- `ducknng_upload_ident_ok`; the client's loop over a segment is the same. -/
def uploadIdentOk : List UInt8 → Bool
  | [] => false
  | first :: rest => identStart first && rest.all identRest

/-- `'.'`. -/
def targetDot : UInt8 := 46

/-- The loop of `ducknng_upload_table_target_ok` behind the segment that it has begun. -/
def targetScan (segment : List UInt8) (nparts : Nat) : List UInt8 → Bool
  | [] => uploadIdentOk segment && nparts + 1 ≤ 3
  | c :: rest =>
    if c = targetDot then uploadIdentOk segment && nparts + 1 ≤ 3 && targetScan [] (nparts + 1) rest
    else targetScan (segment ++ [c]) nparts rest

/-- `ducknng_upload_table_target_ok`. -/
def uploadTableTargetOk (target : CStr) : Bool :=
  target.bytes ≠ [] && targetScan [] 0 target.bytes

/-- The cutting loop of `ducknng_upload_split_target` with so many free parts. -/
def cutParts : Nat → List UInt8 → Option (List (List UInt8))
  | 0, _ => none
  | free + 1, p =>
    match p.dropWhile (· ≠ targetDot) with
    | [] => some [p]
    | _ :: rest => (cutParts free rest).map (p.takeWhile (· ≠ targetDot) :: ·)

/-- `[[catalog.]schema.]table`. -/
structure UploadTarget where
  catalog : Option (List UInt8)
  schema : Option (List UInt8)
  table : List UInt8
  deriving DecidableEq

/-- The message for every target that is refused. -/
def malformedTarget : String :=
  "ducknng: upload target must be a simple [[catalog.]schema.]table identifier"

/-- The end of `ducknng_upload_split_target`: where the parts go. -/
def targetOfParts : List (List UInt8) → Except String UploadTarget
  | [table] => .ok ⟨none, none, table⟩
  | [schema, table] => .ok ⟨none, some schema, table⟩
  | [catalog, schema, table] => .ok ⟨some catalog, some schema, table⟩
  | _ => .error malformedTarget

/-- `ducknng_upload_split_target`. -/
def uploadSplitTarget (target : CStr) : Except String UploadTarget :=
  match cutParts 3 target.bytes with
  | none => .error malformedTarget
  | some parts => if parts.all uploadIdentOk then targetOfParts parts else .error malformedTarget

/-! ### What a target stands for -/

/-- The names in their order. -/
def UploadTarget.parts (t : UploadTarget) : List (List UInt8) :=
  t.catalog.toList ++ t.schema.toList ++ [t.table]

/-- The text is these names with single dots between them, and every one is an identifier. -/
structure UploadTarget.Denotes (t : UploadTarget) (target : CStr) : Prop where
  qualified : t.catalog.isSome → t.schema.isSome
  identifiers : ∀ part ∈ t.parts, ∃ first rest, part = first :: rest ∧ identStart first = true ∧
    ∀ c ∈ rest, identRest c = true
  text : target.bytes = intercalate [targetDot] t.parts

theorem uploadIdentOk_iff {part : List UInt8} : uploadIdentOk part = true ↔
    ∃ first rest, part = first :: rest ∧ identStart first = true ∧
      ∀ c ∈ rest, identRest c = true := by
  cases part with
  | nil => simp [uploadIdentOk]
  | cons first rest => simp [uploadIdentOk]

/-- No identifier has a dot in it. -/
theorem dot_not_mem {part : List UInt8} (h : uploadIdentOk part = true) : targetDot ∉ part := by
  have hstart : identStart targetDot = false := by decide
  have hrest : identRest targetDot = false := by decide
  obtain ⟨first, rest, rfl, hf, hr⟩ := uploadIdentOk_iff.1 h
  intro hmem
  rcases mem_cons.1 hmem with rfl | hmem
  · exact absurd hf (by rw [hstart]; nofun)
  · exact absurd (hr _ hmem) (by rw [hrest]; nofun)

/-! ### Both sides look at the pieces between the dots -/

/-- The client's loop. -/
theorem targetScan_iff {segment rest : List UInt8} {nparts : Nat} (h : targetDot ∉ segment) :
    targetScan segment nparts rest = true ↔
      (∀ part ∈ (segment ++ rest).splitOn targetDot, uploadIdentOk part = true) ∧
        nparts + ((segment ++ rest).splitOn targetDot).length ≤ 3 := by
  induction rest generalizing segment nparts with
  | nil => simp [targetScan, splitOn_eq_singleton h]
  | cons c rest ih =>
    by_cases hc : c = targetDot
    · have hpos := length_pos_iff.2 (splitOn_ne_nil targetDot rest)
      rw [targetScan, if_pos hc, hc, splitOn_append_cons_self_of_not_mem h]
      simp only [Bool.and_eq_true, decide_eq_true_eq, ih not_mem_nil, nil_append, forall_mem_cons,
        length_cons]
      constructor
      · rintro ⟨⟨hok, -⟩, hrest, hcount⟩
        exact ⟨⟨hok, hrest⟩, by omega⟩
      · rintro ⟨⟨hok, hrest⟩, hcount⟩
        exact ⟨⟨hok, by omega⟩, hrest, by omega⟩
    · have hsegment : targetDot ∉ segment ++ [c] := by simp [h, Ne.symm hc]
      rw [targetScan, if_neg hc, ih hsegment, append_assoc, singleton_append]

/-- The server's loop. -/
theorem cutParts_eq (free : Nat) (p : List UInt8) :
    cutParts free p = if (p.splitOn targetDot).length ≤ free then some (p.splitOn targetDot)
      else none := by
  induction free generalizing p with
  | zero => simp [cutParts, splitOn_ne_nil]
  | succ free ih =>
    by_cases hdot : targetDot ∈ p
    · obtain ⟨first, rest, rfl, hfirst⟩ := eq_append_cons_of_mem hdot
      have hne : ∀ c ∈ first, decide (c ≠ targetDot) = true := fun c hc =>
        decide_eq_true fun heq => hfirst (heq ▸ hc)
      rw [cutParts, dropWhile_append_of_pos hne, takeWhile_append_of_pos hne,
        splitOn_append_cons_self_of_not_mem hfirst]
      simp [ih]
    · have hall : p.dropWhile (· ≠ targetDot) = [] :=
        dropWhile_eq_nil_iff.2 fun c hc => decide_eq_true fun heq => hdot (heq ▸ hc)
      rw [cutParts, hall, splitOn_eq_singleton hdot]
      simp

theorem targetOfParts_eq_ok {parts : List (List UInt8)} {t : UploadTarget} :
    targetOfParts parts = .ok t ↔ (t.catalog.isSome → t.schema.isSome) ∧ parts = t.parts := by
  obtain ⟨catalog, schema, table⟩ := t
  rcases parts with _ | ⟨a, _ | ⟨b, _ | ⟨c, _ | ⟨d, parts⟩⟩⟩⟩ <;> cases catalog <;> cases schema <;>
    simp [targetOfParts, UploadTarget.parts]

/-- There is a place for one to three parts. -/
theorem exists_targetOfParts {parts : List (List UInt8)} :
    (∃ t, targetOfParts parts = .ok t) ↔ parts ≠ [] ∧ parts.length ≤ 3 := by
  rcases parts with _ | ⟨a, _ | ⟨b, _ | ⟨c, _ | ⟨d, parts⟩⟩⟩⟩ <;> simp [targetOfParts]

/-- A target stands for the pieces between its dots. -/
theorem UploadTarget.denotes_iff {t : UploadTarget} {target : CStr} : t.Denotes target ↔
    (∀ part ∈ target.bytes.splitOn targetDot, uploadIdentOk part = true) ∧
      targetOfParts (target.bytes.splitOn targetDot) = .ok t := by
  rw [targetOfParts_eq_ok]
  constructor
  · intro h
    have hok := fun part hpart => uploadIdentOk_iff.2 (h.identifiers part hpart)
    have hsplit : target.bytes.splitOn targetDot = t.parts := by
      rw [h.text, splitOn_intercalate _ (fun part hpart => dot_not_mem (hok part hpart))]
      simp [parts]
    rw [hsplit]
    exact ⟨hok, h.qualified, rfl⟩
  · rintro ⟨hok, hqualified, hparts⟩
    refine ⟨hqualified, fun part hpart => uploadIdentOk_iff.1 (hok part (hparts ▸ hpart)), ?_⟩
    rw [← hparts, intercalate_splitOn]

/-- **Targets are checked alike on both sides.** The client and the server accept exactly the
    texts that are one to three identifiers with single dots between them, and the server
    returns these identifiers. -/
theorem uploadTarget_iff (target : CStr) :
    (uploadTableTargetOk target = true ↔ ∃ t : UploadTarget, t.Denotes target) ∧
      ∀ t, uploadSplitTarget target = .ok t ↔ t.Denotes target := by
  have hne := splitOn_ne_nil targetDot target.bytes
  simp only [UploadTarget.denotes_iff, exists_and_left, exists_targetOfParts]
  constructor
  · rw [uploadTableTargetOk, Bool.and_eq_true, targetScan_iff not_mem_nil, nil_append, Nat.zero_add]
    constructor
    · rintro ⟨-, hok, hmax⟩
      exact ⟨hok, hne, hmax⟩
    · rintro ⟨hok, -, hmax⟩
      refine ⟨decide_eq_true fun hnil => ?_, hok, hmax⟩
      rw [hnil] at hok
      simp [uploadIdentOk] at hok
  · intro t
    rw [uploadSplitTarget, cutParts_eq]
    by_cases hmax : (target.bytes.splitOn targetDot).length ≤ 3
    · rw [if_pos hmax]
      dsimp only
      split
      · next hok => exact (and_iff_right (all_eq_true.1 hok)).symm
      · next hok => exact ⟨nofun, fun h => absurd (all_eq_true.2 h.1) hok⟩
    · -- too many parts for the parser, and for a target as well
      rw [if_neg hmax]
      exact ⟨nofun, fun h => absurd (exists_targetOfParts.1 ⟨t, h.2⟩).2 hmax⟩

end Ducknng
