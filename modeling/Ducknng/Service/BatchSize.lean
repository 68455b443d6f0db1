import Ducknng.Service.Ownership
import Mathlib.Algebra.Order.Floor.Div
import Mathlib.GroupTheory.GroupAction.Ring

namespace Ducknng

/-!
# The batch size of a query

A client asks for rows per fetch, the session counts chunks per fetch. The handler rounds up
in 64 bits, and a quotient of 0 is taken as no request at all.

* `all_queryOpen` — what a query registers.
* `fetchBatchChunksOf_exact`, `fetchBatchChunksOf_wrapped` — the rounding below and beyond the
  end of the 64-bit range.
* `queryOpen_batchSize` — where the stored number is the rounded one; `queryOpen_wraps` — the
  largest request gets the default.
-/

variable {vectorRows batchRows : Nat}

section
variable {χ : Type}

/-- The action registers nothing. -/
def QuietOp : (α : Type) → ServiceOp χ α → Prop
  | _, .addSession _ => False
  | _, _ => True

/-- What a query registers, with every other action quiet. -/
theorem all_queryOpen {P : (α : Type) → ServiceOp χ α → Prop} {vectorRows idleMs : Nat}
    {identity : Option CStr} {request : QueryOpenRequest χ}
    (hquiet : ∀ α op, QuietOp α op → P α op)
    (hadd : ∀ new, new.isUpload = false → JustOpened false new.work →
      new.work.fetchBatchChunks = fetchBatchChunksOf vectorRows request.batchRows →
      P _ (.addSession new)) :
    (queryOpenHandler vectorRows idleMs identity (.ok request)).all P := by
  refine Discipline.all_of_wp (fun {α h op} hmay => ?_) (keeps_queryOpen (h := Held.nothing)
    (P := fun new => P _ (.addSession new)) ⟨rfl, rfl, rfl⟩ vectorRows idleMs identity _
    fun _ hrequest new hkind hjust hchunks => ?_)
  · cases op with
    | addSession new => exact hmay.1
    | _ => exact hquiet _ _ trivial
  · cases hrequest
    exact hadd new hkind (hkind ▸ hjust) hchunks

/-- A session that is added fetches `n` chunks at a time. -/
def StoresChunks (n : Nat) : (α : Type) → ServiceOp χ α → Prop
  | _, .addSession new => new.work.fetchBatchChunks = n
  | _, _ => True

/-- A query of one statement that reaches the session table. -/
theorem queryOpen_adds {idleMs n : Nat} {identity : Option CStr}
    (h : (queryOpenHandler vectorRows idleMs identity
      (.ok (⟨none, batchRows, 0, none, []⟩ : QueryOpenRequest χ))).all (StoresChunks n)) :
    fetchBatchChunksOf vectorRows batchRows = n :=
  -- a connection, one statement, no parameters, and the clock
  ((((((h.2 (.ok 0)).2 (.ok 1)).2 (.ok 0)).2 (.ok 0)).2 (.ok 0)).2 0).1

end

/-! ### The rounding -/

theorem fetchBatchChunksOf_exact (hrows : 0 < batchRows) (hvector : 0 < vectorRows)
    (hrange : batchRows + vectorRows ≤ 2 ^ 64) :
    fetchBatchChunksOf vectorRows batchRows = min 256 (batchRows ⌈/⌉ vectorRows) := by
  have hpos : 0 < batchRows ⌈/⌉ vectorRows := by
    exact Nat.div_pos (by omega) hvector
  rw [Nat.ceilDiv_eq_add_pred_div] at hpos ⊢
  rw [fetchBatchChunksOf, if_pos hrows, Nat.mod_eq_of_lt (by omega)]
  rw [if_neg (by omega), Nat.min_comm]

/-- Beyond the range the sum is a remainder below the vector size. -/
theorem fetchBatchChunksOf_wrapped (hrows : batchRows < 2 ^ 64) (hvector : vectorRows < 2 ^ 64)
    (hrange : 2 ^ 64 < batchRows + vectorRows) :
    fetchBatchChunksOf vectorRows batchRows = 12 := by
  have hsum : (batchRows + vectorRows - 1) % 2 ^ 64 = batchRows + vectorRows - 1 - 2 ^ 64 := by
    rw [Nat.mod_eq_sub_mod (by omega), Nat.mod_eq_of_lt (by omega)]
  rw [fetchBatchChunksOf, if_pos (by omega), hsum, Nat.div_eq_of_lt (by omega)]
  rfl

/-- The stored number is the rounded request up to the cap, and grows with the request, as
    long as the rounding stays in 64 bits; beyond that it is the default of 12. -/
theorem queryOpen_batchSize {χ : Type} {vectorRows batchRows idleMs : Nat} {identity : Option CStr}
    (hpos : 1 ≤ batchRows) (hrows : batchRows < 2 ^ 64) (hvector : 0 < vectorRows)
    (hmax : vectorRows < 2 ^ 64) :
    ((∀ request : QueryOpenRequest χ, request.batchRows = batchRows →
        (queryOpenHandler vectorRows idleMs identity (.ok request)).all
          (StoresChunks (min 256 (batchRows ⌈/⌉ vectorRows)))) ↔
      batchRows + vectorRows ≤ 2 ^ 64 ∨ batchRows ⌈/⌉ vectorRows = 12) ∧
    (batchRows + vectorRows ≤ 2 ^ 64 → ∀ fewer, 1 ≤ fewer → fewer ≤ batchRows →
      fetchBatchChunksOf vectorRows fewer ≤ fetchBatchChunksOf vectorRows batchRows) := by
  -- the handler stores what the rounding gives
  have hstored : (∀ request : QueryOpenRequest χ, request.batchRows = batchRows →
        (queryOpenHandler vectorRows idleMs identity (.ok request)).all
          (StoresChunks (min 256 (batchRows ⌈/⌉ vectorRows)))) ↔
      fetchBatchChunksOf vectorRows batchRows = min 256 (batchRows ⌈/⌉ vectorRows) := by
    constructor
    · intro h
      exact queryOpen_adds (h ⟨none, batchRows, 0, none, []⟩ rfl)
    · intro h request hrequest
      rw [← h, ← hrequest]
      refine all_queryOpen (fun α op hop => ?_) fun _ _ _ hchunks => hchunks
      cases op with
      | addSession new => exact hop.elim
      | _ => trivial
  refine ⟨hstored.trans ?_, ?_⟩
  · by_cases hrange : batchRows + vectorRows ≤ 2 ^ 64
    · exact iff_of_true (fetchBatchChunksOf_exact hpos hvector hrange) (.inl hrange)
    · rw [fetchBatchChunksOf_wrapped hrows hmax (by omega)]
      omega
  · intro hrange fewer hone hle
    rw [fetchBatchChunksOf_exact hone hvector (by omega),
      fetchBatchChunksOf_exact hpos hvector hrange, Nat.ceilDiv_eq_add_pred_div,
      Nat.ceilDiv_eq_add_pred_div]
    have hquot : (fewer + vectorRows - 1) / vectorRows ≤
      (batchRows + vectorRows - 1) / vectorRows :=
      Nat.div_le_div_right (by omega)
    omega

theorem queryOpen_batchSize_vector :
    ((∀ request : QueryOpenRequest Unit, request.batchRows = 5000 →
        (queryOpenHandler 2048 0 none (.ok request)).all
          (StoresChunks (min 256 ((5000 : Nat) ⌈/⌉ 2048)))) ↔
      (5000 : Nat) + 2048 ≤ 2 ^ 64 ∨ (5000 : Nat) ⌈/⌉ 2048 = 12) ∧
    ((5000 : Nat) + 2048 ≤ 2 ^ 64 → ∀ fewer, 1 ≤ fewer → fewer ≤ 5000 →
      fetchBatchChunksOf 2048 fewer ≤ fetchBatchChunksOf 2048 5000) :=
  queryOpen_batchSize (by decide) (by decide) (by decide) (by decide)

/-- The largest request is stored as 12 chunks, where a smaller one gets 256. -/
theorem queryOpen_wraps :
    ¬ (queryOpenHandler 2048 0 none
        (.ok (⟨none, 2 ^ 64 - 1, 0, none, []⟩ : QueryOpenRequest Unit))).all
          (StoresChunks (min 256 ((2 ^ 64 - 1) ⌈/⌉ 2048))) ∧
      fetchBatchChunksOf 2048 (2 ^ 64 - 1) = 12 ∧ fetchBatchChunksOf 2048 (2 ^ 32) = 256 := by
  refine ⟨fun h => ?_, by decide, by decide⟩
  have hstored := queryOpen_adds h
  exact absurd hstored (by decide)

end Ducknng
