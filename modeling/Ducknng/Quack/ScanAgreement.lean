import Ducknng.Quack.Agreement
import Ducknng.Lib.Drain

namespace Ducknng

open List ByteCodec Drain Step Uncharged

/-!
# The two scans of a payload agree

One scan starts over at every call, skips the rows in front of a global row offset and
returns the next chunk; the other one keeps a byte offset and the number of chunks that
remain. On a payload that passed the validation they return the same rows, and if one
of them fails, so does the other, at the same chunk and with the same message. If
neither fails, the rows are as many as the validation counted.

* `Quack.validateChunks_cases` — what the validation has seen of a chunk.
* `Quack.yields_of_passed` — the scan from the start, call by call.
* `Quack.scans_agree` — the agreement on whole payloads.
-/

theorem OutputChunk.rows_length (chunk : OutputChunk) : chunk.rows.length = chunk.size := by
  simp [OutputChunk.rows]

namespace Quack

/-! ### One chunk -/

variable {offset : Nat}

section
variable {schema : Schema} {vectorSize rows : Nat} {c c₁ c₂ c₃ c' : Cursor}

/-- A chunk that was skipped: its header, then its columns. -/
theorem skipDataChunk_cases (h : skipDataChunk schema c = .ok (rows, c')) :
    ∃ c₁ c₂, readExpectField 100 c = .ok ((), c₁) ∧ readUleb128 c₁ = .ok (rows, c₂) ∧
      skipColumns schema rows c₂ = .ok ((), c') := by
  obtain ⟨_, c₁, hfield, h₁⟩ := bind_eq_ok.1 h
  obtain ⟨n, c₂, hrows, h₂⟩ := bind_eq_ok.1 h₁
  obtain ⟨_, c₃, hcolumns, h₃⟩ := bind_eq_ok.1 h₂
  obtain ⟨rfl, rfl⟩ := pure_eq_ok.1 h₃
  exact ⟨c₁, c₂, hfield, hrows, hcolumns⟩

/-- A chunk of which no row is asked for is skipped. -/
theorem decodeDataChunkSlice_skip (hskip : skipDataChunk schema c = .ok (rows, c'))
    (hcap : rows ≤ vectorSize) (hoffset : rows ≤ offset) (output : OutputChunk) :
    decodeDataChunkSlice vectorSize output schema offset c = .ok ((rows, output), c') := by
  obtain ⟨c₁, c₂, hfield, hrows, hcolumns⟩ := skipDataChunk_cases hskip
  refine bind_eq_ok.2 ⟨(), c₁, hfield, bind_eq_ok.2 ⟨rows, c₂, hrows, ?_⟩⟩
  rw [if_neg (by omega), if_pos hoffset]
  exact bind_eq_ok.2 ⟨(), c', hcolumns, rfl⟩

/-- A chunk that is decoded whole. -/
theorem decodeDataChunkSlice_whole (hfield : readExpectField 100 c = .ok ((), c₁))
    (hrows : readUleb128 c₁ = .ok (rows, c₂)) (hcap : rows ≤ vectorSize) (hpos : 0 < rows)
    (output : OutputChunk) :
    decodeDataChunkSlice vectorSize output schema 0 c =
      (decodeColumns schema rows 0 rows c₂).map fun x => ((rows, x.1), x.2) := by
  have hcount : min (rows - 0) vectorSize = rows := by omega
  unfold decodeDataChunkSlice
  rw [bind_apply, hfield]
  show (readUleb128 >>= _) c₁ = _
  rw [bind_apply, hrows]
  show (if rows > vectorSize then _ else _ : QuackRead (Nat × OutputChunk)) c₂ = _
  rw [if_neg (by omega), if_neg (by omega)]
  simp only [hcount]
  have hbind : (do
      let chunk ← decodeColumns schema rows 0 rows
      pure (rows, chunk) : QuackRead (Nat × OutputChunk)) c₂ =
        (decodeColumns schema rows 0 rows c₂).map fun x => ((rows, x.1), x.2) := by
    rw [bind_apply]
    cases decodeColumns schema rows 0 rows c₂ <;> rfl
  split
  · exact hbind
  · exact hbind

/-- What a chunk that was decoded whole holds, and where it ends. -/
theorem decodeColumns_ok {copyCount : Nat} {chunk : OutputChunk}
    (hskip : skipColumns schema rows c = .ok ((), c'))
    (h : decodeColumns schema rows offset copyCount c = .ok (chunk, c₁)) :
    chunk.size = copyCount ∧ c₁ = c'.charged c₁.spent := by
  obtain ⟨_, htrack⟩ := tracks_decodeColumns schema rows offset copyCount c chunk c₁ c.spent h
  rw [Cursor.charged_self, hskip] at htrack
  injection htrack with hpair
  have hcursor : c' = c₁.charged c.spent := congrArg Prod.snd hpair
  refine ⟨?_, by rw [hcursor]; rfl⟩
  obtain ⟨_, d₁, _, h₁⟩ := bind_eq_ok.1 h
  obtain ⟨columns, d₂, _, h₂⟩ := bind_eq_ok.1 h₁
  obtain ⟨_, d₃, _, h₃⟩ := bind_eq_ok.1 h₂
  obtain ⟨rfl, _⟩ := pure_eq_ok.1 h₃
  rfl

end

/-! ### What the validation has seen -/

variable {c c' : Cursor}

/-- A sum of row counts that did not overflow. -/
theorem addRows_eq_ok {a b sum : Nat} (ha : a ≤ u64Max) :
    addRows a b c = .ok (sum, c') ↔ sum = a + b ∧ a + b ≤ u64Max ∧ c = c' := by
  unfold addRows
  cases hadd : u64Add a b with
  | none =>
    have hnone : ¬a + b ≤ u64Max := by
      intro hle
      have hsome := (u64Add_eq_some ha).2 ⟨rfl, hle⟩
      rw [hadd] at hsome
      cases hsome
    constructor
    · intro h
      cases h
    · intro h
      exact absurd h.2.1 hnone
  | some s =>
    obtain ⟨rfl, hmax⟩ := (u64Add_eq_some ha).1 hadd
    rw [pure_eq_ok]
    exact ⟨fun h => ⟨h.1.symm, hmax, h.2⟩, fun h => ⟨h.1.symm, h.2.2⟩⟩

/-- **What the validation has seen of a chunk.** -/
theorem validateChunks_cases {schema : Schema} {cap remaining rowCount total : Nat} (hcap : 0 < cap)
    (hcount : rowCount ≤ u64Max)
    (h : validateChunks schema cap (remaining + 1) rowCount c = .ok (total, c')) :
    ∃ c₁ c₂ c₃ c₄ rows, readPresence c = .ok (true, c₁) ∧ readExpectField 300 c₁ = .ok ((), c₂) ∧
      skipDataChunk schema c₂ = .ok (rows, c₃) ∧
      consumeChunkWrapperEnd (remaining > 0) c₃ = .ok ((), c₄) ∧ rows ≤ cap ∧
      rowCount + rows ≤ u64Max ∧
      validateChunks schema cap remaining (rowCount + rows) c₄ = .ok (total, c') := by
  obtain ⟨present, c₁, hpresent, h₁⟩ := bind_eq_ok.1 h
  cases present with
  | false => cases h₁
  | true =>
    obtain ⟨_, c₂, hwrapper, h₂⟩ := bind_eq_ok.1 h₁
    obtain ⟨rows, c₃, hskip, h₃⟩ := bind_eq_ok.1 h₂
    obtain ⟨_, c₄, hend, h₄⟩ := bind_eq_ok.1 h₃
    by_cases hrows : cap > 0 ∧ rows > cap
    · rw [if_pos hrows] at h₄
      cases h₄
    · rw [if_neg hrows] at h₄
      obtain ⟨sum, c₅, hsum, h₅⟩ := bind_eq_ok.1 h₄
      obtain ⟨rfl, hmax, rfl⟩ := (addRows_eq_ok hcount).1 hsum
      exact ⟨c₁, c₂, c₃, c₄, rows, hpresent, hwrapper, hskip, hend, by omega, hmax, h₅⟩

/-- A chunk that the validation accepted, with the cursors on the way: `c₂` before its
    header, `d` before its columns, `c₃` after them and `c₄` after its wrapper. -/
structure ChunkSeen (schema : Schema) (vectorSize remaining rows : Nat) (c c₂ d c₃ c₄ : Cursor) :
    Prop where
  wrapper : ∃ c₁, readPresence c = .ok (true, c₁) ∧ readExpectField 300 c₁ = .ok ((), c₂)
  header : ∃ d₁, readExpectField 100 c₂ = .ok ((), d₁) ∧ readUleb128 d₁ = .ok (rows, d)
  columns : skipColumns schema rows d = .ok ((), c₃)
  finish : consumeChunkWrapperEnd (remaining > 0) c₃ = .ok ((), c₄)
  cap : rows ≤ vectorSize

/-- The rest of a payload as the validation leaves it to the scans: `remaining` chunks from
    the cursor on, `seen` rows into a payload of `total` rows. -/
structure Passed (schema : Schema) (vectorSize : Nat) (payload : List UInt8)
    (remaining seen total : Nat) (c : Cursor) : Prop where
  here : c = readerAt payload c.off
  count : seen ≤ u64Max
  ended : ∃ c' c'', validateChunks schema vectorSize remaining seen c = .ok (total, c') ∧
    readExpectField fieldEnd c' = .ok ((), c'')

section
variable {schema : Schema} {vectorSize remaining rows seen total : Nat} {payload : List UInt8}
variable {c c₂ d c₃ c₄ : Cursor}

theorem ChunkSeen.skip (h : ChunkSeen schema vectorSize remaining rows c c₂ d c₃ c₄) :
    skipDataChunk schema c₂ = .ok (rows, c₃) := by
  obtain ⟨d₁, hfield, hrows⟩ := h.header
  exact bind_eq_ok.2 ⟨(), d₁, hfield, bind_eq_ok.2 ⟨rows, d, hrows,
    bind_eq_ok.2 ⟨(), c₃, h.columns, rfl⟩⟩⟩

/-- **The next chunk of a payload that passed.** -/
theorem Passed.next (hvector : 0 < vectorSize)
    (h : Passed schema vectorSize payload (remaining + 1) seen total c) :
    ∃ rows c₂ d c₃ c₄, ChunkSeen schema vectorSize remaining rows c c₂ d c₃ c₄ ∧
      seen + rows ≤ u64Max ∧ Passed schema vectorSize payload remaining (seen + rows) total c₄ := by
  obtain ⟨hhere, hcount, c', c'', hvalid, hend⟩ := h
  obtain ⟨c₁, c₂, c₃, c₄, rows, hpresent, hwrapper, hskip, hfinish, hcap, hmax, hrest⟩ :=
    validateChunks_cases hvector hcount hvalid
  obtain ⟨d₁, d, hfield, hrows, hcolumns⟩ := skipDataChunk_cases hskip
  refine ⟨rows, c₂, d, c₃, c₄, ⟨⟨c₁, hpresent, hwrapper⟩, ⟨d₁, hfield, hrows⟩, hcolumns, hfinish,
    hcap⟩, hmax, ?_, hmax, c', c'', hrest, hend⟩
  -- Nothing on the way is charged for.
  have h₁ := stop hpresent
  have h₂ := stop hwrapper
  have h₃ := stop hskip
  have h₄ := stop hfinish
  rw [h₄, h₃, h₂, h₁, hhere]
  rfl

/-- After the last chunk the payload ends. -/
theorem Passed.last (h : Passed schema vectorSize payload 0 seen total c) :
    total = seen ∧ ∃ c', readExpectField fieldEnd c = .ok ((), c') := by
  obtain ⟨_, _, c', c'', hvalid, hend⟩ := h
  obtain ⟨rfl, rfl⟩ := pure_eq_ok.1 hvalid
  exact ⟨rfl, c'', hend⟩

/-- Decoding a chunk from its first row: refused, or all its rows, up to where skipping it
    ends. An empty chunk leaves the output as it was. -/
theorem ChunkSeen.decode (h : ChunkSeen schema vectorSize remaining rows c c₂ d c₃ c₄) :
    (0 < rows ∧ ∃ e, decodeDataChunkSlice vectorSize .reset schema 0 c₂ = .error e) ∨
    ∃ chunk s, decodeDataChunkSlice vectorSize .reset schema 0 c₂ =
      .ok ((rows, chunk), c₃.charged s) ∧ chunk.size = rows := by
  by_cases hpos : 0 < rows
  · obtain ⟨d₁, hfield, hrows⟩ := h.header
    rw [decodeDataChunkSlice_whole hfield hrows h.cap hpos]
    cases hdecode : decodeColumns schema rows 0 rows d with
    | error e => exact .inl ⟨hpos, e, rfl⟩
    | ok x =>
      obtain ⟨chunk, c'⟩ := x
      obtain ⟨hsize, hcursor⟩ := decodeColumns_ok h.columns hdecode
      refine .inr ⟨chunk, c'.spent, ?_, hsize⟩
      rw [← hcursor]
      rfl
  · have hzero : rows = 0 := by omega
    refine .inr ⟨.reset, c₃.spent, ?_, by rw [hzero]; rfl⟩
    exact decodeDataChunkSlice_skip h.skip h.cap (by omega) _

end

/-! ### The scan that keeps its place -/

/-- Repeated `ducknng_quack_payload_scan_next` until no chunk remains or a chunk is refused:
    the outputs, and the error if there was one. -/
def scanRows (vectorSize : Nat) (payload : List UInt8) (schema : Schema) :
    Nat → Nat → List OutputChunk × Option Err
  | 0, _ => ([], none)
  | remaining + 1, offset =>
    match payloadScanNext vectorSize .reset payload schema offset (remaining + 1) with
    | .error e => ([], some e)
    | .ok (chunk, offset, _) =>
      let rest := scanRows vectorSize payload schema remaining offset
      (chunk :: rest.1, rest.2)

/-- A flag that was read lies in the payload. -/
theorem off_lt_of_readPresence {b : Bool} (h : readPresence c = .ok (b, c')) :
    c.off < c.data.length := by
  obtain ⟨_, _, hread, _⟩ := bind_eq_ok.1 (readerResult_eq_ok.1 h)
  obtain ⟨_, _, hneed, _⟩ := bind_eq_ok.1 hread
  have hroom := (Qk.readerNeed_eq_ok.1 hneed).1
  omega

section
variable {schema : Schema} {vectorSize remaining rows seen total : Nat} {payload : List UInt8}
variable {c c₂ d c₃ c₄ : Cursor}

/-- The rest of a chunk of the scan, after the slice has been taken. -/
def scanRest (remaining : Nat) (slice : Nat × OutputChunk) : QuackRead OutputChunk := do
  consumeChunkWrapperEnd (remaining + 1 > 1)
  if remaining + 1 = 1 then do
    readExpectField fieldEnd
    pure slice.2
  else pure slice.2

/-- What one call of `scan_next` does to a chunk. -/
theorem payloadScanNext_chunk (hhere : c = readerAt payload c.off)
    (h : ChunkSeen schema vectorSize remaining rows c c₂ d c₃ c₄)
    (hlast : remaining = 0 → ∃ c₅, readExpectField fieldEnd c₄ = .ok ((), c₅)) :
    ∃ next, (remaining ≠ 0 → next = c₄.off) ∧
      payloadScanNext vectorSize .reset payload schema c.off (remaining + 1) =
        (decodeDataChunkSlice vectorSize .reset schema 0 c₂).map
          fun x => (x.1.2, next, remaining) := by
  obtain ⟨c₁, hpresent, hwrapper⟩ := h.wrapper
  have hoff := off_lt_of_readPresence hpresent
  have hdata : c.data = payload := by rw [hhere]; rfl
  rw [hdata] at hoff
  -- presence and wrapper are those that the validation has seen
  have hstart : scanChunk vectorSize .reset schema (remaining + 1) c =
      (decodeDataChunkSlice vectorSize .reset schema 0 >>= scanRest remaining) c₂ := by
    unfold scanChunk
    rw [bind_apply, hpresent]
    show (readExpectField 300 >>= _) c₁ = _
    rw [bind_apply, hwrapper]
    rfl
  unfold payloadScanNext
  rw [if_neg (by omega), if_neg (by omega), if_neg (by omega), ← hhere, hstart, bind_apply]
  rcases h.decode with ⟨_, e, hdecode⟩ | ⟨chunk, s, hdecode, _⟩
  · rw [hdecode]
    exact ⟨c₄.off, fun _ => rfl, rfl⟩
  · rw [hdecode]
    have hmore : decide (remaining + 1 > 1) = decide (remaining > 0) := by
      apply decide_eq_decide.2
      omega
    have hfinish : consumeChunkWrapperEnd (remaining + 1 > 1) (c₃.charged s) =
        .ok ((), c₄.charged s) := by
      rw [hmore]
      exact run s h.finish
    -- the last chunk is read with the end of the payload
    by_cases hzero : remaining = 0
    · obtain ⟨c₅, hend⟩ := hlast hzero
      have hrun : scanRest remaining (rows, chunk) (c₃.charged s) = .ok (chunk, c₅.charged s) := by
        refine bind_eq_ok.2 ⟨(), _, hfinish, ?_⟩
        rw [if_pos (by omega)]
        exact bind_eq_ok.2 ⟨(), _, run s hend, rfl⟩
      refine ⟨c₅.off, fun h => absurd hzero h, ?_⟩
      simp only [Except.bind, hrun]
      rfl
    · have hrun : scanRest remaining (rows, chunk) (c₃.charged s) = .ok (chunk, c₄.charged s) := by
        refine bind_eq_ok.2 ⟨(), _, hfinish, ?_⟩
        rw [if_neg (by omega)]
        rfl
      refine ⟨c₄.off, fun _ => rfl, ?_⟩
      simp only [Except.bind, hrun]
      rfl

/-! ### The scan that starts over -/

/-- The rest of a round of the scan from the start, after the slice has been taken. -/
def rescanRest (vectorSize : Nat) (schema : Schema) (globalOffset remaining seenRows : Nat)
    (slice : Nat × OutputChunk) : QuackRead (OutputChunk × Nat) := do
  consumeChunkWrapperEnd (remaining > 0)
  let nextSeen ← addRows seenRows slice.1
  if globalOffset < nextSeen then
    match u64Add globalOffset slice.2.size with
    | none => fail "ducknng: quack scan offset overflows supported size"
    | some nextOffset => pure (slice.2, nextOffset)
  else do
    tick
    rescanChunks vectorSize schema globalOffset remaining nextSeen slice.2

section
variable (h : ChunkSeen schema vectorSize remaining rows c c₂ d c₃ c₄)
include h

/-- A round of the scan from the start: the wrapper, the slice, the rest. -/
theorem rescanChunks_chunk (hoffset : seen ≤ offset) (output : OutputChunk) :
    rescanChunks vectorSize schema offset (remaining + 1) seen output c =
      (decodeDataChunkSlice vectorSize output schema (offset - seen) c₂).bind
        fun x => rescanRest vectorSize schema offset remaining seen x.1 x.2 := by
  obtain ⟨c₁, hpresent, hwrapper⟩ := h.wrapper
  rw [rescanChunks, bind_apply, hpresent]
  show (readExpectField 300 >>= _) c₁ = _
  rw [bind_apply, hwrapper]
  show (decodeDataChunkSlice vectorSize output schema
    (if offset ≥ seen then offset - seen else 0) >>= _) c₂ = _
  rw [if_pos hoffset]
  rfl

/-- A chunk whose rows have all been returned before is passed over. -/
theorem rescanChunks_skip
    (hseen : seen ≤ u64Max) (hsum : seen + rows ≤ u64Max) (hoffset : seen + rows ≤ offset)
    (output : OutputChunk) :
    rescanChunks vectorSize schema offset (remaining + 1) seen output c =
      rescanChunks vectorSize schema offset remaining (seen + rows) output c₄ := by
  have hslice := decodeDataChunkSlice_skip h.skip h.cap (by omega : rows ≤ offset - seen) output
  have hadd : addRows seen rows c₄ = .ok (seen + rows, c₄) :=
    (addRows_eq_ok hseen).2 ⟨rfl, hsum, rfl⟩
  rw [rescanChunks_chunk h (by omega), hslice]
  show rescanRest vectorSize schema offset remaining seen (rows, output) c₃ = _
  unfold rescanRest
  rw [bind_apply, h.finish]
  show (addRows seen rows >>= _) c₄ = _
  rw [bind_apply, hadd]
  show (if offset < seen + rows then _ else _ : QuackRead (OutputChunk × Nat)) c₄ = _
  rw [if_neg (by omega)]
  rfl

/-- The chunk at the global offset is returned. -/
theorem rescanChunks_return (hseen : seen ≤ u64Max) (hsum : seen + rows ≤ u64Max) (hpos : 0 < rows)
    {chunk : OutputChunk} {s : Nat} (hsize : chunk.size = rows)
    (hdecode : decodeDataChunkSlice vectorSize .reset schema 0 c₂ =
      .ok ((rows, chunk), c₃.charged s)) :
    rescanChunks vectorSize schema seen (remaining + 1) seen .reset c =
      .ok ((chunk, seen + rows), c₄.charged s) := by
  have hadd : addRows seen rows (c₄.charged s) = .ok (seen + rows, c₄.charged s) :=
    (addRows_eq_ok hseen).2 ⟨rfl, hsum, rfl⟩
  have hnext : u64Add seen chunk.size = some (seen + rows) :=
    (u64Add_eq_some hseen).2 ⟨by rw [hsize], hsum⟩
  rw [rescanChunks_chunk h (Nat.le_refl seen), Nat.sub_self, hdecode]
  show rescanRest vectorSize schema seen remaining seen (rows, chunk) (c₃.charged s) = _
  unfold rescanRest
  rw [bind_apply, run s h.finish]
  show (addRows seen rows >>= _) (c₄.charged s) = _
  rw [bind_apply, hadd]
  show (if seen < seen + rows then _ else _ : QuackRead (OutputChunk × Nat)) (c₄.charged s) = _
  rw [if_pos (by omega)]
  simp only [hnext]
  rfl

end

/-! ### The scans call by call -/

/-- The rest of the scan does not depend on where the last call stopped. -/
theorem scanRows_next {next : Nat} (h : remaining ≠ 0 → next = c₄.off) :
    scanRows vectorSize payload schema remaining next =
      scanRows vectorSize payload schema remaining c₄.off := by
  cases remaining with
  | zero => rfl
  | succ n => rw [h (Nat.succ_ne_zero n)]

/-- **The scan from the start, call by call**: from the row offset `seen` on it yields the
    rows of the scan that keeps its place, and it ends like that one. -/
theorem yields_of_passed (hvector : 0 < vectorSize)
    (h : Passed schema vectorSize payload remaining seen total c)
    (hscan : ∀ offset, seen ≤ offset → payloadScan vectorSize .reset payload schema offset =
      (rescanChunks vectorSize schema offset remaining seen .reset c).map Prod.fst) :
    ∃ outs, Yields (payloadScan vectorSize .reset payload schema) OutputChunk.size seen outs
        (scanRows vectorSize payload schema remaining c.off).2 ∧
      outs.flatMap OutputChunk.rows =
        (scanRows vectorSize payload schema remaining c.off).1.flatMap OutputChunk.rows ∧
      ((scanRows vectorSize payload schema remaining c.off).2 = none →
        seen + (outs.flatMap OutputChunk.rows).length = total) := by
  induction remaining generalizing seen c with
  | zero =>
    obtain ⟨rfl, c', hend⟩ := h.last
    have hcall : payloadScan vectorSize .reset payload schema total = .ok (.reset, total) := by
      rw [hscan total (Nat.le_refl total), rescanChunks, bind_apply, hend]
      rfl
    exact ⟨[], .done hcall rfl, rfl, fun _ => rfl⟩
  | succ remaining ih =>
    obtain ⟨rows, c₂, d, c₃, c₄, hchunk, hsum, hrest⟩ := h.next hvector
    have hlast : remaining = 0 → ∃ c₅, readExpectField fieldEnd c₄ = .ok ((), c₅) := by
      intro hzero
      subst hzero
      exact hrest.last.2
    obtain ⟨next, hnext, hcall⟩ := payloadScanNext_chunk h.here hchunk hlast
    rcases hchunk.decode with ⟨hpos, e, hdecode⟩ | ⟨chunk, s, hdecode, hsize⟩
    · -- the chunk is refused: both scans stop in front of it
      have hrows : scanRows vectorSize payload schema (remaining + 1) c.off = ([], some e) := by
        rw [scanRows, hcall, hdecode]
        rfl
      have hfail : payloadScan vectorSize .reset payload schema seen = .error e := by
        rw [hscan seen (Nat.le_refl seen), rescanChunks_chunk hchunk (Nat.le_refl seen),
          Nat.sub_self, hdecode]
        rfl
      rw [hrows]
      exact ⟨[], .failed hfail, rfl, fun hnone => by cases hnone⟩
    · have hrows : scanRows vectorSize payload schema (remaining + 1) c.off =
          (chunk :: (scanRows vectorSize payload schema remaining c₄.off).1,
            (scanRows vectorSize payload schema remaining c₄.off).2) := by
        rw [scanRows, hcall, hdecode]
        show (chunk :: (scanRows vectorSize payload schema remaining next).1, _) = _
        rw [scanRows_next hnext]
      have hlater : ∀ offset, seen + rows ≤ offset →
          payloadScan vectorSize .reset payload schema offset =
            (rescanChunks vectorSize schema offset remaining (seen + rows) .reset c₄).map
              Prod.fst := by
        intro offset hoffset
        rw [hscan offset (by omega), rescanChunks_skip hchunk h.count hsum hoffset]
      obtain ⟨outs, hyields, hflat, hlength⟩ := ih hrest hlater
      rw [hrows]
      by_cases hpos : 0 < rows
      · have hreturn : payloadScan vectorSize .reset payload schema seen =
            .ok (chunk, seen + rows) := by
          rw [hscan seen (Nat.le_refl seen),
            rescanChunks_return hchunk h.count hsum hpos hsize hdecode]
          rfl
        refine ⟨chunk :: outs, .more hreturn (by omega) hyields, ?_, ?_⟩
        · rw [flatMap_cons, flatMap_cons, hflat]
        · intro hnone
          rw [flatMap_cons, length_append, chunk.rows_length, hsize, ← Nat.add_assoc]
          exact hlength hnone
      · -- an empty chunk is passed over in the same call
        have hzero : rows = 0 := by omega
        subst hzero
        have hempty : chunk.rows = [] := length_eq_zero_iff.1 (chunk.rows_length.trans hsize)
        refine ⟨outs, hyields, ?_, hlength⟩
        rw [flatMap_cons, hempty, nil_append, hflat]

end

/-! ### Whole payloads -/

section
variable {schema : Schema} {vectorSize : Nat} {c c' : Cursor}

variable {field : Nat}

/-- Looking does not move the reader. -/
theorem peekU16le_stays (h : peekU16le c = .ok (field, c')) : c' = c := by
  obtain ⟨_, c₂, hneed, h₁⟩ := bind_eq_ok.1 (readerResult_eq_ok.1 h)
  obtain ⟨_, rfl⟩ := Qk.readerNeed_eq_ok.1 hneed
  obtain ⟨_, c₃, hpeek, h₂⟩ := bind_eq_ok.1 h₁
  obtain ⟨_, rfl⟩ := pure_eq_ok.1 h₂
  cases hpeek
  rfl

/-- A field that can be read can be looked at. -/
theorem peekU16le_of_readU16le (h : readU16le c = .ok (field, c')) :
    peekU16le c = .ok (field, c) := by
  obtain ⟨value, c₁, hpeek, h₁⟩ := bind_eq_ok.1 (readerResult_eq_ok.1 h)
  obtain ⟨_, _, _, h₂⟩ := bind_eq_ok.1 h₁
  obtain ⟨rfl, _⟩ := pure_eq_ok.1 h₂
  have hlook : peekU16le c = .ok (value, c₁) := readerResult_eq_ok.2 hpeek
  rw [peekU16le_stays hlook] at hlook
  exact hlook

theorem peekU16le_of_readExpectField (h : readExpectField field c = .ok ((), c')) :
    peekU16le c = .ok (field, c) := by
  obtain ⟨read, c₁, hread, h₁⟩ := bind_eq_ok.1 h
  by_cases hfield : read ≠ field
  · rw [if_pos hfield] at h₁
    cases h₁
  · push Not at hfield
    subst hfield
    exact peekU16le_of_readU16le hread

/-- Names that are read can be skipped. -/
theorem skipStrings_of_read {n : Nat} {names : List CStr}
    (h : repeatRead readStringDup n c = .ok (names, c')) :
    ∃ skipped, repeatRead skipString n c = .ok (skipped, c') := by
  induction n generalizing c names with
  | zero =>
    cases h
    exact ⟨[], rfl⟩
  | succ n ih =>
    obtain ⟨name, c₁, hname, h₁⟩ := bind_eq_ok.1 h
    obtain ⟨_, _, htick, h₂⟩ := bind_eq_ok.1 h₁
    cases htick
    obtain ⟨rest, c₂, hrest, h₃⟩ := bind_eq_ok.1 h₂
    cases h₃
    obtain ⟨skipped, hskipped⟩ := ih hrest
    obtain ⟨data, c₃, hdata, h₄⟩ := bind_eq_ok.1 hname
    split at h₄
    · cases h₄
    cases h₄
    refine ⟨() :: skipped, bind_eq_ok.2 ⟨(), c₁, bind_eq_ok.2 ⟨data, c₁, hdata, rfl⟩, ?_⟩⟩
    exact bind_eq_ok.2 ⟨(), c₁, rfl, bind_eq_ok.2 ⟨skipped, _, hskipped, rfl⟩⟩

instance : Uncharged readerParseSchema := by
  unfold readerParseSchema
  infer_instance

/-- A schema that was parsed is skipped by the scans. -/
theorem skipSchema_of_parse (h : readerParseSchema c = .ok (schema, c')) :
    skipSchema schema.length c = .ok ((), c') := by
  obtain ⟨_, c₁, hfield, h₁⟩ := bind_eq_ok.1 h
  obtain ⟨ncols, c₂, hncols, h₂⟩ := bind_eq_ok.1 h₁
  split at h₂
  · cases h₂
  obtain ⟨types, c₃, htypes, h₃⟩ := bind_eq_ok.1 h₂
  obtain ⟨_, c₄, hfield₂, h₄⟩ := bind_eq_ok.1 h₃
  obtain ⟨nnames, c₅, hnnames, h₅⟩ := bind_eq_ok.1 h₄
  split at h₅
  · cases h₅
  next hcount =>
  push Not at hcount
  subst hcount
  obtain ⟨names, c₆, hnames, h₆⟩ := bind_eq_ok.1 h₅
  obtain ⟨rfl, rfl⟩ := pure_eq_ok.1 h₆
  have hlength : (names.zipWith Column.mk types).length = nnames := by
    have htypes' := (Returns.any _).repeatRead nnames _ _ _ htypes
    have hnames' := (Returns.any _).repeatRead nnames _ _ _ hnames
    rw [length_zipWith, hnames'.1, htypes'.1, Nat.min_self]
  obtain ⟨skipped, hskipped⟩ := skipStrings_of_read hnames
  rw [hlength]
  refine bind_eq_ok.2 ⟨1, c, peekU16le_of_readExpectField hfield, ?_⟩
  refine bind_eq_ok.2 ⟨(), c₁, hfield, bind_eq_ok.2 ⟨nnames, c₂, hncols, ?_⟩⟩
  rw [if_neg (not_not.2 rfl)]
  refine bind_eq_ok.2 ⟨types, c₃, htypes, bind_eq_ok.2 ⟨(), c₄, hfield₂, ?_⟩⟩
  refine bind_eq_ok.2 ⟨nnames, c₅, hnnames, ?_⟩
  rw [if_neg (not_not.2 rfl)]
  exact bind_eq_ok.2 ⟨skipped, c₆, hskipped, rfl⟩

theorem payloadScanBegin_eq {payload : List UInt8} {n : Nat} (hnonempty : payload.length ≠ 0)
    (hskip : skipSchema schema.length (readerAt payload 0) = .ok ((), c))
    (hheader : readResultsHeader c = .ok (n, c')) :
    payloadScanBegin payload schema = .ok (c'.off, n) := by
  have hrun : (do skipSchema schema.length; readResultsHeader : QuackRead Nat)
      (readerAt payload 0) = .ok (n, c') := bind_eq_ok.2 ⟨(), c, hskip, hheader⟩
  unfold payloadScanBegin
  rw [if_neg hnonempty, hrun]

/-- What the scans find behind a schema, once the validation has accepted the results:
    no results, or so many chunks that passed. -/
theorem readerValidateResults_cases {payload : List UInt8} {r r' : Cursor} {rowCount : Nat}
    (hhere : r = readerAt payload r.off)
    (h : readerValidateResults schema vectorSize r = .ok (rowCount, r')) :
    (∃ field, peekU16le r = .ok (field, r) ∧ field ≠ 4 ∧ rowCount = 0) ∨
    ∃ c₁ c₂ n, peekU16le r = .ok (4, r) ∧ readU16le r = .ok (4, c₁) ∧ readUleb128 c₁ = .ok (n, c₂) ∧
      Passed schema vectorSize payload n 0 rowCount c₂ := by
  obtain ⟨field, d₁, hpeek, h₁⟩ := bind_eq_ok.1 h
  obtain ⟨count, d₂, hsection, h₂⟩ := bind_eq_ok.1 h₁
  obtain ⟨_, d₃, hend, h₃⟩ := bind_eq_ok.1 h₂
  obtain ⟨rfl, rfl⟩ := pure_eq_ok.1 h₃
  obtain ⟨_, d₄, hterminator, _⟩ := bind_eq_ok.1 hend
  have hstay : d₁ = r := peekU16le_stays hpeek
  subst hstay
  by_cases hfield : field = 4
  · subst hfield
    right
    unfold validateResultsSection at hsection
    obtain ⟨read, c₁, hread, h₄⟩ := bind_eq_ok.1 hsection
    obtain ⟨n, c₂, hn, hchunks⟩ := bind_eq_ok.1 h₄
    have hsame := (peekU16le_of_readU16le hread).symm.trans hpeek
    cases hsame
    refine ⟨c₁, c₂, n, hpeek, hread, hn, ?_, Nat.zero_le _, d₂, d₄, hchunks, hterminator⟩
    have h₁ := stop hread
    have h₂ := stop hn
    rw [h₂, h₁, hhere]
    rfl
  · left
    unfold validateResultsSection at hsection
    rw [if_neg hfield] at hsection
    obtain ⟨rfl, _⟩ := pure_eq_ok.1 hsection
    exact ⟨field, hpeek, hfield, rfl⟩

end

section
variable {payload : List UInt8} {schema : Schema} {r r' : Cursor} {rowCount : Nat}

/-- A schema does not come from nothing. -/
theorem length_ne_zero_of_parse (h : readerParseSchema (readerAt payload 0) = .ok (schema, r)) :
    payload.length ≠ 0 := by
  intro hzero
  cases length_eq_zero_iff.1 hzero
  cases h

/-- The count passes every chunk that the validation has passed. -/
theorem countChunks_of_validate {cap : Nat} (hcap : 0 < cap) {remaining seen : Nat}
    (hseen : seen ≤ u64Max) (h : validateChunks schema cap remaining seen r = .ok (rowCount, r')) :
    countChunks schema remaining seen r = .ok (rowCount, r') := by
  induction remaining generalizing seen r with
  | zero => exact h
  | succ remaining ih =>
    obtain ⟨c₁, c₂, c₃, c₄, rows, hpresent, hwrapper, hskip, hend, -, hsum, hrest⟩ :=
      validateChunks_cases hcap hseen h
    refine bind_eq_ok.2 ⟨true, c₁, hpresent, bind_eq_ok.2 ⟨(), c₂, hwrapper, ?_⟩⟩
    refine bind_eq_ok.2 ⟨rows, c₃, hskip, bind_eq_ok.2 ⟨(), c₄, hend, ?_⟩⟩
    exact bind_eq_ok.2 ⟨_, c₄, (addRows_eq_ok hseen).2 ⟨rfl, hsum, rfl⟩, ih hsum hrest⟩

/-- **The row count is the one of the bind**, where the validation accepts the results. -/
theorem payloadReadRowCount_eq {cap : Nat} (hcap : 0 < cap)
    (hparse : readerParseSchema (readerAt payload 0) = .ok (schema, r))
    (hvalid : readerValidateResults schema cap r = .ok (rowCount, r')) :
    payloadReadRowCount payload schema = .ok rowCount := by
  obtain ⟨field, c₁, hpeek, h₁⟩ := bind_eq_ok.1 hvalid
  obtain ⟨count, c₂, hsection, h₂⟩ := bind_eq_ok.1 h₁
  obtain ⟨_, c₃, hend, h₃⟩ := bind_eq_ok.1 h₂
  obtain ⟨rfl, rfl⟩ := pure_eq_ok.1 h₃
  have hread : ∃ c, readRowCount schema (readerAt payload 0) = .ok (count, c) := by
    unfold validateResultsSection at hsection
    by_cases hfield : field = 4
    · rw [if_pos hfield] at hsection
      obtain ⟨_, d₁, hfour, h₄⟩ := bind_eq_ok.1 hsection
      obtain ⟨n, d₂, hn, hchunks⟩ := bind_eq_ok.1 h₄
      have hcount := countChunks_of_validate hcap (Nat.zero_le _) hchunks
      refine ⟨c₃, bind_eq_ok.2 ⟨(), r, skipSchema_of_parse hparse,
        bind_eq_ok.2 ⟨field, c₁, hpeek, ?_⟩⟩⟩
      rw [if_neg (not_not.2 hfield)]
      refine bind_eq_ok.2 ⟨_, d₁, hfour, bind_eq_ok.2 ⟨n, d₂, hn, ?_⟩⟩
      exact bind_eq_ok.2 ⟨count, c₂, hcount, bind_eq_ok.2 ⟨(), c₃, hend, rfl⟩⟩
    · -- nothing is read behind a payload without results
      rw [if_neg hfield] at hsection
      refine ⟨c₂, bind_eq_ok.2 ⟨(), r, skipSchema_of_parse hparse,
        bind_eq_ok.2 ⟨field, c₁, hpeek, ?_⟩⟩⟩
      rwa [if_pos hfield]
  obtain ⟨c, hread⟩ := hread
  rw [payloadReadRowCount, if_neg (length_ne_zero_of_parse hparse), hread]
  rfl

end

/-- **The two scans agree.** On a payload whose schema parses and whose results the validation
    accepts with no chunk larger than a vector, the scan that starts over yields the rows of
    the scan that keeps its place and ends as that one does, with the same refusal if a chunk
    cannot be decoded. If no chunk is refused, the rows are as many as the validation
    counted. -/
theorem scans_agree {vectorSize : Nat} (hvector : 0 < vectorSize) {payload : List UInt8}
    {schema : Schema} {rowCount : Nat} {r r' : Cursor}
    (hparse : readerParseSchema (readerAt payload 0) = .ok (schema, r))
    (hvalid : readerValidateResults schema vectorSize r = .ok (rowCount, r')) :
    ∃ offset remaining outs, payloadScanBegin payload schema = .ok (offset, remaining) ∧
      Yields (payloadScan vectorSize .reset payload schema) OutputChunk.size 0 outs
        (scanRows vectorSize payload schema remaining offset).2 ∧
      outs.flatMap OutputChunk.rows =
        (scanRows vectorSize payload schema remaining offset).1.flatMap OutputChunk.rows ∧
      ((scanRows vectorSize payload schema remaining offset).2 = none →
        (outs.flatMap OutputChunk.rows).length = rowCount) := by
  have hskip := skipSchema_of_parse hparse
  have hhere : r = readerAt payload r.off := stop hparse
  have hnonempty := length_ne_zero_of_parse hparse
  rcases readerValidateResults_cases hhere hvalid with
    ⟨field, hpeek, hfield, rfl⟩ | ⟨c₁, c₂, n, hpeek, hread, hn, hpassed⟩
  -- without results both scans end at once
  · have hheader : readResultsHeader r = .ok (0, r) := by
      refine bind_eq_ok.2 ⟨field, r, hpeek, ?_⟩
      rw [if_pos hfield]
      rfl
    have hbegin : payloadScanBegin payload schema = .ok (r.off, 0) :=
      payloadScanBegin_eq hnonempty hskip hheader
    have hscan : payloadScan vectorSize .reset payload schema 0 = .ok (.reset, 0) := by
      unfold payloadScan rescan
      rw [if_neg hnonempty, bind_apply, hskip]
      show ((peekU16le >>= _) r).map Prod.fst = _
      rw [bind_apply, hpeek]
      show ((if field ≠ 4 then _ else _ : QuackRead (OutputChunk × Nat)) r).map Prod.fst = _
      rw [if_pos hfield]
      rfl
    exact ⟨r.off, 0, [], hbegin, .done hscan rfl, rfl, fun _ => rfl⟩
  · have hheader : readResultsHeader r = .ok (n, c₂) := by
      refine bind_eq_ok.2 ⟨4, r, hpeek, ?_⟩
      exact bind_eq_ok.2 ⟨4, c₁, hread, hn⟩
    have hbegin : payloadScanBegin payload schema = .ok (c₂.off, n) :=
      payloadScanBegin_eq hnonempty hskip hheader
    -- a scan that starts over comes to the chunks by the same reads
    have hscan : ∀ offset, 0 ≤ offset → payloadScan vectorSize .reset payload schema offset =
        (rescanChunks vectorSize schema offset n 0 .reset c₂).map Prod.fst := by
      intro offset _
      unfold payloadScan rescan
      rw [if_neg hnonempty, bind_apply, hskip]
      show ((peekU16le >>= _) r).map Prod.fst = _
      rw [bind_apply, hpeek]
      show ((readU16le >>= _) r).map Prod.fst = _
      rw [bind_apply, hread]
      show ((readUleb128 >>= _) c₁).map Prod.fst = _
      rw [bind_apply, hn]
      rfl
    obtain ⟨outs, hyields, hrows, hlength⟩ := yields_of_passed hvector hpassed hscan
    refine ⟨c₂.off, n, outs, hbegin, hyields, hrows, ?_⟩
    intro hnone
    have hcount := hlength hnone
    rwa [Nat.zero_add] at hcount

/-- One `TINYINT` column without a name, an empty chunk and a chunk of one row. -/
def emptyChunkPayload : List UInt8 :=
  [1, 0, 1, 100, 0, 11, 255, 255, 2, 0, 1, 0, 4, 0, 2,
    1, 44, 1, 100, 0, 0, 102, 0, 1, 100, 0, 0, 102, 0, 0, 255, 255, 255, 255, 255, 255,
    1, 44, 1, 100, 0, 1, 102, 0, 1, 100, 0, 0, 102, 0, 1, 7, 255, 255, 255, 255, 255, 255,
    255, 255]

/-- The row behind an empty chunk is returned. -/
theorem scans_agree_empty_chunk :
    ∃ outs, Yields (payloadScan 2048 .reset emptyChunkPayload [⟨.empty, nodeNew 11⟩])
        OutputChunk.size 0 outs none ∧
      outs.flatMap OutputChunk.rows = [[.fixed [7]]] := by
  obtain ⟨offset, remaining, outs, hbegin, hyields, hrows, _⟩ :=
    @scans_agree 2048 (by decide) emptyChunkPayload [⟨.empty, nodeNew 11⟩] 1 ⟨_, 12, 0⟩ ⟨_, 60, 0⟩
      rfl rfl
  cases hbegin
  exact ⟨outs, hyields, hrows⟩

/-- One `TINYINT` column and a chunk of one row, encoded as a sequence from 200. -/
def sequencePayload : List UInt8 :=
  [1, 0, 1, 100, 0, 11, 255, 255, 2, 0, 1, 0, 4, 0, 1,
    1, 44, 1, 100, 0, 1, 102, 0, 1, 90, 0, 4, 91, 0, 200, 1, 92, 0, 0, 255, 255, 255, 255,
    255, 255, 255, 255]

/-- The validation counts the row of a sequence that leaves the range of its type; both scans
    refuse it. -/
theorem scans_refuse_sequence :
    ∃ schema r r', readerParseSchema (readerAt sequencePayload 0) = .ok (schema, r) ∧
      readerValidateResults schema 2048 r = .ok (1, r') ∧
      (∀ outs ending, Yields (payloadScan 2048 .reset sequencePayload schema) OutputChunk.size 0
        outs ending → (outs.flatMap OutputChunk.rows).length ≠ 1) ∧
      ∃ offset remaining, payloadScanBegin sequencePayload schema = .ok (offset, remaining) ∧
        (scanRows 2048 sequencePayload schema remaining offset).1 = [] := by
  refine ⟨[⟨.empty, nodeNew 11⟩], ⟨_, 12, 0⟩, ⟨_, 42, 0⟩, rfl, rfl, ?_, 15, 1, rfl, rfl⟩
  intro outs ending hyields
  have hfail : ∃ e, payloadScan 2048 .reset sequencePayload [⟨.empty, nodeNew 11⟩] 0 =
      .error e := ⟨_, rfl⟩
  obtain ⟨e, hfail⟩ := hfail
  obtain ⟨rfl, _⟩ := hyields.unique (.failed hfail)
  exact Nat.zero_ne_one

end Quack

end Ducknng
