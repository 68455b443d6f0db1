import Ducknng.Quack.ScanAgreement
import Ducknng.Quack.PayloadRoundTrip

namespace Ducknng

open List Drain

/-!
# Scanning the batches of a remote query

`ducknng_query_rpc_scan` fills one output a call from the batches of the fetch replies. DuckDB
takes an output of size 0 for the end of the scan, and the scan has such outputs for empty
arrays and empty chunks as well.

* `ArrowScan.left`, `QuackScan.left` — the pieces that are still to be emitted.
* `arrowScan_complete_iff`, `quackScan_complete_iff` — when every row is emitted.
-/

/-- A fetch reply: what it carries, and whether it ends the stream. -/
structure BatchReply (β : Type) where
  batch : β
  endOfStream : Bool

/-- Replies of which the last one ends the stream, and no other. -/
def EndsStream {β : Type} : BatchReply β → List (BatchReply β) → Prop
  | reply, [] => reply.endOfStream = true
  | reply, next :: rest => reply.endOfStream = false ∧ EndsStream next rest

/-! ### Arrow batches -/

section
variable {ρ : Type}

/-- The arrays of a reply by their rows. A last reply in JSON has no arrays. -/
abbrev ArrowReply (ρ : Type) := BatchReply (List (List ρ))

/-- The `row_count` of a reply. -/
def BatchReply.rowCount (reply : ArrowReply ρ) : Nat := reply.batch.flatten.length

/-- The scan over Arrow batches, with what the server will answer. -/
structure ArrowScan (ρ : Type) where
  reply : ArrowReply ρ
  pending : List (ArrowReply ρ)
  offset : Nat := 0
  arrayIndex : Nat := 0

open ArrowScan

/-- The loop that fetches while the batch has no rows left: whether there are any. -/
def nextArrowBatch (pending : List (ArrowReply ρ)) (reply : ArrowReply ρ)
    (offset arrayIndex : Nat) : Except String (Bool × ArrowScan ρ) :=
  if offset < reply.rowCount then .ok (true, ⟨reply, pending, offset, arrayIndex⟩)
  else if reply.endOfStream then .ok (false, ⟨reply, pending, offset, arrayIndex⟩)
  else match pending with
    | [] => .error "ducknng: failed to fetch the next query batch"
    | next :: rest =>
      if next.rowCount = 0 ∧ next.endOfStream then .ok (false, ⟨next, rest, 0, 0⟩)
      else nextArrowBatch rest next 0 0

/-- The rows of the current array that one call emits, where `ducknng_sql_arrow_scan_table`
    copies up to a vector of them, and the place behind them. -/
def ArrowScan.emit (vectorSize : Nat) (s : ArrowScan ρ) : List ρ × ArrowScan ρ :=
  match s.reply.batch[s.arrayIndex]? with
  | none => ([], { s with offset := s.reply.rowCount })
  | some arr =>
    let out := (arr.drop s.offset).take vectorSize
    if s.offset + out.length < arr.length then (out, { s with offset := s.offset + out.length })
    else (out, { s with
      arrayIndex := s.arrayIndex + 1
      offset := if s.arrayIndex + 1 < s.reply.batch.length then 0 else s.reply.rowCount })

/-- One call of `ducknng_query_rpc_scan` on Arrow batches. -/
def ArrowScan.scan (vectorSize : Nat) (s : ArrowScan ρ) : Except String (List ρ × ArrowScan ρ) := do
  let (more, s) ← nextArrowBatch s.pending s.reply s.offset s.arrayIndex
  pure (if more then s.emit vectorSize else ([], s))

/-- The arrays that the scan looks at: those of the replies with rows. -/
def scannedArrays (replies : List (ArrowReply ρ)) : List (List ρ) :=
  (replies.filter fun r => r.rowCount ≠ 0).flatMap fun r => r.batch

/-- The arrays that are still to be scanned, the current one from its offset on. -/
def ArrowScan.left (s : ArrowScan ρ) : List (List ρ) :=
  (if s.offset < s.reply.rowCount then
    (s.reply.batch.drop s.arrayIndex).modifyHead (·.drop s.offset) else []) ++
    scannedArrays s.pending

/-- The place of a scan is one in its batch, and its replies end. -/
structure ArrowScan.Ok (s : ArrowScan ρ) : Prop where
  ends : EndsStream s.reply s.pending
  place : s.offset < s.reply.rowCount → s.arrayIndex < s.reply.batch.length

variable {reply : ArrowReply ρ} {pending : List (ArrowReply ρ)}

theorem ArrowScan.left_start : left ⟨reply, pending, 0, 0⟩ =
    scannedArrays (reply :: pending) := by
  unfold left scannedArrays
  by_cases hrows : reply.rowCount = 0
  · simp [hrows]
  · rw [if_pos (Nat.pos_of_ne_zero hrows), filter_cons_of_pos (by simpa using hrows), flatMap_cons]
    cases reply.batch <;> rfl

theorem ArrowScan.Ok.start (hends : EndsStream reply pending) :
    Ok ⟨reply, pending, 0, 0⟩ := by
  refine ⟨hends, fun hrows => length_pos_of_ne_nil ?_⟩
  rintro hnil
  simp [BatchReply.rowCount, show reply.batch = [] from hnil] at hrows

/-- The loop ends at the next rows, or when there are none left. -/
theorem nextArrowBatch_spec {offset arrayIndex : Nat}
    (hok : Ok ⟨reply, pending, offset, arrayIndex⟩) :
    ∃ more s', nextArrowBatch pending reply offset arrayIndex = .ok (more, s') ∧ s'.Ok ∧
      s'.left = left ⟨reply, pending, offset, arrayIndex⟩ ∧
      (if more then s'.offset < s'.reply.rowCount else s'.left = []) := by
  by_cases hrows : offset < reply.rowCount
  · unfold nextArrowBatch
    exact ⟨true, _, if_pos hrows, hok, rfl, hrows⟩
  induction pending generalizing reply offset arrayIndex with
  | nil =>
    have hend : reply.endOfStream = true := hok.ends
    unfold nextArrowBatch
    rw [if_neg hrows, if_pos hend]
    exact ⟨false, _, rfl, hok, rfl, by simp [left, hrows, scannedArrays]⟩
  | cons next rest ih =>
    obtain ⟨hmore, hrest⟩ : reply.endOfStream = false ∧ EndsStream next rest := hok.ends
    have hleft : left ⟨reply, next :: rest, offset, arrayIndex⟩ =
        left ⟨next, rest, 0, 0⟩ := by
      rw [left_start, left, if_neg hrows]
      rfl
    unfold nextArrowBatch
    rw [if_neg hrows, if_neg (by simp [hmore]), hleft]
    dsimp only
    by_cases hlast : next.rowCount = 0 ∧ next.endOfStream = true
    · rw [if_pos hlast]
      refine ⟨false, _, rfl, .start hrest, rfl, ?_⟩
      cases rest with
      | nil => simp [left_start, scannedArrays, hlast.1]
      | cons other rest => exact absurd (hrest.1.symm.trans hlast.2) (by decide)
    · rw [if_neg hlast]
      by_cases hnext : 0 < next.rowCount
      · unfold nextArrowBatch
        exact ⟨true, _, if_pos hnext, .start hrest, rfl, hnext⟩
      · exact ih (.start hrest) hnext

/-- A vector of rows is taken off the first array that is left. -/
theorem ArrowScan.emit_spec {vectorSize : Nat} (hvector : 0 < vectorSize) {s : ArrowScan ρ}
    (hok : s.Ok) (hrows : s.offset < s.reply.rowCount) :
    ∃ out s', s.emit vectorSize = (out, s') ∧ (out.length = 0 → reached s.left = []) ∧
      (out.length ≠ 0 → s'.Ok ∧ reached s.left = out ++ reached s'.left) := by
  have hplace := hok.place hrows
  unfold emit
  rw [getElem?_eq_getElem hplace]
  generalize harr : s.reply.batch[s.arrayIndex] = arr
  -- the array from the offset on, and what comes behind it
  have hcur : ∀ offset, offset < s.reply.rowCount → left { s with offset := offset } =
      arr.drop offset :: ((s.reply.batch.drop (s.arrayIndex + 1)) ++ scannedArrays s.pending) := by
    intro offset hoffset
    rw [left, if_pos hoffset, drop_eq_getElem_cons hplace, harr]
    rfl
  have hsplit := take_append_drop vectorSize (arr.drop s.offset)
  have hlength : ((arr.drop s.offset).take vectorSize).length =
      min vectorSize (arr.length - s.offset) := by simp
  rw [drop_drop] at hsplit
  dsimp only
  generalize (arr.drop s.offset).take vectorSize = out at hsplit hlength ⊢
  rw [show s.left = _ from hcur s.offset hrows]
  have hempty : out.length = 0 → reached (arr.drop s.offset ::
      ((s.reply.batch.drop (s.arrayIndex + 1)) ++ scannedArrays s.pending)) = [] := by
    intro hzero
    rw [drop_eq_nil_of_le (by omega)]
    rfl
  have hpiece : out.length ≠ 0 → arr.drop s.offset ≠ [] := by
    rintro hpos hnil
    exact hpos (by rw [hlength, ← length_drop, hnil, length_nil, Nat.min_zero])
  split
  · next hmore =>
    refine ⟨out, _, rfl, hempty, fun hpos => ⟨⟨hok.ends, fun _ => hplace⟩, ?_⟩⟩
    have hwhole : arr.length ≤ s.reply.rowCount :=
      (sublist_flatten_of_mem (harr ▸ getElem_mem hplace)).length_le
    rw [hcur (s.offset + out.length) (by omega), reached_cons (hpiece hpos),
      reached_cons (by simpa using hmore), ← append_assoc, ← hsplit,
      show out.length = vectorSize by omega]
  · next hend =>
    refine ⟨out, _, rfl, hempty, fun hpos => ⟨⟨hok.ends, ?_⟩, ?_⟩⟩
    · intro hlt
      by_contra hlast
      rw [if_neg hlast] at hlt
      exact Nat.lt_irrefl _ hlt
    · rw [reached_cons (hpiece hpos), ← hsplit, drop_eq_nil_of_le (by omega), append_nil]
      unfold left
      by_cases hlast : s.arrayIndex + 1 < s.reply.batch.length
      · rw [if_pos hlast, if_pos (Nat.zero_lt_of_lt hrows)]
        cases s.reply.batch.drop (s.arrayIndex + 1) <;> rfl
      · rw [if_neg hlast, if_neg (Nat.lt_irrefl _), drop_eq_nil_of_le (by omega)]

/-- **Arrow batches.** Until its first empty output the scan emits every row of every reply just
    when no empty array of a reply with rows stands in front of another row. -/
theorem arrowScan_complete_iff {vectorSize : Nat} (hvector : 0 < vectorSize)
    (hends : EndsStream reply pending) :
    ∃ outs, Drains (scan vectorSize) length ⟨reply, pending, 0, 0⟩ outs ∧
      (outs.flatten = ((reply :: pending).flatMap fun r => r.batch).flatten ↔
        NoGap (scannedArrays (reply :: pending))) := by
  have hstep : ∀ s : ArrowScan ρ, s.Ok → ∃ out s', s.scan vectorSize = .ok (out, s') ∧
      (out.length = 0 → reached s.left = []) ∧
      (out.length ≠ 0 → s'.Ok ∧ reached s.left = id out ++ reached s'.left) := by
    intro s hok
    obtain ⟨more, s₁, hnext, hok₁, hleft, hrows⟩ := nextArrowBatch_spec hok
    have hscan : s.scan vectorSize = .ok (if more then s₁.emit vectorSize else ([], s₁)) := by
      rw [scan, hnext]
      rfl
    rw [hscan, ← show s₁.left = s.left from hleft]
    cases more with
    | false => exact ⟨[], s₁, rfl, fun _ => congrArg reached hrows, fun h => absurd rfl h⟩
    | true =>
      obtain ⟨out, s', hemit, hspec⟩ := emit_spec hvector hok₁ hrows
      exact ⟨out, s', congrArg _ hemit, hspec⟩
  have hscanned : (scannedArrays (reply :: pending)).flatten =
      ((reply :: pending).flatMap fun r => r.batch).flatten := by
    unfold scannedArrays
    generalize reply :: pending = replies
    induction replies with
    | nil => rfl
    | cons r replies ih =>
      rw [flatMap_cons, flatten_append, ← ih]
      by_cases hr : r.rowCount = 0
      · rw [filter_cons_of_neg (by simpa using hr), length_eq_zero_iff.1 hr]
        rfl
      · rw [filter_cons_of_pos (by simpa using hr), flatMap_cons, flatten_append]
  obtain ⟨outs, hdrains, hflat⟩ := exists_drains (fun _ => rfl) hstep (.start hends)
  rw [left_start, flatMap_id'] at hflat
  exact ⟨outs, hdrains, by rw [hflat, ← hscanned, reached_iff]⟩

/-- **An empty array loses rows.** One reply has an empty array and then one with a row. -/
theorem arrowScan_loses_rows :
    Drains (scan 2048) length ⟨⟨[[], [1]], true⟩, [], 0, 0⟩ ([] : List (List Nat)) :=
  .done rfl rfl

theorem arrowScan_complete_iff_vectors :
    ∃ outs, Drains (scan 2) length
        ⟨⟨[[1, 2, 3], [4]], false⟩, [⟨[], true⟩], 0, 0⟩ outs ∧
      (outs.flatten = [1, 2, 3, 4] ↔ NoGap ([[1, 2, 3], [4]] : List (List Nat))) :=
  arrowScan_complete_iff (by decide) ⟨rfl, rfl⟩

end

/-! ### Quack batches -/

namespace Quack

/-- The batch of the scan: the reply with its payload, which a last reply in JSON does not have,
    and the place in it. -/
structure QuackBatch where
  reply : BatchReply (List UInt8)
  started : Bool := false
  offset : Nat := 0
  remaining : Nat := 0

/-- The scan over Quack batches, with what the server will answer. -/
structure QuackScan where
  batch : QuackBatch
  pending : List (BatchReply (List UInt8))

variable (vectorSize : Nat) (schema : Schema)

/-- The scan of a payload is started when it is first looked at. -/
def QuackBatch.begin (b : QuackBatch) : Except String QuackBatch :=
  if b.reply.batch.length > 0 ∧ !b.started then
    match payloadScanBegin b.reply.batch schema with
    | .error e => .error (e.getD "ducknng: failed to start remote quack row payload scan")
    | .ok (offset, remaining) => .ok ⟨b.reply, true, offset, remaining⟩
  else .ok b

/-- The loop that fetches while the batch has no chunks left: whether there are any. -/
def nextQuackBatch (pending : List (BatchReply (List UInt8))) (b : QuackBatch) :
    Except String (Bool × QuackScan) :=
  match b.begin schema with
  | .error e => .error e
  | .ok b =>
    if b.remaining > 0 then .ok (true, ⟨b, pending⟩)
    else if b.reply.endOfStream then .ok (false, ⟨b, pending⟩)
    else match pending with
      | [] => .error "ducknng: failed to fetch the next query batch"
      | next :: rest => nextQuackBatch rest { reply := next }

/-- One call of `ducknng_query_rpc_scan` on Quack batches. -/
def QuackScan.scan (s : QuackScan) : Except String (OutputChunk × QuackScan) :=
  match nextQuackBatch schema s.pending s.batch with
  | .error e => .error e
  | .ok (false, s) => .ok (.reset, s)
  | .ok (true, s) =>
    match payloadScanNext vectorSize .reset s.batch.reply.batch schema s.batch.offset
        s.batch.remaining with
    | .error e => .error (e.getD "ducknng: failed to decode remote quack row payload")
    | .ok (chunk, offset, remaining) =>
      .ok (chunk, ⟨⟨s.batch.reply, s.batch.started, offset, remaining⟩, s.pending⟩)

/-- The chunks of a batch from its place on; a reply without a payload has none. -/
def QuackBatch.chunks (b : QuackBatch) : Except Err (List OutputChunk) :=
  if b.reply.batch.length > 0 ∧ !b.started then payloadScanAll vectorSize b.reply.batch schema
  else scanLoop vectorSize b.reply.batch schema b.remaining b.offset

/-- The chunks of all replies, none of which is refused. -/
def Decodes : List (BatchReply (List UInt8)) → List OutputChunk → Prop
  | [], chunks => chunks = []
  | reply :: rest, chunks => ∃ here behind, ({ reply := reply } : QuackBatch).chunks
      vectorSize schema = .ok here ∧ Decodes rest behind ∧ chunks = here ++ behind

/-- The chunks that are still to be emitted. -/
def QuackScan.left (s : QuackScan) (chunks : List OutputChunk) : Prop :=
  ∃ here behind, s.batch.chunks vectorSize schema = .ok here ∧
    Decodes vectorSize schema s.pending behind ∧ chunks = here ++ behind

variable {vectorSize schema} {pending : List (BatchReply (List UInt8))} {b : QuackBatch}
variable {here chunks : List OutputChunk} {s : QuackScan}

/-- Starting a batch does not change what is left of it. -/
theorem QuackBatch.begin_spec (h : b.chunks vectorSize schema = .ok here) :
    ∃ b', b.begin schema = .ok b' ∧ b'.reply = b.reply ∧
      ¬(b'.reply.batch.length > 0 ∧ !b'.started) ∧
      scanLoop vectorSize b'.reply.batch schema b'.remaining b'.offset = .ok here := by
  unfold QuackBatch.chunks at h
  unfold QuackBatch.begin
  by_cases hstart : b.reply.batch.length > 0 ∧ !b.started
  · rw [if_pos hstart] at h ⊢
    unfold payloadScanAll at h
    cases hbegin : payloadScanBegin b.reply.batch schema with
    | error e =>
      rw [hbegin] at h
      cases h
    | ok place =>
      rw [hbegin] at h
      exact ⟨_, rfl, rfl, by simp, h⟩
  · rw [if_neg hstart] at h ⊢
    exact ⟨b, rfl, rfl, hstart, h⟩

/-- The loop ends at the next chunk, or when there are none left. -/
theorem nextQuackBatch_spec (hends : EndsStream b.reply pending)
    (hleft : QuackScan.left vectorSize schema ⟨b, pending⟩ chunks) :
    ∃ more s', nextQuackBatch schema pending b = .ok (more, s') ∧
      EndsStream s'.batch.reply s'.pending ∧ s'.left vectorSize schema chunks ∧
      ¬(s'.batch.reply.batch.length > 0 ∧ !s'.batch.started) ∧
      (if more then s'.batch.remaining > 0 else chunks = []) := by
  induction pending generalizing b chunks with
  | nil =>
    obtain ⟨here, behind, hhere, rfl, rfl⟩ := hleft
    obtain ⟨b', hbegin, hreply, hstarted, hloop⟩ := QuackBatch.begin_spec hhere
    rw [← hreply] at hends
    have hleft' : QuackScan.left vectorSize schema ⟨b', []⟩ (here ++ []) :=
      ⟨here, [], by rw [QuackBatch.chunks, if_neg hstarted, hloop], rfl, rfl⟩
    unfold nextQuackBatch
    rw [hbegin]
    dsimp only
    by_cases hmore : b'.remaining > 0
    · exact ⟨true, _, if_pos hmore, hends, hleft', hstarted, hmore⟩
    · rw [if_neg hmore, if_pos (show b'.reply.endOfStream = true from hends)]
      rw [Nat.eq_zero_of_not_pos hmore] at hloop
      cases hloop
      exact ⟨false, _, rfl, hends, hleft', hstarted, rfl⟩
  -- a batch without chunks is passed over
  | cons next rest ih =>
    obtain ⟨here, behind, hhere, hbehind, rfl⟩ := hleft
    obtain ⟨b', hbegin, hreply, hstarted, hloop⟩ := QuackBatch.begin_spec hhere
    rw [← hreply] at hends
    unfold nextQuackBatch
    rw [hbegin]
    dsimp only
    by_cases hmore : b'.remaining > 0
    · exact ⟨true, _, if_pos hmore, hends, ⟨here, behind,
        by rw [QuackBatch.chunks, if_neg hstarted, hloop], hbehind, rfl⟩, hstarted, hmore⟩
    · rw [if_neg hmore, if_neg (by simp [show b'.reply.endOfStream = false from hends.1])]
      rw [Nat.eq_zero_of_not_pos hmore] at hloop
      cases hloop
      exact ih hends.2 hbehind

/-- The first chunk of a payload that decodes. -/
theorem scanLoop_succ {payload : List UInt8} {offset n : Nat}
    (h : scanLoop vectorSize payload schema (n + 1) offset = .ok here) :
    ∃ chunk next rest, payloadScanNext vectorSize .reset payload schema offset (n + 1) =
      .ok (chunk, next, n) ∧ scanLoop vectorSize payload schema n next = .ok rest ∧
      here = chunk :: rest := by
  rw [scanLoop] at h
  unfold payloadScanNext at h ⊢
  rw [if_neg (Nat.succ_ne_zero n)] at h ⊢
  split at h
  · cases h
  next hnonempty =>
  rw [if_neg hnonempty]
  split at h
  · cases h
  next hinside =>
  rw [if_neg hinside]
  cases hchunk : scanChunk vectorSize .reset schema (n + 1) (readerAt payload offset) with
  | error e =>
    rw [hchunk] at h
    cases h
  | ok read =>
    rw [hchunk] at h
    have hmap : (scanLoop vectorSize payload schema n read.2.off).map (read.1 :: ·) = .ok here := h
    cases hrest : scanLoop vectorSize payload schema n read.2.off with
    | error e =>
      rw [hrest] at hmap
      cases hmap
    | ok rest =>
      rw [hrest] at hmap
      cases hmap
      exact ⟨_, _, rest, rfl, hrest, rfl⟩

/-- A call emits the first chunk that is left. -/
theorem QuackScan.scan_spec (hends : EndsStream s.batch.reply s.pending)
    (hleft : s.left vectorSize schema chunks) :
    ∃ out s', s.scan vectorSize schema = .ok (out, s') ∧ (chunks = [] ∧ out = .reset ∨
      ∃ rest, chunks = out :: rest ∧ EndsStream s'.batch.reply s'.pending ∧
        s'.left vectorSize schema rest) := by
  obtain ⟨more, s₁, hnext, hends₁, hleft₁, hstarted, hmore⟩ := nextQuackBatch_spec hends hleft
  unfold QuackScan.scan
  rw [hnext]
  cases more with
  | false => exact ⟨_, _, rfl, .inl ⟨hmore, rfl⟩⟩
  | true =>
    obtain ⟨here, behind, hhere, hbehind, rfl⟩ := hleft₁
    obtain ⟨n, hn⟩ := Nat.exists_eq_add_of_lt hmore
    rw [QuackBatch.chunks, if_neg hstarted, hn] at hhere
    obtain ⟨chunk, next, rest, hchunk, hrest, rfl⟩ := scanLoop_succ hhere
    dsimp only
    rw [hn, hchunk]
    exact ⟨_, _, rfl, .inr ⟨rest ++ behind, rfl, hends₁, rest, behind,
      by rw [QuackBatch.chunks, if_neg hstarted, hrest], hbehind, rfl⟩⟩

theorem QuackScan.drains (hends : EndsStream s.batch.reply s.pending)
    (hleft : s.left vectorSize schema chunks) :
    ∃ outs, Drains (QuackScan.scan vectorSize schema) OutputChunk.size s outs ∧
      outs.flatMap OutputChunk.rows = reached (chunks.map OutputChunk.rows) := by
  induction chunks generalizing s with
  | nil =>
    obtain ⟨out, s', hscan, ⟨_, rfl⟩ | ⟨rest, hrest, _⟩⟩ := QuackScan.scan_spec hends hleft
    · exact ⟨[], .done hscan rfl, rfl⟩
    · cases hrest
  | cons chunk chunks ih =>
    obtain ⟨out, s', hscan, ⟨hnone, _⟩ | ⟨rest, hrest, hends', hleft'⟩⟩ :=
      QuackScan.scan_spec hends hleft
    · cases hnone
    · cases hrest
      have hlength := OutputChunk.rows_length chunk
      by_cases hsize : chunk.size = 0
      · refine ⟨[], .done hscan hsize, ?_⟩
        rw [map_cons, length_eq_zero_iff.1 (hlength.trans hsize)]
        rfl
      · obtain ⟨outs, hdrains, hflat⟩ := ih hends' hleft'
        refine ⟨chunk :: outs, .more hscan hsize hdrains, ?_⟩
        rw [map_cons, reached_cons (ne_nil_of_length_pos (by omega)), flatMap_cons, hflat]

/-- **Quack batches.** The scan emits the rows of all chunks of all replies just when every chunk
    decodes and no empty chunk stands in front of another row. -/
theorem quackScan_complete_iff {reply : BatchReply (List UInt8)}
    (hends : EndsStream reply pending) :
    (∃ chunks outs, Decodes vectorSize schema (reply :: pending) chunks ∧
      Drains (QuackScan.scan vectorSize schema) OutputChunk.size
        ⟨{ reply := reply }, pending⟩ outs ∧
      outs.flatMap OutputChunk.rows = chunks.flatMap OutputChunk.rows) ↔
    ∃ chunks, Decodes vectorSize schema (reply :: pending) chunks ∧
      NoGap (chunks.map OutputChunk.rows) := by
  constructor
  · rintro ⟨chunks, outs, hdecodes, hdrains, hflat⟩
    obtain ⟨outs', hdrains', hreached⟩ :=
      @QuackScan.drains vectorSize schema chunks ⟨{ reply := reply }, pending⟩ hends hdecodes
    rw [hdrains.unique hdrains', hreached, flatMap_def, reached_iff] at hflat
    exact ⟨chunks, hdecodes, hflat⟩
  · rintro ⟨chunks, hdecodes, hgap⟩
    obtain ⟨outs, hdrains, hreached⟩ :=
      @QuackScan.drains vectorSize schema chunks ⟨{ reply := reply }, pending⟩ hends hdecodes
    refine ⟨chunks, outs, hdecodes, hdrains, ?_⟩
    rw [hreached, flatMap_def, reached_iff]
    exact hgap

/-- **An empty chunk loses rows.** The payload is accepted, and its second chunk has a row. -/
theorem quackScan_loses_rows :
    ∃ schema r r' chunks, readerParseSchema (readerAt emptyChunkPayload 0) = .ok (schema, r) ∧
      readerValidateResults schema 2048 r = .ok (1, r') ∧
      Decodes 2048 schema [⟨emptyChunkPayload, true⟩] chunks ∧
      chunks.flatMap OutputChunk.rows = [[.fixed [7]]] ∧
      Drains (QuackScan.scan 2048 schema) OutputChunk.size
        ⟨{ reply := ⟨emptyChunkPayload, true⟩ }, []⟩ [] := by
  have hbegin : payloadScanBegin emptyChunkPayload [⟨.empty, nodeNew 11⟩] = .ok (15, 2) := rfl
  have hnext : payloadScanNext 2048 .reset emptyChunkPayload [⟨.empty, nodeNew 11⟩] 15 2 =
      .ok (⟨0, []⟩, 36, 1) := rfl
  -- the first chunk is the empty one, and its output ends the scan
  have hscan : QuackScan.scan 2048 [⟨.empty, nodeNew 11⟩] ⟨{ reply := ⟨emptyChunkPayload, true⟩ },
      []⟩ = .ok (⟨0, []⟩, ⟨⟨⟨emptyChunkPayload, true⟩, true, 36, 1⟩, []⟩) := by
    have hstart : emptyChunkPayload.length > 0 ∧ (!false) = true := by decide
    simp only [QuackScan.scan, nextQuackBatch, QuackBatch.begin, if_pos hstart, hbegin,
      Nat.zero_lt_two, if_true, hnext]
  exact ⟨[⟨.empty, nodeNew 11⟩], ⟨_, 12, 0⟩, ⟨_, 60, 0⟩, [⟨0, []⟩, ⟨1, [[.fixed [7]]]⟩], rfl, rfl,
    ⟨_, _, rfl, rfl, rfl⟩, rfl, .done hscan rfl⟩

/-- One `TINYINT` column, a chunk of one row and an empty chunk. -/
def rowFirstPayload : List UInt8 :=
  [1, 0, 1, 100, 0, 11, 255, 255, 2, 0, 1, 0, 4, 0, 2,
    1, 44, 1, 100, 0, 1, 102, 0, 1, 100, 0, 0, 102, 0, 1, 7, 255, 255, 255, 255, 255, 255,
    1, 44, 1, 100, 0, 0, 102, 0, 1, 100, 0, 0, 102, 0, 0, 255, 255, 255, 255, 255, 255,
    255, 255]

/-- Behind the last row an empty chunk does no harm. -/
theorem quackScan_complete_iff_rowFirst :
    ∃ chunks outs, Decodes 2048 [⟨.empty, nodeNew 11⟩] [⟨rowFirstPayload, true⟩] chunks ∧
      Drains (QuackScan.scan 2048 [⟨.empty, nodeNew 11⟩]) OutputChunk.size
        ⟨{ reply := ⟨rowFirstPayload, true⟩ }, []⟩ outs ∧
      outs.flatMap OutputChunk.rows = chunks.flatMap OutputChunk.rows := by
  have hends : EndsStream (⟨rowFirstPayload, true⟩ : BatchReply (List UInt8)) [] := rfl
  exact (quackScan_complete_iff hends).2 ⟨[⟨1, [[.fixed [7]]]⟩, ⟨0, []⟩], ⟨_, _, rfl, rfl, rfl⟩,
    (reached_iff _).1 rfl⟩

end Quack

end Ducknng
