import Ducknng.Http.Chunked

/-!
# One pass over the raw buffer

The decoding loop of the streaming client against the reader of `Ducknng.Http.Chunked`.

* `loop_size`, `loop_data`, `loop_dataCrlf`, `loop_trailers` — the loop, state by state.
* `process_outcome` — the loop ends, and its outcome is what the reader makes of the buffer.
-/

namespace Ducknng

open List Transducer ClientStream

/-- Where the stream is. -/
def ClientStream.phase (s : ClientStream) : Phase :=
  match s.chunkState with
  | .size => .line .size s.line s.lineSawCr
  | .data => .data s.chunkRemaining
  | .dataCrlf => .dataEnd (s.dataCrlfPos == 1)
  | .trailers => .line .trailer s.line s.lineSawCr

/-- A chunked stream that can be received from and is not at its end. -/
structure ClientStream.Ready (s : ClientStream) : Prop where
  chunked : s.bodyMode = .chunked
  isOpen : s.isOpen = true
  unfailed : s.failed = false
  unclosed : s.closing = false
  unfinished : s.eof = false
  data : s.chunkState = .data → 0 < s.chunkRemaining ∧ s.line = [] ∧ s.lineSawCr = false
  dataCrlf : s.chunkState = .dataCrlf →
    s.dataCrlfPos < 2 ∧ s.line = [] ∧ s.lineSawCr = false

/-- What a pass over the raw bytes comes to, from a phase of the reader. -/
inductive Outcome (cap : Nat) (p : Phase) (raw : List UInt8) : Received → Prop
  | more {s : ClientStream} (ready : s.Ready) (empty : s.raw = [])
      (reads : Reads deframe p raw [] s.phase) : Outcome cap p raw ⟨.more, [], false, s⟩
  | data {s : ClientStream} {out w : List UInt8} (ready : s.Ready) (nonempty : out ≠ [])
      (room : out.length ≤ cap) (taken : raw = w ++ s.raw)
      (reads : Reads deframe p w out s.phase) : Outcome cap p raw ⟨.done, out, false, s⟩
  | endOfFile {s : ClientStream} {w : List UInt8} (isOpen : s.isOpen = true)
      (unfailed : s.failed = false) (unclosed : s.closing = false) (eof : s.eof = true)
      (taken : raw = w ++ s.raw) (reads : Reads deframe p w [] .done) :
      Outcome cap p raw ⟨.done, [], true, s⟩
  | error {s : ClientStream} {e : StreamError} {w v : List UInt8} {c : UInt8} {t : Phase}
      (taken : raw = w ++ c :: v) (reads : Reads deframe p w [] t) (refused : deframe t c = none)
      (unfinished : t ≠ .done) : Outcome cap p raw ⟨.error e, [], false, s⟩

section
variable {cap : Nat} {p q : Phase} {raw w : List UInt8} {r : Received} {s : ClientStream}

/-- The outcome of a pass that goes on where another left off. -/
theorem Outcome.after (hreads : Reads deframe p w [] q) (h : Outcome cap q raw r) :
    Outcome cap p (w ++ raw) r := by
  cases h with
  | more ready empty reads => exact .more ready empty (hreads.trans reads)
  | data ready nonempty room taken reads =>
    refine .data ready nonempty room ?_ (hreads.trans reads)
    rw [taken, append_assoc]
  | endOfFile isOpen unfailed unclosed eof taken reads =>
    refine .endOfFile isOpen unfailed unclosed eof ?_ (hreads.trans reads)
    rw [taken, append_assoc]
  | error taken reads refused unfinished =>
    rw [taken, ← append_assoc]
    exact .error rfl (hreads.trans reads) refused unfinished

/-- The outcome of a pass that goes on behind the end of a line. -/
theorem Outcome.afterLine {kind : LineKind} {line : List UInt8}
    (hreads : Reads deframe p w [] (.line kind line true)) (hend : lineEnd kind line = some q)
    (h : Outcome cap q raw r) : Outcome cap p (w ++ 0x0a :: raw) r := by
  have hlf : deframe (.line kind line true) 0x0a = some (q, []) := by
    rw [deframe, hend]
    rfl
  rw [← singleton_append, ← append_assoc]
  exact h.after (hreads.trans (.single hlf))

/-- How far a line is read. -/
def LineOutcome (kind : LineKind) (text : List UInt8) (cr : Bool) (raw : List UInt8)
    (r : LineRead) : Prop :=
  match r.result with
  | .ok false => r.raw = [] ∧
      Reads deframe (.line kind text cr) raw [] (.line kind r.line r.sawCr)
  | .ok true => r.sawCr = false ∧ ∃ w, raw = w ++ 0x0a :: r.raw ∧
      Reads deframe (.line kind text cr) w [] (.line kind r.line true)
  | .error _ => ∃ w c v text' cr', raw = w ++ c :: v ∧
      Reads deframe (.line kind text cr) w [] (.line kind text' cr') ∧
      deframe (.line kind text' cr') c = none

/-- A line goes on behind its first byte. -/
theorem LineOutcome.cons {kind : LineKind} {text text' : List UInt8} {cr cr' : Bool} {c : UInt8}
    {r : LineRead}
    (hstep : deframe (.line kind text cr) c = some (.line kind text' cr', []))
    (h : LineOutcome kind text' cr' raw r) : LineOutcome kind text cr (c :: raw) r := by
  have hone := Reads.single hstep
  unfold LineOutcome at h ⊢
  split
  next hres =>
    rw [hres] at h
    exact ⟨h.1, hone.trans h.2⟩
  next hres =>
    rw [hres] at h
    obtain ⟨hcr, w, rfl, hreads⟩ := h
    exact ⟨hcr, c :: w, rfl, hone.trans hreads⟩
  next e hres =>
    rw [hres] at h
    obtain ⟨w, b, v, t, tcr, rfl, hreads, hnone⟩ := h
    exact ⟨c :: w, b, v, t, tcr, rfl, hone.trans hreads, hnone⟩

theorem lineOutcome_error {kind : LineKind} {text : List UInt8} {cr : Bool} {c : UInt8}
    {e : String} {rest line : List UInt8} {sawCr : Bool}
    (h : deframe (.line kind text cr) c = none) :
    LineOutcome kind text cr (c :: raw) ⟨.error e, rest, sawCr, line⟩ :=
  ⟨[], c, raw, text, cr, rfl, .nil, h⟩

/-- `readLine` reads a line as the reader does. -/
theorem readLine_outcome (kind : LineKind) (raw : List UInt8) (cr : Bool) (text : List UInt8) :
    LineOutcome kind text cr raw (readLine raw cr text) := by
  induction raw generalizing cr text with
  | nil => exact ⟨rfl, .nil⟩
  | cons c raw ih =>
    cases cr with
    -- behind a CR only LF is accepted
    | true =>
      rw [readLine]
      split
      next hc => exact lineOutcome_error (if_neg (bne_iff_ne.1 hc))
      next hc =>
        obtain rfl : c = 0x0a := by simpa using hc
        exact ⟨rfl, [], rfl, .nil⟩
    | false =>
      rw [readLine]
      split
      next hc =>
        obtain rfl : c = 0x0d := by simpa using hc
        exact LineOutcome.cons rfl (ih true text)
      next hcr =>
        -- what the reader does with any other byte of the line
        have hstep : deframe (.line kind text false) c =
            if lineByte c ∧ text.length < lineMax then some (.line kind (text ++ [c]) false, [])
            else none := if_neg (by simpa using hcr)
        split
        next hlf =>
          obtain rfl : c = 0x0a := by simpa using hlf
          exact lineOutcome_error (hstep.trans (if_neg (by simp [lineByte])))
        next =>
          split
          next hbyte =>
            refine lineOutcome_error (hstep.trans (if_neg ?_))
            rintro ⟨hok, _⟩
            rw [hok] at hbyte
            cases hbyte
          next hbyte =>
            split
            next hlong =>
              exact lineOutcome_error (hstep.trans (if_neg fun h =>
                absurd h.2 (Nat.not_lt.2 hlong)))
            next hroom =>
              have hok : lineByte c = true := by simpa using hbyte
              have hnext := hstep.trans (if_pos ⟨hok, Nat.lt_of_not_le hroom⟩)
              exact LineOutcome.cons hnext (ih false (text ++ [c]))

/-! ### The decoding loop -/

/-- The loop ends, with an outcome, on streams with less than `fuel` raw bytes. -/
def LoopOk (cap fuel : Nat) : Prop :=
  ∀ s : ClientStream, s.Ready → s.raw.length < fuel →
    ∃ r, s.chunkedLoop cap fuel [] = some r ∧ Outcome cap s.phase s.raw r

/-- A stream that has read a whole line. -/
theorem ClientStream.Ready.withLine (hready : s.Ready) {l : LineRead}
    (hstate : s.chunkState = .size ∨ s.chunkState = .trailers) : (s.withLine l).Ready where
  chunked := hready.chunked
  isOpen := hready.isOpen
  unfailed := hready.unfailed
  unclosed := hready.unclosed
  unfinished := hready.unfinished
  data := by
    intro h
    change s.chunkState = .data at h
    rw [h] at hstate
    exact absurd hstate (by decide)
  dataCrlf := by
    intro h
    change s.chunkState = .dataCrlf at h
    rw [h] at hstate
    exact absurd hstate (by decide)

variable {fuel take : Nat}

theorem loop_size (ih : LoopOk cap fuel) (hready : s.Ready) (hstate : s.chunkState = .size)
    (hfuel : s.raw.length < fuel + 1) :
    ∃ r, s.chunkedLoop cap (fuel + 1) [] = some r ∧ Outcome cap s.phase s.raw r := by
  have hline := readLine_outcome .size s.raw s.lineSawCr s.line
  have hphase : s.phase = .line .size s.line s.lineSawCr := by rw [phase, hstate]
  rw [chunkedLoop, hphase]
  simp only [hstate]
  generalize readLine s.raw s.lineSawCr s.line = l at hline ⊢
  obtain ⟨result, raw, sawCr, line⟩ := l
  cases result with
  | error e =>
    obtain ⟨w, c, v, text, cr, htaken, hreads, hnone⟩ := hline
    exact ⟨_, rfl, .error htaken hreads hnone nofun⟩
  | ok complete =>
    cases complete with
    | false =>
      obtain ⟨hempty, hreads⟩ := hline
      refine ⟨_, rfl, .more (hready.withLine (.inl hstate)) hempty ?_⟩
      have hnext : (s.withLine ⟨.ok false, raw, sawCr, line⟩).phase = .line .size line sawCr := by
        rw [phase]
        simp only [withLine, hstate]
      rwa [hnext]
    | true =>
      obtain ⟨rfl, w, htaken, hreads⟩ := hline
      change s.raw = w ++ 0x0a :: raw at htaken
      have hparse : (s.withLine ⟨.ok true, raw, false, line⟩).parseChunkSize =
          (chunkSize line).map fun size => { s with
            raw := raw
            lineSawCr := false
            chunkRemaining := size
            line := []
            chunkState := if size = 0 then .trailers else .data } := by
        unfold parseChunkSize
        cases h : chunkSize line <;> simp [withLine, h, Except.map, bind, Except.bind,
          pure, Except.pure]
      simp only [hparse]
      cases hsize : chunkSize line with
      | error e =>
        refine ⟨_, rfl, .error htaken hreads ?_ nofun⟩
        rw [deframe, lineEnd, hsize]
        rfl
      | ok n =>
        -- the next state is in the data of the chunk, or in the trailers
        obtain ⟨r, hr, hout⟩ := ih { s with
            raw := raw
            lineSawCr := false
            chunkRemaining := n
            line := []
            chunkState := if n = 0 then .trailers else .data }
          { hready with
            data := by
              intro h
              split at h
              · cases h
              · exact ⟨Nat.pos_of_ne_zero ‹_›, rfl, rfl⟩
            dataCrlf := by
              intro h
              split at h <;> cases h }
          (by
            rw [htaken, length_append, length_cons] at hfuel
            show raw.length < fuel
            omega)
        refine ⟨r, hr, ?_⟩
        rw [htaken]
        refine hout.afterLine hreads ?_
        rw [lineEnd, hsize]
        cases n with
        | zero => rfl
        | succ n => rfl

theorem loop_trailers (ih : LoopOk cap fuel) (hready : s.Ready) (hstate : s.chunkState = .trailers)
    (hfuel : s.raw.length < fuel + 1) :
    ∃ r, s.chunkedLoop cap (fuel + 1) [] = some r ∧ Outcome cap s.phase s.raw r := by
  have hline := readLine_outcome .trailer s.raw s.lineSawCr s.line
  have hphase : s.phase = .line .trailer s.line s.lineSawCr := by rw [phase, hstate]
  rw [chunkedLoop, hphase]
  simp only [hstate]
  generalize readLine s.raw s.lineSawCr s.line = l at hline ⊢
  obtain ⟨result, raw, sawCr, line⟩ := l
  cases result with
  | error e =>
    obtain ⟨w, c, v, text, cr, htaken, hreads, hnone⟩ := hline
    exact ⟨_, rfl, .error htaken hreads hnone nofun⟩
  | ok complete =>
    cases complete with
    -- the buffer ends inside the line
    | false =>
      obtain ⟨hempty, hreads⟩ := hline
      refine ⟨_, rfl, .more (hready.withLine (.inr hstate)) hempty ?_⟩
      have hnext : (s.withLine ⟨.ok false, raw, sawCr, line⟩).phase =
          .line .trailer line sawCr := by
        rw [phase]
        simp only [withLine, hstate]
      rwa [hnext]
    | true =>
      obtain ⟨rfl, w, htaken, hreads⟩ := hline
      change s.raw = w ++ 0x0a :: raw at htaken
      show ∃ r, (if line.isEmpty then _ else _) = some r ∧ _
      -- an empty line ends the message, any other one is a trailer
      by_cases hempty : line.isEmpty
      · have hend : lineEnd .trailer line = some .done := by rw [lineEnd, if_pos hempty]
        rw [if_pos hempty]
        refine ⟨_, rfl, ?_⟩
        rw [htaken]
        exact Outcome.afterLine hreads hend
          (.endOfFile hready.isOpen hready.unfailed hready.unclosed rfl rfl .nil)
      · have hend : lineEnd .trailer line = some (.line .trailer [] false) := by
          rw [lineEnd, if_neg hempty]
        rw [if_neg hempty]
        have hready' := hready.withLine (.inr hstate) (l := ⟨.ok true, raw, false, []⟩)
        obtain ⟨r, hr, hout⟩ := ih _ hready' (by
          rw [htaken, length_append, length_cons] at hfuel
          show raw.length < fuel
          omega)
        refine ⟨r, hr, ?_⟩
        rw [htaken]
        refine Outcome.afterLine hreads hend ?_
        have hnext : (s.withLine ⟨.ok true, raw, false, []⟩).phase = .line .trailer [] false := by
          rw [phase]
          simp only [withLine, hstate]
        rwa [hnext] at hout

/-- The stream behind `take` bytes of a chunk's data. -/
def ClientStream.tookData (s : ClientStream) (take : Nat) : ClientStream :=
  if s.chunkRemaining - take = 0 then
    { s with
      raw := s.raw.drop take, chunkRemaining := 0, chunkState := .dataCrlf, dataCrlfPos := 0 }
  else { s with raw := s.raw.drop take, chunkRemaining := s.chunkRemaining - take }

theorem ClientStream.tookData_raw : (s.tookData take).raw = s.raw.drop take := by
  unfold ClientStream.tookData
  split <;> rfl

theorem ClientStream.tookData_phase (hstate : s.chunkState = .data) :
    (s.tookData take).phase = dataPhase (s.chunkRemaining - take) := by
  unfold ClientStream.tookData dataPhase
  split
  · rfl
  · rw [phase]
    simp only [hstate]

theorem ClientStream.Ready.tookData (hready : s.Ready) (hstate : s.chunkState = .data) :
    (s.tookData take).Ready := by
  obtain ⟨_, hline, hcr⟩ := hready.data hstate
  unfold ClientStream.tookData
  split
  · exact { hready with data := nofun, dataCrlf := fun _ => ⟨Nat.zero_lt_two, hline, hcr⟩ }
  · exact { hready with
      data := fun _ => ⟨Nat.pos_of_ne_zero ‹_›, hline, hcr⟩
      dataCrlf := fun h => (by cases hstate.symm.trans h) }

theorem loop_data (hcap : 0 < cap) (hready : s.Ready) (hstate : s.chunkState = .data) :
    ∃ r, s.chunkedLoop cap (fuel + 1) [] = some r ∧ Outcome cap s.phase s.raw r := by
  have hpos := (hready.data hstate).1
  have hphase : s.phase = .data s.chunkRemaining := by rw [phase, hstate]
  -- with room in the output, nothing is taken only if the raw buffer is empty
  obtain ⟨take, htake⟩ : ∃ take, take = min (min s.raw.length (cap - 0)) s.chunkRemaining :=
    ⟨_, rfl⟩
  have hloop : s.chunkedLoop cap (fuel + 1) [] =
      if 0 < (s.raw.take take).length then some ⟨.done, s.raw.take take, false, s.tookData take⟩
      else if (s.tookData take).raw.isEmpty then
        some ⟨.more, s.raw.take take, false, s.tookData take⟩
      else (s.tookData take).chunkedLoop cap fuel (s.raw.take take) := by
    rw [chunkedLoop]
    simp only [hstate, length_nil, ← htake, nil_append]
    unfold ClientStream.tookData
    by_cases hzero : s.chunkRemaining - take = 0
    · simp only [hzero, if_true]
    · simp only [hzero, if_false, hstate]
  rw [hloop]
  have hlen : (s.raw.take take).length = take := length_take_of_le (by omega)
  by_cases hzero : take = 0
  · have hempty : s.raw = [] := length_eq_zero_iff.1 (by omega)
    have hsame : s.tookData take = s := by
      unfold ClientStream.tookData
      rw [hzero, Nat.sub_zero, if_neg (Nat.pos_iff_ne_zero.1 hpos), drop_zero]
    rw [hsame, hempty, take_nil]
    exact ⟨_, rfl, .more hready hempty .nil⟩
  · rw [if_pos (by omega)]
    have htaken : s.raw = s.raw.take take ++ (s.tookData take).raw := by
      rw [tookData_raw, take_append_drop]
    have hreads : Reads deframe s.phase (s.raw.take take) (s.raw.take take)
        (s.tookData take).phase := by
      rw [tookData_phase hstate, hphase]
      nth_rewrite 3 [← hlen]
      exact reads_data hpos (by omega)
    have hne : s.raw.take take ≠ [] := ne_nil_of_length_pos (by omega)
    exact ⟨_, rfl, .data (hready.tookData hstate) hne (by omega) htaken hreads⟩

/-- How far the line end behind the data is read. -/
theorem skipCrlf_reads (raw : List UInt8) {pos : Nat} (hpos : pos < 2) :
    match skipCrlf raw pos with
    | (false, _, _) => ∃ w c v cr, raw = w ++ c :: v ∧
        Reads deframe (.dataEnd (pos == 1)) w [] (.dataEnd cr) ∧ deframe (.dataEnd cr) c = none
    | (true, rest, pos') => (pos' < 2 → rest = [] ∧
          Reads deframe (.dataEnd (pos == 1)) raw [] (.dataEnd (pos' == 1))) ∧
        (2 ≤ pos' → ∃ w, raw = w ++ rest ∧ w ≠ [] ∧
          Reads deframe (.dataEnd (pos == 1)) w [] deframeStart) := by
  have hlf : ∀ {c : UInt8}, c ≠ 0x0a → deframe (.dataEnd true) c = none := fun h => if_neg h
  have hcr : ∀ {c : UInt8}, c ≠ 0x0d → deframe (.dataEnd false) c = none := fun h => if_neg h
  -- the two positions, with no, one and two bytes at hand
  match pos, hpos, raw with
  | 0, _, [] => exact ⟨fun _ => ⟨rfl, .nil⟩, fun h => absurd h (by decide)⟩
  | 1, _, [] => exact ⟨fun _ => ⟨rfl, .nil⟩, fun h => absurd h (by decide)⟩
  | 1, _, c :: raw =>
    by_cases hc : c = 0x0a
    · subst hc
      exact ⟨fun h => absurd h (by decide), fun _ => ⟨[0x0a], rfl, nofun, .single rfl⟩⟩
    · have hskip : skipCrlf (c :: raw) 1 = (false, raw, 2) := if_pos (bne_iff_ne.2 hc)
      rw [hskip]
      exact ⟨[], c, raw, true, rfl, .nil, hlf hc⟩
  | 0, _, c :: raw =>
    by_cases hc : c = 0x0d
    · subst hc
      cases raw with
      | nil => exact ⟨fun _ => ⟨rfl, .single rfl⟩, fun h => absurd h (by decide)⟩
      | cons b raw =>
        by_cases hb : b = 0x0a
        · subst hb
          exact ⟨fun h => absurd h (by decide), fun _ => ⟨crlf, rfl, nofun, reads_crlf rfl rfl⟩⟩
        · have hskip : skipCrlf (0x0d :: b :: raw) 0 = (false, raw, 2) :=
            if_pos (bne_iff_ne.2 hb)
          rw [hskip]
          exact ⟨[0x0d], b, raw, true, rfl, .single rfl, hlf hb⟩
    · have hskip : skipCrlf (c :: raw) 0 = (false, raw, 1) := if_pos (bne_iff_ne.2 hc)
      rw [hskip]
      exact ⟨[], c, raw, false, rfl, .nil, hcr hc⟩

theorem loop_dataCrlf (ih : LoopOk cap fuel) (hready : s.Ready) (hstate : s.chunkState = .dataCrlf)
    (hfuel : s.raw.length < fuel + 1) :
    ∃ r, s.chunkedLoop cap (fuel + 1) [] = some r ∧ Outcome cap s.phase s.raw r := by
  obtain ⟨hpos, hline, hcr⟩ := hready.dataCrlf hstate
  have hskip := skipCrlf_reads s.raw hpos
  have hphase : s.phase = .dataEnd (s.dataCrlfPos == 1) := by rw [phase, hstate]
  rw [chunkedLoop, hphase]
  simp only [hstate]
  generalize skipCrlf s.raw s.dataCrlfPos = skipped at hskip ⊢
  obtain ⟨same, raw, pos⟩ := skipped
  cases same with
  | false =>
    obtain ⟨w, c, v, cr, htaken, hreads, hnone⟩ := hskip
    exact ⟨_, rfl, .error htaken hreads hnone nofun⟩
  | true =>
    obtain ⟨hpart, hwhole⟩ := hskip
    show ∃ r, (if pos < 2 then _ else _) = some r ∧ _
    by_cases hlt : pos < 2
    · obtain ⟨hempty, hreads⟩ := hpart hlt
      rw [if_pos hlt]
      refine ⟨_, rfl, .more
        { hready with data := nofun, dataCrlf := fun _ => ⟨hlt, hline, hcr⟩ } hempty ?_⟩
      exact hreads
    · obtain ⟨w, htaken, hne, hreads⟩ := hwhole (Nat.le_of_not_lt hlt)
      rw [if_neg hlt]
      obtain ⟨r, hr, hout⟩ := ih { s with raw := raw, dataCrlfPos := pos, chunkState := .size }
        { hready with data := nofun, dataCrlf := nofun }
        (by
          have hw := length_pos_iff.2 hne
          rw [htaken, length_append] at hfuel
          show raw.length < fuel
          omega)
      refine ⟨r, hr, ?_⟩
      rw [htaken]
      refine hout.after ?_
      show Reads deframe _ w [] (.line .size s.line s.lineSawCr)
      rw [hline, hcr]
      exact hreads

/-- **The decoding loop ends**, and comes to what the reader makes of the raw bytes. -/
theorem chunkedLoop_outcome (hcap : 0 < cap) (fuel : Nat) : LoopOk cap fuel := by
  induction fuel with
  | zero => exact fun s _ h => absurd h (Nat.not_lt_zero _)
  | succ fuel ih =>
    intro s hready hfuel
    cases hstate : s.chunkState with
    | size => exact loop_size ih hready hstate hfuel
    | data => exact loop_data hcap hready hstate
    | dataCrlf => exact loop_dataCrlf ih hready hstate hfuel
    | trailers => exact loop_trailers ih hready hstate hfuel

theorem process_outcome (hcap : 0 < cap) (hready : s.Ready) :
    ∃ r, s.process cap [] = some r ∧ Outcome cap s.phase s.raw r := by
  rw [process, hready.unfinished, hready.chunked]
  exact chunkedLoop_outcome hcap _ s hready (by omega)

end

end Ducknng
