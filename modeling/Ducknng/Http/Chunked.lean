import Ducknng.Http.ClientStream
import Ducknng.Lib.Transducer

/-!
# Chunked bodies

What a chunked body is, and a reader that takes it byte by byte.

* `ChunkedMessage` — a whole chunked body with its extensions and trailers; `bytes` is what is
  on the wire and `body` is the data of its chunks.
* `ChunkedStart` — the beginning of one: whole chunks, and a chunk of which only a part has
  arrived. `DecodedBody wire body` says that `body` is all the chunk data that the wire begins
  with.
* `deframe` — the reader; `reads_message`, `message_of_reads` and `decodedBody_of_stop` relate
  it to the two.
-/

namespace Ducknng

open List Transducer

/-- The end of a framing line. -/
def crlf : List UInt8 := [0x0d, 0x0a]

/-- The text of a framing line. -/
structure FramingLine (line : List UInt8) : Prop where
  bytes : ∀ c ∈ line, lineByte c = true
  length_le : line.length ≤ lineMax

/-- One more digit. -/
def pushDigit (n : Nat) (c : UInt8) : Nat :=
  n * 16 + (chunkDigit c).getD 0

/-- The number that hexadecimal digits stand for. -/
def digitsValue (digits : List UInt8) : Nat :=
  digits.foldl pushDigit 0

/-- The line before a chunk of `n` bytes: hexadecimal digits, and behind a semicolon whatever
    extensions there are. -/
structure SizeLine (line : List UInt8) (n : Nat) : Prop extends FramingLine line where
  digits : ∃ digits extension, line = digits ++ extension ∧ digits ≠ [] ∧
    (∀ c ∈ digits, (chunkDigit c).isSome) ∧ (∀ c, extension.head? = some c → c = 0x3b) ∧
    digitsValue digits = n
  fits : n < 2 ^ 64

/-- A chunk with data. -/
structure Chunk where
  line : List UInt8
  data : List UInt8
  size : SizeLine line data.length
  nonempty : data ≠ []

open Chunk

/-- The chunk on the wire. -/
def Chunk.bytes (c : Chunk) : List UInt8 :=
  c.line ++ crlf ++ c.data ++ crlf

/-- A chunked body: chunks with data, the last chunk, which has none, and trailer lines up to
    an empty line. -/
structure ChunkedMessage where
  chunks : List Chunk
  last : List UInt8
  last_size : SizeLine last 0
  trailers : List (List UInt8)
  trailer_lines : ∀ line ∈ trailers, FramingLine line ∧ line ≠ []

theorem no_trailers : ∀ line ∈ ([] : List (List UInt8)), FramingLine line ∧ line ≠ [] := by
  intro line hline
  cases hline

/-- The message on the wire. -/
def ChunkedMessage.bytes (m : ChunkedMessage) : List UInt8 :=
  m.chunks.flatMap Chunk.bytes ++ (m.last ++ crlf ++ (m.trailers.flatMap (· ++ crlf) ++ crlf))

/-- What the message carries. -/
def ChunkedMessage.body (m : ChunkedMessage) : List UInt8 :=
  m.chunks.flatMap data

/-- A chunk of which only a part of the data is there. -/
structure OpenChunk where
  line : List UInt8
  size : Nat
  size_line : SizeLine line size
  part : List UInt8
  part_le : part.length ≤ size

/-- The beginning of a chunked body. -/
structure ChunkedStart where
  chunks : List Chunk
  current : Option OpenChunk

/-- The beginning on the wire. -/
def ChunkedStart.bytes (m : ChunkedStart) : List UInt8 :=
  m.chunks.flatMap Chunk.bytes ++ m.current.elim [] fun c => c.line ++ crlf ++ c.part

/-- The chunk data of the beginning. -/
def ChunkedStart.body (m : ChunkedStart) : List UInt8 :=
  m.chunks.flatMap data ++ m.current.elim [] OpenChunk.part

/-- The body that the wire decodes to, as far as the wire is chunked data. -/
def DecodedBody (wire body : List UInt8) : Prop :=
  (∃ m : ChunkedStart, m.bytes <+: wire ∧ m.body = body) ∧
    ∀ m : ChunkedStart, m.bytes <+: wire → m.body <+: body

/-! ### The reader -/

/-- The two kinds of framing lines. -/
inductive LineKind
  | size
  | trailer
  deriving DecidableEq

/-- Where the reader is: in a line (its text so far, and whether its CR has come), in the data
    of a chunk with so many bytes to come, in the CRLF behind the data, or at the end. -/
inductive Phase
  | line (kind : LineKind) (text : List UInt8) (cr : Bool)
  | data (left : Nat)
  | dataEnd (cr : Bool)
  | done

/-- What follows a whole line. -/
def lineEnd : LineKind → List UInt8 → Option Phase
  | .size, text =>
    match chunkSize text with
    | .error _ => none
    | .ok 0 => some (.line .trailer [] false)
    | .ok (n + 1) => some (.data (n + 1))
  | .trailer, text => some (if text.isEmpty then .done else .line .trailer [] false)

/-- One byte. -/
def deframe : Phase → UInt8 → Option (Phase × List UInt8)
  | .line kind text true, c =>
    if c = 0x0a then (lineEnd kind text).map fun p => (p, []) else none
  | .line kind text false, c =>
    if c = 0x0d then some (.line kind text true, [])
    else if lineByte c ∧ text.length < lineMax then some (.line kind (text ++ [c]) false, [])
    else none
  | .data left, c => some (if left ≤ 1 then .dataEnd false else .data (left - 1), [c])
  | .dataEnd cr, c =>
    if c = (if cr then 0x0a else 0x0d) then
      some (if cr then .line .size [] false else .dataEnd true, [])
    else none
  | .done, _ => none

/-! ### Sizes -/

variable {c : UInt8} {size n : Nat} {t u : Phase} {kind : LineKind} {text o w out : List UInt8}

theorem chunkDigit_lt {d : Nat} (h : chunkDigit c = some d) : d < 16 := by
  unfold chunkDigit at h
  simp only [UInt8.le_iff_toNat_le, Bool.and_eq_true, decide_eq_true_eq] at h
  split at h
  · cases h
    have : (0x39 : UInt8).toNat = 0x39 := rfl
    omega
  · split at h
    · cases h
      have : (0x66 : UInt8).toNat = 0x66 := rfl
      omega
    · split at h
      · cases h
        have : (0x46 : UInt8).toNat = 0x46 := rfl
        omega
      · cases h

theorem le_foldl_pushDigit (digits : List UInt8) (n : Nat) : n ≤ digits.foldl pushDigit n := by
  induction digits generalizing n with
  | nil => exact Nat.le_refl n
  | cons c digits ih =>
    have hpush : n ≤ pushDigit n c := by
      unfold pushDigit
      omega
    exact hpush.trans (ih _)

/-- The overflow check of the digit loop. -/
theorem digit_fits {d : Nat} (hd : d < 16) :
    ¬ size > (2 ^ 64 - 1 - d) / 16 ↔ size * 16 + d < 2 ^ 64 := by
  omega

theorem chunkDigits_append {digits extension : List UInt8} {k : Nat}
    (hdigits : ∀ c ∈ digits, (chunkDigit c).isSome)
    (hext : ∀ c, extension.head? = some c → c = 0x3b) (hfits : digits.foldl pushDigit size < 2 ^ 64)
    :
    chunkDigits (digits ++ extension) size k =
      .ok (digits.foldl pushDigit size, k + digits.length) := by
  induction digits generalizing size k with
  | nil =>
    cases extension with
    | nil => rfl
    | cons c _ =>
      obtain rfl := hext c rfl
      rfl
  | cons c digits ih =>
    obtain ⟨d, hd⟩ := Option.isSome_iff_exists.1 (hdigits c mem_cons_self)
    have hstop : (c == 0 || c == 0x3b) = false := by
      rw [Bool.or_eq_false_iff, beq_eq_false_iff_ne, beq_eq_false_iff_ne]
      constructor <;> (rintro rfl; cases hd)
    have hpush : pushDigit size c = size * 16 + d := by rw [pushDigit, hd]; rfl
    have hsize : size * 16 + d < 2 ^ 64 :=
      hpush ▸ Nat.lt_of_le_of_lt (le_foldl_pushDigit digits _) hfits
    rw [cons_append, chunkDigits, hstop, hd]
    simp only [Bool.false_eq_true, if_false, if_neg ((digit_fits (chunkDigit_lt hd)).2 hsize)]
    rw [← hpush, ih (fun c hc => hdigits c (mem_cons_of_mem _ hc)) hfits]
    simp only [length_cons]
    congr 2
    omega

theorem chunkDigits_ok {p : List UInt8} {k k' : Nat} (hsize : size < 2 ^ 64)
    (h : chunkDigits p size k = .ok (n, k')) :
    ∃ digits extension, p = digits ++ extension ∧ (∀ c ∈ digits, (chunkDigit c).isSome) ∧
      (∀ c, extension.head? = some c → c = 0 ∨ c = 0x3b) ∧
      digits.foldl pushDigit size = n ∧ k + digits.length = k' ∧ n < 2 ^ 64 := by
  induction p generalizing size k with
  | nil =>
    cases h
    exact ⟨[], [], rfl, nofun, nofun, rfl, rfl, hsize⟩
  | cons c p ih =>
    rw [chunkDigits] at h
    split at h
    -- the digits end at an extension or at the end of the line
    next hstop =>
      cases h
      refine ⟨[], c :: p, rfl, nofun, ?_, rfl, rfl, hsize⟩
      intro b hb
      cases hb
      simpa using hstop
    next =>
      split at h
      next => cases h
      next d hd =>
        split at h
        next => cases h
        next hover =>
          have hnext := (digit_fits (chunkDigit_lt hd)).1 hover
          obtain ⟨digits, extension, rfl, hdigits, hext, hvalue, hcount, hn⟩ := ih hnext h
          refine ⟨c :: digits, extension, rfl, ?_, hext, ?_, ?_, hn⟩
          · exact forall_mem_cons.2 ⟨by rw [hd]; rfl, hdigits⟩
          · rw [foldl_cons, pushDigit, hd]
            exact hvalue
          · rw [length_cons]
            omega

/-- **The size that is parsed is the size that the line announces.** -/
theorem chunkSize_eq_ok {line : List UInt8} (hline : FramingLine line) :
    chunkSize line = .ok n ↔ SizeLine line n := by
  constructor
  · intro h
    unfold chunkSize at h
    cases hd : chunkDigits line 0 0 with
    | error e => rw [hd] at h; cases h
    | ok r =>
      obtain ⟨size, count⟩ := r
      rw [hd] at h
      have hread : (if count = 0 then
          Except.error "ducknng: empty chunk size in streaming HTTP response"
        else .ok size) = Except.ok n := h
      split at hread
      next => cases hread
      next hcount =>
        cases hread
        obtain ⟨digits, extension, rfl, hdigits, hext, hvalue, hlen, hfits⟩ :=
          chunkDigits_ok (by decide) hd
        refine ⟨hline, ⟨digits, extension, rfl, ?_, hdigits, ?_, hvalue⟩, hfits⟩
        · rintro rfl
          exact hcount hlen.symm
        · intro c hc
          refine (hext c hc).resolve_left ?_
          rintro rfl
          -- a zero byte is a control character
          have hzero := hline.bytes 0 (mem_append_right _ (mem_of_mem_head? hc))
          cases hzero
  · rintro ⟨_, ⟨digits, extension, rfl, hne, hdigits, hext, hvalue⟩, hfits⟩
    have hread : chunkDigits (digits ++ extension) 0 0 = .ok (n, 0 + digits.length) := by
      rw [← hvalue] at hfits ⊢
      exact chunkDigits_append hdigits hext hfits
    unfold chunkSize
    rw [hread]
    have hpos : 0 + digits.length ≠ 0 := by
      rw [Nat.zero_add]
      exact fun h => hne (length_eq_zero_iff.1 h)
    show (if 0 + digits.length = 0 then _ else Except.ok n) = _
    rw [if_neg hpos]

/-! ### What the reader takes -/

/-- The reader before the first byte. -/
def deframeStart : Phase := .line .size [] false

theorem lineByte_ne_cr (h : lineByte c = true) : c ≠ 0x0d := by
  rintro rfl
  cases h

theorem reads_text (hline : FramingLine (text ++ w)) :
    Reads deframe (.line kind text false) w [] (.line kind (text ++ w) false) := by
  induction w generalizing text with
  | nil =>
    rw [append_nil]
    exact .nil
  | cons c w ih =>
    have hc : lineByte c = true := hline.bytes c (by simp)
    have hroom : text.length < lineMax := by
      have hle := hline.length_le
      rw [length_append, length_cons] at hle
      omega
    rw [← singleton_append, ← append_assoc] at hline ⊢
    have hstep : deframe (.line kind text false) c = some (.line kind (text ++ [c]) false, []) := by
      rw [deframe, if_neg (lineByte_ne_cr hc), if_pos ⟨hc, hroom⟩]
    exact (Reads.single hstep).trans (ih hline)

theorem reads_crlf {s : Phase} (hcr : deframe s 0x0d = some (t, []))
    (hlf : deframe t 0x0a = some (u, [])) : Reads deframe s crlf [] u :=
  .cons hcr (.single hlf)

/-- A whole line. -/
theorem reads_line {p : Phase} (hline : FramingLine text) (hend : lineEnd kind text = some p) :
    Reads deframe (.line kind [] false) (text ++ crlf) [] p := by
  have htext : Reads deframe (.line kind [] false) text [] (.line kind text false) :=
    @reads_text kind [] text hline
  have hlf : deframe (.line kind text true) 0x0a = some (p, []) := by
    rw [deframe, hend]
    rfl
  exact htext.trans (reads_crlf rfl hlf)

/-- Where the reader is behind a part of a chunk's data. -/
def dataPhase (left : Nat) : Phase :=
  if left = 0 then .dataEnd false else .data left

theorem reads_data {data : List UInt8} (hn : 0 < n) (hdata : data.length ≤ n) :
    Reads deframe (.data n) data data (dataPhase (n - data.length)) := by
  induction data generalizing n with
  | nil =>
    rw [length_nil, Nat.sub_zero, dataPhase, if_neg (Nat.pos_iff_ne_zero.1 hn)]
    exact .nil
  | cons c data ih =>
    rw [length_cons] at hdata ⊢
    have hstep : deframe (.data n) c = some (dataPhase (n - 1), [c]) := by
      rw [deframe, dataPhase]
      by_cases h1 : n ≤ 1
      · rw [if_pos h1, if_pos (Nat.sub_eq_zero_of_le h1)]
      · rw [if_neg h1, if_neg (Nat.sub_ne_zero_of_lt (Nat.lt_of_not_le h1))]
    have hleft : n - (data.length + 1) = n - 1 - data.length := by omega
    rw [hleft]
    refine (Reads.single hstep).trans ?_
    rcases Nat.eq_zero_or_pos (n - 1) with hzero | hpos
    · obtain rfl : data = [] := length_eq_zero_iff.1 (by omega)
      exact .nil
    · rw [dataPhase, if_neg (Nat.pos_iff_ne_zero.1 hpos)]
      exact ih hpos (by omega)

theorem reads_sizeLine {line : List UInt8} (h : SizeLine line n) (hn : 0 < n) :
    Reads deframe deframeStart (line ++ crlf) [] (.data n) := by
  refine reads_line h.toFramingLine ?_
  rw [lineEnd, (chunkSize_eq_ok h.toFramingLine).2 h]
  obtain ⟨k, rfl⟩ := Nat.exists_eq_add_of_lt hn
  rw [Nat.zero_add]

theorem reads_chunk (c : Chunk) : Reads deframe deframeStart c.bytes c.data deframeStart := by
  have hpos : 0 < c.data.length := length_pos_iff.2 c.nonempty
  have hdata := reads_data hpos (Nat.le_refl c.data.length)
  rw [Nat.sub_self] at hdata
  have hcrlf : Reads deframe (.dataEnd false) crlf [] deframeStart := reads_crlf rfl rfl
  have hall := ((reads_sizeLine c.size hpos).trans hdata).trans hcrlf
  rwa [append_nil] at hall

theorem reads_chunks (chunks : List Chunk) :
    Reads deframe deframeStart (chunks.flatMap Chunk.bytes) (chunks.flatMap data)
      deframeStart := by
  induction chunks with
  | nil => exact .nil
  | cons c chunks ih =>
    exact (reads_chunk c).trans ih

theorem reads_trailers {trailers : List (List UInt8)}
    (h : ∀ line ∈ trailers, FramingLine line ∧ line ≠ []) :
    Reads deframe (.line .trailer [] false) (trailers.flatMap (· ++ crlf) ++ crlf) [] .done := by
  induction trailers with
  | nil => exact reads_crlf rfl rfl
  | cons line trailers ih =>
    obtain ⟨hline, hne⟩ := h line mem_cons_self
    rw [flatMap_cons, append_assoc]
    refine (reads_line hline ?_).trans (ih fun line hmem => h line (mem_cons_of_mem _ hmem))
    rw [lineEnd, if_neg (by rw [List.isEmpty_iff]; exact hne)]

/-- **A message is read to its end and puts out its body.** -/
theorem reads_message (m : ChunkedMessage) :
    Reads deframe deframeStart m.bytes m.body .done := by
  have hlast : Reads deframe deframeStart (m.last ++ crlf) [] (.line .trailer [] false) := by
    refine reads_line m.last_size.toFramingLine ?_
    rw [lineEnd, (chunkSize_eq_ok m.last_size.toFramingLine).2 m.last_size]
  have hall := (reads_chunks m.chunks).trans (hlast.trans (reads_trailers m.trailer_lines))
  rwa [append_nil, append_nil] at hall

theorem reads_start (m : ChunkedStart) :
    ∃ t, Reads deframe deframeStart m.bytes m.body t := by
  obtain ⟨chunks, current⟩ := m
  cases current with
  | none => exact ⟨deframeStart, (reads_chunks chunks).trans .nil⟩
  | some c =>
    rcases Nat.eq_zero_or_pos c.size with hzero | hpos
    · have hpart : c.part = [] := length_eq_zero_iff.1 (by have := c.part_le; omega)
      refine ⟨.line .trailer [] false, (reads_chunks chunks).trans ?_⟩
      show Reads deframe deframeStart (c.line ++ crlf ++ c.part) c.part _
      rw [hpart, append_nil]
      refine reads_line c.size_line.toFramingLine ?_
      rw [lineEnd, (chunkSize_eq_ok c.size_line.toFramingLine).2 (hzero ▸ c.size_line)]
    · refine ⟨dataPhase (c.size - c.part.length), (reads_chunks chunks).trans ?_⟩
      exact (reads_sizeLine c.size_line hpos).trans (reads_data hpos c.part_le)

/-! ### What has been taken -/

/-- The CR of a line end that has come. -/
def crOf (cr : Bool) : List UInt8 :=
  if cr then [0x0d] else []

/-- What has been taken and put out where the reader is in a phase. -/
def Taken (w out : List UInt8) : Phase → Prop
  | .line .size text cr => ∃ chunks : List Chunk, FramingLine text ∧
      w = chunks.flatMap Chunk.bytes ++ (text ++ crOf cr) ∧ out = chunks.flatMap data
  | .data left => ∃ (chunks : List Chunk) (c : OpenChunk), 0 < left ∧
      c.part.length + left = c.size ∧
      w = chunks.flatMap Chunk.bytes ++ (c.line ++ crlf ++ c.part) ∧
      out = chunks.flatMap data ++ c.part
  | .dataEnd cr => ∃ (chunks : List Chunk) (c : Chunk),
      w = chunks.flatMap Chunk.bytes ++ (c.line ++ crlf ++ c.data ++ crOf cr) ∧
      out = chunks.flatMap data ++ c.data
  | .line .trailer text cr => ∃ (chunks : List Chunk) (last : List UInt8)
      (trailers : List (List UInt8)), SizeLine last 0 ∧
      (∀ line ∈ trailers, FramingLine line ∧ line ≠ []) ∧ FramingLine text ∧
      w = chunks.flatMap Chunk.bytes ++
        (last ++ crlf ++ (trailers.flatMap (· ++ crlf) ++ (text ++ crOf cr))) ∧
      out = chunks.flatMap data
  | .done => ∃ m : ChunkedMessage, w = m.bytes ∧ out = m.body

theorem framingLine_nil : FramingLine [] :=
  ⟨nofun, Nat.zero_le _⟩

/-- A line that is not at its end yet, one byte on. -/
theorem deframe_line (hline : FramingLine text)
    (h : deframe (.line kind text false) c = some (u, o)) :
    o = [] ∧ ∃ text' cr, u = .line kind text' cr ∧ FramingLine text' ∧
      text ++ [c] = text' ++ crOf cr := by
  rw [deframe] at h
  split at h
  next hcr =>
    cases h
    exact ⟨rfl, text, true, rfl, hline, by rw [hcr]; rfl⟩
  next =>
    split at h
    next hok =>
      cases h
      refine ⟨rfl, text ++ [c], false, rfl, ⟨?_, ?_⟩, (append_nil _).symm⟩
      · exact forall_mem_append.2 ⟨hline.bytes, forall_mem_singleton.2 hok.1⟩
      · rw [length_append]
        exact hok.2
    next => cases h

/-- A line at its end, one byte on. -/
theorem deframe_lineEnd (h : deframe (.line kind text true) c = some (u, o)) :
    c = 0x0a ∧ o = [] ∧ lineEnd kind text = some u := by
  obtain ⟨hc, h⟩ := Option.ite_none_right_eq_some.1 h
  obtain ⟨p, hp, hmove⟩ := Option.map_eq_some_iff.1 h
  cases hmove
  exact ⟨hc, rfl, hp⟩

/-- The end of a size line opens a chunk or the trailers. -/
theorem taken_sizeEnd {chunks : List Chunk} (hline : FramingLine text)
    (h : lineEnd .size text = some u) :
    Taken (chunks.flatMap Chunk.bytes ++ (text ++ crlf)) (chunks.flatMap data) u := by
  rw [lineEnd] at h
  split at h
  next => cases h
  next hsize =>
    cases h
    refine ⟨chunks, text, [], (chunkSize_eq_ok hline).1 hsize, nofun, framingLine_nil, ?_, rfl⟩
    simp [crOf]
  next n hsize =>
    cases h
    refine ⟨chunks, ⟨text, n + 1, (chunkSize_eq_ok hline).1 hsize, [], Nat.zero_le _⟩,
      Nat.succ_pos n, Nat.zero_add _, ?_, ?_⟩
    · simp
    · simp

theorem taken_step (htaken : Taken w out t) (h : deframe t c = some (u, o)) :
    Taken (w ++ [c]) (out ++ o) u := by
  match t with
  | .line .size text false =>
    obtain ⟨chunks, hline, rfl, rfl⟩ := htaken
    obtain ⟨rfl, text', cr, rfl, hline', htext⟩ := deframe_line hline h
    refine ⟨chunks, hline', ?_, append_nil _⟩
    rw [← htext]
    simp [crOf]
  | .line .size text true =>
    obtain ⟨chunks, hline, rfl, rfl⟩ := htaken
    obtain ⟨rfl, rfl, hend⟩ := deframe_lineEnd h
    have hnext : Taken (chunks.flatMap Chunk.bytes ++ (text ++ crlf)) (chunks.flatMap data) u :=
      taken_sizeEnd hline hend
    simpa [crOf, crlf] using hnext
  | .line .trailer text false =>
    obtain ⟨chunks, last, trailers, hlast, htrailers, hline, rfl, rfl⟩ := htaken
    obtain ⟨rfl, text', cr, rfl, hline', htext⟩ := deframe_line hline h
    refine ⟨chunks, last, trailers, hlast, htrailers, hline', ?_, append_nil _⟩
    rw [← htext]
    simp [crOf]
  | .line .trailer text true =>
    obtain ⟨chunks, last, trailers, hlast, htrailers, hline, rfl, rfl⟩ := htaken
    obtain ⟨rfl, rfl, hend⟩ := deframe_lineEnd h
    rw [lineEnd] at hend
    split at hend
    next hempty =>
      cases hend
      obtain rfl := List.isEmpty_iff.1 hempty
      refine ⟨⟨chunks, last, hlast, trailers, htrailers⟩, ?_, append_nil _⟩
      simp [ChunkedMessage.bytes, crOf, crlf]
    next hne =>
      cases hend
      refine ⟨chunks, last, trailers ++ [text], hlast, ?_, framingLine_nil, ?_,
        append_nil _⟩
      · refine forall_mem_append.2 ⟨htrailers, forall_mem_singleton.2 ?_⟩
        exact ⟨hline, fun hnil => hne (List.isEmpty_iff.2 hnil)⟩
      · simp [crOf, crlf]
  | .data left =>
    obtain ⟨chunks, d, hpos, hlen, rfl, rfl⟩ := htaken
    cases h
    split
    next hone =>
      -- the last byte of the chunk
      have hsize : (d.part ++ [c]).length = d.size := by
        rw [length_append, length_singleton]
        omega
      refine ⟨chunks, ⟨d.line, d.part ++ [c], hsize ▸ d.size_line, by simp⟩, ?_, ?_⟩
      · simp [crOf]
      · simp
    next hmore =>
      have hle : (d.part ++ [c]).length + (left - 1) = d.size := by
        rw [length_append, length_singleton]
        omega
      refine ⟨chunks, ⟨d.line, d.size, d.size_line, d.part ++ [c], by omega⟩, by omega, hle, ?_, ?_⟩
      · simp
      · simp
  | .dataEnd false =>
    obtain ⟨chunks, d, rfl, rfl⟩ := htaken
    obtain ⟨rfl, hmove⟩ := Option.ite_none_right_eq_some.1 h
    cases hmove
    refine ⟨chunks, d, ?_, append_nil _⟩
    simp [crOf]
  | .dataEnd true =>
    obtain ⟨chunks, d, rfl, rfl⟩ := htaken
    obtain ⟨rfl, hmove⟩ := Option.ite_none_right_eq_some.1 h
    cases hmove
    refine ⟨chunks ++ [d], framingLine_nil, ?_, ?_⟩
    · simp [crOf, crlf, Chunk.bytes]
    · simp
  | .done => cases h

theorem taken_of_reads (h : Reads deframe deframeStart w out t) : Taken w out t := by
  refine Reads.induction (P := Taken) ?_ ?_ h
  · exact ⟨[], framingLine_nil, rfl, rfl⟩
  · intro w out t c u o htaken hstep
    exact taken_step htaken hstep

/-- **What is read to the end is a message.** -/
theorem message_of_reads (h : Reads deframe deframeStart w out .done) :
    ∃ m : ChunkedMessage, w = m.bytes ∧ out = m.body :=
  taken_of_reads h

/-- What is put out is the data of a beginning of what is taken. -/
theorem Taken.start (h : Taken w out t) :
    ∃ m : ChunkedStart, m.bytes <+: w ∧ m.body = out := by
  match t with
  | .line .size text cr =>
    obtain ⟨chunks, _, rfl, rfl⟩ := h
    exact ⟨⟨chunks, none⟩, by simp [ChunkedStart.bytes], append_nil _⟩
  | .line .trailer text cr =>
    obtain ⟨chunks, last, trailers, _, _, _, rfl, rfl⟩ := h
    exact ⟨⟨chunks, none⟩, by simp [ChunkedStart.bytes], append_nil _⟩
  | .data left =>
    obtain ⟨chunks, c, _, _, rfl, rfl⟩ := h
    exact ⟨⟨chunks, some c⟩, prefix_rfl, rfl⟩
  | .dataEnd cr =>
    obtain ⟨chunks, c, rfl, rfl⟩ := h
    refine ⟨⟨chunks, some ⟨c.line, c.data.length, c.size, c.data, Nat.le_refl _⟩⟩, ?_, rfl⟩
    simp [ChunkedStart.bytes]
  | .done =>
    obtain ⟨m, rfl, rfl⟩ := h
    exact ⟨⟨m.chunks, none⟩, by simp [ChunkedStart.bytes, ChunkedMessage.bytes],
      append_nil _⟩

/-- **Where the reader stops, it has put out the decoded body.** -/
theorem decodedBody_of_stop {v : List UInt8} (h : Reads deframe deframeStart w out t)
    (hstop : Stops deframe t v) :
    DecodedBody (w ++ v) out := by
  refine ⟨?_, ?_⟩
  · obtain ⟨m, hm, hbody⟩ := (taken_of_reads h).start
    exact ⟨m, hm.trans (prefix_append w v), hbody⟩
  · intro m hm
    obtain ⟨t', hm'⟩ := reads_start m
    exact hm'.out_isPrefix h (h.le_stop hstop hm' hm)

end Ducknng
