import Ducknng.Checked

namespace Ducknng

open List

/-!
# Server-sent events

A relay writes each message as one event: an optional `event:` line and a `data:` line for every
line of the message. It counts the line breaks in one loop, allocates, and writes in another.

* `serverSentEvent_reads` — the message is read back, and the buffer holds what is written.
-/

/-- `ducknng_sql_bytes_look_text`; whether the encoding is valid is DuckDB's answer. -/
def bytesLookText (validUtf8 : List UInt8 → Bool) (data : List UInt8) : Bool :=
  data.isEmpty ||
    data.all (fun b => b ≠ 0 && !(b < 0x20 && b ≠ 0x09 && b ≠ 0x0a && b ≠ 0x0d)) && validUtf8 data

/-- `ducknng_sse_field_is_valid`. -/
def sseFieldIsValid (value : Option CStr) : Bool :=
  value.all fun v => v.bytes.all fun b => !(b = 0x0d || b = 0x0a)

/-- The line breaks: the CR of a CRLF is not one of its own. -/
def countBreaks : List UInt8 → Nat
  | [] => 0
  | b :: rest =>
    (if b = 0x0a ∨ b = 0x0d ∧ rest.head? ≠ some 0x0a then 1 else 0) + countBreaks rest

/-- `"data: "`. -/
def dataField : List UInt8 := [0x64, 0x61, 0x74, 0x61, 0x3a, 0x20]

/-- The loop that writes the message: each line break starts another `data:` line, and the CR of
    a CRLF is skipped. -/
def dataLines : List UInt8 → List UInt8
  | [] => []
  | b :: rest =>
    if b = 0x0d ∧ rest.head? = some 0x0a then dataLines rest
    else if b = 0x0d ∨ b = 0x0a then 0x0a :: (dataField ++ dataLines rest)
    else b :: dataLines rest

/-- `"event: "`, the name and a line end; nothing for an empty name. -/
def eventLine (event : Option CStr) : List UInt8 :=
  match event.elim [] CStr.bytes with
  | [] => []
  | name => [0x65, 0x76, 0x65, 0x6e, 0x74, 0x3a, 0x20] ++ name ++ [0x0a]

/-- What a message becomes: a comment that it was skipped, an error, or an event and the size of
    the buffer that it is written to. -/
inductive RelaySend
  | skipped
  | refused
  | event (need : Nat) (bytes : List UInt8)
  deriving DecidableEq

/-- `ducknng_http_event_relay_send`, up to the write. -/
def eventRelaySend (validUtf8 : List UInt8 → Bool) (alloc : Bool) (event : Option CStr)
    (data : List UInt8) : RelaySend :=
  if ¬bytesLookText validUtf8 data then .skipped
  else if data.length > sizeMax / 8 ∨ (event.elim [] CStr.bytes).length > sizeMax / 8 then .refused
  else if ¬alloc then .refused
  else
    .event (((eventLine event).length + data.length + (countBreaks data + 1) * 7 + 2) %
      (sizeMax + 1)) (eventLine event ++ (dataField ++ (dataLines data ++ [0x0a, 0x0a])))

/-! ### How a client reads events -/

/-- The lines of a stream, each ended by CR, LF or CRLF, behind the start of one. -/
def sseLines : List UInt8 → List UInt8 → List (List UInt8)
  | _, [] => []
  | line, b :: rest =>
    if b = 0x0d ∧ rest.head? = some 0x0a then sseLines line rest
    else if b = 0x0d ∨ b = 0x0a then line :: sseLines [] rest
    else sseLines (line ++ [b]) rest

/-- An event; one without a name has the empty one. -/
structure ServerSentEvent where
  name : List UInt8 := []
  data : List UInt8 := []
  deriving DecidableEq

/-- A line is a field name and a value, without the colon and one space. -/
def sseField (line : List UInt8) : List UInt8 × List UInt8 :=
  let value := (line.dropWhile (· ≠ 0x3a)).tail
  (line.takeWhile (· ≠ 0x3a), if value.head? = some 0x20 then value.tail else value)

/-- What a line adds to an event: each `data:` line adds its value and an LF. -/
def ServerSentEvent.field (e : ServerSentEvent) (line : List UInt8) : ServerSentEvent :=
  match sseField line with
  | ([0x65, 0x76, 0x65, 0x6e, 0x74], value) => { e with name := value }
  | ([0x64, 0x61, 0x74, 0x61], value) => { e with data := e.data ++ (value ++ [0x0a]) }
  | _ => e

/-- The events of some lines; an empty line ends an event, and one without data is none. -/
def sseEvents : ServerSentEvent → List (List UInt8) → List ServerSentEvent
  | _, [] => []
  | e, [] :: lines =>
    (if e.data = [] then [] else [{ e with data := e.data.dropLast }]) ++ sseEvents {} lines
  | e, line :: lines => sseEvents (e.field line) lines

/-- The events of a stream. -/
def readEvents (bytes : List UInt8) : List ServerSentEvent := sseEvents {} (sseLines [] bytes)

/-- The message with every CR, LF or CRLF replaced by LF. -/
def withNewlines : List UInt8 → List UInt8
  | [] => []
  | b :: rest =>
    if b = 0x0d ∧ rest.head? = some 0x0a then withNewlines rest
    else (if b = 0x0d then 0x0a else b) :: withNewlines rest

/-! ### The event is read back -/

variable {event : Option CStr} {data : List UInt8}

/-- Bytes without line breaks belong to the line. -/
theorem sseLines_append {text : List UInt8} (htext : ∀ b ∈ text, ¬(b = 0x0d ∨ b = 0x0a))
    (line rest : List UInt8) : sseLines line (text ++ rest) = sseLines (line ++ text) rest := by
  induction text generalizing line with
  | nil => rw [nil_append, append_nil]
  | cons b text ih =>
    have hb := htext b mem_cons_self
    rw [cons_append, sseLines, if_neg fun h => hb (.inl h.1), if_neg hb,
      ih fun c hc => htext c (mem_cons_of_mem _ hc), append_assoc, singleton_append]

theorem sseLines_break (line rest : List UInt8) :
    sseLines line (0x0a :: rest) = line :: sseLines [] rest := rfl

theorem field_data (e : ServerSentEvent) (text : List UInt8) :
    e.field (dataField ++ text) = { e with data := e.data ++ (text ++ [0x0a]) } := rfl

/-- From inside a `data:` line, the rest of the message completes the event. -/
theorem sseEvents_dataLines (e : ServerSentEvent) (text : List UInt8) :
    sseEvents e (sseLines (dataField ++ text) (dataLines data ++ [0x0a, 0x0a])) =
      [{ e with data := e.data ++ (text ++ withNewlines data) }] := by
  induction data generalizing e text with
  | nil =>
    show sseEvents (e.field (dataField ++ text)) [[]] = _
    rw [field_data]
    simp [sseEvents, withNewlines, ← append_assoc]
  | cons b rest ih =>
    rw [dataLines, withNewlines]
    split
    · exact ih e text
    split
    · next hbreak =>
      -- the line ends, and another `data:` line starts
      have hb : (if b = 0x0d then 0x0a else b) = 0x0a := by
        rcases hbreak with rfl | rfl <;> rfl
      have hline : sseLines [] (dataField ++ (dataLines rest ++ [0x0a, 0x0a])) =
          sseLines (dataField ++ []) (dataLines rest ++ [0x0a, 0x0a]) :=
        sseLines_append (by simp [dataField]) [] _
      rw [cons_append, append_assoc, sseLines_break, hline, hb]
      refine (ih (e.field (dataField ++ text)) []).trans ?_
      rw [field_data, nil_append, append_assoc, append_assoc, singleton_append]
    · next hbreak =>
      rw [cons_append, sseLines, if_neg fun h => hbreak (.inl h.1), if_neg hbreak, append_assoc, ih,
        append_assoc, singleton_append, if_neg fun h => hbreak (.inl h)]

/-- The whole event. -/
theorem readEvents_event (hname : sseFieldIsValid event = true) :
    readEvents (eventLine event ++ (dataField ++ (dataLines data ++ [0x0a, 0x0a]))) =
      [⟨event.elim [] CStr.bytes, withNewlines data⟩] := by
  have hdata (e : ServerSentEvent) : sseEvents e (sseLines [] (dataField ++ (dataLines data ++
      [0x0a, 0x0a]))) = [{ e with data := e.data ++ withNewlines data }] := by
    exact sseEvents_dataLines e []
  unfold readEvents eventLine
  split
  · next hempty => rw [hempty, nil_append, hdata]; rfl
  · have hclean : ∀ b ∈ event.elim [] CStr.bytes, ¬(b = 0x0d ∨ b = 0x0a) := by
      cases event with
      | none => exact forall_mem_nil _
      | some name => simpa [sseFieldIsValid] using hname
    rw [append_assoc, sseLines_append, singleton_append, sseLines_break]
    · exact hdata ⟨_, []⟩
    · exact forall_mem_append.2 ⟨by simp, hclean⟩

/-! ### The size of the buffer -/

/-- A byte is skipped, a line break, or neither. -/
theorem byte_cases (b : UInt8) (rest : List UInt8) :
    (b = 0x0d ∧ rest.head? = some 0x0a) ∨ (b = 0x0d ∧ rest.head? ≠ some 0x0a) ∨ b = 0x0a ∨
      (b ≠ 0x0d ∧ b ≠ 0x0a) := by
  grind

theorem countBreaks_eq (data : List UInt8) :
    countBreaks data = (withNewlines data).count 0x0a := by
  induction data with
  | nil => rfl
  | cons b rest ih =>
    rw [countBreaks, withNewlines, ih]
    rcases byte_cases b rest with ⟨rfl, h⟩ | ⟨rfl, h⟩ | rfl | ⟨h, h'⟩ <;>
      simp [*, Nat.add_comm]

/-- A line break takes seven bytes, and any other byte one. -/
theorem length_dataLines (data : List UInt8) :
    7 * countBreaks data ≤ (dataLines data).length ∧
      (dataLines data).length ≤ data.length + 7 * countBreaks data := by
  induction data with
  | nil => exact ⟨Nat.le_refl _, Nat.le_refl _⟩
  | cons b rest ih =>
    rw [countBreaks, dataLines]
    rcases byte_cases b rest with ⟨rfl, h⟩ | ⟨rfl, h⟩ | rfl | ⟨h, h'⟩ <;>
      simp [*, dataField] <;> omega

/-- The event is read as one event with the name and the message, and it fits into its buffer,
    exactly when the size of the buffer is a `size_t`. -/
theorem serverSentEvent_iff {validUtf8 : List UInt8 → Bool} {alloc : Bool} {need : Nat}
    {bytes : List UInt8} (hname : sseFieldIsValid event = true)
    (hsend : eventRelaySend validUtf8 alloc event data = .event need bytes) :
    readEvents bytes = [⟨event.elim [] CStr.bytes, withNewlines data⟩] ∧ bytes.length ≤ need ↔
      (eventLine event).length + data.length + ((withNewlines data).count 0x0a + 1) * 7 + 2 ≤
        sizeMax := by
  unfold eventRelaySend at hsend
  split at hsend
  · cases hsend
  split at hsend
  · cases hsend
  next hlong =>
  split at hsend
  · cases hsend
  cases hsend
  obtain ⟨hleast, hmost⟩ := length_dataLines data
  have hfield : dataField.length = 6 := rfl
  rw [and_iff_right (readEvents_event hname), ← countBreaks_eq]
  simp only [length_append, length_cons, length_nil, hfield, sizeMax] at hlong ⊢
  omega

/-- **Server-sent events.** For a message whose event is not larger than a `size_t`, which every
    message in memory is, the event is read as one event with the name and the message, and it
    fits into its buffer. -/
theorem serverSentEvent_reads {validUtf8 : List UInt8 → Bool} {alloc : Bool} {need : Nat}
    {bytes : List UInt8} (hname : sseFieldIsValid event = true)
    (hsize : (eventLine event).length + data.length + ((withNewlines data).count 0x0a + 1) * 7 + 2 ≤
      sizeMax)
    (hsend : eventRelaySend validUtf8 alloc event data = .event need bytes) :
    readEvents bytes = [⟨event.elim [] CStr.bytes, withNewlines data⟩] ∧ bytes.length ≤ need :=
  (serverSentEvent_iff hname hsend).2 hsize

/-- A named event whose message starts and ends with a line break and has a CR of its own. -/
theorem serverSentEvent_reads_breaks :
    ∃ need bytes, eventRelaySend (fun _ => true) true (some CStr.a)
        [0x0d, 0x0a, 0x61, 0x0d, 0x62, 0x0a] = .event need bytes ∧
      readEvents bytes = [⟨[0x61], [0x0a, 0x61, 0x0a, 0x62, 0x0a]⟩] ∧ bytes.length ≤ need :=
  ⟨_, _, rfl, @serverSentEvent_reads (some CStr.a) [0x0d, 0x0a, 0x61, 0x0d, 0x62, 0x0a]
    (fun _ => true) true _ _ rfl (by decide) rfl⟩

end Ducknng
