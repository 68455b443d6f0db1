import Ducknng.Checked

/-!
# The streaming HTTP client

Model of the receiving side of `ducknng_http_client_stream.c`: raw connection reads are put into
a buffer, and each receive of the user takes body bytes out of it, reading more where the
buffer has none.

* `ClientStream` — the fields of `ducknng_http_client_stream` that receiving reads and writes.
* `ClientStream.process` — `ducknng_http_stream_process`, for all body modes.
* `ClientStream.recvBegin`, `ClientStream.recvAdvance` — the two halves of a receive.
* `ClientStream.receive` — one receive as the aio layer drives it: begin, then read and advance
  until it is complete.
-/

namespace Ducknng

/-- `DUCKNNG_HTTP_STREAM_READ_BUFFER_SIZE` -/
def readBufferSize : Nat := 8192

/-- `DUCKNNG_HTTP_STREAM_LINE_MAX` -/
def lineMax : Nat := 8192

/-- `DUCKNNG_HTTP_STREAM_MAX_RECV_BYTES` -/
def maxRecvBytes : Nat := 64 * 1024 * 1024

/-- `ducknng_http_stream_body_mode` -/
inductive BodyMode
  | none
  | contentLength
  | chunked
  | untilClose
  deriving DecidableEq, Repr

/-- `ducknng_http_stream_chunk_state` -/
inductive ChunkState
  | size
  | data
  | dataCrlf
  | trailers
  deriving DecidableEq, Repr

/-- The result codes of the connection that the client tells apart. -/
inductive AioError
  | connShut
  | closed
  | other (code : Nat)
  deriving DecidableEq, Repr

/-- The text of an error, or the text of an nng result code. -/
inductive StreamError
  | text (message : String)
  | nng (error : AioError)
  deriving DecidableEq, Repr

/-- The receiving part of `ducknng_http_client_stream`. `raw` is what is left of the raw buffer
    between `raw_pos` and `raw_len`, `line` is the line buffer up to `line_len`. -/
structure ClientStream where
  bodyMode : BodyMode
  contentRemaining : Nat
  chunkState : ChunkState
  chunkRemaining : Nat
  raw : List UInt8
  line : List UInt8
  lineSawCr : Bool
  dataCrlfPos : Nat
  isOpen : Bool
  eof : Bool
  failed : Bool
  closing : Bool
  deriving DecidableEq, Repr

/-- What a call returns: -1 with its error, 0 for another raw read, 1 for a complete receive. -/
inductive ReturnCode
  | error (error : StreamError)
  | more
  | done
  deriving DecidableEq, Repr

/-- The return code of a call with what it wrote: the body bytes and `*out_eof`. -/
structure Received where
  rc : ReturnCode
  out : List UInt8
  eof : Bool
  stream : ClientStream
  deriving DecidableEq, Repr

/-- What the user gets from one receive. -/
inductive StreamReply
  | data (bytes : List UInt8)
  | endOfFile
  | error (error : StreamError)
  deriving DecidableEq, Repr

/-- The reply of a complete receive. -/
def Received.reply (r : Received) : StreamReply :=
  match r.rc with
  | .error e => .error e
  | _ => if r.eof then .endOfFile else .data r.out

/-- The ends of both receive functions: an error makes the stream unreadable. -/
def Received.finish (r : Received) : Received :=
  match r.rc with
  | .error _ => { r with stream := { r.stream with failed := true } }
  | _ => r

/-- The connection: the raw reads to come, and the error of every read after them. -/
structure RawConnection where
  reads : List (List UInt8)
  ending : AioError
  deriving DecidableEq, Repr

/-- The bytes that are still to be read. -/
def RawConnection.bytes (net : RawConnection) : List UInt8 :=
  net.reads.flatten

/-- A byte that framing lines may hold: no control character but the tab. -/
def lineByte (c : UInt8) : Bool :=
  !((c < 0x20 && c != 0x09) || c == 0x7f)

/-- Where `ducknng_http_stream_read_line` leaves the buffers, and whether the line is
    complete. -/
structure LineRead where
  result : Except String Bool
  raw : List UInt8
  sawCr : Bool
  line : List UInt8

/-- `ducknng_http_stream_read_line` -/
def readLine : List UInt8 → Bool → List UInt8 → LineRead
  | [], sawCr, line => ⟨.ok false, [], sawCr, line⟩
  | c :: raw, true, line =>
    if c != 0x0a then ⟨.error "ducknng: malformed chunked HTTP line ending", raw, false, line⟩
    else ⟨.ok true, raw, false, line⟩
  | c :: raw, false, line =>
    if c == 0x0d then readLine raw true line
    else if c == 0x0a then
      ⟨.error "ducknng: malformed chunked HTTP line ending", raw, false, line⟩
    else if !lineByte c then
      ⟨.error "ducknng: control character in chunked HTTP framing", raw, false, line⟩
    else if lineMax ≤ line.length then
      ⟨.error "ducknng: chunked HTTP size or trailer line is too long", raw, false, line⟩
    else readLine raw false (line ++ [c])

/-- The value of a hexadecimal digit. -/
def chunkDigit (c : UInt8) : Option Nat :=
  if 0x30 ≤ c && c ≤ 0x39 then some (c.toNat - 0x30)
  else if 0x61 ≤ c && c ≤ 0x66 then some (c.toNat - 0x61 + 10)
  else if 0x41 ≤ c && c ≤ 0x46 then some (c.toNat - 0x41 + 10)
  else none

/-- The digit loop of `ducknng_http_stream_parse_chunk_size`: the size and the number of
    digits. -/
def chunkDigits : List UInt8 → Nat → Nat → Except String (Nat × Nat)
  | [], size, digits => .ok (size, digits)
  | c :: p, size, digits =>
    -- the line buffer ends with a zero byte
    if c == 0 || c == 0x3b then .ok (size, digits)
    else
      match chunkDigit c with
      | none => .error "ducknng: invalid chunk size in streaming HTTP response"
      | some digit =>
        if size > (2 ^ 64 - 1 - digit) / 16 then
          .error "ducknng: chunk size overflows the streaming HTTP response counter"
        else chunkDigits p (size * 16 + digit) (digits + 1)

/-- The size that `ducknng_http_stream_parse_chunk_size` reads from a line. -/
def chunkSize (line : List UInt8) : Except String Nat := do
  let (size, digits) ← chunkDigits line 0 0
  if digits = 0 then .error "ducknng: empty chunk size in streaming HTTP response"
  else .ok size

namespace ClientStream

/-- `ducknng_http_stream_parse_chunk_size` -/
def parseChunkSize (s : ClientStream) : Except String ClientStream := do
  let size ← chunkSize s.line
  return { s with
    chunkRemaining := size
    line := []
    chunkState := if size = 0 then .trailers else .data }

/-- One read of a framing line, its outcome put back into the stream. -/
def withLine (s : ClientStream) (r : LineRead) : ClientStream :=
  { s with raw := r.raw, lineSawCr := r.sawCr, line := r.line }

/-- The loop over the two bytes that end a chunk's data: false where a byte differs. -/
def skipCrlf : List UInt8 → Nat → Bool × List UInt8 × Nat
  | c :: raw, 0 => if c != 0x0d then (false, raw, 1) else skipCrlf raw 1
  | c :: raw, 1 => if c != 0x0a then (false, raw, 2) else (true, raw, 2)
  | raw, pos => (true, raw, pos)

/-- The chunked loop of `ducknng_http_stream_process`; `none` if the fuel runs out. -/
def chunkedLoop (cap : Nat) : Nat → ClientStream → List UInt8 → Option Received
  | 0, _, _ => none
  | fuel + 1, s, out =>
    let fail (s : ClientStream) (e : String) : Received := ⟨.error (.text e), out, false, s⟩
    match s.chunkState with
    | .size =>
      let r := readLine s.raw s.lineSawCr s.line
      let s := s.withLine r
      match r.result with
      | .error e => some (fail s e)
      | .ok false => some ⟨.more, out, false, s⟩
      | .ok true =>
        match s.parseChunkSize with
        | .error e => some (fail s e)
        | .ok s => chunkedLoop cap fuel s out
    | .data =>
      let take := min (min s.raw.length (cap - out.length)) s.chunkRemaining
      let out := out ++ s.raw.take take
      let s := { s with raw := s.raw.drop take, chunkRemaining := s.chunkRemaining - take }
      let s := if s.chunkRemaining = 0 then { s with chunkState := .dataCrlf, dataCrlfPos := 0 }
        else s
      if 0 < out.length then some ⟨.done, out, false, s⟩
      else if s.raw.isEmpty then some ⟨.more, out, false, s⟩
      else chunkedLoop cap fuel s out
    | .dataCrlf =>
      let (same, raw, pos) := skipCrlf s.raw s.dataCrlfPos
      let s := { s with raw := raw, dataCrlfPos := pos }
      if !same then
        some (fail s "ducknng: malformed chunk data terminator in streaming HTTP response")
      else if pos < 2 then some ⟨.more, out, false, s⟩
      else chunkedLoop cap fuel { s with chunkState := .size } out
    | .trailers =>
      let r := readLine s.raw s.lineSawCr s.line
      let s := s.withLine r
      match r.result with
      | .error e => some (fail s e)
      | .ok false => some ⟨.more, out, false, s⟩
      | .ok true =>
        if s.line.isEmpty then some ⟨.done, out, true, { s with eof := true }⟩
        else chunkedLoop cap fuel { s with line := [] } out

/-- `ducknng_http_stream_process`, for an output buffer of `cap` bytes that already holds
    `out`. -/
def process (s : ClientStream) (cap : Nat) (out : List UInt8) : Option Received :=
  if s.eof then some ⟨.done, out, true, s⟩
  else
    match s.bodyMode with
    | .contentLength =>
      let take := min (min s.raw.length (cap - out.length)) s.contentRemaining
      let out := out ++ s.raw.take take
      let s := { s with raw := s.raw.drop take, contentRemaining := s.contentRemaining - take }
      let s := if s.contentRemaining = 0 then { s with eof := true } else s
      if 0 < out.length then some ⟨.done, out, false, s⟩
      else if s.eof then some ⟨.done, out, true, s⟩
      else some ⟨.more, out, false, s⟩
    | .untilClose =>
      let take := min s.raw.length (cap - out.length)
      if 0 < take then
        some ⟨.done, out ++ s.raw.take take, false, { s with raw := s.raw.drop take }⟩
      else some ⟨.more, out, false, s⟩
    | .none => some ⟨.done, out, true, { s with eof := true }⟩
    | .chunked => chunkedLoop cap (2 * s.raw.length + 3) s out

/-- `ducknng_http_client_stream_recv_begin` -/
def recvBegin (s : ClientStream) (cap : Nat) : Option Received :=
  if cap = 0 ∨ maxRecvBytes < cap then
    some ⟨.error (.text
      "ducknng: HTTP stream receive max_bytes must be between 1 and 67108864"), [], false, s⟩
  else if !s.isOpen || s.failed || s.closing then
    some ⟨.error (.text (if s.closing then "ducknng: HTTP stream is closing"
      else "ducknng: HTTP stream is not readable")), [], false, s⟩
  else (s.process cap []).map Received.finish

/-- `ducknng_http_client_stream_recv_advance`, after a raw read that ended with an error or put
    its bytes at the start of the raw buffer. -/
def recvAdvance (s : ClientStream) (cap : Nat) (out : List UInt8)
    (read : Except AioError (List UInt8)) : Option Received :=
  if cap = 0 ∨ maxRecvBytes < cap then
    some ⟨.error (.text "ducknng: missing or invalid streaming HTTP receive state"), out, false, s⟩
  else
    match read with
    | .error e =>
      if s.bodyMode = .untilClose ∧ ¬ s.closing ∧ (e = .connShut ∨ e = .closed) then
        some ⟨.done, out, true, { s with eof := true }⟩
      else some ⟨.error (.nng e), out, false, { s with failed := true }⟩
    | .ok bytes =>
      if bytes.length = 0 ∨ readBufferSize < bytes.length then
        some ⟨.error (.text
          "ducknng: streaming HTTP connection returned an empty or oversized read"), out, false,
          { s with failed := true }⟩
      else ({ s with raw := bytes }.process cap out).map Received.finish

/-- The callbacks of a receive: as long as it asks for more, another raw read is submitted.
    The first reads are those of `reads`. -/
def advanceAll (cap : Nat) (ending : AioError) :
    List (List UInt8) → ClientStream → List UInt8 →
      Option (StreamReply × ClientStream × RawConnection)
  | [], s, out => do
    let r ← s.recvAdvance cap out (.error ending)
    return (r.reply, r.stream, ⟨[], ending⟩)
  | bytes :: reads, s, out => do
    let r ← s.recvAdvance cap out (.ok bytes)
    match r.rc with
    | .more => advanceAll cap ending reads r.stream r.out
    | _ => return (r.reply, r.stream, ⟨reads, ending⟩)

/-- One receive of at most `cap` bytes. -/
def receive (s : ClientStream) (net : RawConnection) (cap : Nat) :
    Option (StreamReply × ClientStream × RawConnection) := do
  let r ← s.recvBegin cap
  match r.rc with
  | .more => advanceAll cap net.ending net.reads r.stream r.out
  | _ => return (r.reply, r.stream, net)

/-- The replies of a sequence of receives, each with the stream and the connection after it. -/
def receives (s : ClientStream) (net : RawConnection) :
    List Nat → Option (List (StreamReply × ClientStream × RawConnection))
  | [] => some []
  | cap :: caps => do
    let (reply, s, net) ← s.receive net cap
    let rest ← s.receives net caps
    return (reply, s, net) :: rest

/-- A stream whose response head announced a chunked body. -/
def openChunked : ClientStream where
  bodyMode := .chunked
  contentRemaining := 0
  chunkState := .size
  chunkRemaining := 0
  raw := []
  line := []
  lineSawCr := false
  dataCrlfPos := 0
  isOpen := true
  eof := false
  failed := false
  closing := false

end ClientStream

end Ducknng
