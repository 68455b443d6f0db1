import Ducknng.Wire.Core

namespace Ducknng

/-!
# Session control requests

A control names its session in its payload: the controls of `ducknng_methods.c` read a JSON
text, `upload_append` a counted binary prefix. The JSON text is not parsed but searched, so a
key may stand anywhere in it.

* `parseSessionControlRequest` — the credentials in a JSON payload.
* `parseUploadAppend` — those in front of an upload batch.
-/

/-- The C string in a buffer that is closed by a NUL byte: it ends at the first one. -/
def CStr.ofBytes (bytes : List UInt8) : CStr where
  bytes := bytes.takeWhile (· != 0)
  noNul := by
    intro h
    have hall := List.all_eq_true.1 (List.all_takeWhile (p := (· != 0)) (l := bytes)) 0 h
    simp at hall

/-- `strstr`: the text from the first occurrence on. -/
def strstr (needle : List UInt8) : List UInt8 → Option (List UInt8)
  | [] => if needle = [] then some [] else none
  | c :: text => if needle.isPrefixOf (c :: text) then some (c :: text) else strstr needle text

/-- `strchr`: the text from the first occurrence on. -/
def strchr (c : UInt8) (text : List UInt8) : Option (List UInt8) :=
  match text.dropWhile (· != c) with
  | [] => none
  | rest => some rest

/-- The digits `strtoull` reads, with the value so far and whether there was one. -/
def strtoullDigits : List UInt8 → Nat → Bool → Nat × Bool
  | [], value, seen => (value, seen)
  | c :: text, value, seen =>
    if 0x30 ≤ c ∧ c ≤ 0x39 then strtoullDigits text (value * 10 + (c.toNat - 0x30)) true
    else (value, seen)

/-- `strtoull` in base 10; `none` when it converts nothing. -/
def strtoull (text : List UInt8) : Option Nat :=
  let text := text.dropWhile fun c => c == 0x20 || (0x09 ≤ c && c ≤ 0x0d)
  let negative := text.head? == some 0x2d
  let text := if negative || text.head? == some 0x2b then text.tail else text
  let (value, seen) := strtoullDigits text 0 false
  if !seen then none
  else if value > u64Max then some u64Max
  else if negative then some ((2 ^ 64 - value) % 2 ^ 64)
  else some value

/-- `ducknng_json_find_key`: the text behind the first colon after the first occurrence of the
    quoted key. -/
def jsonFindKey (json key : List UInt8) : Option (List UInt8) := do
  let needle := 0x22 :: key ++ [0x22]
  if needle.length ≥ 128 then none
  let found ← strstr needle json
  let colon ← strchr 0x3a (found.drop needle.length)
  some (colon.tail.dropWhile fun c => c == 0x20 || c == 0x09 || c == 0x0a || c == 0x0d)

/-- `ducknng_json_extract_u64` of `ducknng_methods.c`. -/
def jsonExtractU64 (json key : List UInt8) : Option Nat := do
  let text ← jsonFindKey json key
  strtoull (if text.head? == some 0x22 then text.tail else text)

/-- `ducknng_json_extract_string_dup` of `ducknng_methods.c`: escapes are not undone. -/
def jsonExtractStringDup (alloc : Bool) (json key : List UInt8) : Option CStr := do
  let text ← jsonFindKey json key
  if text.head? ≠ some 0x22 then none
  let rest ← strchr 0x22 text.tail
  if !alloc then none
  some (.ofBytes (text.tail.take (text.tail.length - rest.length)))

/-- `ducknng_session_control_request`. -/
structure SessionControlRequest where
  sessionId : Nat
  sessionToken : CStr
  correlationId : Option CStr
  deriving DecidableEq

/-- Which copies of a control request can be allocated. -/
structure ControlAlloc where
  json : Bool
  token : Bool
  correlationId : Bool

/-- `session_id`. -/
def sessionIdKey : List UInt8 := [0x73, 0x65, 0x73, 0x73, 0x69, 0x6f, 0x6e, 0x5f, 0x69, 0x64]

/-- `session_token`. -/
def sessionTokenKey : List UInt8 :=
  [0x73, 0x65, 0x73, 0x73, 0x69, 0x6f, 0x6e, 0x5f, 0x74, 0x6f, 0x6b, 0x65, 0x6e]

/-- `correlation_id`. -/
def correlationIdKey : List UInt8 :=
  [0x63, 0x6f, 0x72, 0x72, 0x65, 0x6c, 0x61, 0x74, 0x69, 0x6f, 0x6e, 0x5f, 0x69, 0x64]

/-- `ducknng_parse_session_control_request`. -/
def parseSessionControlRequest (method : String) (alloc : ControlAlloc) (payload : List UInt8) :
    Except (Status × String) SessionControlRequest :=
  let refusal := (Status.invalid,
    "ducknng: " ++ method ++ " requires JSON payload with session_id and session_token")
  if payload = [] || !alloc.json then .error refusal
  else
    let json := (CStr.ofBytes payload).bytes
    match jsonExtractU64 json sessionIdKey with
    | none => .error refusal
    | some sessionId =>
      match jsonExtractStringDup alloc.token json sessionTokenKey with
      | none => .error refusal
      | some token =>
        if token.bytes = [] then .error refusal
        else .ok ⟨sessionId, token,
          jsonExtractStringDup alloc.correlationId json correlationIdKey⟩

/-- What `ducknng_method_upload_append_handler` reads of its payload. -/
structure UploadAppendRequest where
  sessionId : Nat
  sessionToken : CStr
  batch : List UInt8

/-- The head of `ducknng_method_upload_append_handler`: a token with a NUL byte in it would be
    cut by the comparison, so it is refused. -/
def parseUploadAppend (alloc : Bool) (payload : List UInt8) :
    Except (Status × String) UploadAppendRequest :=
  match uploadAppendParsePrefix payload with
  | none => .error (.invalid,
      "ducknng: upload_append payload must be [session_id][token_len][token][quack batch]")
  | some p =>
    if !alloc then .error (.internal, "ducknng: out of memory copying upload token")
    else
      let token := CStr.ofBytes p.token
      if token.bytes.length ≠ p.token.length then
        .error (.invalid, "ducknng: upload session token contains an embedded NUL")
      else .ok ⟨p.sessionId, token, payload.drop p.quackOffset⟩

end Ducknng
