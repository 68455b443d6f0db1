import Ducknng.Http.Routes

namespace Ducknng

open List

/-!
# HttpHeader lists as JSON texts

A request carries its headers as the JSON text `headers_json`, an array of objects with a
`name` and a `value`. Two hand-written readers go over such a text: the one of
`ducknng_util.c`, which looks a header up, and the one of `ducknng_http_compat.c`, which adds
the headers to the request that is sent. They share their loops and differ in what they take
for white space, in the strings and in the names they accept.

* `HeaderReader` — the loops, over what the readers differ in.
* `httpHeadersJsonGetHeader`, `httpApplyHeadersJsonCommon` — the two readers.
* `HeaderReader.field_eq_ok`, `HeaderReader.header_eq_ok` — what a step of the loops has read.
-/

/-! ### Names and values -/

/-- `ducknng_ascii_tolower_int`. -/
def asciiToLower (c : UInt8) : UInt8 := if 0x41 ≤ c ∧ c ≤ 0x5a then c + 0x20 else c

/-- `ducknng_ascii_ieq`. -/
def asciiIeq : List UInt8 → List UInt8 → Bool
  | [], [] => true
  | a :: as, b :: bs => asciiToLower a == asciiToLower b && asciiIeq as bs
  | _, _ => false

/-- `ducknng_http_token_is_valid` on the bytes of a text. -/
def isToken (text : List UInt8) : Bool := text ≠ [] && text.all isTokenByte

/-- A control character. -/
def isControl (c : UInt8) : Bool := c < 0x20 || c == 0x7f

/-- `ducknng_http_header_value_is_valid`. -/
def httpHeaderValueIsValid (text : List UInt8) : Bool := text.all fun c => !isControl c

/-! ### The loops -/

/-- A header: its name and its value. -/
abbrev HttpHeader := List UInt8 × List UInt8

/-- The fields of a header object that were read. -/
structure HeaderFields where
  name : Option (List UInt8) := none
  value : Option (List UInt8) := none
  deriving DecidableEq

/-- `"name"`. -/
def nameField : List UInt8 := [0x6e, 0x61, 0x6d, 0x65]

/-- `"value"`. -/
def valueField : List UInt8 := [0x76, 0x61, 0x6c, 0x75, 0x65]

/-- A field of a header object is taken in. -/
def HeaderFields.put (fields : HeaderFields) (key value : List UInt8) :
    Except (Option String) HeaderFields :=
  if key = nameField then
    if fields.name.isSome then
      .error (some "ducknng: duplicate header name field in headers_json")
    else .ok { fields with name := some value }
  else if key = valueField then
    if fields.value.isSome then
      .error (some "ducknng: duplicate header value field in headers_json")
    else .ok { fields with value := some value }
  else .error (some "ducknng: headers_json objects may contain only name and value fields")

/-- The byte wanted, and what stands behind it. -/
def expectByte (wanted : UInt8) (message : String) :
    List UInt8 → Except (Option String) (List UInt8)
  | [] => .error (some message)
  | c :: p => if c = wanted then .ok p else .error (some message)

/-- What the readers of a header list differ in. -/
structure HeaderReader where
  /-- What stands between the tokens. -/
  isWs : UInt8 → Bool
  /-- The string at a position, and what stands behind it. -/
  parseString : List UInt8 → Except (Option String) (List UInt8 × List UInt8)
  /-- The message about an object without a name or a value. -/
  incomplete : String
  /-- The message about a name or a value that is not accepted. -/
  refuses : HttpHeader → Option String
  parseString_length : ∀ {text value rest : List UInt8},
    parseString text = .ok (value, rest) → rest.length < text.length

namespace HeaderReader

variable (r : HeaderReader)

def skipWs (text : List UInt8) : List UInt8 := text.dropWhile r.isWs

theorem skipWs_length (text : List UInt8) : (r.skipWs text).length ≤ text.length :=
  (dropWhile_sublist r.isWs).length_le

/-- A field of a header object, up to the byte behind it. -/
def field (fields : HeaderFields) (text : List UInt8) :
    Except (Option String) (HeaderFields × List UInt8) := do
  let (key, p) ← r.parseString (r.skipWs text)
  let p ← expectByte 0x3a "ducknng: expected ':' in headers_json" (r.skipWs p)
  let (value, p) ← r.parseString (r.skipWs p)
  let fields ← fields.put key value
  return (fields, r.skipWs p)

end HeaderReader

/-- A computation that goes on succeeded in its first part. -/
theorem Except.parts_of_bind {ε α β : Type} {x : Except ε α} {f : α → Except ε β} {b : β}
    (h : (x >>= f) = .ok b) : ∃ a, x = .ok a ∧ f a = .ok b := by
  cases x with
  | error e => cases h
  | ok a => exact ⟨a, rfl, h⟩

variable {text rest : List UInt8}

theorem expectByte_eq_ok {wanted : UInt8} {message : String}
    (h : expectByte wanted message text = .ok rest) : text = wanted :: rest := by
  cases text with
  | nil => cases h
  | cons c p =>
    rw [expectByte] at h
    split at h
    · next hc =>
      cases h
      rw [hc]
    · cases h

namespace HeaderReader

variable (r : HeaderReader)

/-- What the pieces of a field are. -/
theorem field_eq_ok {r : HeaderReader} {fields fields' : HeaderFields}
    (h : r.field fields text = .ok (fields', rest)) :
    ∃ key p q value s, r.parseString (r.skipWs text) = .ok (key, p) ∧ r.skipWs p = 0x3a :: q ∧
      r.parseString (r.skipWs q) = .ok (value, s) ∧ fields.put key value = .ok fields' ∧
      rest = r.skipWs s := by
  obtain ⟨⟨key, p⟩, hkey, h⟩ := Except.parts_of_bind h
  obtain ⟨q, hcolon, h⟩ := Except.parts_of_bind h
  obtain ⟨⟨value, s⟩, hvalue, h⟩ := Except.parts_of_bind h
  obtain ⟨fields₁, hput, h⟩ := Except.parts_of_bind h
  obtain ⟨rfl, rfl⟩ := Prod.mk.inj (Except.ok.inj h)
  exact ⟨key, p, q, value, s, hkey, expectByte_eq_ok hcolon, hvalue, hput, rfl⟩

theorem field_length {r : HeaderReader} {fields fields' : HeaderFields}
    (h : r.field fields text = .ok (fields', rest)) : rest.length < text.length := by
  obtain ⟨key, p, q, value, s, hkey, hcolon, hvalue, -, rfl⟩ := field_eq_ok h
  have h₁ := r.parseString_length hkey
  have h₂ := r.parseString_length hvalue
  have h₃ := r.skipWs_length text
  have h₄ := r.skipWs_length p
  have h₅ := r.skipWs_length q
  have h₆ := r.skipWs_length s
  rw [hcolon, length_cons] at h₄
  omega

/-- The inner loop: the fields of a header object, up to its closing brace. -/
def fields (read : HeaderFields) (text : List UInt8) :
    Except (Option String) (HeaderFields × List UInt8) :=
  match h : r.field read text with
  | .error e => .error e
  | .ok (_, []) => .error (some "ducknng: expected ',' or '\x7d' in headers_json")
  | .ok (read', c :: p) =>
    if c = 0x2c then
      have : p.length < text.length := by
        have hlen := field_length h
        rw [length_cons] at hlen
        omega
      fields read' p
    else if c = 0x7d then .ok (read', p)
    else .error (some "ducknng: expected ',' or '\x7d' in headers_json")
termination_by text.length

/-- A header object, and what stands behind it. -/
def header (text : List UInt8) : Except (Option String) (HttpHeader × List UInt8) := do
  let p ← expectByte 0x7b "ducknng: expected header object in headers_json" (r.skipWs text)
  let (read, p) ← r.fields {} p
  match read.name, read.value with
  | some name, some value =>
    if name = [] then .error (some r.incomplete)
    else match r.refuses (name, value) with
      | some message => .error (some message)
      | none => .ok ((name, value), p)
  | _, _ => .error (some r.incomplete)

theorem fields_length {r : HeaderReader} {read read' : HeaderFields}
    (h : r.fields read text = .ok (read', rest)) : rest.length < text.length := by
  fun_induction fields r read text
  case case3 hfield _ ih =>
    have hlen := field_length hfield
    have hrest := ih h
    rw [length_cons] at hlen
    omega
  case case4 hfield _ =>
    cases h
    exact Nat.lt_trans (Nat.lt_succ_self _) (field_length hfield)
  all_goals cases h

/-- What the pieces of a header object are. -/
theorem header_eq_ok {r : HeaderReader} {found : HttpHeader}
    (h : r.header text = .ok (found, rest)) :
    ∃ p, r.skipWs text = 0x7b :: p ∧ r.fields {} p = .ok (⟨some found.1, some found.2⟩, rest) ∧
      found.1 ≠ [] ∧ r.refuses found = none := by
  obtain ⟨p, hopen, h⟩ := Except.parts_of_bind h
  obtain ⟨⟨⟨name, value⟩, q⟩, hfields, h⟩ := Except.parts_of_bind h
  dsimp only at h
  split at h
  next =>
    split at h
    · cases h
    next hne =>
    split at h
    · cases h
    next hrefuses =>
    obtain ⟨rfl, rfl⟩ := Prod.mk.inj (Except.ok.inj h)
    exact ⟨p, expectByte_eq_ok hopen, hfields, hne, hrefuses⟩
  · cases h

theorem header_length {r : HeaderReader} {found : HttpHeader}
    (h : r.header text = .ok (found, rest)) : rest.length < text.length := by
  obtain ⟨p, hopen, hfields, -⟩ := header_eq_ok h
  have hskip := r.skipWs_length text
  have hlen := fields_length hfields
  rw [hopen, length_cons] at hskip
  omega

section
variable {σ : Type} (act : σ → HttpHeader → Except (Option String) σ)

/-- The outer loop from an object on: `act` is what is done with each header. -/
def headersLoop (s : σ) (text : List UInt8) : Except (Option String) (σ × List UInt8) :=
  match h : r.header text with
  | .error e => .error e
  | .ok (found, p) =>
    match act s found with
    | .error e => .error e
    | .ok s =>
      match hp : r.skipWs p with
      | [] => .error (some "ducknng: expected ',' or ']' in headers_json")
      | c :: q =>
        if c = 0x2c then
          have : q.length < text.length := by
            have hlen := header_length h
            have hskip := r.skipWs_length p
            rw [hp, length_cons] at hskip
            omega
          headersLoop s q
        else if c = 0x5d then .ok (s, q)
        else .error (some "ducknng: expected ',' or ']' in headers_json")
termination_by text.length

/-- What stands behind the opening bracket, up to the closing one. -/
def headersBody (s : σ) : List UInt8 → Except (Option String) (σ × List UInt8)
  | [] => r.headersLoop act s []
  | c :: q => if c = 0x5d then .ok (s, q) else r.headersLoop act s (c :: q)

/-- A header list from its first byte to its last. -/
def headers (s : σ) (json : List UInt8) : Except (Option String) σ := do
  let p ← expectByte 0x5b
    "ducknng: headers_json must be a JSON array of \x7bname,value\x7d objects" (r.skipWs json)
  let (s, rest) ← r.headersBody act s (r.skipWs p)
  if r.skipWs rest = [] then .ok s
  else .error (some "ducknng: trailing characters after headers_json")

end

end HeaderReader

/-! ### The reader that looks a header up -/

variable (room : Nat → Bool)

/-- The reader of `ducknng_util.c`. -/
def utilHeaderReader : HeaderReader where
  isWs := isJsonWs
  parseString := jsonParseString room
  incomplete :=
    "ducknng: each headers_json object must contain non-empty name and a string value"
  refuses header :=
    if httpHeaderValueIsValid header.2 then none
    else some "ducknng: HTTP header value must not contain control characters"
  parseString_length := jsonParseString_length

/-- What `ducknng_http_headers_json_get_header` does with a header. `copies` says whether its
    value can be copied. -/
def matchHeader (wanted : List UInt8) (rejectDuplicates copies : Bool)
    (found : Option (List UInt8)) (header : HttpHeader) :
      Except (Option String) (Option (List UInt8)) :=
  if asciiIeq header.1 wanted then
    if found.isSome && rejectDuplicates then
      .error (some ("ducknng: duplicate HTTP header '" ++
        String.ofList (wanted.map fun c => Char.ofNat c.toNat) ++ "'"))
    else if copies then .ok (some header.2)
    else .error (some "ducknng: out of memory copying header value")
  else .ok found

/-- `ducknng_http_headers_json_get_header`: the value of the last header of that name. -/
def httpHeadersJsonGetHeader (copies : Bool) (headersJson wanted : List UInt8)
    (rejectDuplicates : Bool) : Except (Option String) (Option (List UInt8)) :=
  if wanted = [] then .ok none
  else (utilHeaderReader room).headers (matchHeader wanted rejectDuplicates copies) none headersJson

/-! ### The reader that adds the headers to a request -/

/-- `isspace` in the C locale. -/
def isSpace (c : UInt8) : Bool := c == 0x20 || (0x09 ≤ c && c ≤ 0x0d)

end Ducknng
