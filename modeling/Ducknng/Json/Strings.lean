import Ducknng.Checked

namespace Ducknng

open List

/-!
# JSON strings and arrays of strings

The hand-written reader of `ducknng_util.c` for JSON texts made of strings. A `char *` into
the text is the suffix it points at, which ends at the terminator.

* `JsonChars`, `JsonStringArray` — the grammar of what it reads, with the values.
* `jsonStringArrayContains_sound` — what the reader accepts is such an array, and it finds
  exactly its elements.
-/

/-! ### The reader -/

/-- `'"'`. -/
def quote : UInt8 := 0x22

/-- `'\\'`. -/
def backslash : UInt8 := 0x5c

/-- The bytes `ducknng_json_skip_ws` skips. -/
def isJsonWs (c : UInt8) : Bool := c == 0x20 || c == 0x09 || c == 0x0d || c == 0x0a

/-- `ducknng_json_skip_ws`. -/
def jsonSkipWs (text : List UInt8) : List UInt8 := text.dropWhile isJsonWs

/-- `ducknng_hex_value`. -/
def hexValue (c : UInt8) : Option Nat :=
  if 0x30 ≤ c ∧ c ≤ 0x39 then some (c.toNat - 0x30)
  else if 0x61 ≤ c ∧ c ≤ 0x66 then some (c.toNat - 0x61 + 10)
  else if 0x41 ≤ c ∧ c ≤ 0x46 then some (c.toNat - 0x41 + 10)
  else none

/-- The value of the four digits of a `\u` escape. -/
def hexValue4 (a b c d : UInt8) : Option Nat := do
  let a ← hexValue a
  let b ← hexValue b
  let c ← hexValue c
  let d ← hexValue d
  some (((a * 16 + b) * 16 + c) * 16 + d)

/-- What the byte after a backslash stands for. -/
def jsonUnescape (esc : UInt8) : Option UInt8 :=
  if esc = quote then some quote
  else if esc = backslash then some backslash
  else if esc = 0x2f then some 0x2f
  else if esc = 0x62 then some 0x08
  else if esc = 0x66 then some 0x0c
  else if esc = 0x6e then some 0x0a
  else if esc = 0x72 then some 0x0d
  else if esc = 0x74 then some 0x09
  else none

/-- `ducknng_buf_append` of one byte, and on. `room n` says whether the buffer can be made to
    hold `n` bytes. -/
def jsonAppendThen (room : Nat → Bool) (buf : List UInt8)
    (next : Except (Option String) (List UInt8 × List UInt8)) :
    Except (Option String) (List UInt8 × List UInt8) :=
  if room (buf.length + 2) then next
  else .error (some "ducknng: out of memory parsing JSON string")

/-- The loop of `ducknng_json_parse_string_dup`: the value and what stands behind the closing
    quote. An error carries the message, if one is set. -/
def jsonStringLoop (room : Nat → Bool) (buf : List UInt8) :
    List UInt8 → Except (Option String) (List UInt8 × List UInt8)
  | [] => .error (some "ducknng: unterminated JSON string")
  | c :: p =>
    if c = quote then
      if buf = [] ∧ room 1 = false then .error none else .ok (buf, p)
    else if c < 0x20 then .error (some "ducknng: invalid control character in JSON string")
    else if c = backslash then
      match p with
      | [] => .error (some "ducknng: unterminated JSON escape")
      | esc :: p =>
        match jsonUnescape esc with
        | some c => jsonAppendThen room buf (jsonStringLoop room (buf ++ [c]) p)
        | none =>
          if esc = 0x75 then
            match p with
            | h₁ :: h₂ :: h₃ :: h₄ :: p =>
              match hexValue4 h₁ h₂ h₃ h₄ with
              | none => .error (some "ducknng: invalid JSON unicode escape")
              | some value =>
                if value = 0 then .error (some "ducknng: JSON strings may not contain NUL")
                else if value > 0x7f then
                  .error (some "ducknng: only ASCII JSON unicode escapes are supported")
                else jsonAppendThen room buf
                  (jsonStringLoop room (buf ++ [UInt8.ofNat value]) p)
            | _ => .error (some "ducknng: invalid JSON unicode escape")
          else .error (some "ducknng: unsupported JSON escape")
    else jsonAppendThen room buf (jsonStringLoop room (buf ++ [c]) p)

/-- `ducknng_json_parse_string_dup`. -/
def jsonParseString (room : Nat → Bool) :
    List UInt8 → Except (Option String) (List UInt8 × List UInt8)
  | [] => .error (some "ducknng: expected JSON string")
  | c :: p =>
    if c = quote then jsonStringLoop room [] p
    else .error (some "ducknng: expected JSON string")

/-! ### Strings -/

/-- The text of a string between its quotes, with its value: plain bytes, two-byte escapes
    and the escapes of ASCII characters other than NUL. -/
inductive JsonChars : List UInt8 → List UInt8 → Prop
  | nil : JsonChars [] []
  | plain {c : UInt8} {text value : List UInt8} (hquote : c ≠ quote) (hslash : c ≠ backslash)
      (hctrl : ¬c < 0x20) (h : JsonChars text value) : JsonChars (c :: text) (c :: value)
  | escape {esc c : UInt8} {text value : List UInt8} (hesc : jsonUnescape esc = some c)
      (h : JsonChars text value) : JsonChars (backslash :: esc :: text) (c :: value)
  | unicode {h₁ h₂ h₃ h₄ : UInt8} {n : Nat} {text value : List UInt8}
      (hn : hexValue4 h₁ h₂ h₃ h₄ = some n) (hpos : n ≠ 0) (hascii : ¬n > 0x7f)
      (h : JsonChars text value) :
      JsonChars (backslash :: 0x75 :: h₁ :: h₂ :: h₃ :: h₄ :: text) (UInt8.ofNat n :: value)

variable {room : Nat → Bool} {text value rest : List UInt8}

theorem jsonAppendThen_eq_ok {buf : List UInt8}
    {next : Except (Option String) (List UInt8 × List UInt8)} {result : List UInt8 × List UInt8}
    (h : jsonAppendThen room buf next = .ok result) : next = .ok result := by
  unfold jsonAppendThen at h
  split at h
  · exact h
  · cases h

/-- The loop reads characters up to a closing quote. -/
theorem jsonStringLoop_sound {buf : List UInt8}
    (h : jsonStringLoop room buf text = .ok (value, rest)) :
    ∃ chars more, text = chars ++ quote :: rest ∧ value = buf ++ more ∧ JsonChars chars more := by
  fun_induction jsonStringLoop room buf text
  case case3 =>
    cases h
    exact ⟨[], [], rfl, by simp, .nil⟩
  case case6 hesc _ _ ih =>
    obtain ⟨chars, more, rfl, rfl, hchars⟩ := ih (jsonAppendThen_eq_ok h)
    exact ⟨_, _, rfl, by simp, .escape hesc hchars⟩
  case case10 hn hpos hascii _ _ _ ih =>
    obtain ⟨chars, more, rfl, rfl, hchars⟩ := ih (jsonAppendThen_eq_ok h)
    exact ⟨_, _, rfl, by simp, .unicode hn hpos hascii hchars⟩
  case case13 hquote hctrl hslash ih =>
    obtain ⟨chars, more, rfl, rfl, hchars⟩ := ih (jsonAppendThen_eq_ok h)
    exact ⟨_, _, rfl, by simp, .plain hquote hslash hctrl hchars⟩
  all_goals cases h

/-- A string is read with its quotes. -/
theorem jsonParseString_sound (h : jsonParseString room text = .ok (value, rest)) :
    ∃ chars, text = quote :: chars ++ quote :: rest ∧ JsonChars chars value := by
  cases text with
  | nil => cases h
  | cons c p =>
    rw [jsonParseString] at h
    split at h
    · next hquote =>
      obtain ⟨chars, more, rfl, rfl, hchars⟩ := jsonStringLoop_sound h
      exact ⟨chars, by rw [hquote]; rfl, hchars⟩
    · cases h

theorem jsonParseString_length (h : jsonParseString room text = .ok (value, rest)) :
    rest.length < text.length := by
  obtain ⟨chars, rfl, -⟩ := jsonParseString_sound h
  simp only [length_append, length_cons]
  omega

theorem jsonSkipWs_length (text : List UInt8) : (jsonSkipWs text).length ≤ text.length :=
  (dropWhile_sublist isJsonWs).length_le

/-! ### Arrays of strings -/

/-- The loop of `ducknng_json_string_array_contains` from an element on: what stands behind
    the closing bracket, the number of elements and whether one is the text wanted. -/
def jsonArrayLoop (room : Nat → Bool) (wanted : List UInt8) (text : List UInt8) (count : Nat)
    (found : Bool) : Except (Option String) (List UInt8 × Nat × Bool) :=
  match h : jsonParseString room text with
  | .error e => .error e
  | .ok (entry, p) =>
    match hp : jsonSkipWs p with
    | [] => .error (some "ducknng: expected ',' or ']' in JSON array")
    | c :: q =>
      if c = 0x2c then
        have : (jsonSkipWs q).length < text.length := by
          have hentry := jsonParseString_length h
          have hskip := jsonSkipWs_length p
          have hnext := jsonSkipWs_length q
          rw [hp, length_cons] at hskip
          omega
        jsonArrayLoop room wanted (jsonSkipWs q) (count + 1) (found || entry = wanted)
      else if c = 0x5d then .ok (q, count + 1, found || entry = wanted)
      else .error (some "ducknng: expected ',' or ']' in JSON array")
termination_by text.length

/-- `ducknng_json_string_array_contains`: whether the text wanted is an element, and the
    number of elements. -/
def jsonStringArrayContains (room : Nat → Bool) (json wanted : List UInt8) :
    Except (Option String) (Bool × Nat) :=
  match jsonSkipWs json with
  | [] => .error (some "ducknng: expected JSON array of strings")
  | c :: p =>
    if c ≠ 0x5b then .error (some "ducknng: expected JSON array of strings")
    else
      let body := match jsonSkipWs p with
        | [] => jsonArrayLoop room wanted [] 0 false
        | d :: q => if d = 0x5d then .ok (q, 0, false) else jsonArrayLoop room wanted
            (d :: q) 0 false
      match body with
      | .error e => .error e
      | .ok (rest, count, found) =>
        if jsonSkipWs rest = [] then .ok (found, count)
        else .error (some "ducknng: trailing characters after JSON array")

/-- White space. -/
def JsonWs (text : List UInt8) : Prop := ∀ c ∈ text, isJsonWs c = true

/-- What may stand between the brackets of an array that is not empty. -/
inductive JsonElements : List UInt8 → List (List UInt8) → Prop
  | last {w₁ w₂ text value : List UInt8} (h₁ : JsonWs w₁) (h : JsonChars text value)
      (h₂ : JsonWs w₂) : JsonElements (w₁ ++ quote :: text ++ quote :: w₂) [value]
  | cons {w₁ w₂ text value more : List UInt8} {values : List (List UInt8)} (h₁ : JsonWs w₁)
      (h : JsonChars text value) (h₂ : JsonWs w₂) (hmore : JsonElements more values) :
      JsonElements (w₁ ++ quote :: text ++ quote :: w₂ ++ 0x2c :: more) (value :: values)

/-- An array of strings, with its elements. -/
def JsonStringArray (text : List UInt8) (values : List (List UInt8)) : Prop :=
  ∃ w₁ body w₂, text = w₁ ++ 0x5b :: body ++ 0x5d :: w₂ ∧ JsonWs w₁ ∧ JsonWs w₂ ∧
    (JsonWs body ∧ values = [] ∨ JsonElements body values)

/-- A text is white space and what is left when that is skipped. -/
theorem jsonSkipWs_split (text : List UInt8) : ∃ w, text = w ++ jsonSkipWs text ∧ JsonWs w :=
  ⟨text.takeWhile isJsonWs, takeWhile_append_dropWhile.symm,
    all_eq_true.1 all_takeWhile⟩

/-- The loop reads elements up to a closing bracket and finds what is among them. -/
theorem jsonArrayLoop_sound {wanted : List UInt8} {count count' : Nat} {found found' : Bool}
    (h : jsonArrayLoop room wanted text count found = .ok (rest, count', found')) :
    ∃ body values, text = body ++ 0x5d :: rest ∧
      (∀ w, JsonWs w → JsonElements (w ++ body) values) ∧ count' = count + values.length ∧
      (found' = true ↔ found = true ∨ wanted ∈ values) := by
  fun_induction jsonArrayLoop room wanted text count found
  -- an element and a comma
  case case3 entry p hentry q hq _ ih =>
    obtain ⟨chars, rfl, hchars⟩ := jsonParseString_sound hentry
    obtain ⟨w, hw, hws⟩ := jsonSkipWs_split p
    obtain ⟨v, hv, hvs⟩ := jsonSkipWs_split q
    obtain ⟨body, values, hbody, hvalues, hcount, hfound⟩ := ih h
    rw [hq] at hw
    rw [hbody] at hv
    subst hv hw
    refine ⟨quote :: chars ++ quote :: w ++ 0x2c :: (v ++ body), entry :: values, by simp, ?_,
      ?_, ?_⟩
    · intro w₀ hw₀
      have hcons := JsonElements.cons hw₀ hchars hws (hvalues v hvs)
      simpa using hcons
    · rw [hcount, length_cons]
      omega
    · rw [hfound, mem_cons]
      simp only [Bool.or_eq_true, decide_eq_true_eq, @eq_comm _ entry wanted, or_assoc]
  -- the last element
  case case4 entry p hentry q hq _ =>
    obtain ⟨chars, rfl, hchars⟩ := jsonParseString_sound hentry
    obtain ⟨w, hw, hws⟩ := jsonSkipWs_split p
    rw [hq] at hw
    subst hw
    cases h
    refine ⟨quote :: chars ++ quote :: w, [entry], by simp, ?_, rfl, ?_⟩
    · intro w₀ hw₀
      have hlast := JsonElements.last hw₀ hchars hws
      simpa using hlast
    · simp only [Bool.or_eq_true, decide_eq_true_eq, mem_singleton, @eq_comm _ entry wanted]
  all_goals cases h

/-- **Membership in a JSON array.** What the reader accepts is an array of strings; it counts
    the elements and finds exactly those. -/
theorem jsonStringArrayContains_sound {json wanted : List UInt8} {found : Bool} {count : Nat}
    (h : jsonStringArrayContains room json wanted = .ok (found, count)) :
    ∃ values, JsonStringArray json values ∧ count = values.length ∧
      (found = true ↔ wanted ∈ values) := by
  unfold jsonStringArrayContains at h
  obtain ⟨w₁, hw₁, hws₁⟩ := jsonSkipWs_split json
  split at h
  · cases h
  next c p hp =>
  rw [hp] at hw₁
  split at h
  · cases h
  next hopen =>
  obtain rfl : c = 0x5b := not_not.1 hopen
  obtain ⟨w, hw, hws⟩ := jsonSkipWs_split p
  dsimp only at h
  split at h
  · cases h
  next rest count' found' hbody =>
  split at h
  · next hend =>
    cases h
    obtain ⟨w₂, hw₂, hws₂⟩ := jsonSkipWs_split rest
    rw [hend, append_nil] at hw₂
    subst hw₂
    split at hbody
    · next hnil =>
      rw [jsonArrayLoop] at hbody
      cases hbody
    · next d q hq =>
      rw [hq] at hw
      split at hbody
      · next hclose =>
        -- the empty array
        cases hbody
        subst hclose hw hw₁
        exact ⟨[], ⟨w₁, w, rest, by simp, hws₁, hws₂, .inl ⟨hws, rfl⟩⟩, rfl, by simp⟩
      · obtain ⟨body, values, hq', hvalues, hcount, hfound⟩ := jsonArrayLoop_sound hbody
        rw [hq'] at hw
        subst hw hw₁
        refine ⟨values, ⟨w₁, w ++ body, rest, by simp, hws₁, hws₂, .inr (hvalues w hws)⟩, ?_, ?_⟩
        · rw [hcount, Nat.zero_add]
        · rw [hfound]
          simp
  · cases h

end Ducknng
