import Ducknng.Lib.Leb128
import Ducknng.Quack.Core

namespace Ducknng

open List ByteCodec

/-!
# The Quack primitives read what they write

Each writer of the byte kernel emits a fixed byte string, and the reader of the
same name takes that byte string back off the front of whatever follows.

* `fieldBytes`, `countedBytes` — what a field identifier and a counted byte
  string look like; `ulebBytes 10` is a 64-bit integer.
* `Quack.emits_*` — the writers; `Quack.reads_*` — the readers.
* `Quack.reads_peek`, `Quack.reads_remaining` — the two readers that look ahead.
-/

/-- A field identifier. -/
def fieldBytes (fieldId : Nat) : List UInt8 := leBytes 2 fieldId

/-- A byte string behind its length. -/
def countedBytes (data : List UInt8) : List UInt8 := ulebBytes 10 data.length ++ data

@[simp] theorem fieldBytes_length (fieldId : Nat) : (fieldBytes fieldId).length = 2 :=
  leBytes_length 2 fieldId

theorem countedBytes_length_pos (data : List UInt8) : 0 < (countedBytes data).length := by
  have h : 0 < (ulebBytes 10 data.length).length := ulebBytes_length_pos 9 data.length
  rw [countedBytes, length_append]
  omega

/-- A reader works on a `size_t` of bytes and may materialise so many values. -/
def readBounds : Bounds := ⟨sizeMax, Quack.maxMaterializedValues⟩

variable {c : Cursor} {bs rest : List UInt8} {n f v : Nat}

namespace Qk

/-! ### Writers -/

theorem emits_writeBytes (source : List UInt8) :
    Emits sizeMax (writeBytes source) source := by
  intro s hs
  obtain ⟨hpos, _⟩ := hs
  rw [Nat.add_zero] at hpos
  unfold writeBytes Sink.Fits
  cases hadd : sizeAdd s.position source.length with
  | none =>
    -- The sum is not a size, so the bytes do not fit either.
    have hover : ¬s.position + source.length ≤ sizeMax := by
      intro h
      have hsome := (sizeAdd_eq_some hpos).2 ⟨rfl, h⟩
      rw [hadd] at hsome
      cases hsome
    exact ⟨fun h => absurd h.1 hover, fun _ => ⟨_, rfl⟩⟩
  | some next =>
    obtain ⟨rfl, hle⟩ := (sizeAdd_eq_some hpos).1 hadd
    simp only [hle, true_and]
    by_cases hcap : s.storing = true ∧ s.position + source.length > s.capacity
    · rw [if_pos hcap]
      refine ⟨fun h => ?_, fun _ => ⟨_, rfl⟩⟩
      have := h hcap.1
      omega
    · rw [if_neg hcap]
      refine ⟨fun _ => rfl, fun h => ?_⟩
      exact absurd (fun hs => Nat.le_of_not_lt fun hlt => hcap ⟨hs, hlt⟩) h

theorem emits_writeUleb128Loop (fuel value : Nat) :
    Emits sizeMax (writeUleb128Loop fuel value) (ulebBytes fuel value) := by
  induction fuel generalizing value with
  | zero => exact Emits.pure
  | succ fuel ih =>
    rw [writeUleb128Loop]
    by_cases h : value < 128
    · have hdiv : value / 128 = 0 := Nat.div_eq_of_lt h
      have hmod : value % 128 = value := Nat.mod_eq_of_lt h
      rw [ulebBytes_last h]
      simp only [hdiv, hmod]
      exact (emits_writeBytes _).bind Emits.pure
    · have hdiv : value / 128 ≠ 0 := by
        intro h0
        exact h (by omega)
      rw [ulebBytes_more h]
      simp only [ne_eq, hdiv]
      exact (emits_writeBytes _).bind (ih _)

/-! ### Readers -/

/-- Standing before a nonempty prefix, a cursor is inside its data. -/
theorem off_add_le (hne : bs ≠ []) (h : c.data.drop c.off = bs ++ rest) :
    c.off + bs.length ≤ c.data.length := by
  have hlen := congrArg length h
  rw [length_drop, length_append] at hlen
  have hpos := length_pos_iff.2 hne
  omega

theorem readerNeed_of_le (h : c.off + n ≤ c.data.length) :
    readerNeed n c = .ok ((), c) := readerNeed_eq_ok.2 ⟨by omega, rfl⟩

theorem takeBytes_of_append (h : c.data.drop c.off = bs ++ rest) :
    takeBytes bs.length c = .ok (bs, c.advance bs.length 0) := by
  show Except.ok ((c.data.drop c.off).take bs.length, _) = _
  rw [h, take_left]

theorem reads_readU8 {limit : Bounds} (b : UInt8) : Reads limit readU8 [b] 0 b := by
  intro c rest _ hdrop _
  have hoff := off_add_le (cons_ne_nil b []) hdrop
  unfold readU8
  rw [Step.bind_eq_ok]
  refine ⟨(), c, readerNeed_of_le hoff, ?_⟩
  rw [Step.bind_eq_ok]
  exact ⟨[b], _, takeBytes_of_append hdrop, rfl⟩

theorem reads_readBoolean (b : Bool) :
    Reads readBounds readBoolean [if b then 1 else 0] 0 b := by
  refine (reads_readU8 _).bind_nil ?_
  cases b <;> exact Reads.pure _

/-- Looking at the next field does not consume it. -/
theorem peekU16le_of_append (hf : f < 2 ^ 16) (hdrop : c.data.drop c.off = fieldBytes f ++ rest) :
    peekU16le c = .ok (f, c) := by
  have hne : fieldBytes f ≠ [] := ne_nil_of_length_pos (by simp)
  have hoff := off_add_le hne hdrop
  have hval : leVal ((c.data.drop c.off).take 2) = f := by
    rw [hdrop, ← fieldBytes_length f, take_left]
    exact leVal_leBytes (by simpa using hf)
  unfold peekU16le
  rw [Step.bind_eq_ok]
  refine ⟨(), c, readerNeed_of_le hoff, ?_⟩
  rw [Step.bind_eq_ok]
  exact ⟨_, c, rfl, by rw [hval]; rfl⟩

theorem reads_readU16le (hf : f < 2 ^ 16) :
    Reads readBounds readU16le (fieldBytes f) 0 f := by
  intro c rest _ hdrop _
  have htake := takeBytes_of_append hdrop
  unfold readU16le
  rw [Step.bind_eq_ok]
  refine ⟨f, c, peekU16le_of_append hf hdrop, ?_⟩
  rw [Step.bind_eq_ok]
  exact ⟨_, _, htake, rfl⟩

/-- The next byte, or the end of the region. -/
theorem readU8_cases (c : Cursor) :
    (∃ b rest, c.data.drop c.off = b :: rest ∧ readU8 c = .ok (b, c.advance 1 0)) ∨
      readU8 c = .error .truncated := by
  cases hdrop : c.data.drop c.off with
  | cons b rest =>
    have hread : Reads ⟨c.data.length, c.spent⟩ readU8 [b] 0 b := reads_readU8 b
    exact .inl ⟨b, rest, rfl, hread c rest (Nat.le_refl _) hdrop (Nat.le_refl _)⟩
  | nil =>
    have hend := drop_eq_nil_iff.1 hdrop
    have hneed : readerNeed 1 c = .error .truncated := if_pos (by omega)
    right
    show (readerNeed 1 c).bind _ = _
    rw [hneed]
    rfl

/-- The loop of both base-128 readers: a tenth byte has to be `legal`, and `finish` makes
    the result of the collected bits, the last shift and the last byte. -/
def groupLoop {α : Type} (legal : UInt8 → Prop) [DecidablePred legal]
    (finish : Nat → Nat → UInt8 → α) : Nat → Nat → Nat → QkRead α
  | 0, _, _ => throw .overflow
  | fuel + 1, shift, bits =>
    if shift ≥ 64 then throw .overflow
    else do
      let byte ← readU8
      if shift = 63 ∧ ¬legal byte then throw .overflow
      else
        let bits := bits ||| (payload byte <<< shift)
        if byte &&& 0x80 = 0 then pure (finish bits shift byte)
        else groupLoop legal finish fuel (shift + 7) bits

section
variable {α : Type} {legal : UInt8 → Prop} [DecidablePred legal]
  {finish : Nat → Nat → UInt8 → α} {limit : Bounds} {fuel shift bits : Nat}

/-- The bits are collected group by group: `bits` holds the groups below `shift`. -/
theorem reads_groupLoop (g : Groups) (hfuel : shift + 7 * fuel = 77) (hbits : bits < 2 ^ shift)
    (hlen : shift + 7 * g.more.length ≤ 63)
    (hlegal : shift + 7 * g.more.length = 63 → legal g.last) :
    Reads limit (groupLoop legal finish fuel shift bits) g.bytes 0
      (finish (bits + g.unsigned * 2 ^ shift) (shift + 7 * g.more.length) g.last) := by
  induction g using Groups.induction generalizing fuel shift bits with
  | one b hb =>
    obtain ⟨fuel, rfl⟩ : ∃ k, fuel = k + 1 := ⟨fuel - 1, by omega⟩
    have hshift : ¬shift ≥ 64 := by omega
    rw [Groups.unsigned_one, groupLoop, if_neg hshift]
    refine (reads_readU8 b).bind_nil ?_
    rw [if_neg (fun h => h.2 (hlegal h.1)), if_pos hb, or_shiftLeft_eq_add hbits]
    exact Reads.pure _
  | cons b hb g ih =>
    obtain ⟨fuel, rfl⟩ : ∃ k, fuel = k + 1 := ⟨fuel - 1, by omega⟩
    have hmore : (g.cons b hb).more.length = g.more.length + 1 := rfl
    rw [hmore] at hlen hlegal
    have hnext : bits + payload b * 2 ^ shift < 2 ^ (shift + 7) := by
      have hb := Nat.mul_le_mul_right (2 ^ shift) (Nat.le_of_lt_succ (payload_lt b))
      rw [Nat.pow_add]
      omega
    have hfuel' : shift + 7 + 7 * fuel = 77 := by omega
    have hrest := ih hfuel' hnext (by omega) (fun h => hlegal (by omega))
    have hsum : bits + (g.cons b hb).unsigned * 2 ^ shift =
        bits + payload b * 2 ^ shift + g.unsigned * 2 ^ (shift + 7) := by
      rw [Groups.unsigned_cons]
      ring
    rw [hsum, hmore, groupLoop, if_neg (by omega)]
    refine (reads_readU8 b).bind_free ?_
    rw [if_neg (by omega), if_neg hb, or_shiftLeft_eq_add hbits]
    rw [show shift + 7 * (g.more.length + 1) = shift + 7 + 7 * g.more.length by omega]
    exact hrest

/-- What the loop is standing before, unless it fails. -/
theorem groupLoop_cases (c : Cursor) (hfuel : shift + 7 * fuel = 77) :
    (∃ (g : Groups) (rest : List UInt8), c.data.drop c.off = g.bytes ++ rest ∧
      shift + 7 * g.more.length ≤ 63 ∧ (shift + 7 * g.more.length = 63 → legal g.last)) ∨
    groupLoop legal finish fuel shift bits c = .error .truncated ∨
    groupLoop legal finish fuel shift bits c = .error .overflow := by
  induction fuel generalizing shift bits c with
  | zero => exact .inr (.inr rfl)
  | succ fuel ih =>
    by_cases hshift : shift ≥ 64
    · rw [groupLoop, if_pos hshift]
      exact .inr (.inr rfl)
    rw [groupLoop, if_neg hshift, Step.bind_apply]
    obtain ⟨b, rest, hdrop, hread⟩ | hend := readU8_cases c
    · rw [hread]
      show _ ∨ (ite _ _ _ : QkRead α) (c.advance 1 0) = _ ∨
        (ite _ _ _ : QkRead α) (c.advance 1 0) = _
      by_cases htenth : shift = 63 ∧ ¬legal b
      · rw [if_pos htenth]
        exact .inr (.inr rfl)
      rw [if_neg htenth]
      by_cases hb : b &&& 0x80 = 0
      · refine .inl ⟨.one b hb, rest, hdrop, by show shift ≤ 63; omega, fun h => ?_⟩
        exact not_not.1 fun hillegal => htenth ⟨h, hillegal⟩
      · rw [if_neg hb]
        obtain ⟨g, rest', hg, hlen, hlegal⟩ | herror := @ih (shift + 7) _ (c.advance 1 0) (by omega)
        · have hmore : shift + 7 * (g.cons b hb).more.length = shift + 7 + 7 * g.more.length := by
            show shift + 7 * (g.more.length + 1) = _
            omega
          refine .inl ⟨g.cons b hb, rest', ?_, hmore.symm ▸ hlen, hmore.symm ▸ hlegal⟩
          have hcons : c.data.drop c.off = [b] ++ rest := hdrop
          rw [hcons, ← drop_advance 0 hcons]
          exact congrArg ([b] ++ ·) hg
        · exact .inr herror
    · rw [hend]
      exact .inr (.inl rfl)

end

theorem readUleb128Loop_eq (fuel shift value : Nat) :
    readUleb128Loop fuel shift value =
      groupLoop (fun b => b &&& 0x7e = 0) (fun value _ _ => value) fuel shift value := by
  induction fuel generalizing shift value with
  | zero => rfl
  | succ fuel ih =>
    rw [readUleb128Loop, groupLoop]
    simp only [ih]
    rfl

/-- The unsigned reader gives back every number in at most ten groups that has 64 bits. -/
theorem reads_unsigned {limit : Bounds} (g : Groups) (hlen : g.more.length ≤ 9)
    (hfit : g.unsigned < 2 ^ 64) : Reads limit readUleb128 g.bytes 0 g.unsigned := by
  have h := @reads_groupLoop _ (fun b => b &&& 0x7e = 0) _ (fun value _ _ => value) limit 11 0 0 g
    rfl Nat.one_pos (by omega) (fun h => (g.unsigned_fits hlen).1 hfit (by omega))
  rw [← readUleb128Loop_eq, Nat.zero_add, Nat.pow_zero, Nat.mul_one] at h
  exact h

theorem reads_readUleb128 (hv : v ≤ u64Max) :
    Reads readBounds readUleb128 (ulebBytes 10 v) 0 v := by
  have hv64 : v < 2 ^ 64 := by
    unfold u64Max at hv
    omega
  have hten : v < 128 ^ (9 + 1) := Nat.lt_trans hv64 (by decide)
  obtain ⟨g, hbytes, rfl, hlen⟩ := ulebBytes_groups hten
  rw [hbytes]
  exact reads_unsigned g hlen hv64

theorem reads_readCounted (data : List UInt8) :
    Reads readBounds readCounted (countedBytes data) 0 data := by
  intro c rest hsize hdrop hcost
  have hne : countedBytes data ≠ [] := ne_nil_of_length_pos (countedBytes_length_pos data)
  have hoff := off_add_le hne hdrop
  unfold countedBytes at hdrop hoff ⊢
  rw [append_assoc] at hdrop
  rw [length_append] at hoff ⊢
  -- The data is part of the region, so its length is a size.
  have hlen : data.length ≤ sizeMax := Nat.le_trans (by omega) hsize
  have hread : Reads readBounds readUleb128 (ulebBytes 10 data.length) 0 data.length :=
    reads_readUleb128 hlen
  have hlength := hread c _ hsize hdrop hcost
  have hrest := drop_advance 0 hdrop
  unfold readCounted
  rw [Step.bind_eq_ok]
  refine ⟨_, _, hlength, ?_⟩
  rw [if_neg (by omega), Step.bind_eq_ok]
  refine ⟨(), _, readerNeed_of_le (by simpa [Nat.add_assoc] using hoff), ?_⟩
  rw [takeBytes_of_append hrest, Cursor.advance_advance]

end Qk

namespace Quack

/-! ### Writers of `ducknng_quack.c` -/

/-- Choosing a message does not change what is written. -/
theorem Emits.writerResult {p : QkWrite} (h : Emits sizeMax p bs) :
    Emits sizeMax (Quack.writerResult p) bs := by
  intro s hs
  unfold Quack.writerResult
  refine ⟨fun hfit => ?_, fun hfit => ?_⟩
  · rw [(h s hs).1 hfit]
  · obtain ⟨e, he⟩ := (h s hs).2 hfit
    exact ⟨_, by rw [he]⟩

theorem emits_writeByte (b : UInt8) : Emits sizeMax (writeByte b) [b] :=
  Emits.writerResult (Qk.emits_writeBytes _)

theorem emits_writeFieldId (fieldId : Nat) :
    Emits sizeMax (writeFieldId fieldId) (fieldBytes fieldId) :=
  Emits.writerResult (Qk.emits_writeBytes _)

theorem emits_writeFieldEnd : Emits sizeMax writeFieldEnd (fieldBytes fieldEnd) :=
  emits_writeFieldId fieldEnd

theorem emits_writeUleb128 (value : Nat) :
    Emits sizeMax (writeUleb128 value) (ulebBytes 10 value) :=
  Emits.writerResult (Qk.emits_writeUleb128Loop 10 value)

theorem emits_writeBlob (data : List UInt8) : Emits sizeMax (writeBlob data) (countedBytes data) :=
  Emits.writerResult ((Qk.emits_writeUleb128Loop 10 _).bind (Qk.emits_writeBytes _))

theorem emits_writeString (text : CStr) :
    Emits sizeMax (writeString text) (countedBytes text.bytes) := emits_writeBlob text.bytes

theorem emits_writeWhen {condition : Bool} {p : QuackWrite}
    (h : condition = true → Emits sizeMax p bs) :
    Emits sizeMax (writeWhen condition p) (if condition then bs else []) := by
  cases condition with
  | false => exact Emits.pure
  | true => exact h rfl

/-! ### Readers of `ducknng_quack.c` -/

variable {α : Type} {a : α}

/-- Choosing a message does not change what is read. -/
theorem Reads.readerResult {p : QkRead α} (h : Reads readBounds p bs n a) (message : String) :
    Reads readBounds (Quack.readerResult message p) bs n a := by
  intro c rest hsize hdrop hcost
  exact readerResult_eq_ok.2 (h c rest hsize hdrop hcost)

theorem reads_readU16le (hf : f < 2 ^ 16) :
    Reads readBounds readU16le (fieldBytes f) 0 f :=
  Reads.readerResult (Qk.reads_readU16le hf) _

theorem reads_readExpectField (hf : f < 2 ^ 16) :
    Reads readBounds (readExpectField f) (fieldBytes f) 0 () := by
  refine (reads_readU16le hf).bind_nil ?_
  rw [if_neg (by simp)]
  exact Reads.pure ()

/-- A field id in front of what is read next. -/
theorem reads_field {k : Unit → QuackRead α} (hf : f < 2 ^ 16)
    (hk : Reads readBounds (k ()) bs n a) :
    Reads readBounds (readExpectField f >>= k) (fieldBytes f ++ bs) n a :=
  (reads_readExpectField hf).bind_free hk

theorem reads_readFieldEnd : Reads readBounds (readExpectField fieldEnd)
    (fieldBytes fieldEnd) 0 () :=
  reads_readExpectField (by decide)

theorem reads_readUleb128 (hv : v ≤ u64Max) :
    Reads readBounds readUleb128 (ulebBytes 10 v) 0 v :=
  Reads.readerResult (Qk.reads_readUleb128 hv) _

/-- A number behind its field. -/
theorem reads_number {k : Nat → QuackRead α} (hf : f < 2 ^ 16) (hv : v ≤ u64Max)
    (hk : Reads readBounds (k v) bs n a) :
    Reads readBounds (readExpectField f >>= fun _ => readUleb128 >>= k)
      (fieldBytes f ++ (ulebBytes 10 v ++ bs)) n a :=
  reads_field hf ((reads_readUleb128 hv).bind_free hk)

theorem reads_readBoolean (message : String) (b : Bool) :
    Reads readBounds (readBoolean message) [if b then 1 else 0] 0 b :=
  Reads.readerResult (Qk.reads_readBoolean b) _

theorem reads_readBlobView (data : List UInt8) :
    Reads readBounds readBlobView (countedBytes data) 0 data :=
  Reads.readerResult (Qk.reads_readCounted data) _

theorem reads_readStringDup (text : CStr) :
    Reads readBounds readStringDup (countedBytes text.bytes) 0 text := by
  refine (reads_readBlobView _).bind_nil ?_
  rw [dif_neg text.noNul]
  exact Reads.pure text

/-- Looking at the next field does not consume it. -/
theorem peekU16le_of_append (hf : f < 2 ^ 16) (hdrop : c.data.drop c.off = fieldBytes f ++ rest) :
    peekU16le c = .ok (f, c) := readerResult_eq_ok.2 (Qk.peekU16le_of_append hf hdrop)

theorem reads_peek {cost : Nat} {k : Nat → QuackRead α} (hf : f < 2 ^ 16)
    (hk : Reads readBounds (k f) (fieldBytes f ++ bs) cost a) :
    Reads readBounds (peekU16le >>= k) (fieldBytes f ++ bs) cost a := by
  intro c rest hsize hdrop hcost
  have hfield : c.data.drop c.off = fieldBytes f ++ (bs ++ rest) := by
    rw [hdrop, append_assoc]
  rw [Step.bind_eq_ok]
  exact ⟨f, c, peekU16le_of_append hf hfield, hk c rest hsize hdrop hcost⟩

/-- A bound by what is left to read is met by what will be read. -/
theorem reads_remaining {cost : Nat} {k : Nat → QuackRead α}
    (hk : ∀ n, bs.length ≤ n → Reads readBounds (k n) bs cost a) :
    Reads readBounds (readerRemaining >>= k) bs cost a := by
  intro c rest hsize hdrop hcost
  have hlen := congrArg length hdrop
  rw [length_drop, length_append] at hlen
  rw [Step.bind_eq_ok]
  refine ⟨Qk.readerRemaining c, c, rfl, hk _ ?_ c rest hsize hdrop hcost⟩
  unfold Qk.readerRemaining
  split <;> omega

end Quack

end Ducknng
