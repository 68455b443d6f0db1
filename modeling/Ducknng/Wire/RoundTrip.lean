import Ducknng.Wire.Core
import Mathlib.Tactic.IntervalCases

namespace Ducknng

open Option List ByteCodec Header

/-!
# Frames round-trip and have one encoding

The encoder checks a frame before it writes it and the decoder checks it again
while reading, with two separately written sets of conditions. Both are brought
to one description here, `FrameParts.Valid` and `Frame.Accepted`, which say what
each side requires; the round trips follow from the layout of the header.

* `Header.ofBytes_toBytes_append` / `Header.toBytes_ofBytes` — the header layout.
* `control_join`, `control_flags`, `controlStatus_join` — the control word.
* `framePartsValidate_eq_some`, `decodeFrameBytes_eq_some` — the two specs.
* `frame_round_trip_unique` — decoding what was encoded, and encoding what was
  decoded.
-/

/-! ### The header layout -/

theorem wireLe32Read_append (pre post : List UInt8) (off : Nat) (v : UInt32)
    (hoff : pre.length = off) : wireLe32Read (pre ++ (leBytes 4 v.toNat ++ post)) off = v := by
  have hv : v.toNat < 256 ^ 4 := v.toNat_lt
  rw [wireLe32Read, take_drop_append hoff (leBytes_length 4 _), leVal_leBytes hv,
    UInt32.ofNat_toNat]

theorem wireLe64Read_append (pre post : List UInt8) (off : Nat) (v : UInt64)
    (hoff : pre.length = off) : wireLe64Read (pre ++ (leBytes 8 v.toNat ++ post)) off = v := by
  have hv : v.toNat < 256 ^ 8 := v.toNat_lt
  rw [wireLe64Read, take_drop_append hoff (leBytes_length 8 _), leVal_leBytes hv,
    UInt64.ofNat_toNat]

variable {bs : List UInt8} {parts : FrameParts} {h : Header}

theorem leBytes_wireLe32Read {off : Nat} (h : off + 4 ≤ bs.length) :
    leBytes 4 (wireLe32Read bs off).toNat = (bs.drop off).take 4 := by
  have hlen : ((bs.drop off).take 4).length = 4 := by
    simp only [length_take, length_drop]
    omega
  have hlt := leVal_lt ((bs.drop off).take 4)
  rw [hlen] at hlt
  rw [wireLe32Read, UInt32.toNat_ofNat_of_lt' hlt, leBytes_leVal_of_length hlen]

theorem leBytes_wireLe64Read {off : Nat} (h : off + 8 ≤ bs.length) :
    leBytes 8 (wireLe64Read bs off).toNat = (bs.drop off).take 8 := by
  have hlen : ((bs.drop off).take 8).length = 8 := by
    simp only [length_take, length_drop]
    omega
  have hlt := leVal_lt ((bs.drop off).take 8)
  rw [hlen] at hlt
  rw [wireLe64Read, UInt64.toNat_ofNat_of_lt' hlt, leBytes_leVal_of_length hlen]

theorem Header.toBytes_length (h : Header) : h.toBytes.length = wireHeaderLen := by
  simp [toBytes, wireHeaderLen]

/-- The header is read back whatever follows it. -/
theorem Header.ofBytes_toBytes_append (h : Header) (rest : List UInt8) :
    ofBytes (h.toBytes ++ rest) = h := by
  have hcontrol := wireLe32Read_append [h.version, h.type]
    (leBytes 4 h.nameLen.toNat ++ (leBytes 4 h.errorLen.toNat ++
      (leBytes 8 h.payloadLen.toNat ++ rest))) 2 h.control rfl
  have hname := wireLe32Read_append ([h.version, h.type] ++ leBytes 4 h.control.toNat)
    (leBytes 4 h.errorLen.toNat ++ (leBytes 8 h.payloadLen.toNat ++ rest)) 6 h.nameLen
    (by simp)
  have herror := wireLe32Read_append
    ([h.version, h.type] ++ leBytes 4 h.control.toNat ++ leBytes 4 h.nameLen.toNat)
    (leBytes 8 h.payloadLen.toNat ++ rest) 10 h.errorLen (by simp)
  have hpayload := wireLe64Read_append
    ([h.version, h.type] ++ leBytes 4 h.control.toNat ++ leBytes 4 h.nameLen.toNat ++
      leBytes 4 h.errorLen.toNat) rest 14 h.payloadLen (by simp)
  ext1
  · rfl
  · rfl
  · exact hcontrol
  · exact hname
  · exact herror
  · exact hpayload

/-- A header that was read is the first 22 bytes of the input. -/
theorem Header.toBytes_ofBytes (h : wireHeaderLen ≤ bs.length) :
    (ofBytes bs).toBytes = bs.take wireHeaderLen := by
  unfold wireHeaderLen at *
  simp only [toBytes, ofBytes]
  rw [leBytes_wireLe32Read (by omega), leBytes_wireLe32Read (by omega),
    leBytes_wireLe32Read (by omega), leBytes_wireLe64Read (by omega)]
  have h2 : [bs.getD 0 0, bs.getD 1 0] = bs.take 2 := by
    match bs, h with
    | a :: b :: rest, _ => rfl
  rw [h2, ← take_add, ← take_add, ← take_add, ← take_add]

/-- The header depends on nothing but the first 22 bytes. -/
theorem Header.ofBytes_eq_of_take {cs : List UInt8} (hb : wireHeaderLen ≤ bs.length)
    (hc : wireHeaderLen ≤ cs.length) (h : bs.take wireHeaderLen = cs.take wireHeaderLen) :
    ofBytes bs = ofBytes cs := by
  rw [← toBytes_ofBytes hb, ← toBytes_ofBytes hc] at h
  have hbs := ofBytes_toBytes_append (ofBytes bs) []
  have hcs := ofBytes_toBytes_append (ofBytes cs) []
  rw [h] at hbs
  exact hbs.symm.trans hcs

/-! ### The control word -/

/-- A control word is its flags and its status byte put together. -/
theorem control_join (control : UInt32) :
    (control &&& rpcFlagsMask) ||| (controlStatus control <<< rpcStatusShift) = control := by
  unfold controlStatus rpcFlagsMask rpcStatusMask rpcStatusShift
  apply UInt32.eq_of_toBitVec_eq
  ext i hi
  interval_cases i <;> simp

/-- The flags survive the packing when they stay below the status byte. -/
theorem control_flags {flags status : UInt32} (hf : flags &&& ~~~rpcFlagsMask = 0) :
    (flags ||| (status <<< rpcStatusShift)) &&& rpcFlagsMask = flags := by
  unfold rpcFlagsMask rpcStatusShift at *
  apply UInt32.eq_of_toBitVec_eq
  have hf := congrArg UInt32.toBitVec hf
  ext i hi
  have hbit := congrArg (·[i]) hf
  simp at hbit ⊢
  interval_cases i <;> simp_all

/-- So does the status byte. -/
theorem controlStatus_join {flags status : UInt32} (hf : flags &&& ~~~rpcFlagsMask = 0)
    (hs : status.toNat < 256) :
    controlStatus (flags ||| (status <<< rpcStatusShift)) = status := by
  unfold controlStatus rpcFlagsMask rpcStatusShift rpcStatusMask at *
  apply UInt32.eq_of_toBitVec_eq
  have hf := congrArg UInt32.toBitVec hf
  have hs : status.toBitVec.toNat < 2 ^ 8 := hs
  ext i hi
  by_cases h8 : i < 8
  · -- Bit `i` of the status sits at bit `24 + i`, where the flags have none.
    have hbit := congrArg (fun v : BitVec 32 => v.getLsbD (24 + i)) hf
    simp at hbit ⊢
    interval_cases i <;> simp_all
  · have hbit : status.toBitVec[i] = false := by
      rw [← BitVec.getLsbD_eq_getElem, BitVec.getLsbD, Nat.testBit_lt_two_pow]
      exact lt_of_lt_of_le hs (Nat.pow_le_pow_right (by decide) (by omega))
    interval_cases i <;> simp_all

/-! ### What the encoder requires -/

/-- The size of the frame with the given parts. -/
def FrameParts.size (parts : FrameParts) : Nat :=
  wireHeaderLen + parts.name.len + parts.error.len + parts.payload.len

open FrameParts

/-- The conditions under which `ducknng_encode_frame_bytes` writes a frame. -/
structure FrameParts.Valid (parts : FrameParts) : Prop where
  type_le : parts.type ≤ RpcType.event.code
  name_le : parts.name.len ≤ maxMethodNameLen
  error_le : parts.error.len ≤ u32Max
  flags_low : parts.flags &&& ~~~rpcFlagsMask = 0
  name_readable : ¬(0 < parts.name.len ∧ parts.name.isNull)
  error_readable : ¬(0 < parts.error.len ∧ parts.error.isNull)
  payload_readable : ¬(0 < parts.payload.len ∧ parts.payload.isNull)
  error_status : parts.type = RpcType.error.code →
    0 < parts.status.toInt ∧ parts.status.toInt ≤ Status.disabled.code ∧ parts.error.len ≠ 0
  plain_status : parts.type ≠ RpcType.error.code →
    parts.status.toInt = 0 ∧ parts.error.len = 0
  size_le : parts.size ≤ sizeMax

/-- The three checked additions succeed exactly when the frame has a size. -/
theorem sizeAdd_frame {n e p r : Nat} (hn : n ≤ maxMethodNameLen) (he : e ≤ u32Max) :
    (do
      let total ← sizeAdd wireHeaderLen n
      let total ← sizeAdd total e
      sizeAdd total p) = some r ↔
    r = wireHeaderLen + n + e + p ∧ r ≤ sizeMax := by
  have h1 : sizeAdd wireHeaderLen n = some (wireHeaderLen + n) :=
    (sizeAdd_eq_some (by decide)).2
      ⟨rfl, by unfold wireHeaderLen maxMethodNameLen sizeMax at *; omega⟩
  have h2 : sizeAdd (wireHeaderLen + n) e = some (wireHeaderLen + n + e) := by
    refine (sizeAdd_eq_some ?_).2 ⟨rfl, ?_⟩ <;>
      unfold wireHeaderLen maxMethodNameLen sizeMax u32Max at * <;> omega
  rw [h1, bind_eq_bind, bind_some, h2, bind_some, sizeAdd_eq_some]
  unfold wireHeaderLen maxMethodNameLen sizeMax u32Max at *
  omega

/-- **Spec of the encoder's check.** It accepts exactly the valid parts, and
    reports their size. -/
theorem framePartsValidate_eq_some {r : Nat} :
    framePartsValidate parts true = some r ↔ parts.Valid ∧ r = parts.size := by
  constructor
  · intro h
    unfold framePartsValidate at h
    split_ifs at h with h1 h2 h3 h4 h5 h6 h7 h8 h9
    obtain ⟨hr, hle⟩ := (sizeAdd_frame (by omega) (by omega)).1 h
    refine ⟨⟨UInt8.not_lt.1 h1, not_lt.1 h2, not_lt.1 h3, not_not.1 h4, h5, h6,
      by simpa using h7, ?_, ?_, le_of_eq_of_le hr.symm hle⟩, hr⟩
    · intro htype
      simp only [htype, true_and, not_or] at h8
      exact ⟨not_le.1 h8.1, not_lt.1 h8.2.1, h8.2.2⟩
    · intro htype
      simp only [htype, ne_eq, not_false_eq_true, true_and, not_or, not_not] at h9
      exact h9
  · rintro ⟨hv, rfl⟩
    unfold framePartsValidate
    rw [if_neg (UInt8.not_lt.2 hv.type_le), if_neg (not_lt.2 hv.name_le),
      if_neg (not_lt.2 hv.error_le), if_neg (not_not.2 hv.flags_low), if_neg hv.name_readable,
      if_neg hv.error_readable, if_neg (by simpa using hv.payload_readable), if_neg, if_neg]
    · exact (sizeAdd_frame hv.name_le hv.error_le).2 ⟨rfl, hv.size_le⟩
    · rintro ⟨htype, hor⟩
      obtain ⟨hs, he⟩ := hv.plain_status htype
      rcases hor with h | h
      · exact h hs
      · exact h he
    · rintro ⟨htype, hor⟩
      obtain ⟨hpos, hle, he⟩ := hv.error_status htype
      rcases hor with h | h | h
      · exact absurd h (not_le.2 hpos)
      · exact absurd h (not_lt.2 hle)
      · exact he h

/-- The bytes of the frame with the given parts. -/
def FrameParts.frameBytes (parts : FrameParts) : List UInt8 :=
  wireWritePrefix parts ++ parts.payload.contents

theorem FrameParts.frameBytes_length (hv : parts.Valid) :
    parts.frameBytes.length = parts.size := by
  simp only [frameBytes, wireWritePrefix, size, length_append,
    toBytes_length, Slice.contents_length hv.name_readable,
    Slice.contents_length hv.error_readable, Slice.contents_length hv.payload_readable]

/-- The encoder stores exactly the frame and leaves the rest of the region. -/
theorem encodeFrameBytes_of_valid (hv : parts.Valid) {region : Buffer}
    (hroom : parts.size ≤ region.bytes.length) :
    encodeFrameBytes parts (.buf region) =
      ⟨true, parts.size, parts.frameBytes ++ region.bytes.drop parts.size⟩ := by
  have hval := framePartsValidate_eq_some.2 ⟨hv, rfl⟩
  have hlen := frameBytes_length hv
  unfold encodeFrameBytes
  simp only [hval, Slice.isNull, Slice.len, Bool.false_eq_true, false_or]
  rw [if_neg (by omega)]
  rw [← hlen]
  rfl

/-! ### What the decoder requires -/

/-- The conditions under which `ducknng_decode_frame_bytes` accepts a region. -/
structure Frame.Accepted (region : Buffer) (h : Header) : Prop where
  header_le : wireHeaderLen ≤ region.bytes.length
  version_eq : h.version = wireVersion
  type_le : h.type ≤ RpcType.event.code
  name_le : h.nameLen.toNat ≤ maxMethodNameLen
  length_eq : region.bytes.length =
    wireHeaderLen + h.nameLen.toNat + h.errorLen.toNat + h.payloadLen.toNat
  error_status : h.type = RpcType.error.code →
    (controlStatus h.control).toNat ≤ Status.disabled.code ∧ h.errorLen.toNat ≠ 0
  plain_status : h.type ≠ RpcType.error.code →
    (controlStatus h.control).toNat = 0 ∧ h.errorLen.toNat = 0

/-- The frame the decoder reports for an accepted region. -/
def Frame.ofRegion (region : Buffer) (h : Header) : Frame where
  version := h.version
  type := h.type
  status :=
    if h.type = RpcType.error.code ∧ (controlStatus h.control).toNat = Status.ok.code then
      UInt8.ofNat Status.unspecified.code
    else (controlStatus h.control).toUInt8
  flags := h.control &&& rpcFlagsMask
  name := region.sub wireHeaderLen h.nameLen.toNat
  error := region.sub (wireHeaderLen + h.nameLen.toNat) h.errorLen.toNat
  payload := region.sub (wireHeaderLen + h.nameLen.toNat + h.errorLen.toNat) h.payloadLen.toNat

/-- The two checked additions of the decoder never overflow: a method name is
    short and an error length has 32 bits. -/
theorem sizeAdd_fixed {n e : UInt32} (hn : n.toNat ≤ maxMethodNameLen) :
    sizeAdd wireHeaderLen n.toNat = some (wireHeaderLen + n.toNat) ∧
    sizeAdd (wireHeaderLen + n.toNat) e.toNat = some (wireHeaderLen + n.toNat + e.toNat) := by
  have he := e.toNat_lt
  unfold maxMethodNameLen at hn
  constructor <;> refine (sizeAdd_eq_some ?_).2 ⟨rfl, ?_⟩ <;>
    unfold wireHeaderLen sizeMax <;> omega

/-- **Spec of the decoder.** -/
theorem decodeFrameBytes_eq_some {region : Buffer} {frame : Frame} :
    decodeFrameBytes (.buf region) = some frame ↔
      Frame.Accepted region (ofBytes region.bytes) ∧
        frame = Frame.ofRegion region (ofBytes region.bytes) := by
  unfold decodeFrameBytes
  simp only [ite_none_left_eq_some, bind_eq_bind, bind_eq_some_iff]
  generalize ofBytes region.bytes = h
  constructor
  · rintro ⟨hlen, hver, hname, fixed, hs1, fixed', hs2, hfix, hpay, herr, hplain, hframe⟩
    obtain ⟨hadd1, hadd2⟩ := sizeAdd_fixed (e := h.errorLen) (not_lt.1 hname)
    obtain rfl := some.inj (hadd1.symm.trans hs1)
    obtain rfl := some.inj (hadd2.symm.trans hs2)
    simp only [not_or, not_not] at hver
    refine ⟨⟨not_lt.1 hlen, hver.1, UInt8.not_lt.1 hver.2, not_lt.1 hname, by omega, ?_, ?_⟩,
      (some.inj hframe).symm⟩
    · intro htype
      simp only [htype, true_and, not_or] at herr
      exact ⟨not_lt.1 herr.1, herr.2⟩
    · intro htype
      simp only [htype, ne_eq, not_false_eq_true, true_and, not_or, not_not] at hplain
      exact hplain
  · rintro ⟨ha, rfl⟩
    obtain ⟨hadd1, hadd2⟩ := sizeAdd_fixed (e := h.errorLen) ha.name_le
    have hlen := ha.length_eq
    refine ⟨not_lt.2 ha.header_le, ?_, not_lt.2 ha.name_le, _, hadd1, _, hadd2, by omega,
      by omega, ?_, ?_, rfl⟩
    · simp only [not_or, not_not]
      exact ⟨ha.version_eq, UInt8.not_lt.2 ha.type_le⟩
    · rintro ⟨htype, hor⟩
      obtain ⟨hle, hne⟩ := ha.error_status htype
      rcases hor with h | h
      · exact absurd h (not_lt.2 hle)
      · exact hne h
    · rintro ⟨htype, hor⟩
      obtain ⟨hs, he⟩ := ha.plain_status htype
      rcases hor with h | h
      · exact h hs
      · exact h he

/-! ### The status byte -/

/-- A documented status code goes through the unsigned cast unchanged. -/
theorem toUInt32_toNat_of_nonneg {status : Int32} (h : 0 ≤ status.toInt) :
    (status.toUInt32.toNat : Int) = status.toInt := by
  have hdef : status.toInt = status.toBitVec.toInt := rfl
  have hcast : status.toUInt32.toNat = status.toBitVec.toNat := rfl
  have hcond := BitVec.toInt_eq_toNat_cond status.toBitVec
  split at hcond <;> omega

theorem controlStatus_toNat (control : UInt32) :
    (controlStatus control).toNat = control.toNat / 2 ^ 24 := by
  have hshift : controlStatus control = control >>> 24 := by
    unfold controlStatus rpcStatusMask rpcStatusShift
    apply UInt32.eq_of_toBitVec_eq
    ext i hi
    interval_cases i <;> simp
  rw [hshift, UInt32.toNat_shiftRight, Nat.shiftRight_eq_div_pow]
  rfl

/-- The status byte of a frame is its sixth byte. -/
theorem controlStatus_ofBytes (h : wireHeaderLen ≤ bs.length) :
    (controlStatus (ofBytes bs).control).toNat = (bs.getD 5 0).toNat := by
  match bs, h with
  | b0 :: b1 :: b2 :: b3 :: b4 :: b5 :: rest, _ =>
    have h2 := b2.toNat_lt
    have h3 := b3.toNat_lt
    have h4 := b4.toNat_lt
    have h5 := b5.toNat_lt
    have hval : (ofBytes (b0 :: b1 :: b2 :: b3 :: b4 :: b5 :: rest)).control.toNat =
        b2.toNat + 256 * (b3.toNat + 256 * (b4.toNat + 256 * b5.toNat)) := by
      show (UInt32.ofNat (leVal [b2, b3, b4, b5])).toNat = _
      simp only [leVal]
      exact UInt32.toNat_ofNat_of_lt' (by show _ < 2 ^ 32; omega)
    rw [controlStatus_toNat]
    show _ = b5.toNat
    omega

/-! ### Decoding what was encoded -/

namespace FrameParts

section
variable (hv : parts.Valid)
include hv

theorem Valid.status_range :
    0 ≤ parts.status.toInt ∧ parts.status.toInt ≤ 10 := by
  by_cases htype : parts.type = RpcType.error.code
  · obtain ⟨hpos, hle, -⟩ := hv.error_status htype
    exact ⟨hpos.le, hle⟩
  · obtain ⟨hs, -⟩ := hv.plain_status htype
    omega

theorem Valid.controlStatus_eq :
    controlStatus parts.header.control = parts.status.toUInt32 := by
  have hrange := hv.status_range
  have hcast := toUInt32_toNat_of_nonneg hrange.1
  exact controlStatus_join hv.flags_low (by omega)

theorem Valid.header_lens :
    parts.header.nameLen.toNat = parts.name.len ∧
    parts.header.errorLen.toNat = parts.error.len ∧
    parts.header.payloadLen.toNat = parts.payload.len := by
  have hname := hv.name_le
  have herror := hv.error_le
  have hpayload := parts.payload.len_le
  unfold maxMethodNameLen u32Max sizeMax at *
  exact ⟨UInt32.toNat_ofNat_of_lt' (by show _ < 2 ^ 32; omega),
    UInt32.toNat_ofNat_of_lt' (by show _ < 2 ^ 32; omega),
    UInt64.toNat_ofNat_of_lt' (by show _ < 2 ^ 64; omega)⟩

/-- A valid frame as one region. -/
def Valid.region {parts : FrameParts} (hv : parts.Valid) : Buffer :=
  ⟨parts.frameBytes, (frameBytes_length hv).le.trans hv.size_le⟩

theorem Valid.ofBytes_region :
    ofBytes hv.region.bytes = parts.header := by
  exact ofBytes_toBytes_append _ _

/-- The decoder accepts what the encoder wrote. -/
theorem Valid.accepted :
    Frame.Accepted hv.region parts.header := by
  obtain ⟨hname, herror, hpayload⟩ := hv.header_lens
  have hlen : hv.region.bytes.length = parts.size := frameBytes_length hv
  have hrange := hv.status_range
  have hcast := toUInt32_toNat_of_nonneg hrange.1
  have hstatus := hv.controlStatus_eq
  refine ⟨?_, rfl, hv.type_le, hname ▸ hv.name_le, ?_, ?_, ?_⟩
  · rw [hlen, size]
    omega
  · rw [hlen, size, hname, herror, hpayload]
  · intro htype
    have := hv.error_status htype
    rw [hstatus]
    omega
  · intro htype
    obtain ⟨hs, he⟩ := hv.plain_status htype
    rw [hstatus]
    omega

/-- **Decoding what was encoded.** Every field comes back. -/
theorem Valid.decode_region :
    ∃ frame, decodeFrameBytes (.buf hv.region) = some frame ∧
      frame.version = wireVersion ∧ frame.type = parts.type ∧
      (frame.status.toNat : Int) = parts.status.toInt ∧ frame.flags = parts.flags ∧
      frame.name.bytes = parts.name.contents ∧ frame.error.bytes = parts.error.contents ∧
      frame.payload.bytes = parts.payload.contents := by
  obtain ⟨hname, herror, hpayload⟩ := hv.header_lens
  have hstatus := hv.controlStatus_eq
  have hrange := hv.status_range
  have hcast := toUInt32_toNat_of_nonneg hrange.1
  have hdec := decodeFrameBytes_eq_some.2 ⟨hv.ofBytes_region ▸ hv.accepted, rfl⟩
  rw [hv.ofBytes_region] at hdec
  have hn := Slice.contents_length hv.name_readable
  have he := Slice.contents_length hv.error_readable
  have hp := Slice.contents_length hv.payload_readable
  refine ⟨_, hdec, rfl, rfl, ?_, control_flags hv.flags_low, ?_, ?_, ?_⟩
  · -- An encoded error frame never has the zero status that reads as "unspecified".
    have hpos : ¬(parts.header.type = RpcType.error.code ∧
        (controlStatus parts.header.control).toNat = Status.ok.code) := by
      rintro ⟨htype, hzero⟩
      obtain ⟨hpos, -, -⟩ := hv.error_status htype
      have hzero : parts.status.toUInt32.toNat = 0 := hstatus ▸ hzero
      omega
    simp only [Frame.ofRegion]
    rw [if_neg hpos, hstatus, UInt32.toNat_toUInt8]
    omega
  · simp only [Frame.ofRegion, hname, Valid.region, frameBytes, wireWritePrefix, append_assoc]
    exact take_drop_append (toBytes_length _) hn
  · simp only [Frame.ofRegion, Buffer.sub, hname, herror, Valid.region,
      frameBytes, wireWritePrefix, append_assoc]
    rw [← append_assoc parts.header.toBytes]
    refine take_drop_append ?_ he
    rw [length_append, toBytes_length, hn]
  · simp only [Frame.ofRegion, Buffer.sub, hname, herror, hpayload, Valid.region, frameBytes]
    rw [drop_left', take_of_length_le hp.le]
    simp only [wireWritePrefix, length_append, toBytes_length, hn, he]

end

end FrameParts

/-! ### Encoding what was decoded -/

namespace Frame

/-- Accepted regions that agree on their first 22 bytes have the same length, so
    neither extends the other. -/
theorem Accepted.length_unique {a b : Buffer}
    (ha : Accepted a (ofBytes a.bytes))
    (hb : Accepted b (ofBytes b.bytes))
    (h : a.bytes <+: b.bytes) : a.bytes = b.bytes := by
  obtain ⟨rest, hrest⟩ := h
  have htake : a.bytes.take wireHeaderLen = b.bytes.take wireHeaderLen := by
    rw [← hrest, take_append_of_le_length ha.header_le]
  have hheader := ofBytes_eq_of_take ha.header_le hb.header_le htake
  have hla := ha.length_eq
  have hlb := hb.length_eq
  rw [← hheader, ← hrest, length_append] at hlb
  have hnil : rest = [] := length_eq_zero_iff.1 (by omega)
  rw [← hrest, hnil, append_nil]

/-- A region accepted by the decoder is its header followed by its three parts. -/
theorem Accepted.bytes_eq {region : Buffer} (hacc : Accepted region h)
    (hh : ofBytes region.bytes = h) :
    h.toBytes ++ (ofRegion region h).name.bytes ++ (ofRegion region h).error.bytes ++
      (ofRegion region h).payload.bytes = region.bytes := by
  have hhead : h.toBytes = region.bytes.take wireHeaderLen :=
    hh ▸ toBytes_ofBytes hacc.header_le
  have hlen := hacc.length_eq
  simp only [ofRegion, Buffer.sub]
  rw [hhead, ← take_add, ← take_add, ← take_add, ← hlen, take_length]

/-- The status the decoder reports is a documented one, unless the frame is an
    error frame whose status byte is zero. -/
theorem Accepted.status_cast {region : Buffer} (hacc : Accepted region h)
    (hlegacy : ¬(h.type = RpcType.error.code ∧ (controlStatus h.control).toNat = 0)) :
    ((ofRegion region h).parts.status.toInt = (controlStatus h.control).toNat) ∧
    (ofRegion region h).parts.status.toUInt32 = controlStatus h.control ∧
    (controlStatus h.control).toNat ≤ 10 := by
  have hle : (controlStatus h.control).toNat ≤ 10 := by
    by_cases htype : h.type = RpcType.error.code
    · exact (hacc.error_status htype).1
    · have := (hacc.plain_status htype).1
      omega
  have hstatus : (ofRegion region h).status = (controlStatus h.control).toUInt8 :=
    if_neg hlegacy
  generalize controlStatus h.control = c at *
  have hc : c.toUInt8.toNat = c.toNat := by
    rw [UInt32.toNat_toUInt8]
    omega
  simp only [parts, hstatus, hc]
  refine ⟨Int32.toInt_ofNat_of_lt (by omega), ?_, hle⟩
  rw [Int32.toUInt32_ofNat', UInt32.ofNat_toNat]

/-- The decoded fields are valid parts again. -/
theorem Accepted.valid {region : Buffer} (hacc : Accepted region h)
    (hlegacy : ¬(h.type = RpcType.error.code ∧ (controlStatus h.control).toNat = 0)) :
    (ofRegion region h).parts.Valid ∧
    (ofRegion region h).parts.size = region.bytes.length ∧
    (ofRegion region h).parts.header = h := by
  obtain ⟨hint, hcast, hle⟩ := hacc.status_cast hlegacy
  have hlen := hacc.length_eq
  have herr32 := h.errorLen.toNat_lt
  -- the three slices have the lengths that the header gives
  have hname : (ofRegion region h).parts.name.len = h.nameLen.toNat := by
    simp only [parts, ofRegion, Slice.len, Buffer.sub, length_take, length_drop]
    omega
  have herror : (ofRegion region h).parts.error.len = h.errorLen.toNat := by
    simp only [parts, ofRegion, Slice.len, Buffer.sub, length_take, length_drop]
    omega
  have hpayload : (ofRegion region h).parts.payload.len = h.payloadLen.toNat := by
    simp only [parts, ofRegion, Slice.len, Buffer.sub, length_take, length_drop]
    omega
  have hsize : (ofRegion region h).parts.size = region.bytes.length := by
    rw [size, hname, herror, hpayload, hlen]
  refine ⟨⟨hacc.type_le, hname ▸ hacc.name_le, ?_, ?_, ?_, ?_, ?_, ?_, ?_, ?_⟩, hsize, ?_⟩
  · unfold u32Max
    omega
  · show h.control &&& rpcFlagsMask &&& ~~~rpcFlagsMask = 0
    rw [UInt32.and_assoc, UInt32.and_not_self, UInt32.and_zero]
  · simp [parts, Slice.isNull]
  · simp [parts, Slice.isNull]
  · simp [parts, Slice.isNull]
  -- an error without a status is the legacy form, which is excluded
  · intro htype
    obtain ⟨-, hne⟩ := hacc.error_status htype
    rw [hint, herror]
    refine ⟨?_, by exact_mod_cast hle, hne⟩
    by_contra hzero
    exact hlegacy ⟨htype, by omega⟩
  · intro htype
    obtain ⟨hs, he⟩ := hacc.plain_status htype
    rw [hint, herror, hs]
    exact ⟨rfl, he⟩
  · rw [hsize]
    exact region.fits
  -- flags and status share one word of the header
  · ext1
    · exact hacc.version_eq.symm
    · rfl
    · show (h.control &&& rpcFlagsMask) |||
        ((ofRegion region h).parts.status.toUInt32 <<< rpcStatusShift) = h.control
      rw [hcast, control_join]
    · simp only [header, hname, UInt32.ofNat_toNat]
    · simp only [header, herror, UInt32.ofNat_toNat]
    · simp only [header, hpayload, UInt64.ofNat_toNat]

end Frame

/-- **Frames round-trip and have one encoding.** Accepted parts are encoded in
    exactly the measured number of bytes, these decode to the same fields, and
    no strict prefix or proper extension of them decodes. A region that decodes,
    and is no error frame with status byte 0, is what its fields encode to. -/
theorem frame_round_trip_unique :
    (∀ (parts : FrameParts) (required : Nat), framePartsValidate parts true = some required →
      frameMeasure parts = some required ∧
      ∃ encoded : Buffer, encoded.bytes.length = required ∧
        (∀ region : Buffer, required ≤ region.bytes.length →
          encodeFrameBytes parts (.buf region) =
            ⟨true, required, encoded.bytes ++ region.bytes.drop required⟩) ∧
        (∃ frame, decodeFrameBytes (.buf encoded) = some frame ∧
          frame.version = wireVersion ∧ frame.type = parts.type ∧
          (frame.status.toNat : Int) = parts.status.toInt ∧ frame.flags = parts.flags ∧
          frame.name.bytes = parts.name.contents ∧ frame.error.bytes = parts.error.contents ∧
          frame.payload.bytes = parts.payload.contents) ∧
        (∀ other : Slice,
          other.contents <+: encoded.bytes ∨ encoded.bytes <+: other.contents →
          other.contents ≠ encoded.bytes → decodeFrameBytes other = none)) ∧
    (∀ (data : Buffer) (frame : Frame), decodeFrameBytes (.buf data) = some frame →
      ¬(frame.type = RpcType.error.code ∧ data.bytes.getD 5 0 = 0) →
      ∀ region : Buffer, data.bytes.length ≤ region.bytes.length →
        encodeFrameBytes frame.parts (.buf region) =
          ⟨true, data.bytes.length, data.bytes ++ region.bytes.drop data.bytes.length⟩) := by
  constructor
  · intro parts required hval
    obtain ⟨hv, rfl⟩ := framePartsValidate_eq_some.1 hval
    refine ⟨hval, hv.region, frameBytes_length hv, ?_, hv.decode_region, ?_⟩
    · intro region hroom
      exact encodeFrameBytes_of_valid hv hroom
    · intro other hprefix hne
      cases other with
      | null _ _ => rfl
      | buf other =>
        -- A second accepted region with the same header would have the same length.
        cases hdec : decodeFrameBytes (.buf other) with
        | none => rfl
        | some frame =>
          have hother := (decodeFrameBytes_eq_some.1 hdec).1
          have hacc := hv.ofBytes_region ▸ hv.accepted
          rcases hprefix with hpre | hpre
          · exact absurd (hother.length_unique hacc hpre) hne
          · exact absurd (hacc.length_unique hother hpre).symm hne
  · intro data frame hdec hstatus region hroom
    obtain ⟨hacc, rfl⟩ := decodeFrameBytes_eq_some.1 hdec
    have hlegacy : ¬((ofBytes data.bytes).type = RpcType.error.code ∧
        (controlStatus (ofBytes data.bytes).control).toNat = 0) := by
      rintro ⟨htype, hzero⟩
      rw [controlStatus_ofBytes hacc.header_le] at hzero
      exact hstatus ⟨htype, UInt8.toNat_inj.1 hzero⟩
    obtain ⟨hv, hsize, hheader⟩ := hacc.valid hlegacy
    have hbytes :
        (Frame.ofRegion data (ofBytes data.bytes)).parts.frameBytes = data.bytes := by
      rw [frameBytes, wireWritePrefix, hheader]
      exact hacc.bytes_eq rfl
    rw [encodeFrameBytes_of_valid hv (hsize.trans_le hroom), hsize, hbytes]

/-- An error frame for the method `f`: status "unauthorized", text `no`. -/
def unauthorizedParts : FrameParts where
  type := RpcType.error.code
  status := 9
  flags := 4
  name := .buf ⟨[102], by decide⟩
  error := .buf ⟨[110, 111], by decide⟩
  payload := .null 0 (by decide)

/-- The bytes that error frame is sent as. -/
def unauthorizedFrame : Buffer :=
  ⟨[1, 3, 4, 0, 0, 9, 1, 0, 0, 0, 2, 0, 0, 0, 0, 0, 0, 0, 0, 0, 0, 0, 102, 110, 111], by decide⟩

theorem frame_round_trip_unique_unauthorized :
    (∃ encoded : Buffer, encoded.bytes.length = 25 ∧
      ∃ frame, decodeFrameBytes (.buf encoded) = some frame ∧
        (frame.status.toNat : Int) = unauthorizedParts.status.toInt) ∧
    ∀ frame, decodeFrameBytes (.buf unauthorizedFrame) = some frame →
      encodeFrameBytes frame.parts (.buf unauthorizedFrame) =
        ⟨true, 25, unauthorizedFrame.bytes⟩ := by
  constructor
  · obtain ⟨-, encoded, hlen, -, ⟨frame, hdec, -, -, hstatus, -⟩, -⟩ :=
      frame_round_trip_unique.1 unauthorizedParts 25 (by decide)
    exact ⟨encoded, hlen, frame, hdec, hstatus⟩
  · intro frame hdec
    exact frame_round_trip_unique.2 unauthorizedFrame frame hdec
      (fun h => absurd h.2 (by decide)) unauthorizedFrame le_rfl

end Ducknng
