import Ducknng.Quack.Writer

namespace Ducknng

open List ByteCodec

/-!
# Variable-length integers are read back exactly

The readers of the byte kernel give back what its writer has put into a buffer, and they accept
no sequence of groups whose number does not have 64 bits.

* `Qk.reads_signed` — the signed reader on a sequence of groups.
* `Qk.Exact` — a reader gives the number that stands at the cursor, or reports why not.
* `QkWriter.ReadBack` — what is written is read back, whatever follows it.
* `varint_exact` — both, for both kinds of integers.
-/

namespace Qk

theorem readSleb128Loop_eq (fuel shift bits : Nat) :
    readSleb128Loop fuel shift (bits % 2 ^ 64) =
      groupLoop (fun b => payload b = 0 ∨ payload b = 127)
        (fun bits shift b => (bits % 2 ^ 64, shift, b)) fuel shift bits := by
  induction fuel generalizing shift bits with
  | zero => rfl
  | succ fuel ih =>
    rw [readSleb128Loop, groupLoop]
    refine if_congr Iff.rfl rfl (congrArg (readU8 >>= ·) (funext fun b => ?_))
    have hlegal : shift = 63 ∧ b &&& 0x7f ≠ 0 ∧ b &&& 0x7f ≠ 0x7f ↔
        shift = 63 ∧ ¬(payload b = 0 ∨ payload b = 127) := by
      simp [payload, ← UInt8.toNat_inj]
    have hbits : (bits % 2 ^ 64 ||| payload b <<< shift) % 2 ^ 64 =
        (bits ||| payload b <<< shift) % 2 ^ 64 := by
      rw [Nat.or_mod_two_pow, Nat.mod_mod, ← Nat.or_mod_two_pow]
    refine if_congr hlegal rfl (if_congr Iff.rfl ?_ ?_)
    · exact congrArg (fun bits => pure (bits, shift, b)) hbits
    · show readSleb128Loop fuel (shift + 7) ((bits % 2 ^ 64 ||| payload b <<< shift) % 2 ^ 64) = _
      rw [hbits, ih]

/-- The bits above the last group are filled with its sign. -/
theorem signExtend_eq (g : Groups) (hlen : g.more.length ≤ 9)
    (hfit : -2 ^ 63 ≤ g.signed ∧ g.signed < 2 ^ 63) :
    (BitVec.ofNat 64 (if 7 * g.more.length < 63 ∧ g.last &&& 0x40 ≠ 0
      then (g.unsigned % 2 ^ 64 ||| ((2 ^ 64 - 1) <<< (7 * g.more.length + 7))) % 2 ^ 64
      else g.unsigned % 2 ^ 64)).toInt = g.signed := by
  have hlegal := (g.signed_fits hlen).1 hfit
  have hlow := groupsVal_lt g.more
  have htop := payload_lt g.last
  have hsign := (payload_masks g.last).2
  -- what was read lies below the bits that are filled in
  have hfill : 7 * g.more.length < 63 → g.unsigned % 2 ^ 64 < 2 ^ (7 * g.more.length + 7) := by
    unfold Groups.unsigned
    generalize g.more.length = n at *
    intro hn
    interval_cases n <;> omega
  rw [BitVec.toInt_ofNat', Int.bmod_def]
  simp only [ne_eq, hsign]
  split
  next hneg =>
    rw [or_shiftLeft_eq_add (hfill hneg.1)]
    unfold Groups.unsigned Groups.signed Groups.top
    rw [if_congr hsign rfl rfl, if_neg hneg.2]
    generalize g.more.length = n at *
    interval_cases n <;> omega
  next hpos =>
    unfold Groups.unsigned Groups.signed Groups.top
    rw [if_congr hsign rfl rfl]
    generalize g.more.length = n at *
    interval_cases n <;> omega

theorem reads_signed {limit : Bounds} (g : Groups) (hlen : g.more.length ≤ 9)
    (hfit : -2 ^ 63 ≤ g.signed ∧ g.signed < 2 ^ 63) :
    Reads limit readSleb128 g.bytes 0 g.signed := by
  have h := @reads_groupLoop _ (fun b => payload b = 0 ∨ payload b = 127) _
    (fun bits shift b => (bits % 2 ^ 64, shift, b)) limit 11 0 0 g rfl Nat.one_pos (by omega)
    (fun h => (g.signed_fits hlen).1 hfit (by omega))
  rw [← readSleb128Loop_eq, Nat.zero_add, Nat.zero_add, Nat.pow_zero, Nat.mul_one] at h
  refine h.bind_nil ?_
  rw [← signExtend_eq g hlen hfit]
  exact Reads.pure _

/-- The reader gives the number of the groups at the cursor, which are at most ten and fit, or
    reports that the input ends or that the number is too large. -/
def Exact {α : Type} (read : QkRead α) (value : Groups → α) (fits : α → Prop) : Prop :=
  ∀ c : Cursor,
    (∃ (g : Groups) (rest : List UInt8), c.data.drop c.off = g.bytes ++ rest ∧
      g.bytes.length ≤ 10 ∧ fits (value g) ∧
      read c = .ok (value g, c.advance g.bytes.length 0)) ∨
    read c = .error .truncated ∨ read c = .error .overflow

/-- A reader is exact if it reads the groups that fit and refuses everything else. -/
theorem exact_of_reads {α : Type} {read : QkRead α} {value : Groups → α} {fits : α → Prop}
    (hreads : ∀ limit g, g.more.length ≤ 9 → fits (value g) →
      Reads limit read g.bytes 0 (value g))
    (hcases : ∀ c : Cursor, (∃ (g : Groups) (rest : List UInt8),
      c.data.drop c.off = g.bytes ++ rest ∧ g.more.length ≤ 9 ∧ fits (value g)) ∨
      read c = .error .truncated ∨ read c = .error .overflow) : Exact read value fits := by
  intro c
  obtain ⟨g, rest, hdrop, hlen, hfit⟩ | herror := hcases c
  · have hten : g.bytes.length ≤ 10 := by
      rw [Groups.bytes, length_append, length_singleton]
      omega
    exact .inl ⟨g, rest, hdrop, hten, hfit,
      hreads ⟨c.data.length, c.spent⟩ g hlen hfit c rest (Nat.le_refl _) hdrop (Nat.le_refl _)⟩
  · exact .inr herror

theorem exact_unsigned : Exact readUleb128 Groups.unsigned (· < 2 ^ 64) := by
  refine exact_of_reads (fun _ => reads_unsigned) fun c => ?_
  obtain ⟨g, rest, hdrop, hshift, hlegal⟩ | herror := @groupLoop_cases _
    (fun b => b &&& 0x7e = 0) _ (fun value _ _ => value) 11 0 0 c rfl
  · have hlen : g.more.length ≤ 9 := by omega
    exact .inl ⟨g, rest, hdrop, hlen, (g.unsigned_fits hlen).2 fun h => hlegal (by omega)⟩
  · rw [← readUleb128Loop_eq] at herror
    exact .inr herror

theorem exact_signed :
    Exact readSleb128 Groups.signed (fun v => -2 ^ 63 ≤ v ∧ v < 2 ^ 63) := by
  refine exact_of_reads (fun _ => reads_signed) fun c => ?_
  obtain ⟨g, rest, hdrop, hshift, hlegal⟩ | herror := @groupLoop_cases _
    (fun b => payload b = 0 ∨ payload b = 127) _ (fun bits shift b => (bits % 2 ^ 64, shift, b))
    11 0 0 c rfl
  · have hlen : g.more.length ≤ 9 := by omega
    exact .inl ⟨g, rest, hdrop, hlen, (g.signed_fits hlen).2 fun h => hlegal (by omega)⟩
  · rw [← readSleb128Loop_eq, Nat.zero_mod] at herror
    refine .inr (herror.imp ?_ ?_)
    all_goals
      intro h
      show (readSleb128Loop 11 0 0 c).bind _ = _
      rw [h]
      rfl

end Qk

namespace QkWriter

/-- What the writer puts into a buffer that still has room for ten bytes, or that turns out to
    have enough, the reader takes back off the front of whatever follows. -/
def ReadBack {α : Type} (write : Action) (read : QkRead α) (value : α) : Prop :=
  ∀ (memory : List UInt8) (room : Nat) (sent : List UInt8) (w : QkWriter),
    Holds memory room sent w → room ≤ sizeMax →
    (sent.length + 10 ≤ room → (write w).1 = true) ∧
    ((write w).1 = true → ∀ (suffix : List UInt8) (spent : Nat),
      let data := (write w).2.data.take (write w).2.position ++ suffix
      read ⟨data, w.position, spent⟩ = .ok (value, ⟨data, (write w).2.position, spent⟩))

/-- The bytes one by one. -/
def byteSources (bytes : List UInt8) : List Source := bytes.map fun b => .memory [b]

theorem readBack_of_reads {α : Type} {write : Action} {read : QkRead α} {value : α}
    {bytes : List UInt8} (hwrites : Writes write (byteSources bytes)) (hten : bytes.length ≤ 10)
    (hreads : ∀ limit, Reads limit read bytes 0 value) : ReadBack write read value := by
  intro memory room sent w hholds hroom
  have hvalid : ∀ source ∈ byteSources bytes, source.valid = true := by
    simp [byteSources, Source.valid]
  have hcontent : content (byteSources bytes) = bytes := by
    simp [content, byteSources, flatMap_map, Source.bytes]
  obtain ⟨hsmall, hlarge⟩ := hholds.putAll _ hvalid (.inl hroom)
  rw [hcontent, length_append] at hsmall hlarge
  rw [hwrites w hholds.status]
  simp only [Option.isNone_iff_eq_none]
  refine ⟨fun hspace => (hsmall (by omega)).status, fun hok suffix spent => ?_⟩
  have hafter := hsmall (Nat.le_of_not_lt fun hbig => hlarge hbig hok)
  rw [hafter.data, hafter.position, take_left, hholds.position, length_append]
  exact hreads ⟨(sent ++ bytes ++ suffix).length, spent⟩ ⟨_, _, spent⟩ suffix (Nat.le_refl _)
    (by simp) (Nat.le_refl _)

theorem uleb128Pieces_eq (fuel value : Nat) :
    uleb128Pieces fuel value = byteSources (ulebBytes fuel value) := by
  induction fuel generalizing value with
  | zero => rfl
  | succ fuel ih =>
    by_cases hlast : value < 128
    · have hdiv : value / 128 = 0 := Nat.div_eq_of_lt hlast
      simp [ulebBytes_last hlast, uleb128Pieces, byteSources, hdiv, Nat.mod_eq_of_lt hlast]
    · have hdiv : value / 128 ≠ 0 := by omega
      rw [ulebBytes_more hlast, uleb128Pieces, if_pos hdiv, if_pos hdiv, ih]
      rfl

/-- What is written for a signed number are groups of it. -/
theorem sleb128Pieces_groups {n : Nat} {value : Int} (hlow : -(64 * 128 ^ n) ≤ value)
    (hhigh : value < 64 * 128 ^ n) : ∃ g : Groups,
    sleb128Pieces (n + 1) value = byteSources g.bytes ∧ g.signed = value ∧ g.more.length ≤ n := by
  by_cases hlast : -64 ≤ value ∧ value < 64
  · obtain ⟨hval, hstop⟩ := last_group (value % 128).toNat (by omega)
    refine ⟨.one _ hstop, ?_, ?_, Nat.zero_le n⟩
    · rw [sleb128Pieces, sleb128Group_eq, if_pos hlast]
      rfl
    · have hsign := (payload_masks (UInt8.ofNat (value % 128).toNat)).2
      simp only [Groups.signed, Groups.top, Groups.one, groupsVal, if_congr hsign rfl rfl, hval]
      simp only [length_nil]
      omega
  · cases n with
    | zero => omega
    | succ n =>
      rw [Int.pow_succ] at hlow hhigh
      obtain ⟨hval, hmore⟩ := more_group (value % 128).toNat (by omega)
      obtain ⟨g, hpieces, hrest, hlen⟩ := @sleb128Pieces_groups n (value / 128)
        (by omega) (by omega)
      refine ⟨g.cons _ hmore, ?_, ?_, Nat.succ_le_succ hlen⟩
      · rw [sleb128Pieces, sleb128Group_eq, if_neg hlast]
        exact congrArg (_ :: ·) hpieces
      · rw [Groups.signed_cons, hval, hrest]
        omega

end QkWriter

open QkWriter Qk in
/-- **Variable-length integers.** Every 64-bit integer is read back from the bytes that were
    written for it, whatever follows them; and on any input a reader gives the number of the
    groups it stands before, which has 64 bits, or reports truncation or overflow. -/
theorem varint_exact :
    (∀ n : UInt64, ReadBack (QkWriter.writeUleb128 n) readUleb128 n.toNat) ∧
    (∀ k : Int64, ReadBack (writeSleb128 k) readSleb128 k.toInt) ∧
    Exact readUleb128 Groups.unsigned (· < 2 ^ 64) ∧
    Exact readSleb128 Groups.signed (fun v => -2 ^ 63 ≤ v ∧ v < 2 ^ 63) := by
  refine ⟨fun n => ?_, fun k => ?_, exact_unsigned, exact_signed⟩
  · have hn : n.toNat < 2 ^ 64 := n.toNat_lt
    obtain ⟨g, hbytes, hval, hlen⟩ := @ulebBytes_groups 9 n.toNat (Nat.lt_trans hn (by decide))
    have hwrites := writes_writeUleb128Loop 10 n.toNat
    rw [uleb128Pieces_eq, hbytes] at hwrites
    refine readBack_of_reads hwrites ?_ fun limit => ?_
    · rw [Groups.bytes, length_append, length_singleton]
      omega
    · rw [← hval] at hn ⊢
      exact reads_unsigned g hlen hn
  · have hlow := k.le_toInt
    have hhigh := k.toInt_lt
    obtain ⟨g, hpieces, hval, hlen⟩ := @sleb128Pieces_groups 9 k.toInt (by omega) (by omega)
    have hwrites := writes_writeSleb128Loop 10 k.toInt
    rw [hpieces] at hwrites
    refine readBack_of_reads hwrites ?_ fun limit => ?_
    · rw [Groups.bytes, length_append, length_singleton]
      omega
    · rw [← hval] at hlow hhigh ⊢
      exact reads_signed g hlen ⟨hlow, hhigh⟩

end Ducknng
