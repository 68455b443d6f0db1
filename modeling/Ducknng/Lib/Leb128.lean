import Mathlib.Tactic.IntervalCases
import Mathlib.Tactic.Ring
import Mathlib.Tactic.Linarith

namespace ByteCodec

open List

/-!
# Base-128 integers

The unsigned variable-length integers of binary serialisation formats: seven
bits to a byte, least significant group first, with the high bit set on every
byte but the last.

* `ulebBytes n v` — the encoding of `v` in at most `n` bytes.
* `ulebBytes_last` / `ulebBytes_more` — its two shapes.
* `last_group` / `more_group` — what the two kinds of byte hold.
* `Groups` — any sequence of groups, with the number it stands for, with a sign and without;
  `unsigned_fits`, `signed_fits` — which of them have 64 bits.
-/

/-- The encoding of `v`, cut off after `n` bytes. -/
def ulebBytes : Nat → Nat → List UInt8
  | 0, _ => []
  | n + 1, v =>
    if v < 128 then [UInt8.ofNat v]
    else UInt8.ofNat (v % 128 + 128) :: ulebBytes n (v / 128)

theorem ulebBytes_last {n v : Nat} (h : v < 128) : ulebBytes (n + 1) v = [UInt8.ofNat v] := by
  rw [ulebBytes, if_pos h]

theorem ulebBytes_more {n v : Nat} (h : ¬v < 128) :
    ulebBytes (n + 1) v = UInt8.ofNat (v % 128 + 128) :: ulebBytes n (v / 128) := by
  rw [ulebBytes, if_neg h]

/-- An encoding is never empty. -/
theorem ulebBytes_length_pos (n v : Nat) : 0 < (ulebBytes (n + 1) v).length := by
  by_cases h : v < 128
  · simp [ulebBytes_last h]
  · simp [ulebBytes_more h]

/-- The seven bits of a byte that belong to the number. -/
def payload (b : UInt8) : Nat := (b &&& 0x7f).toNat

/-- The payload and the continuation bit of a last byte. -/
theorem last_group : ∀ v < 128,
    payload (UInt8.ofNat v) = v ∧ UInt8.ofNat v &&& 0x80 = 0 := by
  decide +kernel

/-- The payload and the continuation bit of a byte that others follow. -/
theorem more_group : ∀ v < 128,
    payload (UInt8.ofNat (v + 128)) = v ∧ UInt8.ofNat (v + 128) &&& 0x80 ≠ 0 := by
  decide +kernel

/-- **No encoding begins another one**, of numbers that are not cut off. -/
theorem ulebBytes_inj {n v w : Nat} {r s : List UInt8} (hv : v < 128 ^ n) (hw : w < 128 ^ n)
    (h : ulebBytes n v ++ r = ulebBytes n w ++ s) : v = w ∧ r = s := by
  induction n generalizing v w with
  | zero => exact ⟨by omega, h⟩
  | succ n ih =>
    rw [Nat.pow_succ] at hv hw
    by_cases hlast : v < 128 <;> by_cases hlast' : w < 128 <;>
      simp only [ulebBytes, hlast, hlast', if_true, if_false, cons_append, nil_append] at h <;>
      obtain ⟨hhead, htail⟩ := cons.inj h <;>
      have hbyte := congrArg UInt8.toNat hhead <;>
      simp only [UInt8.toNat_ofNat'] at hbyte
    · exact ⟨by omega, htail⟩
    · omega
    · omega
    · obtain ⟨hdiv, hrest⟩ := ih (by omega) (by omega) htail
      exact ⟨by omega, hrest⟩

/-- Joining two groups of bits that do not overlap is addition. -/
theorem or_shiftLeft_eq_add {a b k : Nat} (h : a < 2 ^ k) : a ||| (b <<< k) = a + b * 2 ^ k := by
  rw [Nat.or_comm, ← Nat.shiftLeft_add_eq_or_of_lt h, Nat.shiftLeft_eq, Nat.add_comm]

/-- The number with these groups, whichever of the bytes says that it is the last. -/
def groupsVal : List UInt8 → Nat
  | [] => 0
  | b :: bs => payload b + 128 * groupsVal bs

/-- An encoded number, canonical or not: bytes that others follow, and a last one. -/
structure Groups where
  more : List UInt8
  last : UInt8
  follow : ∀ b ∈ more, b &&& 0x80 ≠ 0
  stop : last &&& 0x80 = 0

theorem payload_lt (b : UInt8) : payload b < 128 := by
  have h : (b &&& 0x7f).toNat ≤ 127 := by
    rw [UInt8.toNat_and]
    exact Nat.and_le_right
  exact Nat.lt_succ_of_le h

theorem groupsVal_lt (bs : List UInt8) : groupsVal bs < 128 ^ bs.length := by
  induction bs with
  | nil => exact Nat.one_pos
  | cons b bs ih =>
    have hb := payload_lt b
    rw [groupsVal, length_cons, Nat.pow_succ]
    omega

/-- What the masks of a reader say about the payload of a byte. -/
theorem payload_masks (b : UInt8) :
    (b &&& 0x7e = 0 ↔ payload b < 2) ∧ (b &&& 0x40 = 0 ↔ payload b < 64) := by
  have h : ∀ v < 256, (UInt8.ofNat v &&& 0x7e = 0 ↔ (UInt8.ofNat v &&& 0x7f).toNat < 2) ∧
      (UInt8.ofNat v &&& 0x40 = 0 ↔ (UInt8.ofNat v &&& 0x7f).toNat < 64) := by
    decide +kernel
  have hb := h b.toNat b.toNat_lt
  rwa [UInt8.ofNat_toNat] at hb

namespace Groups

def bytes (g : Groups) : List UInt8 := g.more ++ [g.last]

/-- The number read without a sign. -/
def unsigned (g : Groups) : Nat := groupsVal g.more + payload g.last * 128 ^ g.more.length

/-- The last group as a two's complement digit. -/
def top (g : Groups) : Int := if g.last &&& 0x40 = 0 then payload g.last else payload g.last - 128

/-- The number read with a sign, which is the highest bit of the last group. -/
def signed (g : Groups) : Int := groupsVal g.more + g.top * 128 ^ g.more.length

/-- One more byte in front. -/
def cons (b : UInt8) (hb : b &&& 0x80 ≠ 0) (g : Groups) : Groups where
  more := b :: g.more
  last := g.last
  follow := forall_mem_cons.2 ⟨hb, g.follow⟩
  stop := g.stop

/-- A byte that is the first and the last. -/
def one (b : UInt8) (hb : b &&& 0x80 = 0) : Groups := ⟨[], b, fun _ h => absurd h not_mem_nil, hb⟩

theorem unsigned_one (b : UInt8) (hb : b &&& 0x80 = 0) : (one b hb).unsigned = payload b := by
  simp [one, unsigned, groupsVal]

theorem unsigned_cons (b : UInt8) (hb : b &&& 0x80 ≠ 0) (g : Groups) :
    (cons b hb g).unsigned = payload b + 128 * g.unsigned := by
  show payload b + 128 * groupsVal g.more + payload g.last * 128 ^ (g.more.length + 1) = _
  unfold unsigned
  ring

theorem signed_cons (b : UInt8) (hb : b &&& 0x80 ≠ 0) (g : Groups) :
    (cons b hb g).signed = payload b + 128 * g.signed := by
  show ((payload b + 128 * groupsVal g.more : Nat) : Int) + g.top * 128 ^ (g.more.length + 1) = _
  unfold signed
  push_cast
  ring

/-- Induction from the last byte to the first. -/
theorem induction {P : Groups → Prop} (one : ∀ b hb, P (one b hb))
    (cons : ∀ b hb g, P g → P (cons b hb g)) (g : Groups) : P g := by
  obtain ⟨more, last, follow, stop⟩ := g
  induction more with
  | nil => exact one last stop
  | cons b more ih =>
    obtain ⟨hb, hmore⟩ := forall_mem_cons.1 follow
    exact cons b hb ⟨more, last, hmore, stop⟩ (ih hmore)

theorem unsigned_fits (g : Groups) (h : g.more.length ≤ 9) :
    g.unsigned < 2 ^ 64 ↔ (g.more.length = 9 → g.last &&& 0x7e = 0) := by
  have hlow := groupsVal_lt g.more
  have htop := payload_lt g.last
  rw [(payload_masks g.last).1]
  unfold unsigned
  generalize hn : g.more.length = n at *
  interval_cases n <;> omega

theorem signed_fits (g : Groups) (h : g.more.length ≤ 9) :
    -2 ^ 63 ≤ g.signed ∧ g.signed < 2 ^ 63 ↔
      (g.more.length = 9 → payload g.last = 0 ∨ payload g.last = 127) := by
  have hlow := groupsVal_lt g.more
  have htop := payload_lt g.last
  have hsign := (payload_masks g.last).2
  unfold signed top
  rw [if_congr hsign rfl rfl]
  generalize hn : g.more.length = n at *
  interval_cases n <;> split <;> omega

end Groups

/-- What is written for a number are groups of it. -/
theorem ulebBytes_groups {n v : Nat} (h : v < 128 ^ (n + 1)) :
    ∃ g : Groups, ulebBytes (n + 1) v = g.bytes ∧ g.unsigned = v ∧ g.more.length ≤ n := by
  have hone : ∀ {n v}, v < 128 →
      ∃ g : Groups, ulebBytes (n + 1) v = g.bytes ∧ g.unsigned = v ∧ g.more.length ≤ n := by
    intro n v hlast
    obtain ⟨hval, hstop⟩ := last_group v hlast
    exact ⟨.one _ hstop, ulebBytes_last hlast, (Groups.unsigned_one _ _).trans hval, Nat.zero_le n⟩
  induction n generalizing v with
  | zero => exact hone (by simpa using h)
  | succ n ih =>
    by_cases hlast : v < 128
    · exact hone hlast
    · obtain ⟨hval, hmore⟩ := more_group (v % 128) (Nat.mod_lt v (by decide))
      obtain ⟨g, hbytes, hrest, hlen⟩ := ih ((Nat.div_lt_iff_lt_mul (by decide)).2 h)
      refine ⟨g.cons _ hmore, ?_, ?_, Nat.succ_le_succ hlen⟩
      · rw [ulebBytes_more hlast, hbytes]
        rfl
      · rw [Groups.unsigned_cons, hval, hrest, Nat.mod_add_div]

end ByteCodec
