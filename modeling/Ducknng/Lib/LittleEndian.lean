import Mathlib.Data.Nat.Log
import Mathlib.Tactic.Ring
import Mathlib.Tactic.NormNum

namespace ByteCodec

/-!
# Little-endian numbers

The byte layout every fixed-width field of a binary format is built from: a
natural number as `w` bytes, least significant byte first, and back.

* `leBytes w n` — the low `w` bytes of `n`.
* `leVal bs` — the number whose bytes are `bs`.
* `leVal_leBytes` / `leBytes_leVal` — the two round trips.
-/

/-- The `w` low bytes of `n`, least significant first. -/
def leBytes : Nat → Nat → List UInt8
  | 0, _ => []
  | w + 1, n => UInt8.ofNat (n % 256) :: leBytes w (n / 256)

/-- The number whose bytes, least significant first, are the given ones. -/
def leVal : List UInt8 → Nat
  | [] => 0
  | b :: bs => b.toNat + 256 * leVal bs

@[simp] theorem leBytes_length (w n : Nat) : (leBytes w n).length = w := by
  induction w generalizing n with
  | zero => rfl
  | succ w ih => simp [leBytes, ih]

/-- Bytes above the width are dropped, nothing else is lost. -/
theorem leVal_leBytes_mod (w n : Nat) : leVal (leBytes w n) = n % 256 ^ w := by
  induction w generalizing n with
  | zero => simp [leBytes, leVal, Nat.mod_one]
  | succ w ih =>
    have hb : (UInt8.ofNat (n % 256)).toNat = n % 256 := by
      rw [UInt8.toNat_ofNat']
      omega
    rw [leBytes, leVal, ih, hb, pow_succ', Nat.mod_mul]

/-- Reading back a number that fits its width. -/
theorem leVal_leBytes {w n : Nat} (h : n < 256 ^ w) : leVal (leBytes w n) = n := by
  rw [leVal_leBytes_mod, Nat.mod_eq_of_lt h]

/-- A byte string of length `w` denotes a number below `256 ^ w`. -/
theorem leVal_lt (bs : List UInt8) : leVal bs < 256 ^ bs.length := by
  induction bs with
  | nil => simp [leVal]
  | cons b bs ih =>
    have hb : b.toNat < 256 := b.toNat_lt
    rw [leVal, List.length_cons, pow_succ]
    omega

/-- Writing back a number that was read. -/
theorem leBytes_leVal (bs : List UInt8) : leBytes bs.length (leVal bs) = bs := by
  induction bs with
  | nil => rfl
  | cons b bs ih =>
    have hb : b.toNat < 256 := b.toNat_lt
    have hmod : (b.toNat + 256 * leVal bs) % 256 = b.toNat := by omega
    have hdiv : (b.toNat + 256 * leVal bs) / 256 = leVal bs := by omega
    rw [List.length_cons, leVal, leBytes, hmod, hdiv, ih, UInt8.ofNat_toNat]

/-- The same, with the width named. -/
theorem leBytes_leVal_of_length {bs : List UInt8} {w : Nat} (h : bs.length = w) :
    leBytes w (leVal bs) = bs := by
  rw [← h, leBytes_leVal]

/-- Cutting a field out of the string it was put in. -/
theorem take_drop_append {pre mid post : List UInt8} {off w : Nat}
    (hoff : pre.length = off) (hw : mid.length = w) :
    ((pre ++ (mid ++ post)).drop off).take w = mid := by
  rw [List.drop_left' hoff, List.take_left' hw]

end ByteCodec
