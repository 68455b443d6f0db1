import Mathlib.Algebra.GroupWithZero.Nat
import Mathlib.Tactic.Common

namespace Ducknng

/-!
# Overflow-checked sizes and C strings

`ducknng_checked.c` over a 64-bit `size_t`: sums and products of sizes that
are refused instead of wrapping. A size is a `Nat`; every sum the source
computes without these helpers is guarded by an explicit bound.

* `sizeAdd`, `sizeMul`, `u64Add`, `u64Mul` — the four checked operations.
* `sizeAdd_eq_some`, `sizeMul_eq_some` — when they succeed, and with what.
* `CStr` — the text a `char *` points at: bytes without a NUL.
-/

/-- `SIZE_MAX` of a 64-bit target. -/
def sizeMax : Nat := 2 ^ 64 - 1

/-- `UINT64_MAX`. -/
def u64Max : Nat := 2 ^ 64 - 1

/-- `UINT32_MAX`. -/
def u32Max : Nat := 2 ^ 32 - 1

/-- `ducknng_size_add`. -/
def sizeAdd (a b : Nat) : Option Nat :=
  if b > sizeMax - a then none else some (a + b)

/-- `ducknng_size_mul`. -/
def sizeMul (a b : Nat) : Option Nat :=
  if a ≠ 0 ∧ b > sizeMax / a then none else some (a * b)

/-- `ducknng_u64_add`. -/
def u64Add (a b : Nat) : Option Nat :=
  if b > u64Max - a then none else some (a + b)

/-- `ducknng_u64_mul`. -/
def u64Mul (a b : Nat) : Option Nat :=
  if a ≠ 0 ∧ b > u64Max / a then none else some (a * b)

/-- A checked sum of sizes succeeds exactly when the sum is a size. -/
theorem sizeAdd_eq_some {a b c : Nat} (ha : a ≤ sizeMax) :
    sizeAdd a b = some c ↔ c = a + b ∧ c ≤ sizeMax := by
  unfold sizeAdd
  split
  · simp only [reduceCtorEq, false_iff]
    omega
  · simp only [Option.some.injEq]
    omega

/-- A checked product of sizes succeeds exactly when the product is a size. -/
theorem sizeMul_eq_some {a b c : Nat} : sizeMul a b = some c ↔ c = a * b ∧ c ≤ sizeMax := by
  unfold sizeMul
  by_cases ha : a = 0
  · subst ha
    simp only [ne_eq, not_true_eq_false, false_and, if_false, Nat.zero_mul, Option.some.injEq]
    omega
  · have hdiv : sizeMax / a < b ↔ sizeMax < a * b := by
      rw [Nat.div_lt_iff_lt_mul (Nat.pos_of_ne_zero ha), Nat.mul_comm b a]
    split
    · simp only [reduceCtorEq, false_iff]
      omega
    · simp only [Option.some.injEq]
      omega

/-- On a 64-bit target the two widths of checked sum agree. -/
theorem u64Add_eq_some {a b c : Nat} (ha : a ≤ u64Max) :
    u64Add a b = some c ↔ c = a + b ∧ c ≤ u64Max := sizeAdd_eq_some ha

/-- On a 64-bit target the two widths of checked product agree. -/
theorem u64Mul_eq_sizeMul (a b : Nat) : u64Mul a b = sizeMul a b := rfl

/-! ### C strings -/

/-- What a `char *` points at, up to its terminator. -/
structure CStr where
  bytes : List UInt8
  noNul : 0 ∉ bytes
  deriving DecidableEq

/-- The empty C string. -/
def CStr.empty : CStr := ⟨[], List.not_mem_nil⟩

/-- `"a"`, `"h"`, `"m"`, `"t"` and `"/a"`. -/
def CStr.a : CStr := ⟨[0x61], by decide⟩

@[inherit_doc CStr.a] def CStr.h : CStr := ⟨[0x68], by decide⟩

@[inherit_doc CStr.a] def CStr.m : CStr := ⟨[0x6d], by decide⟩

@[inherit_doc CStr.a] def CStr.t : CStr := ⟨[0x74], by decide⟩

@[inherit_doc CStr.a] def CStr.slashA : CStr := ⟨[0x2f, 0x61], by decide⟩

@[ext] theorem CStr.ext {a b : CStr} (h : a.bytes = b.bytes) : a = b := by
  cases a
  cases b
  simpa using h

end Ducknng
