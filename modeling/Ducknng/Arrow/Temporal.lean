import Mathlib.Algebra.GroupWithZero.Nat
import Mathlib.Algebra.Ring.Int.Defs

namespace Ducknng.Arrow

/-!
# Temporal values of Arrow columns

`ducknng_sql_arrow_assign_column_at` turns the raw numbers of date, time, timestamp and duration
columns into the numbers of DuckDB's types. It computes in 64 bits, where a product wraps, and
narrows days to 32, and it never refuses a value.

* `TemporalType.store` — the number that is stored.
* `TemporalType.exact`, `TemporalType.Fits` — the converted number, and whether DuckDB's field
  has room for it.
* `temporal_exact_iff` — the number is converted or refused exactly when it fits.
-/

/-- `ArrowTimeUnit`. -/
inductive TimeUnit
  | second
  | milli
  | micro
  | nano
  deriving DecidableEq

/-- The temporal cases of the switch; a timestamp is zoned if it names a time zone. -/
inductive TemporalType
  | date32
  | date64
  | time (unit : TimeUnit)
  | timestamp (unit : TimeUnit) (zoned : Bool)
  | duration (unit : TimeUnit)
  deriving DecidableEq

/-- The factor to microseconds. -/
def TimeUnit.toMicros : TimeUnit → Int64
  | .second => 1000000
  | .milli => 1000
  | _ => 1

/-- `ducknng_sql_arrow_floor_div_i64`. -/
def floorDivI64 (value divisor : Int64) : Int64 :=
  let q := value / divisor
  let r := value % divisor
  if r ≠ 0 ∧ (r < 0) ≠ (divisor < 0) then q - 1 else q

namespace TemporalType

/-- The number that the column gets for a raw value: days in 32 bits, and otherwise 64 bits of the
    unit of the DuckDB type. The interval of a duration has no months and no days. -/
def store (raw : Int64) : TemporalType → Int
  | .date32 => raw.toInt32.toInt
  | .date64 => (floorDivI64 raw 86400000).toInt32.toInt
  | .time .nano => raw.toInt
  | .time unit => (raw * unit.toMicros).toInt
  | .timestamp .nano true => (raw / 1000).toInt
  | .timestamp unit true => (raw * unit.toMicros).toInt
  | .timestamp .micro false => (raw * TimeUnit.micro.toMicros).toInt
  | .timestamp _ false => raw.toInt
  | .duration .nano => (raw / 1000).toInt
  | .duration unit => (raw * unit.toMicros).toInt

/-- `ducknng_sql_arrow_assign_column_at` for one value of a temporal column. -/
def assign (type : TemporalType) (raw : Int64) : Option Int := some (type.store raw)

/-- The mathematical value of the conversion; division by a positive number rounds down. -/
def exact (type : TemporalType) (raw : Int) : Int :=
  match type with
  | .date32 => raw
  | .date64 => raw / 86400000
  | .time .nano => raw
  | .time unit => raw * unit.toMicros.toInt
  | .timestamp .nano true => raw.tdiv 1000
  | .timestamp unit true => raw * unit.toMicros.toInt
  | .timestamp _ false => raw
  | .duration .nano => raw.tdiv 1000
  | .duration unit => raw * unit.toMicros.toInt

/-- The bits of the field that holds the number. -/
def bits : TemporalType → Nat
  | .date32 | .date64 => 32
  | _ => 64

/-- The field has room for the number. -/
def Fits (type : TemporalType) (value : Int) : Prop :=
  -2 ^ (type.bits - 1) ≤ value ∧ value < 2 ^ (type.bits - 1)

instance (type : TemporalType) (value : Int) : Decidable (type.Fits value) :=
  inferInstanceAs (Decidable (_ ∧ _))

end TemporalType

theorem bmod_of_fits {value : Int} (hlow : -2 ^ 63 ≤ value) (hhigh : value < 2 ^ 63) :
    value.bmod (2 ^ 64) = value :=
  Int.bmod_eq_of_le (by omega) (by omega)

/-- The quotient is corrected to the one below. -/
theorem toInt_floorDivI64 (raw : Int64) :
    (floorDivI64 raw 86400000).toInt = raw.toInt / 86400000 := by
  have hlow := raw.le_toInt
  have hquot : (raw / 86400000).toInt = raw.toInt.tdiv 86400000 :=
    Int64.toInt_div_of_ne_right _ _ (by decide)
  have hrem : (raw % 86400000).toInt = raw.toInt.tmod 86400000 := Int64.toInt_mod _ _
  have hsplit := Int.tmod_add_mul_tdiv raw.toInt 86400000
  have hdiv : raw.toInt.tdiv 86400000 = raw.toInt / 86400000 +
      if 0 ≤ raw.toInt ∨ 86400000 ∣ raw.toInt then 0 else 1 := Int.tdiv_eq_ediv
  have hzero : raw % 86400000 ≠ 0 ↔ raw.toInt.tmod 86400000 ≠ 0 := by
    rw [← hrem, ne_eq, ne_eq, ← Int64.toInt_inj]
    rfl
  have hneg : raw % 86400000 < 0 ↔ raw.toInt.tmod 86400000 < 0 := by
    rw [← hrem, Int64.lt_iff_toInt_lt]
    rfl
  simp only [floorDivI64, hzero, hneg, show ¬(86400000 : Int64) < 0 by decide, ne_eq, eq_iff_iff,
    iff_false, not_not]
  split
  · rw [Int64.toInt_sub, hquot, show (1 : Int64).toInt = 1 from rfl, bmod_of_fits] <;>
      split at hdiv <;> omega
  · split at hdiv <;> omega

/-- A number that fits is stored as it is. -/
theorem TemporalType.store_of_fits (type : TemporalType) {raw : Int64}
    (h : type.Fits (type.exact raw.toInt)) : type.store raw = type.exact raw.toInt := by
  obtain ⟨hlow, hhigh⟩ := h
  have hmul (unit : TimeUnit) (hlow : -2 ^ 63 ≤ raw.toInt * unit.toMicros.toInt)
      (hhigh : raw.toInt * unit.toMicros.toInt < 2 ^ 63) :
      (raw * unit.toMicros).toInt = raw.toInt * unit.toMicros.toInt := by
    rw [Int64.toInt_mul, bmod_of_fits hlow hhigh]
  have hdiv : (raw / 1000).toInt = raw.toInt.tdiv 1000 :=
    Int64.toInt_div_of_ne_right _ _ (by decide)
  have hone : (raw * TimeUnit.micro.toMicros).toInt = raw.toInt :=
    congrArg _ (Int64.mul_one raw)
  have hdays {days : Int64} (hlow : -2 ^ 31 ≤ days.toInt) (hhigh : days.toInt < 2 ^ 31) :
      days.toInt32.toInt = days.toInt := by
    rw [Int64.toInt_toInt32]
    exact Int.bmod_eq_of_le (by omega) (by omega)
  cases type with
  | date32 => exact hdays hlow hhigh
  | date64 =>
    rw [exact, ← toInt_floorDivI64] at hlow hhigh ⊢
    exact hdays hlow hhigh
  | time unit => cases unit <;> first | rfl | exact hmul _ hlow hhigh
  | timestamp unit zoned =>
    cases unit <;> cases zoned <;>
      first | rfl | exact hone | exact hdiv | exact hmul _ hlow hhigh
  | duration unit => cases unit <;> first | exact hdiv | exact hmul _ hlow hhigh

/-- A value is converted exactly, or refused because it does not fit, exactly when it fits. -/
theorem temporal_exact_iff (type : TemporalType) (raw : Int64) :
    type.assign raw =
        (if type.Fits (type.exact raw.toInt) then some (type.exact raw.toInt) else none) ↔
      type.Fits (type.exact raw.toInt) := by
  by_cases h : type.Fits (type.exact raw.toInt)
  · simp [TemporalType.assign, h, type.store_of_fits h]
  · simp [TemporalType.assign, h]

/-- A date and a duration beyond their fields are stored as other numbers. -/
theorem temporal_wraps :
    TemporalType.date64.exact 4611686018427387904 = 53375995583 ∧
      TemporalType.date64.assign 4611686018427387904 = some 1836388031 ∧
      (TemporalType.duration .second).exact 4611686018427387904 = 4611686018427387904000000 ∧
      (TemporalType.duration .second).assign 4611686018427387904 = some 0 := by
  decide +kernel

end Ducknng.Arrow
