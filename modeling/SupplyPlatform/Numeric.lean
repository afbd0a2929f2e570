import SupplyPlatform.Database
import SupplyPlatform.Lib.Float64

namespace SupplyPlatform

open Float64

/-- Storing a number in NUMERIC(precision, scale), as a count of units of its last place: rounded, halves
away from zero. -/
def numeric (precision scale : Nat) (x : ℚ) : Except DbError Int :=
  let units := if 0 ≤ x then ⌊x * 10 ^ scale + 1 / 2⌋ else -⌊-x * 10 ^ scale + 1 / 2⌋
  if units.natAbs < 10 ^ precision then .ok units else .error .numericOverflow

/-- A float64 as the argument for such a column: the driver sends its shortest decimal. -/
def storeFloat (precision scale : Nat) (x : ℚ) : Except DbError Int :=
  numeric precision scale (shortestDecimal x)

/-- What such a column holds. -/
def ofUnits (scale : Nat) (units : Int) : ℚ := units / 10 ^ scale

/-- Such a column scanned into a float64. -/
def scanFloat (scale : Nat) (units : Int) : ℚ := float64 (ofUnits scale units)

/-- A float64 as such a column holds it. -/
def asColumn (precision scale : Nat) (x : ℚ) : Except DbError ℚ :=
  (storeFloat precision scale x).map (ofUnits scale)

/-- A column of this value, scanned into a float64 and written back, holds what it held. -/
def Survives (precision scale : Nat) (x : ℚ) : Prop := asColumn precision scale (float64 x) = .ok x

theorem numeric_units {precision scale : Nat} {units : Int} (h : units.natAbs < 10 ^ precision) :
    numeric precision scale (ofUnits scale units) = .ok units := by
  have hten : (0 : ℚ) < 10 ^ scale := by positivity
  have hround : ∀ n : Int, ⌊(n : ℚ) + 1 / 2⌋ = n := by
    intro n
    rw [Int.floor_eq_iff]
    constructor <;> linarith
  have hunits : (if 0 ≤ (units : ℚ) / 10 ^ scale then ⌊(units : ℚ) / 10 ^ scale * 10 ^ scale + 1 / 2⌋
      else -⌊-((units : ℚ) / 10 ^ scale) * 10 ^ scale + 1 / 2⌋) = units := by
    rw [neg_mul, div_mul_cancel₀ _ hten.ne', ← Int.cast_neg, hround, hround, neg_neg, ite_self]
  rw [numeric, ofUnits, hunits, if_pos h]

/-- What has fewer than 16 digits is written back as it was. -/
theorem storeFloat_scanFloat {precision scale k : Nat} {units : Int} (hk : 2 ^ k * 10 ^ scale < 2 ^ 53)
    (hunits : |units| < 2 ^ k * 10 ^ scale) (h : units.natAbs < 10 ^ precision) :
    storeFloat precision scale (scanFloat scale units) = .ok units := by
  rw [storeFloat, scanFloat, ofUnits, shortestDecimal_float64 hk hunits, ← ofUnits, numeric_units h]

theorem survives_of_lt {precision scale k : Nat} {units : Int} (hk : 2 ^ k * 10 ^ scale < 2 ^ 53)
    (hunits : |units| < 2 ^ k * 10 ^ scale) (h : units.natAbs < 10 ^ precision) :
    Survives precision scale (ofUnits scale units) := by
  have hstored := storeFloat_scanFloat hk hunits h
  rw [scanFloat] at hstored
  rw [Survives, asColumn, hstored]
  rfl

end SupplyPlatform
