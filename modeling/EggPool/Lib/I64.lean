import Mathlib

/-!
# Signed 64-bit arithmetic

Machine integers are modelled as `Int` with the two ways the standard library
leaves the range written out: saturation and a checked result.
-/

namespace EggPool.Lib.I64

/-- `i64::MAX`. -/
def MAX : Int := 9223372036854775807

/-- `i64::MIN`. -/
def MIN : Int := -9223372036854775808

/-- `i64::saturating_add`. -/
def saturatingAdd (a b : Int) : Int := max MIN (min MAX (a + b))

/-- `i64::checked_mul`. -/
def checkedMul (a b : Int) : Option Int :=
  if MIN ≤ a * b ∧ a * b ≤ MAX then some (a * b) else none

theorem saturatingAdd_eq {a b : Int} (hlo : MIN ≤ a + b) (hhi : a + b ≤ MAX) :
    saturatingAdd a b = a + b := by
  unfold saturatingAdd
  omega

end EggPool.Lib.I64
