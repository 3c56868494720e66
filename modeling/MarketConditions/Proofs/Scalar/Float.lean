import Mathlib.Algebra.Group.Nat.Defs
import MarketConditions.Scalar

/-!
# The order of machine floats

A float is compared by its parts: a sign with a magnitude, a signed zero or infinity, or
no number. Of the order laws that exact numbers have, those that the library leans on are
shown here from that comparison.

- `Scalar.pos_of_one_le`: what is at least one is positive. The settings are checked for
  the former where the library asks for the latter.
-/

namespace MarketConditions

open Float.Model

namespace Scalar

/-- The parts of one. -/
theorem unpack_one : (Float.ofInt 1).toModel.unpack =
    .finite .positive (2 ^ 52) (-52) (by decide) := rfl

/-- The parts of zero. -/
theorem unpack_zero : (Float.ofInt 0).toModel.unpack = .zero .positive := rfl

/-- What is at least one is positive. -/
theorem pos_of_one_le {x : Float} (large : (Scalar.ofInt 1 : Float) ≤ x) :
    (Scalar.ofInt 0 : Float) < x := by
  have large : (Float.ofInt 1).toModel.unpack.le x.toModel.unpack = true := of_decide_eq_true large
  suffices above : (Float.ofInt 0).toModel.unpack.lt x.toModel.unpack = true from
    decide_eq_true above
  rw [unpack_one] at large
  rw [unpack_zero]
  cases parts : x.toModel.unpack with
  | notANumber =>
    rw [parts] at large
    cases large
  | zero sign =>
    rw [parts] at large
    cases large
  | infinity sign =>
    rw [parts] at large
    cases sign with
    | positive => rfl
    | negative => cases large
  | finite sign mantissa exponent positive =>
    rw [parts] at large
    cases sign with
    | positive => rfl
    | negative => cases large

end Scalar

end MarketConditions
