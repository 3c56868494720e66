/-!
# Scalars

The numbers that candles, settings and conditions hold. Every indicator is written once
over the operations listed here, so the same text runs on machine floats and can be read
in exact arithmetic.

- `Scalar` — arithmetic, order, rounding and an undefined value that equals nothing, itself
  included
- `Scalar.isUndefined` — the test for that value
- `Scalar.max`, `Scalar.min` — extremes that pass over undefined arguments
- `Scalar.sum` — a left-to-right total
- `instance : Scalar Float` — the numbers that run
-/

namespace MarketConditions

/-- Numbers with an undefined value, in the operations indicators are made of. -/
class Scalar (α : Type) extends
    Add α, Sub α, Mul α, Div α, Neg α, LT α, LE α, BEq α, OfScientific α where
  /-- The value of a reading that does not exist. It equals nothing and compares
  with nothing. -/
  undefined : α
  /-- Above every number. -/
  infinity : α
  /-- The nearest representable number. -/
  ofInt : Int → α
  /-- Magnitude. -/
  abs : α → α
  /-- Square root; undefined below zero. -/
  sqrt : α → α
  /-- Cosine of an angle in radians. -/
  cos : α → α
  /-- Greatest whole number not above. -/
  floor : α → α
  /-- Nearest whole number, halves away from zero, clamped to the signed 64-bit range; an
  undefined number counts as 0. -/
  nearest : α → Int
  /-- Whole part, clamped to the unsigned 64-bit range; an undefined number counts as 0. -/
  wholePart : α → Nat
  /-- Identity of two numbers. Unlike equality by value it tells the two zeros apart and
  finds the undefined value the same as itself. -/
  decEq : DecidableEq α
  decLt : DecidableLT α
  decLe : DecidableLE α

namespace Scalar

variable {α : Type} [Scalar α]

instance : DecidableLT α := Scalar.decLt

instance : DecidableLE α := Scalar.decLe

instance (priority := low) : OfNat α n := ⟨Scalar.ofInt n⟩

/-- A count as a number. -/
def ofNat (n : Nat) : α := Scalar.ofInt n

/-- Holds of the undefined value only: every number equals itself. -/
def isUndefined (x : α) : Bool := !(x == x)

/-- Smaller in magnitude than infinity, hence also defined. -/
def isFinite (x : α) : Bool := decide (Scalar.abs x < Scalar.infinity)

/-- The greater of two numbers; an undefined one gives way to the other. -/
def max (x y : α) : α := if isUndefined x || decide (x < y) then y else x

/-- The smaller of two numbers; an undefined one gives way to the other. -/
def min (x y : α) : α := if isUndefined x || decide (y < x) then y else x

/-- Total from left to right. It starts at negative zero, which alone leaves every number
as it is when added. -/
def sum (xs : List α) : α := xs.foldl (· + ·) (-0)

/-- The greatest defined entry, or minus infinity. -/
def greatest (xs : List α) : α := xs.foldl max (-Scalar.infinity)

/-- The least defined entry, or infinity. -/
def least (xs : List α) : α := xs.foldl min Scalar.infinity

/-- One for true and zero for false. -/
def ofBool (b : Bool) : α := if b then 1 else 0

end Scalar

instance : Scalar Float where
  undefined := 0.0 / 0.0
  infinity := 1.0 / 0.0
  ofInt := Float.ofInt
  abs := Float.abs
  sqrt := Float.sqrt
  cos := Float.cos
  floor := Float.floor
  nearest x := x.round.toInt64.toInt
  wholePart x := x.toUInt64.toNat
  decEq := inferInstance
  decLt := inferInstance
  decLe := inferInstance

end MarketConditions
