/-!
# Shortest decimals

The decimal with the fewest digits among those that read back as a given binary number,
and of those the nearest.

- `Rounding` — a positive number in quarters of its last place, with the numbers
  that round to it
- `Rounding.grid?` — the nearest point of a decimal grid that rounds to the number
- `Rounding.shortest` — the point on the coarsest grid that has one
- `shortestText` — the written form of a 64-bit binary number, never with an exponent
-/

namespace MarketConditions.Text

/-- The number `4 m × 2 ^ place`. A number rounds to it if it lies between
`low × 2 ^ place` and `high × 2 ^ place`, and the ends themselves count if `closed`. -/
structure Rounding where
  low : Nat
  middle : Nat
  high : Nat
  place : Int
  closed : Bool
deriving Repr

namespace Rounding

/-- Whether a number over the denominator that `unit` stands for rounds to this one. -/
def accepts (r : Rounding) (unit point : Nat) : Bool :=
  if r.closed then decide (r.low * unit ≤ point) && decide (point ≤ r.high * unit)
  else decide (r.low * unit < point) && decide (point < r.high * unit)

/-- The nearest multiple of `10 ^ k` among the two neighbours of the number, if it rounds
to the number; the upper one if both are as near. -/
def grid? (r : Rounding) (k : Int) : Option Nat :=
  let unit := Nat.pow 2 r.place.toNat * Nat.pow 10 (-k).toNat
  let step := Nat.pow 2 (-r.place).toNat * Nat.pow 10 k.toNat
  let value := r.middle * unit
  let below := value / step
  let above := below + 1
  match r.accepts unit (below * step), r.accepts unit (above * step) with
  | true, true => some (if value - below * step < above * step - value then below else above)
  | true, false => some below
  | false, true => some above
  | false, false => none

/-- A multiple of a power of ten. -/
structure Point where
  digits : Nat
  exponent : Int
deriving Repr

/-- The powers of ten from the largest to the smallest that a 64-bit number can need. -/
def exponents : List Int := (List.range 640).map fun i => 310 - Int.ofNat i

/-- The point on the coarsest decimal grid that has one. -/
def shortest (r : Rounding) : Option Point :=
  exponents.findSome? fun k => (r.grid? k).map fun d => ⟨d, k⟩

end Rounding

/-! ## Written form -/

/-- All digits of a point, with zeros up to the unit or behind the decimal point. -/
def Rounding.Point.text (p : Rounding.Point) : List Char :=
  let digits := Nat.toDigits 10 p.digits
  if 0 ≤ p.exponent then digits ++ List.replicate p.exponent.toNat '0'
  else
    let places := p.exponent.natAbs
    let filled := List.replicate (places + 1 - digits.length) '0' ++ digits
    filled.take (filled.length - places) ++ '.' :: filled.drop (filled.length - places)

/-- The parts of a 64-bit binary number. -/
structure Binary64 where
  negative : Bool
  exponent : Nat
  fraction : Nat
deriving DecidableEq, Repr

namespace Binary64

/-- Splits the bits of a number. -/
def ofBits (bits : UInt64) : Binary64 where
  negative := bits.toNat / 0x8000000000000000 = 1
  exponent := bits.toNat / 0x10000000000000 % 0x800
  fraction := bits.toNat % 0x10000000000000

/-- A finite number other than zero with the numbers that round to it. The gap below a
power of two is half the gap above. -/
def rounding (b : Binary64) : Rounding :=
  let m := if b.exponent = 0 then b.fraction else 0x10000000000000 + b.fraction
  let place : Int := Nat.max b.exponent 1 - 1077
  let gapBelow := if b.fraction = 0 ∧ 1 < b.exponent then 1 else 2
  ⟨4 * m - gapBelow, 4 * m, 4 * m + 2, place, m % 2 = 0⟩

/-- The magnitude in digits. -/
def magnitudeText (b : Binary64) : List Char :=
  if b.exponent = 0 ∧ b.fraction = 0 then ['0']
  else match b.rounding.shortest with
    | some p => p.text
    | none => []

/-- The written form. -/
def text (b : Binary64) : List Char :=
  let sign := if b.negative then ['-'] else []
  if b.exponent = 2047 then
    if b.fraction = 0 then sign ++ ['i', 'n', 'f'] else ['N', 'a', 'N']
  else sign ++ b.magnitudeText

end Binary64

/-- The written form of a 64-bit binary number: all its digits and no exponent. -/
def shortestText (bits : UInt64) : String := String.ofList (Binary64.ofBits bits).text

end MarketConditions.Text
