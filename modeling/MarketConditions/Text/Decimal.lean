import MarketConditions.Scalar

/-!
# Decimal numerals

Reading numbers from text.

- `Numeral` — sign, digits and a power of ten
- `Numeral.read?` — digits with an optional sign, point and exponent; at least one digit
  stands before or behind the point
- `Numeral.value` — the nearest number
- `readNumber?` — a numeral, or one of the words for infinity and the undefined value
- `readInteger?` — digits with an optional sign
-/

namespace MarketConditions.Text

variable {α : Type} [Scalar α]

/-- Plus or minus `digits × 10 ^ exponent`. -/
structure Numeral where
  negative : Bool
  digits : Nat
  exponent : Int
deriving DecidableEq, Repr

/-- The number that decimal digits spell. -/
def spelled (digits : List Char) : Nat :=
  digits.foldl (fun n c => n * 10 + (c.toNat - '0'.toNat)) 0

/-- Splits off a sign; true for a minus. -/
def sign : List Char → Bool × List Char
  | '-' :: rest => (true, rest)
  | '+' :: rest => (false, rest)
  | rest => (false, rest)

/-- Splits off the digits in front. -/
def leadingDigits (cs : List Char) : List Char × List Char :=
  (cs.takeWhile Char.isDigit, cs.dropWhile Char.isDigit)

/-- Splits off a point with the digits behind it. -/
def fraction : List Char → Option (List Char) × List Char
  | '.' :: rest => (some (leadingDigits rest).1, (leadingDigits rest).2)
  | rest => (none, rest)

namespace Numeral

/-- What stands behind the digits: nothing, or the letter `e` and a signed number. -/
def exponent? : List Char → Option Int
  | [] => some 0
  | c :: rest =>
    if c = 'e' ∨ c = 'E' then
      let (negative, rest) := sign rest
      match leadingDigits rest with
      | ([], _) => none
      | (digits, []) =>
        let n : Int := spelled digits
        some (if negative then -n else n)
      | _ => none
    else none

/-- Reads a whole text as a numeral. -/
def read? (cs : List Char) : Option Numeral :=
  let (negative, rest) := sign cs
  let (whole, rest) := leadingDigits rest
  let (behind, rest) := fraction rest
  let digits := whole ++ behind.getD []
  if digits.isEmpty then none
  else (exponent? rest).map fun e =>
    ⟨negative, spelled digits, e - (behind.getD []).length⟩

/-- Number of decimal digits. -/
def length (n : Numeral) : Nat := (toString n.digits).length

/-- The nearest number. Beyond four hundred places before or behind the point nothing but
infinity or zero can be nearest. -/
def value (n : Numeral) : α :=
  let leading : Int := n.length + n.exponent
  let size : α :=
    if n.digits = 0 ∨ leading < -400 then 0
    else if 400 < leading then Scalar.infinity
    else OfScientific.ofScientific n.digits (decide (n.exponent < 0)) n.exponent.natAbs
  if n.negative then -size else size

end Numeral

/-- A signed word for infinity or the undefined value, in any case of letters. -/
def readWord? (cs : List Char) : Option α :=
  let (negative, rest) := sign cs
  let word := String.ofList (rest.map Char.toLower)
  let size : Option α :=
    if word = "inf" ∨ word = "infinity" then some Scalar.infinity
    else if word = "nan" then some Scalar.undefined
    else none
  size.map fun x => if negative then -x else x

/-- Reads a whole text as a number. -/
def readNumber? (cs : List Char) : Option α :=
  ((Numeral.read? cs).map Numeral.value).or (readWord? cs)

/-- Reads a whole text as an integer. -/
def readInteger? (cs : List Char) : Option Int :=
  let (negative, rest) := sign cs
  match leadingDigits rest with
  | ([], _) => none
  | (digits, []) =>
    let n : Int := spelled digits
    some (if negative then -n else n)
  | _ => none

end MarketConditions.Text
