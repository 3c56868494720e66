import MarketConditions.Scalar

/-!
# Instants and the calendar

Points on the universal time line, counted in nanoseconds from the first moment of 1970,
and what the proleptic Gregorian calendar and the moon say of them.

- `Instant` — a point in time; `Instant.earliest` and `Instant.latest` bound the
  supported range
- `Instant.day` — the number of the day it falls on, which is all that sessions look at
- `Date.ofDay` — year, month and day of a day number
- `Instant.text` — the written form, `2024-01-01 02:00:00 UTC`
- `TimeField`, `MoonField` — the numbers a condition can read off an instant
-/

namespace MarketConditions

/-- A point in time, in nanoseconds since 1970-01-01T00:00:00Z. -/
structure Instant where
  nanos : Int
deriving DecidableEq, Repr

namespace Instant

instance : LT Instant := ⟨fun a b => a.nanos < b.nanos⟩
instance : LE Instant := ⟨fun a b => a.nanos ≤ b.nanos⟩
instance : DecidableLT Instant := fun a b => inferInstanceAs (Decidable (a.nanos < b.nanos))
instance : DecidableLE Instant := fun a b => inferInstanceAs (Decidable (a.nanos ≤ b.nanos))

/-- The instant a number of milliseconds after the start of 1970. -/
def ofMillis (ms : Int) : Instant := ⟨ms * 1000000⟩

/-- Whole milliseconds since the start of 1970, rounded down. -/
def millis (t : Instant) : Int := t.nanos.fdiv 1000000

/-- Whole seconds since the start of 1970, rounded down. -/
def seconds (t : Instant) : Int := t.nanos.fdiv 1000000000

/-- The number of the day, counted from 1970-01-01. -/
def day (t : Instant) : Int := t.seconds.fdiv 86400

/-- Seconds since the last midnight. -/
def secondOfDay (t : Instant) : Int := t.seconds.fmod 86400

/-- The first moment of the year -262143. -/
def earliest : Instant := ⟨-8334601228800 * 1000000000⟩

/-- The last nanosecond of the year 262142. -/
def latest : Instant := ⟨8210266876799 * 1000000000 + 999999999⟩

/-- The instant at a number of milliseconds, if it lies in the supported range. -/
def ofMillis? (ms : Int) : Option Instant :=
  let t := ofMillis ms
  if earliest ≤ t ∧ t ≤ latest then some t else none

/-- The instant a number of nanoseconds later. -/
def plus (t : Instant) (nanos : Int) : Instant := ⟨t.nanos + nanos⟩

end Instant

/-! ## Dates -/

/-- A day of the proleptic Gregorian calendar. -/
structure Date where
  year : Int
  month : Nat
  day : Nat
deriving DecidableEq, Repr

namespace Date

/-- The date of a day number. Years are counted from March in eras of 400, so that the
leap day is the last day of its year. -/
def ofDay (n : Int) : Date :=
  let shifted := n + 719468
  let era := shifted.fdiv 146097
  let dayOfEra := (shifted.fmod 146097).toNat
  let yearOfEra := (dayOfEra - dayOfEra / 1460 + dayOfEra / 36524 - dayOfEra / 146096) / 365
  let dayOfYear := dayOfEra - (365 * yearOfEra + yearOfEra / 4 - yearOfEra / 100)
  let marchMonth := (5 * dayOfYear + 2) / 153
  let day := dayOfYear - (153 * marchMonth + 2) / 5 + 1
  let month := if marchMonth < 10 then marchMonth + 3 else marchMonth - 9
  let year := era * 400 + yearOfEra + (if month ≤ 2 then 1 else 0)
  ⟨year, month, day⟩

/-- Monday is 1 and Sunday 7; the first day of 1970 was a Thursday. -/
def weekday (n : Int) : Int := (n + 3).fmod 7 + 1

end Date

/-! ## Written form -/

namespace Instant

/-- A number in decimal, filled up with zeros to a least width. -/
def padded (width n : Nat) : String :=
  let digits := toString n
  String.ofList (List.replicate (width - digits.length) '0') ++ digits

/-- Years of four digits are written as such; all others carry a sign. -/
def yearText (y : Int) : String :=
  if 0 ≤ y ∧ y ≤ 9999 then padded 4 y.toNat
  else (if y < 0 then "-" else "+") ++ padded 4 y.natAbs

/-- The fraction of a second in the least of 0, 3, 6 or 9 digits that loses nothing. -/
def fractionText (nanos : Nat) : String :=
  if nanos = 0 then ""
  else if nanos % 1000000 = 0 then "." ++ padded 3 (nanos / 1000000)
  else if nanos % 1000 = 0 then "." ++ padded 6 (nanos / 1000)
  else "." ++ padded 9 nanos

/-- Date, time of day and the name of the time line, such as
`2024-01-01 02:00:00.500 UTC`. -/
def text (t : Instant) : String :=
  let date := Date.ofDay t.day
  let second := t.secondOfDay.toNat
  yearText date.year ++ "-" ++ padded 2 date.month ++ "-" ++ padded 2 date.day ++ " " ++
    padded 2 (second / 3600) ++ ":" ++ padded 2 (second / 60 % 60) ++ ":" ++
    padded 2 (second % 60) ++ fractionText (t.nanos.fmod 1000000000).toNat ++ " UTC"

end Instant

/-! ## Readings -/

/-- What a condition can read off the calendar. -/
inductive TimeField where
  | hour
  | minute
  /-- Monday is 1 and Sunday 7. -/
  | dayOfWeek
  | dayOfMonth
  | month
  | year
  /-- Seconds since the start of 1970. -/
  | timestamp
deriving DecidableEq, Repr

/-- What a condition can read off the moon. -/
inductive MoonField where
  /-- Share of the synodic month gone by: 0 at new moon, a half at full moon. -/
  | phase
  /-- Lit share of the disc. -/
  | illumination
deriving DecidableEq, Repr

variable {α : Type} [Scalar α]

namespace Instant

/-- A calendar reading as a number. -/
def timeField (t : Instant) : TimeField → α
  | .hour => Scalar.ofInt (t.secondOfDay.fdiv 3600)
  | .minute => Scalar.ofInt ((t.secondOfDay.fdiv 60).fmod 60)
  | .dayOfWeek => Scalar.ofInt (Date.weekday t.day)
  | .dayOfMonth => Scalar.ofNat (Date.ofDay t.day).day
  | .month => Scalar.ofNat (Date.ofDay t.day).month
  | .year => Scalar.ofInt (Date.ofDay t.day).year
  | .timestamp => Scalar.ofInt t.seconds

/-- The new moon of 2000-01-06 18:14 UTC, in seconds. -/
def referenceNewMoon : Int := 947182440

/-- What is left of a number of turns after its whole turns; the remainder keeps the sign
of `x`, and a negative one gains a turn. -/
def fractionOfTurn (x : α) : α :=
  let rest := if x < 0 then -(-x - Scalar.floor (-x)) else x - Scalar.floor x
  if rest < 0 then rest + 1 else rest

/-- Share of the synodic month since the last new moon; the month has 29.530588853 days. -/
def moonPhase (t : Instant) : α :=
  let days : α := Scalar.ofInt (t.seconds - referenceNewMoon) / 86400
  fractionOfTurn (days / 29.530588853)

/-- A moon reading as a number. -/
def moonField (t : Instant) : MoonField → α
  | .phase => moonPhase t
  | .illumination => (1 - Scalar.cos (6.283185307179586 * moonPhase t)) / 2

end Instant

end MarketConditions
