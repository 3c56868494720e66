import MarketConditions.Indicator.Average

/-!
# Windowed extremes

- `rollingMax`, `rollingMin` — the extreme of the last `p` entries, read off a queue of
  the entries that can still become it
- `RangeFunction` — the functions of earlier bars that a condition can name
- `highOf`, `lowOf` — the extreme of the `p` bars before a bar, so that a close above
  `highOf` is a breakout
- `rangePosition` — where a close lies in the range of earlier bars, in percent
- `allTimeHigh`, `allTimeLow` — the extreme of all bars so far
-/

namespace MarketConditions

variable {α : Type} [Scalar α]

/-- Functions of the prices of earlier bars. -/
inductive RangeFunction where
  | highOf (period : Nat)
  | lowOf (period : Nat)
  /-- Where the close lies in the range of `period` bars, the `skip` bars before left
  out. -/
  | rangePosition (period skip : Nat)
deriving DecidableEq, Repr

namespace Extreme

/-! ## Rolling extremes -/

/-- The entries of a window, newest first, that no newer one dominates, each with
its number. -/
abbrev Contenders (α : Type) := List (Nat × α)

/-- A new entry removes the newest contenders as long as it dominates them, and joins;
then those that are `p` entries old drop out at the other end. -/
def enter (dominates : α → α → Bool) (p : Nat) (held : Contenders α) (i : Nat) (x : α) :
    Contenders α :=
  ((i, x) :: held.dropWhile fun e => dominates x e.2).takeWhile fun e => decide (i < e.1 + p)

/-- The oldest contender is the extreme of a full window. -/
def extremeStep (dominates : α → α → Bool) (p : Nat) (held : Contenders α) :
    Nat × α → Contenders α × α
  | (i, x) =>
    let held := enter dominates p held i x
    (held,
      if i + 1 ≥ p then Column.orUndefined (held.getLast?.map Prod.snd) else Scalar.undefined)

/-- The extreme of the last `p` entries at each entry. -/
def rolling (dominates : α → α → Bool) (p : Nat) (xs : List α) : List α :=
  if p = 0 then Column.allUndefined xs
  else Column.running (extremeStep dominates p) [] (Column.numbered xs)

/-- The greatest of the last `p` entries. -/
def rollingMax (p : Nat) (xs : List α) : List α := rolling (fun x held => decide (held ≤ x)) p xs

/-- The least of the last `p` entries. -/
def rollingMin (p : Nat) (xs : List α) : List α := rolling (fun x held => decide (x ≤ held)) p xs

/-! ## Earlier bars -/

/-- Highest high of the `p` bars that end `skip` bars before the bar before. The offset is
an exact number; in words of 64 bits this asks for `skip + 1 < 2 ^ 64`. -/
def earlierHigh (p skip : Nat) (candles : List (Candle α)) : List α :=
  Column.lag (skip + 1) Scalar.undefined (rollingMax p (highs candles))

/-- Lowest low of the same bars. -/
def earlierLow (p skip : Nat) (candles : List (Candle α)) : List α :=
  Column.lag (skip + 1) Scalar.undefined (rollingMin p (lows candles))

/-- Highest high of the `p` bars before each bar. -/
def highOf (p : Nat) (candles : List (Candle α)) : List α := earlierHigh p 0 candles

/-- Lowest low of the `p` bars before each bar. -/
def lowOf (p : Nat) (candles : List (Candle α)) : List α := earlierLow p 0 candles

/-- Where a price lies between a low and a high, in percent; undefined without a range. -/
def position (price low high : α) : α :=
  let range := high - low
  if Scalar.isUndefined range || range == 0 then Scalar.undefined
  else (price - low) / range * 100

/-- Where each close lies in the range of earlier bars, the `skip` bars just
before left out. -/
def rangePosition (p skip : Nat) (candles : List (Candle α)) : List α :=
  List.zipWith (fun price (low, high) => position price low high) (closes candles)
    ((earlierLow p skip candles).zip (earlierHigh p skip candles))

/-! ## All bars so far -/

/-- Highest high up to and including each bar. -/
def allTimeHigh (candles : List (Candle α)) : List α :=
  Column.running (fun best x => let best := Scalar.max best x; (best, best)) (-Scalar.infinity)
    (highs candles)

/-- Lowest low up to and including each bar. -/
def allTimeLow (candles : List (Candle α)) : List α :=
  Column.running (fun best x => let best := Scalar.min best x; (best, best)) Scalar.infinity
    (lows candles)

end Extreme

end MarketConditions
