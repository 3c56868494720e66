import MarketConditions.Indicator.Extreme

/-!
# The Ichimoku cloud

- `Cloud.midpoint` — the middle of the range of the last `p` bars
- `Cloud.ichimoku` — midpoints over three periods, two of them moved `kijun` bars later,
  so that what is read at a bar was known that many bars before
-/

namespace MarketConditions

variable {α : Type} [Scalar α]

namespace Cloud

/-- The middle between the highest high and the lowest low of the last `p` bars. -/
def midpoint (p : Nat) (candles : List (Candle α)) : List α :=
  Column.midway (Extreme.rollingMax p (highs candles)) (Extreme.rollingMin p (lows candles))

/-- The five lines. -/
structure Ichimoku (α : Type) where
  tenkan : List α
  kijun : List α
  senkouA : List α
  senkouB : List α
  chikou : List α

/-- The closes from bar `p` on. -/
def closesFrom (p : Nat) (candles : List (Candle α)) : List α :=
  (Column.numbered (closes candles)).map fun (i, close) =>
    if i ≥ p then close else Scalar.undefined

/-- The cloud over its three periods. -/
def ichimoku (tenkan kijun senkou : Nat) (candles : List (Candle α)) : Ichimoku α :=
  let fastLine := midpoint tenkan candles
  let slowLine := midpoint kijun candles
  { tenkan := fastLine
    kijun := slowLine
    senkouA := Column.lag kijun Scalar.undefined (Column.midway fastLine slowLine)
    senkouB := Column.lag kijun Scalar.undefined (midpoint senkou candles)
    chikou := closesFrom kijun candles }

end Cloud

end MarketConditions
