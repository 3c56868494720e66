import MarketConditions.Indicator.Extreme

/-!
# Momentum

- `rsi` — relative strength of gains over losses, smoothed by Wilder's rule
- `roc` — percentage change over `p` bars
- `stochastic` — where the close lies in the range of the last bars, and its moving average
- `macd` — the gap between a fast and a slow average, its own average, and their gap
-/

namespace MarketConditions

variable {α : Type} [Scalar α]

namespace Momentum

/-! ## Relative strength -/

/-- Mean gain and mean loss per bar. -/
structure Strength (α : Type) where
  gain : α
  loss : α

/-- Wilder's rule: a mean over `p` bars gives up one `p`-th of itself for the new entry. -/
def smoothed (p : Nat) (mean entry : α) : α :=
  (mean * Scalar.ofNat (p - 1) + entry) / Scalar.ofNat p

/-- The plain means over the first changes. A change that is no gain is a loss of
its negative. -/
def firstStrength (p : Nat) (changes : List α) : Strength α :=
  let totals : Strength α := changes.foldl (fun s change =>
    if change > 0 then ⟨s.gain + change, s.loss⟩ else ⟨s.gain, s.loss - change⟩) ⟨0, 0⟩
  ⟨totals.gain / Scalar.ofNat p, totals.loss / Scalar.ofNat p⟩

/-- The means after one more change. -/
def nextStrength (p : Nat) (s : Strength α) (change : α) : Strength α :=
  ⟨smoothed p s.gain (if change > 0 then change else 0),
   smoothed p s.loss (if change < 0 then -change else 0)⟩

/-- From 0, losses only, to 100, no losses. -/
def Strength.index (s : Strength α) : α :=
  if s.loss == 0 then 100 else 100 - 100 / (1 + s.gain / s.loss)

/-- The change of each bar's close from the one before, from the second bar on. -/
def changes (candles : List (Candle α)) : List α :=
  Column.minus (closes candles).tail (closes candles)

/-- Relative strength index. It needs `p` changes, so its first value is at bar `p`. -/
def rsi (p : Nat) (candles : List (Candle α)) : List α :=
  let strengths := Column.seeded p (firstStrength p) (nextStrength p) (changes candles)
  (Scalar.undefined :: strengths.map fun s => Column.orUndefined (s.map Strength.index)).take
    candles.length

/-! ## Rate of change -/

/-- Percentage change from an earlier price; undefined from zero. -/
def percentChange (earlier now : α) : α :=
  if earlier == 0 then Scalar.undefined else (now - earlier) / earlier * 100

/-- Percentage change of the close over `p` bars. -/
def roc (p : Nat) (candles : List (Candle α)) : List α :=
  if p = 0 then Column.allUndefined candles
  else List.zipWith (fun earlier now => Column.orUndefined (earlier.map (percentChange · now)))
    (Column.lag p none ((closes candles).map some)) (closes candles)

/-! ## Stochastic oscillator -/

/-- The oscillator and its moving average. -/
structure Stochastic (α : Type) where
  k : List α
  d : List α

/-- Where a price lies between a low and a high, in percent; the middle when
they are equal. -/
def stochasticPosition (price low high : α) : α :=
  let range := high - low
  if Scalar.isUndefined range then Scalar.undefined
  else if range == 0 then 50
  else 100 * (price - low) / range

/-- `k` is the close within the range of the last `kPeriod` bars, `d` its average over
`dPeriod`. -/
def stochastic (kPeriod dPeriod : Nat) (candles : List (Candle α)) : Stochastic α :=
  let k := List.zipWith (fun price (low, high) => stochasticPosition price low high)
    (closes candles)
    ((Extreme.rollingMin kPeriod (lows candles)).zip (Extreme.rollingMax kPeriod (highs candles)))
  ⟨k, Average.simpleAverage dPeriod k⟩

/-! ## Convergence of averages -/

/-- The gap between two averages, the average of the gap, and the gap between those two. -/
structure Macd (α : Type) where
  line : List α
  signal : List α
  histogram : List α

/-- Convergence and divergence of a fast and a slow average of the closes. -/
def macd (fast slow signalPeriod : Nat) (candles : List (Candle α)) : Macd α :=
  let line := Column.minus (Average.exponentialAverage fast (closes candles))
    (Average.exponentialAverage slow (closes candles))
  let signal := Average.exponentialAverage signalPeriod line
  ⟨line, signal, Column.minus line signal⟩

/-- The customary periods 12, 26 and 9. -/
def customaryMacd (candles : List (Candle α)) : Macd α := macd 12 26 9 candles

end Momentum

end MarketConditions
