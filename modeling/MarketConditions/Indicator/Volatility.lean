import MarketConditions.Indicator.Momentum

/-!
# Volatility

- `averageTrueRange` — the widest reach of each bar, smoothed by Wilder's rule
- `deviation` — standard deviation of the last closes
- `bollinger` — bands a number of deviations above and below the mean
- `supertrend` — bands around the bar's middle that follow the price until it breaks them
-/

namespace MarketConditions

variable {α : Type} [Scalar α]

namespace Volatility

/-! ## True range -/

/-- The range of the first bar, and the true range of every later one. -/
def trueRanges (candles : List (Candle α)) : List α :=
  Column.running (fun previous c =>
    (some c.close, match previous with
      | none => c.high - c.low
      | some close => c.trueRange close)) none candles

/-- Average true range: the mean of the first `p` true ranges, then Wilder's rule. -/
def averageTrueRange (p : Nat) (candles : List (Candle α)) : List α :=
  (Column.seeded p Average.mean (Momentum.smoothed p) (trueRanges candles)).map Column.orUndefined

/-! ## Standard deviation -/

/-- Population standard deviation about a given mean. -/
def deviationAbout (mean : α) (xs : List α) : α :=
  Scalar.sqrt (Average.mean (xs.map fun x => (x - mean) * (x - mean)))

/-- Applies `f` to each full window of `p` entries; undefined before the first. -/
def overWindows (p : Nat) (f : List α → α) (xs : List α) : List α :=
  (Column.trailing p xs).map fun window =>
    if p ≠ 0 ∧ window.length = p then f window else Scalar.undefined

/-- Population standard deviation of the last `p` closes. -/
def deviation (p : Nat) (candles : List (Candle α)) : List α :=
  overWindows p (fun window => deviationAbout (Average.mean window) window) (closes candles)

/-- A multiplier given in hundredths. -/
def hundredths (n : Nat) : α := Scalar.ofNat n / 100

/-- A band with its middle. -/
structure Bands (α : Type) where
  upper : List α
  middle : List α
  lower : List α

/-- The mean of the last `p` closes, and the bands a number of deviations, in hundredths,
above and below. -/
def bollinger (p multiple : Nat) (candles : List (Candle α)) : Bands α :=
  let edge (side : α → α → α) := overWindows p (fun window =>
    let mean := Average.mean window
    side mean (hundredths multiple * deviationAbout mean window)) (closes candles)
  ⟨edge (· + ·), overWindows p Average.mean (closes candles), edge (· - ·)⟩

/-! ## Supertrend -/

/-- A trend, 1 upwards and -1 downwards, and the bands that carry it. -/
structure TrendBands (α : Type) where
  trend : α
  upper : α
  lower : α

/-- Bands at a distance from the middle of a bar. -/
def bandsAround (distance : α) (c : Candle α) : TrendBands α :=
  let middle := (c.high + c.low) / 2
  ⟨1, middle + distance, middle - distance⟩

/-- A band moves only closer to the price, unless the close before was already beyond it.
The trend turns when the close breaks the band that carries it. -/
def follow (t : TrendBands α) (fresh : TrendBands α) (previousClose close : α) : TrendBands α :=
  let upper := if fresh.upper < t.upper || previousClose > t.upper then fresh.upper else t.upper
  let lower := if fresh.lower > t.lower || previousClose < t.lower then fresh.lower else t.lower
  let trend :=
    if t.trend > 0 && close < lower then -1
    else if t.trend < 0 && close > upper then 1
    else t.trend
  ⟨trend, upper, lower⟩

/-- What one bar brings to the bands: its average true range, the bar, and the
close before. -/
structure TrendEntry (α : Type) where
  reach : α
  candle : Candle α
  previousClose : α

/-- The bands at each bar, from the first bar with a defined true range on,
beginning upwards. -/
def trendBands (multiple : α) (entries : List (TrendEntry α)) : List (Option (TrendBands α)) :=
  let start := entries.takeWhile fun e => Scalar.isUndefined e.reach
  match entries.dropWhile fun e => Scalar.isUndefined e.reach with
  | [] => start.map fun _ => none
  | e :: later =>
    let fresh := fun e : TrendEntry α => bandsAround (multiple * e.reach) e.candle
    (start.map fun _ => none) ++ (Column.updates
      (fun t e => follow t (fresh e) e.previousClose e.candle.close) (fresh e) later).map some

/-- The trend and its bands as columns. -/
structure Supertrend (α : Type) where
  trend : List α
  upper : List α
  lower : List α

/-- Bands a multiple, in hundredths, of the average true range around the bars' middles. -/
def supertrend (p multiple : Nat) (candles : List (Candle α)) : Supertrend α :=
  let entries := List.zipWith (fun (reach, c) previous => (⟨reach, c, previous⟩ : TrendEntry α))
    ((averageTrueRange p candles).zip candles)
    (Column.lag 1 Scalar.undefined (closes candles))
  let states := trendBands (hundredths multiple) entries
  let column (f : TrendBands α → α) := states.map fun s => Column.orUndefined (s.map f)
  ⟨column TrendBands.trend, column TrendBands.upper, column TrendBands.lower⟩

end Volatility

end MarketConditions
