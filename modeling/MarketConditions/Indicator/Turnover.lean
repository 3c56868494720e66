import MarketConditions.Indicator.Average

/-!
# Volume indicators

- `onBalance` — volume added on rising closes and taken off on falling ones
- `sessionAverage` — the mean price of the day so far, weighted by volume
- `absorption` — heavy volume that did not move the price
-/

namespace MarketConditions

variable {α : Type} [Scalar α]

namespace Turnover

/-! ## On-balance volume -/

/-- The balance with the close it was reached at. -/
structure Balance (α : Type) where
  volume : α
  close : α

/-- A rise adds the bar's volume, a fall takes it off. -/
def balanceStep (b : Option (Balance α)) (c : Candle α) : Option (Balance α) × α :=
  let volume := match b with
    | none => c.volume
    | some b =>
      if c.close > b.close then b.volume + c.volume
      else if c.close < b.close then b.volume - c.volume
      else b.volume
  (some ⟨volume, c.close⟩, volume)

/-- On-balance volume, which starts at the first bar's volume. -/
def onBalance (candles : List (Candle α)) : List α :=
  Column.running balanceStep none candles

/-! ## Volume-weighted average price -/

/-- What a day has turned over so far. -/
structure DayTotals (α : Type) where
  day : Int
  money : α
  volume : α

/-- A bar on another day than the one before begins with nothing. -/
def dayStep (t : Option (DayTotals α)) (c : Candle α) : Option (DayTotals α) × α :=
  let begun : DayTotals α := match t with
    | some t => if t.day = c.time.day then t else ⟨c.time.day, 0, 0⟩
    | none => ⟨c.time.day, 0, 0⟩
  let money := begun.money + c.typicalPrice * c.volume
  let volume := begun.volume + c.volume
  (some ⟨c.time.day, money, volume⟩, if volume > 0 then money / volume else Scalar.undefined)

/-- Volume-weighted average price since midnight; undefined while nothing was traded. -/
def sessionAverage (candles : List (Candle α)) : List α :=
  Column.running dayStep none candles

/-! ## Absorption -/

/-- Size of the body in percent of the open; undefined from an open of zero. -/
def bodyPercent (c : Candle α) : α :=
  if c.opening == 0 then Scalar.undefined
  else Scalar.abs (c.close - c.opening) / Scalar.abs c.opening * 100

/-- Whether a bar trades at least `volumeRatio` times the average and moves less than
`movePercent`. -/
def absorbs (volumeRatio movePercent average : α) (c : Candle α) : Bool :=
  average > 0 && c.volume ≥ volumeRatio * average && bodyPercent c < movePercent

/-- The total of the volumes before a bar, at most `lookback` of them, is compared with
the bar before the bar joins it. -/
def absorptionStep (lookback : Nat) (volumeRatio movePercent : α) (total : α) :
    Candle α × Option α → α × Bool
  | (c, leaving) =>
    match leaving with
    | some old =>
      (total + c.volume - old,
        absorbs volumeRatio movePercent (total / Scalar.ofNat lookback) c)
    | none => (total + c.volume, false)

/-- Heavy volume without progress, measured against the mean of the `lookback`
bars before. -/
def absorption (lookback : Nat) (volumeRatio movePercent : α) (candles : List (Candle α)) :
    List Bool :=
  if lookback = 0 then candles.map fun _ => false
  else
    let volumes := candles.map fun c => some c.volume
    Column.running (absorptionStep lookback volumeRatio movePercent) 0
      (candles.zip (Column.lag lookback none volumes))

end Turnover

end MarketConditions
