import MarketConditions.Settings
import MarketConditions.Indicator.Study
import MarketConditions.Auction.Footprint
import MarketConditions.OrderFlow

/-!
# The indicator library

A market together with the settings its indicators are worked out with.

- `Indicator.validate` — the parameters an indicator can have
- `Library` — a market and settings
- `Entry` — what a library can work out over all bars: studies, derived columns, swings,
  order flow and footprints
- `Library.content` — what an entry holds
-/

namespace MarketConditions

variable {α : Type} [Scalar α]

/-! ## Parameters -/

namespace Indicator

/-- Refuses a parameter of zero. -/
def requirePositive (i : Indicator) (what : String) (n : Nat) : Except LibraryError Unit :=
  if n = 0 then .error (.invalidParameter i.text s!"{what} must be at least 1") else .ok ()

/-- Refuses parameters that no series can be made with; the first of them is reported. -/
def validate (i : Indicator) : Except LibraryError Unit :=
  match i with
  | sma p | ema p | wma p | rsi p | roc p | atr p | stddev p => i.requirePositive "period" p
  | bbands p _ | supertrend p _ => i.requirePositive "period" p
  | obv | vwap | allTimeHigh | allTimeLow => .ok ()
  | macd fast slow signal => do
    i.requirePositive "fast period" fast
    i.requirePositive "slow period" slow
    i.requirePositive "signal period" signal
  | stochastic k d => do
    i.requirePositive "k period" k
    i.requirePositive "d period" d
  | ichimoku tenkan kijun senkou => do
    i.requirePositive "tenkan period" tenkan
    i.requirePositive "kijun period" kijun
    i.requirePositive "senkou period" senkou
  | swingHigh s | swingLow s => i.requirePositive "strength" s
  | resistanceRay lookback _ | supportRay lookback _ => i.requirePositive "lookback" lookback
  | volumeProfile session bins => do
    i.requirePositive "bins" bins
    match session with
    | .rolling n => i.requirePositive "session length" n
    | .daily => .ok ()

end Indicator

/-! ## Libraries and their entries -/

/-- A market with settings. -/
structure Library (α : Type) where
  market : Market α
  settings : Settings α

/-- Columns that are no indicators, with everything they depend on. -/
inductive Derived (α : Type) where
  | highOf (period : Nat)
  | lowOf (period : Nat)
  | rangePosition (period skip : Nat)
  | funding
  /-- The name in small letters. -/
  | exchangeDelta (exchange : String)
  | combinedDelta
  | divergence (threshold : α)
  | absorption (volumeRatio movePercent : α)
deriving DecidableEq

/-- What can be worked out over all bars. -/
inductive Entry (α : Type) where
  | study (i : Indicator)
  | derived (d : Derived α)
  | swings (strength : Nat)
  | orderFlow
  | footprints
deriving DecidableEq

instance : DecidableEq (Entry α) :=
  haveI : DecidableEq α := Scalar.decEq
  inferInstance

/-- The columns of an order flow, each as cells. -/
structure FlowCells (α : Type) where
  delta : Cells α
  cumulative : Cells α
  buys : Cells α
  sells : Cells α
  trades : Cells α

/-- The type of what an entry holds. -/
abbrev Entry.Content : Entry α → Type
  | study _ => Study α
  | derived _ => Cells α
  | swings _ => List (Swing α)
  | orderFlow => FlowCells α
  | footprints => Array (Option (FootprintBar α))

namespace FlowSeries

/-- The columns as cells. -/
def cells (s : FlowSeries α) : FlowCells α where
  delta := .numbers s.delta.toArray
  cumulative := .numbers s.cumulative.toArray
  buys := .numbers s.buys.toArray
  sells := .numbers s.sells.toArray
  trades := .numbers s.trades.toArray

end FlowSeries

namespace Library

/-- Number of bars. -/
def length (l : Library α) : Nat := l.market.length

/-- A derived column. -/
def derived (l : Library α) : Derived α → Cells α
  | .highOf p => .numbers (Extreme.highOf p l.market.candles).toArray
  | .lowOf p => .numbers (Extreme.lowOf p l.market.candles).toArray
  | .rangePosition p skip => .numbers (Extreme.rangePosition p skip l.market.candles).toArray
  | .funding => .numbers (fundingRates l.market).toArray
  | .exchangeDelta name => .numbers (MarketConditions.exchangeDelta l.market name).toArray
  | .combinedDelta => .numbers (MarketConditions.combinedDelta l.market).toArray
  | .divergence threshold => .flags (deltaDivergence l.market threshold).toArray
  | .absorption ratio percent =>
    .flags (Turnover.absorption l.settings.absorptionLookback ratio percent
      l.market.candles).toArray

/-- The swings an indicator is made from; none if it needs none. -/
def swingsFor (l : Library α) (i : Indicator) : List (Swing α) :=
  match i.swingStrength l.settings.swingStrength with
  | some s => detectSwings s l.market.candles
  | none => []

/-- What an entry holds. -/
def content (l : Library α) : (e : Entry α) → e.Content
  | .study i => i.study l.settings.valueAreaShare l.market.candles (l.swingsFor i)
  | .derived d => l.derived d
  | .swings s => detectSwings s l.market.candles
  | .orderFlow => (MarketConditions.orderFlow l.market).cells
  | .footprints =>
    (MarketConditions.footprints l.settings.footprintTick l.settings.valueAreaShare
      l.market).toArray

/-! ## Indicators with default parameters -/

/-- Swing high of the configured strength. -/
def swingHigh (l : Library α) : Indicator := .swingHigh l.settings.swingStrength

/-- Swing low of the configured strength. -/
def swingLow (l : Library α) : Indicator := .swingLow l.settings.swingStrength

/-- Resistance ray that leaves out the configured number of bars. -/
def resistanceRay (l : Library α) (lookback : Nat) : Indicator :=
  .resistanceRay lookback l.settings.raySkip

/-- Support ray that leaves out the configured number of bars. -/
def supportRay (l : Library α) (lookback : Nat) : Indicator :=
  .supportRay lookback l.settings.raySkip

/-- Volume profile with the configured number of bins. -/
def volumeProfile (l : Library α) (session : ProfileSession) : Indicator :=
  .volumeProfile session l.settings.profileBins

end Library

end MarketConditions
