import MarketConditions.Value
import MarketConditions.Indicator.Basic
import MarketConditions.Indicator.Volatility
import MarketConditions.Indicator.Cloud
import MarketConditions.Indicator.Turnover
import MarketConditions.Structure.Ray

/-!
# Studies

A study is an indicator worked out over all bars: a column for each of its outputs.

- `Cells` — a column of numbers or of truth values; past its end it reads as undefined
- `Study` — the outputs in order, each with the property that names it
- `Indicator.study` — the study of an indicator
- `Indicator.swingStrength` — which swings it needs for that
-/

namespace MarketConditions

variable {α : Type} [Scalar α]

/-- A column of one type, one entry per bar. -/
inductive Cells (α : Type) where
  | numbers (xs : Array α)
  | flags (bs : Array Bool)

namespace Cells

/-- Number of entries. -/
def length : Cells α → Nat
  | numbers xs => xs.size
  | flags bs => bs.size

/-- The type of the entries. -/
def type : Cells α → ValueType
  | numbers _ => .number
  | flags _ => .boolean

/-- The number at a bar; undefined past the end and where the entries are no numbers. -/
def numberAt (c : Cells α) (bar : Nat) : α :=
  match c with
  | numbers xs => Column.orUndefined xs[bar]?
  | flags _ => Scalar.undefined

/-- The truth value at a bar; false past the end and where the entries are none. -/
def flagAt (c : Cells α) (bar : Nat) : Bool :=
  match c with
  | numbers _ => false
  | flags bs => bs[bar]?.getD false

/-- The entry at a bar. -/
def valueAt (c : Cells α) (bar : Nat) : Value α :=
  match c with
  | numbers _ => .number (c.numberAt bar)
  | flags _ => .bool (c.flagAt bar)

@[simp] theorem type_valueAt (c : Cells α) (bar : Nat) : (c.valueAt bar).type = c.type := by
  cases c <;> rfl

/-- The entries as numbers, truth values as one and zero. -/
def toNumbers : Cells α → List α
  | numbers xs => xs.toList
  | flags bs => bs.toList.map Scalar.ofBool

end Cells

/-- One output of a study. A study's only output needs no name. -/
structure Output (α : Type) where
  property : Option Property
  cells : Cells α

/-- An indicator worked out over all bars. -/
abbrev Study (α : Type) := List (Output α)

/-- What a study says at one bar. -/
abbrev Reading (α : Type) := List (Option Property × Value α)

namespace Study

/-- A study with one output. -/
def single (xs : List α) : Study α := [⟨none, .numbers xs.toArray⟩]

/-- A named column of numbers. -/
def numbers (p : Property) (xs : List α) : Output α := ⟨some p, .numbers xs.toArray⟩

/-- A named column of truth values. -/
def flags (p : Property) (bs : List Bool) : Output α := ⟨some p, .flags bs.toArray⟩

/-- Number of bars. -/
def length (s : Study α) : Nat :=
  match s with
  | [] => 0
  | o :: _ => o.cells.length

/-- All outputs at a bar. -/
def readAt (s : Study α) (bar : Nat) : Reading α :=
  s.map fun o => (o.property, o.cells.valueAt bar)

/-- Outputs that only compare others with the close or with the bar before. -/
def isDerived : Property → Bool
  | .crossed | .distance => true
  | _ => false

/-- The outputs as named columns of numbers, derived ones left out. -/
def columns (s : Study α) : List (String × List α) :=
  (s.filter fun o => !o.property.any isDerived).map fun o =>
    ((o.property.map Property.text).getD "value", o.cells.toNumbers)

end Study

namespace Reading

/-- One output, if the reading has it. -/
def field (r : Reading α) (p : Option Property) : Option (Value α) := r.lookup p

end Reading

/-! ## Studies of indicators -/

/-- The gap between a close and a projected price, in percent of that price; undefined at a
projected price of zero. -/
def rayDistance (close projected : α) : α :=
  if projected == 0 then Scalar.undefined else (close - projected) / projected * 100

/-- A ray's outputs. It is crossed at the first of the bars that break it. -/
def rayStudy (kind : RayKind) (lookback skip : Nat) (candles : List (Candle α))
    (swings : List (Swing α)) : Study α :=
  let r := rays kind lookback skip candles swings
  [Study.numbers .price r.price,
   Study.flags .broken r.broken,
   Study.flags .crossed (List.zipWith (fun now before => now && !before) r.broken
     (Column.lag 1 false r.broken)),
   Study.numbers .distance (List.zipWith rayDistance (closes candles) r.price),
   Study.numbers .slope r.slope]

/-- A swing's outputs. -/
def swingStudy (side : Extremity) (bars : Nat) (swings : List (Swing α)) : Study α :=
  let s := swingSeries bars side swings
  [Study.numbers .price s.price, Study.numbers .dominance s.dominance,
   Study.numbers .barsSince s.barsSince]

namespace Indicator

/-- The strength of the swings an indicator is made from. Rays use one configured
strength, at least 1. -/
def swingStrength (configured : Nat) : Indicator → Option Nat
  | swingHigh s | swingLow s => some s
  | resistanceRay .. | supportRay .. => some (Nat.max configured 1)
  | _ => none

/-- An indicator over all bars, given the swings it is made from and the share of volume
that a value area encloses. -/
def study (share : α) (candles : List (Candle α)) (swings : List (Swing α)) :
    Indicator → Study α
  | sma p => .single (Average.simpleAverage p (closes candles))
  | ema p => .single (Average.exponentialAverage p (closes candles))
  | wma p => .single (Average.weightedAverage p (closes candles))
  | rsi p => .single (Momentum.rsi p candles)
  | roc p => .single (Momentum.roc p candles)
  | atr p => .single (Volatility.averageTrueRange p candles)
  | stddev p => .single (Volatility.deviation p candles)
  | obv => .single (Turnover.onBalance candles)
  | vwap => .single (Turnover.sessionAverage candles)
  | macd fast slow signal =>
    let s := Momentum.macd fast slow signal candles
    [Study.numbers .line s.line, Study.numbers .signal s.signal,
     Study.numbers .histogram s.histogram]
  | bbands p multiple =>
    let s := Volatility.bollinger p multiple candles
    [Study.numbers .upper s.upper, Study.numbers .middle s.middle, Study.numbers .lower s.lower,
     Study.numbers .width (Column.minus s.upper s.lower)]
  | stochastic k d =>
    let s := Momentum.stochastic k d candles
    [Study.numbers .k s.k, Study.numbers .d s.d]
  | supertrend p multiple =>
    let s := Volatility.supertrend p multiple candles
    [Study.numbers .trend s.trend, Study.numbers .upper s.upper, Study.numbers .lower s.lower]
  | ichimoku tenkan kijun senkou =>
    let s := Cloud.ichimoku tenkan kijun senkou candles
    [Study.numbers .tenkan s.tenkan, Study.numbers .kijun s.kijun,
     Study.numbers .senkouA s.senkouA, Study.numbers .senkouB s.senkouB,
     Study.numbers .chikou s.chikou]
  | swingHigh _ => swingStudy .high candles.length swings
  | swingLow _ => swingStudy .low candles.length swings
  | allTimeHigh => .single (Extreme.allTimeHigh candles)
  | allTimeLow => .single (Extreme.allTimeLow candles)
  | resistanceRay lookback skip => rayStudy .resistance lookback skip candles swings
  | supportRay lookback skip => rayStudy .support lookback skip candles swings
  | volumeProfile session bins =>
    let s := MarketConditions.volumeProfile session bins share candles
    [Study.numbers .poc s.poc, Study.numbers .vah s.vah, Study.numbers .val s.val]

end Indicator

end MarketConditions
