import MarketConditions.Indicator.Basic
import MarketConditions.Text.Quoted
import MarketConditions.Text.Shortest

/-!
# Page keys

What a page shows: candles or an indicator, of which symbol, at which timeframe,
over which span.

- `Param`, `ParamKey` — parameters as a list of tagged values, with a written
  form and an order
- `ParamKey.ofIndicator` — the parameters of an indicator, its name first
- `TimeRange` — a half-open span of time
- `PageKey` — the identity of a page
-/

namespace MarketConditions

/-! ## Parameters -/

/-- One parameter. The tags keep the numbers 1 and 1.0 and the text 1 apart. -/
inductive Param where
  | int (n : Int)
  /-- The bits of a floating-point number. -/
  | float (bits : UInt64)
  | text (s : String)
deriving DecidableEq, Ord, Repr

namespace Param

/-- A count; those beyond the signed 64-bit range count as its greatest number. -/
def ofCount (n : Nat) : Param := .int (Nat.min n 0x7fffffffffffffff)

/-- A floating-point number. The two zeros are one parameter, and so is all that is not a
number. -/
def ofFloat (x : Float) : Param :=
  .float (if x.isNaN then 0x7ff8000000000000 else if x == 0 then 0 else x.toBits)

/-- The written form: a tag and the value. -/
def render : Param → String
  | int n => "i:" ++ toString n
  | float bits => "f:" ++ Text.shortestText bits
  | text s => "s:" ++ String.ofList (Text.Quoted.encode s.toList)

end Param

/-- Parameters in order. -/
abbrev ParamKey := List Param

namespace ParamKey

/-- The written form, the parameters separated by commas. -/
def render (k : ParamKey) : String := ",".intercalate (k.map Param.render)

/-- Parameter by parameter; integers come before floats and floats before texts, and a key
before those that go on from it. -/
def order (a b : ParamKey) : Ordering := List.compareLex compare a b

/-- The parameters of an indicator, its name first. -/
def ofIndicator : Indicator → ParamKey
  | .sma p => [.text "SMA", .ofCount p]
  | .ema p => [.text "EMA", .ofCount p]
  | .wma p => [.text "WMA", .ofCount p]
  | .rsi p => [.text "RSI", .ofCount p]
  | .roc p => [.text "ROC", .ofCount p]
  | .atr p => [.text "ATR", .ofCount p]
  | .stddev p => [.text "STDDEV", .ofCount p]
  | .obv => [.text "OBV"]
  | .vwap => [.text "VWAP"]
  | .macd fast slow signal => [.text "MACD", .ofCount fast, .ofCount slow, .ofCount signal]
  | .bbands p multiple => [.text "BBANDS", .ofCount p, .int multiple]
  | .stochastic k d => [.text "STOCHASTIC", .ofCount k, .ofCount d]
  | .supertrend p multiple => [.text "SUPERTREND", .ofCount p, .int multiple]
  | .ichimoku tenkan kijun senkou =>
    [.text "ICHIMOKU", .ofCount tenkan, .ofCount kijun, .ofCount senkou]
  | .swingHigh s => [.text "SWING_HIGH", .ofCount s]
  | .swingLow s => [.text "SWING_LOW", .ofCount s]
  | .allTimeHigh => [.text "ATH"]
  | .allTimeLow => [.text "ATL"]
  | .resistanceRay lookback skip => [.text "RESISTANCE_RAY", .ofCount lookback, .ofCount skip]
  | .supportRay lookback skip => [.text "SUPPORT_RAY", .ofCount lookback, .ofCount skip]
  | .volumeProfile (.rolling n) bins => [.text "VOLUME_PROFILE", .ofCount n, .ofCount bins]
  | .volumeProfile .daily bins => [.text "VOLUME_PROFILE", .text "DAILY", .ofCount bins]

end ParamKey

/-! ## Spans and keys -/

/-- The instants from `start` up to, and not including, `stop`. -/
structure TimeRange where
  start : Instant
  stop : Instant
deriving DecidableEq, Repr

namespace TimeRange

/-- All of time but its last nanosecond. -/
def all : TimeRange := ⟨Instant.earliest, Instant.latest⟩

/-- Whether an instant lies in the span. -/
def contains (r : TimeRange) (t : Instant) : Bool :=
  decide (r.start ≤ t) && decide (t < r.stop)

end TimeRange

/-- What a page shows. -/
inductive PageKind where
  | candles
  | indicator (i : Indicator)
deriving DecidableEq, Repr

/-- The identity of a page. -/
structure PageKey where
  kind : PageKind
  symbol : String
  timeframe : Timeframe
  range : TimeRange
deriving DecidableEq, Repr

namespace PageKey

/-- The parameters of what the page shows. -/
def params (k : PageKey) : ParamKey :=
  match k.kind with
  | .candles => []
  | .indicator i => ParamKey.ofIndicator i

/-- Whether the page shows a symbol at a timeframe. -/
def covers (k : PageKey) (symbol : String) (timeframe : Timeframe) : Bool :=
  k.symbol == symbol && k.timeframe == timeframe

/-- The name of what a page shows. -/
def kindText (k : PageKey) : String :=
  match k.kind with
  | .candles => "CANDLES"
  | .indicator i => i.text

/-- The written form; the span is given in seconds. -/
def render (k : PageKey) : String :=
  s!"{k.kindText}[{k.params.render}] {k.symbol} {k.timeframe.text} " ++
    s!"{k.range.start.seconds}..{k.range.stop.seconds}"

end PageKey

end MarketConditions
