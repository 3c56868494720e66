import MarketConditions.Data.Basic
import MarketConditions.Expr.Basic

/-!
# Indicators and expressions as data

- `Indicator.toData`, `Indicator.ofData?` — an indicator with its parameters
- `Expr.toData`, `Expr.ofData?` — an expression, node by node
-/

namespace MarketConditions

variable {α : Type}

/-! ## Names -/

instance : Named PriceField where
  all := [.opening, .high, .low, .close, .volume, .hl2, .hlc3, .ohlc4]
  name
    | .opening => "Open"
    | .high => "High"
    | .low => "Low"
    | .close => "Close"
    | .volume => "Volume"
    | .hl2 => "Hl2"
    | .hlc3 => "Hlc3"
    | .ohlc4 => "Ohlc4"

instance : Named Comparison where
  all := [.gt, .lt, .ge, .le, .eq]
  name
    | .gt => "Gt"
    | .lt => "Lt"
    | .ge => "Ge"
    | .le => "Le"
    | .eq => "Eq"

instance : Named CrossDirection where
  all := [.above, .below]
  name
    | .above => "Above"
    | .below => "Below"

instance : Named Connective where
  all := [.and, .or]
  name
    | .and => "And"
    | .or => "Or"

instance : Named Operation where
  all := [.add, .sub, .mul, .div]
  name
    | .add => "Add"
    | .sub => "Sub"
    | .mul => "Mul"
    | .div => "Div"

instance : Named Aggregate where
  all := [.lowest, .highest, .percentile]
  name
    | .lowest => "Lowest"
    | .highest => "Highest"
    | .percentile => "Percentile"

instance : Named TimeField where
  all := [.hour, .minute, .dayOfWeek, .dayOfMonth, .month, .year, .timestamp]
  name
    | .hour => "Hour"
    | .minute => "Minute"
    | .dayOfWeek => "DayOfWeek"
    | .dayOfMonth => "DayOfMonth"
    | .month => "Month"
    | .year => "Year"
    | .timestamp => "Timestamp"

instance : Named MoonField where
  all := [.phase, .illumination]
  name
    | .phase => "MoonPhase"
    | .illumination => "MoonIllumination"

instance : Named OrderFlowField where
  all := [.delta, .cvd, .buyVolume, .sellVolume, .tradeCount, .fundingRate]
  name
    | .delta => "Delta"
    | .cvd => "Cvd"
    | .buyVolume => "BuyVolume"
    | .sellVolume => "SellVolume"
    | .tradeCount => "TradeCount"
    | .fundingRate => "FundingRate"

instance : Named FootprintLevel where
  all := [.poc, .vah, .val]
  name
    | .poc => "Poc"
    | .vah => "Vah"
    | .val => "Val"

instance : Named Property where
  all := [.line, .signal, .histogram, .upper, .middle, .lower, .width, .k, .d, .trend, .tenkan,
    .kijun, .senkouA, .senkouB, .chikou, .price, .dominance, .barsSince, .broken, .crossed,
    .distance, .slope, .poc, .vah, .val]
  name
    | .line => "Line"
    | .signal => "Signal"
    | .histogram => "Histogram"
    | .upper => "Upper"
    | .middle => "Middle"
    | .lower => "Lower"
    | .width => "Width"
    | .k => "K"
    | .d => "D"
    | .trend => "Trend"
    | .tenkan => "Tenkan"
    | .kijun => "Kijun"
    | .senkouA => "SenkouA"
    | .senkouB => "SenkouB"
    | .chikou => "Chikou"
    | .price => "Price"
    | .dominance => "Dominance"
    | .barsSince => "BarsSince"
    | .broken => "Broken"
    | .crossed => "Crossed"
    | .distance => "Distance"
    | .slope => "Slope"
    | .poc => "Poc"
    | .vah => "Vah"
    | .val => "Val"

/-! ## Indicators -/

namespace ProfileSession

/-- A session as data. -/
def toData : ProfileSession → Data α
  | rolling n => .variant "Rolling" (.ofNat n)
  | daily => .text "Daily"

/-- The session that data stands for. -/
def ofData? (d : Data α) : Option ProfileSession := do
  let (name, payload) ← d.variant?
  match name with
  | "Rolling" => return .rolling (← (← payload).count?)
  | "Daily" =>
    Data.alone? payload
    return .daily
  | _ => none

end ProfileSession

namespace Indicator

/-- An indicator as data. -/
def toData : Indicator → Data α
  | sma p => .variant "Sma" (.ofNat p)
  | ema p => .variant "Ema" (.ofNat p)
  | wma p => .variant "Wma" (.ofNat p)
  | rsi p => .variant "Rsi" (.ofNat p)
  | roc p => .variant "Roc" (.ofNat p)
  | atr p => .variant "Atr" (.ofNat p)
  | stddev p => .variant "Stddev" (.ofNat p)
  | obv => .text "Obv"
  | vwap => .text "Vwap"
  | macd fast slow signal => .variant "Macd"
      (.object [("fast", .ofNat fast), ("slow", .ofNat slow), ("signal", .ofNat signal)])
  | bbands p multiple => .variant "Bbands"
      (.object [("period", .ofNat p), ("stddev_mult_x100", .ofNat multiple)])
  | stochastic k d => .variant "Stochastic"
      (.object [("k_period", .ofNat k), ("d_period", .ofNat d)])
  | supertrend p multiple => .variant "Supertrend"
      (.object [("period", .ofNat p), ("mult_x100", .ofNat multiple)])
  | ichimoku tenkan kijun senkou => .variant "Ichimoku"
      (.object [("tenkan", .ofNat tenkan), ("kijun", .ofNat kijun), ("senkou", .ofNat senkou)])
  | swingHigh s => .variant "SwingHigh" (.object [("strength", .ofNat s)])
  | swingLow s => .variant "SwingLow" (.object [("strength", .ofNat s)])
  | allTimeHigh => .text "AllTimeHigh"
  | allTimeLow => .text "AllTimeLow"
  | resistanceRay lookback skip => .variant "ResistanceRay"
      (.object [("lookback", .ofNat lookback), ("skip", .ofNat skip)])
  | supportRay lookback skip => .variant "SupportRay"
      (.object [("lookback", .ofNat lookback), ("skip", .ofNat skip)])
  | volumeProfile session bins => .variant "VolumeProfile"
      (.object [("session", session.toData), ("bins", .ofNat bins)])

/-- The indicator that data stands for. -/
def ofData? (d : Data α) : Option Indicator := do
  let (name, payload) ← d.variant?
  let count : Option Nat := payload.bind Data.count?
  let record : Option (Data.Record α) := payload.bind Data.record?
  match name with
  | "Sma" => return .sma (← count)
  | "Ema" => return .ema (← count)
  | "Wma" => return .wma (← count)
  | "Rsi" => return .rsi (← count)
  | "Roc" => return .roc (← count)
  | "Atr" => return .atr (← count)
  | "Stddev" => return .stddev (← count)
  | "Obv" =>
    Data.alone? payload
    return .obv
  | "Vwap" =>
    Data.alone? payload
    return .vwap
  | "AllTimeHigh" =>
    Data.alone? payload
    return .allTimeHigh
  | "AllTimeLow" =>
    Data.alone? payload
    return .allTimeLow
  | "Macd" =>
    let r ← record
    return .macd (← r.required "fast" Data.count?) (← r.required "slow" Data.count?)
      (← r.required "signal" Data.count?)
  | "Bbands" =>
    let r ← record
    return .bbands (← r.required "period" Data.count?)
      (← r.required "stddev_mult_x100" Data.multiple?)
  | "Stochastic" =>
    let r ← record
    return .stochastic (← r.required "k_period" Data.count?) (← r.required "d_period" Data.count?)
  | "Supertrend" =>
    let r ← record
    return .supertrend (← r.required "period" Data.count?) (← r.required "mult_x100" Data.multiple?)
  | "Ichimoku" =>
    let r ← record
    return .ichimoku (← r.required "tenkan" Data.count?) (← r.required "kijun" Data.count?)
      (← r.required "senkou" Data.count?)
  | "SwingHigh" =>
    let r ← record
    return .swingHigh (← r.required "strength" Data.count?)
  | "SwingLow" =>
    let r ← record
    return .swingLow (← r.required "strength" Data.count?)
  | "ResistanceRay" =>
    let r ← record
    return .resistanceRay (← r.required "lookback" Data.count?) (← r.required "skip" Data.count?)
  | "SupportRay" =>
    let r ← record
    return .supportRay (← r.required "lookback" Data.count?) (← r.required "skip" Data.count?)
  | "VolumeProfile" =>
    let r ← record
    return .volumeProfile (← r.required "session" ProfileSession.ofData?)
      (← r.required "bins" Data.count?)
  | _ => none

end Indicator

/-! ## Functions -/

namespace RangeFunction

/-- A function of earlier bars as data. -/
def toData : RangeFunction → Data α
  | highOf p => .variant "HighOf" (.object [("period", .ofNat p)])
  | lowOf p => .variant "LowOf" (.object [("period", .ofNat p)])
  | rangePosition p skip => .variant "RangePosition"
      (.object [("period", .ofNat p), ("skip", .ofNat skip)])

/-- The function that data stands for. -/
def ofData? (d : Data α) : Option RangeFunction := do
  let (name, payload) ← d.variant?
  let record : Option (Data.Record α) := payload.bind Data.record?
  match name with
  | "HighOf" =>
    let r ← record
    return .highOf (← r.required "period" Data.count?)
  | "LowOf" =>
    let r ← record
    return .lowOf (← r.required "period" Data.count?)
  | "RangePosition" =>
    let r ← record
    return .rangePosition (← r.required "period" Data.count?) (← r.required "skip" Data.count?)
  | _ => none

end RangeFunction

variable [Scalar α]

namespace FootprintFunction

/-- A question about a footprint as data. -/
def toData : FootprintFunction α → Data α
  | level l => .variant "Level" (Named.toData l)
  | imbalance l ratio => .variant "Imbalance"
      (.object [("level", Named.toData l), ("ratio", .ofOption .real ratio)])
  | absorption ratio percent => .variant "Absorption"
      (.object [("volume_ratio", .ofOption .real ratio), ("move_pct", .ofOption .real percent)])

/-- The question that data stands for. -/
def ofData? (d : Data α) : Option (FootprintFunction α) := do
  let (name, payload) ← d.variant?
  let record : Option (Data.Record α) := payload.bind Data.record?
  match name with
  | "Level" => return .level (← payload.bind Named.ofData?)
  | "Imbalance" =>
    let r ← record
    return .imbalance (← r.required "level" Named.ofData?) (← r.optional "ratio" Data.number?)
  | "Absorption" =>
    let r ← record
    return .absorption (← r.optional "volume_ratio" Data.number?)
      (← r.optional "move_pct" Data.number?)
  | _ => none

end FootprintFunction

namespace ExchangeFunction

/-- A question about exchanges as data. -/
def toData : ExchangeFunction α → Data α
  | delta name => .variant "Delta" (.text name)
  | combinedDelta => .text "CombinedDelta"
  | divergence threshold => .variant "Divergence"
      (.object [("threshold", .ofOption .real threshold)])

/-- The question that data stands for. -/
def ofData? (d : Data α) : Option (ExchangeFunction α) := do
  let (name, payload) ← d.variant?
  match name with
  | "Delta" => return .delta (← payload.bind Data.text?)
  | "CombinedDelta" =>
    Data.alone? payload
    return .combinedDelta
  | "Divergence" =>
    let r ← payload.bind Data.record?
    return .divergence (← r.optional "threshold" Data.number?)
  | _ => none

end ExchangeFunction

/-! ## Expressions -/

namespace Expr

/-- An expression as data. -/
def toData : Expr α → Data α
  | number x => .variant "Number" (.real x)
  | bool b => .variant "Bool" (.bool b)
  | price field => .variant "Price" (Named.toData field)
  | comparison op left right => .variant "Comparison"
      (.object [("op", Named.toData op), ("left", left.toData), ("right", right.toData)])
  | cross direction left right => .variant "Cross"
      (.object [("direction", Named.toData direction), ("left", left.toData),
        ("right", right.toData)])
  | logical op left right => .variant "Logical"
      (.object [("op", Named.toData op), ("left", left.toData), ("right", right.toData)])
  | not inner => .variant "Not" inner.toData
  | between inner lower upper => .variant "Between"
      (.object [("expr", inner.toData), ("lower", lower.toData), ("upper", upper.toData)])
  | arithmetic op left right => .variant "Arithmetic"
      (.object [("op", Named.toData op), ("left", left.toData), ("right", right.toData)])
  | indicator i p => .variant "Indicator"
      (.object [("indicator", i.toData), ("property", .ofOption Named.toData p)])
  | range function => .variant "Range" function.toData
  | aggregate function inner period => .variant "Aggregate"
      (.object [("function", Named.toData function), ("expr", inner.toData),
        ("period", .ofNat period)])
  | lookback inner offset => .variant "Lookback"
      (.object [("expr", inner.toData), ("offset", .ofNat offset)])
  | time field => .variant "Time" (Named.toData field)
  | moon field => .variant "Astro" (Named.toData field)
  | orderFlow field => .variant "Orderflow" (Named.toData field)
  | footprint function => .variant "Footprint" function.toData
  | exchange function => .variant "Exchange" function.toData

/-- The expression that data of at most `levels` levels stands for. -/
def ofLevels? : Nat → Data α → Option (Expr α)
  | 0, _ => none
  | levels + 1, d => do
    let (name, payload) ← d.variant?
    let record : Option (Data.Record α) := payload.bind Data.record?
    let inner := ofLevels? levels
    match name with
    | "Number" => return .number (← payload.bind Data.number?)
    | "Bool" => return .bool (← payload.bind Data.bool?)
    | "Price" => return .price (← payload.bind Named.ofData?)
    | "Comparison" =>
      let r ← record
      return .comparison (← r.required "op" Named.ofData?) (← r.required "left" inner)
        (← r.required "right" inner)
    | "Cross" =>
      let r ← record
      return .cross (← r.required "direction" Named.ofData?) (← r.required "left" inner)
        (← r.required "right" inner)
    | "Logical" =>
      let r ← record
      return .logical (← r.required "op" Named.ofData?) (← r.required "left" inner)
        (← r.required "right" inner)
    | "Not" => return .not (← payload.bind inner)
    | "Between" =>
      let r ← record
      return .between (← r.required "expr" inner) (← r.required "lower" inner)
        (← r.required "upper" inner)
    | "Arithmetic" =>
      let r ← record
      return .arithmetic (← r.required "op" Named.ofData?) (← r.required "left" inner)
        (← r.required "right" inner)
    | "Indicator" =>
      let r ← record
      return .indicator (← r.required "indicator" Indicator.ofData?)
        (← r.optional "property" Named.ofData?)
    | "Range" => return .range (← payload.bind RangeFunction.ofData?)
    | "Aggregate" =>
      let r ← record
      return .aggregate (← r.required "function" Named.ofData?) (← r.required "expr" inner)
        (← r.required "period" Data.count?)
    | "Lookback" =>
      let r ← record
      return .lookback (← r.required "expr" inner) (← r.required "offset" Data.count?)
    | "Time" => return .time (← payload.bind Named.ofData?)
    | "Astro" => return .moon (← payload.bind Named.ofData?)
    | "Orderflow" => return .orderFlow (← payload.bind Named.ofData?)
    | "Footprint" => return .footprint (← payload.bind FootprintFunction.ofData?)
    | "Exchange" => return .exchange (← payload.bind ExchangeFunction.ofData?)
    | _ => none

/-- The expression that data stands for. -/
def ofData? (d : Data α) : Option (Expr α) := ofLevels? d.depth d

end Expr

end MarketConditions
