import MarketConditions.Auction.Profile

/-!
# Indicators

- `Indicator` — every indicator with its parameters, which together are its identity
- `Property` — the named outputs of indicators that have several
- `Indicator.properties` — which of them an indicator has
- `Indicator.text` — its written form
-/

namespace MarketConditions

/-- An indicator and its parameters. Multipliers are given in hundredths. -/
inductive Indicator where
  | sma (period : Nat)
  | ema (period : Nat)
  | wma (period : Nat)
  | rsi (period : Nat)
  | roc (period : Nat)
  | atr (period : Nat)
  | stddev (period : Nat)
  | obv
  | vwap
  | macd (fast slow signal : Nat)
  | bbands (period multiple : Nat)
  | stochastic (kPeriod dPeriod : Nat)
  | supertrend (period multiple : Nat)
  | ichimoku (tenkan kijun senkou : Nat)
  | swingHigh (strength : Nat)
  | swingLow (strength : Nat)
  | allTimeHigh
  | allTimeLow
  | resistanceRay (lookback skip : Nat)
  | supportRay (lookback skip : Nat)
  | volumeProfile (session : ProfileSession) (bins : Nat)
deriving DecidableEq, Repr

/-- A named output. -/
inductive Property where
  | line
  | signal
  | histogram
  | upper
  | middle
  | lower
  | width
  | k
  | d
  | trend
  | tenkan
  | kijun
  | senkouA
  | senkouB
  | chikou
  | price
  | dominance
  | barsSince
  | broken
  | crossed
  | distance
  | slope
  | poc
  | vah
  | val
deriving DecidableEq, Repr

namespace Property

/-- Whether the output is a truth value. -/
def isBoolean : Property → Bool
  | broken | crossed => true
  | _ => false

/-- The written name. -/
def text : Property → String
  | line => "line"
  | signal => "signal"
  | histogram => "histogram"
  | upper => "upper"
  | middle => "middle"
  | lower => "lower"
  | width => "width"
  | k => "k"
  | d => "d"
  | trend => "trend"
  | tenkan => "tenkan"
  | kijun => "kijun"
  | senkouA => "senkou_a"
  | senkouB => "senkou_b"
  | chikou => "chikou"
  | price => "price"
  | dominance => "dominance"
  | barsSince => "bars_since"
  | broken => "broken"
  | crossed => "crossed"
  | distance => "distance"
  | slope => "slope"
  | poc => "poc"
  | vah => "vah"
  | val => "val"

end Property

/-- A multiplier in hundredths as a decimal number, without zeros at its end. -/
def hundredthsText (n : Nat) : String :=
  let whole := toString (n / 100)
  let rest := n % 100
  if rest = 0 then whole
  else if rest % 10 = 0 then whole ++ "." ++ toString (rest / 10)
  else whole ++ "." ++ Instant.padded 2 rest

namespace Indicator

/-- The named outputs; none for an indicator with a single one. -/
def properties : Indicator → List Property
  | macd .. => [.line, .signal, .histogram]
  | bbands .. => [.upper, .middle, .lower, .width]
  | stochastic .. => [.k, .d]
  | supertrend .. => [.trend, .upper, .lower]
  | ichimoku .. => [.tenkan, .kijun, .senkouA, .senkouB, .chikou]
  | swingHigh _ | swingLow _ => [.price, .dominance, .barsSince]
  | resistanceRay .. | supportRay .. => [.price, .broken, .crossed, .distance, .slope]
  | volumeProfile .. => [.poc, .vah, .val]
  | _ => []

/-- Whether an output has to be named. -/
def isMultiOutput (i : Indicator) : Bool := !i.properties.isEmpty

/-- The written form: a name, and the parameters in brackets. -/
def text : Indicator → String
  | sma p => s!"SMA({p})"
  | ema p => s!"EMA({p})"
  | wma p => s!"WMA({p})"
  | rsi p => s!"RSI({p})"
  | roc p => s!"ROC({p})"
  | atr p => s!"ATR({p})"
  | stddev p => s!"STDDEV({p})"
  | obv => "OBV"
  | vwap => "VWAP"
  | macd fast slow signal => s!"MACD({fast},{slow},{signal})"
  | bbands p multiple => s!"BBANDS({p},{hundredthsText multiple})"
  | stochastic k d => s!"STOCHASTIC({k},{d})"
  | supertrend p multiple => s!"SUPERTREND({p},{hundredthsText multiple})"
  | ichimoku tenkan kijun senkou => s!"ICHIMOKU({tenkan},{kijun},{senkou})"
  | swingHigh s => s!"SWING_HIGH({s})"
  | swingLow s => s!"SWING_LOW({s})"
  | allTimeHigh => "ATH"
  | allTimeLow => "ATL"
  | resistanceRay lookback skip => s!"RESISTANCE_RAY({lookback},{skip})"
  | supportRay lookback skip => s!"SUPPORT_RAY({lookback},{skip})"
  | volumeProfile (.rolling n) bins => s!"VOLUME_PROFILE({n},{bins})"
  | volumeProfile .daily bins => s!"VOLUME_PROFILE(DAILY,{bins})"

end Indicator

end MarketConditions
