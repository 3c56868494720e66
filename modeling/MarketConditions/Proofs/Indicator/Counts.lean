import MarketConditions.Indicator.Basic

/-!
# The parameters of an indicator

What an indicator is written with besides its name: counts of bars or bins, and multiples in
hundredths.

- `Indicator.counts`, `Indicator.multiples`: the two kinds of parameters, each in order.
- `Indicator.mapCounts`: the indicator with its counts changed.
-/

namespace MarketConditions.Indicator

/-- The counts among the parameters. A day as a session is none. -/
def counts : Indicator → List Nat
  | sma p | ema p | wma p | rsi p | roc p | atr p | stddev p => [p]
  | bbands p _ | supertrend p _ => [p]
  | obv | vwap | allTimeHigh | allTimeLow => []
  | macd fast slow signal => [fast, slow, signal]
  | stochastic k d => [k, d]
  | ichimoku tenkan kijun senkou => [tenkan, kijun, senkou]
  | swingHigh s | swingLow s => [s]
  | resistanceRay lookback skip | supportRay lookback skip => [lookback, skip]
  | volumeProfile (.rolling n) bins => [n, bins]
  | volumeProfile .daily bins => [bins]

/-- The multiples among the parameters. -/
def multiples : Indicator → List Nat
  | bbands _ multiple | supertrend _ multiple => [multiple]
  | _ => []

/-- The indicator with `f` applied to its counts. -/
def mapCounts (f : Nat → Nat) : Indicator → Indicator
  | sma p => sma (f p)
  | ema p => ema (f p)
  | wma p => wma (f p)
  | rsi p => rsi (f p)
  | roc p => roc (f p)
  | atr p => atr (f p)
  | stddev p => stddev (f p)
  | obv => obv
  | vwap => vwap
  | macd fast slow signal => macd (f fast) (f slow) (f signal)
  | bbands p multiple => bbands (f p) multiple
  | stochastic k d => stochastic (f k) (f d)
  | supertrend p multiple => supertrend (f p) multiple
  | ichimoku tenkan kijun senkou => ichimoku (f tenkan) (f kijun) (f senkou)
  | swingHigh s => swingHigh (f s)
  | swingLow s => swingLow (f s)
  | allTimeHigh => allTimeHigh
  | allTimeLow => allTimeLow
  | resistanceRay lookback skip => resistanceRay (f lookback) (f skip)
  | supportRay lookback skip => supportRay (f lookback) (f skip)
  | volumeProfile (.rolling n) bins => volumeProfile (.rolling (f n)) (f bins)
  | volumeProfile .daily bins => volumeProfile .daily (f bins)

/-- What leaves the counts as they are leaves the indicator as it is. -/
theorem mapCounts_eq_self {f : Nat → Nat} {i : Indicator} (same : ∀ n ∈ i.counts, f n = n) :
    i.mapCounts f = i := by
  cases i with
  | volumeProfile session bins => cases session <;> simp_all [mapCounts, counts]
  | _ => simp_all [mapCounts, counts]

end MarketConditions.Indicator
