import MarketConditions.Proofs.Column.Causal
import MarketConditions.Indicator.Volatility
import MarketConditions.Indicator.Cloud
import MarketConditions.Indicator.Turnover
import MarketConditions.Auction.Profile

/-!
# Indicators do not look ahead

Every column that an indicator works out is causal. Most are put together from the causal
columns of `Column.Causal`, and then so is the proof; what remains are the few that are
made otherwise:

- `Momentum.take_changes`, `Momentum.causal_rsi`: changes from bar to bar are one fewer
  than the bars.
- `Volatility.causal_trendBands`: bands that begin at the first defined reach.

Columns of later bars that are moved back, as in the cloud, read from earlier bars only.
-/

namespace MarketConditions

open Column

variable {α : Type}

theorem causal_closes : Causal (closes : List (Candle α) → List α) := causal_self.map _

theorem causal_highs : Causal (highs : List (Candle α) → List α) := causal_self.map _

theorem causal_lows : Causal (lows : List (Candle α) → List α) := causal_self.map _

variable [Scalar α]

namespace Average

/-! ## Moving averages -/

theorem causal_simpleAverage (p : Nat) : Causal (simpleAverage p : List α → List α) :=
  .ite _ causal_allUndefined
    (causal_afterUndefined ((causal_running _ _).comp (causal_withLeaving p)))

theorem causal_exponentialAverage (p : Nat) : Causal (exponentialAverage p : List α → List α) :=
  causal_afterUndefined ((causal_seeded p mean (exponentialNext p)).map _)

theorem causal_weightedAverage (p : Nat) : Causal (weightedAverage p : List α → List α) :=
  .ite _ causal_allUndefined
    (causal_afterUndefined ((causal_running _ _).comp (causal_withLeaving p)))

end Average

namespace Extreme

/-! ## Extremes -/

theorem causal_rolling (dominates : α → α → Bool) (p : Nat) : Causal (rolling dominates p) :=
  .ite _ causal_allUndefined ((causal_running _ _).comp causal_numbered)

theorem causal_rollingMax (p : Nat) : Causal (rollingMax p : List α → List α) :=
  causal_rolling _ p

theorem causal_rollingMin (p : Nat) : Causal (rollingMin p : List α → List α) :=
  causal_rolling _ p

theorem causal_earlierHigh (p skip : Nat) :
    Causal (earlierHigh p skip : List (Candle α) → List α) :=
  (causal_lag _ _).comp ((causal_rollingMax p).comp causal_highs)

theorem causal_earlierLow (p skip : Nat) :
    Causal (earlierLow p skip : List (Candle α) → List α) :=
  (causal_lag _ _).comp ((causal_rollingMin p).comp causal_lows)

theorem causal_rangePosition (p skip : Nat) :
    Causal (rangePosition p skip : List (Candle α) → List α) :=
  causal_closes.zipWith ((causal_earlierLow p skip).zip (causal_earlierHigh p skip)) _

theorem causal_allTimeHigh : Causal (allTimeHigh : List (Candle α) → List α) :=
  (causal_running _ _).comp causal_highs

theorem causal_allTimeLow : Causal (allTimeLow : List (Candle α) → List α) :=
  (causal_running _ _).comp causal_lows

end Extreme

namespace Momentum

/-! ## Momentum -/

/-- The changes up to a bar need the closes up to it, one more than there are changes. -/
theorem take_changes (k : Nat) (candles : List (Candle α)) :
    changes (candles.take (k + 1)) = (changes candles).take k := by
  unfold changes minus
  rw [causal_closes.take]
  cases closes candles with
  | nil => simp
  | cons x xs => exact take_zipWith_cons _ x xs k

theorem causal_rsi (p : Nat) : Causal (rsi p : List (Candle α) → List α) := by
  -- an undefined entry comes first, for the change that the first bar lacks
  refine ⟨fun k candles => ?_, fun candles => ?_⟩
  rotate_left
  · have changed : (changes candles).length = candles.length - 1 := by
      unfold changes minus
      rw [List.length_zipWith, List.length_tail, causal_closes.length]
      omega
    unfold rsi
    rw [List.length_take, List.length_cons, List.length_map, length_seeded, changed]
    omega
  cases k with
  | zero => simp [rsi]
  | succ k =>
    simp only [rsi, take_changes]
    rw [(causal_seeded _ _ _).take, List.map_take, ← List.take_succ_cons, List.take_take,
      List.take_take, List.length_take]
    congr 1
    omega

theorem causal_roc (p : Nat) : Causal (roc p : List (Candle α) → List α) :=
  .ite _ causal_allUndefined
    (((causal_lag _ _).comp (causal_closes.map some)).zipWith causal_closes _)

theorem causal_stochasticK (kPeriod dPeriod : Nat) :
    Causal fun candles : List (Candle α) => (stochastic kPeriod dPeriod candles).k :=
  causal_closes.zipWith (((Extreme.causal_rollingMin kPeriod).comp causal_lows).zip
    ((Extreme.causal_rollingMax kPeriod).comp causal_highs)) _

theorem causal_stochasticD (kPeriod dPeriod : Nat) :
    Causal fun candles : List (Candle α) => (stochastic kPeriod dPeriod candles).d :=
  (Average.causal_simpleAverage dPeriod).comp (causal_stochasticK kPeriod dPeriod)

theorem causal_macdLine (fast slow signal : Nat) :
    Causal fun candles : List (Candle α) => (macd fast slow signal candles).line :=
  causal_minus ((Average.causal_exponentialAverage fast).comp causal_closes)
    ((Average.causal_exponentialAverage slow).comp causal_closes)

theorem causal_macdSignal (fast slow signal : Nat) :
    Causal fun candles : List (Candle α) => (macd fast slow signal candles).signal :=
  (Average.causal_exponentialAverage signal).comp (causal_macdLine fast slow signal)

theorem causal_macdHistogram (fast slow signal : Nat) :
    Causal fun candles : List (Candle α) => (macd fast slow signal candles).histogram :=
  causal_minus (causal_macdLine fast slow signal) (causal_macdSignal fast slow signal)

end Momentum

namespace Volatility

/-! ## Volatility -/

theorem causal_trueRanges : Causal (trueRanges : List (Candle α) → List α) := causal_running _ _

theorem causal_averageTrueRange (p : Nat) :
    Causal (averageTrueRange p : List (Candle α) → List α) :=
  ((causal_seeded p _ _).comp causal_trueRanges).map _

/-- A column of windows over the closes. -/
theorem causal_overCloses (p : Nat) (f : List α → α) :
    Causal fun candles : List (Candle α) => overWindows p f (closes candles) :=
  ((causal_trailing p).map _).comp causal_closes

/-- There are no bands while the reach is undefined. -/
theorem trendBands_of_undefined (multiple : α) {e : TrendEntry α}
    (undefined : Scalar.isUndefined e.reach) (es : List (TrendEntry α)) :
    trendBands multiple (e :: es) = none :: trendBands multiple es := by
  unfold trendBands
  simp only [List.takeWhile_cons, List.dropWhile_cons, undefined, if_true]
  split <;> rfl

/-- The first defined reach makes the first bands. -/
theorem trendBands_of_defined (multiple : α) {e : TrendEntry α}
    (defined : ¬ Scalar.isUndefined e.reach) (es : List (TrendEntry α)) :
    trendBands multiple (e :: es) =
      (updates (fun t e => follow t (bandsAround (multiple * e.reach) e.candle) e.previousClose
        e.candle.close) (bandsAround (multiple * e.reach) e.candle) es).map some := by
  unfold trendBands
  simp only [List.takeWhile_cons, List.dropWhile_cons, defined]
  rfl

/-- The bands need the entries up to a bar, and begin where they begin. -/
theorem causal_trendBands (multiple : α) : Causal (trendBands multiple) := by
  refine ⟨fun k entries => ?_, fun entries => ?_⟩
  · -- along the undefined reaches; from the first defined one on the bands are updates
    induction entries generalizing k with
    | nil => simp [trendBands]
    | cons e entries ih =>
      cases k with
      | zero => simp [trendBands]
      | succ k =>
        rw [List.take_succ_cons]
        by_cases undefined : Scalar.isUndefined e.reach
        · rw [trendBands_of_undefined _ undefined, trendBands_of_undefined _ undefined, ih,
            List.take_succ_cons]
        · rw [trendBands_of_defined _ undefined, trendBands_of_defined _ undefined, take_updates,
            List.map_take]
  · induction entries with
    | nil => rfl
    | cons e entries ih =>
      by_cases undefined : Scalar.isUndefined e.reach
      · rw [trendBands_of_undefined _ undefined, List.length_cons, ih, List.length_cons]
      · rw [trendBands_of_defined _ undefined, List.length_map, length_updates, List.length_cons]

/-- A column of the bands. -/
theorem causal_bands (p multiple : Nat) (f : TrendBands α → α) :
    Causal fun candles : List (Candle α) =>
      (trendBands (hundredths multiple) (List.zipWith
        (fun (reach, c) previous => (⟨reach, c, previous⟩ : TrendEntry α))
        ((averageTrueRange p candles).zip candles)
        (lag 1 Scalar.undefined (closes candles)))).map fun s => orUndefined (s.map f) :=
  ((causal_trendBands _).comp (((causal_averageTrueRange p).zip causal_self).zipWith
    ((causal_lag _ _).comp causal_closes) _)).map _

end Volatility

namespace Cloud

/-! ## The cloud -/

theorem causal_midpoint (p : Nat) : Causal (midpoint p : List (Candle α) → List α) :=
  causal_midway ((Extreme.causal_rollingMax p).comp causal_highs)
    ((Extreme.causal_rollingMin p).comp causal_lows)

theorem causal_closesFrom (p : Nat) : Causal (closesFrom p : List (Candle α) → List α) :=
  (causal_numbered.comp causal_closes).map _

end Cloud

namespace Turnover

/-! ## Volume -/

theorem causal_onBalance : Causal (onBalance : List (Candle α) → List α) := causal_running _ _

theorem causal_sessionAverage : Causal (sessionAverage : List (Candle α) → List α) :=
  causal_running _ _

theorem causal_absorption (lookback : Nat) (volumeRatio movePercent : α) :
    Causal (absorption lookback volumeRatio movePercent) :=
  .ite _ (causal_self.map _)
    ((causal_running _ _).comp (causal_self.zip ((causal_lag _ _).comp (causal_self.map _))))

end Turnover

/-! ## Volume profiles -/

omit [Scalar α] in
theorem Profile.causal_sessions (session : ProfileSession) :
    Causal (Profile.sessions session : List (Candle α) → List (Option (List (Candle α)))) := by
  cases session with
  | rolling n => exact (causal_trailing n).map _
  | daily => exact causal_running _ _

end MarketConditions
