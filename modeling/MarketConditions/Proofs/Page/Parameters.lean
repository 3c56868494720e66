import Mathlib.Algebra.Group.Nat.Defs
import MarketConditions.Proofs.Indicator.Counts
import MarketConditions.Page.Key

/-!
# What the key of an indicator tells apart

The parameters of an indicator are listed in its key behind its name. A count is a signed
number of 64 bits there, and counts beyond are all written as the greatest one, so keys do
not tell those apart. Everything else about an indicator can be read back from its key.

- `Indicator.capped`: an indicator with every count cut off at the greatest that keys hold.
- `ParamKey.indicator?`: the indicator of a key, and `ParamKey.indicator?_ofIndicator`:
  **a key gives its indicator back**, cut off.
- `ParamKey.ofIndicator_capped`: beyond that, a key says nothing.
- `ParamKey.tells_apart`: **which indicators share a key**.
- `ParamKey.counts_collide`: two that do, though they differ.
-/

namespace MarketConditions

/-! ## Counts -/

namespace Param

/-- The greatest count that a parameter holds. -/
def greatestCount : Nat := 0x7fffffffffffffff

theorem ofCount_min (n : Nat) : ofCount (min n greatestCount) = ofCount n := by
  have cut : min (min n greatestCount) greatestCount = min n greatestCount := by omega
  exact congrArg (fun m : Nat => int m) cut

end Param

/-- The indicator with its counts cut off at the greatest that a parameter holds. -/
def Indicator.capped (i : Indicator) : Indicator := i.mapCounts (min · Param.greatestCount)

/-- Nothing is cut off where every count fits. -/
theorem Indicator.capped_of_le {i : Indicator} (fit : ∀ n ∈ i.counts, n ≤ Param.greatestCount) :
    i.capped = i :=
  mapCounts_eq_self fun n here => Nat.min_eq_left (fit n here)

namespace ParamKey

/-! ## Reading a key back -/

/-- The indicator that a key is of. -/
def indicator? : ParamKey → Option Indicator
  | [.text "SMA", .int p] => some (.sma p.toNat)
  | [.text "EMA", .int p] => some (.ema p.toNat)
  | [.text "WMA", .int p] => some (.wma p.toNat)
  | [.text "RSI", .int p] => some (.rsi p.toNat)
  | [.text "ROC", .int p] => some (.roc p.toNat)
  | [.text "ATR", .int p] => some (.atr p.toNat)
  | [.text "STDDEV", .int p] => some (.stddev p.toNat)
  | [.text "OBV"] => some .obv
  | [.text "VWAP"] => some .vwap
  | [.text "MACD", .int fast, .int slow, .int signal] =>
    some (.macd fast.toNat slow.toNat signal.toNat)
  | [.text "BBANDS", .int p, .int multiple] => some (.bbands p.toNat multiple.toNat)
  | [.text "STOCHASTIC", .int k, .int d] => some (.stochastic k.toNat d.toNat)
  | [.text "SUPERTREND", .int p, .int multiple] => some (.supertrend p.toNat multiple.toNat)
  | [.text "ICHIMOKU", .int tenkan, .int kijun, .int senkou] =>
    some (.ichimoku tenkan.toNat kijun.toNat senkou.toNat)
  | [.text "SWING_HIGH", .int s] => some (.swingHigh s.toNat)
  | [.text "SWING_LOW", .int s] => some (.swingLow s.toNat)
  | [.text "ATH"] => some .allTimeHigh
  | [.text "ATL"] => some .allTimeLow
  | [.text "RESISTANCE_RAY", .int lookback, .int skip] =>
    some (.resistanceRay lookback.toNat skip.toNat)
  | [.text "SUPPORT_RAY", .int lookback, .int skip] => some (.supportRay lookback.toNat skip.toNat)
  | [.text "VOLUME_PROFILE", .int n, .int bins] =>
      some (.volumeProfile (.rolling n.toNat) bins.toNat)
  | [.text "VOLUME_PROFILE", .text "DAILY", .int bins] => some (.volumeProfile .daily bins.toNat)
  | _ => none

/-- **A key gives its indicator back**, but for what is cut off of counts. -/
theorem indicator?_ofIndicator (i : Indicator) : indicator? (ofIndicator i) = some i.capped := by
  cases i with
  | volumeProfile session bins =>
    cases session <;> rfl
  | _ => rfl

/-- What is cut off of counts does not show in a key. -/
theorem ofIndicator_capped (i : Indicator) : ofIndicator i.capped = ofIndicator i := by
  cases i with
  | volumeProfile session bins =>
    cases session <;>
      simp [Indicator.capped, Indicator.mapCounts, ofIndicator, Param.ofCount_min]
  | _ => simp [Indicator.capped, Indicator.mapCounts, ofIndicator, Param.ofCount_min]

/-- **Which indicators share a key.** Two indicators have the same key exactly if they
are the same once counts are cut off at the greatest that a parameter holds. So
indicators of which no count goes beyond it, whatever their multiples are, have different
keys if they differ. -/
theorem tells_apart (i j : Indicator) :
    (ofIndicator i = ofIndicator j ↔ i.capped = j.capped) ∧
    ((∀ n ∈ i.counts, n ≤ Param.greatestCount) → (∀ n ∈ j.counts, n ≤ Param.greatestCount) →
      i ≠ j → ofIndicator i ≠ ofIndicator j) := by
  have shared : ofIndicator i = ofIndicator j ↔ i.capped = j.capped := by
    constructor
    · intro same
      have read := congrArg indicator? same
      rw [indicator?_ofIndicator, indicator?_ofIndicator] at read
      exact Option.some.inj read
    · intro same
      rw [← ofIndicator_capped i, same, ofIndicator_capped]
  refine ⟨shared, fun fits fits' different same => different ?_⟩
  rw [← Indicator.capped_of_le fits, shared.mp same, Indicator.capped_of_le fits']

/-- The greatest count that a parameter holds is told apart from the one before, and a
session of so many bars from a day. -/
theorem tells_apart_greatest :
    ((∀ n ∈ (Indicator.sma Param.greatestCount).counts, n ≤ Param.greatestCount) ∧
      (∀ n ∈ (Indicator.sma (Param.greatestCount - 1)).counts, n ≤ Param.greatestCount) ∧
      ofIndicator (.sma Param.greatestCount) ≠ ofIndicator (.sma (Param.greatestCount - 1))) ∧
    ofIndicator (.volumeProfile (.rolling Param.greatestCount) 7) ≠
      ofIndicator (.volumeProfile .daily 7) := by
  have first : ∀ n ∈ (Indicator.sma Param.greatestCount).counts,
      n ≤ Param.greatestCount := by
    decide
  have second : ∀ n ∈ (Indicator.sma (Param.greatestCount - 1)).counts,
      n ≤ Param.greatestCount := by
    decide
  exact ⟨⟨first, second, (tells_apart _ _).2 first second (by decide)⟩,
    (tells_apart _ _).2 (by decide) (by decide) (by decide)⟩

/-- The greatest count that a parameter holds and the next one share a key. Both are
counts of 64 bits without a sign. -/
theorem counts_collide :
    ofIndicator (.sma 9223372036854775807) = ofIndicator (.sma 9223372036854775808) ∧
      Indicator.sma 9223372036854775807 ≠ .sma 9223372036854775808 ∧
      9223372036854775808 < 2 ^ 64 := by
  refine ⟨rfl, ?_, by decide⟩
  intro same
  exact absurd (Indicator.sma.inj same) (by decide)

end ParamKey

end MarketConditions
