import MarketConditions.Proofs.Structure.Rays
import MarketConditions.Library.Basic

/-!
# Studies of the first bars

An indicator worked out over the first bars alone gives the first entries of what it gives
over all bars, in each of its outputs. This one equation per indicator is what both the
absence of look-ahead and the agreement of a preview with the whole market rest on.

- `Cells.take`, `Study.take`: the entries of a study at the first bars.
- `Cells.Causal`, `Study.Causal`: the notion of `Column.Causal` for cells and for studies.
- `Study.Causal.output`: **one output more**, whatever its cells hold; the rule for each
  kind of output is this one.
- `Indicator.studyOver`: an indicator over some bars, with the swings found among them.
- `Indicator.causal_studyOver`: **every indicator is causal**.
-/

namespace MarketConditions

variable {α : Type}

/-- The entries at the first bars. -/
def Cells.take (k : Nat) : Cells α → Cells α
  | numbers xs => numbers (xs.toList.take k).toArray
  | flags bs => flags (bs.toList.take k).toArray

/-- There is an entry for each bar, and those of the first bars are the entries of all
bars at the first bars. -/
structure Cells.Causal (f : List (Candle α) → Cells α) : Prop where
  take : ∀ k candles, f (candles.take k) = (f candles).take k
  length : ∀ candles, (f candles).length = candles.length

theorem Cells.causal_numbers {f : List (Candle α) → List α} (hf : Column.Causal f) :
    Causal fun candles => numbers (f candles).toArray :=
  ⟨fun k candles => congrArg (fun xs => numbers xs.toArray) (hf.take k candles), hf.length⟩

theorem Cells.causal_flags {f : List (Candle α) → List Bool} (hf : Column.Causal f) :
    Causal fun candles => (flags (f candles).toArray : Cells α) :=
  ⟨fun k candles => congrArg (fun bs => flags bs.toArray) (hf.take k candles), hf.length⟩

namespace Study

/-- The entries at the first bars, output by output. -/
def take (k : Nat) (s : Study α) : Study α := s.map fun o => { o with cells := o.cells.take k }

/-! ## Causal studies -/

/-- Every output has an entry for each bar, and the study of the first bars is the study
of all bars at the first bars. -/
structure Causal (f : List (Candle α) → Study α) : Prop where
  take : ∀ k candles, f (candles.take k) = (f candles).take k
  length : ∀ candles, ∀ o ∈ f candles, o.cells.length = candles.length

theorem causal_nil : Causal fun _ : List (Candle α) => [] :=
  ⟨fun _ _ => rfl, fun _ _ h => nomatch h⟩

/-- One output, and the outputs after it. -/
theorem Causal.output {cells : List (Candle α) → Cells α} {rest : List (Candle α) → Study α}
    (hrest : Causal rest) (property : Option Property) (hcells : Cells.Causal cells) :
    Causal fun candles => ⟨property, cells candles⟩ :: rest candles where
  take k candles := by
    rw [hcells.take, hrest.take]
    rfl
  length candles o ho := by
    rcases List.mem_cons.mp ho with rfl | ho
    · exact hcells.length candles
    · exact hrest.length candles o ho

/-- A named column of numbers, and the outputs after it. -/
theorem Causal.numbers {f : List (Candle α) → List α} {rest : List (Candle α) → Study α}
    (hrest : Causal rest) (p : Property) (hf : Column.Causal f) :
    Causal fun candles => Study.numbers p (f candles) :: rest candles :=
  hrest.output p (Cells.causal_numbers hf)

/-- A named column of truth values, and the outputs after it. -/
theorem Causal.flags {f : List (Candle α) → List Bool} {rest : List (Candle α) → Study α}
    (hrest : Causal rest) (p : Property) (hf : Column.Causal f) :
    Causal fun candles => Study.flags p (f candles) :: rest candles :=
  hrest.output p (Cells.causal_flags hf)

/-- A single output. -/
theorem causal_single {f : List (Candle α) → List α} (hf : Column.Causal f) :
    Causal fun candles => single (f candles) :=
  causal_nil.output none (Cells.causal_numbers hf)

end Study

/-! ## Reading the first bars -/

variable [Scalar α]

namespace Cells

/-- The first entries are read as before. -/
theorem valueAt_take (c : Cells α) {k bar : Nat} (here : bar < k) :
    (c.take k).valueAt bar = c.valueAt bar := by
  cases c with
  | numbers xs =>
    show Value.number (Column.orUndefined (xs.toList.take k).toArray[bar]?) =
      Value.number (Column.orUndefined xs[bar]?)
    rw [List.getElem?_toArray, List.getElem?_take, if_pos here, Array.getElem?_toList]
  | flags bs =>
    show Value.bool ((bs.toList.take k).toArray[bar]?.getD false) = Value.bool (bs[bar]?.getD false)
    rw [List.getElem?_toArray, List.getElem?_take, if_pos here, Array.getElem?_toList]

theorem toNumbers_take (c : Cells α) (k : Nat) : (c.take k).toNumbers = c.toNumbers.take k := by
  cases c with
  | numbers xs => rfl
  | flags bs =>
    show (bs.toList.take k).map Scalar.ofBool = (bs.toList.map Scalar.ofBool).take k
    rw [List.map_take]

end Cells

namespace Study

/-- The first bars are read as before. -/
theorem readAt_take (s : Study α) {k bar : Nat} (here : bar < k) :
    readAt (s.take k) bar = s.readAt bar := by
  unfold readAt take
  rw [List.map_map]
  apply List.map_congr_left
  intro o _
  show (o.property, (o.cells.take k).valueAt bar) = (o.property, o.cells.valueAt bar)
  rw [o.cells.valueAt_take here]

/-- Columns are cut off entry by entry. -/
theorem columns_take (s : Study α) (k : Nat) :
    columns (s.take k) = s.columns.map fun (name, values) => (name, values.take k) := by
  unfold columns take
  rw [List.filter_map, List.map_map, List.map_map]
  apply List.map_congr_left
  intro o _
  show (_, (o.cells.take k).toNumbers) = (_, o.cells.toNumbers.take k)
  rw [Cells.toNumbers_take]

end Study

/-! ## Every indicator -/

namespace Indicator

/-- The swings among some bars that an indicator is made from. -/
def swingsAmong (configured : Nat) (i : Indicator) (candles : List (Candle α)) :
    List (Swing α) :=
  match i.swingStrength configured with
  | some s => detectSwings s candles
  | none => []

/-- An indicator over some bars, with the swings found among them. -/
def studyOver (share : α) (configured : Nat) (i : Indicator)
    (candles : List (Candle α)) : Study α :=
  i.study share candles (i.swingsAmong configured candles)

theorem causal_swingStudy (side : Extremity) (s : Nat) :
    Study.Causal fun candles : List (Candle α) =>
      swingStudy side candles.length (detectSwings s candles) :=
  ((Study.causal_nil.numbers .barsSince (causal_swingColumn side s _)).numbers .dominance
    (causal_swingColumn side s _)).numbers .price (causal_swingColumn side s _)

theorem causal_rayStudy (kind : RayKind) (lookback skip s : Nat) :
    Study.Causal fun candles : List (Candle α) =>
      rayStudy kind lookback skip candles (detectSwings s candles) :=
  ((((Study.causal_nil.numbers .slope (Ray.causal_slope kind lookback skip s)).numbers .distance
    (Ray.causal_distance kind lookback skip s)).flags .crossed
      (Ray.causal_crossed kind lookback skip s)).flags .broken
        (Ray.causal_broken kind lookback skip s)).numbers .price
          (Ray.causal_price kind lookback skip s)

/-- A column of the levels of a profile. -/
theorem causal_levels (session : ProfileSession) (bins : Nat) (share : α)
    (f : ProfileLevels α → α) : Column.Causal fun candles : List (Candle α) =>
      ((Profile.sessions session candles).map (·.bind (Profile.levels bins share))).map
        fun l => Column.orUndefined (l.map f) :=
  ((Profile.causal_sessions session).map _).map _

/-- **Every indicator is causal.** Worked out over the first bars alone, it gives what it
gives at them when it is worked out over all bars. -/
theorem causal_studyOver (share : α) (configured : Nat) (i : Indicator) :
    Study.Causal (i.studyOver share configured) := by
  cases i with
  | sma p => exact Study.causal_single ((Average.causal_simpleAverage p).comp causal_closes)
  | ema p => exact Study.causal_single ((Average.causal_exponentialAverage p).comp causal_closes)
  | wma p => exact Study.causal_single ((Average.causal_weightedAverage p).comp causal_closes)
  | rsi p => exact Study.causal_single (Momentum.causal_rsi p)
  | roc p => exact Study.causal_single (Momentum.causal_roc p)
  | atr p => exact Study.causal_single (Volatility.causal_averageTrueRange p)
  | stddev p => exact Study.causal_single (Volatility.causal_overCloses p _)
  | obv => exact Study.causal_single Turnover.causal_onBalance
  | vwap => exact Study.causal_single Turnover.causal_sessionAverage
  | macd fast slow signal =>
    exact ((Study.causal_nil.numbers .histogram (Momentum.causal_macdHistogram fast slow signal)
      ).numbers .signal (Momentum.causal_macdSignal fast slow signal)).numbers .line
        (Momentum.causal_macdLine fast slow signal)
  | bbands p multiple =>
    -- the width is made of two of the other columns
    have upper : Column.Causal fun candles : List (Candle α) =>
        (Volatility.bollinger p multiple candles).upper := Volatility.causal_overCloses p _
    have lower : Column.Causal fun candles : List (Candle α) =>
        (Volatility.bollinger p multiple candles).lower := Volatility.causal_overCloses p _
    exact (((Study.causal_nil.numbers .width (Column.causal_minus upper lower)).numbers .lower
      lower).numbers .middle (Volatility.causal_overCloses p _)).numbers .upper upper
  | stochastic k d =>
    exact (Study.causal_nil.numbers .d (Momentum.causal_stochasticD k d)).numbers .k
      (Momentum.causal_stochasticK k d)
  | supertrend p multiple =>
    exact ((Study.causal_nil.numbers .lower (Volatility.causal_bands p multiple _)).numbers .upper
      (Volatility.causal_bands p multiple _)).numbers .trend (Volatility.causal_bands p multiple _)
  | ichimoku tenkan kijun senkou =>
    have fast := Cloud.causal_midpoint (α := α) tenkan
    have slow := Cloud.causal_midpoint (α := α) kijun
    have spanA := (Column.causal_lag kijun (Scalar.undefined : α)).comp
      (Column.causal_midway fast slow)
    have spanB := (Column.causal_lag kijun (Scalar.undefined : α)).comp
      (Cloud.causal_midpoint senkou)
    exact ((((Study.causal_nil.numbers .chikou (Cloud.causal_closesFrom kijun)).numbers .senkouB
      spanB).numbers .senkouA spanA).numbers .kijun slow).numbers .tenkan fast
  | swingHigh s => exact causal_swingStudy .high s
  | swingLow s => exact causal_swingStudy .low s
  | allTimeHigh => exact Study.causal_single Extreme.causal_allTimeHigh
  | allTimeLow => exact Study.causal_single Extreme.causal_allTimeLow
  | resistanceRay lookback skip => exact causal_rayStudy .resistance lookback skip _
  | supportRay lookback skip => exact causal_rayStudy .support lookback skip _
  | volumeProfile session bins =>
    exact ((Study.causal_nil.numbers .val (causal_levels session bins share _)).numbers .vah
      (causal_levels session bins share _)).numbers .poc (causal_levels session bins share _)

end Indicator

/-- A library's study is the indicator over its bars. -/
theorem Library.content_study (l : Library α) (i : Indicator) : l.content (.study i) =
    i.studyOver l.settings.valueAreaShare l.settings.swingStrength l.market.candles := rfl

end MarketConditions
