import MarketConditions.Proofs.Structure.Peaks
import MarketConditions.Proofs.Indicator.Causal
import MarketConditions.Indicator.Study

/-!
# Rays as they are seen in time

A ray at a bar is drawn through peaks that were confirmed by the end of its window, and
weighs them by their dominance as known at the bar. So the rays at the first bars are
those of the first bars alone.

- `Ray.windowPeaks_within`, `Ray.anchor_within`: the peaks of a window and the outermost
  of them, seen with fewer bars.
- `Ray.chainAt_congr`: what a chain depends on.
- `Ray.chainAt_take`: **the chain at a bar** does not need the bars behind it.
- `Ray.causal_seen`: **rays do not look ahead**, and so do the columns that are made of
  them.
-/

namespace MarketConditions

variable {α : Type} [Scalar α]

namespace Ray

/-- The peaks of a window that ends among the first bars. -/
theorem windowPeaks_within (side : Extremity) (first : Nat) {last k : Nat} (inside : last < k)
    (swings : List (Swing α)) :
    windowPeaks side first last
        ((swings.filter fun x => decide (x.confirmedAt < k)).map (Swing.within k)) =
      (windowPeaks side first last swings).map (Swing.within k) := by
  unfold windowPeaks
  rw [List.filter_map, List.filter_filter]
  congr 2
  funext x
  -- whoever is confirmed by the window's end is confirmed among the first bars
  by_cases due : x.confirmedAt ≤ last
  · have early : decide (x.confirmedAt < k) = true := decide_eq_true (by omega)
    rw [early, Bool.and_true]
    rfl
  · have not_due : decide (x.confirmedAt ≤ last) = false := decide_eq_false due
    show (decide _ && decide _ && decide (x.confirmedAt ≤ last) && _ && _) =
      (decide _ && decide _ && decide (x.confirmedAt ≤ last) && _)
    rw [not_due, Bool.and_false, Bool.false_and, Bool.false_and, Bool.and_false, Bool.false_and]

theorem outranks_within (side : Extremity) {bar k : Nat} (here : bar < k) (peak best : Swing α) :
    outranks side bar (peak.within k) (best.within k) = outranks side bar peak best := by
  unfold outranks
  rw [Swing.dominanceAt_within here, Swing.dominanceAt_within here]
  rfl

/-- The outermost peak is the same one. -/
theorem anchor_within (side : Extremity) {bar k : Nat} (here : bar < k)
    (peaks : List (Swing α)) :
    anchor side bar (peaks.map (Swing.within k)) =
      (anchor side bar peaks).map
        (Prod.map (Swing.within k) (List.map (Swing.within k))) :=
  anchor_map (Swing.within k) (outranks_within side here) peaks

/-- Among the bars there are, a chain depends on the pivots of the outermost peak and of
those after it, and on nothing else. -/
theorem chainAt_congr {kind : RayKind} {lookback skip bar bars bars' : Nat}
    {swings swings' : List (Swing α)} (here : bar < bars) (here' : bar < bars')
    (same : (anchor kind.side bar
        (windowPeaks kind.side (windowStart lookback bar) (bar - skip) swings)).map
          (Prod.map Swing.pivot (List.map Swing.pivot)) =
      (anchor kind.side bar
        (windowPeaks kind.side (windowStart lookback bar) (bar - skip) swings')).map
          (Prod.map Swing.pivot (List.map Swing.pivot))) :
    chainAt kind lookback skip bars swings bar = chainAt kind lookback skip bars' swings' bar := by
  unfold chainAt
  simp only [Nat.not_le.mpr here, Nat.not_le.mpr here', false_or]
  congr 1
  revert same
  generalize anchor kind.side bar
    (windowPeaks kind.side (windowStart lookback bar) (bar - skip) swings) = found
  generalize anchor kind.side bar
    (windowPeaks kind.side (windowStart lookback bar) (bar - skip) swings') = found'
  intro same
  rcases found with _ | ⟨first, later⟩ <;> rcases found' with _ | ⟨first', later'⟩
  case none.none => rfl
  case none.some => cases same
  case some.none => cases same
  case some.some =>
    obtain ⟨pivot, pivots⟩ := Prod.mk.inj (Option.some.inj same)
    have lengths : later.length = later'.length := by
      simpa only [List.length_map] using congrArg List.length pivots
    simp only [Option.map_some, pivot, pivots, lengths]

/-- **The chain at a bar** does not need the bars behind it. -/
theorem chainAt_take (kind : RayKind) (lookback skip s : Nat) {bar k : Nat}
    {candles : List (Candle α)} (here : bar < k) (fits : k ≤ candles.length) :
    chainAt kind lookback skip k (detectSwings s (candles.take k)) bar =
      chainAt kind lookback skip candles.length (detectSwings s candles) bar := by
  refine chainAt_congr here (by omega) ?_
  rw [detectSwings_take s fits, windowPeaks_within _ _ (by omega), anchor_within _ here,
    Option.map_map]
  congr 1
  funext ⟨first, later⟩
  show (first.pivot, (later.map (Swing.within k)).map Swing.pivot) =
    (first.pivot, later.map Swing.pivot)
  rw [List.map_map]
  rfl

/-- What is seen at each bar: the bar, its candle, and the chain. -/
theorem causal_seen (kind : RayKind) (lookback skip s : Nat) :
    Column.Causal fun candles : List (Candle α) => (Column.numbered candles).map fun (bar, c) =>
      (bar, c, chainAt kind lookback skip candles.length (detectSwings s candles) bar) := by
  refine .of_fits (fun candles => ?_) fun k candles fits => ?_
  · rw [List.length_map, Column.length_numbered]
  rw [Column.causal_numbered.take, ← List.map_take, List.length_take, Nat.min_eq_left fits]
  apply List.map_congr_left
  intro (bar, c) hin
  show (bar, c, _) = (bar, c, _)
  rw [chainAt_take kind lookback skip s (Column.mem_take_numbered hin) fits]

/-! ## The columns of a ray -/

theorem causal_price (kind : RayKind) (lookback skip s : Nat) :
    Column.Causal fun candles : List (Candle α) =>
      (rays kind lookback skip candles (detectSwings s candles)).price :=
  (causal_seen kind lookback skip s).map _

theorem causal_slope (kind : RayKind) (lookback skip s : Nat) :
    Column.Causal fun candles : List (Candle α) =>
      (rays kind lookback skip candles (detectSwings s candles)).slope :=
  (causal_seen kind lookback skip s).map _

theorem causal_broken (kind : RayKind) (lookback skip s : Nat) :
    Column.Causal fun candles : List (Candle α) =>
      (rays kind lookback skip candles (detectSwings s candles)).broken :=
  (causal_seen kind lookback skip s).map _

/-- Where the ray begins to be broken. -/
theorem causal_crossed (kind : RayKind) (lookback skip s : Nat) :
    Column.Causal fun candles : List (Candle α) =>
      List.zipWith (fun now before => now && !before)
        (rays kind lookback skip candles (detectSwings s candles)).broken
        (Column.lag 1 false (rays kind lookback skip candles (detectSwings s candles)).broken) :=
  (causal_broken kind lookback skip s).zipWith
    ((Column.causal_lag _ _).comp (causal_broken kind lookback skip s)) _

/-- How far the close is from the ray. -/
theorem causal_distance (kind : RayKind) (lookback skip s : Nat) :
    Column.Causal fun candles : List (Candle α) =>
      List.zipWith rayDistance (closes candles)
        (rays kind lookback skip candles (detectSwings s candles)).price :=
  causal_closes.zipWith (causal_price kind lookback skip s) _

end Ray

end MarketConditions
