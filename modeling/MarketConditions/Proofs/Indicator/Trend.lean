import MarketConditions.Proofs.Indicator.Causal
import MarketConditions.Proofs.Market.Cut

/-!
# Bands that carry a trend

Below the price in a rising trend, and above it in a falling one, runs the band that
carries the trend. It gives way when the close was beyond it at the bar before. While a
trend holds that cannot be, since the trend would have turned there; but the bar at which
a trend begins is not asked on which side of the band it closes. It is the first bar with
bands, or one that leaps over both of them.

- `Column.getElem?_updates_succ`, `Volatility.trendBands_succ`: from the bands at a bar to
  those at the next.
- `TrendBands.follow_lower`, `TrendBands.follow_upper`: **one step** of a band that
  did not give way.
- `Supertrend.Holds`, `Supertrend.Begins`: a trend that holds for two bars, and the first
  bar of a trend.
- `bands_tighten`: **a band only tightens while the trend holds**, but for the bar
  after its first.
- `bands_loosen`: there it may give way.
-/

namespace MarketConditions

variable {α : Type} [Scalar α]

/-- Each value is the one before it, updated by the entry between them. -/
theorem Column.getElem?_updates_succ {β γ : Type} (next : β → γ → β) (s : β)
    (xs : List γ) (i : Nat) : (Column.updates next s xs)[i + 1]? =
      xs[i]?.bind fun x => (Column.updates next s xs)[i]?.map fun v => next v x := by
  induction xs generalizing s i with
  | nil => rfl
  | cons x xs ih =>
    cases i with
    | zero =>
      show (Column.updates next (next s x) xs)[0]? = some (next s x)
      cases xs <;> rfl
    | succ i => exact ih (next s x) i

namespace Volatility

/-- **From bar to bar** the bands follow the price. -/
theorem trendBands_succ {multiple : α} {entries : List (TrendEntry α)} {bar : Nat}
    {t : TrendBands α} {o : Option (TrendBands α)}
    (now : (trendBands multiple entries)[bar]? = some (some t))
    (next : (trendBands multiple entries)[bar + 1]? = some o) :
    ∃ e, entries[bar + 1]? = some e ∧
      o = some (follow t (bandsAround (multiple * e.reach) e.candle) e.previousClose
        e.candle.close) := by
  -- along the undefined reaches; from the first defined one on the bands are updates
  induction entries generalizing bar with
  | nil => cases now
  | cons e es ih =>
    by_cases undefined : Scalar.isUndefined e.reach
    · rw [trendBands_of_undefined _ undefined] at now next
      cases bar with
      | zero => cases now
      | succ bar => exact ih now next
    · rw [trendBands_of_defined _ undefined, List.getElem?_map] at now next
      obtain ⟨t', held, same⟩ := Option.map_eq_some_iff.mp now
      cases same
      rw [Column.getElem?_updates_succ, held] at next
      obtain ⟨v, updated, rfl⟩ := Option.map_eq_some_iff.mp next
      obtain ⟨x, entered, followed⟩ := Option.bind_eq_some_iff.mp updated
      exact ⟨x, entered, followed.symm⟩

/-! ## One step -/

/-- The trend of rising prices. -/
def upwards : α := 1

/-- The trend of falling prices. -/
def downwards : α := -1

/-- The lower band rises or stays, unless the close before was below it. -/
theorem follow_lower {t fresh : TrendBands α} {previousClose : α} (close : α)
    (within : ¬ previousClose < t.lower) :
    (follow t fresh previousClose close).lower = t.lower ∨
      t.lower < (follow t fresh previousClose close).lower := by
  unfold follow
  simp only
  split
  case isTrue moves =>
    rw [Bool.or_eq_true, decide_eq_true_iff, decide_eq_true_iff] at moves
    exact .inr (moves.resolve_right within)
  case isFalse => exact .inl rfl

/-- The upper band falls or stays, unless the close before was above it. -/
theorem follow_upper {t fresh : TrendBands α} {previousClose : α} (close : α)
    (within : ¬ t.upper < previousClose) :
    (follow t fresh previousClose close).upper = t.upper ∨
      (follow t fresh previousClose close).upper < t.upper := by
  unfold follow
  simp only
  split
  case isTrue moves =>
    rw [Bool.or_eq_true, decide_eq_true_iff, decide_eq_true_iff] at moves
    exact .inr (moves.resolve_right within)
  case isFalse => exact .inl rfl

variable {t fresh : TrendBands Float} {previousClose close : Float}

/-- A rising trend that goes on has not closed below its band. -/
theorem within_of_upwards (before : t.trend = upwards)
    (now : (follow t fresh previousClose close).trend = upwards) :
    ¬ close < (follow t fresh previousClose close).lower := by
  intro broken
  have rising : t.trend > Scalar.ofInt 0 := by
    rw [before]
    decide +kernel
  have turns : (follow t fresh previousClose close).trend = downwards :=
    if_pos (Bool.and_eq_true_iff.mpr ⟨decide_eq_true rising, decide_eq_true broken⟩)
  rw [now] at turns
  revert turns
  decide +kernel

/-- A falling trend that goes on has not closed above its band. -/
theorem within_of_downwards (before : t.trend = downwards)
    (now : (follow t fresh previousClose close).trend = downwards) :
    ¬ (follow t fresh previousClose close).upper < close := by
  intro broken
  have falling : t.trend < Scalar.ofInt 0 ∧ ¬ t.trend > Scalar.ofInt 0 := by
    rw [before]
    decide +kernel
  have stays : ¬ (decide (t.trend > Scalar.ofInt 0) &&
      decide (close < (follow t fresh previousClose close).lower)) = true := by
    simp [falling.2]
  have turns : (follow t fresh previousClose close).trend = upwards :=
    (if_neg stays).trans
      (if_pos (Bool.and_eq_true_iff.mpr ⟨decide_eq_true falling.1, decide_eq_true broken⟩))
  rw [now] at turns
  revert turns
  decide +kernel

/-! ## Two bars of a trend -/

/-- The bands at a bar. -/
structure Supertrend.At (s : Supertrend α) (bar : Nat) (t : TrendBands α) : Prop where
  trend : s.trend[bar]? = some t.trend
  upper : s.upper[bar]? = some t.upper
  lower : s.lower[bar]? = some t.lower

/-- A trend at a bar that goes on at the next. -/
structure Supertrend.Holds (s : Supertrend α) (trend : α) (bar : Nat) : Prop where
  here : s.trend[bar]? = some trend
  next : s.trend[bar + 1]? = some trend

/-- The first bar of a trend. At the bar before, if there is one, there was none or
another one. -/
def Supertrend.Begins (s : Supertrend α) (bar : Nat) : Prop :=
  ∀ before, before + 1 = bar → s.trend[before]? ≠ s.trend[bar]?

/-- What the bars bring to the bands. -/
def trendEntries (p : Nat) (candles : List (Candle α)) : List (TrendEntry α) :=
  List.zipWith (fun (reach, c) previous => (⟨reach, c, previous⟩ : TrendEntry α))
    ((averageTrueRange p candles).zip candles) (Column.lag 1 Scalar.undefined (closes candles))

theorem of_getElem?_trendEntries {p bar : Nat} {candles : List (Candle α)} {e : TrendEntry α}
    (here : (trendEntries p candles)[bar]? = some e) :
    candles[bar]? = some e.candle ∧ ∀ before c, before + 1 = bar → candles[before]? = some c →
      e.previousClose = c.close := by
  obtain ⟨⟨reach, candle⟩, previous, both, lagged, rfl⟩ := List.getElem?_zipWith_eq_some.mp here
  refine ⟨(List.getElem?_zip_eq_some.mp both).2, ?_⟩
  rintro before c rfl earlier
  rw [Column.getElem?_lag] at lagged
  split at lagged
  case isFalse => cases lagged
  case isTrue =>
    rw [if_neg (Nat.not_lt.mpr (Nat.le_add_left 1 before)), Nat.add_sub_cancel, closes,
      List.getElem?_map, earlier] at lagged
    exact (Option.some.inj lagged).symm

variable {p multiple bar : Nat} {candles : List (Candle α)} {trend : α}

/-- Where the columns have a trend there are bands. -/
theorem at_of_trend (defined : Scalar.undefined ≠ trend)
    (here : (supertrend p multiple candles).trend[bar]? = some trend) :
    ∃ t, (trendBands (hundredths multiple) (trendEntries p candles))[bar]? = some (some t) ∧
      (supertrend p multiple candles).At bar t ∧ t.trend = trend := by
  have column : ∀ f : TrendBands α → α,
      ((trendBands (hundredths multiple) (trendEntries p candles)).map
        fun t => Column.orUndefined (t.map f))[bar]? =
      (trendBands (hundredths multiple) (trendEntries p candles))[bar]?.map
        fun t => Column.orUndefined (t.map f) := fun f => List.getElem?_map ..
  obtain ⟨o, held, same⟩ := Option.map_eq_some_iff.mp ((column _).symm.trans here)
  cases o with
  | none => exact absurd same defined
  | some t =>
    simp only [held] at column
    exact ⟨t, held, ⟨column _, column _, column _⟩, same⟩

/-- **Two bars of a trend.** The bands at the second follow those at the first, with its
close before them. Those at the first follow bands of the same trend, or the trend
begins there. -/
theorem Supertrend.Holds.followed (defined : Scalar.undefined ≠ trend)
    (holds : (supertrend p multiple candles).Holds trend bar) :
    ∃ c t t', candles[bar]? = some c ∧ (supertrend p multiple candles).At bar t ∧
      (supertrend p multiple candles).At (bar + 1) t' ∧ t.trend = trend ∧
      (∃ fresh close, t' = follow t fresh c.close close) ∧
      ((supertrend p multiple candles).Begins bar ∨ ∃ before fresh previousClose,
        before.trend = trend ∧ t = follow before fresh previousClose c.close) := by
  obtain ⟨t, now, at_bar, ht⟩ := at_of_trend defined holds.here
  obtain ⟨t', next, at_next, -⟩ := at_of_trend defined holds.next
  obtain ⟨e', entered', followed'⟩ := trendBands_succ now next
  obtain ⟨-, previous⟩ := of_getElem?_trendEntries entered'
  obtain ⟨c, here⟩ : ∃ c, candles[bar]? = some c := by
    have inside := (List.getElem?_eq_some_iff.mp (of_getElem?_trendEntries entered').1).1
    exact ⟨_, List.getElem?_eq_getElem (Nat.lt_of_succ_lt inside)⟩
  rw [Option.some_inj, previous bar c rfl here] at followed'
  refine ⟨c, t, t', here, at_bar, at_next, ht, ⟨_, _, followed'⟩, ?_⟩
  cases bar with
  | zero => exact .inl nofun
  | succ before =>
    by_cases same : (supertrend p multiple candles).trend[before]? =
        (supertrend p multiple candles).trend[before + 1]?
    · -- the bar before has the same trend, and its bands are followed by these
      obtain ⟨t₀, held, -, ht₀⟩ := at_of_trend defined (same.trans holds.here)
      obtain ⟨e, entered, followed⟩ := trendBands_succ held now
      have candle : e.candle = c :=
        Option.some.inj ((of_getElem?_trendEntries entered).1.symm.trans here)
      rw [Option.some_inj, candle] at followed
      exact .inr ⟨t₀, _, _, ht₀, followed⟩
    · refine .inl ?_
      rintro _ ⟨⟩
      exact same

/-- **A band only tightens while the trend holds.** From one bar of a trend to the next
its band stays or moves towards the price, unless the trend began at the first of them
with a close beyond the band. -/
theorem bands_tighten (p multiple bar : Nat) (candles : List (Candle Float)) :
    let s := supertrend p multiple candles
    (s.Holds upwards bar → ∃ c t t', candles[bar]? = some c ∧ s.At bar t ∧ s.At (bar + 1) t' ∧
      (t'.lower = t.lower ∨ t.lower < t'.lower ∨ s.Begins bar ∧ c.close < t.lower)) ∧
    (s.Holds downwards bar → ∃ c t t', candles[bar]? = some c ∧ s.At bar t ∧ s.At (bar + 1) t' ∧
      (t'.upper = t.upper ∨ t'.upper < t.upper ∨ s.Begins bar ∧ t.upper < c.close)) := by
  intro s
  constructor
  · intro holds
    obtain ⟨c, t, t', here, now, next, trend, ⟨fresh, close, rfl⟩, began⟩ :=
      holds.followed (by decide +kernel)
    refine ⟨c, t, _, here, now, next, ?_⟩
    by_cases broken : c.close < t.lower
    · rcases began with begins | ⟨before, fresh, previousClose, same, rfl⟩
      · exact .inr (.inr ⟨begins, broken⟩)
      · exact absurd broken (within_of_upwards same trend)
    · rw [← or_assoc]
      exact .inl (follow_lower close broken)
  · intro holds
    obtain ⟨c, t, t', here, now, next, trend, ⟨fresh, close, rfl⟩, began⟩ :=
      holds.followed (by decide +kernel)
    refine ⟨c, t, _, here, now, next, ?_⟩
    by_cases broken : t.upper < c.close
    · rcases began with begins | ⟨before, fresh, previousClose, same, rfl⟩
      · exact .inr (.inr ⟨begins, broken⟩)
      · exact absurd broken (within_of_downwards same trend)
    · rw [← or_assoc]
      exact .inl (follow_upper close broken)

/-- A rising trend over three bars. -/
theorem bands_tighten_rising :
    let candles : List (Candle Float) := [100, 101, 102, 103, 104].map (.still .earliest)
    let s := supertrend 3 200 candles
    s.Holds upwards 3 ∧ s.lower[3]? ≠ s.lower[4]? ∧
    ∃ c t t', candles[3]? = some c ∧ s.At 3 t ∧ s.At 4 t' ∧
      (t'.lower = t.lower ∨ t.lower < t'.lower ∨ s.Begins 3 ∧ c.close < t.lower) := by
  intro candles s
  have holds : s.Holds upwards 3 := ⟨by decide +kernel, by decide +kernel⟩
  exact ⟨holds, by decide +kernel, (bands_tighten 3 200 3 candles).1 holds⟩

/-- The lower band falls although the trend is a rising one at both bars: after the first
bar with bands, and after one that closes above the upper band and below the lower. -/
theorem bands_loosen :
    let bar (high low close : Float) : Candle Float :=
      { Candle.still .earliest close with high, low }
    let first := [bar 100 100 100, bar 100 100 100, bar 100 100 100, bar 120 100 100,
      bar 110 100 108]
    let leap := [bar 100 100 100, bar 100 100 100, bar 100 100 100, bar 100 100 100, bar 84 84 84,
      bar 126 86 90, bar 104 96 103]
    (∀ c ∈ first ++ leap, c.low ≤ c.close ∧ c.close ≤ c.high) ∧
    ((supertrend 4 100 first).Holds upwards 3 ∧
      (supertrend 4 100 first).lower.drop 3 = [105, 98.75]) ∧
    ((supertrend 4 100 leap).Holds upwards 5 ∧
      (supertrend 4 100 leap).lower.drop 5 = [92.5, 86.375]) ∧
    ¬ ∀ (p multiple : Nat) (candles : List (Candle Float)), 1 ≤ p →
      (∀ c ∈ candles, c.low ≤ c.close ∧ c.close ≤ c.high) →
      ∀ bar lower lower', (supertrend p multiple candles).Holds upwards bar →
        (supertrend p multiple candles).lower[bar]? = some lower →
        (supertrend p multiple candles).lower[bar + 1]? = some lower' → lower ≤ lower' := by
  intro bar first leap
  have sound : ∀ c ∈ first ++ leap, c.low ≤ c.close ∧ c.close ≤ c.high := by decide +kernel
  have held : (supertrend 4 100 first).Holds upwards 3 := ⟨by decide +kernel, by decide +kernel⟩
  have leapt : (supertrend 4 100 leap).Holds upwards 5 := ⟨by decide +kernel, by decide +kernel⟩
  have falls : (supertrend 4 100 first).lower.drop 3 = [105, 98.75] := by decide +kernel
  refine ⟨sound, ⟨held, falls⟩, ⟨leapt, by decide +kernel⟩, ?_⟩
  intro tightens
  have kept : (105 : Float) ≤ 98.75 :=
    tightens 4 100 first (by decide) (fun c hc => sound c (List.mem_append_left _ hc)) 3 _ _ held
      (by decide +kernel) (by decide +kernel)
  revert kept
  decide +kernel

end Volatility

end MarketConditions
