import MarketConditions.Proofs.Indicator.Averages

/-!
# Warm-up of the columns

Over bars with real prices every column of an indicator is undefined for a fixed number of
bars and a number from then on. How many bars these are follows from the periods alone.

- `Average.begins_simple`, `Average.begins_weighted`, `Average.begins_exponential`:
  averages, also of columns that have an undefined start themselves.
- `Candle.Priced`: a bar with real prices and a close that is not zero.
- `Extreme.begins_highOf`, `Extreme.begins_lowOf`: extremes of earlier bars.
- `Momentum.begins_rsi`, `Momentum.begins_macdSignal`, `Momentum.begins_stochasticD` and
  so on: where the columns of momentum begin. Of gains and losses it matters that they are
  never below zero.
- `Volatility.begins_averageTrueRange`, `Volatility.begins_bollinger`,
  `Volatility.begins_trend`: where those of volatility begin.
- `Cloud.begins_midpoint`, `Cloud.begins_closesFrom`: what the cloud is made of.
-/

namespace MarketConditions

open Column Exact

/-! ## Averages -/

namespace Average

variable {first p : Nat} {xs : List Exact}

theorem isNumber_mean (some : 1 ≤ xs.length) (all : ∀ x ∈ xs, x.IsNumber) : (mean xs).IsNumber :=
  (IsNumber.sum all).div (isNonneg_ofNat _).isNumber (scalar_ofNat_ne_zero some)

theorem isNonneg_mean (some : 1 ≤ xs.length) (all : ∀ x ∈ xs, x.IsNonneg) : (mean xs).IsNonneg :=
  (IsNonneg.sum all).div (isNonneg_ofNat _) (scalar_ofNat_ne_zero some)

theorem begins_simple (h : Begins first xs) (positive : 1 ≤ p) :
    Begins (first + (p - 1)) (simpleAverage p xs) := (slides_simple h positive).begins positive

theorem begins_weighted (h : Begins first xs) (positive : 1 ≤ p) :
    Begins (first + (p - 1)) (weightedAverage p xs) := (slides_weighted h positive).begins positive

theorem begins_exponential (h : Begins first xs) (positive : 1 ≤ p) :
    Begins (first + (p - 1)) (exponentialAverage p xs) := by
  have nil : (seeded p mean (exponentialNext p) []).map orUndefined = ([] : List Exact) :=
    ((causal_seeded p mean (exponentialNext p)).map orUndefined).nil
  have one := (isNonneg_literal 1).isNumber
  have count := isNonneg_ofNat p
  have share : (2 / (Scalar.ofNat p + 1) : Exact).IsNumber :=
    (isNonneg_literal 2).isNumber.div (count.isNumber.add one)
      (count.add_ne_zero (isNonneg_literal 1) (.inl (scalar_ofNat_ne_zero positive)))
  refine h.afterUndefined nil fun ys all => begins_seeded_self positive (fun long => ?_) ?_
  · refine isNumber_mean ?_ fun y hy => all y (List.mem_of_mem_take hy)
    rw [List.length_take]
    omega
  · intro average held entry here
    exact ((all entry here).mul share).add (held.mul (one.sub share))

end Average

/-! ## Bars with prices -/

/-- A bar with real prices and a close that is not zero. -/
structure Candle.Priced (c : Candle Exact) : Prop where
  high : c.high.IsNumber
  low : c.low.IsNumber
  close : c.close.IsNumber
  nonzero : c.close ≠ 0

variable {candles : List (Candle Exact)}

theorem number_of_highs (priced : ∀ c ∈ candles, c.Priced) : ∀ x ∈ highs candles, x.IsNumber :=
  List.forall_mem_map.mpr fun c hc => (priced c hc).high

theorem number_of_lows (priced : ∀ c ∈ candles, c.Priced) : ∀ x ∈ lows candles, x.IsNumber :=
  List.forall_mem_map.mpr fun c hc => (priced c hc).low

theorem number_of_closes (priced : ∀ c ∈ candles, c.Priced) : ∀ x ∈ closes candles, x.IsNumber :=
  List.forall_mem_map.mpr fun c hc => (priced c hc).close

/-! ## Extremes -/

namespace Extreme

variable {p : Nat} {xs : List Exact}

/-- Of numbers the greater one dominates for a maximum. -/
theorem dominance_max (all : ∀ x ∈ xs, x.IsNumber) :
    Dominance (fun x held => decide (held ≤ x)) xs where
  total x hx y hy := by
    rw [decide_eq_true_iff, decide_eq_true_iff]
    exact (all y hy).le_or_le (all x hx)
  trans x y z hxy hyz := by
    rw [decide_eq_true_iff] at hxy hyz ⊢
    exact Exact.le_trans hyz hxy

/-- The lesser one dominates for a minimum. -/
theorem dominance_min (all : ∀ x ∈ xs, x.IsNumber) :
    Dominance (fun x held => decide (x ≤ held)) xs where
  total x hx y hy := by
    rw [decide_eq_true_iff, decide_eq_true_iff]
    exact (all x hx).le_or_le (all y hy)
  trans x y z hxy hyz := by
    rw [decide_eq_true_iff] at hxy hyz ⊢
    exact Exact.le_trans hxy hyz

theorem begins_rollingMax (positive : 1 ≤ p) (all : ∀ x ∈ xs, x.IsNumber) :
    Begins (p - 1) (rollingMax p xs) := begins_rolling (dominance_max all) positive all

theorem begins_rollingMin (positive : 1 ≤ p) (all : ∀ x ∈ xs, x.IsNumber) :
    Begins (p - 1) (rollingMin p xs) := begins_rolling (dominance_min all) positive all

theorem begins_highOf (positive : 1 ≤ p) (priced : ∀ c ∈ candles, c.Priced) :
    Begins p (highOf p candles) := by
  have moved := (begins_rollingMax positive (number_of_highs priced)).lag 1
  rwa [Nat.add_sub_cancel' positive] at moved

theorem begins_lowOf (positive : 1 ≤ p) (priced : ∀ c ∈ candles, c.Priced) :
    Begins p (lowOf p candles) := by
  have moved := (begins_rollingMin positive (number_of_lows priced)).lag 1
  rwa [Nat.add_sub_cancel' positive] at moved

end Extreme

/-! ## Momentum -/

namespace Momentum

variable {p : Nat}

/-- Mean gain and mean loss are not below zero. -/
structure Strength.Sound (s : Strength Exact) : Prop where
  gain : s.gain.IsNonneg
  loss : s.loss.IsNonneg

theorem isNonneg_smoothed (positive : 1 ≤ p) {mean entry : Exact} (held : mean.IsNonneg)
    (enters : entry.IsNonneg) : (smoothed p mean entry).IsNonneg :=
  ((held.mul (isNonneg_ofNat _)).add enters).div (isNonneg_ofNat p) (scalar_ofNat_ne_zero positive)

theorem isNumber_smoothed (positive : 1 ≤ p) {mean entry : Exact} (held : mean.IsNumber)
    (enters : entry.IsNumber) : (smoothed p mean entry).IsNumber :=
  ((held.mul (isNonneg_ofNat _).isNumber).add enters).div (isNonneg_ofNat p).isNumber
    (scalar_ofNat_ne_zero positive)

theorem sound_first (positive : 1 ≤ p) {changes : List Exact}
    (all : ∀ x ∈ changes, x.IsNumber) : (firstStrength p changes).Sound := by
  have count := isNonneg_ofNat p
  have nonzero : (Scalar.ofNat p : Exact) ≠ 0 := scalar_ofNat_ne_zero positive
  have totals : Strength.Sound (changes.foldl (fun s change =>
      if change > 0 then ⟨s.gain + change, s.loss⟩ else ⟨s.gain, s.loss - change⟩) ⟨0, 0⟩) := by
    refine List.foldlRecOn changes _ ⟨isNonneg_literal 0, isNonneg_literal 0⟩ ?_
    intro s held change here
    split
    · rename_i rises
      exact ⟨held.gain.add ((all change here).nonneg rises), held.loss⟩
    · rename_i falls
      exact ⟨held.gain, held.loss.add ((all change here).neg_nonneg falls)⟩
  exact ⟨totals.gain.div count nonzero, totals.loss.div count nonzero⟩

theorem sound_next (positive : 1 ≤ p) {s : Strength Exact} (held : s.Sound) {change : Exact}
    (number : change.IsNumber) : (nextStrength p s change).Sound := by
  refine ⟨isNonneg_smoothed positive held.gain ?_, isNonneg_smoothed positive held.loss ?_⟩
  · split
    · rename_i rises
      exact number.nonneg rises
    · exact isNonneg_literal 0
  · split
    · rename_i falls
      exact number.neg_nonneg (number.not_pos falls)
    · exact isNonneg_literal 0

/-- Without losses the index is 100; with losses its quotients are not by zero. -/
theorem Strength.Sound.index {s : Strength Exact} (sound : s.Sound) : s.index.IsNumber := by
  have hundred := (isNonneg_literal 100).isNumber
  have one := (isNonneg_literal 1).isNumber
  unfold Strength.index
  split
  · exact hundred
  · rename_i losses
    have ratio : (s.gain / s.loss).IsNonneg :=
      sound.gain.div sound.loss (sound.loss.isNumber.ne_zero losses)
    have divisor : 1 + s.gain / s.loss ≠ 0 :=
      (isNonneg_literal 1).add_ne_zero ratio (.inl (literal_ne_zero (Nat.le_refl 1)))
    exact hundred.sub (hundred.div (one.add ratio.isNumber) divisor)

theorem number_of_changes (closing : ∀ x ∈ closes candles, x.IsNumber) :
    ∀ x ∈ changes candles, x.IsNumber := by
  have later : Begins 0 (closes candles).tail :=
    begins_of_numbers fun x hx => closing x (List.mem_of_mem_tail hx)
  exact (later.minus (begins_of_numbers closing)).numbers

/-- What the index is read off, from the first change on. -/
theorem strengths_entry (positive : 1 ≤ p) (closing : ∀ x ∈ closes candles, x.IsNumber) {bar : Nat}
    {o : Option (Strength Exact)}
    (here : (seeded p (firstStrength p) (nextStrength p) (changes candles))[bar]? = some o) :
    bar < p - 1 ∧ o = none ∨ p - 1 ≤ bar ∧ ∃ s, Strength.Sound s ∧ o = some s :=
  have changed := number_of_changes closing
  seeded_entry positive
    (fun _ => sound_first positive fun x hx => changed x (List.mem_of_mem_take hx))
    (fun _ held x hx => sound_next positive held (changed x hx)) here

theorem begins_rsi (positive : 1 ≤ p) (closing : ∀ x ∈ closes candles, x.IsNumber) :
    Begins p (rsi p candles) := by
  have strengths : Begins (p - 1) ((seeded p (firstStrength p) (nextStrength p)
      (changes candles)).map fun s => orUndefined (s.map Strength.index)) :=
    begins_of_options (fun _ _ here => strengths_entry positive closing here)
      fun _ sound => sound.index
  -- there is one change less than there are bars, and one undefined bar is put
  -- before the index
  have moved := strengths.cons.take candles.length
  rwa [Nat.sub_add_cancel positive] at moved

/-- A percentage change from a price that is not zero. -/
theorem isNumber_percentChange {earlier now : Exact} (number : earlier.IsNumber)
    (nonzero : earlier ≠ 0) (later : now.IsNumber) : (percentChange earlier now).IsNumber := by
  unfold percentChange
  rw [if_neg fun zero => nonzero (Exact.beq_iff.mp zero).1]
  exact ((later.sub number).div number nonzero).mul (isNonneg_literal 100).isNumber

theorem begins_roc (positive : 1 ≤ p) (priced : ∀ c ∈ candles, c.Priced) :
    Begins p (roc p candles) := by
  refine .of_entries fun bar y here => ?_
  unfold roc at here
  rw [if_neg (by omega)] at here
  obtain ⟨earlier, now, lagged, present, rfl⟩ := List.getElem?_zipWith_eq_some.mp here
  rw [getElem?_lag] at lagged
  split at lagged
  · split at lagged
    · rename_i early
      cases lagged
      exact .inl ⟨early, rfl⟩
    · rename_i late
      rw [List.getElem?_map, closes, List.getElem?_map] at lagged
      obtain ⟨close, hclose, rfl⟩ := Option.map_eq_some_iff.mp lagged
      obtain ⟨c, hc, rfl⟩ := Option.map_eq_some_iff.mp hclose
      have earlier := priced c (List.mem_of_getElem? hc)
      exact .inr ⟨by omega, isNumber_percentChange earlier.close earlier.nonzero
        (number_of_closes priced now (List.mem_of_getElem? present))⟩
  · cases lagged

theorem isNumber_stochasticPosition {price low high : Exact} (hp : price.IsNumber)
    (hl : low.IsNumber) (hh : high.IsNumber) : (stochasticPosition price low high).IsNumber := by
  have range := hh.sub hl
  have hundred := (isNonneg_literal 100).isNumber
  unfold stochasticPosition
  rw [if_neg (by rw [range.defined]; exact Bool.false_ne_true)]
  split
  · exact (isNonneg_literal 50).isNumber
  · rename_i wide
    exact (hundred.mul (hp.sub hl)).div range (range.ne_zero wide)

/-- What the oscillator is worked out of at a bar. -/
theorem entry_stochasticK {kPeriod dPeriod bar : Nat} {y : Exact}
    (here : (stochastic kPeriod dPeriod candles).k[bar]? = some y) :
    ∃ price low high, (closes candles)[bar]? = some price ∧
      (Extreme.rollingMin kPeriod (lows candles))[bar]? = some low ∧
      (Extreme.rollingMax kPeriod (highs candles))[bar]? = some high ∧
      y = stochasticPosition price low high := by
  obtain ⟨price, ⟨low, high⟩, close, both, rfl⟩ := List.getElem?_zipWith_eq_some.mp here
  obtain ⟨hlow, hhigh⟩ := List.getElem?_zip_eq_some.mp both
  exact ⟨price, low, high, close, hlow, hhigh, rfl⟩

theorem begins_stochasticK {kPeriod : Nat} (positive : 1 ≤ kPeriod) (dPeriod : Nat)
    (high : ∀ x ∈ highs candles, x.IsNumber) (low : ∀ x ∈ lows candles, x.IsNumber)
    (closing : ∀ x ∈ closes candles, x.IsNumber) :
    Begins (kPeriod - 1) (stochastic kPeriod dPeriod candles).k := by
  have mins := Extreme.begins_rollingMin positive low
  have maxs := Extreme.begins_rollingMax positive high
  constructor
  · intro bar y here early
    obtain ⟨price, low, high, -, hlow, hhigh, rfl⟩ := entry_stochasticK here
    rw [mins.before bar low hlow early, maxs.before bar high hhigh early]
    rfl
  · intro bar y here late
    obtain ⟨price, low, high, close, hlow, hhigh, rfl⟩ := entry_stochasticK here
    exact isNumber_stochasticPosition (closing price (List.mem_of_getElem? close))
      (mins.after bar low hlow late) (maxs.after bar high hhigh late)

theorem begins_stochasticD {kPeriod dPeriod : Nat} (positive : 1 ≤ kPeriod)
    (positive' : 1 ≤ dPeriod)
    (high : ∀ x ∈ highs candles, x.IsNumber) (low : ∀ x ∈ lows candles, x.IsNumber)
    (closing : ∀ x ∈ closes candles, x.IsNumber) :
    Begins (kPeriod - 1 + (dPeriod - 1)) (stochastic kPeriod dPeriod candles).d :=
  Average.begins_simple (begins_stochasticK positive dPeriod high low closing) positive'

theorem begins_macdLine {fast slow : Nat} (hfast : 1 ≤ fast) (hslow : 1 ≤ slow) (signal : Nat)
    (priced : ∀ c ∈ candles, c.Priced) :
    Begins (max fast slow - 1) (macd fast slow signal candles).line := by
  have closing := begins_of_numbers (number_of_closes priced)
  have gap := (Average.begins_exponential closing hfast).minus
    (Average.begins_exponential closing hslow)
  rwa [show max (0 + (fast - 1)) (0 + (slow - 1)) = max fast slow - 1 by omega] at gap

theorem begins_macdSignal {fast slow signal : Nat} (hfast : 1 ≤ fast) (hslow : 1 ≤ slow)
    (hsignal : 1 ≤ signal) (priced : ∀ c ∈ candles, c.Priced) :
    Begins (max fast slow - 1 + (signal - 1)) (macd fast slow signal candles).signal :=
  Average.begins_exponential (begins_macdLine hfast hslow signal priced) hsignal

theorem begins_macdHistogram {fast slow signal : Nat} (hfast : 1 ≤ fast) (hslow : 1 ≤ slow)
    (hsignal : 1 ≤ signal) (priced : ∀ c ∈ candles, c.Priced) :
    Begins (max fast slow - 1 + (signal - 1)) (macd fast slow signal candles).histogram := by
  have gap := (begins_macdLine hfast hslow signal priced).minus
    (begins_macdSignal hfast hslow hsignal priced)
  rwa [Nat.max_eq_right (Nat.le_add_right _ _)] at gap

end Momentum

/-! ## Volatility -/

namespace Volatility

variable {p : Nat}

theorem number_of_trueRanges (priced : ∀ c ∈ candles, c.Priced) :
    ∀ x ∈ trueRanges candles, x.IsNumber := by
  refine Begins.numbers (begins_running
    (P := fun _ previous => ∀ close ∈ previous, close.IsNumber) (fun _ h => nomatch h) ?_)
  intro bar previous c here held
  have bounds := priced c (List.mem_of_getElem? here)
  refine ⟨fun close h => ?_, fun early => absurd early (Nat.not_lt_zero bar), fun _ => ?_⟩
  · cases h
    exact bounds.close
  · cases previous with
    | none => exact bounds.high.sub bounds.low
    | some close =>
      have before := held close rfl
      exact ((bounds.high.sub bounds.low).max (bounds.high.sub before).abs).max
        (bounds.low.sub before).abs

theorem begins_averageTrueRange (positive : 1 ≤ p) (priced : ∀ c ∈ candles, c.Priced) :
    Begins (p - 1) (averageTrueRange p candles) := by
  have ranges := number_of_trueRanges priced
  refine begins_seeded_self positive (fun long => ?_) fun mean held range here =>
    Momentum.isNumber_smoothed positive held (ranges range here)
  refine Average.isNumber_mean ?_ fun x hx => ranges x (List.mem_of_mem_take hx)
  rw [List.length_take]
  omega

/-- The squares about a mean have a mean of their own, which is not below zero and so
has a root. -/
theorem isNumber_deviationAbout {mean : Exact} (number : mean.IsNumber) {xs : List Exact}
    (some : 1 ≤ xs.length) (all : ∀ x ∈ xs, x.IsNumber) : (deviationAbout mean xs).IsNumber := by
  refine (Average.isNonneg_mean ?_ ?_).sqrt.isNumber
  · rwa [List.length_map]
  · exact List.forall_mem_map.mpr fun x hx => ((all x hx).sub number).mul_self

theorem begins_deviation (positive : 1 ≤ p) (priced : ∀ c ∈ candles, c.Priced) :
    Begins (p - 1) (deviation p candles) := by
  refine begins_overWindows positive (fun window length all => ?_) (number_of_closes priced)
  exact isNumber_deviationAbout (Average.isNumber_mean (by omega) all) (by omega) all

theorem isNumber_hundredths (n : Nat) : (hundredths n : Exact).IsNumber :=
  (isNonneg_ofNat n).isNumber.div (isNonneg_literal 100).isNumber (literal_ne_zero (by decide))

theorem begins_bollinger (positive : 1 ≤ p) (multiple : Nat) (priced : ∀ c ∈ candles, c.Priced) :
    Begins (p - 1) (bollinger p multiple candles).upper ∧
      Begins (p - 1) (bollinger p multiple candles).middle ∧
      Begins (p - 1) (bollinger p multiple candles).lower := by
  have closing := number_of_closes priced
  have mean : ∀ window : List Exact, window.length = p → (∀ x ∈ window, x.IsNumber) →
      (Average.mean window).IsNumber := fun window length all =>
    Average.isNumber_mean (by omega) all
  have reach : ∀ window : List Exact, window.length = p → (∀ x ∈ window, x.IsNumber) →
      (hundredths multiple * deviationAbout (Average.mean window) window).IsNumber :=
    fun window length all => (isNumber_hundredths multiple).mul
      (isNumber_deviationAbout (mean window length all) (by omega) all)
  exact ⟨begins_overWindows positive (fun w h all => (mean w h all).add (reach w h all)) closing,
    begins_overWindows positive mean closing,
    begins_overWindows positive (fun w h all => (mean w h all).sub (reach w h all)) closing⟩

/-! ### Trend bands -/

/-- Bands that are numbers. -/
structure TrendBands.Numeric (t : TrendBands Exact) : Prop where
  trend : t.trend.IsNumber
  upper : t.upper.IsNumber
  lower : t.lower.IsNumber

theorem numeric_bandsAround {distance : Exact} (number : distance.IsNumber) {c : Candle Exact}
    (priced : c.Priced) : (bandsAround distance c).Numeric := by
  have middle : ((c.high + c.low) / 2).IsNumber := (priced.high.add priced.low).div
    (isNonneg_literal 2).isNumber (literal_ne_zero (by decide))
  exact ⟨(isNonneg_literal 1).isNumber, middle.add number, middle.sub number⟩

/-- A band is the old one or a fresh one, whatever the closes are. -/
theorem TrendBands.Numeric.follow {t fresh : TrendBands Exact} (held : t.Numeric)
    (news : fresh.Numeric) (previousClose close : Exact) :
    (Volatility.follow t fresh previousClose close).Numeric := by
  have one := (isNonneg_literal 1).isNumber
  exact ⟨one.neg.ite (one.ite held.trend), news.upper.ite held.upper, news.lower.ite held.lower⟩

/-- There are bands from the first bar on at which there is a reach. -/
theorem trendBands_entry {multiple : Exact} (number : multiple.IsNumber) {first : Nat}
    {entries : List (TrendEntry Exact)}
    (told : ∀ (bar : Nat) e, entries[bar]? = some e → (bar < first → e.reach = .undefined) ∧
      (first ≤ bar → e.reach.IsNumber) ∧ e.candle.Priced) {bar : Nat}
    {o : Option (TrendBands Exact)} (here : (trendBands multiple entries)[bar]? = some o) :
    bar < first ∧ o = none ∨ first ≤ bar ∧ ∃ t : TrendBands Exact, t.Numeric ∧ o = some t := by
  induction entries generalizing first bar with
  | nil => cases here
  | cons e es ih =>
    obtain ⟨undefined, defined, priced⟩ := told 0 e rfl
    cases first with
    | zero =>
      -- every entry has a reach, so the bands are updates of those of the first one
      have reach : ∀ x ∈ e :: es, (bandsAround (multiple * x.reach) x.candle).Numeric := by
        intro x hx
        obtain ⟨i, at_i⟩ := List.mem_iff_getElem?.mp hx
        obtain ⟨-, number', priced'⟩ := told i x at_i
        exact numeric_bandsAround (number.mul (number' (Nat.zero_le i))) priced'
      have there : ¬ Scalar.isUndefined e.reach = true := by
        rw [(defined (Nat.le_refl 0)).defined]
        exact Bool.false_ne_true
      rw [trendBands_of_defined _ there] at here
      obtain ⟨t, ht, rfl⟩ := List.mem_map.mp (List.mem_of_getElem? here)
      refine .inr ⟨Nat.zero_le bar, t, ?_, rfl⟩
      exact mem_updates (P := TrendBands.Numeric) (reach e List.mem_cons_self)
        (fun t ht x hx => ht.follow (reach x (List.mem_cons_of_mem e hx)) _ _) ht
    | succ first =>
      rw [trendBands_of_undefined _ (isUndefined_iff.mpr (undefined (Nat.succ_pos first)))] at here
      cases bar with
      | zero => exact .inl ⟨Nat.succ_pos first, (Option.some.inj here).symm⟩
      | succ bar =>
        have later : ∀ (bar : Nat) e, es[bar]? = some e → (bar < first → e.reach = .undefined) ∧
            (first ≤ bar → e.reach.IsNumber) ∧ e.candle.Priced := by
          intro bar e here
          obtain ⟨before, after, priced⟩ := told (bar + 1) e here
          exact ⟨fun h => before (by omega), fun h => after (by omega), priced⟩
        rcases ih later here with ⟨early, none⟩ | ⟨late, some⟩
        · exact .inl ⟨by omega, none⟩
        · exact .inr ⟨by omega, some⟩

/-- A column of the bands begins with the average true range. -/
theorem begins_trend (positive : 1 ≤ p) (multiple : Nat) (priced : ∀ c ∈ candles, c.Priced)
    {f : TrendBands Exact → Exact} (numbers : ∀ t : TrendBands Exact, t.Numeric → (f t).IsNumber) :
    Begins (p - 1) ((trendBands (hundredths multiple) (List.zipWith
      (fun (reach, c) previous => (⟨reach, c, previous⟩ : TrendEntry Exact))
      ((averageTrueRange p candles).zip candles)
      (Column.lag 1 Scalar.undefined (closes candles)))).map fun s => orUndefined (s.map f)) := by
  have ranges := begins_averageTrueRange positive priced
  have told : ∀ (bar : Nat) e, (List.zipWith
      (fun (reach, c) previous => (⟨reach, c, previous⟩ : TrendEntry Exact))
      ((averageTrueRange p candles).zip candles)
      (Column.lag 1 Scalar.undefined (closes candles)))[bar]? = some e →
      (bar < p - 1 → e.reach = .undefined) ∧ (p - 1 ≤ bar → e.reach.IsNumber) ∧
        e.candle.Priced := by
    intro bar e here
    obtain ⟨⟨reach, c⟩, previous, both, -, rfl⟩ := List.getElem?_zipWith_eq_some.mp here
    obtain ⟨hreach, hc⟩ := List.getElem?_zip_eq_some.mp both
    exact ⟨ranges.before bar reach hreach, ranges.after bar reach hreach,
      priced c (List.mem_of_getElem? hc)⟩
  exact begins_of_options
    (fun _ _ here => trendBands_entry (isNumber_hundredths multiple) told here) numbers

end Volatility

/-! ## The cloud -/

namespace Cloud

variable {p : Nat}

theorem begins_midpoint (positive : 1 ≤ p) (priced : ∀ c ∈ candles, c.Priced) :
    Begins (p - 1) (midpoint p candles) := by
  have both := (Extreme.begins_rollingMax positive (number_of_highs priced)).midway
    (Extreme.begins_rollingMin positive (number_of_lows priced))
  rwa [Nat.max_self] at both

theorem begins_closesFrom (p : Nat) (priced : ∀ c ∈ candles, c.Priced) :
    Begins p (closesFrom p candles) := by
  refine .of_entries fun bar y here => ?_
  unfold closesFrom at here
  rw [List.getElem?_map, getElem?_numbered, Option.map_map] at here
  obtain ⟨close, present, rfl⟩ := Option.map_eq_some_iff.mp here
  rcases Nat.lt_or_ge bar p with early | late
  · exact .inl ⟨early, if_neg (by omega)⟩
  · refine .inr ⟨late, ?_⟩
    show Exact.IsNumber (if bar ≥ p then close else _)
    rw [if_pos late]
    exact number_of_closes priced close (List.mem_of_getElem? present)

end Cloud

end MarketConditions
