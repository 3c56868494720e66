import MarketConditions.Proofs.Indicator.Warmup
import MarketConditions.Proofs.Indicator.Extremes
import MarketConditions.Proofs.Market.Cut

/-!
# Oscillators stay in bounds

Over bars that close within their range the relative strength index and the stochastic
oscillator lie between 0 and 100: the index, as mean gain and mean loss are never below
zero, and the oscillator, as the extremes of the last bars have the close between them. A
mean of such values is between 0 and 100 as well.

- `Average.averages_by_formula`: **moving averages are their formulas**, so the average of
  the oscillator is the mean of its last values.
- `Candle.Enclosed`: a bar that closes within its range.
- `Momentum.Strength.Sound.isPercentage`, `Momentum.isPercentage_stochasticPosition`:
  **one value**.
- `Extreme.rollingMin_le`, `Extreme.le_rollingMax`: rolling extremes bound the
  entry at their bar.
- `Momentum.range_at`: **the range of the last bars** has the close within.
- `Momentum.Oscillates`: a column between 0 and 100; `Momentum.oscillates_rsi`,
  `Momentum.oscillates_stochasticK`, `Momentum.Oscillates.average`: **the columns**.
- `Momentum.oscillators_in_bounds`: all of them.
-/

namespace MarketConditions

open Column Exact

/-! ## Averages, and that of the oscillator -/

namespace Average

/-- **Moving averages are their formulas.** Take a period of at least 1 and a column
whose undefined entries are a start of some length. Both averages are undefined until as
many entries as the period are there behind the start, and from then on the plain and
the weighted mean of so many last ones. So the average of the stochastic oscillator is
the plain mean of the last values of the oscillator wherever those are all defined, if
undefined values of the oscillator are only at its start; which is so over bars with
real prices. -/
theorem averages_by_formula (p : ℕ) (positive : 1 ≤ p) :
    (∀ start xs, Begins start xs → Slides start p (plainMean p) xs (simpleAverage p xs) ∧
      Slides start p (weightedMean p) xs (weightedAverage p xs)) ∧
    ∀ (kPeriod : ℕ) (candles : List (Candle Exact)), let s := Momentum.stochastic kPeriod p candles
      ((∃ start, Begins start s.k) → ∀ bar < candles.length, p ≤ bar + 1 →
        (∀ x ∈ Extreme.windowAt p bar s.k, Scalar.isUndefined x = false) →
        s.d[bar]? = some (number (plainMean p (lastOf (realAt s.k) p (bar + 1))))) ∧
      (1 ≤ kPeriod → (∀ x ∈ highs candles, x.IsNumber) → (∀ x ∈ lows candles, x.IsNumber) →
        (∀ x ∈ closes candles, x.IsNumber) → Begins (kPeriod - 1) s.k) := by
  refine ⟨fun start xs begins =>
    ⟨slides_simple begins positive, slides_weighted begins positive⟩, ?_⟩
  intro kPeriod candles s
  refine ⟨?_, fun long high low closing => Momentum.begins_stochasticK long p high low closing⟩
  rintro ⟨start, begins⟩ bar inside full defined
  rw [← (Momentum.causal_stochasticK kPeriod p).length candles] at inside
  exact (slides_simple begins positive).full bar inside
    (behind_start begins inside positive full defined)

/-- A column with an undefined entry before its first number, and three bars at
rising prices. -/
theorem averages_by_formula_two :
    let xs : List Exact := [.undefined, 1, 2, 4]
    let candles : List (Candle Exact) :=
      [.still (.ofMillis 0) 1, .still (.ofMillis 60000) 2, .still (.ofMillis 120000) 4]
    let s := Momentum.stochastic 2 2 candles
    (1 ≤ 2 ∧ Begins 1 xs) ∧
    (Slides 1 2 (plainMean 2) xs (simpleAverage 2 xs) ∧
      Slides 1 2 (weightedMean 2) xs (weightedAverage 2 xs)) ∧
    ((simpleAverage 2 xs)[3]? = some (number 3) ∧
      (weightedAverage 2 xs)[3]? = some (number (10 / 3))) ∧
    Begins 1 s.k ∧ (∀ x ∈ Extreme.windowAt 2 2 s.k, Scalar.isUndefined x = false) ∧
    s.d[2]? = some (number (plainMean 2 (lastOf (realAt s.k) 2 3))) := by
  intro xs candles s
  have prices : ∀ x ∈ [(1 : Exact), 2, 4], x.IsNumber := isNumber_literals [1, 2, 4]
  have begins : Begins 1 xs := (begins_of_numbers prices).cons
  obtain ⟨averages, oscillator⟩ := averages_by_formula 2 (by decide)
  obtain ⟨simple, weighted⟩ := averages 1 xs begins
  have rises : Begins 1 s.k := (oscillator 2 candles).2 (by decide) prices prices prices
  have defined : ∀ x ∈ Extreme.windowAt 2 2 s.k, Scalar.isUndefined x = false := by
    intro x hx
    obtain ⟨i, here, -, late⟩ := Extreme.mem_windowAt.mp hx
    exact (rises.after i x here (by omega)).defined
  refine ⟨⟨by decide, begins⟩, averages 1 xs begins, ⟨?_, ?_⟩, rises, defined,
    (oscillator 2 candles).1 ⟨1, rises⟩ 2 (by decide) (by decide) defined⟩
  · rw [simple.full 3 (by decide) (by decide)]
    congr 2
    simp [plainMean, plainTotal, Finset.sum_range_succ, lastOf, realAt, orUndefined, xs]
    norm_num
  · rw [weighted.full 3 (by decide) (by decide)]
    congr 2
    simp [weightedMean, weightedTotal, Finset.sum_range_succ, lastOf, realAt, orUndefined, xs]
    norm_num

end Average

/-! ## Bars and single values -/

/-- A bar with real prices that closes within its range. -/
structure Candle.Enclosed (c : Candle Exact) : Prop where
  high : c.high.IsNumber
  low : c.low.IsNumber
  close : c.close.IsNumber
  above : c.low ≤ c.close
  below : c.close ≤ c.high

/-- A bar at a single price. -/
theorem Candle.enclosed_still (time : Instant) {price : Exact} (number : price.IsNumber) :
    (Candle.still time price).Enclosed :=
  ⟨number, number, number, (number.le_or_le number).elim id id, (number.le_or_le number).elim id id⟩

/-- Between 0 and 100. -/
def Exact.IsPercentage (x : Exact) : Prop := 0 ≤ x ∧ x ≤ 100

theorem Exact.isPercentage_number {r : ℝ} : IsPercentage (number r) ↔ 0 ≤ r ∧ r ≤ (100 : ℕ) := by
  unfold IsPercentage
  rw [ofNat_eq, ofNat_eq, number_le_iff, number_le_iff, Nat.cast_zero]

theorem Exact.isPercentage_literal {n : ℕ} (atMost : n ≤ 100) : IsPercentage (OfNat.ofNat n) := by
  rw [ofNat_eq, isPercentage_number]
  exact ⟨n.cast_nonneg, Nat.cast_le.mpr atMost⟩

namespace Momentum

/-- **The index of a strength** is between 0, losses alone, and 100, no losses. -/
theorem Strength.Sound.isPercentage {s : Strength Exact} (sound : s.Sound) :
    IsPercentage s.index := by
  obtain ⟨_, _⟩ := s
  obtain ⟨⟨gain, gained, rfl⟩, ⟨loss, lost, rfl⟩⟩ := sound
  unfold Strength.index
  split
  · exact isPercentage_literal le_rfl
  · rename_i losses
    have divisor : loss ≠ 0 := by
      rintro rfl
      exact losses (by simp)
    have ratio : 1 ≤ 1 + gain / loss := le_add_of_nonneg_right (div_nonneg gained lost)
    have value : (100 - 100 / (1 + number gain / number loss) : Exact) =
        number ((100 : ℕ) - (100 : ℕ) / (1 + gain / loss)) := by
      rw [ofNat_eq, ofNat_eq, Nat.cast_one, number_div _ divisor, number_add,
        number_div _ (by linarith), number_sub]
    refine value ▸ isPercentage_number.mpr ⟨?_, ?_⟩
    · rw [sub_nonneg]
      exact div_le_self (Nat.cast_nonneg _) ratio
    · exact sub_le_self _ (div_nonneg (Nat.cast_nonneg _) (by linarith))

/-- **The position of a price** within a range that has it between its ends. -/
theorem isPercentage_stochasticPosition {price low high : ℝ} (above : low ≤ price)
    (below : price ≤ high) :
    IsPercentage (stochasticPosition (number price) (number low) (number high)) := by
  have defined : ¬ Scalar.isUndefined (number high - number low) = true := by simp
  unfold stochasticPosition
  rw [if_neg defined]
  split
  · exact isPercentage_literal (by decide)
  · rename_i wide
    have range : 0 < high - low := by
      refine lt_of_le_of_ne (by linarith) fun zero => wide ?_
      rw [number_sub, ← zero]
      simp
    have value : (100 * (number price - number low) / (number high - number low) : Exact) =
        number ((100 : ℕ) * (price - low) / (high - low)) := by
      rw [ofNat_eq, number_sub, number_sub, number_mul, number_div _ range.ne']
    refine value ▸ isPercentage_number.mpr ⟨?_, ?_⟩
    · exact div_nonneg (mul_nonneg (Nat.cast_nonneg _) (by linarith)) range.le
    · rw [div_le_iff₀ range]
      exact mul_le_mul_of_nonneg_left (by linarith) (Nat.cast_nonneg _)

end Momentum

/-! ## The range of the last bars -/

namespace Extreme

variable {xs : List Exact} {p bar : ℕ}

/-- A rolling minimum is at most the entry at its bar. -/
theorem rollingMin_le (all : ∀ x ∈ xs, x.IsNumber) (positive : 1 ≤ p) (full : p ≤ bar + 1)
    {x low : Exact} (here : xs[bar]? = some x)
    (shown : (rollingMin p xs)[bar]? = some low) : low ≤ x := by
  have inside := (List.getElem?_eq_some_iff.mp here).1
  obtain ⟨least, -, shown', bounds⟩ :=
    (rolling_rolls (dominance_min all) positive).full bar inside full
  cases shown.symm.trans shown'
  exact of_decide_eq_true (bounds x (mem_windowAt.mpr ⟨bar, here, by omega, by omega⟩))

/-- A rolling maximum is at least that. -/
theorem le_rollingMax (all : ∀ x ∈ xs, x.IsNumber) (positive : 1 ≤ p) (full : p ≤ bar + 1)
    {x high : Exact} (here : xs[bar]? = some x)
    (shown : (rollingMax p xs)[bar]? = some high) : x ≤ high := by
  have inside := (List.getElem?_eq_some_iff.mp here).1
  obtain ⟨greatest, -, shown', bounds⟩ :=
    (rolling_rolls (dominance_max all) positive).full bar inside full
  cases shown.symm.trans shown'
  exact of_decide_eq_true (bounds x (mem_windowAt.mpr ⟨bar, here, by omega, by omega⟩))

end Extreme

namespace Momentum

open Extreme Average

variable {candles : List (Candle Exact)} {bar : ℕ}

theorem number_of_enclosed (enclosed : ∀ c ∈ candles, c.Enclosed) :
    (∀ x ∈ highs candles, x.IsNumber) ∧
    (∀ x ∈ lows candles, x.IsNumber) ∧ (∀ x ∈ closes candles, x.IsNumber) := by
  refine ⟨?_, ?_, ?_⟩ <;> refine List.forall_mem_map.mpr fun c hc => ?_
  · exact (enclosed c hc).high
  · exact (enclosed c hc).low
  · exact (enclosed c hc).close

/-- **The range of the last bars** is undefined while they are too few. From then on it
has the close within, as the least low is at most the low of the bar and the greatest high
at least its high. -/
theorem range_at (enclosed : ∀ c ∈ candles, c.Enclosed) {kPeriod : ℕ} (positive : 1 ≤ kPeriod)
    {price low high : Exact} (close : (closes candles)[bar]? = some price)
    (least : (rollingMin kPeriod (lows candles))[bar]? = some low)
    (greatest : (rollingMax kPeriod (highs candles))[bar]? = some high) :
    low = .undefined ∧ high = .undefined ∨
      ∃ l p h : ℝ, low = number l ∧ price = number p ∧ high = number h ∧ l ≤ p ∧ p ≤ h := by
  obtain ⟨highs', lows', closes'⟩ := number_of_enclosed enclosed
  have mins := begins_rollingMin positive lows'
  have maxs := begins_rollingMax positive highs'
  rcases Nat.lt_or_ge bar (kPeriod - 1) with early | late
  · exact .inl ⟨mins.before bar low least early, maxs.before bar high greatest early⟩
  · have present : ∃ c, candles[bar]? = some c ∧ c.close = price := by
      rwa [closes, List.getElem?_map, Option.map_eq_some_iff] at close
    obtain ⟨c, here, rfl⟩ := present
    have bounds := enclosed c (List.mem_of_getElem? here)
    have lowHere : (lows candles)[bar]? = some c.low := by
      rw [lows, List.getElem?_map, here]
      rfl
    have highHere : (highs candles)[bar]? = some c.high := by
      rw [highs, List.getElem?_map, here]
      rfl
    have above := Exact.le_trans
      (rollingMin_le lows' positive (by omega) lowHere least) bounds.above
    have below := Exact.le_trans bounds.below
      (le_rollingMax highs' positive (by omega) highHere greatest)
    obtain ⟨l, rfl⟩ := mins.after bar low least late
    obtain ⟨h, rfl⟩ := maxs.after bar high greatest late
    obtain ⟨p, closing⟩ := bounds.close
    rw [closing] at above below
    exact .inr ⟨l, p, h, rfl, closing, rfl, above, below⟩

/-! ## The columns -/

/-- A column with a value for each bar, undefined below some bar and between 0 and 100
from it on. -/
structure Oscillates (bars first : ℕ) (xs : List Exact) : Prop where
  length : xs.length = bars
  begins : Begins first xs
  between : ∀ x ∈ xs, Scalar.isUndefined x = false → IsPercentage x

/-- **The relative strength index** stays in bounds. -/
theorem oscillates_rsi (enclosed : ∀ c ∈ candles, c.Enclosed) {p : ℕ} (positive : 1 ≤ p) :
    Oscillates candles.length p (rsi p candles) := by
  have closing := (number_of_enclosed enclosed).2.2
  refine ⟨(causal_rsi p).length candles, begins_rsi positive closing, fun x hx defined => ?_⟩
  rcases List.mem_cons.mp (List.mem_of_mem_take hx) with rfl | later
  · cases defined
  · obtain ⟨o, ho, rfl⟩ := List.mem_map.mp later
    obtain ⟨i, here⟩ := List.mem_iff_getElem?.mp ho
    rcases strengths_entry positive closing here with ⟨-, rfl⟩ | ⟨-, s, sound, rfl⟩
    · cases defined
    · exact sound.isPercentage

/-- **The stochastic oscillator** stays in bounds. -/
theorem oscillates_stochasticK (enclosed : ∀ c ∈ candles, c.Enclosed) {kPeriod : ℕ}
    (positive : 1 ≤ kPeriod) (dPeriod : ℕ) :
    Oscillates candles.length (kPeriod - 1) (stochastic kPeriod dPeriod candles).k := by
  obtain ⟨high, low, closing⟩ := number_of_enclosed enclosed
  have begins := begins_stochasticK positive dPeriod high low closing
  refine ⟨(causal_stochasticK kPeriod dPeriod).length candles, begins, fun y hy defined => ?_⟩
  obtain ⟨bar, here⟩ := List.mem_iff_getElem?.mp hy
  obtain ⟨price, least, greatest, close, hleast, hgreatest, rfl⟩ := entry_stochasticK here
  rcases range_at enclosed positive close hleast hgreatest with
    ⟨rfl, rfl⟩ | ⟨l, p, h, rfl, rfl, rfl, above, below⟩
  · cases defined
  · exact isPercentage_stochasticPosition above below

/-- From the bar where it begins on there is a percentage at each bar. -/
theorem Oscillates.shown {bars first bar : ℕ} {xs : List Exact} (h : Oscillates bars first xs)
    (inside : bar < bars) (late : first ≤ bar) : ∃ x, xs[bar]? = some x ∧ IsPercentage x := by
  rw [← h.length] at inside
  have here : xs[bar]? = some xs[bar] := List.getElem?_eq_getElem inside
  exact ⟨_, here, h.between _ (List.mem_of_getElem? here) (h.begins.after bar _ here late).defined⟩

/-- Each real number of such a column is between 0 and 100. -/
theorem Oscillates.realAt {bars first : ℕ} {xs : List Exact}
    (h : Oscillates bars first xs) (bar : ℕ) :
    0 ≤ realAt xs bar ∧ realAt xs bar ≤ (100 : ℕ) := by
  have zero : (0 : ℝ) ≤ 0 ∧ (0 : ℝ) ≤ (100 : ℕ) := ⟨le_rfl, Nat.cast_nonneg _⟩
  unfold Column.realAt
  cases here : xs[bar]? with
  | none => exact zero
  | some x =>
    cases x with
    | undefined => exact zero
    | infinite s => exact zero
    | number r =>
      exact isPercentage_number.mp (h.between _ (List.mem_of_getElem? here) (isUndefined_number r))

/-- **An average** of such a column is one as well. -/
theorem Oscillates.average {bars first p : ℕ} {xs : List Exact} (h : Oscillates bars first xs)
    (positive : 1 ≤ p) : Oscillates bars (first + (p - 1)) (simpleAverage p xs) := by
  have slides := slides_simple h.begins positive
  refine ⟨slides.length.trans h.length, slides.begins positive, fun x hx defined => ?_⟩
  obtain ⟨bar, here⟩ := List.mem_iff_getElem?.mp hx
  rcases slides.entry here with ⟨-, rfl⟩ | ⟨-, rfl⟩
  · cases defined
  · exact isPercentage_number.mpr (plainMean_between _ _ positive fun j _ => h.realAt _)

/-- **Oscillators stay in bounds.** Take bars that close within their range, and periods
of at least 1. The relative strength index, the stochastic oscillator and its average have
a value for each bar, undefined for as many bars as their periods say and between 0 and
100 from then on. Each value of the oscillator is the position of the close in the range
of the last bars, which is not below zero where it is defined. -/
theorem oscillators_in_bounds (candles : List (Candle Exact))
    (enclosed : ∀ c ∈ candles, c.Enclosed) :
    (∀ p, 1 ≤ p → Oscillates candles.length p (rsi p candles)) ∧
    ∀ kPeriod dPeriod, 1 ≤ kPeriod → 1 ≤ dPeriod → let s := stochastic kPeriod dPeriod candles
      Oscillates candles.length (kPeriod - 1) s.k ∧
      Oscillates candles.length (kPeriod - 1 + (dPeriod - 1)) s.d ∧
      ∀ (bar : ℕ) (y : Exact), s.k[bar]? = some y → ∃ price low high : Exact,
        (closes candles)[bar]? = some price ∧
        (rollingMin kPeriod (lows candles))[bar]? = some low ∧
        (rollingMax kPeriod (highs candles))[bar]? = some high ∧
        y = stochasticPosition price low high ∧
        (Scalar.isUndefined (high - low) = false → 0 ≤ high - low) := by
  refine ⟨fun p positive => oscillates_rsi enclosed positive, ?_⟩
  intro kPeriod dPeriod positive positive' s
  have oscillator := oscillates_stochasticK enclosed positive dPeriod
  refine ⟨oscillator, oscillator.average positive', fun bar y here => ?_⟩
  obtain ⟨price, least, greatest, close, hleast, hgreatest, rfl⟩ := entry_stochasticK here
  refine ⟨price, least, greatest, close, hleast, hgreatest, rfl, fun defined => ?_⟩
  rcases range_at enclosed positive close hleast hgreatest with
    ⟨rfl, rfl⟩ | ⟨l, p, h, rfl, rfl, rfl, above, below⟩
  · cases defined
  · rw [ofNat_eq, number_sub, number_le_iff, Nat.cast_zero, sub_nonneg]
    exact above.trans below

/-- Three bars at single prices, of which the second is the highest. -/
theorem oscillators_in_bounds_three :
    let candles : List (Candle Exact) :=
      [.still .earliest 1, .still .earliest 3, .still .earliest 2]
    let s := stochastic 2 2 candles
    ((∀ c ∈ candles, c.Enclosed) ∧ 1 ≤ 2) ∧
    Oscillates 3 2 (rsi 2 candles) ∧ Oscillates 3 1 s.k ∧ Oscillates 3 2 s.d ∧
    ∃ index k d, ((rsi 2 candles)[2]? = some index ∧ s.k[2]? = some k ∧ s.d[2]? = some d) ∧
      IsPercentage index ∧ IsPercentage k ∧ IsPercentage d := by
  intro candles s
  have enclosed : ∀ c ∈ [(1 : Exact), 3, 2].map (Candle.still .earliest), c.Enclosed :=
    List.forall_mem_map.mpr fun price here =>
      Candle.enclosed_still .earliest (isNumber_literals [1, 3, 2] price here)
  obtain ⟨strength, oscillator⟩ := oscillators_in_bounds candles enclosed
  obtain ⟨position, average, -⟩ := oscillator 2 2 (by decide) (by decide)
  have index := strength 2 (by decide)
  obtain ⟨x, shown, x_bounds⟩ := index.shown (by decide : 2 < 3) (by decide)
  obtain ⟨k, k_shown, k_bounds⟩ := position.shown (by decide : 2 < 3) (by decide)
  obtain ⟨d, d_shown, d_bounds⟩ := average.shown (by decide : 2 < 3) (by decide)
  exact ⟨⟨enclosed, by decide⟩, index, position, average, x, k, d, ⟨shown, k_shown, d_shown⟩,
    x_bounds, k_bounds, d_bounds⟩

end Momentum

end MarketConditions
