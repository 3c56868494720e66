import Mathlib.Algebra.BigOperators.Group.List.Basic
import MarketConditions.Indicator.Turnover
import MarketConditions.Proofs.Indicator.Causal
import MarketConditions.Proofs.Scalar.Totals
import MarketConditions.Proofs.Market.Cut

/-!
# Absorption against the mean of the bars before

Heavy volume is measured against the mean volume of the bars before. Their total is
carried along: a bar is compared with it first, then joins it, and the oldest bar leaves
once there are enough. In exact arithmetic the total at a bar is that of the bars looked
back on, and of no other.

- `Turnover.meanBefore`: the mean volume of the bars before a bar;
  `Turnover.meanBefore_modify`: **the volume of the bar itself is no part of it**.
- `Turnover.carriedTotal`: the total that is carried, as a difference of totals from the
  first bar on; `Turnover.absorptionStep_total`: **one bar further**,
  `Turnover.stateAfter_absorption`: **the run**.
- `Turnover.Absorbed`: what heavy volume without progress is; `Turnover.absorbs_iff`:
  the test for it.
- `Turnover.absorption_against_mean`: **where a bar is flagged**.
-/

namespace MarketConditions

open Column Exact

namespace Turnover

variable {candles : List (Candle Exact)} {lookback : ℕ}

/-! ## The bars before -/

/-- The volumes of some bars as real numbers. -/
noncomputable def realVolumes (candles : List (Candle Exact)) : List ℝ :=
  candles.map fun c => c.volume.real

/-- The mean volume of the bars before a bar, as many of them as are looked back on. -/
noncomputable def meanBefore (lookback : ℕ) (candles : List (Candle Exact)) (bar : ℕ) : ℝ :=
  (realVolumes ((candles.take bar).drop (bar - lookback))).sum / lookback

/-- **The volume of a bar is no part of the mean** that it is measured against. -/
theorem meanBefore_modify (lookback : ℕ) (candles : List (Candle Exact)) (bar : ℕ)
    (change : Candle Exact → Candle Exact) :
    meanBefore lookback (candles.modify bar change) bar = meanBefore lookback candles bar := by
  unfold meanBefore
  rw [List.take_modify, List.modify_eq_self (by rw [List.length_take]; omega)]

/-- The total of a run of entries is the difference of two totals from the first entry
on. -/
theorem sum_run (xs : List ℝ) {first last : ℕ} (ordered : first ≤ last) :
    ((xs.take last).drop first).sum = (xs.take last).sum - (xs.take first).sum := by
  have parts := List.sum_take_add_sum_drop (xs.take last) first
  rw [List.take_take, Nat.min_eq_left ordered] at parts
  linarith

theorem sum_take_succ {bar : ℕ} {c : Candle Exact} (here : candles[bar]? = some c) :
    ((realVolumes candles).take (bar + 1)).sum =
      ((realVolumes candles).take bar).sum + c.volume.real := by
  unfold realVolumes
  rw [List.take_add_one, List.getElem?_map, here, Option.map_some, Option.toList_some,
    List.sum_append, List.sum_singleton]

/-! ## The total that is carried -/

/-- Each bar beside the volume that leaves the total when it has joined. -/
def withLeavingVolume (lookback : ℕ) (candles : List (Candle Exact)) :
    List (Candle Exact × Option Exact) :=
  candles.zip (lag lookback none (candles.map fun c => some c.volume))

theorem getElem?_withLeavingVolume (lookback : ℕ) (candles : List (Candle Exact)) (bar : ℕ) :
    (withLeavingVolume lookback candles)[bar]? = candles[bar]?.map fun c =>
      (c, if bar < lookback then none else candles[bar - lookback]?.map Candle.volume) := by
  unfold withLeavingVolume
  rw [List.zip, List.getElem?_zipWith, getElem?_lag, List.length_map]
  cases here : candles[bar]? with
  | none => rfl
  | some c =>
    have inside := (List.getElem?_eq_some_iff.mp here).1
    have leaves : candles[bar - lookback]? = some candles[bar - lookback] :=
      List.getElem?_eq_getElem (by omega)
    rw [if_pos inside]
    by_cases filling : bar < lookback <;> simp [filling, leaves]

/-- The total of the bars looked back on, as a difference of totals from the
first bar on. -/
noncomputable def carriedTotal (lookback : ℕ) (candles : List (Candle Exact)) (bar : ℕ) : ℝ :=
  ((realVolumes candles).take bar).sum - ((realVolumes candles).take (bar - lookback)).sum

theorem carriedTotal_eq (lookback : ℕ) (candles : List (Candle Exact)) (bar : ℕ) :
    carriedTotal lookback candles bar =
      (realVolumes ((candles.take bar).drop (bar - lookback))).sum := by
  unfold carriedTotal realVolumes
  rw [List.map_drop, List.map_take, sum_run _ (Nat.sub_le ..)]

/-- **One bar further** the bar has joined the total, and the oldest one left it if there
are enough. -/
theorem absorptionStep_total (ratio percent : Exact) (numbers : ∀ c ∈ candles, c.volume.IsNumber)
    {bar : ℕ} {entry : Candle Exact × Option Exact}
    (here : (withLeavingVolume lookback candles)[bar]? = some entry) :
    (absorptionStep lookback ratio percent (number (carriedTotal lookback candles bar)) entry).1 =
      number (carriedTotal lookback candles (bar + 1)) := by
  rw [getElem?_withLeavingVolume] at here
  obtain ⟨c, joining, rfl⟩ := Option.map_eq_some_iff.mp here
  have isNumber := (numbers c (List.mem_of_getElem? joining)).number_real
  have joined := sum_take_succ joining
  unfold carriedTotal
  by_cases filling : bar < lookback
  · -- no bar leaves yet, and none is left out of the difference
    rw [if_pos filling, Nat.sub_eq_zero_of_le filling.le, Nat.sub_eq_zero_of_le filling, joined]
    show number _ + c.volume = _
    rw [← isNumber, number_add, real_number]
    congr 1
    ring
  · have inside := (List.getElem?_eq_some_iff.mp joining).1
    have leaving : candles[bar - lookback]? = some candles[bar - lookback] :=
      List.getElem?_eq_getElem (by omega)
    have isNumber' := (numbers _ (List.mem_of_getElem? leaving)).number_real
    have left := sum_take_succ leaving
    rw [if_neg filling, leaving, joined, Nat.sub_add_comm (Nat.le_of_not_lt filling), left]
    show number _ + c.volume - candles[bar - lookback].volume = _
    rw [← isNumber, ← isNumber', number_add, number_sub, real_number, real_number]
    congr 1
    ring

/-- **The total behind some bars** is that of the bars looked back on. -/
theorem stateAfter_absorption (lookback : ℕ) (ratio percent : Exact)
    (numbers : ∀ c ∈ candles, c.volume.IsNumber) :
    stateAfter (absorptionStep lookback ratio percent) 0 (withLeavingVolume lookback candles) =
      number (carriedTotal lookback candles candles.length) := by
  have length : (withLeavingVolume lookback candles).length = candles.length := by
    simp [withLeavingVolume]
  have first : (0 : Exact) = number (carriedTotal lookback candles 0) := by simp [carriedTotal]
  have held := stateAfter_induction
    (P := fun bar total => total = number (carriedTotal lookback candles bar))
    first (fun bar total entry here held =>
      held ▸ absorptionStep_total ratio percent numbers here) length.ge
  rwa [← length, List.take_length, length] at held

/-! ## The flag -/

theorem getElem?_absorption (positive : 1 ≤ lookback) (ratio percent : Exact) {bar : ℕ}
    {c : Candle Exact} (here : candles[bar]? = some c)
    (numbers : ∀ b ∈ candles.take bar, b.volume.IsNumber) :
    (absorption lookback ratio percent candles)[bar]? = some
      (decide (lookback ≤ bar) && absorbs ratio percent
        (number (meanBefore lookback candles bar)) c) := by
  have inside := (List.getElem?_eq_some_iff.mp here).1
  have count : (lookback : ℝ) ≠ 0 := Nat.cast_ne_zero.mpr (by omega)
  -- the total that the bar meets is the one behind the bars before, who see nothing of it
  have first : (withLeavingVolume lookback candles).take bar =
      withLeavingVolume lookback (candles.take bar) :=
    ((causal_self.zip ((causal_lag _ _).comp (causal_self.map _))).take bar candles).symm
  have total : stateAfter (absorptionStep lookback ratio percent) 0
      ((withLeavingVolume lookback candles).take bar) =
      number (realVolumes ((candles.take bar).drop (bar - lookback))).sum := by
    rw [first, stateAfter_absorption lookback ratio percent numbers, carriedTotal_eq,
      List.length_take, Nat.min_eq_left inside.le, List.take_take, Nat.min_self]
  unfold absorption
  rw [if_neg (by omega)]
  show (running _ 0 (withLeavingVolume lookback candles))[bar]? = _
  rw [getElem?_running, getElem?_withLeavingVolume, here, Option.map_some, Option.map_some, total]
  by_cases filling : bar < lookback
  · rw [if_pos filling, decide_eq_false (by omega), Bool.false_and]
    rfl
  · have leaving : candles[bar - lookback]? = some candles[bar - lookback] :=
      List.getElem?_eq_getElem (by omega)
    rw [if_neg filling, leaving, decide_eq_true (Nat.le_of_not_lt filling),
      Bool.true_and, meanBefore, ← number_div _ count, ← scalar_ofNat]
    rfl

/-- Heavy volume without progress: at least `ratio` times the mean, which is above zero,
while the close is less than `percent` percent of the open away from it. -/
structure Absorbed (ratio percent : Exact) (mean : ℝ) (opening close volume : Exact) : Prop where
  traded : 0 < mean
  heavy : ratio * number mean ≤ volume
  priced : opening ≠ 0
  still : number (|close.real - opening.real| / |opening.real| * 100) < percent

theorem bodyPercent_of_zero {c : Candle Exact} (zero : c.opening = 0) :
    bodyPercent c = .undefined := by
  have equal : (c.opening == 0) = true := by
    rw [zero, ofNat_eq]
    exact (number_beq_iff ..).mpr rfl
  exact if_pos equal

theorem bodyPercent_of_ne {c : Candle Exact} (opening : c.opening.IsNumber)
    (close : c.close.IsNumber) (priced : c.opening ≠ 0) :
    bodyPercent c = number (|c.close.real - c.opening.real| / |c.opening.real| * 100) := by
  have unequal : ¬ (c.opening == 0) = true := fun equal => priced (beq_iff.mp equal).1
  have literal : (100 : Exact) = number 100 := by
    rw [ofNat_eq]
    norm_num
  unfold bodyPercent
  rw [if_neg unequal]
  obtain ⟨o, ho⟩ := opening
  obtain ⟨x, hx⟩ := close
  rw [ho, ne_eq, number_eq_zero_iff] at priced
  rw [ho, hx, literal, number_sub, number_abs, number_abs, number_div _ (abs_ne_zero.mpr priced),
    number_mul]
  rfl

theorem absorbs_iff {ratio percent : Exact} {mean : ℝ} {c : Candle Exact}
    (opening : c.opening.IsNumber)
    (close : c.close.IsNumber) : absorbs ratio percent (number mean) c = true ↔
      Absorbed ratio percent mean c.opening c.close c.volume := by
  have positive : number mean > 0 ↔ 0 < mean := by
    rw [ofNat_eq, Nat.cast_zero]
    exact number_lt_iff ..
  unfold absorbs
  simp only [Bool.and_eq_true, decide_eq_true_eq, positive]
  constructor
  · rintro ⟨⟨traded, heavy⟩, still⟩
    have priced : c.opening ≠ 0 := by
      intro zero
      rw [bodyPercent_of_zero zero] at still
      exact still.elim
    rw [bodyPercent_of_ne opening close priced] at still
    exact ⟨traded, heavy, priced, still⟩
  · rintro ⟨traded, heavy, priced, still⟩
    rw [bodyPercent_of_ne opening close priced]
    exact ⟨⟨traded, heavy⟩, still⟩

/-- Where a bar is flagged, its own volume being whatever it may. -/
theorem getElem?_absorption_iff (positive : 1 ≤ lookback) (ratio percent : Exact) {bar : ℕ}
    (before : ∀ c ∈ candles.take bar, c.volume.IsNumber)
    (prices : ∀ c, candles[bar]? = some c → c.opening.IsNumber ∧ c.close.IsNumber) :
    (absorption lookback ratio percent candles)[bar]? = some true ↔ ∃ c, candles[bar]? = some c ∧
      lookback ≤ bar ∧ Absorbed ratio percent (meanBefore lookback candles bar)
        c.opening c.close c.volume := by
  cases here : candles[bar]? with
  | none =>
    have outside := (causal_absorption lookback ratio percent).length candles ▸
      List.getElem?_eq_none_iff.mp here
    rw [List.getElem?_eq_none outside]
    simp
  | some c =>
    obtain ⟨opening, close⟩ := prices c here
    rw [getElem?_absorption positive ratio percent here before, Option.some.injEq, Bool.and_eq_true,
      decide_eq_true_eq, absorbs_iff opening close]
    simp

/-- **Absorption is measured against the mean of the bars before.** Take bars with
real prices and volumes, a count of at least 1 to look back, and any ratio and
percentage. A bar is flagged exactly if it has so many bars before it, and has heavy
volume without progress against their mean volume. So if the volume of the bar itself
is changed, to whatever it may be, it is the changed volume that is measured, but
against the same mean. -/
theorem absorption_against_mean (candles : List (Candle Exact))
    (numbers : ∀ c ∈ candles, c.opening.IsNumber ∧ c.close.IsNumber ∧ c.volume.IsNumber)
    {lookback : ℕ} (positive : 1 ≤ lookback) (ratio percent : Exact) (bar : ℕ) :
    let mean := meanBefore lookback candles bar
    ((absorption lookback ratio percent candles)[bar]? = some true ↔
      ∃ c, candles[bar]? = some c ∧ lookback ≤ bar ∧
        Absorbed ratio percent mean c.opening c.close c.volume) ∧
    ∀ volume : Exact, let changed := candles.modify bar ({ · with volume })
      meanBefore lookback changed bar = mean ∧
      ((absorption lookback ratio percent changed)[bar]? = some true ↔
        ∃ c, candles[bar]? = some c ∧ lookback ≤ bar ∧
          Absorbed ratio percent mean c.opening c.close volume) := by
  intro mean
  have volumes : ∀ c ∈ candles.take bar, c.volume.IsNumber := fun c hc =>
    (numbers c (List.mem_of_mem_take hc)).2.2
  have prices : ∀ c, candles[bar]? = some c → c.opening.IsNumber ∧ c.close.IsNumber := fun c here =>
    have numbers := numbers c (List.mem_of_getElem? here)
    ⟨numbers.1, numbers.2.1⟩
  refine ⟨getElem?_absorption_iff positive ratio percent volumes prices, ?_⟩
  intro volume changed
  have same : meanBefore lookback changed bar = mean := meanBefore_modify ..
  have before : changed.take bar = candles.take bar := by
    rw [List.take_modify, List.modify_eq_self (by rw [List.length_take]; omega)]
  have here : changed[bar]? = candles[bar]?.map ({ · with volume }) := List.getElem?_modify_eq ..
  refine ⟨same, ?_⟩
  rw [getElem?_absorption_iff positive ratio percent (before ▸ volumes) ?_, same, here]
  · simp
  · intro c there
    rw [here] at there
    obtain ⟨c, own, rfl⟩ := Option.map_eq_some_iff.mp there
    exact prices c own

/-- Four bars of volume 2 each but the last, which has 6 and does not move. It is flagged
against two bars at a ratio of 3, and no longer with a volume of 5. -/
theorem absorption_against_mean_fourth :
    let bar (volume : Exact) : Candle Exact := { Candle.still (.ofMillis 0) 10 with volume }
    let candles := [bar 2, bar 2, bar 2, bar 6]
    ((∀ c ∈ candles, c.opening.IsNumber ∧ c.close.IsNumber ∧ c.volume.IsNumber) ∧ 1 ≤ 2) ∧
    (absorption 2 3 1 candles)[3]? = some true ∧
    (absorption 2 3 1 (candles.modify 3 ({ · with volume := 5 })))[3]? ≠ some true := by
  intro bar candles
  have numbers : ∀ c ∈ candles, c.opening.IsNumber ∧ c.close.IsNumber ∧ c.volume.IsNumber := by
    have number (n : ℕ) : (OfNat.ofNat n : Exact).IsNumber := (isNonneg_literal n).isNumber
    simp only [candles, List.forall_mem_cons]
    exact ⟨⟨number 10, number 10, number 2⟩, ⟨number 10, number 10, number 2⟩,
      ⟨number 10, number 10, number 2⟩, ⟨number 10, number 10, number 6⟩,
      fun _ none => nomatch none⟩
  obtain ⟨flagged, changed⟩ := @absorption_against_mean candles numbers 2 (by decide) 3 1 3
  have mean : meanBefore 2 candles 3 = 2 := by
    simp [meanBefore, realVolumes, candles, bar]
  refine ⟨⟨numbers, by decide⟩, flagged.mpr ⟨bar 6, rfl, by decide, ?_⟩, fun flagged' => ?_⟩
  · rw [mean]
    constructor <;> simp [bar, Candle.still]
    norm_num
  · obtain ⟨c, own, -, absorbed⟩ := (changed 5).2.mp flagged'
    have heavy := absorbed.heavy
    rw [mean, ofNat_eq, ofNat_eq, number_mul, number_le_iff] at heavy
    norm_num at heavy

end Turnover

end MarketConditions
