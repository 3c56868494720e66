import MarketConditions.Proofs.Indicator.Averages
import MarketConditions.Proofs.Market.Cut

/-!
# The middle band and the simple average

The middle of the bands is the mean of each window, worked out anew at every bar. The
simple average keeps one total along the column. An undefined entry that has been added to
a total does not come off it again, so the two are the same only as long as no undefined
entry comes behind a defined one.

- `Column.Gapped`: an undefined entry behind a defined one; `Column.begins_of_not_gapped`:
  without one the column begins somewhere.
- `Extreme.Complete`: a full window of defined entries; `Volatility.mean_of_complete`,
  `Volatility.mean_of_incomplete`: **the mean of a window, worked out anew**.
- `Volatility.simpleAverage_eq_means`: **without a gap the average is the mean of
  each window**.
- `Average.simpleAverage_gapped`: **behind a gap it is undefined**.
- `Volatility.middle_until_gap`: the two columns at every bar;
  `Volatility.middle_outlives_gap`: where they differ.
-/

namespace MarketConditions

open Column Exact

variable {xs ys : List Exact} {p bar : ℕ}

/-! ## Gaps -/

namespace Column

/-- No entry is infinite. -/
def Finite (xs : List Exact) : Prop := ∀ x ∈ xs, x = .undefined ∨ x.IsNumber

/-- An undefined entry comes behind a defined one. -/
def Gapped (xs : List Exact) : Prop :=
  ∃ (i j : ℕ) (x : Exact),
    i < j ∧ xs[i]? = some x ∧ Scalar.isUndefined x = false ∧ xs[j]? = some .undefined

theorem Finite.take (finite : Finite xs) (n : ℕ) : Finite (xs.take n) :=
  fun x hx => finite x (List.mem_of_mem_take hx)

/-- Whole numbers that are written out, or left out. -/
theorem finite_literals (entries : List (Option ℕ)) :
    Finite (entries.map fun n => orUndefined (n.map fun k => (OfNat.ofNat k : Exact))) := by
  refine List.forall_mem_map.mpr fun n _ => ?_
  cases n with
  | none => exact .inl rfl
  | some n => exact .inr (isNonneg_literal n).isNumber

/-- Without a gap a column begins somewhere. -/
theorem begins_of_not_gapped (finite : Finite xs) (whole : ¬ Gapped xs) :
    ∃ start, Begins start xs := by
  induction xs with
  | nil => exact ⟨0, begins_of_numbers fun _ hx => nomatch hx⟩
  | cons x xs ih =>
    obtain ⟨first, later⟩ := List.forall_mem_cons.mp finite
    rcases first with rfl | isNumber
    · have rest : ¬ Gapped xs := by
        rintro ⟨i, j, x, before, here, defined, gap⟩
        exact whole ⟨i + 1, j + 1, x, by omega, here, defined, gap⟩
      obtain ⟨start, begins⟩ := ih later rest
      exact ⟨start + 1, begins.cons⟩
    · -- the start is over, so all that follows is defined
      refine ⟨0, begins_of_numbers (List.forall_mem_cons.mpr ⟨isNumber, fun y hy => ?_⟩)⟩
      refine (later y hy).resolve_left ?_
      rintro rfl
      obtain ⟨j, gap⟩ := List.mem_iff_getElem?.mp hy
      exact whole ⟨0, j + 1, x, by omega, rfl, isNumber.defined, gap⟩

/-- A gap is behind the undefined start. -/
theorem Gapped.mem_dropWhile (gapped : Gapped xs) :
    Exact.undefined ∈ xs.dropWhile Scalar.isUndefined := by
  obtain ⟨i, j, x, before, here, defined, gap⟩ := gapped
  have started : (xs.takeWhile Scalar.isUndefined).length ≤ i := by
    by_contra early
    rw [← List.takeWhile_append_dropWhile (p := Scalar.isUndefined) (l := xs),
      List.getElem?_append_left (by omega)] at here
    rw [List.mem_takeWhile_imp (List.mem_of_getElem? here)] at defined
    cases defined
  rw [← List.takeWhile_append_dropWhile (p := Scalar.isUndefined) (l := xs),
    List.getElem?_append_right (by omega)] at gap
  exact List.mem_of_getElem? gap

end Column

/-! ## The mean of a window, worked out anew -/

namespace Extreme

/-- The window at a bar is full, and all its entries are defined. -/
def Complete (p bar : ℕ) (xs : List Exact) : Prop :=
  p ≤ bar + 1 ∧ ∀ x ∈ windowAt p bar xs, Scalar.isUndefined x = false

/-- A full window of numbers holds the last numbers in order. -/
theorem windowAt_eq (inside : bar < xs.length) (full : p ≤ bar + 1)
    (numbers : ∀ x ∈ windowAt p bar xs, x.IsNumber) : windowAt p bar xs =
      ((List.range p).map (Average.lastOf (realAt xs) p (bar + 1))).map number := by
  refine List.ext_getElem? fun j => ?_
  have shown : (windowAt p bar xs)[j]? = if j < p then xs[bar + 1 - p + j]? else none := by
    unfold windowAt
    rw [List.getElem?_drop, List.getElem?_take]
    exact if_congr (by omega) rfl rfl
  rw [List.map_map, List.getElem?_map]
  by_cases within : j < p
  · rw [if_pos within] at shown
    have here : xs[bar + 1 - p + j]? = some xs[bar + 1 - p + j] :=
      List.getElem?_eq_getElem (by omega)
    have counted := numbers _ (List.mem_of_getElem? (shown.trans here))
    rw [shown, List.getElem?_range within, here, ← number_realAt here counted]
    rfl
  · rw [shown, if_neg within, List.getElem?_eq_none (by rw [List.length_range]; omega)]
    rfl

end Extreme

namespace Volatility

open Average Extreme

/-- The mean of a complete window. -/
theorem mean_of_complete (positive : 1 ≤ p) (finite : Finite xs) (inside : bar < xs.length)
    (complete : Complete p bar xs) :
    (overWindows p mean xs)[bar]? =
      some (number (plainMean p (lastOf (realAt xs) p (bar + 1)))) := by
  obtain ⟨full, defined⟩ := complete
  have numbers : ∀ x ∈ windowAt p bar xs, x.IsNumber := by
    intro x hx
    refine (finite x (mem_of_mem_windowAt hx)).resolve_left ?_
    rintro rfl
    cases defined _ hx
  rw [getElem?_overWindows positive mean inside, if_pos full, mean, windowAt_eq inside full numbers,
    sum_number, List.length_map, List.length_map, List.length_range, scalar_ofNat,
    number_div _ (Nat.cast_ne_zero.mpr (by omega))]
  rfl

/-- There is no mean of a window that is not complete. -/
theorem mean_of_incomplete (positive : 1 ≤ p) (inside : bar < xs.length)
    (incomplete : ¬ Complete p bar xs) : (overWindows p mean xs)[bar]? = some .undefined := by
  rw [getElem?_overWindows positive mean inside]
  split
  · rename_i full
    have missing : Exact.undefined ∈ windowAt p bar xs := by
      by_contra absent
      refine incomplete ⟨full, fun x hx => ?_⟩
      by_contra undefined
      rw [Bool.not_eq_false, isUndefined_iff] at undefined
      exact absent (undefined ▸ hx)
    rw [mean, sum_undefined missing, undefined_div]
  · rfl

/-- **Without a gap** the average along a column is the mean of each window. -/
theorem simpleAverage_eq_means {start : ℕ} (begins : Begins start xs) (positive : 1 ≤ p)
    (finite : Finite xs) : simpleAverage p xs = overWindows p mean xs := by
  have slides := slides_simple begins positive
  have length : (overWindows p mean xs).length = xs.length := by
    rw [overWindows, List.length_map, length_trailing]
  refine List.ext_getElem? fun bar => ?_
  by_cases inside : bar < xs.length
  · by_cases early : bar < start + p - 1
    · rw [slides.early bar inside early, mean_of_incomplete positive inside]
      rintro ⟨full, defined⟩
      have behind := behind_start begins inside positive full defined
      omega
    · have complete : Complete p bar xs := by
        refine ⟨by omega, fun x hx => ?_⟩
        obtain ⟨i, here, -, recent⟩ := mem_windowAt.mp hx
        exact (begins.after i x here (by omega)).defined
      rw [slides.full bar inside (by omega), mean_of_complete positive finite inside complete]
  · rw [List.getElem?_eq_none (by rw [slides.length]; omega),
      List.getElem?_eq_none (by rw [length]; omega)]

end Volatility

/-! ## A total behind a gap -/

namespace Average

/-- An undefined total stays undefined, and so is the mean that is read off it. -/
theorem simpleStep_undefined (e : ℕ × Exact × Option Exact) :
    simpleStep p .undefined e = (.undefined, .undefined) := by
  obtain ⟨i, entering, leaving⟩ := e
  cases leaving <;> simp [simpleStep, Scalar.undefined]

/-- It becomes so with an undefined entry. -/
theorem simpleStep_of_undefined (total : Exact) (i : ℕ) (leaving : Option Exact) :
    simpleStep p total (i, .undefined, leaving) = (.undefined, .undefined) := by
  cases leaving <;> simp [simpleStep, Scalar.undefined]

/-- **Along the column**: from an undefined entry on there is no average. -/
theorem running_undefined {gap : ℕ} (missing : ys[gap]? = some .undefined) (behind : gap ≤ bar)
    (inside : bar < ys.length) :
    (running (simpleStep p) 0 (withLeaving p ys))[bar]? = some .undefined := by
  -- the total is undefined once the gap has entered
  have poisoned : gap < bar →
      stateAfter (simpleStep p) 0 ((withLeaving p ys).take bar) = .undefined := by
    refine stateAfter_induction (P := fun n total => gap < n → total = Exact.undefined)
      (fun none => absurd none (Nat.not_lt_zero gap)) ?_
      (by rw [(causal_withLeaving p).length]; exact Nat.le_of_lt inside)
    intro i total e here held entered
    rcases Nat.lt_succ_iff_lt_or_eq.mp entered with before | rfl
    · rw [held before, simpleStep_undefined]
    · rw [getElem?_withLeaving, missing] at here
      cases here
      rw [simpleStep_of_undefined]
  rw [getElem?_running, getElem?_withLeaving, List.getElem?_eq_getElem inside]
  rcases Nat.lt_or_eq_of_le behind with before | rfl
  · rw [poisoned before, Option.map_some, Option.map_some, simpleStep_undefined]
  · rw [List.getElem?_eq_getElem inside] at missing
    rw [Option.some.inj missing, Option.map_some, Option.map_some, simpleStep_of_undefined]

/-- **Behind a gap** the average is undefined for good. -/
theorem simpleAverage_gapped (positive : 1 ≤ p) (inside : bar < xs.length)
    (gapped : Gapped (xs.take (bar + 1))) : (simpleAverage p xs)[bar]? = some .undefined := by
  -- only the entries up to the bar count; the bar is the last of them
  have cut : (simpleAverage p (xs.take (bar + 1)))[bar]? = (simpleAverage p xs)[bar]? :=
    entry_of_take (by rw [(causal_simpleAverage p).take, List.take_take, Nat.min_self])
  have length : (xs.take (bar + 1)).length = bar + 1 := List.length_take_of_le inside
  rw [← cut]
  generalize xs.take (bar + 1) = zs at gapped length
  obtain ⟨gap, missing⟩ := List.mem_iff_getElem?.mp gapped.mem_dropWhile
  have parts := congrArg List.length
    (List.takeWhile_append_dropWhile (p := Scalar.isUndefined) (l := zs))
  have present := (List.getElem?_eq_some_iff.mp missing).1
  rw [List.length_append, length] at parts
  unfold simpleAverage Column.afterUndefined
  rw [if_neg (by omega), List.getElem?_append_right (by omega)]
  exact running_undefined missing (by omega) (by omega)

end Average

/-! ## The two columns -/

namespace Volatility

open Average Extreme

/-- **The middle band and the simple average.** Take a period of at least 1 and bars
whose closes are numbers or undefined. The middle band at a bar is the mean of the last
closes if these are all there and defined, and undefined otherwise. The average is the
same as long as no undefined close has come behind a defined one. From there on it is
undefined at every bar. -/
theorem middle_until_gap (p multiple : ℕ) (positive : 1 ≤ p) (candles : List (Candle Exact))
    (finite : Column.Finite (closes candles)) (bar : ℕ) (inside : bar < candles.length) :
    let middle := (bollinger p multiple candles).middle[bar]?
    let average := (simpleAverage p (closes candles))[bar]?
    (Complete p bar (closes candles) →
      middle = some (number (plainMean p (lastOf (realAt (closes candles)) p (bar + 1))))) ∧
    (¬ Complete p bar (closes candles) → middle = some .undefined) ∧
    (¬ Gapped ((closes candles).take (bar + 1)) → average = middle) ∧
    (Gapped ((closes candles).take (bar + 1)) → average = some .undefined) := by
  intro middle average
  have within : bar < (closes candles).length := by rwa [closes, List.length_map]
  refine ⟨mean_of_complete positive finite within, mean_of_incomplete positive within, ?_,
    simpleAverage_gapped positive within⟩
  intro whole
  have finite' := finite.take (bar + 1)
  obtain ⟨start, begins⟩ := begins_of_not_gapped finite' whole
  -- both columns are made of the bars up to this one
  have same := simpleAverage_eq_means begins positive finite'
  have before : Causal (overWindows p (mean : List Exact → Exact)) := (causal_trailing p).map _
  rw [(causal_simpleAverage p).take, before.take] at same
  exact entry_of_take same

/-- Two windows of one column: before the gap the average is the middle, and behind it
there is none. -/
theorem middle_until_gap_two :
    let candles : List (Candle Exact) :=
      [.still .earliest .undefined, .still .earliest 1, .still .earliest 3,
        .still .earliest .undefined, .still .earliest 5, .still .earliest 7]
    let middle := (bollinger 2 200 candles).middle
    let average := simpleAverage 2 (closes candles)
    (1 ≤ 2 ∧ Column.Finite (closes candles) ∧ 5 < candles.length) ∧
    (middle[2]? = some (number 2) ∧ average[2]? = middle[2]?) ∧
    (middle[5]? = some (number 6) ∧ average[5]? = some .undefined) := by
  intro candles middle average
  have finite : Column.Finite (closes candles) :=
    finite_literals [none, some 1, some 3, none, some 5, some 7]
  have whole : ¬ Gapped ((closes candles).take 3) := by
    rintro ⟨i, _ | _ | _ | j, x, before, -, -, gap⟩
    · exact absurd before (Nat.not_lt_zero i)
    all_goals cases gap
  have gapped : Gapped ((closes candles).take 6) :=
    ⟨1, 3, 1, by decide, rfl, (isNonneg_literal 1).isNumber.defined, rfl⟩
  obtain ⟨before, -, same, -⟩ := middle_until_gap 2 200 (by decide) candles finite 2 (by decide)
  obtain ⟨behind, -, -, lost⟩ := middle_until_gap 2 200 (by decide) candles finite 5 (by decide)
  refine ⟨⟨by decide, finite, by decide⟩, ⟨?_, same whole⟩, ⟨?_, lost gapped⟩⟩
  · refine (before ⟨by decide, defined_literals [1, 3]⟩).trans (congrArg (some ∘ number) ?_)
    simp [plainMean, plainTotal, Finset.sum_range_succ, lastOf, realAt, orUndefined,
      closes, candles, Candle.still]
    norm_num
  · refine (behind ⟨by decide, defined_literals [5, 7]⟩).trans (congrArg (some ∘ number) ?_)
    simp [plainMean, plainTotal, Finset.sum_range_succ, lastOf, realAt, orUndefined,
      closes, candles, Candle.still]
    norm_num

/-- The middle comes back two bars after the gap, and the average does not. -/
theorem middle_outlives_gap :
    let candles : List (Candle Exact) :=
      [.still .earliest 1, .still .earliest .undefined, .still .earliest 3, .still .earliest 5]
    (Column.Finite (closes candles) ∧ (bollinger 2 200 candles).middle[3]? = some (number 4) ∧
      (simpleAverage 2 (closes candles))[3]? = some .undefined) ∧
    ¬ ∀ (p multiple bar : ℕ) (candles : List (Candle Exact)) (middle average : Exact), 1 ≤ p →
      Column.Finite (closes candles) → (bollinger p multiple candles).middle[bar]? = some middle →
      (simpleAverage p (closes candles))[bar]? = some average →
      (Scalar.isUndefined middle = Scalar.isUndefined average ∧
        (Scalar.isUndefined middle = false → middle = average)) := by
  intro candles
  have finite : Column.Finite (closes candles) := finite_literals [some 1, none, some 3, some 5]
  have complete : Complete 2 3 (closes candles) := ⟨by decide, defined_literals [3, 5]⟩
  have gapped : Gapped ((closes candles).take 4) :=
    ⟨0, 1, 1, by decide, rfl, (isNonneg_literal 1).isNumber.defined, rfl⟩
  have middle : (bollinger 2 200 candles).middle[3]? = some (number 4) := by
    refine (mean_of_complete (by decide) finite (by decide) complete).trans
      (congrArg (some ∘ number) ?_)
    simp [plainMean, plainTotal, Finset.sum_range_succ, lastOf, realAt, orUndefined,
      closes, candles, Candle.still]
    norm_num
  have average : (simpleAverage 2 (closes candles))[3]? = some .undefined :=
    simpleAverage_gapped (by decide) (by decide) gapped
  refine ⟨⟨finite, middle, average⟩, fun same => ?_⟩
  have defined := (same 2 200 3 candles _ _ (by decide) finite middle average).1
  rw [isUndefined_number, isUndefined_iff.mpr rfl] at defined
  cases defined

end Volatility

end MarketConditions
