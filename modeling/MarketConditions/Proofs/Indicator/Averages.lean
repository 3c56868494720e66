import Mathlib.Algebra.BigOperators.Group.Finset.Basic
import Mathlib.Data.Nat.Cast.Field
import MarketConditions.Proofs.Scalar.Totals
import MarketConditions.Proofs.Column.Warmup

/-!
# Moving averages by their formulas

A moving average keeps totals that slide along the column: an entry is added when it
enters the window and taken off when it leaves. In exact arithmetic they are the
totals of the last entries, so an average can be worked out at any bar from the
entries that it averages.

- `Average.plainTotal`, `Average.weightedTotal`: the totals of some entries in order;
  `plainTotal_slide`, `weightedTotal_slide`: **one entry further**.
- `Average.Slides`: a column that holds a formula of the last `p` entries behind an
  undefined start.
- `Average.slides_simple`, `Average.slides_weighted`: **both averages are their formulas**.
- `Average.Slides.begins`: so both begin a fixed number of bars behind the start.
- `Average.plainMean_between`: a mean lies between the bounds of what it is the mean of.
-/

namespace MarketConditions

open Column Exact

/-- The real number at a bar. Where there is none it counts as zero. -/
noncomputable def Column.realAt (xs : List Exact) (bar : ℕ) : ℝ := (orUndefined xs[bar]?).real

theorem Column.number_realAt {xs : List Exact} {bar : ℕ} {x : Exact} (here : xs[bar]? = some x)
    (isNumber : x.IsNumber) : number (realAt xs bar) = x := by
  unfold realAt
  rw [here]
  exact isNumber.number_real

theorem Column.realAt_drop (xs : List Exact) (start bar : ℕ) :
    realAt (xs.drop start) bar = realAt xs (start + bar) := by
  unfold realAt
  rw [List.getElem?_drop]

namespace Average

/-! ## Totals of a window -/

/-- The total of the first `p` entries. -/
noncomputable def plainTotal (p : ℕ) (w : ℕ → ℝ) : ℝ := ∑ j ∈ Finset.range p, w j

/-- The total of the first `p` entries, the first of them taken once, the next
twice, and so on. -/
noncomputable def weightedTotal (p : ℕ) (w : ℕ → ℝ) : ℝ := ∑ j ∈ Finset.range p, (j + 1) * w j

variable (w : ℕ → ℝ) (p : ℕ)

theorem plainTotal_succ : plainTotal (p + 1) w = plainTotal p w + w p := Finset.sum_range_succ ..

theorem weightedTotal_succ : weightedTotal (p + 1) w = weightedTotal p w + (p + 1) * w p :=
  Finset.sum_range_succ ..

/-- **One entry further**: an entry is added at the end, and the first one is taken off. -/
theorem plainTotal_slide : plainTotal p (fun j => w (j + 1)) = plainTotal p w + (w p - w 0) := by
  induction p with
  | zero => simp [plainTotal]
  | succ p ih =>
    rw [plainTotal_succ, plainTotal_succ, ih]
    ring

/-- **One entry further** every entry weighs one less, which takes off their plain total. -/
theorem weightedTotal_slide :
    weightedTotal p (fun j => w (j + 1)) = weightedTotal p w + (p * w p - plainTotal p w) := by
  induction p with
  | zero => simp [plainTotal, weightedTotal]
  | succ p ih =>
    rw [weightedTotal_succ, weightedTotal_succ, plainTotal_succ, ih]
    push_cast
    ring

/-- The mean of the first `p` entries. -/
noncomputable def plainMean (p : ℕ) (w : ℕ → ℝ) : ℝ := plainTotal p w / p

/-- Their mean by weights from 1 to `p`, which have a total of `p * (p + 1) / 2`. -/
noncomputable def weightedMean (p : ℕ) (w : ℕ → ℝ) : ℝ := weightedTotal p w / (p * (p + 1) / 2 : ℕ)

/-- A mean lies between the bounds of what it is the mean of. -/
theorem plainMean_between {low high : ℝ} (positive : 1 ≤ p)
    (between : ∀ j < p, low ≤ w j ∧ w j ≤ high) : low ≤ plainMean p w ∧ plainMean p w ≤ high := by
  have count : (0 : ℝ) < p := by exact_mod_cast positive
  have below : (Finset.range p).card • low ≤ plainTotal p w :=
    Finset.card_nsmul_le_sum _ _ _ fun j hj => (between j (Finset.mem_range.mp hj)).1
  have above : plainTotal p w ≤ (Finset.range p).card • high :=
    Finset.sum_le_card_nsmul _ _ _ fun j hj => (between j (Finset.mem_range.mp hj)).2
  rw [Finset.card_range, nsmul_eq_mul] at below above
  constructor
  · rw [plainMean, le_div_iff₀ count, mul_comm]
    exact below
  · rw [plainMean, div_le_iff₀ count, mul_comm]
    exact above

/-! ## Totals along a column -/

/-- The last `p` of the first `n` entries, in order. -/
def lastOf (v : ℕ → ℝ) (p n : ℕ) : ℕ → ℝ := fun j => v (n - p + j)

variable (v : ℕ → ℝ) {p n : ℕ}

/-- While the window fills it holds all entries. -/
theorem lastOf_of_le (few : n ≤ p) : lastOf v p n = v := by
  unfold lastOf
  simp [Nat.sub_eq_zero_of_le few]

/-- Once it is full it moves on by one entry. -/
theorem lastOf_succ (full : p ≤ n) : lastOf v p (n + 1) = fun j => lastOf v p n (j + 1) := by
  funext j
  unfold lastOf
  congr 1
  omega

/-- The entry behind a full window is the next one. -/
theorem lastOf_next (full : p ≤ n) : lastOf v p n p = v n := by
  unfold lastOf
  rw [Nat.sub_add_cancel full]

/-- The plain total of the last `p` of the first `n` entries. -/
noncomputable def plainAfter (p n : ℕ) : ℝ := plainTotal (min n p) (lastOf v p n)

/-- Their weighted total. -/
noncomputable def weightedAfter (p n : ℕ) : ℝ := weightedTotal (min n p) (lastOf v p n)

theorem plainAfter_filling (filling : n < p) : plainAfter v p (n + 1) = plainAfter v p n + v n := by
  unfold plainAfter
  rw [lastOf_of_le v filling, lastOf_of_le v filling.le, Nat.min_eq_left filling,
    Nat.min_eq_left filling.le, plainTotal_succ]

theorem plainAfter_full (full : p ≤ n) :
    plainAfter v p (n + 1) = plainAfter v p n + (v n - v (n - p)) := by
  unfold plainAfter
  rw [lastOf_succ v full, Nat.min_eq_right (by omega), Nat.min_eq_right full, plainTotal_slide,
    lastOf_next v full]
  rfl

theorem weightedAfter_filling (filling : n < p) :
    weightedAfter v p (n + 1) = weightedAfter v p n + (n + 1) * v n := by
  unfold weightedAfter
  rw [lastOf_of_le v filling, lastOf_of_le v filling.le, Nat.min_eq_left filling,
    Nat.min_eq_left filling.le, weightedTotal_succ]

theorem weightedAfter_full (full : p ≤ n) :
    weightedAfter v p (n + 1) = weightedAfter v p n + (p * v n - plainAfter v p n) := by
  unfold weightedAfter plainAfter
  rw [lastOf_succ v full, Nat.min_eq_right (by omega), Nat.min_eq_right full, weightedTotal_slide,
    lastOf_next v full]

/-! ## Averages along a column -/

/-- What enters a window at a bar, and what leaves it once it is full. -/
theorem getElem?_withLeaving (p : ℕ) (xs : List Exact) (bar : ℕ) : (withLeaving p xs)[bar]? =
    xs[bar]?.map fun x => (bar, x, if bar < p then none else xs[bar - p]?) := by
  unfold withLeaving
  rw [getElem?_numbered, List.zip, List.getElem?_zipWith, getElem?_lag, List.length_map]
  cases here : xs[bar]? with
  | none => rfl
  | some x =>
    have inside := (List.getElem?_eq_some_iff.mp here).1
    rw [if_pos inside]
    by_cases filling : bar < p
    · simp [filling]
    · -- the entry that leaves is one of the column
      have leaves : xs[bar - p]? = some xs[bar - p] := List.getElem?_eq_getElem (by omega)
      simp [filling, leaves]

section Steps

variable {ys : List Exact}

theorem bar_at {p i : ℕ} {e : ℕ × Exact × Option Exact} (here : (withLeaving p ys)[i]? = some e) :
    e.1 = i := by
  rw [getElem?_withLeaving] at here
  obtain ⟨_, -, rfl⟩ := Option.map_eq_some_iff.mp here
  rfl

variable (numbers : ∀ y ∈ ys, y.IsNumber)

include numbers

/-- What enters at a bar, and what leaves once the window is full. -/
theorem moves_at {p i : ℕ} {e : ℕ × Exact × Option Exact} (here : (withLeaving p ys)[i]? = some e) :
    i < p ∧ e = (i, number (realAt ys i), none) ∨
      p ≤ i ∧ e = (i, number (realAt ys i), some (number (realAt ys (i - p)))) := by
  rw [getElem?_withLeaving] at here
  obtain ⟨y, entering, rfl⟩ := Option.map_eq_some_iff.mp here
  rw [number_realAt entering (numbers y (List.mem_of_getElem? entering))]
  by_cases filling : i < p
  · exact .inl ⟨filling, by rw [if_pos filling]⟩
  · have inside := (List.getElem?_eq_some_iff.mp entering).1
    have leaving : ys[i - p]? = some ys[i - p] := List.getElem?_eq_getElem (by omega)
    rw [number_realAt leaving (numbers _ (List.mem_of_getElem? leaving))]
    exact .inr ⟨Nat.le_of_not_lt filling, by rw [if_neg filling, leaving]⟩

/-- The total that is kept is that of the last entries. -/
theorem total_at {p i : ℕ} {e : ℕ × Exact × Option Exact} (here : (withLeaving p ys)[i]? = some e) :
    (simpleStep p (number (plainAfter (realAt ys) p i)) e).1 =
      number (plainAfter (realAt ys) p (i + 1)) := by
  rcases moves_at numbers here with ⟨filling, rfl⟩ | ⟨full, rfl⟩
  · rw [plainAfter_filling _ filling]
    exact number_add ..
  · rw [plainAfter_full _ full]
    show number _ + number _ - number _ = _
    rw [number_add, number_sub, add_sub_assoc]

/-- Both totals that are kept are those of the last entries. -/
theorem totals_at {p i : ℕ} {e : ℕ × Exact × Option Exact}
    (here : (withLeaving p ys)[i]? = some e) :
    (weightedStep p ⟨number (weightedAfter (realAt ys) p i),
      number (plainAfter (realAt ys) p i)⟩ e).1 =
      ⟨number (weightedAfter (realAt ys) p (i + 1)),
        number (plainAfter (realAt ys) p (i + 1))⟩ := by
  rcases moves_at numbers here with ⟨filling, rfl⟩ | ⟨full, rfl⟩
  · rw [plainAfter_filling _ filling, weightedAfter_filling _ filling]
    show WeightedTotals.mk (number _ + Scalar.ofNat (i + 1) * number _) (number _ + number _) = _
    rw [scalar_ofNat, number_mul, number_add, number_add]
    push_cast
    rfl
  · rw [plainAfter_full _ full, weightedAfter_full _ full]
    show WeightedTotals.mk (number _ + (Scalar.ofNat p * number _ - number _))
      (number _ + (number _ - number _)) = _
    rw [scalar_ofNat, number_mul, number_sub, number_add, number_sub, number_add]

/-- **The simple average** of some numbers at a bar. -/
theorem getElem?_simple {p i : ℕ} (positive : 1 ≤ p) (inside : i < ys.length) :
    (running (simpleStep p) 0 (withLeaving p ys))[i]? = some
      (if p ≤ i + 1 then number (plainMean p (lastOf (realAt ys) p (i + 1))) else .undefined) := by
  have start : (0 : Exact) = number (plainAfter (realAt ys) p 0) := by simp [plainAfter, plainTotal]
  rw [← (causal_withLeaving p).length ys] at inside
  rw [start]
  refine getElem?_running_of_states (fun i => number (plainAfter (realAt ys) p i))
    (fun i => if p ≤ i + 1 then number (plainMean p (lastOf (realAt ys) p (i + 1))) else .undefined)
    (fun i e here => Prod.ext (total_at numbers here) ?_) inside
  have told : ∀ t, (simpleStep p t e).2 =
      if e.1 + 1 ≥ p then (simpleStep p t e).1 / Scalar.ofNat p else .undefined := fun _ => rfl
  rw [told, total_at numbers here, bar_at here]
  refine ite_congr rfl (fun full => ?_) fun _ => rfl
  rw [scalar_ofNat, number_div _ (Nat.cast_ne_zero.mpr (by omega)), plainAfter,
    Nat.min_eq_right full]
  rfl

omit numbers in
/-- The weights have the total that is divided by. -/
theorem weights_eq (p : ℕ) :
    (Scalar.ofNat (p * (p + 1)) / 2 : Exact) = number (p * (p + 1) / 2 : ℕ) := by
  have even : 2 ∣ p * (p + 1) := (Nat.even_mul_succ_self p).two_dvd
  rw [scalar_ofNat, ofNat_eq, number_div _ (by norm_num), Nat.cast_div even (by norm_num)]

/-- **The weighted average** of some numbers at a bar. -/
theorem getElem?_weighted {p i : ℕ} (positive : 1 ≤ p) (inside : i < ys.length) :
    (running (weightedStep p) ⟨0, 0⟩ (withLeaving p ys))[i]? = some
      (if p ≤ i + 1 then number (weightedMean p (lastOf (realAt ys) p (i + 1)))
      else .undefined) := by
  have start : (⟨0, 0⟩ : WeightedTotals Exact) =
      ⟨number (weightedAfter (realAt ys) p 0), number (plainAfter (realAt ys) p 0)⟩ := by
    simp [plainAfter, plainTotal, weightedAfter, weightedTotal]
  rw [← (causal_withLeaving p).length ys] at inside
  rw [start]
  refine getElem?_running_of_states (fun i => WeightedTotals.mk
      (number (weightedAfter (realAt ys) p i)) (number (plainAfter (realAt ys) p i)))
    (fun i => if p ≤ i + 1 then number (weightedMean p (lastOf (realAt ys) p (i + 1)))
      else .undefined)
    (fun i e here => Prod.ext (totals_at numbers here) ?_) inside
  have told : ∀ t, (weightedStep p t e).2 = if e.1 + 1 ≥ p then
      (weightedStep p t e).1.weighted / (Scalar.ofNat (p * (p + 1)) / 2)
      else .undefined := fun _ => rfl
  have weights : ((p * (p + 1) / 2 : ℕ) : ℝ) ≠ 0 :=
    Nat.cast_ne_zero.mpr (Nat.div_pos (by nlinarith) (by decide)).ne'
  rw [told, totals_at numbers here, bar_at here]
  refine ite_congr rfl (fun full => ?_) fun _ => rfl
  rw [weights_eq, number_div _ weights, weightedAfter, Nat.min_eq_right full]
  rfl

end Steps

/-! ## Formulas behind an undefined start -/

/-- A column that is undefined until there are `p` entries behind a start, and from then
on holds a formula of the last `p` entries. -/
structure Slides (start p : ℕ) (formula : (ℕ → ℝ) → ℝ) (xs column : List Exact) : Prop where
  length : column.length = xs.length
  early : ∀ bar < xs.length, bar < start + p - 1 → column[bar]? = some .undefined
  full : ∀ bar < xs.length, start + p - 1 ≤ bar →
    column[bar]? = some (number (formula (lastOf (realAt xs) p (bar + 1))))

variable {start : ℕ} {xs : List Exact}

/-- Each entry is before the formula, or is the formula. -/
theorem Slides.entry {formula : (ℕ → ℝ) → ℝ} {column : List Exact}
    (slides : Slides start p formula xs column) {bar : ℕ} {y : Exact}
    (here : column[bar]? = some y) :
    bar < start + p - 1 ∧ y = .undefined ∨
      start + p - 1 ≤ bar ∧ y = number (formula (lastOf (realAt xs) p (bar + 1))) := by
  have inside : bar < xs.length := by
    rw [← slides.length]
    exact (List.getElem?_eq_some_iff.mp here).1
  rcases Nat.lt_or_ge bar (start + p - 1) with early | late
  · exact .inl ⟨early, Option.some.inj (here.symm.trans (slides.early bar inside early))⟩
  · exact .inr ⟨late, Option.some.inj (here.symm.trans (slides.full bar inside late))⟩

/-- Such a column begins where it first holds the formula. -/
theorem Slides.begins {formula : (ℕ → ℝ) → ℝ} {column : List Exact}
    (slides : Slides start p formula xs column) (positive : 1 ≤ p) :
    Begins (start + (p - 1)) column := by
  refine .of_entries fun bar y here => ?_
  rcases slides.entry here with ⟨early, undefined⟩ | ⟨late, rfl⟩
  · exact .inl ⟨by omega, undefined⟩
  · exact .inr ⟨by omega, _, rfl⟩

/-- What holds the formula of numbers holds it behind an undefined start. -/
theorem slides_of_entries (begins : Begins start xs) (positive : 1 ≤ p)
    {f : List Exact → List Exact} (causal : Causal f) {formula : (ℕ → ℝ) → ℝ}
    (entries : ∀ ys, (∀ y ∈ ys, y.IsNumber) → ∀ i < ys.length, (f ys)[i]? = some
      (if p ≤ i + 1 then number (formula (lastOf (realAt ys) p (i + 1))) else .undefined)) :
    Slides start p formula xs (Column.afterUndefined f xs) := by
  have behind : ∀ bar < xs.length, start ≤ bar → (f (xs.drop start))[bar - start]? = some
      (if p ≤ bar - start + 1 then
        number (formula (lastOf (realAt (xs.drop start)) p (bar - start + 1)))
        else .undefined) := fun bar inside late =>
    entries _ begins.drop _ (by rw [List.length_drop]; omega)
  constructor
  · exact (causal_afterUndefined causal).length xs
  · intro bar inside early
    rw [begins.getElem?_afterUndefined causal.nil]
    split
    · -- still in the start
      rename_i waiting
      have here := List.getElem?_eq_getElem inside
      rw [here, begins.before bar _ here waiting]
    · rw [behind bar inside (by omega), if_neg (by omega)]
  · intro bar inside late
    rw [begins.getElem?_afterUndefined causal.nil, if_neg (by omega), behind bar inside (by omega),
      if_pos (by omega)]
    -- the last entries of the rest are those of the whole
    congr 3
    funext j
    unfold lastOf
    rw [realAt_drop]
    congr 1
    omega

/-- **The simple average is its formula.** -/
theorem slides_simple (begins : Begins start xs) (positive : 1 ≤ p) :
    Slides start p (plainMean p) xs (simpleAverage p xs) := by
  unfold simpleAverage
  rw [if_neg (by omega)]
  exact slides_of_entries begins positive ((causal_running _ _).comp (causal_withLeaving p))
    fun ys numbers i inside => getElem?_simple numbers positive inside

/-- **The weighted average is its formula.** -/
theorem slides_weighted (begins : Begins start xs) (positive : 1 ≤ p) :
    Slides start p (weightedMean p) xs (weightedAverage p xs) := by
  unfold weightedAverage
  rw [if_neg (by omega)]
  exact slides_of_entries begins positive ((causal_running _ _).comp (causal_withLeaving p))
    fun ys numbers i inside => getElem?_weighted numbers positive inside

/-- Where the last `p` entries are all defined, all of them are behind the start. -/
theorem behind_start (begins : Begins start xs) {bar : ℕ} (inside : bar < xs.length)
    (positive : 1 ≤ p) (full : p ≤ bar + 1)
    (defined : ∀ x ∈ Extreme.windowAt p bar xs, Scalar.isUndefined x = false) :
    start + p - 1 ≤ bar := by
  have first : bar + 1 - p < xs.length := by omega
  have here := List.getElem?_eq_getElem first
  have shown := defined _ (Extreme.mem_windowAt.mpr ⟨_, here, by omega, by omega⟩)
  by_contra early
  rw [begins.before _ _ here (by omega)] at shown
  cases shown

end Average

end MarketConditions
