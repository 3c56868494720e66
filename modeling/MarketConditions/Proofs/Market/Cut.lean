import MarketConditions.Market.Cut
import MarketConditions.Page.Key

/-!
# Bars in a span of time

Bars are found by halving. On bars in order of time this finds what is meant: the bars of
a span are those that begin in it, and they stand side by side.

- `Bisect.boundary_eq`: **halving finds the boundary** on every list whose entries with
  the property come first.
- `Market.barAt_eq`, `Market.begins_before`: the first bar that does not begin
  before an instant.
- `Market.barsIn`: the bars that begin in a span; `Market.barsIn_eq`: they are a run of
  bars.
- `Market.candles_between`: **cutting leaves the bars of the span**;
  `Market.candles_between_earliest`: cutting from the beginning of time leaves
  the first bars.
-/

namespace MarketConditions

variable {α : Type}

/-- A bar that trades nothing at one price. -/
def Candle.still [Scalar α] (time : Instant) (price : α) : Candle α :=
  ⟨time, price, price, price, price, 0, none, none⟩

/-- A market of bars alone. -/
def Market.ofCandles (candles : List (Candle α)) : Market α :=
  ⟨"BTCUSDT", .m1, candles, [], [], none⟩

namespace Bisect

/-! ## Halving -/

/-- Entries with the property come first. -/
def First (p : α → Bool) (xs : List α) : Prop := xs.Pairwise fun x y => p y → p x

/-- Then the property is told by the place of an entry. -/
theorem First.any_getElem? {p : α → Bool} {xs : List α} (first : First p xs) (i : Nat) :
    (xs[i]?).any p = decide (i < (xs.takeWhile p).length) := by
  induction xs generalizing i with
  | nil => rfl
  | cons x xs ih =>
    obtain ⟨before, rest⟩ := List.pairwise_cons.mp first
    by_cases hx : p x
    · rw [List.takeWhile_cons_of_pos hx]
      cases i with
      | zero => simpa using hx
      | succ i =>
        rw [List.getElem?_cons_succ, ih rest, List.length_cons]
        exact decide_eq_decide.mpr (by omega)
    · -- without the first entry no later one has the property
      rw [List.takeWhile_cons_of_neg hx]
      have none_later : ∀ y ∈ x :: xs, ¬ p y := by
        intro y hy py
        rcases List.mem_cons.mp hy with rfl | hy
        · exact hx py
        · exact hx (before y hy py)
      cases entry : (x :: xs)[i]? with
      | none => rfl
      | some y =>
        have without := none_later y (List.mem_of_getElem? entry)
        simpa using without

/-- Then the entries with the property are those that come first. -/
theorem First.filter_eq_takeWhile {p : α → Bool} {xs : List α} (first : First p xs) :
    xs.filter p = xs.takeWhile p := by
  induction xs with
  | nil => rfl
  | cons x xs ih =>
    obtain ⟨before, rest⟩ := List.pairwise_cons.mp first
    by_cases hx : p x
    · rw [List.filter_cons_of_pos hx, List.takeWhile_cons_of_pos hx, ih rest]
    · rw [List.filter_cons_of_neg hx, List.takeWhile_cons_of_neg hx, List.filter_eq_nil_iff]
      exact fun y hy py => hx (before y hy py)

/-- And those without it are the ones that are left. -/
theorem First.filter_not_eq_dropWhile {p : α → Bool} {xs : List α} (first : First p xs) :
    (xs.filter fun x => !p x) = xs.dropWhile p := by
  induction xs with
  | nil => rfl
  | cons x xs ih =>
    obtain ⟨before, rest⟩ := List.pairwise_cons.mp first
    by_cases hx : p x
    · rw [List.filter_cons_of_neg (by simp [hx]), List.dropWhile_cons_of_pos hx, ih rest]
    · rw [List.dropWhile_cons_of_neg hx, List.filter_eq_self]
      intro y hy
      rcases List.mem_cons.mp hy with rfl | hy
      · simp [hx]
      · simpa using fun py => hx (before y hy py)

/-- Halving keeps the boundary inside the span it looks at, to within one entry
in the end. -/
theorem narrow_bounds {p : α → Bool} {xs : Array α} {boundary : Nat}
    (told : ∀ i, (xs[i]?).any p = decide (i < boundary)) (fuel base size : Nat)
    (enough : size ≤ fuel) (lower : base ≤ boundary) (upper : boundary ≤ base + size) :
    narrow p xs fuel base size ≤ boundary ∧ boundary ≤ narrow p xs fuel base size + 1 := by
  -- the half that is kept holds the boundary and is smaller, so the fuel lasts
  induction fuel generalizing base size with
  | zero =>
    show base ≤ boundary ∧ boundary ≤ base + 1
    omega
  | succ fuel ih =>
    unfold narrow
    split
    · omega
    · simp only [told]
      by_cases upper_half : base + size / 2 < boundary
      · rw [decide_eq_true upper_half, if_pos rfl]
        exact ih _ _ (by omega) (by omega) (by omega)
      · rw [decide_eq_false upper_half, if_neg Bool.false_ne_true]
        exact ih _ _ (by omega) lower (by omega)

/-- **Halving finds the boundary.** -/
theorem boundary_eq {p : α → Bool} {xs : List α} (first : First p xs) :
    boundary p xs = (xs.takeWhile p).length := by
  have told : ∀ i, (xs.toArray[i]?).any p = decide (i < (xs.takeWhile p).length) := by
    intro i
    rw [List.getElem?_toArray]
    exact first.any_getElem? i
  have inside : (xs.takeWhile p).length ≤ xs.length := (List.takeWhile_sublist p).length_le
  obtain ⟨lower, upper⟩ := narrow_bounds told xs.toArray.size 0 xs.toArray.size (Nat.le_refl _)
    (Nat.zero_le _) (by rw [Nat.zero_add]; exact inside)
  unfold boundary
  simp only [told]
  split
  · rename_i below
    have := of_decide_eq_true below
    omega
  · rename_i not_below
    rw [decide_eq_true_iff] at not_below
    omega

example : boundary (fun n : Nat => decide (n < 3)) [1, 2, 2, 5, 8] = 3 := by decide

end Bisect

namespace Market

/-! ## Bars in order of time -/

/-- No bar begins before the one that it follows. -/
def Ordered (candles : List (Candle α)) : Prop := candles.Pairwise fun c d => c.time ≤ d.time

theorem Ordered.first {candles : List (Candle α)} (ordered : Ordered candles) (t : Instant) :
    Bisect.First (fun c => decide (c.time < t)) candles := by
  refine ordered.imp fun {c d} earlier later => ?_
  rw [decide_eq_true_iff] at later ⊢
  exact Int.lt_of_le_of_lt earlier later

theorem barAt_eq {candles : List (Candle α)} (ordered : Ordered candles) (t : Instant) :
    barAt candles t = (candles.takeWhile fun c => decide (c.time < t)).length :=
  Bisect.boundary_eq (ordered.first t)

theorem barAt_le {candles : List (Candle α)} (ordered : Ordered candles) (t : Instant) :
    barAt candles t ≤ candles.length := by
  rw [barAt_eq ordered]
  exact (List.takeWhile_sublist _).length_le

/-- A bar begins before an instant if it comes before the first that does not. -/
theorem begins_before {candles : List (Candle α)} (ordered : Ordered candles) {t : Instant}
    {bar : Nat} {c : Candle α} (here : candles[bar]? = some c) :
    c.time < t ↔ bar < barAt candles t := by
  have told := (ordered.first t).any_getElem? bar
  rw [here, Option.any_some, ← barAt_eq ordered] at told
  exact decide_eq_decide.mp told

/-- Among the first bars the place is the same, unless it lies behind them. -/
theorem barAt_take {candles : List (Candle α)} (ordered : Ordered candles) (t : Instant)
    (n : Nat) : barAt (candles.take n) t = min (barAt candles t) n := by
  have ordered' : Ordered (candles.take n) := ordered.sublist (List.take_sublist n candles)
  rw [barAt_eq ordered, barAt_eq ordered', ← List.take_takeWhile, List.length_take, Nat.min_comm]

/-! ## The bars of a span -/

/-- The bars that begin in a span. -/
def barsIn (m : Market α) (r : TimeRange) : List Nat :=
  (List.range m.length).filter fun bar => (m.time? bar).any r.contains

/-- Numbers between two bounds stand side by side. -/
theorem filter_range_between {n first last : Nat} (inside : last ≤ n) :
    (List.range n).filter (fun i => decide (first ≤ i) && decide (i < last)) =
      List.range' (min first last) (last - min first last) := by
  by_cases some_bar : first ≤ last
  · -- the numbers fall into three runs, of which the second passes
    have parts : List.range n = List.range' 0 first ++ List.range' first (last - first) ++
        List.range' last (n - last) := by
      have front := @List.range'_append_1 0 first (last - first)
      have whole := @List.range'_append_1 0 last (n - last)
      rw [Nat.zero_add, Nat.add_sub_cancel' some_bar] at front
      rw [Nat.zero_add, Nat.add_sub_cancel' inside] at whole
      rw [List.range_eq_range', front, whole]
    have before : (List.range' 0 first).filter
        (fun i => decide (first ≤ i) && decide (i < last)) = [] := by
      rw [List.filter_eq_nil_iff]
      intro i hi
      have := List.mem_range'_1.mp hi
      simp
      omega
    have between : (List.range' first (last - first)).filter
        (fun i => decide (first ≤ i) && decide (i < last)) =
          List.range' first (last - first) := by
      rw [List.filter_eq_self]
      intro i hi
      have := List.mem_range'_1.mp hi
      simp
      omega
    have after : (List.range' last (n - last)).filter
        (fun i => decide (first ≤ i) && decide (i < last)) = [] := by
      rw [List.filter_eq_nil_iff]
      intro i hi
      have := List.mem_range'_1.mp hi
      simp
      omega
    rw [parts, List.filter_append, List.filter_append, before, between, after, List.nil_append,
      List.append_nil, Nat.min_eq_left some_bar]
  · have empty : last - min first last = 0 := by omega
    rw [empty, List.range'_zero, List.filter_eq_nil_iff]
    intro i _
    simp
    omega

/-- **The bars of a span** are a run of bars, from the first that does not begin before
its start up to the first that does not begin before its end. -/
theorem barsIn_eq {m : Market α} (ordered : Ordered m.candles) (r : TimeRange) :
    m.barsIn r = List.range' (min (barAt m.candles r.start) (barAt m.candles r.stop))
      (barAt m.candles r.stop - min (barAt m.candles r.start) (barAt m.candles r.stop)) := by
  rw [← filter_range_between (barAt_le ordered r.stop)]
  apply List.filter_congr
  intro bar hbar
  have inside : bar < m.candles.length := List.mem_range.mp hbar
  have here := List.getElem?_eq_getElem inside
  have starts := begins_before ordered (t := r.start) here
  have stops := begins_before ordered (t := r.stop) here
  have started : r.start ≤ m.candles[bar].time ↔ ¬ m.candles[bar].time < r.start :=
    Int.not_lt.symm
  unfold Market.time?
  rw [here, Option.map_some, Option.any_some]
  unfold TimeRange.contains
  have lower : decide (r.start ≤ m.candles[bar].time) =
      decide (barAt m.candles r.start ≤ bar) := by
    rw [decide_eq_decide, started, starts, Nat.not_lt]
  have upper : decide (m.candles[bar].time < r.stop) =
      decide (bar < barAt m.candles r.stop) := decide_eq_decide.mpr stops
  rw [lower, upper]

/-! ## Cutting -/

/-- The bars up to the first that does not begin before an instant are those that
begin before it. -/
theorem take_barAt {candles : List (Candle α)} (ordered : Ordered candles) (t : Instant) :
    candles.take (barAt candles t) = candles.filter fun c => decide (c.time < t) := by
  rw [barAt_eq ordered, (ordered.first t).filter_eq_takeWhile]
  exact (List.prefix_iff_eq_take.mp (List.takeWhile_prefix _)).symm

/-- The bars from there on are those that do not. -/
theorem drop_barAt {candles : List (Candle α)} (ordered : Ordered candles) (t : Instant) :
    candles.drop (barAt candles t) = candles.filter fun c => decide (t ≤ c.time) := by
  have not_before : (fun c : Candle α => decide (t ≤ c.time)) = fun c => !decide (c.time < t) := by
    funext c
    rw [← decide_not, decide_eq_decide]
    exact Int.not_lt.symm
  rw [not_before, (ordered.first t).filter_not_eq_dropWhile]
  have split := List.takeWhile_append_dropWhile (p := fun c => decide (c.time < t)) (l := candles)
  have left := @List.drop_left _ (candles.takeWhile fun c => decide (c.time < t))
    (candles.dropWhile fun c => decide (c.time < t))
  rw [split, ← barAt_eq ordered] at left
  exact left

/-- **Cutting** a market to a span of time leaves the bars that begin in it. -/
theorem candles_between {m : Market α} (ordered : Ordered m.candles) (start stop : Instant) :
    (m.between start stop).candles = m.candles.filter fun c =>
      decide (start ≤ c.time) && decide (c.time < stop) := by
  have stopped : Ordered (m.candles.take (barAt m.candles stop)) :=
    ordered.sublist (List.take_sublist _ _)
  rw [← List.filter_filter, ← take_barAt ordered, ← drop_barAt stopped, barAt_take ordered]
  show slice (barAt m.candles start) (max (barAt m.candles stop) (barAt m.candles start))
    m.candles = _
  unfold slice
  rw [← List.drop_take]
  rcases Nat.le_total (barAt m.candles start) (barAt m.candles stop) with within | beyond
  · rw [Nat.max_eq_left within, Nat.min_eq_left within]
  · rw [Nat.max_eq_right beyond, Nat.min_eq_right beyond, List.drop_take_self, List.drop_take_self]

/-- When no bar begins before the earliest instant, cutting from there leaves the
first bars. -/
theorem candles_between_earliest {m : Market α}
    (since : ∀ c ∈ m.candles, Instant.earliest ≤ c.time) (ordered : Ordered m.candles)
    (stop : Instant) :
    (m.between .earliest stop).candles = m.candles.take (barAt m.candles stop) := by
  have none_before : barAt m.candles .earliest = 0 := by
    rw [barAt_eq ordered, List.length_eq_zero_iff]
    cases candles : m.candles with
    | nil => rfl
    | cons c cs =>
      have first := since c (by rw [candles]; exact List.mem_cons_self)
      refine List.takeWhile_cons_of_neg ?_
      rw [decide_eq_true_iff]
      exact Int.not_lt.mpr first
  show slice (barAt m.candles .earliest)
    (Nat.max (barAt m.candles stop) (barAt m.candles .earliest)) m.candles = _
  rw [none_before]
  unfold slice
  rw [List.drop_zero, Nat.sub_zero]
  congr 1
  exact Nat.max_eq_left (Nat.zero_le _)

end Market

end MarketConditions
