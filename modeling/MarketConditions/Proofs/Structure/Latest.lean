import MarketConditions.Proofs.Structure.Detection

/-!
# The latest swing

A column of the latest swing knows at each bar what was known then. It shows the swing
that was confirmed last, how long ago it was, and how many bars kept to it before the
first that exceeded it. Bars that break it later do not count yet, although the swing that
was detected carries them.

- `SwingSeries.reading?`: what the columns show at a bar.
- `Extremity.intact`: the bars up to a bar that come before the first that exceeds an
  extreme; `Swing.Formed.dominanceAt_eq`: **dominance as known at a bar** counts these.
- `latestBy_eq_none_iff`, `latestBy_eq_some`: which swing is the latest.
- `latest_swing_read`: **what is read of swings at every bar**.
-/

namespace MarketConditions

section

variable {α : Type} [Scalar α]

/-! ## Readings -/

/-- A reading where there is no swing. -/
def SwingReading.undefined : SwingReading α :=
  ⟨Scalar.undefined, Scalar.undefined, Scalar.undefined⟩

/-- What is shown at a bar, if there is such a bar. -/
def SwingSeries.reading? (series : SwingSeries α) (bar : Nat) : Option (SwingReading α) :=
  match series.price[bar]?, series.dominance[bar]?, series.barsSince[bar]? with
  | some price, some dominance, some barsSince => some ⟨price, dominance, barsSince⟩
  | _, _, _ => none

/-- At every bar the latest swing is read. -/
theorem reading?_swingSeries {bars bar : Nat} (inside : bar < bars) (side : Extremity)
    (swings : List (Swing α)) : (swingSeries bars side swings).reading? bar =
      some (((latestBy (swings.filter fun w => w.side = side) bar).map (·.readAt bar)).getD
        .undefined) := by
  have column : ∀ f : SwingReading α → α, ((Column.running latestStep
      (none, swings.filter fun w => w.side = side) (List.range bars)).map
        fun r => Column.orUndefined (r.map f))[bar]? =
      some (Column.orUndefined
        (((latestBy (swings.filter fun w => w.side = side) bar).map (·.readAt bar)).map f)) := by
    intro f
    rw [running_latestStep_all, List.getElem?_map, List.getElem?_map, List.getElem?_range inside]
    rfl
  have price : (swingSeries bars side swings).price[bar]? = _ := column SwingReading.price
  have dominance : (swingSeries bars side swings).dominance[bar]? = _ :=
    column SwingReading.dominance
  have barsSince : (swingSeries bars side swings).barsSince[bar]? = _ :=
    column SwingReading.barsSince
  unfold SwingSeries.reading?
  rw [price, dominance, barsSince]
  cases latestBy (swings.filter fun w => w.side = side) bar <;> rfl

/-- Later bars are not read. -/
theorem reading?_swingSeries_congr (side : Extremity) (s : Nat) {bar : Nat}
    {candles candles' : List (Candle α)} (same : candles'.take (bar + 1) = candles.take (bar + 1)) :
    (swingSeries candles'.length side (detectSwings s candles')).reading? bar =
      (swingSeries candles.length side (detectSwings s candles)).reading? bar := by
  have column : ∀ {f : List (Candle α) → List α}, Column.Causal f →
      (f candles')[bar]? = (f candles)[bar]? := fun causal =>
    Column.entry_of_take (causal.congr same)
  have price := column (causal_swingColumn side s SwingReading.price)
  have dominance := column (causal_swingColumn side s SwingReading.dominance)
  have barsSince := column (causal_swingColumn side s SwingReading.barsSince)
  unfold SwingSeries.reading? swingSeries
  simp only [price, dominance, barsSince]

/-! ## The latest swing -/

variable {swings : List (Swing α)} {bar : Nat} {w : Swing α}

omit [Scalar α] in
/-- Of swings in order those confirmed by a bar come first. -/
theorem mem_confirmed_iff (ordered : swings.Pairwise fun x y => x.confirmedAt ≤ y.confirmedAt) :
    w ∈ swings.takeWhile (fun x => decide (x.confirmedAt ≤ bar)) ↔
      w ∈ swings ∧ w.confirmedAt ≤ bar := by
  have first : Bisect.First (fun x : Swing α => decide (x.confirmedAt ≤ bar)) swings :=
    ordered.imp fun {x y} earlier due => decide_eq_true (earlier.trans (of_decide_eq_true due))
  rw [← first.filter_eq_takeWhile, List.mem_filter, decide_eq_true_iff]

omit [Scalar α] in
theorem latestBy_eq_none_iff (ordered : swings.Pairwise fun x y => x.confirmedAt ≤ y.confirmedAt) :
    latestBy swings bar = none ↔ ∀ x ∈ swings, bar < x.confirmedAt := by
  unfold latestBy
  rw [List.getLast?_eq_none_iff, List.eq_nil_iff_forall_not_mem]
  simp only [mem_confirmed_iff ordered, not_and, Nat.not_le]

omit [Scalar α] in
/-- The latest swing is the one of those confirmed that stands last. -/
theorem latestBy_eq_some (ordered : swings.Pairwise fun x y => x.confirmedAt ≤ y.confirmedAt)
    (sorted : swings.Pairwise fun x y => x.index < y.index) (found : w ∈ swings)
    (confirmed : w.confirmedAt ≤ bar)
    (last : ∀ x ∈ swings, x.confirmedAt ≤ bar → x.index ≤ w.index) :
    latestBy swings bar = some w := by
  obtain ⟨before, after, split⟩ :=
    List.append_of_mem ((mem_confirmed_iff ordered).mpr ⟨found, confirmed⟩)
  have inOrder := sorted.sublist (List.takeWhile_sublist fun x => decide (x.confirmedAt ≤ bar))
  rw [split] at inOrder
  -- a swing behind it would be confirmed as well, and stand later
  obtain rfl : after = [] := by
    refine List.eq_nil_iff_forall_not_mem.mpr fun x hx => ?_
    have later := (List.pairwise_cons.mp (List.pairwise_append.mp inOrder).2.1).1 x hx
    have passed : x ∈ swings.takeWhile (fun x => decide (x.confirmedAt ≤ bar)) := by
      rw [split]
      exact List.mem_append_right _ (List.mem_cons_of_mem _ hx)
    obtain ⟨listed, due⟩ := (mem_confirmed_iff ordered).mp passed
    exact absurd later (Nat.not_lt.mpr (last x listed due))
  unfold latestBy
  rw [split, List.getLast?_concat]

/-! ## Dominance as known at a bar -/

/-- How many bars after `i`, up to a bar, come before the first that exceeds an extreme:
all of them if none does. -/
def Extremity.intact (e : Extremity) (xs : List α) (i : Nat) (x : α) (bar : Nat) : Nat :=
  ((xs.take (bar + 1)).drop (i + 1)).findIdx fun y => e.beyond y x

variable {e : Extremity} {xs : List α} {i j : Nat} {x : α}

theorem Extremity.intact_le (inside : bar < xs.length) : e.intact xs i x bar ≤ bar - i := by
  have bound : ((xs.take (bar + 1)).drop (i + 1)).findIdx (fun y => e.beyond y x) ≤ _ :=
    List.findIdx_le_length
  rw [List.length_drop, List.length_take] at bound
  unfold intact
  omega

/-- The bars up to the one that breaks an extreme are in between. -/
theorem Extremity.BrokenAt.intact_eq (broken : e.BrokenAt xs i x j) (known : j ≤ bar) :
    e.intact xs i x bar = j - i - 1 := by
  obtain ⟨y, hy, exceeds⟩ := broken.exceeded
  have later := broken.later
  have inside : j < xs.length := (List.getElem?_eq_some_iff.mp hy).1
  have entry : ∀ k ≤ j - i - 1, ((xs.take (bar + 1)).drop (i + 1))[k]? = xs[i + 1 + k]? := by
    intro k hk
    rw [List.getElem?_drop, List.getElem?_take, if_pos (by omega)]
  have long : j - i - 1 < ((xs.take (bar + 1)).drop (i + 1)).length := by
    rw [List.length_drop, List.length_take]
    omega
  refine (List.findIdx_eq long).mpr ⟨?_, fun k hk => ?_⟩
  · have here := entry (j - i - 1) le_rfl
    rw [show i + 1 + (j - i - 1) = j by omega, hy, List.getElem?_eq_getElem long] at here
    rwa [Option.some.inj here]
  · have here := entry k hk.le
    rw [List.getElem?_eq_getElem (by omega)] at here
    exact broken.first _ _ here.symm (by omega) (by omega)

/-- An extreme that no bar has exceeded has kept all of them. -/
theorem Extremity.Keeps.intact_eq (keeps : e.Keeps xs i x (bar + 1)) (inside : bar < xs.length) :
    e.intact xs i x bar = bar - i := by
  have none_exceeds : ∀ y ∈ (xs.take (bar + 1)).drop (i + 1), e.beyond y x = false := by
    intro y hy
    obtain ⟨j, hj, after, upTo⟩ := Column.mem_drop_take.mp hy
    exact keeps j y hj (by omega) upTo
  unfold intact
  rw [List.findIdx_eq_length_of_false none_exceeds, List.length_drop, List.length_take]
  omega

/-- What no bar before `n` is the first to exceed is kept to until then. -/
theorem Extremity.keeps_of_unbroken {n : Nat} (unbroken : ∀ j, e.BrokenAt xs i x j → n ≤ j) :
    e.Keeps xs i x n := by
  intro j y hy later before
  induction j using Nat.strong_induction_on generalizing y with
  | _ j ih =>
    by_contra exceeds
    rw [Bool.not_eq_false] at exceeds
    have first : e.Keeps xs i x j :=
      fun k z hz after earlier => ih k earlier z hz after (earlier.trans before)
    exact absurd before (Nat.not_lt.mpr (unbroken j ⟨later, ⟨y, hy, exceeds⟩, first⟩))

/-- **Dominance as known at a bar** counts the bars up to then that kept to the swing. -/
theorem Swing.Formed.dominanceAt_eq {s : Nat} {candles : List (Candle α)}
    (formed : w.Formed s candles) (inside : bar < candles.length) :
    w.dominanceAt bar = w.side.intact (candles.map w.side.price) w.index w.price bar := by
  by_cases broken : ∃ j, w.brokenAt = some j ∧ j ≤ bar
  · obtain ⟨j, hj, known⟩ := broken
    rw [formed.dominanceAt_broken hj known, ((formed.broken j).mp hj).intact_eq known]
  · have unbroken : ∀ j, w.brokenAt = some j → bar < j :=
      fun j hj => Nat.not_le.mp fun known => broken ⟨j, hj, known⟩
    have keeps : w.side.Keeps (candles.map w.side.price) w.index w.price (bar + 1) :=
      Extremity.keeps_of_unbroken fun j hj => unbroken j ((formed.broken j).mpr hj)
    rw [Swing.dominanceAt_unbroken unbroken, keeps.intact_eq (by simpa using inside)]

end

/-! ## What is read -/

/-- **What is read of swings at every bar.** Nothing where no swing of the side has been
confirmed. Where one has, the latest is read: its price, the bars that kept to it before
one exceeded it, and the bars since, of which there are as many as confirm it. Later bars
change none of it. -/
theorem latest_swing_read (s : Nat) (positive : 1 ≤ s) (side : Extremity)
    (candles : List (Candle Float)) (bar : Nat) (inside : bar < candles.length) :
    let extremes := candles.map side.price
    let reading := fun candles : List (Candle Float) =>
      (swingSeries candles.length side (detectSwings s candles)).reading? bar
    ((∀ i x, side.StandsAt s extremes i x → bar < i + s) → reading candles = some .undefined) ∧
      (∀ i x, side.StandsAt s extremes i x → i + s ≤ bar →
        (∀ j y, side.StandsAt s extremes j y → j + s ≤ bar → j ≤ i) →
        let dominance := side.intact extremes i x bar
        reading candles = some ⟨x, Scalar.ofNat dominance, Scalar.ofNat (bar - i)⟩ ∧
          s ≤ bar - i ∧ dominance ≤ bar - i) ∧
      ∀ later : List (Candle Float), later.take (bar + 1) = candles.take (bar + 1) →
        reading later = reading candles := by
  intro extremes reading
  have ordered := (detectSwings_ordered s candles).filter fun w => w.side = side
  have ofSide : ∀ {w}, w ∈ (detectSwings s candles).filter (fun w => w.side = side) ↔
      w.Formed s candles ∧ w.side = side := by
    intro w
    rw [List.mem_filter, decide_eq_true_iff, mem_detectSwings_iff positive]
  have sorted : ((detectSwings s candles).filter fun w => w.side = side).Pairwise
      fun x y => x.index < y.index := by
    refine ((detectSwings_sorted s candles).filter _).imp_of_mem fun {x y} hx hy earlier => ?_
    exact earlier ((ofSide.mp hx).2.trans (ofSide.mp hy).2.symm)
  refine ⟨fun early => ?none, fun i x stands confirmed last => ?latest,
    fun later same => reading?_swingSeries_congr side s same⟩
  case none =>
    have nothing :
        latestBy ((detectSwings s candles).filter fun w => w.side = side) bar = none := by
      refine (latestBy_eq_none_iff ordered).mpr fun w hw => ?_
      obtain ⟨formed, rfl⟩ := ofSide.mp hw
      exact formed.confirmed ▸ early _ _ formed.stands
    show (swingSeries _ _ _).reading? bar = _
    rw [reading?_swingSeries inside, nothing]
    rfl
  case latest =>
    obtain ⟨w, found, formed, rfl, rfl, rfl⟩ := stands.found positive
    have latest := latestBy_eq_some ordered sorted (ofSide.mpr ⟨formed, rfl⟩)
      (formed.confirmed.trans_le confirmed) fun x hx due => by
        obtain ⟨other, same⟩ := ofSide.mp hx
        have standing := other.stands
        rw [same] at standing
        exact last _ _ standing (other.confirmed ▸ due)
    refine ⟨?_, by omega, Extremity.intact_le (by simpa [extremes] using inside)⟩
    show (swingSeries _ _ _).reading? bar = _
    rw [reading?_swingSeries inside, latest]
    show some (w.readAt bar) = _
    unfold Swing.readAt
    rw [formed.dominanceAt_eq inside]

/-- A peak that is exceeded two bars later is read with the one bar in between, and the
higher peak before it is not the latest. -/
theorem latest_swing_read_exceeded :
    let candles : List (Candle Float) := [1, 5, 2, 4, 3, 6, 1].map (.still .earliest)
    let extremes := candles.map (Extremity.price .high)
    let reading := (swingSeries candles.length .high (detectSwings 1 candles)).reading? 5
    (1 ≤ 1 ∧ 5 < candles.length ∧ Extremity.StandsAt .high 1 extremes 3 4 ∧
      ∀ j y, Extremity.StandsAt .high 1 extremes j y → j + 1 ≤ 5 → j ≤ 3) ∧
    Extremity.intact .high extremes 3 4 5 = 1 ∧ reading = some ⟨4, 1, 2⟩ := by
  intro candles extremes reading
  have stands : Extremity.StandsAt .high 1 extremes 3 4 := by
    obtain ⟨x, stands⟩ := Extremity.isPivot_iff.mp
      (by decide +kernel : Extremity.isPivot .high 1 extremes 3 = true)
    cases stands.here
    exact stands
  have last : ∀ j y, Extremity.StandsAt .high 1 extremes j y → j + 1 ≤ 5 → j ≤ 3 := by
    have pivots : ∀ j < 5, Extremity.isPivot .high 1 extremes j = true → j ≤ 3 := by decide +kernel
    exact fun j y other due => pivots j due (Extremity.isPivot_iff.mpr ⟨y, other⟩)
  obtain ⟨-, latest, -⟩ := latest_swing_read 1 (by decide) .high candles 5 (by decide)
  obtain ⟨read, -, -⟩ := latest 3 4 stands (by decide) last
  have counted : Extremity.intact .high extremes 3 4 5 = 1 := by decide +kernel
  refine ⟨⟨by decide, by decide, stands, last⟩, counted, read.trans ?_⟩
  rw [counted]
  rfl

end MarketConditions
