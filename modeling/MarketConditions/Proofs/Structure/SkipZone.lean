import Mathlib.Data.Finset.Max
import Mathlib.Order.Interval.Finset.Nat
import MarketConditions.Proofs.Structure.Chains
import MarketConditions.Proofs.Structure.Rays

/-!
# Skipped bars are not seen

The anchor of a ray is an outermost peak, and of several the most dominant as known at
the bar. Dominance counts bars up to that one, the skipped ones among them. All the same
a ray does not depend on what the skipped bars are, if each bar has a high and a low:
between two peaks of one window that are the farthest out no bar is further out, for the
outermost such bar would be a peak. So the same bar breaks both, and the earlier one
dominates longer.

- `Extremity.exists_between`: a bar further out between two equal swings is within
  reach of a swing.
- `Swing.dominanceAt_le`: of two equal swings with no such bar between them the
  earlier dominates.
- `Ray.anchor_first`: **the anchor is the oldest of the outermost peaks**, so that it is
  told by where the peaks stand (`Ray.anchor_congr`).
- `Ray.skip_zone_unseen`: **skipped bars are not seen**.
-/

namespace MarketConditions

/-! ## Between two swings -/

namespace Extremity

variable {e : Extremity} {s : Nat} {xs : List Float}

/-- The first of the outermost bars between two bars. -/
theorem exists_summit (e : Extremity) (xs : List Float) {i j k : Nat} (after : i < j)
    (before : j < k) (inside : k < xs.length) : ∃ m v, i < m ∧ m < k ∧ xs[m]? = some v ∧
      (∀ l y, xs[l]? = some y → i < l → l < m → e.place y < e.place v) ∧
      ∀ l y, xs[l]? = some y → i < l → l < k → e.place y ≤ e.place v := by
  let far (l : Nat) : WithBot Scalar.Rank := ((xs[l]?).map e.place).getD ⊥
  obtain ⟨m, hm, top⟩ := (Finset.Ioo i k).exists_max_image
    (fun l => toLex (far l, OrderDual.toDual l)) ⟨j, Finset.mem_Ioo.mpr ⟨after, before⟩⟩
  obtain ⟨low, high⟩ := Finset.mem_Ioo.mp hm
  have here : xs[m]? = some xs[m] := List.getElem?_eq_getElem (by omega)
  have compared : ∀ l y, xs[l]? = some y → i < l → l < k →
      e.place y < e.place xs[m] ∨ e.place y = e.place xs[m] ∧ m ≤ l := by
    intro l y hy hil hlk
    have le := top l (Finset.mem_Ioo.mpr ⟨hil, hlk⟩)
    rw [Prod.Lex.toLex_le_toLex] at le
    simpa only [far, hy, here, Option.map_some, Option.getD_some,
      OrderDual.toDual_le_toDual] using le
  refine ⟨m, xs[m], low, high, here, fun l y hy hil hlm => ?_, fun l y hy hil hlk => ?_⟩
  · rcases compared l y hy hil (hlm.trans high) with less | ⟨-, late⟩
    · exact less
    · exact absurd hlm (Nat.not_lt.mpr late)
  · rcases compared l y hy hil hlk with less | ⟨same, -⟩
    · exact less.le
    · exact same.le

/-- Where a bar between two equal swings is further out than they are, so is a swing
between them. -/
theorem exists_between (defined : ∀ x ∈ xs, ⊥ < e.place x) {i j k : Nat} {x y z : Float}
    (first : e.StandsAt s xs i x) (second : e.StandsAt s xs k y) (level : e.place x = e.place y)
    (here : xs[j]? = some z) (after : i < j) (before : j < k) (above : e.place x < e.place z) :
    ∃ m v, i < m ∧ m < k ∧ e.StandsAt s xs m v ∧ e.place x < e.place v := by
  have end_inside := second.enough_after
  obtain ⟨m, v, low, high, hm, earlier, top⟩ := exists_summit e xs after before (by omega)
  have summit : e.place x < e.place v := above.trans_le (top j z here after before)
  have far_left : i + s < m := by
    by_contra near
    have within := first.after m v hm low (by omega)
    exact summit.not_ge (atLeast_iff_place.mp within).2
  have far_right : m + s < k := by
    by_contra near
    have within := second.before m v hm (by omega) high
    exact (level ▸ summit).not_gt (beyond_iff_place.mp within).2
  refine ⟨m, v, low, high,
    ⟨hm, by omega, by omega, fun l w hw near hlm => ?_, fun l w hw hml near => ?_⟩,
    summit⟩
  · exact beyond_iff_place.mpr ⟨defined w (List.mem_of_getElem? hw), earlier l w hw (by omega) hlm⟩
  · exact atLeast_iff_place.mpr ⟨defined w (List.mem_of_getElem? hw),
      top l w hw (by omega) (by omega)⟩

end Extremity

/-! ## Dominance of equal swings -/

namespace Extremity

variable {e : Extremity} {xs : List Float} {i j k : Nat} {x y : Float}

theorem beyond_congr (level : e.place x = e.place y) (z : Float) : e.beyond z x = e.beyond z y := by
  rw [Bool.eq_iff_iff, beyond_iff_place, beyond_iff_place, level]

/-- What breaks a swing breaks a later equal one, if it has not been broken by then. -/
theorem BrokenAt.later_equal (broken : e.BrokenAt xs i x j) (clear : e.Keeps xs i x k)
    (here : xs[k]? = some y) (earlier : i < k) (level : e.place x = e.place y) :
    e.BrokenAt xs k y j := by
  obtain ⟨z, hz, exceeds⟩ := broken.exceeded
  refine ⟨?_, ⟨z, hz, beyond_congr level z ▸ exceeds⟩, fun l w hw after before => ?_⟩
  · rcases Nat.lt_trichotomy j k with before | rfl | after
    · rw [clear j z hz broken.later before] at exceeds
      cases exceeds
    · cases here.symm.trans hz
      exact absurd level (beyond_iff_place.mp exceeds).2.ne
    · exact after
  · rw [← beyond_congr level]
    exact broken.first l w hw (earlier.trans after) before

end Extremity

namespace Swing

variable {s : Nat} {candles : List (Candle Float)} {x y : Swing Float}

/-- Of two equal swings without a bar further out between them, the earlier one is no
less dominant. -/
theorem dominanceAt_le (hx : x.Formed s candles) (hy : y.Formed s candles) (side : x.side = y.side)
    (earlier : x.index < y.index) (level : x.side.place x.price = x.side.place y.price)
    (clear : x.side.Keeps (candles.map x.side.price) x.index x.price y.index) (bar : Nat) :
    y.dominanceAt bar ≤ x.dominanceAt bar := by
  by_cases broken : ∃ j, x.brokenAt = some j ∧ j ≤ bar
  · obtain ⟨j, hj, known⟩ := broken
    have here := hy.stands.here
    have hj' := hy.broken j
    rw [← side] at here hj'
    have both := ((hx.broken j).mp hj).later_equal clear here earlier level
    rw [hx.dominanceAt_broken hj known, hy.dominanceAt_broken (hj'.mpr both) known]
    omega
  · have unbroken : x.dominanceAt bar = bar - x.index := by
      refine dominanceAt_unbroken fun j hj => ?_
      by_contra known
      exact broken ⟨j, hj, Nat.not_lt.mp known⟩
    by_cases broken' : ∃ j, y.brokenAt = some j ∧ j ≤ bar
    · obtain ⟨j, hj, known⟩ := broken'
      rw [unbroken, hy.dominanceAt_broken hj known]
      omega
    · rw [unbroken, dominanceAt_unbroken fun j hj => ?_]
      · omega
      · by_contra known
        exact broken' ⟨j, hj, Nat.not_lt.mp known⟩

end Swing

/-! ## The anchor -/

namespace Ray

variable {e : Extremity} {s first last bar : Nat} {candles : List (Candle Float)}

/-- Between two peaks of a window of which the later one outranks the earlier one without
being further out, there is a peak further out. -/
theorem exists_peak_between (positive : 1 ≤ s) (defined : ∀ c ∈ candles, ⊥ < e.place (e.price c))
    {x y : Swing Float} (hx : x ∈ windowPeaks e first last (detectSwings s candles))
    (hy : y ∈ windowPeaks e first last (detectSwings s candles)) (earlier : x.index < y.index)
    (better : outranks e bar y x = true) : e.place x.price < e.place y.price ∨
      ∃ z ∈ windowPeaks e first last (detectSwings s candles),
        x.index < z.index ∧ z.index < y.index ∧ e.place x.price < e.place z.price := by
  obtain ⟨foundx, rfl, -, recent, -⟩ := mem_windowPeaks_iff.mp hx
  obtain ⟨foundy, side, -, -, confirmed⟩ := mem_windowPeaks_iff.mp hy
  have formedx := (mem_detectSwings_iff positive).mp foundx
  have formedy := (mem_detectSwings_iff positive).mp foundy
  rcases Bool.or_eq_true_iff.mp better with further | tie
  · exact .inl (Extremity.beyond_iff_place.mp further).2
  · obtain ⟨equal, more⟩ := Bool.and_eq_true_iff.mp tie
    have level := (Extremity.place_eq_of_beq (e := x.side) equal).symm
    right
    -- without a bar further out in between the later peak would not dominate
    have clouded : ¬ x.side.Keeps (candles.map x.side.price) x.index x.price y.index := by
      intro clear
      have less := Swing.dominanceAt_le formedx formedy side.symm earlier level clear bar
      exact absurd (of_decide_eq_true more) (Nat.not_lt.mpr less)
    unfold Extremity.Keeps at clouded
    push Not at clouded
    obtain ⟨j, z, hz, after, before, further⟩ := clouded
    rw [ne_eq, Bool.not_eq_false, Extremity.beyond_iff_place] at further
    have stands := formedy.stands
    rw [side] at stands
    obtain ⟨m, v, low, high, peak, above⟩ := Extremity.exists_between (by simpa using defined)
      formedx.stands stands level hz after before further.2
    obtain ⟨w, found, formed, same, rfl, rfl⟩ := peak.found positive
    have late := formed.confirmed
    have later := formedy.confirmed
    refine ⟨w, mem_windowPeaks_iff.mpr ⟨found, same, ?_, by omega, by omega⟩, low, high, above⟩
    exact Extremity.bot_lt_place_iff.mp (bot_le.trans_lt above)

/-- In a list in order, what lies between two entries stands between them. -/
theorem mem_between {γ : Type} {index : γ → Nat} {before between after : List γ} {x y z : γ}
    (sorted : (before ++ x :: (between ++ y :: after)).Pairwise fun x y => index x < index y)
    (here : z ∈ before ++ x :: (between ++ y :: after)) (low : index x < index z)
    (high : index z < index y) : z ∈ between := by
  obtain ⟨-, rest, front⟩ := List.pairwise_append.mp sorted
  obtain ⟨-, rest⟩ := List.pairwise_cons.mp rest
  obtain ⟨-, back, -⟩ := List.pairwise_append.mp rest
  rcases List.mem_append.mp here with here | here
  · have := front z here x List.mem_cons_self
    omega
  · rcases List.mem_cons.mp here with rfl | here
    · omega
    · rcases List.mem_append.mp here with here | here
      · exact here
      · rcases List.mem_cons.mp here with rfl | here
        · omega
        · have := (List.pairwise_cons.mp back).1 z here
          omega

/-- If a peak that outranks an earlier one is further out, or else one in between is, the
anchor is the first of the outermost peaks. -/
theorem anchor_first_of {peaks : List (Swing Float)}
    (sorted : peaks.Pairwise fun x y => x.index < y.index)
    (priced : ∀ p ∈ peaks, ⊥ < e.place p.price)
    (between : ∀ x ∈ peaks, ∀ y ∈ peaks, x.index < y.index → outranks e bar y x = true →
      e.place x.price < e.place y.price ∨
        ∃ z ∈ peaks, x.index < z.index ∧ z.index < y.index ∧ e.place x.price < e.place z.price)
    {top : Swing Float} {later : List (Swing Float)}
    (found : anchor e bar peaks = some (top, later)) :
    FirstGreatest (fun p : Swing Float => e.place p.price) peaks top later := by
  cases peaks with
  | nil => cases found
  | cons peak rest =>
    have up : ∀ before x seen y after, peak :: rest = before ++ x :: (seen ++ y :: after) →
        outranks e bar y x = true → e.place x.price < e.place y.price ∨
          ∃ z ∈ seen, e.place x.price < e.place z.price := by
      intro before x seen y after all better
      rw [all] at sorted between
      have earlier : x.index < y.index :=
        (List.pairwise_cons.mp (List.pairwise_append.mp sorted).2.1).1 y (by simp)
      refine (between x (by simp) y (by simp) earlier better).imp_right ?_
      rintro ⟨z, here, low, high, above⟩
      exact ⟨z, mem_between sorted here low high, above⟩
    have scan := bestFrom_first (fun p : Swing Float => e.place p.price)
      (fun x _ y hy => place_le_of_not_outranks (priced y hy)) up
    simp only [anchor, anchorFrom_eq, Option.some.injEq] at found
    rwa [found] at scan

/-- **The anchor is the oldest of the outermost peaks.** -/
theorem anchor_first (positive : 1 ≤ s) (defined : ∀ c ∈ candles, ⊥ < e.place (e.price c))
    {top : Swing Float} {later : List (Swing Float)}
    (found : anchor e bar (windowPeaks e first last (detectSwings s candles)) = some (top, later)) :
    FirstGreatest (fun p : Swing Float => e.place p.price)
      (windowPeaks e first last (detectSwings s candles)) top later :=
  anchor_first_of (windowPeaks_sorted e first last s candles) (fun _ => place_of_mem_windowPeaks)
    (fun _ hx _ hy => exists_peak_between positive defined hx hy) found

/-! ## Skipped bars -/

/-- A peak that no other is further out than, and that is further out than the
peaks before it. -/
structure IsOldestOutermost {α : Type} [Scalar α] (side : Extremity) (peak : Pivot α → Prop)
    (p : Pivot α) : Prop where
  here : peak p
  outermost : ∀ q, peak q → side.beyond q.price p.price = false
  oldest : ∀ q, peak q → q.index < p.index → side.beyond p.price q.price = true

variable {kind : RayKind} {lookback skip : Nat}

theorem FirstGreatest.isOldestOutermost {top : Swing Float} {later : List (Swing Float)}
    (greatest : FirstGreatest (fun p : Swing Float => kind.side.place p.price)
      (windowPeaks kind.side (windowStart lookback bar) (bar - skip)
        (detectSwings s candles)) top later) :
    IsOldestOutermost kind.side (IsPeak kind lookback skip bar (detectSwings s candles))
      top.pivot := by
  have sorted := windowPeaks_sorted kind.side (windowStart lookback bar) (bar - skip) s candles
  have priced : ∀ w ∈ windowPeaks kind.side (windowStart lookback bar) (bar - skip)
      (detectSwings s candles), ⊥ < kind.side.place w.price := fun _ => place_of_mem_windowPeaks
  obtain ⟨before, split, less, atMost⟩ := greatest
  have peak : ∀ p, IsPeak kind lookback skip bar (detectSwings s candles) p ↔
      ∃ w ∈ before ++ top :: later, w.pivot = p := fun p => by rw [isPeak_iff, split]
  rw [split] at sorted priced
  refine ⟨(peak _).mpr ⟨top, by simp, rfl⟩, fun q hq => ?_, fun q hq earlier => ?_⟩
  · obtain ⟨w, hw, rfl⟩ := (peak q).mp hq
    refine Extremity.beyond_eq_false ?_
    rcases List.mem_append.mp hw with hw | hw
    · exact (less w hw).le
    · rcases List.mem_cons.mp hw with rfl | hw
      · exact le_rfl
      · exact atMost w hw
  · obtain ⟨w, hw, rfl⟩ := (peak q).mp hq
    refine Extremity.beyond_iff_place.mpr ⟨priced w hw, ?_⟩
    rcases List.mem_append.mp hw with here | here
    · exact less w here
    · -- the peaks that are left come later
      have behind := (List.pairwise_cons.mp (List.pairwise_append.mp sorted).2.1).1
      rcases List.mem_cons.mp here with rfl | here
      · exact absurd earlier (Nat.lt_irrefl _)
      · exact absurd earlier (Nat.lt_asymm (behind w here))

/-- The peaks of a window stand where they do whatever the bars behind it are. -/
theorem pivots_windowPeaks_take (side : Extremity) (first s : Nat) {last k : Nat}
    (inside : last < k) {α : Type} [Scalar α] {candles : List (Candle α)}
    (fits : k ≤ candles.length) :
    (windowPeaks side first last (detectSwings s (candles.take k))).map Swing.pivot =
      (windowPeaks side first last (detectSwings s candles)).map Swing.pivot := by
  rw [detectSwings_take s fits, windowPeaks_within side first inside, List.map_map]
  rfl

/-- The same pivots have the same anchor, and the same ones after it. -/
theorem anchor_congr (positive : 1 ≤ s) {candles' : List (Candle Float)}
    (defined : ∀ c ∈ candles, ⊥ < e.place (e.price c))
    (defined' : ∀ c ∈ candles', ⊥ < e.place (e.price c))
    (same : (windowPeaks e first last (detectSwings s candles)).map Swing.pivot =
      (windowPeaks e first last (detectSwings s candles')).map Swing.pivot) :
    (anchor e bar (windowPeaks e first last (detectSwings s candles))).map
        (Prod.map Swing.pivot (List.map Swing.pivot)) =
      (anchor e bar (windowPeaks e first last (detectSwings s candles'))).map
        (Prod.map Swing.pivot (List.map Swing.pivot)) := by
  have alike : anchor e bar (windowPeaks e first last (detectSwings s candles)) = none ↔
      anchor e bar (windowPeaks e first last (detectSwings s candles')) = none := by
    rw [anchor_eq_none_iff, anchor_eq_none_iff, ← List.map_eq_nil_iff, same, List.map_eq_nil_iff]
  cases found : anchor e bar (windowPeaks e first last (detectSwings s candles)) with
  | none => rw [alike.mp found]
  | some parts =>
    cases found' : anchor e bar (windowPeaks e first last (detectSwings s candles')) with
    | none => cases found.symm.trans (alike.mpr found')
    | some parts' =>
      have greatest := (anchor_first positive defined found).map
        (fun p : Pivot Float => e.place p.price) Swing.pivot
      have greatest' := (anchor_first positive defined' found').map
        (fun p : Pivot Float => e.place p.price) Swing.pivot
      rw [same] at greatest
      obtain ⟨top, later⟩ := greatest.unique greatest'
      exact congrArg some (Prod.ext top later)

/-- **Skipped bars are not seen.** Candles that are the same up to the skipped bars have
the same ray, if their extremes on its side are defined, and its anchor is the oldest of
the outermost peaks. -/
theorem skip_zone_unseen (kind : RayKind) (s lookback skip bar : Nat)
    (candles candles' : List (Candle Float)) (positive : 1 ≤ s)
    (defined : ∀ c ∈ candles, Scalar.isUndefined (kind.side.price c) = false)
    (defined' : ∀ c ∈ candles', Scalar.isUndefined (kind.side.price c) = false)
    (inside : bar < candles.length) (inside' : bar < candles'.length)
    (agree : candles.take (bar + 1 - skip) = candles'.take (bar + 1 - skip)) :
    let chain := chainAt kind lookback skip candles.length (detectSwings s candles) bar
    chain = chainAt kind lookback skip candles'.length (detectSwings s candles') bar ∧
      ∀ c, chain = some c → IsOldestOutermost kind.side
        (IsPeak kind lookback skip bar (detectSwings s candles)) c.anchor := by
  have placed : ∀ c ∈ candles, ⊥ < kind.side.place (kind.side.price c) :=
    fun c hc => Extremity.bot_lt_place_iff.mpr (defined c hc)
  have placed' : ∀ c ∈ candles', ⊥ < kind.side.place (kind.side.price c) :=
    fun c hc => Extremity.bot_lt_place_iff.mpr (defined' c hc)
  constructor
  · by_cases short : bar < skip
    · unfold chainAt
      rw [if_pos (by tauto), if_pos (by tauto)]
    · refine chainAt_congr inside inside' (anchor_congr positive placed placed' ?_)
      have behind : bar - skip < bar + 1 - skip := by omega
      rw [← pivots_windowPeaks_take _ _ s behind (by omega), agree,
        pivots_windowPeaks_take _ _ s behind (by omega)]
  · intro c seen
    obtain ⟨top, later, found, rfl⟩ := of_chainAt seen
    exact (anchor_first positive placed found).isOldestOutermost

/-- Two equal peaks, and skipped bars that stay below them or rise above. -/
theorem skip_zone_unseen_equal_peaks :
    let calm : List (Candle Float) := [1, 5, 2, 5, 1, 3, 2].map (.still .earliest)
    let wild : List (Candle Float) := [1, 5, 2, 5, 1, 7, 9, 8].map (.still .earliest)
    let chain := chainAt .resistance 7 2 calm.length (detectSwings 1 calm) 6
    calm.take 5 = wild.take 5 ∧
    chain.map (fun c => (c.anchor.index, c.segments.map fun leg => leg.newer.index)) =
      some (1, [3]) ∧
    chain = chainAt .resistance 7 2 wild.length (detectSwings 1 wild) 6 ∧
    ∀ c, chain = some c → IsOldestOutermost .high
      (IsPeak .resistance 7 2 6 (detectSwings 1 calm)) c.anchor := by
  intro calm wild chain
  have agree : calm.take 5 = wild.take 5 := by
    simp only [calm, wild, List.map_cons, List.take_succ_cons, List.take_zero]
  exact ⟨agree, by decide +kernel, skip_zone_unseen .resistance 1 7 2 6 calm wild (by decide)
    (by decide +kernel) (by decide +kernel) (by decide) (by decide) agree⟩

end Ray

end MarketConditions
