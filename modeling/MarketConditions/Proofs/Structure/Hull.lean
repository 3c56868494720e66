import Mathlib.Tactic.Linarith
import MarketConditions.Proofs.Scalar.Exact
import MarketConditions.Proofs.Structure.Tracks

/-!
# Rays are hulls

A ray turns from peak to peak, each time to the one that the steepest line leads to.
Looked at in exact numbers its legs are the outer hull of the peaks from the anchor on: a
path from the anchor to the last peak that only ever turns away from the price, with no
peak beyond the line of any leg.

- `Extremity.height`: how far out a number is, so that highs and lows are the
  same upside down.
- `Ray.gradient`, `Segment.lineAt`: the slope between two peaks, and the line
  that a leg is on.
- `Ray.steepest_spec`: a step takes the greatest gradient, and gradients from its end
  are not greater.
- `Ray.Hull`: what the legs of a chain are, and `Ray.Hull.step`: one more leg before them.
- `Ray.chain_hull`: **a ray is the hull of its peaks**.
-/

namespace MarketConditions

open Exact

/-! ## Heights -/

namespace Extremity

/-- How far out a real number is on a side. What is none is at zero. -/
def height : Extremity → Exact → ℝ
  | high, .number x => x
  | low, .number x => -x
  | _, _ => 0

variable (e : Extremity) {x y : Exact}

theorem beyond_iff (hx : IsNumber x) (hy : IsNumber y) :
    e.beyond x y = true ↔ e.height y < e.height x := by
  obtain ⟨a, rfl⟩ := hx
  obtain ⟨b, rfl⟩ := hy
  cases e <;> simp [beyond, height]

theorem atLeast_iff (hx : IsNumber x) (hy : IsNumber y) :
    e.atLeast x y = true ↔ e.height y ≤ e.height x := by
  obtain ⟨a, rfl⟩ := hx
  obtain ⟨b, rfl⟩ := hy
  cases e <;> simp [atLeast, height]

@[simp] theorem height_zero : e.height 0 = 0 := by
  cases e <;> simp [height]

theorem height_add (hx : IsNumber x) (hy : IsNumber y) :
    e.height (x + y) = e.height x + e.height y := by
  obtain ⟨a, rfl⟩ := hx
  obtain ⟨b, rfl⟩ := hy
  cases e
  · rfl
  · exact neg_add a b

theorem height_sub (hx : IsNumber x) (hy : IsNumber y) :
    e.height (x - y) = e.height x - e.height y := by
  obtain ⟨a, rfl⟩ := hx
  obtain ⟨b, rfl⟩ := hy
  rw [number_sub]
  cases e
  · rfl
  · exact neg_sub' a b

/-- Heights grow with a factor. -/
theorem height_mul (hx : IsNumber x) (r : ℝ) : e.height (x * number r) = e.height x * r := by
  obtain ⟨a, rfl⟩ := hx
  cases e
  · rfl
  · exact (neg_mul a r).symm

theorem height_div (hx : IsNumber x) {r : ℝ} (nonzero : r ≠ 0) :
    e.height (x / number r) = e.height x / r := by
  obtain ⟨a, rfl⟩ := hx
  rw [number_div a nonzero]
  cases e
  · rfl
  · exact (neg_div r a).symm

end Extremity

/-! ## Lines -/

/-- The price of the line that a leg is on, at a bar. -/
def Segment.lineAt {α : Type} [Scalar α] (s : Segment α) (bar : Nat) : α :=
  s.older.price + s.slope * (Scalar.ofNat bar - Scalar.ofNat s.older.index)

namespace Ray

variable (e : Extremity)

/-- The height gained per bar from one peak to a later one. -/
noncomputable def gradient (older newer : Pivot Exact) : ℝ :=
  (e.height newer.price - e.height older.price) / ((newer.index : ℝ) - older.index)

variable {e} {older newer : Pivot Exact}

theorem bars_pos (earlier : older.index < newer.index) : 0 < (newer.index : ℝ) - older.index :=
  sub_pos.mpr (Nat.cast_lt.mpr earlier)

/-- A peak lies on or within the line through an earlier one if its gradient is
no greater. -/
theorem gradient_le_iff (earlier : older.index < newer.index) {m : ℝ} :
    gradient e older newer ≤ m ↔
      e.height newer.price ≤ e.height older.price + m * ((newer.index : ℝ) - older.index) := by
  unfold gradient
  rw [div_le_iff₀ (bars_pos earlier), sub_le_iff_le_add']

theorem height_newer (earlier : older.index < newer.index) : e.height newer.price =
    e.height older.price + gradient e older newer * ((newer.index : ℝ) - older.index) := by
  unfold gradient
  rw [div_mul_cancel₀ _ (bars_pos earlier).ne']
  exact (add_sub_cancel _ _).symm

/-- The slope of a leg is the gradient between its ends. -/
theorem height_slopeTo (ho : IsNumber older.price) (hn : IsNumber newer.price)
    (earlier : older.index < newer.index) :
    IsNumber (slopeTo older newer) ∧ e.height (slopeTo older newer) = gradient e older newer := by
  have bars : (Scalar.ofNat (newer.index - older.index) : Exact) =
      number ((newer.index : ℝ) - older.index) := by
    rw [scalar_ofNat, Nat.cast_sub earlier.le]
  unfold slopeTo
  constructor
  · exact (hn.sub ho).div ⟨_, scalar_ofNat _⟩ (scalar_ofNat_ne_zero (Nat.sub_pos_of_lt earlier))
  · rw [bars, e.height_div (hn.sub ho) (bars_pos earlier).ne', e.height_sub hn ho]
    rfl

/-- The height of the line that a leg is on, at a bar. -/
noncomputable def lineHeight (e : Extremity) (leg : Segment Exact) (bar : ℕ) : ℝ :=
  e.height leg.older.price + e.height leg.slope * ((bar : ℝ) - leg.older.index)

theorem height_lineAt {leg : Segment Exact} (ho : IsNumber leg.older.price)
    (hs : IsNumber leg.slope) (bar : ℕ) :
    IsNumber (leg.lineAt bar) ∧ e.height (leg.lineAt bar) = lineHeight e leg bar := by
  unfold Segment.lineAt
  rw [scalar_ofNat, scalar_ofNat, number_sub]
  constructor
  · exact ho.add (hs.mul ⟨_, rfl⟩)
  · rw [e.height_add ho (hs.mul ⟨_, rfl⟩), e.height_mul hs]
    rfl

/-- Where no gradient from a peak is greater than the one to a second peak, none from the
second to a third is. -/
theorem gradient_after {first next q : Pivot Exact} (forward : first.index < next.index)
    (later : next.index < q.index) (steepest : gradient e first q ≤ gradient e first next) :
    gradient e next q ≤ gradient e first next := by
  rw [gradient_le_iff (forward.trans later)] at steepest
  rw [gradient_le_iff later, height_newer forward]
  linarith

/-- A line that covers the end of a steeper one covers what that one covers
before its end. -/
theorem covers_before {first next p : Pivot Exact} {leg : Segment Exact} {m : ℝ}
    (tip : e.height next.price = e.height first.price + m * ((next.index : ℝ) - first.index))
    (covered : e.height p.price ≤ e.height first.price + m * ((p.index : ℝ) - first.index))
    (before : p.index ≤ next.index) (gentler : e.height leg.slope ≤ m)
    (covers : e.height next.price ≤ lineHeight e leg next.index) :
    e.height p.price ≤ lineHeight e leg p.index := by
  have bars : 0 ≤ (next.index : ℝ) - p.index := sub_nonneg.mpr (Nat.cast_le.mpr before)
  have fall := mul_le_mul_of_nonneg_right gentler bars
  unfold lineHeight at covers ⊢
  linarith

/-! ## Hulls -/

/-- What the legs from a peak on are, over the peaks after it. -/
structure Hull (e : Extremity) (first : Pivot Exact) (later : List (Pivot Exact))
    (legs : List (Segment Exact)) : Prop extends Track first later legs where
  /-- No leg is steeper than the gradients from the first peak. -/
  bounded : ∀ m, (∀ q ∈ later, gradient e first q ≤ m) → ∀ leg ∈ legs, e.height leg.slope ≤ m
  turns : legs.Pairwise fun leg next => e.height next.slope ≤ e.height leg.slope
  covers : ∀ leg ∈ legs, ∀ p ∈ first :: later, e.height p.price ≤ lineHeight e leg p.index

/-- Peaks in the order of their bars, whose prices are real numbers. -/
structure Ordered (peaks : List (Pivot Exact)) : Prop where
  sorted : peaks.Pairwise fun p q => p.index < q.index
  numbers : ∀ p ∈ peaks, IsNumber p.price

theorem Ordered.suffix {before after : List (Pivot Exact)} (ordered : Ordered (before ++ after)) :
    Ordered after where
  sorted := (List.pairwise_append.mp ordered.sorted).2.1
  numbers p hp := ordered.numbers p (List.mem_append_right _ hp)

/-- **A step takes the greatest gradient.** -/
theorem steepest_spec {first : Pivot Exact} {later : List (Pivot Exact)}
    (ordered : Ordered (first :: later)) {s : Step Exact}
    (found : steepest e first later = some s) :
    ∃ skipped next, later = skipped ++ next :: s.later ∧
      s.leg = ⟨next, first, slopeTo first next⟩ ∧
      ∀ q ∈ later, gradient e first q ≤ gradient e first next := by
  obtain ⟨after, sorted⟩ := List.pairwise_cons.mp ordered.sorted
  have slope : ∀ q ∈ later, IsNumber (slopeTo first q) ∧
      e.height (slopeTo first q) = gradient e first q := fun q hq =>
    height_slopeTo (ordered.numbers first List.mem_cons_self)
      (ordered.numbers q (List.mem_cons_of_mem _ hq)) (after q hq)
  have compared : ∀ x ∈ later, ∀ y ∈ later, e.beyond (slopeTo first x) (slopeTo first y) = true ↔
      gradient e first y < gradient e first x := by
    intro x hx y hy
    rw [e.beyond_iff (slope x hx).1 (slope y hy).1, (slope x hx).2, (slope y hy).2]
  cases later with
  | nil => cases found
  | cons peak rest =>
    simp only [Ray.steepest, steepestFrom_eq, Option.some.injEq] at found
    subst found
    obtain ⟨skipped, split, greatest⟩ := bestFrom_spec (gradient e first)
      (fun x hx y hy up => ((compared x hx y hy).mp up).le) fun x hx y hy down => by
        rw [Bool.eq_false_iff, ne_eq, compared x hx y hy] at down
        exact not_lt.mp down
    exact ⟨skipped, _, split, rfl, greatest⟩

/-- A peak with none after it. -/
theorem Hull.alone (first : Pivot Exact) : Hull e first [] [] where
  toTrack := .alone first
  bounded _ _ _ hleg := nomatch hleg
  turns := .nil
  covers _ hleg := nomatch hleg

/-- One more leg before a hull. -/
theorem Hull.step {first next : Pivot Exact} {skipped left : List (Pivot Exact)}
    {legs : List (Segment Exact)} (hull : Hull e next left legs)
    (ordered : Ordered (first :: (skipped ++ next :: left)))
    (steepest : ∀ q ∈ skipped ++ next :: left, gradient e first q ≤ gradient e first next) :
    Hull e first (skipped ++ next :: left) (⟨next, first, slopeTo first next⟩ :: legs) := by
  obtain ⟨after, sorted⟩ := List.pairwise_cons.mp ordered.sorted
  have inside : next ∈ skipped ++ next :: left := by simp
  have forward := after next inside
  have slope : e.height (slopeTo first next) = gradient e first next :=
    (height_slopeTo (ordered.numbers first List.mem_cons_self)
      (ordered.numbers next (List.mem_cons_of_mem _ inside)) forward).2
  obtain ⟨-, behind, earlier⟩ := List.pairwise_append.mp sorted
  -- the gradient of the step is a bound from its end on, so it bounds the other legs
  have gentler : ∀ leg ∈ legs, e.height leg.slope ≤ gradient e first next := by
    refine hull.bounded _ fun q hq => ?_
    exact gradient_after forward ((List.pairwise_cons.mp behind).1 q hq) (steepest q (by simp [hq]))
  -- the first line covers all peaks, the later lines those before their own peaks as well
  have covered : ∀ p ∈ first :: (skipped ++ next :: left), e.height p.price ≤
      e.height first.price + gradient e first next * ((p.index : ℝ) - first.index) := by
    intro p hp
    rcases List.mem_cons.mp hp with rfl | hp
    · simp
    · exact (gradient_le_iff (after p hp)).mp (steepest p hp)
  refine {
    toTrack := hull.toTrack.step forward
    bounded := ?bounded
    turns := ?turns
    covers := ?covers }
  case bounded =>
    intro m greatest leg hleg
    have first_leg : gradient e first next ≤ m := greatest next inside
    rcases List.mem_cons.mp hleg with rfl | hleg
    · exact slope.trans_le first_leg
    · exact (gentler leg hleg).trans first_leg
  case turns =>
    rw [List.pairwise_cons]
    exact ⟨fun leg hleg => slope.symm ▸ gentler leg hleg, hull.turns⟩
  case covers =>
    intro leg hleg p hp
    rcases List.mem_cons.mp hleg with rfl | hleg
    · unfold lineHeight
      rw [slope]
      exact covered p hp
    · -- a peak that is not part of the rest lies before its first one
      have before_next : p ∈ next :: left ∨ p.index ≤ next.index := by
        rcases List.mem_cons.mp hp with rfl | hp
        · exact .inr forward.le
        · rcases List.mem_append.mp hp with hp | hp
          · exact .inr (earlier p hp next List.mem_cons_self).le
          · exact .inl hp
      rcases before_next with later | before
      · exact hull.covers leg hleg p later
      · exact covers_before (height_newer forward) (covered p hp) before (gentler leg hleg)
          (hull.covers leg hleg next List.mem_cons_self)

/-- **The legs of a chain are a hull**, by induction over its steps. -/
theorem chainFrom_hull {steps : Nat} {first : Pivot Exact} {later : List (Pivot Exact)}
    (ordered : Ordered (first :: later)) (enough : later.length ≤ steps) :
    Hull e first later (chainFrom e steps first later) := by
  refine chainFrom_induction
    (P := fun first later legs => Ordered (first :: later) → Hull e first later legs)
    (fun first _ => .alone first) ?_ enough ordered
  intro first later legs s found hull ordered
  obtain ⟨skipped, next, rfl, leg, greatest⟩ := steepest_spec ordered found
  rw [leg] at hull ⊢
  refine (hull ?_).step ordered greatest
  rw [← List.cons_append] at ordered
  exact ordered.suffix

/-! ## Hulls in exact numbers -/

section

variable {first : Pivot Exact} {later : List (Pivot Exact)} {legs : List (Segment Exact)}

/-- The numbers that legs are made of. -/
theorem Hull.numbers (hull : Hull e first later legs) (ordered : Ordered (first :: later))
    {leg : Segment Exact} (here : leg ∈ legs) : IsNumber leg.older.price ∧ IsNumber leg.slope := by
  obtain ⟨forward, slope⟩ := hull.path.leg here
  obtain ⟨older, newer⟩ := hull.vertices leg here
  have ho := ordered.numbers _ older
  have hn := ordered.numbers _ (List.mem_cons_of_mem _ newer)
  refine ⟨ho, ?_⟩
  rw [slope]
  exact (height_slopeTo (e := e) ho hn forward).1

/-- No peak is beyond the line of a leg. -/
theorem Hull.within_lines (hull : Hull e first later legs) (ordered : Ordered (first :: later)) :
    ∀ leg ∈ legs, ∀ p ∈ first :: later, e.atLeast (leg.lineAt p.index) p.price = true := by
  intro leg hleg p hp
  obtain ⟨ho, hs⟩ := hull.numbers ordered hleg
  obtain ⟨number, height⟩ := height_lineAt (e := e) ho hs p.index
  rw [e.atLeast_iff number (ordered.numbers p hp), height]
  exact hull.covers leg hleg p hp

/-- Every leg turns away from the price. -/
theorem Hull.turns_away (hull : Hull e first later legs) (ordered : Ordered (first :: later)) :
    legs.Pairwise fun leg next => e.atLeast leg.slope next.slope = true := by
  refine hull.turns.imp_of_mem fun hleg hnext turn => ?_
  exact (e.atLeast_iff (hull.numbers ordered hleg).2 (hull.numbers ordered hnext).2).mpr turn

/-- From an outermost peak no leg leads outwards. -/
theorem Hull.falls (hull : Hull e first later legs) (ordered : Ordered (first :: later))
    (outermost : ∀ q ∈ later, e.height q.price ≤ e.height first.price) :
    ∀ leg ∈ legs, e.atLeast 0 leg.slope = true := by
  intro leg hleg
  rw [e.atLeast_iff (isNonneg_literal 0).isNumber (hull.numbers ordered hleg).2, e.height_zero]
  refine hull.bounded 0 (fun q hq => ?_) leg hleg
  rw [gradient_le_iff ((List.pairwise_cons.mp ordered.sorted).1 q hq), zero_mul, add_zero]
  exact outermost q hq

end

/-! ## Rays -/

/-- The anchor is an outermost peak. -/
theorem anchor_spec {bar : ℕ} {peaks : List (Swing Exact)}
    (numbers : ∀ p ∈ peaks, IsNumber p.price) {first : Swing Exact} {later : List (Swing Exact)}
    (found : anchor e bar peaks = some (first, later)) :
    ∃ before, peaks = before ++ first :: later ∧
      ∀ p ∈ peaks, e.height p.price ≤ e.height first.price := by
  cases peaks with
  | nil => cases found
  | cons peak rest =>
    have up : ∀ x ∈ peak :: rest, ∀ y ∈ peak :: rest, outranks e bar x y = true →
        e.height y.price ≤ e.height x.price := by
      intro x hx y hy outranks
      rcases Bool.or_eq_true_iff.mp outranks with further | tie
      · exact ((e.beyond_iff (numbers x hx) (numbers y hy)).mp further).le
      · -- dominance only decides between peaks that are as far out
        rw [(beq_iff.mp (Bool.and_eq_true_iff.mp tie).1).1]
    have down : ∀ x ∈ peak :: rest, ∀ y ∈ peak :: rest, outranks e bar x y = false →
        e.height x.price ≤ e.height y.price := by
      intro x hx y hy not_outranks
      have not_further := (Bool.or_eq_false_iff.mp not_outranks).1
      rw [Bool.eq_false_iff, ne_eq, e.beyond_iff (numbers x hx) (numbers y hy)] at not_further
      exact not_lt.mp not_further
    simp only [anchor, anchorFrom_eq, Option.some.injEq] at found
    have scan := bestFrom_spec (fun s : Swing Exact => e.height s.price) up down
    rwa [found] at scan

/-- The peaks of a window are in order, and numbers if those of the candles are. -/
theorem windowPeaks_ordered (side : Extremity) (first last strength : ℕ)
    {candles : List (Candle Exact)} (numbers : ∀ c ∈ candles, IsNumber c.high ∧ IsNumber c.low) :
    Ordered ((windowPeaks side first last (detectSwings strength candles)).map Swing.pivot) where
  sorted := List.pairwise_map.mpr (windowPeaks_sorted side first last strength candles)
  numbers p hp := by
    obtain ⟨x, hx, rfl⟩ := List.mem_map.mp hp
    obtain ⟨c, hc, price⟩ := price_of_mem_windowPeaks hx
    show IsNumber x.price
    rw [price]
    cases side
    · exact (numbers c hc).1
    · exact (numbers c hc).2

/-- **A ray is the hull of its peaks.** Prices being real numbers, let `peaks` be the
peaks of the window and `legs` the legs of the chain, forward in time. The anchor is an
outermost peak. The legs lead from it to the last peak, over peaks. For a ray along highs
no slope is above zero, no slope is above one before it, and no peak from the anchor on is
above the line of any leg; so none is between the ends of the leg. For a ray along lows it
is the other way round. -/
theorem chain_hull (kind : RayKind) (strength lookback skip bar : ℕ) (candles : List (Candle Exact))
    (numbers : ∀ c ∈ candles, IsNumber c.high ∧ IsNumber c.low) {chain : RayChain Exact}
    (seen : chainAt kind lookback skip candles.length (detectSwings strength candles) bar =
      some chain) :
    let side := kind.side
    let peaks := (windowPeaks side (windowStart lookback bar) (bar - skip)
      (detectSwings strength candles)).map Swing.pivot
    let legs := chain.segments.reverse
    ∃ before later, peaks = before ++ chain.anchor :: later ∧
      (∀ p ∈ peaks, side.atLeast chain.anchor.price p.price) ∧
      Path chain.anchor legs ((chain.anchor :: later).getLast (List.cons_ne_nil _ _)) ∧
      (∀ leg ∈ legs, leg.older ∈ peaks ∧ leg.newer ∈ peaks) ∧
      (∀ leg ∈ legs, side.atLeast 0 leg.slope) ∧
      (legs.Pairwise fun leg next => side.atLeast leg.slope next.slope) ∧
      (∀ leg ∈ legs, ∀ p ∈ chain.anchor :: later, side.atLeast (leg.lineAt p.index) p.price) ∧
      ∀ leg ∈ legs, ∀ p ∈ peaks, leg.older.index ≤ p.index → p.index ≤ leg.newer.index →
        side.atLeast (leg.lineAt p.index) p.price := by
  intro side peaks legs
  have ordered : Ordered peaks := windowPeaks_ordered side _ _ strength numbers
  obtain ⟨first, later, found, rfl⟩ := of_chainAt seen
  have price : ∀ x ∈ windowPeaks side (windowStart lookback bar) (bar - skip)
      (detectSwings strength candles), IsNumber x.price :=
    fun x hx => ordered.numbers x.pivot (List.mem_map_of_mem hx)
  obtain ⟨before, split, outermost⟩ := anchor_spec price found
  have parts : peaks = before.map Swing.pivot ++ first.pivot :: later.map Swing.pivot := by
    show List.map _ _ = _
    rw [split, List.map_append, List.map_cons]
  have rest : Ordered (first.pivot :: later.map Swing.pivot) := (parts ▸ ordered).suffix
  have within : ∀ p ∈ first.pivot :: later.map Swing.pivot, p ∈ peaks :=
    fun p hp => parts ▸ List.mem_append_right _ hp
  have hull : Hull side first.pivot (later.map Swing.pivot) legs := by
    show Hull _ _ _ (List.reverse (List.reverse _))
    rw [List.reverse_reverse]
    exact chainFrom_hull rest (List.length_map _).le
  have summit : ∀ p ∈ peaks, side.height p.price ≤ side.height first.pivot.price := by
    intro p hp
    obtain ⟨x, hx, rfl⟩ := List.mem_map.mp hp
    exact outermost x hx
  have first_number := rest.numbers _ List.mem_cons_self
  refine ⟨_, _, parts, ?_, hull.path, ?_, hull.falls rest ?_, hull.turns_away rest,
    hull.within_lines rest, ?_⟩
  · intro p hp
    exact (side.atLeast_iff first_number (ordered.numbers p hp)).mpr (summit p hp)
  · intro leg hleg
    obtain ⟨older, newer⟩ := hull.vertices leg hleg
    exact ⟨within _ older, within _ (List.mem_cons_of_mem _ newer)⟩
  · intro q hq
    exact summit q (within q (List.mem_cons_of_mem _ hq))
  · intro leg hleg p hp after _
    refine hull.within_lines rest leg hleg p ?_
    -- a peak before the anchor is before all legs
    have sorted := ordered.sorted
    rw [parts] at hp sorted
    rcases List.mem_append.mp hp with hp | hp
    · have earlier := (List.pairwise_append.mp sorted).2.2 p hp _ (hull.vertices leg hleg).1
      exact absurd after (Nat.not_le.mpr earlier)
    · exact hp

/-! ## A ridge -/

/-- Bars without a range, that rise to 5, 2 and 4 and fall back in between. -/
def ridge : List (Candle Exact) :=
  [1, 5, 1, 2, 1, 4, 1].map fun x : ℕ =>
    ⟨.earliest, number x, number x, number x, number x, number 1, none, none⟩

/-- The swings of the ridge, bar by bar. -/
theorem pivots_ridge :
    Extremity.high.pivots 1 (ridge.map Extremity.high.price) =
      [none, some (1, number 5), none, some (3, number 2), none, some (5, number 4), none] ∧
    Extremity.low.pivots 1 (ridge.map Extremity.low.price) =
      [none, none, some (2, number 1), none, some (4, number 1), none, none] := by
  have bars : List.range 7 = [0, 1, 2, 3, 4, 5, 6] := rfl
  constructor <;>
    simp [Extremity.pivots, ridge, Extremity.price, Column.numbered, bars, Extremity.isPivot,
      Extremity.standsOut, Extremity.beyond, Extremity.atLeast]

theorem peaks_ridge : (windowPeaks .high (windowStart 7 6) (6 - 0) (detectSwings 1 ridge)).map
    Swing.pivot = [⟨1, number 5⟩, ⟨3, number 2⟩, ⟨5, number 4⟩] := by
  simp only [detectSwings, Extremity.swings, pivots_ridge]
  simp [ridge, List.zipWith, Swing.ofPivot, windowStart, windowPeaks, Extremity.price, Swing.pivot]

/-- One leg leads over the lower peak. -/
theorem chainAt_ridge : chainAt .resistance 7 0 7 (detectSwings 1 ridge) 6 =
    some ⟨⟨1, number 5⟩,
      [⟨⟨5, number 4⟩, ⟨1, number 5⟩, slopeTo ⟨1, number 5⟩ ⟨5, number 4⟩⟩]⟩ := by
  have lower : ¬(5 : ℝ) < 2 ∧ ¬(5 : ℝ) < 4 ∧ (2 : ℝ) ≠ 5 ∧ (4 : ℝ) ≠ 5 := by norm_num
  have near : slopeTo ⟨1, number 5⟩ ⟨3, number 2⟩ = number (-3 / 2) := by
    simp [slopeTo, number_div]
    norm_num
  have far : slopeTo ⟨1, number 5⟩ ⟨5, number 4⟩ = number (-1 / 4) := by
    simp [slopeTo, number_div]
    norm_num
  have steeper : (-3 / 2 : ℝ) < -1 / 4 := by norm_num
  simp only [detectSwings, Extremity.swings, pivots_ridge]
  simp [ridge, List.zipWith, Swing.ofPivot, chainAt, windowStart, windowPeaks, RayKind.side,
    Extremity.price, anchor, anchorFrom, outranks, Extremity.beyond, chainFrom, Ray.steepest,
    steepestFrom, Swing.pivot, lower, near, far, steeper]

/-- The line of that leg falls, and the lower peak is not above it. -/
theorem chain_hull_ridge :
    (∀ c ∈ ridge, IsNumber c.high ∧ IsNumber c.low) ∧
    ∃ leg : Segment Exact, chainAt .resistance 7 0 7 (detectSwings 1 ridge) 6 =
        some ⟨⟨1, number 5⟩, [leg]⟩ ∧
      Extremity.high.atLeast 0 leg.slope ∧ Extremity.high.atLeast (leg.lineAt 3) (number 2) := by
  have numbers : ∀ c ∈ ridge, IsNumber c.high ∧ IsNumber c.low := by
    intro c hc
    obtain ⟨x, -, rfl⟩ := List.mem_map.mp hc
    exact ⟨⟨x, rfl⟩, ⟨x, rfl⟩⟩
  obtain ⟨before, later, -, -, -, -, falls, -, -, covers⟩ :=
    chain_hull .resistance 1 7 0 6 ridge numbers chainAt_ridge
  refine ⟨numbers, _, chainAt_ridge, falls _ (by simp), ?_⟩
  refine covers _ (by simp) ⟨3, number 2⟩ ?_ (by decide) (by decide)
  show _ ∈ (windowPeaks .high _ _ _).map _
  rw [peaks_ridge]
  simp

end Ray

end MarketConditions
