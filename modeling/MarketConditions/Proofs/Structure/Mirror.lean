import Mathlib.Data.List.Forall2
import Mathlib.Data.List.ReduceOption
import MarketConditions.Proofs.Market.Cut
import MarketConditions.Proofs.Scalar.Negation
import MarketConditions.Proofs.Structure.Rays

/-!
# Candles turned upside down

The opposite of the highs are the lows of candles that are turned upside down. Whatever is
compared there comes out the other way, so a swing high turns into a swing low at the same
bar, which the same bar breaks. A ray turns into the ray of the other kind.

- `Candle.mirror`, `Swing.mirror`, `Pivot.mirror`: upside down.
- `Extremity.beyond_opposite`: what is further out on one side is so on the other.
- `Extremity.breaks_mirror`, `Extremity.swings_mirror`: **swings turn into swings** of
  the other side.
- `Ray.chainFrom_mirror`, `Ray.chainAt_mirror`: **a chain turns into a chain**, leg by leg.
- `rays_mirror`: **support mirrors resistance**.
-/

namespace MarketConditions

/-! ## Upside down -/

/-- The other side. -/
def Extremity.opposite : Extremity → Extremity
  | high => low
  | low => high

/-- The other kind. -/
def RayKind.opposite : RayKind → RayKind
  | resistance => support
  | support => resistance

theorem RayKind.side_opposite (kind : RayKind) : kind.opposite.side = kind.side.opposite := by
  cases kind <;> rfl

open Scalar (Opposed ExactNegation opposed_neg)

variable {α : Type} [Scalar α]

/-- Highs for lows, and every price its opposite. -/
def Candle.mirror (c : Candle α) : Candle α :=
  { c with high := -c.low, low := -c.high, close := -c.close }

/-- A swing upside down. -/
def Swing.mirror (w : Swing α) : Swing α := { w with side := w.side.opposite, price := -w.price }

/-- A peak upside down. -/
def Pivot.mirror (p : Pivot α) : Pivot α := ⟨p.index, -p.price⟩

/-- A leg between the opposite peaks, that runs the opposite way. -/
structure Segment.Mirrors (leg leg' : Segment α) : Prop where
  newer : leg'.newer = leg.newer.mirror
  older : leg'.older = leg.older.mirror
  slope : Opposed leg.slope leg'.slope

/-- A chain from the opposite anchor, with opposite legs. -/
structure RayChain.Mirrors (c c' : RayChain α) : Prop where
  anchor : c'.anchor = c.anchor.mirror
  segments : List.Forall₂ Segment.Mirrors c.segments c'.segments

theorem Extremity.price_mirror (e : Extremity) (c : Candle α) :
    e.opposite.price c.mirror = -e.price c := by
  cases e <;> rfl

/-- A column of extremes is the opposite one. -/
theorem Extremity.map_price_mirror (e : Extremity) (candles : List (Candle α)) :
    (candles.map Candle.mirror).map e.opposite.price = (candles.map e.price).map (-·) := by
  rw [List.map_map, List.map_map]
  exact List.map_congr_left fun c _ => e.price_mirror c

variable [ExactNegation α]

/-! ## Swings -/

namespace Extremity

/-- What is further out on one side has an opposite that is further out on the other. -/
theorem beyond_opposite (e : Extremity) {x x' y y' : α} (hx : Opposed x x') (hy : Opposed y y') :
    e.opposite.beyond x' y' = e.beyond x y := by
  cases e with
  | high => exact decide_eq_decide.mpr (ExactNegation.lt_iff hx hy)
  | low => exact decide_eq_decide.mpr (ExactNegation.lt_iff hy hx)

theorem atLeast_opposite (e : Extremity) {x x' y y' : α} (hx : Opposed x x') (hy : Opposed y y') :
    e.opposite.atLeast x' y' = e.atLeast x y := by
  cases e with
  | high => exact decide_eq_decide.mpr (ExactNegation.le_iff hx hy)
  | low => exact decide_eq_decide.mpr (ExactNegation.le_iff hy hx)

theorem standsOut_mirror (e : Extremity) (s : Nat) (before : List α) (x : α) (after : List α) :
    e.opposite.standsOut s (before.map (-·)) (-x) (after.map (-·)) =
      e.standsOut s before x after := by
  have beyond : e.opposite.beyond (-x) ∘ (-·) = e.beyond x :=
    funext fun y => e.beyond_opposite (opposed_neg x) (opposed_neg y)
  have atLeast : e.opposite.atLeast (-x) ∘ (-·) = e.atLeast x :=
    funext fun y => e.atLeast_opposite (opposed_neg x) (opposed_neg y)
  unfold standsOut
  rw [List.length_map, List.length_map, ← List.map_drop, ← List.map_take,
    List.all_map, List.all_map, beyond, atLeast]

/-- A pivot is one of the other side. -/
theorem isPivot_mirror (e : Extremity) (s : Nat) (xs : List α) (bar : Nat) :
    e.opposite.isPivot s (xs.map (-·)) bar = e.isPivot s xs bar := by
  unfold isPivot
  rw [← List.map_drop, ← List.map_take]
  cases xs.drop bar with
  | nil => rfl
  | cons x after => exact e.standsOut_mirror s _ x after

theorem pivots_mirror (e : Extremity) (s : Nat) (xs : List α) :
    e.opposite.pivots s (xs.map (-·)) = (e.pivots s xs).map (Option.map (Prod.map id (-·))) := by
  unfold pivots
  rw [Column.numbered_map, List.map_map, List.map_map]
  apply List.map_congr_left
  intro (bar, x) _
  show (if e.opposite.isPivot s (xs.map (-·)) bar then some (bar, -x) else none) =
    Option.map _ (if e.isPivot s xs bar then some (bar, x) else none)
  rw [isPivot_mirror]
  split <;> rfl

/-- A bar breaks the same pending swings. -/
theorem breakStep_mirror (e : Extremity) (pending : Pending α) (entry : α × Option (Nat × α)) :
    e.opposite.breakStep (pending.map (Prod.map id (-·)))
        (Prod.map (-·) (Option.map (Prod.map id (-·))) entry) =
      ((e.breakStep pending entry).1.map (Prod.map id (-·)), (e.breakStep pending entry).2) := by
  obtain ⟨x, confirmed⟩ := entry
  have exceeded : (fun p : Nat × α => e.opposite.beyond (-x) p.2) ∘ Prod.map id (-·) =
      fun p => e.beyond x p.2 :=
    funext fun p => e.beyond_opposite (opposed_neg x) (opposed_neg p.2)
  unfold breakStep
  simp only [Prod.map_apply, List.dropWhile_map, List.takeWhile_map, exceeded, List.map_map,
    List.map_append, Option.toList_map]
  rfl

/-- **The same bar breaks a swing.** -/
theorem breaks_mirror (e : Extremity) (s : Nat) (xs : List α) :
    e.opposite.breaks s (xs.map (-·)) = e.breaks s xs := by
  have confirmed : Column.lag s none (e.opposite.pivots s (xs.map (-·))) =
      (Column.lag s none (e.pivots s xs)).map (Option.map (Prod.map id (-·))) := by
    rw [pivots_mirror, ← Column.lag_map]
    rfl
  have broken : Column.running e.opposite.breakStep []
      ((xs.map (-·)).zip (Column.lag s none (e.opposite.pivots s (xs.map (-·))))) =
        Column.running e.breakStep [] (xs.zip (Column.lag s none (e.pivots s xs))) := by
    rw [confirmed, List.zip_map]
    exact Column.running_map (List.map (Prod.map id (-·))) _ e.breakStep_mirror [] _
  unfold breaks
  simp only [broken]

/-- **Swings of one side turn into swings of the other.** -/
theorem swings_mirror (e : Extremity) (s : Nat) (candles : List (Candle α)) :
    e.opposite.swings s (candles.map Candle.mirror) =
      (e.swings s candles).map (Option.map Swing.mirror) := by
  apply List.ext_getElem?
  intro i
  rw [getElem?_swings, List.getElem?_map, List.getElem?_map, getElem?_swings, map_price_mirror,
    isPivot_mirror, breaks_mirror, List.length_map, Option.map_map, Option.map_map]
  congr 1
  funext c
  show (if _ then some _ else none) = Option.map Swing.mirror (if _ then some _ else none)
  split
  · unfold Swing.ofPivot
    rw [price_mirror]
    rfl
  · rfl

end Extremity

omit [Scalar α] [ExactNegation α] in
/-- Swings of both sides, bar by bar, and those of one side among them. -/
theorem filter_side_flatten {highs lows : List (Option (Swing α))}
    (lengths : highs.length = lows.length) (high : ∀ w, some w ∈ highs → w.side = .high)
    (low : ∀ w, some w ∈ lows → w.side = .low) (e : Extremity) :
    (List.zipWith (fun (high low : Option (Swing α)) => high.toList ++ low.toList) highs
      lows).flatten.filter (fun w => w.side = e) =
        (match e with | .high => highs | .low => lows).reduceOption := by
  induction highs generalizing lows with
  | nil =>
    obtain rfl := List.eq_nil_of_length_eq_zero lengths.symm
    cases e <;> rfl
  | cons h highs ih =>
    obtain ⟨l, lows, rfl⟩ := List.exists_cons_of_length_eq_add_one lengths.symm
    have rest := ih (Nat.succ.inj lengths) (fun w hw => high w (List.mem_cons_of_mem _ hw))
      (fun w hw => low w (List.mem_cons_of_mem _ hw))
    have first := fun w (hw : some w = h) => high w (hw ▸ List.mem_cons_self)
    have second := fun w (hw : some w = l) => low w (hw ▸ List.mem_cons_self)
    rw [List.zipWith_cons_cons, List.flatten_cons, List.filter_append, List.filter_append, rest]
    -- at a bar there is a high or none, and a low or none
    cases e <;> rcases h with _ | h <;> rcases l with _ | l <;>
      simp [List.reduceOption, first, second]

omit [ExactNegation α] in
/-- The swings of one side are those that are found of it, bar by bar. -/
theorem filter_side_detectSwings (s : Nat) (candles : List (Candle α)) (e : Extremity) :
    (detectSwings s candles).filter (fun w => w.side = e) = (e.swings s candles).reduceOption := by
  have side : ∀ (e : Extremity) (w : Swing α), some w ∈ e.swings s candles → w.side = e := by
    intro e w found
    obtain ⟨i, here⟩ := List.mem_iff_getElem?.mp found
    rcases Extremity.of_getElem?_swings here with none | ⟨c, -, broken, some⟩
    · cases none
    · cases some
      rfl
  have lengths : (Extremity.high.swings s candles).length =
      (Extremity.low.swings s candles).length := by
    simp [Extremity.swings]
  refine (filter_side_flatten lengths (side .high) (side .low) e).trans ?_
  cases e <;> rfl

namespace Ray

omit [ExactNegation α] in
theorem windowPeaks_detectSwings (e : Extremity) (first last s : Nat) (candles : List (Candle α)) :
    windowPeaks e first last (detectSwings s candles) = (e.swings s candles).reduceOption.filter
      fun w => decide (first ≤ w.index) && decide (w.confirmedAt ≤ last) &&
        !Scalar.isUndefined w.price := by
  rw [← filter_side_detectSwings, List.filter_filter]
  unfold windowPeaks
  congr 1
  funext w
  simp only [Bool.and_assoc, Bool.and_comm]

/-- Peaks turn into peaks. -/
theorem windowPeaks_mirror (e : Extremity) (first last s : Nat) (candles : List (Candle α)) :
    windowPeaks e.opposite first last (detectSwings s (candles.map Candle.mirror)) =
      (windowPeaks e first last (detectSwings s candles)).map Swing.mirror := by
  rw [windowPeaks_detectSwings, windowPeaks_detectSwings, Extremity.swings_mirror,
    List.reduceOption_map, List.filter_map]
  congr 2
  funext w
  show (decide (first ≤ w.index) && decide (w.confirmedAt ≤ last) &&
    !Scalar.isUndefined (-w.price)) = _
  rw [(opposed_neg w.price).isUndefined]

theorem outranks_mirror (e : Extremity) (bar : Nat) (peak best : Swing α) :
    outranks e.opposite bar peak.mirror best.mirror = outranks e bar peak best := by
  have prices := opposed_neg peak.price
  have bests := opposed_neg best.price
  show (e.opposite.beyond (-peak.price) (-best.price) || (-peak.price == -best.price) && _) = _
  rw [e.beyond_opposite prices bests, ExactNegation.beq prices bests]
  rfl

/-! ## Chains -/

theorem slopeTo_mirror (older newer : Pivot α) :
    Opposed (slopeTo older newer) (slopeTo older.mirror newer.mirror) :=
  ExactNegation.div _ (ExactNegation.sub (opposed_neg newer.price) (opposed_neg older.price))

/-- The step from a peak turns into that from the opposite one. -/
theorem steepest_mirror (e : Extremity) (origin : Pivot α) (later : List (Pivot α)) :
    Option.Rel (fun s s' => s.leg.Mirrors s'.leg ∧ s'.later = s.later.map Pivot.mirror)
      (steepest e origin later) (steepest e.opposite origin.mirror (later.map Pivot.mirror)) := by
  cases later with
  | nil => exact .none
  | cons peak rest =>
    have scan : bestFrom (fun x y => e.opposite.beyond (slopeTo origin.mirror x)
          (slopeTo origin.mirror y)) peak.mirror (rest.map Pivot.mirror) (rest.map Pivot.mirror) =
        Prod.map Pivot.mirror (List.map Pivot.mirror)
          (bestFrom (fun x y => e.beyond (slopeTo origin x) (slopeTo origin y))
            peak rest rest) := by
      refine bestFrom_map Pivot.mirror (fun x y => ?_) ..
      exact e.beyond_opposite (slopeTo_mirror origin x) (slopeTo_mirror origin y)
    rw [List.map_cons]
    unfold steepest
    simp only [steepestFrom_eq, scan]
    exact .some ⟨⟨rfl, rfl, slopeTo_mirror ..⟩, rfl⟩

/-- **A chain turns into a chain**, leg by leg. -/
theorem chainFrom_mirror (e : Extremity) (steps : Nat) (origin : Pivot α) (later : List (Pivot α)) :
    List.Forall₂ Segment.Mirrors (chainFrom e steps origin later)
      (chainFrom e.opposite steps origin.mirror (later.map Pivot.mirror)) := by
  induction steps generalizing origin later with
  | zero => exact .nil
  | succ steps ih =>
    -- a step is there on both sides or on neither, and it leaves the opposite peaks
    have step := steepest_mirror e origin later
    unfold chainFrom
    generalize steepest e origin later = found at step ⊢
    generalize steepest e.opposite origin.mirror (later.map Pivot.mirror) = found' at step ⊢
    cases step with
    | none => exact .nil
    | @some s s' step =>
      obtain ⟨leg, rest⟩ := step
      have legs := ih s.leg.newer s.later
      rw [← leg.newer, ← rest] at legs
      exact .cons leg legs

/-- **What is seen at a bar** turns into what is seen of the other kind. -/
theorem chainAt_mirror (kind : RayKind) (lookback skip bars s : Nat) (candles : List (Candle α))
    (bar : Nat) : Option.Rel RayChain.Mirrors
      (chainAt kind lookback skip bars (detectSwings s candles) bar)
      (chainAt kind.opposite lookback skip bars
        (detectSwings s (candles.map Candle.mirror)) bar) := by
  have outermost := anchor_map (Swing.mirror : Swing α → Swing α) (outranks_mirror kind.side bar)
    (windowPeaks kind.side (windowStart lookback bar) (bar - skip) (detectSwings s candles))
  unfold chainAt
  rw [RayKind.side_opposite, windowPeaks_mirror, outermost]
  split
  · exact .none
  · cases anchor kind.side bar
      (windowPeaks kind.side (windowStart lookback bar) (bar - skip) (detectSwings s candles)) with
    | none => exact .none
    | some found =>
      obtain ⟨first, later⟩ := found
      have legs := chainFrom_mirror kind.side later.length first.pivot (later.map Swing.pivot)
      have pivots : (later.map Swing.mirror).map Swing.pivot =
          (later.map Swing.pivot).map Pivot.mirror := by
        rw [List.map_map, List.map_map]
        rfl
      rw [← pivots] at legs
      refine .some ⟨rfl, ?_⟩
      show List.Forall₂ Segment.Mirrors (chainFrom _ later.length _ _).reverse
        (chainFrom kind.side.opposite (later.map Swing.mirror).length first.mirror.pivot
          ((later.map Swing.mirror).map Swing.pivot)).reverse
      rw [List.length_map]
      exact List.forall₂_reverse_iff.mpr legs

/-! ## The carried line -/

theorem slope_mirror {c c' : RayChain α} (h : c.Mirrors c') : Opposed c.slope c'.slope := by
  obtain ⟨anchor, legs⟩ := c
  obtain ⟨anchor', legs'⟩ := c'
  cases h.segments with
  | nil => exact ExactNegation.zero
  | cons leg _ => exact leg.slope

theorem projection_mirror {c c' : RayChain α} (h : c.Mirrors c') (bar : Nat) :
    Opposed (c.projection bar) (c'.projection bar) := by
  obtain ⟨anchor, legs⟩ := c
  obtain ⟨anchor', legs'⟩ := c'
  obtain ⟨rfl, segments⟩ := h
  cases segments with
  | nil => exact opposed_neg anchor.price
  | @cons leg leg' rest rest' mirrors _ =>
    show Opposed (leg.newer.price + leg.slope * _)
      (leg'.newer.price + leg'.slope * (_ - Scalar.ofNat leg'.newer.index))
    rw [mirrors.newer]
    exact ExactNegation.add (opposed_neg _) (ExactNegation.mul _ mirrors.slope)

theorem broken_mirror {c c' : RayChain α} (h : c.Mirrors c') (kind : RayKind) (bar : Nat)
    (candle : Candle α) : kind.opposite.side.beyond candle.mirror.close (c'.projection bar) =
      kind.side.beyond candle.close (c.projection bar) := by
  rw [RayKind.side_opposite]
  exact kind.side.beyond_opposite (opposed_neg candle.close) (projection_mirror h bar)

/-- What is read of opposite things is opposite, and undefined where there is nothing. -/
theorem opposed_orUndefined {β : Type} {R : β → β → Prop} {f : β → α}
    (opposed : ∀ x x', R x x' → Opposed (f x) (f x')) {x x' : Option β} (h : Option.Rel R x x') :
    Opposed (Column.orUndefined (x.map f)) (Column.orUndefined (x'.map f)) := by
  cases h with
  | none => exact ExactNegation.undefined
  | some h => exact opposed _ _ h

end Ray

/-- **Support mirrors resistance**, and resistance support. Of candles upside down, the
ray of the other kind has the opposite price and slope at every bar, and is broken at
the same bars. -/
theorem rays_mirror (kind : RayKind) (lookback skip s : Nat) (candles : List (Candle α)) :
    let upsideDown := candles.map Candle.mirror
    let ray := rays kind lookback skip candles (detectSwings s candles)
    let ray' := rays kind.opposite lookback skip upsideDown (detectSwings s upsideDown)
    List.Forall₂ Opposed ray.price ray'.price ∧ List.Forall₂ Opposed ray.slope ray'.slope ∧
      ray'.broken = ray.broken := by
  have chains := Ray.chainAt_mirror kind lookback skip candles.length s candles
  simp only [rays, Column.numbered_map, List.map_map, List.length_map, List.forall₂_map_left_iff,
    List.forall₂_map_right_iff, List.forall₂_same]
  refine ⟨?price, ?slope, ?broken⟩
  case price =>
    rintro ⟨bar, c⟩ -
    exact Ray.opposed_orUndefined (fun _ _ h => Ray.projection_mirror h bar) (chains bar)
  case slope =>
    rintro ⟨bar, c⟩ -
    exact Ray.opposed_orUndefined (fun _ _ h => Ray.slope_mirror h) (chains bar)
  case broken =>
    apply List.map_congr_left
    rintro ⟨bar, c⟩ -
    have chain := chains bar
    simp only [Function.comp_apply, Prod.map_apply, id_eq]
    generalize Ray.chainAt kind lookback skip candles.length (detectSwings s candles) bar = seen
      at chain ⊢
    generalize Ray.chainAt kind.opposite lookback skip candles.length
      (detectSwings s (candles.map Candle.mirror)) bar = seen' at chain ⊢
    cases chain with
    | none => rfl
    | some h => exact Ray.broken_mirror h kind bar c

/-- Two equal peaks carry a level line. Upside down its slope is the positive zero again,
which is the opposite by value. -/
theorem rays_mirror_level :
    let candles : List (Candle Float) := [1, 3, 1, 3, 1, 4].map (.still .earliest)
    let ray := rays .resistance 6 1 candles (detectSwings 1 candles)
    let upsideDown := candles.map Candle.mirror
    let ray' := rays .support 6 1 upsideDown (detectSwings 1 upsideDown)
    ray.broken = [false, false, false, false, false, true] ∧
    ray.slope.getLast?.map Float.toBits = some 0 ∧ ray'.slope.getLast?.map Float.toBits = some 0 ∧
    List.Forall₂ Opposed ray.price ray'.price ∧ List.Forall₂ Opposed ray.slope ray'.slope ∧
      ray'.broken = ray.broken := by
  intro candles ray upsideDown ray'
  exact ⟨by decide +kernel, by decide +kernel, by decide +kernel,
    rays_mirror .resistance 6 1 1 candles⟩

end MarketConditions
