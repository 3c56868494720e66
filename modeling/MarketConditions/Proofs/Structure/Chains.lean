import MarketConditions.Proofs.Structure.Detection
import MarketConditions.Proofs.Structure.Tracks

/-!
# The shape of a ray

A ray is there as soon as its window holds a peak, whatever else the bars are. It starts
at an outermost peak and leads from peak to later peak up to the latest one, in one piece.
No slope need be defined for that, as when an infinite price is on the way.

- `Ray.IsPeak`: the peaks of a window, said of the swings.
- `Ray.chainAt_eq_none_iff`: where there is no ray.
- `Ray.anchor_outermost`: no peak is further out than the anchor.
- `RayChain.Connects`: **what the legs of a ray make**, and
  `Ray.chain_connects`: they make it.
- `Ray.chain_drawn`: a ray is drawn until there is no step left.
-/

namespace MarketConditions

/-! ## Peaks -/

namespace Ray

section

variable {α : Type} [Scalar α]

/-- A peak that a ray may touch at a bar: a swing of its side with a price, from the first
bar of the window on, and confirmed before the skipped bars. -/
def IsPeak (kind : RayKind) (lookback skip bar : Nat) (swings : List (Swing α))
    (p : Pivot α) : Prop :=
  ∃ w ∈ swings, w.side = kind.side ∧ Scalar.isUndefined w.price = false ∧
    bar + 1 - lookback ≤ w.index ∧ w.confirmedAt ≤ bar - skip ∧ w.pivot = p

variable {kind : RayKind} {lookback skip bar : Nat} {swings : List (Swing α)}

theorem isPeak_iff {p : Pivot α} : IsPeak kind lookback skip bar swings p ↔
    ∃ w ∈ windowPeaks kind.side (windowStart lookback bar) (bar - skip) swings, w.pivot = p := by
  simp only [mem_windowPeaks_iff, and_assoc]
  rfl

theorem anchor_eq_none_iff {side : Extremity} {peaks : List (Swing α)} :
    anchor side bar peaks = none ↔ peaks = [] := by
  cases peaks with
  | nil => exact iff_of_true rfl rfl
  | cons peak rest => exact iff_of_false nofun nofun

end

variable {kind : RayKind} {s lookback skip bar : Nat} {candles : List (Candle Float)}

/-- There is no ray where the skipped bars reach back to the first bar, or where there
is no peak. -/
theorem chainAt_eq_none_iff (positive : 1 ≤ s) (looks : 1 ≤ lookback)
    (inside : bar < candles.length) :
    chainAt kind lookback skip candles.length (detectSwings s candles) bar = none ↔
      bar < skip ∨ ¬ ∃ p, IsPeak kind lookback skip bar (detectSwings s candles) p := by
  unfold chainAt
  split
  case isTrue outside =>
    refine iff_of_true rfl ?_
    rcases outside with none | past | skipped | empty
    · omega
    · omega
    · exact .inl skipped
    · -- a swing is confirmed after the first bar of the window, but not before the skipped ones
      refine .inr ?_
      rintro ⟨p, w, swing, -, -, recent, confirmed, -⟩
      have late := ((mem_detectSwings_iff positive).mp swing).confirmed
      unfold windowStart at empty
      omega
  case isFalse inside =>
    rw [Option.map_eq_none_iff, anchor_eq_none_iff, or_iff_right (by tauto)]
    simp only [isPeak_iff]
    rw [List.eq_nil_iff_forall_not_mem]
    simp

/-! ## The anchor -/

variable {e : Extremity} {x y : Swing Float}

/-- A peak takes the place of one that is not further out. Dominance only decides between
peaks that are as far out. -/
theorem place_le_of_outranks (better : outranks e bar x y = true) :
    e.place y.price ≤ e.place x.price := by
  rcases Bool.or_eq_true_iff.mp better with further | tie
  · exact (Extremity.beyond_iff_place.mp further).2.le
  · exact (Extremity.place_eq_of_beq (Bool.and_eq_true_iff.mp tie).1).ge

theorem place_le_of_not_outranks (defined : ⊥ < e.place y.price)
    (worse : outranks e bar x y = false) : e.place x.price ≤ e.place y.price :=
  (Extremity.beyond_eq_false_iff defined).mp (Bool.or_eq_false_iff.mp worse).1

/-- The peaks of a window have prices. -/
theorem place_of_mem_windowPeaks {first last : Nat} {swings : List (Swing Float)}
    (here : x ∈ windowPeaks e first last swings) : ⊥ < e.place x.price :=
  Extremity.bot_lt_place_iff.mpr (mem_windowPeaks_iff.mp here).2.2.1

/-- No peak is further out than the anchor. -/
theorem anchor_outermost {peaks : List (Swing Float)} (defined : ∀ p ∈ peaks, ⊥ < e.place p.price)
    {first : Swing Float} {later : List (Swing Float)}
    (found : anchor e bar peaks = some (first, later)) :
    ∀ p ∈ peaks, e.place p.price ≤ e.place first.price := by
  cases peaks with
  | nil => cases found
  | cons peak rest =>
    simp only [anchor, anchorFrom_eq, Option.some.injEq] at found
    have down : ∀ x ∈ peak :: rest, ∀ y ∈ peak :: rest, outranks e bar x y = false →
        e.place x.price ≤ e.place y.price := fun x _ y hy => place_le_of_not_outranks (defined y hy)
    obtain ⟨_, _, greatest⟩ := bestFrom_spec (fun w : Swing Float => e.place w.price)
      (fun x _ y _ => place_le_of_outranks) down
    rwa [found] at greatest

end Ray

/-! ## The legs -/

section

variable {α : Type} [Scalar α]

/-- The latest peak of a ray. -/
def RayChain.newest (c : RayChain α) : Pivot α :=
  ((c.segments.head?).map Segment.newer).getD c.anchor

/-- Legs that connect an outermost peak, the anchor, with the latest one. They are listed
from the newest to the oldest, each leads from a peak to a later one, and each begins
where the next in the list ends. -/
structure RayChain.Connects (side : Extremity) (peak : Pivot α → Prop) (c : RayChain α) : Prop where
  anchor : peak c.anchor
  outermost : ∀ p, peak p → side.beyond p.price c.anchor.price = false
  legs : ∀ leg ∈ c.segments, peak leg.newer ∧ peak leg.older ∧ leg.older.index < leg.newer.index
  joined : c.segments.IsChain fun leg next => leg.older = next.newer
  oldest : ∀ leg ∈ c.segments.getLast?, leg.older = c.anchor
  newest : peak c.newest
  latest : ∀ p, peak p → p.index ≤ c.newest.index

end

namespace Ray

variable {kind : RayKind} {s lookback skip bar : Nat} {candles : List (Candle Float)}

/-- The latest of some peaks in order. -/
theorem index_le_getLast {α : Type} {before later : List (Pivot α)} {first p : Pivot α}
    (sorted : (before ++ first :: later).Pairwise fun p q => p.index < q.index)
    (here : p ∈ before ++ first :: later) :
    p.index ≤ ((first :: later).getLast (List.cons_ne_nil _ _)).index := by
  have last : (before ++ first :: later).getLast (by simp) =
      (first :: later).getLast (List.cons_ne_nil _ _) := by
    simp
  have ordered := sorted.imp fun {p q : Pivot α} (earlier : p.index < q.index) => earlier.le
  rw [← last]
  exact ordered.rel_getLast_of_rel_getLast_getLast here le_rfl

/-- **The legs of a ray** connect its anchor with the latest peak. -/
theorem chain_connects {chain : RayChain Float}
    (seen : chainAt kind lookback skip candles.length (detectSwings s candles) bar = some chain) :
    chain.Connects kind.side (IsPeak kind lookback skip bar (detectSwings s candles)) := by
  obtain ⟨first, later, found, rfl⟩ := of_chainAt seen
  obtain ⟨before, split⟩ := anchor_split found
  have peak : ∀ p, IsPeak kind lookback skip bar (detectSwings s candles) p ↔
      p ∈ before.map Swing.pivot ++ first.pivot :: later.map Swing.pivot := by
    intro p
    rw [isPeak_iff, split, ← List.map_cons, ← List.map_append, List.mem_map]
  have sorted : (before.map Swing.pivot ++ first.pivot :: later.map Swing.pivot).Pairwise
      fun p q => p.index < q.index := by
    rw [← List.map_cons, ← List.map_append, ← split]
    exact List.pairwise_map.mpr (windowPeaks_sorted _ _ _ s candles)
  have track := chainFrom_track (e := kind.side) (List.pairwise_append.mp sorted).2.1
    (List.length_map Swing.pivot).le
  have newest : RayChain.newest ⟨first.pivot, (chainFrom kind.side later.length first.pivot
      (later.map Swing.pivot)).reverse⟩ =
        (first.pivot :: later.map Swing.pivot).getLast (List.cons_ne_nil _ _) := by
    unfold RayChain.newest
    rw [List.head?_reverse]
    exact track.path.newest
  refine {
    anchor := (peak _).mpr (by simp)
    outermost := ?outermost
    legs := ?legs
    joined := List.isChain_reverse.mpr track.path.joined
    oldest := ?oldest
    newest := ?newest
    latest := ?latest }
  case outermost =>
    intro p hp
    obtain ⟨w, hw, rfl⟩ := isPeak_iff.mp hp
    exact Extremity.beyond_eq_false
      (anchor_outermost (fun _ => place_of_mem_windowPeaks) found w hw)
  case legs =>
    intro leg hleg
    rw [List.mem_reverse] at hleg
    obtain ⟨older, newer⟩ := track.vertices leg hleg
    exact ⟨(peak _).mpr (by simp [newer]), (peak _).mpr (List.mem_append_right _ older),
      (track.path.leg hleg).1⟩
  case oldest =>
    rw [List.getLast?_reverse]
    exact track.path.head
  case newest =>
    rw [newest, peak]
    exact List.mem_append_right _ (List.getLast_mem _)
  case latest =>
    intro p hp
    rw [newest]
    exact index_le_getLast sorted ((peak p).mp hp)

/-- A ray is drawn from its anchor over the peaks after it, until there is no step left. -/
theorem chain_drawn {α : Type} [Scalar α] {bars : Nat} {swings : List (Swing α)}
    {chain : RayChain α} (seen : chainAt kind lookback skip bars swings bar = some chain) :
    ∃ before later, (windowPeaks kind.side (windowStart lookback bar) (bar - skip) swings).map
        Swing.pivot = before ++ chain.anchor :: later ∧
      Drawn kind.side chain.anchor later chain.segments.reverse := by
  obtain ⟨first, later, found, rfl⟩ := of_chainAt seen
  obtain ⟨before, split⟩ := anchor_split found
  refine ⟨before.map Swing.pivot, later.map Swing.pivot, by simp [split], ?_⟩
  rw [List.reverse_reverse]
  exact chainFrom_drawn (List.length_map Swing.pivot).le

/-- **The shape of a ray.** Over any bars there is a ray unless the skipped bars reach
back to the first one or there is no peak. It is drawn until there is no step left, and
its legs connect an outermost peak with the latest one. -/
theorem chain_shape (kind : RayKind) (s lookback skip bar : Nat) (candles : List (Candle Float))
    (positive : 1 ≤ s) (looks : 1 ≤ lookback) (inside : bar < candles.length) :
    let swings := detectSwings s candles
    let chain := chainAt kind lookback skip candles.length swings bar
    let peak := IsPeak kind lookback skip bar swings
    (chain = none ↔ bar < skip ∨ ¬ ∃ p, peak p) ∧
      ∀ c, chain = some c → c.Connects kind.side peak ∧
        ∃ before later, (windowPeaks kind.side (windowStart lookback bar) (bar - skip) swings).map
            Swing.pivot = before ++ c.anchor :: later ∧
          Drawn kind.side c.anchor later c.segments.reverse :=
  ⟨chainAt_eq_none_iff positive looks inside,
    fun _ seen => ⟨chain_connects seen, chain_drawn seen⟩⟩

/-- Infinite prices make the way to some peaks undefined. The ray is there all the same,
from an outermost peak to the latest one. -/
theorem chain_shape_undefined_slope :
    let candles : List (Candle Float) := [1, 1 / 0, 1, 1 / 0, 1, 4, 1].map (.still .earliest)
    let chain := chainAt .resistance 7 0 candles.length (detectSwings 1 candles) 6
    let peak := IsPeak .resistance 7 0 6 (detectSwings 1 candles)
    chain.map (fun c => c.segments.map fun leg =>
      (leg.older.index, leg.newer.index, Scalar.isUndefined leg.slope)) =
      some [(3, 5, false), (1, 3, true)] ∧
    ∃ c, chain = some c ∧ c.Connects .high peak := by
  intro candles chain peak
  have shown : chain.map (fun c => c.segments.map fun leg =>
      (leg.older.index, leg.newer.index, Scalar.isUndefined leg.slope)) =
      some [(3, 5, false), (1, 3, true)] := by
    decide +kernel
  obtain ⟨c, seen, -⟩ := Option.map_eq_some_iff.mp shown
  obtain ⟨-, shape⟩ := chain_shape .resistance 1 7 0 6 candles (by decide) (by decide) (by decide)
  exact ⟨shown, c, seen, (shape c seen).1⟩

end Ray

end MarketConditions
