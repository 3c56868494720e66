import Mathlib.Order.Bounds.Basic
import MarketConditions.Auction.Footprint
import MarketConditions.Proofs.Auction.ValueArea
import MarketConditions.Proofs.Market.Buckets
import MarketConditions.Proofs.Market.OrderFlow

/-!
# The footprint of a bar

The same trades are added up twice, by tick and over the whole bar. In exact
arithmetic a total by keys is the total, whether the keys are the two sides of a tick
or the ticks of a side.

- `Exact.Rounds`: the nearest whole number; `Exact.nearest_rounds`: **prices are
  rounded to it**.
- `OrderFlow.sides_eq`, `Footprint.traded_eq`: what is added up, in a bar and at a tick of
  it.
- `Footprint.total_pos_iff`, `Footprint.exists_filled_iff`: where something was traded.
- `Footprint.sum_traded`: **all levels** together hold what was traded on a side.
- `Footprint.Partition`: what a footprint says of its trades; `Footprint.partition_around`,
  `Footprint.ofTrades_partition`: every footprint says it.
- `footprints_partition`: **the footprint of a bar** partitions its trades and agrees with
  the order flow.
-/

namespace MarketConditions

open Exact

/-! ## Rounding -/

/-- The nearest whole number, and of two the one further from zero. -/
structure Exact.Rounds (x : ℝ) (n : ℤ) : Prop where
  near : |x - n| ≤ 1 / 2
  away : |x - n| = 1 / 2 → |x| ≤ |(n : ℝ)|

theorem Exact.rounds_upward {x : ℝ} (nonneg : 0 ≤ x) : Rounds x ⌊x + 1 / 2⌋ := by
  have lower := Int.floor_le (x + 1 / 2)
  have upper := Int.lt_floor_add_one (x + 1 / 2)
  have whole : (0 : ℝ) ≤ ⌊x + 1 / 2⌋ := by
    exact_mod_cast Int.floor_nonneg.mpr (by linarith)
  constructor
  · exact abs_le.mpr ⟨by linarith, by linarith⟩
  · intro half
    rw [abs_of_nonneg nonneg, abs_of_nonneg whole]
    rcases abs_eq (by norm_num) |>.mp half with above | below
    · linarith
    · linarith

theorem Exact.Rounds.neg {x : ℝ} {n : ℤ} (rounds : Rounds x n) : Rounds (-x) (-n) := by
  have mirrored : -x - ((-n : ℤ) : ℝ) = -(x - n) := by
    push_cast
    ring
  refine ⟨?_, ?_⟩
  · rw [mirrored, abs_neg]
    exact rounds.near
  · rw [mirrored, abs_neg, abs_neg, Int.cast_neg, abs_neg]
    exact rounds.away

/-- Within the signed 64-bit range a number is rounded to the nearest. -/
theorem Exact.nearest_rounds (x : ℝ) :
    ∃ n, Rounds x n ∧ (-2 ^ 63 ≤ n → n < 2 ^ 63 → Scalar.nearest (number x) = n) := by
  refine ⟨if 0 ≤ x then ⌊x + 1 / 2⌋ else ⌈x - 1 / 2⌉, ?_, fun least greatest => ?_⟩
  · split
    · exact rounds_upward ‹_›
    · rename_i negative
      have mirrored := (rounds_upward (x := -x) (by linarith)).neg
      rwa [neg_neg, show -x + 1 / 2 = -(x - 1 / 2) by ring, Int.floor_neg, neg_neg] at mirrored
  · show clamp _ = _
    unfold clamp
    omega

/-! ## Sizes by side and tick -/

/-- The sizes traded on one side. -/
def sizesOn {α : Type} (side : Side) (trades : List (Trade α)) : List α :=
  (trades.filter fun t => t.side = side).map Trade.size

variable {trades : List (Trade Exact)}

theorem sizesOn_concat (side : Side) (trades : List (Trade Exact)) (t : Trade Exact) :
    Scalar.sum (sizesOn side (trades ++ [t])) =
      if t.side = side then Scalar.sum (sizesOn side trades) + t.size
      else Scalar.sum (sizesOn side trades) := by
  unfold sizesOn
  rw [List.filter_append, List.filter_singleton, List.map_append]
  by_cases own : t.side = side
  · rw [if_pos own, decide_eq_true own]
    exact List.foldl_append
  · rw [if_neg own, decide_eq_false own]
    exact congrArg Scalar.sum (List.append_nil _)

/-- What the flow of a bar makes of its trades. -/
theorem OrderFlow.sides_eq (trades : List (Trade Exact)) :
    OrderFlow.sides trades =
      (Scalar.sum (sizesOn .buy trades), Scalar.sum (sizesOn .sell trades)) := by
  induction trades using List.reverseRecOn with
  | nil => exact congrArg₂ Prod.mk Exact.neg_zero.symm Exact.neg_zero.symm
  | append_singleton trades t ih =>
    unfold OrderFlow.sides at ih ⊢
    rw [List.foldl_append, ih, sizesOn_concat, sizesOn_concat]
    cases side : t.side with
    | buy => simp [side]
    | sell => simp [side]

namespace Footprint

variable {tick : Exact}

/-- The trades at one tick. -/
def tradesAt {α : Type} [Scalar α] (tick : α) (s : ℤ) (trades : List (Trade α)) : List (Trade α) :=
  trades.filter fun t => slot tick t.price = s

theorem traded_eq (trades : List (Trade Exact)) (side : Side) (s : ℤ) :
    traded tick trades side s = Scalar.sum (sizesOn side (tradesAt tick s trades)) := by
  unfold traded Scalar.sum sizesOn tradesAt
  rw [Exact.neg_zero, List.foldl_map, List.filter_filter, List.foldl_filter]
  simp

/-- What was traded at a tick, on both sides. -/
theorem total_levelAt (sized : ∀ t ∈ trades, t.size.IsNonneg) (s : ℤ) :
    (levelAt tick trades s).total = Scalar.sum ((tradesAt tick s trades).map Trade.size) := by
  have numbers : ∀ t ∈ tradesAt tick s trades, t.size.IsNumber :=
    fun t ht => (sized t (List.mem_of_mem_filter ht)).isNumber
  have both : [Side.buy, Side.sell].Nodup := by decide
  have sides := sum_by_key both Trade.side numbers (fun t _ => by cases t.side <;> decide)
  rw [← sides]
  show traded tick trades .buy s + traded tick trades .sell s =
    -0 + Scalar.sum (sizesOn .buy (tradesAt tick s trades)) +
      Scalar.sum (sizesOn .sell (tradesAt tick s trades))
  rw [traded_eq, traded_eq, Exact.neg_zero, Exact.zero_add]

theorem isNumber_total (sized : ∀ t ∈ trades, t.size.IsNonneg) (s : ℤ) :
    IsNumber (levelAt tick trades s).total := by
  rw [total_levelAt sized]
  exact .sum (List.forall_mem_map.mpr fun t ht => (sized t (List.mem_of_mem_filter ht)).isNumber)

/-- Something was traded at a tick just when a trade there is of some size. -/
theorem total_pos_iff (sized : ∀ t ∈ trades, t.size.IsNonneg) (s : ℤ) :
    0 < (levelAt tick trades s).total ↔ ∃ t ∈ trades, slot tick t.price = s ∧ 0 < t.size := by
  rw [total_levelAt sized, sum_pos_iff]
  · unfold tradesAt
    simp [and_assoc]
  · exact List.forall_mem_map.mpr fun t ht => sized t (List.mem_of_mem_filter ht)

/-! ## The ticks of a bar -/

theorem length_ticksBetween (lowest highest : ℤ) :
    (ticksBetween lowest highest).length = (highest - lowest + 1).toNat := by
  simp [ticksBetween]

theorem getElem?_ticksBetween {lowest highest : ℤ} {i : ℕ} {s : ℤ}
    (here : (ticksBetween lowest highest)[i]? = some s) : s = lowest + i := by
  unfold ticksBetween at here
  rw [List.getElem?_map, Option.map_eq_some_iff] at here
  obtain ⟨j, hj, rfl⟩ := here
  rw [List.getElem?_eq_some_iff] at hj
  obtain ⟨_, rfl⟩ := hj
  simp

theorem mem_ticksBetween {lowest highest s : ℤ} :
    s ∈ ticksBetween lowest highest ↔ lowest ≤ s ∧ s ≤ highest := by
  unfold ticksBetween
  rw [List.mem_map]
  constructor
  · rintro ⟨i, hi, rfl⟩
    have := List.mem_range.mp hi
    simp
    omega
  · rintro ⟨least, greatest⟩
    refine ⟨(s - lowest).toNat, List.mem_range.mpr (by omega), ?_⟩
    simp
    omega

theorem nodup_ticksBetween (lowest highest : ℤ) : (ticksBetween lowest highest).Nodup := by
  refine List.Nodup.map (fun i j same => ?_) List.nodup_range
  simpa using same

/-! ## The levels of a bar -/

/-- The levels of the ticks from one to another. -/
def levelsBetween {α : Type} [Scalar α] (tick : α) (trades : List (Trade α)) (low high : ℤ) :
    List (LevelVolume α) :=
  (ticksBetween low high).map (levelAt tick trades)

/-- A bar with some levels, around a point of control. -/
def around {α : Type} [Scalar α] (share : α) (levels : List (LevelVolume α)) (poc : ℕ) :
    FootprintBar α :=
  ⟨levels, poc, (ValueArea.valueArea (levels.map LevelVolume.total) poc share).2,
    (ValueArea.valueArea (levels.map LevelVolume.total) poc share).1⟩

section Levels

variable {share : Exact} {low high : ℤ}

theorem length_levelsBetween :
    (levelsBetween tick trades low high).length = (high - low + 1).toNat := by
  unfold levelsBetween
  rw [List.length_map, length_ticksBetween]

theorem level_eq {i : ℕ} {level : LevelVolume Exact}
    (here : level ∈ (levelsBetween tick trades low high)[i]?) :
    level = levelAt tick trades (low + i) := by
  unfold levelsBetween at here
  rw [List.getElem?_map] at here
  obtain ⟨s, hs, rfl⟩ := Option.map_eq_some_iff.mp here
  rw [getElem?_ticksBetween hs]

/-- The levels of trades are those of the ticks from their lowest to their highest. -/
theorem ofTrades_eq (share : Exact)
    (least : (trades.map fun t => slot tick t.price).min? = some low)
    (greatest : (trades.map fun t => slot tick t.price).max? = some high) :
    ofTrades share tick trades =
      (ValueArea.pointOfControl ((levelsBetween tick trades low high).map LevelVolume.total)).map
        (around share (levelsBetween tick trades low high)) := by
  unfold ofTrades
  cases slots : trades.map fun t => slot tick t.price with
  | nil =>
    rw [slots] at least
    exact nomatch least
  | cons s rest =>
    rw [slots, List.min?_cons', Option.some.injEq] at least
    rw [slots, List.max?_cons', Option.some.injEq] at greatest
    rw [← least, ← greatest]
    rfl

variable (sized : ∀ t ∈ trades, t.size.IsNonneg)
  (inside : ∀ t ∈ trades, slot tick t.price ∈ ticksBetween low high)
include sized inside

/-- **All levels** together hold what was traded on a side. -/
theorem sum_traded (side : Side) :
    Scalar.sum ((ticksBetween low high).map (traded tick trades side)) =
      Scalar.sum (sizesOn side trades) := by
  have onSide : ∀ t ∈ trades.filter fun t => t.side = side, t ∈ trades :=
    fun t ht => List.mem_of_mem_filter ht
  have keyed := sum_by_key (nodup_ticksBetween low high) (fun t : Trade Exact => slot tick t.price)
    (fun t ht => (sized t (onSide t ht)).isNumber) (fun t ht => inside t (onSide t ht))
  refine Eq.trans (congrArg Scalar.sum (List.map_congr_left fun s _ => ?_)) keyed
  rw [traded_eq]
  unfold sizesOn tradesAt
  rw [List.filter_comm]

/-- A level is filled just when a trade is of some size. -/
theorem exists_filled_iff :
    (∃ v ∈ (levelsBetween tick trades low high).map LevelVolume.total, 0 < v) ↔
      ∃ t ∈ trades, t.size > 0 := by
  constructor
  · rintro ⟨v, hv, filled⟩
    obtain ⟨level, hlevel, rfl⟩ := List.mem_map.mp hv
    obtain ⟨s, -, rfl⟩ := List.mem_map.mp hlevel
    obtain ⟨t, ht, -, above⟩ := (total_pos_iff sized s).mp filled
    exact ⟨t, ht, above⟩
  · rintro ⟨t, ht, above⟩
    have level : levelAt tick trades (slot tick t.price) ∈ levelsBetween tick trades low high :=
      List.mem_map_of_mem (inside t ht)
    exact ⟨_, List.mem_map_of_mem level, (total_pos_iff sized _).mpr ⟨t, ht, rfl, above⟩⟩

end Levels

/-! ## The partition -/

/-- What a footprint says of the trades of its bar, whose ticks go from a lowest
to a highest. -/
structure Partition (tick : Exact) (trades : List (Trade Exact)) (fp : FootprintBar Exact)
    (low high : ℤ) : Prop where
  /-- The tick of a trade is the nearest to its price. -/
  rounded : ∀ t ∈ trades, ∀ p q : ℝ, t.price = number p → tick = number q →
    ∃ s, Rounds (p / q) s ∧ (-2 ^ 63 ≤ s → s < 2 ^ 63 → slot tick t.price = s)
  /-- There is a level for each tick from the lowest to the highest. -/
  lowest : IsLeast {s | ∃ t ∈ trades, slot tick t.price = s} low
  highest : IsGreatest {s | ∃ t ∈ trades, slot tick t.price = s} high
  count : (fp.levels.length : ℤ) = high - low + 1
  price : ∀ (i : ℕ), ∀ level ∈ fp.levels[i]?, level.price = Scalar.ofInt (low + i) * tick
  /-- A trade counts in the level of its tick, on its side. -/
  placed : ∀ t ∈ trades, ∃! i : ℕ, i < fp.levels.length ∧ slot tick t.price = low + i
  sizes : ∀ (i : ℕ), ∀ level ∈ fp.levels[i]?,
    level.buy = Scalar.sum (sizesOn .buy (tradesAt tick (low + i) trades)) ∧
    level.sell = Scalar.sum (sizesOn .sell (tradesAt tick (low + i) trades))
  /-- The point of control is the fullest level, the lowest of several, inside the
  value area. -/
  fullest : ∃ total, ValueArea.Fullest (fp.levels.map LevelVolume.total) fp.poc total
  area : fp.val ≤ fp.poc ∧ fp.poc ≤ fp.vah ∧ fp.vah < fp.levels.length
  readable : ∀ which, (fp.level? which).isSome

section Bar

variable {share : Exact} {low high : ℤ}

theorem isLeast_slot (least : (trades.map fun t => slot tick t.price).min? = some low) :
    IsLeast {s | ∃ t ∈ trades, slot tick t.price = s} low := by
  obtain ⟨here, below⟩ := List.min?_eq_some_iff.mp least
  exact ⟨List.mem_map.mp here, fun s hs => below s (List.mem_map.mpr hs)⟩

theorem isGreatest_slot (greatest : (trades.map fun t => slot tick t.price).max? = some high) :
    IsGreatest {s | ∃ t ∈ trades, slot tick t.price = s} high := by
  obtain ⟨here, above⟩ := List.max?_eq_some_iff.mp greatest
  exact ⟨List.mem_map.mp here, fun s hs => above s (List.mem_map.mpr hs)⟩

/-- **The levels partition the trades.** -/
theorem partition_around (positive : tick > 0)
    (lowest : IsLeast {s | ∃ t ∈ trades, slot tick t.price = s} low)
    (highest : IsGreatest {s | ∃ t ∈ trades, slot tick t.price = s} high) {poc : ℕ} {total : Exact}
    (fullest : ValueArea.Fullest
      ((levelsBetween tick trades low high).map LevelVolume.total) poc total) :
    Partition tick trades (around share (levelsBetween tick trades low high) poc) low high := by
  have area := ValueArea.valueArea_within fullest.inside share
  rw [List.length_map] at area
  constructor
  case rounded =>
    rintro t ht p q price rfl
    have nonzero : q ≠ 0 := by
      have above : 0 < q := by simpa using positive
      exact above.ne'
    obtain ⟨s, rounds, within⟩ := nearest_rounds (p / q)
    refine ⟨s, rounds, fun least greatest => ?_⟩
    unfold slot
    rw [price, number_div _ nonzero]
    exact within least greatest
  case lowest => exact lowest
  case highest => exact highest
  case count =>
    have ordered : low ≤ high := by
      obtain ⟨t, ht, rfl⟩ := lowest.1
      exact highest.2 ⟨t, ht, rfl⟩
    show ((levelsBetween tick trades low high).length : ℤ) = _
    rw [length_levelsBetween]
    omega
  case price =>
    intro i level here
    rw [level_eq here]
    rfl
  case placed =>
    intro t ht
    have least : low ≤ slot tick t.price := lowest.2 ⟨t, ht, rfl⟩
    have greatest : slot tick t.price ≤ high := highest.2 ⟨t, ht, rfl⟩
    show ∃! i : ℕ, i < (levelsBetween tick trades low high).length ∧ _
    rw [length_levelsBetween]
    refine ⟨(slot tick t.price - low).toNat, by omega, ?_⟩
    rintro i ⟨-, here⟩
    omega
  case sizes =>
    intro i level here
    rw [level_eq here]
    exact ⟨traded_eq .., traded_eq ..⟩
  case fullest => exact ⟨total, fullest⟩
  case area => exact area
  case readable =>
    intro which
    have inside : (around share (levelsBetween tick trades low high) poc).place which <
        (levelsBetween tick trades low high).length := by
      cases which with
      | poc => exact area.2.1.trans_lt area.2.2
      | vah => exact area.2.2
      | val => exact (area.1.trans area.2.1).trans_lt area.2.2
    exact Option.isSome_iff_exists.mpr ⟨_, List.getElem?_eq_getElem inside⟩

/-- **The footprint of some trades** is there just when one of them is of some size. -/
theorem ofTrades_partition (share : Exact) (positive : tick > 0)
    (sized : ∀ t ∈ trades, t.size.IsNonneg) :
    ((ofTrades share tick trades).isSome ↔ ∃ t ∈ trades, t.size > 0) ∧
      ∀ fp ∈ ofTrades share tick trades, (∃ low high, Partition tick trades fp low high) ∧
        Scalar.sum (fp.levels.map LevelVolume.buy) = Scalar.sum (sizesOn .buy trades) ∧
        Scalar.sum (fp.levels.map LevelVolume.sell) = Scalar.sum (sizesOn .sell trades) := by
  cases least : (trades.map fun t => slot tick t.price).min? with
  | none =>
    have empty : trades = [] := by simpa using least
    subst empty
    exact ⟨iff_of_false Bool.false_ne_true (by simp), fun _ h => nomatch h⟩
  | some low =>
    obtain ⟨high, greatest⟩ : ∃ high, (trades.map fun t => slot tick t.price).max? = some high := by
      rw [← Option.isSome_iff_exists, List.isSome_max?_iff]
      intro empty
      rw [empty] at least
      exact nomatch least
    have lowest := isLeast_slot least
    have highest := isGreatest_slot greatest
    have inside : ∀ t ∈ trades, slot tick t.price ∈ ticksBetween low high :=
      fun t ht => mem_ticksBetween.mpr ⟨lowest.2 ⟨t, ht, rfl⟩, highest.2 ⟨t, ht, rfl⟩⟩
    have filled := exists_filled_iff sized inside
    have numbers : ∀ v ∈ (levelsBetween tick trades low high).map LevelVolume.total, IsNumber v :=
      List.forall_mem_map.mpr (List.forall_mem_map.mpr fun s _ => isNumber_total sized s)
    rw [ofTrades_eq share least greatest, ← filled]
    rcases ValueArea.pointOfControl_cases numbers with ⟨none, empty⟩ | ⟨poc, total, found, fullest⟩
    · rw [none]
      refine ⟨iff_of_false Bool.false_ne_true ?_, fun _ h => nomatch h⟩
      rintro ⟨v, hv, above⟩
      exact Exact.not_le_of_lt above (empty v hv)
    · rw [found]
      refine ⟨iff_of_true rfl ⟨total, List.mem_of_getElem? fullest.here, fullest.filled⟩, ?_⟩
      rintro fp ⟨⟩
      refine ⟨⟨low, high, partition_around positive lowest highest fullest⟩, ?_, ?_⟩
      · exact (congrArg Scalar.sum List.map_map).trans (sum_traded sized inside .buy)
      · exact (congrArg Scalar.sum List.map_map).trans (sum_traded sized inside .sell)

end Bar

end Footprint

/-- **A footprint partitions the trades of its bar, and agrees with the order flow.** Take
a market whose trades have no size below zero, and a bar with a positive tick. It has a
footprint just when a trade of its bucket is of some size; there is a level for each tick
from the lowest to the highest, each trade counts in the one that is nearest to its price,
on its side, and the named levels are among them. Where the bar does not report what was
bought, the levels add up to what the order flow tells of it. -/
theorem footprints_partition {m : Market Exact} (sized : ∀ t ∈ m.trades, t.size.IsNonneg)
    (configured share : Exact) {bar : ℕ} {c : Candle Exact} {trades : List (Trade Exact)}
    (stands : m.candles[bar]? = some c) (bucket : m.buckets[bar]? = some trades)
    (positive : Footprint.tick configured c > 0) :
    ∃ found, (footprints configured share m)[bar]? = some found ∧
      (found.isSome ↔ ∃ t ∈ trades, t.size > 0) ∧
      ∀ fp ∈ found,
        (∃ low high, Footprint.Partition (Footprint.tick configured c) trades fp low high) ∧
        (c.takerBuys = none →
          (orderFlow m).buys[bar]? = some (Scalar.sum (fp.levels.map LevelVolume.buy)) ∧
          (orderFlow m).sells[bar]? = some (Scalar.sum (fp.levels.map LevelVolume.sell))) := by
  have traded : ∀ t ∈ trades, t ∈ m.trades :=
    fun t ht => Market.mem_of_mem_running_bucket (List.mem_of_getElem? bucket) ht
  obtain ⟨filled, partition⟩ :=
    Footprint.ofTrades_partition share positive fun t ht => sized t (traded t ht)
  refine ⟨Footprint.ofTrades share (Footprint.tick configured c) trades, ?_, filled,
    fun fp hfp => ?_⟩
  · unfold footprints
    rw [List.getElem?_zipWith, stands, bucket]
    exact congrArg some (if_pos positive)
  · obtain ⟨levels, buys, sells⟩ := partition fp hfp
    refine ⟨levels, fun silent => ?_⟩
    have known : m.trades ≠ [] := by
      obtain ⟨t, ht, -⟩ := filled.mp (Option.isSome_iff_exists.mpr ⟨fp, hfp⟩)
      exact List.ne_nil_of_mem (traded t ht)
    have told := OrderFlow.sides_of_silent stands bucket silent known
    rw [OrderFlow.sides_eq] at told
    rw [buys, sells]
    exact told

/-- Trades at prices of both signs, twice at one tick, halfway between two, and one
of no size. -/
theorem footprints_partition_both_signs :
    let trade (price size : Exact) (side : Side) : Trade Exact := ⟨.ofMillis 0, price, size, side⟩
    let c : Candle Exact := ⟨.ofMillis 0, 1, 1, 1, 1, 1, none, none⟩
    let trades := [trade (-10) 2 .buy, trade (-11) 1 .sell, trade 15 0 .sell]
    let m : Market Exact := ⟨"BTCUSDT", .m1, [c], trades, [], none⟩
    (∀ t ∈ trades, t.size.IsNonneg) ∧ m.buckets[0]? = some trades ∧ Footprint.tick 10 c > 0 ∧
      ∃ fp, (footprints 10 1 m)[0]? = some (some fp) ∧
        (∃ low high, Footprint.Partition (Footprint.tick 10 c) trades fp low high) ∧
        (orderFlow m).buys[0]? = some (Scalar.sum (fp.levels.map LevelVolume.buy)) ∧
        (orderFlow m).sells[0]? = some (Scalar.sum (fp.levels.map LevelVolume.sell)) := by
  intro trade c trades m
  have sized : ∀ t ∈ trades, t.size.IsNonneg := by
    simp only [trades, List.forall_mem_cons]
    exact ⟨isNonneg_literal 2, isNonneg_literal 1, isNonneg_literal 0, fun _ h => nomatch h⟩
  have bucket : m.buckets[0]? = some trades := by
    have due : ¬ (Instant.ofMillis 0 < Instant.ofMillis 0) := by decide
    have inside : Instant.ofMillis 0 < (Instant.ofMillis 0).plus Timeframe.m1.nanos := by decide
    simp [m, trades, trade, c, Market.buckets, Column.running, Market.bucket, due, inside]
  have positive : Footprint.tick 10 c > 0 := by
    simp [Footprint.tick]
  obtain ⟨found, here, filled, partition⟩ := footprints_partition sized 10 1 rfl bucket positive
  have some : ∃ t ∈ trades, t.size > 0 := ⟨_, List.mem_cons_self, by simp [trade]⟩
  obtain ⟨fp, rfl⟩ := Option.isSome_iff_exists.mp (filled.mpr some)
  obtain ⟨levels, flow⟩ := partition fp rfl
  exact ⟨sized, bucket, positive, fp, here, levels, flow rfl⟩

end MarketConditions
