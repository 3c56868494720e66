import Mathlib.Algebra.BigOperators.Field
import Mathlib.Algebra.BigOperators.Intervals
import Mathlib.Algebra.Order.BigOperators.Group.Finset
import Mathlib.Algebra.Order.Floor.Semiring
import MarketConditions.Auction.Profile
import MarketConditions.Proofs.Auction.ValueArea

/-!
# The volume of a session by price

In exact arithmetic the parts of a bar's range inside the bins add up to the range: the
price clamped to the range moves up by the part inside a bin from its lower edge to its
upper one. So the bins of a session hold its volume, and the value area its share of it.

- `Candle.Traded`: a bar with real prices, no low above its high and no volume below zero.
- `Profile.sum_overlaps`: **the parts of a range** inside all bins add up to it.
- `Profile.Adds`: what a bar adds to bins; `Profile.adds_spread`, `Profile.adds_spreads`:
  **its volume**, and that of all bars.
- `Profile.binVolumes_total`: the bins hold the volume of the bars.
- `Profile.Binned`: what levels say of the bins that they are read off.
- `Profile.levels_enclose`: **a session has levels**, in order and read off bins that
  hold its volume.
-/

namespace MarketConditions

open Exact

/-- A bar with real prices, no low above its high, and a volume that is not below zero. -/
structure Candle.Traded (c : Candle Exact) : Prop where
  low : c.low.IsNumber
  high : c.high.IsNumber
  ordered : c.low ≤ c.high
  volume : c.volume.IsNonneg

namespace Profile

/-! ## Parts of a range -/

/-- The part of a range between two prices is how far a price clamped to the range moves
between them. -/
theorem overlap_eq_clamped {l h x y : ℝ} (upward : x ≤ y) :
    max (min h y - max l x) 0 = max l (min h y) - max l (min h x) := by
  rcases le_total h x with beyond | before
  · -- both prices are above the range
    rw [min_eq_left beyond, min_eq_left (beyond.trans upward), sub_self]
    exact max_eq_right (sub_nonpos.mpr (beyond.trans (le_max_right ..)))
  · have upto : x ≤ min h y := le_min before upward
    rw [min_eq_right before]
    rcases le_total l (min h y) with reached | below
    · rw [max_eq_right reached]
      exact max_eq_left (sub_nonneg.mpr (max_le reached upto))
    · -- both are below it
      rw [max_eq_left below, max_eq_left (upto.trans below), sub_self]
      exact max_eq_right (sub_nonpos.mpr below)

variable {low width : ℝ} {bins : ℕ}

/-- Bins of real prices. -/
def realGrid (low width : ℝ) (bins : ℕ) : Grid Exact := ⟨number low, number width, bins⟩

/-- The lower edge of a bin as a real number. -/
def bottom (low width : ℝ) (bin : ℕ) : ℝ := low + bin * width

theorem edge_eq (bin : ℕ) : (realGrid low width bins).edge bin = number (bottom low width bin) := by
  simp [Grid.edge, realGrid, bottom]

theorem bottom_zero : bottom low width 0 = low := by simp [bottom]

theorem bottom_succ (bin : ℕ) : bottom low width (bin + 1) = bottom low width bin + width := by
  unfold bottom
  push_cast
  ring

theorem bottom_mono (wide : 0 < width) : Monotone (bottom low width) := by
  refine monotone_nat_of_le_succ fun bin => ?_
  rw [bottom_succ]
  linarith

/-- The parts of a range inside all bins add up to the range. -/
theorem sum_overlaps {l h : ℝ} (wide : 0 < width) (range : l ≤ h) (above : low ≤ l)
    (below : h ≤ bottom low width bins) : ∑ bin ∈ Finset.range bins,
      max (min h (bottom low width (bin + 1)) - max l (bottom low width bin)) 0 = h - l := by
  have clamped : ∀ bin ∈ Finset.range bins,
      max (min h (bottom low width (bin + 1)) - max l (bottom low width bin)) 0 =
        max l (min h (bottom low width (bin + 1))) - max l (min h (bottom low width bin)) :=
    fun bin _ => overlap_eq_clamped (bottom_mono wide (Nat.le_succ bin))
  rw [Finset.sum_congr rfl clamped,
    Finset.sum_range_sub fun bin => max l (min h (bottom low width bin)), bottom_zero,
    min_eq_left below, max_eq_right range, min_eq_right (above.trans range),
    max_eq_left above]

/-! ## Spreading a bar -/

theorem slot_lt (any : 1 ≤ bins) (price : Exact) : (realGrid low width bins).slot price < bins :=
  Nat.lt_of_le_of_lt (Nat.min_le_right ..) (Nat.sub_lt any Nat.one_pos)

/-- The slot of a price, among as many bins as a machine word can count. -/
theorem slot_eq (wide : 0 < width) (word : bins < 2 ^ 64) (price : ℝ) :
    (realGrid low width bins).slot (number price) = min ⌊(price - low) / width⌋₊ (bins - 1) := by
  have quotient : (number price - number low) / number width = number ((price - low) / width) := by
    rw [number_sub, number_div _ wide.ne']
  show Nat.min (Scalar.wholePart ((number price - number low) / number width)) (bins - 1) = _
  rw [quotient]
  show min (min ⌊(price - low) / width⌋₊ (2 ^ 64 - 1)) (bins - 1) = _
  omega

/-- The part of a bar's range inside a bin. -/
theorem overlap_eq {c : Candle Exact} {l h : ℝ} (hl : c.low = number l) (hh : c.high = number h)
    (bin : ℕ) : (realGrid low width bins).overlap c bin =
      number (max (min h (bottom low width (bin + 1)) - max l (bottom low width bin)) 0) := by
  unfold Grid.overlap
  rw [hl, hh, edge_eq]
  show Scalar.max
    (Scalar.min (number h) (number _ + number width) - Scalar.max (number l) (number _))
    (0 : Exact) = _
  rw [number_add, ← bottom_succ, number_min, number_max, number_sub, ofNat_eq, number_max,
    Nat.cast_zero]

/-- A bin below the slot of a bar's low, or above that of its high, holds no part
of its range. -/
theorem overlap_outside {l h : ℝ} (wide : 0 < width) (word : bins < 2 ^ 64) {bin : ℕ}
    (inside : bin < bins) (outside : ¬ ((realGrid low width bins).slot (number l) ≤ bin ∧
      bin ≤ (realGrid low width bins).slot (number h))) :
    max (min h (bottom low width (bin + 1)) - max l (bottom low width bin)) 0 = 0 := by
  rw [slot_eq wide word, slot_eq wide word] at outside
  apply max_eq_right
  rw [sub_nonpos]
  rcases not_and_or.mp outside with before | after
  · have whole : bin + 1 ≤ ⌊(l - low) / width⌋₊ := by omega
    have reached : ((bin + 1 : ℕ) : ℝ) ≤ (l - low) / width :=
      (Nat.le_floor_iff' (Nat.succ_ne_zero _)).mp whole
    have upto : bottom low width (bin + 1) ≤ l := by
      rw [le_div_iff₀ wide] at reached
      unfold bottom
      linarith
    exact (min_le_right ..).trans (upto.trans (le_max_left ..))
  · have whole : ⌊(h - low) / width⌋₊ < bin := by omega
    have beyond : (h - low) / width < bin := (Nat.floor_lt' (by omega)).mp whole
    have above : h ≤ bottom low width bin := by
      rw [div_lt_iff₀ wide] at beyond
      unfold bottom
      linarith
    exact (min_le_left ..).trans (above.trans (le_max_right ..))

/-- A way to add to bins, as real numbers: what it adds to each, and to all of
them together. -/
structure Adds (bins : ℕ) (add : ℕ → Exact → Exact) (part : ℕ → ℝ) (whole : ℝ) : Prop where
  adds : ∀ bin < bins, ∀ held, add bin (number held) = number (held + part bin)
  nonneg : ∀ bin < bins, 0 ≤ part bin
  whole : ∑ bin ∈ Finset.range bins, part bin = whole

/-- A bar without volume adds nothing. -/
theorem adds_nothing : Adds bins (fun _ held => held) (fun _ => 0) 0 where
  adds _ _ held := congrArg number (add_zero held).symm
  nonneg _ _ := le_rfl
  whole := Finset.sum_const_zero

/-- A bar without range adds its volume to one bin. -/
theorem adds_point {slot : ℕ} (inside : slot < bins) {volume : ℝ} (nonneg : 0 ≤ volume) :
    Adds bins (fun bin held =>
      addTo (realGrid low width bins) bin held (.point slot (number volume)))
      (fun bin => if slot = bin then volume else 0) volume where
  adds bin _ held := by
    show (if slot = bin then number held + number volume else number held) = _
    split
    · rfl
    · rw [add_zero]
  nonneg bin _ := by
    split
    · exact nonneg
    · exact le_rfl
  whole := by
    rw [Finset.sum_ite_eq, if_pos (Finset.mem_range.mpr inside)]

/-- A bar with a range shares its volume among the bins by the parts of the range
inside them. -/
theorem adds_range {c : Candle Exact} {l h volume : ℝ} (hl : c.low = number l)
    (hh : c.high = number h)
    (hv : c.volume = number volume) (nonneg : 0 ≤ volume) (wide : 0 < width) (word : bins < 2 ^ 64)
    (range : l < h) (above : low ≤ l) (below : h ≤ bottom low width bins) :
    Adds bins (fun bin held => addTo (realGrid low width bins) bin held
        (.range ((realGrid low width bins).slot c.low) ((realGrid low width bins).slot c.high) c))
      (fun bin =>
        volume *
          max (min h (bottom low width (bin + 1)) - max l (bottom low width bin)) 0 / (h - l))
      volume where
  adds bin inside held := by
    have range_ne : h - l ≠ 0 := (sub_pos.mpr range).ne'
    show (if _ ∧ _ then number held + c.volume * _ / (c.high - c.low) else number held) = _
    split
    · rw [overlap_eq hl hh, hv, hl, hh, number_sub, number_mul, number_div _ range_ne, number_add]
    · rename_i outside
      rw [hl, hh] at outside
      rw [overlap_outside wide word inside outside, mul_zero, zero_div, add_zero]
  nonneg bin _ := div_nonneg (mul_nonneg nonneg (le_max_right ..)) (sub_nonneg.mpr range.le)
  whole := by
    rw [← Finset.sum_div, ← Finset.mul_sum, sum_overlaps wide range.le above below]
    exact mul_div_cancel_right₀ volume (sub_pos.mpr range).ne'

/-- One way after another adds the parts of both. -/
theorem Adds.andThen {add next : ℕ → Exact → Exact} {part more : ℕ → ℝ} {whole rest : ℝ}
    (adds : Adds bins add part whole) (continues : Adds bins next more rest) :
    Adds bins (fun bin held => next bin (add bin held)) (fun bin => part bin + more bin)
      (whole + rest) where
  adds bin inside held := by rw [adds.adds bin inside, continues.adds bin inside, add_assoc]
  nonneg bin inside := add_nonneg (adds.nonneg bin inside) (continues.nonneg bin inside)
  whole := by rw [Finset.sum_add_distrib, adds.whole, continues.whole]

/-- **A bar** inside the bins adds its volume to them. -/
theorem adds_spread {c : Candle Exact} (traded : c.Traded) (any : 1 ≤ bins) (word : bins < 2 ^ 64)
    (wide : 0 < width) (above : number low ≤ c.low)
    (below : c.high ≤ number (bottom low width bins)) :
    ∃ part, Adds bins (fun bin held =>
      addTo (realGrid low width bins) bin held (spread (realGrid low width bins) c)) part
      c.volume.real := by
  obtain ⟨l, hl⟩ := traded.low
  obtain ⟨h, hh⟩ := traded.high
  obtain ⟨volume, nonneg, hv⟩ := traded.volume
  rw [hl, number_le_iff] at above
  rw [hh, number_le_iff] at below
  have span : c.high - c.low ≤ 0 ↔ h ≤ l := by simp [hl, hh]
  rw [hv, real_number]
  unfold spread
  by_cases empty : c.volume ≤ 0
  · have zero : volume = 0 := le_antisymm (by simpa [hv] using empty) nonneg
    rw [if_pos empty, zero]
    exact ⟨_, adds_nothing⟩
  · rw [if_neg empty]
    by_cases flat : c.high - c.low ≤ 0
    · rw [if_pos flat, hv]
      exact ⟨_, adds_point (slot_lt any c.close) nonneg⟩
    · rw [if_neg flat]
      exact ⟨_, adds_range hl hh hv nonneg wide word (not_le.mp (span.not.mp flat)) above below⟩

/-- **All bars**, one after the other. -/
theorem adds_spreads {candles : List (Candle Exact)} (traded : ∀ c ∈ candles, c.Traded)
    (any : 1 ≤ bins) (word : bins < 2 ^ 64) (wide : 0 < width)
    (inside : ∀ c ∈ candles, number low ≤ c.low ∧ c.high ≤ number (bottom low width bins)) :
    ∃ part, Adds bins (fun bin held =>
        (candles.map (spread (realGrid low width bins))).foldl
          (addTo (realGrid low width bins) bin) held)
      part ((candles.map Candle.volume).map real).sum := by
  induction candles with
  | nil => exact ⟨_, adds_nothing⟩
  | cons c candles ih =>
    obtain ⟨first, others⟩ := List.forall_mem_cons.mp traded
    obtain ⟨⟨above, below⟩, rest⟩ := List.forall_mem_cons.mp inside
    obtain ⟨part, adds⟩ := adds_spread first any word wide above below
    obtain ⟨more, continues⟩ := ih others rest
    exact ⟨_, adds.andThen continues⟩

/-! ## The volumes of the bins -/

theorem sum_map_range (part : ℕ → ℝ) (n : ℕ) :
    ((List.range n).map part).sum = ∑ bin ∈ Finset.range n, part bin := rfl

@[simp] theorem length_binVolumes (g : Grid Exact) (candles : List (Candle Exact)) :
    (binVolumes g candles).length = g.bins := by
  simp [binVolumes]

/-- **The bins hold the volume** of the bars, and none of them less than nothing. -/
theorem binVolumes_total {candles : List (Candle Exact)} (traded : ∀ c ∈ candles, c.Traded)
    (any : 1 ≤ bins) (word : bins < 2 ^ 64) (wide : 0 < width)
    (inside : ∀ c ∈ candles, number low ≤ c.low ∧ c.high ≤ number (bottom low width bins)) :
    (∀ v ∈ binVolumes (realGrid low width bins) candles, IsNonneg v) ∧
      Scalar.sum (binVolumes (realGrid low width bins) candles) =
        Scalar.sum (candles.map Candle.volume) := by
  obtain ⟨part, adds⟩ := adds_spreads traded any word wide inside
  have parts : binVolumes (realGrid low width bins) candles =
      ((List.range bins).map part).map number := by
    rw [List.map_map]
    refine List.map_congr_left fun bin hbin => ?_
    have held := adds.adds bin (List.mem_range.mp hbin) 0
    rw [zero_add] at held
    rw [ofNat_eq, Nat.cast_zero]
    exact held
  have numbers : ∀ v ∈ candles.map Candle.volume, IsNumber v :=
    List.forall_mem_map.mpr fun c hc => (traded c hc).volume.isNumber
  rw [parts]
  refine ⟨fun v hv => ?_, ?_⟩
  · rw [List.map_map] at hv
    obtain ⟨bin, hbin, rfl⟩ := List.mem_map.mp hv
    exact ⟨part bin, adds.nonneg bin (List.mem_range.mp hbin), rfl⟩
  · rw [sum_number, sum_map_range, adds.whole, sum_eq numbers]

/-! ## Levels -/

/-- What levels say of the bins that they are read off. -/
structure Binned (g : Grid Exact) (candles : List (Candle Exact)) (share : Exact)
    (levels : ProfileLevels Exact) (poc first last : ℕ) : Prop where
  /-- The bins reach from the lowest low to the highest high. -/
  lowest : IsLeast {x | x ∈ candles.map Candle.low} (g.edge 0)
  highest : IsGreatest {x | x ∈ candles.map Candle.high} (g.edge g.bins)
  /-- They hold the volume of the bars. -/
  conserved : Scalar.sum (binVolumes g candles) = Scalar.sum (candles.map Candle.volume)
  /-- The point of control is the middle of the fullest bin, the lowest of several. -/
  fullest : ∃ volume, ValueArea.Fullest (binVolumes g candles) poc volume
  middle : levels.poc = (g.edge poc + g.edge (poc + 1)) / 2
  /-- The value area is made of bins around it, and holds its share of the volume. -/
  around : first ≤ poc ∧ poc ≤ last ∧ last < g.bins
  val : levels.val = g.edge first
  vah : levels.vah = g.edge (last + 1)
  enclosed : Scalar.sum (candles.map Candle.volume) * share ≤
    Scalar.sum (ValueArea.slots first last (binVolumes g candles))

/-- Levels that are read off bins are in the order of their bins. -/
theorem Binned.ordered {candles : List (Candle Exact)} {share : Exact}
    {levels : ProfileLevels Exact} {poc first last : ℕ} (wide : 0 < width)
    (binned : Binned (realGrid low width bins) candles share levels poc first last) :
    (realGrid low width bins).edge 0 ≤ levels.val ∧ levels.val ≤ levels.poc ∧
      levels.poc ≤ levels.vah ∧ levels.vah ≤ (realGrid low width bins).edge bins := by
  obtain ⟨upto, beyond, inside⟩ := binned.around
  have middle : levels.poc =
      number ((bottom low width poc + bottom low width (poc + 1)) / 2) := by
    rw [binned.middle, edge_eq, edge_eq, number_add, ofNat_eq, number_div _ (by norm_num)]
    norm_num
  rw [binned.val, binned.vah, middle, edge_eq, edge_eq, edge_eq, edge_eq, number_le_iff,
    number_le_iff, number_le_iff, number_le_iff]
  have rises : Monotone (bottom low width) := bottom_mono wide
  have lower : bottom low width first ≤ bottom low width poc := rises upto
  have across : bottom low width poc ≤ bottom low width (poc + 1) := rises (Nat.le_succ poc)
  have upper : bottom low width (poc + 1) ≤ bottom low width (last + 1) := rises (by omega)
  exact ⟨rises (Nat.zero_le first), by linarith, by linarith, rises inside⟩

/-- The levels that bins have at a point of control and an area around it. -/
noncomputable def readOff (g : Grid Exact) (poc : ℕ) (area : ℕ × ℕ) : ProfileLevels Exact :=
  ⟨g.low + (Scalar.ofNat poc + 0.5) * g.width, g.edge (area.2 + 1), g.edge area.1⟩

/-- The middle of a bin is between its edges. -/
theorem readOff_middle (poc : ℕ) (area : ℕ × ℕ) :
    (readOff (realGrid low width bins) poc area).poc =
      ((realGrid low width bins).edge poc + (realGrid low width bins).edge (poc + 1)) / 2 := by
  have half : (0.5 : Exact) = number 0.5 := rfl
  rw [edge_eq, edge_eq, number_add, ofNat_eq, number_div _ (by norm_num), bottom_succ]
  show number low + (Scalar.ofNat poc + 0.5) * number width = _
  rw [half, scalar_ofNat, number_add, number_mul, number_add]
  unfold bottom
  congr 1
  push_cast
  ring

theorem isFinite_number (x : ℝ) : Scalar.isFinite (number x) = true :=
  decide_eq_true (show number |x| < Scalar.infinity from trivial)

section Session

variable {candles : List (Candle Exact)} {high : ℝ} {share : Exact}

/-- The width of bins that share a range of prices. -/
theorem width_eq (any : 1 ≤ bins) (steps : (high - low) / bins = width) :
    (number high - number low) / Scalar.ofNat bins = number width := by
  have counted : (bins : ℝ) ≠ 0 := Nat.cast_ne_zero.mpr (by omega)
  rw [number_sub, scalar_ofNat, number_div _ counted, steps]

/-- Where prices differ the levels are read off bins from the lowest low to the
highest high. -/
theorem levels_eq (filled : ¬ Scalar.sum (candles.map Candle.volume) ≤ 0) (any : 1 ≤ bins)
    (least : Scalar.least (candles.map Candle.low) = number low)
    (greatest : Scalar.greatest (candles.map Candle.high) = number high) (range : low < high)
    (steps : (high - low) / bins = width) :
    levels bins share candles =
      (ValueArea.pointOfControl (binVolumes (realGrid low width bins) candles)).map fun poc =>
        readOff (realGrid low width bins) poc
          (ValueArea.valueArea (binVolumes (realGrid low width bins) candles) poc share) := by
  unfold levels
  simp only [least, greatest, isFinite_number, width_eq any steps]
  rw [if_neg (by omega), if_neg (by simp), if_neg filled, if_neg (by simpa using range)]
  rfl

/-- A single price is all three levels. -/
theorem levels_flat (filled : ¬ Scalar.sum (candles.map Candle.volume) ≤ 0) (any : 1 ≤ bins)
    (least : Scalar.least (candles.map Candle.low) = number low)
    (greatest : Scalar.greatest (candles.map Candle.high) = number high) (flat : high ≤ low) :
    levels bins share candles = some ⟨number low, number low, number low⟩ := by
  unfold levels
  simp only [least, greatest, isFinite_number]
  rw [if_neg (by omega), if_neg (by simp), if_neg filled, if_pos (by simpa using flat)]

/-- **The point of control and the value area** are found on the bins. -/
theorem levels_binned (traded : ∀ c ∈ candles, c.Traded)
    (filled : 0 < Scalar.sum (candles.map Candle.volume)) (any : 1 ≤ bins) (word : bins < 2 ^ 64)
    (wide : 0 < width) (lowest : IsLeast {x | x ∈ candles.map Candle.low} (number low))
    (highest : IsGreatest {x | x ∈ candles.map Candle.high} (number (bottom low width bins)))
    (isNumber : share.IsNumber) (atMost : share ≤ 1) :
    ∃ poc area, ValueArea.pointOfControl (binVolumes (realGrid low width bins) candles) = some poc ∧
      ValueArea.valueArea (binVolumes (realGrid low width bins) candles) poc share = area ∧
      Binned (realGrid low width bins) candles share (readOff (realGrid low width bins) poc area)
        poc area.1 area.2 := by
  have inside : ∀ c ∈ candles, number low ≤ c.low ∧ c.high ≤ number (bottom low width bins) :=
    fun c hc => ⟨lowest.2 (List.mem_map_of_mem hc), highest.2 (List.mem_map_of_mem hc)⟩
  obtain ⟨nonneg, conserved⟩ := binVolumes_total traded any word wide inside
  have numbers : ∀ v ∈ binVolumes (realGrid low width bins) candles, IsNumber v :=
    fun v hv => (nonneg v hv).isNumber
  rcases ValueArea.pointOfControl_cases numbers with ⟨-, empty⟩ | ⟨poc, volume, found, fullest⟩
  · rw [← conserved] at filled
    obtain ⟨v, hv, above⟩ := (sum_pos_iff nonneg).mp filled
    exact absurd (empty v hv) (Exact.not_le_of_lt above)
  · have area := ValueArea.valueArea_within fullest.inside share
    have enclosed := ValueArea.valueArea_holds nonneg fullest.inside isNumber atMost
    refine ⟨poc, _, found, rfl, ?_⟩
    constructor
    case lowest => rwa [edge_eq, bottom_zero]
    case highest =>
      show IsGreatest _ ((realGrid low width bins).edge bins)
      rwa [edge_eq]
    case conserved => exact conserved
    case fullest => exact ⟨volume, fullest⟩
    case middle => exact readOff_middle poc _
    case around => rwa [length_binVolumes] at area
    case val => rfl
    case vah => rfl
    case enclosed => rwa [conserved] at enclosed

/-- Levels of a session whose prices differ. -/
theorem levels_range (traded : ∀ c ∈ candles, c.Traded)
    (filled : 0 < Scalar.sum (candles.map Candle.volume)) (any : 1 ≤ bins) (word : bins < 2 ^ 64)
    (isNumber : share.IsNumber) (atMost : share ≤ 1)
    (least : Scalar.least (candles.map Candle.low) = number low)
    (greatest : Scalar.greatest (candles.map Candle.high) = number high)
    (lowest : IsLeast {x | x ∈ candles.map Candle.low} (number low))
    (highest : IsGreatest {x | x ∈ candles.map Candle.high} (number high)) (range : low < high) :
    ∃ levels poc first last, Profile.levels bins share candles = some levels ∧
      (number low ≤ levels.val ∧ levels.val ≤ levels.poc ∧ levels.poc ≤ levels.vah ∧
        levels.vah ≤ number high) ∧
      Binned ⟨number low, (number high - number low) / Scalar.ofNat bins, bins⟩ candles share levels
        poc first last := by
  have counted : (0 : ℝ) < bins := by exact_mod_cast any
  obtain ⟨width, steps⟩ : ∃ width, (high - low) / bins = width := ⟨_, rfl⟩
  have wide : 0 < width := steps ▸ div_pos (sub_pos.mpr range) counted
  have top : bottom low width bins = high := by
    rw [bottom, ← steps, mul_div_cancel₀ _ counted.ne', add_sub_cancel]
  rw [← top] at highest
  obtain ⟨poc, area, found, grown, binned⟩ :=
    levels_binned traded filled any word wide lowest highest isNumber atMost
  have read : Profile.levels bins share candles = _ :=
    levels_eq (Exact.not_le_of_lt filled) any least greatest range steps
  rw [found, Option.map_some, grown] at read
  have ordered := binned.ordered wide
  rw [edge_eq, edge_eq, bottom_zero, top] at ordered
  rw [width_eq any steps]
  exact ⟨_, poc, area.1, area.2, read, ordered, binned⟩

/-- **The volume profile of a session encloses its value area.** Take bars with real
prices, no low above its high, no volume below zero and some volume, at least one bin
and no more than a machine word can count, and a share above zero up to the whole.
There are levels; they are in order, between the lowest low and the highest high; and
unless all prices are one, they are those of bins between the two that hold the volume
of the bars. -/
theorem levels_enclose (traded : ∀ c ∈ candles, c.Traded)
    (filled : 0 < Scalar.sum (candles.map Candle.volume)) (any : 1 ≤ bins) (word : bins < 2 ^ 64)
    (positive : 0 < share) (atMost : share ≤ 1) :
    ∃ low high levels, IsLeast {x | x ∈ candles.map Candle.low} low ∧
      IsGreatest {x | x ∈ candles.map Candle.high} high ∧
      Profile.levels bins share candles = some levels ∧
      low ≤ levels.val ∧ levels.val ≤ levels.poc ∧ levels.poc ≤ levels.vah ∧ levels.vah ≤ high ∧
      (low < high → ∃ poc first last,
        Binned ⟨low, (high - low) / Scalar.ofNat bins, bins⟩ candles share levels
          poc first last) := by
  have isNumber : share.IsNumber :=
    isNumber_of_pos_of_le positive (show share ≤ number 1 by simpa using atMost)
  have bars : candles ≠ [] := by
    rintro rfl
    exact Exact.not_le_of_lt filled (by simp [Scalar.sum])
  have lowest := isLeast_least
    (List.forall_mem_map.mpr fun c hc => (traded c hc).low) (mt List.map_eq_nil_iff.mp bars)
  have highest := isGreatest_greatest
    (List.forall_mem_map.mpr fun c hc => (traded c hc).high) (mt List.map_eq_nil_iff.mp bars)
  obtain ⟨low, least⟩ := List.forall_mem_map.mpr (fun c hc => (traded c hc).low) _ lowest.1
  obtain ⟨high, greatest⟩ := List.forall_mem_map.mpr (fun c hc => (traded c hc).high) _ highest.1
  rw [least] at lowest
  rw [greatest] at highest
  have volume : ¬ Scalar.sum (candles.map Candle.volume) ≤ 0 := Exact.not_le_of_lt filled
  rcases le_or_gt high low with flat | range
  · have same : number low ≤ number high := by
      obtain ⟨c, hc, hlow⟩ := List.mem_map.mp lowest.1
      rw [← hlow]
      exact Exact.le_trans (traded c hc).ordered (highest.2 (List.mem_map_of_mem hc))
    have alike : number low ≤ number low := (number_le_iff ..).mpr le_rfl
    exact ⟨number low, number high, _, lowest, highest,
      levels_flat volume any least greatest flat, alike, alike, alike, same,
      fun apart => absurd flat (not_le.mpr apart)⟩
  · obtain ⟨levels, poc, first, last, read, ordered, binned⟩ :=
      levels_range traded filled any word isNumber atMost least greatest lowest highest range
    exact ⟨number low, number high, levels, lowest, highest, read, ordered.1, ordered.2.1,
      ordered.2.2.1, ordered.2.2.2, fun _ => ⟨poc, first, last, binned⟩⟩

end Session

/-- A bar with a range, and one without whose close is outside the range of both. -/
theorem levels_enclose_flat_bar :
    let candles : List (Candle Exact) := [⟨.ofMillis 0, 11, 14, 10, 12, 8, none, none⟩,
      ⟨.ofMillis 60000, 14, 14, 14, 20, 4, none, none⟩]
    ((∀ c ∈ candles, c.Traded) ∧ 0 < Scalar.sum (candles.map Candle.volume)) ∧
    ∃ low high levels, IsLeast {x | x ∈ candles.map Candle.low} low ∧
      IsGreatest {x | x ∈ candles.map Candle.high} high ∧
      Profile.levels 2 1 candles = some levels ∧
      low ≤ levels.val ∧ levels.val ≤ levels.poc ∧ levels.poc ≤ levels.vah ∧ levels.vah ≤ high ∧
      (low < high → ∃ poc first last,
        Binned ⟨low, (high - low) / Scalar.ofNat 2, 2⟩ candles 1 levels poc first last) := by
  intro candles
  have traded : ∀ c ∈ candles, c.Traded := by
    intro c hc
    rcases List.mem_cons.mp hc with rfl | hc
    · exact ⟨(isNonneg_literal 10).isNumber, (isNonneg_literal 14).isNumber, by simp; norm_num,
        isNonneg_literal 8⟩
    · rw [List.mem_singleton.mp hc]
      exact ⟨(isNonneg_literal 14).isNumber, (isNonneg_literal 14).isNumber, by simp,
        isNonneg_literal 4⟩
  have filled : 0 < Scalar.sum (candles.map Candle.volume) := by
    simp [candles, Scalar.sum]
    norm_num
  exact ⟨⟨traded, filled⟩,
    levels_enclose traded filled (by decide) (by decide) (by simp) (by simp)⟩

end Profile

end MarketConditions
