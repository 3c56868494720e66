import Mathlib.Data.List.Forall2
import MarketConditions.Proofs.Market.Cut

/-!
# What a cut keeps together

A market is cut to a span of time in all its columns alike, however many bars they
reach. What belonged to a bar still belongs to it, nothing is added to it and nothing
is left over behind the last bar; and to cut a cut is to cut once to the span that
both spans share.

- `Market.slice_slice`, `Market.slice_max`: slices of slices, and ends before
  their beginnings.
- `Market.barAt_slice`, `Market.barAt_max`, `Market.barAt_min`: places among the bars of a
  slice, and of the later and the earlier of two instants.
- `Market.Cuts`: a column of which some bars were cut out; `Market.IsCut`: a market so cut.
- `Market.between_aligned`: **every column stays with its bars**, also when it is cut again.
-/

namespace MarketConditions

variable {α : Type}

namespace Instant

instance : Max Instant := maxOfLe

instance : Min Instant := minOfLe

theorem max_le_iff {s t u : Instant} : max s t ≤ u ↔ s ≤ u ∧ t ≤ u := by
  show (if s ≤ t then t else s) ≤ u ↔ _
  split
  · rename_i first
    exact ⟨fun h => ⟨Int.le_trans first h, h⟩, And.right⟩
  · rename_i second
    exact ⟨fun h => ⟨h, Int.le_trans (Int.le_of_lt (Int.not_le.mp second)) h⟩, And.left⟩

theorem lt_min_iff {s t u : Instant} : u < min s t ↔ u < s ∧ u < t := by
  show u < (if s ≤ t then s else t) ↔ _
  split
  · rename_i first
    exact ⟨fun h => ⟨h, Int.lt_of_lt_of_le h first⟩, And.left⟩
  · rename_i second
    exact ⟨fun h => ⟨Int.lt_trans h (Int.not_le.mp second), h⟩, And.right⟩

end Instant

namespace Market

/-! ## Slices -/

variable {β : Type} {first last first' last' : Nat}

theorem getElem?_slice (xs : List β) {k : Nat} (inside : k < last - first) :
    (slice first last xs)[k]? = xs[first + k]? := by
  unfold slice
  rw [List.getElem?_take_of_lt inside, List.getElem?_drop]

theorem length_slice_le (first last : Nat) (xs : List β) :
    (slice first last xs).length ≤ last - first :=
  List.length_take_le ..

theorem slice_slice (xs : List β) : slice first' last' (slice first last xs) =
    slice (first + first') (min (first + last') last) xs := by
  unfold slice
  rw [List.drop_take, List.take_take, List.drop_drop]
  congr 1
  omega

/-- An end before the beginning is as good as the beginning. -/
theorem slice_max (first last : Nat) (xs : List β) :
    slice first (Nat.max last first) xs = slice first last xs := by
  unfold slice
  congr 1
  show max last first - first = _
  omega

theorem slice_of_le (none : last ≤ first) (xs : List β) : slice first last xs = [] := by
  unfold slice
  rw [Nat.sub_eq_zero_of_le none, List.take_zero]

/-- Slices with the same bounds are the same, and so are slices without entries. -/
theorem slice_congr (same : last ≤ first ∧ last' ≤ first' ∨ first = first' ∧ last = last')
    (xs : List β) : slice first last xs = slice first' last' xs := by
  rcases same with ⟨none, none'⟩ | ⟨rfl, rfl⟩
  · rw [slice_of_le none, slice_of_le none']
  · rfl

/-! ## Places -/

variable {candles : List (Candle α)}

/-- The place of an instant is behind the bars that begin before it. -/
theorem barAt_eq_countP (ordered : Ordered candles) (t : Instant) :
    barAt candles t = candles.countP fun c => decide (c.time < t) := by
  rw [barAt_eq ordered, ← (ordered.first t).filter_eq_takeWhile, List.countP_eq_length_filter]

/-- There is one place that tells the bars before an instant from the others. -/
theorem barAt_unique (ordered : Ordered candles) {t : Instant} {bar : Nat}
    (upto : bar ≤ candles.length)
    (told : ∀ i c, candles[i]? = some c → (c.time < t ↔ i < bar)) : barAt candles t = bar := by
  rcases Nat.lt_trichotomy (barAt candles t) bar with less | same | more
  · -- the bar at the place would begin before the instant
    have here := List.getElem?_eq_getElem (Nat.lt_of_lt_of_le less upto)
    have before := (begins_before ordered here).mp ((told _ _ here).mpr less)
    exact absurd before (Nat.lt_irrefl _)
  · exact same
  · have here := List.getElem?_eq_getElem (Nat.lt_of_lt_of_le more (barAt_le ordered t))
    have before := (told _ _ here).mp ((begins_before ordered here).mpr more)
    exact absurd before (Nat.lt_irrefl _)

/-- A later instant has a later place. -/
theorem barAt_mono (ordered : Ordered candles) {s t : Instant} (later : s ≤ t) :
    barAt candles s ≤ barAt candles t := by
  refine Nat.le_of_not_lt fun beyond => ?_
  have here := List.getElem?_eq_getElem (Nat.lt_of_lt_of_le beyond (barAt_le ordered s))
  have before := (begins_before ordered here).mpr beyond
  exact Nat.lt_irrefl _ ((begins_before ordered here).mp (Int.lt_of_lt_of_le before later))

theorem barAt_max (ordered : Ordered candles) (s t : Instant) :
    barAt candles (max s t) = max (barAt candles s) (barAt candles t) := by
  show barAt candles (if s ≤ t then t else s) = _
  split
  · rename_i first
    exact (Nat.max_eq_right (barAt_mono ordered first)).symm
  · rename_i second
    exact (Nat.max_eq_left (barAt_mono ordered (Int.le_of_lt (Int.not_le.mp second)))).symm

theorem barAt_min (ordered : Ordered candles) (s t : Instant) :
    barAt candles (min s t) = min (barAt candles s) (barAt candles t) := by
  show barAt candles (if s ≤ t then s else t) = _
  split
  · rename_i first
    exact (Nat.min_eq_left (barAt_mono ordered first)).symm
  · rename_i second
    exact (Nat.min_eq_right (barAt_mono ordered (Int.le_of_lt (Int.not_le.mp second)))).symm

/-- Among the bars of a slice a place is counted from the first of them, and is at most
behind the last. -/
theorem barAt_slice (ordered : Ordered candles) (t : Instant) (first last : Nat) :
    barAt (slice first last candles) t = min (barAt candles t - first) (last - first) := by
  have sliced : Ordered (slice first last candles) :=
    ordered.sublist ((List.take_sublist ..).trans (List.drop_sublist ..))
  refine barAt_unique sliced ?_ fun i c here => ?_
  · have upto := barAt_le ordered t
    unfold slice
    rw [List.length_take, List.length_drop]
    omega
  · have inside : i < last - first := Nat.lt_of_lt_of_le (List.getElem?_eq_some_iff.mp here).1
      (length_slice_le first last candles)
    rw [getElem?_slice candles inside] at here
    rw [begins_before ordered here]
    omega

/-! ## Cuts -/

/-- The bars of a cut in one column: entry `k` is entry `first + k` of the whole column,
missing where that is missing, and none lies behind the last bar of the cut. -/
structure Cuts (first bars : Nat) (whole cut : List β) : Prop where
  entry : ∀ k < bars, cut[k]? = whole[first + k]?
  inside : cut.length ≤ bars

theorem cuts_slice (first last : Nat) (xs : List β) :
    Cuts first (last - first) xs (slice first last xs) where
  entry _ inside := getElem?_slice xs inside
  inside := length_slice_le first last xs

/-- A market cut to a span of time, whose bars begin with bar `first` of the
whole market. -/
structure IsCut (m cut : Market α) (r : TimeRange) (first : Nat) : Prop where
  symbol : cut.symbol = m.symbol
  timeframe : cut.timeframe = m.timeframe
  candles : cut.candles = m.candles.filter fun c => r.contains c.time
  trades : cut.trades = m.trades.filter fun x => r.contains x.time
  bars : Cuts first cut.candles.length m.candles cut.candles
  exchanges : List.Forall₂ (fun f g => g.exchange = f.exchange ∧
    Cuts first cut.candles.length f.buys g.buys ∧ Cuts first cut.candles.length f.sells g.sells)
    m.exchanges cut.exchanges
  funding : Option.Rel (Cuts first cut.candles.length) m.funding cut.funding

/-- A cut is told by the places of its beginning and its end. -/
theorem between_eq (m : Market α) (start stop : Instant) :
    let cut {β : Type} (xs : List β) : List β :=
      slice (barAt m.candles start) (barAt m.candles stop) xs
    m.between start stop = ⟨m.symbol, m.timeframe, cut m.candles,
      m.trades.filter fun t => (TimeRange.mk start stop).contains t.time,
      m.exchanges.map fun f => ⟨f.exchange, cut f.buys, cut f.sells⟩, m.funding.map cut⟩ := by
  unfold between
  simp only [slice_max]
  congr 1
  exact congrArg (Option.map · m.funding) (funext fun _ => slice_max ..)

/-- **One cut.** -/
theorem isCut_between {m : Market α} (ordered : Ordered m.candles) (r : TimeRange) :
    IsCut m (m.between r.start r.stop) r (barAt m.candles r.start) := by
  have bars : (m.between r.start r.stop).candles.length =
      barAt m.candles r.stop - barAt m.candles r.start := by
    have upto := barAt_le ordered r.stop
    rw [between_eq]
    unfold slice
    rw [List.length_take, List.length_drop]
    omega
  constructor
  case symbol => rfl
  case timeframe => rfl
  case candles => exact candles_between ordered r.start r.stop
  case trades => rfl
  all_goals rw [bars, between_eq]
  case bars => exact cuts_slice ..
  case exchanges =>
    refine List.forall₂_map_right_iff.mpr (List.forall₂_same.mpr fun f _ => ⟨rfl, ?_, ?_⟩)
    · exact cuts_slice ..
    · exact cuts_slice ..
  case funding =>
    show Option.Rel _ m.funding (m.funding.map _)
    cases m.funding with
    | none => exact .none
    | some rates => exact .some (cuts_slice ..)

/-- **A cut of a cut**, in one column: the bounds of both spans together. -/
theorem slice_between {candles : List (Candle α)} (ordered : Ordered candles)
    (start stop start' stop' : Instant) (xs : List β) :
    let cut := slice (barAt candles start) (barAt candles stop) candles
    slice (barAt cut start') (barAt cut stop')
        (slice (barAt candles start) (barAt candles stop) xs) =
      slice (barAt candles (max start start')) (barAt candles (min stop stop')) xs := by
  intro cut
  rw [slice_slice, barAt_slice ordered, barAt_slice ordered, barAt_max ordered, barAt_min ordered]
  apply slice_congr
  clear cut
  generalize barAt candles start = first, barAt candles stop = last, barAt candles start' = first',
    barAt candles stop' = last'
  -- a span that ends before it begins leaves nothing to be cut again
  rcases Nat.le_total last first with none | some
  · omega
  · omega

theorem contains_contains (r r' : TimeRange) (t : Instant) : (r'.contains t && r.contains t) =
    (TimeRange.mk (max r.start r'.start) (min r.stop r'.stop)).contains t := by
  unfold TimeRange.contains
  rw [Bool.eq_iff_iff]
  simp only [Bool.and_eq_true, decide_eq_true_eq, Instant.max_le_iff, Instant.lt_min_iff]
  exact ⟨fun ⟨⟨a, b⟩, c, d⟩ => ⟨⟨c, a⟩, d, b⟩, fun ⟨⟨c, a⟩, d, b⟩ => ⟨⟨a, b⟩, c, d⟩⟩

/-- **Two cuts are one.** -/
theorem between_between {m : Market α} (ordered : Ordered m.candles) (r r' : TimeRange) :
    (m.between r.start r.stop).between r'.start r'.stop =
      m.between (max r.start r'.start) (min r.stop r'.stop) := by
  have candles := slice_between ordered r.start r.stop r'.start r'.stop m.candles
  have cut := fun xs : List α => slice_between ordered r.start r.stop r'.start r'.stop xs
  rw [between_eq, between_eq, between_eq, Market.mk.injEq]
  refine ⟨rfl, rfl, candles, ?_, ?_, ?_⟩
  · rw [List.filter_filter]
    exact List.filter_congr fun x _ => contains_contains r r' x.time
  · rw [List.map_map]
    refine List.map_congr_left fun f _ => ?_
    exact (ExchangeFlow.mk.injEq ..).mpr ⟨rfl, cut f.buys, cut f.sells⟩
  · rw [Option.map_map]
    exact congrArg (Option.map · m.funding) (funext cut)

/-- **Every column stays with its bars.** Take a market with bars in order of time,
columns of any length and any span, even one that ends before it begins. The market cut to
the span holds, in order, the bars and trades of the span. Its bars are those of the whole
market from behind the ones that begin before the span; what each exchange bought and sold
in a bar and the bar's funding rate are those of that bar in the whole market, missing
exactly where they are missing there; and no column goes on behind the last bar. To cut
again is to cut once, to the span that both spans share. -/
theorem between_aligned {m : Market α} (ordered : Ordered m.candles) (r : TimeRange) :
    IsCut m (m.between r.start r.stop) r (m.candles.countP fun c => decide (c.time < r.start)) ∧
    ∀ r' : TimeRange, (m.between r.start r.stop).between r'.start r'.stop =
      m.between (max r.start r'.start) (min r.stop r'.stop) := by
  rw [← barAt_eq_countP ordered]
  exact ⟨isCut_between ordered r, between_between ordered r⟩

/-- Four bars, two of them at one time; what was bought is known of five bars, what was
sold of two, and funding of one. The bars from the first minute on are cut out, and of
them those before the second. -/
theorem between_aligned_short_columns :
    let bar (minute : Int) : Candle Nat := ⟨.ofMillis (minute * 60000), 1, 1, 1, 1, 1, none, none⟩
    let m : Market Nat := ⟨"BTCUSDT", .m1, [bar 0, bar 1, bar 1, bar 2], [],
      [⟨"a", [10, 11, 12, 13, 14], [20, 21]⟩], some [30]⟩
    let cut := m.between (.ofMillis 60000) (.ofMillis 180000)
    Ordered m.candles ∧ IsCut m cut ⟨.ofMillis 60000, .ofMillis 180000⟩ 1 ∧
      cut.candles.length = 3 ∧ cut.exchanges.map ExchangeFlow.buys = [[11, 12, 13]] ∧
      cut.exchanges.map ExchangeFlow.sells = [[21]] ∧ cut.funding = some [] ∧
      cut.between (.ofMillis 0) (.ofMillis 120000) =
        m.between (.ofMillis 60000) (.ofMillis 120000) := by
  intro bar m cut
  have ordered : Ordered m.candles := by
    unfold Ordered
    decide
  obtain ⟨aligned, again⟩ := between_aligned ordered ⟨.ofMillis 60000, .ofMillis 180000⟩
  exact ⟨ordered, aligned, by decide, by decide, by decide, by decide,
    again ⟨.ofMillis 0, .ofMillis 120000⟩⟩

end Market

end MarketConditions
