import Mathlib.Data.List.Basic
import Mathlib.Data.List.TakeWhile
import Mathlib.Tactic.Conv
import MarketConditions.Market.Buckets
import MarketConditions.Proofs.Market.Cut

/-!
# The bar of a trade

A cursor over the trades hands each bar those before its end that no earlier bar took. On
bars and trades in order of time a trade is thereby in the bucket of the first bar that
covers it, however the bars are spaced, and trades at or after the end of a bar change
neither its bucket nor an earlier one.

- `Market.InTime`: trades in order of time; `Market.running_bucket_append`: later trades
  change no bucket; `Market.buckets_take`: the first buckets are made of the trades
  before a close.
- `Candle.covers`, `Market.barOf`: the first bar that covers an instant.
- `Market.bucket_split`: **one bar** parts the trades; `Market.filter_barOf`: what that
  says of first bars.
- `Market.getElem?_running_bucket`, `Market.flatten_running_bucket`: each bucket,
  and all of them.
- `Market.trades_bucketed`: **no trade is lost or counted twice**.
-/

namespace MarketConditions

variable {α : Type}

theorem Timeframe.nanos_nonneg (t : Timeframe) : 0 ≤ t.nanos := by cases t <;> decide

/-- A bar covers the instants from its beginning up to, and not including, its end. -/
def Candle.covers (c : Candle α) (span : Int) (t : Instant) : Bool :=
  decide (c.time ≤ t) && decide (t < c.time.plus span)

namespace Market

/-! ## Later trades -/

/-- Entries without the property at the end of a list are not passed over. -/
theorem dropWhile_append_of_none {β : Type} {p : β → Bool} {xs ys : List β}
    (none : ∀ y ∈ ys, ¬ p y) : (xs ++ ys).dropWhile p = xs.dropWhile p ++ ys := by
  induction xs with
  | nil =>
    cases ys with
    | nil => rfl
    | cons y ys => exact List.dropWhile_cons_of_neg (none y List.mem_cons_self)
  | cons x xs ih =>
    rw [List.cons_append]
    by_cases hx : p x
    · rw [List.dropWhile_cons_of_pos hx, List.dropWhile_cons_of_pos hx, ih]
    · rw [List.dropWhile_cons_of_neg hx, List.dropWhile_cons_of_neg hx, List.cons_append]

/-- Nor are they taken. -/
theorem takeWhile_append_of_none {β : Type} {p : β → Bool} {xs ys : List β}
    (none : ∀ y ∈ ys, ¬ p y) : (xs ++ ys).takeWhile p = xs.takeWhile p := by
  induction xs with
  | nil =>
    cases ys with
    | nil => rfl
    | cons y ys => exact List.takeWhile_cons_of_neg (none y List.mem_cons_self)
  | cons x xs ih =>
    rw [List.cons_append]
    by_cases hx : p x
    · rw [List.takeWhile_cons_of_pos hx, List.takeWhile_cons_of_pos hx, ih]
    · rw [List.takeWhile_cons_of_neg hx, List.takeWhile_cons_of_neg hx]

/-- One bar leaves the trades after its close to later bars. -/
theorem bucket_append {span : Int} (forward : 0 ≤ span) {c : Candle α} {t : Instant}
    (closed : c.time.plus span ≤ t) {late : List (Trade α)} (after : ∀ x ∈ late, t ≤ x.time)
    (early : List (Trade α)) : bucket span (early ++ late) c =
      ((bucket span early c).1 ++ late, (bucket span early c).2) := by
  have not_inside : ∀ x ∈ late, ¬ decide (x.time < c.time.plus span) = true := by
    intro x hx
    rw [decide_eq_true_iff]
    exact Int.not_lt.mpr (Int.le_trans closed (after x hx))
  have not_before : ∀ x ∈ late, ¬ decide (x.time < c.time) = true := by
    intro x hx inside
    refine not_inside x hx (decide_eq_true ?_)
    exact Int.lt_of_lt_of_le (of_decide_eq_true inside) (Int.le_add_of_nonneg_right forward)
  unfold bucket
  simp only [dropWhile_append_of_none not_before, dropWhile_append_of_none not_inside,
    takeWhile_append_of_none not_inside]

/-- **Later trades change no bucket.** -/
theorem running_bucket_append {span : Int} (forward : 0 ≤ span) {t : Instant}
    {late : List (Trade α)} (after : ∀ x ∈ late, t ≤ x.time) {candles : List (Candle α)}
    (closed : ∀ c ∈ candles, c.time.plus span ≤ t) (early : List (Trade α)) :
    Column.running (bucket span) (early ++ late) candles =
      Column.running (bucket span) early candles := by
  induction candles generalizing early with
  | nil => rfl
  | cons c cs ih =>
    obtain ⟨first, rest⟩ := List.forall_mem_cons.mp closed
    unfold Column.running
    rw [bucket_append forward first after, ih rest]

/-- Without trades all buckets are empty. -/
theorem running_bucket_nil (span : Int) (candles : List (Candle α)) :
    Column.running (bucket span) [] candles = candles.map fun _ => [] := by
  induction candles with
  | nil => rfl
  | cons c cs ih => exact congrArg (List.cons []) ih

/-- A bucket holds trades of the market. -/
theorem mem_of_mem_running_bucket {span : Int} {candles : List (Candle α)}
    {left bucket : List (Trade α)}
    (here : bucket ∈ Column.running (Market.bucket span) left candles) {x : Trade α}
    (hx : x ∈ bucket) : x ∈ left := by
  induction candles generalizing left with
  | nil => exact absurd here List.not_mem_nil
  | cons c cs ih =>
    unfold Column.running at here
    rcases List.mem_cons.mp here with rfl | here
    · exact (List.dropWhile_sublist _).subset ((List.takeWhile_sublist _).subset hx)
    · exact (List.dropWhile_sublist _).subset ((List.dropWhile_sublist _).subset (ih here))

/-! ## Trades in order of time -/

/-- Trades in order of time. -/
def InTime (trades : List (Trade α)) : Prop := trades.Pairwise fun x y => x.time ≤ y.time

theorem InTime.first {trades : List (Trade α)} (inTime : InTime trades) (t : Instant) :
    Bisect.First (fun x : Trade α => decide (x.time < t)) trades := by
  refine List.Pairwise.imp (fun {x y} earlier later => ?_) inTime
  rw [decide_eq_true_iff] at later ⊢
  exact Int.lt_of_le_of_lt earlier later

/-- What is left behind the trades before an instant does not come before it. -/
theorem InTime.le_of_mem_dropWhile {trades : List (Trade α)} (inTime : InTime trades) {t : Instant}
    {x : Trade α} (hx : x ∈ trades.dropWhile fun x => decide (x.time < t)) : t ≤ x.time := by
  rw [← (inTime.first t).filter_not_eq_dropWhile] at hx
  have late := (List.mem_filter.mp hx).2
  simp only [Bool.not_eq_true', decide_eq_false_iff_not] at late
  exact Int.not_lt.mp late

/-- The trades before an instant. -/
def tradesBefore (t : Instant) (trades : List (Trade α)) : List (Trade α) :=
  trades.filter fun x => decide (x.time < t)

/-- Later trades are not among them. -/
theorem tradesBefore_append {t : Instant} {early late : List (Trade α)}
    (after : ∀ x ∈ late, t ≤ x.time) : tradesBefore t (early ++ late) = tradesBefore t early := by
  have none : tradesBefore t late = [] := by
    refine List.filter_eq_nil_iff.mpr fun x hx => ?_
    rw [decide_eq_true_iff]
    exact Int.not_lt.mpr (after x hx)
  unfold tradesBefore at none ⊢
  rw [List.filter_append, none, List.append_nil]

/-- Trades in order of time are those before an instant and later ones. -/
theorem InTime.split {trades : List (Trade α)} (inTime : InTime trades) (t : Instant) :
    ∃ late, trades = tradesBefore t trades ++ late ∧ ∀ x ∈ late, t ≤ x.time := by
  refine ⟨trades.dropWhile fun x => decide (x.time < t), ?_, fun x hx =>
    inTime.le_of_mem_dropWhile hx⟩
  unfold tradesBefore
  rw [(inTime.first t).filter_eq_takeWhile, List.takeWhile_append_dropWhile]

/-- The buckets of bars that are closed by an instant are made of the trades before it. -/
theorem buckets_take {m : Market α} (inTime : InTime m.trades) {t : Instant} {n : Nat}
    (closed : ∀ c ∈ m.candles.take n, c.time.plus m.timeframe.nanos ≤ t) :
    m.buckets.take n =
      Column.running (bucket m.timeframe.nanos) (tradesBefore t m.trades) (m.candles.take n) := by
  obtain ⟨late, split, after⟩ := inTime.split t
  unfold buckets
  rw [Column.take_running]
  conv_lhs => rw [split]
  exact running_bucket_append m.timeframe.nanos_nonneg after closed _

/-- By the close of a bar all earlier ones are closed. -/
theorem Ordered.closed {candles : List (Candle α)} (ordered : Ordered candles) {last : Nat}
    {c : Candle α} (here : candles[last]? = some c) (span : Int) :
    ∀ d ∈ candles.take (last + 1), d.time.plus span ≤ c.time.plus span := by
  intro d hd
  obtain ⟨inside, rfl⟩ := List.getElem?_eq_some_iff.mp here
  obtain ⟨i, hi, rfl⟩ := List.mem_take_iff_getElem.mp hd
  rcases Nat.lt_or_ge i last with before | same
  · exact Int.add_le_add_right (List.pairwise_iff_getElem.mp ordered i last _ inside before) span
  · cases (show i = last by omega)
    exact Int.le_refl _

/-! ## The bar of a trade -/

/-- The first of some bars that covers an instant. -/
def barOf (span : Int) (candles : List (Candle α)) (t : Instant) : Option Nat :=
  candles.findIdx? (·.covers span t)

variable {span : Int} {c : Candle α} {candles : List (Candle α)} {left : List (Trade α)}
  {t : Instant}

theorem covers_iff : c.covers span t = true ↔ c.time ≤ t ∧ t < c.time.plus span := by
  unfold Candle.covers
  rw [Bool.and_eq_true, decide_eq_true_iff, decide_eq_true_iff]

/-- No bar covers what comes before the first of them. -/
theorem barOf_of_early (ordered : Ordered (c :: candles)) (early : t < c.time) :
    barOf span (c :: candles) t = none := by
  refine List.findIdx?_eq_none_iff.mpr fun d hd => ?_
  have begins : c.time ≤ d.time := by
    rcases List.mem_cons.mp hd with rfl | hd
    · exact Int.le_refl _
    · exact (List.pairwise_cons.mp ordered).1 d hd
  rw [← Bool.not_eq_true, covers_iff]
  exact fun covered => Int.not_lt.mpr (Int.le_trans begins covered.1) early

theorem barOf_of_covers (covered : c.covers span t = true) :
    barOf span (c :: candles) t = some 0 := by
  unfold barOf
  rw [List.findIdx?_cons, covered]
  rfl

/-- What comes at the end of a bar or later is covered by later bars only. -/
theorem barOf_of_late (late : c.time.plus span ≤ t) :
    barOf span (c :: candles) t = (barOf span candles t).map (· + 1) := by
  have uncovered : c.covers span t = false := by
    rw [← Bool.not_eq_true, covers_iff]
    exact fun covered => Int.not_lt.mpr late covered.2
  unfold barOf
  rw [List.findIdx?_cons, uncovered]
  rfl

/-! ## What the cursor hands out -/

/-- **One bar** parts the trades: those before it, those that it covers, and those from
its end on. -/
theorem bucket_split (inTime : InTime left) (span : Int) (c : Candle α) :
    ∃ early, left = early ++ ((bucket span left c).2 ++ (bucket span left c).1) ∧
      (∀ x ∈ early, x.time < c.time) ∧ (∀ x ∈ (bucket span left c).2, c.covers span x.time = true) ∧
      ∀ x ∈ (bucket span left c).1, c.time.plus span ≤ x.time := by
  have due_inTime : InTime (left.dropWhile fun x => decide (x.time < c.time)) :=
    inTime.sublist (List.dropWhile_sublist _)
  refine ⟨left.takeWhile fun x => decide (x.time < c.time), ?_, fun x hx => ?_, fun x hx => ?_,
    fun x hx => due_inTime.le_of_mem_dropWhile hx⟩
  · unfold bucket
    rw [List.takeWhile_append_dropWhile, List.takeWhile_append_dropWhile]
  · exact of_decide_eq_true
      (List.mem_takeWhile_imp (p := fun x : Trade α => decide (x.time < c.time)) hx)
  · have due := inTime.le_of_mem_dropWhile (List.takeWhile_subset _ hx)
    refine covers_iff.mpr ⟨due, of_decide_eq_true ?_⟩
    exact List.mem_takeWhile_imp (p := fun x : Trade α => decide (x.time < c.time.plus span)) hx

/-- What is asked of the bar of a trade is asked of the trades that the first bar takes,
and of those that it leaves to later bars. -/
theorem filter_barOf (ordered : Ordered (c :: candles)) (inTime : InTime left)
    (asked : Option Nat → Bool) (outside : asked none = false) :
    (left.filter fun x => asked (barOf span (c :: candles) x.time)) =
      (if asked (some 0) then (bucket span left c).2 else []) ++
        (bucket span left c).1.filter fun x => asked ((barOf span candles x.time).map (· + 1)) := by
  obtain ⟨early, split, before, taken, rest⟩ := bucket_split inTime span c
  have first : (early.filter fun x => asked (barOf span (c :: candles) x.time)) = [] := by
    refine List.filter_eq_nil_iff.mpr fun x hx => ?_
    rw [barOf_of_early ordered (before x hx), outside]
    exact Bool.false_ne_true
  have second : ((bucket span left c).2.filter fun x => asked (barOf span (c :: candles) x.time)) =
      if asked (some 0) then (bucket span left c).2 else [] := by
    have same : ∀ x ∈ (bucket span left c).2,
        asked (barOf span (c :: candles) x.time) = asked (some 0) := by
      intro x hx
      rw [barOf_of_covers (taken x hx)]
    rw [List.filter_congr same]
    cases asked (some 0) with
    | true => rw [List.filter_true, if_pos rfl]
    | false => rw [List.filter_false, if_neg Bool.false_ne_true]
  conv_lhs => rw [split]
  rw [List.filter_append, List.filter_append, first, second, List.nil_append]
  congr 1
  refine List.filter_congr fun x hx => ?_
  rw [barOf_of_late (rest x hx)]

theorem InTime.rest (inTime : InTime left) (span : Int) (c : Candle α) :
    InTime (bucket span left c).1 :=
  inTime.sublist ((List.dropWhile_sublist _).trans (List.dropWhile_sublist _))

/-- **Each bucket** holds the trades whose first bar it is. -/
theorem getElem?_running_bucket (ordered : Ordered candles) (inTime : InTime left) (i : Nat) :
    (Column.running (bucket span) left candles)[i]? =
      candles[i]?.map fun _ => left.filter fun x => barOf span candles x.time == some i := by
  induction candles generalizing left i with
  | nil => rfl
  | cons c cs ih =>
    have rest := (List.pairwise_cons.mp ordered).2
    unfold Column.running
    rw [filter_barOf ordered inTime (· == some i) rfl]
    cases i with
    | zero => simp
    | succ i =>
      have later : ∀ o : Option Nat, (o.map (· + 1) == some (i + 1)) = (o == some i) := by
        rintro (_ | j)
        · rfl
        · simp
      rw [List.getElem?_cons_succ, List.getElem?_cons_succ, ih rest (inTime.rest span c) i]
      simp only [later]
      rfl

/-- **All buckets** together hold the trades that some bar covers. -/
theorem flatten_running_bucket (ordered : Ordered candles) (inTime : InTime left) :
    (Column.running (bucket span) left candles).flatten =
      left.filter fun x => (barOf span candles x.time).isSome := by
  induction candles generalizing left with
  | nil => exact (List.filter_false left).symm
  | cons c cs ih =>
    have rest := (List.pairwise_cons.mp ordered).2
    unfold Column.running
    rw [List.flatten_cons, ih rest (inTime.rest span c),
      filter_barOf ordered inTime Option.isSome rfl]
    simp

variable {m : Market α}

/-- A trade is in the bucket of its first bar and in no other. -/
theorem mem_bucket_iff (ordered : Ordered m.candles) (inTime : InTime m.trades) {i : Nat}
    {bucket : List (Trade α)} (here : m.buckets[i]? = some bucket) {x : Trade α} :
    x ∈ bucket ↔ x ∈ m.trades ∧ barOf m.timeframe.nanos m.candles x.time = some i := by
  have holds := (getElem?_running_bucket ordered inTime i).symm.trans here
  obtain ⟨c, -, rfl⟩ := Option.map_eq_some_iff.mp holds
  rw [List.mem_filter, beq_iff_eq]

/-- **No trade is lost or counted twice.** Take bars and trades in order of time, with any
gaps between the bars and any overlaps. The bucket of a bar holds, in order, the trades of
which it is the first bar that covers them. One after the other the buckets hold all
trades that some bar covers, in order. So a trade that some bar covers is in exactly one
bucket, and any other is in none. -/
theorem trades_bucketed (m : Market α) (ordered : Ordered m.candles) (inTime : InTime m.trades) :
    (∀ i, m.buckets[i]? = m.candles[i]?.map fun _ =>
      m.trades.filter fun x => barOf m.timeframe.nanos m.candles x.time == some i) ∧
    m.buckets.flatten =
      m.trades.filter (fun x => (barOf m.timeframe.nanos m.candles x.time).isSome) ∧
    ∀ x ∈ m.trades,
      ((∃ c ∈ m.candles, c.covers m.timeframe.nanos x.time = true) →
        ∃! i : Nat, ∃ bucket, m.buckets[i]? = some bucket ∧ x ∈ bucket) ∧
      ((∀ c ∈ m.candles, ¬ c.covers m.timeframe.nanos x.time = true) →
        ∀ bucket ∈ m.buckets, x ∉ bucket) := by
  refine ⟨getElem?_running_bucket ordered inTime, flatten_running_bucket ordered inTime,
    fun x hx => ⟨?_, ?_⟩⟩
  · rintro ⟨c, hc, covered⟩
    obtain ⟨i, first⟩ : ∃ i, barOf m.timeframe.nanos m.candles x.time = some i := by
      rw [← Option.isSome_iff_exists]
      unfold barOf
      rw [List.findIdx?_isSome]
      exact List.any_eq_true.mpr ⟨c, hc, covered⟩
    have inside : i < m.buckets.length := by
      rw [length_buckets]
      exact (List.findIdx?_eq_some_iff_findIdx_eq.mp first).1
    refine ⟨i, ⟨_, List.getElem?_eq_getElem inside, ?_⟩, ?_⟩
    · exact (mem_bucket_iff ordered inTime (List.getElem?_eq_getElem inside)).mpr ⟨hx, first⟩
    · rintro j ⟨bucket, here, inBucket⟩
      have second := ((mem_bucket_iff ordered inTime here).mp inBucket).2
      exact Option.some.inj (second.symm.trans first)
  · intro uncovered bucket hbucket inBucket
    obtain ⟨i, here⟩ := List.mem_iff_getElem?.mp hbucket
    have first := ((mem_bucket_iff ordered inTime here).mp inBucket).2
    obtain ⟨inside, covered, -⟩ := List.findIdx?_eq_some_iff_getElem.mp first
    exact uncovered _ (List.getElem_mem inside) covered

/-- Bars of a minute that begin at 0 s twice, at 30 s and at 180 s, and trades of sizes 1
to 6: before all bars, at the beginning of two, in two at once, at the end of one, in a
gap and in the last bar. -/
theorem trades_bucketed_overlap :
    let bar (second : Int) : Candle Nat := ⟨.ofMillis (second * 1000), 1, 1, 1, 1, 1, none, none⟩
    let trade (second : Int) (size : Nat) : Trade Nat := ⟨.ofMillis (second * 1000), 1, size, .buy⟩
    let m : Market Nat := ⟨"BTCUSDT", .m1, [bar 0, bar 0, bar 30, bar 180],
      [trade (-1) 1, trade 0 2, trade 45 3, trade 60 4, trade 90 5, trade 200 6], [], none⟩
    let sizes (trades : List (Trade Nat)) := trades.map Trade.size
    (Ordered m.candles ∧ InTime m.trades) ∧
      m.buckets[0]?.map sizes = some [2, 3] ∧ m.buckets[1]?.map sizes = some [] ∧
      m.buckets[2]?.map sizes = some [4] ∧ sizes m.buckets.flatten = [2, 3, 4, 6] := by
  intro bar trade m sizes
  have ordered : Ordered m.candles := by
    unfold Ordered
    decide
  have inTime : InTime m.trades := by
    unfold InTime
    decide
  obtain ⟨each, all, -⟩ := trades_bucketed m ordered inTime
  rw [each 0, each 1, each 2, all]
  exact ⟨⟨ordered, inTime⟩, by decide +kernel, by decide +kernel, by decide +kernel,
    by decide +kernel⟩

end Market

end MarketConditions
