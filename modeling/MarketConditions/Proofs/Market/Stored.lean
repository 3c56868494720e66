import MarketConditions.Market.Store
import MarketConditions.Proofs.Market.Cut

/-!
# The order of stored bars

As bars are appended, the first of them is compared with the last stored one. Where
the stored bars ascend and the new ones do, this is all there is to check: the whole
then ascends, or the new bars are refused. That the new bars ascend among themselves
is not checked.

- `Market.Ascending`: each bar begins after those before it;
  `Market.ascending_append_iff`: what that takes of two runs of bars, one behind the
  other.
- `Store.append_cases`: what comes of bars that are appended to a stored market.
- `Store.Call`, `Store.after`, `Store.run`: a store that is called on, once and many times.
- `Store.stays_ordered`: **stored bars ascend after every sequence of calls** that adds
  bars that do, a batch that would break the order is refused, and loading gives the
  bars of the span.
- `Store.order_broken`: an accepted batch that breaks the order.
-/

namespace MarketConditions

variable {α : Type}

namespace Market

/-! ## Bars that ascend -/

/-- Each bar begins after those before it. -/
def Ascending (candles : List (Candle α)) : Prop := candles.Pairwise fun c d => c.time < d.time

instance (candles : List (Candle α)) : Decidable (Ascending candles) :=
  inferInstanceAs (Decidable (candles.Pairwise fun c d => c.time < d.time))

theorem Ascending.ordered {candles : List (Candle α)} (ascending : Ascending candles) :
    Ordered candles :=
  List.Pairwise.imp (fun earlier => Int.le_of_lt earlier) ascending

/-- The market with further bars. -/
def followedBy (m : Market α) (new : List (Candle α)) : Market α :=
  { m with candles := m.candles ++ new }

/-- The first of the new bars begins after the last of the old ones. -/
def Follows (old new : List (Candle α)) : Prop :=
  ∀ last ∈ old.getLast?, ∀ first ∈ new.head?, last.time < first.time

/-- No bar begins after the last one. -/
theorem Ascending.le_last {candles : List (Candle α)} (ascending : Ascending candles)
    {c : Candle α} (hc : c ∈ candles) : ∃ last ∈ candles.getLast?, c.time ≤ last.time := by
  obtain rfl | ⟨front, last, rfl⟩ := List.eq_nil_or_concat candles
  · cases hc
  · rw [List.concat_eq_append] at hc ascending ⊢
    refine ⟨last, List.getLast?_concat, ?_⟩
    rcases List.mem_append.mp hc with hc | hc
    · exact Int.le_of_lt ((List.pairwise_append.mp ascending).2.2 c hc last List.mem_cons_self)
    · rw [List.mem_singleton.mp hc]
      exact Int.le_refl _

/-- No bar begins before the first one. -/
theorem Ascending.head_le {candles : List (Candle α)} (ascending : Ascending candles)
    {c : Candle α} (hc : c ∈ candles) : ∃ first ∈ candles.head?, first.time ≤ c.time := by
  cases candles with
  | nil => cases hc
  | cons first rest =>
    refine ⟨first, rfl, ?_⟩
    rcases List.mem_cons.mp hc with rfl | hc
    · exact Int.le_refl _
    · exact Int.le_of_lt ((List.pairwise_cons.mp ascending).1 c hc)

/-- Two runs of bars, one behind the other, ascend if each of them does and the second
follows the first. -/
theorem ascending_append_iff {old new : List (Candle α)} :
    Ascending (old ++ new) ↔ Ascending old ∧ Ascending new ∧ Follows old new := by
  refine List.pairwise_append.trans (and_congr_right fun olds => and_congr_right fun news => ?_)
  have olds : Ascending old := olds
  have news : Ascending new := news
  constructor
  · intro later last hlast first hfirst
    exact later last (List.mem_of_getLast? hlast) first (List.mem_of_head? hfirst)
  · intro follows c hc d hd
    obtain ⟨last, hlast, upto⟩ := olds.le_last hc
    obtain ⟨first, hfirst, since⟩ := news.head_le hd
    exact Int.lt_of_le_of_lt upto (Int.lt_of_lt_of_le (follows last hlast first hfirst) since)

end Market

namespace Store

open Market

/-! ## Appending -/

/-- New bars are let in if they follow the old ones, and else refused with the two bars
that stand in the way. -/
theorem checkFollows_cases (old new : List (Candle α)) :
    Follows old new ∧ checkFollows old new = .ok () ∨
      ¬ Follows old new ∧ ∃ last ∈ old.getLast?, ∃ first ∈ new.head?, checkFollows old new = .error
        (.series s!"appended bar at {first.time.text} does not follow {last.time.text}") := by
  unfold checkFollows
  split
  · rename_i last first hlast hfirst
    by_cases late : first.time ≤ last.time
    · refine .inr ⟨fun follows => ?_, last, hlast, first, hfirst, if_pos late⟩
      exact Int.not_lt.mpr late (follows last hlast first hfirst)
    · refine .inl ⟨fun l hl f hf => ?_, if_neg late⟩
      cases hlast.symm.trans hl
      cases hfirst.symm.trans hf
      exact Int.not_le.mp late
  · rename_i missing
    exact .inl ⟨fun l hl f hf => (missing l f hl hf).elim, rfl⟩

/-- A stored market is found under its symbol and timeframe. -/
theorem mem_of_find? {s : Store α} {symbol : String} {timeframe : Timeframe} {m : Market α}
    (found : s.find? symbol timeframe = some m) :
    m ∈ s.markets ∧ m.symbol = symbol ∧ m.timeframe = timeframe := by
  have named := List.find?_some found
  simp only [isOf, Bool.and_eq_true, beq_iff_eq] at named
  exact ⟨List.mem_of_find?_eq_some found, named⟩

/-- **Appending** to a stored market: the longer market takes its place and its length is
told, or the bars are refused. -/
theorem append_cases {s : Store α} {symbol : String} {timeframe : Timeframe} {m : Market α}
    (found : s.find? symbol timeframe = some m) (new : List (Candle α)) :
    Follows m.candles new ∧ s.append symbol timeframe new =
        .ok ((m.followedBy new).length, s.insert (m.followedBy new)) ∨
      ¬ Follows m.candles new ∧ ∃ last ∈ m.candles.getLast?, ∃ first ∈ new.head?,
        s.append symbol timeframe new = .error
          (.series s!"appended bar at {first.time.text} does not follow {last.time.text}") := by
  have appends : s.append symbol timeframe new = (checkFollows m.candles new).map fun _ =>
      ((m.followedBy new).length, s.insert (m.followedBy new)) := by
    have got : s.get symbol timeframe = .ok m := by
      unfold get
      rw [found]
    unfold append
    rw [got]
    show (checkFollows m.candles new >>= fun _ => _) = _
    cases checkFollows m.candles new <;> rfl
  rcases checkFollows_cases m.candles new with ⟨follows, ok⟩ | ⟨late, l, hl, f, hf, refused⟩
  · refine .inl ⟨follows, ?_⟩
    rw [appends, ok]
    rfl
  · refine .inr ⟨late, l, hl, f, hf, ?_⟩
    rw [appends, refused]
    rfl

/-- Loading from a stored market cuts it. -/
theorem load_of_found {s : Store α} {symbol : String} {timeframe : Timeframe} {m : Market α}
    (found : s.find? symbol timeframe = some m) (start stop : Instant) :
    s.load symbol timeframe start stop = .ok (m.between start stop) := by
  unfold load get
  rw [found]
  rfl

/-! ## Calls -/

/-- What a store can be called on for. -/
inductive Call (α : Type) where
  | insert (m : Market α)
  | append (symbol : String) (timeframe : Timeframe) (new : List (Candle α))
  | load (symbol : String) (timeframe : Timeframe) (start stop : Instant)

/-- The store after a call. What is refused leaves it as it is, and so does loading. -/
def after (s : Store α) : Call α → Store α
  | .insert m => s.insert m
  | .append symbol timeframe new =>
    match s.append symbol timeframe new with
    | .ok (_, s') => s'
    | .error _ => s
  | .load .. => s

/-- The store after a sequence of calls. -/
def run (s : Store α) (calls : List (Call α)) : Store α := calls.foldl after s

/-- The bars that a call adds: those of an inserted market, or new ones that are let in. -/
def added (s : Store α) : Call α → List (Candle α)
  | .insert m => m.candles
  | .append symbol timeframe new => if (s.append symbol timeframe new).isOk then new else []
  | .load .. => []

/-- In a sequence of calls each adds bars that ascend. -/
def AddsAscending (s : Store α) : List (Call α) → Prop
  | [] => True
  | call :: calls => Ascending (s.added call) ∧ (s.after call).AddsAscending calls

/-- The bars of each stored market ascend. -/
def Ascends (s : Store α) : Prop := ∀ m ∈ s.markets, Ascending m.candles

theorem Ascends.insert {s : Store α} (h : s.Ascends) {m : Market α}
    (ascending : Ascending m.candles) : (s.insert m).Ascends := by
  intro other hother
  rcases List.mem_cons.mp hother with rfl | kept
  · exact ascending
  · exact h other (List.mem_filter.mp kept).1

/-- **One call** keeps stored bars in order if it adds bars that ascend. -/
theorem Ascends.after {s : Store α} (h : s.Ascends) {call : Call α}
    (adds : Ascending (s.added call)) : (s.after call).Ascends := by
  cases call with
  | insert m => exact h.insert adds
  | load => exact h
  | append symbol timeframe new =>
    rw [added] at adds
    rw [Store.after]
    cases found : s.find? symbol timeframe with
    | none =>
      have refused : s.append symbol timeframe new = .error (missing symbol timeframe) := by
        unfold Store.append get
        rw [found]
        rfl
      rw [refused]
      exact h
    | some m =>
      -- only a batch that is let in has to ascend, so the two outcomes are told apart first
      rcases append_cases found new with ⟨follows, ok⟩ | ⟨-, _, -, _, -, refused⟩
      · rw [ok] at adds ⊢
        have stored := h m (mem_of_find? found).1
        exact h.insert (ascending_append_iff.mpr ⟨stored, adds, follows⟩)
      · rw [refused]
        exact h

/-- A sequence of calls keeps them so. -/
theorem Ascends.run {s : Store α} (h : s.Ascends) {calls : List (Call α)}
    (adds : s.AddsAscending calls) : (s.run calls).Ascends := by
  induction calls generalizing s with
  | nil => exact h
  | cons call calls ih => exact ih (h.after adds.1) adds.2

/-- **The store stays in order.** Take any sequence of calls in which inserted bars
ascend, and those of each batch that is let in. Then the bars of every stored market
ascend. Whatever batch is appended to one of them next, it is let in and the bars then
ascend if those of the batch do; or it would break the order, is refused, and leaves the
store as it is. What is loaded are the stored bars of the span. -/
theorem stays_ordered (calls : List (Call α)) (adds : (empty : Store α).AddsAscending calls) :
    let s := (empty : Store α).run calls
    (∀ m ∈ s.markets, Ascending m.candles) ∧
      ∀ symbol timeframe m, s.find? symbol timeframe = some m →
        (∀ new,
          s.append symbol timeframe new =
                .ok ((m.followedBy new).length, s.insert (m.followedBy new)) ∧
              s.after (.append symbol timeframe new) = s.insert (m.followedBy new) ∧
              (Ascending (m.followedBy new).candles ↔ Ascending new) ∨
            (∃ reason, s.append symbol timeframe new = .error (.series reason)) ∧
              s.after (.append symbol timeframe new) = s ∧
              ¬ Ascending (m.followedBy new).candles) ∧
        ∀ start stop, ∃ cut, s.load symbol timeframe start stop = .ok cut ∧
          cut.candles = m.candles.filter fun c =>
            decide (start ≤ c.time) && decide (c.time < stop) := by
  intro s
  have nothing : (empty : Store α).Ascends := fun m hm => by cases hm
  have ascends : s.Ascends := nothing.run adds
  refine ⟨ascends, fun symbol timeframe m found => ⟨fun new => ?_, fun start stop => ?_⟩⟩
  · have stored := ascends m (mem_of_find? found).1
    rw [Store.after]
    rcases append_cases found new with ⟨follows, ok⟩ | ⟨late, _, -, _, -, refused⟩
    · refine .inl ⟨ok, ?_, ?_⟩
      · rw [ok]
      · refine ascending_append_iff.trans ?_
        exact ⟨fun all => all.2.1, fun news => ⟨stored, news, follows⟩⟩
    · refine .inr ⟨⟨_, refused⟩, ?_, fun all => late (ascending_append_iff.mp all).2.2⟩
      rw [refused]
  · have stored := ascends m (mem_of_find? found).1
    exact ⟨_, load_of_found found start stop, candles_between stored.ordered start stop⟩

/-- A bar at a number of minutes. -/
def barAtMinute (minute : Int) : Candle Nat :=
  ⟨.ofMillis (minute * 60000), 1, 1, 1, 1, 1, none, none⟩

/-- Two bars are stored, a third is appended, and a batch that begins with an old bar
is refused. -/
theorem stays_ordered_refused :
    let s := (empty : Store Nat).run
      [.insert (.ofCandles [barAtMinute 0, barAtMinute 1]),
        .append "BTCUSDT" .m1 [barAtMinute 2], .append "BTCUSDT" .m1 [barAtMinute 1, barAtMinute 0]]
    ∀ m ∈ s.markets, Ascending m.candles :=
  (stays_ordered [.insert (.ofCandles [barAtMinute 0, barAtMinute 1]),
    .append "BTCUSDT" .m1 [barAtMinute 2], .append "BTCUSDT" .m1 [barAtMinute 1, barAtMinute 0]]
    ⟨by decide, by decide, by decide, trivial⟩).1

/-- A batch of two bars follows the stored one, but its second bar begins before its
first. It is let in, the stored bars do not ascend any more, and the second bar is not
found by its time. -/
theorem order_broken :
    let s := (empty : Store Nat).run [.insert (.ofCandles [barAtMinute 0]),
      .append "BTCUSDT" .m1 [barAtMinute 2, barAtMinute 1]]
    let stored := [barAtMinute 0, barAtMinute 2, barAtMinute 1]
    (s.find? "BTCUSDT" .m1).map Market.candles = some stored ∧ ¬ Ascending stored ∧
      (s.load "BTCUSDT" .m1 (.ofMillis 60000) (.ofMillis 120000)).map Market.candles = .ok [] := by
  refine ⟨rfl, by decide, rfl⟩

end Store

end MarketConditions
