import MarketConditions.Proofs.Indicator.Warmup
import MarketConditions.Proofs.Expr.RangeFunctions

/-!
# The first bar of every output

A table says for each output of an indicator how many bars it waits for. In exact
arithmetic every study keeps to it, and so does what an expression reads of an indicator.

- `Indicator.firstBars`: the table; `Indicator.outputs_of_firstBars`: it leaves
  no output out.
- `Indicator.study_begins`: **studies keep to the table**.
- `Session.FirstDefined`: an expression is undefined below a bar and a number from it on.
- `Session.warmup_exact`: **what is read of an indicator is undefined exactly below
  its first bar**.
-/

namespace MarketConditions

open Column Exact

variable {candles : List (Candle Exact)}

/-! ## Every indicator -/

namespace Indicator

/-- The periods that outputs wait for. -/
def periods : Indicator → List Nat
  | sma p | ema p | wma p | rsi p | roc p | atr p | stddev p => [p]
  | bbands p _ | supertrend p _ => [p]
  | macd fast slow signal => [fast, slow, signal]
  | stochastic k d => [k, d]
  | ichimoku tenkan kijun senkou => [tenkan, kijun, senkou]
  | _ => []

/-- The outputs that wait for periods, each with the first bar at which it is defined. -/
def firstBars : Indicator → List (Option Property × Nat)
  | sma p | ema p | wma p | atr p | stddev p => [(none, p - 1)]
  | rsi p | roc p => [(none, p)]
  | macd fast slow signal =>
    [(some .line, max fast slow - 1), (some .signal, max fast slow - 1 + (signal - 1)),
      (some .histogram, max fast slow - 1 + (signal - 1))]
  | bbands p _ =>
    [(some .upper, p - 1), (some .middle, p - 1), (some .lower, p - 1), (some .width, p - 1)]
  | stochastic k d => [(some .k, k - 1), (some .d, k - 1 + (d - 1))]
  | supertrend p _ => [(some .trend, p - 1), (some .upper, p - 1), (some .lower, p - 1)]
  | ichimoku tenkan kijun senkou =>
    [(some .tenkan, tenkan - 1), (some .kijun, kijun - 1),
      (some .senkouA, kijun + (max tenkan kijun - 1)), (some .senkouB, kijun + (senkou - 1)),
      (some .chikou, kijun)]
  | _ => []

/-- An indicator has either all its outputs in the table or none. -/
theorem outputs_of_firstBars (i : Indicator) :
    i.firstBars = [] ∨ i.firstBars.map Prod.fst = i.outputs := by
  cases i <;> first | exact .inl rfl | exact .inr rfl

theorem requirePositive_eq_ok (i : Indicator) (what : String) {n : Nat} (positive : 1 ≤ n) :
    i.requirePositive what n = .ok () := if_neg (by omega)

/-- An indicator of the table is valid if its periods are at least 1. -/
theorem validate_of_positive {i : Indicator} (positive : ∀ p ∈ i.periods, 1 ≤ p)
    (told : i.firstBars ≠ []) : i.validate = .ok () := by
  cases i with
  | sma p | ema p | wma p | rsi p | roc p | atr p | stddev p =>
    exact requirePositive_eq_ok _ _ (positive p List.mem_cons_self)
  | bbands p _ | supertrend p _ => exact requirePositive_eq_ok _ _ (positive p List.mem_cons_self)
  | macd a b c | ichimoku a b c =>
    simp only [periods, List.forall_mem_cons] at positive
    simp only [validate, requirePositive_eq_ok _ _ positive.1,
      requirePositive_eq_ok _ _ positive.2.1, requirePositive_eq_ok _ _ positive.2.2.1]
    rfl
  | stochastic a b =>
    simp only [periods, List.forall_mem_cons] at positive
    simp only [validate, requirePositive_eq_ok _ _ positive.1,
      requirePositive_eq_ok _ _ positive.2.1]
    rfl
  | _ => exact absurd rfl told

end Indicator

/-- An output is one of the table, and its column begins where the table says. -/
def Output.Begins (o : Output Exact) (entry : Option Property × Nat) : Prop :=
  o.property = entry.1 ∧ ∃ xs, o.cells = .numbers xs.toArray ∧ Column.Begins entry.2 xs

/-- **Every study keeps to the table.** -/
theorem Indicator.study_begins {i : Indicator} (positive : ∀ p ∈ i.periods, 1 ≤ p)
    (told : i.firstBars ≠ []) (priced : ∀ c ∈ candles, c.Priced) (share : Exact)
    (swings : List (Swing Exact)) :
    List.Forall₂ Output.Begins (i.study share candles swings) i.firstBars := by
  have closing := begins_of_numbers (number_of_closes priced)
  have single : ∀ {xs : List Exact} {first : Nat}, Column.Begins first xs →
      List.Forall₂ Output.Begins (Study.single xs) [(none, first)] := fun h =>
    .cons ⟨rfl, _, rfl, h⟩ .nil
  cases i with
  | sma p =>
    have h := Average.begins_simple closing (positive p List.mem_cons_self)
    rw [Nat.zero_add] at h
    exact single h
  | ema p =>
    have h := Average.begins_exponential closing (positive p List.mem_cons_self)
    rw [Nat.zero_add] at h
    exact single h
  | wma p =>
    have h := Average.begins_weighted closing (positive p List.mem_cons_self)
    rw [Nat.zero_add] at h
    exact single h
  | rsi p =>
    exact single
      (Momentum.begins_rsi (positive p List.mem_cons_self) (number_of_closes priced))
  | roc p => exact single (Momentum.begins_roc (positive p List.mem_cons_self) priced)
  | atr p =>
    exact single (Volatility.begins_averageTrueRange (positive p List.mem_cons_self) priced)
  | stddev p => exact single (Volatility.begins_deviation (positive p List.mem_cons_self) priced)
  | macd fast slow signal =>
    simp only [periods, List.forall_mem_cons] at positive
    obtain ⟨hfast, hslow, hsignal, -⟩ := positive
    exact .cons ⟨rfl, _, rfl, Momentum.begins_macdLine hfast hslow signal priced⟩
      (.cons ⟨rfl, _, rfl, Momentum.begins_macdSignal hfast hslow hsignal priced⟩
        (.cons ⟨rfl, _, rfl, Momentum.begins_macdHistogram hfast hslow hsignal priced⟩ .nil))
  | bbands p multiple =>
    obtain ⟨upper, middle, lower⟩ :=
      Volatility.begins_bollinger (positive p List.mem_cons_self) multiple priced
    have width := upper.minus lower
    rw [Nat.max_self] at width
    exact .cons ⟨rfl, _, rfl, upper⟩ (.cons ⟨rfl, _, rfl, middle⟩ (.cons ⟨rfl, _, rfl, lower⟩
      (.cons ⟨rfl, _, rfl, width⟩ .nil)))
  | stochastic k d =>
    simp only [periods, List.forall_mem_cons] at positive
    obtain ⟨hk, hd, -⟩ := positive
    have high := number_of_highs priced
    have low := number_of_lows priced
    have closing := number_of_closes priced
    exact .cons ⟨rfl, _, rfl, Momentum.begins_stochasticK hk d high low closing⟩
      (.cons ⟨rfl, _, rfl, Momentum.begins_stochasticD hk hd high low closing⟩ .nil)
  | supertrend p multiple =>
    have long := positive p List.mem_cons_self
    exact .cons ⟨rfl, _, rfl, Volatility.begins_trend long multiple priced fun _ h => h.trend⟩
      (.cons ⟨rfl, _, rfl, Volatility.begins_trend long multiple priced fun _ h => h.upper⟩
        (.cons ⟨rfl, _, rfl, Volatility.begins_trend long multiple priced fun _ h => h.lower⟩ .nil))
  | ichimoku tenkan kijun senkou =>
    simp only [periods, List.forall_mem_cons] at positive
    obtain ⟨ht, hk, hs, -⟩ := positive
    have fast := Cloud.begins_midpoint ht priced
    have slow := Cloud.begins_midpoint hk priced
    have spanA := (fast.midway slow).lag kijun
    rw [show max (tenkan - 1) (kijun - 1) = max tenkan kijun - 1 by omega] at spanA
    exact .cons ⟨rfl, _, rfl, fast⟩ (.cons ⟨rfl, _, rfl, slow⟩ (.cons ⟨rfl, _, rfl, spanA⟩
      (.cons ⟨rfl, _, rfl, (Cloud.begins_midpoint hs priced).lag kijun⟩
        (.cons ⟨rfl, _, rfl, Cloud.begins_closesFrom kijun priced⟩ .nil))))
  | _ => exact absurd rfl told

/-! ## What is read -/

/-- An expression is a number at each bar of the market, but for the bars below a first
one, where it is undefined. -/
def Session.FirstDefined (s : Session Exact) (e : Expr Exact) (first : Nat) : Prop :=
  ∀ bar < s.library.length, ∃ x, (Session.evaluate e bar s).1 = .ok (.number x) ∧
    (Scalar.isUndefined x = true ↔ bar < first) ∧ (first ≤ bar → x.IsNumber)

/-- What is read off a column that begins at a bar. -/
theorem Session.firstDefined_of_column {s : Session Exact} {e : Expr Exact} {first : Nat}
    {xs : List Exact} (begins : Column.Begins first xs) (length : xs.length = s.library.length)
    (read : ∀ bar, (Session.evaluate e bar s).1 = .ok (.number (orUndefined xs[bar]?))) :
    s.FirstDefined e first := by
  intro bar inside
  have here : xs[bar]? = some xs[bar] := List.getElem?_eq_getElem (by omega)
  refine ⟨xs[bar], ?_, ⟨fun undefined => ?_, fun early => ?_⟩, begins.after bar _ here⟩
  · rw [read, here]
    rfl
  · by_contra late
    rw [(begins.after bar _ here (by omega)).defined] at undefined
    cases undefined
  · exact isUndefined_iff.mpr (begins.before bar _ here early)

/-- An output of the table is read where the table says. -/
theorem Session.firstDefined_of_study (s : Session Exact) {i : Indicator}
    (priced : ∀ c ∈ s.library.market.candles, c.Priced) (positive : ∀ p ∈ i.periods, 1 ≤ p)
    {entry : Option Property × Nat} (told : entry ∈ i.firstBars) :
    s.FirstDefined (.indicator i entry.1) entry.2 := by
  have known : i.firstBars ≠ [] := List.ne_nil_of_mem told
  have keeps : List.Forall₂ Output.Begins (i.studyOver s.library.settings.valueAreaShare
      s.library.settings.swingStrength s.library.market.candles) i.firstBars :=
    Indicator.study_begins positive known priced _ _
  obtain ⟨n, inside, rfl⟩ := List.mem_iff_getElem.mp told
  obtain ⟨named, xs, cells, begins⟩ := keeps.get (by rwa [keeps.length_eq]) inside
  have here := List.get_mem _ ⟨n, by rwa [keeps.length_eq]⟩
  refine firstDefined_of_column begins ?_ fun bar => ?_
  · have length := (i.causal_studyOver s.library.settings.valueAreaShare
      s.library.settings.swingStrength).length s.library.market.candles _ here
    rwa [cells] at length
  · have read := Session.evaluate_output (Indicator.validate_of_positive positive known) here bar
    rw [(Session.evaluate_eq _ _ _).1] at read ⊢
    rw [named, cells] at read
    rw [← List.getElem?_toArray]
    exact read

/-- A range function of a period of at least 1 is read where its column begins. -/
theorem Session.firstDefined_of_range (s : Session Exact) {function : RangeFunction}
    {d : Derived Exact} {name reason : String} {p : Nat} (positive : 1 ≤ p)
    (plan : ∀ bar, Library.planRange bar function =
      (LibraryError.unless name reason (p ≠ 0) >>= fun _ => pure (Library.readNumber d bar)))
    {column : List Exact} (holds : s.library.derived d = .numbers column.toArray)
    (begins : Column.Begins p column) (length : column.length = s.library.length) :
    s.FirstDefined (.range function) p := by
  have planned : decide (p ≠ 0) = true := decide_eq_true (by omega)
  refine firstDefined_of_column begins length fun bar => ?_
  rw [(Session.evaluate_eq _ _ _).1]
  exact s.library.evaluate_range ((plan bar).trans (Library.unless_bind planned _)) holds

/-- **Warm-up is exact.** Take a market of bars with real prices and closes that are not
zero, and periods of at least 1. Each output of an indicator of the table is undefined
exactly at the bars below its first one, and a number at all others; and so are the
highest high and the lowest low of the `p` bars before a bar, whose first bar is `p`. -/
theorem Session.warmup_exact {s : Session Exact}
    (priced : ∀ c ∈ s.library.market.candles, c.Priced) :
    (∀ i : Indicator, (∀ p ∈ i.periods, 1 ≤ p) → ∀ entry ∈ i.firstBars,
      s.FirstDefined (.indicator i entry.1) entry.2) ∧
    ∀ p, 1 ≤ p → s.FirstDefined (.range (.highOf p)) p ∧ s.FirstDefined (.range (.lowOf p)) p := by
  refine ⟨fun i positive entry told => s.firstDefined_of_study priced positive told, ?_⟩
  intro p positive
  constructor
  · exact s.firstDefined_of_range positive (fun _ => rfl) rfl
      (Extreme.begins_highOf positive priced) ((Extreme.causal_earlierHigh p 0).length _)
  · exact s.firstDefined_of_range positive (fun _ => rfl) rfl
      (Extreme.begins_lowOf positive priced) ((Extreme.causal_earlierLow p 0).length _)

/-- A bar at one price, a positive literal. -/
theorem Candle.priced_still (t : Instant) {n : Nat} (positive : 1 ≤ n) :
    (Candle.still t (OfNat.ofNat n : Exact)).Priced :=
  have price := (isNonneg_literal n).isNumber
  ⟨price, price, price, literal_ne_zero positive⟩

/-- Two bars: what waits for one bar is a number at the second, and what waits for
two is not. -/
theorem Session.warmup_exact_two_bars :
    let s : Session Exact :=
      .new ⟨.ofCandles [.still (.ofMillis 0) 1, .still (.ofMillis 60000) 2], .default⟩
    ((∀ c ∈ s.library.market.candles, c.Priced) ∧ s.library.length = 2) ∧
      s.FirstDefined (.indicator (.sma 2) none) 1 ∧
      s.FirstDefined (.indicator (.macd 1 2 1) (some .histogram)) 1 ∧
      s.FirstDefined (.indicator (.macd 1 2 2) (some .histogram)) 2 ∧
      s.FirstDefined (.range (.highOf 1)) 1 ∧ s.FirstDefined (.range (.lowOf 2)) 2 := by
  intro s
  have priced : ∀ c ∈ s.library.market.candles, c.Priced := by
    intro c hc
    rcases List.mem_cons.mp hc with rfl | hc
    · exact Candle.priced_still _ (Nat.le_refl 1)
    · rw [List.mem_singleton.mp hc]
      exact Candle.priced_still _ (Nat.le_succ 1)
  obtain ⟨indicators, ranges⟩ := Session.warmup_exact priced
  exact ⟨⟨priced, rfl⟩, indicators (.sma 2) (by decide) (none, 1) (by decide),
    indicators (.macd 1 2 1) (by decide) (some .histogram, 1) (by decide),
    indicators (.macd 1 2 2) (by decide) (some .histogram, 2) (by decide),
    (ranges 1 (by decide)).1, (ranges 2 (by decide)).2⟩

end MarketConditions
