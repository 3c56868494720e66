import Mathlib.Data.List.Forall2
import MarketConditions.Proofs.Indicator.Prefix
import MarketConditions.Proofs.Market.Cut
import MarketConditions.Proofs.Expr.Related

/-!
# No look-ahead

What an expression says at a bar depends on nothing behind the bar: two markets that do
not differ up to it cannot be told apart there, whatever follows it and however many
bars there are.

- `Market.AgreeUpTo`: two markets do not differ up to a bar.
- `Market.AgreeUpTo.column`: a causal column of the candles is the same at those bars.
- `Library.studies_agree`, `Library.derived_agree`, `Library.orderFlow_agree`,
  `Library.footprints_agree`: what a library works out is the same at those bars,
  entry by entry.
- `Library.answers_agree`: so are the answers to all questions about them.
- `Session.no_look_ahead`: **no expression looks ahead**.
-/

namespace MarketConditions

variable {α β : Type}

/-- What is known of two exchanges does not differ up to a bar. -/
structure ExchangeFlow.AgreeUpTo (last : Nat) (f f' : ExchangeFlow α) : Prop where
  exchange : f.exchange = f'.exchange
  buys : ∀ i ≤ last, f.buys[i]? = f'.buys[i]?
  sells : ∀ i ≤ last, f.sells[i]? = f'.sells[i]?

/-- Two markets do not differ up to a bar. What comes behind it may differ, and how much
there is of it. -/
structure Market.AgreeUpTo (last : Nat) (m m' : Market α) : Prop where
  timeframe : m.timeframe = m'.timeframe
  trades : m.trades = m'.trades
  candles : ∀ i ≤ last, m.candles[i]? = m'.candles[i]?
  exchanges : List.Forall₂ (ExchangeFlow.AgreeUpTo last) m.exchanges m'.exchanges
  funding : ∀ i ≤ last, m.funding.bind (·[i]?) = m'.funding.bind (·[i]?)

namespace Market.AgreeUpTo

variable {last : Nat} {m m' : Market α}

/-! ## Candles -/

theorem take_candles (agree : AgreeUpTo last m m') :
    m.candles.take (last + 1) = m'.candles.take (last + 1) := by
  apply List.ext_getElem?
  intro i
  rw [List.getElem?_take, List.getElem?_take]
  split
  · exact agree.candles i (by omega)
  · rfl

/-- A causal column is the same at the bars that are the same. -/
theorem column (agree : AgreeUpTo last m m') {f : List (Candle α) → List β}
    (hf : Column.Causal f) {bar : Nat} (here : bar ≤ last) :
    (f m.candles)[bar]? = (f m'.candles)[bar]? := by
  have same := congrArg (·[bar]?) (hf.congr agree.take_candles)
  have kept : bar < last + 1 := by omega
  simpa [List.getElem?_take, kept] using same

/-- Both markets have the bar, or neither has it. -/
theorem has_bar (agree : AgreeUpTo last m m') {bar : Nat} (here : bar ≤ last) :
    bar < m.length ↔ bar < m'.length := by
  unfold Market.length
  rw [← Nat.not_le, ← Nat.not_le, ← List.getElem?_eq_none_iff, ← List.getElem?_eq_none_iff,
    agree.candles bar here]

/-- A number per bar that is the same at the bar. -/
theorem perBar (agree : AgreeUpTo last m m') {bar : Nat} (here : bar ≤ last) {f g : Nat → β}
    (same : f bar = g bar) : (m.perBar f)[bar]? = (m'.perBar g)[bar]? := by
  unfold Market.perBar
  rw [List.getElem?_map, List.getElem?_map]
  by_cases inside : bar < m.length
  · rw [List.getElem?_range inside, List.getElem?_range ((agree.has_bar here).mp inside)]
    exact congrArg some same
  · have outside := mt (agree.has_bar here).mpr inside
    rw [List.getElem?_eq_none (by rw [List.length_range]; omega),
      List.getElem?_eq_none (by rw [List.length_range]; omega)]
    rfl

end Market.AgreeUpTo

/-! ## Exchanges -/

namespace ExchangeFlow.AgreeUpTo

variable [Scalar α] {last : Nat} {f f' : ExchangeFlow α}

theorem combinedAt (agree : AgreeUpTo last f f') (combine : α → α → α) {bar : Nat}
    (here : bar ≤ last) : f.combinedAt combine bar = f'.combinedAt combine bar := by
  unfold ExchangeFlow.combinedAt
  rw [agree.buys bar here, agree.sells bar here]

theorem counts (agree : AgreeUpTo last f f') (threshold : α) {bar : Nat} (here : bar ≤ last) :
    f.counts threshold bar = f'.counts threshold bar := by
  unfold ExchangeFlow.counts ExchangeFlow.deltaAt ExchangeFlow.totalAt
  rw [agree.combinedAt _ here, agree.combinedAt _ here]

variable {fs fs' : List (ExchangeFlow α)}

omit [Scalar α] in
/-- An exchange is looked up by its name. -/
theorem find? (all : List.Forall₂ (AgreeUpTo last) fs fs') (named : String → Bool) :
    Option.Rel (AgreeUpTo last) (fs.find? fun f => named f.exchange)
      (fs'.find? fun f => named f.exchange) := by
  induction all with
  | nil => exact .none
  | cons first _ ih =>
    rw [List.find?_cons, List.find?_cons, first.exchange]
    split
    · exact .some first
    · exact ih

theorem map_deltaAt (all : List.Forall₂ (AgreeUpTo last) fs fs') {bar : Nat}
    (here : bar ≤ last) : fs.map (·.deltaAt bar) = fs'.map (·.deltaAt bar) := by
  induction all with
  | nil => rfl
  | cons first _ ih =>
    rw [List.map_cons, List.map_cons, ih]
    congr 1
    exact first.combinedAt _ here

/-- Among the exchanges that count, whether one leans some way. -/
theorem any_leans (all : List.Forall₂ (AgreeUpTo last) fs fs') (threshold : α)
    (leans : α → Bool) {bar : Nat} (here : bar ≤ last) :
    (fs.filter (·.counts threshold bar)).any (fun f => leans (f.deltaAt bar)) =
      (fs'.filter (·.counts threshold bar)).any fun f => leans (f.deltaAt bar) := by
  induction all with
  | nil => rfl
  | @cons f f' fs fs' first _ ih =>
    have delta : f.deltaAt bar = f'.deltaAt bar := first.combinedAt _ here
    rw [List.filter_cons, List.filter_cons, first.counts threshold here]
    split
    · rw [List.any_cons, List.any_cons, ih, delta]
    · exact ih

end ExchangeFlow.AgreeUpTo

namespace Market.AgreeUpTo

variable [Scalar α] {last : Nat} {m m' : Market α}

theorem exchangeDelta (agree : AgreeUpTo last m m') (name : String) {bar : Nat}
    (here : bar ≤ last) :
    (MarketConditions.exchangeDelta m name)[bar]? =
      (MarketConditions.exchangeDelta m' name)[bar]? := by
  unfold MarketConditions.exchangeDelta
  have found : Option.Rel (ExchangeFlow.AgreeUpTo last) (m.exchange? name) (m'.exchange? name) :=
    ExchangeFlow.AgreeUpTo.find? agree.exchanges fun exchange => Market.sameExchange exchange name
  revert found
  cases m.exchange? name with
  | none =>
    cases m'.exchange? name with
    | none => exact fun _ => agree.perBar here rfl
    | some f' => exact fun found => nomatch found
  | some f =>
    cases m'.exchange? name with
    | none => exact fun found => nomatch found
    | some f' =>
      intro found
      cases found with
      | some same => exact agree.perBar here (same.combinedAt _ here)

theorem combinedDelta (agree : AgreeUpTo last m m') {bar : Nat} (here : bar ≤ last) :
    (MarketConditions.combinedDelta m)[bar]? = (MarketConditions.combinedDelta m')[bar]? := by
  refine agree.perBar here ?_
  rw [ExchangeFlow.AgreeUpTo.map_deltaAt agree.exchanges here]

theorem deltaDivergence (agree : AgreeUpTo last m m') (threshold : α) {bar : Nat}
    (here : bar ≤ last) : (MarketConditions.deltaDivergence m threshold)[bar]? =
      (MarketConditions.deltaDivergence m' threshold)[bar]? := by
  have leans := fun way : α → Bool =>
    ExchangeFlow.AgreeUpTo.any_leans agree.exchanges threshold way here
  refine agree.perBar here ?_
  have buys := leans fun delta => decide (delta > 0)
  have sells := leans fun delta => decide (delta < 0)
  simp only [buys, sells]

theorem fundingRates (agree : AgreeUpTo last m m') {bar : Nat} (here : bar ≤ last) :
    (MarketConditions.fundingRates m)[bar]? = (MarketConditions.fundingRates m')[bar]? := by
  refine agree.perBar here ?_
  rw [agree.funding bar here]

/-! ## Trades -/

omit [Scalar α] in
/-- The candles beside their trades. -/
theorem causal_bars (span : Int) (trades : List (Trade α)) :
    Column.Causal fun candles : List (Candle α) =>
      candles.zip (Column.running (Market.bucket span) trades candles) :=
  Column.causal_self.zip (Column.causal_running _ _)

/-- A column of the order flow. -/
theorem flowColumn (agree : AgreeUpTo last m m') (f : FlowReading α → α) {bar : Nat}
    (here : bar ≤ last) :
    ((Column.running (OrderFlow.flowStep (!m.trades.isEmpty)) none
      (m.candles.zip m.buckets)).map f)[bar]? =
    ((Column.running (OrderFlow.flowStep (!m'.trades.isEmpty)) none
      (m'.candles.zip m'.buckets)).map f)[bar]? := by
  unfold Market.buckets
  rw [← agree.trades, ← agree.timeframe]
  exact agree.column (((Column.causal_running _ _).comp (causal_bars _ _)).map f) here

theorem footprints (agree : AgreeUpTo last m m') (tick share : α) {bar : Nat}
    (here : bar ≤ last) : (MarketConditions.footprints tick share m)[bar]? =
      (MarketConditions.footprints tick share m')[bar]? := by
  unfold MarketConditions.footprints Market.buckets
  rw [← agree.trades, ← agree.timeframe]
  exact agree.column (Column.causal_self.zipWith (Column.causal_running _ _) _) here

end Market.AgreeUpTo

/-! ## What is read of a library -/

variable [Scalar α]

namespace Cells

/-- A number is read off its column. -/
theorem numberAt_congr {xs ys : List α} {bar : Nat} (same : xs[bar]? = ys[bar]?) :
    (Cells.numbers xs.toArray).numberAt bar = (Cells.numbers ys.toArray).numberAt bar := by
  show Column.orUndefined xs.toArray[bar]? = Column.orUndefined ys.toArray[bar]?
  rw [List.getElem?_toArray, List.getElem?_toArray, same]

omit [Scalar α] in
/-- So is a truth value. -/
theorem flagAt_congr {bs cs : List Bool} {bar : Nat} (same : bs[bar]? = cs[bar]?) :
    (Cells.flags bs.toArray : Cells α).flagAt bar =
      (Cells.flags cs.toArray : Cells α).flagAt bar := by
  show bs.toArray[bar]?.getD false = cs.toArray[bar]?.getD false
  rw [List.getElem?_toArray, List.getElem?_toArray, same]

end Cells

namespace Library

variable {last : Nat} {m m' : Market α}

/-- Indicators read the same. -/
theorem studies_agree (agree : m.AgreeUpTo last m') (settings : Settings α) (i : Indicator)
    {bar : Nat} (here : bar ≤ last) :
    ((Library.mk m settings).content (.study i)).readAt bar =
      ((Library.mk m' settings).content (.study i)).readAt bar := by
  -- both studies are read where they are those of the common first bars
  have kept : bar < last + 1 := Nat.lt_succ_of_le here
  have causal := i.causal_studyOver settings.valueAreaShare settings.swingStrength
  rw [content_study, content_study, ← Study.readAt_take _ kept, ← causal.take,
    agree.take_candles, causal.take, Study.readAt_take _ kept]

/-- Columns that are no indicators read the same. -/
theorem derived_agree (agree : m.AgreeUpTo last m') (settings : Settings α) (d : Derived α)
    {bar : Nat} (here : bar ≤ last) :
    ((Library.mk m settings).derived d).numberAt bar =
        ((Library.mk m' settings).derived d).numberAt bar ∧
      ((Library.mk m settings).derived d).flagAt bar =
        ((Library.mk m' settings).derived d).flagAt bar := by
  cases d with
  | highOf p =>
    exact ⟨Cells.numberAt_congr (agree.column (Extreme.causal_earlierHigh p 0) here), rfl⟩
  | lowOf p =>
    exact ⟨Cells.numberAt_congr (agree.column (Extreme.causal_earlierLow p 0) here), rfl⟩
  | rangePosition p skip =>
    exact ⟨Cells.numberAt_congr (agree.column (Extreme.causal_rangePosition p skip) here), rfl⟩
  | funding => exact ⟨Cells.numberAt_congr (agree.fundingRates here), rfl⟩
  | exchangeDelta name => exact ⟨Cells.numberAt_congr (agree.exchangeDelta name here), rfl⟩
  | combinedDelta => exact ⟨Cells.numberAt_congr (agree.combinedDelta here), rfl⟩
  | divergence threshold =>
    exact ⟨rfl, Cells.flagAt_congr (agree.deltaDivergence threshold here)⟩
  | absorption ratio percent =>
    exact ⟨rfl, Cells.flagAt_congr (agree.column (Turnover.causal_absorption _ ratio percent) here)⟩

theorem readNumber_agree (agree : m.AgreeUpTo last m') (settings : Settings α) (d : Derived α)
    {bar : Nat} (here : bar ≤ last) : (Library.mk m settings).carryOut (readNumber d bar) =
      (Library.mk m' settings).carryOut (readNumber d bar) :=
  (derived_agree agree settings d here).1

theorem readFlag_agree (agree : m.AgreeUpTo last m') (settings : Settings α) (d : Derived α)
    {bar : Nat} (here : bar ≤ last) : (Library.mk m settings).carryOut (readFlag d bar) =
      (Library.mk m' settings).carryOut (readFlag d bar) :=
  (derived_agree agree settings d here).2

/-- The order flow reads the same. -/
theorem planOrderFlow_agree (agree : m.AgreeUpTo last m') (settings : Settings α)
    (field : OrderFlowField) {bar : Nat} (here : bar ≤ last) :
    (Library.mk m settings).carryOut (planOrderFlow bar field) =
      (Library.mk m' settings).carryOut (planOrderFlow bar field) := by
  cases field with
  | delta => exact Cells.numberAt_congr (agree.flowColumn _ here)
  | cvd => exact Cells.numberAt_congr (agree.flowColumn _ here)
  | buyVolume => exact Cells.numberAt_congr (agree.flowColumn _ here)
  | sellVolume => exact Cells.numberAt_congr (agree.flowColumn _ here)
  | tradeCount => exact Cells.numberAt_congr (agree.flowColumn _ here)
  | fundingRate => exact readNumber_agree agree settings .funding here

/-- The levels of a footprint read the same. -/
theorem levelAt_agree (agree : m.AgreeUpTo last m') (settings : Settings α)
    (level : FootprintLevel) {bar : Nat} (here : bar ≤ last) :
    levelAt ((Library.mk m settings).content .footprints) level bar =
      levelAt ((Library.mk m' settings).content .footprints) level bar := by
  have same := agree.footprints settings.footprintTick settings.valueAreaShare here
  show ((MarketConditions.footprints _ _ m).toArray[bar]?.join).bind _ =
    ((MarketConditions.footprints _ _ m').toArray[bar]?.join).bind _
  rw [List.getElem?_toArray, List.getElem?_toArray, same]

/-- A check comes before the answer, and does not look at the market. -/
theorem check_congr {γ δ ε : Type} {check : Except LibraryError Unit}
    {x : Except LibraryError γ} {y : Except LibraryError δ} {f : γ → ε} {g : δ → ε}
    (rest : x.map f = y.map g) :
    (check >>= fun _ => x).map f = (check >>= fun _ => y).map g := by
  cases check with
  | error e => rfl
  | ok _ => exact rest

/-- **Questions about bars up to the last common one are answered alike.** -/
theorem answers_agree (agree : m.AgreeUpTo last m') (settings : Settings α)
    (q : Query α β) (by_last : q.AsksBy last) :
    (Library.mk m settings).answer q = (Library.mk m' settings).answer q := by
  cases q with
  | price field bar =>
    show Except.ok (m.price field bar) = Except.ok (m'.price field bar)
    unfold Market.price
    rw [agree.candles bar by_last]
  | time bar =>
    show Except.ok (m.time? bar) = Except.ok (m'.time? bar)
    unfold Market.time?
    rw [agree.candles bar by_last]
  | timeField field bar =>
    show Except.ok (Column.orUndefined ((m.time? bar).map _)) =
      Except.ok (Column.orUndefined ((m'.time? bar).map _))
    unfold Market.time?
    rw [agree.candles bar by_last]
  | moonField field bar =>
    show Except.ok (Column.orUndefined ((m.time? bar).map _)) =
      Except.ok (Column.orUndefined ((m'.time? bar).map _))
    unfold Market.time?
    rw [agree.candles bar by_last]
  -- whole series and lists of swings do look ahead, and no expression asks for them
  | series i => exact by_last.elim
  | reading i bar =>
    exact check_congr (congrArg Except.ok (studies_agree agree settings i by_last))
  | swingPoints s => exact by_last.elim
  | range function bar =>
    cases function <;>
      exact check_congr (congrArg Except.ok (readNumber_agree agree settings _ by_last))
  | orderFlow field bar =>
    exact congrArg Except.ok (planOrderFlow_agree agree settings field by_last)
  | footprintLevel level bar =>
    show Except.ok (Column.orUndefined ((levelAt _ level bar).map _)) =
      Except.ok (Column.orUndefined ((levelAt _ level bar).map _))
    rw [levelAt_agree agree settings level by_last]
  | imbalance level ratio bar =>
    refine check_congr (congrArg Except.ok ?_)
    show (levelAt _ level bar).any _ = (levelAt _ level bar).any _
    rw [levelAt_agree agree settings level by_last]
  | absorption ratio percent bar =>
    exact check_congr (check_congr (congrArg Except.ok (readFlag_agree agree settings _ by_last)))
  | exchangeDelta name bar =>
    exact congrArg Except.ok (readNumber_agree agree settings _ by_last)
  | combinedDelta bar => exact congrArg Except.ok (readNumber_agree agree settings _ by_last)
  | divergence threshold bar =>
    exact check_congr (congrArg Except.ok (readFlag_agree agree settings _ by_last))

end Library

/-! ## Expressions -/

/-- **No look-ahead.** On two markets that do not differ up to a bar, every expression has
the same value at the bar, or fails with the same error, under every settings. -/
theorem Session.no_look_ahead {bar : Nat} {m m' : Market α} (agree : m.AgreeUpTo bar m')
    (settings : Settings α) (e : Expr α) :
    (Session.evaluate e bar (.new ⟨m, settings⟩)).1 =
      (Session.evaluate e bar (.new ⟨m', settings⟩)).1 := by
  rw [(Session.evaluate_eq _ e bar).1, (Session.evaluate_eq _ e bar).1]
  exact Library.evaluate_congr (fun q by_bar => Library.answers_agree agree settings q by_bar) e
    (Nat.le_refl bar)

/-- A high that the next bar exceeds is no swing yet, whether or not that bar is there. -/
theorem Session.no_look_ahead_appended :
    let first : Candle Float := .still (.ofMillis 0) 1
    let second : Candle Float := .still (.ofMillis 60000) 2
    (Market.ofCandles [first]).AgreeUpTo 0 (Market.ofCandles [first, second]) ∧
      (Session.evaluate (.indicator (.swingHigh 1) (some .dominance)) 0
        (.new ⟨Market.ofCandles [first], .default⟩)).1 =
      (Session.evaluate (.indicator (.swingHigh 1) (some .dominance)) 0
        (.new ⟨Market.ofCandles [first, second], .default⟩)).1 := by
  intro first second
  have agree : (Market.ofCandles [first]).AgreeUpTo 0 (Market.ofCandles [first, second]) :=
    { timeframe := rfl
      trades := rfl
      candles := fun i hi => by rw [Nat.le_zero.mp hi]; rfl
      exchanges := .nil
      funding := fun _ _ => rfl }
  exact ⟨agree, Session.no_look_ahead agree .default _⟩

end MarketConditions
