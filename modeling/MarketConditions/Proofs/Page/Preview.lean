import MarketConditions.Page.Source
import MarketConditions.Proofs.Indicator.Outputs
import MarketConditions.Proofs.Expr.Related
import MarketConditions.Proofs.Market.Cut

/-!
# A preview shows what a backtest sees

An indicator page is worked out over the bars up to the end of its span and then cut to
the span; an expression is evaluated at one bar of the whole market. The two take
different ways and agree row by row.

- `Indicator.shown`: the outputs of an indicator that a page shows.
- `Study.column_rows`: a column cut to a span is what is read at the bars of the span.
- `Store.pageData_eq`: the page as a slice of the study of the whole market.
- `Store.preview_agrees`: **the preview agrees with the backtest**.
-/

namespace MarketConditions

variable {α : Type}

/-! ## Outputs and their names -/

namespace Indicator

/-- The outputs that a page shows. -/
def shown (i : Indicator) : List (Option Property) :=
  i.outputs.filter fun p => !p.any Study.isDerived

/-- The name of a page's column. -/
def columnName (p : Option Property) : String := (p.map Property.text).getD "value"

/-- No column is named twice. -/
theorem nodup_columnNames (i : Indicator) : (i.shown.map columnName).Nodup := by
  cases i <;>
    simp [shown, outputs, properties, columnName, Study.isDerived, Property.text]

end Indicator

/-! ## Rows and bars -/

/-- The numbers of a run of bars. -/
theorem slice_range {n first last : Nat} (inside : last ≤ n) :
    ((List.range n).take last).drop first = List.range' first (last - first) := by
  rw [List.take_range, Nat.min_eq_left inside, List.range_eq_range', List.drop_range',
    Nat.mul_one, Nat.zero_add]

/-- An array is what is read of it, entry by entry. -/
theorem toList_eq_map_range {β : Type} (xs : Array β) (missing : β) :
    xs.toList = (List.range xs.size).map fun i => xs[i]?.getD missing := by
  apply List.ext_getElem?
  intro i
  rw [List.getElem?_map, Array.getElem?_toList]
  by_cases inside : i < xs.size
  · rw [List.getElem?_range inside, Array.getElem?_eq_getElem inside, Option.map_some]
    rw [Array.getElem?_eq_getElem inside]
    rfl
  · rw [Array.getElem?_eq_none (by omega),
      List.getElem?_eq_none (by rw [List.length_range]; omega)]
    rfl

variable [Scalar α]

/-- A value as a number, one for true and zero for false. -/
def Value.asNumber : Value α → α
  | .number x => x
  | .bool b => Scalar.ofBool b

/-- A column is what is read of it, bar by bar. -/
theorem Cells.toNumbers_eq (c : Cells α) :
    c.toNumbers = (List.range c.length).map fun bar => (c.valueAt bar).asNumber := by
  cases c with
  | numbers xs => exact toList_eq_map_range xs Scalar.undefined
  | flags bs =>
    show bs.toList.map Scalar.ofBool = _
    rw [toList_eq_map_range bs false, List.map_map]
    rfl

/-- A column cut to a span is what is read at the bars of the span. -/
theorem Cells.rows {m : Market α} (ordered : Market.Ordered m.candles) (r : TimeRange)
    {c : Cells α} (length : c.length = m.candles.length) :
    (c.toNumbers.take (Market.barAt m.candles r.stop)).drop
        (min (Market.barAt m.candles r.start) (Market.barAt m.candles r.stop)) =
      (m.barsIn r).map fun bar => (c.valueAt bar).asNumber := by
  rw [c.toNumbers_eq, length, ← List.map_take, ← List.map_drop,
    slice_range (Market.barAt_le ordered r.stop), Market.barsIn_eq ordered]

namespace Market

omit [Scalar α] in
/-- Bars begin at the times of their candles. -/
theorem map_time? (m : Market α) :
    (m.candles.map Candle.time).map some = (List.range m.length).map m.time? := by
  apply List.ext_getElem?
  intro bar
  rw [List.getElem?_map, List.getElem?_map, List.getElem?_map]
  by_cases inside : bar < m.length
  · rw [List.getElem?_range inside, Option.map_some]
    unfold time?
    rw [List.getElem?_eq_getElem inside]
    rfl
  · rw [List.getElem?_eq_none (l := List.range m.length) (by rw [List.length_range]; omega),
      List.getElem?_eq_none (l := m.candles) (by unfold Market.length at inside; omega)]
    rfl

omit [Scalar α] in
/-- The bars of a span are those whose candles lie in it. -/
theorem times_barsIn (m : Market α) (r : TimeRange) :
    ((m.candles.map Candle.time).filter r.contains).map some = (m.barsIn r).map m.time? := by
  have inside : (m.candles.map Candle.time).filter r.contains =
      (m.candles.map Candle.time).filter ((·.any r.contains) ∘ some) := rfl
  rw [inside, ← List.filter_map, map_time?, List.filter_map]
  rfl

omit [Scalar α] in
/-- Candles cut to a span begin when its bars do. -/
theorem times_slice {m : Market α} (ordered : Ordered m.candles) (r : TimeRange) :
    ((m.candles.take (barAt m.candles r.stop)).drop
        (min (barAt m.candles r.start) (barAt m.candles r.stop))).map Candle.time =
      (m.candles.map Candle.time).filter r.contains := by
  have inside : barAt m.candles r.stop ≤ m.length := barAt_le ordered r.stop
  apply (List.map_inj_right fun _ _ => Option.some.inj).mp
  rw [times_barsIn, List.map_drop, List.map_take, List.map_drop, List.map_take, map_time?,
    ← List.map_take, ← List.map_drop, slice_range inside, barsIn_eq ordered]

end Market

/-! ## The page -/

/-- The page that comes of a study. -/
theorem PageData.ofIndicator_eq {l : Library α} {i : Indicator} {study : Study α}
    (answered : l.answer (.series i) = .ok study) (start : Instant) :
    PageData.ofIndicator l i start = .ok
      ⟨(l.market.candles.drop (Market.barAt l.market.candles start)).map Candle.time,
        study.columns.map fun (name, values) =>
          (name, values.drop (Market.barAt l.market.candles start))⟩ := by
  unfold PageData.ofIndicator
  rw [answered]

/-- The page as a slice of the study of the whole market. -/
theorem Store.pageData_eq {s : Store α} {settings : Settings α} {k : PageKey} {i : Indicator}
    {m : Market α} (stored : s.find? k.symbol k.timeframe = some m) (kind : k.kind = .indicator i)
    (valid : i.validate = .ok ()) (ordered : Market.Ordered m.candles)
    (since : ∀ c ∈ m.candles, Instant.earliest ≤ c.time) :
    s.pageData settings k = .ok
      ⟨(m.candles.map Candle.time).filter k.range.contains,
        ((i.studyOver settings.valueAreaShare settings.swingStrength m.candles).filter
          fun o => !o.property.any Study.isDerived).map fun o =>
            (Indicator.columnName o.property,
              (m.barsIn k.range).map fun bar => (o.cells.valueAt bar).asNumber)⟩ := by
  -- the page is made from the bars up to the end of its span, where the study is a
  -- first part of that of all bars; the start of the span is then looked for among
  -- these bars alone
  have cut := Market.candles_between_earliest since ordered k.range.stop
  have first := Market.barAt_take ordered k.range.start (Market.barAt m.candles k.range.stop)
  have causal := i.causal_studyOver settings.valueAreaShare settings.swingStrength
  have loaded : s.pageData settings k =
      PageData.ofIndicator ⟨m.between .earliest k.range.stop, settings⟩ i k.range.start := by
    unfold Store.pageData Store.load Store.get
    rw [kind, stored]
    rfl
  have answered : (Library.mk (m.between .earliest k.range.stop) settings).answer (.series i) =
      .ok ((i.studyOver settings.valueAreaShare settings.swingStrength m.candles).take
        (Market.barAt m.candles k.range.stop)) := by
    rw [← causal.take, ← cut]
    show ((i.validate >>= fun _ => _).map _ : Except LibraryError (Study α)) = _
    rw [valid]
    rfl
  rw [loaded, PageData.ofIndicator_eq answered]
  simp only [cut, first]
  rw [Market.times_slice ordered, Study.columns_take, List.map_map]
  congr 2
  unfold Study.columns
  rw [List.map_map]
  apply List.map_congr_left
  intro o ho
  have length := causal.length m.candles o (List.mem_filter.mp ho).1
  show (Indicator.columnName o.property, (o.cells.toNumbers.take _).drop _) = _
  rw [Cells.rows ordered k.range length]

/-- **The preview agrees with the backtest.** Of a stored market in order of time, none of
whose bars begins before the earliest instant there is, the page of a valid indicator has
a row for each bar that begins in its span, and a column for each output it shows; and
what stands in a row is the value of the indicator at the row's bar, evaluated over the
whole market. -/
theorem Store.preview_agrees {s : Store α} {k : PageKey} {i : Indicator} {m : Market α}
    (stored : s.find? k.symbol k.timeframe = some m) (kind : k.kind = .indicator i)
    (valid : i.validate = .ok ()) (ordered : Market.Ordered m.candles)
    (since : ∀ c ∈ m.candles, Instant.earliest ≤ c.time) (settings : Settings α) :
    ∃ page : PageData α, s.pageData settings k = .ok page ∧
      page.times = (m.candles.map Candle.time).filter k.range.contains ∧
      page.times.map some = (m.barsIn k.range).map m.time? ∧
      page.columns.map Prod.fst = i.shown.map Indicator.columnName ∧
      (∀ column ∈ page.columns, column.2.length = page.length) ∧
      ∀ p ∈ i.shown, ∃ rows, page.column? (Indicator.columnName p) = some rows ∧
        ∀ row bar : Nat, (m.barsIn k.range)[row]? = some bar →
          ∃ v, (Session.evaluate (.indicator i p) bar (.new ⟨m, settings⟩)).1 = .ok v ∧
            rows[row]? = some v.asNumber := by
  have names : ((i.studyOver settings.valueAreaShare settings.swingStrength m.candles).filter
      fun o => !o.property.any Study.isDerived).map Output.property = i.shown := by
    unfold Indicator.shown
    rw [← i.properties_studyOver settings.valueAreaShare settings.swingStrength m.candles,
      List.filter_map]
    rfl
  refine ⟨_, Store.pageData_eq stored kind valid ordered since, rfl, m.times_barsIn _, ?_, ?_,
    fun p hp => ?_⟩
  · rw [← names, List.map_map, List.map_map]
    rfl
  · -- a column has a row for each bar of the span, and so many times there are
    intro column hcolumn
    obtain ⟨o, -, rfl⟩ := List.mem_map.mp hcolumn
    have rows := congrArg List.length (m.times_barsIn k.range)
    rw [List.length_map, List.length_map] at rows
    show (List.map _ _).length = (List.filter _ _).length
    rw [List.length_map, rows]
  · -- names of columns differ, so what is found under one is the output it was made from
    rw [← names] at hp
    obtain ⟨o, ho, rfl⟩ := List.mem_map.mp hp
    have once := i.nodup_columnNames
    rw [← names, List.map_map] at once
    refine ⟨(m.barsIn k.range).map fun bar => (o.cells.valueAt bar).asNumber,
      lookup_of_mem ?_ (List.mem_map.mpr ⟨o, ho, rfl⟩), fun row bar hbar => ?_⟩
    · rw [List.map_map]
      exact once
    · refine ⟨o.cells.valueAt bar, Session.evaluate_output valid (List.mem_filter.mp ho).1 bar, ?_⟩
      rw [List.getElem?_map, hbar]
      rfl

/-- The second of two bars alone, on a page of bands that look back at the first. -/
theorem Store.preview_agrees_second :
    let m : Market Float := .ofCandles [.still (.ofMillis 0) 1, .still (.ofMillis 60000) 2]
    let s : Store Float := ⟨[m]⟩
    let k : PageKey :=
      ⟨.indicator (.bbands 2 200), "BTCUSDT", .m1, ⟨.ofMillis 60000, .ofMillis 120000⟩⟩
    (s.find? k.symbol k.timeframe = some m ∧ Market.Ordered m.candles ∧
        ∀ c ∈ m.candles, Instant.earliest ≤ c.time) ∧
      ∃ page : PageData Float, s.pageData .default k = .ok page ∧
        page.times = [.ofMillis 60000] := by
  intro m s k
  have stored : s.find? k.symbol k.timeframe = some m := by
    simp [s, k, m, Store.find?, Store.isOf, Market.ofCandles]
  have ordered : Market.Ordered m.candles := by
    refine .cons (fun d hd => ?_) (.cons (fun d hd => absurd hd List.not_mem_nil) .nil)
    rw [List.mem_singleton.mp hd]
    exact Int.le_of_lt (by decide)
  have since : ∀ c ∈ m.candles, Instant.earliest ≤ c.time := by
    intro c hc
    rcases List.mem_cons.mp hc with rfl | hc
    · exact Int.le_of_lt (by decide)
    · rw [List.mem_singleton.mp hc]
      exact Int.le_of_lt (by decide)
  obtain ⟨page, made, times, -⟩ := Store.preview_agrees stored rfl rfl ordered since .default
  exact ⟨⟨stored, ordered, since⟩, page, made, times⟩

end MarketConditions
