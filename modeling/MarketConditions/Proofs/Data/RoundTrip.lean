import MarketConditions.Proofs.Data.Written
import MarketConditions.Proofs.Indicator.Counts

/-!
# Indicators and expressions survive as data

An expression that is put into data is found in it again, whichever way the data is
written. So different expressions have nothing in common as data.

- `Indicator.Fits`, `RangeFunction.Fits`, `Expr.Fits`: counts of 64 bits and
  multiples of 32 bits.
- `ProfileSession.reads`, `Indicator.reads`, `RangeFunction.reads`,
  `FootprintFunction.reads`, `ExchangeFunction.reads`: the parts of an expression
  are read back.
- `Expr.reads`: expressions are, by induction.
- `Expr.round_trip`: **an expression survives as data**.
-/

namespace MarketConditions

open Data (Reads Written)

variable {α : Type} [Scalar α]

/-! ## What fits -/

/-- Counts of 64 bits and multiples of 32 bits, both without a sign. -/
structure Indicator.Fits (i : Indicator) : Prop where
  counts : ∀ n ∈ i.counts, n < 2 ^ 64
  multiples : ∀ n ∈ i.multiples, n < 2 ^ 32

/-- Counts of 64 bits. -/
def RangeFunction.Fits : RangeFunction → Prop
  | highOf p | lowOf p => p < 2 ^ 64
  | rangePosition p skip => p < 2 ^ 64 ∧ skip < 2 ^ 64

/-- All counts and multiples in an expression fit into their types. -/
def Expr.Fits : Expr α → Prop
  | comparison _ left right | cross _ left right | logical _ left right | arithmetic _ left right =>
    left.Fits ∧ right.Fits
  | not inner => inner.Fits
  | between inner lower upper => inner.Fits ∧ lower.Fits ∧ upper.Fits
  | indicator i _ => i.Fits
  | range function => function.Fits
  | aggregate _ inner n | lookback inner n => inner.Fits ∧ n < 2 ^ 64
  | _ => True

/-! ## Parts -/

variable {levels : Nat}

theorem ProfileSession.reads {session : ProfileSession}
    (fits : ∀ n, session = .rolling n → n < 2 ^ 64) :
    Reads (α := α) levels ofData? session.toData session := by
  cases session with
  | rolling n =>
    refine (Reads.below (fits n rfl)).wrap (Nat.le_succ levels) fun q count => ?_
    have count : q.count? = some n := count
    simp [ofData?, count]
  | daily => exact .alone rfl

theorem Indicator.reads {i : Indicator} (fits : i.Fits) :
    Reads (α := α) levels ofData? i.toData i := by
  have count : ∀ n ∈ i.counts, ∀ within, Reads (α := α) within Data.count? (.ofNat n) n :=
    fun n here _ => .count (fits.counts n here)
  have multiple : ∀ n ∈ i.multiples, ∀ within, Reads (α := α) within Data.multiple? (.ofNat n) n :=
    fun n here _ => .multiple (fits.multiples n here)
  cases i with
  | obv | vwap | allTimeHigh | allTimeLow => exact .alone rfl
  | sma p | ema p | wma p | rsi p | roc p | atr p | stddev p =>
    refine (count p (by simp [counts]) levels).wrap (Nat.le_succ levels) fun q period => ?_
    simp [ofData?, period]
  | macd fast slow signal =>
    refine .record fun written each _ => ?_
    have first := each.required "fast" (count fast (by simp [counts]) _) rfl (Nat.le_refl _)
    have second := each.required "slow" (count slow (by simp [counts]) _) rfl (Nat.le_refl _)
    have third := each.required "signal" (count signal (by simp [counts]) _) rfl (Nat.le_refl _)
    simp [ofData?, first, second, third]
  | bbands p hundredths =>
    refine .record fun written each _ => ?_
    have first := each.required "period" (count p (by simp [counts]) _) rfl (Nat.le_refl _)
    have second := each.required "stddev_mult_x100"
      (multiple hundredths (by simp [multiples]) _) rfl (Nat.le_refl _)
    simp [ofData?, first, second]
  | stochastic k d =>
    refine .record fun written each _ => ?_
    have first := each.required "k_period" (count k (by simp [counts]) _) rfl (Nat.le_refl _)
    have second := each.required "d_period" (count d (by simp [counts]) _) rfl (Nat.le_refl _)
    simp [ofData?, first, second]
  | supertrend p hundredths =>
    refine .record fun written each _ => ?_
    have first := each.required "period" (count p (by simp [counts]) _) rfl (Nat.le_refl _)
    have second := each.required "mult_x100" (multiple hundredths (by simp [multiples]) _)
      rfl (Nat.le_refl _)
    simp [ofData?, first, second]
  | ichimoku tenkan kijun senkou =>
    refine .record fun written each _ => ?_
    have first := each.required "tenkan" (count tenkan (by simp [counts]) _) rfl (Nat.le_refl _)
    have second := each.required "kijun" (count kijun (by simp [counts]) _) rfl (Nat.le_refl _)
    have third := each.required "senkou" (count senkou (by simp [counts]) _) rfl (Nat.le_refl _)
    simp [ofData?, first, second, third]
  | swingHigh s | swingLow s =>
    refine .record fun written each _ => ?_
    have strength := each.required "strength" (count s (by simp [counts]) _) rfl (Nat.le_refl _)
    simp [ofData?, strength]
  | resistanceRay lookback skip | supportRay lookback skip =>
    refine .record fun written each _ => ?_
    have first := each.required "lookback" (count lookback (by simp [counts]) _) rfl (Nat.le_refl _)
    have second := each.required "skip" (count skip (by simp [counts]) _) rfl (Nat.le_refl _)
    simp [ofData?, first, second]
  | volumeProfile session bins =>
    refine .record fun written each _ => ?_
    have within : ∀ n, session = .rolling n → n < 2 ^ 64 := by
      rintro n rfl
      exact fits.counts n List.mem_cons_self
    have last : bins ∈ (volumeProfile session bins).counts := by
      cases session <;> simp [counts]
    have first := each.required "session" (ProfileSession.reads within) rfl (Nat.le_refl _)
    have second := each.required "bins" (count bins last _) rfl (Nat.le_refl _)
    simp [ofData?, first, second]

theorem RangeFunction.reads {function : RangeFunction} (fits : function.Fits) :
    Reads (α := α) levels ofData? function.toData function := by
  cases function with
  | highOf p | lowOf p =>
    refine .record fun written each _ => ?_
    have period := each.required "period" (Reads.count fits) rfl (Nat.le_refl _)
    simp [ofData?, period]
  | rangePosition p skip =>
    refine .record fun written each _ => ?_
    have first := each.required "period" (Reads.count fits.1) rfl (Nat.le_refl _)
    have second := each.required "skip" (Reads.count fits.2) rfl (Nat.le_refl _)
    simp [ofData?, first, second]

theorem FootprintFunction.reads (function : FootprintFunction α) :
    Reads levels ofData? function.toData function := by
  cases function with
  | level l =>
    refine (Named.reads l).wrap (Nat.le_succ levels) fun q level => ?_
    simp [ofData?, level]
  | imbalance l ratio =>
    refine .record fun written each _ => ?_
    have first := each.required "level" (Named.reads l) rfl (Nat.le_refl _)
    have second := each.optional "ratio" Reads.real rfl (by simp) (Nat.le_refl _)
    simp [ofData?, first, second]
  | absorption ratio percent =>
    refine .record fun written each _ => ?_
    have first := each.optional "volume_ratio" Reads.real rfl (by simp) (Nat.le_refl _)
    have second := each.optional "move_pct" Reads.real rfl (by simp) (Nat.le_refl _)
    simp [ofData?, first, second]

theorem ExchangeFunction.reads (function : ExchangeFunction α) :
    Reads levels ofData? function.toData function := by
  cases function with
  | delta name =>
    refine (Reads.text name).wrap (Nat.le_succ levels) fun q exchange => ?_
    simp [ofData?, exchange]
  | combinedDelta => exact .alone rfl
  | divergence threshold =>
    refine .record fun written each _ => ?_
    have first := each.optional "threshold" Reads.real rfl (by simp) (Nat.le_refl _)
    simp [ofData?, first]

/-! ## Expressions -/

/-- **Expressions are read back** from all data that has no more levels than are looked
at. -/
theorem Expr.reads {e : Expr α} (fits : e.Fits) (levels : Nat) :
    Reads levels (ofLevels? levels) e.toData e := by
  refine .of_succ (fun n => ?_) levels
  -- a part lies at least one level below the choice, a field of its record two
  induction e generalizing n with
  | number x =>
    refine (Reads.real x).wrap (Nat.le_refl _) fun q found => ?_
    simp [ofLevels?, found]
  | bool b =>
    refine (Reads.bool b).wrap (Nat.le_refl _) fun q found => ?_
    simp [ofLevels?, found]
  | price field | time field | moon field | orderFlow field =>
    refine (Named.reads field).wrap (Nat.le_refl _) fun q found => ?_
    simp [ofLevels?, found]
  | comparison op left right ihl ihr | logical op left right ihl ihr
  | arithmetic op left right ihl ihr =>
    refine .record fun written each deep => ?_
    have first := each.required "op" (Named.reads op) rfl (Nat.le_refl _)
    have second := each.required "left" (Reads.of_succ (ihl fits.1) n) rfl (by omega)
    have third := each.required "right" (Reads.of_succ (ihr fits.2) n) rfl (by omega)
    simp [ofLevels?, first, second, third]
  | cross direction left right ihl ihr =>
    refine .record fun written each deep => ?_
    have first := each.required "direction" (Named.reads direction) rfl (Nat.le_refl _)
    have second := each.required "left" (Reads.of_succ (ihl fits.1) n) rfl (by omega)
    have third := each.required "right" (Reads.of_succ (ihr fits.2) n) rfl (by omega)
    simp [ofLevels?, first, second, third]
  | not inner ih =>
    refine (Reads.of_succ (ih fits) n).wrap (Nat.le_refl _) fun q found => ?_
    simp [ofLevels?, found]
  | between inner lower upper ihi ihl ihu =>
    refine .record fun written each deep => ?_
    have first := each.required "expr" (Reads.of_succ (ihi fits.1) n) rfl (by omega)
    have second := each.required "lower" (Reads.of_succ (ihl fits.2.1) n) rfl (by omega)
    have third := each.required "upper" (Reads.of_succ (ihu fits.2.2) n) rfl (by omega)
    simp [ofLevels?, first, second, third]
  | indicator i p =>
    refine .record fun written each _ => ?_
    have first := each.required "indicator" (Indicator.reads fits) rfl (Nat.le_refl _)
    have second := each.optional "property" Named.reads rfl (by simp) (Nat.le_refl _)
    simp [ofLevels?, first, second]
  | range function =>
    refine (RangeFunction.reads fits).wrap (Nat.le_refl _) fun q found => ?_
    simp [ofLevels?, found]
  | aggregate function inner period ih =>
    refine .record fun written each deep => ?_
    have first := each.required "function" (Named.reads function) rfl (Nat.le_refl _)
    have second := each.required "expr" (Reads.of_succ (ih fits.1) n) rfl (by omega)
    have third := each.required "period" (Reads.count fits.2) rfl (Nat.le_refl _)
    simp [ofLevels?, first, second, third]
  | lookback inner offset ih =>
    refine .record fun written each deep => ?_
    have first := each.required "expr" (Reads.of_succ (ih fits.1) n) rfl (by omega)
    have second := each.required "offset" (Reads.count fits.2) rfl (Nat.le_refl _)
    simp [ofLevels?, first, second]
  | footprint function =>
    refine (FootprintFunction.reads function).wrap (Nat.le_refl _) fun q found => ?_
    simp [ofLevels?, found]
  | exchange function =>
    refine (ExchangeFunction.reads function).wrap (Nat.le_refl _) fun q found => ?_
    simp [ofLevels?, found]

/-- **An expression survives as data**: it is read back from every way of writing it, from
the one it is put into too, and so no two expressions can be written in the same way.
Fields that are null may be left out, each for itself, and numbers that are whole may be
written as such. -/
theorem Expr.round_trip (e : Expr α) (fits : e.Fits) :
    ofData? e.toData = some e ∧
    (∀ d, e.toData.Written d → ofData? d = some e) ∧
    ∀ other : Expr α, other.Fits → other ≠ e →
      other.toData ≠ e.toData ∧ ¬∃ d, e.toData.Written d ∧ other.toData.Written d := by
  have back : ∀ e : Expr α, e.Fits → ∀ d, e.toData.Written d → ofData? d = some e :=
    fun e fits d way => (Expr.reads fits d.depth).finds d way (Nat.le_refl _)
  refine ⟨back e fits _ (.same _), back e fits, fun other fits' different => ?_⟩
  -- data that both can be written as would be read back as both
  have apart : ¬∃ d, e.toData.Written d ∧ other.toData.Written d := by
    rintro ⟨d, way, way'⟩
    have same := (back e fits d way).symm.trans (back other fits' d way')
    exact different (Option.some.inj same).symm
  refine ⟨fun same => ?_, apart⟩
  exact apart ⟨_, .same _, same ▸ .same _⟩

/-- An oscillator above 70 while volume and price go apart, by the thresholds of
the settings. -/
def Expr.exhaustion : Expr Float :=
  .logical .and (.comparison .gt (.indicator (.rsi 14) none) (.number (Scalar.ofInt 70)))
    (.exchange (.divergence none))

/-- It is read back with nothing written where nothing is given, or null, and 70 as a
whole number. Its data is not that of a constant. -/
theorem Expr.round_trip_exhaustion :
    exhaustion.Fits ∧
    ofData? (.variant "Logical" (.object [
      ("op", .text "And"),
      ("left", .variant "Comparison" (.object [
        ("op", .text "Gt"),
        ("left", .variant "Indicator" (.object [
          ("indicator", .variant "Rsi" (.int 14))])),
        ("right", .variant "Number" (.int 70))])),
      ("right", .variant "Exchange" (.variant "Divergence" (.object [
        ("threshold", .null)])))])) = some exhaustion ∧
    (bool true : Expr Float).toData ≠ exhaustion.toData := by
  have fits : exhaustion.Fits := by
    refine ⟨⟨⟨?_, ?_⟩, trivial⟩, trivial⟩ <;> simp [Indicator.counts, Indicator.multiples]
  have indicator : (Expr.indicator (.rsi 14) none : Expr Float).toData.Written
      (.variant "Indicator" (.object [("indicator", .variant "Rsi" (.int 14))])) :=
    .object (.keep (.object (.keep (.same _) (.leaveOut .nil))) .nil)
  have number : (Expr.number (Scalar.ofInt 70) : Expr Float).toData.Written
      (.variant "Number" (.int 70)) := .object (.keep (.whole rfl) .nil)
  have other : (bool true : Expr Float) ≠ exhaustion := by
    intro same
    cases same
  refine ⟨fits, (round_trip exhaustion fits).2.1 _ ?_,
    ((round_trip exhaustion fits).2.2 (.bool true) trivial other).1⟩
  exact .object (.keep (.object (.keep (.same _) (.keep (.object (.keep (.object (.keep (.same _)
    (.keep indicator (.keep number .nil)))) .nil)) (.keep (.same _) .nil)))) .nil)

end MarketConditions
