import MarketConditions.Proofs.Scalar.Order
import MarketConditions.Proofs.Expr.Typing
import MarketConditions.Proofs.Market.Cut

/-!
# Crossings and ranges as comparisons

A crossing looks at its operands now and one bar before, and a range compares a number
with its two bounds. Both can be written with comparisons, a lookback and a connective
alone. The two forms treat what is missing in different ways: a crossing is false at the
first bar and tests its four numbers together, while a lookback from the first bar is
undefined and each comparison tests its own two.

- `CrossDirection.now`, `CrossDirection.before`: the comparisons that a direction stands
  for; `CrossDirection.holds_eq`: **a crossing is both of them**.
- `Library.evaluate_logical_and`, `Library.evaluate_lookback_one` and so on: what each
  kind of node evaluates to, given what its operands evaluate to.
- `Library.evaluate_cross_eq`, `Library.evaluate_between_eq`: the two forms have one value.
- `Session.crossings_and_ranges_definable`: **both are definable**, whatever a
  session has kept.
-/

namespace MarketConditions

section Generic

variable {α : Type} [Scalar α]

/-! ## Comparisons of a crossing -/

namespace Comparison

/-- Nothing holds of an undefined number. -/
theorem holds_undefined (op : Comparison) {x y : α}
    (missing : Scalar.isUndefined x = true ∨ Scalar.isUndefined y = true) : op.holds x y = false :=
  if_pos ((Bool.or_eq_true ..).mpr missing)

end Comparison

namespace CrossDirection

/-- How the operands compare where they have crossed. -/
def now : CrossDirection → Comparison
  | above => .gt
  | below => .lt

/-- How they compare one bar before. -/
def before : CrossDirection → Comparison
  | above => .le
  | below => .ge

/-- **A crossing is both comparisons**, whether the four numbers are tested together or
two by two. -/
theorem holds_eq (d : CrossDirection) (leftNow rightNow leftBefore rightBefore : α) :
    d.holds leftNow rightNow leftBefore rightBefore =
      (d.now.holds leftNow rightNow && d.before.holds leftBefore rightBefore) := by
  unfold holds
  simp only [List.any_cons, List.any_nil, Bool.or_false, Bool.or_eq_true]
  split
  · rename_i missing
    -- a number that is undefined fails the comparison that it is part of
    rcases missing with left | right | before
    · rw [Comparison.holds_undefined _ (.inl left), Bool.false_and]
    · rw [Comparison.holds_undefined _ (.inr right), Bool.false_and]
    · rw [Comparison.holds_undefined d.before before, Bool.and_false]
  · rename_i defined
    simp only [not_or, Bool.not_eq_true] at defined
    obtain ⟨left, right, left', right'⟩ := defined
    unfold Comparison.holds
    rw [left, right, left', right']
    cases d <;> exact Bool.and_comm ..

end CrossDirection

/-! ## Values of nodes -/

namespace Library

variable {l : Library α} {e left right : Expr α} {bar : Nat}

/-- What is of a number's type, and has a value, has a number as its value. -/
theorem number_of_value (type : e.valueType = .number) (some : ∃ v, l.evaluate e bar = .ok v) :
    ∃ x, l.evaluate e bar = .ok (.number x) := by
  obtain ⟨v, value⟩ := some
  have typed := evaluate_yields l e bar v value
  cases v with
  | number x => exact ⟨x, value⟩
  | bool b =>
    rw [type] at typed
    cases typed

theorem evaluate_comparison (op : Comparison) {x y : α} (hx : l.evaluate left bar = .ok (.number x))
    (hy : l.evaluate right bar = .ok (.number y)) :
    l.evaluate (.comparison op left right) bar = .ok (.bool (op.holds x y)) := by
  unfold Library.evaluate at hx hy ⊢
  rw [Evaluation.evaluate, hx, hy]
  rfl

/-- The right operand is evaluated only if the left one holds, which makes no difference
if it has a value. -/
theorem evaluate_logical_and {b c : Bool} (hb : l.evaluate left bar = .ok (.bool b))
    (hc : l.evaluate right bar = .ok (.bool c)) :
    l.evaluate (.logical .and left right) bar = .ok (.bool (b && c)) := by
  unfold Library.evaluate at hb hc ⊢
  rw [Evaluation.evaluate, hb]
  cases b with
  | false => rfl
  | true =>
    show Evaluation.evaluate l.ask right bar >>= _ = _
    rw [hc]
    rfl

/-- Before the first bar there is the undefined value, and else the value of the
bar before. -/
theorem evaluate_lookback_one (e : Expr α) (bar : Nat) : l.evaluate (.lookback e 1) bar =
    match bar with
    | 0 => .ok e.valueType.undefined
    | bar + 1 => l.evaluate e bar := by
  unfold Library.evaluate
  rw [Evaluation.evaluate]
  cases bar <;> rfl

theorem evaluate_cross_zero (d : CrossDirection) (left right : Expr α) :
    l.evaluate (.cross d left right) 0 = .ok (.bool false) := by
  unfold Library.evaluate
  rw [Evaluation.evaluate]
  rfl

theorem evaluate_cross_succ (d : CrossDirection) {x y x' y' : α}
    (hx : l.evaluate left (bar + 1) = .ok (.number x))
    (hy : l.evaluate right (bar + 1) = .ok (.number y))
    (hx' : l.evaluate left bar = .ok (.number x')) (hy' : l.evaluate right bar = .ok (.number y')) :
    l.evaluate (.cross d left right) (bar + 1) = .ok (.bool (d.holds x y x' y')) := by
  unfold Library.evaluate at hx hy hx' hy' ⊢
  rw [Evaluation.evaluate, hx, hy, hx', hy']
  rfl

theorem evaluate_between {inner lower upper : Expr α} {x low high : α}
    (hx : l.evaluate inner bar = .ok (.number x)) (hlow : l.evaluate lower bar = .ok (.number low))
    (hhigh : l.evaluate upper bar = .ok (.number high)) :
    l.evaluate (.between inner lower upper) bar = .ok (.bool (low ≤ x && x ≤ high)) := by
  unfold Library.evaluate at hx hlow hhigh ⊢
  rw [Evaluation.evaluate, hx, hlow, hhigh]
  rfl

end Library

end Generic

/-! ## The two forms -/

namespace Comparison

/-- Where one number is at most another, both are defined, so ranges need not test that. -/
theorem holds_le (x y : Float) : le.holds x y = decide (x ≤ y) := by
  unfold holds
  split
  · rename_i undefined
    refine (decide_eq_false fun atMost => ?_).symm
    obtain ⟨hx, hy⟩ := Scalar.defined_of_le atMost
    rw [hx, hy] at undefined
    exact Bool.false_ne_true undefined
  · rfl

theorem holds_ge (x y : Float) : ge.holds x y = decide (y ≤ x) := by
  rw [← holds_le]
  unfold holds
  rw [Bool.or_comm]

end Comparison

namespace Library

variable {l : Library Float} {bar : Nat}

/-- A crossing has the value of its two comparisons, at the first bar as well. -/
theorem evaluate_cross_eq (d : CrossDirection) {left right : Expr Float}
    (leftType : left.valueType = .number) (rightType : right.valueType = .number)
    (values : ∀ e ∈ [left, right], ∀ near, near = bar ∨ near + 1 = bar →
      ∃ v, l.evaluate e near = .ok v) :
    ∃ b, l.evaluate (.cross d left right) bar = .ok (.bool b) ∧
      l.evaluate (.logical .and (.comparison d.now left right)
        (.comparison d.before (.lookback left 1) (.lookback right 1))) bar = .ok (.bool b) := by
  have hleft := values left (by simp)
  have hright := values right (by simp)
  obtain ⟨x, hx⟩ := number_of_value leftType (hleft bar (.inl rfl))
  obtain ⟨y, hy⟩ := number_of_value rightType (hright bar (.inl rfl))
  have now := evaluate_comparison d.now hx hy
  cases bar with
  | zero =>
    -- there is no bar before, so the earlier comparison is one of the undefined number
    have x' : l.evaluate (.lookback left 1) 0 = .ok (.number Scalar.undefined) := by
      rw [evaluate_lookback_one, leftType]
      rfl
    have y' : l.evaluate (.lookback right 1) 0 = .ok (.number Scalar.undefined) := by
      rw [evaluate_lookback_one, rightType]
      rfl
    have before := evaluate_comparison d.before x' y'
    refine ⟨false, evaluate_cross_zero d left right, ?_⟩
    rw [evaluate_logical_and now before, Comparison.holds_undefined d.before (.inl rfl),
      Bool.and_false]
  | succ last =>
    obtain ⟨x', hx'⟩ := number_of_value leftType (hleft last (.inr rfl))
    obtain ⟨y', hy'⟩ := number_of_value rightType (hright last (.inr rfl))
    have before := evaluate_comparison d.before
      ((evaluate_lookback_one left (last + 1)).trans hx')
      ((evaluate_lookback_one right _).trans hy')
    refine ⟨_, evaluate_cross_succ d hx hy hx' hy', ?_⟩
    rw [evaluate_logical_and now before, CrossDirection.holds_eq]

/-- A range has the value of the comparisons with its bounds. -/
theorem evaluate_between_eq {inner lower upper : Expr Float} (innerType : inner.valueType = .number)
    (lowerType : lower.valueType = .number) (upperType : upper.valueType = .number)
    (values : ∀ e ∈ [inner, lower, upper], ∃ v, l.evaluate e bar = .ok v) :
    ∃ b, l.evaluate (.between inner lower upper) bar = .ok (.bool b) ∧
      l.evaluate (.logical .and (.comparison .ge inner lower) (.comparison .le inner upper)) bar =
        .ok (.bool b) := by
  obtain ⟨x, hx⟩ := number_of_value innerType (values inner (by simp))
  obtain ⟨low, hlow⟩ := number_of_value lowerType (values lower (by simp))
  obtain ⟨high, hhigh⟩ := number_of_value upperType (values upper (by simp))
  refine ⟨_, evaluate_between hx hlow hhigh, ?_⟩
  rw [evaluate_logical_and (evaluate_comparison .ge hx hlow) (evaluate_comparison .le hx hhigh),
    Comparison.holds_ge, Comparison.holds_le]

end Library

/-- An expression has a value at a bar. -/
def Session.HasValueAt (s : Session Float) (e : Expr Float) (bar : Nat) : Prop :=
  ∃ v, (Session.evaluate e bar s).1 = .ok v

/-- Two expressions are true at a bar, or false both. -/
def Session.SameTruthAt (s : Session Float) (bar : Nat) (e e' : Expr Float) : Prop :=
  ∃ b, (Session.evaluate e bar s).1 = .ok (.bool b) ∧ (Session.evaluate e' bar s).1 = .ok (.bool b)

/-- **Crossings and ranges are definable.** Take numeric expressions that have values at a
bar, for crossings at the bar before as well if there is one. On any market, and whatever
a session has kept, a crossing from below is that the left side is above the right one and
was not above it one bar ago, a crossing from above the same the other way round, and a
number in a range is one that is at least the lower bound and at most the upper one. Both
sides are truth values and the same one, at the first bar, behind the last one, and where
an operand is undefined. -/
theorem Session.crossings_and_ranges_definable (s : Session Float) (bar : Nat) :
    (∀ l r : Expr Float, l.valueType = .number → r.valueType = .number →
      (∀ e ∈ [l, r], ∀ near, near = bar ∨ near + 1 = bar → s.HasValueAt e near) →
      s.SameTruthAt bar (.cross .above l r) (.logical .and (.comparison .gt l r)
        (.comparison .le (.lookback l 1) (.lookback r 1))) ∧
      s.SameTruthAt bar (.cross .below l r) (.logical .and (.comparison .lt l r)
        (.comparison .ge (.lookback l 1) (.lookback r 1)))) ∧
    ∀ v lo hi : Expr Float,
      v.valueType = .number → lo.valueType = .number → hi.valueType = .number →
      (∀ e ∈ [v, lo, hi], s.HasValueAt e bar) →
      s.SameTruthAt bar (.between v lo hi)
        (.logical .and (.comparison .ge v lo) (.comparison .le v hi)) := by
  have told (e : Expr Float) (bar : Nat) :
      (Session.evaluate e bar s).1 = s.library.evaluate e bar :=
    (s.evaluate_eq e bar).1
  unfold SameTruthAt HasValueAt
  simp only [told]
  refine ⟨fun l r lType rType values => ⟨?_, ?_⟩, fun v lo hi vType loType hiType values => ?_⟩
  · exact Library.evaluate_cross_eq .above lType rType values
  · exact Library.evaluate_cross_eq .below lType rType values
  · exact Library.evaluate_between_eq vType loType hiType values

/-- The second bar of three, where the close crosses the close of the bar before, which is
undefined one bar earlier. -/
theorem Session.crossings_and_ranges_definable_second :
    let s : Session Float := .new ⟨Market.ofCandles
      [.still (.ofMillis 0) 1, .still (.ofMillis 60000) 3, .still (.ofMillis 120000) 2], .default⟩
    let close : Expr Float := .price .close
    let earlier : Expr Float := .lookback close 1
    ((close.valueType = .number ∧ earlier.valueType = .number) ∧
      (∀ e ∈ [close, earlier], ∀ near, near = 1 ∨ near + 1 = 1 → s.HasValueAt e near) ∧
      ∀ e ∈ [close, earlier, .number 3], s.HasValueAt e 1) ∧
    s.SameTruthAt 1 (.cross .above close earlier) (.logical .and (.comparison .gt close earlier)
      (.comparison .le (.lookback close 1) (.lookback earlier 1))) ∧
    s.SameTruthAt 1 (.between close earlier (.number 3))
      (.logical .and (.comparison .ge close earlier) (.comparison .le close (.number 3))) := by
  intro s close earlier
  have closes : ∀ bar, s.HasValueAt close bar := fun bar => ⟨_, (s.evaluate_eq close bar).1⟩
  have earliers : ∀ bar, s.HasValueAt earlier bar := by
    intro bar
    cases bar <;> exact ⟨_, (s.evaluate_eq earlier _).1⟩
  have crossed : ∀ e ∈ [close, earlier], ∀ near, near = 1 ∨ near + 1 = 1 → s.HasValueAt e near := by
    simp only [List.forall_mem_cons]
    exact ⟨fun near _ => closes near, fun near _ => earliers near, fun _ none => nomatch none⟩
  have ranged : ∀ e ∈ [close, earlier, .number 3], s.HasValueAt e 1 := by
    simp only [List.forall_mem_cons]
    exact ⟨closes 1, earliers 1, ⟨_, rfl⟩, fun _ none => nomatch none⟩
  obtain ⟨crossing, range⟩ := s.crossings_and_ranges_definable 1
  exact ⟨⟨⟨rfl, rfl⟩, crossed, ranged⟩, (crossing close earlier rfl rfl crossed).1,
    range close earlier (.number 3) rfl rfl rfl ranged⟩

end MarketConditions
