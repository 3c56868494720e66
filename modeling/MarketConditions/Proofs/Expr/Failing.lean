import MarketConditions.Proofs.Expr.Typing
import MarketConditions.Proofs.Market.Cut

/-!
# Errors belong to the expression

Whether an expression fails, and with which error, is decided by the expression and the
settings. Data never makes a difference: not the market, not what is missing of it, and
not the bar, once the bar has as many bars before it as the expression looks back.

- `Expr.reach`: how many earlier bars an expression looks back.
- `Expr.connectiveFree`: the expression joins no conditions. A connective leaves its right
  operand alone when the left one decides, and so may hide an error of it.
- `Evaluation.Alike`: two computations fail with one error, or give results that stand in
  a relation; with a rule for each way in which evaluation is put together.
- `Library.ask_alike`: a library refuses a question by its parameters and settings only.
- `Library.evaluate_alike`: **evaluations of one expression are alike**, by one
  induction over it.
- `Session.errors_belong_to_expressions`: what this says of errors.
-/

namespace MarketConditions

variable {α : Type}

/-! ## How far an expression looks back -/

namespace Expr

/-- How many bars before a bar are looked at, at most, to evaluate an expression
at the bar. What an indicator reads of earlier bars is the library's concern and
does not count. -/
def reach : Expr α → Nat
  | number _ | bool _ | price _ | indicator _ _ | range _ | time _ | moon _ | orderFlow _
  | footprint _ | exchange _ => 0
  | comparison _ left right | logical _ left right | arithmetic _ left right =>
    max left.reach right.reach
  | not inner => inner.reach
  | between inner lower upper => max inner.reach (max lower.reach upper.reach)
  | cross _ left right => max left.reach right.reach + 1
  | aggregate _ inner period => inner.reach + (period - 1)
  | lookback inner offset => inner.reach + offset

/-- Whether an expression is made without a connective. -/
def connectiveFree : Expr α → Bool
  | number _ | bool _ | price _ | indicator _ _ | range _ | time _ | moon _ | orderFlow _
  | footprint _ | exchange _ => true
  | logical _ _ _ => false
  | comparison _ left right | arithmetic _ left right | cross _ left right =>
    left.connectiveFree && right.connectiveFree
  | not inner | aggregate _ inner _ | lookback inner _ => inner.connectiveFree
  | between inner lower upper =>
    inner.connectiveFree && (lower.connectiveFree && upper.connectiveFree)

end Expr

/-! ## Computations that fail alike -/

namespace Evaluation

variable {ε β β' γ γ' : Type} {R : β → β' → Prop} {S : γ → γ' → Prop}

/-- Two computations fail with the same error, or give results that stand in a relation. -/
def Alike (R : β → β' → Prop) : Except ε β → Except ε β' → Prop
  | .ok b, .ok b' => R b b'
  | .error e, .error e' => e = e'
  | _, _ => False

theorem Alike.ok {b : β} {b' : β'} (related : R b b') :
    Alike R (.ok b : Except ε β) (.ok b') := related

/-- A computation is like itself. -/
theorem Alike.refl {R : β → β → Prop} (same : ∀ b, R b b) (x : Except ε β) : Alike R x x := by
  cases x with
  | error e => exact rfl
  | ok b => exact same b

/-- Computations that go on alike from related results are alike as a whole. -/
theorem Alike.bind {x : Except ε β} {y : Except ε β'} {f : β → Except ε γ} {g : β' → Except ε γ'}
    (first : Alike R x y) (rest : ∀ b b', R b b' → Alike S (f b) (g b')) :
    Alike S (x >>= f) (y >>= g) := by
  cases x with
  | error e =>
    cases y with
    | error e' => exact first
    | ok b' => exact first.elim
  | ok b =>
    cases y with
    | error e' => exact first.elim
    | ok b' => exact rest b b' first

/-- Computations carried out one after the other are alike if each is like its
counterpart. -/
theorem Alike.mapM {δ : Type} {f : δ → Except ε β} {g : δ → Except ε β'} (xs : List δ)
    (each : ∀ x ∈ xs, Alike (fun _ _ => True) (f x) (g x)) :
    Alike (fun _ _ => True) (xs.mapM f) (xs.mapM g) := by
  induction xs with
  | nil => exact trivial
  | cons x xs ih =>
    rw [List.mapM_cons, List.mapM_cons]
    refine (each x List.mem_cons_self).bind fun _ _ _ => ?_
    exact (ih fun x hx => each x (List.mem_cons_of_mem _ hx)).bind fun _ _ _ => trivial

/-- Computations that are alike fail with the same errors. -/
theorem Alike.error_iff {x : Except ε β} {y : Except ε β'} (alike : Alike R x y) (e : ε) :
    x = .error e ↔ y = .error e := by
  cases x with
  | error d =>
    cases y with
    | error d' =>
      cases alike
      rw [Except.error.injEq, Except.error.injEq]
    | ok b' => exact alike.elim
  | ok b =>
    cases y with
    | error d' => exact alike.elim
    | ok b' => exact ⟨(nomatch ·), (nomatch ·)⟩

/-! ## Values of one type -/

/-- Two values are of the same type. -/
def SameType (v w : Value α) : Prop := v.type = w.type

variable {x y : Except EvaluationError (Value α)}

/-- Where a number is needed, values of one type both are numbers or both raise
the mismatch. -/
theorem Alike.expectNumber {context : String} (values : Alike SameType x y) :
    Alike (fun _ _ => True) (x >>= fun v => expectNumber context v : Except EvaluationError α)
      (y >>= fun v => Evaluation.expectNumber context v) := by
  refine values.bind fun v w same => ?_
  cases v <;> cases w
  case number.number => exact trivial
  case bool.bool => exact rfl
  case number.bool | bool.number => cases same

/-- Where a truth value is needed, values of one type both are truth values or both raise
the mismatch. -/
theorem Alike.expectBool {context : String} (values : Alike SameType x y) :
    Alike (fun _ _ => True) (x >>= fun v => expectBool context v : Except EvaluationError Bool)
      (y >>= fun v => Evaluation.expectBool context v) := by
  refine values.bind fun v w same => ?_
  cases v <;> cases w
  case bool.bool => exact trivial
  case number.number => exact rfl
  case number.bool | bool.number => cases same

/-- A number is needed, and evaluation goes on with it. -/
theorem Alike.number {context : String} {f : α → Except EvaluationError γ}
    {g : α → Except EvaluationError γ'} (values : Alike SameType x y)
    (rest : ∀ m n, Alike S (f m) (g n)) :
    Alike S (x >>= fun v => Evaluation.expectNumber context v >>= f)
      (y >>= fun v => Evaluation.expectNumber context v >>= g) := by
  rw [← bind_assoc, ← bind_assoc]
  exact values.expectNumber.bind fun m n _ => rest m n

/-- A truth value is needed, and evaluation goes on with it. -/
theorem Alike.bool {context : String} {f : Bool → Except EvaluationError γ}
    {g : Bool → Except EvaluationError γ'} (values : Alike SameType x y)
    (rest : ∀ b c, Alike S (f b) (g c)) :
    Alike S (x >>= fun v => Evaluation.expectBool context v >>= f)
      (y >>= fun v => Evaluation.expectBool context v >>= g) := by
  rw [← bind_assoc, ← bind_assoc]
  exact values.expectBool.bind fun b c _ => rest b c

end Evaluation

/-! ## What a library refuses -/

variable [Scalar α]

namespace Library

open Evaluation

variable {β : Type} {l l' : Library α} {bar bar' : Nat}

/-- Questions whose plans are refused alike are answered alike. -/
theorem ask_alike {q q' : Query α β} (plans : Alike (fun _ _ => True) (l.plan q) (l'.plan q')) :
    Alike (fun _ _ => True) (l.ask q) (l'.ask q') := by
  unfold ask answer
  revert plans
  cases l.plan q with
  | error e =>
    cases l'.plan q' with
    | error e' => exact congrArg EvaluationError.library
    | ok p' => exact False.elim
  | ok p =>
    cases l'.plan q' with
    | error e' => exact False.elim
    | ok p' => exact fun _ => trivial

/-- A check that passes or fails on both sides comes before any answer. -/
theorem check_alike {check : Except LibraryError Unit} {x : Unit → Except LibraryError β}
    {y : Unit → Except LibraryError β} (rest : Alike (fun _ _ => True) (x ()) (y ())) :
    Alike (fun _ _ => True) (check >>= x) (check >>= y) :=
  (Alike.refl (R := fun _ _ => True) (fun _ => trivial) check).bind fun _ _ _ => rest

/-- An output is picked of every reading of an indicator, or of none; and all that is
picked is of one type. -/
theorem pick_alike (i : Indicator) (p : Option Property) :
    Alike SameType (l.ask (.reading i bar) >>= pick i p)
      (l'.ask (.reading i bar') >>= pick i p) := by
  cases valid : i.validate with
  | error e =>
    have refused : ∀ (l : Library α) (bar : Nat), l.ask (.reading i bar) =
        .error (.library e) := by
      intro l bar
      show (((i.validate >>= fun _ => _).map _ : Except LibraryError (Reading α)).mapError _) = _
      rw [valid]
      rfl
    rw [refused, refused]
    exact rfl
  | ok _ =>
    rw [ask_reading valid, ask_reading valid]
    have here := Study.lookup_isSome_iff l.settings.valueAreaShare l.settings.swingStrength i
      l.market.candles p bar
    have there := Study.lookup_isSome_iff l'.settings.valueAreaShare l'.settings.swingStrength i
      l'.market.candles p bar'
    have both := here.trans there.symm
    show Alike SameType (pick i p _) (pick i p _)
    unfold pick Reading.field
    cases read : ((i.studyOver l.settings.valueAreaShare l.settings.swingStrength
        l.market.candles).readAt bar).lookup p with
    | none =>
      rw [read] at both
      cases read' : ((i.studyOver l'.settings.valueAreaShare l'.settings.swingStrength
          l'.market.candles).readAt bar').lookup p with
      | none => cases p <;> exact rfl
      | some w =>
        rw [read'] at both
        exact absurd (both.mpr rfl) Bool.false_ne_true
    | some v =>
      rw [read] at both
      obtain ⟨w, read'⟩ := Option.isSome_iff_exists.mp (both.mp rfl)
      rw [read']
      exact (Study.type_of_lookup read).trans (Study.type_of_lookup read').symm

/-! ## Expressions -/

/-- **Evaluations of one expression are alike**, under the same settings and at bars that
have as many bars before them as the expression looks back: they fail with the same error,
or give values of the same type. -/
theorem evaluate_alike (settings : l.settings = l'.settings) {e : Expr α}
    (free : e.connectiveFree = true) (reached : e.reach ≤ bar) (reached' : e.reach ≤ bar') :
    Alike SameType (l.evaluate e bar) (l'.evaluate e bar') := by
  unfold evaluate
  induction e generalizing bar bar' with
  | number | bool => exact rfl
  | price | time | moon | orderFlow => exact .bind (ask_alike (.ok trivial)) fun _ _ _ => rfl
  | comparison op left right ihl ihr | arithmetic op left right ihl ihr =>
    obtain ⟨freeLeft, freeRight⟩ := Bool.and_eq_true_iff.mp free
    obtain ⟨hl, hr⟩ := Nat.max_le.mp reached
    obtain ⟨hl', hr'⟩ := Nat.max_le.mp reached'
    exact (ihl freeLeft hl hl').number fun _ _ => (ihr freeRight hr hr').number fun _ _ => rfl
  | cross direction left right ihl ihr =>
    -- both bars have one before them, and that one still has the reach of the operands
    obtain ⟨freeLeft, freeRight⟩ := Bool.and_eq_true_iff.mp free
    obtain ⟨before, rfl⟩ := Nat.exists_eq_add_one_of_ne_zero (Nat.ne_zero_of_lt reached)
    obtain ⟨before', rfl⟩ := Nat.exists_eq_add_one_of_ne_zero (Nat.ne_zero_of_lt reached')
    obtain ⟨hl, hr⟩ := Nat.max_le.mp (Nat.le_of_succ_le_succ reached)
    obtain ⟨hl', hr'⟩ := Nat.max_le.mp (Nat.le_of_succ_le_succ reached')
    exact (ihl freeLeft (Nat.le_succ_of_le hl) (Nat.le_succ_of_le hl')).number fun _ _ =>
      (ihr freeRight (Nat.le_succ_of_le hr) (Nat.le_succ_of_le hr')).number fun _ _ =>
        (ihl freeLeft hl hl').number fun _ _ => (ihr freeRight hr hr').number fun _ _ => rfl
  | logical => cases free
  | not inner ih => exact (ih free reached reached').bool fun _ _ => rfl
  | between inner lower upper ihi ihl ihu =>
    obtain ⟨freeInner, freeBounds⟩ := Bool.and_eq_true_iff.mp free
    obtain ⟨freeLower, freeUpper⟩ := Bool.and_eq_true_iff.mp freeBounds
    obtain ⟨hi, bounds⟩ := Nat.max_le.mp reached
    obtain ⟨hl, hu⟩ := Nat.max_le.mp bounds
    obtain ⟨hi', bounds'⟩ := Nat.max_le.mp reached'
    obtain ⟨hl', hu'⟩ := Nat.max_le.mp bounds'
    exact (ihi freeInner hi hi').number fun _ _ => (ihl freeLower hl hl').number fun _ _ =>
      (ihu freeUpper hu hu').number fun _ _ => rfl
  | indicator i p => exact pick_alike i p
  | range function =>
    cases function <;> exact .bind (ask_alike (check_alike (.ok trivial))) fun _ _ _ => rfl
  | aggregate f inner period ih =>
    rw [Evaluation.evaluate, Evaluation.evaluate]
    by_cases empty : period = 0
    · rw [if_pos empty, if_pos empty]
      exact rfl
    · -- the windows are full, and even their first bars have the reach of the samples
      have reached : inner.reach + (period - 1) ≤ bar := reached
      have reached' : inner.reach + (period - 1) ≤ bar' := reached'
      rw [if_neg empty, if_neg empty, if_neg (by omega), if_neg (by omega)]
      refine (Alike.mapM _ fun i _ => ?_).bind fun _ _ _ => rfl
      exact (@ih (bar + 1 - period + i) (bar' + 1 - period + i) free (by omega)
        (by omega)).expectNumber
  | lookback inner offset ih =>
    have reached : inner.reach + offset ≤ bar := reached
    have reached' : inner.reach + offset ≤ bar' := reached'
    rw [Evaluation.evaluate, Evaluation.evaluate, if_neg (by omega), if_neg (by omega)]
    exact ih free (by omega) (by omega)
  | footprint function =>
    cases function with
    | level => exact .bind (ask_alike (.ok trivial)) fun _ _ _ => rfl
    | imbalance level ratio =>
      refine .bind (ask_alike ?_) fun _ _ _ => rfl
      unfold plan
      rw [settings]
      exact check_alike (.ok trivial)
    | absorption volumeRatio movePercent =>
      refine .bind (ask_alike ?_) fun _ _ _ => rfl
      unfold plan
      rw [settings]
      exact check_alike (check_alike (.ok trivial))
  | exchange function =>
    cases function with
    | delta | combinedDelta => exact .bind (ask_alike (.ok trivial)) fun _ _ _ => rfl
    | divergence threshold =>
      refine .bind (ask_alike ?_) fun _ _ _ => rfl
      unfold plan
      rw [settings]
      exact check_alike (.ok trivial)

end Library

/-- **Errors belong to the expression, not to the data.** Take an expression without
connectives and two sessions with the same settings, on any markets and with anything
kept, and two bars that have as many bars before them as the expression looks back. Then
evaluation fails in one case exactly if it fails in the other, and with the same error. -/
theorem Session.errors_belong_to_expressions {s s' : Session α}
    (settings : s.library.settings = s'.library.settings) {e : Expr α}
    (free : e.connectiveFree = true) {bar bar' : Nat} (reached : e.reach ≤ bar)
    (reached' : e.reach ≤ bar') (error : EvaluationError) :
    (Session.evaluate e bar s).1 = .error error ↔
      (Session.evaluate e bar' s').1 = .error error := by
  rw [(s.evaluate_eq e bar).1, (s'.evaluate_eq e bar').1]
  exact (Library.evaluate_alike settings free reached reached').error_iff error

/-- A crossing of an indicator whose output is not named, two bars ago. It looks back
three bars, and fails on a market without bars as it does behind the last bar of a
market with one. -/
theorem Session.errors_belong_to_expressions_unnamed :
    let e : Expr Float :=
      .cross .above (.lookback (.indicator (.macd 12 26 9) none) 2) (.price .close)
    let s : Session Float := .new ⟨Market.ofCandles [], .default⟩
    let s' : Session Float := .new ⟨Market.ofCandles [.still (.ofMillis 0) 1], .default⟩
    let unnamed := EvaluationError.missingProperty "MACD(12,26,9)"
    (s.library.settings = s'.library.settings ∧ e.connectiveFree = true ∧ e.reach ≤ 3 ∧
      e.reach ≤ 8) ∧
    (Session.evaluate e 3 s).1 = .error unnamed ∧ (Session.evaluate e 8 s').1 = .error unnamed := by
  intro e s s' unnamed
  have fails : (Session.evaluate e 3 s).1 = .error unnamed := by
    rw [(s.evaluate_eq e 3).1]
    rfl
  have told := @Session.errors_belong_to_expressions Float _ s s' rfl e rfl 3 8 (by decide)
    (by decide) unnamed
  exact ⟨⟨rfl, rfl, by decide, by decide⟩, fails, told.mp fails⟩

end MarketConditions
