import MarketConditions.Proofs.Scalar.Float
import MarketConditions.Proofs.Indicator.Outputs
import MarketConditions.Proofs.Expr.Related

/-!
# Expressions have the types they show

The type of an expression is read off its shape. Whatever it is asked of, a value that it
gives is of that type; and an expression that fits together gives a value at every bar.

- `Expr.WellFormed`: an expression fits together. Operands are of the types that their
  nodes need, and parameters are such as a library takes.
- `Evaluation.Yields`, `Evaluation.Gives`: a result is of a type if it is a value; it is a
  value of a type. Each has a rule for every way in which evaluation is put together.
- `Settings.Usable`: the defaults of a library pass its own checks.
  `Settings.usable_of_validate` gets this from the check of a configuration, which asks
  for other ranges.
- `Library.evaluate_yields`, `Library.evaluate_gives`: the two halves, each by one
  induction over the expression.
- `Session.evaluate_typed`: **type soundness and progress**.
-/

namespace MarketConditions

variable {α β : Type}

/-! ## Expressions that fit together -/

namespace Expr

variable [Scalar α]

/-- Every operand is of the type that its node needs, indicators are valid and their
outputs named where they have to be, periods are at least 1, and what is given of
thresholds and ratios lies in the range that a library takes. -/
def WellFormed : Expr α → Prop
  | number _ | bool _ | price _ | time _ | moon _ | orderFlow _ => True
  | comparison _ left right | cross _ left right | arithmetic _ left right =>
    left.valueType = .number ∧ right.valueType = .number ∧ left.WellFormed ∧ right.WellFormed
  | logical _ left right =>
    left.valueType = .boolean ∧ right.valueType = .boolean ∧ left.WellFormed ∧ right.WellFormed
  | not inner => inner.valueType = .boolean ∧ inner.WellFormed
  | between inner lower upper =>
    (inner.valueType = .number ∧ lower.valueType = .number ∧ upper.valueType = .number) ∧
      inner.WellFormed ∧ lower.WellFormed ∧ upper.WellFormed
  | indicator i none => i.validate = .ok () ∧ i.properties = []
  | indicator i (some p) => i.validate = .ok () ∧ p ∈ i.properties
  | range (.highOf period) | range (.lowOf period) | range (.rangePosition period _) => 1 ≤ period
  | aggregate _ inner period => inner.valueType = .number ∧ 1 ≤ period ∧ inner.WellFormed
  | lookback inner _ => inner.WellFormed
  | footprint (.level _) => True
  | footprint (.imbalance _ ratio) => ∀ r ∈ ratio, 1 ≤ r
  | footprint (.absorption volumeRatio movePercent) =>
    (∀ r ∈ volumeRatio, 0 < r) ∧ ∀ m ∈ movePercent, 0 ≤ m
  | exchange (.delta _) | exchange .combinedDelta => True
  | exchange (.divergence threshold) => ∀ t ∈ threshold, 0 ≤ t

end Expr

/-! ## Results of a type -/

namespace Evaluation

/-- If the result is a value, it is of the type. -/
def Yields (t : ValueType) (r : Except EvaluationError (Value α)) : Prop :=
  ∀ v, r = .ok v → v.type = t

/-- The result is a value of the type. -/
def Gives (t : ValueType) (r : Except EvaluationError (Value α)) : Prop :=
  ∃ v, r = .ok v ∧ v.type = t

theorem Yields.pure {t : ValueType} {v : Value α} (type : v.type = t) :
    Yields t (pure v : Except EvaluationError (Value α)) := by
  intro w same
  cases same
  exact type

/-- Of what comes before the last step only its failure matters. -/
theorem Yields.bind {t : ValueType} {x : Except EvaluationError β}
    {f : β → Except EvaluationError (Value α)} (rest : ∀ b, Yields t (f b)) :
    Yields t (x >>= f) := by
  cases x with
  | error e => exact fun v failed => nomatch failed
  | ok b => exact rest b

theorem Gives.pure {t : ValueType} {v : Value α} (type : v.type = t) :
    Gives t (pure v : Except EvaluationError (Value α)) := ⟨v, rfl, type⟩

/-- A step that succeeds leads to the next. -/
theorem Gives.bind {t : ValueType} {x : Except EvaluationError β}
    {f : β → Except EvaluationError (Value α)} (done : ∃ b, x = .ok b)
    (rest : ∀ b, Gives t (f b)) : Gives t (x >>= f) := by
  obtain ⟨b, rfl⟩ := done
  exact rest b

/-- Where a number is needed, a number is given. -/
theorem Gives.expectNumber {context : String} {x : Except EvaluationError (Value α)}
    (value : Gives .number x) :
    ∃ n, (x >>= fun v => expectNumber context v : Except EvaluationError α) = .ok n := by
  obtain ⟨v, rfl, type⟩ := value
  cases v with
  | number n => exact ⟨n, rfl⟩
  | bool b => cases type

/-- Where a truth value is needed, a truth value is given. -/
theorem Gives.expectBool {context : String} {x : Except EvaluationError (Value α)}
    (value : Gives .boolean x) :
    ∃ b, (x >>= fun v => expectBool context v : Except EvaluationError Bool) = .ok b := by
  obtain ⟨v, rfl, type⟩ := value
  cases v with
  | number n => cases type
  | bool b => exact ⟨b, rfl⟩

/-- A number that is needed is given, and evaluation goes on with it. -/
theorem Gives.number {t : ValueType} {context : String} {x : Except EvaluationError (Value α)}
    {f : α → Except EvaluationError (Value α)} (value : Gives .number x)
    (rest : ∀ n, Gives t (f n)) :
    Gives t (x >>= fun v => Evaluation.expectNumber context v >>= f) := by
  rw [← bind_assoc]
  exact Gives.bind value.expectNumber rest

/-- A truth value that is needed is given, and evaluation goes on with it. -/
theorem Gives.bool {t : ValueType} {context : String} {x : Except EvaluationError (Value α)}
    {f : Bool → Except EvaluationError (Value α)} (value : Gives .boolean x)
    (rest : ∀ b, Gives t (f b)) :
    Gives t (x >>= fun v => Evaluation.expectBool context v >>= f) := by
  rw [← bind_assoc]
  exact Gives.bind value.expectBool rest

/-- Steps that all succeed succeed one after the other. -/
theorem mapM_ok {ε γ : Type} {f : β → Except ε γ} (xs : List β)
    (each : ∀ x ∈ xs, ∃ y, f x = .ok y) : ∃ ys, xs.mapM f = .ok ys := by
  induction xs with
  | nil => exact ⟨[], rfl⟩
  | cons x xs ih =>
    obtain ⟨y, hy⟩ := each x List.mem_cons_self
    obtain ⟨ys, hys⟩ := ih fun x hx => each x (List.mem_cons_of_mem _ hx)
    refine ⟨y :: ys, ?_⟩
    rw [List.mapM_cons, hy]
    show (xs.mapM f >>= fun ys => Except.ok (y :: ys)) = _
    rw [hys]
    rfl

end Evaluation

/-! ## What a library answers -/

namespace Settings

variable [Scalar α]

/-- What is taken from the settings where nothing is given passes the checks of
what is given. -/
structure Usable (s : Settings α) : Prop where
  imbalance : 1 ≤ s.imbalanceRatio
  volumeRatio : 0 < s.absorptionVolumeRatio
  movePercent : 0 ≤ s.absorptionMovePercent
  divergence : 0 ≤ s.divergenceThreshold

/-- What is required holds if no complaint is made. -/
theorem holds_of_require {group key what : String} {holds : Bool}
    {rest : Unit → Except SettingsError Unit}
    (passed : (require group key what holds >>= rest) = .ok ()) :
    holds = true ∧ rest () = .ok () := by
  cases holds with
  | false => cases passed
  | true => exact ⟨rfl, passed⟩

end Settings

/-- Settings that pass their check are usable. The check asks for a volume ratio of at
least one, which is more than the library asks for. -/
theorem Settings.usable_of_validate {s : Settings Float} (valid : s.validate = .ok ()) :
    s.Usable := by
  obtain ⟨-, valid⟩ := holds_of_require valid
  obtain ⟨-, valid⟩ := holds_of_require valid
  obtain ⟨divergence, valid⟩ := holds_of_require valid
  obtain ⟨imbalance, valid⟩ := holds_of_require valid
  obtain ⟨volumeRatio, valid⟩ := holds_of_require valid
  obtain ⟨movePercent, -⟩ := holds_of_require valid
  rw [Bool.and_eq_true, decide_eq_true_iff] at divergence
  exact {
    imbalance := of_decide_eq_true imbalance
    volumeRatio := Scalar.pos_of_one_le (of_decide_eq_true volumeRatio)
    movePercent := of_decide_eq_true movePercent
    divergence := divergence.1 }

/-- The settings where nothing is configured pass their check. -/
theorem Settings.validate_default : (Settings.default : Settings Float).validate = .ok () := by
  have passed : (Settings.default : Settings Float).validate.isOk = true := by decide +kernel
  generalize (Settings.default : Settings Float).validate = outcome at passed ⊢
  cases outcome with
  | ok _ => rfl
  | error e => cases passed

namespace Library

variable [Scalar α]

/-- What is not refused is answered. -/
theorem ask_ok {l : Library α} {q : Query α β} {plan : Plan α β} (planned : l.plan q = .ok plan) :
    ∃ b, l.ask q = .ok b := by
  refine ⟨l.carryOut plan, ?_⟩
  unfold ask answer
  rw [planned]
  rfl

/-- A request goes on when its condition holds. -/
theorem unless_bind {function reason : String} {holds : Bool} (met : holds = true)
    (rest : Unit → Except LibraryError β) :
    (LibraryError.unless function reason holds >>= rest) = rest () := by
  subst met
  rfl

/-- What holds of what is given, and of the default, holds of the one that is taken. -/
theorem getD_of_forall {P : β → Prop} {given : Option β} {default : β} (each : ∀ b ∈ given, P b)
    (otherwise : P default) : P (given.getD default) := by
  cases given with
  | none => exact otherwise
  | some b => exact each b rfl

/-- A reading is the study of the indicator at the bar. -/
theorem ask_reading {l : Library α} {i : Indicator} (valid : i.validate = .ok ()) (bar : Nat) :
    l.ask (.reading i bar) = .ok ((i.studyOver l.settings.valueAreaShare
      l.settings.swingStrength l.market.candles).readAt bar) := by
  show (((i.validate >>= fun _ => _).map _ : Except LibraryError (Reading α)).mapError _) = _
  rw [valid]
  rfl

/-- A reading that is not refused is that of a valid indicator. -/
theorem valid_of_ask_reading {l : Library α} {i : Indicator} {bar : Nat} {r : Reading α}
    (answered : l.ask (.reading i bar) = .ok r) : i.validate = .ok () := by
  have answered : (((i.validate >>= fun _ => _).map _ : Except LibraryError (Reading α)).mapError
    EvaluationError.library) = .ok r := answered
  cases valid : i.validate with
  | ok _ => rfl
  | error e =>
    rw [valid] at answered
    cases answered

/-! ## Soundness -/

/-- An output that is picked is of its type. -/
theorem pick_yields {l : Library α} (i : Indicator) (p : Option Property) (bar : Nat) :
    Evaluation.Yields (Property.valueType p)
      (l.ask (.reading i bar) >>= Evaluation.pick i p) := by
  cases answered : l.ask (.reading i bar) with
  | error e => exact fun v failed => nomatch failed
  | ok r =>
    have valid := valid_of_ask_reading answered
    rw [ask_reading valid] at answered
    cases answered
    show Evaluation.Yields _ (Evaluation.pick i p _)
    unfold Evaluation.pick Reading.field
    split
    · rename_i v read
      exact .pure (Study.type_of_lookup read)
    · exact fun v failed => nomatch failed
    · exact fun v failed => nomatch failed

/-- A value of an expression is of the type that the expression shows. -/
theorem evaluate_yields (l : Library α) (e : Expr α) (bar : Nat) :
    Evaluation.Yields e.valueType (l.evaluate e bar) := by
  unfold evaluate
  induction e generalizing bar with
  | number | bool => exact .pure rfl
  | price | time | moon | orderFlow => exact .bind fun _ => .pure rfl
  | comparison | arithmetic =>
    exact .bind fun _ => .bind fun _ => .bind fun _ => .bind fun _ => .pure rfl
  | cross =>
    cases bar with
    | zero => exact .pure rfl
    | succ before =>
      exact .bind fun _ => .bind fun _ => .bind fun _ => .bind fun _ => .bind fun _ =>
        .bind fun _ => .bind fun _ => .bind fun _ => .pure rfl
  | logical op =>
    refine .bind fun _ => .bind fun l => ?_
    cases op <;> cases l
    case and.false | or.true => exact .pure rfl
    case and.true | or.false => exact .bind fun _ => .bind fun _ => .pure rfl
  | not => exact .bind fun _ => .bind fun _ => .pure rfl
  | between =>
    exact .bind fun _ => .bind fun _ => .bind fun _ => .bind fun _ => .bind fun _ =>
      .bind fun _ => .pure rfl
  | indicator i p =>
    have type : (Expr.indicator i p : Expr α).valueType = Property.valueType p := by
      cases p <;> rfl
    rw [type]
    exact pick_yields i p bar
  | range => exact .bind fun _ => .pure rfl
  | aggregate f inner period =>
    rw [Evaluation.evaluate]
    split
    · intro v failed
      cases failed
    · split
      · exact .pure rfl
      · exact .bind fun _ => .pure rfl
  | lookback inner offset ih =>
    rw [Evaluation.evaluate]
    split
    · exact .pure (Value.type_undefined _)
    · exact ih _
  | footprint function => cases function <;> exact .bind fun _ => .pure rfl
  | exchange function => cases function <;> exact .bind fun _ => .pure rfl

/-! ## Progress -/

/-- An output that an indicator has can be picked. -/
theorem pick_gives {l : Library α} {i : Indicator} {p : Option Property}
    (valid : i.validate = .ok ()) (named : p ∈ i.outputs) (bar : Nat) :
    Evaluation.Gives (Property.valueType p) (l.ask (.reading i bar) >>= Evaluation.pick i p) := by
  rw [ask_reading valid]
  obtain ⟨v, read⟩ := Option.isSome_iff_exists.mp (Study.lookup_isSome l.settings.valueAreaShare
    l.settings.swingStrength l.market.candles named bar)
  refine ⟨v, ?_, Study.type_of_lookup read⟩
  show Evaluation.pick i p _ = _
  unfold Evaluation.pick Reading.field
  rw [read]
  rfl

/-- An expression that fits together gives a value of its type at every bar. -/
theorem evaluate_gives {l : Library α} (usable : l.settings.Usable) {e : Expr α}
    (fits : e.WellFormed) (bar : Nat) : Evaluation.Gives e.valueType (l.evaluate e bar) := by
  unfold evaluate
  induction e generalizing bar with
  | number | bool => exact .pure rfl
  | price | time | moon => exact .bind (ask_ok rfl) fun _ => .pure rfl
  | orderFlow field => exact .bind (ask_ok rfl) fun _ => .pure rfl
  | comparison op left right ihl ihr | arithmetic op left right ihl ihr =>
    obtain ⟨hl, hr, fl, fr⟩ := fits
    rw [hl] at ihl
    rw [hr] at ihr
    exact .number (ihl fl bar) fun _ => .number (ihr fr bar) fun _ => .pure rfl
  | cross direction left right ihl ihr =>
    obtain ⟨hl, hr, fl, fr⟩ := fits
    rw [hl] at ihl
    rw [hr] at ihr
    cases bar with
    | zero => exact .pure rfl
    | succ before =>
      exact .number (ihl fl _) fun _ => .number (ihr fr _) fun _ => .number (ihl fl before) fun _ =>
        .number (ihr fr before) fun _ => .pure rfl
  | logical op left right ihl ihr =>
    obtain ⟨hl, hr, fl, fr⟩ := fits
    rw [hl] at ihl
    rw [hr] at ihr
    refine .bool (ihl fl bar) fun l => ?_
    cases op <;> cases l
    case and.false | or.true => exact .pure rfl
    case and.true | or.false => exact .bool (ihr fr bar) fun _ => .pure rfl
  | not inner ih =>
    obtain ⟨hi, fi⟩ := fits
    rw [hi] at ih
    exact .bool (ih fi bar) fun _ => .pure rfl
  | between inner lower upper ihi ihl ihu =>
    obtain ⟨⟨hi, hl, hu⟩, fi, fl, fu⟩ := fits
    rw [hi] at ihi
    rw [hl] at ihl
    rw [hu] at ihu
    exact .number (ihi fi bar) fun _ => .number (ihl fl bar) fun _ => .number (ihu fu bar) fun _ =>
      .pure rfl
  | indicator i p =>
    -- an output is unnamed exactly when the indicator has a single one
    cases p with
    | none =>
      refine pick_gives fits.1 ?_ bar
      simp [Indicator.outputs, fits.2]
    | some p =>
      refine pick_gives fits.1 ?_ bar
      have several : i.properties ≠ [] := List.ne_nil_of_mem fits.2
      simp [Indicator.outputs, several, fits.2]
  | range function =>
    refine .bind ?_ fun _ => .pure rfl
    cases function <;>
      exact ask_ok (unless_bind (decide_eq_true (Nat.one_le_iff_ne_zero.mp fits)) _)
  | aggregate f inner period ih =>
    obtain ⟨hi, positive, fi⟩ := fits
    rw [hi] at ih
    rw [Evaluation.evaluate, if_neg (by omega)]
    split
    · exact .pure rfl
    · exact .bind (Evaluation.mapM_ok _ fun i _ => (ih fi _).expectNumber) fun _ => .pure rfl
  | lookback inner offset ih =>
    rw [Evaluation.evaluate]
    split
    · exact .pure (Value.type_undefined _)
    · exact ih fits _
  | footprint function =>
    cases function with
    | level => exact .bind (ask_ok rfl) fun _ => .pure rfl
    | imbalance level ratio =>
      have large := getD_of_forall fits usable.imbalance
      exact .bind (ask_ok (unless_bind (decide_eq_true large) _)) fun _ => .pure rfl
    | absorption volumeRatio movePercent =>
      have heavy := getD_of_forall fits.1 usable.volumeRatio
      have still := getD_of_forall fits.2 usable.movePercent
      exact .bind (ask_ok ((unless_bind (decide_eq_true heavy) _).trans
        (unless_bind (decide_eq_true still) _))) fun _ => .pure rfl
  | exchange function =>
    cases function with
    | delta | combinedDelta => exact .bind (ask_ok rfl) fun _ => .pure rfl
    | divergence threshold =>
      have positive := getD_of_forall fits usable.divergence
      exact .bind (ask_ok (unless_bind (decide_eq_true positive) _)) fun _ => .pure rfl

end Library

/-- **Type soundness and progress.** Whatever a session has kept, a value that it gives
for an expression is of the type that the expression shows; and with settings that pass
their check, an expression that fits together has a value at every bar, those behind the
last one included. -/
theorem Session.evaluate_typed (s : Session Float) (e : Expr Float) (bar : Nat) :
    (∀ v, (Session.evaluate e bar s).1 = .ok v → v.type = e.valueType) ∧
    (s.library.settings.validate = .ok () → e.WellFormed →
      ∃ v, (Session.evaluate e bar s).1 = .ok v ∧ v.type = e.valueType) := by
  rw [(s.evaluate_eq e bar).1]
  refine ⟨s.library.evaluate_yields e bar, fun valid fits => ?_⟩
  exact Library.evaluate_gives (Settings.usable_of_validate valid) fits bar

/-- The lead of a signal line over its highest of the last three bars, one bar ago, on a
market without bars. -/
theorem Session.evaluate_typed_crossing :
    let line : Expr Float := .indicator (.macd 12 26 9) (some .signal)
    let e : Expr Float :=
      .logical .or (.cross .above line (.lookback (.aggregate .highest line 3) 1))
        (.footprint (.absorption (some 2) none))
    let s : Session Float := .new ⟨⟨"BTCUSDT", .h1, [], [], [], none⟩, .default⟩
    (s.library.settings.validate = .ok () ∧ e.WellFormed) ∧
      ∃ v, (Session.evaluate e 5 s).1 = .ok v ∧ v.type = .boolean := by
  intro line e s
  have valid : s.library.settings.validate = .ok () := Settings.validate_default
  have signal : line.WellFormed := ⟨rfl, by decide⟩
  have crossing : (Expr.cross .above line (.lookback (.aggregate .highest line 3) 1)).WellFormed :=
    ⟨rfl, rfl, signal, rfl, by decide, signal⟩
  have heavy : (Expr.footprint (.absorption (some 2) none) : Expr Float).WellFormed := by
    refine ⟨fun r given => ?_, fun m given => nomatch given⟩
    cases given
    decide
  have fits : e.WellFormed := ⟨rfl, rfl, crossing, heavy⟩
  obtain ⟨v, value, -⟩ := (Session.evaluate_typed s e 5).2 valid fits
  exact ⟨⟨valid, fits⟩, v, value, (Session.evaluate_typed s e 5).1 v value⟩

end MarketConditions
