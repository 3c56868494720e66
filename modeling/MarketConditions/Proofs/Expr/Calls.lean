import MarketConditions.Proofs.Expr.Related

/-!
# The questions of an evaluation

Evaluating an expression comes down to asking its library one question after the other.
Which ones is read off the expression and the values of its parts: an operand is evaluated
if those before it are of the type that is asked for, and the right side of a connective
if the left one leaves it open.

- `Call`: a question of some type.
- `Library.calls`: **the questions of an evaluation**, in order.
- `Session.asked`: a session after questions.
- `Session.Makes`: a computation makes calls, of which only the last may be refused, and
  there is a rule for each way in which computations are put together.
- `Session.evaluate_makes`: **an evaluation makes the calls of its expression**, and
  does nothing else.
-/

namespace MarketConditions

variable {α β γ : Type} [Scalar α]

/-- A question to a library, whatever the type of its answer. -/
abbrev Call (α : Type) := Σ β : Type, Query α β

/-! ## What is asked -/

/-- The truth value of the left side that leaves a connective to the right one. -/
def Connective.neutral : Connective → Bool
  | and => true
  | or => false

namespace Library

variable (l : Library α)

/-- Whether a question is answered, its parameters being valid. -/
def accepts (c : Call α) : Bool := (l.answer c.2).isOk

/-- Whether an expression has a value of a type at a bar. -/
def hasValue (t : ValueType) (e : Expr α) (bar : Nat) : Bool :=
  match l.evaluate e bar with
  | .ok v => decide (v.type = t)
  | .error _ => false

theorem hasValue_iff {t : ValueType} {e : Expr α} {bar : Nat} :
    l.hasValue t e bar = true ↔ ∃ v, l.evaluate e bar = .ok v ∧ v.type = t := by
  unfold hasValue
  cases l.evaluate e bar <;> simp

/-- Whether the left side of a connective leaves it to the right one. -/
def leavesOpen (op : Connective) (left : Expr α) (bar : Nat) : Bool :=
  match l.evaluate left bar with
  | .ok (.bool b) => b == op.neutral
  | _ => false

omit [Scalar α] in
/-- The calls of parts that are evaluated one after the other, given whether each of them
lets the evaluation go on. -/
def inTurn : List (Bool × List (Call α)) → List (Call α)
  | [] => []
  | (goesOn, calls) :: rest => calls ++ if goesOn then inTurn rest else []

omit [Scalar α] in
@[simp] theorem inTurn_single (goesOn : Bool) (calls : List (Call α)) :
    inTurn [(goesOn, calls)] = calls := by
  cases goesOn <;> simp [inTurn]

/-- The questions that are asked when an expression is evaluated at a bar. -/
def calls : Expr α → Nat → List (Call α)
  | .number _, _ | .bool _, _ => []
  | .price field, bar => [⟨_, .price field bar⟩]
  | .comparison _ left right, bar | .arithmetic _ left right, bar =>
    inTurn [(l.hasValue .number left bar, calls left bar),
      (l.hasValue .number right bar, calls right bar)]
  | .cross _ _ _, 0 => []
  | .cross _ left right, bar + 1 =>
    inTurn [(l.hasValue .number left (bar + 1), calls left (bar + 1)),
      (l.hasValue .number right (bar + 1), calls right (bar + 1)),
      (l.hasValue .number left bar, calls left bar),
      (l.hasValue .number right bar, calls right bar)]
  | .logical op left right, bar =>
    inTurn [(l.leavesOpen op left bar, calls left bar),
      (l.hasValue .boolean right bar, calls right bar)]
  | .not inner, bar => calls inner bar
  | .between inner lower upper, bar =>
    inTurn [(l.hasValue .number inner bar, calls inner bar),
      (l.hasValue .number lower bar, calls lower bar),
      (l.hasValue .number upper bar, calls upper bar)]
  | .indicator i _, bar => [⟨_, .reading i bar⟩]
  | .range function, bar => [⟨_, .range function bar⟩]
  | .aggregate _ inner period, bar =>
    if bar + 1 < period then []
    else inTurn ((List.range period).map fun i =>
      (l.hasValue .number inner (bar + 1 - period + i), calls inner (bar + 1 - period + i)))
  | .lookback inner offset, bar => if bar < offset then [] else calls inner (bar - offset)
  | .time field, bar => [⟨_, .timeField field bar⟩]
  | .moon field, bar => [⟨_, .moonField field bar⟩]
  | .orderFlow field, bar => [⟨_, .orderFlow field bar⟩]
  | .footprint (.level level), bar => [⟨_, .footprintLevel level bar⟩]
  | .footprint (.imbalance level ratio), bar => [⟨_, .imbalance level ratio bar⟩]
  | .footprint (.absorption ratio percent), bar => [⟨_, .absorption ratio percent bar⟩]
  | .exchange (.delta name), bar => [⟨_, .exchangeDelta name bar⟩]
  | .exchange .combinedDelta, bar => [⟨_, .combinedDelta bar⟩]
  | .exchange (.divergence threshold), bar => [⟨_, .divergence threshold bar⟩]

/-- A connective that its left side decides asks what the left side asks. -/
theorem calls_decided {op : Connective} {left right : Expr α} {bar : Nat}
    (decided : l.evaluate left bar = .ok (.bool !op.neutral)) :
    l.calls (.logical op left right) bar = l.calls left bar := by
  have closed : l.leavesOpen op left bar = false := by simp [leavesOpen, decided]
  rw [calls, closed]
  exact List.append_nil _

end Library

namespace Session

/-- A session after questions, asked one after the other. -/
def asked (s : Session α) (calls : List (Call α)) : Session α :=
  calls.foldl (fun s c => (s.ask c.2).2) s

@[simp] theorem asked_nil (s : Session α) : s.asked [] = s := rfl

theorem asked_append (s : Session α) (calls more : List (Call α)) :
    s.asked (calls ++ more) = (s.asked calls).asked more := List.foldl_append

@[simp] theorem library_asked (s : Session α) (calls : List (Call α)) :
    (s.asked calls).library = s.library := by
  induction calls generalizing s with
  | nil => rfl
  | cons c calls ih =>
    show ((s.ask c.2).2.asked calls).library = s.library
    rw [ih, ask_library]

/-- A question that is refused leaves the session as it is. -/
theorem ask_of_error {s : Session α} {q : Query α β} {cause : LibraryError}
    (refused : s.library.answer q = .error cause) : (s.ask q).2 = s := by
  unfold Library.answer at refused
  unfold ask
  cases planned : s.library.plan q with
  | error e => rfl
  | ok plan =>
    rw [planned] at refused
    cases refused

/-! ## Computations that ask -/

/-- A computation makes calls: it has the given result, and leaves the session as the
calls leave it. All of them are accepted but perhaps the last, whose refusal is the
result then. -/
structure Makes (l : Library α) (x : Evaluating α β) (r : Except EvaluationError β)
    (calls : List (Call α)) : Prop where
  runs : ∀ s : Session α, s.library = l → x s = (r, s.asked calls)
  accepted : (∀ c ∈ calls, l.accepts c) ∨ ∃ earlier c cause, calls = earlier ++ [c] ∧
    (∀ c ∈ earlier, l.accepts c) ∧ l.answer c.2 = .error cause ∧ r = .error (.library cause)

namespace Makes

variable {l : Library α}

theorem pure (b : β) : Makes l (pure b) (.ok b) [] :=
  ⟨fun _ _ => rfl, .inl fun _ here => nomatch here⟩

theorem throw (e : EvaluationError) : Makes l (throw e : Evaluating α β) (.error e) [] :=
  ⟨fun _ _ => rfl, .inl fun _ here => nomatch here⟩

/-- A question is one call. -/
theorem query (q : Query α β) : Makes l (query q) (l.ask q) [⟨β, q⟩] where
  runs s same := by
    show ((s.ask q).1.mapError EvaluationError.library, (s.ask q).2) = _
    rw [s.ask_answer, same]
    rfl
  accepted := by
    cases answered : l.answer q with
    | ok a =>
      refine .inl fun c here => ?_
      rw [List.mem_singleton.mp here]
      simp [Library.accepts, answered, Except.isOk, Except.toBool]
    | error cause =>
      refine .inr ⟨[], _, cause, rfl, fun _ here => (nomatch here), answered, ?_⟩
      show (l.answer q).mapError EvaluationError.library = _
      rw [answered]
      rfl

/-- A computation that succeeds is followed by the next. -/
theorem bind_ok {x : Evaluating α β} {b : β} {calls more : List (Call α)}
    (first : Makes l x (.ok b) calls)
    {f : β → Evaluating α γ} {r : Except EvaluationError γ} (second : Makes l (f b) r more) :
    Makes l (x >>= f) r (calls ++ more) where
  runs s same := by
    rw [bind_of_ok (first.runs s same), second.runs _ ((library_asked s calls).trans same),
      asked_append]
  accepted := by
    -- a refusal would have been the end
    rcases first.accepted with all | ⟨_, _, _, _, _, _, impossible⟩
    · rcases second.accepted with rest | ⟨earlier, c, cause, rfl, rest, refused, result⟩
      · exact .inl fun c here => (List.mem_append.mp here).elim (all c) (rest c)
      · refine .inr ⟨calls ++ earlier, c, cause, (List.append_assoc ..).symm, ?_, refused, result⟩
        exact fun c here => (List.mem_append.mp here).elim (all c) (rest c)
    · cases impossible

/-- A computation that fails is the last. -/
theorem bind_error {x : Evaluating α β} {e : EvaluationError} {calls : List (Call α)}
    (first : Makes l x (.error e) calls) (f : β → Evaluating α γ) :
    Makes l (x >>= f) (.error e) calls where
  runs s same := bind_of_error (first.runs s same) f
  accepted := by
    rcases first.accepted with all | ⟨earlier, c, cause, made, rest, refused, result⟩
    · exact .inl all
    · refine .inr ⟨earlier, c, cause, made, rest, refused, ?_⟩
      cases result
      rfl

/-- What follows a computation without a call makes no more of them. -/
theorem finish {x : Evaluating α β} {r : Except EvaluationError β} {calls : List (Call α)}
    (first : Makes l x r calls) {f : β → Evaluating α γ} {g : β → Except EvaluationError γ}
    (last : ∀ b, Makes l (f b) (g b) []) : Makes l (x >>= f) (r >>= g) calls := by
  cases r with
  | ok b =>
    have both := first.bind_ok (last b)
    rwa [List.append_nil] at both
  | error e => exact first.bind_error f

/-- A part that lets the evaluation go on, or stops it, is followed by its turn. -/
theorem turn {x : Evaluating α β} {r : Except EvaluationError β} {calls : List (Call α)}
    (first : Makes l x r calls) {goesOn : Bool} {rest : List (Bool × List (Call α))}
    {f : β → Evaluating α γ} {g : β → Except EvaluationError γ}
    (stops : goesOn = false → ∀ b, r = .ok b → Makes l (f b) (g b) [])
    (goes : goesOn = true → ∃ b, r = .ok b ∧ Makes l (f b) (g b) (Library.inTurn rest)) :
    Makes l (x >>= f) (r >>= g) (Library.inTurn ((goesOn, calls) :: rest)) := by
  unfold Library.inTurn
  -- the rest of the calls are made exactly if the part lets the evaluation go on
  cases goesOn with
  | true =>
    obtain ⟨b, rfl, second⟩ := goes rfl
    exact first.bind_ok second
  | false =>
    rw [if_neg Bool.false_ne_true]
    cases r with
    | ok b => exact first.bind_ok (stops rfl b rfl)
    | error e =>
      rw [List.append_nil]
      exact first.bind_error f

theorem expectNumber (context : String) (v : Value α) : Makes l
    (Evaluation.expectNumber context v) (Evaluation.expectNumber context v) [] := by
  cases v with
  | number n => exact pure n
  | bool b => exact throw _

theorem expectBool (context : String) (v : Value α) : Makes l
    (Evaluation.expectBool context v) (Evaluation.expectBool context v) [] := by
  cases v with
  | number n => exact throw _
  | bool b => exact pure b

/-- An operand that is to be a number is followed by its turn if it is one. -/
theorem number {e : Expr α} {bar : Nat} {context : String} {calls : List (Call α)}
    (operand : Makes l (Session.evaluate e bar) (l.evaluate e bar) calls)
    {rest : List (Bool × List (Call α))} {f : α → Evaluating α γ} {g : α → Except EvaluationError γ}
    (goes : ∀ n, Makes l (f n) (g n) (Library.inTurn rest)) :
    Makes l (Session.evaluate e bar >>= fun v => Evaluation.expectNumber context v >>= f)
      (l.evaluate e bar >>= fun v => Evaluation.expectNumber context v >>= g)
      (Library.inTurn ((l.hasValue .number e bar, calls) :: rest)) := by
  refine operand.turn (fun stops v value => ?_) (fun go => ?_)
  · cases v with
    | number n =>
      have is_number : l.hasValue .number e bar = true := l.hasValue_iff.mpr ⟨_, value, rfl⟩
      rw [is_number] at stops
      cases stops
    | bool b => exact (expectNumber context (.bool b)).bind_error f
  · obtain ⟨v, value, type⟩ := l.hasValue_iff.mp go
    cases v with
    | number n => exact ⟨_, value, (expectNumber context (.number n)).bind_ok (goes n)⟩
    | bool b => cases type

/-- An operand that is to be a truth value is followed by its turn if it leaves that
open. -/
theorem bool {e : Expr α} {bar : Nat} {context : String} {calls : List (Call α)}
    (operand : Makes l (Session.evaluate e bar) (l.evaluate e bar) calls)
    {goesOn : Bool} {rest : List (Bool × List (Call α))} {f : Bool → Evaluating α γ}
    {g : Bool → Except EvaluationError γ}
    (stops : goesOn = false → ∀ b, l.evaluate e bar = .ok (.bool b) → Makes l (f b) (g b) [])
    (goes : goesOn = true → ∃ b, l.evaluate e bar = .ok (.bool b) ∧
      Makes l (f b) (g b) (Library.inTurn rest)) :
    Makes l (Session.evaluate e bar >>= fun v => Evaluation.expectBool context v >>= f)
      (l.evaluate e bar >>= fun v => Evaluation.expectBool context v >>= g)
      (Library.inTurn ((goesOn, calls) :: rest)) := by
  refine operand.turn (fun stop v value => ?_) (fun go => ?_)
  · cases v with
    | number n => exact (expectBool context (.number n)).bind_error f
    | bool b => exact (expectBool context (.bool b)).bind_ok (stops stop b value)
  · obtain ⟨b, value, second⟩ := goes go
    exact ⟨_, value, (expectBool context (.bool b)).bind_ok second⟩

/-- The last operand, which is to be a truth value. -/
theorem lastBool {e : Expr α} {bar : Nat} {context : String} {calls : List (Call α)}
    (operand : Makes l (Session.evaluate e bar) (l.evaluate e bar) calls) {f : Bool → γ} :
    Makes l
      (Session.evaluate e bar >>= fun v => Evaluation.expectBool context v >>=
        fun b => Pure.pure (f b))
      (l.evaluate e bar >>= fun v => Evaluation.expectBool context v >>= fun b => Pure.pure (f b))
      calls :=
  operand.finish fun v => (expectBool context v).finish fun b => pure (f b)

/-- Computations that have their turns one after the other. -/
theorem mapM {f : γ → Evaluating α β} {g : γ → Except EvaluationError β}
    {calls : γ → List (Call α)} {goesOn : γ → Bool} (each : ∀ x, Makes l (f x) (g x) (calls x))
    (goes : ∀ x, goesOn x = (g x).isOk) (xs : List γ) :
    Makes l (xs.mapM f) (xs.mapM g) (Library.inTurn (xs.map fun x => (goesOn x, calls x))) := by
  induction xs with
  | nil => exact pure []
  | cons x xs ih =>
    rw [List.mapM_cons, List.mapM_cons, List.map_cons]
    refine (each x).turn (fun stops b value => ?_) (fun ok => ?_)
    · rw [goes, value] at stops
      cases stops
    · rw [goes] at ok
      cases value : g x with
      | ok b => exact ⟨b, rfl, ih.finish fun bs => pure (b :: bs)⟩
      | error e =>
        rw [value] at ok
        cases ok

end Makes

/-- **An evaluation makes the calls of its expression.** -/
theorem evaluate_makes (l : Library α) (e : Expr α) (bar : Nat) :
    Makes l (Session.evaluate e bar) (l.evaluate e bar) (l.calls e bar) := by
  induction e generalizing bar with
  | number x => exact .pure _
  | bool b => exact .pure _
  | price field => exact (Makes.query _).finish fun _ => .pure _
  | comparison op left right ihl ihr =>
    exact (ihl bar).number fun _ => (ihr bar).number fun _ => .pure _
  | cross direction left right ihl ihr =>
    cases bar with
    | zero => exact .pure _
    | succ before =>
      exact (ihl _).number fun _ => (ihr _).number fun _ => (ihl _).number fun _ =>
        (ihr _).number fun _ => .pure _
  | logical op left right ihl ihr =>
    refine (ihl bar).bool (fun stops b value => ?_) (fun goes => ?_)
    · unfold Library.leavesOpen at stops
      rw [value] at stops
      cases op <;> cases b <;> first | exact .pure _ | cases stops
    · unfold Library.leavesOpen at goes
      split at goes
      · rename_i b value
        refine ⟨b, value, ?_⟩
        rw [Library.inTurn_single]
        cases op <;> cases b <;> first | exact (ihr bar).lastBool | cases goes
      · cases goes
  | not inner ih => exact (ih bar).lastBool
  | between inner lower upper ihi ihl ihu =>
    exact (ihi bar).number fun _ => (ihl bar).number fun _ => (ihu bar).number fun _ => .pure _
  | arithmetic op left right ihl ihr =>
    exact (ihl bar).number fun _ => (ihr bar).number fun _ => .pure _
  | indicator i p =>
    refine (Makes.query _).finish fun r => ?_
    unfold Evaluation.pick
    split
    · exact .pure _
    · exact .throw _
    · exact .throw _
  | range function => exact (Makes.query _).finish fun _ => .pure _
  | aggregate f inner period ih =>
    rw [Session.evaluate, Library.evaluate, Evaluation.evaluate, Evaluation.evaluate, Library.calls]
    split
    · rename_i none
      subst none
      exact .throw _
    split
    · exact .pure _
    refine (Makes.mapM (fun i => (ih _).finish (.expectNumber _)) (fun i => ?_) _).finish
      fun _ => .pure _
    -- a sample lets the next have its turn if it is a number
    unfold Library.hasValue
    cases l.evaluate inner (bar + 1 - period + i) with
    | error e => rfl
    | ok v => cases v <;> rfl
  | lookback inner offset ih =>
    rw [Session.evaluate, Library.evaluate, Evaluation.evaluate, Evaluation.evaluate, Library.calls]
    split
    · exact .pure _
    · exact ih _
  | time field => exact (Makes.query _).finish fun _ => .pure _
  | moon field => exact (Makes.query _).finish fun _ => .pure _
  | orderFlow field => exact (Makes.query _).finish fun _ => .pure _
  | footprint function => cases function <;> exact (Makes.query _).finish fun _ => .pure _
  | exchange function => cases function <;> exact (Makes.query _).finish fun _ => .pure _

end Session

end MarketConditions
