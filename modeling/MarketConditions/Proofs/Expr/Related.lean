import MarketConditions.Expr.Evaluation
import MarketConditions.Proofs.Indicator.Outputs

/-!
# Related evaluations

The rules of evaluation do not know whom they ask. So whatever relates the answers of two
ways of asking also relates the evaluations, as long as it respects how evaluation is put
together. And an evaluation at a bar never asks about a later one.

- `Query.AsksBy`: a question about one bar, and one that is not later than another.
- `Evaluation.Relation`: what it takes for a relation to respect evaluation.
- `Evaluation.Relation.evaluate`: **related answers make related evaluations**. It is
  proved by one induction over the expression, and asks for answers up to the bar only.
- `Library.evaluate_congr`: libraries that answer alike evaluate alike.
- `Session.evaluate_eq`: what has been kept never shows in a value.
- `Session.evaluate_output`: an indicator evaluated at a bar is what its study says there.
-/

namespace MarketConditions

variable {α : Type}

/-- Whether a question is about one bar, and about none later than `last`. -/
def Query.AsksBy (last : Nat) {β : Type} : Query α β → Prop
  | .price _ bar | .time bar | .timeField _ bar | .moonField _ bar | .reading _ bar
  | .range _ bar | .orderFlow _ bar | .footprintLevel _ bar | .imbalance _ _ bar
  | .absorption _ _ bar | .exchangeDelta _ bar | .combinedDelta bar | .divergence _ bar =>
    bar ≤ last
  | .series _ | .swingPoints _ => False

namespace Evaluation

variable {M N : Type → Type} [Monad M] [MonadExcept EvaluationError M] [Monad N]
  [MonadExcept EvaluationError N]

/-- A relation between computations of two kinds that respects how evaluation is
put together. -/
structure Relation (M N : Type → Type) [Monad M] [MonadExcept EvaluationError M] [Monad N]
    [MonadExcept EvaluationError N] where
  holds : ∀ {β : Type}, M β → N β → Prop
  pure : ∀ {β : Type} (b : β), holds (pure b) (pure b)
  bind : ∀ {β γ : Type} {x : M β} {y : N β} {f : β → M γ} {g : β → N γ}, holds x y →
    (∀ b, holds (f b) (g b)) → holds (x >>= f) (y >>= g)
  throw : ∀ {β : Type} (e : EvaluationError), holds (throw e : M β) (throw e)

namespace Relation

variable (R : Relation M N)

/-- A number is insisted on. -/
theorem number {β : Type} {context : String} {x : M (Value α)} {y : N (Value α)} {f : α → M β}
    {g : α → N β} (value : R.holds x y) (rest : ∀ n, R.holds (f n) (g n)) :
    R.holds (x >>= fun v => expectNumber context v >>= f)
      (y >>= fun v => expectNumber context v >>= g) := by
  refine R.bind value fun v => R.bind ?_ rest
  cases v with
  | number n => exact R.pure n
  | bool b => exact R.throw _

/-- A truth value is insisted on. -/
theorem bool {β : Type} {context : String} {x : M (Value α)} {y : N (Value α)} {f : Bool → M β}
    {g : Bool → N β} (value : R.holds x y) (rest : ∀ b, R.holds (f b) (g b)) :
    R.holds (x >>= fun v => expectBool context v >>= f)
      (y >>= fun v => expectBool context v >>= g) := by
  refine R.bind value fun v => R.bind ?_ rest
  cases v with
  | number n => exact R.throw _
  | bool b => exact R.pure b

/-- An output is picked from a reading. -/
theorem pick (i : Indicator) (p : Option Property) (r : Reading α) :
    R.holds (Evaluation.pick i p r) (Evaluation.pick i p r) := by
  unfold Evaluation.pick
  split
  · exact R.pure _
  · exact R.throw _
  · exact R.throw _

/-- Computations are carried out one after the other. -/
theorem mapM {β γ : Type} {f : β → M γ} {g : β → N γ} (xs : List β)
    (each : ∀ x ∈ xs, R.holds (f x) (g x)) : R.holds (xs.mapM f) (xs.mapM g) := by
  have loop : ∀ done : List γ, R.holds (List.mapM.loop f xs done) (List.mapM.loop g xs done) := by
    induction xs with
    | nil => exact fun done => R.pure _
    | cons x xs ih =>
      intro done
      exact R.bind (each x List.mem_cons_self) fun y =>
        ih (fun x hx => each x (List.mem_cons_of_mem _ hx)) _
  exact loop []

variable [Scalar α]

/-- **Related answers make related evaluations.** Only answers about bars up to the one at
hand are looked at. -/
theorem evaluate {ask : ∀ {β : Type}, Query α β → M β} {ask' : ∀ {β : Type}, Query α β → N β}
    {last : Nat} (asks : ∀ {β : Type} (q : Query α β), q.AsksBy last → R.holds (ask q) (ask' q))
    (e : Expr α) {bar : Nat} (here : bar ≤ last) :
    R.holds (Evaluation.evaluate ask e bar) (Evaluation.evaluate ask' e bar) := by
  induction e generalizing bar with
  | number x => exact R.pure _
  | bool b => exact R.pure _
  | price field => exact R.bind (asks _ here) fun _ => R.pure _
  | comparison op left right ihl ihr =>
    exact R.number (ihl here) fun l => R.number (ihr here) fun r => R.pure _
  | cross direction left right ihl ihr =>
    -- a crossing also looks at the bar before, and there is none before the first
    cases bar with
    | zero => exact R.pure _
    | succ before =>
      have earlier : before ≤ last := Nat.le_of_succ_le here
      exact R.number (ihl here) fun _ => R.number (ihr here) fun _ =>
        R.number (ihl earlier) fun _ => R.number (ihr earlier) fun _ => R.pure _
  | logical op left right ihl ihr =>
    refine R.bool (ihl here) fun l => ?_
    cases op <;> cases l
    case and.false => exact R.pure _
    case and.true => exact R.bool (ihr here) fun _ => R.pure _
    case or.false => exact R.bool (ihr here) fun _ => R.pure _
    case or.true => exact R.pure _
  | not inner ih => exact R.bool (ih here) fun _ => R.pure _
  | between inner lower upper ihi ihl ihu =>
    exact R.number (ihi here) fun _ => R.number (ihl here) fun _ => R.number (ihu here) fun _ =>
      R.pure _
  | arithmetic op left right ihl ihr =>
    exact R.number (ihl here) fun _ => R.number (ihr here) fun _ => R.pure _
  | indicator i p => exact R.bind (asks _ here) fun r => R.pick i p r
  | range function => exact R.bind (asks _ here) fun _ => R.pure _
  | aggregate f inner period ih =>
    rw [Evaluation.evaluate, Evaluation.evaluate]
    split
    · exact R.throw _
    split
    · exact R.pure _
    -- the samples reach from `period - 1` bars back up to the bar itself
    refine R.bind (R.mapM _ fun i hi => ?_) fun _ => R.pure _
    have inside : i < period := List.mem_range.mp hi
    have value : R.holds (Evaluation.evaluate ask inner (bar + 1 - period + i))
        (Evaluation.evaluate ask' inner (bar + 1 - period + i)) := ih (by omega)
    refine R.bind value fun v => ?_
    cases v with
    | number n => exact R.pure n
    | bool b => exact R.throw _
  | lookback inner offset ih =>
    rw [Evaluation.evaluate, Evaluation.evaluate]
    split
    · exact R.pure _
    · exact ih (by omega)
  | time field => exact R.bind (asks _ here) fun _ => R.pure _
  | moon field => exact R.bind (asks _ here) fun _ => R.pure _
  | orderFlow field => exact R.bind (asks _ here) fun _ => R.pure _
  | footprint function =>
    cases function <;> exact R.bind (asks _ here) fun _ => R.pure _
  | exchange function =>
    cases function <;> exact R.bind (asks _ here) fun _ => R.pure _

/-- Computations that are the same are related. -/
def same (M : Type → Type) [Monad M] [MonadExcept EvaluationError M] : Relation M M where
  holds x y := x = y
  pure _ := rfl
  bind value rest := by rw [value, funext rest]
  throw _ := rfl

end Relation

end Evaluation

variable [Scalar α]

/-- Libraries that answer alike up to a bar evaluate alike at it. -/
theorem Library.evaluate_congr {l l' : Library α} {last : Nat}
    (agree : ∀ {β : Type} (q : Query α β), q.AsksBy last → l.answer q = l'.answer q)
    (e : Expr α) {bar : Nat} (here : bar ≤ last) : l.evaluate e bar = l'.evaluate e bar := by
  refine (Evaluation.Relation.same _).evaluate (fun q by_bar => ?_) e here
  show (l.answer q).mapError EvaluationError.library =
    (l'.answer q).mapError EvaluationError.library
  rw [agree q by_bar]

/-! ## What has been kept -/

namespace Session

/-- A step that succeeds is followed by the next, in the session it leaves. -/
theorem bind_of_ok {β γ : Type} {x : Evaluating α β} {s s' : Session α} {b : β}
    (done : x s = (.ok b, s')) (f : β → Evaluating α γ) : (x >>= f) s = f b s' := by
  show (StateT.bind x (ExceptT.bindCont f)) s = f b s'
  unfold StateT.bind
  rw [done]
  rfl

/-- A step that fails is the last. -/
theorem bind_of_error {β γ : Type} {x : Evaluating α β} {s s' : Session α}
    {e : EvaluationError} (failed : x s = (.error e, s')) (f : β → Evaluating α γ) :
    (x >>= f) s = (.error e, s') := by
  show (StateT.bind x (ExceptT.bindCont f)) s = (.error e, s')
  unfold StateT.bind
  rw [failed]
  rfl

/-- A session's computation gives what a computation by its library gives, and
stays with it. -/
def follows (l : Library α) : Evaluation.Relation (Evaluating α) (Except EvaluationError) where
  holds x y := ∀ s : Session α, s.library = l → (x s).1 = y ∧ (x s).2.library = l
  pure b := fun s same => ⟨rfl, same⟩
  bind := by
    intro β γ x y f g value rest s same
    obtain ⟨gives, stays⟩ := value s same
    cases done : x s with
    | mk result s' =>
      rw [done] at gives stays
      subst gives
      cases result with
      | ok b =>
        rw [bind_of_ok done]
        exact rest b s' stays
      | error e =>
        rw [bind_of_error done]
        exact ⟨rfl, stays⟩
  throw e := fun s same => ⟨rfl, same⟩

/-- What has been worked out and kept never shows in a value: a session evaluates as its
library does, and stays with its library. -/
theorem evaluate_eq (s : Session α) (e : Expr α) (bar : Nat) :
    (Session.evaluate e bar s).1 = s.library.evaluate e bar ∧
      (Session.evaluate e bar s).2.library = s.library := by
  refine (follows s.library).evaluate (fun q _ t same => ⟨?_, ?_⟩) e (Nat.le_refl bar) s rfl
  · show (t.ask q).1.mapError EvaluationError.library =
      (s.library.answer q).mapError EvaluationError.library
    rw [t.ask_answer, same]
  · show (t.ask q).2.library = s.library
    rw [t.ask_library, same]

end Session

/-! ## An indicator at one bar -/

/-- An indicator evaluated at a bar is what its study says there. -/
theorem Session.evaluate_output {m : Market α} {settings : Settings α} {i : Indicator}
    (valid : i.validate = .ok ()) {o : Output α}
    (here : o ∈ i.studyOver settings.valueAreaShare settings.swingStrength m.candles) (bar : Nat) :
    (Session.evaluate (.indicator i o.property) bar (.new ⟨m, settings⟩)).1 =
      .ok (o.cells.valueAt bar) := by
  have once := i.nodup_outputs
  rw [← i.properties_studyOver settings.valueAreaShare settings.swingStrength m.candles] at once
  have found := Study.lookup_readAt once here bar
  have answered : (Library.mk m settings).answer (.reading i bar) =
      .ok ((i.studyOver settings.valueAreaShare settings.swingStrength m.candles).readAt bar) := by
    show ((i.validate >>= fun _ => _).map _ : Except LibraryError (Reading α)) = _
    rw [valid]
    rfl
  rw [(Session.evaluate_eq _ _ _).1]
  show (((Library.mk m settings).answer (.reading i bar)).mapError EvaluationError.library >>=
    Evaluation.pick i o.property) = _
  rw [answered]
  show Evaluation.pick i o.property (Study.readAt _ bar) = _
  unfold Evaluation.pick Reading.field
  rw [found]
  rfl

end MarketConditions
