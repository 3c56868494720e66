import MarketConditions.Proofs.Expr.Related

/-!
# What is kept never shows

A session keeps what it has worked out, under keys that several questions share: an
exchange by its name in small letters, the swings of rays by a strength that is at least
one, numbers by their identity. Whatever has been asked and evaluated before, and however
often the session went over to another market, its answers are those of a session that
has kept nothing.

- `Use`: the things that can be done with a session, each with the type of its answer.
- `Use.carryOut`, `Use.answer`: the answer of a session that keeps cells, and the answer
  of a library that keeps none.
- `Session.after`, `Market.lastBound`: a session after a sequence of uses, and the
  market it is on.
- `Use.carryOut_spec`, `Session.library_after`: one use, and by induction any
  sequence of them.
- `Session.memo_invisible`: **memoization is invisible**.
-/

namespace MarketConditions

variable {α β : Type}

/-! ## Names of exchanges -/

/-- Small letters stay small. -/
theorem Market.toLower_toLower (c : Char) : c.toLower.toLower = c.toLower := by
  fun_cases Char.toLower c with
  | case1 capital =>
    have past : ¬ c.val + ('a'.val - 'A'.val) ≤ 'Z'.val := by
      have first : 65 ≤ c.val := capital.1
      have last : c.val ≤ 90 := capital.2
      show ¬ c.val + 32 ≤ 90
      grind [UInt32.toNat_add]
    exact dif_neg fun again => past again.2
  | case2 other => exact dif_neg other

/-- A name and its small letters name the same exchange. -/
theorem Market.exchange?_toLower (m : Market α) (name : String) :
    m.exchange? (String.ofList (name.toList.map Char.toLower)) = m.exchange? name := by
  have same : ∀ other : String, Market.sameExchange other
      (String.ofList (name.toList.map Char.toLower)) = Market.sameExchange other name := by
    intro other
    unfold Market.sameExchange
    rw [String.toList_ofList, List.map_map]
    congr 2
    exact funext toLower_toLower
  unfold Market.exchange?
  simp only [same]

/-- So the column kept under the small letters is that of the name as it is written. -/
theorem exchangeDelta_toLower [Scalar α] (m : Market α) (name : String) :
    exchangeDelta m (String.ofList (name.toList.map Char.toLower)) = exchangeDelta m name := by
  unfold exchangeDelta
  rw [m.exchange?_toLower]

/-! ## Uses -/

variable [Scalar α]

/-- Something that is done with a session, of the type of its answer. -/
inductive Use (α : Type) : Type → Type 1 where
  | ask {β : Type} (q : Query α β) : Use α (Except LibraryError β)
  | evaluate (e : Expr α) (bar : Nat) : Use α (Except EvaluationError (Value α))
  | condition (e : Expr α) (bar : Nat) : Use α (Except EvaluationError Bool)
  | number (e : Expr α) (bar : Nat) : Use α (Except EvaluationError α)
  /-- The session goes over to another market. -/
  | bind (m : Market α) : Use α Unit

namespace Use

/-- The answer of a session, and the session with what it keeps then. -/
def carryOut (s : Session α) : Use α β → β × Session α
  | ask q => s.ask q
  | evaluate e bar => Session.evaluate e bar s
  | condition e bar => Session.evaluateCondition e bar s
  | number e bar => Session.evaluateNumber e bar s
  | bind m => ((), s.bind m)

/-- The answer of a library, which works everything out anew. -/
def answer (l : Library α) : Use α β → β
  | ask q => l.answer q
  | evaluate e bar => l.evaluate e bar
  | condition e bar => Evaluation.evaluateCondition l.ask e bar
  | number e bar => Evaluation.evaluateNumber l.ask e bar
  | bind _ => ()

/-- The market that a use goes over to. -/
def market? : Use α β → Option (Market α)
  | bind m => some m
  | _ => none

/-- A session answers as its library does. It stays with its library unless it goes over
to another market. -/
theorem carryOut_spec (s : Session α) (u : Use α β) :
    (u.carryOut s).1 = u.answer s.library ∧
      (u.carryOut s).2.library = ⟨u.market?.getD s.library.market, s.library.settings⟩ := by
  have evaluated : ∀ (e : Expr α) (bar : Nat), (Session.follows s.library).holds
      (Session.evaluate e bar) (s.library.evaluate e bar) := by
    intro e bar t same
    have := t.evaluate_eq e bar
    rwa [same] at this
  cases u with
  | ask q => exact ⟨s.ask_answer q, s.ask_library q⟩
  | evaluate e bar => exact evaluated e bar s rfl
  | condition e bar =>
    refine (Session.follows s.library).bind (evaluated e bar) (fun v => ?_) s rfl
    cases v with
    | bool b => exact (Session.follows s.library).pure b
    | number n => exact (Session.follows s.library).throw _
  | number e bar =>
    refine (Session.follows s.library).bind (evaluated e bar) (fun v => ?_) s rfl
    cases v with
    | bool b => exact (Session.follows s.library).throw _
    | number n => exact (Session.follows s.library).pure n
  | bind m => exact ⟨rfl, rfl⟩

end Use

/-! ## Sequences of uses -/

/-- A session after a sequence of uses. -/
def Session.after (s : Session α) (before : List (Σ β : Type, Use α β)) : Session α :=
  before.foldl (fun s u => (u.2.carryOut s).2) s

omit [Scalar α] in
/-- The market bound last in a sequence of uses, and the given one if none is. -/
def Market.lastBound (m : Market α) (before : List (Σ β : Type, Use α β)) : Market α :=
  (before.filterMap fun u => u.2.market?).getLast?.getD m

/-- A session after a sequence of uses is on the market that was bound last, with the
settings it began with. -/
theorem Session.library_after (s : Session α) (before : List (Σ β : Type, Use α β)) :
    (s.after before).library = ⟨s.library.market.lastBound before, s.library.settings⟩ := by
  unfold Session.after Market.lastBound
  induction before generalizing s with
  | nil => rfl
  | cons u before ih =>
    rw [List.foldl_cons, ih, (u.2.carryOut_spec s).2, List.filterMap_cons]
    cases u.2.market? with
    | none => rfl
    | some m =>
      simp only [Option.getD_some, List.getLast?_cons]

/-- **Memoization is invisible.** After any sequence of questions, evaluations and changes
of the market, every answer, a refusal or failure too, is the one that a session with the
same settings gives that has kept nothing and is on the market bound last; and this is the
one that its library works out anew. What is answered of an exchange is the column of its
name as it is written, though it is kept for all ways to write it. -/
theorem Session.memo_invisible (l : Library α) (before : List (Σ β : Type, Use α β)) :
    let s := (Session.new l).after before
    let fresh : Library α := ⟨l.market.lastBound before, l.settings⟩
    (∀ (β : Type) (u : Use α β),
      (u.carryOut s).1 = (u.carryOut (.new fresh)).1 ∧ (u.carryOut s).1 = u.answer fresh) ∧
    ∀ (name : String) (bar : Nat), ((Use.ask (.exchangeDelta name bar)).carryOut s).1 =
      .ok (Column.orUndefined (exchangeDelta fresh.market name)[bar]?) := by
  intro s fresh
  have library : s.library = fresh := (Session.new l).library_after before
  have answers : ∀ (β : Type) (u : Use α β), (u.carryOut s).1 = u.answer fresh := by
    intro β u
    rw [(u.carryOut_spec s).1, library]
  refine ⟨fun β u => ⟨?_, answers β u⟩, fun name bar => ?_⟩
  · rw [answers, (u.carryOut_spec (.new fresh)).1]
    rfl
  · rw [answers, ← exchangeDelta_toLower]
    show Except.ok (Column.orUndefined (List.toArray _)[bar]?) = _
    rw [List.getElem?_toArray]

end MarketConditions
