import Mathlib.Data.Finset.Card
import Mathlib.Data.List.DropRight
import MarketConditions.Proofs.Expr.Calls
import MarketConditions.Proofs.Library.Memo

/-!
# What is worked out, and how often

A session works out what its questions demand, each entry once. What a question demands
is a table: the study of an indicator and the swings that it is made from, a column of
its own, or one of the things that are there once. So the number of entries worked out is
the number of different entries demanded, by all that was asked since the market was
bound and not refused.

- `Indicator.demand`, `Query.demand`: the table; `Library.demanded`: what calls demand.
- `Session.entries`: the entries that a session keeps.
- `Session.ask_entries`: **a question adds what it demands**, by `Session.fetch_entries`.
- `Session.Accounted`: what is kept is what was demanded, each entry once; it is
  kept by every use.
- `Use.calls`, `Session.callsSinceBind`: what was asked.
- `Session.accounts_balance`: **everything demanded is worked out once, and nothing else**.
-/

namespace MarketConditions

variable {α β : Type} [Scalar α]

/-! ## Demands -/

/-- What a study demands: itself and the swings that it is made from. Rays are made from
those of one configured strength, at least 1. -/
def Indicator.demand (configured : Nat) (i : Indicator) : List (Entry α) :=
  match i with
  | swingHigh s | swingLow s => [.study i, .swings s]
  | resistanceRay .. | supportRay .. => [.study i, .swings (max configured 1)]
  | _ => [.study i]

omit [Scalar α] in
theorem Indicator.demand_eq (configured : Nat) (i : Indicator) : i.demand (α := α) configured =
    .study i :: (i.swingStrength configured).toList.map .swings := by
  cases i <;> rfl

/-- What a question demands. Arguments that are not given are those of the settings, and
an exchange is demanded by its name in small letters. -/
def Query.demand (settings : Settings α) : Query α β → List (Entry α)
  | .price .. | .time .. | .timeField .. | .moonField .. => []
  | .series i | .reading i _ => i.demand settings.swingStrength
  | .swingPoints s => [.swings s]
  | .range (.highOf p) _ => [.derived (.highOf p)]
  | .range (.lowOf p) _ => [.derived (.lowOf p)]
  | .range (.rangePosition p skip) _ => [.derived (.rangePosition p skip)]
  | .orderFlow .fundingRate _ => [.derived .funding]
  | .orderFlow .delta _ | .orderFlow .cvd _ | .orderFlow .buyVolume _ | .orderFlow .sellVolume _
  | .orderFlow .tradeCount _ => [.orderFlow]
  | .footprintLevel .. | .imbalance .. => [.footprints]
  | .absorption ratio percent _ =>
    [.derived (.absorption (ratio.getD settings.absorptionVolumeRatio)
      (percent.getD settings.absorptionMovePercent))]
  | .exchangeDelta name _ =>
    [.derived (.exchangeDelta (String.ofList (name.toList.map Char.toLower)))]
  | .combinedDelta _ => [.derived .combinedDelta]
  | .divergence threshold _ =>
      [.derived (.divergence (threshold.getD settings.divergenceThreshold))]

/-- The indicator that a question reads. -/
def Query.indicator? : Query α β → Option Indicator
  | .series i | .reading i _ => some i
  | _ => none

/-- What calls demand that are not refused. -/
def Library.demanded (l : Library α) (calls : List (Call α)) : List (Entry α) :=
  (calls.filter l.accepts).flatMap (·.2.demand l.settings)

theorem Library.demanded_append (l : Library α) (calls more : List (Call α)) :
    l.demanded (calls ++ more) = l.demanded calls ++ l.demanded more := by
  simp [demanded]

theorem Library.demanded_single (l : Library α) (c : Call α) :
    l.demanded [c] = if l.accepts c then c.2.demand l.settings else [] := by
  unfold demanded
  split <;> rename_i accepts <;> simp [accepts]

/-- What an entry is worked out from, itself included. -/
def Entry.sources (settings : Settings α) : Entry α → List (Entry α)
  | .study i => i.demand settings.swingStrength
  | e => [e]

omit [Scalar α] in
/-- What follows a check that was passed. -/
theorem LibraryError.passed {γ : Type} {x : Except LibraryError β} {f : β → Except LibraryError γ}
    {c : γ} (done : x >>= f = .ok c) : ∃ b, f b = .ok c := by
  cases x with
  | error e => cases done
  | ok b => exact ⟨b, done⟩

/-- A question that is answered demands what the entry that it reads is worked out from. -/
theorem Library.demand_of_plan {l : Library α} {q : Query α β} {plan : Plan α β}
    (planned : l.plan q = .ok plan) : q.demand l.settings =
      match plan with
      | .now _ => []
      | .read e _ => e.sources l.settings := by
  cases q with
  | price | time | timeField | moonField | footprintLevel | exchangeDelta | combinedDelta =>
    cases planned
    rfl
  | series | reading | swingPoints | imbalance | divergence =>
    obtain ⟨-, planned⟩ := LibraryError.passed planned
    cases planned
    rfl
  | absorption ratio percent bar =>
    obtain ⟨-, planned⟩ := LibraryError.passed planned
    obtain ⟨-, planned⟩ := LibraryError.passed planned
    cases planned
    rfl
  | range function bar =>
    cases function <;>
      obtain ⟨-, planned⟩ := LibraryError.passed planned <;>
      cases planned <;> rfl
  | orderFlow field bar => cases field <;> cases planned <;> rfl

omit [Scalar α] in
/-- A study is demanded by the questions that read its indicator. -/
theorem Query.study_mem_demand {settings : Settings α} {q : Query α β} {i : Indicator} :
    .study i ∈ q.demand settings ↔ q.indicator? = some i := by
  have own : ∀ j : Indicator, .study i ∈ j.demand (α := α) settings.swingStrength ↔ j = i := by
    intro j
    cases j <;> simp [Indicator.demand, eq_comm]
  cases q with
  | series j | reading j => simp [demand, indicator?, own]
  | range function => cases function <;> simp [demand, indicator?]
  | orderFlow field => cases field <;> simp [demand, indicator?]
  | _ => simp [demand, indicator?]

/-- Demands are met in full: what a demanded study is made from is demanded with it. -/
def Demanding (settings : Settings α) (entries : List (Entry α)) : Prop :=
  ∀ i : Indicator, .study i ∈ entries → ∀ e ∈ i.demand settings.swingStrength, e ∈ entries

/-! ## What a question adds -/

namespace Session

variable {l : Library α}

/-- The entries of kept cells. -/
def entriesOf (cells : List (Cell l)) : List (Entry α) := cells.map Cell.entry

/-- The entries that a session keeps. -/
def entries (s : Session α) : List (Entry α) := entriesOf s.cells

/-- A cell is kept of an entry exactly if the entry is among those kept. -/
theorem kept?_eq_none_iff {cells : List (Cell l)} {e : Entry α} :
    kept? cells e = none ↔ e ∉ entriesOf cells := by
  unfold kept? entriesOf
  simp [List.findSome?_eq_none_iff, Cell.as?]

/-- An entry that is kept is not worked out again. -/
theorem keep_of_mem {cells : List (Cell l)} {e : Entry α} (here : e ∈ entriesOf cells)
    (work : List (Cell l) → Sound l e × List (Cell l)) : (keep cells e work).2 = cells := by
  unfold keep
  cases found : kept? cells e with
  | none => exact absurd here (kept?_eq_none_iff.mp found)
  | some c => rfl

/-- An entry that is not kept is worked out, and kept. -/
theorem keep_of_not_mem {cells : List (Cell l)} {e : Entry α} (missing : e ∉ entriesOf cells)
    (work : List (Cell l) → Sound l e × List (Cell l)) :
    entriesOf (keep cells e work).2 = e :: entriesOf (work cells).2 := by
  unfold keep
  rw [kept?_eq_none_iff.mpr missing]
  rfl

theorem fetchPlain_entries (cells : List (Cell l)) (e : Entry α) :
    entriesOf (fetchPlain cells e).2 = [e] ∪ entriesOf cells := by
  show _ = List.insert e (entriesOf cells)
  unfold fetchPlain
  by_cases here : e ∈ entriesOf cells
  · rw [keep_of_mem here, List.insert_of_mem here]
  · rw [keep_of_not_mem here, List.insert_of_not_mem here]

theorem fetchSwings_entries (cells : List (Cell l)) (i : Indicator) :
    entriesOf (fetchSwings cells i).2 =
      (i.swingStrength l.settings.swingStrength).toList.map .swings ∪ entriesOf cells := by
  generalize needed : ((i.swingStrength l.settings.swingStrength).toList.map .swings :
    List (Entry α)) = swings
  unfold fetchSwings
  split
  · rename_i none
    rw [none] at needed
    subst needed
    rfl
  · rename_i strength some
    rw [some] at needed
    subst needed
    exact fetchPlain_entries cells (.swings strength)

/-- A study that is kept is kept with its swings; otherwise they are worked out first. -/
theorem fetchStudy_entries {cells : List (Cell l)} (closed : Demanding l.settings (entriesOf cells))
    (i : Indicator) : entriesOf (fetchStudy cells i).2 =
      i.demand l.settings.swingStrength ∪ entriesOf cells := by
  unfold fetchStudy
  by_cases here : .study i ∈ entriesOf cells
  · -- nothing is added, since demands have been met in full
    rw [keep_of_mem here]
    exact (List.Subset.union_eq_right (closed i here)).symm
  · rw [keep_of_not_mem here, i.demand_eq, List.cons_union]
    show _ :: entriesOf (fetchSwings cells i).2 = _
    rw [fetchSwings_entries, List.insert_of_not_mem]
    simpa using here

/-- **Fetching an entry** adds what it is worked out from, as far as that is not kept. -/
theorem fetch_entries {cells : List (Cell l)} (closed : Demanding l.settings (entriesOf cells))
    (e : Entry α) : entriesOf (fetch cells e).2 = e.sources l.settings ∪ entriesOf cells := by
  cases e with
  | study i => exact fetchStudy_entries closed i
  | derived | swings | orderFlow | footprints => exact fetchPlain_entries cells _

/-- **A question adds what it demands**, if it is not refused. -/
theorem ask_entries {s : Session α} (closed : Demanding s.library.settings s.entries)
    (q : Query α β) : (s.ask q).2.entries = s.library.demanded [⟨β, q⟩] ∪ s.entries := by
  rw [Library.demanded_single]
  unfold ask Library.accepts Library.answer
  cases planned : s.library.plan q with
  | error e => rfl
  | ok plan =>
    show _ = q.demand s.library.settings ∪ s.entries
    rw [Library.demand_of_plan planned]
    cases plan with
    | now a => rfl
    | read e use => exact fetch_entries closed e

/-! ## What is kept after questions -/

/-- What calls demand, they demand in full. -/
theorem demanding_demanded (l : Library α) (calls : List (Call α)) :
    Demanding l.settings (l.demanded calls) := by
  intro i here e source
  obtain ⟨c, made, demands⟩ := List.mem_flatMap.mp here
  refine List.mem_flatMap.mpr ⟨c, made, ?_⟩
  have reads := Query.study_mem_demand.mp demands
  obtain ⟨γ, q⟩ := c
  cases q with
  | series j | reading j =>
    cases reads
    exact source
  | _ => cases reads

/-- What is kept is what was demanded, each entry once. -/
structure Accounted (s : Session α) (demanded : List (Entry α)) : Prop where
  once : s.entries.Nodup
  mem_iff : ∀ e, e ∈ s.entries ↔ e ∈ demanded

theorem accounted_new (l : Library α) : (new l).Accounted [] :=
  ⟨.nil, fun _ => Iff.rfl⟩

variable {s : Session α} {calls : List (Call α)}

/-- One more question. -/
theorem Accounted.ask (kept : s.Accounted (s.library.demanded calls)) (q : Query α β) :
    (s.ask q).2.Accounted (s.library.demanded (calls ++ [⟨β, q⟩])) := by
  have closed : Demanding s.library.settings s.entries := by
    intro i here e source
    rw [kept.mem_iff] at here ⊢
    exact demanding_demanded s.library calls i here e source
  have added := ask_entries closed q
  constructor
  · rw [added]
    exact kept.once.union _
  · intro e
    rw [added, List.mem_union_iff, kept.mem_iff, Library.demanded_append, List.mem_append, or_comm]

/-- Any number of questions. -/
theorem Accounted.asked (kept : s.Accounted (s.library.demanded calls)) (more : List (Call α)) :
    (s.asked more).Accounted (s.library.demanded (calls ++ more)) := by
  induction more generalizing s calls with
  | nil => rwa [List.append_nil]
  | cons c more ih =>
    have next := kept.ask c.2
    rw [← s.ask_library c.2] at next
    have all := ih next
    rwa [List.append_assoc, ask_library] at all

end Session

/-! ## What is kept after uses -/

/-- The questions that a use puts to a library. -/
def Use.calls (l : Library α) : Use α β → List (Call α)
  | ask q => [⟨_, q⟩]
  | evaluate e bar | condition e bar | number e bar => l.calls e bar
  | bind _ => []

/-- The questions put to a library since it was gone over to another market last. -/
def Library.callsSinceBind (l : Library α) (uses : List (Σ β : Type, Use α β)) : List (Call α) :=
  (uses.rtakeWhile fun u => u.2.market?.isNone).flatMap fun u => u.2.calls l

omit [Scalar α] in
theorem Market.lastBound_concat (m : Market α) (uses : List (Σ β : Type, Use α β))
    (u : Σ β : Type, Use α β) :
    m.lastBound (uses ++ [u]) = u.2.market?.getD (m.lastBound uses) := by
  unfold lastBound
  cases bound : u.2.market? <;> simp [List.filterMap_append, bound]

theorem Library.callsSinceBind_concat (l : Library α) (uses : List (Σ β : Type, Use α β))
    (u : Σ β : Type, Use α β) : l.callsSinceBind (uses ++ [u]) =
      if u.2.market?.isNone then l.callsSinceBind uses ++ u.2.calls l else [] := by
  unfold callsSinceBind
  rw [List.rtakeWhile_concat]
  split <;> simp

/-- A use that stays on the market leaves the session as its questions do. -/
theorem Use.carryOut_calls (s : Session α) (u : Use α β) (stays : u.market? = none) :
    (u.carryOut s).2 = s.asked (u.calls s.library) := by
  cases u with
  | ask q => rfl
  | evaluate e bar => exact congrArg Prod.snd ((Session.evaluate_makes s.library e bar).runs s rfl)
  | condition e bar =>
    have made := (Session.evaluate_makes s.library e bar).finish (.expectBool "condition")
    exact congrArg Prod.snd (made.runs s rfl)
  | number e bar =>
    have made := (Session.evaluate_makes s.library e bar).finish
      (.expectNumber "numeric expression")
    exact congrArg Prod.snd (made.runs s rfl)
  | bind m => cases stays

/-- A use that goes over to another market leaves nothing kept. -/
theorem Use.carryOut_market (s : Session α) {u : Use α β} {m : Market α}
    (goes : u.market? = some m) : (u.carryOut s).2 = .new ⟨m, s.library.settings⟩ := by
  cases u with
  | bind other =>
    cases goes
    rfl
  | _ => cases goes

namespace Session

/-- What a session keeps after uses is what was demanded since the market was bound. The
induction is on the last use: a market that is bound begins the account anew, all else
adds to it. -/
theorem accounted_after (l : Library α) (uses : List (Σ β : Type, Use α β)) :
    let fresh : Library α := ⟨l.market.lastBound uses, l.settings⟩
    ((new l).after uses).Accounted (fresh.demanded (fresh.callsSinceBind uses)) := by
  induction uses using List.reverseRecOn with
  | nil => exact accounted_new l
  | append_singleton uses u ih =>
    have library : ((new l).after uses).library = ⟨l.market.lastBound uses, l.settings⟩ :=
      (new l).library_after uses
    have last : (new l).after (uses ++ [u]) = (u.2.carryOut ((new l).after uses)).2 := by
      simp [after]
    simp only [last, Market.lastBound_concat, Library.callsSinceBind_concat]
    cases bound : u.2.market? with
    | none =>
      rw [u.2.carryOut_calls _ bound]
      simp only [← library] at ih
      simp only [Option.getD_none, Option.isNone_none, if_true, ← library]
      exact ih.asked _
    | some m =>
      rw [u.2.carryOut_market _ bound, library]
      exact accounted_new _

/-- The number of entries kept is that of the different entries demanded. -/
theorem Accounted.materialized_eq {s : Session α} {demanded : List (Entry α)}
    (kept : s.Accounted demanded) : s.materialized = demanded.toFinset.card := by
  have same : s.entries.toFinset = demanded.toFinset :=
    Finset.ext fun e => by rw [List.mem_toFinset, List.mem_toFinset, kept.mem_iff]
  rw [← same, List.toFinset_card_of_nodup kept.once]
  exact (List.length_map _).symm

/-- A study is kept exactly if its indicator was read. -/
theorem Accounted.isMaterialized_iff {l : Library α} {s : Session α} {calls : List (Call α)}
    (kept : s.Accounted (l.demanded calls)) (i : Indicator) : s.isMaterialized i = true ↔
      ∃ c ∈ calls, l.accepts c ∧ c.2.indicator? = some i := by
  have here : s.isMaterialized i = true ↔ .study i ∈ s.entries := by
    simp [isMaterialized, entries, entriesOf]
  rw [here, kept.mem_iff]
  simp [Library.demanded, Query.study_mem_demand, and_assoc]

/-! ## The balance -/

/-- A refusal leaves nothing behind. -/
theorem ask_refused {s : Session α} {q : Query α β} {cause : LibraryError}
    (refused : (s.ask q).1 = .error cause) : (s.ask q).2 = s :=
  ask_of_error ((s.ask_answer q).symm.trans refused)

/-- An evaluation leaves the session as those of its questions do that are accepted; one
that is refused ends it. -/
theorem evaluate_leaves (s : Session α) (e : Expr α) (bar : Nat) :
    ∃ earlier refused, s.library.calls e bar = earlier ++ refused ∧
      (∀ c ∈ earlier, s.library.accepts c) ∧ (Session.evaluate e bar s).2 = s.asked earlier ∧
      (refused = [] ∨ ∃ c cause, refused = [c] ∧ s.library.answer c.2 = .error cause ∧
        (Session.evaluate e bar s).1 = .error (.library cause)) := by
  have made := evaluate_makes s.library e bar
  have run := made.runs s rfl
  rcases made.accepted with all | ⟨earlier, c, cause, split, all, refused, result⟩
  · exact ⟨_, [], (List.append_nil _).symm, all, congrArg Prod.snd run, .inl rfl⟩
  · -- the last question is refused, and leaves nothing behind
    refine ⟨earlier, [c], split, all, ?_, .inr ⟨c, cause, rfl, refused, ?_⟩⟩
    · rw [run, split, asked_append]
      exact ask_of_error ((library_asked s earlier).symm ▸ refused)
    · rw [run, result]

/-- A connective that its left side decides leaves the session as the left side does. -/
theorem evaluate_decided (s : Session α) (op : Connective) (left right : Expr α) (bar : Nat)
    (decided : (Session.evaluate left bar s).1 = .ok (.bool !op.neutral)) :
    (Session.evaluate (.logical op left right) bar s).2 = (Session.evaluate left bar s).2 := by
  have side := (evaluate_makes s.library left bar).runs s rfl
  have whole := (evaluate_makes s.library (.logical op left right) bar).runs s rfl
  rw [side] at decided ⊢
  rw [whole, s.library.calls_decided decided]

/-- **Everything demanded is worked out once, and nothing else.** Whatever was done with a
session, let `calls` be what was asked of it since the market was bound, by evaluations
too. Then the entries worked out are as many as the different ones demanded by the calls
that were not refused, and a study is among them exactly if its indicator was read by one
of these. A refusal changes nothing. An evaluation that fails keeps what its earlier
questions demanded, and a connective decided by its left side keeps what that demanded. -/
theorem accounts_balance (l : Library α) (uses : List (Σ β : Type, Use α β)) :
    let s := (new l).after uses
    let fresh : Library α := ⟨l.market.lastBound uses, l.settings⟩
    let calls := fresh.callsSinceBind uses
    s.materialized = (fresh.demanded calls).toFinset.card ∧
    (∀ i : Indicator, s.isMaterialized i = true ↔
      ∃ c ∈ calls, fresh.accepts c ∧ c.2.indicator? = some i) ∧
    (∀ (β : Type) (q : Query α β) (cause : LibraryError),
      (s.ask q).1 = .error cause → (s.ask q).2 = s) ∧
    (∀ (e : Expr α) (bar : Nat), ∃ earlier refused, fresh.calls e bar = earlier ++ refused ∧
      (∀ c ∈ earlier, fresh.accepts c) ∧ (Session.evaluate e bar s).2 = s.asked earlier ∧
      (refused = [] ∨ ∃ c cause, refused = [c] ∧ fresh.answer c.2 = .error cause ∧
        (Session.evaluate e bar s).1 = .error (.library cause))) ∧
    ∀ (left right : Expr α) (bar : Nat),
      ((Session.evaluate left bar s).1 = .ok (.bool false) →
        (Session.evaluate (.logical .and left right) bar s).2 = (Session.evaluate left bar s).2) ∧
      ((Session.evaluate left bar s).1 = .ok (.bool true) →
        (Session.evaluate (.logical .or left right) bar s).2 =
          (Session.evaluate left bar s).2) := by
  intro s fresh calls
  have kept : s.Accounted (fresh.demanded calls) := accounted_after l uses
  have library : s.library = fresh := (new l).library_after uses
  refine ⟨kept.materialized_eq, kept.isMaterialized_iff, ?_, ?_, ?_⟩
  · intro β q cause refused
    exact ask_refused refused
  · intro e bar
    rw [← library]
    exact s.evaluate_leaves e bar
  · intro left right bar
    constructor
    · exact s.evaluate_decided .and left right bar
    · exact s.evaluate_decided .or left right bar

end Session

end MarketConditions
