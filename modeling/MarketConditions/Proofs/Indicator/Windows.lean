import Mathlib.Data.List.Pairwise
import Mathlib.Data.List.TakeWhile
import MarketConditions.Proofs.Column.Causal
import MarketConditions.Indicator.Extreme

/-!
# Extremes of windows

The queue behind a rolling extreme holds, of the last `p` entries, those that no later one
dominates. Its oldest member therefore dominates the whole window, however many entries
have been dropped at either end.

- `Extreme.windowAt`: the last `p` entries at a bar.
- `Extreme.Dominance`: of two entries one dominates the other, and what dominates a
  dominator dominates.
- `Extreme.Contending`: **what the queue holds**, kept by every entry that joins
  (`Contending.enter`) and so along the column (`contending_stateAfter`).
- `Extreme.getElem?_rolling_early`, `Extreme.getElem?_rolling_full`: a rolling extreme is
  undefined until the window is full, and from then on it is an entry of the window that
  dominates the window.
-/

namespace MarketConditions.Extreme

variable {α : Type}

/-- The last `p` entries up to and including a bar. -/
def windowAt (p bar : Nat) (xs : List α) : List α := (xs.take (bar + 1)).drop (bar + 1 - p)

theorem mem_windowAt {p bar : Nat} {xs : List α} {x : α} :
    x ∈ windowAt p bar xs ↔ ∃ i, xs[i]? = some x ∧ i < bar + 1 ∧ bar + 1 ≤ i + p := by
  unfold windowAt
  rw [Column.mem_drop_take]
  exact exists_congr fun i => and_congr_right fun _ => by omega

theorem mem_of_mem_windowAt {p bar : Nat} {xs : List α} {x : α} (h : x ∈ windowAt p bar xs) :
    x ∈ xs := List.mem_of_mem_take (List.mem_of_mem_drop h)

/-! ## The queue -/

/-- Of two entries one dominates the other, and dominance is handed on. -/
structure Dominance (dominates : α → α → Bool) (xs : List α) : Prop where
  total : ∀ x ∈ xs, ∀ y ∈ xs, dominates x y = true ∨ dominates y x = true
  trans : ∀ x y z, dominates x y = true → dominates y z = true → dominates x z = true

/-- The contenders after `n` entries. They are entries of the window, each dominates
those that came after it, and every entry of the window is dominated by one that did not
come before it. -/
structure Contending (dominates : α → α → Bool) (p : Nat) (xs : List α) (n : Nat)
    (held : Contenders α) : Prop where
  entries : ∀ e ∈ held, xs[e.1]? = some e.2
  recent : ∀ e ∈ held, e.1 < n ∧ n ≤ e.1 + p
  order : held.Pairwise fun newer older =>
    older.1 < newer.1 ∧ dominates older.2 newer.2 = true
  covered : ∀ i x, xs[i]? = some x → i < n → n ≤ i + p →
    ∃ e ∈ held, i ≤ e.1 ∧ dominates e.2 x = true

theorem contending_nil (dominates : α → α → Bool) (p : Nat) (xs : List α) :
    Contending dominates p xs 0 [] where
  entries := fun _ h => nomatch h
  recent := fun _ h => nomatch h
  order := .nil
  covered := fun _ _ _ h => absurd h (Nat.not_lt_zero _)

/-- Where what holds of an entry holds of those before it, the first entries of which it
holds are all of which it holds. -/
theorem mem_takeWhile {β : Type} {q : β → Bool} {l : List β}
    (down : l.Pairwise fun a b => q b = true → q a = true) {e : β} (here : e ∈ l)
    (holds : q e = true) : e ∈ l.takeWhile q := by
  induction down with
  | nil => cases here
  | @cons a l before _ ih =>
    rcases List.mem_cons.mp here with rfl | later
    · rw [List.takeWhile_cons_of_pos holds]
      exact List.mem_cons_self
    · rw [List.takeWhile_cons_of_pos (before e later holds)]
      exact List.mem_cons_of_mem _ (ih later)

section Queue

variable {dominates : α → α → Bool} {p : Nat} {xs : List α} {n : Nat} {held : Contenders α}

/-- The contenders that a new entry does not remove all dominate it. -/
theorem Contending.resist (h : Contending dominates p xs n held) (ranks : Dominance dominates xs)
    {x : α} (here : x ∈ xs) :
    ∀ e ∈ held.dropWhile (fun e => dominates x e.2), dominates e.2 x = true := by
  have suffix := List.dropWhile_suffix (fun e : Nat × α => dominates x e.2) (l := held)
  cases left : held.dropWhile fun e => dominates x e.2 with
  | nil => exact fun _ h => nomatch h
  | cons newest rest =>
    rw [left] at suffix
    have inside : newest.2 ∈ xs :=
      List.mem_of_getElem? (h.entries newest (suffix.mem List.mem_cons_self))
    have stays : ¬ dominates x newest.2 = true := by
      have := List.head?_dropWhile_not (fun e : Nat × α => dominates x e.2) held
      rw [left] at this
      simpa using this
    have first : dominates newest.2 x = true :=
      (ranks.total _ inside x here).resolve_right stays
    have behind := (List.pairwise_cons.mp (h.order.sublist suffix.sublist)).1
    rw [List.forall_mem_cons]
    exact ⟨first, fun e he => ranks.trans _ _ _ (behind e he).2 first⟩

/-- An entry joins contenders that were there, and none of them is too old. -/
theorem of_mem_enter {i : Nat} {x : α} {e : Nat × α} (here : e ∈ enter dominates p held i x) :
    (e = (i, x) ∨ e ∈ held) ∧ i < e.1 + p := by
  constructor
  · refine (List.mem_cons.mp ((List.takeWhile_sublist _).mem here)).imp_right ?_
    exact (List.dropWhile_suffix _).mem
  · exact of_decide_eq_true
      (List.mem_takeWhile_imp (p := fun e : Nat × α => decide (i < e.1 + p)) here)

/-- **One entry.** The queue holds what it should when an entry has joined. -/
theorem Contending.enter (h : Contending dominates p xs n held) (ranks : Dominance dominates xs)
    (positive : 1 ≤ p) {x : α} (here : xs[n]? = some x) :
    Contending dominates p xs (n + 1) (enter dominates p held n x) := by
  have joins : x ∈ xs := List.mem_of_getElem? here
  have suffix := List.dropWhile_suffix (fun e : Nat × α => dominates x e.2) (l := held)
  have order : ((n, x) :: held.dropWhile fun e => dominates x e.2).Pairwise fun newer older =>
      older.1 < newer.1 ∧ dominates older.2 newer.2 = true := by
    refine List.pairwise_cons.mpr ⟨fun e he => ?_, h.order.sublist suffix.sublist⟩
    exact ⟨(h.recent e (suffix.mem he)).1, h.resist ranks joins e he⟩
  -- what drops out at the old end is older than what does not
  have kept : ∀ e ∈ (n, x) :: held.dropWhile (fun e => dominates x e.2), n < e.1 + p →
      e ∈ Extreme.enter dominates p held n x := by
    intro e he young
    refine mem_takeWhile (order.imp fun older young => ?_) he (decide_eq_true young)
    rw [decide_eq_true_iff] at young ⊢
    omega
  refine ⟨fun e he => ?_, fun e he => ?_, order.sublist (List.takeWhile_sublist _),
    fun i y hy new old => ?_⟩
  · rcases (of_mem_enter he).1 with rfl | earlier
    · exact here
    · exact h.entries e earlier
  · obtain ⟨rfl | earlier, young⟩ := of_mem_enter he
    · exact ⟨Nat.lt_succ_self n, young⟩
    · exact ⟨Nat.lt_succ_of_lt (h.recent e earlier).1, young⟩
  · have newest := kept (n, x) List.mem_cons_self (by omega)
    rcases Nat.lt_succ_iff_lt_or_eq.mp new with before | rfl
    · obtain ⟨e, he, later, dominated⟩ := h.covered i y hy before (by omega)
      rw [← List.takeWhile_append_dropWhile (p := fun e => dominates x e.2) (l := held),
        List.mem_append] at he
      rcases he with removed | stays
      · have beaten : dominates x e.2 = true :=
          List.mem_takeWhile_imp (p := fun e : Nat × α => dominates x e.2) removed
        exact ⟨(n, x), newest, Nat.le_of_lt before, ranks.trans _ _ _ beaten dominated⟩
      · exact ⟨e, kept e (List.mem_cons_of_mem _ stays) (by omega), later, dominated⟩
    · cases here.symm.trans hy
      exact ⟨(i, x), newest, Nat.le_refl i, (ranks.total x joins x joins).elim id id⟩

/-- The oldest contender dominates the window. -/
theorem Contending.oldest (h : Contending dominates p xs n held) (ranks : Dominance dominates xs)
    {i : Nat} {x : α} (here : xs[i]? = some x) (before : i < n) (young : n ≤ i + p) :
    ∃ e ∈ held, held.getLast? = some e ∧
      ∀ j y, xs[j]? = some y → j < n → n ≤ j + p → dominates e.2 y = true := by
  obtain ⟨_, present, -⟩ := h.covered i x here before young
  have ends : held ≠ [] := List.ne_nil_of_mem present
  have last := List.getLast_mem ends
  have inside := List.mem_of_getElem? (h.entries _ last)
  refine ⟨_, last, List.getLast?_eq_some_getLast ends, fun j y hy hj young => ?_⟩
  obtain ⟨e, he, -, dominated⟩ := h.covered j y hy hj young
  refine ranks.trans _ _ _ ?_ dominated
  exact (h.order.imp And.right).rel_getLast_of_rel_getLast_getLast he
    ((ranks.total _ inside _ inside).elim id id)

/-- **Along the column.** The queue holds what it should after any number of entries. -/
theorem contending_stateAfter [Scalar α] (ranks : Dominance dominates xs) (positive : 1 ≤ p)
    (fits : n ≤ xs.length) : Contending dominates p xs n
      (Column.stateAfter (extremeStep dominates p) [] ((Column.numbered xs).take n)) := by
  refine Column.stateAfter_induction (contending_nil dominates p xs) ?_
    (by rwa [Column.length_numbered])
  rintro n held ⟨i, x⟩ next h
  rw [Column.getElem?_numbered] at next
  obtain ⟨y, here, same⟩ := Option.map_eq_some_iff.mp next
  cases same
  exact h.enter ranks positive here

end Queue

/-! ## Rolling extremes -/

variable [Scalar α] {dominates : α → α → Bool} {p bar : Nat} {xs : List α}

theorem getElem?_rolling (positive : 1 ≤ p) : (rolling dominates p xs)[bar]? =
    xs[bar]?.map fun x => (extremeStep dominates p (Column.stateAfter (extremeStep dominates p) []
      ((Column.numbered xs).take bar)) (bar, x)).2 := by
  unfold rolling
  rw [if_neg (by omega), Column.getElem?_running, Column.getElem?_numbered, Option.map_map]
  rfl

/-- No extreme of a window that is not full. -/
theorem getElem?_rolling_early (positive : 1 ≤ p) (inside : bar < xs.length) (early : bar + 1 < p) :
    (rolling dominates p xs)[bar]? = some Scalar.undefined := by
  rw [getElem?_rolling positive, List.getElem?_eq_getElem inside]
  show some (if bar + 1 ≥ p then _ else _) = _
  rw [if_neg (by omega)]

/-- The extreme of a full window is the oldest contender. -/
theorem getElem?_rolling_oldest (positive : 1 ≤ p) {x : α} (here : xs[bar]? = some x)
    (full : p ≤ bar + 1) {e : Nat × α}
    (oldest : (enter dominates p (Column.stateAfter (extremeStep dominates p) []
      ((Column.numbered xs).take bar)) bar x).getLast? = some e) :
    (rolling dominates p xs)[bar]? = some e.2 := by
  rw [getElem?_rolling positive, here]
  show some (if bar + 1 ≥ p then _ else _) = _
  rw [if_pos full]
  show some (Column.orUndefined ((enter dominates p _ bar x).getLast?.map Prod.snd)) = _
  rw [oldest]
  rfl

/-- The extreme of a full window is an entry of it that dominates all of it. -/
theorem getElem?_rolling_full (ranks : Dominance dominates xs) (positive : 1 ≤ p)
    (inside : bar < xs.length) (full : p ≤ bar + 1) :
    ∃ x, (rolling dominates p xs)[bar]? = some x ∧ x ∈ windowAt p bar xs ∧
      ∀ y ∈ windowAt p bar xs, dominates x y = true := by
  have here : xs[bar]? = some xs[bar] := List.getElem?_eq_getElem inside
  have held := (contending_stateAfter ranks positive (Nat.le_of_lt inside)).enter
    ranks positive here
  obtain ⟨e, present, last, dominated⟩ :=
    held.oldest ranks here (Nat.lt_succ_self bar) (by omega)
  refine ⟨e.2, getElem?_rolling_oldest positive here full last, ?_, fun y hy => ?_⟩
  · exact mem_windowAt.mpr ⟨e.1, held.entries e present, held.recent e present⟩
  · obtain ⟨j, hj, low, high⟩ := mem_windowAt.mp hy
    exact dominated j y hj low high

end MarketConditions.Extreme
