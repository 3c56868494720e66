import MarketConditions.Proofs.Indicator.Extremes
import MarketConditions.Proofs.Market.Cut

/-!
# Extremes where data is missing

An undefined number neither dominates nor is dominated. In the queue behind a rolling
extreme it stays until it is too old, and it keeps those before it from being removed
by those after it. So what the queue finds is the extreme of the entries up to the
first gap. A level over all bars so far passes over gaps, and is infinite as long as
there is nothing else.

- `Column.untilGap`: the entries before the first undefined one.
- `Extreme.Led`: **what the queue holds of a window**, kept by every entry that joins
  (`Led.enter`); what it holds of earlier entries is left behind (`enter_append`).
- `Extreme.Leads`, `Extreme.getElem?_rolling_leads`: **a rolling extreme with gaps**.
- `Extreme.Choice`, `Extreme.Choice.level_foldl`: **the extreme of all entries so far**.
- `Extreme.levels_with_gaps`: **levels where data is missing**.
-/

namespace MarketConditions

variable {α : Type} [Scalar α]

/-! ## Entries up to a gap -/

/-- The entries before the first undefined one. -/
def Column.untilGap (xs : List α) : List α := xs.takeWhile fun x => !Scalar.isUndefined x

namespace Column

variable {xs : List α} {x : α}

theorem untilGap_eq_self (defined : Defined xs) : untilGap xs = xs := by
  refine List.takeWhile_eq_self_iff.mpr fun x hx => ?_
  rw [defined x hx]
  rfl

/-- One more defined entry behind defined ones. -/
theorem untilGap_concat (defined : Defined xs) (hx : Scalar.isUndefined x = false) :
    untilGap (xs ++ [x]) = xs ++ [x] := by
  refine untilGap_eq_self fun y hy => ?_
  rcases List.mem_append.mp hy with hy | hy
  · exact defined y hy
  · rwa [List.mem_singleton.mp hy]

/-- Behind a gap nothing is added, and neither is a gap. -/
theorem untilGap_concat_of_gap (gap : ¬ (Defined xs ∧ Scalar.isUndefined x = false)) :
    untilGap (xs ++ [x]) = untilGap xs := by
  unfold untilGap
  induction xs with
  | nil =>
    have undefined : Scalar.isUndefined x = true := by
      rw [← Bool.not_eq_false]
      exact fun hx => gap ⟨nofun, hx⟩
    simp [undefined]
  | cons y xs ih =>
    rw [List.cons_append, List.takeWhile_cons, List.takeWhile_cons]
    cases hy : Scalar.isUndefined y with
    | true => rfl
    | false =>
      have later : ¬ (Defined xs ∧ Scalar.isUndefined x = false) := fun ⟨all, hx⟩ =>
        gap ⟨List.forall_mem_cons.mpr ⟨hy, all⟩, hx⟩
      simp [ih later]

end Column

namespace Extreme

open Column (untilGap)

/-- An entry that dominates all entries before the first gap, if the first entry
is not one. -/
structure Leads (dominates : α → α → Bool) (seen : List α) (x : α) : Prop where
  gap : untilGap seen = [] → Scalar.isUndefined x = true
  leads : untilGap seen ≠ [] → x ∈ untilGap seen ∧ ∀ y ∈ untilGap seen, dominates x y = true

/-! ## The queue of a window -/

/-- What the queue holds after some entries of a window. The oldest contender leads them,
and a gap among them is still there. -/
structure Led (dominates : α → α → Bool) (seen : List α) (held : Contenders α) : Prop where
  entries : ∀ e ∈ held, e.2 ∈ seen
  nonempty : seen ≠ [] → held ≠ []
  oldest : ∀ e ∈ held.getLast?, Leads dominates seen e.2
  gaps : ∀ y ∈ seen, Scalar.isUndefined y = true → ∃ e ∈ held, Scalar.isUndefined e.2 = true

theorem led_nil (dominates : α → α → Bool) : Led dominates [] [] where
  entries := nofun
  nonempty := fun some => absurd rfl some
  oldest := nofun
  gaps := nofun

section Queue

variable {dominates : α → α → Bool} {p i : Nat} {x : α} {seen : List α}
  {held newer older : Contenders α}

omit [Scalar α] in
/-- While no contender is too old, an entry joins those that it does not remove. -/
theorem enter_of_young (positive : 1 ≤ p) (young : ∀ e ∈ held, i < e.1 + p) :
    enter dominates p held i x = (i, x) :: held.dropWhile fun e => dominates x e.2 := by
  refine List.takeWhile_eq_self_iff.mpr fun e he => decide_eq_true ?_
  rcases List.mem_cons.mp he with rfl | kept
  · exact Nat.lt_add_of_pos_right positive
  · exact young e ((List.dropWhile_suffix _).mem kept)

omit [Scalar α] in
/-- **Earlier contenders are left behind.** What an entry does to the newer contenders
does not depend on the older ones behind them. -/
theorem enter_append (positive : 1 ≤ p) (young : ∀ e ∈ newer, i < e.1 + p) :
    ∃ left, enter dominates p (newer ++ older) i x = enter dominates p newer i x ++ left ∧
      ∀ e ∈ left, e ∈ older := by
  have alone : enter dominates p newer i x = _ := enter_of_young positive young
  have here : ∀ e ∈ (i, x) :: newer.dropWhile fun e => dominates x e.2,
      decide (i < e.1 + p) = true := by
    rw [← alone]
    exact fun e he => List.mem_takeWhile_imp (p := fun e : Nat × α => decide (i < e.1 + p)) he
  rw [alone]
  unfold enter
  rw [List.dropWhile_append]
  split
  case isTrue none =>
    rw [List.isEmpty_iff] at none
    rw [none] at here ⊢
    refine ⟨(older.dropWhile fun e => dominates x e.2).takeWhile fun e => decide (i < e.1 + p),
      List.takeWhile_append_of_pos here, fun e he => ?_⟩
    exact (List.dropWhile_suffix _).mem ((List.takeWhile_sublist _).mem he)
  case isFalse =>
    refine ⟨older.takeWhile fun e => decide (i < e.1 + p), ?_,
      fun e he => (List.takeWhile_sublist _).mem he⟩
    rw [← List.cons_append]
    exact List.takeWhile_append_of_pos here

/-- What a new entry does not dominate it does not remove. -/
theorem mem_dropWhile_of_not {β : Type} {q : β → Bool} {l : List β} {e : β} (here : e ∈ l)
    (fails : q e = false) : e ∈ l.dropWhile q := by
  rw [← List.takeWhile_append_dropWhile (p := q) (l := l), List.mem_append] at here
  refine here.resolve_left fun removed => ?_
  rw [List.mem_takeWhile_imp removed] at fails
  cases fails

/-- An entry that removes all others leads. -/
theorem Led.leads_of_removed (h : Led dominates seen held) (ranks : Ranks dominates)
    (removed : ∀ e ∈ held, dominates x e.2 = true) : Leads dominates (seen ++ [x]) x := by
  have defined : Column.Defined seen := by
    intro y hy
    rw [← Bool.not_eq_true]
    intro undefined
    obtain ⟨e, he, gap⟩ := h.gaps y hy undefined
    rw [(ranks.defined _ _ (removed e he)).2] at gap
    cases gap
  cases hx : Scalar.isUndefined x with
  | true =>
    -- a gap removes nothing, so there was nothing
    have none : held = [] := by
      refine List.eq_nil_iff_forall_not_mem.mpr fun e he => ?_
      rw [(ranks.defined _ _ (removed e he)).1] at hx
      cases hx
    obtain rfl : seen = [] := Classical.byContradiction fun some => h.nonempty some none
    exact ⟨fun _ => hx, fun some => absurd (by simp [untilGap, hx]) some⟩
  | false =>
    have all := Column.untilGap_concat defined hx
    refine ⟨fun none => ?_, fun _ => ?_⟩
    · rw [all] at none
      simp at none
    rw [all]
    refine ⟨List.mem_append_right _ List.mem_cons_self, fun y hy => ?_⟩
    rcases List.mem_append.mp hy with hy | hy
    · have some := List.ne_nil_of_mem hy
      have last := List.getLast_mem (h.nonempty some)
      have leads := (h.oldest _ (List.getLast?_eq_some_getLast (h.nonempty some))).leads
      rw [Column.untilGap_eq_self defined] at leads
      exact ranks.trans _ _ _ (removed _ last) ((leads some).2 y hy)
    · rw [List.mem_singleton.mp hy]
      exact (ranks.total x x hx hx).elim id id

/-- An entry that does not remove the one that leads leaves it in the lead. -/
theorem Leads.concat {a : α} (h : Leads dominates seen a) (some : seen ≠ [])
    (answers : Column.Defined seen → Scalar.isUndefined x = false → dominates a x = true) :
    Leads dominates (seen ++ [x]) a := by
  by_cases all : Column.Defined seen ∧ Scalar.isUndefined x = false
  · obtain ⟨defined, hx⟩ := all
    have joined := Column.untilGap_concat defined hx
    have leads := h.leads
    rw [Column.untilGap_eq_self defined] at leads
    obtain ⟨here, beats⟩ := leads some
    refine ⟨fun none => ?_, fun _ => ?_⟩
    · rw [joined] at none
      simp at none
    rw [joined]
    refine ⟨List.mem_append_left _ here, fun y hy => ?_⟩
    rcases List.mem_append.mp hy with hy | hy
    · exact beats y hy
    · rw [List.mem_singleton.mp hy]
      exact answers defined hx
  · constructor
    · rw [Column.untilGap_concat_of_gap all]
      exact h.gap
    · rw [Column.untilGap_concat_of_gap all]
      exact h.leads

/-- **One entry.** The queue holds what it should when an entry of the window has joined. -/
theorem Led.enter (h : Led dominates seen held) (ranks : Ranks dominates) (positive : 1 ≤ p)
    (young : ∀ e ∈ held, i < e.1 + p) :
    Led dominates (seen ++ [x]) (Extreme.enter dominates p held i x) := by
  rw [enter_of_young positive young]
  have suffix := List.dropWhile_suffix (fun e : Nat × α => dominates x e.2) (l := held)
  have resists : ∀ e ∈ held, Scalar.isUndefined e.2 = true →
      e ∈ held.dropWhile fun e => dominates x e.2 := by
    intro e he undefined
    refine mem_dropWhile_of_not he ?_
    rw [← Bool.not_eq_true]
    intro beaten
    rw [(ranks.defined _ _ beaten).2] at undefined
    cases undefined
  refine { entries := ?entries, nonempty := fun _ => List.cons_ne_nil _ _, oldest := ?oldest,
           gaps := ?gaps }
  case entries =>
    intro e he
    rcases List.mem_cons.mp he with rfl | kept
    · exact List.mem_append_right _ List.mem_cons_self
    · exact List.mem_append_left _ (h.entries e (suffix.mem kept))
  case gaps =>
    intro y hy undefined
    rcases List.mem_append.mp hy with hy | hy
    · obtain ⟨e, he, gap⟩ := h.gaps y hy undefined
      exact ⟨e, List.mem_cons_of_mem _ (resists e he gap), gap⟩
    · rw [List.mem_singleton.mp hy] at undefined
      exact ⟨(i, x), List.mem_cons_self, undefined⟩
  case oldest =>
    intro e last
    by_cases none : held.dropWhile (fun e => dominates x e.2) = []
    · rw [none] at last
      cases last
      exact h.leads_of_removed ranks fun e he => by
        simpa using List.dropWhile_eq_nil_iff.mp none e he
    · -- the oldest one stays, and dominates the newest of those that stay
      have whole : held.getLast? = some e := by
        rw [List.getLast?_cons_of_ne_nil none, List.getLast?_eq_some_getLast none,
          suffix.getLast none, ← List.getLast?_eq_some_getLast] at last
        exact last
      have leads := h.oldest e whole
      have some := List.ne_nil_of_mem (h.entries e (List.mem_of_getLast? whole))
      refine leads.concat some fun defined hx => ?_
      obtain ⟨newest, rest, kept⟩ := List.exists_cons_of_ne_nil none
      have inside : newest.2 ∈ seen := by
        refine h.entries newest (suffix.mem ?_)
        rw [kept]
        exact List.mem_cons_self
      have stays : ¬ dominates x newest.2 = true := by
        have first := List.head?_dropWhile_not (fun e : Nat × α => dominates x e.2) held
        rw [kept] at first
        simpa using first
      have beats := leads.leads
      rw [Column.untilGap_eq_self defined] at beats
      exact ranks.trans _ _ _ ((beats some).2 _ inside)
        ((ranks.total _ _ (defined _ inside) hx).resolve_right stays)

end Queue

/-! ## The window of a bar -/

/-- What the queue holds of a window that begins at bar `first`, in front of older
contenders. -/
def LedFrom (dominates : α → α → Bool) (first : Nat) (seen : List α) (held : Contenders α) : Prop :=
  ∃ newer older, held = newer ++ older ∧ (∀ e ∈ newer, first ≤ e.1) ∧ (∀ e ∈ older, e.1 < first) ∧
    Led dominates seen newer

section Window

variable {dominates : α → α → Bool} {p first i : Nat} {x : α} {seen xs : List α}
  {held : Contenders α}

/-- Before the window all contenders are older. -/
theorem LedFrom.enter_before (h : LedFrom dominates first [] held) (earlier : i < first) :
    LedFrom dominates first [] (enter dominates p held i x) := by
  obtain ⟨newer, older, rfl, -, old, led⟩ := h
  obtain rfl : newer = [] := List.eq_nil_iff_forall_not_mem.mpr fun e he => nomatch led.entries e he
  refine ⟨[], _, rfl, nofun, fun e he => ?_, led⟩
  rcases (of_mem_enter he).1 with rfl | he
  · exact earlier
  · exact old e he

/-- An entry of the window joins the contenders of the window. -/
theorem LedFrom.enter (h : LedFrom dominates first seen held) (ranks : Ranks dominates)
    (positive : 1 ≤ p) (within : first ≤ i) (near : i < first + p) :
    LedFrom dominates first (seen ++ [x]) (Extreme.enter dominates p held i x) := by
  obtain ⟨newer, older, rfl, new, old, led⟩ := h
  have young : ∀ e ∈ newer, i < e.1 + p := fun e he => by
    have := new e he
    omega
  obtain ⟨left, split, kept⟩ : ∃ left, Extreme.enter dominates p (newer ++ older) i x =
      Extreme.enter dominates p newer i x ++ left ∧ ∀ e ∈ left, e ∈ older :=
    enter_append positive young
  refine ⟨_, left, split, fun e he => ?_, fun e he => old e (kept e he),
    led.enter ranks positive young⟩
  rcases (of_mem_enter he).1 with rfl | he
  · exact within
  · exact new e he

/-- **Along the column.** At every bar up to the end of a window the queue holds what it
should of the window's entries so far. -/
theorem ledFrom_stateAfter (ranks : Ranks dominates) (positive : 1 ≤ p) (first : Nat) {n : Nat}
    (fits : n ≤ xs.length) (near : n ≤ first + p) :
    LedFrom dominates first ((xs.take n).drop first)
      (Column.stateAfter (extremeStep dominates p) [] ((Column.numbered xs).take n)) := by
  have fits' : n ≤ (Column.numbered xs).length := by rwa [Column.length_numbered]
  refine Column.stateAfter_induction (P := fun n held => n ≤ first + p →
    LedFrom dominates first ((xs.take n).drop first) held) ?_ ?_ fits' near
  · intro _
    rw [List.take_zero, List.drop_nil]
    exact ⟨[], [], rfl, nofun, nofun, led_nil dominates⟩
  · rintro n held ⟨i, x⟩ next h near
    rw [Column.getElem?_numbered] at next
    obtain ⟨y, here, same⟩ := Option.map_eq_some_iff.mp next
    cases same
    have held := h (by omega)
    have inside := (List.getElem?_eq_some_iff.mp here).1
    rw [List.take_add_one, here]
    by_cases within : first ≤ n
    · have seen : first - (xs.take n).length = 0 := by
        rw [List.length_take]
        omega
      rw [List.drop_append, seen]
      exact held.enter ranks positive within near
    · have none : ∀ ys : List α, ys.length ≤ first → ys.drop first = [] :=
        fun ys short => List.drop_eq_nil_of_le short
      rw [none _ (by rw [List.length_take]; omega)] at held
      rw [none _ (by simp; omega)]
      exact held.enter_before (by omega)

end Window

/-- **A rolling extreme with gaps** is the extreme of the entries of its window before
the first gap. -/
theorem getElem?_rolling_leads {dominates : α → α → Bool} {p bar : Nat} {xs : List α}
    (ranks : Ranks dominates) (positive : 1 ≤ p) (inside : bar < xs.length) (full : p ≤ bar + 1) :
    ∃ x, (rolling dominates p xs)[bar]? = some x ∧ Leads dominates (windowAt p bar xs) x := by
  have here : xs[bar]? = some xs[bar] := List.getElem?_eq_getElem inside
  have before := ledFrom_stateAfter ranks positive (bar + 1 - p) (Nat.le_of_lt inside) (by omega)
  have window : windowAt p bar xs = (xs.take bar).drop (bar + 1 - p) ++ [xs[bar]] := by
    have seen : bar + 1 - p - (xs.take bar).length = 0 := by
      rw [List.length_take]
      omega
    unfold windowAt
    rw [List.take_add_one, here, List.drop_append, seen]
    rfl
  obtain ⟨newer, older, split, -, old, led⟩ :=
    before.enter (i := bar) (x := xs[bar]) ranks positive (by omega) (by omega)
  -- older contenders are too old by now
  obtain rfl : older = [] := by
    refine List.eq_nil_iff_forall_not_mem.mpr fun e he => ?_
    have young := (of_mem_enter (split ▸ List.mem_append_right newer he)).2
    have := old e he
    omega
  rw [List.append_nil] at split
  rw [← window] at led
  have some : windowAt p bar xs ≠ [] := by
    rw [window]
    exact List.append_ne_nil_of_right_ne_nil _ (List.cons_ne_nil _ _)
  have last := List.getLast?_eq_some_getLast (led.nonempty some)
  exact ⟨_, getElem?_rolling_oldest positive here full (split ▸ last), led.oldest _ last⟩

/-! ## Levels -/

/-- A level of some entries is one of them, by value, that bounds them all. If there are
none it is something else. -/
structure Level (bounds : α → α → Prop) (entries : List α) (otherwise x : α) : Prop where
  none : entries = [] → Scalar.Same x otherwise
  attained : entries ≠ [] → ∃ y ∈ entries, (x == y) = true
  bounds : ∀ y ∈ entries, bounds x y

/-- The `p` entries before a bar, if there are so many. -/
def before (p bar : Nat) (xs : List α) : List α :=
  if bar < p then [] else (xs.take bar).drop (bar - p)

/-- The entries that are not missing. -/
def known (xs : List α) : List α := xs.filter fun x => !Scalar.isUndefined x

variable {xs : List Float} {x a : Float} {p bar : Nat}

theorem Leads.level {dominates : Float → Float → Bool} {seen : List Float}
    (h : Leads dominates seen x) :
    Level (fun x y => dominates x y = true) (untilGap seen) Scalar.undefined x where
  none none := .inr ⟨h.gap none, rfl⟩
  attained some := by
    obtain ⟨here, -⟩ := h.leads some
    have defined := List.mem_takeWhile_imp (p := fun x : Float => !Scalar.isUndefined x) here
    refine ⟨x, here, ?_⟩
    unfold Scalar.isUndefined at defined
    rwa [Bool.not_not] at defined
  bounds y hy := (h.leads (List.ne_nil_of_mem hy)).2 y hy

/-- **The extreme of the entries before a bar.** -/
theorem level_before {dominates : Float → Float → Bool} (ranks : Ranks dominates) (positive : 1 ≤ p)
    (inside : bar < xs.length) :
    ∃ x, (Column.lag 1 Scalar.undefined (rolling dominates p xs))[bar]? = some x ∧
      Level (fun x y => dominates x y = true) (untilGap (before p bar xs)) Scalar.undefined x := by
  have length : (rolling dominates p xs).length = xs.length :=
    (causal_rolling dominates p).length xs
  have none : before p bar xs = [] → Level (fun x y => dominates x y = true)
      (untilGap (before p bar xs)) Scalar.undefined Scalar.undefined := by
    intro few
    rw [few]
    exact ⟨fun _ => Scalar.Same.refl _, fun some => absurd rfl some, nofun⟩
  rw [Column.getElem?_lag, length, if_pos inside]
  cases bar with
  | zero =>
    rw [if_pos Nat.one_pos]
    exact ⟨_, rfl, none (if_pos positive)⟩
  | succ bar =>
    rw [if_neg (by omega), Nat.add_sub_cancel]
    by_cases full : p ≤ bar + 1
    · obtain ⟨x, shown, leads⟩ :=
        getElem?_rolling_leads ranks positive (Nat.lt_of_succ_lt inside) full
      have window : before p (bar + 1) xs = windowAt p bar xs := if_neg (Nat.not_lt.mpr full)
      rw [window]
      exact ⟨x, shown, leads.level⟩
    · have early := Nat.not_le.mp full
      exact ⟨_, getElem?_rolling_early positive (Nat.lt_of_succ_lt inside) early,
        none (if_pos early)⟩

/-! ## All entries so far -/

/-- One of two numbers is chosen, and an undefined one gives way. The one that is chosen
bounds both. -/
structure Choice (choose : Float → Float → Float) (bounded : Float → Float → Prop) : Prop where
  either : ∀ x y, choose x y = x ∨ choose x y = y
  passes : ∀ x y, Scalar.isUndefined x = false → Scalar.isUndefined y = true → choose x y = x
  iff : ∀ x y b, Scalar.isUndefined x = false → Scalar.isUndefined y = false →
    (bounded (choose x y) b ↔ bounded x b ∧ bounded y b)
  refl : ∀ x, Scalar.isUndefined x = false → bounded x x
  antisymm : ∀ x y, bounded x y → bounded y x → Scalar.Same x y

theorem choice_max : Choice Scalar.max (· ≤ ·) where
  either x y := by
    unfold Scalar.max
    split
    · exact .inr rfl
    · exact .inl rfl
  passes x y hx hy := by
    refine if_neg ?_
    rw [hx, Bool.false_or, decide_eq_true_iff]
    exact fun less => by rw [(Scalar.defined_of_lt less).2] at hy; cases hy
  iff _ _ _ := Scalar.max_le_iff
  refl _ := Scalar.le_self
  antisymm _ _ := Scalar.same_of_le_of_le

theorem choice_min : Choice Scalar.min (· ≥ ·) where
  either x y := by
    unfold Scalar.min
    split
    · exact .inr rfl
    · exact .inl rfl
  passes x y hx hy := by
    refine if_neg ?_
    rw [hx, Bool.false_or, decide_eq_true_iff]
    exact fun less => by rw [(Scalar.defined_of_lt less).1] at hy; cases hy
  iff _ _ _ := Scalar.le_min_iff
  refl _ := Scalar.le_self
  antisymm _ _ low high := Scalar.same_of_le_of_le high low

section Choice

variable {choose : Float → Float → Float} {bounded : Float → Float → Prop}

theorem Choice.defined (h : Choice choose bounded) {x y : Float} (hx : Scalar.isUndefined x = false)
    (hy : Scalar.isUndefined y = false) : Scalar.isUndefined (choose x y) = false := by
  rcases h.either x y with same | same <;> rwa [same]

/-- Missing entries are passed over. -/
theorem Choice.foldl_known (h : Choice choose bounded) (ha : Scalar.isUndefined a = false) :
    xs.foldl choose a = (known xs).foldl choose a := by
  unfold known
  induction xs generalizing a with
  | nil => rfl
  | cons x xs ih =>
    rw [List.filter_cons, List.foldl_cons]
    cases hx : Scalar.isUndefined x with
    | true =>
      rw [h.passes a x ha hx]
      exact ih ha
    | false => exact ih (h.defined ha hx)

/-- What is chosen in the end is the first number or one of the entries. -/
theorem Choice.foldl_mem (h : Choice choose bounded) : xs.foldl choose a ∈ a :: xs := by
  induction xs generalizing a with
  | nil => exact List.mem_cons_self
  | cons x xs ih =>
    rcases List.mem_cons.mp (ih (a := choose a x)) with same | later
    · rw [List.foldl_cons, same]
      rcases h.either a x with same | same <;> simp [same]
    · exact List.mem_cons_of_mem _ (List.mem_cons_of_mem _ later)

/-- **The extreme of all entries so far** is a level of those that are known. -/
theorem Choice.level_foldl (h : Choice choose bounded) (ha : Scalar.isUndefined a = false)
    (outermost : ∀ x, Scalar.isUndefined x = false → bounded a x) :
    Level (fun x y => bounded y x) (known xs) a (xs.foldl choose a) := by
  have defined : ∀ x ∈ known xs, Scalar.isUndefined x = false := fun x hx => by
    simpa using (List.mem_filter.mp hx).2
  obtain ⟨chosen, bounds⟩ := Scalar.foldl_bounded_iff choose bounded (fun _ _ => h.defined) h.iff
    defined ha
  have all := ((bounds _).mp (h.refl _ chosen)).2
  rw [h.foldl_known ha]
  refine ⟨?none, ?attained, all⟩
  case none =>
    intro none
    rw [none]
    exact Scalar.Same.refl a
  case attained =>
    intro some
    rcases List.mem_cons.mp
      (h.foldl_mem : (known xs).foldl choose a ∈ a :: known xs) with same | here
    · -- nothing went beyond the first number, which an entry therefore is
      obtain ⟨y, rest, first⟩ := List.exists_cons_of_ne_nil some
      have hy : y ∈ known xs := by
        rw [first]
        exact List.mem_cons_self
      rw [same] at all ⊢
      exact ⟨y, hy, (h.antisymm a y (outermost y (defined y hy)) (all y hy)).beq ha⟩
    · exact ⟨_, here, (Scalar.Same.refl _).beq chosen⟩

/-- An entry of a column of extremes so far. -/
theorem getElem?_running_choose (choose : Float → Float → Float) (inside : bar < xs.length) :
    (Column.running (fun best x => let best := choose best x; (best, best)) a xs)[bar]? =
      some ((xs.take (bar + 1)).foldl choose a) := by
  have here := List.getElem?_eq_getElem inside
  rw [Column.getElem?_running, here, List.take_add_one, here, List.foldl_append]
  rfl

theorem Choice.level_running (h : Choice choose bounded) (ha : Scalar.isUndefined a = false)
    (outermost : ∀ x, Scalar.isUndefined x = false → bounded a x) (inside : bar < xs.length) :
    ∃ x,
      (Column.running (fun best x => let best := choose best x; (best, best)) a xs)[bar]? =
        some x ∧
      Level (fun x y => bounded y x) (known (xs.take (bar + 1))) a x :=
  ⟨_, getElem?_running_choose choose inside, h.level_foldl ha outermost⟩

end Choice

/-! ## Levels where data is missing -/

theorem Level.imp {bounds bounds' : Float → Float → Prop} {entries : List Float} {otherwise : Float}
    (level : Level bounds entries otherwise x) (weaker : ∀ x y, bounds x y → bounds' x y) :
    Level bounds' entries otherwise x where
  none := level.none
  attained := level.attained
  bounds y hy := weaker x y (level.bounds y hy)

/-- **Levels where data is missing.** The level of the bars before is the extreme of those
before the first gap, and undefined if there are none. The level of all bars is the
extreme of those that are known, and infinite if there are none. -/
theorem levels_with_gaps (p bar : Nat) (positive : 1 ≤ p) (candles : List (Candle Float))
    (inside : bar < candles.length) :
    (∃ x, (highOf p candles)[bar]? = some x ∧
      Level (· ≥ ·) (untilGap (before p bar (highs candles))) Scalar.undefined x) ∧
    (∃ x, (lowOf p candles)[bar]? = some x ∧
      Level (· ≤ ·) (untilGap (before p bar (lows candles))) Scalar.undefined x) ∧
    (∃ x, (allTimeHigh candles)[bar]? = some x ∧
      Level (· ≥ ·) (known ((highs candles).take (bar + 1))) (-Scalar.infinity) x) ∧
    (∃ x, (allTimeLow candles)[bar]? = some x ∧
      Level (· ≤ ·) (known ((lows candles).take (bar + 1))) Scalar.infinity x) := by
  have high : bar < (highs candles).length := by rwa [highs, List.length_map]
  have low : bar < (lows candles).length := by rwa [lows, List.length_map]
  refine ⟨?high, ?low, ?highest, ?lowest⟩
  case high =>
    obtain ⟨x, shown, level⟩ := level_before ranks_greatest positive high
    exact ⟨x, shown, level.imp fun _ _ => of_decide_eq_true⟩
  case low =>
    obtain ⟨x, shown, level⟩ := level_before ranks_least positive low
    exact ⟨x, shown, level.imp fun _ _ => of_decide_eq_true⟩
  case highest =>
    exact choice_max.level_running rfl (fun _ => Scalar.neg_infinity_le) high
  case lowest =>
    exact choice_min.level_running rfl (fun _ => Scalar.le_infinity) low

/-- Four bars, the third without a high. -/
theorem levels_with_gaps_third :
    let candles : List (Candle Float) := [.still .earliest 5, .still .earliest 7,
      { Candle.still .earliest 6 with high := Scalar.undefined }, .still .earliest 6]
    (1 ≤ 3 ∧ 3 < candles.length) ∧ (highOf 3 candles)[3]? = some 7 ∧
    (∃ x, (highOf 3 candles)[3]? = some x ∧
      Level (· ≥ ·) (untilGap (before 3 3 (highs candles))) Scalar.undefined x) := by
  intro candles
  exact ⟨⟨by decide, by decide⟩, by decide +kernel,
    (levels_with_gaps 3 3 (by decide) candles (by decide)).1⟩

/-- A gap hides what comes behind it, so that a close below the greatest high is above the
level. Without any high the level of all bars is defined. -/
theorem levels_mislead :
    let gap : Candle Float := { Candle.still .earliest 6 with high := Scalar.undefined }
    let hidden : List (Candle Float) :=
      [.still .earliest 5, gap, .still .earliest 7, .still .earliest 6]
    ((highOf 3 hidden)[3]? = some 5 ∧ known (before 3 3 (highs hidden)) = [5, 7] ∧
      (closes hidden)[3]? = some 6) ∧
    ((allTimeHigh [gap])[0]? = some (-Scalar.infinity : Float) ∧
      known ((highs [gap]).take 1) = []) ∧
    ¬ ∀ (p bar : Nat) (candles : List (Candle Float)) (x : Float), 1 ≤ p →
      (highOf p candles)[bar]? = some x → Scalar.isUndefined x = false →
      ∀ y ∈ known (before p bar (highs candles)), y ≤ x := by
  intro gap hidden
  have level : (highOf 3 hidden)[3]? = some 5 := by decide +kernel
  have seen : known (before 3 3 (highs hidden)) = [5, 7] := by decide +kernel
  refine ⟨⟨level, seen, by decide +kernel⟩, ⟨by decide +kernel, by decide +kernel⟩, ?_⟩
  intro covers
  have low : (7 : Float) ≤ 5 := by
    refine covers 3 3 hidden 5 (by decide) level (by decide +kernel) 7 ?_
    rw [seen]
    exact List.mem_cons_of_mem _ List.mem_cons_self
  revert low
  decide +kernel

end Extreme

end MarketConditions
