import MarketConditions.Proofs.Indicator.Causal
import MarketConditions.Proofs.Indicator.Windows
import MarketConditions.Proofs.Scalar.Exact

/-!
# Where columns begin

A column of an indicator is undefined up to some bar and holds numbers from it on. Where
it begins follows from where the columns begin that it is made of.

- `Column.getElem?_trailing`, `Column.seeded_entry`: what a trailing window and a seeded
  value are at a bar.
- `Column.Begins`: **a column is undefined below a bar and a number from it on**.
- `Begins.zipWith`, `Begins.lag`, `Begins.cons`: combining two columns waits for the later
  one, and moving a column moves its beginning.
- `begins_running`, `begins_seeded`, `begins_rolling`, `Begins.afterUndefined`: the
  columns that indicators are put together from.
-/

namespace MarketConditions.Column

variable {α β σ : Type}

/-! ## Entries at a bar -/

/-- A window of the last `p` entries takes in one more. -/
def keep (p : Nat) (held : List α) (x : α) : List α :=
  (held ++ [x]).drop ((held ++ [x]).length - p)

theorem keep_window (p : Nat) {xs : List α} {i : Nat} {x : α} (here : xs[i]? = some x) :
    keep p ((xs.take i).drop (i - p)) x = (xs.take (i + 1)).drop (i + 1 - p) := by
  have within : i < xs.length := (List.getElem?_eq_some_iff.mp here).1
  have grown : (xs.take i).drop (i - p) ++ [x] = (xs.take (i + 1)).drop (i - p) := by
    rw [List.take_add_one, here, Option.toList_some, List.drop_append_of_le_length]
    rw [List.length_take]
    omega
  unfold keep
  rw [grown, List.drop_drop, List.length_drop, List.length_take, Nat.min_eq_left within]
  congr 1
  omega

/-- A trailing window is that of the last entries. -/
theorem getElem?_trailing (p : Nat) {xs : List α} {bar : Nat} (inside : bar < xs.length) :
    (trailing p xs)[bar]? = some (Extreme.windowAt p bar xs) := by
  have start : [] = (xs.take 0).drop (0 - p) := by rw [List.take_zero, List.drop_nil]
  have steps : trailing p xs = running (fun held x => (keep p held x, keep p held x)) [] xs := rfl
  rw [steps, start]
  refine getElem?_running_of_states (fun i => (xs.take i).drop (i - p))
    (fun i => Extreme.windowAt p i xs) (fun i x here => ?_) inside
  rw [keep_window p here]
  rfl

/-- What an update keeps holds of all values of a seed that has it. -/
theorem mem_updates {next : β → α → β} {P : β → Prop} {s : β} {xs : List α} (seed : P s)
    (keeps : ∀ v, P v → ∀ x ∈ xs, P (next v x)) {v : β} (here : v ∈ updates next s xs) : P v := by
  induction xs generalizing s with
  | nil =>
    cases List.mem_singleton.mp here
    exact seed
  | cons x xs ih =>
    rcases List.mem_cons.mp here with rfl | later
    · exact seed
    · exact ih (keeps s seed x List.mem_cons_self)
        (fun v hv y hy => keeps v hv y (List.mem_cons_of_mem x hy)) later

/-- A seeded value is absent until `p` entries are there, and from then on has what the
seed has and updates keep. -/
theorem seeded_entry {p : Nat} (positive : 1 ≤ p) {seed : List α → β} {next : β → α → β}
    {P : β → Prop} {xs : List α} (seeds : p ≤ xs.length → P (seed (xs.take p)))
    (keeps : ∀ v, P v → ∀ x ∈ xs, P (next v x)) {bar : Nat} {o : Option β}
    (here : (seeded p seed next xs)[bar]? = some o) :
    bar < p - 1 ∧ o = none ∨ p - 1 ≤ bar ∧ ∃ v, P v ∧ o = some v := by
  have inside : bar < xs.length := by
    have := (List.getElem?_eq_some_iff.mp here).1
    rwa [length_seeded] at this
  unfold seeded at here
  split at here
  · rename_i short
    obtain ⟨x, -, rfl⟩ := List.mem_map.mp (List.mem_of_getElem? here)
    exact .inl ⟨by omega, rfl⟩
  · rename_i long
    by_cases early : bar < p - 1
    · rw [List.getElem?_append_left (by rwa [List.length_replicate]), List.getElem?_replicate,
        if_pos early] at here
      exact .inl ⟨early, (Option.some.inj here).symm⟩
    · rw [List.getElem?_append_right (by rw [List.length_replicate]; omega)] at here
      obtain ⟨v, hv, rfl⟩ := List.mem_map.mp (List.mem_of_getElem? here)
      refine .inr ⟨by omega, v, mem_updates (seeds (by omega)) (fun v hv x hx => ?_) hv, rfl⟩
      exact keeps v hv x (List.mem_of_mem_drop hx)

/-! ## Where a column begins -/

/-- A column is undefined below a bar, and holds numbers from it on. -/
structure Begins (first : Nat) (xs : List Exact) : Prop where
  before : ∀ bar x, xs[bar]? = some x → bar < first → x = .undefined
  after : ∀ bar x, xs[bar]? = some x → first ≤ bar → x.IsNumber

variable {first second : Nat} {xs ys : List Exact}

/-- Each entry is before the beginning or behind it. -/
theorem Begins.of_entries (told : ∀ (bar : Nat) x, xs[bar]? = some x →
    bar < first ∧ x = .undefined ∨ first ≤ bar ∧ x.IsNumber) : Begins first xs := by
  refine ⟨fun bar x here early => ?_, fun bar x here late => ?_⟩
  · rcases told bar x here with ⟨-, undefined⟩ | ⟨late, -⟩
    · exact undefined
    · omega
  · rcases told bar x here with ⟨early, -⟩ | ⟨-, number⟩
    · omega
    · exact number

/-- A column made of values that are there from some bar on. -/
theorem begins_of_options {states : List (Option β)} {P : β → Prop}
    (told : ∀ (bar : Nat) o, states[bar]? = some o →
      bar < first ∧ o = none ∨ first ≤ bar ∧ ∃ v, P v ∧ o = some v) {f : β → Exact}
    (numbers : ∀ v, P v → (f v).IsNumber) :
    Begins first (states.map fun o => orUndefined (o.map f)) := by
  refine .of_entries fun bar y here => ?_
  rw [List.getElem?_map] at here
  obtain ⟨o, ho, rfl⟩ := Option.map_eq_some_iff.mp here
  obtain ⟨early, rfl⟩ | ⟨late, v, hv, rfl⟩ := told bar o ho
  · exact .inl ⟨early, rfl⟩
  · exact .inr ⟨late, numbers v hv⟩

/-- A column of numbers begins at once. -/
theorem begins_of_numbers (all : ∀ x ∈ xs, x.IsNumber) : Begins 0 xs :=
  ⟨fun _ _ _ h => absurd h (Nat.not_lt_zero _), fun _ x here _ => all x (List.mem_of_getElem? here)⟩

theorem Begins.numbers (h : Begins 0 xs) : ∀ x ∈ xs, x.IsNumber := by
  intro x hx
  obtain ⟨bar, here⟩ := List.mem_iff_getElem?.mp hx
  exact h.after bar x here (Nat.zero_le bar)

/-- Behind an undefined entry a column begins one bar later. -/
theorem Begins.cons (h : Begins first xs) : Begins (first + 1) (.undefined :: xs) where
  before bar x here early := by
    cases bar with
    | zero => exact (Option.some.inj here).symm
    | succ bar => exact h.before bar x here (by omega)
  after bar x here late := by
    cases bar with
    | zero => omega
    | succ bar => exact h.after bar x here (by omega)

/-- The first entries of a column begin where it does. -/
theorem Begins.take (h : Begins first xs) (n : Nat) : Begins first (xs.take n) := by
  have whole : ∀ (bar : Nat) x, (xs.take n)[bar]? = some x → xs[bar]? = some x := by
    intro bar x here
    rw [List.getElem?_take] at here
    split at here
    · exact here
    · cases here
  exact ⟨fun bar x here => h.before bar x (whole bar x here),
    fun bar x here => h.after bar x (whole bar x here)⟩

/-- Two columns combined begin where the later of them does. -/
theorem Begins.zipWith {f : Exact → Exact → Exact} (hx : Begins first xs) (hy : Begins second ys)
    (left : ∀ y, f .undefined y = .undefined) (right : ∀ x, f x .undefined = .undefined)
    (both : ∀ x y, x.IsNumber → y.IsNumber → (f x y).IsNumber) :
    Begins (max first second) (List.zipWith f xs ys) where
  before bar z here early := by
    obtain ⟨x, y, hbx, hby, rfl⟩ := List.getElem?_zipWith_eq_some.mp here
    rcases lt_max_iff.mp early with early | early
    · rw [hx.before bar x hbx early, left]
    · rw [hy.before bar y hby early, right]
  after bar z here late := by
    obtain ⟨x, y, hbx, hby, rfl⟩ := List.getElem?_zipWith_eq_some.mp here
    exact both x y (hx.after bar x hbx (by omega)) (hy.after bar y hby (by omega))

theorem Begins.minus (hx : Begins first xs) (hy : Begins second ys) :
    Begins (max first second) (Column.minus xs ys) :=
  hx.zipWith hy (fun _ => rfl) (fun x => by cases x <;> rfl) fun _ _ => .sub

theorem Begins.midway (hx : Begins first xs) (hy : Begins second ys) :
    Begins (max first second) (Column.midway xs ys) :=
  hx.zipWith hy (fun _ => rfl) (fun x => by cases x <;> rfl) fun _ _ hx hy =>
    (hx.add hy).div (Exact.isNonneg_literal 2).isNumber (Exact.literal_ne_zero (by decide))

/-- A column that is moved begins so much later. -/
theorem Begins.lag (h : Begins first xs) (k : Nat) :
    Begins (k + first) (Column.lag k Scalar.undefined xs) where
  before bar x here early := by
    rw [getElem?_lag] at here
    split at here
    · split at here
      · exact (Option.some.inj here).symm
      · exact h.before _ x here (by omega)
    · cases here
  after bar x here late := by
    rw [getElem?_lag] at here
    split at here
    · rw [if_neg (by omega)] at here
      exact h.after _ x here (by omega)
    · cases here

/-- A column with a state that has what its steps hand on, and that is told from
some bar on. -/
theorem begins_running {step : σ → α → σ × Exact} {s : σ} {xs : List α} {P : Nat → σ → Prop}
    (start : P 0 s)
    (next : ∀ bar t x, xs[bar]? = some x → P bar t → P (bar + 1) (step t x).1 ∧
      (bar < first → (step t x).2 = .undefined) ∧ (first ≤ bar → (step t x).2.IsNumber)) :
    Begins first (running step s xs) := by
  have told : ∀ (bar : Nat) y, (running step s xs)[bar]? = some y →
      (bar < first → y = .undefined) ∧ (first ≤ bar → y.IsNumber) := by
    intro bar y here
    rw [getElem?_running] at here
    obtain ⟨x, hx, rfl⟩ := Option.map_eq_some_iff.mp here
    have held := stateAfter_induction start (fun i t x hx ht => (next i t x hx ht).1)
      (Nat.le_of_lt (List.getElem?_eq_some_iff.mp hx).1)
    exact (next bar _ x hx held).2
  exact ⟨fun bar y here => (told bar y here).1, fun bar y here => (told bar y here).2⟩

/-- A seeded column begins with its seed. -/
theorem begins_seeded {p : Nat} (positive : 1 ≤ p) {seed : List α → β} {next : β → α → β}
    {P : β → Prop} {xs : List α} (seeds : p ≤ xs.length → P (seed (xs.take p)))
    (keeps : ∀ v, P v → ∀ x ∈ xs, P (next v x)) {f : β → Exact}
    (numbers : ∀ v, P v → (f v).IsNumber) :
    Begins (p - 1) ((seeded p seed next xs).map fun o => orUndefined (o.map f)) :=
  begins_of_options (fun _ _ here => seeded_entry positive seeds keeps here) numbers

/-- So does a seeded column of numbers. -/
theorem begins_seeded_self {p : Nat} (positive : 1 ≤ p) {seed : List Exact → Exact}
    {next : Exact → Exact → Exact} (seeds : p ≤ xs.length → (seed (xs.take p)).IsNumber)
    (keeps : ∀ v, v.IsNumber → ∀ x ∈ xs, (next v x).IsNumber) :
    Begins (p - 1) ((seeded p seed next xs).map orUndefined) := by
  have told := begins_seeded positive seeds keeps (f := id) fun _ => id
  simpa using told

/-- A rolling extreme begins when its window is full. -/
theorem begins_rolling {dominates : Exact → Exact → Bool} (ranks : Extreme.Dominance dominates xs)
    {p : Nat} (positive : 1 ≤ p) (all : ∀ x ∈ xs, x.IsNumber) :
    Begins (p - 1) (Extreme.rolling dominates p xs) := by
  have inside : ∀ (bar : Nat) y, (Extreme.rolling dominates p xs)[bar]? = some y →
      bar < xs.length := by
    intro bar y here
    have := (List.getElem?_eq_some_iff.mp here).1
    rwa [(Extreme.causal_rolling dominates p).length] at this
  refine ⟨fun bar y here early => ?_, fun bar y here late => ?_⟩
  · have told : (Extreme.rolling dominates p xs)[bar]? = _ :=
      Extreme.getElem?_rolling_early positive (inside bar y here) (by omega)
    exact Option.some.inj (here.symm.trans told)
  · obtain ⟨x, told, member, -⟩ :=
      Extreme.getElem?_rolling_full ranks positive (inside bar y here) (by omega)
    cases here.symm.trans told
    exact all _ (Extreme.mem_of_mem_windowAt member)

/-- What is made of a full window, at its last bar. -/
theorem getElem?_overWindows {p : Nat} (positive : 1 ≤ p) (f : List Exact → Exact) {bar : Nat}
    (inside : bar < xs.length) : (Volatility.overWindows p f xs)[bar]? =
      some (if p ≤ bar + 1 then f (Extreme.windowAt p bar xs) else .undefined) := by
  have length : (Extreme.windowAt p bar xs).length = min (bar + 1) p := by
    unfold Extreme.windowAt
    rw [List.length_drop, List.length_take]
    omega
  unfold Volatility.overWindows
  rw [List.getElem?_map, getElem?_trailing p inside, Option.map_some, length]
  congr 1
  exact if_congr (by omega) rfl rfl

/-- What is made of full windows begins with the first of them. -/
theorem begins_overWindows {p : Nat} (positive : 1 ≤ p) {f : List Exact → Exact}
    (numbers : ∀ window, window.length = p → (∀ x ∈ window, x.IsNumber) → (f window).IsNumber)
    (all : ∀ x ∈ xs, x.IsNumber) : Begins (p - 1) (Volatility.overWindows p f xs) := by
  have within : ∀ (bar : Nat) y, (Volatility.overWindows p f xs)[bar]? = some y →
    bar < xs.length := by
    intro bar y here
    have := (List.getElem?_eq_some_iff.mp here).1
    rwa [Volatility.overWindows, List.length_map, length_trailing] at this
  constructor
  · intro bar y here early
    rw [getElem?_overWindows positive f (within bar y here), if_neg (by omega)] at here
    exact (Option.some.inj here).symm
  · intro bar y here late
    have inside := within bar y here
    rw [getElem?_overWindows positive f inside, if_pos (by omega)] at here
    cases here
    refine numbers _ ?_ fun x hx => all x (Extreme.mem_of_mem_windowAt hx)
    unfold Extreme.windowAt
    rw [List.length_drop, List.length_take]
    omega

/-- The undefined start ends where the column begins. -/
theorem Begins.split (h : Begins first xs) : xs.takeWhile Scalar.isUndefined = xs.take first ∧
    xs.dropWhile Scalar.isUndefined = xs.drop first := by
  have undefined : ∀ x ∈ xs.take first, Scalar.isUndefined x = true := by
    intro x hx
    obtain ⟨bar, here⟩ := List.mem_iff_getElem?.mp hx
    rw [List.getElem?_take] at here
    split at here
    · rw [h.before bar x here (by assumption)]
      rfl
    · cases here
  have ends : (xs.drop first).takeWhile Scalar.isUndefined = [] ∧
      (xs.drop first).dropWhile Scalar.isUndefined = xs.drop first := by
    cases rest : xs.drop first with
    | nil => exact ⟨rfl, rfl⟩
    | cons x later =>
      have here : xs[first]? = some x := by
        rw [← Nat.add_zero first, ← List.getElem?_drop, rest]
        rfl
      have defined : ¬ Scalar.isUndefined x = true := by
        rw [(h.after first x here (Nat.le_refl _)).defined]
        exact Bool.false_ne_true
      exact ⟨List.takeWhile_cons_of_neg defined, List.dropWhile_cons_of_neg defined⟩
  have parts := List.take_append_drop first xs
  constructor
  · rw [← parts, List.takeWhile_append_of_pos undefined, ends.1, List.append_nil, parts]
  · rw [← parts, List.dropWhile_append_of_pos undefined, ends.2, parts]

/-- An entry is one of the undefined start, or one of what is made of the rest. -/
theorem Begins.getElem?_afterUndefined (h : Begins first xs) {f : List Exact → List Exact}
    (nil : f [] = []) (bar : Nat) : (Column.afterUndefined f xs)[bar]? =
      if bar < first then xs[bar]? else (f (xs.drop first))[bar - first]? := by
  unfold Column.afterUndefined
  rw [h.split.1, h.split.2]
  rcases Nat.le_total first xs.length with long | short
  · have length : (xs.take first).length = first := List.length_take_of_le long
    rw [List.getElem?_append, length]
    split
    · rename_i early
      rw [List.getElem?_take, if_pos early]
    · rfl
  · -- the start is all there is
    rw [List.drop_eq_nil_of_le short, nil, List.append_nil, List.take_of_length_le short]
    split
    · rfl
    · rw [List.getElem?_eq_none (by omega)]
      rfl

/-- Behind its start a column holds numbers. -/
theorem Begins.drop (h : Begins first xs) : ∀ y ∈ xs.drop first, y.IsNumber := by
  intro y hy
  obtain ⟨i, here⟩ := List.mem_iff_getElem?.mp hy
  rw [List.getElem?_drop] at here
  exact h.after _ y here (Nat.le_add_right first i)

/-- Behind an undefined start a column begins as it would without the start. -/
theorem Begins.afterUndefined (h : Begins first xs) {f : List Exact → List Exact}
    (nil : f [] = []) (begins : ∀ ys, (∀ y ∈ ys, y.IsNumber) → Begins second (f ys)) :
    Begins (first + second) (Column.afterUndefined f xs) := by
  have rest : Begins second (f (xs.drop first)) := begins _ h.drop
  constructor
  · intro bar y here early
    rw [h.getElem?_afterUndefined nil] at here
    split at here
    · exact h.before bar y here (by assumption)
    · exact rest.before _ y here (by omega)
  · intro bar y here late
    rw [h.getElem?_afterUndefined nil, if_neg (by omega)] at here
    exact rest.after _ y here (by omega)

end MarketConditions.Column
