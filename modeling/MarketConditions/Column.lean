import MarketConditions.Scalar

/-!
# Columns

A column holds one entry per bar. The ways of making one column from another that every
indicator is put together from; each reads the entries up to a bar to make the entry at
that bar, never a later one.

- `running` — a state carried from bar to bar
- `seeded` — a first value made from the first `p` entries, then updated entry by entry
- `lag` — the column moved towards later bars
- `trailing` — the last `p` entries at each bar
- `afterUndefined` — a column function applied behind an undefined start

Bars, periods, offsets and strengths are exact natural numbers, here and in all that is
made of columns. A program that counts them in words of 64 bits works out the same as long
as the sums and products it forms of them are below `2 ^ 64`, such as the `2 * s` of
`detectSwings` or the `p * (p + 1)` of `Average.weightedAverage`. Where one is not, a word
wraps or the program stops; nothing is said about that.
-/

namespace MarketConditions.Column

variable {α β σ : Type}

/-! ## A state carried from bar to bar -/

/-- Steps through a column from state `s`; each step gives the next state and the
bar's entry. -/
def running (step : σ → α → σ × β) : σ → List α → List β
  | _, [] => []
  | s, x :: xs => (step s x).2 :: running step (step s x).1 xs

/-- The state after the given entries. -/
def stateAfter (step : σ → α → σ × β) (s : σ) (xs : List α) : σ :=
  xs.foldl (fun s x => (step s x).1) s

@[simp] theorem length_running (step : σ → α → σ × β) (s : σ) (xs : List α) :
    (running step s xs).length = xs.length := by
  induction xs generalizing s with
  | nil => rfl
  | cons x xs ih => simp [running, ih]

/-- An entry depends on the state its predecessors leave and on nothing later. -/
theorem getElem?_running (step : σ → α → σ × β) (s : σ) (xs : List α) (i : Nat) :
    (running step s xs)[i]? = xs[i]?.map fun x => (step (stateAfter step s (xs.take i)) x).2 := by
  induction xs generalizing s i with
  | nil => simp [running]
  | cons x xs ih => cases i with
    | zero => simp [running, stateAfter]
    | succ i => simp [running, stateAfter, ih]

theorem take_running (step : σ → α → σ × β) (s : σ) (xs : List α) (k : Nat) :
    (running step s xs).take k = running step s (xs.take k) := by
  induction xs generalizing s k with
  | nil => simp [running]
  | cons x xs ih => cases k with
    | zero => rfl
    | succ k => simp [running, ih]

/-! ## A seed and its updates -/

/-- The values a seed takes as the entries are worked into it, the seed itself first. -/
def updates (next : β → α → β) : β → List α → List β
  | s, [] => [s]
  | s, x :: xs => s :: updates next (next s x) xs

@[simp] theorem length_updates (next : β → α → β) (s : β) (xs : List α) :
    (updates next s xs).length = xs.length + 1 := by
  induction xs generalizing s with
  | nil => rfl
  | cons x xs ih => simp [updates, ih]

/-- Nothing below entry `p - 1`; there the seed made from the first `p` entries; from
then on the value before it updated by the entry. A column shorter than `p` has no
value at all. -/
def seeded (p : Nat) (seed : List α → β) (next : β → α → β) (xs : List α) : List (Option β) :=
  if p = 0 ∨ xs.length < p then xs.map fun _ => none
  else List.replicate (p - 1) none ++ (updates next (seed (xs.take p)) (xs.drop p)).map some

@[simp] theorem length_seeded (p : Nat) (seed : List α → β) (next : β → α → β) (xs : List α) :
    (seeded p seed next xs).length = xs.length := by
  unfold seeded
  split
  · simp
  · simp; omega

/-! ## Moving and gathering -/

/-- Moves a column `k` bars towards later bars, the first `k` entries being `fill`. -/
def lag (k : Nat) (fill : α) (xs : List α) : List α :=
  (List.replicate (Nat.min k xs.length) fill ++ xs).take xs.length

@[simp] theorem length_lag (k : Nat) (fill : α) (xs : List α) :
    (lag k fill xs).length = xs.length := by
  simp [lag]

/-- At each bar the last `p` entries in order, the bar's own included; fewer
near the start. -/
def trailing (p : Nat) (xs : List α) : List (List α) :=
  running (fun held x =>
    let joined := held ++ [x]
    let kept := joined.drop (joined.length - p)
    (kept, kept)) [] xs

@[simp] theorem length_trailing (p : Nat) (xs : List α) :
    (trailing p xs).length = xs.length := by
  simp [trailing]

/-- Each entry beside its bar. -/
def numbered (xs : List α) : List (Nat × α) := (List.range xs.length).zip xs

/-! ## Undefined entries -/

variable [Scalar α]

/-- Applies `f` from the first defined entry on and leaves what comes before undefined. -/
def afterUndefined (f : List α → List α) (xs : List α) : List α :=
  xs.takeWhile Scalar.isUndefined ++ f (xs.dropWhile Scalar.isUndefined)

/-- An absent value reads as undefined. -/
def orUndefined (x : Option α) : α := x.getD Scalar.undefined

/-- A column without any value. -/
def allUndefined (xs : List β) : List α := xs.map fun _ => Scalar.undefined

/-- The difference of two columns, bar by bar. -/
def minus (xs ys : List α) : List α := List.zipWith (· - ·) xs ys

/-- The middle between two columns, bar by bar. -/
def midway (xs ys : List α) : List α := List.zipWith (fun x y => (x + y) / 2) xs ys

end MarketConditions.Column
