import MarketConditions.Page.Basic

/-!
# Slots

Computations share a number of slots. One that asks while a slot is free begins at once;
the others wait, first come first served. A slot that is let go is handed to the first of
those that wait. It begins later, so that those that ask in between and find a slot free
begin before it.

- `Slots` — who holds a slot, and who waits for one
- `Slots.ask`, `Slots.letGo`, `Slots.start` — computations come, go and begin
- `Slots.all` — the view: every computation, in the order in which they get to run
-/

namespace MarketConditions

/-- Slots with the computations that hold one or wait for one. A computation is named by its
page. -/
structure Slots where
  /-- How many computations may hold a slot. -/
  size : Nat
  /-- Computations that have begun, in the order in which they did. -/
  active : List PageId
  /-- Computations that have been handed a slot and have not begun, in the order in
  which they will. -/
  handed : List PageId
  /-- Computations that wait for a slot, in the order in which they asked. -/
  waiting : List PageId
  /-- No more computations hold a slot than there are slots. -/
  fits : active.length + handed.length ≤ size

namespace Slots

/-- A number of free slots. -/
def free (size : Nat) : Slots := ⟨size, [], [], [], Nat.zero_le _⟩

/-- Every computation, in the order in which they get to run. -/
def all (s : Slots) : List PageId := s.active ++ s.handed ++ s.waiting

/-- Whether a slot is free. -/
def isFree (s : Slots) : Bool := decide (s.active.length + s.handed.length < s.size)

/-- A computation asks for a slot. It begins if one is free, and waits otherwise. -/
def ask (s : Slots) (id : PageId) : Slots :=
  if h : s.isFree then
    { s with
      active := s.active ++ [id]
      fits := by simp [isFree] at h ⊢; omega }
  else { s with waiting := s.waiting ++ [id] }

/-- A free slot is handed to the first computation that waits. -/
def handOver (s : Slots) : Slots :=
  match s.waiting with
  | [] => s
  | id :: rest =>
    if h : s.isFree then
      { s with
        handed := s.handed ++ [id]
        waiting := rest
        fits := by simp [isFree] at h ⊢; omega }
    else s

/-- A computation holds and waits no longer; a slot that it held is handed over. -/
def letGo (s : Slots) (id : PageId) : Slots :=
  if id ∈ s.active then
    handOver
      { s with
        active := s.active.erase id
        fits := Nat.le_trans (Nat.add_le_add_right List.length_erase_le _) s.fits }
  else if id ∈ s.handed then
    handOver
      { s with
        handed := s.handed.erase id
        fits := Nat.le_trans (Nat.add_le_add_left List.length_erase_le _) s.fits }
  else { s with waiting := s.waiting.erase id }

/-- Computations that have been handed a slot begin. -/
def start (s : Slots) : Slots :=
  { s with active := s.active ++ s.handed, handed := [], fits := by simpa using s.fits }

/-! ## The view -/

/-- Handing over a slot changes no one's place. -/
@[simp] theorem all_handOver (s : Slots) : s.handOver.all = s.all := by
  unfold handOver
  split
  · rfl
  · rename_i h
    split <;> simp [all, h]

/-- Nor does beginning. -/
@[simp] theorem all_start (s : Slots) : s.start.all = s.all := by
  simp [all, start]

/-- A computation that lets go loses its place, and the others keep theirs. -/
theorem all_letGo (s : Slots) (id : PageId) : (s.letGo id).all = s.all.erase id := by
  unfold letGo
  split
  · rename_i active
    rw [all_handOver]
    simp [all, List.erase_append, active]
  · rename_i active
    split
    · rename_i handed
      rw [all_handOver]
      simp [all, List.erase_append, active, handed]
    · rename_i handed
      simp [all, List.erase_append, active, handed]

/-- Asking adds one computation, and loses none. -/
theorem all_ask (s : Slots) (id : PageId) : (s.ask id).all.Perm (id :: s.all) := by
  unfold ask
  split
  · simp [all]
  · simp only [all, ← List.append_assoc]
    exact List.perm_append_singleton id _

end Slots

end MarketConditions
