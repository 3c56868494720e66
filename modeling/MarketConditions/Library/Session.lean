import MarketConditions.Library.Query

/-!
# Sessions

A session answers questions to one library and keeps what it has worked out, so that each
entry is worked out once. Every kept cell carries the proof that it holds what its entry
means; answers therefore do not depend on what is kept.

- `Cell` — an entry with what it holds
- `Session` — a library with the cells kept so far
- `Session.ask` — answers a question, working out what it needs
- `Session.materialized` — how many entries have been worked out
-/

namespace MarketConditions

variable {α β : Type} [Scalar α]

/-- An entry of a library with what it holds. -/
structure Cell (l : Library α) where
  entry : Entry α
  content : entry.Content
  sound : content = l.content entry

/-- What an entry holds, known to be that. -/
abbrev Sound (l : Library α) (e : Entry α) := { c : e.Content // c = l.content e }

namespace Cell

/-- What a cell of a given entry holds. -/
def as? {l : Library α} (c : Cell l) (e : Entry α) : Option (Sound l e) :=
  if h : c.entry = e then some ⟨h ▸ c.content, by subst h; exact c.sound⟩ else none

/-- The cell of an entry. -/
def ofSound {l : Library α} {e : Entry α} (c : Sound l e) : Cell l := ⟨e, c.1, c.2⟩

end Cell

/-- A library with what has been worked out of it. -/
structure Session (α : Type) [Scalar α] where
  library : Library α
  cells : List (Cell library)

namespace Session

/-- A session in which nothing has been worked out. -/
def new (l : Library α) : Session α := ⟨l, []⟩

/-- What is kept of an entry. -/
def kept? {l : Library α} (cells : List (Cell l)) (e : Entry α) : Option (Sound l e) :=
  cells.findSome? (·.as? e)

/-- An entry's content and the cells kept afterwards, given how to work it out. -/
def keep {l : Library α} (cells : List (Cell l)) (e : Entry α)
    (work : List (Cell l) → Sound l e × List (Cell l)) : Sound l e × List (Cell l) :=
  match kept? cells e with
  | some c => (c, cells)
  | none =>
    let (c, cells) := work cells
    (c, Cell.ofSound c :: cells)

/-- An entry that is worked out from the library alone. -/
def fetchPlain {l : Library α} (cells : List (Cell l)) (e : Entry α) : Sound l e × List (Cell l) :=
  keep cells e fun cells => (⟨l.content e, rfl⟩, cells)

/-- The swings an indicator is made from, kept for the next that needs them. -/
def fetchSwings {l : Library α} (cells : List (Cell l)) (i : Indicator) :
    { s : List (Swing α) // s = l.swingsFor i } × List (Cell l) :=
  match h : i.swingStrength l.settings.swingStrength with
  | none => (⟨[], by simp [Library.swingsFor, h]⟩, cells)
  | some strength =>
    let (c, cells) := fetchPlain cells (.swings strength)
    (⟨c.1, by rw [c.2]; simp [Library.swingsFor, Library.content, h]⟩, cells)

/-- A study, worked out from kept swings. -/
def fetchStudy {l : Library α} (cells : List (Cell l)) (i : Indicator) :
    Sound l (.study i) × List (Cell l) :=
  keep cells (.study i) fun cells =>
    let (swings, cells) := fetchSwings cells i
    (⟨i.study l.settings.valueAreaShare l.market.candles swings.1, by
      rw [swings.2]; rfl⟩, cells)

/-- An entry's content and the cells kept afterwards. -/
def fetch {l : Library α} (cells : List (Cell l)) : (e : Entry α) → Sound l e × List (Cell l)
  | .study i => fetchStudy cells i
  | e => fetchPlain cells e

/-- Answers a question. One that is refused, or answered at once, leaves the
session as it is. -/
def ask (s : Session α) (q : Query α β) : Except LibraryError β × Session α :=
  match s.library.plan q with
  | .error e => (.error e, s)
  | .ok (.now answer) => (.ok answer, s)
  | .ok (.read e use) =>
    let (c, cells) := fetch s.cells e
    (.ok (use c.1), ⟨s.library, cells⟩)

/-- Answers are those of the library, whatever has been kept. -/
theorem ask_answer (s : Session α) (q : Query α β) : (s.ask q).1 = s.library.answer q := by
  unfold ask Library.answer
  split
  · rename_i h; rw [h]; rfl
  · rename_i h; rw [h]; rfl
  · rename_i e use h
    rw [h]
    simp only [Except.map, Library.carryOut]
    rw [(fetch s.cells e).1.2]

/-- A session stays with its library. -/
@[simp] theorem ask_library (s : Session α) (q : Query α β) : (s.ask q).2.library = s.library := by
  unfold ask
  split <;> rfl

/-- Number of entries worked out so far. -/
def materialized (s : Session α) : Nat := s.cells.length

/-- Whether a study has been worked out. -/
def isMaterialized (s : Session α) (i : Indicator) : Bool :=
  s.cells.any fun c => decide (c.entry = .study i)

/-- Goes over to another market; nothing is kept. -/
def bind (s : Session α) (m : Market α) : Session α := new ⟨m, s.library.settings⟩

end Session

end MarketConditions
