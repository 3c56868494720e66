import MarketConditions.Error
import MarketConditions.Instant

/-!
# Pages and what is told of them

A page is a slice of candles or of an indicator that is worked out in the background,
shared by all who ask for it, and kept as long as one of them needs it.

- `PageState` — where a page is in its life
- `PageData` — the rows of a page: instants and named columns beside them
- `Snapshot` — what a reader sees of a page at one moment
- `Notice`, `PageEvent` — what listeners are told
- `Post` — what a step tells each listener
-/

namespace MarketConditions

/-- A page's place in the order in which pages are made. -/
structure PageId where
  place : Nat
deriving DecidableEq, Repr

/-- The written form; pages are counted from 1. -/
def PageId.text (id : PageId) : String := s!"page#{id.place + 1}"

/-- A listener's place in the order in which listeners join. -/
structure ListenerId where
  place : Nat
deriving DecidableEq, Repr

/-- Where a page is in its life: `empty → loading → ready`, then
`ready → updating → ready` at each rebuild, and from any but the first to `failed`,
where it stays. -/
inductive PageState where
  | empty
  | loading
  | ready
  | updating
  | failed
deriving DecidableEq, Repr

/-- The written form. -/
def PageState.text : PageState → String
  | empty => "EMPTY"
  | loading => "LOADING"
  | ready => "READY"
  | updating => "UPDATING"
  | failed => "ERROR"

/-! ## Data -/

/-- Rows, one for each instant, as named columns. -/
structure PageData (α : Type) where
  times : List Instant
  columns : List (String × List α)

namespace PageData

variable {α : Type}

/-- Number of rows. -/
def length (d : PageData α) : Nat := d.times.length

/-- Whether there are no rows. -/
def isEmpty (d : PageData α) : Bool := d.times.isEmpty

/-- The column of a name. -/
def column? (d : PageData α) (name : String) : Option (List α) := d.columns.lookup name

end PageData

/-- What a reader sees of a page. -/
structure Snapshot (α : Type) where
  state : PageState
  /-- The data last worked out; they stay while new ones are worked out. -/
  data : Option (PageData α)
  /-- Why the page failed. -/
  failure : Option String
  /-- How many times the state has changed. -/
  revision : Nat

namespace Snapshot

variable {α : Type}

/-- A page at its very start. -/
def initial : Snapshot α := ⟨.empty, none, none, 0⟩

/-- Whether there are data. -/
def hasData (s : Snapshot α) : Bool := s.data.isSome

/-- What one who waits for a page to be ready learns: its data, why there are none, or
nothing yet. A page that was discarded before will never be ready. -/
def outcome? (s : Snapshot α) (id : PageId) (discarded : Bool) :
    Option (Except PageError (PageData α)) :=
  match s.state, s.data with
  | .ready, some data => some (.ok data)
  | .ready, none | .failed, _ => some (.error (.computation (s.failure.getD "page failed")))
  | _, _ =>
    if discarded then some (.error (.computation s!"{id.text} was discarded")) else none

end Snapshot

/-! ## Notices -/

/-- What a page tells of itself. -/
inductive Notice where
  | stateChanged (old new : PageState)
  /-- Data were replaced while the page stayed ready. -/
  | dataChanged
deriving DecidableEq, Repr

/-- What a listener is told of a page. -/
structure PageEvent where
  page : PageId
  notice : Notice
deriving DecidableEq, Repr

/-- What a step tells each listener, in order. -/
abbrev Post := ListenerId → List Notice

namespace Post

/-- Nothing to anyone. -/
def silent : Post := fun _ => []

/-- One post after another. -/
def append (a b : Post) : Post := fun l => a l ++ b l

instance : Append Post := ⟨append⟩

/-- A post is read listener by listener. -/
@[simp] theorem append_apply (a b : Post) (l : ListenerId) : (a ++ b) l = a l ++ b l := rfl

/-- A silent post tells a listener nothing. -/
@[simp] theorem silent_apply (l : ListenerId) : silent l = [] := rfl

end Post

end MarketConditions
