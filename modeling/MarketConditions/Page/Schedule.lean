import MarketConditions.Page.Cache
import MarketConditions.Page.Slots

/-!
# When pages act and computations run

Pages act in the order in which they were made or first sent a command since they last
acted. The computations that they start share slots. A computation holds its slot until it
ends, or until its page is discarded; in the latter case it still runs to its end, for
nothing. One that has not begun when its page is discarded never runs.

- `Schedule` — a page cache with the pages that have to act, and the computations
- `Schedule.flush` — pages take up their commands
- `Schedule.settle` — then computations end, one after another, until all is quiet
-/

namespace MarketConditions

/-- A page cache with what is to be done. A page has at most one computation in flight,
which is named by the page. -/
structure Schedule (α : Type) where
  cache : PageCache α
  /-- The computations in flight. -/
  slots : Slots
  /-- Pages that have to act, in the order in which they were called to. -/
  due : List PageId
  /-- Number of computations that still run for pages that were discarded. -/
  abandoned : Nat
  /-- Number of computations that have ended. -/
  completed : Nat

namespace Schedule

variable {α : Type}

/-- No pages yet; there is at least one slot. -/
def new (workers : Nat) : Schedule α := ⟨.empty, .free (Nat.max workers 1), [], 0, 0⟩

/-- Goes over to another cache. Pages that are new or are sent a command get in line,
unless they stand there already. -/
def withCache (s : Schedule α) (cache : PageCache α) : Schedule α :=
  let isNew := fun p : Page α => decide (s.cache.pages.length ≤ p.id.place)
  let called := cache.pages.filter fun p =>
    (isNew p || !p.queue.isEmpty) && !s.due.contains p.id
  { s with cache, due := s.due ++ called.map Page.id }

/-- Changes the cache without starting or stopping a computation. -/
def mapCache {β : Type} (s : Schedule α) (f : PageCache α → β × PageCache α) : β × Schedule α :=
  let (b, cache) := f s.cache
  (b, s.withCache cache)

/-- A listener asks for a page; the load of a new page asks for a slot. -/
def request (s : Schedule α) (k : PageKey) (l : ListenerId) : PageId × Schedule α :=
  let isNew := fun cache : PageCache α => s.cache.pages.length < cache.pages.length
  let (id, s) := s.mapCache (·.request k l)
  (id, if isNew s.cache then { s with slots := s.slots.ask id } else s)

/-- Whether a computation of a page is in flight. -/
def isRunning (c : PageCache α) (id : PageId) : Bool := (c.page? id).any (·.running.isSome)

/-- A page has acted: its computation asks for a slot if it is new, and lets go if it is
no longer in flight. -/
def follow (s : Schedule α) (id : PageId) (cache : PageCache α) : Schedule α :=
  match isRunning cache id, s.slots.all.contains id with
  | true, false => { s with cache, slots := s.slots.ask id }
  | false, true =>
    { s with
      cache
      slots := s.slots.letGo id
      abandoned := s.abandoned + if s.slots.active.contains id then 1 else 0 }
  | _, _ => { s with cache }

/-- A page takes up its commands. -/
def handle (s : Schedule α) (id : PageId) : Schedule α := s.follow id (s.cache.handleAll id)

/-- Pages take up their commands, and the computations that got a slot by that begin. None
ends. -/
def flush (s : Schedule α) : Schedule α :=
  let s := s.due.foldl handle { s with due := [] }
  { s with slots := s.slots.start }

/-- The computation of a page ends with what the source gives then. -/
def finish (source : PageKey → Except PageError (PageData α)) (s : Schedule α) (id : PageId) :
    Schedule α :=
  match s.cache.page? id with
  | none => s
  | some p =>
    { s with completed := s.completed + 1 }.follow id (s.cache.finish id (source p.key))

/-- The computations in flight end, in order; those they start are in flight then. -/
def round (source : PageKey → Except PageError (PageData α)) (s : Schedule α) : Schedule α :=
  s.slots.all.foldl (finish source) { s with slots := .free s.slots.size }

/-- Pages take up their commands, and all computations end: those in flight, and then the
refreshes that were waiting for their ends. No refresh waits for the end of these. -/
def settle (source : PageKey → Except PageError (PageData α)) (s : Schedule α) : Schedule α :=
  let s := s.flush
  round source
    (round source { s with completed := s.completed + s.abandoned, abandoned := 0 })

end Schedule

end MarketConditions
