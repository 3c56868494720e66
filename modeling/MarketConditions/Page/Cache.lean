import MarketConditions.Page.Life
import MarketConditions.Page.Listener

/-!
# The page cache

Pages are shared: all requests for one key get one page, and the page is discarded when
the last of them is released. A failed page is replaced at the next request for its key;
releases of the replaced page do not count for the new one.

- `PageCache.request`, `PageCache.release` — requests begin and end
- `PageCache.sourceUpdated` — asks pages to take up new source data
- `PageCache.handleNext`, `PageCache.handleAll`, `PageCache.finish` — a page acts, and
  what it tells reaches the inboxes
-/

namespace MarketConditions

/-- A page that is given to all who ask for its key. -/
structure Lease where
  key : PageKey
  page : PageId
  /-- Outstanding requests. -/
  requests : Nat
deriving DecidableEq, Repr

/-- Pages and listeners. -/
structure PageCache (α : Type) where
  /-- Every page made so far, each at its place. -/
  pages : List (Page α)
  /-- The pages that are shared, at most one for each key. -/
  leases : List Lease
  /-- Every listener that joined, each at its place, while it stays. -/
  listeners : List (Option Listener)

namespace PageCache

variable {α : Type}

/-- No pages and no listeners. -/
def empty : PageCache α := ⟨[], [], []⟩

/-- A page. -/
def page? (c : PageCache α) (id : PageId) : Option (Page α) := c.pages[id.place]?

/-- A listener that has not left. -/
def listener? (c : PageCache α) (l : ListenerId) : Option Listener := c.listeners[l.place]?.join

/-- The page shared under a key. -/
def lease? (c : PageCache α) (k : PageKey) : Option Lease := c.leases.find? (·.key = k)

/-- Number of shared pages. -/
def pageCount (c : PageCache α) : Nat := c.leases.length

/-! ## Listeners -/

/-- A new listener joins. -/
def join (c : PageCache α) : ListenerId × PageCache α :=
  (⟨c.listeners.length⟩, { c with listeners := c.listeners ++ [some .new] })

/-- A listener leaves without releasing what it holds. -/
def leave (c : PageCache α) (l : ListenerId) : PageCache α :=
  { c with listeners := c.listeners.set l.place none }

/-- Changes a listener. -/
def withListener (c : PageCache α) (l : ListenerId) (f : Listener → Listener) : PageCache α :=
  { c with listeners := c.listeners.modify l.place (Option.map f) }

/-- Puts what a page tells into the inboxes. -/
def deliver (c : PageCache α) (p : PageId) (post : Post) : PageCache α :=
  { c with
    listeners := c.listeners.mapIdx fun place l => l.map (·.deliver p (post ⟨place⟩)) }

/-! ## Pages act -/

/-- Lets a page act, and delivers what it tells. -/
def act (c : PageCache α) (id : PageId) (step : Page α → Page α × Post) : PageCache α :=
  match c.page? id with
  | none => c
  | some p =>
    let (p, post) := step p
    { c with pages := c.pages.set id.place p }.deliver id post

/-- Puts a command into a page's queue. -/
def send (c : PageCache α) (id : PageId) (command : Command) : PageCache α :=
  { c with pages := c.pages.modify id.place (·.send command) }

/-- A page takes up its oldest command. -/
def handleNext (c : PageCache α) (id : PageId) : PageCache α := c.act id Page.handleNext

/-- A page takes up all of its commands. -/
def handleAll (c : PageCache α) (id : PageId) : PageCache α := c.act id Page.handleAll

/-- The computation of a page ends. -/
def finish (c : PageCache α) (id : PageId) (result : Except PageError (PageData α)) :
    PageCache α :=
  c.act id (·.finish result)

/-! ## Requests -/

/-- Counts the requests on the page of a key anew. -/
def recount (c : PageCache α) (k : PageKey) (count : Nat → Nat) : PageCache α :=
  { c with
    leases := c.leases.map fun e =>
      if e.key = k then { e with requests := count e.requests } else e }

/-- One more request on a shared page. It joins with the revision the page shows now. -/
def share (c : PageCache α) (e : Lease) (p : Page α) (l : ListenerId) : PageCache α :=
  ((c.recount e.key (· + 1)).send e.page (.attach l p.snapshot.revision)).withListener l
    (·.attach e.page)

/-- A new page for a key, shared from now on. -/
def create (c : PageCache α) (k : PageKey) (l : ListenerId) : PageId × PageCache α :=
  let id : PageId := ⟨c.pages.length⟩
  let (p, post) := Page.create id k l
  let c : PageCache α := { c with pages := c.pages ++ [p], leases := c.leases ++ [⟨k, id, 1⟩] }
  (id, (c.deliver id post).withListener l (·.attach id))

/-- The page under a key is shared no longer, and is told to end. -/
def retire (c : PageCache α) (e : Lease) : PageCache α :=
  { c with leases := c.leases.filter (·.key ≠ e.key) }.send e.page .shutdown

/-- A listener asks for the page of a key: the one that is shared, unless it has failed, and
otherwise a new one. -/
def request (c : PageCache α) (k : PageKey) (l : ListenerId) : PageId × PageCache α :=
  match c.lease? k with
  | none => c.create k l
  | some e =>
    match c.page? e.page with
    | none => c.create k l
    | some p =>
      if p.state = .failed then (c.retire e).create k l else (e.page, c.share e p l)

/-- One request less on a shared page, which ends with its last. -/
def giveUp (c : PageCache α) (e : Lease) (l : ListenerId) : PageCache α :=
  if e.requests ≤ 1 then c.retire e
  else (c.recount e.key (· - 1)).send e.page (.detach l)

/-- A listener releases one of its requests on a page. Tells whether it held one. -/
def release (c : PageCache α) (id : PageId) (l : ListenerId) : Bool × PageCache α :=
  if (c.listener? l).any (·.isAttached id) then
    let c := c.withListener l (·.detach id)
    match c.leases.find? (·.page = id) with
    | none => (true, c)
    | some e => (true, c.giveUp e l)
  else (false, c)

/-- Every shared page of a symbol at a timeframe takes up new source data. Tells how
many these are. -/
def sourceUpdated (c : PageCache α) (symbol : String) (timeframe : Timeframe)
    (mode : RefreshMode) : Nat × PageCache α :=
  let affected := c.leases.filter (·.key.covers symbol timeframe)
  (affected.length, affected.foldl (fun c e => c.send e.page (.refresh mode)) c)

/-! ## Reading -/

/-- A listener takes events in some way; a listener that has left takes none. -/
def take {β : Type} (c : PageCache α) (l : ListenerId) (way : Listener → β × Listener) :
    Option β × PageCache α :=
  match c.listener? l with
  | none => (none, c)
  | some listener =>
    let (taken, listener) := way listener
    (some taken, c.withListener l fun _ => listener)

/-- What one who waits for a page to be ready learns now. -/
def outcome? (c : PageCache α) (id : PageId) : Option (Except PageError (PageData α)) :=
  (c.page? id).bind fun p => p.snapshot.outcome? id p.discarded

end PageCache

end MarketConditions
