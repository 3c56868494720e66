import MarketConditions.Page.Basic
import MarketConditions.Page.Key

/-!
# The life of a page

A page acts on its own: it takes commands from its queue one at a time, works its data
out, and tells its listeners what changed. At most one computation is in flight; refreshes
asked for meanwhile become one that follows it.

- `Page` — a page with its queue
- `Page.create` — a page at its first load
- `Page.handle`, `Page.handleNext` — what a command does
- `Page.finish` — what the end of a computation does
-/

namespace MarketConditions

/-- How a page takes up new source data. -/
inductive RefreshMode where
  /-- The page is updating until the new data are there. -/
  | rebuild
  /-- The page stays ready, and listeners are told that its data changed. -/
  | inPlace
deriving DecidableEq, Repr

/-- One refresh in place of two: a rebuild if either is one. -/
def RefreshMode.merge : RefreshMode → RefreshMode → RefreshMode
  | inPlace, inPlace => inPlace
  | _, _ => rebuild

/-- What a page asks of a computation. -/
inductive Work where
  | load
  | refresh (mode : RefreshMode)
deriving DecidableEq, Repr

/-- A computation in flight: what it was asked for, and its number among the computations
of its page, counted from zero. -/
structure Flight where
  work : Work
  number : Nat
deriving DecidableEq, Repr

/-- A change of state with the number of changes up to it. -/
structure Transition where
  revision : Nat
  old : PageState
  new : PageState
deriving DecidableEq, Repr

/-- What listeners are told of a change of state. -/
def Transition.notice (t : Transition) : Notice := .stateChanged t.old t.new

/-- What can be asked of a page. -/
inductive Command where
  /-- A listener joins, having seen the page at a revision. -/
  | attach (listener : ListenerId) (seen : Nat)
  | detach (listener : ListenerId)
  | refresh (mode : RefreshMode)
  | shutdown
deriving DecidableEq, Repr

/-- A page. -/
structure Page (α : Type) where
  id : PageId
  key : PageKey
  snapshot : Snapshot α
  /-- The computation in flight. -/
  running : Option Flight
  /-- Number of computations started so far. -/
  started : Nat
  /-- The refresh that follows it. -/
  pending : Option RefreshMode
  /-- The latest changes of state, oldest first. -/
  history : List Transition
  /-- One entry for each request that has been taken up. -/
  attached : List ListenerId
  /-- Commands not yet taken up, oldest first. -/
  queue : List Command
  /-- Whether the page has taken up its shutdown, the last thing it does. -/
  discarded : Bool

namespace Page

variable {α : Type}

/-- Where the page is in its life. -/
def state (p : Page α) : PageState := p.snapshot.state

/-! ## Changes of state -/

/-- Number of changes that are kept for listeners who join late. -/
def historyLength : Nat := 16

/-- Keeps one more change, and lets the oldest go when there are too many. -/
def remember (history : List Transition) (t : Transition) : List Transition :=
  (if history.length = historyLength then history.tail else history) ++ [t]

/-- The same notice to everyone attached. -/
def broadcast (p : Page α) (n : Notice) : Post := fun l => if l ∈ p.attached then [n] else []

/-- Shows readers a state with data and failure, all at once. A change of state counts and
is remembered. -/
def publish (p : Page α) (new : PageState) (data : Option (PageData α))
    (failure : Option String) : Page α :=
  if p.state = new then { p with snapshot := ⟨new, data, failure, p.snapshot.revision⟩ }
  else
    let revision := p.snapshot.revision + 1
    { p with
      snapshot := ⟨new, data, failure, revision⟩
      history := remember p.history ⟨revision, p.state, new⟩ }

/-- Tells of a change of state, if it is one. -/
def announce (p : Page α) (old new : PageState) : Post :=
  if old = new then Post.silent else p.broadcast (.stateChanged old new)

/-- Goes over to a state, and tells of it. -/
def moveTo (p : Page α) (new : PageState) : Page α × Post :=
  (p.publish new p.snapshot.data p.snapshot.failure, p.announce p.state new)

/-! ## Commands -/

/-- Starts a computation. The page waits for this one and no longer for any before it. -/
def start (p : Page α) (w : Work) : Page α :=
  { p with running := some ⟨w, p.started⟩, started := p.started + 1 }

/-- A page at its first load, attached to the listener who asked for it. -/
def create (id : PageId) (key : PageKey) (l : ListenerId) : Page α × Post :=
  let p : Page α :=
    { id, key, snapshot := Snapshot.initial, running := none, started := 0, pending := none,
      history := [], attached := [l], queue := [], discarded := false }
  let (p, post) := p.moveTo .loading
  (p.start .load, post)

/-- A listener joins, and is told the remembered changes later than the one it has seen. -/
def attach (p : Page α) (l : ListenerId) (seen : Nat) : Page α × Post :=
  ({ p with attached := p.attached ++ [l] },
    fun other =>
      if other = l then (p.history.filter fun t => seen < t.revision).map Transition.notice
      else [])

/-- One request of a listener ends. -/
def detach (p : Page α) (l : ListenerId) : Page α := { p with attached := p.attached.erase l }

/-- Takes up new source data: at once when the page is ready and nothing is in flight,
after the computation in flight if there is one, and otherwise not at all. -/
def refresh (p : Page α) (mode : RefreshMode) : Page α × Post :=
  if p.running.isSome then
    ({ p with pending := some ((p.pending.map (·.merge mode)).getD mode) }, Post.silent)
  else
    match p.state, mode with
    | .ready, .rebuild =>
      let (p, post) := p.moveTo .updating
      (p.start (.refresh .rebuild), post)
    | .ready, .inPlace => (p.start (.refresh .inPlace), Post.silent)
    | _, _ => (p, Post.silent)

/-- The page ends. What is in flight is let go, and readers keep what they see. -/
def shutdown (p : Page α) : Page α := { p with running := none, discarded := true }

/-- Takes up a command. A discarded page takes up none. -/
def handle (p : Page α) (c : Command) : Page α × Post :=
  if p.discarded then (p, Post.silent)
  else
    match c with
    | .attach l seen => p.attach l seen
    | .detach l => (p.detach l, Post.silent)
    | .refresh mode => p.refresh mode
    | .shutdown => (p.shutdown, Post.silent)

/-- Takes up the oldest command of the queue. -/
def handleNext (p : Page α) : Page α × Post :=
  match p.queue with
  | [] => (p, Post.silent)
  | c :: rest => { p with queue := rest }.handle c

/-- Takes up every command of the queue. -/
def handleAll (p : Page α) : Page α × Post :=
  p.queue.foldl (fun (p, post) _ =>
    let (p, more) := p.handleNext
    (p, post ++ more)) (p, Post.silent)

/-- Puts a command at the end of the queue. -/
def send (p : Page α) (c : Command) : Page α := { p with queue := p.queue ++ [c] }

/-! ## The end of a computation -/

/-- Shows new data. After a refresh in place listeners are told of the data, otherwise of
the change of state. -/
def succeed (p : Page α) (w : Work) (data : PageData α) : Page α × Post :=
  let post :=
    if w = .refresh .inPlace ∧ p.state = .ready then p.broadcast .dataChanged
    else p.announce p.state .ready
  (p.publish .ready (some data) none, post)

/-- Starts the refresh that was asked for meanwhile. -/
def takePending (p : Page α) : Page α × Post :=
  match p.pending with
  | none => (p, Post.silent)
  | some mode => { p with pending := none }.refresh mode

/-- What a failure is called on the page. -/
def failureText : PageError → String
  | .computation message => message
  | e => e.message

/-- Shows the failure, beside the data of before. No refresh follows. -/
def fail (p : Page α) (e : PageError) : Page α × Post :=
  ({ p.publish .failed p.snapshot.data (some (failureText e)) with pending := none },
    p.announce p.state .failed)

/-- The computation in flight ends. When nothing is in flight, nothing ends. -/
def finish (p : Page α) (result : Except PageError (PageData α)) : Page α × Post :=
  match p.running with
  | none => (p, Post.silent)
  | some flight =>
    let p := { p with running := none }
    match result with
    | .ok data =>
      let (p, post) := p.succeed flight.work data
      let (p, more) := p.takePending
      (p, post ++ more)
    | .error e => p.fail e

/-! ## Small lemmas -/

/-- Publishing leaves all but the snapshot and the history. -/
@[simp] theorem publish_running (p : Page α) (new : PageState) (data : Option (PageData α))
    (failure : Option String) : (p.publish new data failure).running = p.running := by
  unfold publish; split <;> rfl

@[simp] theorem publish_pending (p : Page α) (new : PageState) (data : Option (PageData α))
    (failure : Option String) : (p.publish new data failure).pending = p.pending := by
  unfold publish; split <;> rfl

@[simp] theorem publish_attached (p : Page α) (new : PageState) (data : Option (PageData α))
    (failure : Option String) : (p.publish new data failure).attached = p.attached := by
  unfold publish; split <;> rfl

/-- The published state is the one shown. -/
@[simp] theorem publish_state (p : Page α) (new : PageState) (data : Option (PageData α))
    (failure : Option String) : (p.publish new data failure).state = new := by
  unfold publish; split <;> rfl

/-- When a refresh starts, none is left to follow. -/
theorem takePending_pending (p : Page α) (h : p.running = none) :
    p.takePending.1.pending = none := by
  unfold takePending
  split
  · assumption
  · simp only [refresh, h]
    split
    · simp_all
    · split <;> simp [start, moveTo]

/-- Once a computation has ended, no refresh waits for the end of another. -/
theorem finish_pending (p : Page α) (result : Except PageError (PageData α))
    (h : p.running.isSome) : (p.finish result).1.pending = none := by
  unfold finish
  split
  · simp_all
  · cases result with
    | ok data => exact takePending_pending _ (by simp [succeed])
    | error e => rfl

end Page

end MarketConditions
