import MarketConditions.Page.Basic

/-!
# Listeners

A listener holds requests on pages and has an inbox. What pages send it waits there
until the listener takes it; what has come from pages it no longer holds a request on
is then dropped.

- `Listener.attach`, `Listener.detach` — requests begin and end
- `Listener.drain`, `Listener.dispatch`, `Listener.next?` — ways to take events
-/

namespace MarketConditions

/-- A listener. -/
structure Listener where
  /-- One entry for each outstanding request. -/
  requests : List PageId
  /-- Events not yet taken, oldest first. -/
  inbox : List PageEvent
deriving DecidableEq, Repr

namespace Listener

/-- A listener at its start. -/
def new : Listener := ⟨[], []⟩

/-- Whether the listener holds a request on a page. -/
def isAttached (l : Listener) (p : PageId) : Bool := l.requests.contains p

/-- One more request on a page. -/
def attach (l : Listener) (p : PageId) : Listener := { l with requests := p :: l.requests }

/-- One request less on a page. -/
def detach (l : Listener) (p : PageId) : Listener := { l with requests := l.requests.erase p }

/-- Puts a page's notices into the inbox. -/
def deliver (l : Listener) (p : PageId) (notices : List Notice) : Listener :=
  { l with inbox := l.inbox ++ notices.map (⟨p, ·⟩) }

/-! ## Taking events -/

/-- Whether an event comes from a page the listener is attached to. -/
def wants (l : Listener) (e : PageEvent) : Bool := l.isAttached e.page

/-- Takes every event, and gives those of attached pages. -/
def drain (l : Listener) : List PageEvent × Listener :=
  (l.inbox.filter l.wants, { l with inbox := [] })

/-- What is done with events. Nothing is done on changed data unless it is said. -/
structure Handler (σ : Type) where
  onStateChanged : σ → PageId → PageState → PageState → σ
  onDataChanged : σ → PageId → σ := fun s _ => s

/-- Handles one event. -/
def Handler.handle {σ : Type} (h : Handler σ) (s : σ) (e : PageEvent) : σ :=
  match e.notice with
  | .stateChanged old new => h.onStateChanged s e.page old new
  | .dataChanged => h.onDataChanged s e.page

/-- Takes every event and has those of attached pages handled; tells how many these were. -/
def dispatch {σ : Type} (l : Listener) (h : Handler σ) (s : σ) : (Nat × σ) × Listener :=
  let (events, l) := l.drain
  ((events.length, events.foldl h.handle s), l)

/-- Takes events up to the first of an attached page, and gives that one. -/
def next? (l : Listener) : Option PageEvent × Listener :=
  (l.inbox.find? l.wants, { l with inbox := (l.inbox.dropWhile (!l.wants ·)).drop 1 })

/-! ## Requests are counted -/

/-- Attaching counts one request more on that page and none on others. -/
theorem count_attach (l : Listener) (p q : PageId) :
    (l.attach p).requests.count q = l.requests.count q + if p = q then 1 else 0 := by
  simp [attach, List.count_cons]

/-- Detaching from a page that is attached counts one request less on that page and leaves
others. -/
theorem count_detach (l : Listener) (p q : PageId) (h : l.isAttached p) :
    (l.detach p).requests.count q + (if p = q then 1 else 0) = l.requests.count q := by
  have held : 0 < l.requests.count p := by
    rw [List.count_pos_iff]
    simpa [isAttached] using h
  by_cases same : p = q
  · subst same
    simp only [detach, List.count_erase_self, if_true]
    omega
  · simp [detach, same, List.count_erase_of_ne (Ne.symm same)]

end Listener

end MarketConditions
