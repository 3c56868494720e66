import MarketConditions.Proofs.Page.Events

/-!
# The chronicle of a page

A page forgets: its history keeps sixteen changes, and of a computation it knows only the
one it waits for. To state what holds along a whole run we keep a record beside the page,
which watches it from outside and never tells it anything.

- `Page.Event`, `Page.react`: what can happen to a page that is kept, and what it does
  then. Events come in any order; a computation ends when it likes, and a command waits in
  the queue as long as it likes.
- `Chronicle`: a page with the record of its life. `Chronicle.record` reads every entry
  off the page before and after one event: a computation was started when the count of
  started ones rose, a change of state took place when the history holds one with a
  later revision.
- `Chronicle.run`: the record of a run of events.
-/

namespace MarketConditions

variable {α : Type}

/-- A page with the record of its life. Moments are counted in events. -/
structure Chronicle (α : Type) where
  page : Page α
  /-- The moment of the next event. -/
  now : Nat
  /-- Every change of state so far, oldest first. -/
  changes : List Transition
  /-- All that was told to each listener so far. -/
  told : Post
  /-- The computations that were started and have not ended. -/
  inFlight : List Nat
  /-- The moment at which each computation was started. -/
  starts : List Nat
  /-- The last computation that gave data, with these data. -/
  delivered : Option (Nat × PageData α)
  /-- The moment at which the last refresh was taken up. -/
  asked : Option Nat
  /-- The refreshes taken up while the present computation was in flight, oldest first. -/
  waiting : List RefreshMode

namespace Chronicle

/-- The chronicle of a new page. Its making is the event of moment 0. -/
def new (id : PageId) (key : PageKey) (l : ListenerId) : Chronicle α :=
  let made : Page α × Post := Page.create id key l
  { page := made.1
    now := 1
    changes := made.1.history
    told := made.2
    inFlight := List.range made.1.started
    starts := List.replicate made.1.started 0
    delivered := none
    asked := none
    waiting := [] }

/-- Lets an event happen, and records it. -/
def record (r : Chronicle α) (e : Page.Event α) : Chronicle α :=
  let page := (r.page.react e).1
  let started := page.started - r.page.started
  { page
    now := r.now + 1
    changes := r.changes ++ r.page.changesTo page
    told := r.told ++ (r.page.react e).2
    inFlight := r.inFlight.filter (fun n => (r.page.ending e).all (·.number ≠ n)) ++
      List.range' r.page.started started
    starts := r.starts ++ List.replicate started r.now
    delivered := (r.page.dataBrought e).or r.delivered
    asked := ((r.page.refreshTakenUp e).map fun _ => r.now).or r.asked
    waiting :=
      if (r.page.ending e).isSome then []
      else if r.page.running.isSome then r.waiting ++ (r.page.refreshTakenUp e).toList
      else r.waiting }

/-- Lets events happen one after the other. -/
def run (r : Chronicle α) (events : List (Page.Event α)) : Chronicle α := events.foldl record r

@[simp] theorem run_nil (r : Chronicle α) : r.run [] = r := rfl

@[simp] theorem run_cons (r : Chronicle α) (e : Page.Event α) (events : List (Page.Event α)) :
    r.run (e :: events) = (r.record e).run events := rfl

/-- What holds of the chronicle of a new page, and goes on to hold whatever happens next,
holds of every chronicle. -/
theorem run_induction {P : Chronicle α → Prop} {r : Chronicle α} (start : P r)
    (step : ∀ r e, P r → P (r.record e)) (events : List (Page.Event α)) : P (r.run events) := by
  induction events generalizing r with
  | nil => exact start
  | cons e events ih => exact ih (step r e start)

end Chronicle

end MarketConditions
