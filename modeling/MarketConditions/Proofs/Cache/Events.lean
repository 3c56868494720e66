import MarketConditions.Proofs.Cache.Views
import MarketConditions.Proofs.Page.Steps

/-!
# What happens to a page cache

Listeners join and leave, ask for pages, release them and take their events; source data
change; pages take up their commands and computations end. A run is any list of these,
in any order: a command waits in its queue as long as it likes, and a computation ends
when it likes.

- `PageCache.Event`, `PageCache.react`: what can happen, and what the cache does then.
  A listener does not leave while it holds a request, and only one that is there can
  ask for a page.
- `PageCache.Happens`, `PageCache.happens`: inversion. Every event does one of these things.
-/

namespace MarketConditions

variable {α : Type}

namespace PageCache

/-! ## Events -/

/-- What can happen to a page cache. -/
inductive Event (α : Type) where
  | joined
  | left (l : ListenerId)
  | requested (k : PageKey) (l : ListenerId)
  | released (id : PageId) (l : ListenerId)
  | updated (symbol : String) (timeframe : Timeframe) (mode : RefreshMode)
  /-- A page takes up its oldest command. -/
  | takenUp (id : PageId)
  /-- The computation of a page ends. -/
  | ended (id : PageId) (result : Except PageError (PageData α))
  /-- A listener takes all its events. -/
  | drained (l : ListenerId)
  /-- A listener takes its next event. -/
  | polled (l : ListenerId)

/-- Whether a listener has nothing to release before it may leave. -/
def isFree (c : PageCache α) (l : ListenerId) : Bool :=
  (c.listener? l).any (·.requests.isEmpty)

/-- What the cache does. -/
def react (c : PageCache α) : Event α → PageCache α
  | .joined => c.join.2
  | .left l => if c.isFree l then c.leave l else c
  | .requested k l => if (c.listener? l).isSome then (c.request k l).2 else c
  | .released id l => (c.release id l).2
  | .updated symbol timeframe mode => (c.sourceUpdated symbol timeframe mode).2
  | .takenUp id => c.handleNext id
  | .ended id result => c.finish id result
  | .drained l => (c.take l Listener.drain).2
  | .polled l => (c.take l Listener.next?).2

/-- What a page does of its own accord in an event. -/
def Event.own? : Event α → Option (PageId × Page.Event α)
  | .takenUp id => some (id, .takenUp)
  | .ended id result => some (id, .ended result)
  | _ => none

/-- Taking events shortens the inbox and leaves the requests. -/
structure Taking (x x' : Listener) : Prop where
  requests : x'.requests = x.requests
  inbox : x'.inbox.length ≤ x.inbox.length

theorem taking_drain (x : Listener) : Taking x x.drain.2 := ⟨rfl, Nat.zero_le _⟩

theorem taking_next? (x : Listener) : Taking x x.next?.2 where
  requests := rfl
  inbox := by
    show ((x.inbox.dropWhile _).drop 1).length ≤ _
    rw [List.length_drop]
    have := (List.dropWhile_suffix (!x.wants ·) (l := x.inbox)).length_le
    omega

/-! ## One command for several pages -/

/-- Sends a command to the pages of some leases. -/
def sendEach (c : PageCache α) (command : Command) (leases : List Lease) : PageCache α :=
  leases.foldl (fun c e => c.send e.page command) c

@[simp] theorem sendEach_nil (c : PageCache α) (command : Command) :
    c.sendEach command [] = c := rfl

@[simp] theorem sendEach_cons (c : PageCache α) (command : Command) (e : Lease)
    (leases : List Lease) :
    c.sendEach command (e :: leases) = (c.send e.page command).sendEach command leases := rfl

theorem listeners_sendEach (c : PageCache α) (command : Command) (leases : List Lease) :
    (c.sendEach command leases).listeners = c.listeners := by
  induction leases generalizing c with
  | nil => rfl
  | cons e leases ih => exact ih _

theorem leases_sendEach (c : PageCache α) (command : Command) (leases : List Lease) :
    (c.sendEach command leases).leases = c.leases := by
  induction leases generalizing c with
  | nil => rfl
  | cons e leases ih => exact ih _

/-- An update asks the pages of the leases that show the source to refresh. -/
theorem sourceUpdated_eq_sendEach (c : PageCache α) (symbol : String) (timeframe : Timeframe)
    (mode : RefreshMode) :
    (c.sourceUpdated symbol timeframe mode).2 =
      c.sendEach (.refresh mode) (c.leases.filter (·.key.covers symbol timeframe)) := rfl

/-! ## Inversion -/

/-- Why nothing comes of an event. -/
def Refuses (c : PageCache α) : Event α → Prop
  | .joined | .updated .. => False
  | .left l => c.isFree l = false
  | .requested _ l | .drained l | .polled l => c.listener? l = none
  | .released id l => c.held l id = 0
  | .takenUp id | .ended id _ => c.page? id = none

/-- What an event does to a cache. -/
inductive Happens (c : PageCache α) : Event α → PageCache α → Prop where
  | refused (e : Event α) (why : c.Refuses e) : Happens c e c
  | joined : Happens c .joined c.join.2
  | left (l : ListenerId) (x : Listener) (present : c.listener? l = some x)
      (free : x.requests = []) : Happens c (.left l) (c.leave l)
  | taken (e : Event α) (l : ListenerId) (x x' : Listener)
      (drained : e = .drained l ∨ e = .polled l)
      (present : c.listener? l = some x) (taking : Taking x x') :
      Happens c e (c.withListener l fun _ => x')
  /-- A page acts of its own accord. -/
  | acted (e : Event α) (id : PageId) (step : Page.Event α) (own : e.own? = some (id, step))
      (p : Page α) (found : c.page? id = some p) : Happens c e (c.act id (·.react step))
  /-- A page is shared that has not failed. -/
  | shared (k : PageKey) (l : ListenerId) (x : Listener) (present : c.listener? l = some x)
      (lease : Lease) (leased : lease ∈ c.leases) (key : lease.key = k) (p : Page α)
      (found : c.page? lease.page = some p) (well : p.state ≠ .failed) :
      Happens c (.requested k l) (c.share lease p l)
  /-- No page is shared under the key, so one is made. -/
  | created (k : PageKey) (l : ListenerId) (x : Listener) (present : c.listener? l = some x)
      (unused : ∀ lease ∈ c.leases, lease.key ≠ k) : Happens c (.requested k l) (c.create k l).2
  /-- A failed page is replaced by a new one. -/
  | replaced (k : PageKey) (l : ListenerId) (x : Listener) (present : c.listener? l = some x)
      (lease : Lease) (leased : lease ∈ c.leases) (key : lease.key = k) (p : Page α)
      (found : c.page? lease.page = some p) (failed : p.state = .failed) :
      Happens c (.requested k l) ((c.retire lease).create k l).2
  /-- A request ends on a page that is shared no longer. -/
  | orphaned (id : PageId) (l : ListenerId) (holds : 0 < c.held l id)
      (unshared : ∀ lease ∈ c.leases, lease.page ≠ id) :
      Happens c (.released id l) (c.withListener l (·.detach id))
  /-- One of several requests on a shared page ends. -/
  | loosened (l : ListenerId) (lease : Lease) (leased : lease ∈ c.leases)
      (holds : 0 < c.held l lease.page) (more : 1 < lease.requests) :
      Happens c (.released lease.page l)
        (((c.withListener l (·.detach lease.page)).recount lease.key (· - 1)).send lease.page
          (.detach l))
  /-- The last request on a shared page ends. -/
  | closed (l : ListenerId) (lease : Lease) (leased : lease ∈ c.leases)
      (holds : 0 < c.held l lease.page) (last : lease.requests ≤ 1) :
      Happens c (.released lease.page l)
        ((c.withListener l (·.detach lease.page)).retire lease)
  | updated (symbol : String) (timeframe : Timeframe) (mode : RefreshMode) :
      Happens c (.updated symbol timeframe mode) (c.sourceUpdated symbol timeframe mode).2

/-- Whoever is attached to a page holds a request on it. -/
theorem attached_iff_held (c : PageCache α) (l : ListenerId) (id : PageId) :
    (c.listener? l).any (·.isAttached id) = true ↔ 0 < c.held l id := by
  cases present : c.listener? l with
  | none => simp [held_of_none present]
  | some x =>
    rw [held_of_some present, List.count_pos_iff]
    simp [Listener.isAttached]

/-- A listener that is not attached releases nothing. -/
theorem release_of_not_held {c : PageCache α} {id : PageId} {l : ListenerId}
    (none : c.held l id = 0) : c.release id l = (false, c) := by
  unfold release
  rw [if_neg]
  rw [attached_iff_held]
  omega

/-- What a release does that is one. -/
theorem release_of_held {c : PageCache α} {id : PageId} {l : ListenerId}
    (holds : 0 < c.held l id) :
    c.release id l =
      (true, match c.leases.find? (·.page = id) with
        | none => c.withListener l (·.detach id)
        | some lease => (c.withListener l (·.detach id)).giveUp lease l) := by
  unfold release
  rw [if_pos ((attached_iff_held c l id).mpr holds)]
  show (match c.leases.find? (·.page = id) with
      | none => (true, c.withListener l (·.detach id))
      | some lease => (true, (c.withListener l (·.detach id)).giveUp lease l)) = _
  cases c.leases.find? (·.page = id) <;> rfl

/-- The page and the cache that a request leads to. -/
inductive Requests (c : PageCache α) (k : PageKey) (l : ListenerId) :
    PageId × PageCache α → Prop where
  | shared (lease : Lease) (leased : lease ∈ c.leases) (key : lease.key = k) (p : Page α)
      (found : c.page? lease.page = some p) (well : p.state ≠ .failed) :
      Requests c k l (lease.page, c.share lease p l)
  | created (unused : ∀ lease ∈ c.leases, lease.key ≠ k) : Requests c k l (c.create k l)
  | replaced (lease : Lease) (leased : lease ∈ c.leases) (key : lease.key = k) (p : Page α)
      (found : c.page? lease.page = some p) (failed : p.state = .failed) :
      Requests c k l ((c.retire lease).create k l)

theorem requests {c : PageCache α}
    (own : ∀ lease ∈ c.leases, (c.page? lease.page).isSome) (k : PageKey) (l : ListenerId) :
    Requests c k l (c.request k l) := by
  unfold request lease?
  cases sharing : c.leases.find? (·.key = k) with
  | none =>
    refine .created fun lease leased same => ?_
    exact List.find?_eq_none.mp sharing lease leased (decide_eq_true same)
  | some lease =>
    have leased := List.mem_of_find?_eq_some sharing
    have key : lease.key = k := of_decide_eq_true (List.find?_some sharing :)
    obtain ⟨p, found⟩ := Option.isSome_iff_exists.mp (own lease leased)
    simp only [found]
    split
    · rename_i failed
      exact .replaced lease leased key p found failed
    · rename_i well
      exact .shared lease leased key p found well

theorem happens_requested {c : PageCache α}
    (own : ∀ lease ∈ c.leases, (c.page? lease.page).isSome) (k : PageKey) (l : ListenerId) :
    Happens c (.requested k l) (c.react (.requested k l)) := by
  show Happens c _ (if (c.listener? l).isSome then (c.request k l).2 else c)
  cases present : c.listener? l with
  | none => exact .refused _ present
  | some x =>
    show Happens c _ (c.request k l).2
    have asks := requests own k l
    generalize c.request k l = reply at asks ⊢
    cases asks with
    | shared lease leased key p found well =>
      exact .shared k l x present lease leased key p found well
    | created unused => exact .created k l x present unused
    | replaced lease leased key p found failed =>
      exact .replaced k l x present lease leased key p found failed

theorem happens_released (c : PageCache α) (id : PageId) (l : ListenerId) :
    Happens c (.released id l) (c.react (.released id l)) := by
  show Happens c _ (c.release id l).2
  rcases Nat.eq_zero_or_pos (c.held l id) with none | holds
  · rw [release_of_not_held none]
    exact .refused _ none
  · rw [release_of_held holds]
    cases sharing : c.leases.find? (·.page = id) with
    | none =>
      refine .orphaned id l holds fun lease leased same => ?_
      exact List.find?_eq_none.mp sharing lease leased (decide_eq_true same)
    | some lease =>
      have leased := List.mem_of_find?_eq_some sharing
      have page : lease.page = id := of_decide_eq_true (List.find?_some sharing :)
      subst page
      show Happens c _ (giveUp _ lease l)
      unfold giveUp
      split
      · rename_i last
        exact .closed l lease leased holds last
      · rename_i more
        exact .loosened l lease leased holds (Nat.lt_of_not_le more)

theorem happens_taken (c : PageCache α) (e : Event α) (l : ListenerId) {β : Type}
    (way : Listener → β × Listener) (taking : ∀ x, Taking x (way x).2)
    (drained : e = .drained l ∨ e = .polled l) : Happens c e (c.take l way).2 := by
  unfold take
  cases present : c.listener? l with
  | none =>
    refine .refused e ?_
    rcases drained with rfl | rfl <;> exact present
  | some x => exact .taken e l x _ drained present (taking x)

theorem happens_own (c : PageCache α) (e : Event α) {id : PageId} {step : Page.Event α}
    (own : e.own? = some (id, step)) (refused : c.page? id = none → c.Refuses e) :
    Happens c e (c.act id (·.react step)) := by
  cases found : c.page? id with
  | none =>
    rw [act_of_none c id found]
    exact .refused e (refused found)
  | some p => exact .acted e id step own p found

/-- **Inversion.** Every event does one of these things to a cache whose leases
are of pages. -/
theorem happens {c : PageCache α} (own : ∀ lease ∈ c.leases, (c.page? lease.page).isSome)
    (e : Event α) : Happens c e (c.react e) := by
  cases e with
  | joined => exact .joined
  | left l =>
    show Happens c _ (if c.isFree l then c.leave l else c)
    cases free : c.isFree l with
    | false => exact .refused _ free
    | true =>
      unfold isFree at free
      cases present : c.listener? l with
      | none =>
        rw [present] at free
        cases free
      | some x =>
        rw [present] at free
        exact .left l x present (List.isEmpty_iff.mp free)
  | requested k l => exact happens_requested own k l
  | released id l => exact happens_released c id l
  | updated symbol timeframe mode => exact .updated symbol timeframe mode
  | takenUp id => exact happens_own c (.takenUp id) rfl fun missing => missing
  | ended id result => exact happens_own c (.ended id result) rfl fun missing => missing
  | drained l => exact happens_taken c _ l _ taking_drain (.inl rfl)
  | polled l => exact happens_taken c _ l _ taking_next? (.inr rfl)

end PageCache

end MarketConditions
