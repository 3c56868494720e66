import Mathlib.Algebra.GroupWithZero.Nat
import Mathlib.Algebra.Order.Group.Nat
import Mathlib.Data.List.Basic
import MarketConditions.Page.Cache

/-!
# What can be seen of a page cache

A cache keeps its pages, the shared ones among them, and its listeners in three lists.
Everything it does is put together from a few small changes of these. This module says
once what each of them does to the views that the laws of the cache are stated in, so that
later proofs need not open them again.

- `PageCache.held`, `PageCache.total`: the outstanding requests on a page, of one
  listener and of all.
- `PageCache.inbox`: what a listener has been sent and has not taken yet.
- `PageCache.news`: what a listener is told of a page between two moments.
- `PageCache.opened`: a page is made and told of first, and then held, which splits the
  making of one into a delivery and a request.
-/

namespace MarketConditions

variable {α : Type}

/-- One change in a list changes a sum over it by as much. -/
theorem sum_map_modify {β : Type} (g : β → Nat) (f : β → β) {xs : List β} {i : Nat} {x : β}
    (found : xs[i]? = some x) :
    ((xs.modify i f).map g).sum + g x = (xs.map g).sum + g (f x) := by
  induction xs generalizing i with
  | nil => cases found
  | cons y ys ih =>
    cases i with
    | zero =>
      cases found
      simp only [List.modify_zero_cons, List.map_cons, List.sum_cons]
      omega
    | succ i =>
      have rest := ih (i := i) (by simpa using found)
      simp only [List.modify_succ_cons, List.map_cons, List.sum_cons]
      omega

/-- An entry that is added stands behind all there were. -/
theorem getElem?_concat {β : Type} (xs : List β) (x : β) (i : Nat) :
    (xs ++ [x])[i]? = if i = xs.length then some x else xs[i]? := by
  split
  · rename_i last
    rw [last, List.getElem?_concat_length]
  · rename_i other
    rw [List.getElem?_append]
    split
    · rfl
    · rw [List.getElem?_eq_none (by simp; omega), List.getElem?_eq_none (by omega)]

theorem PageId.eq_iff {a b : PageId} : a = b ↔ a.place = b.place :=
  ⟨congrArg _, fun same => by cases a; cases b; cases same; rfl⟩

theorem ListenerId.eq_iff {a b : ListenerId} : a = b ↔ a.place = b.place :=
  ⟨congrArg _, fun same => by cases a; cases b; cases same; rfl⟩

namespace PageCache

/-- Requests on a page that are outstanding at a listener's place. One that has left
holds none. -/
def requestsOn (id : PageId) : Option Listener → Nat
  | none => 0
  | some l => l.requests.count id

/-- Outstanding requests of a listener on a page. -/
def held (c : PageCache α) (l : ListenerId) (id : PageId) : Nat := requestsOn id (c.listener? l)

/-- Outstanding requests on a page, of all listeners together. -/
def total (c : PageCache α) (id : PageId) : Nat := (c.listeners.map (requestsOn id)).sum

/-- Events that a listener has been sent and has not taken. -/
def inbox (c : PageCache α) (l : ListenerId) : List PageEvent :=
  (c.listener? l).elim [] Listener.inbox

/-- What a listener has been told of a page, as its inbox grew from one cache to the
other. -/
def news (before after : PageCache α) (l : ListenerId) (id : PageId) : List Notice :=
  (((after.inbox l).drop (before.inbox l).length).filter (·.page = id)).map PageEvent.notice

/-! ## Pages -/

section Pages

variable (c : PageCache α) (id other : PageId)

theorem page?_send (command : Command) :
    (c.send id command).page? other =
      if other = id then (c.page? other).map (·.send command) else c.page? other := by
  unfold send page?
  rw [List.getElem?_modify]
  simp only [PageId.eq_iff]
  by_cases same : other.place = id.place
  · simp [same]
  · simp [same, Ne.symm same]

theorem page?_act {p : Page α} (found : c.page? id = some p)
    (step : Page α → Page α × Post) :
    (c.act id step).page? other = if other = id then some (step p).1 else c.page? other := by
  unfold act
  rw [found]
  show (c.pages.set id.place (step p).1)[other.place]? = _
  rw [List.getElem?_set]
  have bound : id.place < c.pages.length := (List.getElem?_eq_some_iff.mp found).1
  by_cases same : other = id
  · subst same
    simp [bound]
  · rw [if_neg same, if_neg fun places => same (PageId.eq_iff.mpr places.symm)]
    rfl

/-- A cache in which there is no such page does nothing for it. -/
theorem act_of_none (missing : c.page? id = none) (step : Page α → Page α × Post) :
    c.act id step = c := by
  unfold act
  rw [missing]

theorem page?_create (k : PageKey) (l : ListenerId) :
    (c.create k l).2.page? other =
      if other = (c.create k l).1 then some (Page.create (c.create k l).1 k l).1
      else c.page? other := by
  simp only [PageId.eq_iff]
  exact getElem?_concat c.pages _ other.place

/-- The page that is made is not one of those there were. -/
theorem page?_created (k : PageKey) (l : ListenerId) : c.page? (c.create k l).1 = none :=
  List.getElem?_eq_none (Nat.le_refl _)

/-- Nor is the page that replaces one of them. -/
theorem page?_replacing (c : PageCache α) (lease : Lease) (k : PageKey) (l : ListenerId) :
    c.page? ((c.retire lease).create k l).1 = none := by
  refine List.getElem?_eq_none (Nat.le_of_eq ?_)
  exact (List.length_modify _ _ _).symm

/-- A page that is replaced is told to end. -/
theorem page?_replaced {c : PageCache α} {lease : Lease} {p : Page α}
    (found : c.page? lease.page = some p) (k : PageKey) (l : ListenerId) :
    ((c.retire lease).create k l).2.page? lease.page = some (p.send .shutdown) := by
  have retired : (c.retire lease).page? lease.page = some (p.send .shutdown) := by
    refine (page?_send c lease.page lease.page .shutdown).trans ?_
    rw [if_pos rfl, found]
    rfl
  rw [page?_create, if_neg, retired]
  intro new
  rw [new, page?_created] at retired
  cases retired

end Pages

/-! ## Leases -/

section Leases

variable {c : PageCache α} {e : Lease} (k : PageKey) (count : Nat → Nat)

/-- The leases after a new count: that of the key with its new count, and the others. -/
theorem mem_recount_iff :
    e ∈ (c.recount k count).leases ↔
      (∃ old ∈ c.leases, old.key = k ∧ e = { old with requests := count old.requests }) ∨
        e ∈ c.leases ∧ e.key ≠ k := by
  show e ∈ c.leases.map _ ↔ _
  rw [List.mem_map]
  constructor
  · rintro ⟨old, hold, rfl⟩
    split
    · rename_i key
      exact .inl ⟨old, hold, key, rfl⟩
    · rename_i other
      exact .inr ⟨hold, other⟩
  · rintro (⟨old, hold, key, rfl⟩ | ⟨he, other⟩)
    · exact ⟨old, hold, if_pos key⟩
    · exact ⟨e, he, if_neg other⟩

theorem mem_recount (he : e ∈ c.leases) :
    ∃ new ∈ (c.recount k count).leases, new.page = e.page := by
  refine ⟨_, List.mem_map_of_mem he, ?_⟩
  split <;> rfl

theorem keys_recount : (c.recount k count).leases.map Lease.key = c.leases.map Lease.key := by
  show (c.leases.map _).map Lease.key = _
  rw [List.map_map]
  refine List.map_congr_left fun e _ => ?_
  show Lease.key (if e.key = k then _ else e) = e.key
  split <;> rfl

end Leases

/-! ## Listeners -/

section Listeners

variable (c : PageCache α) (l other : ListenerId)

theorem listener?_withListener (f : Listener → Listener) :
    (c.withListener l f).listener? other =
      if other = l then (c.listener? other).map f else c.listener? other := by
  unfold withListener listener?
  rw [List.getElem?_modify]
  simp only [ListenerId.eq_iff]
  by_cases same : other.place = l.place
  · rw [same]
    cases c.listeners[l.place]? with
    | none => simp
    | some x => cases x <;> simp
  · simp [same, Ne.symm same]

theorem listener?_deliver (id : PageId) (post : Post) :
    (c.deliver id post).listener? l = (c.listener? l).map (·.deliver id (post l)) := by
  unfold deliver listener?
  rw [List.getElem?_mapIdx]
  cases c.listeners[l.place]? with
  | none => rfl
  | some x => cases x <;> rfl

theorem listener?_act {id : PageId} {p : Page α} (found : c.page? id = some p)
    (step : Page α → Page α × Post) :
    (c.act id step).listener? l = (c.listener? l).map (·.deliver id ((step p).2 l)) := by
  unfold act
  rw [found]
  exact listener?_deliver _ _ _ _

/-- A new listener holds nothing and has been sent nothing. -/
theorem listener?_join :
    c.join.2.listener? l = if l = c.join.1 then some .new else c.listener? l := by
  simp only [ListenerId.eq_iff]
  show (c.listeners ++ [some Listener.new])[l.place]?.join =
    if l.place = c.listeners.length then _ else _
  rw [getElem?_concat]
  split <;> rfl

theorem listener?_leave :
    (c.leave l).listener? other = if other = l then none else c.listener? other := by
  unfold leave listener?
  rw [List.getElem?_set]
  by_cases same : other = l
  · subst same
    simp only [if_true]
    split <;> rfl
  · rw [if_neg same, if_neg fun places => same (ListenerId.eq_iff.mpr places.symm)]

end Listeners

/-! ## A page that is made -/

/-- A new page that has told its first change and is not held yet. -/
def opened (c : PageCache α) (k : PageKey) (l : ListenerId) : PageCache α :=
  let made : Page α × Post := Page.create ⟨c.pages.length⟩ k l
  deliver { c with
    pages := c.pages ++ [made.1]
    leases := c.leases ++ [⟨k, ⟨c.pages.length⟩, 1⟩] } ⟨c.pages.length⟩ made.2

/-- The page is told of first, and then held. -/
theorem create_eq_attach (c : PageCache α) (k : PageKey) (l : ListenerId) :
    (c.create k l).2 = (c.opened k l).withListener l (·.attach (c.create k l).1) := rfl

theorem listener?_opened (c : PageCache α) (k : PageKey) (l other : ListenerId) :
    (c.opened k l).listener? other = (c.listener? other).map
      (·.deliver (c.create k l).1 ((Page.create (c.create k l).1 k l : Page α × Post).2 other)) :=
  listener?_deliver _ _ _ _

/-! ## Requests of one listener -/

section Held

variable {c : PageCache α} {l : ListenerId}

theorem held_of_none (absent : c.listener? l = none) (id : PageId) : c.held l id = 0 := by
  unfold held
  rw [absent]
  rfl

theorem held_of_some {x : Listener} (present : c.listener? l = some x) (id : PageId) :
    c.held l id = x.requests.count id := by
  unfold held
  rw [present]
  rfl

/-- A listener that holds a request is there, and attached to the page. -/
theorem exists_of_held {id : PageId} (holds : 0 < c.held l id) :
    ∃ x, c.listener? l = some x ∧ x.isAttached id := by
  cases found : c.listener? l with
  | none =>
    rw [held_of_none found] at holds
    cases holds
  | some x =>
    rw [held_of_some found, List.count_pos_iff] at holds
    exact ⟨x, rfl, by simpa [Listener.isAttached] using holds⟩

/-- A change of one listener leaves what the others hold. -/
theorem held_withListener_of_ne {other : ListenerId} (ne : other ≠ l)
    (f : Listener → Listener) (id : PageId) :
    (c.withListener l f).held other id = c.held other id := by
  unfold held
  rw [listener?_withListener, if_neg ne]

theorem held_withListener {x : Listener} (present : c.listener? l = some x)
    (f : Listener → Listener) (id : PageId) :
    (c.withListener l f).held l id = (f x).requests.count id := by
  refine held_of_some ?_ id
  rw [listener?_withListener, if_pos rfl, present]
  rfl

/-- A request counts on its page, for the listener who makes it. -/
theorem held_attach {x : Listener} (present : c.listener? l = some x) (p id : PageId)
    (other : ListenerId) :
    (c.withListener l (·.attach p)).held other id =
      c.held other id + if other = l ∧ p = id then 1 else 0 := by
  by_cases same : other = l
  · subst same
    rw [held_withListener present, held_of_some present, Listener.count_attach]
    simp
  · rw [held_withListener_of_ne same]
    simp [same]

/-- What is delivered to a listener leaves what it holds. -/
theorem held_of_deliver {after : PageCache α} {p : PageId} {notices : List Notice}
    (delivered : after.listener? l = (c.listener? l).map (·.deliver p notices)) (id : PageId) :
    after.held l id = c.held l id := by
  unfold held
  rw [delivered]
  cases c.listener? l <;> rfl

/-- The maker of a page holds one request on it, and nobody else does. -/
theorem held_create {x : Listener} (present : c.listener? l = some x) (k : PageKey) (id : PageId)
    (other : ListenerId) :
    (c.create k l).2.held other id =
      c.held other id + if other = l ∧ (c.create k l).1 = id then 1 else 0 := by
  have told := (listener?_opened c k l l).trans (congrArg (Option.map _) present)
  rw [create_eq_attach, held_attach told, held_of_deliver (listener?_opened c k l other)]

/-- A request that ends counts no more. -/
theorem held_detach {p : PageId} (holds : 0 < c.held l p) (id : PageId) (other : ListenerId) :
    (c.withListener l (·.detach p)).held other id + (if other = l ∧ p = id then 1 else 0) =
      c.held other id := by
  obtain ⟨x, present, attached⟩ := exists_of_held holds
  by_cases same : other = l
  · subst same
    rw [held_withListener present, held_of_some present, ← Listener.count_detach x p id attached]
    simp
  · rw [held_withListener_of_ne same]
    simp [same]

end Held

/-! ## Requests of all listeners -/

section Total

variable {c : PageCache α} {l : ListenerId}

/-- A listener that is there has its place in the list. -/
theorem found_of_listener? {x : Listener} (present : c.listener? l = some x) :
    c.listeners[l.place]? = some (some x) := by
  unfold listener? at present
  cases found : c.listeners[l.place]? with
  | none =>
    rw [found] at present
    cases present
  | some y =>
    rw [found] at present
    exact congrArg some present

/-- A change of one listener changes the sum by as much. -/
theorem total_withListener {x : Listener} (present : c.listener? l = some x)
    (f : Listener → Listener) (id : PageId) :
    (c.withListener l f).total id + x.requests.count id =
      c.total id + (f x).requests.count id :=
  sum_map_modify (requestsOn id) (Option.map f) (found_of_listener? present)

theorem total_attach {x : Listener} (present : c.listener? l = some x) (p id : PageId) :
    (c.withListener l (·.attach p)).total id = c.total id + if p = id then 1 else 0 := by
  have change := total_withListener present (·.attach p) id
  rw [Listener.count_attach] at change
  omega

theorem total_detach {p : PageId} (holds : 0 < c.held l p) (id : PageId) :
    (c.withListener l (·.detach p)).total id + (if p = id then 1 else 0) = c.total id := by
  obtain ⟨x, present, attached⟩ := exists_of_held holds
  have change := total_withListener present (·.detach p) id
  rw [← Listener.count_detach x p id attached] at change
  omega

/-- A listener that takes events holds what it held. -/
theorem total_withListener_of_same {x : Listener} (present : c.listener? l = some x)
    {f : Listener → Listener} (same : (f x).requests = x.requests) (id : PageId) :
    (c.withListener l f).total id = c.total id := by
  have change := total_withListener present f id
  rw [same] at change
  omega

/-- A new listener holds nothing. -/
theorem total_join (id : PageId) : c.join.2.total id = c.total id := by
  show ((c.listeners ++ [some Listener.new]).map (requestsOn id)).sum = _
  rw [List.map_append, List.sum_append]
  rfl

/-- Nothing is lost with a listener that holds nothing. -/
theorem total_leave {x : Listener} (present : c.listener? l = some x) (free : x.requests = [])
    (id : PageId) : (c.leave l).total id = c.total id := by
  have change := sum_map_modify (requestsOn id) (fun _ => none) (found_of_listener? present)
  have nothing : requestsOn id (some x) = 0 := by
    show x.requests.count id = 0
    rw [free]
    rfl
  unfold total leave
  rw [List.set_eq_modify]
  rw [nothing] at change
  exact change

/-- What is delivered to listeners leaves their requests. -/
@[simp] theorem total_deliver (id other : PageId) (post : Post) :
    (c.deliver id post).total other = c.total other := by
  unfold total deliver
  congr 1
  apply List.ext_getElem?
  intro place
  rw [List.getElem?_map, List.getElem?_map, List.getElem?_mapIdx]
  cases c.listeners[place]? with
  | none => rfl
  | some x => cases x <;> rfl

theorem total_create {x : Listener} (present : c.listener? l = some x) (k : PageKey)
    (id : PageId) :
    (c.create k l).2.total id = c.total id + if (c.create k l).1 = id then 1 else 0 := by
  have told := (listener?_opened c k l l).trans (congrArg (Option.map _) present)
  rw [create_eq_attach, total_attach told]
  congr 1
  exact total_deliver _ _ _

end Total

/-! ## What listeners are told -/

section News

variable {c after : PageCache α} {l : ListenerId}

/-- What comes into the inbox from a page is told of that page. -/
theorem news_of_append {p : PageId} {notices : List Notice}
    (grown : after.inbox l = c.inbox l ++ notices.map (⟨p, ·⟩)) (id : PageId) :
    news c after l id = if p = id then notices else [] := by
  unfold news
  rw [grown, List.drop_left, List.filter_map]
  by_cases page : p = id <;> simp [Function.comp_def, page]

/-- An inbox that has not grown tells nothing. -/
theorem news_of_le (fewer : (after.inbox l).length ≤ (c.inbox l).length) (id : PageId) :
    news c after l id = [] := by
  unfold news
  rw [List.drop_eq_nil_of_le fewer]
  rfl

theorem news_of_same (same : after.listener? l = c.listener? l) (id : PageId) :
    news c after l id = [] := by
  refine news_of_le (Nat.le_of_eq ?_) id
  unfold inbox
  rw [same]

/-- What is delivered comes into the inbox of a listener that is there. -/
theorem inbox_of_deliver {p : PageId} {notices : List Notice}
    (delivered : after.listener? l = (c.listener? l).map (·.deliver p notices))
    (present : (c.listener? l).isSome) :
    after.inbox l = c.inbox l ++ notices.map (⟨p, ·⟩) := by
  obtain ⟨x, found⟩ := Option.isSome_iff_exists.mp present
  unfold inbox
  rw [delivered, found]
  rfl

/-- A listener that is there is told what is delivered to it; one that has left is
told nothing. -/
theorem news_of_deliver {p : PageId} {notices : List Notice}
    (delivered : after.listener? l = (c.listener? l).map (·.deliver p notices)) (id : PageId) :
    news c after l id = if p = id ∧ (c.listener? l).isSome then notices else [] := by
  cases found : c.listener? l with
  | none =>
    rw [found] at delivered
    rw [news_of_same (delivered.trans found.symm)]
    simp
  | some x =>
    rw [news_of_append (inbox_of_deliver delivered (by rw [found]; rfl))]
    simp

/-- Requests that begin or end leave every inbox. -/
theorem inbox_withListener (f : Listener → Listener) (same : ∀ x, (f x).inbox = x.inbox)
    (m : ListenerId) : (c.withListener l f).inbox m = c.inbox m := by
  unfold inbox
  rw [listener?_withListener]
  split
  · cases c.listener? m with
    | none => rfl
    | some x => exact same x
  · rfl

/-- They put nothing into one. -/
theorem news_withListener (f : Listener → Listener) (same : ∀ x, (f x).inbox = x.inbox)
    (m : ListenerId) (id : PageId) :
    news c (after.withListener l f) m id = news c after m id := by
  unfold news
  rw [inbox_withListener f same]

/-- A new page tells its first change, to its maker. -/
theorem news_create (k : PageKey) (m : ListenerId) (id : PageId) :
    news c (c.create k l).2 m id =
      if (c.create k l).1 = id ∧ (c.listener? m).isSome then
        (Page.create (c.create k l).1 k l : Page α × Post).2 m
      else [] := by
  rw [create_eq_attach, news_withListener (·.attach (c.create k l).1) fun _ => rfl]
  exact news_of_deliver (listener?_opened c k l m) id

theorem news_self (m : ListenerId) (id : PageId) : news c c m id = [] := news_of_same rfl id

end News

end PageCache

end MarketConditions
