import MarketConditions.Proofs.Cache.Turns
import MarketConditions.Proofs.Page.Telling

/-!
# What an event means for one inbox

`Turns` says what an event means for one page; here is what it means for one listener.
An event puts into its inbox what one page tells, or takes something out, or does
nothing to it.

- `PageCache.delivers`: the events that a listener is given when it takes some.
- `PageCache.Mail`, `PageCache.Orderly.mail`: inversion. What a listener is given, and
  what is in its inbox then.
- `PageCache.pending`: the notices of a page that are in an inbox.
  `PageCache.Mail.ledger`: what a listener is given and what stays in its inbox was there
  before, or came with the event.
- `PageCache.renews`, `PageCache.Orderly.news_data`: those who are attached to a
  page are told of new data as a refresh in place ends, and nobody is told of data
  at any other time.
-/

namespace MarketConditions

variable {α : Type}

/-- What a search finds, and what lies behind it, is part of the list. -/
theorem find?_append_dropWhile {β : Type} (p : β → Bool) (xs : List β) :
    ((xs.find? p).toList ++ (xs.dropWhile (!p ·)).drop 1).Sublist xs := by
  induction xs with
  | nil => exact List.Sublist.refl _
  | cons x xs ih =>
    cases found : p x with
    | true => simp [found]
    | false =>
      rw [List.find?_cons_of_neg (by simp [found]), List.dropWhile_cons_of_pos (by simp [found])]
      exact ih.cons x

namespace PageCache

/-- What a listener is given in an event: all that it wants as it takes everything,
whether to keep it or to have it handled, or the next that it wants. -/
def delivers (c : PageCache α) (l : ListenerId) : Event α → List PageEvent
  | .drained m => if m = l then (c.take l Listener.drain).1.elim [] id else []
  | .polled m => if m = l then (c.take l Listener.next?).1.elim [] Option.toList else []
  | _ => []

/-- The notices of a page that wait in an inbox. -/
def pending (c : PageCache α) (l : ListenerId) (id : PageId) : List Notice :=
  ((c.inbox l).filter (·.page = id)).map PageEvent.notice

/-- What a listener is given in an event, and what is in its inbox then. -/
inductive Mail (c : PageCache α) (l : ListenerId) (e : Event α) :
    List PageEvent → List PageEvent → Prop where
  /-- Nothing comes and nothing goes. If a page acts, the listener is not there. -/
  | quiet (idle : ∀ id step, e.own? = some (id, step) →
      c.page? id = none ∨ c.listener? l = none) : Mail c l e [] (c.inbox l)
  /-- The listener leaves. -/
  | left (event : e.own? = none) : Mail c l e [] []
  /-- It takes everything. -/
  | drained (x : Listener) (present : c.listener? l = some x) (event : e.own? = none) :
      Mail c l e (x.inbox.filter x.wants) []
  /-- It takes the next event that it wants. -/
  | polled (x : Listener) (present : c.listener? l = some x) (event : e.own? = none) :
      Mail c l e (x.inbox.find? x.wants).toList ((x.inbox.dropWhile (!x.wants ·)).drop 1)
  /-- A page is made, and tells of its first change. -/
  | made (id : PageId) (notices : List Notice) (first : notices.filter Notice.isData = [])
      (event : e.own? = none) : Mail c l e [] (c.inbox l ++ notices.map (⟨id, ·⟩))
  /-- A page acts. -/
  | acted (id : PageId) (step : Page.Event α) (event : e.own? = some (id, step)) (p : Page α)
      (found : c.page? id = some p) (present : (c.listener? l).isSome) :
      Mail c l e [] (c.inbox l ++ ((p.react step).2 l).map (⟨id, ·⟩))

section

variable {c c' : PageCache α} {l : ListenerId}

theorem inbox_of_some {x : Listener} (present : c.listener? l = some x) : c.inbox l = x.inbox := by
  unfold inbox
  rw [present]
  rfl

theorem inbox_of_none (absent : c.listener? l = none) : c.inbox l = [] := by
  unfold inbox
  rw [absent]
  rfl

/-- A listener that stays as it is is given nothing. -/
theorem Mail.same {e : Event α} (event : e.own? = none) (same : c'.inbox l = c.inbox l) :
    Mail c l e [] (c'.inbox l) := by
  rw [same]
  refine .quiet fun id step own => ?_
  rw [event] at own
  cases own

/-- A listener is given nothing when another takes its events. -/
theorem inbox_take_of_ne {β : Type} {m : ListenerId} (other : l ≠ m)
    (way : Listener → β × Listener) : (c.take m way).2.inbox l = c.inbox l := by
  unfold take
  cases c.listener? m with
  | none => rfl
  | some x =>
    unfold inbox
    rw [listener?_withListener, if_neg other]

theorem take_of_some {β : Type} {x : Listener} (present : c.listener? l = some x)
    (way : Listener → β × Listener) :
    (c.take l way).1 = some (way x).1 ∧ (c.take l way).2.inbox l = (way x).2.inbox := by
  unfold take
  rw [present]
  refine ⟨rfl, inbox_of_some ?_⟩
  rw [listener?_withListener, if_pos rfl, present]
  rfl

theorem take_of_none {β : Type} (absent : c.listener? l = none) (way : Listener → β × Listener) :
    c.take l way = (none, c) := by
  unfold take
  rw [absent]

/-- A listener that takes events in some way is given those, and is left the others. -/
theorem mail_take {β : Type} {e : Event α} (event : e.own? = none) (m : ListenerId)
    (way : Listener → β × Listener) (give : β → List PageEvent)
    (taking : ∀ x, c.listener? l = some x → Mail c l e (give (way x).1) (way x).2.inbox) :
    Mail c l e (if m = l then (c.take l way).1.elim [] give else [])
      ((c.take m way).2.inbox l) := by
  by_cases same : m = l
  · subst same
    rw [if_pos rfl]
    cases present : c.listener? m with
    | none =>
      rw [take_of_none present]
      exact .same event rfl
    | some x =>
      obtain ⟨given, rest⟩ := take_of_some present way
      rw [given, rest]
      exact taking x present
  · rw [if_neg same]
    exact .same event (inbox_take_of_ne (Ne.symm same) _)

/-- A page that acts tells whoever is there. -/
theorem mail_act (c : PageCache α) (l : ListenerId) {e : Event α} {id : PageId}
    {step : Page.Event α} (event : e.own? = some (id, step)) :
    Mail c l e [] ((c.act id (·.react step)).inbox l) := by
  have alone : ∀ other step', e.own? = some (other, step') → other = id := fun other step' own => by
    rw [event] at own
    cases own
    rfl
  cases found : c.page? id with
  | none =>
    rw [act_of_none c id found]
    exact .quiet fun other step' own => .inl (by rw [alone other step' own, found])
  | some p =>
    have listener := listener?_act c l found (·.react step)
    cases present : c.listener? l with
    | none =>
      rw [present] at listener
      have same := (inbox_of_none listener).trans (inbox_of_none present).symm
      rw [same]
      exact .quiet fun _ _ _ => .inr present
    | some x =>
      have present : (c.listener? l).isSome := by
        rw [present]
        rfl
      rw [inbox_of_deliver listener present]
      exact .acted id step event p found present

/-- A page that is made tells its maker. -/
theorem mail_create {c₀ : PageCache α} {e : Event α} (event : e.own? = none)
    (listeners : c₀.listeners = c.listeners) (k : PageKey) (m : ListenerId) :
    Mail c₀ l e [] ((c.create k m).2.inbox l) := by
  have same : c₀.inbox l = c.inbox l := by
    unfold inbox listener?
    rw [listeners]
  have told := listener?_opened c k m l
  have opened : (c.create k m).2.inbox l = (c.opened k m).inbox l := by
    rw [create_eq_attach]
    exact inbox_withListener (·.attach (c.create k m).1) (fun _ => rfl) l
  rw [opened]
  cases present : c.listener? l with
  | none =>
    rw [present] at told
    refine .same event ?_
    rw [same, inbox_of_none told, inbox_of_none present]
  | some x =>
    rw [inbox_of_deliver told (by rw [present]; rfl), ← same]
    refine .made _ _ ?_ event
    show (if l ∈ [m] then [Notice.stateChanged .empty .loading] else []).filter Notice.isData = []
    split <;> rfl

end

/-- **Inversion.** What an event means for the inbox of a listener. -/
theorem Orderly.mail {c : PageCache α} (h : c.Orderly) (e : Event α) (l : ListenerId) :
    Mail c l e (c.delivers l e) ((c.react e).inbox l) := by
  have happens := h.happens e
  cases e with
  | drained m => exact mail_take rfl m Listener.drain id fun x present => .drained x present rfl
  | polled m =>
    exact mail_take rfl m Listener.next? Option.toList fun x present => .polled x present rfl
  | takenUp id =>
    show Mail c l _ [] ((c.act id (·.react .takenUp)).inbox l)
    exact mail_act c l rfl
  | ended id result =>
    show Mail c l _ [] ((c.act id (·.react (.ended result))).inbox l)
    exact mail_act c l rfl
  | joined =>
    refine .same rfl ?_
    show c.join.2.inbox l = c.inbox l
    unfold inbox
    rw [listener?_join]
    split
    · rename_i new
      subst new
      have absent : c.listener? c.join.1 = none := by
        unfold listener?
        show c.listeners[c.listeners.length]?.join = none
        rw [List.getElem?_eq_none (Nat.le_refl _)]
        rfl
      rw [absent]
      rfl
    · rfl
  | left m =>
    show Mail c l _ [] ((if c.isFree m then c.leave m else c).inbox l)
    split
    · by_cases gone : l = m
      · have absent : (c.leave m).listener? l = none := by rw [listener?_leave, if_pos gone]
        rw [inbox_of_none absent]
        exact .left rfl
      · refine .same rfl ?_
        unfold inbox
        rw [listener?_leave, if_neg gone]
    · exact .same rfl rfl
  | requested k m =>
    show Mail c l _ [] _
    generalize c.react (.requested k m) = after at happens ⊢
    cases happens with
    | refused => exact .same rfl rfl
    | taken _ _ _ _ drained => rcases drained with impossible | impossible <;> cases impossible
    | acted _ _ _ own => cases own
    | shared _ _ x present lease leased key p found =>
      refine .same rfl ?_
      exact inbox_withListener (·.attach lease.page) (fun _ => rfl) l
    | created => exact mail_create rfl rfl k m
    | replaced _ _ _ _ lease =>
      have listeners : c.listeners = (c.retire lease).listeners := rfl
      exact mail_create rfl listeners k m
  | released id m =>
    show Mail c l _ [] _
    generalize c.react (.released id m) = after at happens ⊢
    cases happens with
    | refused => exact .same rfl rfl
    | taken _ _ _ _ drained => rcases drained with impossible | impossible <;> cases impossible
    | acted _ _ _ own => cases own
    | orphaned => exact .same rfl (inbox_withListener (·.detach id) (fun _ => rfl) l)
    | loosened _ lease =>
        exact .same rfl (inbox_withListener (·.detach lease.page) (fun _ => rfl) l)
    | closed _ lease => exact .same rfl (inbox_withListener (·.detach lease.page) (fun _ => rfl) l)
  | updated symbol timeframe mode =>
    refine .same rfl ?_
    show (c.sourceUpdated symbol timeframe mode).2.inbox l = _
    unfold inbox listener?
    rw [sourceUpdated_eq_sendEach, listeners_sendEach]

/-! ## The ledger of an inbox -/

/-- What a listener is given of a page in an event, and what stays in its inbox, was there
before, or came with the event. -/
theorem Orderly.ledger {c : PageCache α} (h : c.Orderly) (e : Event α) (l : ListenerId)
    (id : PageId) :
    (((c.delivers l e).filter (·.page = id)).map PageEvent.notice ++
      (c.react e).pending l id).Sublist (c.pending l id ++ news c (c.react e) l id) := by
  have mail := h.mail e l
  generalize box : (c.react e).inbox l = inbox' at mail
  -- whatever is taken out of the inbox in whichever way was part of it
  have taken : ∀ {given rest : List PageEvent}, (given ++ rest).Sublist (c.inbox l) →
      ((given.filter (·.page = id)).map PageEvent.notice ++
        (rest.filter (·.page = id)).map PageEvent.notice).Sublist
        (c.pending l id ++ news c (c.react e) l id) := fun part => by
    rw [← List.map_append, ← List.filter_append]
    exact ((part.filter _).map _).trans (List.sublist_append_left _ _)
  -- what comes in stays there
  have grown : ∀ {actor : PageId} {notices : List Notice},
      inbox' = c.inbox l ++ notices.map (⟨actor, ·⟩) →
        ((inbox'.filter (·.page = id)).map PageEvent.notice).Sublist
          (c.pending l id ++ news c (c.react e) l id) := fun more => by
    unfold news
    rw [box, more, List.drop_left, List.filter_append, List.map_append]
    exact List.Sublist.refl _
  unfold pending at *
  rw [box]
  generalize c.delivers l e = given at mail ⊢
  cases mail with
  | quiet => exact taken (List.Sublist.refl _)
  | left => exact List.nil_sublist _
  | drained x present =>
    refine taken ?_
    rw [List.append_nil, inbox_of_some present]
    exact List.filter_sublist
  | polled x present =>
    refine taken ?_
    rw [inbox_of_some present]
    exact find?_append_dropWhile x.wants x.inbox
  | made actor notices => exact grown rfl
  | acted actor step event p found present => exact grown rfl

/-! ## Changed data -/

/-- Whether an event is the end of a refresh in place of a page, which brings new data. -/
def renews (c : PageCache α) (e : Event α) (id : PageId) : Bool :=
  match e.own? with
  | some (actor, step) => actor = id && (c.page? id).any (·.renewsInPlace step)
  | none => false

theorem renews_of_own {c : PageCache α} {e : Event α} {id : PageId} {step : Page.Event α}
    {p : Page α} (event : e.own? = some (id, step)) (found : c.page? id = some p) :
    c.renews e id = p.renewsInPlace step := by
  unfold renews
  rw [event, found]
  simp

theorem renews_of_none {c : PageCache α} {e : Event α} (event : e.own? = none) (id : PageId) :
    c.renews e id = false := by
  unfold renews
  rw [event]

/-- **Changed data.** As a refresh in place of a page ends, everyone who is attached to
the page is told of its data, once; nobody is told of them at any other event. -/
theorem Orderly.news_data {c : PageCache α} (h : c.Orderly) (e : Event α) {id : PageId} {p : Page α}
    (found : c.page? id = some p) (l : ListenerId) :
    (news c (c.react e) l id).filter Notice.isData =
      if c.renews e id = true ∧ (c.listener? l).isSome ∧ l ∈ p.attached then [.dataChanged]
      else [] := by
  have mail := h.mail e l
  generalize box : (c.react e).inbox l = inbox' at mail
  have shrunk : inbox'.length ≤ (c.inbox l).length → news c (c.react e) l id = [] := fun less =>
    news_of_le (by rw [box]; exact less) id
  have idle : e.own? = none → ¬ (c.renews e id = true ∧ (c.listener? l).isSome ∧
      l ∈ p.attached) := fun event both => by
    rw [renews_of_none event] at both
    cases both.1
  generalize c.delivers l e = given at mail
  cases mail with
  | quiet why =>
    rw [shrunk (Nat.le_refl _), if_neg]
    · rfl
    · rintro ⟨renews, present, -⟩
      unfold PageCache.renews at renews
      split at renews
      · rename_i actor step event
        rw [Bool.and_eq_true, decide_eq_true_iff] at renews
        obtain ⟨rfl, -⟩ := renews
        rcases why actor step event with missing | absent
        · cases found.symm.trans missing
        · rw [absent] at present
          cases present
      · cases renews
  | left event =>
    rw [shrunk (Nat.zero_le _), if_neg (idle event)]
    rfl
  | drained x present event =>
    rw [shrunk (Nat.zero_le _), if_neg (idle event)]
    rfl
  | polled x present event =>
    rw [shrunk, if_neg (idle event)]
    · rfl
    · rw [inbox_of_some present]
      exact (taking_next? x).inbox
  | made actor notices first event =>
    rw [news_of_append box, if_neg (idle event)]
    split
    · exact first
    · rfl
  | acted actor step event q found' present =>
    rw [news_of_append box]
    by_cases same : actor = id
    · subst same
      cases found.symm.trans found'
      rw [if_pos rfl, (h.fits actor p found).regular.data_told step l, renews_of_own event found]
      simp only [present, true_and]
    · rw [if_neg same, if_neg]
      · rfl
      · rintro ⟨renews, -⟩
        unfold PageCache.renews at renews
        rw [event] at renews
        simp [same] at renews

end PageCache

end MarketConditions
