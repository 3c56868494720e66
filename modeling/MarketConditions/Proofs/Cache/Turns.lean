import MarketConditions.Proofs.Cache.Counting
import MarketConditions.Proofs.Page.Hearing

/-!
# What an event means for one page

An event of a cache touches a page in one of few ways: it makes the page, sends it
commands, lets it act, or leaves it alone. Whatever holds of a page along a run follows
from what holds of these.

- `PageCache.Calls`: what the commands that a page is sent say of a listener's
  requests on it.
- `PageCache.Turn`, `PageCache.Orderly.turn`: what an event means for a page, for those
  who hold requests on it, and for what they are told.
-/

namespace MarketConditions

variable {α : Type}

namespace Page

@[simp] theorem sendAll_nil (p : Page α) : p.sendAll [] = p := by
  unfold sendAll
  rw [List.append_nil]

theorem sendAll_append (p : Page α) (commands more : List Command) :
    (p.sendAll commands).sendAll more = p.sendAll (commands ++ more) := by
  unfold sendAll
  rw [List.append_assoc]

end Page

namespace PageCache

/-- What commands say of a listener that held some number of requests on a page and then
holds another. -/
inductive Calls (l : ListenerId) (seen : Nat) (commands : List Command) (held held' : Nat) :
    Prop where
  /-- They say nothing of it. It may have released the page, which is shared no longer. -/
  | none (attaches : commands.countP (·.attaches l) = 0)
      (detaches : commands.countP (·.detaches l) = 0) (fewer : held' ≤ held)
  | attached (one : commands = [.attach l seen]) (more : held' = held + 1)
  | detached (one : commands = [.detach l]) (less : held' + 1 = held)

/-- A page lists every request of a listener that releases none. -/
theorem Calls.listed {l : ListenerId} {seen held held' asked : Nat} {commands : List Command}
    {p : Page α} (calls : Calls l seen commands held held') (more : held ≤ held')
    (listed : p.Listed l asked) : (p.sendAll commands).Listed l (asked + (held' - held)) := by
  cases calls with
  | none attaches detaches fewer =>
    have listed := listed.sendAll detaches
    rwa [attaches, ← Nat.sub_eq_zero_of_le fewer] at listed
  | attached one grown =>
    have one_more : held' - held = 1 := by omega
    subst one
    have attaches : [Command.attach l seen].countP (·.attaches l) = 1 := by
      simp [Command.attaches]
    rw [one_more, ← attaches]
    exact listed.sendAll rfl
  | detached _ less => omega

/-- What happens to a page from one cache to another. -/
inductive Turn (c c' : PageCache α) (id : PageId) : Prop where
  | unmade (before : c.page? id = none) (after : c'.page? id = none)
      (fewer : ∀ l, c'.held l id ≤ c.held l id) (silent : ∀ l, news c c' l id = [])
  /-- The page is made for a listener. -/
  | made (k : PageKey) (l : ListenerId) (present : (c.listener? l).isSome)
      (before : c.page? id = none) (after : c'.page? id = some (Page.create id k l).1)
      (held : ∀ m, c'.held m id = c.held m id + if m = l then 1 else 0)
      (told : ∀ m, news c c' m id =
        if (c.listener? m).isSome then (Page.create id k l : Page α × Post).2 m else [])
  /-- The page is sent some commands, or none. -/
  | sent (p : Page α) (commands : List Command) (before : c.page? id = some p)
      (after : c'.page? id = some (p.sendAll commands))
      (calls : ∀ l, Calls l p.snapshot.revision commands (c.held l id) (c'.held l id))
      (silent : ∀ l, news c c' l id = [])
  /-- The page acts. -/
  | acted (p : Page α) (step : Page.Event α) (own : step.Own) (before : c.page? id = some p)
      (after : c'.page? id = some (p.react step).1) (held : ∀ l, c'.held l id = c.held l id)
      (told : ∀ l, news c c' l id =
        if (c.listener? l).isSome then (p.react step).2 l else [])

section

variable {c c' : PageCache α} {l m : ListenerId} {id : PageId}

/-- A page that stays as it is is sent nothing. -/
theorem Turn.quiet (same : c'.page? id = c.page? id) (fewer : ∀ l, c'.held l id ≤ c.held l id)
    (silent : ∀ l, news c c' l id = []) : Turn c c' id := by
  cases found : c.page? id with
  | none => exact .unmade found (same.trans found) fewer silent
  | some p =>
    refine .sent p [] found ?_ (fun l => .none rfl rfl (fewer l)) silent
    rw [same, found, Page.sendAll_nil]

/-! ## Listeners that are changed -/

/-- A listener that takes events is told nothing by that, and holds what it held. -/
theorem turn_taken {x x' : Listener} (present : c.listener? l = some x) (taking : Taking x x') :
    Turn c (c.withListener l fun _ => x') id := by
  refine .quiet rfl (fun m => ?_) fun m => ?_
  · by_cases same : m = l
    · subst same
      rw [held_withListener present, taking.requests, held_of_some present]
    · rw [held_withListener_of_ne same]
  · by_cases same : m = l
    · subst same
      refine news_of_le ?_ id
      unfold inbox
      rw [listener?_withListener, if_pos rfl, present]
      exact taking.inbox
    · refine news_of_same ?_ id
      rw [listener?_withListener, if_neg same]

/-- Nothing comes of listeners that join or leave. -/
theorem turn_of_bare (same : c'.page? id = c.page? id)
    (each : ∀ m, c'.listener? m = c.listener? m ∨ c'.listener? m = none ∨
      c'.listener? m = some .new) : Turn c c' id := by
  refine .quiet same (fun m => ?_) fun m => news_of_le ?_ id
  · unfold held
    rcases each m with stays | gone | fresh
    · rw [stays]
    · rw [gone]
      exact Nat.zero_le _
    · rw [fresh]
      exact Nat.zero_le _
  · unfold inbox
    rcases each m with stays | gone | fresh
    · rw [stays]
    · rw [gone]
      exact Nat.zero_le _
    · rw [fresh]
      exact Nat.zero_le _

theorem turn_join : Turn c c.join.2 id := turn_of_bare rfl fun m => by
  rw [listener?_join]
  split
  · exact .inr (.inr rfl)
  · exact .inl rfl

theorem turn_leave : Turn c (c.leave l) id := turn_of_bare rfl fun m => by
  rw [listener?_leave]
  split
  · exact .inr (.inl rfl)
  · exact .inl rfl

/-! ## Pages that are made, sent a command, or act -/

theorem turn_act {actor : PageId} {p : Page α} (found : c.page? actor = some p)
    {step : Page.Event α} (own : step.Own) : Turn c (c.act actor (·.react step)) id := by
  have listeners := fun l => listener?_act c l found (·.react step)
  by_cases same : id = actor
  · subst same
    refine .acted p step own found ?_ (fun l => held_of_deliver (listeners l) id) fun l => ?_
    · rw [page?_act c id id found, if_pos rfl]
    · rw [news_of_deliver (listeners l)]
      simp
  · refine .quiet ?_ (fun l => (held_of_deliver (listeners l) id).le) fun l => ?_
    · rw [page?_act c actor id found, if_neg same]
    · rw [news_of_deliver (listeners l), if_neg fun this => same this.1.symm]

/-- A page is made where there was none. Another may have been told to end just before. -/
theorem turn_made {x : Listener} (present : c.listener? l = some x) (k : PageKey)
    {before : PageCache α} (absent : before.page? (c.create k l).1 = none)
    (listeners : before.listeners = c.listeners) :
    Turn before (c.create k l).2 (c.create k l).1 := by
  obtain ⟨pages, leases, others⟩ := before
  have listeners : others = c.listeners := listeners
  subst listeners
  have holds := fun m => held_create present k (c.create k l).1 m
  have told := fun m => news_create (c := c) (l := l) k m (c.create k l).1
  simp only [and_true] at holds
  simp only [true_and] at told
  refine .made k l ?_ absent ?_ holds told
  · show (c.listener? l).isSome
    rw [present]
    rfl
  · rw [page?_create, if_pos rfl]

theorem turn_create {x : Listener} (present : c.listener? l = some x) (k : PageKey) :
    Turn c (c.create k l).2 id := by
  by_cases new : id = (c.create k l).1
  · subst new
    exact turn_made present k (page?_created c k l) rfl
  · refine .quiet ?_ (fun m => ?_) fun m => ?_
    · rw [page?_create, if_neg new]
    · rw [held_create present, if_neg fun this => new this.2.symm]
      exact Nat.le_refl _
    · rw [news_create, if_neg fun this => new this.1.symm]

/-- One more request on a shared page. -/
theorem turn_share {x : Listener} (present : c.listener? l = some x) (lease : Lease) {p : Page α}
    (found : c.page? lease.page = some p) : Turn c (c.share lease p l) id := by
  have pages := page?_send c lease.page id (.attach l p.snapshot.revision)
  have holds := fun m => held_attach present lease.page id m
  have silent : ∀ m, news c (c.share lease p l) m id = [] := fun m =>
    (news_withListener (·.attach lease.page) (fun _ => rfl) m id).trans (news_self m id)
  by_cases same : id = lease.page
  · subst same
    rw [if_pos rfl, found] at pages
    refine .sent p [.attach l p.snapshot.revision] found pages (fun m => ?_) silent
    have holds : (c.share lease p l).held m lease.page = _ := holds m
    by_cases this : m = l
    · subst this
      exact .attached rfl (by rw [holds, if_pos ⟨rfl, rfl⟩])
    · refine .none ?_ rfl (by rw [holds, if_neg fun both => this both.1]; exact Nat.le_refl _)
      simp [Command.attaches, Ne.symm this]
  · refine .quiet (pages.trans (if_neg same)) (fun m => ?_) silent
    have holds : (c.share lease p l).held m id = _ := holds m
    rw [holds, if_neg fun both => same both.2.symm]
    exact Nat.le_refl _

/-- A lease ends, and its page is told to end. Some request on it may end too. -/
theorem turn_retire {lease : Lease} {p : Page α} (found : c.page? lease.page = some p)
    (page : c'.page? id = (c.retire lease).page? id) (fewer : ∀ m, c'.held m id ≤ c.held m id)
    (silent : ∀ m, news c c' m id = []) : Turn c c' id := by
  have page := page.trans (page?_send c lease.page id .shutdown)
  by_cases same : id = lease.page
  · subst same
    rw [if_pos rfl, found] at page
    exact .sent p [.shutdown] found page (fun m => .none rfl rfl (fewer m)) silent
  · exact .quiet (page.trans (if_neg same)) fewer silent

/-- A request that ends tells nobody anything. -/
theorem news_detach (l : ListenerId) (page : PageId) (m : ListenerId) (id : PageId) :
    news c (c.withListener l (·.detach page)) m id = [] :=
  (news_withListener (·.detach page) (fun _ => rfl) m id).trans (news_self m id)

/-- One of several requests on a shared page ends. -/
theorem turn_loosen {lease : Lease} {p : Page α} (found : c.page? lease.page = some p)
    (holds : 0 < c.held l lease.page) :
    Turn c (((c.withListener l (·.detach lease.page)).recount lease.key (· - 1)).send lease.page
      (.detach l)) id := by
  have page := page?_send c lease.page id (.detach l)
  have rest := fun m => held_detach holds id m
  have silent := fun m => news_detach (c := c) l lease.page m id
  by_cases same : id = lease.page
  · subst same
    rw [if_pos rfl, found] at page
    refine .sent p [.detach l] found page (fun m => ?_) silent
    have rest := rest m
    by_cases this : m = l
    · subst this
      rw [if_pos ⟨rfl, rfl⟩] at rest
      exact .detached rfl rest
    · rw [if_neg fun both => this both.1] at rest
      exact .none rfl (by simp [Command.detaches, Ne.symm this]) rest.le
  · refine .quiet (page.trans (if_neg same)) (fun m => ?_) silent
    have rest := rest m
    rw [if_neg fun both => same both.2.symm] at rest
    exact rest.le

/-- Commands that say nothing of any listener. -/
theorem calls_plain {commands : List Command} (plain : ∀ command ∈ commands, command.isPlain)
    (l : ListenerId) (seen held : Nat) : Calls l seen commands held held :=
  .none (Page.countP_plain plain l).1 (Page.countP_plain plain l).2 (Nat.le_refl _)

/-- A command that is sent to several pages is sent to each page so many times. -/
theorem page?_sendEach (c : PageCache α) (command : Command) (leases : List Lease) (id : PageId) :
    ∃ n, (c.sendEach command leases).page? id =
      (c.page? id).map (·.sendAll (List.replicate n command)) := by
  induction leases generalizing c with
  | nil => exact ⟨0, by cases found : c.page? id <;> simp [found]⟩
  | cons e leases ih =>
    obtain ⟨n, later⟩ := ih (c.send e.page command)
    rw [sendEach_cons, later, page?_send]
    split
    · refine ⟨n + 1, ?_⟩
      cases c.page? id with
      | none => rfl
      | some p => exact congrArg some (p.sendAll_append [command] (List.replicate n command))
    · exact ⟨n, rfl⟩

theorem turn_refresh (mode : RefreshMode) (leases : List Lease) :
    Turn c (c.sendEach (.refresh mode) leases) id := by
  have listener : ∀ m, (c.sendEach (.refresh mode) leases).listener? m = c.listener? m :=
    fun m => by
      unfold listener?
      rw [listeners_sendEach]
  have held : ∀ m, (c.sendEach (.refresh mode) leases).held m id = c.held m id := fun m => by
    unfold PageCache.held
    rw [listener]
  have silent := fun m => news_of_same (listener m) id
  obtain ⟨n, after⟩ := page?_sendEach c (.refresh mode) leases id
  cases found : c.page? id with
  | none =>
    rw [found] at after
    exact .unmade found after (fun m => (held m).le) silent
  | some p =>
    rw [found] at after
    refine .sent p _ found after (fun m => ?_) silent
    rw [held]
    refine calls_plain (fun command hc => ?_) m _ _
    rw [List.eq_of_mem_replicate hc]
    rfl

end

/-- Every event is one of these to every page. -/
theorem Orderly.turn {c : PageCache α} (h : c.Orderly) (e : Event α) (id : PageId) :
    Turn c (c.react e) id := by
  have happens := h.happens e
  generalize c.react e = after at happens ⊢
  cases happens with
  | refused => exact .quiet rfl (fun _ => Nat.le_refl _) fun m => news_self m id
  | joined => exact turn_join
  | left l => exact turn_leave
  | taken e l x x' drained present taking => exact turn_taken present taking
  | acted e actor step own p found =>
    refine turn_act found ?_
    cases e <;> cases own <;> trivial
  | shared k l x present lease leased key p found => exact turn_share present lease found
  | created k l x present => exact turn_create present k
  | replaced k l x present lease leased key p found failed =>
    have pages := page?_create (c.retire lease) id k l
    by_cases new : id = ((c.retire lease).create k l).1
    · subst new
      exact turn_made (c := c.retire lease) present k (page?_replacing c lease k l) rfl
    · -- this may be the page that is replaced, and is told to end
      rw [if_neg new] at pages
      refine turn_retire found pages (fun m => ?_) fun m => ?_
      · have holds := held_create (c := c.retire lease) present k id m
        rw [if_neg fun both => new both.2.symm] at holds
        exact holds.le
      · exact (news_create (c := c.retire lease) k m id).trans (if_neg fun both => new both.1.symm)
  | orphaned page l holds unshared =>
    refine .quiet rfl (fun m => ?_) fun m => news_detach l page m id
    have rest := held_detach holds id m
    omega
  | loosened l lease leased holds =>
    obtain ⟨p, found, -⟩ := (h.backed lease leased).own
    exact turn_loosen found holds
  | closed l lease leased holds =>
    obtain ⟨p, found, -⟩ := (h.backed lease leased).own
    refine turn_retire found rfl (fun m => ?_) fun m => news_detach l lease.page m id
    have rest := held_detach holds id m
    exact Nat.le.intro rest
  | updated symbol timeframe mode => exact turn_refresh mode _

end PageCache

end MarketConditions
