import MarketConditions.Proofs.Cache.Turns

/-!
# The annals of a page cache

A cache does not keep what it did. To state what holds along a whole run we keep a record
beside it, which watches from outside and is never read by the cache.

- `PageCache.Annals`: a cache with the record of a run. `Annals.record` reads every entry
  off the cache before and after one event: a computation was started when the count of
  started ones rose, a change took place when the history holds a later one, a listener
  was told what its inbox grew by, and it asked for a page or released it when its own
  count of requests rose or fell.
- `PageCache.Annals.run`: the record of a run.
- `PageCache.Annals.Agrees`: the record agrees with the cache, and the cache is orderly.
- `PageCache.Annals.Advances`: what one event adds to the record of one page.
- `PageCache.Annals.page_induction`: induction on a run, for what holds of one page.
-/

namespace MarketConditions

variable {α : Type}

namespace PageCache

/-- Whether a request of a listener waits to be taken up by a page. -/
def awaits (c : PageCache α) (l : ListenerId) (id : PageId) : Bool :=
  (c.page? id).any (·.awaits l)

theorem awaits_of_found {c : PageCache α} {id : PageId} {p : Page α} (found : c.page? id = some p)
    (l : ListenerId) : c.awaits l id = p.awaits l := by
  unfold awaits
  rw [found]
  rfl

/-- No request waits for a page that was never made. -/
theorem awaits_of_none {c : PageCache α} {id : PageId} (absent : c.page? id = none)
    (l : ListenerId) : c.awaits l id = false := by
  unfold awaits
  rw [absent]
  rfl

/-- What the computations are for that were started on a page. One is running when
it is made. -/
def worksBetween : Option (Page α) → Option (Page α) → List Work
  | some p, some after => p.worksTo after
  | none, some after => (after.running.map Flight.work).toList
  | _, none => []

/-- The changes of state of a page, its first among them. -/
def changesBetween : Option (Page α) → Option (Page α) → List Transition
  | some p, some after => p.changesTo after
  | none, some after => after.history
  | _, none => []

/-- A page cache with the record of a run. -/
structure Annals (α : Type) where
  cache : PageCache α
  /-- What each computation of a page was started for, oldest first. -/
  works : PageId → List Work
  /-- Every change of state of a page, oldest first. -/
  changes : PageId → List Transition
  /-- All that was told to a listener of a page, oldest first. -/
  told : ListenerId → PageId → List Notice
  /-- The requests that a listener has made on a page. -/
  asked : ListenerId → PageId → Nat
  /-- The requests of a listener on a page that have ended. -/
  released : ListenerId → PageId → Nat
  /-- The changes of a page that took place while a request of a listener waited to
  be taken up. -/
  missed : ListenerId → PageId → Nat

namespace Annals

/-- Nothing has happened yet. -/
def new : Annals α where
  cache := .empty
  works _ := []
  changes _ := []
  told _ _ := []
  asked _ _ := 0
  released _ _ := 0
  missed _ _ := 0

/-- Lets an event happen, and records it. -/
def record (r : Annals α) (e : Event α) : Annals α :=
  let after := r.cache.react e
  let changes := fun id => changesBetween (r.cache.page? id) (after.page? id)
  { cache := after
    works := fun id => r.works id ++ worksBetween (r.cache.page? id) (after.page? id)
    changes := fun id => r.changes id ++ changes id
    told := fun l id => r.told l id ++ news r.cache after l id
    asked := fun l id => r.asked l id + (after.held l id - r.cache.held l id)
    released := fun l id => r.released l id + (r.cache.held l id - after.held l id)
    missed := fun l id => r.missed l id + if r.cache.awaits l id then (changes id).length else 0 }

section Record

variable (r : Annals α) (e : Event α) (l : ListenerId) (id : PageId)

@[simp] theorem cache_record : (r.record e).cache = r.cache.react e := rfl

theorem works_record : (r.record e).works id =
    r.works id ++ worksBetween (r.cache.page? id) ((r.cache.react e).page? id) := rfl

theorem changes_record : (r.record e).changes id =
    r.changes id ++ changesBetween (r.cache.page? id) ((r.cache.react e).page? id) := rfl

theorem told_record : (r.record e).told l id =
    r.told l id ++ news r.cache (r.cache.react e) l id := rfl

theorem asked_record : (r.record e).asked l id =
    r.asked l id + ((r.cache.react e).held l id - r.cache.held l id) := rfl

theorem released_record : (r.record e).released l id =
    r.released l id + (r.cache.held l id - (r.cache.react e).held l id) := rfl

theorem missed_record : (r.record e).missed l id = r.missed l id +
    if r.cache.awaits l id then
      (changesBetween (r.cache.page? id) ((r.cache.react e).page? id)).length
    else 0 := rfl

variable {r e l id}

/-- Who holds as much as before has not asked again. -/
theorem asked_record_of_held (held : (r.record e).cache.held l id = r.cache.held l id) :
    (r.record e).asked l id = r.asked l id := by
  rw [asked_record, ← cache_record, held, Nat.sub_self, Nat.add_zero]

end Record

/-- Lets events happen one after the other. -/
def run (r : Annals α) (events : List (Event α)) : Annals α := events.foldl record r

@[simp] theorem run_nil (r : Annals α) : r.run [] = r := rfl

@[simp] theorem run_cons (r : Annals α) (e : Event α) (events : List (Event α)) :
    r.run (e :: events) = (r.record e).run events := rfl

/-- What holds of a record, and goes on to hold whatever happens next, holds
along every run. -/
theorem run_induction {P : Annals α → Prop} {r : Annals α} (start : P r)
    (step : ∀ r e, P r → P (r.record e)) (events : List (Event α)) : P (r.run events) := by
  induction events generalizing r with
  | nil => exact start
  | cons e events ih => exact ih (step r e start)

/-! ## The record agrees with the cache -/

/-- The record of a page agrees with the page. -/
structure Tells (r : Annals α) (id : PageId) (p : Page α) : Prop where
  recorded : p.Recorded (r.changes id)
  started : p.started = (r.works id).length
  /-- Its first computation loads it, and no other does. -/
  load : (r.works id).count .load = 1
  listed : ∀ l, r.released l id = 0 → p.Listed l (r.asked l id)

/-- The record agrees with the cache, and the cache is orderly. -/
structure Agrees (r : Annals α) : Prop where
  orderly : r.cache.Orderly
  pages : ∀ id p, r.cache.page? id = some p → r.Tells id p
  /-- There is no record of a page that was never made. -/
  absent : ∀ id, r.cache.page? id = none →
    r.works id = [] ∧ r.changes id = [] ∧ ∀ l, r.asked l id = 0
  counted : ∀ l id, r.asked l id = r.cache.held l id + r.released l id
  /-- A listener hears nothing of a page that it never asked for. -/
  unasked : ∀ l id, r.asked l id = 0 → r.told l id = [] ∧ r.missed l id = 0

theorem agrees_new : (new : Annals α).Agrees where
  orderly := orderly_empty
  pages := fun _ _ found => nomatch found
  absent := fun _ _ => ⟨rfl, rfl, fun _ => rfl⟩
  counted := fun _ _ => rfl
  unasked := fun _ _ _ => ⟨rfl, rfl⟩

/-- What one event adds to the record of a page that was there before. -/
inductive Advances (r r' : Annals α) (id : PageId) (p : Page α) : Prop where
  | sent (commands : List Command) (after : r'.cache.page? id = some (p.sendAll commands))
      (calls : ∀ l, Calls l p.snapshot.revision commands (r.cache.held l id)
        (r'.cache.held l id))
      (works : r'.works id = r.works id) (changes : r'.changes id = r.changes id)
      (told : ∀ l, r'.told l id = r.told l id) (missed : ∀ l, r'.missed l id = r.missed l id)
  | acted (p' : Page α) (post : Post) (ts : List Transition) (modes : List RefreshMode)
      (after : r'.cache.page? id = some p') (turned : p.Turned p' post ts)
      (held : ∀ l, r'.cache.held l id = r.cache.held l id)
      (works : r'.works id = r.works id ++ modes.map Work.refresh)
      (started : p'.started = p.started + modes.length)
      (changes : r'.changes id = r.changes id ++ ts)
      (told : ∀ l, r'.told l id =
        r.told l id ++ if (r.cache.listener? l).isSome then post l else [])
      (missed : ∀ l, r'.missed l id = r.missed l id + if p.awaits l then ts.length else 0)

variable {r : Annals α}

theorem Agrees.advances (h : r.Agrees) (e : Event α) {id : PageId} {p : Page α}
    (found : r.cache.page? id = some p) : Advances r (r.record e) id p := by
  have tells := h.pages id p found
  cases h.orderly.turn e id with
  | unmade absent => exact nomatch found.symm.trans absent
  | made _ _ _ absent => exact nomatch found.symm.trans absent
  | sent q commands before after calls silent =>
    cases found.symm.trans before
    have nothing : changesBetween (r.cache.page? id) ((r.cache.react e).page? id) = [] := by
      rw [found, after]
      exact tells.recorded.changesTo_of_same rfl
    refine .sent commands after calls ?_ ?_ (fun l => ?_) fun l => ?_
    · rw [works_record, found, after]
      exact (congrArg _ (if_pos rfl)).trans (List.append_nil _)
    · rw [changes_record, nothing, List.append_nil]
    · rw [told_record, silent, List.append_nil]
    · rw [missed_record, nothing, List.length_nil, ite_self, Nat.add_zero]
  | acted q step own before after held told =>
    cases found.symm.trans before
    have regular := (h.orderly.fits id p found).regular
    obtain ⟨ts, turned⟩ := regular.turned own
    obtain ⟨modes, works, started⟩ := regular.works step
    have changes : changesBetween (r.cache.page? id) ((r.cache.react e).page? id) = ts := by
      rw [found, after]
      exact (tells.recorded.turned turned).2
    refine .acted _ _ ts modes after turned held ?_ started ?_ (fun l => ?_) fun l => ?_
    · rw [works_record, found, after]
      exact congrArg _ works
    · rw [changes_record, changes]
    · rw [told_record, told]
    · rw [missed_record, changes, awaits_of_found found]

/-- Nothing is recorded of a page that is still to be made. -/
theorem Agrees.unmade (h : r.Agrees) (e : Event α) {id : PageId}
    (absent : r.cache.page? id = none) (after : (r.record e).cache.page? id = none) :
    (r.record e).works id = [] ∧ (r.record e).changes id = [] ∧
      ∀ l, (r.record e).asked l id = 0 ∧ (r.record e).told l id = [] ∧
        (r.record e).missed l id = 0 := by
  obtain ⟨works, changes, asked⟩ := h.absent id absent
  have after : (r.cache.react e).page? id = none := after
  cases h.orderly.turn e id with
  | made _ _ _ _ created => exact nomatch after.symm.trans created
  | sent q _ before => exact nomatch absent.symm.trans before
  | acted q _ _ before => exact nomatch absent.symm.trans before
  | unmade _ _ fewer silent =>
    refine ⟨?_, ?_, fun l => ⟨?_, ?_, ?_⟩⟩
    · rw [works_record, works, absent, after]
      rfl
    · rw [changes_record, changes, absent, after]
      rfl
    · rw [asked_record, asked, Nat.zero_add, Nat.sub_eq_zero_of_le (fewer l)]
    · rw [told_record, silent, (h.unasked l id (asked l)).1]
      rfl
    · rw [missed_record, awaits_of_none absent, (h.unasked l id (asked l)).2]
      rfl

/-- The record of a page that has just been made for a listener. -/
structure Made (r : Annals α) (id : PageId) (p : Page α) (k : PageKey) (l : ListenerId) : Prop where
  page : p = (Page.create id k l).1
  works : r.works id = [.load]
  changes : r.changes id = [⟨1, .empty, .loading⟩]
  asked : ∀ m, r.asked m id = if m = l then 1 else 0
  released : ∀ m, r.released m id = 0
  missed : ∀ m, r.missed m id = 0
  told : ∀ m, r.told m id = if m = l then (Page.create id k l : Page α × Post).2 m else []

/-- A new page tells nobody but its maker. -/
theorem silent_create (id : PageId) (k : PageKey) {l m : ListenerId} (other : m ≠ l) :
    (Page.create id k l : Page α × Post).2 m = [] := by
  show (if m ∈ [l] then [Notice.stateChanged .empty .loading] else []) = []
  rw [if_neg (by simpa using other)]

/-- A page that was not there before is made by the event. -/
theorem Agrees.made (h : r.Agrees) {e : Event α} {id : PageId} {p : Page α}
    (absent : r.cache.page? id = none) (after : (r.cache.react e).page? id = some p) :
    ∃ k l, (r.record e).Made id p k l := by
  obtain ⟨works, changes, asked⟩ := h.absent id absent
  cases h.orderly.turn e id with
  | unmade _ missing => exact nomatch after.symm.trans missing
  | sent q _ before => exact nomatch absent.symm.trans before
  | acted q _ _ before => exact nomatch absent.symm.trans before
  | made k l present _ created held told =>
    have page : p = (Page.create id k l).1 := Option.some.inj (after.symm.trans created)
    -- nobody has held or released a page that was never made
    have first : ∀ m, r.cache.held m id = 0 ∧ r.released m id = 0 := fun m => by
      have := h.counted m id
      rw [asked] at this
      omega
    refine ⟨k, l, page, ?_, ?_, fun m => ?_, fun m => ?_, fun m => ?_, fun m => ?_⟩
    · rw [works_record, works, absent, created]
      rfl
    · rw [changes_record, changes, absent, created]
      rfl
    · rw [asked_record, asked, held, (first m).1]
      omega
    · rw [released_record, (first m).1, (first m).2, Nat.zero_sub]
    · rw [missed_record, awaits_of_none absent, (h.unasked m id (asked m)).2]
      rfl
    · rw [told_record, told, (h.unasked m id (asked m)).1, List.nil_append]
      by_cases maker : m = l
      · rw [maker, if_pos present, if_pos rfl]
      · rw [if_neg maker, silent_create id k maker, ite_self]

/-- The record of a new page agrees with it. -/
theorem Made.tells {id : PageId} {p : Page α} {k : PageKey} {l : ListenerId}
    (h : r.Made id p k l) : r.Tells id p where
  recorded := by
    rw [h.page, h.changes]
    exact Page.recorded_create id k l
  started := by
    rw [h.page, h.works]
    rfl
  load := by
    rw [h.works]
    rfl
  listed := fun m _ => by
    rw [h.page, h.asked]
    exact Page.listed_create id k l m

/-- A listener that has released nothing after an event had released nothing before, and
holds no less. -/
theorem held_le_of_released {e : Event α} {l : ListenerId} {id : PageId}
    (none : (r.record e).released l id = 0) :
    r.released l id = 0 ∧ r.cache.held l id ≤ (r.record e).cache.held l id := by
  rw [released_record] at none
  rw [cache_record]
  omega

/-- The record of a page that was there before goes on to agree with it. -/
theorem Agrees.tells_record (h : r.Agrees) (e : Event α) {id : PageId} {p p' : Page α}
    (found : r.cache.page? id = some p) (after : (r.record e).cache.page? id = some p') :
    (r.record e).Tells id p' := by
  have tells := h.pages id p found
  cases h.advances e found with
  | sent commands page calls works changes =>
    cases after.symm.trans page
    constructor
    · rw [changes]
      exact tells.recorded.of_same rfl rfl
    · rw [works]
      exact tells.started
    · rw [works]
      exact tells.load
    · intro l none
      obtain ⟨before, more⟩ := held_le_of_released none
      exact (calls l).listed more (tells.listed l before)
  | acted q post ts modes page turned held works started changes =>
    cases after.symm.trans page
    constructor
    · rw [changes]
      exact (tells.recorded.turned turned).1
    · rw [works, started, tells.started, List.length_append, List.length_map]
    · -- a step starts refreshes only, so the load is still the one of the beginning
      have refreshes : (modes.map Work.refresh).count .load = 0 := by
        rw [List.count_eq_zero]
        simp
      rw [works, List.count_append, tells.load, refreshes]
    · intro l none
      obtain ⟨before, -⟩ := held_le_of_released none
      rw [asked_record_of_held (held l)]
      exact (tells.listed l before).turned turned

/-- A listener that has asked for nothing yet has been told nothing. -/
theorem Agrees.unasked_record (h : r.Agrees) (e : Event α) {l : ListenerId} {id : PageId}
    (none : (r.record e).asked l id = 0) :
    (r.record e).told l id = [] ∧ (r.record e).missed l id = 0 := by
  cases found : r.cache.page? id with
  | none =>
    cases after : (r.record e).cache.page? id with
    | none => exact ((h.unmade e found after).2.2 l).2
    | some p =>
      obtain ⟨k, maker, made⟩ := h.made found after
      have asked := made.asked l
      have other : l ≠ maker := by
        rintro rfl
        rw [none, if_pos rfl] at asked
        cases asked
      exact ⟨(made.told l).trans (if_neg other), made.missed l⟩
  | some p =>
    rw [asked_record] at none
    have before : r.asked l id = 0 := Nat.eq_zero_of_add_eq_zero_right none
    have released : r.released l id = 0 := by
      have := h.counted l id
      omega
    obtain ⟨told, missed⟩ := h.unasked l id before
    have listed := (h.pages id p found).listed l released
    rw [before] at listed
    cases h.advances e found with
    | sent commands page calls works changes told' missed' =>
      exact ⟨(told' l).trans told, (missed' l).trans missed⟩
    | acted q post ts modes page turned held works started changes told' missed' =>
      rw [told', missed', told, missed, turned.silent listed, ite_self, listed.not_awaits]
      exact ⟨rfl, rfl⟩

/-- The record goes on to agree, whatever happens. -/
theorem Agrees.record (h : r.Agrees) (e : Event α) : (r.record e).Agrees where
  orderly := h.orderly.react e
  pages := by
    intro id p after
    cases found : r.cache.page? id with
    | none =>
      obtain ⟨k, l, made⟩ := h.made found after
      exact made.tells
    | some q => exact h.tells_record e found after
  absent := by
    intro id after
    have found : r.cache.page? id = none := by
      cases found : r.cache.page? id with
      | none => rfl
      | some p =>
        cases h.advances e found with
        | sent _ page => exact nomatch after.symm.trans page
        | acted _ _ _ _ page => exact nomatch after.symm.trans page
    obtain ⟨works, changes, rest⟩ := h.unmade e found after
    exact ⟨works, changes, fun l => (rest l).1⟩
  counted := by
    intro l id
    have := h.counted l id
    rw [asked_record, released_record, cache_record]
    omega
  unasked := fun l id none => h.unasked_record e none

/-- The record of every run agrees with the cache. -/
theorem Agrees.run (h : r.Agrees) (events : List (Event α)) : (r.run events).Agrees :=
  run_induction h (fun _ e h => h.record e) events

/-- What holds of a page as it is made, and goes on to hold of it as the run advances,
holds of it along every run. -/
theorem page_induction {id : PageId} {P : Annals α → Page α → Prop}
    (made : ∀ {r p k m}, Agrees r → Made r id p k m → P r p)
    (step : ∀ {r e p p'}, Agrees r → r.cache.page? id = some p →
      (record r e).cache.page? id = some p' → Advances r (record r e) id p → P r p →
        P (record r e) p')
    (events : List (Event α)) {p : Page α}
    (found : ((new : Annals α).run events).cache.page? id = some p) :
    P ((new : Annals α).run events) p := by
  suffices kept : ((new : Annals α).run events).Agrees ∧ ∀ p,
      ((new : Annals α).run events).cache.page? id = some p → P ((new : Annals α).run events) p from
    kept.2 p found
  refine run_induction (P := fun s => s.Agrees ∧ ∀ p, s.cache.page? id = some p → P s p)
    ⟨agrees_new, fun p none => nomatch none⟩ ?_ events
  rintro s e ⟨h, holds⟩
  refine ⟨h.record e, fun p' after => ?_⟩
  cases before : s.cache.page? id with
  | none =>
    obtain ⟨k, m, new⟩ := h.made before after
    exact made (h.record e) new
  | some p => exact step h before after (h.advances e before) (holds p before)

end Annals

end PageCache

end MarketConditions
