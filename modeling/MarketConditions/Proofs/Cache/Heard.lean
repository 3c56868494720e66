import MarketConditions.Proofs.Cache.Joining
import MarketConditions.Proofs.Page.Telling

/-!
# How often a listener is told of a change

A change reaches a listener because it is attached when the change takes place, and it
reaches it again with each of its requests that was made before the change and is taken up
after it. A listener that asks for a page it is attached to may so be told of one change
twice. It is never told more often than this explains.

- `PageCache.heardBetween`, `PageCache.Annals.heard`: the changes themselves that a
  listener is told of, by one event and in a run. `Annals.Agrees.told_run`: its notices
  are those of these changes.
- `Annals.Agrees.heard_record_le`: what one event tells, together with what is still owed,
  is owed before. `Annals.Agrees.heard_run_le`: what a run tells of a change that is over
  is owed before it.
- `PageCache.due`: how often a listener is due to be told of a change that takes place now.
- `PageCache.Annals.told_as_often_as_due`: **no change is told more often than it is
  due**, and to a listener that has asked once none is told twice.
- `PageCache.Annals.told_twice`: a run in which a change is told twice.
-/

namespace MarketConditions

variable {α : Type}

namespace Page

/-- What is sent to a page has nobody told of anything. -/
theorem toldTo_sendAll {p : Page α} {changes : List Transition} (recorded : Recorded p changes)
    (commands : List Command) (l : ListenerId) : p.toldTo (p.sendAll commands) l = [] := by
  have same : (p.sendAll commands).attached.count l ≤ p.attached.count l := Nat.le_refl _
  have unmoved : p.changesTo (p.sendAll commands) = [] := recorded.changesTo_of_same rfl
  unfold toldTo
  rw [replayed_of_count same, unmoved, ite_self]
  rfl

/-- A change that is on record is shown by the page. -/
theorem Recorded.shown {p : Page α} {changes : List Transition} (recorded : Recorded p changes)
    {t : Transition} (ht : t ∈ changes) : t.revision ≤ p.snapshot.revision := by
  have number := List.mem_map_of_mem (f := Transition.revision) ht
  rw [recorded.numbered, List.mem_range'_1] at number
  rw [recorded.revision]
  omega

/-- How often a listener is attached or has a request that waits. -/
def roll (p : Page α) (l : ListenerId) : Nat :=
  p.attached.count l + p.queue.countP (·.attaches l)

/-- Taking commands up puts nobody on the roll. -/
theorem Turned.roll_le {p p' : Page α} {post : Post} {ts : List Transition}
    (turned : Turned p p' post ts) (l : ListenerId) : p'.roll l ≤ p.roll l := by
  unfold roll
  cases turned with
  | moved passed plain queue short moves =>
    rw [moves.attached, queue, List.countP_append]
    omega
  | joined m seen rest queue page =>
    obtain ⟨rfl, -⟩ := Prod.mk.inj page
    rw [queue, List.countP_cons]
    show (p.attached ++ [m]).count l + rest.countP (·.attaches l) ≤ _
    rw [List.count_append, List.count_singleton]
    have one : (m == l) = Command.attaches l (.attach m seen) := rfl
    rw [one]
    omega
  | left m rest queue page =>
    subst page
    rw [queue, List.countP_cons]
    show (p.attached.erase m).count l + rest.countP (·.attaches l) ≤ _
    have fewer : (p.attached.erase m).count l ≤ p.attached.count l :=
      List.Sublist.count_le _ List.erase_sublist
    omega

end Page

namespace PageCache

/-! ## The changes that are told -/

/-- The changes of a page that a listener is told of from one cache to the next. Whoever
has left is told nothing, and whoever makes a page is told of its first change. -/
def heardBetween (c c' : PageCache α) (l : ListenerId) (id : PageId) : List Transition :=
  if (c.listener? l).isSome then
    match c.page? id, c'.page? id with
    | some p, some after => p.toldTo after l
    | none, some after => if l ∈ after.attached then after.history else []
    | _, none => []
  else []

/-- How often a listener is due to be told of a change of a page that takes place now:
once if it is attached, and once for each of its requests that wait. The first change of a
page is told once. -/
def due (c : PageCache α) (l : ListenerId) (id : PageId) : Nat :=
  (c.page? id).elim 1 fun p =>
    (if l ∈ p.attached then 1 else 0) + p.queue.countP (·.attaches l)

section

variable {c c' : PageCache α} (l : ListenerId) {id : PageId}

theorem heardBetween_of_found {p p' : Page α} (found : c.page? id = some p)
    (after : c'.page? id = some p') :
    heardBetween c c' l id = if (c.listener? l).isSome then p.toldTo p' l else [] := by
  unfold heardBetween
  rw [found, after]

theorem heardBetween_of_made {p' : Page α} (missing : c.page? id = none)
    (after : c'.page? id = some p') :
    heardBetween c c' l id = if (c.listener? l).isSome then
      (if l ∈ p'.attached then p'.history else []) else [] := by
  unfold heardBetween
  rw [missing, after]

theorem heardBetween_of_unmade (after : c'.page? id = none) : heardBetween c c' l id = [] := by
  unfold heardBetween
  rw [after]
  split
  · cases c.page? id <;> rfl
  · rfl

end

namespace Annals

variable {r : Annals α} {l : ListenerId} {id : PageId}

/-- The changes of a page that a listener is told of in a run that goes on from a record. -/
def heard (r : Annals α) (l : ListenerId) (id : PageId) : List (Event α) → List Transition
  | [] => []
  | e :: events =>
    heardBetween r.cache (r.cache.react e) l id ++ (r.record e).heard l id events

theorem heard_append (r : Annals α) (l : ListenerId) (id : PageId)
    (events more : List (Event α)) :
    r.heard l id (events ++ more) = r.heard l id events ++ (r.run events).heard l id more := by
  induction events generalizing r with
  | nil => rfl
  | cons e events ih =>
    show _ ++ (r.record e).heard l id (events ++ more) = _
    rw [ih, ← List.append_assoc]
    rfl

/-- The notices of changes that an event brings a listener are those of the changes it
is told of. -/
theorem Agrees.news_states (h : r.Agrees) (e : Event α) (l : ListenerId) (id : PageId) :
    (news r.cache (r.cache.react e) l id).filter (!·.isData) =
      (heardBetween r.cache (r.cache.react e) l id).map Transition.notice := by
  cases h.orderly.turn e id with
  | unmade missing after fewer silent =>
    rw [silent, heardBetween_of_unmade l after]
    rfl
  | made k m maker missing after held told =>
    rw [told, heardBetween_of_made l missing after]
    split
    · show (if l ∈ [m] then [Notice.stateChanged .empty .loading] else []).filter _ =
        List.map _ (if l ∈ [m] then [Transition.mk 1 .empty .loading] else [])
      split <;> rfl
    · rfl
  | sent p commands found after calls silent =>
    rw [silent, heardBetween_of_found l found after,
      Page.toldTo_sendAll (h.pages id p found).recorded, ite_self]
    rfl
  | acted p step own found after held told =>
    obtain ⟨ts, turned⟩ := (h.orderly.fits id p found).regular.turned own
    rw [told, heardBetween_of_found l found after]
    split
    · exact turned.told (h.pages id p found).recorded l
    · rfl

/-- **What is told is of the changes**, along every run. -/
theorem Agrees.told_run (h : r.Agrees) (l : ListenerId) (id : PageId) (events : List (Event α)) :
    ((r.run events).told l id).filter (!·.isData) =
      (r.told l id).filter (!·.isData) ++ (r.heard l id events).map Transition.notice := by
  induction events generalizing r with
  | nil => exact (List.append_nil _).symm
  | cons e events ih =>
    show (((r.record e).run events).told l id).filter _ =
      _ ++ (_ ++ (r.record e).heard l id events).map _
    rw [ih (h.record e), told_record, List.filter_append, h.news_states, List.map_append,
      List.append_assoc]

/-- A listener is told only of changes that have taken place. -/
theorem Agrees.heard_record_subset (h : r.Agrees) (e : Event α) (l : ListenerId) (id : PageId) :
    ∀ t ∈ heardBetween r.cache (r.cache.react e) l id, t ∈ (r.record e).changes id := by
  intro t ht
  cases h.orderly.turn e id with
  | unmade missing after =>
    rw [heardBetween_of_unmade l after] at ht
    cases ht
  | made k m maker missing after held told =>
    rw [heardBetween_of_made l missing after, ← ite_and] at ht
    rw [changes_record, missing, after]
    split at ht
    · exact List.mem_append_right _ ht
    · cases ht
  | sent p commands found after =>
    rw [heardBetween_of_found l found after,
      Page.toldTo_sendAll (h.pages id p found).recorded, ite_self] at ht
    cases ht
  | acted p step own found after held told =>
    obtain ⟨ts, turned⟩ := (h.orderly.fits id p found).regular.turned own
    have recorded := (h.pages id p found).recorded
    rw [heardBetween_of_found l found after] at ht
    rw [changes_record, found, after]
    show t ∈ r.changes id ++ p.changesTo (p.react step).1
    rw [(recorded.turned turned).2]
    split at ht
    · exact Page.toldTo_subset turned recorded l t ht
    · cases ht

theorem Agrees.heard_subset (h : r.Agrees) (l : ListenerId) (id : PageId)
    (events : List (Event α)) : ∀ t ∈ r.heard l id events, t ∈ (r.run events).changes id := by
  induction events generalizing r with
  | nil => exact fun t ht => nomatch ht
  | cons e events ih =>
    intro t ht
    rcases List.mem_append.mp ht with now | later
    · obtain ⟨more, grown⟩ := changes_run (r.record e) id events
      rw [run_cons, grown]
      exact List.mem_append_left _ (h.heard_record_subset e l id t now)
    · exact ih (h.record e) t later

/-! ## How often -/

/-- **One event.** What it tells of a change that the page shows then, and what is owed of
it then, was owed before, but for those who are attached when the change takes place. -/
theorem Agrees.heard_record_le (h : r.Agrees) (e : Event α) {p : Page α}
    (found : r.cache.page? id = some p) (l : ListenerId) :
    ∃ p', (r.record e).cache.page? id = some p' ∧ p.snapshot.revision ≤ p'.snapshot.revision ∧
      ∀ v ≤ p'.snapshot.revision,
        ((heardBetween r.cache (r.cache.react e) l id).map Transition.revision).count v +
          p'.owed l v ≤ p.owed l v + if p.snapshot.revision < v ∧ l ∈ p.attached then 1 else 0 := by
  have recorded := (h.pages id p found).recorded
  cases h.advances e found with
  | sent commands after calls =>
    refine ⟨_, after, Nat.le_refl _, fun v shown => ?_⟩
    have silent : heardBetween r.cache (r.cache.react e) l id = [] := by
      refine (heardBetween_of_found l found after).trans ?_
      rw [Page.toldTo_sendAll recorded, ite_self]
    have owes : (p.sendAll commands).owed l v = p.owed l v := by
      refine Page.owed_sendAll shown ?_
      cases calls l with
      | none attaches => exact .inl attaches
      | attached one => exact .inr one
      | detached one => exact .inl (by rw [one]; rfl)
    rw [silent, owes]
    show 0 + _ ≤ _
    omega
  | acted p' post ts modes after turned =>
    have recorded' := (recorded.turned turned).1
    refine ⟨p', after, ?_, fun v _ => ?_⟩
    · rw [recorded.revision, recorded'.revision, List.length_append]
      exact Nat.le_add_right _ _
    · have heard : heardBetween r.cache (r.cache.react e) l id =
          if (r.cache.listener? l).isSome then p.toldTo p' l else [] :=
        heardBetween_of_found l found after
      have told := recorded.told_le turned l v
      rw [heard]
      split
      · exact told
      · show 0 + _ ≤ _
        omega

/-- **A run.** Of a change that the page has shown before, a run tells only what is owed. -/
theorem Agrees.heard_run_le (h : r.Agrees) {p : Page α} (found : r.cache.page? id = some p)
    (l : ListenerId) {v : Nat} (shown : v ≤ p.snapshot.revision) (events : List (Event α)) :
    ((r.heard l id events).map Transition.revision).count v ≤ p.owed l v := by
  induction events generalizing r p with
  | nil => exact Nat.zero_le _
  | cons e events ih =>
    obtain ⟨p', after, later, told⟩ := h.heard_record_le e found l
    have now := told v (shown.trans later)
    rw [if_neg fun both => Nat.not_lt_of_le shown both.1] at now
    have rest := ih (h.record e) after (shown.trans later)
    show ((_ ++ (r.record e).heard l id events).map Transition.revision).count v ≤ _
    rw [List.map_append, List.count_append]
    omega

/-- Of a change that takes place, what it brings and the whole run after it tell no more
than is due. -/
theorem Agrees.heard_change_le (h : r.Agrees) (e : Event α) (after : List (Event α))
    {t : Transition}
    (ht : t ∈ changesBetween (r.cache.page? id) ((r.cache.react e).page? id)) (l : ListenerId) :
    ((r.heard l id (e :: after)).map Transition.revision).count t.revision ≤
      r.cache.due l id := by
  show ((_ ++ (r.record e).heard l id after).map Transition.revision).count _ ≤ _
  rw [List.map_append, List.count_append]
  unfold due
  cases found : r.cache.page? id with
  | none =>
    cases made : (r.cache.react e).page? id with
    | none =>
      rw [found, made] at ht
      cases ht
    | some p =>
      obtain ⟨k, m, new⟩ := h.made found made
      rw [found, made] at ht
      have page : p = (Page.create id k m).1 := new.page
      subst page
      obtain rfl := List.mem_singleton.mp (show t ∈ [Transition.mk 1 .empty .loading] from ht)
      have rest := (h.record e).heard_run_le made l (Nat.le_refl 1) after
      have owes : (Page.create id k m : Page α × Post).1.owed l 1 = 0 := rfl
      have now : ((heardBetween r.cache (r.cache.react e) l id).map
          Transition.revision).count 1 ≤ 1 := by
        rw [heardBetween_of_made l found made]
        split
        · show (List.map _ (if l ∈ [m] then [Transition.mk 1 .empty .loading] else [])).count 1 ≤ 1
          split <;> decide
        · exact Nat.zero_le 1
      rw [owes] at rest
      exact Nat.add_le_add now rest
  | some p =>
    obtain ⟨p', made, later, told⟩ := h.heard_record_le e found l
    have shown : t.revision ≤ p'.snapshot.revision := by
      refine ((h.record e).pages id p' made).recorded.shown ?_
      rw [changes_record]
      exact List.mem_append_right _ ht
    have now := told t.revision shown
    have rest := (h.record e).heard_run_le made l shown after
    have owes := p.owed_le l t.revision
    show _ ≤ (if l ∈ p.attached then 1 else 0) + p.queue.countP (·.attaches l)
    split at now
    · rename_i joined
      rw [if_pos joined.2]
      omega
    · omega

/-- A change has not been told before it takes place. -/
theorem Agrees.not_heard_before (h : r.Agrees) (e : Event α) {t : Transition}
    (ht : t ∈ changesBetween (r.cache.page? id) ((r.cache.react e).page? id)) :
    ∀ u ∈ r.changes id, u.revision ≠ t.revision := by
  intro u hu
  cases found : r.cache.page? id with
  | none =>
    rw [(h.absent id found).2.1] at hu
    cases hu
  | some p =>
    have shown := (h.pages id p found).recorded.shown hu
    cases made : (r.cache.react e).page? id with
    | none =>
      rw [found, made] at ht
      cases ht
    | some p' =>
      rw [found, made] at ht
      have later : p.snapshot.revision < t.revision :=
        of_decide_eq_true (List.mem_filter.mp ht).2
      omega

/-- Whoever is attached when a change takes place is told of it. -/
theorem Agrees.heard_of_attached (h : r.Agrees) (e : Event α) {p : Page α}
    (found : r.cache.page? id = some p) (joined : l ∈ p.attached)
    (present : (r.cache.listener? l).isSome) {t : Transition}
    (ht : t ∈ changesBetween (r.cache.page? id) ((r.cache.react e).page? id)) :
    t ∈ heardBetween r.cache (r.cache.react e) l id := by
  obtain ⟨p', made, -⟩ := h.heard_record_le e found l
  have made : (r.cache.react e).page? id = some p' := made
  rw [found, made] at ht
  rw [heardBetween_of_found l found made, if_pos present]
  refine List.mem_append_right _ ?_
  rw [if_pos joined]
  exact ht

/-- A change on record took place at some event of the run. -/
theorem exists_of_mem_changes (r : Annals α) (events : List (Event α)) {t : Transition}
    (ht : t ∈ (r.run events).changes id) (new : t ∉ r.changes id) :
    ∃ before e after, events = before ++ e :: after ∧
      t ∈ changesBetween ((r.run before).cache.page? id)
        (((r.run before).cache.react e).page? id) := by
  induction events generalizing r with
  | nil => exact absurd ht new
  | cons e events ih =>
    by_cases now : t ∈ (r.record e).changes id
    · rw [changes_record] at now
      exact ⟨[], e, events, rfl, (List.mem_append.mp now).resolve_left new⟩
    · obtain ⟨before, e', after, split, change⟩ := ih (r.record e) ht now
      exact ⟨e :: before, e', after, congrArg (e :: ·) split, change⟩

/-! ## Those who ask once -/

/-- Nobody is on the roll of a page more often than it has asked for the page. -/
theorem roll_le_asked (events : List (Event α)) (l : ListenerId) (id : PageId) {p : Page α}
    (found : ((new : Annals α).run events).cache.page? id = some p) :
    p.roll l ≤ ((new : Annals α).run events).asked l id := by
  refine page_induction (P := fun r p => p.roll l ≤ r.asked l id) ?_ ?_ events found
  · intro r p k m h made
    rw [made.page, made.asked]
    show [m].count l + 0 ≤ _
    by_cases same : l = m
    · simp [same]
    · simp [same, Ne.symm same]
  · intro r e p p' h found after advances few
    cases advances with
    | sent commands page calls =>
      cases after.symm.trans page
      have more : (p.sendAll commands).roll l = p.roll l + commands.countP (·.attaches l) := by
        unfold Page.roll
        show _ + (p.queue ++ commands).countP _ = _
        rw [List.countP_append, ← Nat.add_assoc]
        rfl
      rw [more, asked_record]
      cases calls l with
      | none attaches => omega
      | attached one grown =>
        have grown : (r.cache.react e).held l id = r.cache.held l id + 1 := grown
        rw [one, grown]
        simp [Command.attaches]
        omega
      | detached one =>
        rw [one]
        show p.roll l + 0 ≤ _
        omega
    | acted q post ts modes page turned held =>
      cases after.symm.trans page
      rw [asked_record_of_held (held l)]
      exact (turned.roll_le l).trans few

/-- A listener that has asked once is never due twice. -/
theorem due_le_one (events : List (Event α)) (l : ListenerId) (id : PageId)
    (once : ((new : Annals α).run events).asked l id ≤ 1) :
    ((new : Annals α).run events).cache.due l id ≤ 1 := by
  unfold due
  cases found : ((new : Annals α).run events).cache.page? id with
  | none => exact Nat.le_refl 1
  | some p =>
    have few := roll_le_asked events l id found
    unfold Page.roll at few
    show (if l ∈ p.attached then 1 else 0) + p.queue.countP (·.attaches l) ≤ 1
    split
    · rename_i joined
      have := List.count_pos_iff.mpr joined
      omega
    · omega

/-! ## Along every run -/

/-- **No change is told more often than it is due.** Take any run and a listener. What it
is told of a page, changed data apart, is the notices of changes that have taken place.
Take any event of the run, and a change that takes place in it. In the whole run the
listener is told of the change at most as often as it is due then: once if it is attached,
and once for each of its requests that wait. If it is there and attached, it is told at
least once. And a listener that has asked for the page no more than once is told of no
change twice. -/
theorem told_as_often_as_due (events : List (Event α)) (l : ListenerId) (id : PageId) :
    let s : Annals α := new.run events
    let heard := (new : Annals α).heard l id events
    (s.told l id).filter (!·.isData) = heard.map Transition.notice ∧
    (∀ t ∈ heard, t ∈ s.changes id) ∧
    (∀ before e after, events = before ++ e :: after →
      let r : Annals α := new.run before
      ∀ t ∈ changesBetween (r.cache.page? id) ((r.cache.react e).page? id),
        heard.count t ≤ r.cache.due l id ∧
        ∀ p, r.cache.page? id = some p → l ∈ p.attached → (r.cache.listener? l).isSome →
          1 ≤ heard.count t) ∧
    (s.asked l id ≤ 1 → heard.Nodup) := by
  intro s heard
  have subset : ∀ t ∈ heard, t ∈ s.changes id := agrees_new.heard_subset l id events
  have often : ∀ before e after, events = before ++ e :: after →
      ∀ t ∈ changesBetween (((new : Annals α).run before).cache.page? id)
        ((((new : Annals α).run before).cache.react e).page? id),
      heard.count t ≤ ((new : Annals α).run before).cache.due l id := by
    intro before e after split t ht
    have h : ((new : Annals α).run before).Agrees := agrees_new.run before
    have whole : heard = (new : Annals α).heard l id before ++
        ((new : Annals α).run before).heard l id (e :: after) := by
      rw [← heard_append, ← split]
    have early : t ∉ (new : Annals α).heard l id before := fun told =>
      h.not_heard_before e ht t (agrees_new.heard_subset l id before t told) rfl
    rw [whole, List.count_append, List.count_eq_zero.mpr early, Nat.zero_add]
    exact List.count_le_count_map.trans (h.heard_change_le e after ht l)
  refine ⟨agrees_new.told_run l id events, subset, ?_, ?_⟩
  · intro before e after split r t ht
    refine ⟨often before e after split t ht, fun p found joined present => ?_⟩
    have h : r.Agrees := agrees_new.run before
    have now := h.heard_of_attached e found joined present ht
    refine List.count_pos_iff.mpr ?_
    show t ∈ (new : Annals α).heard l id events
    rw [split, heard_append]
    exact List.mem_append_right _ (List.mem_append_left _ now)
  · intro once
    rw [List.nodup_iff_count]
    intro t
    by_cases told : t ∈ heard
    · obtain ⟨before, e, after, split, change⟩ :=
        exists_of_mem_changes new events (subset t told) List.not_mem_nil
      refine (often before e after split t change).trans (due_le_one before l id ?_)
      refine (le_run _ l id (e :: after)).1.trans ?_
      show ((List.foldl record (new.run before) (e :: after)).asked l id) ≤ 1
      unfold run
      rw [← List.foldl_append, ← split]
      exact once
    · rw [List.count_eq_zero.mpr told]
      exact Nat.zero_le 1

/-- A listener that is attached asks again while a rebuild waits in the queue. It is told
of the rebuild as it begins, and again as its request is taken up, with the revision it
saw before. -/
theorem told_twice :
    let key : PageKey := ⟨.candles, "ES", .m1, .all⟩
    let events : List (Event Int) := [.joined, .requested key ⟨0⟩, .ended ⟨0⟩ (.ok ⟨[], []⟩),
      .updated "ES" .m1 .rebuild, .requested key ⟨0⟩, .takenUp ⟨0⟩, .takenUp ⟨0⟩]
    let s : Annals Int := new.run events
    s.changes ⟨0⟩ = [⟨1, .empty, .loading⟩, ⟨2, .loading, .ready⟩, ⟨3, .ready, .updating⟩] ∧
      (new : Annals Int).heard ⟨0⟩ ⟨0⟩ events = [⟨1, .empty, .loading⟩, ⟨2, .loading, .ready⟩,
        ⟨3, .ready, .updating⟩, ⟨3, .ready, .updating⟩] ∧
      s.told ⟨0⟩ ⟨0⟩ = [.stateChanged .empty .loading, .stateChanged .loading .ready,
        .stateChanged .ready .updating, .stateChanged .ready .updating] := by
  decide

end Annals

end PageCache

end MarketConditions
