import MarketConditions.Proofs.Cache.Annals

/-!
# Those who join late miss nothing

A listener may ask for a page that others have had for long. It sees the page at some
revision, and its request waits in the queue of the page, which goes on to change
meanwhile. Along every run, in whatever order commands are taken up and computations end,
such a listener is told of just the changes later than the revision it saw.

- `PageCache.Annals.Agrees.hears_run`: what was heard up to a moment of a run goes
  on to be heard.
- `PageCache.Annals.Agrees.follows_run`: whoever made a page follows it.
- `PageCache.Annals.Agrees.awaits_ends`: a request is taken up as soon as the page has
  taken up its queue.
- `PageCache.Annals.joiners_miss_nothing`: **late joiners miss nothing**, and the maker of
  a page hears of everything.
-/

namespace MarketConditions

variable {α : Type}

namespace PageCache

namespace Annals

variable {r : Annals α} {l : ListenerId} {id : PageId}

/-- What has been counted stays counted. -/
theorem le_run (r : Annals α) (l : ListenerId) (id : PageId) (events : List (Event α)) :
    r.asked l id ≤ (r.run events).asked l id ∧ r.released l id ≤ (r.run events).released l id ∧
      r.missed l id ≤ (r.run events).missed l id := by
  refine run_induction (P := fun s => r.asked l id ≤ s.asked l id ∧
    r.released l id ≤ s.released l id ∧ r.missed l id ≤ s.missed l id)
    ⟨Nat.le_refl _, Nat.le_refl _, Nat.le_refl _⟩ ?_ events
  rintro s e ⟨asked, released, missed⟩
  exact ⟨asked.trans (Nat.le_add_right _ _), released.trans (Nat.le_add_right _ _),
    missed.trans (Nat.le_add_right _ _)⟩

/-- The changes of a page are never taken back. -/
theorem changes_run (r : Annals α) (id : PageId) (events : List (Event α)) :
    ∃ later, (r.run events).changes id = r.changes id ++ later := by
  refine run_induction (P := fun s => ∃ later, s.changes id = r.changes id ++ later)
    ⟨[], (List.append_nil _).symm⟩ ?_ events
  rintro s e ⟨later, before⟩
  refine ⟨later ++ changesBetween (s.cache.page? id) ((s.cache.react e).page? id), ?_⟩
  rw [changes_record, before, List.append_assoc]

/-- A listener that has asked for a page and released nothing is still there. -/
theorem Agrees.present (h : r.Agrees) (asked : 0 < r.asked l id) (keeps : r.released l id = 0) :
    (r.cache.listener? l).isSome := by
  have holds : 0 < r.cache.held l id := by
    have := h.counted l id
    omega
  obtain ⟨x, present, -⟩ := exists_of_held holds
  rw [present]
  rfl

/-! ## Hearing of what comes later -/

/-- One event after another, a listener that has asked once goes on to hear of every
change later than the one it saw. -/
theorem Agrees.hears_record (h : r.Agrees) {e : Event α} {p : Page α} {seen : Nat}
    (found : r.cache.page? id = some p) (asked : r.asked l id = 1)
    (hears : p.Hears (r.changes id) l seen (r.missed l id) (r.told l id))
    (keeps : (r.record e).released l id = 0)
    (few : (r.record e).missed l id ≤ Page.historyLength) :
    ∃ p', (r.record e).cache.page? id = some p' ∧
      p'.Hears ((r.record e).changes id) l seen ((r.record e).missed l id)
        ((r.record e).told l id) := by
  obtain ⟨kept, -⟩ := held_le_of_released keeps
  have tells := h.pages id p found
  have listed := tells.listed l kept
  rw [asked] at listed
  have present := h.present (by rw [asked]; exact Nat.one_pos) kept
  cases h.advances e found with
  | sent commands after _ _ changes told missed =>
    refine ⟨_, after, ?_⟩
    rw [changes, told, missed]
    exact hears.sendAll commands
  | acted p' post ts _ after turned _ _ _ changes told missed =>
    refine ⟨p', after, ?_⟩
    rw [missed] at few
    rw [changes, told, missed, if_pos present]
    exact hears.turned listed tells.recorded turned (by omega)

/-- Whatever a listener that has asked once hears of at one moment of a run, it goes on to
hear of what comes later. -/
theorem Agrees.hears_run (h : r.Agrees) {p : Page α} {seen : Nat}
    (found : r.cache.page? id = some p) (asked : r.asked l id = 1)
    (hears : p.Hears (r.changes id) l seen (r.missed l id) (r.told l id))
    (events : List (Event α)) (once : (r.run events).asked l id = 1)
    (keeps : (r.run events).released l id = 0)
    (few : (r.run events).missed l id ≤ Page.historyLength) :
    ∃ p', (r.run events).cache.page? id = some p' ∧
      p'.Hears ((r.run events).changes id) l seen ((r.run events).missed l id)
        ((r.run events).told l id) := by
  induction events generalizing r p with
  | nil => exact ⟨p, found, hears⟩
  | cons e events ih =>
    obtain ⟨asked_le, released_le, missed_le⟩ := le_run (r.record e) l id events
    rw [run_cons] at once keeps few
    rw [once] at asked_le
    rw [keeps] at released_le
    have asked_more : r.asked l id ≤ (r.record e).asked l id := Nat.le_add_right _ _
    obtain ⟨p', found', hears'⟩ := h.hears_record found asked hears
      (Nat.eq_zero_of_le_zero released_le) (missed_le.trans few)
    exact ih (h.record e) found' (by omega) hears' once keeps few

/-! ## Following from the beginning -/

/-- Whoever follows a page goes on to do so, until it releases the page. -/
theorem Agrees.follows_run (h : r.Agrees) {p : Page α} (found : r.cache.page? id = some p)
    (asked : 0 < r.asked l id)
    (follows : p.Follows (r.changes id) l (r.asked l id) (r.told l id))
    (events : List (Event α)) (keeps : (r.run events).released l id = 0) :
    ∃ p', (r.run events).cache.page? id = some p' ∧
      p'.Follows ((r.run events).changes id) l ((r.run events).asked l id)
        ((r.run events).told l id) := by
  induction events generalizing r p with
  | nil => exact ⟨p, found, follows⟩
  | cons e events ih =>
    obtain ⟨-, released_le, -⟩ := le_run (r.record e) l id events
    rw [run_cons] at keeps
    rw [keeps] at released_le
    obtain ⟨kept, -⟩ := held_le_of_released (Nat.eq_zero_of_le_zero released_le)
    have listed := (h.pages id p found).listed l kept
    have present := h.present asked kept
    have asked_le : r.asked l id ≤ (r.record e).asked l id := Nat.le_add_right _ _
    cases h.advances e found with
    | sent commands after _ _ changes told =>
      refine ih (h.record e) after (asked.trans_le asked_le) ?_ keeps
      rw [changes, told]
      exact ⟨follows.joined, follows.heard, fun one => follows.once (by omega)⟩
    | acted p' post ts _ after turned held _ _ changes told =>
      refine ih (h.record e) after (asked.trans_le asked_le) ?_ keeps
      rw [changes, told, asked_record_of_held (held l), if_pos present]
      exact follows.turned listed turned

/-! ## Requests -/

/-- A request is one more on the page it gets. -/
theorem held_request {c : PageCache α} (h : c.Orderly) (present : (c.listener? l).isSome)
    (k : PageKey) :
    (c.react (.requested k l)).held l (c.request k l).1 = c.held l (c.request k l).1 + 1 := by
  rw [show c.react (.requested k l) = (c.request k l).2 from if_pos present]
  obtain ⟨x, present⟩ := Option.isSome_iff_exists.mp present
  have asks := h.requests k l
  generalize c.request k l = reply at asks ⊢
  cases asks with
  | shared lease leased key p found =>
    exact (held_attach present lease.page lease.page l).trans (by rw [if_pos ⟨rfl, rfl⟩])
  | created unused => rw [held_create present, if_pos ⟨rfl, rfl⟩]
  | replaced lease =>
    exact (held_create (c := c.retire lease) present k _ l).trans (by rw [if_pos ⟨rfl, rfl⟩]; rfl)

theorem Agrees.asked_request (h : r.Agrees) (present : (r.cache.listener? l).isSome)
    (k : PageKey) :
    (r.record (.requested k l)).asked l (r.cache.request k l).1 =
      r.asked l (r.cache.request k l).1 + 1 := by
  rw [asked_record, held_request h.orderly present k, Nat.add_sub_cancel_left]

/-- A page that was there before is sent the request, with the revision it shows. Nothing
else comes of it. -/
theorem Agrees.sent_request (h : r.Agrees) (present : (r.cache.listener? l).isSome)
    (k : PageKey) {p : Page α} (found : r.cache.page? (r.cache.request k l).1 = some p) :
    let s := r.record (.requested k l)
    let id := (r.cache.request k l).1
    s.cache.page? id = some (p.sendAll [.attach l p.snapshot.revision]) ∧
      s.changes id = r.changes id ∧ s.told l id = r.told l id ∧
      s.missed l id = r.missed l id := by
  intro s id
  have more : s.cache.held l id = r.cache.held l id + 1 := held_request h.orderly present k
  cases h.advances (.requested k l) found with
  | sent commands after calls _ changes told missed =>
    have one : commands = [.attach l p.snapshot.revision] := by
      cases calls l with
      | none _ _ fewer =>
        have fewer : s.cache.held l id ≤ r.cache.held l id := fewer
        omega
      | attached one => exact one
      | detached _ less =>
        have less : s.cache.held l id + 1 = r.cache.held l id := less
        omega
    exact ⟨one ▸ after, changes, told l, missed l⟩
  | acted p' post ts modes after turned held =>
    have same : s.cache.held l id = r.cache.held l id := held l
    omega

/-- A listener that asks for a page for the first time hears of what comes later. -/
theorem Agrees.hears_request (h : r.Agrees) (present : (r.cache.listener? l).isSome)
    (k : PageKey) {p : Page α} (found : r.cache.page? (r.cache.request k l).1 = some p)
    (first : r.asked l (r.cache.request k l).1 = 0) :
    let s := r.record (.requested k l)
    let id := (r.cache.request k l).1
    ∃ p', s.cache.page? id = some p' ∧ s.changes id = r.changes id ∧
      p'.Hears (s.changes id) l p.snapshot.revision (s.missed l id) (s.told l id) := by
  intro s id
  obtain ⟨told_before, missed_before⟩ := h.unasked l id first
  have released : r.released l id = 0 :=
    Nat.eq_zero_of_add_eq_zero_left ((h.counted l id).symm.trans first)
  have tells := h.pages id p found
  have listed := tells.listed l released
  rw [first] at listed
  obtain ⟨after, changes, told, missed⟩ := h.sent_request present k found
  refine ⟨_, after, changes, ?_⟩
  rw [changes, told, missed, told_before, missed_before]
  exact Page.hears_sendAll listed tells.recorded

/-- A page that was not there before is made by the request, for the listener who asks. -/
theorem Agrees.made_request (h : r.Agrees) (present : (r.cache.listener? l).isSome)
    (k : PageKey) (absent : r.cache.page? (r.cache.request k l).1 = none) :
    ∃ p k', (r.record (.requested k l)).cache.page? (r.cache.request k l).1 = some p ∧
      (r.record (.requested k l)).Made (r.cache.request k l).1 p k' l := by
  have asked := h.asked_request present k
  rw [(h.absent _ absent).2.2 l] at asked
  cases after : (r.record (.requested k l)).cache.page? (r.cache.request k l).1 with
  | none =>
    rw [((h.unmade _ absent after).2.2 l).1] at asked
    cases asked
  | some p =>
    obtain ⟨k', maker, made⟩ := h.made absent after
    have same : l = maker := by
      by_contra other
      rw [made.asked, if_neg other] at asked
      cases asked
    exact ⟨p, k', rfl, same ▸ made⟩

/-! ## Requests that wait -/

/-- Once a page has taken up what is in its queue, no request waits any more. -/
theorem Agrees.awaits_ends (h : r.Agrees) {p : Page α} (found : r.cache.page? id = some p)
    (l : ListenerId) :
    (r.run (List.replicate p.queue.length (.takenUp id))).cache.awaits l id = false := by
  generalize length : p.queue.length = n
  induction n generalizing r p with
  | zero =>
    show r.cache.awaits l id = false
    rw [awaits_of_found found]
    unfold Page.awaits
    rw [List.eq_nil_of_length_eq_zero length]
    rfl
  | succ n ih =>
    have after : (r.record (.takenUp id)).cache.page? id = some (p.react .takenUp).1 := by
      show (r.cache.act id Page.handleNext).page? id = _
      rw [page?_act r.cache id id found, if_pos rfl]
      rfl
    refine ih (h.record (.takenUp id)) after ?_
    rw [(h.orderly.fits id p found).regular.queue_react .takenUp, List.length_tail, length]
    rfl

/-! ## Along every run -/

/-- **Late joiners miss nothing.** Take any run, a request of a listener that is there,
and any further run, in the end of which the listener has not released the page it got.

If the page was there before, and this is the only request the listener ever made on it,
then it has been told nothing as long as its request waits. Once the request is taken up
it has been told of just the changes later than the revision it saw, in order and each
once, as long as no more than the page remembers took place while it waited. These changes
lead from the state the listener saw to the present one. A request is taken up with the
queue it waits in.

If the page was made by the request, the listener has been told of every change, the first
among them that from empty to loading, and of each just once unless it asked again. -/
theorem joiners_miss_nothing (before after : List (Event α)) (k : PageKey) (l : ListenerId) :
    let r : Annals α := new.run before
    let id := (r.cache.request k l).1
    let s := (r.record (.requested k l)).run after
    (r.cache.listener? l).isSome → s.released l id = 0 →
    (∀ p, r.cache.page? id = some p → r.asked l id = 0 → s.asked l id = 1 →
      s.missed l id ≤ Page.historyLength →
      ∃ p', s.cache.page? id = some p' ∧
        let later := (s.changes id).filter fun t => p.snapshot.revision < t.revision
        Walk p.state later p'.state ∧
        ((s.told l id).filter (!·.isData) =
          if s.cache.awaits l id then [] else later.map Transition.notice) ∧
        (s.run (List.replicate p'.queue.length (.takenUp id))).cache.awaits l id = false) ∧
    (r.cache.page? id = none →
      ∃ p' rest, s.cache.page? id = some p' ∧
        s.changes id = ⟨1, .empty, .loading⟩ :: rest ∧ Walk .loading rest p'.state ∧
        ((s.changes id).map Transition.notice).Sublist (s.told l id) ∧
        (s.asked l id = 1 →
          (s.told l id).filter (!·.isData) = (s.changes id).map Transition.notice)) := by
  intro r id s present keeps
  have h : r.Agrees := agrees_new.run before
  have h' : (r.record (.requested k l)).Agrees := h.record (.requested k l)
  have hs : s.Agrees := h'.run after
  constructor
  · intro p found first once few
    have asked : (r.record (.requested k l)).asked l id = 1 :=
      (h.asked_request present k).trans (by rw [first])
    obtain ⟨p', found', changes, hears⟩ := h.hears_request present k found first
    obtain ⟨p'', found'', hears'⟩ := h'.hears_run found' asked hears after once keeps few
    have tells := hs.pages id p'' found''
    have listed := tells.listed l keeps
    rw [once] at listed
    obtain ⟨later, grown⟩ := changes_run (r.record (.requested k l)) id after
    have grown : s.changes id = r.changes id ++ later := grown.trans (by rw [changes])
    have recorded := tells.recorded
    rw [grown] at recorded
    obtain ⟨same, walk⟩ := (h.pages id p found).recorded.walk_later recorded
    refine ⟨p'', found'', ?_, ?_, hs.awaits_ends found'' l⟩
    · rw [grown, same]
      exact walk
    · rw [awaits_of_found found'']
      exact hears'.states listed
  · intro absent
    obtain ⟨p, k', found, made⟩ := h.made_request present k absent
    have asked : (r.record (.requested k l)).asked l id = 1 := (made.asked l).trans (if_pos rfl)
    have follows := Page.follows_create (α := α) id k' l
    rw [← made.page, ← made.changes, ← (made.told l).trans (if_pos rfl), ← asked] at follows
    have asked_some : 0 < (r.record (.requested k l)).asked l id := asked ▸ Nat.one_pos
    obtain ⟨p', found', follows'⟩ := h'.follows_run found asked_some follows after keeps
    obtain ⟨rest, grown⟩ := changes_run (r.record (.requested k l)) id after
    have grown : s.changes id = ⟨1, .empty, .loading⟩ :: rest :=
      grown.trans (by rw [made.changes]; rfl)
    have walk := (hs.pages id p' found').recorded.walk
    rw [grown] at walk
    exact ⟨p', rest, found', grown, walk.2.2, follows'.heard, follows'.once⟩

/-- A load fails while the request of a second listener waits. When the request is
taken up, the listener is told of the failure, and not of the change to loading that
it had seen. -/
theorem joiners_miss_nothing_failure :
    let key : PageKey := ⟨.candles, "ES", .m1, .all⟩
    let r : Annals Int := new.run [.joined, .joined, .requested key ⟨0⟩]
    let s := (r.record (.requested key ⟨1⟩)).run
      [.ended ⟨0⟩ (.error (.computation "no data")), .takenUp ⟨0⟩]
    (r.cache.listener? ⟨1⟩).isSome ∧ s.released ⟨1⟩ ⟨0⟩ = 0 ∧
      (r.cache.request key ⟨1⟩).1 = ⟨0⟩ ∧ (r.cache.page? ⟨0⟩).isSome ∧
      r.asked ⟨1⟩ ⟨0⟩ = 0 ∧ s.asked ⟨1⟩ ⟨0⟩ = 1 ∧ s.missed ⟨1⟩ ⟨0⟩ = 1 ∧
      (s.told ⟨1⟩ ⟨0⟩).filter (!·.isData) = [.stateChanged .loading .failed] := by
  intro key r s
  have found : r.cache.page? (r.cache.request key ⟨1⟩).1 = some (Page.create ⟨0⟩ key ⟨0⟩).1 := rfl
  obtain ⟨p', -, -, told, -⟩ := (joiners_miss_nothing [.joined, .joined, .requested key ⟨0⟩]
    [.ended ⟨0⟩ (.error (.computation "no data")), .takenUp ⟨0⟩] key ⟨1⟩ (by decide) (by decide)).1
      _ found (by decide) (by decide) (by decide)
  exact ⟨by decide, by decide, by decide, by decide, by decide, by decide, by decide,
    told.trans (by decide)⟩

end Annals

end PageCache

end MarketConditions
