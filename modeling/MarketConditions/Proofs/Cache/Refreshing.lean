import MarketConditions.Proofs.Cache.Annals
import MarketConditions.Proofs.Cache.Mail

/-!
# Who is told of changed data

A refresh in place brings new data while a page stays ready, so it leaves no change of
state, and nothing that could be told later to a listener whose request waits. Those
whose request has been taken up are told as the refresh ends, each once. Whether that is
so can be read off the listeners: all who hold the page and have no request waiting are
attached to it.

- `PageCache.Annals.held_le_standing`: along every run, a listener holds no more requests
  on a page than will be attached once the page has taken up its queue.
- `PageCache.Annals.in_place_refreshes_are_told`: **who is told of changed data**.
- `PageCache.Annals.refresh_missed`: a run in which a listener that holds the page is not
  told, as its request waits.
-/

namespace MarketConditions

variable {α : Type}

namespace Page

/-- At the end of a refresh in place the page is ready, and shows the data. -/
theorem Regular.renewed_inPlace {p : Page α} (h : p.Regular) {data : PageData α}
    (renews : p.renewsInPlace (.ended (.ok data)) = true) :
    p.state = .ready ∧ (p.react (.ended (.ok data))).1.snapshot.data = some data := by
  unfold renewsInPlace at renews
  cases busy : p.running with
  | none =>
    rw [busy] at renews
    cases renews
  | some f =>
    rw [busy] at renews
    refine ⟨(h.coherent (h.alive_of_busy busy)).inPlace f busy (of_decide_eq_true renews), ?_⟩
    cases h.outcome (e := .ended (.ok data)) nofun with
    | undisturbed ends => exact nomatch busy.symm.trans ends
    | joined _ ends => exact nomatch busy.symm.trans ends
    | begun _ ends => exact nomatch busy.symm.trans ends
    | renewed _ _ event _ _ _ _ _ _ shown =>
      cases event
      exact shown
    | followed _ _ _ event _ _ begins =>
      cases event
      exact begins.data
    | fell _ _ event => cases event

end Page

namespace PageCache

namespace Annals

/-! ## Those who hold a page -/

/-- What is sent to a page because of a listener leaves it standing for as many requests
as it holds. -/
theorem standing_of_calls {l : ListenerId} {seen held held' : Nat} {commands : List Command}
    {p : Page α} (calls : Calls l seen commands held held') (enough : held ≤ p.standing l) :
    held' ≤ (p.sendAll commands).standing l := by
  rw [Page.standing_sendAll]
  cases calls with
  | none attaches detaches fewer =>
    rw [Page.foldl_standingAfter attaches detaches]
    exact fewer.trans enough
  | attached one more =>
    rw [one, more]
    show _ ≤ if l = l then p.standing l + 1 else _
    rw [if_pos rfl]
    exact Nat.succ_le_succ enough
  | detached one less =>
    rw [one]
    show _ ≤ if l = l then p.standing l - 1 else _
    rw [if_pos rfl]
    omega

/-- **Those who hold a page stand for it.** -/
theorem held_le_standing (events : List (Event α)) (l : ListenerId) (id : PageId) {p : Page α}
    (found : ((new : Annals α).run events).cache.page? id = some p) :
    ((new : Annals α).run events).cache.held l id ≤ p.standing l := by
  refine page_induction (P := fun r p => r.cache.held l id ≤ p.standing l) ?_ ?_ events found
  · intro r p k m h made
    have counted := h.counted l id
    rw [made.asked, made.released] at counted
    rw [made.page]
    show _ ≤ [m].count l
    by_cases same : l = m
    · subst same
      rw [if_pos rfl] at counted
      rw [List.count_singleton_self]
      omega
    · rw [if_neg same] at counted
      omega
  · intro r e p p' h found after advances enough
    cases advances with
    | sent commands page calls =>
      cases after.symm.trans page
      exact standing_of_calls (calls l) enough
    | acted q post ts modes page turned held =>
      cases after.symm.trans page
      rw [held l, turned.standing l]
      exact enough

/-! ## Along every run -/

/-- **Who is told of changed data.** Take any run and let a refresh in place of a page
end then. The page was ready and shows the new data. Every listener that is there and
attached to the page is told of changed data, just once, and no other listener is told
of any. Whoever holds a request on the page is attached, unless a request of it waits to
be taken up. -/
theorem in_place_refreshes_are_told (events : List (Event α)) (id : PageId) (data : PageData α)
    (renews : ((new : Annals α).run events).cache.renews (.ended id (.ok data)) id = true) :
    let s : Annals α := new.run events
    let q := s.record (.ended id (.ok data))
    ∃ p p', s.cache.page? id = some p ∧ p.state = .ready ∧
      q.cache.page? id = some p' ∧ p'.snapshot.data = some data ∧
      (∀ l, (q.told l id).filter Notice.isData = (s.told l id).filter Notice.isData ++
        if (s.cache.listener? l).isSome ∧ l ∈ p.attached then [.dataChanged] else []) ∧
      (∀ l, 0 < s.cache.held l id → s.cache.awaits l id = false →
        (s.cache.listener? l).isSome ∧ l ∈ p.attached) := by
  intro s q
  have h : s.Agrees := agrees_new.run events
  have renews : s.cache.renews (.ended id (.ok data)) id = true := renews
  have found : ∃ p, s.cache.page? id = some p := by
    cases found : s.cache.page? id with
    | some p => exact ⟨p, rfl⟩
    | none =>
      simp [PageCache.renews, Event.own?, found] at renews
  obtain ⟨p, found⟩ := found
  have inPlace := renews
  rw [renews_of_own rfl found] at inPlace
  obtain ⟨ready, shown⟩ := (h.orderly.fits id p found).regular.renewed_inPlace inPlace
  refine ⟨p, _, found, ready, ?_, shown, fun l => ?_, fun l holds taken => ⟨?_, ?_⟩⟩
  · show (s.cache.act id (·.react (.ended (.ok data)))).page? id = _
    rw [page?_act s.cache id id found, if_pos rfl]
  · rw [told_record, List.filter_append, h.orderly.news_data _ found]
    simp only [renews, true_and]
  · obtain ⟨x, present, -⟩ := exists_of_held holds
    rw [present]
    rfl
  · rw [awaits_of_found found] at taken
    exact Page.attached_of_standing (holds.trans_le (held_le_standing events l id found)) taken

/-- Two listeners hold a page as its data are refreshed in place, and their requests have
been taken up. Both are told. -/
theorem in_place_refreshes_are_told_both :
    let key : PageKey := ⟨.candles, "ES", .m1, .all⟩
    let s : Annals Int := new.run [.joined, .joined, .requested key ⟨0⟩, .ended ⟨0⟩ (.ok ⟨[], []⟩),
      .requested key ⟨1⟩, .takenUp ⟨0⟩, .updated "ES" .m1 .inPlace, .takenUp ⟨0⟩]
    let q := s.record (.ended ⟨0⟩ (.ok ⟨[], []⟩))
    s.cache.renews (.ended ⟨0⟩ (.ok ⟨[], []⟩)) ⟨0⟩ = true ∧
      (q.told ⟨0⟩ ⟨0⟩).filter Notice.isData = [.dataChanged] ∧
      (q.told ⟨1⟩ ⟨0⟩).filter Notice.isData = [.dataChanged] := by
  intro key s q
  have renews : s.cache.renews (.ended ⟨0⟩ (.ok ⟨[], []⟩)) ⟨0⟩ = true := by decide
  obtain ⟨p, p', -, -, -, -, told, joined⟩ := in_place_refreshes_are_told
    [.joined, .joined, .requested key ⟨0⟩, .ended ⟨0⟩ (.ok ⟨[], []⟩), .requested key ⟨1⟩,
      .takenUp ⟨0⟩, .updated "ES" .m1 .inPlace, .takenUp ⟨0⟩] ⟨0⟩ ⟨[], []⟩ renews
  refine ⟨renews, ?_, ?_⟩
  · refine (told ⟨0⟩).trans ?_
    rw [if_pos (joined ⟨0⟩ (by decide) (by decide))]
    decide
  · refine (told ⟨1⟩).trans ?_
    rw [if_pos (joined ⟨1⟩ (by decide) (by decide))]
    decide

/-- A second listener asks for a ready page while a refresh in place is in flight, and
sees the old data. The refresh ends before its request is taken up. The listener holds the
page all the while, and is told of the new data neither then nor later. -/
theorem refresh_missed :
    let key : PageKey := ⟨.candles, "ES", .m1, .all⟩
    let r : Annals Int := new.run [.joined, .joined, .requested key ⟨0⟩, .ended ⟨0⟩ (.ok ⟨[], []⟩),
      .updated "ES" .m1 .inPlace, .takenUp ⟨0⟩, .requested key ⟨1⟩]
    let e : Event Int := .ended ⟨0⟩ (.ok ⟨[], [("close", [])]⟩)
    let s := (r.record e).run [.takenUp ⟨0⟩]
    let columns := fun (c : PageCache Int) =>
      ((c.page? ⟨0⟩).bind (·.snapshot.data)).map (·.columns.length)
    r.cache.held ⟨1⟩ ⟨0⟩ = 1 ∧ columns r.cache = some 0 ∧ r.cache.renews e ⟨0⟩ = true ∧
      s.cache.held ⟨1⟩ ⟨0⟩ = 1 ∧ columns s.cache = some 1 ∧ s.cache.awaits ⟨1⟩ ⟨0⟩ = false ∧
      (s.told ⟨0⟩ ⟨0⟩).filter Notice.isData = [.dataChanged] ∧ s.told ⟨1⟩ ⟨0⟩ = [] := by
  decide

end Annals

end PageCache

end MarketConditions
