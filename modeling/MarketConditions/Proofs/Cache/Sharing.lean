import MarketConditions.Proofs.Cache.Annals

/-!
# Pages are shared

All who ask for a key get one page as long as somebody needs it and it has not failed. The
page is loaded once. It is told to end by the release that leaves no request on it, or,
once it has failed, by the request that replaces it.

- `PageCache.Turn.stays`: a page, once made, keeps its place and its key.
- `PageCache.Orderly.kept_iff_shared`, `PageCache.Orderly.ends_iff`: when a page
  is told to end.
- `PageCache.Orderly.request_eq`: what a request gets.
- `PageCache.Annals.pages_are_shared`: **sharing and counting**, along every run.
-/

namespace MarketConditions

variable {α : Type}

namespace PageCache

variable {c c' : PageCache α}

/-! ## Identities -/

/-- A page that was made is there for good, as the page of its key. -/
theorem Turn.stays {id : PageId} (turn : Turn c c' id) {p : Page α} (found : c.page? id = some p) :
    ∃ p', c'.page? id = some p' ∧ p'.id = p.id ∧ p'.key = p.key := by
  cases turn with
  | unmade absent => exact nomatch found.symm.trans absent
  | made _ _ _ absent => exact nomatch found.symm.trans absent
  | sent q commands before after =>
    cases found.symm.trans before
    exact ⟨_, after, rfl, rfl⟩
  | acted q step own before after =>
    cases found.symm.trans before
    obtain ⟨id, key⟩ := p.identity_react step
    exact ⟨_, after, id, key⟩

/-- Whatever is made later, the pages made so far keep their identities and keys. -/
theorem Orderly.prefix_react (h : c.Orderly) (e : Event α) :
    (c.pages.map fun p => (p.id, p.key)) <+:
      (c.react e).pages.map fun p => (p.id, p.key) := by
  rw [List.prefix_iff_getElem?]
  intro place bound
  rw [List.length_map] at bound
  obtain ⟨p', after, id, key⟩ := (h.turn e ⟨place⟩).stays (List.getElem?_eq_getElem bound)
  rw [List.getElem?_map, show (c.react e).pages[place]? = some p' from after, List.getElem_map]
  exact congrArg some (Prod.ext id key)

/-- Pages have their places as identities, so no two of them share one. -/
theorem Orderly.nodup_ids (h : c.Orderly) : (c.pages.map Page.id).Nodup := by
  have ids : c.pages.map Page.id = (List.range c.pages.length).map PageId.mk := by
    apply List.ext_getElem (by simp)
    intro place bound _
    rw [List.length_map] at bound
    rw [List.getElem_map, List.getElem_map, List.getElem_range]
    exact (h.fits ⟨place⟩ _ (List.getElem?_eq_getElem bound)).placed
  rw [ids]
  exact List.nodup_range.map fun _ _ same => congrArg PageId.place same

/-! ## The end of a page -/

/-- A page is kept exactly as long as it is shared. -/
theorem Orderly.kept_iff_shared (h : c.Orderly) {id : PageId} {p : Page α}
    (found : c.page? id = some p) : p.Kept ↔ ∃ lease ∈ c.leases, lease.page = id := by
  refine ⟨(h.fits id p found).shared, ?_⟩
  rintro ⟨lease, leased, rfl⟩
  obtain ⟨q, found', -, kept⟩ := (h.backed lease leased).own
  cases found.symm.trans found'
  exact kept

/-- A lease lasts, or its last request is released, or its page has failed and
is replaced. -/
theorem Orderly.lease_stays (h : c.Orderly) {lease : Lease} (leased : lease ∈ c.leases)
    {e : Event α} (happens : Happens c e c') :
    (∃ lease' ∈ c'.leases, lease'.page = lease.page) ∨
      (∃ l, e = .released lease.page l ∧ 0 < c.held l lease.page ∧ c'.total lease.page = 0) ∨
      ∃ l p, e = .requested lease.key l ∧ (c.listener? l).isSome ∧
        c.page? lease.page = some p ∧ p.state = .failed := by
  cases happens with
  | refused | joined | left | taken | orphaned => exact .inl ⟨lease, leased, rfl⟩
  | acted e id step own p found =>
    refine .inl ⟨lease, ?_, rfl⟩
    unfold act
    rw [found]
    exact leased
  | shared => exact .inl (mem_recount _ _ leased)
  | loosened l loose => exact .inl (mem_recount loose.key (· - 1) leased)
  | created => exact .inl ⟨lease, List.mem_append_left _ leased, rfl⟩
  | replaced k l x present failing failing_leased key p found failed =>
    by_cases same : lease = failing
    · subst same key
      exact .inr (.inr ⟨l, p, rfl, by rw [present]; rfl, found, failed⟩)
    · refine .inl ⟨lease, List.mem_append_left _ (List.mem_filter.mpr ⟨leased, ?_⟩), rfl⟩
      exact decide_eq_true fun one => same (h.eq_of_key leased failing_leased one)
  | closed l closing closing_leased holds last =>
    by_cases same : lease = closing
    · subst same
      obtain ⟨here, -⟩ := h.release_total leased holds
      refine .inr (.inl ⟨l, rfl, holds, ?_⟩)
      show (c.withListener l (·.detach lease.page)).total lease.page = 0
      omega
    · refine .inl ⟨lease, List.mem_filter.mpr ⟨leased, ?_⟩, rfl⟩
      exact decide_eq_true fun one => same (h.eq_of_key leased closing_leased one)
  | updated symbol timeframe mode =>
    refine .inl ⟨lease, ?_, rfl⟩
    rw [sourceUpdated_eq_sendEach, leases_sendEach]
    exact leased

/-- A page that is kept is told to end by the release that leaves no request on it, or,
when it has failed, by the next request for its key, and by nothing else. -/
theorem Orderly.ends_iff (h : c.Orderly) (e : Event α) {id : PageId} {p p' : Page α}
    (found : c.page? id = some p) (after : (c.react e).page? id = some p') (kept : p.Kept) :
    ¬ p'.Kept ↔
      (∃ l, e = .released id l ∧ 0 < c.held l id ∧ (c.react e).total id = 0) ∨
        ∃ l, e = .requested p.key l ∧ (c.listener? l).isSome ∧ p.state = .failed := by
  obtain ⟨lease, leased, rfl⟩ := (h.kept_iff_shared found).mp kept
  obtain ⟨q, found', key, -⟩ := (h.backed lease leased).own
  cases found.symm.trans found'
  constructor
  · intro ended
    rcases h.lease_stays leased (h.happens e) with
      stays | released | ⟨l, q, asked, present, hq, failed⟩
    · exact absurd (((h.react e).kept_iff_shared after).mpr stays) ended
    · exact .inl released
    · cases found.symm.trans hq
      exact .inr ⟨l, key ▸ asked, present, failed⟩
  · rintro (⟨l, -, -, nobody⟩ | ⟨l, rfl, present, failed⟩) still
    · -- a page that is shared is requested by someone
      obtain ⟨lease', leased', page⟩ := ((h.react e).kept_iff_shared after).mp still
      obtain ⟨some_left, counted⟩ := ((h.react e).backed lease' leased').counted
      rw [page, nobody] at counted
      omega
    · have after : (c.react (.requested p.key l)).page? lease.page = some p' := after
      have asks := h.requests p.key l
      rw [show c.react (.requested p.key l) = (c.request p.key l).2 from if_pos present] at after
      generalize c.request p.key l = reply at asks after
      cases asks with
      | shared other other_leased same q hq well =>
        cases h.eq_of_key other_leased leased (same.trans key)
        cases found.symm.trans hq
        exact well failed
      | created unused => exact unused lease leased key.symm
      | replaced other other_leased same q hq _ =>
        cases h.eq_of_key other_leased leased (same.trans key)
        rw [page?_replaced found] at after
        cases after
        exact absurd rfl (Page.kept_send.mp still).2

/-- Releasing a page that is shared no longer leaves all leases as they are. -/
theorem Orderly.release_leases (h : c.Orderly) {id : PageId} (l : ListenerId)
    (unshared : ∀ lease ∈ c.leases, lease.page ≠ id) : (c.release id l).2.leases = c.leases := by
  have happens : Happens c (.released id l) (c.release id l).2 := h.happens (.released id l)
  generalize (c.release id l).2 = after at happens ⊢
  cases happens with
  | refused | orphaned => rfl
  | taken e l x x' drained => rcases drained with absurdly | absurdly <;> cases absurdly
  | acted e actor step own => cases own
  | loosened l lease leased => exact absurd rfl (unshared lease leased)
  | closed l lease leased => exact absurd rfl (unshared lease leased)

/-- A request for the key of a page that someone holds and that has not failed
gets that page. -/
theorem Orderly.request_eq (h : c.Orderly) {id : PageId} {p : Page α}
    (found : c.page? id = some p) (well : p.state ≠ .failed) (holds : 0 < c.total id)
    (l : ListenerId) : (c.request p.key l).1 = id := by
  have fits := h.fits id p found
  obtain ⟨lease, leased, rfl⟩ := fits.shared (fits.held holds well)
  obtain ⟨q, found', key, -⟩ := (h.backed lease leased).own
  cases found.symm.trans found'
  have asks := h.requests p.key l
  generalize c.request p.key l = reply at asks ⊢
  cases asks with
  | shared other other_leased same =>
    rw [h.eq_of_key other_leased leased (same.trans key)]
  | created unused => exact absurd key.symm (unused lease leased)
  | replaced other other_leased same q hq failed =>
    cases h.eq_of_key other_leased leased (same.trans key)
    cases found.symm.trans hq
    exact absurd failed well

namespace Annals

/-! ## Along every run -/

theorem Agrees.prefix_run {r : Annals α} (h : r.Agrees) (more : List (Event α)) :
    (r.cache.pages.map fun p => (p.id, p.key)) <+:
      (r.run more).cache.pages.map fun p => (p.id, p.key) := by
  induction more generalizing r with
  | nil => exact List.prefix_rfl
  | cons e more ih => exact (h.orderly.prefix_react e).trans (ih (h.record e))

/-- **Sharing and counting.** Along every run of requests, releases, updates and outcomes,
by any number of listeners that release what they hold before they leave:

no two pages ever made have the same identity, and they keep it, and their keys, for good;
each lease is of the page of its key, and each key has at most one; a lease counts at
least one request, and as many as all listeners together hold on its page; a page is kept
exactly as long as it is shared, and it is told to end by the release that leaves no
request on it, or, once it has failed, by the request that replaces it; a release of a
page that is shared no longer changes no count; as long as someone holds a page and it has
not failed, every request for its key gets it; and just one of the computations that were
ever started for a page loads it. -/
theorem pages_are_shared (events : List (Event α)) :
    let r : Annals α := new.run events
    let c := r.cache
    ((c.pages.map Page.id).Nodup ∧
      ∀ more, (c.pages.map fun p => (p.id, p.key)) <+:
        (r.run more).cache.pages.map fun p => (p.id, p.key)) ∧
    ((c.leases.map Lease.key).Nodup ∧
      ∀ lease ∈ c.leases, ∃ p, c.page? lease.page = some p ∧ p.id = lease.page ∧
        p.key = lease.key) ∧
    (∀ lease ∈ c.leases, 1 ≤ lease.requests ∧ lease.requests = c.total lease.page) ∧
    ((∀ id p, c.page? id = some p → (p.Kept ↔ ∃ lease ∈ c.leases, lease.page = id)) ∧
      ∀ e id p p', c.page? id = some p → (c.react e).page? id = some p' → p.Kept →
        (¬ p'.Kept ↔
          (∃ l, e = .released id l ∧ 0 < c.held l id ∧ (c.react e).total id = 0) ∨
            ∃ l, e = .requested p.key l ∧ (c.listener? l).isSome ∧ p.state = .failed)) ∧
    (∀ id l, (∀ lease ∈ c.leases, lease.page ≠ id) → (c.release id l).2.leases = c.leases) ∧
    (∀ id p, c.page? id = some p → p.state ≠ .failed → 0 < c.total id →
      ∀ l, (c.request p.key l).1 = id) ∧
    ∀ id p, c.page? id = some p → (r.works id).count .load = 1 := by
  intro r c
  have agrees : r.Agrees := agrees_new.run events
  have h : c.Orderly := agrees.orderly
  refine ⟨⟨h.nodup_ids, agrees.prefix_run⟩, ⟨h.keys, fun lease leased => ?_⟩,
    fun lease leased => (h.backed lease leased).counted,
    ⟨fun id p found => h.kept_iff_shared found,
      fun e id p p' found after kept => h.ends_iff e found after kept⟩,
    fun id l unshared => h.release_leases l unshared,
    fun id p found well holds l => h.request_eq found well holds l,
    fun id p found => (agrees.pages id p found).load⟩
  obtain ⟨p, found, key, -⟩ := (h.backed lease leased).own
  exact ⟨p, found, (h.fits lease.page p found).placed, key⟩

/-- A second listener gets the page that the first one asked for. When the load has failed
it asks again, and gets another page. The first listener still holds the failed one; when
it releases that, the count of the new one stays. -/
theorem pages_are_shared_replacement :
    let key : PageKey := ⟨.candles, "ES", .m1, .all⟩
    let r : Annals Int := new.run [.joined, .joined, .requested key ⟨0⟩]
    let s : Annals Int := r.run
      [.requested key ⟨1⟩, .ended ⟨0⟩ (.error (.computation "no data")), .requested key ⟨1⟩]
    (0 < r.cache.total ⟨0⟩ ∧ (r.cache.request key ⟨1⟩).1 = ⟨0⟩) ∧
      (0 < s.cache.held ⟨0⟩ ⟨0⟩ ∧ (∀ lease ∈ s.cache.leases, lease.page ≠ ⟨0⟩) ∧
        (s.cache.release ⟨0⟩ ⟨0⟩).2.leases = [⟨key, ⟨1⟩, 1⟩]) ∧
      (s.cache.page? ⟨1⟩).isSome ∧ (s.works ⟨1⟩).count .load = 1 := by
  intro key r s
  have made : r.cache.page? ⟨0⟩ = some (Page.create ⟨0⟩ key ⟨0⟩).1 := rfl
  have replacing : s.cache.page? ⟨1⟩ = some (Page.create ⟨1⟩ key ⟨1⟩).1 := rfl
  have unshared : ∀ lease ∈ s.cache.leases, lease.page ≠ ⟨0⟩ := by decide
  obtain ⟨-, -, -, -, -, gets, -⟩ := pages_are_shared (α := Int)
    [.joined, .joined, .requested key ⟨0⟩]
  obtain ⟨-, -, -, -, releases, -, loads⟩ := pages_are_shared (α := Int)
    [.joined, .joined, .requested key ⟨0⟩, .requested key ⟨1⟩,
      .ended ⟨0⟩ (.error (.computation "no data")), .requested key ⟨1⟩]
  exact ⟨⟨by decide, gets ⟨0⟩ _ made (by decide) (by decide) ⟨1⟩⟩,
    ⟨by decide, unshared, (releases ⟨0⟩ ⟨0⟩ unshared).trans (by decide)⟩,
    by rw [replacing]; rfl, loads ⟨1⟩ _ replacing⟩

end Annals

end PageCache

end MarketConditions
