import Mathlib.Data.List.Nodup
import MarketConditions.Proofs.Cache.Events

/-!
# The count of a shared page

Requests are counted in two places: with the lease under which a page is shared, and by
each listener on its own. Four paths change them: a request that shares a page, one that
makes a page, one that replaces a failed page while others still hold it, and a release,
which may come late. Here the two counts are shown to agree along every run.

- `PageCache.Orderly`: pages, leases and requests fit together. A page is told to end when
  its lease ends and not before, and whoever holds a page that is not shared any more
  holds one that has failed. `PageCache.Fits` and `PageCache.Backed` say this of one page
  and of one lease.
- `PageCache.Orderly.touched`: what a change that touches one page has to leave.
- `PageCache.Orderly.react`: whatever happens, an orderly cache stays orderly.
-/

namespace MarketConditions

variable {α : Type}

namespace PageCache

/-- A page fits into a cache. -/
structure Fits (c : PageCache α) (id : PageId) (p : Page α) : Prop where
  placed : p.id = id
  regular : p.Regular
  /-- A page that is kept is shared. -/
  shared : p.Kept → ∃ e ∈ c.leases, e.page = id
  /-- A page that someone holds and that has not failed is kept. -/
  held : 0 < c.total id → p.state ≠ .failed → p.Kept

/-- A lease is of a page of its key, and counts the requests on it. -/
structure Backed (c : PageCache α) (e : Lease) : Prop where
  own : ∃ p, c.page? e.page = some p ∧ p.key = e.key ∧ p.Kept
  counted : 1 ≤ e.requests ∧ e.requests = c.total e.page

/-- The pages, leases and requests of a cache fit together. -/
structure Orderly (c : PageCache α) : Prop where
  fits : ∀ id p, c.page? id = some p → c.Fits id p
  backed : ∀ e ∈ c.leases, c.Backed e
  keys : (c.leases.map Lease.key).Nodup
  /-- Nobody holds a page that was never made. -/
  known : ∀ id, c.page? id = none → c.total id = 0

theorem orderly_empty : (empty : PageCache α).Orderly where
  fits := fun _ _ found => nomatch found
  backed := fun _ leased => nomatch leased
  keys := List.nodup_nil
  known := fun _ _ => rfl

variable {c c' : PageCache α} {lease : Lease}

/-- A page goes on to fit while it stays shared and gets no more requests. -/
theorem Fits.mono {id : PageId} {p : Page α} (h : c.Fits id p)
    (shared : (∃ e ∈ c.leases, e.page = id) → ∃ e ∈ c'.leases, e.page = id)
    (fewer : c'.total id ≤ c.total id) : c'.Fits id p where
  placed := h.placed
  regular := h.regular
  shared := fun kept => shared (h.shared kept)
  held := fun holds well => h.held (holds.trans_le fewer) well

theorem Backed.of_same {e : Lease} (h : c.Backed e) (page : c'.page? e.page = c.page? e.page)
    (total : c'.total e.page = c.total e.page) : c'.Backed e where
  own := by
    rw [page]
    exact h.own
  counted := by
    rw [total]
    exact h.counted

namespace Orderly

/-! ## One lease for a key, one for a page -/

theorem eq_of_key (h : c.Orderly) {e : Lease} (he : e ∈ c.leases) (leased : lease ∈ c.leases)
    (same : e.key = lease.key) : e = lease := List.inj_on_of_nodup_map h.keys he leased same

theorem eq_of_page (h : c.Orderly) {e : Lease} (he : e ∈ c.leases) (leased : lease ∈ c.leases)
    (same : e.page = lease.page) : e = lease := by
  obtain ⟨p, found, key, -⟩ := (h.backed e he).own
  obtain ⟨q, found', key', -⟩ := (h.backed lease leased).own
  rw [same, found'] at found
  cases found
  exact h.eq_of_key he leased (key.symm.trans key')

/-! ## What a change must leave -/

/-- Requests may end on pages that are not shared. -/
theorem of_le (h : c.Orderly) (pages : c'.pages = c.pages) (leases : c'.leases = c.leases)
    (fewer : ∀ id, c'.total id ≤ c.total id)
    (counted : ∀ e ∈ c.leases, c'.total e.page = c.total e.page) : c'.Orderly := by
  have page : ∀ id, c'.page? id = c.page? id := fun id => by
    unfold page?
    rw [pages]
  constructor
  · intro id p found
    refine (h.fits id p ((page id).symm.trans found)).mono ?_ (fewer id)
    rw [leases]
    exact fun shared => shared
  · intro e he
    rw [leases] at he
    exact (h.backed e he).of_same (page e.page) (counted e he)
  · rw [leases]
    exact h.keys
  · intro id missing
    exact Nat.eq_zero_of_le_zero
      ((fewer id).trans (h.known id ((page id).symm.trans missing)).le)

/-- A change that touches one page leaves the cache orderly if that page and its leases fit
again. -/
theorem touched (h : c.Orderly) {id : PageId} {p : Page α}
    (pages : ∀ other, other ≠ id → c'.page? other = c.page? other)
    (total : ∀ other, other ≠ id → c'.total other = c.total other)
    (leases : ∀ e, e.page ≠ id → (e ∈ c'.leases ↔ e ∈ c.leases))
    (this : c'.page? id = some p) (fits : c'.Fits id p)
    (backed : ∀ e ∈ c'.leases, e.page = id → c'.Backed e)
    (keys : (c'.leases.map Lease.key).Nodup) : c'.Orderly := by
  constructor
  · intro other q found
    by_cases same : other = id
    · subst same
      cases this.symm.trans found
      exact fits
    · refine (h.fits other q ((pages other same).symm.trans found)).mono ?_ (total other same).le
      rintro ⟨e, he, rfl⟩
      exact ⟨e, (leases e same).mpr he, rfl⟩
  · intro e he
    by_cases same : e.page = id
    · exact backed e he same
    · exact (h.backed e ((leases e same).mp he)).of_same (pages e.page same) (total e.page same)
  · exact keys
  · intro other missing
    by_cases same : other = id
    · subst same
      cases this.symm.trans missing
    · rw [total other same]
      exact h.known other ((pages other same).symm.trans missing)

/-- A page may become another that is as much of its key, as much kept, and as
much failed. -/
theorem of_page (h : c.Orderly) {id : PageId} {p p' : Page α} (found : c.page? id = some p)
    (pages : ∀ other, c'.page? other = if other = id then some p' else c.page? other)
    (leases : c'.leases = c.leases) (total : ∀ other, c'.total other = c.total other)
    (identity : p'.id = p.id ∧ p'.key = p.key) (regular : p'.Regular) (kept : p'.Kept ↔ p.Kept)
    (failed : p.state = .failed → p'.state = .failed) : c'.Orderly := by
  have this : c'.page? id = some p' := by rw [pages, if_pos rfl]
  have old := h.fits id p found
  refine h.touched (fun other ne => by rw [pages, if_neg ne]) (fun other _ => total other)
    (fun e _ => by rw [leases]) this ?_ ?_ (by rw [leases]; exact h.keys)
  · constructor
    · exact identity.1.trans old.placed
    · exact regular
    · rw [leases]
      exact fun keeps => old.shared (kept.mp keeps)
    · rw [total]
      exact fun holds well => kept.mpr (old.held holds fun gone => well (failed gone))
  · rintro e he rfl
    rw [leases] at he
    obtain ⟨q, found', key, keeps⟩ := (h.backed e he).own
    cases found.symm.trans found'
    refine ⟨⟨p', this, identity.2.trans key, kept.mpr keeps⟩, ?_⟩
    rw [total]
    exact (h.backed e he).counted

/-- The requests on a shared page may be counted anew, as long as listeners count the same
and one is left. -/
theorem recounted (h : c.Orderly) (leased : lease ∈ c.leases) (count : Nat → Nat)
    (pages : c'.pages = c.pages) (leases : c'.leases = (c.recount lease.key count).leases)
    (here : c'.total lease.page = count (c.total lease.page))
    (elsewhere : ∀ id, id ≠ lease.page → c'.total id = c.total id)
    (left : 1 ≤ count (c.total lease.page)) : c'.Orderly := by
  have page : ∀ id, c'.page? id = c.page? id := fun id => by
    unfold page?
    rw [pages]
  obtain ⟨p, found, key, kept⟩ := (h.backed lease leased).own
  have old := h.fits lease.page p found
  refine h.touched (fun id _ => page id) elsewhere (fun e ne => ?_) ((page _).trans found) ?_ ?_ ?_
  · -- the count of another page is under another key, and left alone
    rw [leases, mem_recount_iff]
    constructor
    · rintro (⟨old, hold, same, rfl⟩ | ⟨he, -⟩)
      · cases h.eq_of_key hold leased same
        exact absurd rfl ne
      · exact he
    · exact fun he => .inr ⟨he, fun same => ne (congrArg Lease.page (h.eq_of_key he leased same))⟩
  · refine ⟨old.placed, old.regular, fun _ => ?_, fun _ _ => kept⟩
    rw [leases]
    exact mem_recount lease.key count leased
  · intro e he same
    rw [leases, mem_recount_iff] at he
    rcases he with ⟨e, he, one, rfl⟩ | ⟨he, other⟩
    · cases h.eq_of_key he leased one
      refine ⟨⟨p, (page _).trans found, key, kept⟩, ?_⟩
      rw [here, (h.backed lease leased).counted.2]
      exact ⟨left, rfl⟩
    · exact absurd (congrArg Lease.key (h.eq_of_page he leased same)) other
  · rw [leases, keys_recount]
    exact h.keys

/-- A lease may end whose page has failed, or is held by nobody any more. The page is
told to end. -/
theorem retired (h : c.Orderly) (leased : lease ∈ c.leases)
    (pages : c'.pages = (c.retire lease).pages) (leases : c'.leases = (c.retire lease).leases)
    (elsewhere : ∀ id, id ≠ lease.page → c'.total id = c.total id)
    (idle : (∀ p, c.page? lease.page = some p → p.state = .failed) ∨ c'.total lease.page = 0) :
    c'.Orderly := by
  obtain ⟨p, found, key, kept⟩ := (h.backed lease leased).own
  have old := h.fits lease.page p found
  have page : ∀ id, c'.page? id =
      if id = lease.page then (c.page? id).map (·.send .shutdown) else c.page? id := fun id => by
    refine Eq.trans ?_ (page?_send c lease.page id .shutdown)
    unfold page?
    rw [pages]
    rfl
  have this : c'.page? lease.page = some (p.send .shutdown) := by
    rw [page, if_pos rfl, found]
    rfl
  have others : ∀ e, e ∈ c'.leases ↔ e ∈ c.leases ∧ e ≠ lease := by
    intro e
    rw [leases]
    show e ∈ c.leases.filter (·.key ≠ lease.key) ↔ _
    rw [List.mem_filter, decide_eq_true_iff]
    refine and_congr_right fun he => not_congr ⟨h.eq_of_key he leased, ?_⟩
    rintro rfl
    rfl
  refine h.touched (fun id ne => ?_) elsewhere (fun e ne => ?_) this ?_ (fun e he same => ?_) ?_
  · rw [page, if_neg ne]
  · rw [others, and_iff_left]
    rintro rfl
    exact ne rfl
  · -- the page is kept no longer, so nobody may hold it unless it has failed
    refine ⟨old.placed, old.regular.send kept .shutdown, fun keeps => ?_, fun holds well => ?_⟩
    · exact absurd rfl (Page.kept_send.mp keeps).2
    · rcases idle with failed | nobody
      · exact absurd (failed p found) well
      · rw [nobody] at holds
        cases holds
  · obtain ⟨he, other⟩ := (others e).mp he
    exact absurd (h.eq_of_page he leased same) other
  · rw [leases]
    exact h.keys.sublist (List.filter_sublist.map Lease.key)

/-- A new page may be shared under a key that has none. -/
theorem create (h : c.Orderly) {x : Listener} {l : ListenerId} (present : c.listener? l = some x)
    {k : PageKey} (unused : ∀ e ∈ c.leases, e.key ≠ k) : (c.create k l).2.Orderly := by
  have page := fun id => page?_create c id k l
  have total := total_create present k
  have absent := page?_created c k l
  have leases : (c.create k l).2.leases = c.leases ++ [⟨k, (c.create k l).1, 1⟩] := rfl
  have one : (c.create k l).2.total (c.create k l).1 = 1 := by
    rw [total, if_pos rfl, h.known _ absent]
  generalize (c.create k l).2 = after at *
  generalize (c.create k l).1 = new at *
  have this : after.page? new = some (Page.create new k l).1 := by rw [page, if_pos rfl]
  have old : ∀ e ∈ c.leases, e.page ≠ new := by
    rintro e he rfl
    obtain ⟨p, found, -⟩ := (h.backed e he).own
    cases absent.symm.trans found
  refine h.touched (fun id ne => ?_) (fun id ne => ?_) (fun e ne => ?_) this ?_
    (fun e he same => ?_) ?_
  · rw [page, if_neg ne]
  · rw [total, if_neg (Ne.symm ne), Nat.add_zero]
  · rw [leases, List.mem_append, or_iff_left]
    intro he
    exact ne (by rw [List.mem_singleton.mp he])
  · refine ⟨rfl, Page.regular_create new k l, fun _ => ?_, fun _ _ => Page.kept_create new k l⟩
    rw [leases]
    exact ⟨_, List.mem_append_right _ List.mem_cons_self, rfl⟩
  · -- the page is new, so no lease but the new one is of it
    rw [leases] at he
    rcases List.mem_append.mp he with he | he
    · exact absurd same (old e he)
    · rw [List.mem_singleton.mp he]
      exact ⟨⟨_, this, rfl, Page.kept_create new k l⟩, Nat.le_refl _, one.symm⟩
  · rw [leases, List.map_append, List.nodup_append]
    refine ⟨h.keys, List.nodup_singleton _, ?_⟩
    intro key hkey key' hkey'
    obtain ⟨e, he, rfl⟩ := List.mem_map.mp hkey
    rw [List.mem_singleton.mp hkey']
    exact unused e he

/-! ## Every event -/

/-- A shared page may be sent anything but a shutdown. -/
theorem send (h : c.Orderly) (leased : lease ∈ c.leases) (command : Command)
    (other : command ≠ .shutdown) : (c.send lease.page command).Orderly := by
  obtain ⟨p, found, -, kept⟩ := (h.backed lease leased).own
  have pages : ∀ id, (c.send lease.page command).page? id =
      if id = lease.page then some (p.send command) else c.page? id := by
    intro id
    rw [page?_send]
    split
    · rename_i same
      rw [same, found]
      rfl
    · rfl
  exact h.of_page found pages rfl (fun _ => rfl) ⟨rfl, rfl⟩
    ((h.fits lease.page p found).regular.send kept command)
    ⟨fun keeps => (Page.kept_send.mp keeps).1, fun keeps => Page.kept_send.mpr ⟨keeps, other⟩⟩
    (fun failed => failed)

/-- So may several. -/
theorem sendEach (h : c.Orderly) (command : Command) (other : command ≠ .shutdown)
    (leases : List Lease) (leased : ∀ e ∈ leases, e ∈ c.leases) :
    (c.sendEach command leases).Orderly := by
  induction leases generalizing c with
  | nil => exact h
  | cons e leases ih =>
    exact ih (h.send (leased e List.mem_cons_self) command other)
      fun e' he' => leased e' (List.mem_cons_of_mem _ he')

/-- One more request on a shared page is counted in both places. -/
theorem share (h : c.Orderly) {x : Listener} {l : ListenerId} (present : c.listener? l = some x)
    (leased : lease ∈ c.leases) (p : Page α) : (c.share lease p l).Orderly := by
  have total : ∀ id, (c.share lease p l).total id = c.total id + if lease.page = id then 1 else 0 :=
    fun id => total_attach present lease.page id
  refine (h.send leased (.attach l p.snapshot.revision) nofun).recounted leased (· + 1) rfl rfl ?_
    (fun id ne => ?_) (Nat.le_add_left _ _)
  · rw [total, if_pos rfl]
    rfl
  · rw [total, if_neg (Ne.symm ne)]
    rfl

/-- What one request less leaves of the counts. -/
theorem release_total (h : c.Orderly) {l : ListenerId} (leased : lease ∈ c.leases)
    (holds : 0 < c.held l lease.page) :
    (c.withListener l (·.detach lease.page)).total lease.page = lease.requests - 1 ∧
      ∀ id, id ≠ lease.page →
        (c.withListener l (·.detach lease.page)).total id = c.total id := by
  have total := total_detach holds
  obtain ⟨-, counted⟩ := (h.backed lease leased).counted
  constructor
  · have here := total lease.page
    rw [if_pos rfl] at here
    omega
  · intro id ne
    have elsewhere := total id
    rwa [if_neg (Ne.symm ne), Nat.add_zero] at elsewhere

/-- Whatever an event does, an orderly cache stays orderly. -/
theorem of_happens (h : c.Orderly) {e : Event α} (happens : Happens c e c') : c'.Orderly := by
  cases happens with
  | refused => exact h
  | joined => exact h.of_le rfl rfl (fun id => (total_join id).le) fun e _ => total_join e.page
  | left l x present free =>
    exact h.of_le rfl rfl (fun id => (total_leave present free id).le)
      fun e _ => total_leave present free e.page
  | taken e l x x' drained present taking =>
    have total := total_withListener_of_same (f := fun _ => x') present taking.requests
    exact h.of_le rfl rfl (fun id => (total id).le) fun e _ => total e.page
  | acted e id step own p found =>
    have regular := (h.fits id p found).regular
    have does : step.Own := by
      cases e <;> cases own <;> trivial
    refine h.of_page found (fun other => page?_act c id other found _) ?_ ?_
      (Page.identity_react p step) (regular.react does) (regular.kept_react does)
      (regular.failed_stays does)
    · unfold act
      rw [found]
      rfl
    · intro other
      unfold act
      rw [found]
      exact total_deliver _ _ _
  | shared k l x present lease leased key p found well => exact h.share present leased p
  | created k l x present unused => exact h.create present unused
  | replaced k l x present lease leased key p found failed =>
    have ended : (c.retire lease).Orderly := by
      refine h.retired leased rfl rfl (fun _ _ => rfl) (.inl fun q hq => ?_)
      rw [found] at hq
      cases hq
      exact failed
    refine ended.create (x := x) present fun e he same => ?_
    have others := (List.mem_filter.mp he).2
    rw [same, key] at others
    simp at others
  | orphaned id l holds unshared =>
    have total := total_detach holds
    refine h.of_le rfl rfl (fun other => ?_) fun e he => ?_
    · have := total other
      omega
    · have elsewhere := total e.page
      rwa [if_neg (Ne.symm (unshared e he)), Nat.add_zero] at elsewhere
  | loosened l lease leased holds more =>
    obtain ⟨here, elsewhere⟩ := h.release_total leased holds
    obtain ⟨-, counted⟩ := (h.backed lease leased).counted
    refine (h.send leased (.detach l) nofun).recounted leased (· - 1) rfl rfl ?_ elsewhere ?_
    · rw [← show c.total lease.page = (c.send lease.page (.detach l)).total lease.page from rfl,
        ← counted]
      exact here
    · show 1 ≤ c.total lease.page - 1
      omega
  | closed l lease leased holds last =>
    obtain ⟨here, elsewhere⟩ := h.release_total leased holds
    have nobody : (c.withListener l (·.detach lease.page)).total lease.page = 0 := by omega
    exact h.retired leased rfl rfl elsewhere (.inr nobody)
  | updated symbol timeframe mode =>
    rw [sourceUpdated_eq_sendEach]
    exact h.sendEach (.refresh mode) nofun _ fun e he => (List.mem_filter.mp he).1

theorem pages_exist (h : c.Orderly) (lease : Lease) (leased : lease ∈ c.leases) :
    (c.page? lease.page).isSome := by
  obtain ⟨p, found, -⟩ := (h.backed lease leased).own
  rw [found]
  rfl

/-- Every event does one of the things of `Happens` to an orderly cache. -/
theorem happens (h : c.Orderly) (e : Event α) : Happens c e (c.react e) :=
  PageCache.happens h.pages_exist e

theorem requests (h : c.Orderly) (k : PageKey) (l : ListenerId) :
    Requests c k l (c.request k l) := PageCache.requests h.pages_exist k l

/-- Whatever happens, an orderly cache stays orderly. -/
theorem react (h : c.Orderly) (e : Event α) : (c.react e).Orderly := h.of_happens (h.happens e)

end Orderly

end PageCache

end MarketConditions
