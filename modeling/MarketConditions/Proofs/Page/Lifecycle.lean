import MarketConditions.Proofs.Page.Chronicle

/-!
# The life cycle of a page

A page keeps its state, the computation in flight, the refresh that follows, its data and
its failure in separate fields, and every step touches several of them. Here they are
shown to fit together along every run, under any order of commands and of computations
that succeed or fail.

- `Chronicle.Faithful`: the record agrees with the page. It carries `Page.Coherent`, and
  with it the run: `Chronicle.faithful_new`, `Chronicle.faithful_record`,
  `Chronicle.faithful_run`.
- `Chronicle.page_life_cycle`: **the life cycle**. At most one computation is in flight
  and the state fits it; data stay, failure stays; and the changes of state are those of
  `PageState.next`, each told to everyone attached when it takes place.

The record of changes is complete: it is a walk from the very first state to the present
one, and its length is the revision that the page counts.
-/

namespace MarketConditions

variable {α : Type}

namespace Page

/-! ## What a page remembers -/

/-- The changes a page remembers of all there were. -/
def latest (changes : List Transition) : List Transition :=
  changes.drop (changes.length - historyLength)

theorem remember_latest (changes : List Transition) (t : Transition) :
    remember (latest changes) t = latest (changes ++ [t]) := by
  unfold remember latest
  rw [List.length_drop, List.length_append, List.length_singleton]
  -- a full history lets go of one change, and of one more change one more is forgotten
  by_cases full : historyLength ≤ changes.length
  · rw [if_pos (by omega), List.tail_drop, List.drop_append_of_le_length (by simp [historyLength])]
    congr 2
    omega
  · rw [if_neg (by omega)]
    have short : changes.length - historyLength = 0 := by omega
    have short' : changes.length + 1 - historyLength = 0 := by omega
    rw [short, short']
    rfl

theorem foldl_remember (changes ts : List Transition) :
    ts.foldl remember (latest changes) = latest (changes ++ ts) := by
  induction ts generalizing changes with
  | nil => rw [List.append_nil, List.foldl_nil]
  | cons t ts ih =>
    rw [List.foldl_cons, remember_latest, ih, List.append_assoc, List.singleton_append]

/-- Revisions that go up one by one tell new changes from old ones. -/
theorem filter_latest {changes ts : List Transition} (short : ts.length ≤ historyLength)
    (numbered : changes.map Transition.revision = List.range' 1 changes.length)
    (later : ts.map Transition.revision = List.range' (changes.length + 1) ts.length) :
    (latest (changes ++ ts)).filter (fun t => changes.length < t.revision) = ts := by
  have old : ∀ t ∈ changes, ¬ changes.length < t.revision := by
    intro t ht
    have hr : t.revision ∈ List.range' 1 changes.length := by
      rw [← numbered]
      exact List.mem_map_of_mem ht
    have := List.mem_range'_1.mp hr
    omega
  have new : ∀ t ∈ ts, changes.length < t.revision := by
    intro t ht
    have hr : t.revision ∈ List.range' (changes.length + 1) ts.length := by
      rw [← later]
      exact List.mem_map_of_mem ht
    have := List.mem_range'_1.mp hr
    omega
  -- what is forgotten is old, since there are no more new changes than are remembered
  unfold latest
  rw [List.drop_append_of_le_length (by rw [List.length_append]; omega), List.filter_append]
  have gone : (changes.drop ((changes ++ ts).length - historyLength)).filter
      (fun t => changes.length < t.revision) = [] := by
    rw [List.filter_eq_nil_iff]
    intro t ht
    simpa using old t (List.mem_of_mem_drop ht)
  have stay : ts.filter (fun t => changes.length < t.revision) = ts := by
    rw [List.filter_eq_self]
    intro t ht
    simpa using new t ht
  rw [gone, stay, List.nil_append]

end Page

namespace Chronicle

/-! ## The record agrees with the page -/

/-- The record agrees with the page it is kept of, and the page is coherent. -/
structure Faithful (r : Chronicle α) : Prop where
  kept : r.page.Kept
  coherent : r.page.Coherent
  walk : Walk .empty r.changes r.page.state
  numbered : r.changes.map Transition.revision = List.range' 1 r.changes.length
  revision : r.page.snapshot.revision = r.changes.length
  history : r.page.history = Page.latest r.changes
  told : ∀ l, ∀ n ∈ r.told l, n.isData ∨ ∃ t ∈ r.changes, n = t.notice
  inFlight : r.inFlight = (r.page.running.map Flight.number).toList
  below : ∀ f, r.page.running = some f → f.number < r.page.started

/-- A new page is loading, has told its maker so, and has one computation in flight. -/
theorem faithful_new (id : PageId) (key : PageKey) (l : ListenerId) :
    Faithful (new id key l : Chronicle α) where
  kept := ⟨rfl, fun h => nomatch h⟩
  coherent :=
    { load := fun f hf _ => ⟨rfl, rfl⟩
      rebuild := fun f hf rebuild => by cases hf; cases rebuild
      inPlace := fun f hf inPlace => by cases hf; cases inPlace
      idle := fun idle => by cases idle
      shown := fun shows => by rcases shows with h | h <;> cases h
      failed := fun failed => by cases failed }
  walk := ⟨rfl, List.mem_cons_self, rfl⟩
  numbered := rfl
  revision := rfl
  history := rfl
  told := by
    intro other n hn
    have hn : n ∈ if other ∈ [l] then [Notice.stateChanged .empty .loading] else [] := hn
    split at hn
    · rw [List.mem_singleton.mp hn]
      exact .inr ⟨⟨1, .empty, .loading⟩, List.mem_cons_self, rfl⟩
    · cases hn
  inFlight := rfl
  below := fun f hf => by cases hf; exact Nat.one_pos

/-- The changes that are recorded with an event are those of its turn. -/
theorem Faithful.changesTo {r : Chronicle α} (h : r.Faithful) {p' : Page α} {post : Post}
    {ts : List Transition} (turn : Page.Turn r.page p' post ts) : r.page.changesTo p' = ts := by
  unfold Page.changesTo
  rw [turn.history, h.history, Page.foldl_remember, h.revision]
  refine Page.filter_latest (Nat.le_trans turn.short (by decide)) h.numbered ?_
  rw [turn.numbered, h.revision]

/-- The computations in flight after an event: the one that ended is gone, and one that
was started has come. -/
theorem Faithful.inFlight_record {r : Chronicle α} (h : r.Faithful) (e : Page.Event α) :
    (r.record e).inFlight = ((r.page.react e).1.running.map Flight.number).toList ∧
      ∀ f, (r.page.react e).1.running = some f → f.number < (r.page.react e).1.started := by
  show r.inFlight.filter (fun n => (r.page.ending e).all (·.number ≠ n)) ++
      List.range' r.page.started ((r.page.react e).1.started - r.page.started) = _ ∧ _
  have stay : r.page.ending e = none →
      r.inFlight.filter (fun n => (r.page.ending e).all (·.number ≠ n)) = r.inFlight := by
    intro ends
    simp [ends]
  have gone : (r.page.ending e).isSome → r.page.ending e = r.page.running →
      r.inFlight.filter (fun n => (r.page.ending e).all (·.number ≠ n)) = [] := by
    intro ends same
    obtain ⟨f, hf⟩ := Option.isSome_iff_exists.mp ends
    rw [h.inFlight, ← same, hf]
    simp
  have nothing_new : (r.page.react e).1.started = r.page.started →
      List.range' r.page.started ((r.page.react e).1.started - r.page.started) = [] := by
    intro started
    rw [started, Nat.sub_self, List.range'_zero]
  have one_new : (r.page.react e).1.started = r.page.started + 1 →
      List.range' r.page.started ((r.page.react e).1.started - r.page.started) =
        [r.page.started] := by
    intro started
    rw [started, Nat.add_sub_cancel_left]
    rfl
  -- whatever is in flight in the end was there before, or has just been started
  cases Page.react_outcome h.kept h.coherent e with
  | undisturbed ends _ running started =>
    rw [stay ends, nothing_new started, List.append_nil, h.inFlight, running, started]
    exact ⟨rfl, h.below⟩
  | joined _ ends _ _ running started =>
    rw [stay ends, nothing_new started, List.append_nil, h.inFlight, running, started]
    exact ⟨rfl, h.below⟩
  | begun _ ends _ idle _ begins =>
    rw [stay ends, one_new begins.started, h.inFlight, idle, begins.running, begins.started]
    exact ⟨rfl, fun f hf => by cases hf; exact Nat.lt_succ_self _⟩
  | renewed f data event busy _ running started =>
    subst event
    have ends : (r.page.ending (.ended (.ok data))).isSome := by
      rw [Page.ending_of_busy busy]
      rfl
    rw [gone ends rfl, nothing_new started, running]
    exact ⟨rfl, fun f hf => by cases hf⟩
  | followed f data _ event busy _ begins =>
    subst event
    have ends : (r.page.ending (.ended (.ok data))).isSome := by
      rw [Page.ending_of_busy busy]
      rfl
    rw [gone ends rfl, one_new begins.started, begins.running, begins.started]
    exact ⟨rfl, fun f hf => by cases hf; exact Nat.lt_succ_self _⟩
  | fell f cause event busy running started =>
    subst event
    have ends : (r.page.ending (.ended (.error cause))).isSome := by
      rw [Page.ending_of_busy busy]
      rfl
    rw [gone ends rfl, nothing_new started, running]
    exact ⟨rfl, fun f hf => by cases hf⟩

/-- The record goes on to agree, whatever happens. -/
theorem faithful_record {r : Chronicle α} (h : r.Faithful) (e : Page.Event α) :
    (r.record e).Faithful := by
  obtain ⟨ts, turn⟩ := Page.react_turn h.kept h.coherent e
  obtain ⟨inFlight, below⟩ := h.inFlight_record e
  have changes : (r.record e).changes = r.changes ++ ts := by
    show r.changes ++ r.page.changesTo (r.page.react e).1 = _
    rw [h.changesTo turn]
  constructor
  · exact h.kept.react e
  · exact (Page.react_outcome h.kept h.coherent e).coherent h.coherent
  · rw [changes]
    exact h.walk.append turn.walk
  · rw [changes, List.map_append, h.numbered, turn.numbered, h.revision, List.length_append,
      Nat.add_comm r.changes.length 1, List.range'_append_1]
  · show (r.page.react e).1.snapshot.revision = _
    rw [changes, turn.revision, h.revision, List.length_append]
  · show (r.page.react e).1.history = _
    rw [changes, turn.history, h.history, Page.foldl_remember]
  · intro l n hn
    rw [changes]
    rcases List.mem_append.mp hn with before | now
    · obtain data | ⟨t, ht, same⟩ := h.told l n before
      · exact .inl data
      · exact .inr ⟨t, List.mem_append_left _ ht, same⟩
    · -- a late joiner is told of changes of long ago, so all that are remembered count
      obtain data | ⟨t, ht, same⟩ := turn.truthful l n now
      · exact .inl data
      · refine .inr ⟨t, ?_, same⟩
        rcases List.mem_append.mp ht with old | new
        · rw [h.history] at old
          exact List.mem_append_left _ (List.mem_of_mem_drop old)
        · exact List.mem_append_right _ new
  · exact inFlight
  · exact below

/-- The record of every run agrees with the page. -/
theorem faithful_run {r : Chronicle α} (h : r.Faithful) (events : List (Page.Event α)) :
    (r.run events).Faithful :=
  run_induction h (fun _ e h => faithful_record h e) events

/-! ## What stays -/

/-- What every event leaves as it is stays along a run. -/
theorem Faithful.stays {P : Page α → Prop}
    (keeps : ∀ (p : Page α) (e : Page.Event α), p.Kept → p.Coherent → P p → P (p.react e).1)
    {r : Chronicle α} (h : r.Faithful) (holds : P r.page) (events : List (Page.Event α)) :
    P (r.run events).page := by
  have step : ∀ (r : Chronicle α) (e : Page.Event α), r.Faithful ∧ P r.page →
      (r.record e).Faithful ∧ P (r.record e).page :=
    fun r e ⟨h, holds⟩ => ⟨faithful_record h e, keeps r.page e h.kept h.coherent holds⟩
  exact (run_induction ⟨h, holds⟩ step events).2

/-- Data that are on show stay on show. -/
theorem Faithful.data_stays {r : Chronicle α} (h : r.Faithful)
    (present : r.page.snapshot.data.isSome) (events : List (Page.Event α)) :
    (r.run events).page.snapshot.data.isSome :=
  h.stays (P := fun p => p.snapshot.data.isSome)
    (fun _ e kept coherent => (Page.react_outcome kept coherent e).data_stays) present events

/-- A failed page stays failed. -/
theorem Faithful.failed_stays {r : Chronicle α} (h : r.Faithful) (failed : r.page.state = .failed)
    (events : List (Page.Event α)) : (r.run events).page.state = .failed :=
  h.stays (P := fun p => p.state = .failed)
    (fun _ e kept coherent => (Page.react_outcome kept coherent e).failed_stays coherent) failed
    events

/-- Every change that an event brings about is told to all who are attached
then, in order. -/
theorem announced_record {r : Chronicle α} (h : r.Faithful) (e : Page.Event α) {l : ListenerId}
    (attached : l ∈ r.page.attached) :
    ∃ ts, (r.record e).changes = r.changes ++ ts ∧
      (ts.map Transition.notice).Sublist ((r.page.react e).2 l) := by
  obtain ⟨ts, turn⟩ := Page.react_turn h.kept h.coherent e
  refine ⟨ts, ?_, turn.announced l attached⟩
  show r.changes ++ r.page.changesTo (r.page.react e).1 = _
  rw [h.changesTo turn]

/-! ## The life cycle -/

/-- **The life cycle of a page.** However commands and the ends of computations are
ordered: at most one computation is in flight, and the page's state, data, failure and
follow-up fit it; data stay on show and a failed page stays failed; and the changes of
state, counted from the empty page, are those of the drawing. Every change is told to
whoever is attached when it takes place, and no other is ever told. -/
theorem page_life_cycle (id : PageId) (key : PageKey) (l : ListenerId)
    (events : List (Page.Event α)) :
    let r : Chronicle α := (new id key l).run events
    (r.inFlight.length ≤ 1 ∧ r.inFlight = (r.page.running.map Flight.number).toList) ∧
    r.page.Coherent ∧
    (∀ more, r.page.snapshot.data.isSome → (r.run more).page.snapshot.data.isSome) ∧
    (∀ more, r.page.state = .failed → (r.run more).page.state = .failed) ∧
    (Walk .empty r.changes r.page.state ∧ r.page.snapshot.revision = r.changes.length ∧
      ∀ t ∈ r.changes, t.new ∈ t.old.next) ∧
    (∀ e, ∀ other ∈ r.page.attached, ∃ ts, (r.record e).changes = r.changes ++ ts ∧
      (ts.map Transition.notice).Sublist ((r.page.react e).2 other)) ∧
    ∀ other, ∀ n ∈ r.told other, n.isData ∨ ∃ t ∈ r.changes, n = t.notice := by
  intro r
  have h : r.Faithful := faithful_run (faithful_new id key l) events
  refine ⟨⟨?_, h.inFlight⟩, h.coherent, fun more present => h.data_stays present more,
    fun more failed => h.failed_stays failed more, ⟨h.walk, h.revision, fun t ht => ?_⟩,
    fun e other attached => announced_record h e attached, h.told⟩
  · rw [h.inFlight]
    cases r.page.running with
    | none => exact Nat.zero_le _
    | some f => exact Nat.le_refl _
  · exact h.walk.mem_next ht

end Chronicle

end MarketConditions
