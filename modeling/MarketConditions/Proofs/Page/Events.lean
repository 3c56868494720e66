import MarketConditions.Proofs.Page.Moves

/-!
# What can happen to a page

The events in the life of a page that is kept, in any order, and what each of them
can do. Later proofs take the cases of `Page.react_outcome` and never open the page's
own functions.

- `Page.Event`, `Page.react`: the events, and what the page does.
- `Page.Coherent`: how state, computation, data and failure of a page fit together. This
  is the invariant that everything else rests on.
- `Page.Outcome`, `Page.react_outcome`: the six things an event can do to a coherent page.
- `Page.Turn`, `Page.react_turn`: what the event does to the state, and what
  listeners are told.
-/

namespace MarketConditions

variable {α : Type}

/-- The state of a page while a refresh is in flight. -/
def RefreshMode.state : RefreshMode → PageState
  | .rebuild => .updating
  | .inPlace => .ready

namespace Page

/-- What can happen to a page that is kept: a command is put into its queue, the page
takes up the oldest one, or the computation in flight ends. Only a page that is given up
is sent a shutdown. -/
inductive Event (α : Type) where
  | sent (c : { c : Command // c ≠ .shutdown })
  | takenUp
  | ended (result : Except PageError (PageData α))

/-- What the page does then, and what it tells its listeners. -/
def react (p : Page α) : Event α → Page α × Post
  | .sent c => (p.send c, Post.silent)
  | .takenUp => p.handleNext
  | .ended result => p.finish result

/-- The computation that ends with an event. -/
def ending (p : Page α) : Event α → Option Flight
  | .ended _ => p.running
  | _ => none

/-- A computation that is in flight may end. -/
theorem ending_of_busy {p : Page α} {f : Flight} (busy : p.running = some f)
    (result : Except PageError (PageData α)) : p.ending (.ended result) = some f := busy

/-- The refresh that is taken up with an event. -/
def refreshTakenUp (p : Page α) : Event α → Option RefreshMode
  | .takenUp =>
    match p.queue with
    | .refresh mode :: _ => some mode
    | _ => none
  | _ => none

/-- The data that an event brings, with the number of the computation they come from. -/
def dataBrought (p : Page α) : Event α → Option (Nat × PageData α)
  | .ended (.ok data) => p.running.map fun f => (f.number, data)
  | _ => none

/-- Nothing in flight brings nothing. -/
theorem dataBrought_of_idle {p : Page α} (idle : p.running = none) (e : Event α) :
    p.dataBrought e = none := by
  cases e with
  | sent | takenUp => rfl
  | ended result =>
    cases result with
    | error => rfl
    | ok data =>
      show p.running.map (fun f => (f.number, data)) = none
      rw [idle]
      rfl

/-- The changes of state that lie between a page and what became of it. -/
def changesTo (p after : Page α) : List Transition :=
  after.history.filter fun t => p.snapshot.revision < t.revision

/-! ## The invariant -/

/-- A page is kept while it has not been told to end. -/
structure Kept (p : Page α) : Prop where
  alive : p.discarded = false
  unasked : Command.shutdown ∉ p.queue

/-- How the parts of a page fit together. -/
structure Coherent (p : Page α) : Prop where
  load : ∀ f, p.running = some f → f.work = .load → p.state = .loading ∧ p.snapshot.data = none
  rebuild : ∀ f, p.running = some f → f.work = .refresh .rebuild → p.state = .updating
  inPlace : ∀ f, p.running = some f → f.work = .refresh .inPlace → p.state = .ready
  idle : p.running = none → (p.state = .ready ∨ p.state = .failed) ∧ p.pending = none
  shown : p.state = .ready ∨ p.state = .updating →
    p.snapshot.data.isSome ∧ p.snapshot.failure = none
  failed : p.state = .failed → p.snapshot.failure.isSome

/-- While a computation is in flight the page has begun to load and has not failed. -/
theorem Coherent.can_fail {p : Page α} (h : p.Coherent) (busy : p.running.isSome) :
    PageState.failed ∈ p.state.next := by
  obtain ⟨⟨work, number⟩, hf⟩ := Option.isSome_iff_exists.mp busy
  cases work with
  | load =>
    rw [(h.load _ hf rfl).1]
    decide
  | refresh mode =>
    cases mode with
    | rebuild =>
      rw [h.rebuild _ hf rfl]
      decide
    | inPlace =>
      rw [h.inPlace _ hf rfl]
      decide

/-- Coherence looks at the snapshot and the computation in flight, and at the refresh that
follows only when nothing is in flight. -/
theorem Coherent.of_same {p p' : Page α} (h : p.Coherent) (running : p'.running = p.running)
    (pending : p.running = none → p'.pending = p.pending) (snapshot : p'.snapshot = p.snapshot) :
    p'.Coherent := by
  have state : p'.state = p.state := congrArg Snapshot.state snapshot
  constructor
  · rw [running, state, snapshot]
    exact h.load
  · rw [running, state]
    exact h.rebuild
  · rw [running, state]
    exact h.inPlace
  · rw [running, state]
    exact fun idle => ⟨(h.idle idle).1, (pending idle).trans (h.idle idle).2⟩
  · rw [state, snapshot]
    exact h.shown
  · rw [state, snapshot]
    exact h.failed

/-! ## What an event does -/

/-- A refresh has been started on a page that was ready; `data` are on show. -/
structure Begins (p : Page α) (mode : RefreshMode) (data : Option (PageData α))
    (p' : Page α) : Prop where
  running : p'.running = some ⟨.refresh mode, p.started⟩
  started : p'.started = p.started + 1
  pending : p'.pending = none
  state : p'.state = mode.state
  data : p'.snapshot.data = data
  failure : p'.snapshot.failure = none
  /-- A rebuild goes through updating. -/
  through : mode = .rebuild → ∃ t ∈ p.changesTo p', t.old = .ready ∧ t.new = .updating

/-- What can come of an event. -/
inductive Outcome (p : Page α) (e : Event α) (p' : Page α) : Prop where
  /-- Nothing of a computation or of what is shown changes. -/
  | undisturbed (ends : p.ending e = none)
      (asks : p.refreshTakenUp e = none ∨ p.running = none ∧ p.state ≠ .ready)
      (running : p'.running = p.running) (started : p'.started = p.started)
      (pending : p'.pending = p.pending) (snapshot : p'.snapshot = p.snapshot)
  /-- A refresh is put off until the computation in flight ends. -/
  | joined (mode : RefreshMode) (ends : p.ending e = none)
      (asks : p.refreshTakenUp e = some mode) (busy : p.running.isSome)
      (running : p'.running = p.running) (started : p'.started = p.started)
      (pending : p'.pending = some ((p.pending.map (·.merge mode)).getD mode))
      (snapshot : p'.snapshot = p.snapshot)
  /-- A refresh begins at once. -/
  | begun (mode : RefreshMode) (ends : p.ending e = none)
      (asks : p.refreshTakenUp e = some mode) (idle : p.running = none) (ready : p.state = .ready)
      (begins : Begins p mode p.snapshot.data p')
  /-- New data are shown, and nothing follows. -/
  | renewed (f : Flight) (data : PageData α) (event : e = .ended (.ok data))
      (busy : p.running = some f) (alone : p.pending = none) (running : p'.running = none)
      (started : p'.started = p.started) (pending : p'.pending = none)
      (state : p'.state = .ready) (shown : p'.snapshot.data = some data)
      (failure : p'.snapshot.failure = none)
  /-- New data are shown, and the refresh that was put off begins. -/
  | followed (f : Flight) (data : PageData α) (mode : RefreshMode)
      (event : e = .ended (.ok data)) (busy : p.running = some f) (asked : p.pending = some mode)
      (begins : Begins p mode (some data) p')
  /-- The failure is shown beside the data of before, and nothing follows. -/
  | fell (f : Flight) (cause : PageError) (event : e = .ended (.error cause))
      (busy : p.running = some f) (running : p'.running = none)
      (started : p'.started = p.started) (pending : p'.pending = none)
      (state : p'.state = .failed) (shown : p'.snapshot.data = p.snapshot.data)
      (failure : p'.snapshot.failure.isSome)

/-- A refresh of a ready page with nothing in flight or asked for begins at once. -/
theorem begins_refresh {p : Page α} (idle : p.running = none) (alone : p.pending = none)
    (ready : p.state = .ready) (healthy : p.snapshot.failure = none) (mode : RefreshMode) :
    Begins p mode p.snapshot.data (p.refresh mode).1 := by
  cases mode with
  | rebuild =>
    rw [refresh_rebuild idle ready]
    exact {
      running := by simp [start]
      started := by simp [start]
      pending := by simp [start, alone]
      state := publish_state _ _ _ _
      data := publish_data _ _ _ _
      failure := by simp [start, healthy]
      through := by
        intro _
        refine ⟨⟨p.snapshot.revision + 1, .ready, .updating⟩, ?_, rfl, rfl⟩
        simp [changesTo, start, publish, ready, remember] }
  | inPlace =>
    rw [refresh_inPlace idle ready]
    refine ⟨rfl, rfl, alone, ready, rfl, healthy, fun rebuild => ?_⟩
    cases rebuild

/-- What an event does that takes up a refresh. -/
theorem outcome_refresh {p q : Page α} {e : Event α} {mode : RefreshMode} (h : p.Coherent)
    (ends : p.ending e = none) (asks : p.refreshTakenUp e = some mode)
    (running : q.running = p.running) (started : q.started = p.started)
    (pending : q.pending = p.pending) (snapshot : q.snapshot = p.snapshot) :
    Outcome p e (q.refresh mode).1 := by
  have state : q.state = p.state := congrArg Snapshot.state snapshot
  cases busy : p.running with
  | some f =>
    rw [refresh_of_running (running.trans busy)]
    exact .joined mode ends asks (by rw [busy]; rfl) running started (by rw [pending]) snapshot
  | none =>
    -- with nothing in flight nothing was put off either, so a refresh begins
    -- afresh or not at all
    obtain ⟨quiet, alone⟩ := h.idle busy
    by_cases ready : p.state = .ready
    · have healthy : q.snapshot.failure = none := by
        rw [snapshot]
        exact (h.shown (.inl ready)).2
      have begins := begins_refresh (running.trans busy) (pending.trans alone)
        (state.trans ready) healthy mode
      refine .begun mode ends asks busy ready { begins with
        running := by rw [begins.running, started]
        started := by rw [begins.started, started]
        data := by rw [begins.data, snapshot]
        through := by
          have := begins.through
          unfold changesTo at this ⊢
          rwa [snapshot] at this }
    · rw [refresh_of_not_ready (running.trans busy) (by rwa [state])]
      exact .undisturbed ends (.inr ⟨busy, ready⟩) running started pending snapshot

/-- What the end of a computation does. -/
theorem outcome_finish (p : Page α) (result : Except PageError (PageData α)) :
    Outcome p (.ended result) (p.finish result).1 := by
  cases busy : p.running with
  | none =>
    rw [finish_of_idle busy]
    exact .undisturbed busy (.inl rfl) rfl rfl rfl rfl
  | some f =>
    cases result with
    | error cause =>
      rw [finish_error busy]
      refine .fell f cause rfl busy ?_ ?_ ?_ (publish_state _ _ _ _) (publish_data _ _ _ _) ?_
      all_goals simp [fallen]
    | ok data =>
      rw [finish_ok busy]
      have started : (p.renewed data).started = p.started := publish_started _ _ _ _
      have shown : (p.renewed data).snapshot.data = some data := publish_data _ _ _ _
      have healthy : (p.renewed data).snapshot.failure = none := publish_failure _ _ _ _
      cases asked : p.pending with
      | none =>
        exact .renewed f data rfl busy asked (renewed_running _ _) started (renewed_pending _ _)
          (renewed_state _ _) shown healthy
      | some mode =>
        have begins := begins_refresh (renewed_running p data) (renewed_pending p data)
          (renewed_state p data) healthy mode
        exact .followed f data mode rfl busy asked { begins with
          running := begins.running.trans (by rw [started])
          started := begins.started.trans (by rw [started])
          data := begins.data.trans shown
          through := fun rebuild => by
            -- the new data may have come with a change of their own, which is
            -- older than this one
            obtain ⟨t, ht, passes⟩ := begins.through rebuild
            refine ⟨t, ?_, passes⟩
            have := revision_renewed p data
            unfold changesTo at ht ⊢
            rw [List.mem_filter, decide_eq_true_iff] at ht ⊢
            exact ⟨ht.1, by omega⟩ }

/-- A page that is not discarded handles the command that it takes up. -/
theorem handleNext_of_alive {p : Page α} {c : Command} {rest : List Command}
    (alive : p.discarded = false) (queue : p.queue = c :: rest) : p.handleNext =
      match c with
      | .attach l seen => { p with queue := rest }.attach l seen
      | .detach l => ({ p with queue := rest }.detach l, Post.silent)
      | .refresh mode => { p with queue := rest }.refresh mode
      | .shutdown => ({ p with queue := rest }.shutdown, Post.silent) := by
  cases c <;> simp [handleNext, queue, handle, alive]

/-- A page that is kept takes up no shutdown. -/
theorem Kept.head_ne {p : Page α} {c : Command} {rest : List Command} (kept : p.Kept)
    (queue : p.queue = c :: rest) : c ≠ .shutdown := by
  rintro rfl
  exact kept.unasked (by rw [queue]; exact List.mem_cons_self)

/-- An empty queue leaves the page as it is. -/
theorem handleNext_of_nil {p : Page α} (queue : p.queue = []) :
    p.handleNext = (p, Post.silent) := by
  simp [handleNext, queue]

/-- What a command does that is no shutdown. -/
theorem outcome_handleNext {p : Page α} {c : Command} {rest : List Command} (h : p.Coherent)
    (alive : p.discarded = false) (queue : p.queue = c :: rest) (other : c ≠ .shutdown) :
    Outcome p .takenUp p.handleNext.1 := by
  rw [handleNext_of_alive alive queue]
  cases c with
  | attach l seen =>
    exact .undisturbed rfl (.inl (by simp [refreshTakenUp, queue])) rfl rfl rfl rfl
  | detach l =>
    exact .undisturbed rfl (.inl (by simp [refreshTakenUp, queue])) rfl rfl rfl rfl
  | refresh mode =>
    exact outcome_refresh h rfl (by simp [refreshTakenUp, queue]) rfl rfl rfl rfl
  | shutdown => exact absurd rfl other

/-- **Inversion.** Every event does one of six things to a coherent page. -/
theorem react_outcome {p : Page α} (kept : p.Kept) (h : p.Coherent) (e : Event α) :
    Outcome p e (p.react e).1 := by
  cases e with
  | sent c => exact .undisturbed rfl (.inl rfl) rfl rfl rfl rfl
  | ended result => exact outcome_finish p result
  | takenUp =>
    show Outcome p .takenUp p.handleNext.1
    cases queue : p.queue with
    | nil =>
      rw [handleNext_of_nil queue]
      exact .undisturbed rfl (.inl (by simp [refreshTakenUp, queue])) rfl rfl rfl rfl
    | cons c rest => exact outcome_handleNext h kept.alive queue (kept.head_ne queue)

/-! ## The invariant is kept -/

/-- A page with a refresh in flight is coherent. -/
theorem Begins.coherent {p p' : Page α} {mode : RefreshMode} {data : Option (PageData α)}
    (begins : Begins p mode data p') (present : data.isSome) : p'.Coherent := by
  have work : ∀ f, p'.running = some f → f.work = .refresh mode := by
    intro f hf
    rw [begins.running] at hf
    cases hf
    rfl
  constructor
  · intro f hf load
    rw [work f hf] at load
    cases load
  · intro f hf rebuild
    rw [work f hf] at rebuild
    cases rebuild
    exact begins.state
  · intro f hf inPlace
    rw [work f hf] at inPlace
    cases inPlace
    exact begins.state
  · intro idle
    rw [begins.running] at idle
    cases idle
  · intro _
    rw [begins.data]
    exact ⟨present, begins.failure⟩
  · intro failed
    rw [begins.state] at failed
    cases mode <;> cases failed

/-- A page with nothing in flight or asked for is coherent when it is ready with data, or
failed with a message. -/
theorem coherent_of_idle {p : Page α} (idle : p.running = none) (alone : p.pending = none)
    (rest : p.state = .ready ∧ p.snapshot.data.isSome ∧ p.snapshot.failure = none ∨
      p.state = .failed ∧ p.snapshot.failure.isSome) : p.Coherent := by
  have nothing : ∀ f, p.running ≠ some f := fun f hf => by rw [idle] at hf; cases hf
  constructor
  · exact fun f hf _ => absurd hf (nothing f)
  · exact fun f hf _ => absurd hf (nothing f)
  · exact fun f hf _ => absurd hf (nothing f)
  · exact fun _ => ⟨rest.imp And.left And.left, alone⟩
  · intro shows
    rcases rest with ⟨-, healthy⟩ | ⟨failed, -⟩
    · exact healthy
    · rw [failed] at shows
      rcases shows with h | h <;> cases h
  · intro failed
    rcases rest with ⟨ready, -⟩ | ⟨-, message⟩
    · rw [ready] at failed
      cases failed
    · exact message

/-- Whatever happens, a coherent page stays coherent. -/
theorem Outcome.coherent {p p' : Page α} {e : Event α} (h : p.Coherent)
    (outcome : Outcome p e p') : p'.Coherent := by
  cases outcome with
  | undisturbed _ _ running _ pending snapshot =>
    exact h.of_same running (fun _ => pending) snapshot
  | joined mode _ _ busy running _ _ snapshot =>
    refine h.of_same running (fun idle => ?_) snapshot
    rw [idle] at busy
    cases busy
  | begun mode _ _ _ ready begins => exact begins.coherent (h.shown (.inl ready)).1
  | renewed f data _ _ _ running _ pending state shown failure =>
    exact coherent_of_idle running pending (.inl ⟨state, by rw [shown]; rfl, failure⟩)
  | followed f data mode _ _ _ begins => exact begins.coherent rfl
  | fell f cause _ _ running _ pending state _ failure =>
    exact coherent_of_idle running pending (.inr ⟨state, failure⟩)

/-- Data that are shown never become absent. -/
theorem Outcome.data_stays {p p' : Page α} {e : Event α} (outcome : Outcome p e p')
    (present : p.snapshot.data.isSome) : p'.snapshot.data.isSome := by
  cases outcome with
  | undisturbed _ _ _ _ _ snapshot => rwa [snapshot]
  | joined _ _ _ _ _ _ _ snapshot => rwa [snapshot]
  | begun _ _ _ _ _ begins => rwa [begins.data]
  | renewed _ _ _ _ _ _ _ _ _ shown => rw [shown]; rfl
  | followed _ _ _ _ _ _ begins => rw [begins.data]; rfl
  | fell _ _ _ _ _ _ _ _ shown => rwa [shown]

/-- A failed page stays failed, since nothing is in flight on it and it takes up
no refresh. -/
theorem Outcome.failed_stays {p p' : Page α} {e : Event α} (h : p.Coherent)
    (outcome : Outcome p e p') (failed : p.state = .failed) : p'.state = .failed := by
  have idle : p.running = none := by
    cases hr : p.running with
    | none => rfl
    | some f =>
      have can := h.can_fail (by rw [hr]; rfl)
      rw [failed] at can
      cases can
  -- all but the first outcome need a computation in flight or a ready page
  cases outcome with
  | undisturbed _ _ _ _ _ snapshot => rwa [state, snapshot]
  | joined _ _ _ busy => rw [idle] at busy; cases busy
  | begun _ _ _ _ ready => rw [failed] at ready; cases ready
  | renewed _ _ _ busy => rw [idle] at busy; cases busy
  | followed _ _ _ _ busy => rw [idle] at busy; cases busy
  | fell _ _ _ busy => rw [idle] at busy; cases busy

/-- A page that is kept is kept. -/
theorem Kept.react {p : Page α} (kept : p.Kept) (e : Event α) : (p.react e).1.Kept := by
  cases e with
  | sent c =>
    refine ⟨kept.alive, fun asked => ?_⟩
    rcases List.mem_append.mp asked with old | new
    · exact kept.unasked old
    · exact c.2 (List.mem_singleton.mp new).symm
  | ended result =>
    have untouched := untouched_finish p result
    refine ⟨untouched.discarded.trans kept.alive, ?_⟩
    show Command.shutdown ∉ (p.finish result).1.queue
    rw [untouched.queue]
    exact kept.unasked
  | takenUp =>
    show p.handleNext.1.Kept
    cases queue : p.queue with
    | nil =>
      rw [handleNext_of_nil queue]
      exact kept
    | cons c rest =>
      have others : Command.shutdown ∉ rest := fun h =>
        kept.unasked (by rw [queue]; exact List.mem_cons_of_mem _ h)
      have other := kept.head_ne queue
      rw [handleNext_of_alive kept.alive queue]
      cases c with
      | attach l seen => exact ⟨kept.alive, others⟩
      | detach l => exact ⟨kept.alive, others⟩
      | refresh mode =>
        have untouched := untouched_refresh { p with queue := rest } mode
        exact ⟨untouched.discarded.trans kept.alive, by rwa [untouched.queue]⟩
      | shutdown => exact absurd rfl other

/-! ## What an event does to the state -/

/-- The changes of state that an event brings about, and who is told of them. -/
structure Turn (p p' : Page α) (post : Post) (ts : List Transition) : Prop where
  short : ts.length ≤ 2
  walk : Walk p.state ts p'.state
  numbered : ts.map Transition.revision = List.range' (p.snapshot.revision + 1) ts.length
  revision : p'.snapshot.revision = p.snapshot.revision + ts.length
  history : p'.history = ts.foldl remember p.history
  /-- Everyone attached is told of the changes, in order. -/
  announced : ∀ l ∈ p.attached, (ts.map Transition.notice).Sublist (post l)
  /-- No one is told of a change that did not take place. -/
  truthful : ∀ l, ∀ n ∈ post l, n.isData ∨ ∃ t ∈ p.history ++ ts, n = t.notice

/-- Moves are a turn. -/
theorem Moves.turn {p p' : Page α} {post : Post} {ts : List Transition} (m : Moves p p' post ts)
    (short : ts.length ≤ 2) : Turn p p' post ts := by
  obtain ⟨ns, states, goes⟩ := m.told
  refine ⟨short, m.walk, m.numbered, m.revision, m.history, fun l attached => ?_, fun l n hn => ?_⟩
  -- notices of changes are a part of all notices, and what is not of a change is of data
  · rw [goes, if_pos attached, ← states]
    exact List.filter_sublist
  · rw [goes] at hn
    split at hn
    · by_cases data : n.isData
      · exact .inl data
      · have change : n ∈ ts.map Transition.notice := by
          rw [← states]
          exact List.mem_filter.mpr ⟨hn, by simpa using data⟩
        obtain ⟨t, ht, rfl⟩ := List.mem_map.mp change
        exact .inr ⟨t, List.mem_append_right _ ht, rfl⟩
    · cases hn

/-- A page that shows what it showed has made no turn, as long as it tells only what it
remembers. -/
theorem Turn.of_same {p p' : Page α} {post : Post} (snapshot : p'.snapshot = p.snapshot)
    (history : p'.history = p.history)
    (truthful : ∀ l, ∀ n ∈ post l, n.isData ∨ ∃ t ∈ p.history, n = t.notice) :
    Turn p p' post [] where
  short := Nat.zero_le _
  walk := (congrArg Snapshot.state snapshot).symm
  numbered := rfl
  revision := congrArg Snapshot.revision snapshot
  history := history
  announced := fun l _ => List.nil_sublist _
  truthful := by rwa [List.append_nil]

/-- Nothing that is told is told truthfully. -/
theorem silent_truthful {P : Notice → Prop} (l : ListenerId) : ∀ n ∈ Post.silent l, P n :=
  fun _ hn => nomatch hn

/-- The steps of a page are moves, whatever has become of its queue. -/
theorem Turn.of_queue {p p' : Page α} {rest : List Command} {post : Post} {ts : List Transition}
    (t : Turn { p with queue := rest } p' post ts) : Turn p p' post ts :=
  ⟨t.short, t.walk, t.numbered, t.revision, t.history, t.announced, t.truthful⟩

/-- Every event of a coherent page is a turn. -/
theorem react_turn {p : Page α} (kept : p.Kept) (h : p.Coherent) (e : Event α) :
    ∃ ts, Turn p (p.react e).1 (p.react e).2 ts := by
  cases e with
  | sent c => exact ⟨[], .of_same rfl rfl silent_truthful⟩
  | ended result =>
    obtain ⟨ts, short, moves⟩ := moves_finish h.can_fail result
    exact ⟨ts, moves.turn short⟩
  | takenUp =>
    show ∃ ts, Turn p p.handleNext.1 p.handleNext.2 ts
    cases queue : p.queue with
    | nil =>
      rw [handleNext_of_nil queue]
      exact ⟨[], .of_same rfl rfl silent_truthful⟩
    | cons c rest =>
      have other := kept.head_ne queue
      rw [handleNext_of_alive kept.alive queue]
      cases c with
      | attach l seen =>
        -- a late joiner is told of the changes that the page remembers, and of no other
        refine ⟨[], .of_same rfl rfl fun other n hn => ?_⟩
        have hn : n ∈ if other = l then
            (p.history.filter fun t => seen < t.revision).map Transition.notice else [] := hn
        split at hn
        · obtain ⟨t, ht, rfl⟩ := List.mem_map.mp hn
          exact .inr ⟨t, (List.mem_filter.mp ht).1, rfl⟩
        · cases hn
      | detach l => exact ⟨[], .of_same rfl rfl silent_truthful⟩
      | refresh mode =>
        obtain ⟨ts, short, moves⟩ := moves_refresh { p with queue := rest } mode
        exact ⟨ts, (moves.turn (Nat.le_succ_of_le short)).of_queue⟩
      | shutdown => exact absurd rfl other

end Page

end MarketConditions
