import MarketConditions.Page.Life

/-!
# How a page moves

A page changes its state in `publish` alone, and everything it does is put together from a
few publications. This module says once what each step of a page can do, so that the
invariants of a run need not open `refresh` and `finish` again.

- `PageState.next`: the states that may follow a state. This is the drawing of
  the life cycle.
- `Walk`: a list of changes that leads from one state to another along that drawing.
- `Page.Moves`: a page became another by the changes of a walk, which it counted,
  remembered and told everyone attached.
- `Page.moves_refresh`, `Page.moves_finish`: the steps of a page are moves.
- `Page.Untouched`: they take up no command, and the page stays that of its key.
-/

namespace MarketConditions

variable {α : Type}

/-- The states that may follow a state. -/
def PageState.next : PageState → List PageState
  | .empty => [.loading]
  | .loading => [.ready, .failed]
  | .ready => [.updating, .failed]
  | .updating => [.ready, .failed]
  | .failed => []

/-- The changes lead from one state to another, each to a state that may follow. -/
def Walk : PageState → List Transition → PageState → Prop
  | s, [], s' => s = s'
  | s, t :: ts, s' => t.old = s ∧ t.new ∈ s.next ∧ Walk t.new ts s'

theorem Walk.append {s m s' : PageState} {ts us : List Transition} (first : Walk s ts m)
    (second : Walk m us s') : Walk s (ts ++ us) s' := by
  induction ts generalizing s with
  | nil =>
    cases first
    exact second
  | cons t ts ih => exact ⟨first.1, first.2.1, ih first.2.2⟩

/-- Every change of a walk is one of the drawing. -/
theorem Walk.mem_next {s s' : PageState} {ts : List Transition} (walk : Walk s ts s')
    {t : Transition} (ht : t ∈ ts) : t.new ∈ t.old.next := by
  induction ts generalizing s with
  | nil => cases ht
  | cons u ts ih =>
    obtain ⟨hold, hnew, hrest⟩ := walk
    rcases List.mem_cons.mp ht with rfl | ht
    · rw [hold]
      exact hnew
    · exact ih hrest ht

/-- A notice of changed data, as opposed to a changed state. -/
def Notice.isData (n : Notice) : Bool := n = .dataChanged

/-- Saying nothing afterwards adds nothing. -/
@[simp] theorem Post.append_silent (a : Post) : a ++ Post.silent = a :=
  funext fun l => List.append_nil (a l)

namespace Page

/-- The page `p` became `p'` by the changes `ts`, in order. It numbered and remembered
them, and told them to everyone attached, among notices of new data. -/
structure Moves (p p' : Page α) (post : Post) (ts : List Transition) : Prop where
  walk : Walk p.state ts p'.state
  numbered : ts.map Transition.revision = List.range' (p.snapshot.revision + 1) ts.length
  revision : p'.snapshot.revision = p.snapshot.revision + ts.length
  history : p'.history = ts.foldl remember p.history
  attached : p'.attached = p.attached
  /-- One list of notices goes to all who are attached, and nothing to others. -/
  told : ∃ ns, ns.filter (!·.isData) = ts.map Transition.notice ∧
    ∀ l, post l = if l ∈ p.attached then ns else []

/-- A page that shows the same moves by no change. -/
theorem Moves.of_same {p p' : Page α} (state : p'.state = p.state)
    (revision : p'.snapshot.revision = p.snapshot.revision) (history : p'.history = p.history)
    (attached : p'.attached = p.attached) : Moves p p' Post.silent [] where
  walk := state.symm
  numbered := rfl
  revision := revision
  history := history
  attached := attached
  told := ⟨[], rfl, fun l => by simp⟩

/-- Moves follow one another. -/
theorem Moves.trans {p q r : Page α} {post post' : Post} {ts us : List Transition}
    (first : Moves p q post ts) (second : Moves q r post' us) :
    Moves p r (post ++ post') (ts ++ us) where
  walk := first.walk.append second.walk
  numbered := by
    rw [List.map_append, first.numbered, second.numbered, first.revision, List.length_append,
      List.range'_append_1.symm]
    congr 2
    omega
  revision := by rw [second.revision, first.revision, List.length_append, Nat.add_assoc]
  history := by rw [second.history, first.history, List.foldl_append]
  attached := second.attached.trans first.attached
  told := by
    obtain ⟨ns, hns, hpost⟩ := first.told
    obtain ⟨ms, hms, hpost'⟩ := second.told
    refine ⟨ns ++ ms, by rw [List.filter_append, hns, hms, List.map_append], fun l => ?_⟩
    rw [Post.append_apply, hpost, hpost', first.attached]
    split <;> simp

/-- The change that a publication makes, if it is one. -/
def change (p : Page α) (new : PageState) : List Transition :=
  if p.state = new then [] else [⟨p.snapshot.revision + 1, p.state, new⟩]

/-- A publication of a state that may follow, or that is shown already, is a move. It is
told by `announce`, or as new data when the state stays. -/
theorem moves_publish {p : Page α} {new : PageState} (data : Option (PageData α))
    (failure : Option String) {post : Post} (lawful : p.state = new ∨ new ∈ p.state.next)
    (told : post = p.announce p.state new ∨ p.state = new ∧ post = p.broadcast .dataChanged) :
    Moves p (p.publish new data failure) post (p.change new) := by
  -- showing the same state again is no change, and only then may something else be told
  by_cases same : p.state = new
  · have nothing : p.change new = [] := if_pos same
    rw [nothing]
    unfold publish
    rw [if_pos same]
    refine ⟨same, rfl, rfl, rfl, rfl, ?_⟩
    rcases told with rfl | ⟨-, rfl⟩
    · exact ⟨[], rfl, fun l => by simp [announce, same]⟩
    · exact ⟨[.dataChanged], rfl, fun l => rfl⟩
  · have follows : new ∈ p.state.next := lawful.resolve_left same
    have one : p.change new = [⟨p.snapshot.revision + 1, p.state, new⟩] := if_neg same
    rw [one]
    unfold publish
    rw [if_neg same]
    refine ⟨⟨rfl, follows, rfl⟩, rfl, rfl, rfl, rfl, ?_⟩
    rcases told with rfl | ⟨absurdly, -⟩
    · refine ⟨[.stateChanged p.state new], rfl, fun l => ?_⟩
      simp [announce, same, broadcast]
    · exact absurd absurdly same

/-! ## What a refresh does -/

/-- While a computation is in flight, a refresh joins the one that will follow it. -/
theorem refresh_of_running {p : Page α} {f : Flight} (busy : p.running = some f)
    (mode : RefreshMode) :
    p.refresh mode =
      ({ p with pending := some ((p.pending.map (·.merge mode)).getD mode) }, Post.silent) := by
  simp [refresh, busy]

/-- A ready page with nothing in flight is rebuilt through updating. -/
theorem refresh_rebuild {p : Page α} (idle : p.running = none) (ready : p.state = .ready) :
    p.refresh .rebuild =
      ((p.publish .updating p.snapshot.data p.snapshot.failure).start (.refresh .rebuild),
        p.announce p.state .updating) := by
  simp [refresh, idle, ready, moveTo]

/-- A ready page with nothing in flight is refreshed in place at once. -/
theorem refresh_inPlace {p : Page α} (idle : p.running = none) (ready : p.state = .ready) :
    p.refresh .inPlace = (p.start (.refresh .inPlace), Post.silent) := by
  simp [refresh, idle, ready]

/-- Only a ready page can be refreshed. -/
theorem refresh_of_not_ready {p : Page α} (idle : p.running = none) (other : p.state ≠ .ready)
    (mode : RefreshMode) : p.refresh mode = (p, Post.silent) := by
  unfold refresh
  rw [idle]
  cases hs : p.state with
  | ready => exact absurd hs other
  | empty | loading | updating | failed => simp

/-! ## What the end of a computation does -/

/-- The page with new data on show, when nothing is in flight or asked for. -/
def renewed (p : Page α) (data : PageData α) : Page α :=
  { p with running := none, pending := none }.publish .ready (some data) none

/-- The page with its failure on show, beside the data of before. -/
def fallen (p : Page α) (e : PageError) : Page α :=
  { p with running := none, pending := none }.publish .failed p.snapshot.data
    (some (failureText e))

/-- Starts the refresh that was asked for, if there is one. -/
def followUp (p : Page α) : Option RefreshMode → Page α × Post
  | none => (p, Post.silent)
  | some mode => p.refresh mode

@[simp] theorem renewed_state (p : Page α) (data : PageData α) : (p.renewed data).state = .ready :=
  publish_state _ _ _ _

@[simp] theorem renewed_running (p : Page α) (data : PageData α) :
    (p.renewed data).running = none := publish_running _ _ _ _

@[simp] theorem renewed_pending (p : Page α) (data : PageData α) :
    (p.renewed data).pending = none := publish_pending _ _ _ _

/-- Publishing shows the data and the failure it is given. -/
@[simp] theorem publish_data (p : Page α) (new : PageState) (data : Option (PageData α))
    (failure : Option String) : (p.publish new data failure).snapshot.data = data := by
  unfold publish
  split <;> rfl

@[simp] theorem publish_failure (p : Page α) (new : PageState) (data : Option (PageData α))
    (failure : Option String) : (p.publish new data failure).snapshot.failure = failure := by
  unfold publish
  split <;> rfl

/-- Publishing never takes a revision back. -/
theorem revision_publish (p : Page α) (new : PageState) (data : Option (PageData α))
    (failure : Option String) :
    p.snapshot.revision ≤ (p.publish new data failure).snapshot.revision := by
  unfold publish
  split
  · exact Nat.le_refl _
  · exact Nat.le_succ _

theorem revision_renewed (p : Page α) (data : PageData α) :
    p.snapshot.revision ≤ (p.renewed data).snapshot.revision :=
  revision_publish { p with running := none, pending := none } _ _ _

@[simp] theorem publish_started (p : Page α) (new : PageState) (data : Option (PageData α))
    (failure : Option String) : (p.publish new data failure).started = p.started := by
  unfold publish
  split <;> rfl

/-- The notice that goes with new data: of the state where it changes, of the
data otherwise. -/
def successPost (p : Page α) (w : Work) : Post :=
  if w = .refresh .inPlace ∧ p.state = .ready then p.broadcast .dataChanged
  else p.announce p.state .ready

/-- Nothing ends when nothing is in flight. -/
theorem finish_of_idle {p : Page α} (idle : p.running = none)
    (result : Except PageError (PageData α)) : p.finish result = (p, Post.silent) := by
  simp [finish, idle]

/-- A success shows its data, and then the refresh asked for meanwhile follows. -/
theorem finish_ok {p : Page α} {f : Flight} (busy : p.running = some f) (data : PageData α) :
    p.finish (.ok data) =
      (((p.renewed data).followUp p.pending).1,
        p.successPost f.work ++ ((p.renewed data).followUp p.pending).2) := by
  -- the refresh put off is still noted when the data are shown, which does not look at it
  have shown : { p with running := none }.publish .ready (some data) none =
      { p.renewed data with pending := p.pending } := by
    unfold renewed publish state
    split <;> rfl
  have cleared : { p.renewed data with pending := none } = p.renewed data := by
    rw [← renewed_pending p data]
  simp only [finish, busy, succeed, shown]
  unfold takePending followUp
  cases p.pending with
  | none =>
    simp only [cleared]
    rfl
  | some mode =>
    simp only [cleared]
    rfl

/-- A failure shows its message, and no refresh follows. -/
theorem finish_error {p : Page α} {f : Flight} (busy : p.running = some f) (e : PageError) :
    p.finish (.error e) = (p.fallen e, p.announce p.state .failed) := by
  have shown : { { p with running := none }.publish .failed p.snapshot.data
      (some (failureText e)) with pending := none } = p.fallen e := by
    unfold fallen publish state
    split <;> rfl
  simp only [finish, busy, fail, shown]
  rfl

/-! ## The steps of a page are moves -/

/-- A computation that starts changes nothing that is shown. -/
theorem moves_start (p : Page α) (w : Work) : Moves p (p.start w) Post.silent [] :=
  .of_same rfl rfl rfl rfl

/-- A refresh changes the state at most once. -/
theorem moves_refresh (p : Page α) (mode : RefreshMode) :
    ∃ ts, ts.length ≤ 1 ∧ Moves p (p.refresh mode).1 (p.refresh mode).2 ts := by
  cases busy : p.running with
  | some f =>
    rw [refresh_of_running busy]
    exact ⟨[], Nat.zero_le _, .of_same rfl rfl rfl rfl⟩
  | none =>
    by_cases ready : p.state = .ready
    · cases mode with
      | rebuild =>
        rw [refresh_rebuild busy ready]
        have lawful : PageState.updating ∈ p.state.next := by rw [ready]; decide
        have shown := moves_publish (p := p) p.snapshot.data p.snapshot.failure (.inr lawful)
          (.inl rfl)
        refine ⟨p.change .updating ++ [], ?_, ?_⟩
        · simp [change, ready]
        · have whole := shown.trans (moves_start _ (.refresh .rebuild))
          rwa [Post.append_silent] at whole
      | inPlace =>
        rw [refresh_inPlace busy ready]
        exact ⟨[], Nat.zero_le _, moves_start _ _⟩
    · rw [refresh_of_not_ready busy ready]
      exact ⟨[], Nat.zero_le _, .of_same rfl rfl rfl rfl⟩

/-- So does a refresh that follows a computation. -/
theorem moves_followUp (p : Page α) (asked : Option RefreshMode) :
    ∃ ts, ts.length ≤ 1 ∧ Moves p (p.followUp asked).1 (p.followUp asked).2 ts := by
  cases asked with
  | none => exact ⟨[], Nat.zero_le _, .of_same rfl rfl rfl rfl⟩
  | some mode => exact moves_refresh p mode

theorem length_change (p : Page α) (new : PageState) : (p.change new).length ≤ 1 := by
  unfold change
  split <;> simp

/-- The end of a computation changes the state at most twice, provided that the page can
still fail: it has begun to load and has not failed yet. -/
theorem moves_finish {p : Page α} (alive : p.running.isSome → PageState.failed ∈ p.state.next)
    (result : Except PageError (PageData α)) :
    ∃ ts, ts.length ≤ 2 ∧ Moves p (p.finish result).1 (p.finish result).2 ts := by
  cases busy : p.running with
  | none =>
    rw [finish_of_idle busy]
    exact ⟨[], Nat.zero_le _, .of_same rfl rfl rfl rfl⟩
  | some f =>
    have fails : PageState.failed ∈ p.state.next := alive (by rw [busy]; rfl)
    -- the computation is dropped before anything is shown, and that tells nobody
    have dropped : Moves p { p with running := none, pending := none } Post.silent [] :=
      .of_same rfl rfl rfl rfl
    cases result with
    | error e =>
      rw [finish_error busy]
      refine ⟨p.change .failed, Nat.le_succ_of_le (length_change _ _), ?_⟩
      exact dropped.trans (moves_publish _ _ (.inr fails) (.inl rfl))
    | ok data =>
      rw [finish_ok busy]
      obtain ⟨us, hus, follows⟩ := moves_followUp (p.renewed data) p.pending
      -- a state that can fail is ready or may become ready
      have lawful : p.state = .ready ∨ PageState.ready ∈ p.state.next := by
        cases hs : p.state <;> rw [hs] at fails <;> revert fails <;> decide
      have told : p.successPost f.work = p.announce p.state .ready ∨
          p.state = .ready ∧ p.successPost f.work = p.broadcast .dataChanged := by
        unfold successPost
        split
        · rename_i inPlace
          exact .inr ⟨inPlace.2, rfl⟩
        · exact .inl rfl
      have shown := moves_publish (p := { p with running := none, pending := none }) (some data)
        none lawful told
      refine ⟨p.change .ready ++ us, ?_, dropped.trans (shown.trans follows)⟩
      have := length_change p .ready
      rw [List.length_append]
      omega

/-! ## What the page does not touch -/

/-- The page `p'` is `p` still, with the same commands before it, and discarded
only if `p` is. -/
structure Untouched (p p' : Page α) : Prop where
  id : p'.id = p.id
  key : p'.key = p.key
  queue : p'.queue = p.queue
  discarded : p'.discarded = p.discarded

theorem Untouched.refl (p : Page α) : Untouched p p := ⟨rfl, rfl, rfl, rfl⟩

theorem Untouched.trans {p q r : Page α} (first : Untouched p q) (second : Untouched q r) :
    Untouched p r :=
  ⟨second.id.trans first.id, second.key.trans first.key, second.queue.trans first.queue,
    second.discarded.trans first.discarded⟩

theorem untouched_publish (p : Page α) (new : PageState) (data : Option (PageData α))
    (failure : Option String) : Untouched p (p.publish new data failure) := by
  unfold publish
  split <;> exact ⟨rfl, rfl, rfl, rfl⟩

theorem untouched_refresh (p : Page α) (mode : RefreshMode) :
    Untouched p (p.refresh mode).1 := by
  cases busy : p.running with
  | some f =>
    rw [refresh_of_running busy]
    exact ⟨rfl, rfl, rfl, rfl⟩
  | none =>
    by_cases ready : p.state = .ready
    · cases mode with
      | rebuild =>
        rw [refresh_rebuild busy ready]
        exact (untouched_publish p _ _ _).trans ⟨rfl, rfl, rfl, rfl⟩
      | inPlace =>
        rw [refresh_inPlace busy ready]
        exact ⟨rfl, rfl, rfl, rfl⟩
    · rw [refresh_of_not_ready busy ready]
      exact .refl p

/-- The end of a computation takes up no command. -/
theorem untouched_finish (p : Page α) (result : Except PageError (PageData α)) :
    Untouched p (p.finish result).1 := by
  have dropped : Untouched p { p with running := none, pending := none } := ⟨rfl, rfl, rfl, rfl⟩
  cases busy : p.running with
  | none =>
    rw [finish_of_idle busy]
    exact .refl p
  | some f =>
    cases result with
    | error e =>
      rw [finish_error busy]
      exact dropped.trans (untouched_publish _ _ _ _)
    | ok data =>
      rw [finish_ok busy]
      have shown : Untouched p (p.renewed data) := dropped.trans (untouched_publish _ _ _ _)
      cases p.pending with
      | none => exact shown
      | some mode => exact shown.trans (untouched_refresh _ mode)

end Page

end MarketConditions
