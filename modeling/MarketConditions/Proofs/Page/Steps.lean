import MarketConditions.Proofs.Page.Lifecycle

/-!
# Steps of a page that may have to end

A page that is told to end still takes up what was sent before, and only then is it
discarded. Its shutdown is the last command it is ever sent. Here the steps of a page are
described for this part of its life too.

- `Page.Regular`: what holds of a page from its making to long after it was discarded.
- `Page.Turned`, `Page.Regular.turned`: what a step does to the state, to those attached,
  and what it tells: changes of state that all who are attached are told of, a listener
  who joins, or one who leaves.
- `Page.worksTo`, `Page.Regular.works`: the computations that a step starts. None is a load.
- `Page.Recorded`: a list of changes is the whole record of a page.
-/

namespace MarketConditions

variable {α : Type}

/-- Whether a command attaches a listener. -/
def Command.attaches (l : ListenerId) : Command → Bool
  | .attach other _ => other = l
  | _ => false

/-- Whether a command detaches a listener. -/
def Command.detaches (l : ListenerId) : Command → Bool
  | .detach other => other = l
  | _ => false

/-- Whether a command leaves those attached as they are. -/
def Command.isPlain : Command → Bool
  | .attach .. | .detach _ => false
  | .refresh _ | .shutdown => true

theorem Command.attaches_of_isPlain {c : Command} (plain : c.isPlain) (l : ListenerId) :
    c.attaches l = false := by
  cases c <;> first | rfl | cases plain

theorem Command.detaches_of_isPlain {c : Command} (plain : c.isPlain) (l : ListenerId) :
    c.detaches l = false := by
  cases c <;> first | rfl | cases plain

namespace Page

/-! ## Pages of any age -/

/-- A page that may have been told to end, or have ended. -/
structure Regular (p : Page α) : Prop where
  coherent : p.discarded = false → p.Coherent
  ended : p.discarded = true → p.running = none ∧ p.queue = []
  /-- Nothing is sent after a shutdown. -/
  last : Command.shutdown ∉ p.queue.dropLast

theorem kept_create (id : PageId) (key : PageKey) (l : ListenerId) :
    (create id key l : Page α × Post).1.Kept := (Chronicle.faithful_new id key l).kept

theorem regular_create (id : PageId) (key : PageKey) (l : ListenerId) :
    (create id key l : Page α × Post).1.Regular where
  coherent _ := (Chronicle.faithful_new id key l).coherent
  ended ended := nomatch ended
  last := List.not_mem_nil

/-- A page that is kept may be sent anything. -/
theorem Regular.send {p : Page α} (h : p.Regular) (kept : p.Kept) (c : Command) :
    (p.send c).Regular where
  coherent alive := (h.coherent alive).of_same rfl (fun _ => rfl) rfl
  ended ended := by
    have ended : p.discarded = true := ended
    rw [kept.alive] at ended
    cases ended
  last := by
    show Command.shutdown ∉ (p.queue ++ [c]).dropLast
    rw [List.dropLast_concat]
    exact kept.unasked

/-- A page is kept until it is sent a shutdown. -/
theorem kept_send {p : Page α} {c : Command} : (p.send c).Kept ↔ p.Kept ∧ c ≠ .shutdown := by
  constructor
  · intro kept
    refine ⟨⟨kept.alive, fun asked => kept.unasked (List.mem_append_left _ asked)⟩, ?_⟩
    rintro rfl
    exact kept.unasked (List.mem_append_right _ List.mem_cons_self)
  · rintro ⟨kept, other⟩
    exact kept.react (.sent ⟨c, other⟩)

/-- A shutdown that a page takes up was the last command of its queue. -/
theorem Regular.rest_of_shutdown {p : Page α} (h : p.Regular) {rest : List Command}
    (queue : p.queue = .shutdown :: rest) : rest = [] := by
  have last := h.last
  rw [queue] at last
  cases rest with
  | nil => rfl
  | cons c rest => exact absurd List.mem_cons_self last

/-- A page that takes up a command is not discarded. -/
theorem Regular.alive_of_queue {p : Page α} (h : p.Regular) {c : Command} {rest : List Command}
    (queue : p.queue = c :: rest) : p.discarded = false := by
  cases discarded : p.discarded with
  | false => rfl
  | true =>
    rw [(h.ended discarded).2] at queue
    cases queue

/-- A page in which something is in flight is not discarded. -/
theorem Regular.alive_of_busy {p : Page α} (h : p.Regular) {f : Flight}
    (busy : p.running = some f) : p.discarded = false := by
  cases discarded : p.discarded with
  | false => rfl
  | true =>
    rw [(h.ended discarded).1] at busy
    cases busy

/-- The page takes up its shutdown. -/
def quits (p : Page α) : Event α → Prop
  | .takenUp => p.queue = [.shutdown]
  | _ => False

/-- What a page does that takes up its shutdown. -/
theorem Regular.react_of_quits {p : Page α} (h : p.Regular) {e : Event α} (quits : p.quits e) :
    p.react e = ({ p with queue := [] }.shutdown, Post.silent) := by
  cases e with
  | sent c => cases quits
  | ended result => cases quits
  | takenUp => exact handleNext_of_alive (h.alive_of_queue quits) quits

/-- Every event but the shutdown does one of the six things that can happen to a
coherent page. -/
theorem Regular.outcome {p : Page α} (h : p.Regular) {e : Event α} (stays : ¬ p.quits e) :
    Outcome p e (p.react e).1 := by
  cases e with
  | sent c => exact .undisturbed rfl (.inl rfl) rfl rfl rfl rfl
  | ended result => exact outcome_finish p result
  | takenUp =>
    show Outcome p .takenUp p.handleNext.1
    cases queue : p.queue with
    | nil =>
      rw [handleNext_of_nil queue]
      exact .undisturbed rfl (.inl (by simp [refreshTakenUp, queue])) rfl rfl rfl rfl
    | cons c rest =>
      have alive := h.alive_of_queue queue
      refine outcome_handleNext (h.coherent alive) alive queue ?_
      rintro rfl
      rw [h.rest_of_shutdown queue] at queue
      exact stays queue

/-! ## What a step leaves -/

/-- A page stays the page that it is, and the page of its key. -/
theorem identity_react (p : Page α) (e : Event α) :
    (p.react e).1.id = p.id ∧ (p.react e).1.key = p.key := by
  cases e with
  | sent c => exact ⟨rfl, rfl⟩
  | ended result => exact ⟨(untouched_finish p result).id, (untouched_finish p result).key⟩
  | takenUp =>
    show p.handleNext.1.id = p.id ∧ p.handleNext.1.key = p.key
    unfold handleNext
    split
    · exact ⟨rfl, rfl⟩
    · rename_i c rest queue
      unfold handle
      split
      · exact ⟨rfl, rfl⟩
      · cases c with
        | attach | detach | shutdown => exact ⟨rfl, rfl⟩
        | refresh mode =>
          have untouched := untouched_refresh { p with queue := rest } mode
          exact ⟨untouched.id, untouched.key⟩

/-- What a page is left with after a step: the rest of its commands, or all of them. -/
theorem Regular.queue_react {p : Page α} (h : p.Regular) (e : Event α) :
    (p.react e).1.queue = match e with
      | .sent c => p.queue ++ [c.1]
      | .takenUp => p.queue.tail
      | .ended _ => p.queue := by
  cases e with
  | sent c => rfl
  | ended result => exact (untouched_finish p result).queue
  | takenUp =>
    show p.handleNext.1.queue = p.queue.tail
    cases queue : p.queue with
    | nil =>
      rw [handleNext_of_nil queue]
      exact queue
    | cons c rest =>
      rw [handleNext_of_alive (h.alive_of_queue queue) queue]
      cases c with
      | attach | detach | shutdown => rfl
      | refresh mode => exact (untouched_refresh { p with queue := rest } mode).queue

/-- A page is discarded by its shutdown alone. -/
theorem Regular.discarded_react {p : Page α} (h : p.Regular) {e : Event α} (stays : ¬ p.quits e) :
    (p.react e).1.discarded = p.discarded := by
  cases e with
  | sent c => rfl
  | ended result => exact (untouched_finish p result).discarded
  | takenUp =>
    show p.handleNext.1.discarded = p.discarded
    cases queue : p.queue with
    | nil => rw [handleNext_of_nil queue]
    | cons c rest =>
      rw [handleNext_of_alive (h.alive_of_queue queue) queue]
      cases c with
      | attach | detach => rfl
      | refresh mode => exact (untouched_refresh { p with queue := rest } mode).discarded
      | shutdown =>
        rw [h.rest_of_shutdown queue] at queue
        exact absurd queue stays

/-- What a page does of its own accord: it takes up a command, or its computation ends. -/
def Event.Own : Event α → Prop
  | .sent _ => False
  | _ => True

/-- A page stays regular, whatever it does. -/
theorem Regular.react {p : Page α} (h : p.Regular) {e : Event α} (own : e.Own) :
    (p.react e).1.Regular := by
  by_cases quits : p.quits e
  · rw [h.react_of_quits quits]
    exact ⟨fun alive => (nomatch alive), fun _ => ⟨rfl, rfl⟩, List.not_mem_nil⟩
  · have queue := h.queue_react e
    have discarded := h.discarded_react quits
    constructor
    · intro alive
      rw [discarded] at alive
      exact (h.outcome quits).coherent (h.coherent alive)
    · intro ended
      rw [discarded] at ended
      obtain ⟨idle, empty⟩ := h.ended ended
      cases e with
      | sent c => cases own
      | takenUp =>
        show p.handleNext.1.running = none ∧ p.handleNext.1.queue = []
        rw [handleNext_of_nil empty]
        exact ⟨idle, empty⟩
      | ended result =>
        show (p.finish result).1.running = none ∧ (p.finish result).1.queue = []
        rw [finish_of_idle idle]
        exact ⟨idle, empty⟩
    · rw [queue]
      cases e with
      | sent c => cases own
      | takenUp =>
        intro later
        rw [← List.tail_dropLast] at later
        exact h.last (List.mem_of_mem_tail later)
      | ended result => exact h.last

/-- Whatever it does, a page is kept if and only if it was. -/
theorem Regular.kept_react {p : Page α} (h : p.Regular) {e : Event α} (own : e.Own) :
    (p.react e).1.Kept ↔ p.Kept := by
  refine ⟨fun kept => ?_, fun kept => kept.react e⟩
  by_cases quits : p.quits e
  · have ended := kept.alive
    rw [h.react_of_quits quits] at ended
    cases ended
  · refine ⟨(h.discarded_react quits).symm.trans kept.alive, fun asked => kept.unasked ?_⟩
    rw [h.queue_react e]
    cases e with
    | sent c => cases own
    | ended result => exact asked
    | takenUp =>
      -- a shutdown at the head of the queue would have been taken up
      show Command.shutdown ∈ p.queue.tail
      cases queue : p.queue with
      | nil =>
        rw [queue] at asked
        cases asked
      | cons c rest =>
        rw [queue] at asked
        rcases List.mem_cons.mp asked with rfl | later
        · rw [h.rest_of_shutdown queue] at queue
          exact absurd queue quits
        · exact later

/-! ## What a step does and tells -/

/-- What a step of a page does to the state and to those attached, and what it tells. -/
inductive Turned (p p' : Page α) (post : Post) (ts : List Transition) : Prop where
  /-- The state changes, if at all, and everyone attached is told. The command that was
  taken up, if any, was about neither joining nor leaving. -/
  | moved (passed : List Command) (plain : ∀ c ∈ passed, c.isPlain)
      (queue : p.queue = passed ++ p'.queue) (short : ts.length ≤ 2) (moves : Moves p p' post ts)
  /-- A listener joins, and is told what it has missed. -/
  | joined (l : ListenerId) (seen : Nat) (rest : List Command)
      (queue : p.queue = .attach l seen :: rest)
      (page : (p', post) = { p with queue := rest }.attach l seen) (unmoved : ts = [])
  /-- A listener leaves. -/
  | left (l : ListenerId) (rest : List Command) (queue : p.queue = .detach l :: rest)
      (page : p' = { p with queue := rest }.detach l) (silent : post = Post.silent)
      (unmoved : ts = [])

/-- Every step of a page is one of these three. -/
theorem Regular.turned {p : Page α} (h : p.Regular) {e : Event α} (own : e.Own) :
    ∃ ts, Turned p (p.react e).1 (p.react e).2 ts := by
  cases e with
  | sent c => cases own
  | ended result =>
    have alive : p.running.isSome → PageState.failed ∈ p.state.next := by
      intro busy
      obtain ⟨f, hf⟩ := Option.isSome_iff_exists.mp busy
      exact (h.coherent (h.alive_of_busy hf)).can_fail busy
    obtain ⟨ts, short, moves⟩ := moves_finish alive result
    exact ⟨ts, .moved [] nofun (untouched_finish p result).queue.symm short moves⟩
  | takenUp =>
    show ∃ ts, Turned p p.handleNext.1 p.handleNext.2 ts
    cases queue : p.queue with
    | nil =>
      rw [handleNext_of_nil queue]
      exact ⟨[], .moved [] nofun rfl (Nat.zero_le _) (.of_same rfl rfl rfl rfl)⟩
    | cons c rest =>
      rw [handleNext_of_alive (h.alive_of_queue queue) queue]
      have alone : ∀ {c : Command}, c.isPlain → ∀ other ∈ [c], other.isPlain := by
        intro c plain other hother
        rwa [List.mem_singleton.mp hother]
      cases c with
      | attach l seen => exact ⟨[], .joined l seen rest queue rfl rfl⟩
      | detach l => exact ⟨[], .left l rest queue rfl rfl rfl⟩
      | shutdown =>
        exact ⟨[], .moved [.shutdown] (alone rfl) queue (Nat.zero_le _) (.of_same rfl rfl rfl rfl)⟩
      | refresh mode =>
        obtain ⟨ts, short, moves⟩ := moves_refresh { p with queue := rest } mode
        have rest_left := (untouched_refresh { p with queue := rest } mode).queue
        have passed := queue.trans (congrArg (.refresh mode :: ·) rest_left.symm)
        -- a move does not look at the queue
        exact ⟨ts, .moved [.refresh mode] (alone rfl) passed (Nat.le_succ_of_le short)
          ⟨moves.walk, moves.numbered, moves.revision, moves.history, moves.attached, moves.told⟩⟩

/-- A walk that begins at a failure has no step. -/
theorem walk_of_failed {s : PageState} {ts : List Transition} (walk : Walk .failed ts s) :
    s = .failed := by
  cases ts with
  | nil => exact walk.symm
  | cons t ts => exact absurd walk.2.1 List.not_mem_nil

/-- A page that has failed stays failed. -/
theorem Regular.failed_stays {p : Page α} (h : p.Regular) {e : Event α} (own : e.Own)
    (failed : p.state = .failed) : (p.react e).1.state = .failed := by
  obtain ⟨ts, turned⟩ := h.turned own
  cases turned with
  | moved _ _ _ _ moves =>
    have walk := moves.walk
    rw [failed] at walk
    exact walk_of_failed walk
  | joined _ _ _ _ page =>
    rw [(Prod.mk.inj page).1]
    exact failed
  | left _ _ _ page =>
    rw [page]
    exact failed

/-! ## The computations that a step starts -/

/-- What the computation is for that was started between a page and what became of it. -/
def worksTo (p after : Page α) : List Work :=
  if after.started = p.started then [] else (after.running.map Flight.work).toList

/-- A step starts at most one computation, and that is a refresh. -/
theorem Regular.works {p : Page α} (h : p.Regular) (e : Event α) :
    ∃ modes : List RefreshMode, p.worksTo (p.react e).1 = modes.map Work.refresh ∧
      (p.react e).1.started = p.started + modes.length := by
  have none_started : (p.react e).1.started = p.started →
      ∃ modes : List RefreshMode, p.worksTo (p.react e).1 = modes.map Work.refresh ∧
        (p.react e).1.started = p.started + modes.length :=
    fun started => ⟨[], if_pos started, started⟩
  have one_started : ∀ {mode data}, Begins p mode data (p.react e).1 →
      ∃ modes : List RefreshMode, p.worksTo (p.react e).1 = modes.map Work.refresh ∧
        (p.react e).1.started = p.started + modes.length := by
    intro mode data begins
    refine ⟨[mode], ?_, begins.started⟩
    unfold worksTo
    rw [if_neg (by rw [begins.started]; omega), begins.running]
    rfl
  by_cases quits : p.quits e
  · rw [h.react_of_quits quits] at none_started ⊢
    exact none_started rfl
  · cases h.outcome quits with
    | undisturbed _ _ _ started => exact none_started started
    | joined _ _ _ _ _ started => exact none_started started
    | begun _ _ _ _ _ begins => exact one_started begins
    | renewed _ _ _ _ _ _ started => exact none_started started
    | followed _ _ _ _ _ _ begins => exact one_started begins
    | fell _ _ _ _ _ started => exact none_started started

/-! ## The record of changes -/

/-- The list holds every change of state since the page was made. -/
structure Recorded (p : Page α) (changes : List Transition) : Prop where
  walk : Walk .empty changes p.state
  numbered : changes.map Transition.revision = List.range' 1 changes.length
  revision : p.snapshot.revision = changes.length
  history : p.history = latest changes

/-- A new page has gone over to loading. -/
theorem recorded_create (id : PageId) (key : PageKey) (l : ListenerId) :
    Recorded (create id key l : Page α × Post).1 [⟨1, .empty, .loading⟩] where
  walk := ⟨rfl, List.mem_cons_self, rfl⟩
  numbered := rfl
  revision := rfl
  history := rfl

/-- The record of a page that shows the same is the same. -/
theorem Recorded.of_same {p p' : Page α} {changes : List Transition} (h : Recorded p changes)
    (snapshot : p'.snapshot = p.snapshot) (history : p'.history = p.history) :
    Recorded p' changes := by
  have state : p'.state = p.state := congrArg Snapshot.state snapshot
  constructor
  · rw [state]
    exact h.walk
  · exact h.numbered
  · rw [snapshot]
    exact h.revision
  · rw [history]
    exact h.history

/-- Nothing changes on a page that shows the same. -/
theorem Recorded.changesTo_of_same {p p' : Page α} {changes : List Transition}
    (h : Recorded p changes) (history : p'.history = p.history) : p.changesTo p' = [] := by
  unfold changesTo
  rw [history, h.history, h.revision]
  have short : ([] : List Transition).length ≤ historyLength := Nat.zero_le _
  have none_later := filter_latest short h.numbered rfl
  rwa [List.append_nil] at none_later

/-- Moves are recorded whole. -/
theorem Recorded.moves {p p' : Page α} {post : Post} {changes ts : List Transition}
    (h : Recorded p changes) (short : ts.length ≤ 2) (moves : Moves p p' post ts) :
    Recorded p' (changes ++ ts) ∧ p.changesTo p' = ts := by
  have numbered := moves.numbered
  rw [h.revision] at numbered
  constructor
  · constructor
    · exact h.walk.append moves.walk
    · rw [List.map_append, h.numbered, numbered, List.length_append,
        Nat.add_comm changes.length 1, List.range'_append_1]
    · rw [moves.revision, h.revision, List.length_append]
    · rw [moves.history, h.history, foldl_remember]
  · unfold changesTo
    rw [moves.history, h.history, foldl_remember, h.revision]
    exact filter_latest (Nat.le_trans short (by decide)) h.numbered numbered

/-- Every step is recorded whole. -/
theorem Recorded.turned {p p' : Page α} {post : Post} {changes ts : List Transition}
    (h : Recorded p changes) (turned : Turned p p' post ts) :
    Recorded p' (changes ++ ts) ∧ p.changesTo p' = ts := by
  cases turned with
  | moved _ _ _ short moves => exact h.moves short moves
  | joined l seen rest _ page unmoved =>
    subst unmoved
    rw [(Prod.mk.inj page).1, List.append_nil]
    exact ⟨h.of_same rfl rfl, h.changesTo_of_same rfl⟩
  | left l rest _ page _ unmoved =>
    subst unmoved
    rw [page, List.append_nil]
    exact ⟨h.of_same rfl rfl, h.changesTo_of_same rfl⟩

end Page

end MarketConditions
