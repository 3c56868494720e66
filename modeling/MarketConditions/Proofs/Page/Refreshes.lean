import MarketConditions.Proofs.Page.Lifecycle

/-!
# No refresh is lost

A refresh that is taken up while a computation is in flight is put off, and all that are
put off become one. Here it is shown that this one follows, in the mode that was asked
for, so that a page at rest shows data that were computed after the last refresh.

- `RefreshMode.together`: the one refresh in place of many.
- `Chronicle.Since`: a computation was started no earlier than the last refresh was taken
  up.
- `Chronicle.Served`: the invariant. The follow-up of the page is the one that the record
  calls for; what is in flight, when nothing was put off, is recent enough, and so is what
  is on show at rest.
- `Chronicle.no_refresh_lost`: **no refresh is lost**, along any run.
-/

namespace MarketConditions

variable {α : Type}

/-! ## Many refreshes become one -/

/-- One refresh in place of many: none for none, and a rebuild if any is one. -/
def RefreshMode.together (modes : List RefreshMode) : Option RefreshMode :=
  if modes = [] then none else if .rebuild ∈ modes then some .rebuild else some .inPlace

/-- One more refresh is merged into the one there is. -/
theorem RefreshMode.together_concat (modes : List RefreshMode) (mode : RefreshMode) :
    together (modes ++ [mode]) = some (((together modes).map (·.merge mode)).getD mode) := by
  have some_mode : modes ++ [mode] ≠ [] :=
    List.append_ne_nil_of_right_ne_nil _ (List.cons_ne_nil _ _)
  unfold together
  rw [if_neg some_mode]
  by_cases none_yet : modes = []
  · subst none_yet
    cases mode <;> rfl
  · rw [if_neg none_yet]
    by_cases rebuild : .rebuild ∈ modes
    · rw [if_pos rebuild, if_pos (List.mem_append_left _ rebuild)]
      cases mode <;> rfl
    · rw [if_neg rebuild]
      cases mode with
      | rebuild =>
        rw [if_pos (List.mem_append_right _ (List.mem_singleton.mpr rfl))]
        rfl
      | inPlace =>
        have neither : ¬ .rebuild ∈ modes ++ [.inPlace] := by
          rw [List.mem_append, List.mem_singleton]
          rintro (old | new)
          · exact rebuild old
          · cases new
        rw [if_neg neither]
        rfl

example : RefreshMode.together [.inPlace, .rebuild, .inPlace] = some .rebuild := by decide

theorem RefreshMode.together_eq_none {modes : List RefreshMode} :
    together modes = none ↔ modes = [] := by
  unfold together
  constructor
  · intro none
    split at none
    · assumption
    · split at none <;> cases none
  · intro empty
    rw [if_pos empty]

namespace Chronicle

/-! ## The invariant -/

/-- The computation `n` was started, and no earlier than the last refresh was taken up. -/
def Since (r : Chronicle α) (n : Nat) : Prop :=
  ∃ moment, r.starts[n]? = some moment ∧ ∀ asked, r.asked = some asked → asked ≤ moment

/-- Every refresh that was taken up is either answered or will be. -/
structure Served (r : Chronicle α) : Prop where
  counted : r.starts.length = r.page.started
  pending : r.page.pending = RefreshMode.together r.waiting
  past : ∀ asked, r.asked = some asked → asked < r.now
  inFlight : ∀ f, r.page.running = some f → r.waiting = [] → r.Since f.number
  atRest : r.page.running = none → r.page.state = .ready →
    ∃ n data, r.page.snapshot.data = some data ∧ r.delivered = some (n, data) ∧ r.Since n

/-- The first computation of a page comes before any refresh. -/
theorem served_new (id : PageId) (key : PageKey) (l : ListenerId) :
    Served (new id key l : Chronicle α) where
  counted := rfl
  pending := rfl
  past := fun _ hasked => nomatch hasked
  inFlight := fun f hf _ => by
    cases hf
    exact ⟨0, rfl, fun _ hasked => nomatch hasked⟩
  atRest := fun idle => nomatch idle

/-- A computation that is started now comes after every refresh that was taken up. -/
theorem Served.since_now {r r' : Chronicle α} (h : r.Served)
    (starts : r'.starts = r.starts ++ [r.now])
    (asked : ∀ moment, r'.asked = some moment → moment = r.now ∨ r.asked = some moment) :
    r'.Since r.page.started := by
  refine ⟨r.now, ?_, fun moment hm => ?_⟩
  · rw [starts, ← h.counted, List.getElem?_concat_length]
  · rcases asked moment hm with rfl | before
    · exact Nat.le_refl _
    · exact Nat.le_of_lt (h.past moment before)

theorem Since.of_same {r r' : Chronicle α} {n : Nat} (since : r.Since n)
    (starts : r'.starts = r.starts) (asked : r'.asked = r.asked) : r'.Since n := by
  unfold Since
  rw [starts, asked]
  exact since

/-! ## What an event adds to the record -/

/-- No computation was started. -/
theorem starts_record_same {r : Chronicle α} {e : Page.Event α}
    (started : (r.page.react e).1.started = r.page.started) : (r.record e).starts = r.starts := by
  show r.starts ++ List.replicate ((r.page.react e).1.started - r.page.started) r.now = r.starts
  rw [started, Nat.sub_self]
  exact List.append_nil _

/-- One computation was started. -/
theorem starts_record_succ {r : Chronicle α} {e : Page.Event α}
    (started : (r.page.react e).1.started = r.page.started + 1) :
    (r.record e).starts = r.starts ++ [r.now] := by
  show r.starts ++ List.replicate ((r.page.react e).1.started - r.page.started) r.now = _
  rw [started, Nat.add_sub_cancel_left]
  rfl

/-- No refresh was taken up. -/
theorem asked_record_same {r : Chronicle α} {e : Page.Event α}
    (asks : r.page.refreshTakenUp e = none) : (r.record e).asked = r.asked := by
  show ((r.page.refreshTakenUp e).map fun _ => r.now).or r.asked = r.asked
  rw [asks]
  rfl

/-- A refresh is taken up now or was taken up before. -/
theorem asked_record (r : Chronicle α) (e : Page.Event α) {moment : Nat}
    (asked : (r.record e).asked = some moment) : moment = r.now ∨ r.asked = some moment := by
  have asked : ((r.page.refreshTakenUp e).map fun _ => r.now).or r.asked = some moment := asked
  cases asks : r.page.refreshTakenUp e with
  | none =>
    rw [asks] at asked
    exact .inr asked
  | some mode =>
    rw [asks] at asked
    cases asked
    exact .inl rfl

/-- No refresh was put off, and none was answered. -/
theorem waiting_record_same {r : Chronicle α} {e : Page.Event α} (ends : r.page.ending e = none)
    (asks : r.page.refreshTakenUp e = none ∨ r.page.running = none) :
    (r.record e).waiting = r.waiting := by
  show (if (r.page.ending e).isSome then [] else if r.page.running.isSome then
    r.waiting ++ (r.page.refreshTakenUp e).toList else r.waiting) = r.waiting
  rw [ends]
  rcases asks with asks | idle
  · rw [asks]
    cases r.page.running with
    | none => rfl
    | some f => exact List.append_nil _
  · rw [idle]
    rfl

/-- A refresh was put off. -/
theorem waiting_record_joined {r : Chronicle α} {e : Page.Event α} {mode : RefreshMode}
    (ends : r.page.ending e = none) (asks : r.page.refreshTakenUp e = some mode)
    (busy : r.page.running.isSome) : (r.record e).waiting = r.waiting ++ [mode] := by
  show (if (r.page.ending e).isSome then [] else if r.page.running.isSome then
    r.waiting ++ (r.page.refreshTakenUp e).toList else r.waiting) = r.waiting ++ [mode]
  rw [ends, asks, if_pos busy]
  rfl

/-- With the end of a computation those that were put off are answered. -/
theorem waiting_record_ended {r : Chronicle α} {e : Page.Event α}
    (ends : (r.page.ending e).isSome) : (r.record e).waiting = [] := if_pos ends

/-- A moment at which a refresh was taken up is past once the event is over. -/
theorem Served.past_record {r : Chronicle α} (h : r.Served) (e : Page.Event α) (moment : Nat)
    (asked : (r.record e).asked = some moment) : moment < (r.record e).now := by
  rcases asked_record r e asked with rfl | before
  · exact Nat.lt_succ_self _
  · exact Nat.lt_succ_of_lt (h.past moment before)

/-! ## The invariant is kept -/

/-- A refresh that has just begun answers all that were taken up. -/
theorem Served.begins {r : Chronicle α} (h : r.Served) {e : Page.Event α} {mode : RefreshMode}
    {data : Option (PageData α)} (begins : Page.Begins r.page mode data (r.page.react e).1)
    (answered : (r.record e).waiting = []) : (r.record e).Served where
  counted := by
    rw [starts_record_succ begins.started, List.length_append, h.counted]
    exact begins.started.symm
  pending := by
    rw [answered]
    exact begins.pending
  past := h.past_record e
  inFlight := fun f hf _ => by
    have hf : (r.page.react e).1.running = some f := hf
    rw [begins.running] at hf
    cases hf
    exact h.since_now (starts_record_succ begins.started) fun moment => asked_record r e
  atRest := fun idle => by
    have idle : (r.page.react e).1.running = none := idle
    rw [begins.running] at idle
    cases idle

/-- Whatever happens, every refresh that was taken up is still answered or will be. -/
theorem served_record {r : Chronicle α} (faithful : r.Faithful) (h : r.Served)
    (e : Page.Event α) : (r.record e).Served := by
  cases Page.react_outcome faithful.kept faithful.coherent e with
  | undisturbed ends asks running started pending snapshot =>
    have starts := starts_record_same started
    have waiting := waiting_record_same ends (asks.imp_right And.left)
    have state : (r.record e).page.state = r.page.state := congrArg Snapshot.state snapshot
    constructor
    · rw [starts, h.counted]
      exact started.symm
    · rw [waiting, ← h.pending]
      exact pending
    · exact h.past_record e
    · -- a refresh may have been taken up and dropped, but only with nothing in flight
      intro f hf alone
      have hf : r.page.running = some f := running.symm.trans hf
      rcases asks with asks | ⟨idle, -⟩
      · exact (h.inFlight f hf (waiting.symm.trans alone)).of_same starts (asked_record_same asks)
      · rw [idle] at hf
        cases hf
    · intro idle ready
      rcases asks with asks | ⟨-, other⟩
      · obtain ⟨n, data, shown, delivered, since⟩ :=
          h.atRest (running.symm.trans idle) (state.symm.trans ready)
        refine ⟨n, data, (congrArg Snapshot.data snapshot).trans shown, ?_,
          since.of_same starts (asked_record_same asks)⟩
        show (r.page.dataBrought e).or r.delivered = _
        rw [Page.dataBrought_of_idle (running.symm.trans idle), delivered]
        rfl
      · exact absurd (state.symm.trans ready) other
  | joined mode ends asks busy running started pending =>
    have starts := starts_record_same started
    have waiting := waiting_record_joined ends asks busy
    constructor
    · rw [starts, h.counted]
      exact started.symm
    · rw [waiting, RefreshMode.together_concat, ← h.pending]
      exact pending
    · exact h.past_record e
    · -- what is in flight may be too old now, and is not claimed to be recent while any waits
      intro f _ alone
      rw [waiting] at alone
      exact absurd alone (List.append_ne_nil_of_right_ne_nil _ (List.cons_ne_nil _ _))
    · intro idle
      have idle : r.page.running = none := running.symm.trans idle
      rw [idle] at busy
      cases busy
  | begun mode ends asks idle ready begins =>
    -- nothing waited, as nothing was in flight
    have alone : r.page.pending = none := (faithful.coherent.idle idle).2
    refine h.begins begins ((waiting_record_same ends (.inr idle)).trans ?_)
    rw [h.pending] at alone
    exact RefreshMode.together_eq_none.mp alone
  | renewed f data event busy alone running started pending state shown =>
    subst event
    have ends : (r.page.ending (.ended (.ok data))).isSome := by
      rw [Page.ending_of_busy busy]
      rfl
    have starts := starts_record_same started
    constructor
    · rw [starts, h.counted]
      exact started.symm
    · rw [waiting_record_ended ends]
      exact pending
    · exact h.past_record _
    · intro g hg
      have hg : (r.page.react (.ended (.ok data))).1.running = some g := hg
      rw [running] at hg
      cases hg
    · -- nothing was put off, so what has just ended was started after the last refresh
      intro _ _
      have nothing : r.waiting = [] := RefreshMode.together_eq_none.mp (h.pending ▸ alone)
      refine ⟨f.number, data, shown, ?_, (h.inFlight f busy nothing).of_same starts rfl⟩
      show (r.page.running.map fun f => (f.number, data)).or r.delivered = _
      rw [busy]
      rfl
  | followed f data mode event busy _ begins =>
    subst event
    refine h.begins begins (waiting_record_ended ?_)
    rw [Page.ending_of_busy busy]
    rfl
  | fell f cause event busy running started pending state =>
    subst event
    have ends : (r.page.ending (.ended (.error cause))).isSome := by
      rw [Page.ending_of_busy busy]
      rfl
    constructor
    · rw [starts_record_same started, h.counted]
      exact started.symm
    · rw [waiting_record_ended ends]
      exact pending
    · exact h.past_record _
    · intro g hg
      have hg : (r.page.react (.ended (.error cause))).1.running = some g := hg
      rw [running] at hg
      cases hg
    · intro _ ready
      have failed : (r.record (.ended (.error cause))).page.state = .failed := state
      rw [failed] at ready
      cases ready

/-- Along every run, every refresh that was taken up is answered or will be. -/
theorem served_run {r : Chronicle α} (faithful : r.Faithful) (h : r.Served)
    (events : List (Page.Event α)) : (r.run events).Served := by
  have step : ∀ (r : Chronicle α) (e : Page.Event α),
      r.Faithful ∧ r.Served → (r.record e).Faithful ∧ (r.record e).Served :=
    fun r e ⟨faithful, h⟩ => ⟨faithful_record faithful e, served_record faithful h e⟩
  exact (run_induction ⟨faithful, h⟩ step events).2

/-! ## What follows a computation -/

/-- When a computation brings data, the one refresh in place of those that were put off
begins, and a rebuild goes through updating. Nothing begins when none was put off. -/
theorem Served.follows {r : Chronicle α} (faithful : r.Faithful) (h : r.Served) {f : Flight}
    (busy : r.page.running = some f) (data : PageData α) :
    let r' := r.record (.ended (.ok data))
    match RefreshMode.together r.waiting with
    | none => r'.page.running = none ∧ r'.page.state = .ready
    | some mode =>
      r'.page.running = some ⟨.refresh mode, r.page.started⟩ ∧ r'.page.state = mode.state ∧
      (mode = .rebuild → ∃ ts, r'.changes = r.changes ++ ts ∧
        ∃ t ∈ ts, t.old = .ready ∧ t.new = .updating) := by
  intro r'
  rw [← h.pending]
  cases Page.react_outcome faithful.kept faithful.coherent (.ended (.ok data)) with
  | undisturbed ends =>
    have ends : r.page.running = none := ends
    rw [busy] at ends
    cases ends
  | joined _ _ asks => cases asks
  | begun _ _ asks => cases asks
  | renewed _ _ _ _ alone running _ _ state =>
    rw [alone]
    exact ⟨running, state⟩
  | followed _ _ mode _ _ asked begins =>
    rw [asked]
    exact ⟨begins.running, begins.state, fun rebuild => ⟨_, rfl, begins.through rebuild⟩⟩
  | fell _ _ event => cases event

/-- **No refresh is lost.** However commands and the ends of computations are ordered:
when the page is ready with nothing in flight, the data on show come from a computation
that was started no earlier than the moment the last refresh was taken up, whatever still
waits in the queue. And when a computation brings data, the refreshes put off meanwhile
are answered by one that begins at once, as a rebuild through updating if one of them was
a rebuild and in place otherwise. -/
theorem no_refresh_lost (id : PageId) (key : PageKey) (l : ListenerId)
    (events : List (Page.Event α)) :
    let r : Chronicle α := (new id key l).run events
    (r.page.running = none → r.page.state = .ready →
      ∃ n data, r.page.snapshot.data = some data ∧ r.delivered = some (n, data) ∧
        ∃ moment, r.starts[n]? = some moment ∧ ∀ asked, r.asked = some asked → asked ≤ moment) ∧
    ∀ f data, r.page.running = some f →
      let r' := r.record (.ended (.ok data))
      (r.waiting = [] → r'.page.running = none ∧ r'.page.state = .ready) ∧
      (.rebuild ∈ r.waiting →
        r'.page.running = some ⟨.refresh .rebuild, r.page.started⟩ ∧ r'.page.state = .updating ∧
        ∃ ts, r'.changes = r.changes ++ ts ∧ ∃ t ∈ ts, t.old = .ready ∧ t.new = .updating) ∧
      (r.waiting ≠ [] → .rebuild ∉ r.waiting →
        r'.page.running = some ⟨.refresh .inPlace, r.page.started⟩ ∧
        r'.page.state = .ready) := by
  intro r
  have faithful : r.Faithful := faithful_run (faithful_new id key l) events
  have h : r.Served := served_run (faithful_new id key l) (served_new id key l) events
  refine ⟨h.atRest, fun f data busy => ?_⟩
  have follows := h.follows faithful busy data
  refine ⟨fun alone => ?_, fun rebuild => ?_, fun some_mode inPlace => ?_⟩
  · have none : RefreshMode.together r.waiting = none := RefreshMode.together_eq_none.mpr alone
    rw [none] at follows
    exact follows
  · have mode : RefreshMode.together r.waiting = some .rebuild := by
      unfold RefreshMode.together
      rw [if_neg (List.ne_nil_of_mem rebuild), if_pos rebuild]
    rw [mode] at follows
    exact ⟨follows.1, follows.2.1, follows.2.2 rfl⟩
  · have mode : RefreshMode.together r.waiting = some .inPlace := by
      unfold RefreshMode.together
      rw [if_neg some_mode, if_neg inPlace]
    rw [mode] at follows
    exact ⟨follows.1, follows.2.1⟩

end Chronicle

end MarketConditions
