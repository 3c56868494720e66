import MarketConditions.Proofs.Page.Hearing

/-!
# Which changes a page tells whom

A notice does not say which change it is of. What a page tells a listener is here read as
the changes themselves, with their numbers, so that one can ask how often a listener is
told of the same change, and whether of one that it had seen before. Changed data are told
to those who are attached and to no others, as they have no number and are not replayed.

- `Page.toldTo`: the changes a listener is told of between a page and what became of it, and
  `Page.Turned.told`: they are the notices it gets.
- `Page.renewsInPlace`, `Page.Regular.data_told`: who is told of changed data, and when.
- `Page.standing`: how often a listener is attached once the queue has been taken up.
  Taking it up does not change this (`Turned.standing`).
- `Page.owed`: how many requests of a listener wait that will have a change told to it.
  `Page.Recorded.told_le`: a step tells it of a change once for being attached when it
  takes place, and once for a request that is owed it.
-/

namespace MarketConditions

variable {α : Type}

namespace Page

/-! ## Changes that are told -/

/-- The changes that are replayed for a listener whose request was taken up between a page
and what became of it. -/
def replayed (p after : Page α) (l : ListenerId) : List Transition :=
  match p.queue with
  | .attach m seen :: _ =>
    if m = l ∧ p.attached.count l < after.attached.count l then
      p.history.filter fun t => seen < t.revision
    else []
  | _ => []

/-- The changes that a listener is told of between a page and what became of it: those
that are replayed for it, or those that take place while it is attached. -/
def toldTo (p after : Page α) (l : ListenerId) : List Transition :=
  p.replayed after l ++ if l ∈ p.attached then p.changesTo after else []

/-- Nothing is replayed for a listener that is attached as often as before. -/
theorem replayed_of_count {p after : Page α} {l : ListenerId}
    (same : after.attached.count l ≤ p.attached.count l) : p.replayed after l = [] := by
  unfold replayed
  split
  · exact if_neg fun more => Nat.not_lt_of_le same more.2
  · rfl

/-- What is replayed for a listener whose request is taken up. -/
theorem replayed_joined {p after : Page α} {m : ListenerId} {seen : Nat} {rest : List Command}
    (queue : p.queue = .attach m seen :: rest) (joined : after.attached = p.attached ++ [m])
    (l : ListenerId) :
    p.replayed after l = if l = m then p.history.filter fun t => seen < t.revision else [] := by
  unfold replayed
  rw [queue, joined]
  show (if m = l ∧ p.attached.count l < (p.attached ++ [m]).count l then _ else []) = _
  rw [List.count_append, List.count_singleton]
  by_cases same : l = m
  · subst same
    simp
  · rw [if_neg same, if_neg fun both => same both.1.symm]

/-- **What is told is of the changes.** The notices of changes that a step tells a
listener are those of the changes that it is told of. -/
theorem Turned.told {p p' : Page α} {post : Post} {ts changes : List Transition}
    (turned : Turned p p' post ts) (recorded : Recorded p changes) (l : ListenerId) :
    (post l).filter (!·.isData) = (p.toldTo p' l).map Transition.notice := by
  have later := (recorded.turned turned).2
  unfold toldTo
  rw [later]
  cases turned with
  | moved passed plain queue short moves =>
    obtain ⟨ns, states, goes⟩ := moves.told
    rw [replayed_of_count (Nat.le_of_eq (congrArg (List.count l) moves.attached)), goes,
      List.nil_append]
    split
    · exact states
    · rfl
  | joined m seen rest queue page unmoved =>
    obtain ⟨becomes, rfl⟩ := Prod.mk.inj page
    have joined : p'.attached = p.attached ++ [m] := by
      rw [becomes]
    rw [unmoved, ite_self, List.append_nil, replayed_joined queue joined]
    show (if l = m then (p.history.filter fun t => seen < t.revision).map Transition.notice
      else []).filter _ = _
    split
    · rw [List.filter_map, List.filter_eq_self.mpr]
      exact fun t _ => rfl
    · rfl
  | left m rest queue page silent unmoved =>
    subst page silent unmoved
    have fewer : (p.attached.erase m).count l ≤ p.attached.count l :=
      List.Sublist.count_le _ List.erase_sublist
    rw [replayed_of_count fewer, ite_self]
    rfl

/-- A listener is told only of changes that have taken place. -/
theorem toldTo_subset {p p' : Page α} {ts changes : List Transition} {post : Post}
    (turned : Turned p p' post ts) (recorded : Recorded p changes) (l : ListenerId) :
    ∀ t ∈ p.toldTo p' l, t ∈ changes ++ ts := by
  intro t ht
  rcases List.mem_append.mp ht with again | now
  · refine List.mem_append_left _ ?_
    have remembered : t ∈ p.history := by
      unfold replayed at again
      split at again
      · split at again
        · exact (List.mem_filter.mp again).1
        · cases again
      · cases again
    rw [recorded.history] at remembered
    exact List.mem_of_mem_drop remembered
  · rw [(recorded.turned turned).2] at now
    split at now
    · exact List.mem_append_right _ now
    · cases now

/-! ## How often a change is told -/

/-- Changes that follow a record are numbered from where it ends. -/
theorem Recorded.numbered_later {p p' : Page α} {changes ts : List Transition}
    (recorded : Recorded p changes) (recorded' : Recorded p' (changes ++ ts)) :
    ts.map Transition.revision = List.range' (p.snapshot.revision + 1) ts.length := by
  have numbered := recorded'.numbered
  rw [List.map_append, List.length_append, ← List.range'_append_1, recorded.numbered] at numbered
  rw [List.append_cancel_left numbered, recorded.revision, Nat.add_comm 1]

/-- A change is told once to those who are attached when it takes place. -/
theorem Recorded.count_later {p p' : Page α} {changes ts : List Transition}
    (recorded : Recorded p changes) (recorded' : Recorded p' (changes ++ ts)) (v : Nat) :
    (ts.map Transition.revision).count v ≤ if p.snapshot.revision < v then 1 else 0 := by
  rw [recorded.numbered_later recorded']
  split
  · exact List.nodup_iff_count.mp List.nodup_range' v
  · refine Nat.le_of_eq (List.count_eq_zero.mpr fun later => ?_)
    rw [List.mem_range'_1] at later
    omega

/-- A change is replayed once, to a listener that has not seen it. -/
theorem Recorded.count_replayed {p : Page α} {changes : List Transition}
    (recorded : Recorded p changes) (seen v : Nat) :
    ((p.history.filter fun t => seen < t.revision).map Transition.revision).count v ≤
      if seen < v then 1 else 0 := by
  split
  · have part : ((p.history.filter fun t => seen < t.revision).map Transition.revision).Sublist
        (changes.map Transition.revision) := by
      rw [recorded.history]
      exact (List.filter_sublist.trans (List.drop_sublist _ _)).map _
    rw [recorded.numbered] at part
    exact List.nodup_iff_count.mp (part.nodup List.nodup_range') v
  · rename_i known
    refine Nat.le_of_eq (List.count_eq_zero.mpr fun told => ?_)
    obtain ⟨t, ht, rfl⟩ := List.mem_map.mp told
    exact known (of_decide_eq_true (List.mem_filter.mp ht).2)

end Page

/-- Whether a command will have the change of a number told to a listener. -/
def Command.replays (l : ListenerId) (v : Nat) : Command → Bool
  | .attach other seen => other = l && seen < v
  | _ => false

/-- Only a request has changes told. -/
theorem Command.attaches_of_replays {c : Command} {l : ListenerId} {v : Nat}
    (replays : c.replays l v) : c.attaches l := by
  cases c with
  | attach other seen => exact (Bool.and_eq_true_iff.mp replays).1
  | detach | refresh | shutdown => cases replays

namespace Page

/-- How many requests of a listener wait that saw the page before its change of a number. -/
def owed (p : Page α) (l : ListenerId) (v : Nat) : Nat := p.queue.countP (·.replays l v)

theorem owed_le (p : Page α) (l : ListenerId) (v : Nat) :
    p.owed l v ≤ p.queue.countP (·.attaches l) :=
  List.countP_mono_left fun _ _ => Command.attaches_of_replays

/-- A request that is made later owes nothing of what the page has shown by then. -/
theorem owed_sendAll {p : Page α} {l : ListenerId} {v : Nat} {commands : List Command}
    (shown : v ≤ p.snapshot.revision)
    (calls : commands.countP (·.attaches l) = 0 ∨ commands = [.attach l p.snapshot.revision]) :
    (p.sendAll commands).owed l v = p.owed l v := by
  have nothing : commands.countP (·.replays l v) = 0 := by
    rcases calls with none | rfl
    · exact Nat.eq_zero_of_le_zero
        (none ▸ List.countP_mono_left fun _ _ => Command.attaches_of_replays)
    · simp [Command.replays, shown]
  show (p.queue ++ commands).countP _ = _
  rw [List.countP_append, nothing, Nat.add_zero]
  rfl

/-- **How often a change is told.** A step tells a listener of a change once for being
attached when it takes place, and once for each request that it is owed to and that the
step takes up. -/
theorem Recorded.told_le {p p' : Page α} {post : Post} {ts changes : List Transition}
    (recorded : Recorded p changes) (turned : Turned p p' post ts) (l : ListenerId) (v : Nat) :
    ((p.toldTo p' l).map Transition.revision).count v + p'.owed l v ≤
      p.owed l v + if p.snapshot.revision < v ∧ l ∈ p.attached then 1 else 0 := by
  obtain ⟨recorded', later⟩ := recorded.turned turned
  unfold toldTo
  rw [later]
  cases turned with
  | moved passed plain queue short moves =>
    rw [replayed_of_count (Nat.le_of_eq (congrArg (List.count l) moves.attached)), List.nil_append]
    have owes : p'.owed l v ≤ p.owed l v := by
      unfold owed
      rw [queue, List.countP_append]
      exact Nat.le_add_left _ _
    have once := recorded.count_later recorded' v
    by_cases joined : l ∈ p.attached
    · simp only [joined, if_true, and_true]
      omega
    · rw [if_neg joined]
      show 0 + _ ≤ _
      omega
  | joined m seen rest queue page unmoved =>
    obtain ⟨becomes, -⟩ := Prod.mk.inj page
    have joined : p'.attached = p.attached ++ [m] := by rw [becomes]
    have owes : p.owed l v = p'.owed l v + if m = l ∧ seen < v then 1 else 0 := by
      unfold owed
      rw [queue, becomes, List.countP_cons]
      simp [Command.replays]
    rw [unmoved, ite_self, List.append_nil, replayed_joined queue joined, owes]
    have once := recorded.count_replayed seen v
    by_cases same : m = l
    · subst same
      simp only [if_true, true_and]
      omega
    · rw [if_neg (Ne.symm same), if_neg fun both => same both.1]
      show 0 + _ ≤ _
      omega
  | left m rest queue page silent unmoved =>
    subst page silent unmoved
    have fewer : (p.attached.erase m).count l ≤ p.attached.count l :=
      List.Sublist.count_le _ List.erase_sublist
    have owes : p.owed l v = rest.countP (·.replays l v) := by
      unfold owed
      rw [queue, List.countP_cons_of_neg Bool.false_ne_true]
    rw [replayed_of_count fewer, ite_self, owes]
    show 0 + rest.countP (·.replays l v) ≤ _
    omega

/-! ## Changed data -/

/-- The end of a refresh in place, which brings new data and no change of state. -/
def renewsInPlace (p : Page α) : Event α → Bool
  | .ended (.ok _) => p.running.any (·.work = .refresh .inPlace)
  | _ => false

theorem filter_announce (p : Page α) (old new : PageState) (l : ListenerId) :
    (p.announce old new l).filter Notice.isData = [] := by
  unfold announce
  split
  · rfl
  · show (if l ∈ p.attached then [Notice.stateChanged old new] else []).filter _ = []
    split <;> rfl

/-- No refresh tells of data when it begins. -/
theorem filter_refresh (p : Page α) (mode : RefreshMode) (l : ListenerId) :
    ((p.refresh mode).2 l).filter Notice.isData = [] := by
  cases busy : p.running with
  | some f =>
    rw [refresh_of_running busy]
    rfl
  | none =>
    by_cases ready : p.state = .ready
    · cases mode with
      | rebuild =>
        rw [refresh_rebuild busy ready]
        exact filter_announce p _ _ l
      | inPlace =>
        rw [refresh_inPlace busy ready]
        rfl
    · rw [refresh_of_not_ready busy ready]
      rfl

theorem filter_followUp (p : Page α) (asked : Option RefreshMode) (l : ListenerId) :
    ((p.followUp asked).2 l).filter Notice.isData = [] := by
  cases asked with
  | none => rfl
  | some mode => exact filter_refresh p mode l

/-- **Changed data.** At the end of a refresh in place, everyone attached is told of the
data, once, and nobody is told of data at any other time. -/
theorem Regular.data_told {p : Page α} (h : p.Regular) (e : Event α) (l : ListenerId) :
    ((p.react e).2 l).filter Notice.isData =
      if p.renewsInPlace e = true ∧ l ∈ p.attached then [.dataChanged] else [] := by
  cases e with
  | sent c =>
    rw [if_neg (by rintro ⟨⟨⟩, -⟩)]
    rfl
  | takenUp =>
    rw [if_neg (by rintro ⟨⟨⟩, -⟩)]
    show (p.handleNext.2 l).filter _ = _
    cases queue : p.queue with
    | nil =>
      rw [handleNext_of_nil queue]
      rfl
    | cons c rest =>
      rw [handleNext_of_alive (h.alive_of_queue queue) queue]
      cases c with
      | attach m seen =>
        show (if l = m then (p.history.filter fun t => seen < t.revision).map Transition.notice
          else []).filter _ = []
        split
        · rw [List.filter_map, List.filter_eq_nil_iff.mpr]
          · rfl
          · exact fun _ _ => Bool.false_ne_true
        · rfl
      | detach | shutdown => rfl
      | refresh mode => exact filter_refresh _ mode l
  | ended result =>
    show ((p.finish result).2 l).filter _ = _
    cases busy : p.running with
    | none =>
      have nothing : p.renewsInPlace (.ended result) = false := by
        unfold renewsInPlace
        split <;> simp [busy]
      rw [finish_of_idle busy, if_neg (by rw [nothing]; rintro ⟨⟨⟩, -⟩)]
      rfl
    | some f =>
      cases result with
      | error cause =>
        rw [finish_error busy, if_neg (by rintro ⟨⟨⟩, -⟩)]
        exact filter_announce p _ _ l
      | ok data =>
        have renews : p.renewsInPlace (.ended (.ok data)) = true ↔ f.work = .refresh .inPlace := by
          unfold renewsInPlace
          rw [busy]
          exact decide_eq_true_iff
        rw [finish_ok busy]
        show (p.successPost f.work l ++ ((p.renewed data).followUp p.pending).2 l).filter _ = _
        rw [List.filter_append, filter_followUp, List.append_nil]
        unfold successPost
        by_cases inPlace : f.work = .refresh .inPlace
        · -- the page has stayed ready since the refresh began
          have ready := (h.coherent (h.alive_of_busy busy)).inPlace f busy inPlace
          rw [if_pos ⟨inPlace, ready⟩]
          unfold broadcast
          by_cases joined : l ∈ p.attached
          · rw [if_pos joined, if_pos ⟨renews.mpr inPlace, joined⟩]
            rfl
          · rw [if_neg joined, if_neg fun both => joined both.2]
            rfl
        · rw [if_neg fun both => inPlace both.1, if_neg fun both => inPlace (renews.mp both.1)]
          exact filter_announce p _ _ l

/-! ## Where a listener stands -/

/-- How often a listener is attached after one more command, if it was so often before. -/
def standingAfter (l : ListenerId) (count : Nat) : Command → Nat
  | .attach m _ => if m = l then count + 1 else count
  | .detach m => if m = l then count - 1 else count
  | _ => count

/-- How often a listener is attached once the queue has been taken up. -/
def standing (p : Page α) (l : ListenerId) : Nat :=
  p.queue.foldl (standingAfter l) (p.attached.count l)

/-- Commands that do not attach a listener leave it attached no more often. -/
theorem foldl_standingAfter_le {commands : List Command} {l : ListenerId}
    (attaches : commands.countP (·.attaches l) = 0) (count : Nat) :
    commands.foldl (standingAfter l) count ≤ count := by
  induction commands generalizing count with
  | nil => exact Nat.le_refl count
  | cons c commands ih =>
    rw [List.countP_cons] at attaches
    refine Nat.le_trans (ih (Nat.eq_zero_of_add_eq_zero_right attaches) _) ?_
    have other := Nat.eq_zero_of_add_eq_zero_left attaches
    cases c with
    | attach m seen =>
      refine Nat.le_of_eq (if_neg fun same => ?_)
      simp [Command.attaches, same] at other
    | detach m =>
      show (if m = l then count - 1 else count) ≤ count
      split
      · exact Nat.sub_le count 1
      · exact Nat.le_refl count
    | refresh | shutdown => exact Nat.le_refl count

/-- Commands that say nothing of a listener leave it attached as often. -/
theorem foldl_standingAfter {commands : List Command} {l : ListenerId}
    (attaches : commands.countP (·.attaches l) = 0) (detaches : commands.countP (·.detaches l) = 0)
    (count : Nat) : commands.foldl (standingAfter l) count = count := by
  induction commands generalizing count with
  | nil => rfl
  | cons c commands ih =>
    rw [List.countP_cons] at attaches detaches
    have same : standingAfter l count c = count := by
      cases c with
      | attach m seen =>
        refine if_neg fun same => ?_
        simp [Command.attaches, same] at attaches
      | detach m =>
        refine if_neg fun same => ?_
        simp [Command.detaches, same] at detaches
      | refresh | shutdown => rfl
    rw [List.foldl_cons, same]
    exact ih (Nat.eq_zero_of_add_eq_zero_right attaches)
      (Nat.eq_zero_of_add_eq_zero_right detaches) _

theorem standing_sendAll (p : Page α) (commands : List Command) (l : ListenerId) :
    (p.sendAll commands).standing l = commands.foldl (standingAfter l) (p.standing l) :=
  List.foldl_append

/-- Taking commands up does not change where a listener stands. -/
theorem Turned.standing {p p' : Page α} {post : Post} {ts : List Transition}
    (turned : Turned p p' post ts) (l : ListenerId) : p'.standing l = p.standing l := by
  unfold Page.standing
  cases turned with
  | moved passed plain queue _ moves =>
    obtain ⟨attaches, detaches⟩ := countP_plain plain l
    rw [queue, List.foldl_append, foldl_standingAfter attaches detaches, moves.attached]
  | joined m seen rest queue page =>
    obtain ⟨rfl, -⟩ := Prod.mk.inj page
    rw [queue, List.foldl_cons]
    show rest.foldl _ ((p.attached ++ [m]).count l) = rest.foldl _ (if m = l then _ else _)
    rw [List.count_append, List.count_singleton]
    by_cases same : m = l <;> simp [same]
  | left m rest queue page =>
    subst page
    rw [queue, List.foldl_cons]
    show rest.foldl _ ((p.attached.erase m).count l) = rest.foldl _ (if m = l then _ else _)
    by_cases same : m = l
    · subst same
      rw [List.count_erase_self, if_pos rfl]
    · rw [List.count_erase_of_ne (Ne.symm same), if_neg same]

/-- A listener of which no request waits is attached if it will be once the queue
is taken up. -/
theorem attached_of_standing {p : Page α} {l : ListenerId} (stands : 0 < p.standing l)
    (taken : p.awaits l = false) : l ∈ p.attached := by
  have none : p.queue.countP (·.attaches l) = 0 := by
    rw [Bool.eq_false_iff, ne_eq, awaits_iff_pos] at taken
    omega
  exact List.count_pos_iff.mp (Nat.lt_of_lt_of_le stands (foldl_standingAfter_le none _))

end Page

end MarketConditions
