import Mathlib.Data.List.Basic
import MarketConditions.Proofs.Page.Steps

/-!
# What a listener hears of a page

A listener that asks for a page hears of its changes in two ways. What changed between its
request and the moment at which the page takes the request up is told from the page's
history, and what changes later is told as it happens. The page moves on all the while.
The two parts meet without a gap and without an overlap.

- `Page.Listed`: the requests of a listener that a page knows of, taken up or
  still in its queue.
- `Page.Hears`: a listener that has asked once waits, and has heard nothing, or is
  attached, and has heard of every change later than the revision it saw.
- `Page.Follows`: a listener has heard of every change there ever was.
- `Page.Listed.turned`, `Page.Hears.turned`, `Page.Follows.turned`: what a step preserves.
-/

namespace MarketConditions

variable {α : Type}

/-- What is left of a walk leads on from where its first part has led. -/
theorem Walk.rest {s m s' : PageState} {ts us : List Transition} (whole : Walk s (ts ++ us) s')
    (first : Walk s ts m) : Walk m us s' := by
  induction ts generalizing s with
  | nil =>
    cases first
    exact whole
  | cons t ts ih => exact ih whole.2.2 first.2.2

/-- Of changes numbered one by one, those later than some are those that come after them. -/
theorem filter_later {ts : List Transition} {a : Nat}
    (numbered : ts.map Transition.revision = List.range' (a + 1) ts.length) (k : Nat) :
    ts.filter (fun t => a + k < t.revision) = ts.drop k := by
  have early : (ts.take k).filter (fun t => a + k < t.revision) = [] := by
    rw [List.filter_eq_nil_iff]
    intro t ht
    have number := List.mem_map_of_mem (f := Transition.revision) ht
    rw [List.map_take, numbered] at number
    obtain ⟨i, hi, same⟩ := List.mem_take_iff_getElem.mp number
    rw [List.getElem_range'] at same
    simp
    omega
  have late : (ts.drop k).filter (fun t => a + k < t.revision) = ts.drop k := by
    rw [List.filter_eq_self]
    intro t ht
    have number := List.mem_map_of_mem (f := Transition.revision) ht
    rw [List.map_drop, numbered, List.drop_range', List.mem_range'_1] at number
    simp
    omega
  calc ts.filter _ = (ts.take k ++ ts.drop k).filter _ := by rw [List.take_append_drop]
    _ = ts.drop k := by rw [List.filter_append, early, late, List.nil_append]

namespace Page

/-! ## What the history holds -/

theorem Recorded.later {p : Page α} {changes : List Transition} (h : Recorded p changes)
    (seen : Nat) : changes.filter (fun t => seen < t.revision) = changes.drop seen := by
  have := filter_later (a := 0) (by rw [Nat.zero_add]; exact h.numbered) seen
  simpa only [Nat.zero_add] using this

/-- The history holds every change later than a revision, unless there are too many. -/
theorem Recorded.remembered {p : Page α} {changes : List Transition} (h : Recorded p changes)
    {seen : Nat} (few : changes.length ≤ seen + historyLength) :
    p.history.filter (fun t => seen < t.revision) =
      changes.filter (fun t => seen < t.revision) := by
  have numbered : (latest changes).map Transition.revision =
      List.range' (changes.length - historyLength + 1) (latest changes).length := by
    unfold latest
    rw [List.map_drop, h.numbered, List.drop_range', List.length_drop]
    congr 1
    omega
  have kept := filter_later numbered (seen - (changes.length - historyLength))
  rw [show changes.length - historyLength + (seen - (changes.length - historyLength)) = seen by
    omega] at kept
  rw [h.history, kept, h.later]
  unfold latest
  rw [List.drop_drop]
  congr 1
  omega

/-- The changes later than what a page shows at one moment lead from there to what it
shows at another. -/
theorem Recorded.walk_later {p p' : Page α} {changes later : List Transition}
    (h : Recorded p changes) (h' : Recorded p' (changes ++ later)) :
    (changes ++ later).filter (fun t => p.snapshot.revision < t.revision) = later ∧
      Walk p.state later p'.state := by
  refine ⟨?_, h'.walk.rest h.walk⟩
  rw [h'.later, h.revision, List.drop_left]

/-! ## Who is listed -/

/-- Puts commands at the end of the queue. -/
def sendAll (p : Page α) (commands : List Command) : Page α :=
  { p with queue := p.queue ++ commands }

/-- A listener has asked for the page so many times, and each time is taken up or is in
the queue. It has released none. -/
structure Listed (p : Page α) (l : ListenerId) (asked : Nat) : Prop where
  count : p.attached.count l + p.queue.countP (·.attaches l) = asked
  stays : p.queue.countP (·.detaches l) = 0

theorem listed_create (id : PageId) (key : PageKey) (l other : ListenerId) :
    Listed (create id key l : Page α × Post).1 other (if other = l then 1 else 0) where
  count := by
    show [l].count other + 0 = _
    by_cases same : other = l
    · simp [same]
    · simp [same, Ne.symm same]
  stays := rfl

/-- A listener is listed once more for each request that is sent. -/
theorem Listed.sendAll {p : Page α} {l : ListenerId} {asked : Nat} (h : p.Listed l asked)
    {commands : List Command} (stays : commands.countP (·.detaches l) = 0) :
    (p.sendAll commands).Listed l (asked + commands.countP (·.attaches l)) where
  count := by
    show p.attached.count l + (p.queue ++ commands).countP _ = _
    rw [List.countP_append, ← h.count]
    omega
  stays := by
    show (p.queue ++ commands).countP _ = 0
    rw [List.countP_append, h.stays, stays]

/-- Nobody is listed or struck off by plain commands. -/
theorem countP_plain {commands : List Command} (plain : ∀ c ∈ commands, c.isPlain)
    (l : ListenerId) :
    commands.countP (·.attaches l) = 0 ∧ commands.countP (·.detaches l) = 0 := by
  constructor
  · rw [List.countP_eq_zero]
    intro c hc
    simp [Command.attaches_of_isPlain (plain c hc)]
  · rw [List.countP_eq_zero]
    intro c hc
    simp [Command.detaches_of_isPlain (plain c hc)]

/-- Someone who stays is not the one whose leaving is taken up. -/
theorem Listed.ne_of_left {p : Page α} {l m : ListenerId} {asked : Nat} (h : p.Listed l asked)
    {rest : List Command} (queue : p.queue = .detach m :: rest) : m ≠ l := by
  rintro rfl
  have stays := h.stays
  rw [queue, List.countP_cons_of_pos (by simp [Command.detaches])] at stays
  cases stays

/-- Nor is it someone attached whose request is taken up, as that would be a second one. -/
theorem Listed.ne_of_joined {p : Page α} {l m : ListenerId} (h : p.Listed l 1)
    (joined : l ∈ p.attached) {seen : Nat} {rest : List Command}
    (queue : p.queue = .attach m seen :: rest) : m ≠ l := by
  rintro rfl
  have count := h.count
  have attached := List.count_pos_iff.mpr joined
  rw [queue, List.countP_cons_of_pos (by simp [Command.attaches])] at count
  omega

/-- Taking a request up lists no one anew. -/
theorem Listed.turned {p p' : Page α} {post : Post} {ts : List Transition} {l : ListenerId}
    {asked : Nat} (h : p.Listed l asked) (turned : Turned p p' post ts) : p'.Listed l asked := by
  cases turned with
  | moved passed plain queue _ moves =>
    obtain ⟨attaches, detaches⟩ := countP_plain plain l
    have count := h.count
    have stays := h.stays
    rw [queue, List.countP_append] at count stays
    exact ⟨by rw [moves.attached]; omega, by omega⟩
  | joined m seen rest queue page =>
    obtain ⟨rfl, -⟩ := Prod.mk.inj page
    have count := h.count
    have stays := h.stays
    rw [queue, List.countP_cons] at count stays
    refine ⟨?_, Nat.eq_zero_of_add_eq_zero_right stays⟩
    show (p.attached ++ [m]).count l + rest.countP (·.attaches l) = asked
    rw [List.count_append, List.count_singleton]
    have one : (m == l) = Command.attaches l (.attach m seen) := rfl
    rw [one]
    omega
  | left m rest queue page =>
    subst page
    have other := h.ne_of_left queue
    have count := h.count
    have stays := h.stays
    rw [queue, List.countP_cons] at count stays
    refine ⟨?_, Nat.eq_zero_of_add_eq_zero_right stays⟩
    show (p.attached.erase m).count l + rest.countP (·.attaches l) = asked
    rw [List.count_erase_of_ne (Ne.symm other)]
    exact count

/-- Whether a request of a listener waits to be taken up. -/
def awaits (p : Page α) (l : ListenerId) : Bool := p.queue.any (·.attaches l)

theorem awaits_iff_pos (p : Page α) (l : ListenerId) :
    p.awaits l = true ↔ 0 < p.queue.countP (·.attaches l) := by
  rw [List.countP_pos_iff]
  exact List.any_eq_true

/-- No request waits of a listener that never asked. -/
theorem Listed.not_awaits {p : Page α} {l : ListenerId} (listed : p.Listed l 0) :
    p.awaits l = false := by
  have count := listed.count
  rw [Bool.eq_false_iff, ne_eq, awaits_iff_pos]
  omega

/-- The request of a listener who has asked once waits, or it is attached. -/
theorem Listed.awaits_iff {p : Page α} {l : ListenerId} (listed : p.Listed l 1) :
    p.awaits l = true ↔ l ∉ p.attached := by
  have count := listed.count
  rw [awaits_iff_pos, ← List.count_eq_zero]
  omega

/-- Of two requests that wait, a listener who has asked once made but one. -/
theorem Listed.eq_of_head {p : Page α} {l : ListenerId} (listed : p.Listed l 1) {seen seen' : Nat}
    {rest : List Command} (queue : p.queue = .attach l seen' :: rest)
    (asks : .attach l seen ∈ p.queue) : seen' = seen := by
  have count := listed.count
  rw [queue, List.countP_cons_of_pos (by simp [Command.attaches])] at count
  rw [queue] at asks
  rcases List.mem_cons.mp asks with same | later
  · cases same
    rfl
  · have : 0 < rest.countP (·.attaches l) :=
      List.countP_pos_iff.mpr ⟨_, later, by simp [Command.attaches]⟩
    omega

/-! ## What is heard -/

/-- What a listener has heard of a page for which it asked once, when the page showed the
revision `seen`. -/
inductive Hears (p : Page α) (changes : List Transition) (l : ListenerId) (seen missed : Nat)
    (told : List Notice) : Prop where
  /-- Its request waits; as many changes as it has missed took place meanwhile. -/
  | waiting (asks : .attach l seen ∈ p.queue) (apart : l ∉ p.attached)
      (missing : seen + missed = changes.length) (silent : told = [])
  /-- It is attached, and knows of every later change. -/
  | attached (joined : l ∈ p.attached) (before : seen ≤ changes.length)
      (heard : told.filter (!·.isData) =
        (changes.filter fun t => seen < t.revision).map Transition.notice)

/-- A first request is sent with the revision that the page shows. -/
theorem hears_sendAll {p : Page α} {changes : List Transition} {l : ListenerId}
    (listed : p.Listed l 0) (recorded : Recorded p changes) :
    Hears (p.sendAll [.attach l p.snapshot.revision]) changes l p.snapshot.revision 0 [] := by
  refine .waiting (List.mem_append_right _ List.mem_cons_self) ?_ recorded.revision rfl
  exact List.count_eq_zero.mp (Nat.eq_zero_of_add_eq_zero_right listed.count)

/-- What is sent to a page tells nobody anything. -/
theorem Hears.sendAll {p : Page α} {changes : List Transition} {l : ListenerId}
    {seen missed : Nat} {told : List Notice} (h : p.Hears changes l seen missed told)
    (commands : List Command) : (p.sendAll commands).Hears changes l seen missed told := by
  cases h with
  | waiting asks apart missing silent =>
    exact .waiting (List.mem_append_left _ asks) apart missing silent
  | attached joined before heard => exact .attached joined before heard

/-- A listener whose request is taken up is told of all that it has missed, if the page
remembers it. -/
theorem hears_attach {p : Page α} {changes : List Transition} (recorded : Recorded p changes)
    (rest : List Command) (l : ListenerId) {seen missed : Nat}
    (missing : seen + missed = changes.length) (few : missed ≤ historyLength) :
    Hears ({ p with queue := rest }.attach l seen).1 changes l seen missed
      (({ p with queue := rest }.attach l seen).2 l) := by
  refine .attached (List.mem_append_right _ List.mem_cons_self) (by omega) ?_
  show (if l = l then (p.history.filter fun t => seen < t.revision).map Transition.notice
    else []).filter _ = _
  rw [if_pos rfl, recorded.remembered (by omega), List.filter_map, List.filter_eq_self.mpr]
  exact fun t _ => rfl

/-- **The seam.** Whatever a page does, a listener goes on to hear of every change later
than the one it saw, as long as no more changes took place before its request was taken up
than the page remembers. -/
theorem Hears.turned {p p' : Page α} {post : Post} {ts changes : List Transition} {l : ListenerId}
    {seen missed : Nat} {told : List Notice} (h : p.Hears changes l seen missed told)
    (listed : p.Listed l 1) (recorded : Recorded p changes) (turned : Turned p p' post ts)
    (few : missed ≤ historyLength) :
    p'.Hears (changes ++ ts) l seen (missed + if p.awaits l then ts.length else 0)
      (told ++ post l) := by
  have awaits := listed.awaits_iff
  have recorded' := (recorded.turned turned).1
  cases h with
  | waiting asks apart missing silent =>
    rw [if_pos (awaits.mpr apart)]
    subst silent
    cases turned with
    | moved passed plain queue _ moves =>
      -- the request is still in the queue, and whoever is not attached is told nothing
      refine .waiting ?_ (by rwa [moves.attached]) ?_ ?_
      · rw [queue] at asks
        refine (List.mem_append.mp asks).resolve_left fun done => ?_
        cases plain _ done
      · rw [List.length_append]
        omega
      · obtain ⟨ns, -, goes⟩ := moves.told
        rw [goes, if_neg apart]
        rfl
    | joined m seen' rest queue page unmoved =>
      obtain ⟨rfl, rfl⟩ := Prod.mk.inj page
      subst unmoved
      rw [List.append_nil, List.nil_append, List.length_nil, Nat.add_zero]
      by_cases same : m = l
      · subst same
        cases listed.eq_of_head queue asks
        exact hears_attach recorded rest m missing few
      · refine .waiting ?_ ?_ missing (if_neg (Ne.symm same))
        · rw [queue] at asks
          refine (List.mem_cons.mp asks).resolve_left fun head => ?_
          cases head
          exact same rfl
        · intro joined
          rcases List.mem_append.mp joined with old | new
          · exact apart old
          · exact same (List.mem_singleton.mp new).symm
    | left m rest queue page quiet unmoved =>
      subst page quiet unmoved
      rw [List.append_nil]
      refine .waiting ?_ (fun joined => apart (List.mem_of_mem_erase joined)) missing rfl
      rw [queue] at asks
      exact (List.mem_cons.mp asks).resolve_left nofun
  | attached joined before heard =>
    rw [if_neg (fun waits => awaits.mp waits joined), Nat.add_zero]
    have later : (changes ++ ts).filter (fun t => seen < t.revision) =
        changes.filter (fun t => seen < t.revision) ++ ts := by
      rw [recorded'.later, recorded.later, List.drop_append_of_le_length before]
    have before' : seen ≤ (changes ++ ts).length := by
      rw [List.length_append]
      omega
    cases turned with
    | moved _ _ _ _ moves =>
      obtain ⟨ns, states, goes⟩ := moves.told
      refine .attached (by rwa [moves.attached]) before' ?_
      rw [later, List.filter_append, heard, goes, if_pos joined, states, List.map_append]
    | joined m seen' rest queue page unmoved =>
      obtain ⟨rfl, rfl⟩ := Prod.mk.inj page
      have other := listed.ne_of_joined joined queue
      refine .attached (List.mem_append_left _ joined) before' ?_
      rw [later, unmoved, List.append_nil]
      show (told ++ if l = m then _ else []).filter _ = _
      rw [if_neg (Ne.symm other), List.append_nil]
      exact heard
    | left m rest queue page quiet unmoved =>
      subst page quiet
      have other := listed.ne_of_left queue
      refine .attached ((List.mem_erase_of_ne (Ne.symm other)).mpr joined) before' ?_
      rw [later, unmoved, List.append_nil]
      show (told ++ []).filter _ = _
      rw [List.append_nil]
      exact heard

/-- What a listener has heard: nothing as long as its request waits, and then every
later change. -/
theorem Hears.states {p : Page α} {changes : List Transition} {l : ListenerId}
    {seen missed : Nat} {told : List Notice} (h : p.Hears changes l seen missed told)
    (listed : p.Listed l 1) :
    told.filter (!·.isData) = if p.awaits l then [] else
      (changes.filter fun t => seen < t.revision).map Transition.notice := by
  cases h with
  | waiting asks apart missing silent =>
    rw [if_pos (listed.awaits_iff.mpr apart), silent]
    rfl
  | attached joined before heard =>
    rw [if_neg fun waits => listed.awaits_iff.mp waits joined]
    exact heard

/-- A listener that never asked is told nothing. -/
theorem Turned.silent {p p' : Page α} {post : Post} {ts : List Transition} {l : ListenerId}
    (turned : Turned p p' post ts) (listed : p.Listed l 0) : post l = [] := by
  have apart : l ∉ p.attached :=
    List.count_eq_zero.mp (Nat.eq_zero_of_add_eq_zero_right listed.count)
  have nothing := Nat.eq_zero_of_add_eq_zero_left listed.count
  cases turned with
  | moved _ _ _ _ moves =>
    obtain ⟨ns, -, goes⟩ := moves.told
    rw [goes, if_neg apart]
  | joined m seen rest queue page =>
    obtain ⟨-, rfl⟩ := Prod.mk.inj page
    refine if_neg ?_
    rintro rfl
    rw [queue, List.countP_cons_of_pos (by simp [Command.attaches])] at nothing
    cases nothing
  | left _ _ _ _ quiet =>
    rw [quiet]
    rfl

/-! ## Whoever made the page -/

/-- A listener that has asked so many times is attached and has heard of every change
there ever was. -/
structure Follows (p : Page α) (changes : List Transition) (l : ListenerId) (asked : Nat)
    (told : List Notice) : Prop where
  joined : l ∈ p.attached
  heard : (changes.map Transition.notice).Sublist told
  /-- If it has not asked again, it has heard of each change just once. -/
  once : asked = 1 → told.filter (!·.isData) = changes.map Transition.notice

/-- Whoever makes a page hears of its first change. -/
theorem follows_create (id : PageId) (key : PageKey) (l : ListenerId) :
    Follows (create id key l : Page α × Post).1 [⟨1, .empty, .loading⟩] l 1
      ((create id key l : Page α × Post).2 l) := by
  have told : (create id key l : Page α × Post).2 l = [.stateChanged .empty .loading] :=
    if_pos List.mem_cons_self
  rw [told]
  exact ⟨List.mem_cons_self, List.Sublist.refl _, fun _ => rfl⟩

/-- Whatever a page does, those who follow it go on to do so until they leave. -/
theorem Follows.turned {p p' : Page α} {post : Post} {ts changes : List Transition}
    {l : ListenerId} {asked : Nat} {told : List Notice} (h : p.Follows changes l asked told)
    (listed : p.Listed l asked) (turned : Turned p p' post ts) :
    p'.Follows (changes ++ ts) l asked (told ++ post l) := by
  have kept : ∀ more, (changes.map Transition.notice).Sublist (told ++ more) := fun more =>
    h.heard.trans (List.sublist_append_left told more)
  cases turned with
  | moved _ _ _ _ moves =>
    obtain ⟨ns, states, goes⟩ := moves.told
    rw [goes, if_pos h.joined]
    refine ⟨?_, ?_, fun one => ?_⟩
    · rw [moves.attached]
      exact h.joined
    · rw [List.map_append, ← states]
      exact h.heard.append List.filter_sublist
    · rw [List.map_append, ← states, List.filter_append, h.once one]
  | joined m seen rest queue page unmoved =>
    obtain ⟨rfl, rfl⟩ := Prod.mk.inj page
    rw [unmoved, List.append_nil]
    refine ⟨List.mem_append_left _ h.joined, kept _, fun one => ?_⟩
    subst one
    show (told ++ if l = m then _ else []).filter _ = _
    rw [if_neg (Ne.symm (listed.ne_of_joined h.joined queue)), List.append_nil]
    exact h.once rfl
  | left m rest queue page quiet unmoved =>
    subst page quiet
    rw [unmoved, List.append_nil]
    refine ⟨(List.mem_erase_of_ne (Ne.symm (listed.ne_of_left queue))).mpr h.joined, kept _,
      fun one => ?_⟩
    show (told ++ []).filter _ = _
    rw [List.append_nil]
    exact h.once one

end Page

end MarketConditions
