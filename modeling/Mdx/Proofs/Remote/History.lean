import Mathlib.Algebra.Group.Nat.Defs
import Mathlib.Data.List.Induction
import Mathlib.Data.List.Perm.Basic
import Mdx.Remote

/-!
# The history of a remote document

What the state of a remote document says about everything that happened to it. Tickets come back in
any order, late, repeatedly or never; the state is told from the history alone:

* `Run`, the histories in which every delivered ticket was issued before;
* `marks`, the events that left a trace, which are those that were not stale;
* `after_tells`, the main statement.
-/

namespace Mdx.Remote

/-! ## Histories -/

/-- What can happen to a remote document. -/
inductive Event where
  | start
  | clear
  | deliver (ticket : Ticket) (outcome : Outcome)

namespace Event

/-- No ticket that was issued before the event counts any more. -/
def supersedes : Event → Bool
  | .start | .clear => true
  | .deliver _ _ => false

/-- The ticket that is delivered. -/
def ticket? : Event → Option Ticket
  | .deliver ticket _ => some ticket
  | _ => none

end Event

/-- The state after one more event. -/
def step (r : Remote) : Event → Remote
  | .start => r.start.2
  | .clear => r.clear
  | .deliver ticket outcome => (r.complete ticket outcome).state

/-- The state after a history. -/
def after (url : String) (events : List Event) : Remote :=
  events.foldl step { url := url }

/-- The event at place `i` of a history issued the ticket. -/
def Issued (url : String) (events : List Event) (i : Nat) (ticket : Ticket) : Prop :=
  events[i]? = some .start ∧ ticket = (after url (events.take i)).start.1

/-- The histories of a document: a ticket is delivered only after it was issued, but then at any
time and any number of times. -/
inductive Run (url : String) : List Event → Prop
  | nil : Run url []
  | start {events : List Event} : Run url events → Run url (events ++ [.start])
  | clear {events : List Event} : Run url events → Run url (events ++ [.clear])
  | deliver {events : List Event} {i : Nat} {ticket : Ticket} (outcome : Outcome) :
      Run url events → Issued url events i ticket → Run url (events ++ [.deliver ticket outcome])

/-- How often earlier tickets stopped counting. -/
def turns (events : List Event) : Nat :=
  events.countP Event.supersedes

/-! ## Marks -/

/-- What an event leaves behind; a stale delivery leaves nothing. -/
inductive Mark where
  | started
  | cleared
  | accepted (outcome : Outcome)

namespace Mark

def isCleared : Mark → Bool
  | .cleared => true
  | _ => false

/-- The document that was accepted. -/
def document? : Mark → Option Wire.Document
  | .accepted outcome => (document outcome).toOption
  | _ => none

/-- Why the fetch that was accepted had failed. -/
def failure? : Mark → Option FetchError
  | .accepted outcome =>
    match document outcome with
    | .ok _ => none
    | .error error => some error
  | _ => none

end Mark

/-- The mark of an event that happens in a state. -/
def mark (r : Remote) : Event → List Mark
  | .start => [.started]
  | .clear => [.cleared]
  | .deliver ticket outcome =>
    if (r.complete ticket outcome).accepted then [.accepted outcome] else []

/-- The marks of events that happen one after the other. -/
def marksFrom (r : Remote) : List Event → List Mark
  | [] => []
  | e :: rest => mark r e ++ marksFrom (r.step e) rest

/-- The marks of a history. -/
def marks (url : String) (events : List Event) : List Mark :=
  marksFrom { url := url } events

/-- The last document that was accepted since the last clearing. -/
def lastDocument (marks : List Mark) : Option Wire.Document :=
  (marks.reverse.takeWhile fun m => !m.isCleared).findSome? Mark.document?

/-! ## Steps -/

theorem complete_current {r : Remote} {ticket : Ticket} (h : ticket.number = r.latest)
    (outcome : Outcome) :
    (r.complete ticket outcome).accepted = true
      ∧ (r.complete ticket outcome).state
        = { r with
            loading := false
            content := (document outcome).toOption.or r.content
            error := (Mark.accepted outcome).failure? } := by
  rw [complete, if_pos h]
  cases hdocument : document outcome <;> simp [Mark.failure?, hdocument, Except.toOption]

theorem complete_stale {r : Remote} {ticket : Ticket} (h : ticket.number ≠ r.latest)
    (outcome : Outcome) :
    (r.complete ticket outcome).accepted = false ∧ (r.complete ticket outcome).state = r := by
  rw [complete, if_neg h]
  exact ⟨rfl, rfl⟩

theorem accepted_iff (r : Remote) (ticket : Ticket) (outcome : Outcome) :
    (r.complete ticket outcome).accepted = true ↔ ticket.number = r.latest := by
  by_cases h : ticket.number = r.latest
  · simp [(complete_current h outcome).1, h]
  · simp [(complete_stale h outcome).1, h]

/-- A delivery changes neither the address nor the ticket that counts. -/
theorem complete_keeps (r : Remote) (ticket : Ticket) (outcome : Outcome) :
    (r.complete ticket outcome).state.url = r.url
      ∧ (r.complete ticket outcome).state.latest = r.latest := by
  by_cases h : ticket.number = r.latest
  · rw [(complete_current h outcome).2]
    exact ⟨rfl, rfl⟩
  · rw [(complete_stale h outcome).2]
    exact ⟨rfl, rfl⟩

theorem after_concat (url : String) (events : List Event) (e : Event) :
    after url (events ++ [e]) = (after url events).step e := by
  rw [after, after, List.foldl_append]
  rfl

theorem marksFrom_append (r : Remote) (events more : List Event) :
    marksFrom r (events ++ more) = marksFrom r events ++ marksFrom (events.foldl step r) more := by
  induction events generalizing r with
  | nil => rfl
  | cons e rest ih =>
      rw [List.cons_append, marksFrom, marksFrom, ih, List.append_assoc, List.foldl_cons]

theorem marks_concat (url : String) (events : List Event) (e : Event) :
    marks url (events ++ [e]) = marks url events ++ mark (after url events) e := by
  rw [marks, marks, marksFrom_append, marksFrom, marksFrom, List.append_nil]
  rfl

theorem turns_cons (e : Event) (events : List Event) :
    turns (e :: events) = turns events + if e.supersedes then 1 else 0 :=
  List.countP_cons

theorem turns_concat (events : List Event) (e : Event) :
    turns (events ++ [e]) = turns events + if e.supersedes then 1 else 0 := by
  rw [turns, turns, List.countP_append, List.countP_singleton]

theorem lastDocument_concat (marks : List Mark) (m : Mark) :
    lastDocument (marks ++ [m])
      = if m.isCleared then none else m.document?.or (lastDocument marks) := by
  rw [lastDocument, List.reverse_concat, List.takeWhile_cons]
  cases hm : m.isCleared with
  | true => rfl
  | false =>
      rw [lastDocument]
      cases hdocument : m.document? <;> simp [hdocument]

/-! ## What the state tells -/

/-- What a state says about the history before it. -/
structure Tells (url : String) (events : List Event) (r : Remote) : Prop where
  address : r.url = url
  latest : r.latest = UInt64.ofNat (turns events)
  content : r.content = lastDocument (marks url events)
  error : r.error = (marks url events).getLast?.bind Mark.failure?
  loading : r.loading = true ↔ (marks url events).getLast? = some .started

/-- One more event keeps the state and the history together. -/
theorem Tells.step {url : String} {events : List Event} (h : Tells url events (after url events))
    (e : Event) : Tells url (events ++ [e]) (after url (events ++ [e])) := by
  rw [after_concat]
  cases e with
  | start =>
      refine ⟨h.address, ?_, ?_, ?_, ?_⟩
      · show (after url events).latest + 1 = _
        rw [h.latest, turns_concat]
        simp [Event.supersedes]
      · show (after url events).content = _
        rw [h.content, marks_concat, mark, lastDocument_concat]
        rfl
      · rw [marks_concat, mark, List.getLast?_concat]
        rfl
      · rw [marks_concat, mark, List.getLast?_concat]
        exact ⟨fun _ => rfl, fun _ => rfl⟩
  | clear =>
      refine ⟨h.address, ?_, ?_, ?_, ?_⟩
      · show (after url events).latest + 1 = _
        rw [h.latest, turns_concat]
        simp [Event.supersedes]
      · rw [marks_concat, mark, lastDocument_concat]
        rfl
      · rw [marks_concat, mark, List.getLast?_concat]
        rfl
      · rw [marks_concat, mark, List.getLast?_concat]
        simp [Remote.step, Remote.clear]
  | deliver ticket outcome =>
      obtain ⟨hurl, hlatest⟩ := complete_keeps (after url events) ticket outcome
      have hturns : turns (events ++ [.deliver ticket outcome]) = turns events := by
        rw [turns_concat]
        rfl
      by_cases hcurrent : ticket.number = (after url events).latest
      · obtain ⟨haccepted, hstate⟩ := complete_current hcurrent outcome
        have hmarks : marks url (events ++ [.deliver ticket outcome])
            = marks url events ++ [.accepted outcome] := by
          rw [marks_concat, mark, if_pos haccepted]
        refine ⟨hurl.trans h.address, ?_, ?_, ?_, ?_⟩
        · rw [hturns]
          exact hlatest.trans h.latest
        · rw [hmarks, lastDocument_concat, ← h.content, Remote.step, hstate]
          rfl
        · rw [hmarks, List.getLast?_concat, Remote.step, hstate]
          rfl
        · rw [hmarks, List.getLast?_concat, Remote.step, hstate]
          simp
      · -- A stale delivery leaves neither a mark nor another state.
        obtain ⟨haccepted, hstate⟩ := complete_stale hcurrent outcome
        have hmarks : marks url (events ++ [.deliver ticket outcome]) = marks url events := by
          rw [marks_concat, mark, haccepted]
          simp
        rw [Remote.step, hstate]
        refine ⟨h.address, ?_, ?_, ?_, ?_⟩
        · rw [hturns, h.latest]
        · rw [hmarks, h.content]
        · rw [hmarks, h.error]
        · rw [hmarks, h.loading]

theorem tells_after (url : String) (events : List Event) : Tells url events (after url events) := by
  induction events using List.reverseRecOn with
  | nil => exact ⟨rfl, rfl, rfl, rfl, by simp [after, marks, marksFrom]⟩
  | append_singleton events e ih => exact ih.step e

/-! ## Tickets -/

theorem turns_take_add_drop (events : List Event) (i : Nat) :
    turns (events.take i) + turns (events.drop i) = turns events := by
  rw [turns, turns, turns, ← List.countP_append, List.take_append_drop]

/-- A ticket is the number of turns up to its own start. -/
theorem Issued.number {url : String} {events : List Event} {i : Nat} {ticket : Ticket}
    (h : Issued url events i ticket) :
    ticket.number = UInt64.ofNat (turns (events.take (i + 1)))
      ∧ turns (events.take (i + 1)) = turns (events.take i) + 1 := by
  obtain ⟨hstart, rfl⟩ := h
  have htake : events.take (i + 1) = events.take i ++ [.start] := by
    rw [List.take_add_one, hstart]
    rfl
  have hturns : turns (events.take (i + 1)) = turns (events.take i) + 1 := by
    rw [htake, turns_concat]
    rfl
  refine ⟨?_, hturns⟩
  show (after url (events.take i)).latest + 1 = _
  rw [(tells_after url _).latest, hturns]
  simp

/-- As long as the numbers last, the ticket that counts is the one after which nothing was started
or cleared. -/
theorem Issued.number_eq_latest_iff {url : String} {events : List Event} {i : Nat} {ticket : Ticket}
    (h : Issued url events i ticket) (hfew : turns events < 2 ^ 64) :
    ticket.number = (after url events).latest
      ↔ ∀ e ∈ events.drop (i + 1), e.supersedes = false := by
  have hsize : turns events < UInt64.size := hfew
  have hsplit := turns_take_add_drop events (i + 1)
  have hnone : turns (events.drop (i + 1)) = 0
      ↔ ∀ e ∈ events.drop (i + 1), e.supersedes = false := by
    rw [turns, List.countP_eq_zero]
    simp
  rw [h.number.1, (tells_after url events).latest, ← hnone, ← UInt64.toNat_inj,
    UInt64.toNat_ofNat_of_lt' (by omega), UInt64.toNat_ofNat_of_lt' (by omega)]
  omega

/-- A ticket that was issued stays so. -/
theorem Issued.append {url : String} {events : List Event} {i : Nat} {ticket : Ticket}
    (h : Issued url events i ticket) (more : List Event) :
    Issued url (events ++ more) i ticket := by
  obtain ⟨hstart, rfl⟩ := h
  have hi : i < events.length := (List.getElem?_eq_some_iff.mp hstart).1
  refine ⟨?_, ?_⟩
  · rw [List.getElem?_append_left hi, hstart]
  · rw [List.take_append_of_le_length (Nat.le_of_lt hi)]

theorem Run.issued {url : String} {events : List Event} (h : Run url events) :
    ∀ e ∈ events, ∀ ticket ∈ e.ticket?, ∃ i, Issued url events i ticket := by
  -- Only a delivery names a ticket; its own step says where that was issued.
  have hstep : ∀ {events : List Event} {e : Event},
      (∀ e ∈ events, ∀ ticket ∈ e.ticket?, ∃ i, Issued url events i ticket) →
      (∀ ticket ∈ e.ticket?, ∃ i, Issued url events i ticket) →
      ∀ f ∈ events ++ [e], ∀ ticket ∈ f.ticket?, ∃ i, Issued url (events ++ [e]) i ticket := by
    intro events e hbefore hlast f hf ticket hticket
    have hissued : ∃ i, Issued url events i ticket := by
      rcases List.mem_append.mp hf with hf | hf
      · exact hbefore f hf ticket hticket
      · rw [List.mem_singleton.mp hf] at hticket
        exact hlast ticket hticket
    obtain ⟨i, hi⟩ := hissued
    exact ⟨i, hi.append [e]⟩
  induction h with
  | nil => simp
  | start _ ih => exact hstep ih (by simp [Event.ticket?])
  | clear _ ih => exact hstep ih (by simp [Event.ticket?])
  | deliver outcome _ hissued ih =>
      refine hstep ih fun ticket hticket => ?_
      rw [← Option.some.inj hticket]
      exact ⟨_, hissued⟩

/-! ## The order of deliveries -/

/-- None of the tickets was issued after the state was reached, and clearing does not use up the
numbers. -/
structure Late (r : Remote) (events : List Event) : Prop where
  noStart : .start ∉ events
  issued : ∀ ticket ∈ events.filterMap Event.ticket?, ticket.number ≤ r.latest
  once : (events.filterMap Event.ticket?).Nodup
  few : r.latest.toNat + turns events < 2 ^ 64

theorem Late.perm {r : Remote} {events events' : List Event} (h : Late r events)
    (hperm : events.Perm events') : Late r events' := by
  have htickets := hperm.filterMap Event.ticket?
  refine ⟨fun hstart => h.noStart (hperm.mem_iff.mpr hstart), fun ticket hticket => ?_,
    htickets.nodup_iff.mp h.once, ?_⟩
  · exact h.issued ticket (htickets.mem_iff.mpr hticket)
  · have hturns : turns events' = turns events := hperm.symm.countP_eq _
    rw [hturns]
    exact h.few

theorem toNat_clear {r : Remote} (h : r.latest.toNat + 1 < 2 ^ 64) :
    r.clear.latest.toNat = r.latest.toNat + 1 := by
  show (r.latest + 1).toNat = _
  rw [UInt64.toNat_add]
  exact Nat.mod_eq_of_lt h

theorem Late.tail {r : Remote} {e : Event} {events : List Event} (h : Late r (e :: events)) :
    Late (r.step e) events := by
  obtain ⟨hstart, hissued, honce, hfew⟩ := h
  cases e with
  | start => simp at hstart
  | clear =>
      have hturns : turns (.clear :: events) = turns events + 1 := turns_cons .clear events
      have hlatest := toNat_clear (r := r) (by omega)
      refine ⟨fun h => hstart (List.mem_cons_of_mem _ h), fun ticket hticket => ?_, honce, ?_⟩
      · have hle := UInt64.le_iff_toNat_le.mp (hissued ticket hticket)
        refine UInt64.le_iff_toNat_le.mpr ?_
        show ticket.number.toNat ≤ r.clear.latest.toNat
        omega
      · show r.clear.latest.toNat + turns events < 2 ^ 64
        omega
  | deliver ticket outcome =>
      have hlatest : (r.step (.deliver ticket outcome)).latest = r.latest :=
        (complete_keeps r ticket outcome).2
      refine ⟨fun h => hstart (List.mem_cons_of_mem _ h), fun ticket' hticket => ?_, ?_, ?_⟩
      · rw [hlatest]
        exact hissued ticket' (List.mem_cons_of_mem _ hticket)
      · exact (List.nodup_cons.mp honce).2
      · rw [hlatest]
        exact hfew

/-- Clearing makes up for a delivery before it. -/
theorem clear_complete (r : Remote) (ticket : Ticket) (outcome : Outcome) :
    (r.complete ticket outcome).state.clear = r.clear := by
  obtain ⟨hurl, hlatest⟩ := complete_keeps r ticket outcome
  rw [clear, clear, hurl, hlatest]

/-- A ticket from before the clearing does not count after it. -/
theorem complete_clear {r : Remote} {ticket : Ticket} (hissued : ticket.number ≤ r.latest)
    (hfew : r.latest.toNat + 1 < 2 ^ 64) (outcome : Outcome) :
    (r.clear.complete ticket outcome).state = r.clear := by
  refine (complete_stale (fun h => ?_) outcome).2
  have hle := UInt64.le_iff_toNat_le.mp hissued
  have hclear := toNat_clear hfew
  rw [h] at hle
  omega

/-- At most one of two tickets counts, so their deliveries can be exchanged. -/
theorem complete_comm (r : Remote) {ticket ticket' : Ticket} (h : ticket ≠ ticket')
    (outcome outcome' : Outcome) :
    ((r.complete ticket outcome).state.complete ticket' outcome').state
      = ((r.complete ticket' outcome').state.complete ticket outcome).state := by
  have hstale : ∀ {ticket : Ticket}, ticket.number ≠ r.latest → ∀ outcome ticket' outcome',
      ((r.complete ticket' outcome').state.complete ticket outcome).state
        = (r.complete ticket' outcome').state := by
    intro ticket hne outcome ticket' outcome'
    refine (complete_stale ?_ outcome).2
    rw [(complete_keeps r ticket' outcome').2]
    exact hne
  by_cases hcurrent : ticket.number = r.latest
  · have hne : ticket'.number ≠ r.latest := by
      intro hcurrent'
      refine h ?_
      cases ticket
      cases ticket'
      exact congrArg Ticket.mk (hcurrent.trans hcurrent'.symm)
    rw [hstale hne, (complete_stale hne outcome').2]
  · rw [hstale hcurrent, (complete_stale hcurrent outcome).2]

/-- Two events that no start follows can be exchanged. -/
theorem Late.step_comm {r : Remote} {e f : Event} {events : List Event}
    (h : Late r (e :: f :: events)) : (r.step e).step f = (r.step f).step e := by
  obtain ⟨hstart, hissued, honce, hfew⟩ := h
  rw [turns_cons, turns_cons] at hfew
  cases e with
  | start => simp at hstart
  | clear =>
      cases f with
      | start => simp at hstart
      | clear => rfl
      | deliver ticket outcome =>
          have hticket := hissued ticket (by simp [Event.ticket?])
          simp only [Event.supersedes, if_true] at hfew
          exact (complete_clear hticket (by omega) outcome).trans
            (clear_complete r ticket outcome).symm
  | deliver ticket outcome =>
      cases f with
      | start => simp at hstart
      | clear =>
          have hticket := hissued ticket (by simp [Event.ticket?])
          simp only [Event.supersedes, if_true] at hfew
          exact (clear_complete r ticket outcome).trans
            (complete_clear hticket (by omega) outcome).symm
      | deliver ticket' outcome' =>
          have hne : ticket ≠ ticket' := by
            rintro rfl
            simp [Event.ticket?] at honce
          exact complete_comm r hne outcome outcome'

/-- After the last start the order of events does not matter. -/
theorem Late.foldl_eq {r : Remote} {events events' : List Event} (h : Late r events)
    (hperm : events.Perm events') : events.foldl Remote.step r = events'.foldl Remote.step r := by
  induction hperm generalizing r with
  | nil => rfl
  | cons e _ ih => exact ih h.tail
  | swap e f events =>
      rw [List.foldl_cons, List.foldl_cons, List.foldl_cons, List.foldl_cons, h.step_comm]
  | trans hfirst _ ih ih' => exact (ih h).trans (ih' (h.perm hfirst))

/-- The events of a run after its last start are late, if each ticket is delivered once. -/
theorem Run.late {url : String} {earlier events : List Event} (h : Run url (earlier ++ events))
    (hstart : .start ∉ events) (honce : (events.filterMap Event.ticket?).Nodup)
    (hfew : turns (earlier ++ events) < 2 ^ 64) : Late (after url earlier) events := by
  have hturns : turns (earlier ++ events) = turns earlier + turns events := List.countP_append
  have hsize : turns earlier < UInt64.size := by
    show turns earlier < 2 ^ 64
    omega
  have hlatest : (after url earlier).latest.toNat = turns earlier := by
    rw [(tells_after url earlier).latest, UInt64.toNat_ofNat_of_lt' hsize]
  refine ⟨hstart, fun ticket hticket => ?_, honce, by omega⟩
  obtain ⟨e, he, hticket⟩ := List.mem_filterMap.mp hticket
  obtain ⟨i, hissued⟩ := h.issued e (List.mem_append_right _ he) ticket hticket
  -- The start that issued the ticket is among the earlier events.
  have hi : i < earlier.length := by
    by_contra hlater
    have hget := hissued.1
    rw [List.getElem?_append_right (by omega)] at hget
    exact hstart (List.mem_of_getElem? hget)
  have htake : (earlier ++ events).take (i + 1) = earlier.take (i + 1) :=
    List.take_append_of_le_length hi
  have hle := turns_take_add_drop earlier (i + 1)
  refine UInt64.le_iff_toNat_le.mpr ?_
  rw [hissued.number.1, htake, UInt64.toNat_ofNat_of_lt' (by omega)]
  omega

/-! ## Runs -/

/-- The state of a remote document is told by its history, whatever the order of its responses: a
ticket is accepted exactly if nothing was started or cleared after it was issued, and else changes
nothing; content, error and loading are read off the accepted responses, starts and clearings. After
the last start the order of events does not matter if each ticket is delivered once. -/
theorem after_tells (url : String) {events : List Event} (hrun : Run url events)
    (hfew : turns events < 2 ^ 64) :
    (∀ (i : Nat) (ticket : Ticket) (outcome : Outcome), Issued url events i ticket →
        (((after url events).complete ticket outcome).accepted = true
            ↔ ∀ e ∈ events.drop (i + 1), e.supersedes = false)
          ∧ (((after url events).complete ticket outcome).accepted = false →
            ((after url events).complete ticket outcome).state = after url events))
      ∧ (after url events).content = lastDocument (marks url events)
      ∧ (after url events).error = (marks url events).getLast?.bind Mark.failure?
      ∧ ((after url events).loading = true ↔ (marks url events).getLast? = some .started)
      ∧ (after url events).url = url
      ∧ ∀ earlier late late' : List Event, events = earlier ++ late → .start ∉ late →
        (late.filterMap Event.ticket?).Nodup → late.Perm late' →
          after url (earlier ++ late') = after url events := by
  have htells := tells_after url events
  refine ⟨fun i ticket outcome hissued => ⟨?_, fun hrejected => ?_⟩, htells.content, htells.error,
    htells.loading, htells.address, ?_⟩
  · rw [accepted_iff, hissued.number_eq_latest_iff hfew]
  · refine (complete_stale (fun hcurrent => ?_) outcome).2
    rw [(complete_current hcurrent outcome).1] at hrejected
    cases hrejected
  · rintro earlier late late' rfl hstart honce hperm
    rw [after, after, List.foldl_append, List.foldl_append]
    exact ((hrun.late hstart honce hfew).foldl_eq hperm).symm

/-- A response with a document. -/
def greeting : Outcome :=
  .ok { status := 200, body := "\x7b\"tree\":\x7b\"type\":\"text\",\"value\":\"hi\"\x7d\x7d" }

/-- Three fetches that overlap: the first answer is stale, the second is kept, and the third fails
before the second arrives again. -/
def overlapping : List Event :=
  [ .start, .start, .deliver ⟨1⟩ (.error .invalidFormat), .deliver ⟨2⟩ greeting, .start,
    .deliver ⟨3⟩ (.ok { status := 503, body := "" }), .deliver ⟨2⟩ (.error (.transport "late")) ]

theorem run_overlapping : Run "u" overlapping := by
  have h₁ : Run "u" [.start, .start] := .start (.start .nil)
  have h₂ := h₁.deliver (.error .invalidFormat)
    (show Issued "u" _ 0 ⟨1⟩ from ⟨rfl, by decide +kernel⟩)
  have h₃ := h₂.deliver greeting (show Issued "u" _ 1 ⟨2⟩ from ⟨rfl, by decide +kernel⟩)
  have h₄ := h₃.start.deliver (.ok { status := 503, body := "" })
    (show Issued "u" _ 4 ⟨3⟩ from ⟨rfl, by decide +kernel⟩)
  exact h₄.deliver (.error (.transport "late"))
    (show Issued "u" _ 1 ⟨2⟩ from ⟨rfl, by decide +kernel⟩)

theorem after_tells_overlapping :
    Run "u" overlapping ∧ turns overlapping < 2 ^ 64
      ∧ (after "u" overlapping).content.map (·.text)
        = some "\x7b\"tree\":\x7b\"type\":\"text\",\"value\":\"hi\"\x7d\x7d"
      ∧ (after "u" overlapping).error = some (.status 503)
      ∧ ¬ (after "u" overlapping).loading = true
      ∧ after "u" (overlapping.take 5 ++ (overlapping.drop 5).reverse) = after "u" overlapping := by
  have hfew : turns overlapping < 2 ^ 64 := by decide
  have hlast : (marks "u" overlapping).getLast?.bind Mark.failure? = some (.status 503) := by
    decide +kernel
  obtain ⟨-, hcontent, herror, hloading, -, horder⟩ := after_tells "u" run_overlapping hfew
  refine ⟨run_overlapping, hfew, ?_, herror.trans hlast, fun hstarted => ?_, ?_⟩
  · rw [hcontent]
    decide +kernel
  · rw [hloading.mp hstarted] at hlast
    cases hlast
  · exact horder _ _ _ (List.take_append_drop 5 _).symm (by simp [overlapping]) (by decide)
      (List.reverse_perm _).symm

end Mdx.Remote
