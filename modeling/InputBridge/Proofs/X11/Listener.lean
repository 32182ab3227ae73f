-- SUMMARY: A listener's turn takes what is queued if the connection was readable; what a run has reported.
import InputBridge.X11.Display

/-!
# What listeners report

A turn for which the connection was readable takes everything that is queued and reports it in its
order. After any other turn the queue is as it was. An event that somebody else has put into the
queue, while it waited for an answer, therefore stays there until there is something new to read.

`listen_takes_iff` says this of one turn, and `run_reported` of all turns together: what has been
reported is what had come when the connection was last readable.
-/

namespace InputBridge

namespace X11

/-- The events that a run of packets stands for. -/
def eventsOf (known : List Extension) (packets : List (Nat × Packet)) : List Event :=
  packets.filterMap fun (seq, p) => (p.toEvent? known seq).toOption.join

@[simp] theorem eventsOf_append (known : List Extension) (packets more : List (Nat × Packet)) :
    eventsOf known (packets ++ more) = eventsOf known packets ++ eventsOf known more :=
  List.filterMap_append

variable {known : List Extension} {seq : Nat} {p : Packet} {rest : List (Nat × Packet)}

theorem eventsOf_cons_none (h : p.toEvent? known seq = .ok none) :
    eventsOf known ((seq, p) :: rest) = eventsOf known rest := by
  simp [eventsOf, h, Except.toOption]

theorem eventsOf_cons_some {e : Event} (h : p.toEvent? known seq = .ok (some e)) :
    eventsOf known ((seq, p) :: rest) = e :: eventsOf known rest := by
  simp [eventsOf, h, Except.toOption]

namespace Connection

variable {c : Connection} {poll : Poll}

/-! ## Turns -/

/-- What was queued has been taken and reported in its order, and after it what has been read on
top of it. -/
structure Takes (c c' : Connection) : Prop where
  taken : c'.events = []
  reported : ∃ read, c.incoming = read ++ c'.incoming ∧
    c'.notices = c.notices ++ (eventsOf c.known (c.events ++ read)).map Notice.event

@[simp] theorem listeners_report (n : Notice) : (c.report n).listeners = c.listeners := by
  unfold report
  split <;> rfl

@[simp] theorem listeners_dismiss : c.dismiss.listeners = c.listeners - 1 := rfl

@[simp] theorem known_report (n : Notice) : (c.report n).known = c.known := by
  unfold report
  split <;> rfl

/-- A listener that goes on has taken everything and reported it. -/
theorem drain_eq (hlistening : 0 < c.listeners) (packets : List (Nat × Packet))
    (h : (c.drain packets).listeners = c.listeners) :
    c.drain packets =
      { c with events := [], notices := c.notices ++ (eventsOf c.known packets).map .event } := by
  -- a listener that stops at some packet does not count as one that goes on
  induction packets generalizing c with
  | nil =>
    simp only [drain] at h ⊢
    split at h
    · -- a broken connection ends the listener
      simp at h
      omega
    · next hwhole => simp [hwhole, eventsOf]
  | cons packet rest ih =>
    obtain ⟨seq, p⟩ := packet
    cases hread : p.toEvent? c.known seq with
    | error e =>
      -- a packet that cannot be read ends the listener
      simp [drain, hread] at h
      omega
    | ok event =>
      cases event with
      | none =>
        simp only [drain, hread] at h ⊢
        rw [ih hlistening h, eventsOf_cons_none hread]
      | some e =>
        simp only [drain, hread] at h ⊢
        split at h
        · -- nobody takes the event
          simp at h
          omega
        · next hheard =>
          have hlistening' : 0 < (c.report (.event e)).listeners := by simpa using hlistening
          rw [if_neg hheard, ih hlistening' (by simpa using h), known_report,
            eventsOf_cons_some hread]
          simp [report, hheard]

theorem listen_readable (hlistening : 0 < c.listeners)
    (h : (c.listen .readable).listeners = c.listeners) :
    c.listen .readable =
      { c with
        events := []
        incoming := []
        notices := c.notices ++ (eventsOf c.known (c.events ++ c.incoming)).map .event } :=
  drain_eq (c := c.read) hlistening c.read.events h

theorem listen_of_ne_readable (hlistening : 0 < c.listeners)
    (h : (c.listen poll).listeners = c.listeners) (hpoll : poll ≠ .readable) :
    c.listen poll = c := by
  cases poll with
  | readable => exact absurd rfl hpoll
  | timeout | interrupted => rfl
  | failed reason =>
    simp [listen] at h
    omega

/-- A turn that goes on takes what is queued if the connection was readable, and else leaves it
there. -/
theorem listen_takes_iff (hlistening : 0 < c.listeners)
    (h : (c.listen poll).listeners = c.listeners) :
    c.Takes (c.listen poll) ↔ poll = .readable ∨ c.events = [] := by
  by_cases hpoll : poll = .readable
  · subst hpoll
    rw [listen_readable hlistening h]
    exact iff_of_true ⟨rfl, c.incoming, (List.append_nil _).symm, rfl⟩ (.inl rfl)
  · rw [listen_of_ne_readable hlistening h hpoll]
    constructor
    -- a turn that takes nothing has taken everything only if there was nothing
    · intro htakes
      exact .inr htakes.taken
    · rintro (hreadable | hempty)
      · exact absurd hreadable hpoll
      · exact ⟨hempty, [], rfl, by simp [hempty, eventsOf]⟩

/-- A click comes over a connection with a listener. Before the listener looks somebody asks for
the state of the keyboard, and reads the click while waiting for the answer. -/
def clickRead : Displays :=
  let click : List Packet := [.event (.buttonPress ⟨10, 1, 0x500, 0, 0⟩),
    .event (.buttonRelease ⟨20, 1, 0x500, 0, 0⟩)]
  let listening : Displays := { connections := [{
    nextSeq := 8, lastSent := 7, listeners := 1
    extensions := [(.input, .present), (.keyboard, .present)] }] }
  ((listening.emit 0 click).answer 0 (.keyboardReport 3)).2

def clicked : Connection := clickRead.connections.getD 0 {}

theorem clicked_readable :
    0 < clicked.listeners ∧ (clicked.listen .readable).listeners = clicked.listeners ∧
      clicked.Takes (clicked.listen .readable) ∧
      (clicked.listen .readable).notices =
        [.event (.button true 10 0x500 1 0 0), .event (.button false 20 0x500 1 0 0)] := by
  have hlistening : 0 < clicked.listeners := by decide
  have hgoes : (clicked.listen .readable).listeners = clicked.listeners := by decide
  exact ⟨hlistening, hgoes, (listen_takes_iff hlistening hgoes).mpr (.inl rfl), by decide⟩

/-- The click has been read already, so that nothing wakes the listener up, and nobody hears of
it. -/
theorem clicked_timeout :
    clicked.poll clickRead.signalsQueued = .timeout ∧
      0 < clicked.listeners ∧ (clicked.listen .timeout).listeners = clicked.listeners ∧
      eventsOf clicked.known clicked.events ≠ [] ∧
      (clicked.listen .timeout).events = clicked.events ∧
      (clicked.listen .timeout).notices = [] ∧ ¬clicked.Takes (clicked.listen .timeout) ∧
      (clickRead.takeNotices 0 2).1 = [] := by
  refine ⟨by decide, by decide, rfl, by decide, rfl, by decide, fun h => ?_, by decide⟩
  exact absurd h.taken (by decide)

/-! ## Runs -/

/-- What happens at a connection with a listener. -/
inductive Turn where
  /-- Something comes from the server. -/
  | arrival (seq : Nat) (p : Packet)
  /-- Somebody who waits for an answer reads what has come. -/
  | reading
  | listen (poll : Poll)

def turn (c : Connection) : Turn → Connection
  | .arrival seq p => { c with incoming := c.incoming ++ [(seq, p)] }
  | .reading => c.read
  | .listen poll => c.listen poll

def run (c : Connection) (turns : List Turn) : Connection := turns.foldl turn c

/-- What comes from the server. -/
def arrived (turns : List Turn) : List (Nat × Packet) :=
  turns.filterMap fun
    | .arrival seq p => some (seq, p)
    | .reading | .listen _ => none

/-- What has come and has not been taken. -/
def pending (c : Connection) : List (Nat × Packet) := c.events ++ c.incoming

theorem listeners_drain_le (packets : List (Nat × Packet)) :
    (c.drain packets).listeners ≤ c.listeners := by
  induction packets generalizing c with
  | nil =>
    simp only [drain]
    split <;> simp
  | cons packet rest ih =>
    obtain ⟨seq, p⟩ := packet
    simp only [drain]
    split
    · simp
    · exact ih
    · split
      · simp
      · simpa using ih (c := c.report (.event _))

theorem listeners_turn_le (t : Turn) : (c.turn t).listeners ≤ c.listeners := by
  cases t with
  | arrival | reading => exact Nat.le_refl _
  | listen poll =>
    cases poll with
    | readable => exact listeners_drain_le (c := c.read) _
    | timeout | interrupted => exact Nat.le_refl _
    | failed reason => simp [turn, listen]

theorem listeners_run_le (turns : List Turn) : (c.run turns).listeners ≤ c.listeners := by
  induction turns generalizing c with
  | nil => exact Nat.le_refl _
  | cons t turns ih => exact Nat.le_trans ih (listeners_turn_le t)

/-- All that has come is taken in a turn for which the connection was readable. -/
theorem turn_readable (hlistening : 0 < c.listeners)
    (h : (c.turn (.listen .readable)).listeners = c.listeners) :
    (c.turn (.listen .readable)).known = c.known ∧
      (c.turn (.listen .readable)).notices =
        c.notices ++ (eventsOf c.known c.pending).map .event ∧
      (c.turn (.listen .readable)).pending = [] := by
  have heq : c.turn (.listen .readable) = _ := listen_readable hlistening h
  rw [heq]
  exact ⟨rfl, rfl, rfl⟩

/-- What comes is kept in any other turn. -/
theorem turn_of_ne_readable (hlistening : 0 < c.listeners) {t : Turn}
    (h : (c.turn t).listeners = c.listeners) (ht : t ≠ .listen .readable) :
    (c.turn t).known = c.known ∧ (c.turn t).notices = c.notices ∧
      (c.turn t).pending = c.pending ++ arrived [t] := by
  cases t with
  | arrival seq p => exact ⟨rfl, rfl, (List.append_assoc ..).symm⟩
  | reading => exact ⟨rfl, rfl, by simp [turn, read, pending, arrived]⟩
  | listen poll =>
    have hpoll : poll ≠ .readable := fun hpoll => ht (congrArg Turn.listen hpoll)
    -- neither a signal nor the end of the wait makes it look into its queue
    have heq : c.turn (.listen poll) = c := listen_of_ne_readable hlistening h hpoll
    rw [heq]
    exact ⟨rfl, rfl, (List.append_nil _).symm⟩

theorem run_cons (t : Turn) (turns : List Turn) : c.run (t :: turns) = (c.turn t).run turns := rfl

theorem run_append (turns more : List Turn) : c.run (turns ++ more) = (c.run turns).run more :=
  List.foldl_append

theorem arrived_cons (t : Turn) (turns : List Turn) :
    arrived (t :: turns) = arrived [t] ++ arrived turns := by
  cases t <;> rfl

/-- A run that goes on does so from its beginning. -/
theorem goes_of_run_append {turns more : List Turn}
    (h : (c.run (turns ++ more)).listeners = c.listeners) :
    (c.run turns).listeners = c.listeners ∧
      ((c.run turns).run more).listeners = (c.run turns).listeners := by
  rw [run_append] at h
  have hle := listeners_run_le (c := c) turns
  have hmore := listeners_run_le (c := c.run turns) more
  omega

theorem goes_of_run_cons {t : Turn} {turns : List Turn}
    (h : (c.run (t :: turns)).listeners = c.listeners) :
    (c.turn t).listeners = c.listeners ∧
      ((c.turn t).run turns).listeners = (c.turn t).listeners := by
  have hfirst : (c.run ([t] ++ turns)).listeners = c.listeners := h
  exact goes_of_run_append hfirst

/-- Nothing is lost, and nothing is reported twice or out of its order. -/
theorem run_account (hlistening : 0 < c.listeners) (turns : List Turn)
    (h : (c.run turns).listeners = c.listeners) :
    (c.run turns).known = c.known ∧
      (c.run turns).notices ++ (eventsOf c.known (c.run turns).pending).map .event =
        c.notices ++ (eventsOf c.known (c.pending ++ arrived turns)).map .event := by
  induction turns generalizing c with
  | nil => exact ⟨rfl, by simp [run, arrived]⟩
  | cons t turns ih =>
    obtain ⟨hfirst, hrest⟩ := goes_of_run_cons h
    obtain ⟨hknown', hrun⟩ := ih (by omega) hrest
    rw [run_cons, arrived_cons]
    -- only a readable turn moves something from what waits to what is reported
    by_cases ht : t = .listen .readable
    · subst ht
      obtain ⟨hknown, hnotices, hpending⟩ := turn_readable hlistening hfirst
      rw [hknown, hnotices, hpending] at hrun
      exact ⟨hknown'.trans hknown, by simpa [arrived] using hrun⟩
    · obtain ⟨hknown, hnotices, hpending⟩ := turn_of_ne_readable hlistening hfirst ht
      rw [hknown, hnotices, hpending] at hrun
      exact ⟨hknown'.trans hknown, by simpa using hrun⟩

/-- Where the connection is never readable, what comes is kept. -/
theorem run_of_not_readable (hlistening : 0 < c.listeners) {turns : List Turn}
    (hread : Turn.listen .readable ∉ turns) (h : (c.run turns).listeners = c.listeners) :
    (c.run turns).notices = c.notices ∧ (c.run turns).pending = c.pending ++ arrived turns := by
  induction turns generalizing c with
  | nil => exact ⟨rfl, by simp [run, arrived]⟩
  | cons t turns ih =>
    obtain ⟨hfirst, hrest⟩ := goes_of_run_cons h
    obtain ⟨hne, hread⟩ := not_or.mp (mt List.mem_cons.mpr hread)
    obtain ⟨-, hnotices, hpending⟩ := turn_of_ne_readable hlistening hfirst (Ne.symm hne)
    obtain ⟨hnotices', hpending'⟩ := ih (by omega) hread hrest
    rw [run_cons, arrived_cons, hnotices', hpending', hnotices, hpending]
    exact ⟨rfl, List.append_assoc ..⟩

/-- What has been reported is what had come when the connection was last readable. All that has
come since then waits, whether it has been read or not. -/
theorem run_reported (hlistening : 0 < c.listeners) {before after : List Turn}
    (hafter : Turn.listen .readable ∉ after)
    (h : (c.run (before ++ .listen .readable :: after)).listeners = c.listeners) :
    (c.run (before ++ .listen .readable :: after)).notices =
        c.notices ++ (eventsOf c.known (c.pending ++ arrived before)).map .event ∧
      (c.run (before ++ .listen .readable :: after)).pending = arrived after := by
  obtain ⟨hbefore, hrest⟩ := goes_of_run_append h
  obtain ⟨hread, hlast⟩ := goes_of_run_cons hrest
  obtain ⟨hknown, haccount⟩ := run_account hlistening before hbefore
  obtain ⟨-, hnotices, hpending⟩ := turn_readable (by omega) hread
  obtain ⟨hnotices', hpending'⟩ := run_of_not_readable (by omega) hafter hlast
  rw [run_append, run_cons, hnotices', hpending', hnotices, hpending, hknown]
  exact ⟨haccount, List.nil_append _⟩

end Connection

end X11

end InputBridge
