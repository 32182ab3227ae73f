-- SUMMARY: The last lock keys that a client was told of are those that hold.
import InputBridge.Proofs.Broker.Failure
import InputBridge.Proofs.Broker.Recipients
import InputBridge.Proofs.Broker.Serving
import InputBridge.Proofs.Seat.Locks
import InputBridge.Proofs.Seat.Run

/-!
# Clients know the lock keys

A client is told of the lock keys of a seat when it comes to the seat, and from then on with
every other client of the seat whenever they change. So the last it was told is what holds.
-/

namespace InputBridge

/-- The lock keys that a message tells. -/
def Message.locks? : Message → Option Locks
  | .lockState _ l => some l
  | _ => none

namespace Broker

variable {σ : Type} {S : DisplayServer σ} {b b' : Broker} {c c' : ClientId} {id : SeatId}
  {seat seat' : Seat} {deliveries : List Delivery} {out more : List Outbound}
  {config : BrokerConfig} {steps : List Step} {s : Step}

/-! ## What is told and what is reported -/

/-- The lock keys that messages tell a client, in order. -/
def locksFor (c : ClientId) (out : List Outbound) : List Locks :=
  (messagesFor c out).filterMap Message.locks?

/-- The lock keys that a client was told in a run, in order. -/
def locksTold (c : ClientId) (steps : List Step) : List Locks :=
  locksFor c (steps.flatMap Step.out)

theorem locksTold_snoc (c : ClientId) (steps : List Step) (s : Step) :
    locksTold c (steps ++ [s]) = locksTold c steps ++ locksFor c s.out := by
  simp [locksTold, locksFor, messagesFor_append]

/-- The clients of a seat are told all that the seat has to tell of lock keys, and the other
clients nothing. -/
theorem locksFor_route (distinct : b.clients.Distinct) (id : SeatId) (c : ClientId)
    (deliveries : List Delivery) : locksFor c (b.route id deliveries) =
      if b.seatOf c = some id then Seat.locksOfDeliveries deliveries else [] := by
  rw [locksFor, messagesFor_route distinct, List.filterMap_map, List.filterMap_filter]
  have told : ∀ d : Delivery, (if b.receives id c d then (Message.locks? ∘ Delivery.message) d
      else none) = if b.seatOf c = some id then d.locks? else none := by
    intro d
    cases d with
    -- these say nothing about lock keys
    | input | language => split <;> split <;> rfl
    | locks l => simp [receives, Delivery.handle?, Message.locks?, Delivery.message,
        Delivery.locks?]
  rw [List.filterMap_congr fun d _ => told d]
  split
  · rfl
  · exact List.filterMap_none _

/-- The locked modifiers that a seat takes over in a step. A seat that has failed takes over
nothing. -/
def Step.lockedModifiers? (s : Step) (id : SeatId) : Option UInt32 :=
  match s.action with
  | .event id' e =>
    if id' = id ∧ (s.before.seats.get? id).any (!·.failed) then e.lockedModifiers? else none
  | _ => none

/-- The locked modifiers that were reported to a seat in a run, in order. -/
def reports (id : SeatId) (steps : List Step) : List UInt32 :=
  steps.filterMap (·.lockedModifiers? id)

theorem reports_snoc (id : SeatId) (steps : List Step) (s : Step) :
    reports id (steps ++ [s]) = reports id steps ++ (s.lockedModifiers? id).toList := by
  rw [reports, List.filterMap_append, reports]
  cases h : s.lockedModifiers? id <;> simp [h]

/-! ## Steps -/

/-- In the step a seat handles an event. -/
structure Step.Handles (s : Step) (id : SeatId) (seat seat' : Seat)
    (deliveries : List Delivery) : Prop where
  present : s.before.seats.get? id = some seat
  relocks : seat.Relocks seat' (s.lockedModifiers? id) deliveries
  out : s.out = s.after.route id deliveries
  clients : s.after.clients = s.before.clients
  after : ∃ new, s.after.seats.get? id = some new ∧ seat'.Rests new
  others : ∀ other, other ≠ id →
    s.after.seats.get? other = s.before.seats.get? other ∧ s.lockedModifiers? other = none

theorem Step.lockedModifiers?_of_event {e : Event} (h : s.action = .event id e)
    (other : SeatId) : s.lockedModifiers? other =
      if id = other ∧ (s.before.seats.get? other).any (!·.failed) then e.lockedModifiers?
      else none := by
  rw [Step.lockedModifiers?, h]

/-- A seat that is there handles the events of its display, and fails if that fails it. -/
theorem Step.Possible.handles {e : Event} (possible : s.Possible S)
    (haction : s.action = .event id e) (hseat : s.before.seats.get? id = some seat) :
    ∃ seat' deliveries, s.Handles id seat seat' deliveries := by
  have hreport := Step.lockedModifiers?_of_event haction
  rcases dispatch_yields (possible.of_event haction) with
    ⟨hnone, -⟩ | ⟨seat, seat', deliveries, hseat', hdispatch, hout, hafter⟩
  · rw [hnone] at hseat
    cases hseat
  · cases hseat.symm.trans hseat'
    -- the seat is put back into its own place
    have hset : ∀ other, (s.before.seats.set id seat').get? other =
        if id = other then some seat' else s.before.seats.get? other := by
      intro other
      rw [SharedSeats.get?_set]
      split
      · next heq => rw [← heq, hseat]; rfl
      · rfl
    have hreported : s.lockedModifiers? id =
        if seat.failed then none else e.lockedModifiers? := by
      rw [hreport, hseat]
      cases hfailed : seat.failed <;> simp [hfailed]
    refine ⟨seat', deliveries, hseat, ?_, hout, ?_, ?_, ?_⟩
    · rw [hreported]
      -- a failed seat takes no notice of what the event reports
      exact Seat.dispatch_relocks hdispatch
    · rw [hafter]
      split <;> rfl
    · rw [hafter]
      split
      · refine ⟨seat'.fail, ?_, seat'.fail_undisturbed.rests⟩
        rw [markFailed, SharedSeats.get?_markFailed, if_pos rfl, hset, if_pos rfl]
        rfl
      · exact ⟨seat', by rw [hset, if_pos rfl], .refl _⟩
    · intro other hne
      have hid : ¬id = other := Ne.symm hne
      refine ⟨?_, by rw [hreport, if_neg fun h => hid h.1]⟩
      rw [hafter]
      split
      · rw [markFailed, SharedSeats.get?_markFailed, if_neg hid, hset, if_neg hid]
      · rw [hset, if_neg hid]

/-- In a step a seat handles an event, or at most one client is served. -/
theorem Step.Possible.served_or_handles (possible : s.Possible S) :
    ((∃ c, Served S c s.before s.out s.after) ∧ ∀ id, s.lockedModifiers? id = none) ∨
      ∃ id seat seat' deliveries, s.Handles id seat seat' deliveries := by
  cases haction : s.action with
  | message c m =>
    obtain ⟨answer, -, hhandle⟩ := possible.of_message haction
    exact .inl ⟨⟨c, handle_served hhandle⟩, fun id => by rw [lockedModifiers?, haction]⟩
  | event id e =>
    cases hseat : s.before.seats.get? id with
    | some seat =>
      obtain ⟨seat', deliveries, handles⟩ := possible.handles haction hseat
      exact .inr ⟨id, seat, seat', deliveries, handles⟩
    | none =>
      -- nobody is there to handle the event
      rcases dispatch_yields (possible.of_event haction) with
        ⟨-, hout, hafter⟩ | ⟨seat, _, _, hseat', -⟩
      · rw [hout, hafter]
        refine .inl ⟨⟨0, .refl 0 _⟩, fun other => ?_⟩
        rw [Step.lockedModifiers?_of_event haction, if_neg]
        rintro ⟨rfl, hany⟩
        rw [hseat] at hany
        cases hany
      · rw [hseat] at hseat'
        cases hseat'
  | failure id =>
    obtain ⟨hout, hafter⟩ := possible.of_failure haction
    rw [hout, hafter]
    exact .inl ⟨⟨0, .of_clients (SharedSeats.markFailed_quiet _ id) rfl⟩,
      fun id => by rw [lockedModifiers?, haction]⟩
  | departure c =>
    obtain ⟨hout, hremove⟩ := possible.of_departure haction
    rw [hout]
    exact .inl ⟨⟨c, removeClient_served hremove⟩, fun id => by rw [lockedModifiers?, haction]⟩

/-! ## Runs -/

/-- The seats track what was reported to them, and their clients know the lock keys. -/
structure LocksKnown (S : DisplayServer σ) (steps : List Step) (b : Broker) : Prop where
  seats : ∀ id seat, b.seats.get? id = some seat → seat.Tracks S (reports id steps)
  fresh : ∀ id, b.seats.nextId ≤ id → reports id steps = []
  clients : ∀ c id, b.seatOf c = some id → ∃ seat, b.seats.get? id = some seat ∧
    (locksTold c steps).getLast? = some seat.keyboard.locks

theorem LocksKnown.empty (config : BrokerConfig) : LocksKnown S [] { config } where
  seats _ _ h := by cases h
  fresh _ _ := rfl
  clients _ _ h := by cases h

theorem locksFor_of_served (served : Served S c b out b') (hne : c' ≠ c) :
    locksFor c' out = [] := by
  rcases served.own with ⟨rfl, -⟩ | ⟨id, seat, -, -, rfl⟩
  · rfl
  · simp [locksFor, messagesFor, Ne.symm hne]

theorem LocksKnown.served (h : LocksKnown S steps s.before) (balanced : s.before.Balanced)
    (balanced' : s.after.Balanced) (served : Served S c s.before s.out s.after)
    (hreport : ∀ id, s.lockedModifiers? id = none) :
    LocksKnown S (steps ++ [s]) s.after := by
  have hreports : ∀ id, reports id (steps ++ [s]) = reports id steps := by
    intro id
    rw [reports_snoc, hreport, Option.toList_none, List.append_nil]
  -- a client that stays where it is and is told nothing knows what it knew
  have stays : ∀ c' id, s.before.seatOf c' = some id → s.after.seatOf c' = some id →
      locksFor c' s.out = [] → ∃ seat, s.after.seats.get? id = some seat ∧
        (locksTold c' (steps ++ [s])).getLast? = some seat.keyboard.locks := by
    intro c' id hbefore hafter hnone
    obtain ⟨seat, hseat, hlast⟩ := h.clients c' id hbefore
    obtain ⟨seat', hseat'⟩ := Option.isSome_iff_exists.mp (balanced'.isSome_of_seatOf hafter)
    refine ⟨seat', hseat', ?_⟩
    obtain ⟨old, rests, hold | ⟨hnew, -⟩⟩ := served.seats.seats id seat' hseat'
    · cases hseat.symm.trans hold
      rw [locksTold_snoc, hnone, List.append_nil, hlast, rests.locks]
    · rw [balanced.seats.fresh id hnew] at hseat
      cases hseat
  refine ⟨?_, ?_, ?_⟩
  · intro id seat' hseat'
    rw [hreports]
    -- a seat that is there was there before, or it has just been connected
    obtain ⟨seat, rests, hseat | ⟨hnew, display, connected⟩⟩ := served.seats.seats id seat' hseat'
    · exact (h.seats id seat hseat).rests rests
    · rw [h.fresh id hnew]
      exact (Seat.connect_tracks connected).rests rests
  · intro id hid
    rw [hreports]
    exact h.fresh id (Nat.le_trans served.seats.nextId hid)
  · intro c' id hc'
    by_cases hne : c' = c
    · subst hne
      -- the client is told nothing and stays or has no seat, or it is told when it takes one
      rcases served.own with ⟨hout, hsame | hnone⟩ | ⟨id', seat, hc, hseat, hout⟩
      · exact stays c' id (hsame ▸ hc') hc' (by rw [hout]; rfl)
      · rw [hnone] at hc'
        cases hc'
      · cases hc.symm.trans hc'
        refine ⟨seat, hseat, ?_⟩
        have hone : locksFor c' s.out = [seat.keyboard.locks] := by
          rw [hout]
          simp [locksFor, messagesFor, Message.locks?]
        rw [locksTold_snoc, hone, List.getLast?_concat]
    · exact stays c' id (served.others c' hne ▸ hc') hc' (locksFor_of_served served hne)

theorem LocksKnown.handles (h : LocksKnown S steps s.before) (balanced : s.before.Balanced)
    (balanced' : s.after.Balanced) (later : s.before.seats.Later s.after.seats)
    (handles : s.Handles id seat seat' deliveries) : LocksKnown S (steps ++ [s]) s.after := by
  obtain ⟨new, hnew, rests⟩ := handles.after
  have hseatOf : ∀ c, s.after.seatOf c = s.before.seatOf c := by
    intro c
    -- an event attaches and detaches nobody
    rw [seatOf, handles.clients, seatOf]
  have hlocks : ∀ c, locksFor c s.out =
      if s.before.seatOf c = some id then Seat.locksOfDeliveries deliveries else [] := by
    intro c
    rw [handles.out, locksFor_route balanced'.clients, hseatOf]
  refine ⟨?_, ?_, ?_⟩
  · intro other after hafter
    rw [reports_snoc]
    by_cases hne : other = id
    · subst hne
      cases hnew.symm.trans hafter
      exact ((h.seats other seat handles.present).relocks handles.relocks).rests rests
    · obtain ⟨hsame, hreport⟩ := handles.others other hne
      rw [hreport, Option.toList_none, List.append_nil]
      exact h.seats other after (hsame ▸ hafter)
  · intro other hother
    have hfresh : s.before.seats.nextId ≤ other := Nat.le_trans later.nextId hother
    -- an id that is not yet given out has no seat that could handle anything
    have hne : other ≠ id := by
      rintro rfl
      have hpresent := handles.present
      rw [balanced.seats.fresh other hfresh] at hpresent
      cases hpresent
    rw [reports_snoc, (handles.others other hne).2, h.fresh other hfresh]
    rfl
  · intro c other hc
    rw [hseatOf] at hc
    obtain ⟨old, hold, hlast⟩ := h.clients c other hc
    rw [locksTold_snoc, hlocks]
    by_cases hne : other = id
    · -- the changes that the seat tells reach the client
      subst hne
      cases hold.symm.trans handles.present
      refine ⟨new, hnew, ?_⟩
      rw [if_pos hc, List.getLast?_append, hlast, Option.or_some, rests.locks,
        handles.relocks.locks]
    · refine ⟨old, (handles.others other hne).1.trans hold, ?_⟩
      rw [if_neg, List.append_nil, hlast]
      intro hid
      exact hne (Option.some.inj (hc.symm.trans hid))

theorem Run.locksKnown (run : Run S { config } steps b) : LocksKnown S steps b := by
  induction run with
  | nil => exact .empty config
  | @snoc steps s run possible ih =>
    have reachable : Reachable S s.before := ⟨config, steps, run⟩
    have reachable' : Reachable S s.after := ⟨config, steps ++ [s], run.snoc possible⟩
    rcases possible.served_or_handles with
      ⟨⟨c, served⟩, hreport⟩ | ⟨id, seat, seat', deliveries, handles⟩
    · exact ih.served reachable.balanced reachable'.balanced served hreport
    · exact ih.handles reachable.balanced reachable'.balanced possible.later handles

/-- The lock keys that a client was told last are those of its seat. Unless the seat has no
layouts they follow from the masks of the active layout, or of the first one if none is
active, and from the locked modifiers that were reported last. -/
theorem Run.locks_told (run : Run S { config } steps b) (hc : b.seatOf c = some id) :
    ∃ seat, b.seats.get? id = some seat ∧
      (locksTold c steps).getLast? = some seat.keyboard.locks ∧
      ∃ device report, (S.ask seat.link (.keyboardReport device)).Yields (.ok report) ∧
        let lockedModifiers := (reports id steps).getLast?.getD report.lockedModifiers
        seat.keyboard.lockedModifiers = lockedModifiers ∧
          (seat.layouts.all ≠ [] → ∃ layout,
            (seat.layouts.active = some layout ∨
              seat.layouts.active = none ∧ seat.layouts.all.head? = some layout) ∧
            seat.keyboard.locks =
              ⟨lockedModifiers &&& layout.masks.caps != 0,
                lockedModifiers &&& layout.masks.num != 0⟩) := by
  have known := run.locksKnown
  obtain ⟨seat, hseat, hlast⟩ := known.clients c id hc
  obtain ⟨current, device, report, hreport, hreported⟩ := known.seats id seat hseat
  refine ⟨seat, hseat, hlast, device, report, hreport, hreported, fun hne => ?_⟩
  obtain ⟨layout, hlayout⟩ := Seat.exists_maskLayout hne
  refine ⟨layout, Seat.maskLayout_eq_some.mp hlayout, ?_⟩
  rw [current layout hlayout, hreported]
  rfl

/-- A client connects, Caps Lock is pressed, and another client connects. -/
def capsLock : List (Action × World Unit) :=
  [(.message 0 (.hello 0 1 .desktop), ⟨(), 1⟩), (.message 0 (.connect 1 ":0"), ⟨(), 1⟩),
    (.event 0 (.keyboardState 0 2), ⟨(), 2⟩), (.message 1 (.hello 0 1 .desktop), ⟨(), 2⟩),
    (.message 1 (.connect 1 ":0"), ⟨(), 2⟩)]

/-- The first client is told of the change, and the second one when it comes. -/
theorem capsLock_told :
    let steps := fresh.play Seat.twoGroupServer capsLock
    let b := fresh.finish steps
    locksTold 0 steps = [⟨false, false⟩, ⟨true, false⟩] ∧ locksTold 1 steps = [⟨true, false⟩] ∧
      (b.seats.get? 0).map (·.layouts.all.map Layout.group) = some [0, 1] ∧
      ∃ seat, b.seats.get? 0 = some seat ∧
        (locksTold 1 steps).getLast? = some seat.keyboard.locks := by
  intro steps b
  obtain ⟨attached, first, second, groups⟩ : b.seatOf 1 = some 0 ∧
      locksTold 0 steps = [⟨false, false⟩, ⟨true, false⟩] ∧ locksTold 1 steps = [⟨true, false⟩] ∧
      (b.seats.get? 0).map (·.layouts.all.map Layout.group) = some [0, 1] := by decide +kernel
  obtain ⟨seat, hseat, hlast, -⟩ :=
    Run.locks_told (run_play Seat.twoGroupServer fresh capsLock) attached
  exact ⟨first, second, groups, seat, hseat, hlast⟩

end Broker

end InputBridge
