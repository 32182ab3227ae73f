-- SUMMARY: A step leaves the seats, records, calls and attachments of others alone.
import InputBridge.Proofs.Broker.Membership
import InputBridge.Proofs.Broker.Silence
import InputBridge.Proofs.SharedSeats.Isolation

/-!
# Displays do not disturb each other

A client has to do with the seat it is attached to, and when it connects with the one it comes to
as well; an event has to do with its own seat. All other seats are left exactly as they were, with
the windows and handles that are recorded for them, and so are the attachments of all other
clients.
-/

namespace InputBridge

namespace Broker

open Talk (Leads)

variable {σ : Type} {S : DisplayServer σ} {b b' b₁ : Broker} {c : ClientId} {id : SeatId}
  {seat : Seat} {window : WindowId} {handle : Handle} {l l' m : List Call} {r : Response}
  {requestId : UInt32} {ids : SeatId → Prop}

/-- The seat `id` is left alone, and what is recorded for it stays. -/
structure Spares (id : SeatId) (b : Broker) (l : List Call) (b' : Broker) (l' : List Call) :
    Prop where
  seats : b.seats.Spares id l b'.seats l'
  windows : ∀ window, b'.windows.get? (id, window) = b.windows.get? (id, window)
  handles : ∀ handle, b'.handles.get? (id, handle) = b.handles.get? (id, handle)

theorem Spares.trans (h : Spares id b l b₁ m) (h' : Spares id b₁ m b' l') :
    Spares id b l b' l' where
  seats := h.seats.trans h'.seats
  windows window := (h'.windows window).trans (h.windows window)
  handles handle := (h'.handles handle).trans (h.handles handle)

/-- Where only the seats change, the records need not be looked at. -/
theorem Spares.of_seats {seats : SharedSeats} (h : b.seats.Spares id l seats l') :
    Spares id b l { b with seats } l' :=
  ⟨h, fun _ => rfl, fun _ => rfl⟩

theorem forgetWindow_spares {other : SeatId} (hne : other ≠ id) :
    Spares id b l (b.forgetWindow other window) l where
  seats := by
    rw [seats_forgetWindow]
    exact .refl id _ l
  windows w := by rw [windows_forgetWindow, if_neg (by simp [hne])]
  handles h := by
    refine Option.ext fun c => ?_
    rw [handles_forgetWindow]
    exact and_iff_left fun hgone => hne hgone.1

theorem ownWindow_spares {other : SeatId} (hne : other ≠ id) :
    Spares id b l (b.ownWindow other window handle c) l where
  seats := by
    rw [seats_ownWindow]
    exact .refl id _ l
  windows w := by rw [windows_ownWindow, if_neg (by simp [hne])]
  handles h := by
    rw [handles_ownWindow_of_ne (by simp [hne])]
    exact (forgetWindow_spares (l := l) hne).handles h

/-! ## Changes and the seats they have to do with -/

/-- A change of the broker that has to do with seats among `ids` only, with what is asked
meanwhile. -/
inductive Touches (S : DisplayServer σ) (ids : SeatId → Prop) :
    Broker → List Call → Broker → List Call → Prop where
  | refl {b : Broker} {l : List Call} : Touches S ids b l b l
  | trans {b b₁ b' : Broker} {l m l' : List Call} (h : Touches S ids b l b₁ m)
      (h' : Touches S ids b₁ m b' l') : Touches S ids b l b' l'
  | clients {b : Broker} {l : List Call} (clients : Assoc ClientId (Option SeatId)) :
      Touches S ids b l { b with clients } l
  | forget {b : Broker} {l : List Call} {id : SeatId} (window : WindowId) (hid : ids id) :
      Touches S ids b l (b.forgetWindow id window) l
  | own {b : Broker} {l : List Call} {id : SeatId} (window : WindowId) (handle : Handle)
      (c : ClientId) (hid : ids id) : Touches S ids b l (b.ownWindow id window handle c) l
  | proceed {b : Broker} {l l' : List Call} {id : SeatId} {seat seat' : Seat} (hid : ids id)
      (hseat : b.seats.get? id = some seat) (stays : seat.StaysOnLink l seat' l') :
      Touches S ids b l { b with seats := b.seats.set id seat' } l'
  | fail {b : Broker} {l : List Call} {id : SeatId} (hid : ids id) :
      Touches S ids b l (b.markFailed id) l
  | release {b : Broker} {l l' : List Call} {id : SeatId} {last : Bool} {seats : SharedSeats}
      (hid : ids id) (h : (b.seats.release S.recorded id).Leads l (last, seats) l') :
      Touches S ids b l { b with seats } l'
  | take {b : Broker} {l l' : List Call} {display : String} {r : Except SeatError SeatId}
      {seats : SharedSeats} (hids : ∀ id, r = .ok id → ids id)
      (h : (b.seats.take S.recorded display).Leads l (r, seats) l') :
      Touches S ids b l { b with seats } l'

/-- All other seats are spared. The links stay numbered meanwhile, so that they can be told
apart in what comes next. -/
theorem Touches.spares (h : Touches S ids b l b' l') (numbered : b.seats.Numbered l)
    (hid : ¬ids id) : Spares id b l b' l' ∧ b'.seats.Numbered l' := by
  -- what the broker touches is under other ids
  have apart : ∀ {other}, ids other → other ≠ id := fun hother heq => hid (heq ▸ hother)
  induction h with
  | refl => exact ⟨.of_seats (.refl id _ _), numbered⟩
  | trans _ _ ih ih' =>
    obtain ⟨spares, numbered⟩ := ih numbered
    obtain ⟨spares', numbered⟩ := ih' numbered
    exact ⟨spares.trans spares', numbered⟩
  | clients => exact ⟨⟨.refl id _ _, fun _ => rfl, fun _ => rfl⟩, numbered⟩
  | forget window hother =>
    refine ⟨forgetWindow_spares (apart hother), ?_⟩
    rwa [seats_forgetWindow]
  | own window handle c hother =>
    refine ⟨ownWindow_spares (apart hother), ?_⟩
    rwa [seats_ownWindow]
  | proceed hother hseat stays =>
    exact ⟨.of_seats (SharedSeats.set_spares numbered hseat stays (apart hother)),
      SharedSeats.set_numbered numbered hseat stays⟩
  | fail hother =>
    exact ⟨.of_seats (SharedSeats.markFailed_spares (apart hother)),
      (SharedSeats.markFailed_talks _ _ _).numbered numbered⟩
  -- closing the other seat closes another link, since links are numbered apart
  | release hother h =>
    exact ⟨.of_seats (SharedSeats.release_spares numbered h (apart hother)),
      (SharedSeats.release_talks h).numbered numbered⟩
  | take hids h =>
    exact ⟨.of_seats (SharedSeats.take_spares numbered h fun heq => hid (hids id heq)),
      (SharedSeats.take_talks h).numbered numbered⟩

theorem touches_of_pure {α : Type} {a a' : α}
    (h : Leads (pure (a, b) : Talk (Recorded σ) (α × Broker)) l (a', b') l') :
    Touches S ids b l b' l' := by
  obtain ⟨heq, rfl⟩ := h.of_pure
  cases heq
  exact .refl

theorem carryOut_touches {α : Type} {operation : Seat → Talk (Recorded σ) (α × Seat)} {a : α}
    (hid : ids id) (hseat : b.seats.get? id = some seat)
    (hqueues : ∀ a seat₁ m, (operation seat).Leads l (a, seat₁) m → seat.Queues l seat₁ m)
    (h : (b.carryOut S.recorded id seat operation).Leads l (a, b') l') :
    Touches S ids b l b' l' := by
  obtain ⟨seat', hdone, rfl⟩ := onSeat_leads h
  obtain ⟨⟨a', seat₁⟩, m, hoperation, hdone⟩ := hdone.of_bind
  obtain ⟨seat₂, m', hflush, hdone⟩ := hdone.of_bind
  obtain ⟨heq, rfl⟩ := hdone.of_pure
  cases heq
  exact .proceed hid hseat ((hqueues a seat₁ m hoperation).settles hflush).staysOnLink

/-! ## Coming and going -/

theorem stopWindows_touches {windows : List WindowId} (hid : ids id)
    (h : (stopWindows S.recorded id windows b).Leads l b' l') : Touches S ids b l b' l' := by
  induction windows generalizing b l with
  | nil =>
    obtain ⟨rfl, rfl⟩ := h.of_pure
    exact .refl
  | cons window windows ih =>
    have hsame : (b.forgetWindow id window).seats = b.seats := seats_forgetWindow
    obtain ⟨seats, m, hrest, hstop⟩ := stopWindows_leads h
    -- each window is forgotten first and then stopped at the seat
    refine .trans (.forget window hid) (.trans ?_ (ih hrest))
    rcases hstop with ⟨-, rfl, rfl⟩ | ⟨seat, seat', r, hseat, hop, rfl⟩
    · rw [← hsame]
      exact .refl
    · rw [← hsame] at hseat ⊢
      exact .proceed hid hseat (Seat.stopInput_calls hop).staysOnLink

theorem detach_touches (hids : ∀ id, b.seatOf c = some id → ids id)
    (h : (b.detach S.recorded c).Leads l b' l') : Touches S ids b l b' l' := by
  rcases detach_leads h with
    ⟨-, rfl, rfl⟩ | ⟨id, b₁, m, seats, m', seats', last, hid, hstop, hflushed, hrelease, rfl⟩
  · exact .refl
  refine .trans (.clients _) (.trans (stopWindows_touches (hids id hid) hstop) ?_)
  have flushed : Touches S ids b₁ m { b₁ with seats } m' := by
    rcases hflushed with ⟨-, rfl, rfl⟩ | ⟨seat, seat', hseat, hflush, rfl⟩
    · exact .refl
    · exact .proceed (hids id hid) hseat ((Seat.Queues.refl seat m).settles hflush).staysOnLink
  have released : Touches S ids { b₁ with seats } m' { b₁ with seats := seats' } l' :=
    .release (hids id hid) hrelease
  exact flushed.trans released

theorem removeClient_touches (hids : ∀ id, b.seatOf c = some id → ids id)
    (h : (b.removeClient S.recorded c).Leads l b' l') : Touches S ids b l b' l' := by
  unfold removeClient at h
  obtain ⟨b₁, m, hdetach, h⟩ := h.of_bind
  obtain ⟨rfl, rfl⟩ := h.of_pure
  exact .trans (detach_touches hids hdetach) (.clients _)

theorem attach_touches {display : String} {result : Except SeatError SeatId}
    (hids : ∀ id, b.seatOf c = some id → ids id) (hnew : ∀ id, result = .ok id → ids id)
    (h : (b.attach S.recorded c display).Leads l (result, b') l') : Touches S ids b l b' l' := by
  obtain ⟨b₁, m, seats, hdetach, htake, hrest⟩ := attach_leads h
  have took : Touches S ids b l { b₁ with seats } l' :=
    .trans (detach_touches hids hdetach) (.take hnew htake)
  rcases hrest with ⟨-, rfl, rfl⟩ | ⟨id, -, rfl⟩
  · exact took
  · exact took.trans (.clients _)

/-! ## Requests -/

/-- A client that connects has to do with the seat it leaves and the one it comes to. -/
theorem onConnect_touches {display : String} {answer : Message} {out : List Outbound}
    (h : (b.onConnect S.recorded c requestId display).Leads l (answer, out, b') l') :
    Touches S (fun id => b.seatOf c = some id ∨ b'.seatOf c = some id) b l b' l' := by
  rcases onConnect_leads h with ⟨-, -, -, rfl, rfl⟩ | ⟨-, r, hattach, -⟩
  · exact .refl
  · refine attach_touches (fun id hid => .inl hid) (fun id hid => .inr ?_) hattach
    exact seatOf_of_attach (hid ▸ hattach.yields)

theorem onStartInput_touches (hids : ∀ id, b.seatOf c = some id → ids id)
    (h : (b.onStartInput S.recorded c requestId window handle).Leads l (r, b') l') :
    Touches S ids b l b' l' := by
  unfold onStartInput at h
  split at h
  · exact touches_of_pure h
  split at h
  · exact touches_of_pure h
  · next id screen seat hworks =>
    obtain ⟨hid, hseat, -⟩ := workingSeat_eq_ok hworks
    obtain ⟨⟨result, b₁⟩, m, hcarry, h⟩ := h.of_bind
    have carried := carryOut_touches (S := S) (hids id hid) hseat
      (fun _ _ _ => Seat.startInput_calls) hcarry
    cases result with
    | ok u =>
      obtain ⟨heq, rfl⟩ := h.of_pure
      cases heq
      exact carried.trans (.own window handle c (hids id hid))
    | error e =>
      obtain ⟨heq, rfl⟩ := h.of_pure
      cases heq
      exact carried

theorem onStopInput_touches (hids : ∀ id, b.seatOf c = some id → ids id)
    (h : (b.onStopInput S.recorded c requestId window).Leads l (r, b') l') :
    Touches S ids b l b' l' := by
  unfold onStopInput at h
  split at h
  · exact touches_of_pure h
  · next id hid =>
    split at h
    · exact touches_of_pure h
    · refine .trans (.forget window (hids id hid)) ?_
      dsimp only at h
      split at h
      · exact touches_of_pure h
      · next seat hseat =>
        obtain ⟨⟨old, b₁⟩, m, hcarry, h⟩ := h.of_bind
        obtain ⟨heq, rfl⟩ := h.of_pure
        cases heq
        exact carryOut_touches (hids id hid) hseat (fun _ _ _ => Seat.stopInput_calls) hcarry

theorem onClipCursor_touches {rect : Option Rect} (hids : ∀ id, b.seatOf c = some id → ids id)
    (h : (b.onClipCursor S.recorded c requestId rect).Leads l (r, b') l') :
    Touches S ids b l b' l' := by
  unfold onClipCursor at h
  split at h
  · exact touches_of_pure h
  dsimp only at h
  split at h
  · exact touches_of_pure h
  · next hworks =>
    obtain ⟨hid, hseat, hlive⟩ := workingSeat_eq_ok hworks
    obtain ⟨⟨result, b₁⟩, m, hcarry, h⟩ := h.of_bind
    obtain ⟨heq, rfl⟩ := h.of_pure
    cases heq
    exact carryOut_touches (hids _ hid) hseat (fun _ _ _ => Seat.clip_calls hlive) hcarry

theorem onSetCursorPos_touches {x y : Int32} (hids : ∀ id, b.seatOf c = some id → ids id)
    (h : (b.onSetCursorPos S.recorded c requestId x y).Leads l (r, b') l') :
    Touches S ids b l b' l' := by
  unfold onSetCursorPos at h
  split at h
  · exact touches_of_pure h
  · next hworks =>
    obtain ⟨hid, hseat, hlive⟩ := workingSeat_eq_ok hworks
    obtain ⟨⟨result, b₁⟩, m, hcarry, h⟩ := h.of_bind
    obtain ⟨heq, rfl⟩ := h.of_pure
    cases heq
    exact carryOut_touches (hids _ hid) hseat (fun _ _ _ => Seat.warp_calls hlive) hcarry

theorem onHello_touches (version : UInt32) :
    Touches S ids b l (b.onHello c requestId version).2 l := by
  unfold onHello
  split
  · exact .refl
  split
  · exact .refl
  · unfold addClient
    split
    · exact .refl
    · exact .clients _

/-- A message has to do with the seats that its client has before and after it. -/
theorem handle_touches {message answer : Message} {out : List Outbound}
    (h : (b.handle S.recorded c message).Leads l (answer, out, b') l') :
    Touches S (fun id => b.seatOf c = some id ∨ b'.seatOf c = some id) b l b' l' := by
  cases message with
  | hello requestId version role =>
    obtain ⟨heq, rfl⟩ := h.of_pure
    obtain rfl : b' = (b.onHello c requestId version).2 := congrArg (·.2.2) heq
    exact onHello_touches version
  -- only here the seat after the message may be another one than that before
  | connect requestId display => exact onConnect_touches h
  | startInput requestId window handle =>
    obtain ⟨r, hstart⟩ := alone_leads h
    exact onStartInput_touches (fun _ => .inl) hstart
  | stopInput requestId window =>
    obtain ⟨r, hstop⟩ := alone_leads h
    exact onStopInput_touches (fun _ => .inl) hstop
  | clipCursor requestId rect =>
    obtain ⟨r, hclip⟩ := alone_leads h
    exact onClipCursor_touches (fun _ => .inl) hclip
  | setCursorPos requestId x y =>
    obtain ⟨r, hwarp⟩ := alone_leads h
    exact onSetCursorPos_touches (fun _ => .inl) hwarp
  | getTables | listLayouts | helloAck | input | languageChange | lockState | response =>
    obtain ⟨heq, rfl⟩ := h.of_pure
    cases heq
    exact .refl

/-! ## Events -/

/-- An event has to do with its own seat, and changes nothing else of the broker. -/
theorem dispatch_touches {event : Event} {out : List Outbound}
    (h : (b.dispatch S.recorded id event).Leads l (out, b') l') :
    Touches S (· = id) b l b' l' ∧ ∃ seats, b' = { b with seats } := by
  unfold dispatch at h
  split at h
  · obtain ⟨heq, rfl⟩ := h.of_pure
    cases heq
    exact ⟨.refl, b.seats, rfl⟩
  · next seat hseat =>
    obtain ⟨⟨seat', deliveries⟩, m, hdispatch, h⟩ := h.of_bind
    obtain ⟨heq, rfl⟩ := h.of_pure
    cases heq
    -- the seat goes on on its own link, and the others are not asked for anything
    have went : Touches S (· = id) b l { b with seats := b.seats.set id seat' } l' :=
      .proceed rfl hseat (Seat.dispatch_calls hdispatch).staysOnLink
    split
    · exact ⟨went.trans (.fail rfl), _, rfl⟩
    · exact ⟨went, _, rfl⟩

/-! ## Steps -/

variable {steps : List Step} {s : Step} {config : BrokerConfig}

theorem Step.Calls.touches_of_client (calls : s.Calls S l l')
    (haction : (∃ m, s.action = .message c m) ∨ s.action = .departure c) :
    Touches S (fun id => s.before.seatOf c = some id ∨ s.after.seatOf c = some id)
      s.before l s.after l' := by
  rcases haction with ⟨message, haction⟩ | haction
  · obtain ⟨answer, -, hhandle⟩ := calls.of_message haction
    exact handle_touches hhandle
  · exact removeClient_touches (fun _ => .inl) (calls.of_departure haction)

theorem Step.Calls.touches_of_seat (calls : s.Calls S l l')
    (haction : (∃ e, s.action = .event id e) ∨ s.action = .failure id) :
    Touches S (· = id) s.before l s.after l' ∧ ∃ seats, s.after = { s.before with seats } := by
  rcases haction with ⟨event, haction⟩ | haction
  · exact dispatch_touches (calls.of_event haction)
  · obtain ⟨hafter, rfl⟩ := calls.of_failure haction
    rw [hafter]
    exact ⟨.fail rfl, _, rfl⟩

/-- Whatever a client sends, and when it departs, the attachments of all other clients stay, and
every seat is spared but the one it was attached to before and the one it is attached to after. An
event or a failure of a seat leaves all clients, windows and handles as they are, and spares every
other seat. -/
theorem RecordedRun.isolated (run : RecordedRun S { config } [] steps s.before l)
    (calls : s.Calls S l l') :
    (∀ c, (∃ m, s.action = .message c m) ∨ s.action = .departure c →
      (∀ other, other ≠ c → s.after.clients.get? other = s.before.clients.get? other) ∧
      ∀ id, s.before.seatOf c ≠ some id → s.after.seatOf c ≠ some id →
        Spares id s.before l s.after l') ∧
    ∀ id, (∃ e, s.action = .event id e) ∨ s.action = .failure id →
      s.after.clients = s.before.clients ∧ s.after.windows = s.before.windows ∧
      s.after.handles = s.before.handles ∧
      ∀ other, other ≠ id → Spares other s.before l s.after l' := by
  have possible := calls.possible
  refine ⟨fun c haction => ⟨fun other hne => ?_, fun id hbefore hafter => ?_⟩,
    fun id haction => ?_⟩
  · rcases haction with ⟨m, haction⟩ | haction
    · obtain ⟨answer, -, hhandle⟩ := possible.of_message haction
      exact handle_clients hhandle (Ne.symm hne)
    · rw [removeClient_clients (possible.of_departure haction).2, if_neg (Ne.symm hne)]
  · exact ((calls.touches_of_client haction).spares run.numbered (not_or.mpr ⟨hbefore, hafter⟩)).1
  · obtain ⟨touches, seats, hafter⟩ := calls.touches_of_seat haction
    refine ⟨by rw [hafter], by rw [hafter], by rw [hafter], fun other hne => ?_⟩
    exact (touches.spares run.numbered hne).1

/-- Two clients, each with a window at a display of its own. -/
def twoDisplays : List (Action × World Bool) :=
  let actions : List Action := [.message 0 (.hello 0 1 .desktop), .message 1 (.hello 0 1 .desktop),
    .message 0 (.connect 1 ":0"), .message 1 (.connect 1 ":1"),
    .message 0 (.startInput 2 0x500 1), .message 1 (.startInput 2 0x600 1)]
  actions.map fun action => (action, ⟨false, 1⟩)

/-- The first client goes on to a third display: its window is stopped, its old seat is closed and
a new one is set up, which are 12 calls. The second client's seat is spared, and by an event of
the first seat too. -/
theorem twoDisplays_isolated :
    let played := fresh.playRecorded plainServer [] twoDisplays
    let b := fresh.finish played.1
    ∃ moves l₁ locks l₂,
      b.recordedStepOf? plainServer (.message 0 (.connect 3 ":2")) ⟨false, 1⟩ played.2 =
        some (moves, l₁) ∧
      b.recordedStepOf? plainServer (.event 0 (.keyboardState 0 2)) ⟨false, 1⟩ played.2 =
        some (locks, l₂) ∧
      b.seatOf 0 = some 0 ∧ moves.after.seatOf 0 = some 2 ∧
      l₁.length = played.2.length + 12 ∧ b.ownerOf 1 0x600 = some 1 ∧
      moves.after.clients.get? 1 = some (some 1) ∧
      Spares 1 b played.2 moves.after l₁ ∧ Spares 1 b played.2 locks.after l₂ := by
  intro played b
  have run : RecordedRun plainServer fresh [] played.1 b played.2 := recordedRun_play ..
  obtain ⟨hold, howner, hother⟩ : b.seatOf 0 = some 0 ∧ b.ownerOf 1 0x600 = some 1 ∧
      b.clients.get? 1 = some (some 1) := by decide +kernel
  obtain ⟨⟨moves, l₁⟩, hmoves, hnew, hlength⟩ : ∃ taken ∈ b.recordedStepOf? plainServer
      (.message 0 (.connect 3 ":2")) ⟨false, 1⟩ played.2,
      taken.1.after.seatOf 0 = some 2 ∧ taken.2.length = played.2.length + 12 := by decide +kernel
  obtain ⟨⟨locks, l₂⟩, hlocks⟩ := Option.isSome_iff_exists.mp (by decide +kernel :
    (b.recordedStepOf? plainServer (.event 0 (.keyboardState 0 2)) ⟨false, 1⟩ played.2).isSome)
  refine ⟨moves, l₁, locks, l₂, hmoves, hlocks, hold, hnew, hlength, howner, ?_⟩
  obtain ⟨hbefore, haction, moved⟩ := of_recordedStepOf? hmoves
  obtain ⟨hbefore', hevent, locked⟩ := of_recordedStepOf? hlocks
  -- how the broker came to be there is of no account from here on
  clear_value b played
  rw [← hbefore] at run hold hother
  obtain ⟨hclients, hspares⟩ := (RecordedRun.isolated run moved).1 0 (.inl ⟨_, haction⟩)
  have spared := hspares 1 (by simp [hold]) (by simp [hnew])
  rw [hbefore] at run spared
  rw [← hbefore'] at run
  obtain ⟨-, -, -, hspares'⟩ := (RecordedRun.isolated run locked).2 0 (.inl ⟨_, hevent⟩)
  have spared' := hspares' 1 (by decide)
  rw [hbefore'] at spared'
  exact ⟨(hclients 1 (by decide)).trans hother, spared, spared'⟩

end Broker

end InputBridge
