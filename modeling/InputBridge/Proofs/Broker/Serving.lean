-- SUMMARY: Requests and departures change no lock keys, and concern nobody but their client.
import InputBridge.Proofs.Broker.Attachment
import InputBridge.Proofs.SharedSeats.Quiet

/-!
# Serving a client

What a client asks for, and its departure, leave the lock keys of every seat alone, and are
of no concern to other clients. Only a client that takes a seat is told something: the lock
keys of that seat.
-/

namespace InputBridge

namespace Broker

variable {σ : Type} {S : DisplayServer σ} {b b' b'' : Broker} {c : ClientId} {id : SeatId}
  {seat : Seat} {window : WindowId} {handle : Handle} {out : List Outbound}

/-- From `b` to `b'` at most one client is served, which may come to a seat. -/
structure Served (S : DisplayServer σ) (c : ClientId) (b : Broker) (out : List Outbound)
    (b' : Broker) : Prop where
  seats : b.seats.Quiet S b'.seats
  others : ∀ c', c' ≠ c → b'.seatOf c' = b.seatOf c'
  own : out = [] ∧ (b'.seatOf c = b.seatOf c ∨ b'.seatOf c = none) ∨
    ∃ id seat, b'.seatOf c = some id ∧ b'.seats.get? id = some seat ∧
      out = [⟨c, .lockState 0 seat.keyboard.locks⟩]

/-- Clients stay at their seats. -/
theorem Served.of_clients (hseats : b.seats.Quiet S b'.seats)
    (hclients : b'.clients = b.clients) : Served S c b [] b' where
  seats := hseats
  others c' _ := by rw [seatOf, hclients, seatOf]
  own := .inl ⟨rfl, .inl (by rw [seatOf, hclients, seatOf])⟩

theorem Served.refl (c : ClientId) (b : Broker) : Served S c b [] b :=
  .of_clients (.refl _) rfl

/-! ## Operations on a seat -/

theorem stopWindows_quiet {windows : List WindowId}
    (h : (stopWindows S id windows b).Yields b') : b.seats.Quiet S b'.seats := by
  induction windows generalizing b with
  | nil =>
    cases h.of_pure
    exact .refl _
  | cons window windows ih =>
    obtain ⟨seats, hrest, hseats⟩ := stopWindows_yields h
    have stopped : b.seats.Quiet S seats := by
      rcases hseats with ⟨-, rfl⟩ | ⟨seat, seat', r, hseat, hop, rfl⟩
      · exact .refl _
      · exact SharedSeats.set_quiet hseat (Seat.stopInput_rests hop)
    exact stopped.trans (ih hrest)

theorem carryOut_quiet {α : Type} {operation : Seat → Talk σ (α × Seat)} {a : α}
    (hseat : b.seats.get? id = some seat)
    (rests : ∀ a seat', (operation seat).Yields (a, seat') → seat.Rests seat')
    (h : (b.carryOut S id seat operation).Yields (a, b')) :
    b.seats.Quiet S b'.seats ∧ b'.clients = b.clients := by
  obtain ⟨seat₁, seat', hop, flushed, rfl⟩ := carryOut_yields h
  exact ⟨SharedSeats.set_quiet hseat ((rests a seat₁ hop).trans flushed.rests), rfl⟩

/-! ## Coming and going -/

theorem detach_quiet (h : (b.detach S c).Yields b') :
    b.seats.Quiet S b'.seats ∧ ∀ c', c' ≠ c → b'.seatOf c' = b.seatOf c' := by
  rcases detach_yields h with
    ⟨-, rfl⟩ | ⟨id, b₁, seats, seats', last, hid, hstop, hflushed, hrelease, rfl⟩
  · exact ⟨.refl _, fun _ _ => rfl⟩
  have stopped := stopWindows_quiet hstop
  obtain ⟨b₂, -, hclients, rfl⟩ := stopWindows_moves hstop
  have flushed : b₂.seats.Quiet S seats := by
    rcases hflushed with ⟨-, rfl⟩ | ⟨seat, seat', hseat, hflush, rfl⟩
    · exact .refl _
    · exact SharedSeats.set_quiet hseat (Seat.flushIfPending_undisturbed hflush).rests
  refine ⟨stopped.trans (flushed.trans (SharedSeats.release_quiet hrelease)), fun c' hne => ?_⟩
  -- the others are still listed with their seats
  rw [seatOf_insert, if_neg (Ne.symm hne), seatOf]

theorem removeClient_served (h : (b.removeClient S c).Yields b') : Served S c b [] b' := by
  unfold removeClient at h
  obtain ⟨b₁, hdetach, h⟩ := h.of_bind
  cases h.of_pure
  obtain ⟨quiet, others⟩ := detach_quiet hdetach
  refine ⟨quiet, fun c' hne => ?_, .inl ⟨rfl, .inr ?_⟩⟩
  · rw [← others c' hne, seatOf, Assoc.get?_erase, if_neg (Ne.symm hne), seatOf]
  · rw [seatOf, Assoc.get?_erase, if_pos rfl]
    rfl

theorem onConnect_served {requestId : UInt32} {display : String} {answer : Message}
    (h : (b.onConnect S c requestId display).Yields (answer, out, b')) :
    Served S c b out b' := by
  rcases onConnect_yields h with ⟨-, -, rfl, rfl⟩ | ⟨-, r, hattach, hwelcome⟩
  · exact .refl c _
  obtain ⟨b₁, hdetach, htaken⟩ := attach_yields hattach
  obtain ⟨quiet, others⟩ := detach_quiet hdetach
  rcases htaken with ⟨e, rfl, rfl⟩ | ⟨id, seats, rfl, htake, rfl⟩
  · obtain ⟨-, hnone⟩ := detach_moves hdetach
    cases hwelcome with
    | refused => exact ⟨quiet, others, .inl ⟨rfl, .inr hnone⟩⟩
  · cases hwelcome with
    | @connected _ seat hseat =>
      have took := SharedSeats.take_quiet htake
      refine ⟨quiet.trans took, fun c' hne => ?_, .inr ⟨id, seat, ?_, hseat, rfl⟩⟩
      · rw [seatOf_insert, if_neg (Ne.symm hne), ← others c' hne, seatOf]
      · rw [seatOf_insert, if_pos rfl]

/-! ## Messages -/

theorem onHello_served (requestId version : UInt32) :
    Served S c b [] (b.onHello c requestId version).2 := by
  unfold onHello
  split
  · exact .refl c b
  split
  · exact .refl c b
  · unfold addClient
    split
    · exact .refl c b
    · -- a client that is new has no seat
      refine ⟨.refl _, fun c' hne => ?_, .inl ⟨rfl, .inr ?_⟩⟩
      · rw [seatOf, Assoc.get?_insert, if_neg (Ne.symm hne), seatOf]
      · rw [seatOf, Assoc.get?_insert, if_pos rfl]
        rfl

theorem onStartInput_served {requestId : UInt32} {r : Response}
    (h : (b.onStartInput S c requestId window handle).Yields (r, b')) : Served S c b [] b' := by
  unfold onStartInput at h
  split at h
  · cases h.of_pure
    exact .refl c b
  · split at h
    · cases h.of_pure
      exact .refl c b
    · next id screen seat hworks =>
      obtain ⟨-, hseat, -⟩ := workingSeat_eq_ok hworks
      obtain ⟨⟨result, b₁⟩, hcarry, h⟩ := h.of_bind
      obtain ⟨quiet, hclients⟩ :=
        carryOut_quiet hseat (fun _ _ => Seat.startInput_rests) hcarry
      cases result with
      | ok _ =>
        cases h.of_pure
        exact .of_clients (by rwa [seats_ownWindow]) (by rwa [clients_ownWindow])
      | error e =>
        cases h.of_pure
        exact .of_clients quiet hclients

theorem onStopInput_served {requestId : UInt32} {r : Response}
    (h : (b.onStopInput S c requestId window).Yields (r, b')) : Served S c b [] b' := by
  unfold onStopInput at h
  split at h
  · cases h.of_pure
    exact .refl c b
  · next id hid =>
    split at h
    · cases h.of_pure
      exact .refl c b
    -- forgetting the window leaves the seats as they are
    · have forgot : b.seats.Quiet S (b.forgetWindow id window).seats := by
        rw [seats_forgetWindow]
        exact .refl _
      dsimp only at h
      split at h
      · cases h.of_pure
        exact .of_clients forgot clients_forgetWindow
      · next seat hseat =>
        obtain ⟨⟨old, b₁⟩, hcarry, h⟩ := h.of_bind
        cases h.of_pure
        obtain ⟨quiet, hclients⟩ :=
          carryOut_quiet hseat (fun _ _ => Seat.stopInput_rests) hcarry
        exact .of_clients (forgot.trans quiet) (hclients.trans clients_forgetWindow)

theorem Steered.served (h : Steered b b') : Served S c b [] b' := by
  rcases h with rfl | ⟨id, seat, seat', hseat, same, rfl⟩
  · exact .refl c _
  · exact .of_clients (SharedSeats.set_quiet hseat same.rests) rfl

theorem handle_served {m answer : Message} (h : (b.handle S c m).Yields (answer, out, b')) :
    Served S c b out b' := by
  cases m with
  | hello requestId version role =>
    cases h.of_pure
    exact onHello_served requestId version
  | connect requestId display => exact onConnect_served h
  | startInput requestId window handle =>
    obtain ⟨⟨r, b₁⟩, hstart, h⟩ := h.of_bind
    cases h.of_pure
    exact onStartInput_served hstart
  | stopInput requestId window =>
    obtain ⟨⟨r, b₁⟩, hstop, h⟩ := h.of_bind
    cases h.of_pure
    exact onStopInput_served hstop
  | clipCursor requestId rect =>
    obtain ⟨⟨r, b₁⟩, hclip, h⟩ := h.of_bind
    cases h.of_pure
    exact (onClipCursor_steered hclip).served
  | setCursorPos requestId x y =>
    obtain ⟨⟨r, b₁⟩, hwarp, h⟩ := h.of_bind
    cases h.of_pure
    exact (onSetCursorPos_steered hwarp).served
  | getTables | listLayouts | helloAck | input | languageChange | lockState | response =>
    cases h.of_pure
    exact .refl c b

end Broker

end InputBridge
