-- SUMMARY: The elementary changes of the broker, and the operations on seats as series of them.
import InputBridge.Proofs.Broker.Records
import InputBridge.Proofs.Broker.Run
import InputBridge.Proofs.SharedSeats
import Mathlib.Logic.Relation

/-!
# Elementary changes of the broker

Whatever the broker handles, its state changes by a few kinds of moves: a client comes,
a seat goes on or fails, a window is forgotten at its seat and in the broker's records,
a client leaves its seat or takes another, a client goes. Registrations are kept apart
from the moves: one that is granted adds to the records, and one that is refused can take
a window away from the seat that the records keep.
-/

namespace InputBridge

namespace Broker

variable {σ : Type} {S : DisplayServer σ} {b b' : Broker} {c : ClientId} {id other : SeatId}
  {seat seat' : Seat} {window : WindowId} {handle : Handle}

/-- A change without a registration. -/
inductive Move (S : DisplayServer σ) : Broker → Broker → Prop where
  /-- A client says hello. -/
  | greet {b : Broker} {c : ClientId} : b.clients.get? c = none →
      Move S b { b with clients := b.clients.insert c none }
  /-- A seat handles an event or a request, or sends what it queued. -/
  | proceed {b : Broker} {id : SeatId} {seat seat' : Seat} :
      b.seats.get? id = some seat → seat.Keeps seat' →
      Move S b { b with seats := b.seats.set id seat' }
  /-- A seat fails and is not offered any more. -/
  | fail {b : Broker} (id : SeatId) : Move S b (b.markFailed id)
  /-- A window is forgotten whose seat is gone. -/
  | forget {b : Broker} {id : SeatId} (window : WindowId) : b.seats.get? id = none →
      Move S b (b.forgetWindow id window)
  /-- A window is stopped. -/
  | stop {b : Broker} {id : SeatId} {seat seat' : Seat} {window : WindowId} :
      b.seats.get? id = some seat → seat.Continues seat' →
      seat'.windows = (seat.windows.remove window).2 →
      Move S b { b.forgetWindow id window with seats := b.seats.set id seat' }
  /-- A client that has no windows any more lets its seat go. -/
  | leave {b : Broker} {c : ClientId} {id : SeatId} {last : Bool} {seats : SharedSeats} :
      b.seatOf c = some id → (∀ window handle, b.windows.get? (id, window) ≠ some (c, handle)) →
      (b.seats.release S id).Yields (last, seats) →
      Move S b { b with clients := b.clients.insert c none, seats }
  /-- A client without a seat takes one. -/
  | join {b : Broker} {c : ClientId} {display : String} {id : SeatId} {seats : SharedSeats} :
      b.seatOf c = none → (b.seats.take S display).Yields (.ok id, seats) →
      Move S b { b with clients := b.clients.insert c (some id), seats }
  /-- A client without a seat goes. -/
  | depart {b : Broker} {c : ClientId} : b.seatOf c = none →
      Move S b { b with clients := b.clients.erase c }

abbrev Moves (S : DisplayServer σ) : Broker → Broker → Prop := Relation.ReflTransGen (Move S)

theorem Moves.invariant {I : Broker → Prop} (moves : Moves S b b') (hstart : I b)
    (hmove : ∀ b b', I b → Move S b b' → I b') : I b' := by
  induction moves with
  | refl => exact hstart
  | tail _ move ih => exact hmove _ _ ih move

/-- A client registers a window at its seat, which works. -/
def Registration (b b' : Broker) (c : ClientId) (id : SeatId) (window : WindowId)
    (handle : Handle) : Prop :=
  b.seatOf c = some id ∧
    ∃ seat seat', b.seats.get? id = some seat ∧ seat.failed = false ∧ seat.Continues seat' ∧
      seat.windows.insert? window handle = some seat'.windows ∧
      b' = { b with seats := b.seats.set id seat' }.ownWindow id window handle c

/-- A client is refused a window, which its seat does not have any more. -/
def Withdrawal (b b' : Broker) (c : ClientId) (id : SeatId) (window : WindowId)
    (handle : Handle) : Prop :=
  b.seatOf c = some id ∧
    ∃ seat seat' windows, b.seats.get? id = some seat ∧ seat.Continues seat' ∧
      seat.windows.insert? window handle = some windows ∧
      seat'.windows = (windows.remove window).2 ∧ b' = { b with seats := b.seats.set id seat' }

/-! ## Operations on a seat -/

theorem onSeat_yields {α : Type} {operation : Seat → Talk σ (α × Seat)} {a : α}
    (h : (b.onSeat id seat operation).Yields (a, b')) :
    ∃ seat', (operation seat).Yields (a, seat') ∧
      b' = { b with seats := b.seats.set id seat' } := by
  unfold onSeat at h
  obtain ⟨⟨a', seat'⟩, hoperation, h⟩ := h.of_bind
  cases h.of_pure
  exact ⟨seat', hoperation, rfl⟩

theorem carryOut_yields {α : Type} {operation : Seat → Talk σ (α × Seat)} {a : α}
    (h : (b.carryOut S id seat operation).Yields (a, b')) :
    ∃ seat₁ seat', (operation seat).Yields (a, seat₁) ∧ seat₁.Undisturbed seat' ∧
      b' = { b with seats := b.seats.set id seat' } := by
  obtain ⟨seat', hseat, rfl⟩ := onSeat_yields h
  obtain ⟨⟨a', seat₁⟩, hoperation, hseat⟩ := hseat.of_bind
  obtain ⟨seat₂, hflush, hseat⟩ := hseat.of_bind
  cases hseat.of_pure
  exact ⟨seat₁, seat', hoperation, Seat.flushIfPending_undisturbed hflush, rfl⟩

/-! ## Stopping windows -/

/-- Windows are stopped one after the other, each of them at its seat if that is there. -/
theorem stopWindows_yields {windows : List WindowId}
    (h : (stopWindows S id (window :: windows) b).Yields b') :
    ∃ seats, (stopWindows S id windows { b.forgetWindow id window with seats }).Yields b' ∧
      (b.seats.get? id = none ∧ seats = b.seats ∨ ∃ seat seat' r, b.seats.get? id = some seat ∧
        (seat.stopInput S window).Yields (r, seat') ∧ seats = b.seats.set id seat') := by
  have hseats : (b.forgetWindow id window).seats = b.seats := seats_forgetWindow
  unfold stopWindows at h
  dsimp only at h
  split at h
  · next hnone => exact ⟨_, h, .inl ⟨hseats ▸ hnone, hseats⟩⟩
  · next seat hseat =>
    obtain ⟨⟨r, b₁⟩, hstop, h⟩ := h.of_bind
    obtain ⟨seat', hop, rfl⟩ := onSeat_yields hstop
    exact ⟨_, h, .inr ⟨seat, seat', r, hseats ▸ hseat, hop, by rw [hseats]⟩⟩

/-- Stopping windows is a series of moves, whoever is attached meanwhile. -/
theorem stopWindows_moves {windows : List WindowId} {clients : Assoc ClientId (Option SeatId)}
    (h : (stopWindows S id windows { b with clients }).Yields b') :
    ∃ b₁, Moves S b b₁ ∧ b₁.clients = b.clients ∧ b' = { b₁ with clients } := by
  -- the clients stand apart in the statement: they change before the windows are stopped
  induction windows generalizing b with
  | nil =>
    cases h.of_pure
    exact ⟨b, .refl, rfl, rfl⟩
  | cons window windows ih =>
    obtain ⟨seats, h, hseats⟩ := stopWindows_yields h
    rw [forgetWindow_withClients] at h
    have move : Move S b { b.forgetWindow id window with seats } := by
      rcases hseats with ⟨hgone, rfl⟩ | ⟨seat, seat', r, hseat, hstop, rfl⟩
      · have hsame : (b.forgetWindow id window).seats = b.seats := seats_forgetWindow
        rw [← hsame]
        exact .forget window hgone
      · obtain ⟨continues, -, hwindows⟩ := Seat.stopInput_yields hstop
        exact .stop hseat continues hwindows
    obtain ⟨b₁, moves, hclients, rfl⟩ := ih (b := { b.forgetWindow id window with seats }) h
    exact ⟨b₁, .head move moves, hclients.trans clients_forgetWindow, rfl⟩

/-- The windows that were stopped are recorded no more, and the others as before. -/
theorem windows_stopWindows {windows : List WindowId}
    (h : (stopWindows S id windows b).Yields b') : b'.windows.get? (other, window) =
      if id = other ∧ window ∈ windows then none else b.windows.get? (other, window) := by
  induction windows generalizing b with
  | nil =>
    cases h.of_pure
    simp
  | cons w ws ih =>
    obtain ⟨seats, h, -⟩ := stopWindows_yields h
    rw [ih h, windows_forgetWindow]
    by_cases hid : id = other
    · by_cases hw : w = window
      · simp [hid, hw]
      · simp [hid, hw, Ne.symm hw]
    · simp [hid]

/-! ## Coming and going -/

theorem seatOf_insert (clients : Assoc ClientId (Option SeatId)) (seats : SharedSeats)
    (r : Option SeatId) (c' : ClientId) :
    seatOf { b with clients := clients.insert c r, seats } c' =
      if c = c' then r else (clients.get? c').join := by
  rw [seatOf, Assoc.get?_insert]
  split <;> rfl

/-- A client that detaches has its windows stopped; its seat, if it is there, sends what it queued
and is let go. -/
theorem detach_yields (h : (b.detach S c).Yields b') :
    b.seatOf c = none ∧ b' = b ∨ ∃ id b₁ seats seats' last, b.seatOf c = some id ∧
      (stopWindows S id (b.windowsOf id c)
        { b with clients := b.clients.insert c none }).Yields b₁ ∧
      (b₁.seats.get? id = none ∧ seats = b₁.seats ∨ ∃ seat seat', b₁.seats.get? id = some seat ∧
        (seat.flushIfPending S).Yields seat' ∧ seats = b₁.seats.set id seat') ∧
      (seats.release S id).Yields (last, seats') ∧ b' = { b₁ with seats := seats' } := by
  unfold detach at h
  split at h
  · next hnone =>
    cases h.of_pure
    exact .inl ⟨hnone, rfl⟩
  · next id hid =>
    obtain ⟨b₁, hstop, hrest⟩ := h.of_bind
    dsimp only at hrest
    split at hrest
    · next hgone =>
      obtain ⟨b₂, hsame, hthen⟩ := hrest.of_bind
      cases hsame.of_pure
      obtain ⟨⟨last, seats'⟩, hrelease, hend⟩ := hthen.of_bind
      exact .inr ⟨id, b₁, _, seats', last, hid, hstop, .inl ⟨hgone, rfl⟩, hrelease, hend.of_pure⟩
    · next seat hseat =>
      obtain ⟨seat', hflush, hthen⟩ := hrest.of_bind
      obtain ⟨b₂, hset, hthen⟩ := hthen.of_bind
      cases hset.of_pure
      obtain ⟨⟨last, seats'⟩, hrelease, hend⟩ := hthen.of_bind
      exact .inr ⟨id, b₁, _, seats', last, hid, hstop, .inr ⟨seat, seat', hseat, hflush, rfl⟩,
        hrelease, hend.of_pure⟩

/-- A client that detaches has no windows when it lets its seat go, and then has no seat. -/
theorem detach_moves (h : (b.detach S c).Yields b') : Moves S b b' ∧ b'.seatOf c = none := by
  rcases detach_yields h with
    ⟨hnone, rfl⟩ | ⟨id, b₁, seats, seats', last, hid, hstop, hflushed, hrelease, rfl⟩
  · exact ⟨.refl, hnone⟩
  -- all windows of the client were among those that were stopped
  have gone : ∀ window handle, b₁.windows.get? (id, window) ≠ some (c, handle) := by
    intro window handle hsome
    rw [windows_stopWindows hstop] at hsome
    split at hsome
    · cases hsome
    · next hout => exact hout ⟨rfl, mem_windowsOf hsome⟩
  -- the moves are counted with the client attached until the seat is let go
  obtain ⟨b₂, moves, hclients, rfl⟩ := stopWindows_moves hstop
  have hc : b₂.seatOf c = some id := by rwa [seatOf, hclients]
  rw [← hclients]
  have flushed : Moves S b₂ { b₂ with seats } := by
    rcases hflushed with ⟨-, rfl⟩ | ⟨seat, seat', hseat, hflush, rfl⟩
    · exact .refl
    · exact .single (.proceed hseat (Seat.flushIfPending_undisturbed hflush).toKeeps)
  have left : Move S { b₂ with seats }
      { b₂ with seats := seats', clients := b₂.clients.insert c none } := .leave hc gone hrelease
  refine ⟨(moves.trans flushed).tail left, ?_⟩
  rw [seatOf_insert, if_pos rfl]

theorem removeClient_moves (h : (b.removeClient S c).Yields b') : Moves S b b' := by
  unfold removeClient at h
  obtain ⟨b₁, hdetach, h⟩ := h.of_bind
  cases h.of_pure
  obtain ⟨moves, hnone⟩ := detach_moves hdetach
  exact moves.tail (.depart hnone)

/-- Whoever attaches leaves its old seat first, and then takes one if there is one. -/
theorem attach_yields {display : String} {r : Except SeatError SeatId}
    (h : (b.attach S c display).Yields (r, b')) :
    ∃ b₁, (b.detach S c).Yields b₁ ∧
      ((∃ e, r = .error e ∧ b' = b₁) ∨
        ∃ id seats, r = .ok id ∧ (b₁.seats.take S display).Yields (.ok id, seats) ∧
          b' = { b₁ with clients := b₁.clients.insert c (some id), seats }) := by
  unfold attach at h
  obtain ⟨b₁, hdetach, h⟩ := h.of_bind
  refine ⟨b₁, hdetach, ?_⟩
  obtain ⟨⟨taken, seats⟩, htake, h⟩ := h.of_bind
  cases taken with
  | error e =>
    -- a seat that cannot be opened leaves nothing behind
    cases h.of_pure
    rcases SharedSeats.take_yields htake with ⟨_, _, -, hr, -⟩ | ⟨-, ⟨_, -, rfl⟩ | ⟨_, hr, -⟩⟩
    · cases hr
    · exact .inl ⟨e, rfl, rfl⟩
    · cases hr
  | ok id =>
    cases h.of_pure
    exact .inr ⟨id, seats, rfl, htake, rfl⟩

theorem attach_moves {display : String} {r : Except SeatError SeatId}
    (h : (b.attach S c display).Yields (r, b')) : Moves S b b' := by
  obtain ⟨b₁, hdetach, hrest⟩ := attach_yields h
  obtain ⟨moves, hnone⟩ := detach_moves hdetach
  rcases hrest with ⟨e, -, rfl⟩ | ⟨id, seats, -, htake, rfl⟩
  · exact moves
  · exact moves.tail (.join hnone htake)

theorem seatOf_of_attach {display : String} (h : (b.attach S c display).Yields (.ok id, b')) :
    b'.seatOf c = some id := by
  obtain ⟨b₁, -, ⟨e, he, -⟩ | ⟨id', seats, hid, -, rfl⟩⟩ := attach_yields h
  · cases he
  · cases hid
    rw [seatOf_insert, if_pos rfl]

theorem isSome_of_attach {display : String} (h : (b.attach S c display).Yields (.ok id, b')) :
    (b'.seats.get? id).isSome := by
  obtain ⟨b₁, -, ⟨e, he, -⟩ | ⟨id', seats, hid, htake, rfl⟩⟩ := attach_yields h
  · cases he
  · cases hid
    exact SharedSeats.isSome_of_take htake

end Broker

end InputBridge
