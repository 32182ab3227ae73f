-- SUMMARY: A delivery for a window reaches the window's owner exactly if the owner holds the handle.
import InputBridge.Proofs.Broker.Handles
import InputBridge.Proofs.Broker.Tables
import InputBridge.Proofs.Seat.Deliveries

/-!
# Where deliveries go

A delivery for a window names the handle that the window is recorded with, and is
addressed by that handle alone. So it reaches the window's owner exactly when the
owner holds the handle. Where two windows of a seat are registered under one handle,
their owners can lose what is delivered to them, to each other or altogether.
-/

namespace InputBridge

namespace Broker

variable {σ : Type} {S : DisplayServer σ} {b b' : Broker} {c : ClientId} {id : SeatId}
  {seat seat' : Seat} {window : WindowId} {handle : Handle} {config : BrokerConfig}
  {steps : List Step}

/-! ## Seats and records -/

/-- The windows that seats have are recorded, with the same handles. -/
def Traced (b : Broker) : Prop :=
  b.EverySeat fun kept recorded => ∀ handle, kept = some handle → recorded = some handle

theorem Reachable.traced (reachable : Reachable S b) : b.Traced :=
  reachable.of_moves .empty
    (fun _ _ h move => h.move (fun _ _ => id) move fun _ => nofun)
    (fun _ _ _ _ _ _ h withdrawn => h.withdraw withdrawn fun _ _ => nofun)
    fun _ _ _ _ _ _ h registered => h.register (fun _ _ => id) registered

/-! ## Addressing -/

/-- A delivery for a window that the seat has names the handle it is recorded with. -/
theorem Traced.handle?_eq {event : Event} {deliveries : List Delivery} {d : Delivery}
    (h : b.Traced) (hseat : b.seats.get? id = some seat)
    (hdispatch : (seat.dispatch S (b.virtualScreen seat) event).Yields (seat', deliveries))
    (hd : d ∈ deliveries) (hfor : d.IsFor window event seat')
    (recorded : b.windows.get? (id, window) = some (c, handle)) : d.handle? = some handle := by
  -- what is for a window names a handle at all
  have named : ∃ handle', d.handle? = some handle' := by
    cases d with
    | input handle' i =>
      cases handle' with
      | none => cases hfor
      | some handle' => exact ⟨handle', rfl⟩
    | language handle' hkl => exact ⟨handle', rfl⟩
    | locks => cases hfor
  obtain ⟨handle', hhandle'⟩ := named
  have hlookup : seat.windows.lookup? window = some handle' := by
    rw [← (Seat.dispatch_keeps hdispatch).windows]
    exact Seat.dispatch_aimed hdispatch d hd window handle' hfor hhandle'
  have hrecorded := (h id seat hseat).handles window handle' hlookup
  rw [recordsOf, recorded] at hrecorded
  cases hrecorded
  exact hhandle'

/-- What is for a window goes to whoever has the handle that it names. -/
theorem address_fst {event : Event} {d : Delivery} (hfor : d.IsFor window event seat)
    (hhandle : d.handle? = some handle) :
    (b.address id d).1 = (b.handles.get? (id, handle)).toList := by
  cases d with
  | input handle' i =>
    cases hhandle
    rfl
  | language handle' hkl =>
    cases hhandle
    rfl
  | locks => cases hfor

/-- What an event causes to be delivered for a window reaches the window's owner, and
nobody else, exactly when the owner holds the handle of the window. Only an event that
overflows at the seat is not addressed. -/
theorem Run.delivered_iff (run : Run S { config } steps b) (hseat : b.seats.get? id = some seat)
    (recorded : b.windows.get? (id, window) = some (c, handle)) (event : Event) (w : World σ) :
    (∀ e, ((seat.dispatch S (b.virtualScreen seat) event).run w).1 = .error e →
      ((b.dispatch S id event).run w).1 = .error e) ∧
    ∀ seat' deliveries,
      ((seat.dispatch S (b.virtualScreen seat) event).run w).1 = .ok (seat', deliveries) →
      ∃ out b', ((b.dispatch S id event).run w).1 = .ok (out, b') ∧
        out = b'.route id deliveries ∧
        ∀ d ∈ deliveries, d.IsFor window event seat' →
          ((b'.address id d).1 = [c] ↔ HoldsHandle steps b id handle c) := by
  rw [dispatch_run hseat event w]
  constructor
  · intro e hoverflow
    rw [hoverflow]
    rfl
  · intro seat' deliveries hdispatch
    refine ⟨_, _, by rw [hdispatch]; rfl, rfl, ?_⟩
    intro d hd hfor
    have traced : b.Traced := Reachable.traced ⟨config, steps, run⟩
    have hhandle := traced.handle?_eq hseat ⟨w, hdispatch⟩ hd hfor recorded
    -- neither the event nor a failure touches the table of handles
    rw [← run.handles_iff, address_fst hfor hhandle, Option.toList_eq_singleton_iff]
    split <;> rfl

/-- Two clients of a display each register a window, under these handles. -/
def twoWindows (first second : Handle) : List (Action × World Bool) :=
  [(.message 0 (.hello 0 1 .desktop), ⟨false, 1⟩), (.message 1 (.hello 0 1 .desktop), ⟨false, 1⟩),
    (.message 0 (.connect 1 ":0"), ⟨false, 1⟩), (.message 1 (.connect 1 ":0"), ⟨false, 1⟩),
    (.message 0 (.startInput 2 0x500 first), ⟨false, 1⟩),
    (.message 1 (.startInput 2 0x501 second), ⟨false, 1⟩)]

/-- The left button is pressed in the first client's window. -/
def pressFirst : Event := .button true 7 0x500 1 0 0

/-- Under different handles the owner has the button. -/
theorem twoWindows_delivered :
    let b := fresh.finish (fresh.play plainServer (twoWindows 1 2))
    let seat := (b.seats.get? 0).getD default
    ∃ seat' deliveries out b',
      ((seat.dispatch plainServer (b.virtualScreen seat) pressFirst).run ⟨false, 1⟩).1 =
        .ok (seat', deliveries) ∧
      ((b.dispatch plainServer 0 pressFirst).run ⟨false, 1⟩).1 = .ok (out, b') ∧
      out = b'.route 0 deliveries ∧
      ∀ d ∈ deliveries, d.IsFor 0x500 pressFirst seat' →
        ((b'.address 0 d).1 = [0] ↔
          HoldsHandle (fresh.play plainServer (twoWindows 1 2)) b 0 1 0) := by
  intro b seat
  have hseat : b.seats.get? 0 = some seat := rfl
  have recorded : b.windows.get? (0, 0x500) = some (0, 1) := rfl
  have run := run_play plainServer fresh (twoWindows 1 2)
  obtain ⟨-, haddressed⟩ := run.delivered_iff hseat recorded pressFirst ⟨false, 1⟩
  obtain ⟨out, b', hdispatch, hout, hiff⟩ := haddressed _ _ rfl
  exact ⟨_, _, out, b', rfl, hdispatch, hout, hiff⟩

/-- Under one handle the other client has it, and the owner has only the raw input. -/
theorem twoWindows_misrouted :
    let b := fresh.finish (fresh.play plainServer (twoWindows 1 1))
    Run plainServer fresh (fresh.play plainServer (twoWindows 1 1)) b ∧
      b.windows.get? (0, 0x500) = some (0, 1) ∧ b.windows.get? (0, 0x501) = some (1, 1) ∧
      ((b.dispatch plainServer 0 pressFirst).run ⟨false, 1⟩).1.map (·.1) =
        .ok [⟨0, .input 0 none (.mouse 0 0 0 MouseFlag.leftDown 7)⟩,
          ⟨1, .input 0 none (.mouse 0 0 0 MouseFlag.leftDown 7)⟩,
          ⟨1, .input 0 (some 1) (.mouse 0 0 0 (MouseFlag.leftDown ||| MouseFlag.absolute) 7)⟩] :=
  ⟨run_play _ _ _, rfl, rfl, rfl⟩

end Broker

end InputBridge
