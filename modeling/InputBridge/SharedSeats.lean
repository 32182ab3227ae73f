-- SUMMARY: Seats shared by display and counted by reference.
import InputBridge.Assoc
import InputBridge.Seat.Dispatch

/-!
# Shared seats

Seats are shared by the name of their display and counted by reference. A display
has at most one seat that can be taken; a failed seat can not, and is kept only
until those who have it let it go.
-/

namespace InputBridge

/-- Names a seat. No two seats ever have the same name. -/
abbrev SeatId := Nat

/-- A seat and how many have taken it. -/
structure Shared where
  seat : Seat
  refs : Nat
  deriving Repr, Inhabited

structure SharedSeats where
  seats : Assoc SeatId Shared := []
  /-- The seat that can be taken for each display. -/
  byDisplay : Assoc String SeatId := []
  nextId : SeatId := 0
  deriving Repr, Inhabited

namespace SharedSeats

variable {σ : Type}

/-! ## Looking -/

def get? (p : SharedSeats) (id : SeatId) : Option Seat := (p.seats.get? id).map (·.seat)

/-- How many have taken a seat. -/
def refs (p : SharedSeats) (id : SeatId) : Nat := ((p.seats.get? id).map (·.refs)).getD 0

def size (p : SharedSeats) : Nat := p.seats.length

/-! ## Changing -/

/-- Puts a changed seat in its place. -/
def set (p : SharedSeats) (id : SeatId) (seat : Seat) : SharedSeats :=
  match p.seats.get? id with
  | none => p
  | some shared => { p with seats := p.seats.insert id { shared with seat } }

/-- Takes the seat of a display, and opens one if there is none to be taken. -/
def take (S : DisplayServer σ) (p : SharedSeats) (display : String) :
    Talk σ (Except SeatError SeatId × SharedSeats) := do
  -- a seat that has failed is still taken here, unless its display was given up
  match p.byDisplay.get? display with
  | some id =>
    match p.seats.get? id with
    | some shared =>
      return (.ok id, { p with seats := p.seats.insert id { shared with refs := shared.refs + 1 } })
    | none => openSeat
  | none => openSeat
where
  openSeat : Talk σ (Except SeatError SeatId × SharedSeats) := do
    match ← Seat.connect S display with
    | .error e => return (.error e, p)
    | .ok seat =>
      let id := p.nextId
      return (.ok id,
        { seats := p.seats.insert id { seat, refs := 1 }
          byDisplay := p.byDisplay.insert display id
          nextId := id + 1 })

/-- Makes sure that the seat is not taken for its display any more. -/
def unlink (p : SharedSeats) (id : SeatId) (seat : Seat) : SharedSeats :=
  -- the display may lead to a new seat by now
  if p.byDisplay.get? seat.display = some id then
    { p with byDisplay := p.byDisplay.erase seat.display }
  else p

/-- Lets a seat go. The last one to do so closes it, and is told. -/
def release (S : DisplayServer σ) (p : SharedSeats) (id : SeatId) :
    Talk σ (Bool × SharedSeats) := do
  match p.seats.get? id with
  | none => return (false, p)
  | some shared =>
    if 1 < shared.refs then
      return (false, { p with seats := p.seats.insert id { shared with refs := shared.refs - 1 } })
    else
      S.disconnect shared.seat.link
      return (true, { p with seats := p.seats.erase id }.unlink id shared.seat)

/-- Fails a seat. Whoever wants its display from now on gets a new one. -/
def markFailed (p : SharedSeats) (id : SeatId) : SharedSeats :=
  match p.get? id with
  | none => p
  | some seat => (p.set id seat.fail).unlink id seat

end SharedSeats

end InputBridge
