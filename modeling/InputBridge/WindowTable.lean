-- SUMMARY: The table of registered windows with its slots, and what changes it.

/-!
# Window table

The windows registered for input, each with the handle its owner gave it, in
order of registration. The table keeps its number of slots itself: it grows by
half, to at least 256 and at most 65,536 slots, and shrinks when fewer than a
third of them are used.
-/

namespace InputBridge

/-- A window of the display server. -/
abbrev WindowId := UInt32

/-- The name under which a window's owner wants to hear of it. -/
abbrev Handle := UInt64

/-- Registered windows in order of registration, and the number of slots. -/
structure WindowTable where
  entries : List (WindowId × Handle) := []
  capacity : Nat := 0
  deriving Repr, Inhabited

namespace WindowTable

def minCapacity : Nat := 256
def maxCapacity : Nat := 65536

/-! ## Looking -/

def size (t : WindowTable) : Nat := t.entries.length

def isEmpty (t : WindowTable) : Bool := t.entries.isEmpty

/-- The handle of a window. -/
def lookup? (t : WindowTable) (window : WindowId) : Option Handle :=
  t.entries.lookup window

/-! ## Changing -/

/-- Gives `window` the handle `handle` where it stands. -/
def replace (window : WindowId) (handle : Handle) :
    List (WindowId × Handle) → List (WindowId × Handle)
  | [] => []
  | e :: rest => if e.1 = window then (window, handle) :: rest else e :: replace window handle rest

/-- More slots, unless there are as many as there may be. -/
def grow? (t : WindowTable) : Option WindowTable :=
  if maxCapacity ≤ t.capacity then none
  else some { t with capacity := min maxCapacity (max minCapacity (t.capacity + t.capacity / 2)) }

/-- Registers a window at the end, or gives a registered one a new handle. `none`
when the table is full. -/
def insert? (t : WindowTable) (window : WindowId) (handle : Handle) : Option WindowTable :=
  match t.lookup? window with
  | some _ => some { t with entries := replace window handle t.entries }
  | none =>
    -- slots are added only when all are used
    let room := if t.size = t.capacity then t.grow? else some t
    room.map fun t => { t with entries := t.entries ++ [(window, handle)] }

/-- Gives slots back when fewer than a third are used. -/
def shrink (t : WindowTable) : WindowTable :=
  if t.size < t.capacity / 3 then { t with capacity := max 1 (2 * t.size) } else t

/-- Forgets a window, and yields the handle it had. -/
def remove (t : WindowTable) (window : WindowId) : Option Handle × WindowTable :=
  match t.lookup? window with
  | none => (none, t)
  | some handle =>
    (some handle, shrink { t with entries := t.entries.eraseP (·.1 == window) })

end WindowTable

end InputBridge
