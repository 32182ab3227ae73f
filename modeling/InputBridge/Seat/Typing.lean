-- SUMMARY: Keys as input, focus, lock keys and rebuilding the layouts of a seat.
import InputBridge.Seat.Basic

/-!
# Typing at a seat

Keys as input, keyboard focus, lock keys, and the keyboard layouts of a seat,
which are rebuilt whenever the display server's keymap changes.
-/

namespace InputBridge

namespace Seat

variable {σ : Type}

/-! ## Keys -/

def rightAltScan : UInt16 := 0x138
def rightControlScan : UInt16 := 0x11d

/-- The virtual key of a scan code, with its flags, in the active layout. Under
Num Lock the keypad's navigation keys are digits. 0 stands for none. -/
def virtualKey (s : Seat) (scan : UInt16) : UInt16 :=
  let vk := match s.layouts.active with
    | some layout => layout.scanLayout.virtualKey scan
    | none => VirtualKey.unnamed
  if s.keyboard.locks.num && vk &&& VirtualKey.numpadFlag != 0 then
    (VirtualKey.numpadDigit? vk).getD vk
  else vk

/-- The input of a scan code, if it has a virtual key. -/
def scanInput? (s : Seat) (scan : UInt16) (press : Bool) (time : UInt32) : Option Input :=
  let vk := s.virtualKey scan
  if vk = 0 then none
  -- the mark of an extended key is in the second byte of the scan code
  else
    let extended := if scan &&& 0x300 = 0 then 0 else KeyFlag.extended
    let up := if press then 0 else KeyFlag.up
    some (.key (vk &&& 0xff) (scan &&& 0xff) (extended ||| up) time)

/-- The inputs of a keycode in the order of delivery. Right Alt is held inside
right Ctrl. -/
def keyInputs (s : Seat) (keycode : UInt32) (press : Bool) (time : UInt32) : List Input :=
  let scan := scanOfKeycode keycode
  match s.scanInput? scan press time with
  | none => []
  | some key =>
    if scan ≠ rightAltScan then [key]
    else match s.scanInput? rightControlScan press time with
      | none => [key]
      | some control => if press then [control, key] else [key, control]

def onKey (s : Seat) (press : Bool) (time : UInt32) (window : WindowId) (keycode : UInt32) :
    List Delivery :=
  match s.windows.lookup? window with
  | none => []
  | some handle => (s.keyInputs keycode press time).map (.input (some handle))

def onRawKey (s : Seat) (press : Bool) (time : UInt32) (keycode : UInt32) : List Delivery :=
  (s.keyInputs keycode press time).map (.input none)

/-! ## Focus -/

/-- Tells the focused window that the layout is another one than last time. -/
def announceLayout (s : Seat) : Seat × List Delivery :=
  match s.layouts.active, s.keyboard.focus.bind s.windows.lookup? with
  | some layout, some handle =>
    if s.keyboard.lastHkl = some layout.hkl then (s, [])
    else ({ s with keyboard.lastHkl := some layout.hkl }, [.language handle layout.hkl])
  | _, _ => (s, [])

/-- Focus details from here on are about the pointer. -/
def firstPointerDetail : UInt8 := 5

def grabMode : UInt8 := 1
def ungrabMode : UInt8 := 2

def onFocus (s : Seat) (gained : Bool) (window : WindowId) (mode detail : UInt8) :
    Seat × List Delivery :=
  if firstPointerDetail ≤ detail then (s, [])
  else if mode = grabMode then ({ s with keyboard.grabbed := true }, [])
  else if mode = ungrabMode then ({ s with keyboard.grabbed := false }, [])
  else if !gained then
    (if s.keyboard.focus = some window then { s with keyboard.focus := none } else s, [])
  else match s.windows.lookup? window with
    | none => (s, [])
    -- the language comes after the locks, although it is found out first
    | some _ =>
      let (s, deliveries) := { s with keyboard.focus := some window }.announceLayout
      (s, .locks s.keyboard.locks :: deliveries)

/-! ## Lock keys -/

/-- The lock keys among the locked modifiers. -/
def locksOf (masks : Masks) (lockedModifiers : UInt32) : Locks where
  caps := lockedModifiers &&& masks.caps != 0
  num := lockedModifiers &&& masks.num != 0

/-- Takes over the locked modifiers; the deliveries tell whether the lock keys
have changed. -/
def lockModifiers (s : Seat) (lockedModifiers : UInt32) : Seat × List Delivery :=
  let locks := locksOf s.layouts.masks lockedModifiers
  ({ s with keyboard := { s.keyboard with lockedModifiers, locks } },
    if locks = s.keyboard.locks then [] else [.locks locks])

/-! ## Layouts -/

/-- Builds the layouts from the display server's keymap and rules and makes that
of the current group active. Without rules the keymap's descriptions are used. If
it fails, the seat has no layouts. -/
def rebuildLayouts (S : DisplayServer σ) (s : Seat) : Talk σ (Except SeatError Unit × Seat) := do
  let rules := match ← S.ask s.link .rules with
    | .ok rules => rules
    | .error _ => {}
  match ← S.ask s.link (.keymap s.keyboard.device) with
  | .error refusal => return (.error (.refused refusal), { s with layouts := .empty })
  | .ok keymap =>
    -- ids that were drawn are used up, also if a later layout cannot be built
    let (result, layouts, nextLayoutId) := Layouts.rebuild keymap rules (← get).nextLayoutId
    modify fun w => { w with nextLayoutId }
    -- the group may have none of the layouts, and then none is active
    return (result.mapError .layout, { s with layouts := (layouts.activate s.keyboard.group).2 })

/-- Rebuilds the layouts and tells what has changed by that. -/
def refreshLayouts (S : DisplayServer σ) (s : Seat) : Talk σ (Seat × List Delivery) := do
  match ← s.rebuildLayouts S with
  | (.error _, s) => return (s, [])
  | (.ok _, s) =>
    let (s, locks) := s.lockModifiers s.keyboard.lockedModifiers
    let (s, language) := s.announceLayout
    return (s, locks ++ language)

/-- A new state of the keyboard: another group makes its layout active. -/
def onKeyboardState (s : Seat) (group lockedModifiers : UInt32) : Seat × List Delivery :=
  let (s, language) :=
    -- where no layout is active, a group that is reported again is tried again
    if group ≠ s.keyboard.group ∨ s.layouts.active.isNone then
      let s := { s with keyboard.group := group }
      match s.layouts.activate group with
      | (some _, layouts) => { s with layouts }.announceLayout
      | (none, _) => (s, [])
    else (s, [])
  -- after the layout, on whose masks the locks depend
  let (s, locks) := s.lockModifiers lockedModifiers
  (s, language ++ locks)

end Seat

end InputBridge
