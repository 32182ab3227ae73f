-- SUMMARY: The requests of the bridge over the X protocol, and displays with all their connections.
import InputBridge.Server
import InputBridge.X11.Listener

/-!
# Displays of an X server

How the requests of the bridge are carried out over the X protocol, and refused
when the server does not play along.
-/

namespace InputBridge

namespace X11

/-! ## Constants of the protocol -/

/-- Stands for every master device. -/
def allMasterDevices : UInt16 := 1

/-- The type of a device that is the master pointer. -/
def masterPointer : UInt16 := 1

/-- Stands for the core keyboard. -/
def useCoreKeyboard : UInt16 := 0x100

/-- The type of a property that is text. -/
def stringAtom : UInt32 := 31

/-- How much of the property with the rules is asked for, in units of four bytes. -/
def rulesLength : UInt32 := 1024

/-- The sum of the bits with some numbers. -/
def bits (numbers : List UInt32) : UInt32 :=
  numbers.foldl (fun mask n => mask ||| ((1 : UInt32) <<< n)) 0

/-- The events of all windows: changes of devices, raw keys and raw motion. -/
def rootEvents : UInt32 := bits [1, 13, 14, 17]

/-- The events of a window: keys, buttons, motion, crossings, focus and touch. -/
def windowEvents : UInt32 := bits [2, 3, 4, 5, 6, 7, 8, 9, 10, 18, 19, 20]

/-- The events of keyboards: new ones, changed keymaps, changed state. -/
def keyboardEvents : UInt16 := 7

/-- All parts of a keymap but the behaviour of keys. -/
def keymapParts : UInt16 := 223

/-- The directions of a barrier in the protocol. -/
def directionBit : Direction → UInt32
  | .positiveX => 1
  | .positiveY => 2
  | .negativeX => 4
  | .negativeY => 8

/-! ## Clamping -/

def clampUInt16 (n : Int32) : UInt16 := UInt16.ofInt (max 0 (min 65535 n.toInt))

/-- A coordinate clamped to 16 bits. -/
def clampInt16 (n : Int32) : Int32 := max (-32768) (min 32767 n)

/-! ## Opening -/

/-- What is said of an error on connecting. -/
def connectErrorMessage : Int → String
  | 3 => "Insufficient memory"
  | 5 => "Unknown error while parsing a $DISPLAY address"
  | 6 => "Invalid screen"
  | _ => ConnectionError.broken.message

/-- The place of the first byte that is 0. -/
def zeroByte? (s : String) : Option Nat := (Text.Utf8.encode s).findIdx? (· == 0)

/-- The number of a screen, where negative ones count as very large. -/
def screenNumber (n : Int) : Nat := (n % 0x10000000000000000).toNat

/-- A new connection. The server is asked for its extensions. -/
def Connection.new (root : UInt32) : Connection where
  root
  nextSeq := 4
  queue := [(1, .queryExtension .fixes), (2, .queryExtension .input), (3, .queryExtension .keyboard)]
  extensions := [(.fixes, .asked), (.input, .asked), (.keyboard, .asked)]

/-- Connects to a display; the empty name stands for the usual one. -/
def connect (server : Server) (display : String) : Except String Screen × List Entry :=
  match zeroByte? display with
  | some i => (.error s!"nul byte found in provided data at position: {i}", [])
  | none =>
    let opened := Entry.connect (if display.isEmpty then none else some display)
    if server.connectError ≠ 0 then
      (.error (connectErrorMessage server.connectError), [opened, .disconnect])
    else
      let number := screenNumber server.screen
      match server.roots[number]? with
      | none => (.error s!"no screen {number}", [opened, .disconnect])
      | some screen => (.ok screen, [opened])

/-! ## Carrying out requests -/

namespace Traffic

/-- Something that may be refused. -/
abbrev Attempt (α : Type) := ExceptT Refusal Traffic α

/-- A request whose failure means that an extension cannot be used. -/
def negotiate (extension : String) (r : WireRequest) : Attempt r.Reply :=
  ExceptT.mk do return (← call r).mapError fun e => .extension extension e.message

/-- Refuses what could not be done over the connection. -/
def attempt {α : Type} (what : String) (f : Traffic (Except ConnectionError α)) : Attempt α :=
  ExceptT.mk do return (← f).mapError fun e => .request s!"{what}: {e.message}"

/-- A request with a reply. It is refused under one name if it cannot be made, and
under another if there is no reply. -/
def ask (made reply : String) (r : WireRequest) : Attempt r.Reply :=
  ExceptT.mk do return (← call r).mapError fun
    | .connection e => .request s!"{made}: {e.message}"
    | .request e => .request s!"{reply}: {e.message}"

def root : Attempt UInt32 := return (← get).connection.root

def barrierSupport : Attempt Unit := do
  let major ← negotiate "XFixes" (.fixesQueryVersion 5 0)
  -- barriers came with version 5
  if major < 5 then throw (.extension "XFixes" s!"version {major.toNat} lacks pointer barriers")

def pointer : Attempt PointerDevice := do
  let major ← negotiate "XInput2" (.inputQueryVersion 2 2)
  if major < 2 then throw (.extension "XInput2" s!"version {major.toNat}")
  negotiate "XInput2" (.selectInputEvents (← root) allMasterDevices [rootEvents])
  match ← negotiate "XInput2" (.queryDevice allMasterDevices) with
  | none => throw (.extension "XInput2" ConnectionError.short.message)
  | some devices =>
    match devices.find? (·.type == masterPointer) with
    | none => throw (.extension "XInput2" "no master pointer")
    | some d => return .ofAxes d.id (axes d.classes)

def keyboard : Attempt UInt8 := do
  let support ← negotiate "XKB" (.useKeyboard 1 0)
  if !support.supported then
    throw (.extension "XKB" s!"server has {support.major.toNat}.{support.minor.toNat}")
  negotiate "XKB"
    (.selectKeyboardEvents useCoreKeyboard keyboardEvents 0 keyboardEvents keymapParts keymapParts)
  note .coreKeyboard
  let device := (← get).server.coreKeyboard
  -- the number of a device is a byte
  if device < 0 ∨ 255 < device then
    throw (.extension "XKB" s!"bad core keyboard id {device}")
  return UInt8.ofInt device

def keyboardReport (device : UInt8) : Attempt KeyboardReport := do
  let (group, locked) ← ask "xkb_get_state" "xkb_get_state reply" (.getKeyboardState device.toUInt16)
  return ⟨group.toUInt32, locked.toUInt32⟩

/-- The rules that a property of the root window names. There are none if nobody
has used the property's name, or if it is not in bytes. -/
def rules : Attempt Rules := do
  let atom ← ask "intern_atom" "intern_atom reply" (.internAtom true "_XKB_RULES_NAMES")
  if atom = 0 then return {}
  let property ← ask "get_property _XKB_RULES_NAMES" "get_property reply"
    (.getProperty false (← root) atom stringAtom 0 rulesLength)
  if property.format ≠ 8 then return {}
  return .ofBytes property.bytes

def keymap (device : UInt8) : Attempt Keymap := do
  note (.compileKeymap device)
  let keymap := (← get).server.keymap
  if keymap.layouts.isEmpty then throw (.keymap s!"device {device.toNat} has no layouts")
  return keymap.toKeymap

def selectInput (traced : Bool) (window : WindowId) (enable : Bool) : Attempt Unit :=
  discard <| attempt "xi_select_events" <|
    post traced (.selectInputEvents window allMasterDevices (if enable then [windowEvents] else []))

def warp (traced : Bool) (x y : Int32) : Attempt UInt64 := do
  let request := .warpPointer 0 (← root) 0 0 0 0 (clampInt16 x) (clampInt16 y)
  return UInt64.ofNat (← attempt "warp_pointer" (post traced request))

def createBarrier (traced : Bool) (b : Barrier) : Attempt UInt32 := do
  let id ← attempt "generate_id" newId
  let request := .createBarrier id (← root) (clampUInt16 b.x1) (clampUInt16 b.y1)
    (clampUInt16 b.x2) (clampUInt16 b.y2) (directionBit b.allow) []
  discard <| attempt "create_pointer_barrier" (post traced request)
  -- the barrier counts as created once the request is made
  return id

def deleteBarrier (traced : Bool) (id : UInt32) : Attempt Unit :=
  discard <| attempt "delete_pointer_barrier" (post traced (.deleteBarrier id))

/-- Carries a request of the bridge out. -/
def carryOut (traced : Bool) : (r : Request) → Attempt r.Answer
  | .barrierSupport => barrierSupport
  | .pointer => pointer
  | .keyboard => keyboard
  | .keyboardReport device => keyboardReport device
  | .rules => rules
  | .keymap device => keymap device
  | .startEvents => change fun c => { c with listeners := c.listeners + 1 }
  | .flush => attempt "flush" flush
  | .selectInput window enable => selectInput traced window enable
  | .warp x y => warp traced x y
  | .createBarrier b => createBarrier traced b
  | .deleteBarrier id => deleteBarrier traced id

end Traffic

/-! ## The display server -/

/-- The displays of an X server, with all connections that were ever made. -/
structure Displays where
  server : Server := {}
  /-- Whether the traffic is traced. -/
  traced : Bool := false
  /-- Whether connections are readable also while events are queued that have been read. -/
  signalsQueued : Bool := false
  connections : List Connection := []
  /-- What was written down, the latest first. -/
  log : List Entry := []
  deriving Repr, Inhabited

namespace Displays

def openLink (display : String) (d : Displays) : Except String Link × Displays :=
  let (result, entries) := connect d.server display
  let d := { d with log := entries.reverse ++ d.log }
  match result with
  | .error e => (.error e, d)
  | .ok screen =>
    (.ok ⟨d.connections.length, screen.root, screen.width, screen.height⟩,
      { d with connections := d.connections ++ [.new screen.root] })

/-- Does something on a connection. -/
def during {α : Type} (link : Nat) (f : Traffic α) (d : Displays) : α × Displays :=
  let c := d.connections.getD link {}
  let (result, w) := f.run { server := d.server, connection := c, log := d.log }
  (result, { d with connections := d.connections.set link w.connection, log := w.log })

/-- Changes a connection. -/
def change (link : Nat) (f : Connection → Connection) (d : Displays) : Displays :=
  { d with connections := d.connections.modify link f }

def answer (link : Nat) (r : Request) (d : Displays) : Except Refusal r.Answer × Displays :=
  d.during link (Traffic.carryOut d.traced r).run

/-- Closes a connection. What is still queued is lost. -/
def closeLink (link : Nat) (d : Displays) : Displays :=
  { d with log := .disconnect :: d.log }.change link fun c =>
    { c with queue := [], listeners := 0 }

/-- The displays as what the bridge can talk to. -/
def display : DisplayServer Displays where
  openLink
  answer
  closeLink

/-! ## Events -/

/-- The server sends something unasked. -/
def emit (link : Nat) (packets : List Packet) (d : Displays) : Displays :=
  d.change link fun c => { c with incoming := c.incoming ++ packets.map fun p => (c.lastSent, p) }

/-- Takes what the listeners of a connection have reported, up to `limit` in number. -/
def takeNotices (link limit : Nat) (d : Displays) : List Notice × Displays :=
  let c := (d.connections.getD link {}).settle d.signalsQueued
  (c.notices.take limit,
    { d with connections := d.connections.set link { c with notices := c.notices.drop limit } })

end Displays

end X11

end InputBridge
