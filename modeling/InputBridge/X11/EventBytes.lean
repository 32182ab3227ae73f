-- SUMMARY: Reading events from the bytes that a server sends.
import InputBridge.Wire.Value
import InputBridge.X11.Protocol
import InputBridge.X11.WireEvent

/-!
# Events in bytes

How events lie in the bytes that a server sends. An event has 32 bytes, or more if
it is a generic one; numbers have their lowest byte first. Reading fails only for
want of bytes: what is not known is an event of another kind.
-/

namespace InputBridge

namespace X11

/-! ## Reading -/

/-- Reads something off the front of bytes, if there are enough of them. -/
abbrev ByteReader := StateT (List UInt8) Option

namespace ByteReader

def skip (count : Nat) : ByteReader Unit := fun input =>
  if input.length < count then none else some ((), input.drop count)

/-- The number whose bytes, the lowest first, are `bytes`. -/
def ofLittleEndian (bytes : List UInt8) : Nat := bytes.foldr (fun b n => b.toNat + 256 * n) 0

/-- Reads a number of `width` bytes. -/
def number (width : Nat) : ByteReader Nat := fun input =>
  (Wire.Value.readBytes width input).map fun (part, rest) => (ofLittleEndian part, rest)

def uint8 : ByteReader UInt8 := UInt8.ofNat <$> number 1
def uint16 : ByteReader UInt16 := UInt16.ofNat <$> number 2
def uint32 : ByteReader UInt32 := UInt32.ofNat <$> number 4
def int32 : ByteReader Int32 := Int32.ofNat <$> number 4

def fixed32 : ByteReader Fixed32 := do return ⟨← int32, ← uint32⟩

/-- Reads `count` things one after the other. -/
def times {α : Type} (read : ByteReader α) (count : Nat) : ByteReader (List α) :=
  Wire.Value.readMany read count

/-- The number of bits that are set. -/
def bitCount (words : List UInt32) : Nat :=
  (words.flatMap fun w => (List.range 32).filter fun i => w.toNat.testBit i).length

/-! ## Generic events of input devices -/

def deviceEvent : ByteReader DeviceEvent := do
  skip 12
  let time ← uint32
  let detail ← uint32
  skip 4
  let window ← uint32
  skip 4
  let rootX ← int32
  let rootY ← int32
  skip 8
  let buttons ← number 2
  let axes ← number 2
  skip (28 + 4 * buttons)
  let mask ← times uint32 axes
  skip (8 * bitCount mask)
  return { time, detail, window, rootX, rootY }

def crossingEvent : ByteReader CrossingEvent := do
  skip 12
  let time ← uint32
  skip 2
  let mode ← uint8
  let detail ← uint8
  skip 4
  let window ← uint32
  skip 4
  let rootX ← int32
  let rootY ← int32
  skip 10
  let buttons ← number 2
  skip (20 + 4 * buttons)
  return { time, window, rootX, rootY, mode, detail }

def rawEvent : ByteReader RawEvent := do
  skip 10
  let device ← uint16
  let time ← uint32
  let detail ← uint32
  skip 2
  let axes ← number 2
  skip 8
  let mask ← times uint32 axes
  let values ← times fixed32 (bitCount mask)
  skip (8 * values.length)
  return { device, time, detail, mask, values }

/-- Reads what a class of type `type` has. -/
def classOfType (type : Nat) : ByteReader DeviceClass := do
  match type with
  | 0 =>
    skip (4 * (← number 2))
    return .keys
  | 1 =>
    let buttons ← number 2
    skip (4 * ((buttons + 31) / 32) + 4 * buttons)
    return .buttons
  | 2 =>
    let axis ← uint16
    skip 4
    let min ← fixed32
    let max ← fixed32
    skip 12
    let mode ← uint8
    skip 3
    return .axis axis mode min max
  | 3 =>
    skip 18
    return .scroll
  | 8 =>
    skip 2
    return .touch
  | 9 =>
    skip 2
    return .touch
  | _ => return .touch

/-- Reads a class. It takes as many units of four bytes as it says. -/
def deviceClass : ByteReader DeviceClass := do
  let input ← get
  let type ← number 2
  let length ← number 2
  skip 2
  let result ← classOfType type
  set input
  skip (4 * length)
  return result

def deviceChanged : ByteReader WireEvent := do
  skip 10
  let device ← uint16
  skip 4
  let count ← number 2
  skip 14
  return .deviceChanged device (← times deviceClass count)

/-- An event of another kind that has `size` bytes. -/
def other (size : Nat) : ByteReader WireEvent := do
  skip size
  return .other

/-- Reads a generic event of input devices by its type. -/
def inputEvent (type : Nat) : ByteReader WireEvent := do
  match type with
  | 1 => deviceChanged
  | 2 => return .keyPress (← deviceEvent)
  | 3 => return .keyRelease (← deviceEvent)
  | 4 => return .buttonPress (← deviceEvent)
  | 5 => return .buttonRelease (← deviceEvent)
  | 6 => return .motion (← deviceEvent)
  | 7 => return .enter (← crossingEvent)
  | 8 => return .leave (← crossingEvent)
  | 9 => return .focusIn (← crossingEvent)
  | 10 => return .focusOut (← crossingEvent)
  | 11 =>
    skip 20
    let count ← number 2
    other (10 + 12 * count)
  | 13 => return .rawKeyPress (← rawEvent)
  | 14 => return .rawKeyRelease (← rawEvent)
  | 17 => return .rawMotion (← rawEvent)
  | 15 | 16 | 22 | 23 | 24 =>
    discard rawEvent
    return .other
  | 18 => return .touchBegin (← deviceEvent)
  | 19 => return .touchUpdate (← deviceEvent)
  | 20 => return .touchEnd (← deviceEvent)
  | 21 => other 48
  | 25 | 26 => other 68
  | 27 | 28 | 29 => other 100
  | 30 | 31 | 32 => other 92
  | _ => return .other

/-! ## Other events -/

def errorEvent : ByteReader WireEvent := do
  skip 1
  let code ← uint8
  skip 2
  let resource ← uint32
  let minor ← uint16
  let major ← uint8
  return .error code resource major minor

def keyboardEvent : ByteReader WireEvent := do
  skip 1
  match ← number 1 with
  | 0 =>
    skip 6
    return .newKeyboard (← uint8)
  | 1 => return .keymapChanged
  | 2 =>
    skip 10
    let locked ← uint8
    let group ← uint8
    return .keyboardState group locked.toUInt16
  | _ => return .other

end ByteReader

/-! ## All events -/

/-- The bytes of an event, cut at its size. -/
def sized (bytes : List UInt8) : List UInt8 :=
  let length := ByteReader.ofLittleEndian ((bytes.drop 4).take 4)
  let generic := (bytes.headD 0).toNat % 128 = 35
  let size := 32 + if generic then 4 * length else 0
  bytes.take size

/-- Reads an event as one does who knows some extensions. -/
def WireEvent.ofBytes? (known : List Extension) (bytes : List UInt8) : Option WireEvent :=
  let bytes := sized bytes
  let read (r : ByteReader WireEvent) := (r.run bytes).map (·.1)
  let code := (bytes.headD 0).toNat % 128
  if code = 0 then read ByteReader.errorEvent
  else if code = 35 then
    if known.contains .input && bytes.getD 1 0 == Extension.opcode .input then
      read (ByteReader.inputEvent (ByteReader.ofLittleEndian ((bytes.drop 8).take 2)))
    else some .other
  else if known.contains .keyboard && code == (Extension.firstEvent .keyboard).toNat then
    read ByteReader.keyboardEvent
  else some .other

end X11

end InputBridge
