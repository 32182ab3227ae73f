-- SUMMARY: X servers, and what was noted of their traffic, as values.
import InputBridge.ScriptedServer.Script
import InputBridge.X11.Display
import InputBridge.X11.WireEvent.Record

/-!
# X servers as values

How an X server is written down, and how what was noted of its traffic is.
-/

namespace InputBridge

namespace X11

open Wire (Value)

/-! ## Servers -/

instance : OfValue Screen := ⟨fun v => v.row? Screen.mk⟩
instance : OfValue Fault := ⟨fun v => v.row? Fault.mk⟩
instance : OfValue KeyboardSupport := ⟨fun v => v.row? KeyboardSupport.mk⟩
instance : OfValue DeviceInfo := ⟨fun v => v.record? "id type classes" DeviceInfo.mk⟩
instance : OfValue CompiledKey := ⟨fun v => v.record? "syms u a" CompiledKey.mk⟩

/-- A map under a name, whose keys `key` reads. -/
def mapD {α β : Type} [OfValue β] (v : Value) (name : String) (key : String → Option α)
    (default : List (α × β)) : Option (List (α × β)) :=
  match v.field name with
  | .nil => some default
  | entries => entries.entries? key

instance : OfValue CompiledKeymap := ⟨fun v => do
  let usual : CompiledKeymap := {}
  return {
    minKeycode := ← v.fieldD "min" usual.minKeycode
    maxKeycode := ← v.fieldD "max" usual.maxKeycode
    layouts := ← v.fieldD "layouts" usual.layouts
    keys := ← mapD v "keys" keycode? []
    modifiers := ← mapD v "mods" some usual.modifiers
    names := ← mapD v "names" keycode? [] }⟩

instance : OfValue Property := ⟨fun v => do
  let hex : HexBytes ← v.fieldD "hex" default
  return { format := ← v.fieldD "format" 8, bytes := hex.bytes }⟩

instance : OfValue Server := ⟨fun v => do
  let usual : Server := {}
  return {
    connectError := ← v.fieldD "connect_error" usual.connectError
    screen := ← v.fieldD "screen" usual.screen
    roots := ← v.fieldD "roots" usual.roots
    missing := ← v.fieldD "missing" []
    fixesVersion := ← v.fieldD "xfixes" usual.fixesVersion
    inputVersion := ← v.fieldD "xinput" usual.inputVersion
    keyboardSupport := ← v.fieldD "xkb" usual.keyboardSupport
    devices := ← v.fieldD "devices" usual.devices
    claimedDevices := ← v.fieldD "claim" none
    coreKeyboard := ← v.fieldD "core" usual.coreKeyboard
    atom := ← v.fieldD "atom" usual.atom
    property := ← v.fieldD "property" {}
    group := ← v.fieldD "group" 0
    lockedModifiers := ← v.fieldD "locked_mods" 0
    faults := ← mapD v "errors" some []
    keymap := ← v.fieldD "keymap" {} }⟩

/-- An event, or bytes in hexadecimal digits. -/
instance : OfValue Packet := ⟨fun
  | .text s => some (.bytes (Text.HexBytes.decode s))
  | v => (ofValue? v).map .event⟩

/-! ## Traffic -/

/-- What distinguishes a request from others of its name. -/
def WireRequest.details : WireRequest → List Value
  | .queryExtension e => [toValue e.name]
  | .fixesQueryVersion major minor => Row.row (major, minor)
  | .inputQueryVersion major minor => Row.row (major, minor)
  | .selectInputEvents window device masks => [toValue window, toValue [(device, masks)]]
  | .queryDevice device => [toValue device]
  | .useKeyboard major minor => Row.row (major, minor)
  | .selectKeyboardEvents device affected clear all affectedMaps maps =>
    Row.row (device, affected, clear, all, affectedMaps, maps)
  | .getKeyboardState device => [toValue device]
  | .internAtom onlyIfExists name => Row.row (onlyIfExists, name)
  | .getProperty delete window property type offset length =>
    Row.row (delete, window, property, type, offset, length)
  | .warpPointer source target x y width height toX toY =>
    Row.row (source, target, x, y, width, height, toX, toY)
  | .createBarrier id window x1 y1 x2 y2 directions devices =>
    Row.row (id, window, x1, y1, x2, y2, directions, toValue devices)
  | .deleteBarrier id => [toValue id]

end X11

end InputBridge
