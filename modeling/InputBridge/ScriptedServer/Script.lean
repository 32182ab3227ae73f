-- SUMMARY: Scripts and noted calls as values.
import InputBridge.ScriptedServer
import InputBridge.Trace

/-!
# Scripts as values

How the script of a server is written down, and how the calls that it noted are.
A script may also be changed by a record that has only the parts that change.
-/

namespace InputBridge

open Wire (Value)

/-! ## Keymaps -/

/-- The keycode that a decimal numeral stands for. -/
def keycode? (s : String) : Option UInt32 := s.toNat?.map UInt32.ofNat

instance : OfValue ScriptedKey := ⟨fun v => v.record? "n l a c" ScriptedKey.mk⟩

instance : OfValue ScriptedGroup := ⟨fun v => do
  return {
    description := ← v.fieldD "desc" none
    keys := ← match v.field "keys" with
      | .nil => some []
      | keys => keys.entries? keycode? }⟩

instance : OfValue ScriptedKeymap := ⟨fun v => do
  let usual : ScriptedKeymap := {}
  return {
    minKeycode := ← v.fieldD "min" usual.minKeycode
    maxKeycode := ← v.fieldD "max" usual.maxKeycode
    groupCount := ← v.fieldD "num_groups" none
    groups := ← v.fieldD "groups" usual.groups
    modifiers := ← match v.field "mods" with
      | .nil => some usual.modifiers
      | modifiers => modifiers.entries? some
    namesOfWidth := ← v.fieldD "long_names" none }⟩

/-! ## Scripts -/

def RequestKind.all : List RequestKind :=
  [.barrierSupport, .pointer, .keyboard, .keyboardReport, .rules, .keymap, .startEvents, .flush,
    .selectInput, .warp, .createBarrier, .deleteBarrier]

instance : OfValue RequestKind := ⟨byName? RequestKind.word RequestKind.all⟩

/-- Changes the parts of a script that are given. -/
def Script.change? (s : Script) (v : Value) : Option Script := do
  return { s with
    report := ⟨← v.fieldD "group" s.report.group, ← v.fieldD "locked_mods" s.report.lockedModifiers⟩
    keymap := ← v.fieldD "keymap" s.keymap
    rules := ← match v.field "rules" with
      | .nil => some s.rules
      | rules => rules.toText?.map Text.Utf8.encode
    refused := ← v.fieldD "fail" s.refused
    refusedBarrier := ← v.fieldD "fail_barrier" s.refusedBarrier
    refusedDisplays := ← v.fieldD "refuse" s.refusedDisplays }

instance : OfValue Script := ⟨fun v => do
  let s ← Script.change? {} v
  let (width, height) ← v.fieldD "size" (s.width, s.height)
  return { s with
    width, height
    root := ← v.fieldD "root" s.root
    pointer := ← v.fieldD "pointer" s.pointer
    axes := ← v.fieldD "valuators" s.axes
    keyboard := ← v.fieldD "keyboard" s.keyboard }⟩

/-! ## Calls -/

def Direction.name : Direction → String
  | .positiveX => "+x"
  | .positiveY => "+y"
  | .negativeX => "-x"
  | .negativeY => "-y"

instance : OfValue Direction :=
  ⟨byName? Direction.name [.positiveX, .positiveY, .negativeX, .negativeY]⟩

/-- What distinguishes a request from others of its kind, with its number. -/
def Request.details (r : Request) (number : Option Nat) : List Value :=
  match r with
  | .keyboardReport device | .keymap device => [toValue device]
  | .selectInput window enable => Row.row (window, enable)
  | .warp x y => Row.row (x, y, number)
  | .createBarrier b => Row.row (number, b.x1, b.y1, b.x2, b.y2, b.allow.name)
  | .deleteBarrier id => [toValue id]
  | _ => []

instance : ToValue ScriptedCall := ⟨fun
  | .openLink display => toValue ("open", display)
  | .closeLink link => toValue ("drop", link)
  | .request link r number =>
    .array (Row.row (r.kind.word, link) ++ r.details number)⟩

end InputBridge
