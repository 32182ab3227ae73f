-- SUMMARY: The lines that a client prints for answers and for messages that come unasked.
import InputBridge.Keyboard.Tables.Image
import InputBridge.Wire.Message.Dump

/-!
# What a client prints

The lines that a client prints for what the broker answers, and one line for each
message that the broker sends unasked.
-/

namespace InputBridge

namespace Report

open Text (hex hexDigits padLeft padRight)

/-- Lines as text. -/
def text (lines : List String) : String := String.join (lines.map (· ++ "\n"))

/-! ## Answers -/

/-- The geometry of a display. -/
structure Geometry where
  root : UInt32
  width : UInt16
  height : UInt16
  deriving DecidableEq, Repr, Inhabited

def info (display : String) (g : Geometry) : List String :=
  let display := if display.isEmpty then "(default)" else display
  [s!"Display: {display}",
    s!"Root:    {hex 1 g.root.toNat}",
    s!"Screen:  {g.width.toNat}x{g.height.toNat}"]

def layoutRow (hkl group active name : String) : String :=
  let group := padLeft ' ' 5 group
  s!"{padRight 10 hkl} {group} {padRight 6 active} {name}"

def layouts (entries : List LayoutEntry) : List String :=
  if entries.isEmpty then ["No keyboard layouts"]
  else
    [layoutRow "HKL" "GROUP" "ACTIVE" "NAME", String.ofList (.replicate 50 '-')] ++
      entries.map fun l => layoutRow (hexDigits 8 l.hkl.toNat) (toString l.group.toNat)
        (if l.active then "*" else "") l.name

def masks (m : Masks) : String :=
  let hex (n : UInt32) := hex 1 n.toNat
  s!"shift={hex m.shift} ctrl={hex m.ctrl} alt={hex m.alt} altgr={hex m.altgr} " ++
    s!"caps={hex m.caps} num={hex m.num}"

/-- A summary of keyboard tables and of the answer that they came in, where
`image` is their image. -/
def tables (layout : UInt32) (r : Response) (image : List UInt8) (t : KeyTables) : List String :=
  [s!"Layout:     {hexDigits 8 layout.toNat}", s!"Blob:       {image.length} bytes"] ++
    (r.groupMask.map fun mask => s!"Group mask: {hex 1 mask.toNat}").toList ++
    (r.masks.map fun m => s!"Modifiers:  {masks m}").toList ++
    [s!"Mod bits:   {t.maxModifierBits.toNat}",
      s!"Char keys:  {t.charRows.length}",
      s!"Key names:  {t.names.length} ({t.namesExtended.length} extended)"]

def clip : Option Rect → String
  | some r => s!"Cursor clipped to {r.left.toInt},{r.top.toInt} {r.width}x{r.height}"
  | none => "Cursor clip released"

def warp (x y : Int32) : String := s!"Cursor moved to {x.toInt},{y.toInt}"

/-! ## Messages -/

def input : Input → String
  | .mouse dx dy data flags time =>
    s!"mouse dx={dx.toInt} dy={dy.toInt} data={data.toInt} " ++
      s!"flags={hex 4 flags.toNat} t={time.toNat}"
  | .key vk scan flags time =>
    s!"key vk={hex 2 vk.toNat} scan={hex 2 scan.toNat} flags={hex 1 flags.toNat} t={time.toNat}"
  | .touch x y id flags time =>
    s!"touch id={id.toNat} x={x.toInt} y={y.toInt} flags={hex 1 flags.toNat} t={time.toNat}"

def onOff (b : Bool) : String := if b then "on" else "off"

/-- The line for a message that was not asked for. -/
def push : Message → String
  | .input _ window what =>
    let target := (window.map fun (handle : Handle) => hex 1 handle.toNat).getD "-"
    s!"input {target} {input what}"
  | .languageChange _ window hkl => s!"lang {hex 1 window.toNat} {hexDigits 8 hkl.toNat}"
  | .lockState _ locks => s!"locks caps={onOff locks.caps} num={onOff locks.num}"
  | m => dump m

end Report

end InputBridge
