-- SUMMARY: Mouse buttons, packed axis values and raw motion as mouse input.
import InputBridge.Event
import InputBridge.Input

/-!
# Pointer input

Mouse buttons as flags and data, axis values out of the packed form in which raw
motion carries them, and raw motion as mouse input.
-/

namespace InputBridge

namespace Pointer

/-! ## Buttons -/

/-- What one notch of a wheel amounts to. -/
def notch : Int32 := 120

/-- Flags and data of the pressed buttons, from button 1 on. -/
def pressed : List (UInt32 × Int32) := [
  (MouseFlag.leftDown, 0), (MouseFlag.middleDown, 0), (MouseFlag.rightDown, 0),
  (MouseFlag.wheel, notch), (MouseFlag.wheel, -notch),
  (MouseFlag.sideWheel, -notch), (MouseFlag.sideWheel, notch),
  (MouseFlag.sideDown, 1), (MouseFlag.sideDown, 2)]

/-- Flags and data of the released buttons, from button 1 on. The wheels have
none. -/
def released : List (UInt32 × Int32) := [
  (MouseFlag.leftUp, 0), (MouseFlag.middleUp, 0), (MouseFlag.rightUp, 0),
  (0, 0), (0, 0), (0, 0), (0, 0),
  (MouseFlag.sideUp, 1), (MouseFlag.sideUp, 2)]

/-- Flags and data of a button, counted from 1, if it stands for anything. -/
def button? (button : UInt32) (press : Bool) : Option (UInt32 × Int32) :=
  if button = 0 then none
  else ((if press then pressed else released)[button.toNat - 1]?).filter (·.1 != 0)

/-! ## Axis values -/

/-- The numbers of the bits set in a word, the first bit being number `base`. -/
def setBits (base : Nat) (word : UInt32) : List Nat :=
  ((List.range 32).filter word.toNat.testBit).map (base + ·)

/-- The numbers of the bits set in a mask of 32-bit words, in order. -/
def maskBits : (base : Nat) → List UInt32 → List Nat
  | _, [] => []
  | base, word :: words => setBits base word ++ maskBits (base + 32) words

/-- The value of an axis. Only the axes whose mask bit is set have a value, and
their values stand in the order of the bits. -/
def axisValue? (mask : List UInt32) (values : List Fixed32) (number : UInt16) : Option Fixed32 :=
  ((maskBits 0 mask).zip values).lookup number.toNat

/-! ## Raw motion -/

/-- The motion along one axis: rescaled for an absolute device, rounded for a
relative one, none where the axis has no value. -/
def axisMotion (absolute : Bool) (axis : Axis) : Option Fixed32 → Int32
  | none => 0
  | some value => if absolute then value.rescale axis.min axis.max 0 65535 else value.round

/-- Raw motion as mouse input. The horizontal axis decides whether it is
absolute. -/
def rawMotion? (device : PointerDevice) (mask : List UInt32) (values : List Fixed32)
    (time : UInt32) : Option Input :=
  match device.x, device.y with
  | some x, some y =>
    let vx := axisValue? mask values x.number
    let vy := axisValue? mask values y.number
    if vx.isNone && vy.isNone then none
    else
      let flags :=
        if x.absolute then MouseFlag.move ||| MouseFlag.absolute ||| MouseFlag.virtualDesktop
        else MouseFlag.move
      some (.mouse (axisMotion x.absolute x vx) (axisMotion x.absolute y vy) 0 flags time)
  | _, _ => none

end Pointer

end InputBridge
