-- SUMMARY: Messages as text with all that is in them.
import InputBridge.Text.Dump
import InputBridge.Wire.Message

/-!
# Messages in full

The text of a message that has no text of its own, and of what is in it.
-/

namespace InputBridge

open Dump (record call)

/-! ## Parts of messages -/

instance : Dump Role := ⟨fun
  | .desktop => "Desktop"
  | .client => "Client"⟩

instance : Dump Status := ⟨fun
  | .ok => "Ok"
  | .error => "Error"
  | .notSupported => "NotSupported"
  | .invalidParameter => "InvalidParameter"
  | .notFound => "NotFound"⟩

instance : Dump Rect := ⟨fun r => record "Rect"
  [("left", dump r.left), ("top", dump r.top), ("right", dump r.right), ("bottom", dump r.bottom)]⟩

instance : Dump Masks := ⟨fun m => record "Masks"
  [("shift", dump m.shift), ("ctrl", dump m.ctrl), ("alt", dump m.alt), ("altgr", dump m.altgr),
    ("caps", dump m.caps), ("num", dump m.num)]⟩

instance : Dump Input := ⟨fun
  | .mouse dx dy data flags time => record "Mouse"
    [("dx", dump dx), ("dy", dump dy), ("data", dump data), ("flags", dump flags),
      ("time", dump time)]
  | .key vk scan flags time => record "Keyboard"
    [("vk", dump vk), ("scan", dump scan), ("flags", dump flags), ("time", dump time)]
  | .touch x y id flags time => record "Touch"
    [("x", dump x), ("y", dump y), ("id", dump id), ("flags", dump flags), ("time", dump time)]⟩

instance : Dump LayoutEntry := ⟨fun l => record "LayoutDescriptor"
  [("hkl", dump l.hkl), ("lang", dump l.lang), ("index", dump l.index),
    ("layout_id", dump l.layoutId), ("group", dump l.group), ("name", dump l.name),
    ("active", dump l.active)]⟩

instance : Dump Response := ⟨fun r => record "Response"
  [("id", dump r.id), ("status", dump r.status), ("error", dump r.error), ("root", dump r.root),
    ("screen_width", dump r.screenWidth), ("screen_height", dump r.screenHeight),
    ("tables", dump r.tables), ("group_mask", dump r.groupMask), ("masks", dump r.masks),
    ("layouts", dump r.layouts)]⟩

/-! ## Messages -/

instance : Dump Message := ⟨fun
  | .hello id version role => record "Hello"
    [("id", dump id), ("version", dump version), ("role", dump role)]
  | .helloAck id status error => record "HelloAck"
    [("id", dump id), ("status", dump status), ("error", dump error)]
  | .connect id display => record "Connect" [("id", dump id), ("display", dump display)]
  | .startInput id window handle => record "StartInput"
    [("id", dump id), ("x11_window", dump window), ("handle", dump handle)]
  | .stopInput id window => record "StopInput" [("id", dump id), ("x11_window", dump window)]
  | .getTables id layout => record "GetKeyboardTables" [("id", dump id), ("layout", dump layout)]
  | .listLayouts id => record "ListLayouts" [("id", dump id)]
  | .clipCursor id rect => record "ClipCursor" [("id", dump id), ("rect", dump rect)]
  | .setCursorPos id x y => record "SetCursorPos" [("id", dump id), ("x", dump x), ("y", dump y)]
  | .input id window input => record "Input"
    [("id", dump id), ("window", dump window), ("input", dump input)]
  | .languageChange id window hkl => record "InputLangChange"
    [("id", dump id), ("window", dump window), ("hkl", dump hkl)]
  | .lockState id locks => record "LockState"
    [("id", dump id), ("caps", dump locks.caps), ("num", dump locks.num)]
  | .response r => call "Response" [dump r]⟩

end InputBridge
