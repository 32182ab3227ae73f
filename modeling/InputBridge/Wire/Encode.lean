-- SUMMARY: Messages as values, field by field.
import InputBridge.Wire.Message
import InputBridge.Wire.Value

/-!
# Messages as values

A message is a map that begins with its type and then has the fields in a fixed
order. An optional field that is absent is left out.
-/

namespace InputBridge

open Wire

namespace Wire

/-- A field under its name. -/
def field (name : String) (v : Value) : List (Value × Value) := [(.text name, v)]

/-- A field that is left out where there is nothing to say. -/
def optionalField {α : Type} (name : String) (toValue : α → Value) :
    Option α → List (Value × Value)
  | none => []
  | some x => field name (toValue x)

def ofUInt16 (n : UInt16) : Value := .ofNat n.toNat
def ofUInt32 (n : UInt32) : Value := .ofNat n.toNat
def ofUInt64 (n : UInt64) : Value := .ofNat n.toNat
def ofInt32 (n : Int32) : Value := .ofInt n.toInt

end Wire

def Role.name : Role → String
  | .desktop => "desktop"
  | .client => "client"

def Status.name : Status → String
  | .ok => "ok"
  | .error => "error"
  | .notSupported => "not_supported"
  | .invalidParameter => "invalid_parameter"
  | .notFound => "not_found"

def Rect.toValue (r : Rect) : Value :=
  .map (field "left" (ofInt32 r.left) ++ field "top" (ofInt32 r.top)
    ++ field "right" (ofInt32 r.right) ++ field "bottom" (ofInt32 r.bottom))

def Input.toValue : Input → Value
  | .mouse dx dy data flags time =>
    .map (field "kind" (.text "mouse") ++ field "dx" (ofInt32 dx) ++ field "dy" (ofInt32 dy)
      ++ field "data" (ofInt32 data) ++ field "flags" (ofUInt32 flags)
      ++ field "time" (ofUInt32 time))
  | .key vk scan flags time =>
    .map (field "kind" (.text "keyboard") ++ field "vk" (ofUInt16 vk)
      ++ field "scan" (ofUInt16 scan) ++ field "flags" (ofUInt32 flags)
      ++ field "time" (ofUInt32 time))
  | .touch x y id flags time =>
    .map (field "kind" (.text "touch") ++ field "x" (ofInt32 x) ++ field "y" (ofInt32 y)
      ++ field "id" (ofUInt32 id) ++ field "flags" (ofUInt32 flags)
      ++ field "time" (ofUInt32 time))

def Masks.toValue (m : Masks) : Value :=
  .map (field "shift" (ofUInt32 m.shift) ++ field "ctrl" (ofUInt32 m.ctrl)
    ++ field "alt" (ofUInt32 m.alt) ++ field "altgr" (ofUInt32 m.altgr)
    ++ field "caps" (ofUInt32 m.caps) ++ field "num" (ofUInt32 m.num))

def LayoutEntry.toValue (l : LayoutEntry) : Value :=
  .map (field "hkl" (ofUInt32 l.hkl) ++ field "lang" (ofUInt16 l.lang)
    ++ field "index" (ofUInt16 l.index) ++ field "layout_id" (ofUInt16 l.layoutId)
    ++ field "group" (ofUInt32 l.group) ++ field "name" (.text l.name)
    ++ field "active" (.bool l.active))

namespace Response

def fields (r : Response) : List (Value × Value) :=
  field "id" (ofUInt32 r.id) ++ field "status" (.text r.status.name)
  ++ optionalField "error" .text r.error
  ++ optionalField "root" ofUInt32 r.root
  ++ optionalField "screen_width" ofUInt16 r.screenWidth
  ++ optionalField "screen_height" ofUInt16 r.screenHeight
  ++ optionalField "tables" .bytes r.tables
  ++ optionalField "group_mask" ofUInt32 r.groupMask
  ++ optionalField "masks" Masks.toValue r.masks
  ++ optionalField "layouts" (fun ls => .array (ls.map LayoutEntry.toValue)) r.layouts

end Response

namespace Message

/-- The name of the message's type. -/
def typeName : Message → String
  | .hello .. => "hello"
  | .helloAck .. => "hello_ack"
  | .connect .. => "connect"
  | .startInput .. => "start_input"
  | .stopInput .. => "stop_input"
  | .getTables .. => "get_keyboard_tables"
  | .listLayouts .. => "list_layouts"
  | .clipCursor .. => "clip_cursor"
  | .setCursorPos .. => "set_cursor_pos"
  | .input .. => "input"
  | .languageChange .. => "input_lang_change"
  | .lockState .. => "lock_state"
  | .response .. => "response"

/-- The fields besides the type. -/
def fields : Message → List (Value × Value)
  | .hello id version role =>
    field "id" (ofUInt32 id) ++ field "version" (ofUInt32 version) ++ field "role" (.text role.name)
  | .helloAck id status error =>
    field "id" (ofUInt32 id) ++ field "status" (.text status.name)
    ++ optionalField "error" .text error
  | .connect id display => field "id" (ofUInt32 id) ++ field "display" (.text display)
  | .startInput id window handle =>
    field "id" (ofUInt32 id) ++ field "x11_window" (ofUInt32 window)
    ++ field "handle" (ofUInt64 handle)
  | .stopInput id window => field "id" (ofUInt32 id) ++ field "x11_window" (ofUInt32 window)
  | .getTables id layout => field "id" (ofUInt32 id) ++ field "layout" (ofUInt32 layout)
  | .listLayouts id => field "id" (ofUInt32 id)
  | .clipCursor id rect => field "id" (ofUInt32 id) ++ optionalField "rect" Rect.toValue rect
  | .setCursorPos id x y =>
    field "id" (ofUInt32 id) ++ field "x" (ofInt32 x) ++ field "y" (ofInt32 y)
  | .input id window what =>
    field "id" (ofUInt32 id) ++ optionalField "window" ofUInt64 window
    ++ field "input" what.toValue
  | .languageChange id window hkl =>
    field "id" (ofUInt32 id) ++ field "window" (ofUInt64 window) ++ field "hkl" (ofUInt32 hkl)
  | .lockState id locks =>
    field "id" (ofUInt32 id) ++ field "caps" (.bool locks.caps) ++ field "num" (.bool locks.num)
  | .response r => r.fields

def toValue (m : Message) : Value := .map (field "type" (.text m.typeName) ++ m.fields)

/-- The bytes of a message. -/
def encode (m : Message) : List UInt8 := m.toValue.encode

end Message

end InputBridge
