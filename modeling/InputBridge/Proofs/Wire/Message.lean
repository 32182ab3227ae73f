-- SUMMARY: Messages and their parts are read back from what is written.
import InputBridge.Proofs.Wire.Growth

/-!
# Messages there and back

A message that was written is read back, whatever its type and whichever of its
optional fields it has, and even if its maps were put into another order and got
more entries on the way. Its parts are written and read in the same way, each with
its own names and slots.
-/

namespace InputBridge

open Wire Wire.Value

variable {depth : Nat} {v : Value} {entries : List (Value × Value)} {slots' : Slots}

/-! ## Parts of messages -/

theorem inverse_role : Inverse depth (fun r : Role => .text r.name) Role.ofValue? where
  read r := by cases r <;> rfl
  canonical r := .text r.name
  ne_nil _ := nofun

theorem inverse_status : Inverse depth (fun s : Status => .text s.name) Status.ofValue? where
  read s := by cases s <;> rfl
  canonical s := .text s.name
  ne_nil _ := nofun

def Rect.fieldNames : List String := ["left", "top", "right", "bottom"]

def Rect.slots (r : Rect) : Slots :=
  [some (ofInt32 r.left), some (ofInt32 r.top), some (ofInt32 r.right), some (ofInt32 r.bottom)]

theorem readsGrown_rect : ReadsGrown Rect.toValue Rect.ofValue? :=
  readsGrown_fields Rect.fieldNames Rect.slots (fun _ => rfl) (by decide) (fun _ => rfl)
    (by simp [Rect.slots])
    (fun r entries slots' hslots grown => by
      obtain rfl := grown.eq_of_scalar (by simp [Rect.slots])
      rw [Rect.fieldNames] at hslots
      rw [Rect.ofValue?, slots?, hslots]
      simp [need, Rect.slots])

theorem inverse_rect : Inverse (depth + 1) Rect.toValue Rect.ofValue? :=
  inverse_fields (fun _ => Rect.fieldNames) Rect.slots (fun _ => rfl)
    (fun r => .cons (inverse_int32.canonical r.left) <| .cons (inverse_int32.canonical r.top) <|
      .cons (inverse_int32.canonical r.right) <| .cons (inverse_int32.canonical r.bottom) .nil)
    (fun r => readsGrown_rect.read r _ (.refl _))

def Masks.fieldNames : List String := ["shift", "ctrl", "alt", "altgr", "caps", "num"]

def Masks.slots (m : Masks) : Slots :=
  [some (ofUInt32 m.shift), some (ofUInt32 m.ctrl), some (ofUInt32 m.alt),
    some (ofUInt32 m.altgr), some (ofUInt32 m.caps), some (ofUInt32 m.num)]

theorem readsGrown_masks : ReadsGrown Masks.toValue Masks.ofValue? :=
  readsGrown_fields Masks.fieldNames Masks.slots (fun _ => rfl) (by decide) (fun _ => rfl)
    (by simp [Masks.slots])
    (fun m entries slots' hslots grown => by
      obtain rfl := grown.eq_of_scalar (by simp [Masks.slots])
      rw [Masks.fieldNames] at hslots
      rw [Masks.ofValue?, slots?, hslots]
      simp [need, Masks.slots])

theorem inverse_masks : Inverse (depth + 1) Masks.toValue Masks.ofValue? :=
  inverse_fields (fun _ => Masks.fieldNames) Masks.slots (fun _ => rfl)
    (fun m => .cons (inverse_uint32.canonical m.shift) <| .cons (inverse_uint32.canonical m.ctrl) <|
      .cons (inverse_uint32.canonical m.alt) <| .cons (inverse_uint32.canonical m.altgr) <|
      .cons (inverse_uint32.canonical m.caps) <| .cons (inverse_uint32.canonical m.num) .nil)
    (fun m => readsGrown_masks.read m _ (.refl _))

def LayoutEntry.fieldNames : List String :=
  ["hkl", "lang", "index", "layout_id", "group", "name", "active"]

def LayoutEntry.slots (l : LayoutEntry) : Slots :=
  [some (ofUInt32 l.hkl), some (ofUInt16 l.lang), some (ofUInt16 l.index),
    some (ofUInt16 l.layoutId), some (ofUInt32 l.group), some (.text l.name),
    some (.bool l.active)]

theorem readsGrown_layoutEntry : ReadsGrown LayoutEntry.toValue LayoutEntry.ofValue? :=
  readsGrown_fields LayoutEntry.fieldNames LayoutEntry.slots (fun _ => rfl) (by decide)
    (fun _ => rfl) (by simp [LayoutEntry.slots])
    (fun l entries slots' hslots grown => by
      obtain rfl := grown.eq_of_scalar (by simp [LayoutEntry.slots])
      rw [LayoutEntry.fieldNames] at hslots
      rw [LayoutEntry.ofValue?, slots?, hslots]
      simp [need, LayoutEntry.slots])

theorem inverse_layoutEntry : Inverse (depth + 1) LayoutEntry.toValue LayoutEntry.ofValue? :=
  inverse_fields (fun _ => LayoutEntry.fieldNames) LayoutEntry.slots (fun _ => rfl)
    (fun l => .cons (inverse_uint32.canonical l.hkl) <| .cons (inverse_uint16.canonical l.lang) <|
      .cons (inverse_uint16.canonical l.index) <| .cons (inverse_uint16.canonical l.layoutId) <|
      .cons (inverse_uint32.canonical l.group) <| .cons (.text l.name) <|
      .cons (.bool l.active) .nil)
    (fun l => readsGrown_layoutEntry.read l _ (.refl _))

theorem readsGrown_layouts :
    ReadsGrown (fun ls : List LayoutEntry => .array (ls.map LayoutEntry.toValue))
      LayoutEntry.listOfValue? where
  read ls v h := by
    cases h with
    | refl => exact readsGrown_layoutEntry.mapM (List.forall₂_same.mpr fun _ _ => .refl _)
    | array hitems => exact readsGrown_layoutEntry.mapM hitems
  ne_nil _ := nofun

theorem inverse_layouts : Inverse (depth + 2)
    (fun ls : List LayoutEntry => .array (ls.map LayoutEntry.toValue))
    LayoutEntry.listOfValue? where
  read ls := readsGrown_layouts.read ls _ (.refl _)
  canonical ls := inverse_layoutEntry.canonical_array ls
  ne_nil _ := nofun

/-! ## Inputs -/

namespace Input

def fieldNames : Input → List String
  | .mouse .. => ["dx", "dy", "data", "flags", "time"]
  | .key .. => ["vk", "scan", "flags", "time"]
  | .touch .. => ["x", "y", "id", "flags", "time"]

def slots : Input → Slots
  | .mouse dx dy data flags time =>
    [some (ofInt32 dx), some (ofInt32 dy), some (ofInt32 data), some (ofUInt32 flags),
      some (ofUInt32 time)]
  | .key vk scan flags time =>
    [some (ofUInt16 vk), some (ofUInt16 scan), some (ofUInt32 flags), some (ofUInt32 time)]
  | .touch x y id flags time =>
    [some (ofInt32 x), some (ofInt32 y), some (ofUInt32 id), some (ofUInt32 flags),
      some (ofUInt32 time)]

def kind : Input → String
  | .mouse .. => "mouse"
  | .key .. => "keyboard"
  | .touch .. => "touch"

/-- The number of the kind among all kinds. -/
def kindIndex : Input → Nat
  | .mouse .. => 0
  | .key .. => 1
  | .touch .. => 2

theorem toValue_eq (i : Input) :
    i.toValue = .map (entriesOf ("kind" :: i.fieldNames) (some (.text i.kind) :: i.slots)) := by
  cases i <;> rfl

theorem nodup_fieldNames (i : Input) : ("kind" :: i.fieldNames).Nodup := by
  cases i <;> simp [fieldNames]

theorem length_slots (i : Input) : i.slots.length = i.fieldNames.length := by cases i <;> rfl

theorem findIdx?_kind (i : Input) :
    kinds.findIdx? (isName · (.text i.kind)) = some i.kindIndex := by
  cases i <;> rfl

theorem canonical_slots (i : Input) : CanonicalSlots depth i.slots := by
  cases i with
  | mouse dx dy data flags time =>
    exact .cons (inverse_int32.canonical dx) <| .cons (inverse_int32.canonical dy) <|
      .cons (inverse_int32.canonical data) <| .cons (inverse_uint32.canonical flags) <|
      .cons (inverse_uint32.canonical time) .nil
  | key vk scan flags time =>
    exact .cons (inverse_uint16.canonical vk) <| .cons (inverse_uint16.canonical scan) <|
      .cons (inverse_uint32.canonical flags) <| .cons (inverse_uint32.canonical time) .nil
  | touch x y id flags time =>
    exact .cons (inverse_int32.canonical x) <| .cons (inverse_int32.canonical y) <|
      .cons (inverse_uint32.canonical id) <| .cons (inverse_uint32.canonical flags) <|
      .cons (inverse_uint32.canonical time) .nil

theorem ofValue?_of_slots (i : Input) {fields : List (Value × Value)}
    (h : untag? false "kind" kinds v = some (i.kindIndex, .map fields))
    (hslots : slotsOfMap false i.fieldNames fields = some i.slots) : ofValue? v = some i := by
  rw [ofValue?, h]
  cases i with
  | mouse | key | touch =>
    dsimp only [kindIndex, fieldNames] at hslots ⊢
    simp only [Option.bind_eq_bind, Option.bind_some, slots?, hslots]
    simp [need, slots]

end Input

theorem readsGrown_input : ReadsGrown Input.toValue Input.ofValue? where
  read i v h := by
    rw [i.toValue_eq] at h
    have full : ∀ slot ∈ some (.text i.kind) :: i.slots, slot.isSome = true := by
      cases i <;> simp [Input.slots]
    obtain ⟨fields, slots', hsplit, hslots, grown⟩ :=
      (h.extends (by simp [i.length_slots]) full).untag? false i.nodup_fieldNames
        i.length_slots i.findIdx?_kind
    obtain rfl := grown.eq_of_scalar (by cases i <;> simp [Input.slots])
    exact i.ofValue?_of_slots hsplit hslots
  ne_nil i := by cases i <;> nofun

theorem inverse_input : Inverse (depth + 1) Input.toValue Input.ofValue? :=
  inverse_fields (fun i => "kind" :: i.fieldNames)
    (fun i => some (.text i.kind) :: i.slots) Input.toValue_eq
    (fun i => .cons (.text i.kind) i.canonical_slots)
    (fun i => i.toValue_eq ▸ readsGrown_input.read i _ (.refl _))

/-! ## Answers -/

def Response.slots (r : Response) : Slots :=
  [some (ofUInt32 r.id), some (.text r.status.name), r.error.map .text, r.root.map ofUInt32,
    r.screenWidth.map ofUInt16, r.screenHeight.map ofUInt16, r.tables.map .bytes,
    r.groupMask.map ofUInt32, r.masks.map Masks.toValue,
    r.layouts.map fun ls => .array (ls.map LayoutEntry.toValue)]

theorem Response.canonical_slots (r : Response) : CanonicalSlots (depth + 2) r.slots :=
  .cons (inverse_uint32.canonical r.id) <| .cons (.text r.status.name) <|
    .cons_map inverse_text r.error <| .cons_map inverse_uint32 r.root <|
    .cons_map inverse_uint16 r.screenWidth <| .cons_map inverse_uint16 r.screenHeight <|
    .cons_map inverse_bytes r.tables <| .cons_map inverse_uint32 r.groupMask <|
    .cons_map inverse_masks r.masks <| .cons_map inverse_layouts r.layouts .nil

theorem readsGrown_status :
    ReadsGrown (fun s : Status => .text s.name) Status.ofValue? :=
  (@inverse_status 0).readsGrown fun _ => trivial

theorem Response.ofValue?_of_grown (r : Response)
    (hslots : slotsOfMap false fieldNames entries = some slots')
    (grown : GrownSlots r.slots slots') : ofValue? (.map entries) = some r := by
  rw [ofValue?, slots?, hslots]
  -- field by field, as the reader looks for them
  have id : need slots' 0 toUInt32? = some r.id := need_of_grown readsGrown_uint32 grown rfl
  have status : need slots' 1 Status.ofValue? = some r.status :=
    need_of_grown readsGrown_status grown rfl
  have error : may slots' 2 toText? = some r.error := may_of_grown readsGrown_text grown rfl
  have root : may slots' 3 toUInt32? = some r.root := may_of_grown readsGrown_uint32 grown rfl
  have width : may slots' 4 toUInt16? = some r.screenWidth :=
    may_of_grown readsGrown_uint16 grown rfl
  have height : may slots' 5 toUInt16? = some r.screenHeight :=
    may_of_grown readsGrown_uint16 grown rfl
  have tables : may slots' 6 toBytes? = some r.tables := may_of_grown readsGrown_bytes grown rfl
  have groupMask : may slots' 7 toUInt32? = some r.groupMask :=
    may_of_grown readsGrown_uint32 grown rfl
  have masks : may slots' 8 Masks.ofValue? = some r.masks :=
    may_of_grown readsGrown_masks grown rfl
  have layouts : may slots' 9 LayoutEntry.listOfValue? = some r.layouts :=
    may_of_grown readsGrown_layouts grown rfl
  simp only [Option.bind_eq_bind, Option.bind_some, id, status, error, root, width, height, tables,
    groupMask, masks, layouts]
  rfl

/-! ## Messages -/

namespace Message

/-- The number of the type among all types. -/
def typeIndex : Message → Nat
  | .hello .. => 0
  | .helloAck .. => 1
  | .connect .. => 2
  | .startInput .. => 3
  | .stopInput .. => 4
  | .getTables .. => 5
  | .listLayouts .. => 6
  | .clipCursor .. => 7
  | .setCursorPos .. => 8
  | .input .. => 9
  | .languageChange .. => 10
  | .lockState .. => 11
  | .response .. => 12

def fieldNames : Message → List String
  | .hello .. => ["id", "version", "role"]
  | .helloAck .. => ["id", "status", "error"]
  | .connect .. => ["id", "display"]
  | .startInput .. => ["id", "x11_window", "handle"]
  | .stopInput .. => ["id", "x11_window"]
  | .getTables .. => ["id", "layout"]
  | .listLayouts .. => ["id"]
  | .clipCursor .. => ["id", "rect"]
  | .setCursorPos .. => ["id", "x", "y"]
  | .input .. => ["id", "window", "input"]
  | .languageChange .. => ["id", "window", "hkl"]
  | .lockState .. => ["id", "caps", "num"]
  | .response .. => Response.fieldNames

def slots : Message → Slots
  | .hello id version role => [some (ofUInt32 id), some (ofUInt32 version), some (.text role.name)]
  | .helloAck id status error =>
    [some (ofUInt32 id), some (.text status.name), error.map .text]
  | .connect id display => [some (ofUInt32 id), some (.text display)]
  | .startInput id window handle =>
    [some (ofUInt32 id), some (ofUInt32 window), some (ofUInt64 handle)]
  | .stopInput id window => [some (ofUInt32 id), some (ofUInt32 window)]
  | .getTables id layout => [some (ofUInt32 id), some (ofUInt32 layout)]
  | .listLayouts id => [some (ofUInt32 id)]
  | .clipCursor id rect => [some (ofUInt32 id), rect.map Rect.toValue]
  | .setCursorPos id x y => [some (ofUInt32 id), some (ofInt32 x), some (ofInt32 y)]
  | .input id window what =>
    [some (ofUInt32 id), window.map ofUInt64, some what.toValue]
  | .languageChange id window hkl =>
    [some (ofUInt32 id), some (ofUInt64 window), some (ofUInt32 hkl)]
  | .lockState id locks => [some (ofUInt32 id), some (.bool locks.caps), some (.bool locks.num)]
  | .response r => r.slots

theorem fields_eq (m : Message) : m.fields = entriesOf m.fieldNames m.slots := by
  cases m <;>
    simp [fields, fieldNames, slots, Response.fields, Response.fieldNames, Response.slots]

theorem canonical_slots (m : Message) : CanonicalSlots (depth + 2) m.slots := by
  cases m with
  | hello id version role =>
    exact .cons (inverse_uint32.canonical id) <| .cons (inverse_uint32.canonical version) <|
      .cons (.text role.name) .nil
  | helloAck id status error =>
    exact .cons (inverse_uint32.canonical id) <| .cons (.text status.name) <|
      .cons_map inverse_text error .nil
  | connect id display => exact .cons (inverse_uint32.canonical id) <| .cons (.text display) .nil
  | startInput id window handle =>
    exact .cons (inverse_uint32.canonical id) <| .cons (inverse_uint32.canonical window) <|
      .cons (inverse_uint64.canonical handle) .nil
  | stopInput id other | getTables id other =>
    exact .cons (inverse_uint32.canonical id) <| .cons (inverse_uint32.canonical other) .nil
  | listLayouts id => exact .cons (inverse_uint32.canonical id) .nil
  | clipCursor id rect =>
    exact .cons (inverse_uint32.canonical id) <| .cons_map inverse_rect rect .nil
  | setCursorPos id x y =>
    exact .cons (inverse_uint32.canonical id) <| .cons (inverse_int32.canonical x) <|
      .cons (inverse_int32.canonical y) .nil
  | input id window what =>
    exact .cons (inverse_uint32.canonical id) <| .cons_map inverse_uint64 window <|
      .cons (inverse_input.canonical what) .nil
  | languageChange id window hkl =>
    exact .cons (inverse_uint32.canonical id) <| .cons (inverse_uint64.canonical window) <|
      .cons (inverse_uint32.canonical hkl) .nil
  | lockState id locks =>
    exact .cons (inverse_uint32.canonical id) <| .cons (.bool locks.caps) <|
      .cons (.bool locks.num) .nil
  | response r => exact r.canonical_slots

theorem findIdx?_typeName (m : Message) :
    typeNames.findIdx? (isName · (.text m.typeName)) = some m.typeIndex := by
  cases m <;> rfl

theorem nodup_fieldNames (m : Message) : ("type" :: m.fieldNames).Nodup := by
  cases m <;> simp [fieldNames, Response.fieldNames]

theorem length_slots (m : Message) : m.slots.length = m.fieldNames.length := by cases m <;> rfl

theorem toValue_eq (m : Message) :
    m.toValue = .map (entriesOf ("type" :: m.fieldNames) (some (.text m.typeName) :: m.slots)) := by
  rw [toValue, fields_eq, entriesOf_some]

theorem ofFields?_of_grown (m : Message)
    (hslots : slotsOfMap false m.fieldNames entries = some slots')
    (grown : GrownSlots m.slots slots') : ofFields? m.typeIndex (.map entries) = some m := by
  have role : ∀ r : Role, Role.ofValue? (.text r.name) = some r := (@inverse_role 0).read
  -- the fields of most types do not grow; those that do are converted one by one
  cases m with
  | hello | connect | startInput | stopInput | getTables | listLayouts | setCursorPos
  | languageChange | lockState =>
    -- without nested maps the slots are those that were written
    obtain rfl := grown.eq_of_scalar (by simp [slots])
    dsimp only [typeIndex, fieldNames, slots, ofFields?, slots?] at hslots ⊢
    rw [hslots]
    simp [need, role]
  | helloAck id s error =>
    have hid : need slots' 0 toUInt32? = some id := need_of_grown readsGrown_uint32 grown rfl
    have hstatus : need slots' 1 Status.ofValue? = some s :=
      need_of_grown readsGrown_status grown rfl
    have herror : may slots' 2 toText? = some error := may_of_grown readsGrown_text grown rfl
    dsimp only [typeIndex, fieldNames, ofFields?, slots?] at hslots ⊢
    rw [hslots]
    simp [hid, hstatus, herror]
  | clipCursor id rect =>
    have hid : need slots' 0 toUInt32? = some id := need_of_grown readsGrown_uint32 grown rfl
    have hrect : may slots' 1 Rect.ofValue? = some rect := may_of_grown readsGrown_rect grown rfl
    dsimp only [typeIndex, fieldNames, ofFields?, slots?] at hslots ⊢
    rw [hslots]
    simp [hid, hrect]
  | input id window what =>
    have hid : need slots' 0 toUInt32? = some id := need_of_grown readsGrown_uint32 grown rfl
    have hwindow : may slots' 1 toUInt64? = some window :=
      may_of_grown readsGrown_uint64 grown rfl
    have hwhat : need slots' 2 Input.ofValue? = some what :=
      need_of_grown readsGrown_input grown rfl
    dsimp only [typeIndex, fieldNames, ofFields?, slots?] at hslots ⊢
    rw [hslots]
    simp [hid, hwindow, hwhat]
  | response r => exact congrArg (Option.map Message.response) (r.ofValue?_of_grown hslots grown)

/-- A message is read from whatever says what the message says, and nothing else under the names
of its fields. -/
theorem ofValue?_of_extends (m : Message) (h : Extends ("type" :: m.fieldNames) m.toValue v) :
    ofValue? v = some m := by
  rw [m.toValue_eq] at h
  obtain ⟨rest, slots', hsplit, hslots, grown⟩ :=
    h.untag? true m.nodup_fieldNames m.length_slots m.findIdx?_typeName
  rw [ofValue?, hsplit]
  exact m.ofFields?_of_grown hslots grown

/-- Whoever reads what was written of a message has the message. -/
theorem inverse_message : Inverse (depth + 3) toValue ofValue? :=
  inverse_fields (fun m => "type" :: m.fieldNames)
    (fun m => some (.text m.typeName) :: m.slots) toValue_eq
    (fun m => .cons (.text m.typeName) m.canonical_slots)
    (fun m => m.toValue_eq ▸ m.ofValue?_of_extends (.refl _ _))

theorem value_decode?_encode (m : Message) (h : m.encode.length < 2 ^ 32) :
    Value.decode? m.encode = some m.toValue := by
  have read := read_encode ((@inverse_message (maxDepth - 3)).canonical m) h []
  rw [List.append_nil] at read
  exact congrArg (Option.map Prod.fst) read

theorem decode?_encode (m : Message) (h : m.encode.length < 2 ^ 32) :
    decode? m.encode = some m := by
  rw [decode?, value_decode?_encode m h, Option.bind_some, (@inverse_message 0).read]

end Message

theorem Payload.decode_encode (m : Message) (h : m.encode.length < 2 ^ 32) :
    Payload.decode m.encode = .message m := by
  rw [Payload.decode, m.value_decode?_encode h]
  dsimp only
  rw [(@Message.inverse_message 0).read]

end InputBridge
