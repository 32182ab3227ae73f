-- SUMMARY: Payloads with entries in another order, and more of them, hold the same message.
import InputBridge.Proofs.Wire.Message

/-!
# Payloads of other programs

A payload need not come from a program that writes messages as this one does. What says what a
message says is read as the message, in whatever order and with whatever else it comes. And what is
read as no message can still be answered if it has a type and an id.
-/

namespace InputBridge

open Wire Wire.Value

variable {entries : List (Value × Value)} {v : Value} {type : String} {id : UInt32} {m : Message}
  {payload : List UInt8}

/-! ## Messages with more to say -/

/-- A payload is read as a message if it says what the message says: its maps may have their entries
in any order, and more of them under strings that name none of the fields. -/
theorem Payload.decode_of_extends (m : Message)
    (h : Extends ("type" :: m.fieldNames) m.toValue v) (spelled : Spells maxDepth v payload) :
    Payload.decode payload = .message m := by
  rw [Payload.decode, spelled.decode?]
  dsimp only
  rw [m.ofValue?_of_extends h]

/-- A request as another program may send it: with the entries of both maps the other way round,
and one more in each. -/
def roundedClip : Value :=
  .map [(.text "animate", .bool true),
    (.text "rect", .map [(.text "radius", .signed (-1)), (.text "bottom", .ofNat 480),
      (.text "right", .ofNat 640), (.text "top", .ofNat 0), (.text "left", .ofNat 0)]),
    (.text "id", .ofNat 7), (.text "type", .text "clip_cursor")]

theorem roundedClip_canonical (depth : Nat) : Canonical (depth + 2) roundedClip := by
  have rect : Canonical (depth + 1) (.map [(.text "radius", .signed (-1)),
      (.text "bottom", .ofNat 480), (.text "right", .ofNat 640), (.text "top", .ofNat 0),
      (.text "left", .ofNat 0)]) := by
    refine .map (by simp [Canonical.text]) ?_
    simp only [List.forall_mem_cons]
    exact ⟨.signed (by decide) (by decide), .unsigned (by decide), .unsigned (by decide),
      .unsigned (by decide), .unsigned (by decide), List.forall_mem_nil _⟩
  refine .map (by simp [Canonical.text]) ?_
  simp only [List.forall_mem_cons]
  exact ⟨.bool true, rect, .unsigned (by decide), .text _, List.forall_mem_nil _⟩

theorem extends_roundedClip : Extends ["type", "id", "rect"]
    (Message.clipCursor 7 (some ⟨0, 0, 640, 480⟩)).toValue roundedClip where
  grows := by
    have same (entries : List (Value × Value)) : List.Forall₂ (Keyed Grows) entries entries :=
      List.forall₂_same.mpr fun e _ => .intro e.1 (.refl e.2)
    let rect : Value := .map [(.text "radius", .signed (-1)), (.text "bottom", .ofNat 480),
      (.text "right", .ofNat 640), (.text "top", .ofNat 0), (.text "left", .ofNat 0)]
    have hrect : Grows (Rect.toValue ⟨0, 0, 640, 480⟩) rect :=
      .map (same _) (by simp [IsString, field]) (List.reverse_perm _).symm
    refine .map
      (.cons (.intro _ (.refl _)) (.cons (.intro _ (.refl _)) (.cons (.intro _ hrect) .nil))) ?_
      (List.reverse_perm _).symm
    simp [IsString, Message.fields, field, optionalField]
  addsNone entries _ h _ name hname _ := by
    cases h
    simp only [List.mem_cons, List.not_mem_nil, or_false] at hname
    rcases hname with rfl | rfl | rfl <;>
      simp [Message.fields, field, optionalField]

theorem roundedClip_decode :
    Payload.decode roundedClip.encode = .message (.clipCursor 7 (some ⟨0, 0, 640, 480⟩)) :=
  Payload.decode_of_extends _ extends_roundedClip
    (spells_encode (roundedClip_canonical 1021) (by decide))

/-! ## Payloads with an id -/

namespace Wire.Value

/-- The value is the number, in whatever width and with or without room for a sign. -/
inductive Counts : Value → Nat → Prop where
  | unsigned (width n : Nat) : Counts (.unsigned width n) n
  | signed (n : Nat) : Counts (.signed n) n

theorem Counts.toUInt32? (h : Counts v id.toNat) : v.toUInt32? = some id := by
  have hmax : id.toNat ≤ 0xffffffff := Nat.le_of_lt_succ id.toNat_lt
  have hint : v.toInt? = some (id.toNat : Int) := by
    cases h with
    | unsigned | signed => rfl
  rw [Value.toUInt32?, toNatUpTo?, hint, Option.bind_some,
    if_pos ⟨Int.natCast_nonneg _, by exact_mod_cast hmax⟩, Int.toNat_natCast, Option.map_some,
    UInt32.ofNat_toNat]

end Wire.Value

/-- The entries of a map with a type and an id, and with whatever else under other names. -/
structure Identified (entries : List (Value × Value)) (type : String) (id : UInt32) : Prop where
  isString : ∀ e ∈ entries, e.1.IsString
  distinct : (entries.map Prod.fst).Nodup
  type : (.text "type", .text type) ∈ entries
  id : ∃ v, (.text "id", v) ∈ entries ∧ Counts v id.toNat

/-- The type and the id may come first, and no entry after them is called like them. -/
theorem Identified.exists_perm (h : Identified entries type id) : ∃ v others, Counts v id.toNat ∧
    entries.Perm ((.text "type", .text type) :: (.text "id", v) :: others) ∧
    ∀ e ∈ others, Unknown ["type", "id"] e.1 := by
  obtain ⟨v, hid, counts⟩ := h.id
  obtain ⟨before, after, hentries⟩ := List.append_of_mem h.type
  have typeFirst : entries.Perm ((.text "type", .text type) :: (before ++ after)) := by
    rw [hentries]
    exact List.perm_middle
  -- the id has another key than the type, so it is one of the others
  have hid : (.text "id", v) ∈ before ++ after := by
    simpa using typeFirst.mem_iff.mp hid
  obtain ⟨before', after', hrest⟩ := List.append_of_mem hid
  have perm : entries.Perm
      ((.text "type", .text type) :: (.text "id", v) :: (before' ++ after')) := by
    rw [hrest] at typeFirst
    exact typeFirst.trans (List.perm_middle.cons _)
  refine ⟨v, before' ++ after', counts, perm, fun e he => ⟨?_, ?_⟩⟩
  · exact h.isString e (perm.mem_iff.mpr (List.mem_cons_of_mem _ (List.mem_cons_of_mem _ he)))
  · -- the keys are distinct, and both names are taken
    have nodup := (perm.map Prod.fst).nodup_iff.mp h.distinct
    have hkey : e.1 ∈ (before' ++ after').map Prod.fst := List.mem_map_of_mem he
    rw [List.map_cons, List.map_cons, List.nodup_cons, List.nodup_cons] at nodup
    obtain ⟨htype, hid, -⟩ := nodup
    simp only [List.forall_mem_cons]
    refine ⟨?_, ?_, List.forall_mem_nil _⟩
    · rintro heq
      exact htype (List.mem_cons_of_mem _ (heq ▸ hkey))
    · rintro heq
      exact hid (heq ▸ hkey)

theorem Identified.envelope (h : Identified entries type id) :
    Envelope.ofValue? (.map entries) = some ⟨type, id⟩ := by
  obtain ⟨v, others, counts, perm, unknown⟩ := h.exists_perm
  have hslots : slotsOfMap true Envelope.fieldNames entries = some [some (.text type), some v] :=
    slotsOfMap_of_perm (by decide) rfl perm unknown
  simp [Envelope.ofValue?, hslots, need, counts.toUInt32?]

/-- Where the id is the first field, it is read of the entry of that name, wherever that stands. -/
theorem need_id {names : List String} {slots : Slots}
    (hslots : slotsOfMap false ("id" :: names) entries = some slots)
    (hv : (.text "id", v) ∈ entries) : need slots 0 toUInt32? = v.toUInt32? := by
  rw [need, getD_of_mem hslots hv rfl (by simp), Option.bind_some]

/-- A message has the id that its entries have. -/
theorem Message.toUInt32?_id {i : Nat} (h : ofFields? i (.map entries) = some m)
    (hv : (.text "id", v) ∈ entries) : v.toUInt32? = some m.id := by
  unfold ofFields? at h
  split at h
  -- all types have the id for their first field, and what is read after it does not matter here
  all_goals
    simp only [Option.bind_eq_bind, Option.bind_eq_some_iff, Option.map_eq_some_iff, slots?,
      Response.ofValue?, Response.fieldNames] at h
    grind [need_id, Message.id]

/-- If a message is read, it has the id, and the type is one of those that there are. -/
theorem Identified.message (h : Identified entries type id)
    (hm : Message.ofValue? (.map entries) = some m) : m.id = id ∧ type ∈ Message.typeNames := by
  obtain ⟨v, others, counts, perm, unknown⟩ := h.exists_perm
  have untagged : ∀ e ∈ (.text "id", v) :: others, isName "type" e.1 = false :=
    List.forall_mem_cons.mpr ⟨rfl, fun e he => (unknown e he).isName List.mem_cons_self⟩
  obtain ⟨rest, hsplit, hrest⟩ := splitTag_of_perm perm untagged
  simp only [Message.ofValue?, untag?, hsplit, Option.bind_eq_bind, Option.bind_some,
    Option.bind_eq_some_iff] at hm
  obtain ⟨_, ⟨i, hi, hsome⟩, hm⟩ := hm
  cases hsome
  refine ⟨?_, ?_⟩
  · have hid := Message.toUInt32?_id hm (hrest.mem_iff.mpr List.mem_cons_self)
    rw [counts.toUInt32?] at hid
    exact (Option.some.inj hid).symm
  · exact mem_of_variantIndex? hi

/-- A message that cannot be read for its other fields is an envelope at least. -/
theorem Payload.decode_of_identified (h : Identified entries type id)
    (spelled : Spells maxDepth (.map entries) payload) :
    (∃ m, Payload.decode payload = .message m ∧ m.id = id ∧ type ∈ Message.typeNames) ∨
      Payload.decode payload = .unknown ⟨type, id⟩ := by
  rw [Payload.decode, spelled.decode?]
  dsimp only
  cases hm : Message.ofValue? (.map entries) with
  | some m => exact .inl ⟨m, rfl, h.message hm⟩
  | none =>
    rw [h.envelope]
    exact .inr rfl

end InputBridge
