-- SUMMARY: Clients have the tables that they ask for exactly if the ids of the layouts fit.
import InputBridge.Broker.Request
import InputBridge.Proofs.Keyboard.LayoutIds

/-!
# Layouts that clients ask for

A client lists the layouts of its seat and asks for the tables of one of them by the handle
in the list. It has the tables of that layout if the layouts are told apart by their
handles, which they are exactly if the ids that were drawn for them fit.
-/

namespace InputBridge

namespace Broker

open Layouts (IdsFit idsDrawn)

variable {b : Broker} {c : ClientId} {id : SeatId} {seat : Seat} {layouts : Layouts}

theorem workingSeat_of_seatOf (hc : b.seatOf c = some id) (hseat : b.seats.get? id = some seat)
    (hlive : seat.failed = false) (requestId : UInt32) :
    b.workingSeat requestId c = .ok (id, b.virtualScreen seat, seat) := by
  simp [workingSeat, hc, hseat, hlive]

/-- What a client is told when it lists the layouts leads to their tables: whoever asks with
the handle of an entry has the tables of the layout that the entry is for. -/
def Answers (b : Broker) (c : ClientId) (all : List Layout) : Prop :=
  ∀ requestId, ∃ entries,
    b.onListLayouts c requestId = { id := requestId, layouts := some entries } ∧
      List.Forall₂ (fun entry l => ∀ requestId', b.onGetTables c requestId' entry.hkl =
        { id := requestId', tables := some l.image, groupMask := some l.groupMask,
          masks := some l.masks }) entries all

theorem answers_of_found (hc : b.seatOf c = some id) (hseat : b.seats.get? id = some seat)
    (hlive : seat.failed = false)
    (found : ∀ l ∈ seat.layouts.all, seat.layouts.findByHkl l.hkl = some l) :
    b.Answers c seat.layouts.all := by
  intro requestId
  refine ⟨seat.layouts.all.map (entryOf seat.layouts), ?_, ?_⟩
  · rw [onListLayouts, workingSeat_of_seatOf hc hseat hlive]
  · rw [List.forall₂_map_left_iff, List.forall₂_same]
    intro l hl requestId'
    have hfound : seat.layouts.findByHkl (entryOf seat.layouts l).hkl = some l := found l hl
    rw [onGetTables, workingSeat_of_seatOf hc hseat hlive]
    dsimp only
    rw [hfound]

/-- After layouts were built their handles are distinct and lead back to them, for the seat
and for every client of it, exactly if the ids that were drawn for them fit. -/
theorem rebuilt_layouts_found_iff {keymap : Keymap} {rules : Rules} {first next : UInt16}
    (h : Layouts.rebuild keymap rules first = (.ok (), layouts, next)) :
    ((layouts.all.map Layout.hkl).Nodup ∧
      (∀ l ∈ layouts.all, layouts.findByHkl l.hkl = some l) ∧
      ∀ (b : Broker) c id seat, b.seatOf c = some id → b.seats.get? id = some seat →
        seat.failed = false → seat.layouts.all = layouts.all → b.Answers c layouts.all) ↔
      IdsFit first (idsDrawn layouts.all) := by
  rw [← (Layouts.numbered_of_rebuild h).nodup_highWord_iff, ← layouts.findByHkl_eq_some_self_iff]
  constructor
  · rintro ⟨nodup, found, -⟩
    exact ⟨nodup, found⟩
  · rintro ⟨nodup, found⟩
    -- a client looks among the layouts of its seat, which are these
    refine ⟨nodup, found, fun b c id seat hc hseat hlive hall => ?_⟩
    rw [← hall]
    refine answers_of_found hc hseat hlive fun l hl => ?_
    rw [Layouts.findByHkl, hall]
    exact found l (hall ▸ hl)

/-- The layouts of two groups of one language. -/
def twoLayouts (first : UInt16) : Layouts := (Layouts.rebuild .twoGroups {} first).2.1

theorem rebuild_twoGroups (first : UInt16)
    (built : (Layouts.rebuild .twoGroups {} first).1.toOption = some ()) :
    Layouts.rebuild .twoGroups {} first =
      (.ok (), twoLayouts first, (Layouts.rebuild .twoGroups {} first).2.2) := by
  have hok : (Layouts.rebuild .twoGroups {} first).1 = .ok () := by
    cases h : (Layouts.rebuild .twoGroups {} first).1 with
    | ok => rfl
    | error e => simp [h, Except.toOption] at built
  rw [← hok, twoLayouts]

/-- With an id for the second layout both can be asked for. -/
theorem twoLayouts_found :
    (twoLayouts 1).all.map Layout.hkl = [0x04090409, 0xf0010409] ∧
      ((twoLayouts 1).all.map Layout.hkl).Nodup ∧
      ∀ l ∈ (twoLayouts 1).all, (twoLayouts 1).findByHkl l.hkl = some l := by
  obtain ⟨built, hkls, fit⟩ : (Layouts.rebuild .twoGroups {} 1).1.toOption = some () ∧
      (twoLayouts 1).all.map Layout.hkl = [0x04090409, 0xf0010409] ∧
      IdsFit 1 (idsDrawn (twoLayouts 1).all) := by decide +kernel
  obtain ⟨nodup, found, -⟩ := (rebuilt_layouts_found_iff (rebuild_twoGroups 1 built)).mpr fit
  exact ⟨hkls, nodup, found⟩

/-- When the ids have come round to zero the second layout has the handle of the first. -/
theorem twoLayouts_confused :
    (Layouts.rebuild .twoGroups {} 0).1.toOption = some () ∧
      (twoLayouts 0).all.map (·.group) = [0, 1] ∧
      (twoLayouts 0).all.map Layout.hkl = [0x04090409, 0x04090409] ∧
      ((twoLayouts 0).findByHkl 0x04090409).map (·.group) = some 0 := by
  decide +kernel

end Broker

end InputBridge
