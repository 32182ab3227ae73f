-- SUMMARY: Bounds of the number of slots along all histories of a table.
import InputBridge.Proofs.WindowTable.History

/-!
# The slots of a window table

A table has a slot for each of its windows, and gives back those that it needs no longer. However
it was changed since it was empty, it has no more than three slots for each window and two more,
unless these are the 256 that a table begins with.
-/

namespace InputBridge

namespace WindowTable

variable {t t' : WindowTable} {window : WindowId} {handle : Handle}

/-- The table has no more slots than it began with, or few of them for each window. -/
def Frugal (t : WindowTable) : Prop := t.capacity ≤ max minCapacity (3 * t.size + 2)

/-! ## One change -/

theorem Frugal.insert? (frugal : t.Frugal) (h : t.insert? window handle = some t') :
    t'.Frugal := by
  unfold Frugal at frugal ⊢
  rcases insert?_cases h with ⟨-, rfl⟩ | ⟨-, room, makes, rfl⟩
  · simpa [size, length_replace] using frugal
  · have added : (room.entries ++ [(window, handle)]).length = t.size + 1 := by
      simp [makes.entries, size]
    rw [size, added]
    rcases makes with ⟨-, rfl⟩ | ⟨full, grown⟩
    · dsimp only
      omega
    · -- half of the slots are new, and all of the old ones are used
      obtain ⟨-, -, half⟩ := capacity_of_grow? grown
      dsimp only
      omega

/-- A table that gives no slots back uses a third of them. -/
theorem Frugal.shrink (t : WindowTable) : t.shrink.Frugal := by
  unfold Frugal WindowTable.shrink minCapacity
  split
  · show max 1 (2 * t.size) ≤ max 256 (3 * t.size + 2)
    omega
  · omega

theorem Frugal.remove (frugal : t.Frugal) : (t.remove window).2.Frugal := by
  unfold WindowTable.remove
  split
  · exact frugal
  · exact Frugal.shrink _

theorem Frugal.change (frugal : t.Frugal) (c : Change) : (t.change c).Frugal := by
  rcases change_cases t c with ⟨_, _, -, -, same⟩ | ⟨_, _, -, granted⟩ | ⟨window, -, removed⟩
  · rwa [same]
  · exact frugal.insert? granted
  · rw [removed]
    exact frugal.remove

/-! ## All changes -/

theorem frugal_replay (changes : List Change) : (replay changes).Frugal :=
  replay_induction (Nat.zero_le _) (fun _ c frugal => frugal.change c) changes

/-- However a table was changed since it was empty, it has as many slots as windows at least, and
no more than 65,536, and no more than 256 or three for each window and two. Growing always adds
slots, so a window that is added finds one that is free. -/
theorem slots_replay (changes : List Change) :
    ((replay changes).size ≤ (replay changes).capacity ∧
      (replay changes).capacity ≤ 65536 ∧
      (replay changes).capacity ≤ max 256 (3 * (replay changes).size + 2)) ∧
    (∀ grown, (replay changes).grow? = some grown →
      (replay changes).capacity < grown.capacity) ∧
    ∀ window handle t, (replay changes).insert? window handle = some t →
      (replay changes).lookup? window = none →
      ∃ room, (room = replay changes ∨ (replay changes).grow? = some room) ∧
        room.size < room.capacity ∧
        t = { room with entries := room.entries ++ [(window, handle)] } := by
  have fits := fits_replay changes
  refine ⟨⟨fits.used, fits.bounded, frugal_replay changes⟩,
    fun grown h => (capacity_of_grow? h).1, fun window handle t h hnew => ?_⟩
  rcases insert?_cases h with ⟨hold, -⟩ | ⟨-, room, makes, rfl⟩
  · exact absurd hnew hold
  · exact ⟨room, makes.imp And.right And.right, (fits.room makes).1, rfl⟩

/-- Ten windows of which one is forgotten, so that the table shrinks, and nine more. -/
def refilled : List Change :=
  (List.range 10).map (fun n => .insert (UInt32.ofNat (n + 1)) 7) ++ .remove 1 ::
    (List.range 9).map fun n => .insert (UInt32.ofNat (n + 11)) 7

/-- The 18 slots that were left are used up, so there are more before the next window is added. -/
theorem refilled_slots :
    (replay refilled).size = 18 ∧ (replay refilled).capacity = 18 ∧
      ∃ room, (replay refilled).grow? = some room ∧ 18 < room.capacity ∧
        (replay refilled).insert? 20 9 =
          some { room with entries := room.entries ++ [(20, 9)] } := by
  have hsize : (replay refilled).size = 18 := by decide
  have hcapacity : (replay refilled).capacity = 18 := by decide
  have hnew : (replay refilled).lookup? 20 = none := by decide
  obtain ⟨t, granted⟩ := Option.isSome_iff_exists.mp
    (show ((replay refilled).insert? 20 9).isSome = true by decide)
  obtain ⟨-, grows, pushes⟩ := slots_replay refilled
  obtain ⟨room, rfl | grown, free, rfl⟩ := pushes 20 9 t granted hnew
  -- without more room there would be 18 windows in fewer than 18 slots
  · omega
  · exact ⟨hsize, hcapacity, room, grown, hcapacity ▸ grows room grown, granted⟩

end WindowTable

end InputBridge
