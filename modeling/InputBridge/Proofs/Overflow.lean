-- SUMMARY: Checked sums and differences are the exact ones, and are missing exactly where those do not fit.
import InputBridge.Overflow

/-!
# Exact arithmetic or none

A checked sum or difference that is there is the one of the integers, and it is there exactly if
that one fits.
-/

namespace InputBridge

variable {a b c : Int32} {n m : UInt32} {e : Overflow}

theorem checkedSub_eq_ok_iff : checkedSub a b = .ok c ↔ c.toInt = a.toInt - b.toInt := by
  have hlow := c.le_toInt
  have hhigh := c.toInt_lt
  unfold checkedSub
  dsimp only
  split
  · next hfits =>
    have hexact : (Int32.ofInt (a.toInt - b.toInt)).toInt = a.toInt - b.toInt :=
      Int32.toInt_ofInt_of_le hfits.1 (by omega)
    rw [Except.ok.injEq, ← Int32.toInt_inj, hexact]
    exact eq_comm
  · next hfits => exact ⟨nofun, fun h => by omega⟩

theorem checkedSub_eq_error_iff : checkedSub a b = .error e ↔ e = .subtract ∧
    ¬(-2147483648 ≤ a.toInt - b.toInt ∧ a.toInt - b.toInt ≤ 2147483647) := by
  unfold checkedSub
  dsimp only
  split
  · next hfits => simp [hfits]
  · next hfits =>
    rw [Except.error.injEq, eq_comm]
    exact (and_iff_left hfits).symm

theorem checkedNext_eq_ok_iff : checkedNext n = .ok m ↔ m.toNat = n.toNat + 1 := by
  have hm := m.toNat_lt
  unfold checkedNext
  split
  · next hfits =>
    have hexact : (n + 1).toNat = n.toNat + 1 := by
      rw [UInt32.toNat_add]
      exact Nat.mod_eq_of_lt hfits
    rw [Except.ok.injEq, ← UInt32.toNat_inj, hexact]
    exact eq_comm
  · next hfits => exact ⟨nofun, fun h => absurd (h ▸ hm) hfits⟩

end InputBridge
