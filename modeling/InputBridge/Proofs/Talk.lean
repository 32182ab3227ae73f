-- SUMMARY: The results of computations that talk to a display server, taken apart step by step.
import InputBridge.Server

/-!
# What a conversation can end with

A computation that talks to a display server ends with a result that depends on
what the server answers. `Talk.Yields` collects the results over all states of the
server, so that what is shown of every result holds for every pattern of answers
and refusals. A computation in steps is taken apart step by step. One that an overflow
has ended has no result.
-/

namespace InputBridge

namespace Talk

variable {σ α β : Type}

/-- In some state of the display server the computation ends with `a`. -/
def Yields (x : Talk σ α) (a : α) : Prop := ∃ w, (x w).1 = a

theorem bind_apply (x : Talk σ α) (f : α → Talk σ β) (w : World σ) :
    (x >>= f) w = f (x w).1 (x w).2 := rfl

/-! ## Taking apart -/

theorem Yields.run (x : Talk σ α) (w : World σ) : x.Yields (x w).1 := ⟨w, rfl⟩

theorem Yields.of_pure {a b : α} (h : Yields (pure a : Talk σ α) b) : b = a := by
  obtain ⟨_, h⟩ := h
  exact h.symm

theorem Yields.of_bind {x : Talk σ α} {f : α → Talk σ β} {b : β}
    (h : Yields (x >>= f) b) : ∃ a, x.Yields a ∧ (f a).Yields b := by
  obtain ⟨w, h⟩ := h
  exact ⟨(x w).1, ⟨w, rfl⟩, ⟨(x w).2, h⟩⟩

theorem Yields.of_map {x : Talk σ α} {f : α → β} {b : β}
    (h : Yields (f <$> x) b) : ∃ a, x.Yields a ∧ b = f a := by
  obtain ⟨w, h⟩ := h
  exact ⟨(x w).1, ⟨w, rfl⟩, h.symm⟩

/-- A computation that gives up on errors has succeeded only if each of its steps
has. -/
theorem Yields.of_bind_ok {ε : Type} {x : ExceptT ε (Talk σ) α} {f : α → ExceptT ε (Talk σ) β}
    {b : β} (h : Yields (x >>= f).run (.ok b)) :
    ∃ a, Yields x.run (.ok a) ∧ Yields (f a).run (.ok b) := by
  rw [ExceptT.run_bind] at h
  obtain ⟨r, hx, h⟩ := h.of_bind
  -- after an error the rest is not run
  cases r with
  | error e => cases Yields.of_pure h
  | ok a => exact ⟨a, hx, h⟩

end Talk

namespace Checked

variable {σ α β : Type}

/-- In some state of the display server the computation gets to its end, with `a`. -/
def Yields (x : Checked σ α) (a : α) : Prop := Talk.Yields x.run (.ok a)

theorem Yields.of_pure {a b : α} (h : Yields (pure a : Checked σ α) b) : b = a :=
  Except.ok.inj (Talk.Yields.of_pure h)

theorem Yields.of_bind {x : Checked σ α} {f : α → Checked σ β} {b : β}
    (h : Yields (x >>= f) b) : ∃ a, x.Yields a ∧ (f a).Yields b :=
  Talk.Yields.of_bind_ok h

/-- What only talks has a result in any case. -/
theorem Yields.of_talk {x : Talk σ α} {a : α} (h : Yields (liftM x : Checked σ α) a) :
    x.Yields a := by
  obtain ⟨a', hx, heq⟩ := Talk.Yields.of_map (f := Except.ok) h
  cases heq
  exact hx

theorem Yields.of_except {x : Except Overflow α} {a : α}
    (h : Yields (liftM x : Checked σ α) a) : x = .ok a :=
  (Talk.Yields.of_pure h).symm

end Checked

end InputBridge
