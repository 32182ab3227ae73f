-- SUMMARY: Next to a virtual screen whose corner is in reach nothing overflows, so that the daemon goes on after every action.
import InputBridge.Proofs.Broker.Steps
import InputBridge.Proofs.Daemon.Run
import InputBridge.Proofs.Seat.Positions

/-!
# Going on

The daemon ends by itself only where a position does not fit. Next to a virtual screen whose corner
is in reach, and next to a root window, all positions fit: whatever comes, in whatever order, the
daemon has a state after it.
-/

namespace InputBridge

variable {σ : Type} {S : DisplayServer σ}

/-! ## Seats -/

namespace Seat

variable {s : Seat} {screen : Rect}

theorem toScreen_ok (hcorner : CornerInReach screen) (rootX rootY : Int32) :
    ∃ position, toScreen rootX rootY screen = .ok position := by
  obtain ⟨x, y, located⟩ := exists_located_of_cornerInReach hcorner rootX rootY
  exact ⟨(x, y), toScreen_eq_ok_iff.mpr located⟩

theorem onEvent_ok (hcorner : CornerInReach screen) (event : Event) (w : World σ) :
    ∃ r, ((s.onEvent S screen event).run w).1 = .ok r := by
  cases event with
  | button press time window detail rootX rootY =>
    obtain ⟨position, hposition⟩ := toScreen_ok hcorner rootX rootY
    rw [onEvent, onButton, hposition]
    split <;> exact ⟨_, rfl⟩
  | motion kind seq time window rootX rootY =>
    obtain ⟨position, hposition⟩ := toScreen_ok hcorner rootX rootY
    rw [onEvent, onMotion, hposition]
    -- whether the motion answers a warp or not, no more is computed
    split
    · exact ⟨_, rfl⟩
    · split <;> exact ⟨_, rfl⟩
  | rawMotion | deviceChanged | focus | key | rawKey | touch | newKeyboard | keymapChanged
  | keyboardState | error => exact ⟨_, rfl⟩

theorem dispatch_ok (hcorner : CornerInReach screen) (event : Event) (w : World σ) :
    ∃ r, ((s.dispatch S screen event).run w).1 = .ok r := by
  obtain ⟨r, hevent⟩ := onEvent_ok (S := S) (s := s) hcorner event w
  unfold dispatch
  split
  · exact ⟨_, rfl⟩
  · rw [ExceptT.run_bind, Talk.bind_apply, hevent]
    exact ⟨_, rfl⟩

end Seat

/-! ## The broker -/

namespace Broker

variable {b : Broker}

/-- If a virtual screen is configured, its corner is in reach. -/
def InReach (b : Broker) : Prop :=
  ∀ screen, b.config.virtualScreen = some screen → Seat.CornerInReach screen

theorem InReach.virtualScreen (h : b.InReach) (seat : Seat) :
    Seat.CornerInReach (b.virtualScreen seat) := by
  unfold Broker.virtualScreen
  cases hscreen : b.config.virtualScreen with
  | none =>
    have horigin : -2147450879 ≤ (0 : Int32).toInt ∧ (0 : Int32).toInt ≤ 2147450879 := by decide
    exact ⟨horigin, horigin⟩
  | some screen => exact h screen hscreen

theorem InReach.act_ok (h : b.InReach) (action : Action) (w : World σ) :
    ∃ r, ((b.act S action).run w).1 = .ok r := by
  cases action with
  | message | failure | departure => exact ⟨_, rfl⟩
  | event id e =>
    cases hseat : b.seats.get? id with
    | none =>
      rw [act, dispatch, hseat]
      exact ⟨_, rfl⟩
    | some seat =>
      obtain ⟨r, hdispatch⟩ := Seat.dispatch_ok (S := S) (s := seat) (h.virtualScreen seat) e w
      rw [act, ExceptT.run_bind, Talk.bind_apply, dispatch_run hseat, hdispatch]
      exact ⟨_, rfl⟩

/-- Nothing that the broker does is about its configuration. -/
theorem Step.Possible.config {s : Step} (possible : s.Possible S) :
    s.after.config = s.before.config := by
  rcases possible.cases with ⟨moves, -⟩ | ⟨c, id, window, handle, -, withdrawn⟩ |
    ⟨c, id, window, handle, -, registered⟩
  -- a move writes seats, clients and records only
  · refine moves.invariant (I := fun b => b.config = s.before.config) rfl fun b b' h move => ?_
    cases move with
    | forget | stop => exact config_forgetWindow.trans h
    | greet | proceed | fail | leave | join | depart => exact h
  · obtain ⟨-, seat, seat', windows, -, -, -, -, hafter⟩ := withdrawn
    rw [hafter]
  · obtain ⟨-, seat, seat', -, -, -, -, hafter⟩ := registered
    rw [hafter]
    exact config_forgetWindow

end Broker

/-! ## The daemon -/

namespace Daemon

variable {d : Daemon}

/-- In every state of the display servers the computation gets to its end, with a daemon of which
that can be said again. -/
def Endures (x : Checked σ Daemon) : Prop :=
  ∀ w, ∃ d', (x.run w).1 = .ok d' ∧ d'.broker.InReach

theorem Endures.bind {x : Checked σ Daemon} {f : Daemon → Checked σ Daemon} (h : Endures x)
    (hf : ∀ d, d.broker.InReach → Endures (f d)) : Endures (x >>= f) := by
  intro w
  obtain ⟨d, hx, reach⟩ := h w
  rw [ExceptT.run_bind, Talk.bind_apply, hx]
  exact hf d reach _

theorem endures_pure (h : d.broker.InReach) : Endures (pure d : Checked σ Daemon) :=
  fun _ => ⟨d, rfl, h⟩

theorem endures_step (h : d.broker.InReach) (action : Action) : Endures (d.step S action) := by
  intro w
  cases hnext : d.next? action with
  | none =>
    rw [step_of_not_next hnext]
    exact ⟨_, rfl, by rwa [broker_pass]⟩
  | some a =>
    -- the turn comes down to one action of the broker
    obtain ⟨⟨answer, out, b⟩, hact⟩ := h.act_ok (S := S) a w
    rw [step_of_next hnext, hact]
    refine ⟨_, rfl, ?_⟩
    rw [broker_follow]
    have possible : Broker.Step.Possible S ⟨d.broker, a, answer, out, b⟩ := ⟨w, hact⟩
    exact fun screen hscreen => h screen (possible.config ▸ hscreen)

theorem endures_run (h : d.broker.InReach) (actions : List Action) :
    Endures (d.run S actions) := by
  induction actions generalizing d with
  | nil => exact endures_pure h
  | cons action actions ih =>
    rw [run, List.foldlM_cons]
    exact (endures_step h action).bind fun d reach => ih reach

theorem endures_round (h : d.broker.InReach) : Endures (d.round S) := by
  refine (endures_run h _).bind fun d reach => ?_
  refine (endures_run reach _).bind fun d reach => ?_
  refine (endures_run reach _).bind fun d reach => ?_
  refine (endures_run reach _).bind fun d reach => ?_
  exact (endures_run reach _).bind fun d reach => endures_run reach _

theorem endures_rounds (h : d.broker.InReach) (limit : Nat) : Endures (rounds S limit d) := by
  induction limit generalizing d with
  | zero => exact endures_pure h
  | succ limit ih => exact (endures_round h).bind fun d reach => ih reach

/-- Whatever happens to the daemon, it gets through all that there is to do after it. -/
theorem settle_endures (h : d.broker.InReach) (actions : List Action) :
    Endures (do (← d.run S actions).settle S) :=
  (endures_run h actions).bind fun _ reach => endures_rounds reach _

end Daemon

end InputBridge
