-- SUMMARY: Clients and shared seats agree on who is attached to what, in every reachable state.
import InputBridge.Proofs.Broker.Steps

/-!
# Who is attached to what

The broker's list of clients and its shared seats are two accounts of the same
thing. They agree in every reachable state: a seat is taken exactly as often as
clients are attached to it, it is there as long as there are any, and its display
leads to it as long as it works.
-/

namespace InputBridge

namespace Broker

variable {σ : Type} {S : DisplayServer σ} {b b' : Broker} {c : ClientId} {id : SeatId}
  {window : WindowId} {handle : Handle}

/-- The number of clients attached to a seat. -/
def headcount (b : Broker) (id : SeatId) : Nat := b.clients.countP (·.2 == some id)

/-- Clients are listed once, and the seats are in step with who is attached to them. -/
structure Balanced (b : Broker) : Prop where
  clients : b.clients.Distinct
  seats : b.seats.Sound b.headcount

/-! ## Counting clients -/

theorem seatOf_eq_some : b.seatOf c = some id ↔ b.clients.get? c = some (some id) :=
  Option.join_eq_some_iff

theorem any_get?_eq (c : ClientId) (id : SeatId) :
    (b.clients.get? c).any (· == some id) = decide (b.seatOf c = some id) := by
  rw [seatOf, Bool.eq_iff_iff]
  cases b.clients.get? c with
  | none => simp
  | some r => simp

theorem headcount_insert (seats : SharedSeats) (r : Option SeatId) (id : SeatId) :
    headcount { b with clients := b.clients.insert c r, seats } id +
        (if b.seatOf c = some id then 1 else 0) =
      b.headcount id + if r = some id then 1 else 0 := by
  have count := Assoc.countP_insert (· == some id) b.clients c r
  rw [any_get?_eq] at count
  simpa [headcount] using count

theorem headcount_erase (distinct : b.clients.Distinct) (h : b.seatOf c = none) (id : SeatId) :
    headcount { b with clients := b.clients.erase c } id = b.headcount id := by
  have count := Assoc.countP_erase (· == some id) distinct c
  rw [any_get?_eq, h] at count
  simpa [headcount] using count

/-! ## Steps keep the balance -/

theorem Balanced.empty (config : BrokerConfig) : Balanced { config } where
  clients := .nil
  seats := .empty

/-- What is recorded of windows is not part of the balance. -/
theorem Balanced.congr (h : b.Balanced) (hclients : b'.clients = b.clients)
    (hseats : b'.seats = b.seats) : b'.Balanced where
  clients := hclients ▸ h.clients
  seats := by
    unfold headcount
    rw [hclients, hseats]
    exact h.seats

/-- A seat that goes on stays where it is. -/
theorem Balanced.set {seat seat' : Seat} (h : b.Balanced) (hseat : b.seats.get? id = some seat)
    (continues : seat.Continues seat') :
    Balanced { b with seats := b.seats.set id seat' } where
  clients := h.clients
  seats := h.seats.set hseat continues

/-- A client without a seat may be entered or moved without a seat. -/
theorem Balanced.insert_none (h : b.Balanced) (hc : b.seatOf c = none) :
    Balanced { b with clients := b.clients.insert c none } where
  clients := h.clients.insert
  seats := by
    -- nobody counts it before or after
    have same : headcount { b with clients := b.clients.insert c none } = b.headcount := by
      funext id
      simpa [hc] using headcount_insert (b := b) (c := c) b.seats none id
    rw [same]
    exact h.seats

theorem Balanced.leave {last : Bool} {seats : SharedSeats} (h : b.Balanced)
    (hc : b.seatOf c = some id) (hrelease : (b.seats.release S id).Yields (last, seats)) :
    Balanced { b with clients := b.clients.insert c none, seats } where
  clients := h.clients.insert
  seats := by
    refine h.seats.release hrelease fun i => ?_
    have count := headcount_insert (b := b) (c := c) seats none i
    simpa [hc, eq_comm] using count.symm

theorem Balanced.join {display : String} {seats : SharedSeats} (h : b.Balanced)
    (hc : b.seatOf c = none) (htake : (b.seats.take S display).Yields (.ok id, seats)) :
    Balanced { b with clients := b.clients.insert c (some id), seats } where
  clients := h.clients.insert
  seats := by
    refine h.seats.take htake fun i => ?_
    have count := headcount_insert (b := b) (c := c) seats (some id) i
    simpa [hc, eq_comm] using count

theorem Balanced.move (h : b.Balanced) (move : Move S b b') : b'.Balanced := by
  cases move with
  | greet hnew =>
    refine h.insert_none ?_
    rw [seatOf, hnew]
    rfl
  | proceed hseat keeps => exact h.set hseat keeps.toContinues
  | fail id => exact ⟨h.clients, h.seats.markFailed id⟩
  -- records of windows are forgotten, which nobody is counted by
  | forget window => exact h.congr clients_forgetWindow seats_forgetWindow
  | stop hseat continues => exact (h.set hseat continues).congr clients_forgetWindow rfl
  | leave hc _ hrelease => exact h.leave hc hrelease
  | join hc htake => exact h.join hc htake
  | depart hc =>
    refine ⟨h.clients.erase, ?_⟩
    have same : headcount { b with clients := b.clients.erase _ } = b.headcount :=
      funext (headcount_erase h.clients hc)
    rw [same]
    exact h.seats

theorem Balanced.withdraw (h : b.Balanced) (withdrawn : Withdrawal b b' c id window handle) :
    b'.Balanced := by
  obtain ⟨-, seat, seat', -, hseat, continues, -, -, rfl⟩ := withdrawn
  exact h.set hseat continues

theorem Balanced.register (h : b.Balanced) (registered : Registration b b' c id window handle) :
    b'.Balanced := by
  obtain ⟨-, seat, seat', hseat, -, continues, -, rfl⟩ := registered
  exact (h.set hseat continues).congr clients_ownWindow seats_ownWindow

theorem Reachable.balanced (reachable : Reachable S b) : b.Balanced :=
  reachable.of_moves .empty (fun _ _ h move => h.move move)
    (fun _ _ _ _ _ _ h withdrawn => h.withdraw withdrawn)
    fun _ _ _ _ _ _ h registered => h.register registered

/-! ## The two accounts -/

theorem length_attached (b : Broker) (id : SeatId) : (b.attached id).length = b.headcount id := by
  rw [attached, (ordered_perm _).length_eq, List.length_map, headcount,
    List.countP_eq_length_filter]

theorem mem_attached (distinct : b.clients.Distinct) :
    c ∈ b.attached id ↔ b.seatOf c = some id := by
  rw [attached, (ordered_perm _).mem_iff, seatOf_eq_some, ← Assoc.mem_iff_get? distinct]
  simp

theorem nodup_attached (distinct : b.clients.Distinct) (id : SeatId) : (b.attached id).Nodup := by
  rw [attached, (ordered_perm _).nodup_iff]
  exact distinct.sublist (List.filter_sublist.map Prod.fst)

/-- A seat that a client is attached to is there. -/
theorem Balanced.isSome_of_seatOf (h : b.Balanced) (hc : b.seatOf c = some id) :
    (b.seats.get? id).isSome := by
  have hmem : c ∈ b.attached id := (mem_attached h.clients).mpr hc
  rw [h.seats.present, ← length_attached]
  exact List.length_pos_of_mem hmem

/-- The seats and the clients tell the same. -/
structure Accounted (b : Broker) : Prop where
  /-- The clients attached to a seat are those whose seat it is, each counted once. -/
  clients : ∀ id, (b.attached id).Nodup ∧ ∀ c, c ∈ b.attached id ↔ b.seatOf c = some id
  refs : ∀ id, b.seats.refs id = (b.attached id).length
  present : ∀ id, (b.seats.get? id).isSome ↔ 1 ≤ (b.attached id).length
  linked : ∀ display id, b.seats.byDisplay.get? display = some id →
    ∃ seat, b.seats.get? id = some seat ∧ seat.display = display
  live : ∀ id seat, b.seats.get? id = some seat → seat.failed = false →
    b.seats.byDisplay.get? seat.display = some id
  /-- No display has two seats that work. -/
  single : ∀ id id' seat seat', b.seats.get? id = some seat → b.seats.get? id' = some seat' →
    seat.failed = false → seat'.failed = false → seat.display = seat'.display → id = id'

theorem Reachable.accounted (reachable : Reachable S b) : b.Accounted := by
  obtain ⟨distinct, sound⟩ := reachable.balanced
  -- the counts are turned into lengths of the lists that the broker makes
  refine ⟨?_, ?_, ?_, sound.linked, sound.live, ?_⟩
  · intro id
    exact ⟨nodup_attached distinct id, fun c => mem_attached distinct⟩
  · intro id
    rw [length_attached]
    exact sound.refs id
  · intro id
    rw [length_attached]
    exact sound.present id
  · -- the display leads to both of them
    intro id id' seat seat' hseat hseat' hlive hlive' hdisplay
    have hlink := sound.live id seat hseat hlive
    have hlink' := sound.live id' seat' hseat' hlive'
    rw [hdisplay, hlink'] at hlink
    exact (Option.some.inj hlink).symm

/-- Two clients share a seat that fails, and one of them takes another for the same
display. -/
def replacement : List (Action × World Bool) :=
  [(.message 0 (.hello 0 1 .desktop), ⟨false, 1⟩), (.message 1 (.hello 0 1 .desktop), ⟨false, 1⟩),
    (.message 0 (.connect 1 ":0"), ⟨false, 1⟩), (.message 1 (.connect 1 ":0"), ⟨false, 1⟩),
    (.failure 0, ⟨false, 1⟩), (.message 1 (.connect 2 ":0"), ⟨false, 1⟩)]

/-- The state that the replacement ends in. -/
def replaced : Broker := fresh.finish (fresh.play plainServer replacement)

theorem replaced_accounted : replaced.Accounted ∧
    replaced.attached 0 = [0] ∧ replaced.attached 1 = [1] ∧
    (replaced.seats.get? 0).map (·.failed) = some true ∧
    (replaced.seats.get? 1).map (·.failed) = some false ∧
    replaced.seats.byDisplay.get? ":0" = some 1 := by
  have reachable : Reachable plainServer replaced := ⟨_, _, Run.nil.play replacement⟩
  exact ⟨reachable.accounted, rfl, rfl, rfl, rfl, rfl⟩

end Broker

end InputBridge
