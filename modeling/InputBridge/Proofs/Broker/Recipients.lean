-- SUMMARY: The messages of an event, client by client: all that it is to receive, in order and once.
import InputBridge.Proofs.Broker.Ownership
import InputBridge.Proofs.Broker.Routing
import InputBridge.Proofs.Seat.Events
import Mathlib.Data.List.Count

/-!
# Who receives what

What a seat has for the desktops goes to clients that are attached to it, and to nobody
else. Each of them receives its part of the deliveries, in their order and once each: all
that names no handle, and what names a handle of its own.
-/

namespace InputBridge

/-- The message that carries a delivery. -/
def Delivery.message : Delivery → Message
  | .input handle i => .input 0 handle i
  | .language handle hkl => .languageChange 0 handle hkl
  | .locks l => .lockState 0 l

theorem Delivery.message_injective : Function.Injective Delivery.message := by
  intro d d' h
  cases d <;> cases d' <;> cases h <;> rfl

namespace Broker

variable {σ : Type} {S : DisplayServer σ} {b b' : Broker} {c : ClientId} {id : SeatId}
  {d : Delivery} {deliveries : List Delivery}

/-! ## One delivery -/

/-- Whether a delivery of a seat is for the client: it names a handle of the client's, or
none, and the client is attached. -/
def receives (b : Broker) (id : SeatId) (c : ClientId) (d : Delivery) : Bool :=
  match d.handle? with
  | some handle => b.handles.get? (id, handle) = some c
  | none => b.seatOf c = some id

theorem address_snd (b : Broker) (id : SeatId) (d : Delivery) : (b.address id d).2 = d.message := by
  cases d with
  | input handle i => cases handle <;> rfl
  | language | locks => rfl

/-- What a client receives comes from the seat that it is attached to. -/
theorem Owned.seatOf_of_receives (h : b.Owned) (hd : b.receives id c d = true) :
    b.seatOf c = some id := by
  unfold receives at hd
  split at hd
  · exact h.seatOf_of_handles (of_decide_eq_true hd)
  · exact of_decide_eq_true hd

theorem mem_address (distinct : b.clients.Distinct) :
    c ∈ (b.address id d).1 ↔ b.receives id c d = true := by
  have holder : ∀ handle, c ∈ (b.handles.get? (id, handle)).toList ↔
      decide (b.handles.get? (id, handle) = some c) = true := by simp
  have everyone : c ∈ b.attached id ↔ decide (b.seatOf c = some id) = true := by
    rw [mem_attached distinct, decide_eq_true_iff]
  cases d with
  | input handle i =>
    cases handle with
    | none => exact everyone
    | some handle => exact holder handle
  | language handle hkl => exact holder handle
  | locks => exact everyone

theorem nodup_address (distinct : b.clients.Distinct) (id : SeatId) (d : Delivery) :
    (b.address id d).1.Nodup := by
  have holder : ∀ handle, (b.handles.get? (id, handle)).toList.Nodup := by
    intro handle
    cases b.handles.get? (id, handle) <;> simp
  cases d with
  | input handle i =>
    cases handle with
    | none => exact nodup_attached distinct id
    | some handle => exact holder handle
  | language handle hkl => exact holder handle
  | locks => exact nodup_attached distinct id

/-! ## All deliveries -/

/-- The messages for a client, in order. -/
def messagesFor (c : ClientId) (out : List Outbound) : List Message :=
  (out.filter (·.target = c)).map (·.message)

theorem messagesFor_append (c : ClientId) (out more : List Outbound) :
    messagesFor c (out ++ more) = messagesFor c out ++ messagesFor c more := by
  simp [messagesFor]

/-- A message that is sent to several clients comes once to each of them. -/
theorem messagesFor_targets {targets : List ClientId} (nodup : targets.Nodup) (m : Message) :
    messagesFor c (targets.map fun target => { target, message := m }) =
      if c ∈ targets then [m] else [] := by
  induction targets with
  | nil => rfl
  | cons target targets ih =>
    obtain ⟨absent, nodup⟩ := List.nodup_cons.mp nodup
    rw [List.map_cons, ← List.singleton_append, messagesFor_append, ih nodup]
    by_cases h : target = c
    · subst h
      simp [messagesFor, absent]
    · simp [messagesFor, h, Ne.symm h]

/-- A client is sent exactly what it is to receive. -/
theorem messagesFor_route (distinct : b.clients.Distinct) (id : SeatId) (c : ClientId)
    (deliveries : List Delivery) : messagesFor c (b.route id deliveries) =
      (deliveries.filter (b.receives id c)).map Delivery.message := by
  induction deliveries with
  | nil => rfl
  | cons d deliveries ih =>
    have hroute : b.route id (d :: deliveries) =
        ((b.address id d).1.map fun target => { target, message := (b.address id d).2 }) ++
          b.route id deliveries := List.flatMap_cons
    -- a delivery is one message for each client it is addressed to
    rw [hroute, messagesFor_append, messagesFor_targets (nodup_address distinct id d), ih,
      address_snd, List.filter_cons]
    by_cases h : b.receives id c d
    · rw [if_pos ((mem_address distinct).mpr h), if_pos h]
      rfl
    · rw [if_neg fun hmem => h ((mem_address distinct).mp hmem), if_neg h]
      rfl

theorem count_messagesFor (c : ClientId) (m : Message) (out : List Outbound) :
    (messagesFor c out).count m = out.count ⟨c, m⟩ := by
  rw [messagesFor, List.count, List.countP_map, List.countP_filter, List.count]
  apply List.countP_congr
  rintro ⟨target, message⟩ -
  simp [and_comm]

theorem seatOf_target_of_mem_route (owned : b.Owned) (distinct : b.clients.Distinct)
    {o : Outbound} (ho : o ∈ b.route id deliveries) : b.seatOf o.target = some id := by
  obtain ⟨d, hd, ho⟩ := List.mem_flatMap.mp ho
  obtain ⟨target, htarget, rfl⟩ := List.mem_map.mp ho
  exact owned.seatOf_of_receives ((mem_address distinct).mp htarget)

/-- What names no handle comes to every client of the seat as often as it is delivered. -/
theorem count_route (distinct : b.clients.Distinct) (hd : d.handle? = none)
    (hc : b.seatOf c = some id) (deliveries : List Delivery) :
    (b.route id deliveries).count ⟨c, d.message⟩ = deliveries.count d := by
  have hreceives : b.receives id c d = true := by simp [receives, hd, hc]
  rw [← count_messagesFor, messagesFor_route distinct,
    List.count_map_of_injective _ _ Delivery.message_injective, List.count_filter hreceives]

/-! ## Events -/

/-- An event changes neither clients nor records, so what the seat delivers is addressed as
it would have been before. -/
theorem dispatch_delivered {seat : Seat} {event : Event} {w : World σ}
    (hseat : b.seats.get? id = some seat)
    (hdelivered : seat.delivered S (b.virtualScreen seat) event w = .ok deliveries) :
    ∃ b', ((b.dispatch S id event).run w).1 = .ok (b.route id deliveries, b') ∧
      b'.clients = b.clients := by
  obtain ⟨⟨seat', ds⟩, hdispatch, rfl⟩ := of_map_eq_ok hdelivered
  rw [dispatch_run hseat event w, hdispatch]
  refine ⟨_, congrArg Except.ok (Prod.ext ?_ rfl), ?_⟩
  -- failing a seat leaves the clients and the records alone, too
  · show (if seat'.failed then _ else _ : Broker).route id ds = b.route id ds
    split <;> rfl
  · show (if seat'.failed then _ else _ : Broker).clients = b.clients
    split <;> rfl

/-- The messages of an event are for clients of its seat. What names no handle comes to each
of these clients once, and every client has what it is to receive in the order in which the
seat delivers it. An event that overflows at the seat has no messages, and a seat that is gone has
nothing for anybody. -/
theorem Reachable.dispatch_addressed (reachable : Reachable S b) (id : SeatId) (event : Event)
    (w : World σ) :
    (b.seats.get? id = none → (b.dispatch S id event).run w = (.ok ([], b), w)) ∧
      ∀ seat, b.seats.get? id = some seat →
        (∀ e, seat.delivered S (b.virtualScreen seat) event w = .error e →
          ((b.dispatch S id event).run w).1 = .error e) ∧
        ∀ deliveries, seat.delivered S (b.virtualScreen seat) event w = .ok deliveries →
          ∃ out b', ((b.dispatch S id event).run w).1 = .ok (out, b') ∧
            b'.clients = b.clients ∧
            (∀ o ∈ out, b.seatOf o.target = some id) ∧
            (∀ d, d.handle? = none → ∀ c, b.seatOf c = some id →
              out.count ⟨c, d.message⟩ = deliveries.count d) ∧
            ∀ c, messagesFor c out =
              (deliveries.filter (b.receives id c)).map Delivery.message := by
  have distinct : b.clients.Distinct := reachable.balanced.clients
  refine ⟨?_, ?_⟩
  · intro hnone
    rw [dispatch, hnone]
    rfl
  · intro seat hseat
    constructor
    -- the seat's own computation is the only one that can overflow
    · intro e hoverflow
      rw [dispatch_run hseat event w, of_map_eq_error hoverflow]
      rfl
    · intro deliveries hdelivered
      obtain ⟨b', hdispatch, hclients⟩ := dispatch_delivered hseat hdelivered
      refine ⟨_, b', hdispatch, hclients, ?_, ?_, ?_⟩
      · intro o ho
        exact seatOf_target_of_mem_route reachable.owned distinct ho
      · intro d hd c hc
        exact count_route distinct hd hc _
      · intro c
        exact messagesFor_route distinct id c _

/-- The button that is pressed in the first client's window: both clients have it raw, and
the owner of the window has it under its handle, too. -/
theorem twoWindows_addressed :
    let b := fresh.finish (fresh.play plainServer (twoWindows 1 2))
    let seat := (b.seats.get? 0).getD default
    ∃ deliveries out b',
      seat.delivered plainServer (b.virtualScreen seat) pressFirst ⟨false, 1⟩ = .ok deliveries ∧
      ((b.dispatch plainServer 0 pressFirst).run ⟨false, 1⟩).1 = .ok (out, b') ∧
      b'.clients = b.clients ∧
      (∀ o ∈ out, b.seatOf o.target = some 0) ∧
      (∀ d, d.handle? = none → ∀ c, b.seatOf c = some 0 →
        out.count ⟨c, d.message⟩ = deliveries.count d) ∧
      ∀ c, messagesFor c out = (deliveries.filter (b.receives 0 c)).map Delivery.message := by
  intro b seat
  have reachable : Reachable plainServer b := ⟨_, _, run_play _ _ _⟩
  obtain ⟨-, hevent⟩ := reachable.dispatch_addressed 0 pressFirst ⟨false, 1⟩
  obtain ⟨-, haddressed⟩ := hevent seat rfl
  obtain ⟨out, b', hdispatch, haddresses⟩ := haddressed _ rfl
  exact ⟨_, out, b', rfl, hdispatch, haddresses⟩

end Broker

end InputBridge
