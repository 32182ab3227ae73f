-- SUMMARY: What the operations of a seat ask for, and which of it waits for a flush.
import InputBridge.Proofs.Recording
import InputBridge.Proofs.Seat.Registration

/-!
# What a seat asks for

A seat asks on its own link only, and on no link when it has failed. What it asks for may wait
for a flush; then the seat is marked, and whoever had it do something flushes it, after which
it is not marked any more or has failed.
-/

namespace InputBridge

namespace Seat

open Talk (Leads)

variable {σ : Type} {S : DisplayServer σ} {s s' s'' : Seat} {l l' l'' : List Call}
  {window : WindowId} {handle : Handle} {screen : Rect} {link : Link}

/-! ## Requests that may wait -/

/-- The seat has gone on without a flush, and is marked if it has asked for something that
waits for one. -/
structure Queues (s : Seat) (l : List Call) (s' : Seat) (l' : List Call) : Prop where
  link : s'.link = s.link
  failed : s'.failed = s.failed
  pending : s.flushPending = true → s'.flushPending = true
  calls : Adds (fun call => s.failed = false ∧ call.Asks s.link.id ∧
    (call.waits = true → s'.flushPending = true)) l l'

namespace Queues

/-- What asks for nothing may change anything else of the seat. -/
theorem silent (hlink : s'.link = s.link) (hfailed : s'.failed = s.failed)
    (hpending : s.flushPending = true → s'.flushPending = true) : s.Queues l s' l :=
  ⟨hlink, hfailed, hpending, .refl l⟩

theorem refl (s : Seat) (l : List Call) : s.Queues l s l := silent rfl rfl id

theorem trans (h : s.Queues l s' l') (h' : s'.Queues l' s'' l'') : s.Queues l s'' l'' where
  link := h'.link.trans h.link
  failed := h'.failed.trans h.failed
  pending := h'.pending ∘ h.pending
  calls := by
    refine (h.calls.mono ?_).trans (h'.calls.mono ?_)
    · rintro call ⟨hlive, hasks, hwaits⟩
      exact ⟨hlive, hasks, h'.pending ∘ hwaits⟩
    · rintro call ⟨hlive, hasks, hwaits⟩
      exact ⟨h.failed ▸ hlive, h.link ▸ hasks, hwaits⟩

/-- A seat that works may ask for anything if it is marked afterwards. -/
theorem marked (hlive : s.failed = false) (hcalls : Adds (Call.Asks s.link.id) l l')
    (hlink : s'.link = s.link) (hfailed : s'.failed = s.failed)
    (hpending : s'.flushPending = true) : s.Queues l s' l' :=
  ⟨hlink, hfailed, fun _ => hpending, hcalls.mono fun _ h => ⟨hlive, h, fun _ => hpending⟩⟩

end Queues

theorem startInput_calls {r : Except SeatError Unit}
    (h : (s.startInput S.recorded window handle).Leads l (r, s') l') : s.Queues l s' l' := by
  unfold startInput at h
  split at h
  · obtain ⟨heq, rfl⟩ := h.of_pure
    cases heq
    exact .refl _ _
  next hfailed =>
  have hlive : s.failed = false := by simpa using hfailed
  split at h
  · obtain ⟨heq, rfl⟩ := h.of_pure
    cases heq
    exact .refl _ _
  obtain ⟨answer, m, hask, h⟩ := h.of_bind
  obtain rfl := hask.of_ask
  have asks : Call.Asks s.link.id (.asked s.link.id (.selectInput window true) answer) :=
    ⟨_, _, rfl, nofun⟩
  cases answer with
  | ok _ =>
    obtain ⟨heq, rfl⟩ := h.of_pure
    cases heq
    exact .marked hlive (.single l asks) rfl rfl rfl
  | error refusal =>
    -- what is refused does not wait
    obtain ⟨heq, rfl⟩ := h.of_pure
    cases heq
    exact ⟨rfl, rfl, id, .single l ⟨hlive, asks, nofun⟩⟩

theorem stopInput_calls {r : Option Handle}
    (h : (s.stopInput S.recorded window).Leads l (r, s') l') : s.Queues l s' l' := by
  unfold stopInput at h
  split at h
  · obtain ⟨heq, rfl⟩ := h.of_pure
    cases heq
    exact .refl _ _
  dsimp only at h
  split at h
  · obtain ⟨heq, rfl⟩ := h.of_pure
    cases heq
    split <;> exact .silent rfl rfl id
  · next hfailed =>
    have hlive : s.failed = false := by simpa using hfailed
    obtain ⟨u, m, hdiscard, h⟩ := h.of_bind
    obtain ⟨answer, hask, -⟩ := hdiscard.of_map
    obtain rfl := hask.of_ask
    obtain ⟨heq, rfl⟩ := h.of_pure
    cases heq
    have asks : Adds (Call.Asks s.link.id) l
        (l ++ [.asked s.link.id (.selectInput window false) answer]) :=
      .single l ⟨_, _, rfl, nofun⟩
    -- whatever the answer is, the seat is marked
    split <;> exact .marked hlive asks rfl rfl rfl

/-! ## Barriers and warps -/

theorem deleteBarriers_calls {ids : List UInt32} {u : Unit}
    (h : (deleteBarriers S.recorded link ids).Leads l u l') : Adds (Call.Asks link.id) l l' := by
  induction ids generalizing l with
  | nil =>
    obtain ⟨-, rfl⟩ := h.of_pure
    exact .refl _
  | cons id ids ih =>
    obtain ⟨u, m, hdiscard, h⟩ := h.of_bind
    obtain ⟨answer, hask, -⟩ := hdiscard.of_map
    obtain rfl := hask.of_ask
    exact (Adds.single l ⟨_, _, rfl, nofun⟩).trans (ih h)

theorem createBarriers_calls {created : List UInt32} {barriers : List Barrier}
    {r : Except Refusal (List UInt32)}
    (h : (createBarriers S.recorded link created barriers).Leads l r l') :
    Adds (Call.Asks link.id) l l' := by
  induction barriers generalizing created l with
  | nil =>
    obtain ⟨-, rfl⟩ := h.of_pure
    exact .refl _
  | cons b barriers ih =>
    obtain ⟨answer, m, hask, h⟩ := h.of_bind
    obtain rfl := hask.of_ask
    refine (Adds.single l ⟨_, answer, rfl, nofun⟩).trans ?_
    cases answer with
    | ok id => exact ih h
    | error refusal =>
      -- those that were created already are deleted again
      obtain ⟨u, m, hdelete, h⟩ := h.of_bind
      obtain ⟨-, rfl⟩ := h.of_pure
      exact deleteBarriers_calls hdelete

theorem clip_calls {rect : Option Rect} {r : Except SeatError Unit} (hlive : s.failed = false)
    (h : (s.clip S.recorded rect screen).Leads l (r, s') l') : s.Queues l s' l' := by
  unfold clip at h
  obtain ⟨u, m, hdelete, h⟩ := h.of_bind
  have deleted := deleteBarriers_calls hdelete
  dsimp only at h
  split at h
  · obtain ⟨heq, rfl⟩ := h.of_pure
    cases heq
    exact .marked hlive deleted rfl rfl rfl
  · obtain ⟨created, m₁, hcreate, h⟩ := h.of_bind
    have asks := deleted.trans (createBarriers_calls hcreate)
    cases created with
    | ok barriers =>
      obtain ⟨heq, rfl⟩ := h.of_pure
      cases heq
      exact .marked hlive asks rfl rfl rfl
    | error refusal =>
      obtain ⟨heq, rfl⟩ := h.of_pure
      cases heq
      exact .marked hlive asks rfl rfl rfl

theorem warp_calls {x y : Int32} {r : Except SeatError Unit} (hlive : s.failed = false)
    (h : (s.warp S.recorded x y screen).Leads l (r, s') l') : s.Queues l s' l' := by
  unfold warp at h
  obtain ⟨answer, m, hask, h⟩ := h.of_bind
  obtain rfl := hask.of_ask
  have asks : Call.Asks s.link.id (.asked s.link.id
      (.warp (addClamped x screen.left) (addClamped y screen.top)) answer) := ⟨_, _, rfl, nofun⟩
  cases answer with
  | ok seq =>
    obtain ⟨heq, rfl⟩ := h.of_pure
    cases heq
    exact .marked hlive (.single l asks) rfl rfl rfl
  | error refusal =>
    obtain ⟨heq, rfl⟩ := h.of_pure
    cases heq
    exact ⟨rfl, rfl, id, .single l ⟨hlive, asks, nofun⟩⟩

/-! ## Events -/

/-- A request on the link that does not wait for a flush. -/
def Inquires (link : Nat) (call : Call) : Prop := call.Asks link ∧ call.waits = false

theorem rebuildLayouts_calls {r : Except SeatError Unit}
    (h : (s.rebuildLayouts S.recorded).Leads l (r, s') l') :
    (∃ layouts, s' = { s with layouts }) ∧ Adds (Inquires s.link.id) l l' := by
  refine ⟨rebuildLayouts_yields h.yields, ?_⟩
  unfold rebuildLayouts at h
  obtain ⟨answer, m, hrules, h⟩ := h.of_bind
  obtain rfl := hrules.of_ask
  have asked : Adds (Inquires s.link.id) l (l ++ [.asked s.link.id .rules answer]) := by
    refine .single l ⟨⟨_, _, rfl, nofun⟩, ?_⟩
    cases answer <;> rfl
  obtain ⟨keymap, m, hkeymap, h⟩ := h.of_bind
  obtain rfl := hkeymap.of_ask
  refine asked.trans ?_
  have asked' : Inquires s.link.id (.asked s.link.id (.keymap s.keyboard.device) keymap) := by
    refine ⟨⟨_, _, rfl, nofun⟩, ?_⟩
    cases keymap <;> rfl
  cases keymap with
  | error refusal =>
    obtain ⟨-, rfl⟩ := h.of_pure
    exact .single _ asked'
  | ok keymap =>
    obtain ⟨w, m, hget, h⟩ := h.of_bind
    obtain rfl := hget.of_get
    obtain ⟨u, m, hmodify, h⟩ := h.of_bind
    obtain rfl := hmodify.of_modify fun _ => rfl
    obtain ⟨-, rfl⟩ := h.of_pure
    exact .single _ asked'

theorem announceLayout_silent (s : Seat) (l : List Call) : s.Queues l s.announceLayout.1 l := by
  obtain ⟨lastHkl, heq⟩ := s.announceLayout_fst
  rw [heq]
  exact .silent rfl rfl id

theorem lockModifiers_silent (s : Seat) (lockedModifiers : UInt32) (l : List Call) :
    s.Queues l (s.lockModifiers lockedModifiers).1 l := .silent rfl rfl id

theorem onDeviceChanged_silent (s : Seat) (device : UInt16) (axes : List Axis) (l : List Call) :
    s.Queues l (s.onDeviceChanged device axes) l := by
  obtain ⟨pointer, heq⟩ := s.onDeviceChanged_eq device axes
  rw [heq]
  exact .silent rfl rfl id

theorem onFocus_silent (s : Seat) (gained : Bool) (window : WindowId) (mode detail : UInt8)
    (l : List Call) : s.Queues l (s.onFocus gained window mode detail).1 l := by
  obtain ⟨grabbed, focus, lastHkl, heq⟩ := s.onFocus_fst gained window mode detail
  rw [heq]
  exact .silent rfl rfl id

theorem onKeyboardState_silent (s : Seat) (group lockedModifiers : UInt32) (l : List Call) :
    s.Queues l (s.onKeyboardState group lockedModifiers).1 l := by
  obtain ⟨keyboard, layouts, heq⟩ := s.onKeyboardState_fst group lockedModifiers
  rw [heq]
  exact .silent rfl rfl id

theorem refreshLayouts_calls {deliveries : List Delivery} (hlive : s.failed = false)
    (h : (s.refreshLayouts S.recorded).Leads l (s', deliveries) l') : s.Queues l s' l' := by
  unfold refreshLayouts at h
  obtain ⟨⟨r, s₁⟩, m, hbuilt, h⟩ := h.of_bind
  obtain ⟨⟨layouts, rfl⟩, inquires⟩ := rebuildLayouts_calls hbuilt
  have built : s.Queues l { s with layouts } m := by
    refine ⟨rfl, rfl, id, inquires.mono fun call hcall => ⟨hlive, hcall.1, fun hwaits => ?_⟩⟩
    rw [hcall.2] at hwaits
    cases hwaits
  cases r with
  | error e =>
    obtain ⟨heq, rfl⟩ := h.of_pure
    cases heq
    exact built
  | ok _ =>
    obtain ⟨heq, rfl⟩ := h.of_pure
    cases heq
    exact built.trans ((lockModifiers_silent _ _ _).trans (announceLayout_silent _ _))

theorem onEvent_calls {event : Event} {deliveries : List Delivery} (hlive : s.failed = false)
    (h : (s.onEvent S.recorded screen event).Leads l (s', deliveries) l') : s.Queues l s' l' := by
  cases event with
  | button | motion =>
    -- the position is computed without a word to the display server
    obtain ⟨ds, m, hposition, hrest⟩ := h.of_bind
    obtain ⟨-, rfl⟩ := hposition.of_except
    obtain ⟨heq, rfl⟩ := hrest.of_pure
    cases heq
    exact .refl s _
  | rawMotion | key | rawKey | touch | error =>
    obtain ⟨heq, rfl⟩ := h.of_pure
    cases heq
    exact .refl s _
  | deviceChanged device axes =>
    obtain ⟨heq, rfl⟩ := h.of_pure
    cases heq
    exact onDeviceChanged_silent s device axes _
  | focus gained window mode detail =>
    obtain ⟨heq, rfl⟩ := h.of_pure
    obtain rfl : s' = (s.onFocus gained window mode detail).1 := congrArg Prod.fst heq
    exact onFocus_silent s gained window mode detail _
  | newKeyboard device =>
    have changed : s.Queues l { s with keyboard.device := device } l := .silent rfl rfl id
    exact changed.trans (refreshLayouts_calls hlive h.of_talk)
  | keymapChanged => exact refreshLayouts_calls hlive h.of_talk
  | keyboardState group lockedModifiers =>
    obtain ⟨heq, rfl⟩ := h.of_pure
    obtain rfl : s' = (s.onKeyboardState group.toUInt32 lockedModifiers.toUInt32).1 :=
      congrArg Prod.fst heq
    exact onKeyboardState_silent s group.toUInt32 lockedModifiers.toUInt32 _

/-! ## With the flush -/

/-- The seat has gone on, and in the end it was flushed if there was a reason to. If the flush
was refused it has failed. -/
structure Settles (s : Seat) (l : List Call) (s' : Seat) (l' : List Call) : Prop where
  link : s'.link = s.link
  failed : s.failed = true → s'.failed = true
  settled : s'.failed = false → s'.flushPending = false
  calls : ∃ calls last, l' = l ++ calls ++ last ∧
    (∀ call ∈ calls, s.failed = false ∧ call.Asks s.link.id) ∧
    (last = [] ∧ (∀ call ∈ calls, call.waits = false) ∨
      s.failed = false ∧ ∃ answer, last = [.asked s.link.id .flush answer] ∧
        ∀ e, answer = .error e → s'.failed = true)

theorem flushIfPending_calls (h : (s.flushIfPending S.recorded).Leads l s' l') :
    (s' = s ∧ l' = l ∧ (s.flushPending = true → s.failed = true)) ∨
      s.failed = false ∧ ∃ answer, l' = l ++ [.asked s.link.id .flush answer] ∧
        ((∃ u, answer = .ok u) ∧ s' = { s with flushPending := false } ∨
          s' = { s with flushPending := false }.fail) := by
  unfold flushIfPending at h
  split at h
  · next hidle =>
    obtain ⟨rfl, rfl⟩ := h.of_pure
    refine .inl ⟨rfl, rfl, fun hpending => ?_⟩
    simpa [hpending] using hidle
  · next hpending =>
    simp only [Bool.or_eq_true, not_or, Bool.not_eq_true] at hpending
    obtain ⟨answer, m, hask, h⟩ := h.of_bind
    obtain rfl := hask.of_ask
    refine .inr ⟨hpending.2, answer, ?_⟩
    cases answer with
    | ok u =>
      obtain ⟨rfl, rfl⟩ := h.of_pure
      exact ⟨rfl, .inl ⟨⟨u, rfl⟩, rfl⟩⟩
    | error e =>
      obtain ⟨rfl, rfl⟩ := h.of_pure
      exact ⟨rfl, .inr rfl⟩

theorem Queues.settles {m : List Call} (h : s.Queues l s' m)
    (hflush : (s'.flushIfPending S.recorded).Leads m s'' l') : s.Settles l s'' l' := by
  obtain ⟨calls, rfl, hcalls⟩ := h.calls
  have asks : ∀ call ∈ calls, s.failed = false ∧ call.Asks s.link.id := fun call hcall =>
    ⟨(hcalls call hcall).1, (hcalls call hcall).2.1⟩
  rcases flushIfPending_calls hflush with ⟨rfl, rfl, hidle⟩ | ⟨hlive, answer, rfl, hflushed⟩
  · refine ⟨h.link, fun hfailed => h.failed.trans hfailed, fun hlive => ?_,
      calls, [], (List.append_nil _).symm, asks, .inl ⟨rfl, fun call hcall => ?_⟩⟩
    · refine Bool.eq_false_iff.mpr fun hpending => ?_
      rw [hidle hpending] at hlive
      cases hlive
    · -- a seat that has something to wait for works, and so would have been flushed
      obtain ⟨hlive, -, hwaits⟩ := hcalls call hcall
      refine Bool.eq_false_iff.mpr fun hwaiting => ?_
      have hfailed := hidle (hwaits hwaiting)
      rw [h.failed, hlive] at hfailed
      cases hfailed
  · have hlast : Call.asked s'.link.id .flush answer = .asked s.link.id .flush answer := by
      rw [h.link]
    have hlive' : s.failed = false := h.failed ▸ hlive
    rw [hlast]
    rcases hflushed with ⟨⟨u, rfl⟩, rfl⟩ | rfl
    · exact ⟨h.link, fun hfailed => h.failed.trans hfailed, fun _ => rfl,
        calls, _, rfl, asks, .inr ⟨hlive', _, rfl, nofun⟩⟩
    · exact ⟨h.link, fun _ => rfl, nofun, calls, _, rfl, asks,
        .inr ⟨hlive', answer, rfl, fun _ _ => rfl⟩⟩

theorem dispatch_calls {event : Event} {deliveries : List Delivery}
    (h : (s.dispatch S.recorded screen event).Leads l (s', deliveries) l') :
    s.Settles l s' l' := by
  unfold dispatch at h
  split at h
  · next hfailed =>
    obtain ⟨heq, rfl⟩ := h.of_pure
    cases heq
    refine ⟨rfl, id, fun hlive => ?_, [], [], by simp, List.forall_mem_nil _,
      .inl ⟨rfl, List.forall_mem_nil _⟩⟩
    rw [hfailed] at hlive
    cases hlive
  · next hfailed =>
    have hlive : s.failed = false := by simpa using hfailed
    obtain ⟨⟨s₁, ds⟩, m, hevent, h⟩ := h.of_bind
    obtain ⟨s₂, m', hflush, h⟩ := h.of_bind
    obtain ⟨heq, rfl⟩ := h.of_pure
    cases heq
    exact (onEvent_calls hlive hevent).settles hflush.of_talk

namespace Settles

/-- All that is asked is asked on the seat's link, and nothing of a seat that has failed. -/
theorem own (h : s.Settles l s' l') :
    Adds (fun call => s.failed = false ∧ call.On s.link.id) l l' := by
  obtain ⟨calls, last, rfl, hcalls, hlast⟩ := h.calls
  refine ⟨calls ++ last, List.append_assoc .., List.forall_mem_append.mpr ⟨?_, ?_⟩⟩
  · intro call hcall
    obtain ⟨hlive, r, answer, rfl, -⟩ := hcalls call hcall
    exact ⟨hlive, r, answer, rfl⟩
  · rcases hlast with ⟨rfl, -⟩ | ⟨hlive, answer, rfl, -⟩
    · exact List.forall_mem_nil _
    · exact List.forall_mem_singleton.mpr ⟨hlive, _, answer, rfl⟩

theorem flushed (h : s.Settles l s' l') : ∃ calls, l' = l ++ calls ∧ Flushed calls := by
  obtain ⟨calls, last, rfl, hcalls, hlast⟩ := h.calls
  refine ⟨calls ++ last, List.append_assoc .., ?_⟩
  rcases hlast with ⟨rfl, hnone⟩ | ⟨hlive, answer, rfl, -⟩
  · rw [List.append_nil]
    exact .of_none fun link r a hcall => hnone _ hcall
  · refine .of_last fun link r a hcall _ => ?_
    obtain ⟨-, r', a', heq, -⟩ := hcalls _ hcall
    cases heq
    rfl

/-- By a refused flush the seat fails, and that is the end of it. -/
theorem heeded (h : s.Settles l s' l') : ∃ calls, l' = l ++ calls ∧ Heeded calls ∧
    ∀ link e, Call.asked link .flush (.error e) ∈ calls →
      link = s.link.id ∧ s'.failed = true := by
  obtain ⟨calls, last, rfl, hcalls, hlast⟩ := h.calls
  have hnone := flush_not_mem fun call hcall => (hcalls call hcall).2
  refine ⟨calls ++ last, List.append_assoc .., ?_, fun link e hcall => ?_⟩
  · refine (Heeded.of_none hnone).append ?_ fun link e hcall => absurd hcall (hnone link e)
    rcases hlast with ⟨rfl, -⟩ | ⟨-, answer, rfl, -⟩
    · exact .of_none fun _ _ => List.not_mem_nil
    · exact .single _
  · rcases (List.mem_append.mp hcall).resolve_left (hnone link e), hlast with
      ⟨hcall, ⟨rfl, -⟩ | ⟨-, answer, rfl, hfailed⟩⟩
    · cases hcall
    · cases List.mem_singleton.mp hcall
      exact ⟨rfl, hfailed e rfl⟩

end Settles

/-! ## Setting up -/

/-- While a seat is set up it inquires on its link, and a flush comes last. -/
def SetsUp (link : Link) (l : List Call) (r : Except SeatError Seat) (l' : List Call) : Prop :=
  ∃ m, Adds (Inquires link.id) l m ∧
    ((∃ e, r = .error e) ∧ (l' = m ∨ ∃ answer, l' = m ++ [.asked link.id .flush answer]) ∨
      ∃ seat u, r = .ok seat ∧ seat.link = link ∧ seat.failed = false ∧
        seat.flushPending = false ∧ l' = m ++ [.asked link.id .flush (.ok u)])

theorem SetsUp.after {r : Except SeatError Seat} (h : Adds (Inquires link.id) l l'')
    (h' : SetsUp link l'' r l') : SetsUp link l r l' := by
  obtain ⟨m, inquires, hrest⟩ := h'
  exact ⟨m, h.trans inquires, hrest⟩

theorem SetsUp.of_demand {request : Request} {f : request.Answer → ExceptT SeatError (Talk _) Seat}
    {r : Except SeatError Seat} (h : Leads (S.recorded.demand link request >>= f).run l r l')
    (hr : request ≠ .flush ∧ request.isQueued = false)
    (rest : ∀ a m, Leads (f a).run m r l' → SetsUp link m r l') : SetsUp link l r l' := by
  have inquires : ∀ {m : List Call} {result : Except SeatError request.Answer},
      Leads (S.recorded.demand link request).run l result m → Adds (Inquires link.id) l m := by
    intro m result hdemand
    obtain ⟨answer, -, rfl⟩ := Leads.of_demand hdemand
    refine .single l ⟨⟨request, answer, rfl, hr.1⟩, ?_⟩
    cases answer with
    | ok a => exact hr.2
    | error e => rfl
  rcases Leads.of_bind_run h with ⟨e, rfl, hdemand⟩ | ⟨a, m, hdemand, h⟩
  · exact ⟨l', inquires hdemand, .inl ⟨⟨e, rfl⟩, .inl rfl⟩⟩
  · exact .after (inquires hdemand) (rest a m h)

theorem setUp_calls {display : String} {r : Except SeatError Seat}
    (h : Leads (setUp S.recorded display link).run l r l') : SetsUp link l r l' := by
  unfold setUp at h
  refine .of_demand h ⟨nofun, rfl⟩ fun _ m h => ?_
  refine .of_demand h ⟨nofun, rfl⟩ fun pointer m h => ?_
  refine .of_demand h ⟨nofun, rfl⟩ fun device m h => ?_
  refine .of_demand h ⟨nofun, rfl⟩ fun report m h => ?_
  -- the layouts are built outside of the errors, and what they come to is thrown afterwards
  rcases Leads.of_bind_run h with ⟨e, -, hbuild⟩ | ⟨⟨built, s₁⟩, m, hbuild, h⟩
  · obtain ⟨a, -, ha⟩ := Leads.of_map (f := Except.ok) hbuild
    cases ha
  obtain ⟨a, hbuilt, ha⟩ := Leads.of_map (f := Except.ok) hbuild
  cases ha
  obtain ⟨⟨layouts, rfl⟩, inquires⟩ := rebuildLayouts_calls hbuilt
  refine .after inquires ?_
  rcases Leads.of_bind_run h with ⟨e, rfl, hthrow⟩ | ⟨u, m', hgo, hstart⟩
  · obtain ⟨-, rfl⟩ := Leads.of_pure hthrow
    exact ⟨_, .refl _, .inl ⟨⟨e, rfl⟩, .inl rfl⟩⟩
  obtain ⟨-, rfl⟩ := Leads.of_pure hgo
  refine .of_demand hstart ⟨nofun, rfl⟩ fun u m h => ?_
  -- the flush: granted or refused, nothing comes after it
  rcases Leads.of_bind_run h with ⟨e, rfl, hflush⟩ | ⟨u, m, hflush, h⟩
  · obtain ⟨answer, -, rfl⟩ := Leads.of_demand hflush
    exact ⟨_, .refl _, .inl ⟨⟨e, rfl⟩, .inr ⟨answer, rfl⟩⟩⟩
  · obtain ⟨answer, hanswer, rfl⟩ := Leads.of_demand hflush
    obtain ⟨rfl, rfl⟩ := Leads.of_pure h
    cases answer with
    | error e => cases hanswer
    | ok u => exact ⟨_, .refl _, .inr ⟨_, u, rfl, rfl, rfl, rfl, rfl⟩⟩

namespace SetsUp

variable {r : Except SeatError Seat}

/-- Nothing of what is asked waits. -/
theorem adds (h : SetsUp link l r l') :
    Adds (fun call => call.waits = false ∧ call.On link.id) l l' := by
  obtain ⟨m, inquires, hrest⟩ := h
  have inquired : Adds (fun call => call.waits = false ∧ call.On link.id) l m := by
    refine inquires.mono ?_
    rintro call ⟨⟨r, answer, rfl, -⟩, hwaits⟩
    exact ⟨hwaits, r, answer, rfl⟩
  have flush : ∀ answer, Adds (fun call => call.waits = false ∧ call.On link.id) m
      (m ++ [.asked link.id .flush answer]) := by
    intro answer
    refine .single m ⟨?_, _, answer, rfl⟩
    cases answer <;> rfl
  rcases hrest with ⟨-, rfl | ⟨answer, rfl⟩⟩ | ⟨seat, u, -, -, -, -, rfl⟩
  · exact inquired
  · exact inquired.trans (flush answer)
  · exact inquired.trans (flush _)

/-- If a flush is refused nothing more is asked, and there is no seat. -/
theorem heeded (h : SetsUp link l r l') : ∃ calls, l' = l ++ calls ∧ Heeded calls ∧
    ∀ seat, r = .ok seat → ∀ link e, Call.asked link .flush (.error e) ∉ calls := by
  obtain ⟨m, ⟨calls, rfl, hcalls⟩, hrest⟩ := h
  have hnone := flush_not_mem fun call hcall => (hcalls call hcall).1
  have heeded : ∀ answer, Heeded (calls ++ [.asked link.id .flush answer]) := fun answer =>
    (Heeded.of_none hnone).append (.single _) fun link e hcall => absurd hcall (hnone link e)
  rcases hrest with ⟨⟨e, rfl⟩, rfl | ⟨answer, rfl⟩⟩ | ⟨seat, u, rfl, -, -, -, rfl⟩
  · exact ⟨calls, rfl, .of_none hnone, fun _ => nofun⟩
  · exact ⟨_, List.append_assoc .., heeded answer, fun _ => nofun⟩
  · refine ⟨_, List.append_assoc .., heeded _, fun _ _ link e hcall => ?_⟩
    rcases List.mem_append.mp hcall with hcall | hcall
    · exact hnone link e hcall
    · cases List.mem_singleton.mp hcall

theorem seat_eq {seat : Seat} (h : SetsUp link l (.ok seat) l') :
    seat.link = link ∧ seat.failed = false ∧ seat.flushPending = false := by
  obtain ⟨m, -, ⟨⟨e, he⟩, -⟩ | ⟨seat', u, heq, hlink, hlive, hidle, -⟩⟩ := h
  · cases he
  · cases heq
    exact ⟨hlink, hlive, hidle⟩

end SetsUp

/-- A seat is set up over a link of its own, or the link is closed again. -/
theorem connect_calls {display : String} {r : Except SeatError Seat}
    (h : (connect S.recorded display).Leads l r l') :
    (∃ e, r = .error e ∧ l' = l) ∨
      ∃ own link m, link.id = (openedLinks l).length ∧
        SetsUp link (l ++ [.opened display own]) r m ∧
        ((∃ e, r = .error e) ∧ l' = m ++ [.closed link.id] ∨ (∃ seat, r = .ok seat) ∧ l' = m) := by
  unfold connect at h
  obtain ⟨opened, m, hopen, hrest⟩ := h.of_bind
  rcases hopen.of_connect with ⟨reason, rfl, rfl⟩ | ⟨link, own, rfl, hid, rfl⟩
  · obtain ⟨rfl, rfl⟩ := hrest.of_pure
    exact .inl ⟨_, rfl, rfl⟩
  · obtain ⟨result, m, hset, h⟩ := hrest.of_bind
    refine .inr ⟨own, link, m, hid, ?_⟩
    have sets := setUp_calls hset
    cases result with
    | ok seat =>
      obtain ⟨rfl, rfl⟩ := h.of_pure
      exact ⟨sets, .inr ⟨⟨seat, rfl⟩, rfl⟩⟩
    | error e =>
      obtain ⟨u, m', hclose, h⟩ := h.of_bind
      obtain rfl := hclose.of_disconnect
      obtain ⟨rfl, rfl⟩ := h.of_pure
      exact ⟨sets, .inl ⟨⟨e, rfl⟩, rfl⟩⟩

end Seat

end InputBridge
