-- SUMMARY: The barriers of a seat are those that were created for it and not given up.
import InputBridge.Proofs.Recording.Barriers
import InputBridge.Proofs.Seat.Cursor

/-!
# The barriers of a seat

Confining the pointer gives up the barriers that are there and creates four new ones, or none if
one of them is refused. Nothing else that a seat does is about barriers. So the barriers that a
seat has are at all times those that were created for it and not given up.
-/

namespace InputBridge

namespace Seat

open Talk (AsksOnly)

variable {σ : Type} {S : DisplayServer σ} {start s s' : Seat} {l l' l₀ : List Call}
  {steps : List Step} {t : Step} {screen : Rect} {link : Link}

/-! ## Confining -/

theorem deleteBarriers_standing {ids held : List UInt32} {u : Unit}
    (h : (deleteBarriers S.recorded link ids).Leads l u l')
    (standing : Standing link.id l (ids ++ held)) : Standing link.id l' held := by
  induction ids generalizing l with
  | nil =>
    obtain ⟨-, rfl⟩ := h.of_pure
    exact standing
  | cons id ids ih =>
    obtain ⟨u, m, hdiscard, h⟩ := h.of_bind
    obtain ⟨answer, hask, -⟩ := hdiscard.of_map
    obtain rfl := hask.of_ask
    exact ih h standing.deleted

/-- Either all barriers stand in the end or none. -/
theorem createBarriers_standing {created : List UInt32} {barriers : List Barrier}
    {r : Except Refusal (List UInt32)}
    (h : (createBarriers S.recorded link created barriers).Leads l r l')
    (standing : Standing link.id l created) :
    (∃ ids, r = .ok ids ∧ ids.length = created.length + barriers.length ∧
        Standing link.id l' ids) ∨
      ∃ refusal, r = .error refusal ∧ Standing link.id l' [] := by
  induction barriers generalizing created l with
  | nil =>
    obtain ⟨rfl, rfl⟩ := h.of_pure
    exact .inl ⟨created, rfl, rfl, standing⟩
  | cons b barriers ih =>
    obtain ⟨answer, m, hask, h⟩ := h.of_bind
    obtain rfl := hask.of_ask
    cases answer with
    | ok id =>
      -- what was created so far stands while the rest is created
      rcases ih h standing.created with ⟨ids, rfl, hlength, standing⟩ | refused
      · refine .inl ⟨ids, rfl, ?_, standing⟩
        simp only [hlength, List.length_append, List.length_cons, List.length_nil]
        omega
      · exact .inr refused
    | error refusal =>
      -- all that were created by then are given up
      obtain ⟨u, m, hdelete, h⟩ := h.of_bind
      obtain ⟨rfl, rfl⟩ := h.of_pure
      refine .inr ⟨refusal, rfl, deleteBarriers_standing hdelete ?_⟩
      rw [List.append_nil]
      exact standing.refused

/-- Whatever was refused, the seat has the barriers that stand: four if the pointer was to be
confined and could be, and none otherwise. -/
theorem clip_standing {rect : Option Rect} {r : Except SeatError Unit}
    (h : (s.clip S.recorded rect screen).Leads l (r, s') l')
    (standing : Standing s.link.id l s.barriers) :
    Standing s'.link.id l' s'.barriers ∧
      s'.barriers.length = if rect.isSome ∧ r = .ok () then 4 else 0 := by
  unfold clip at h
  obtain ⟨u, m, hdelete, h⟩ := h.of_bind
  -- the barriers of the last time go first, whatever is asked for now
  have cleared : Standing s.link.id m [] :=
    deleteBarriers_standing hdelete (by rwa [List.append_nil])
  cases rect with
  | none =>
    obtain ⟨heq, rfl⟩ := h.of_pure
    cases heq
    exact ⟨cleared, by simp⟩
  | some rect =>
    obtain ⟨created, m₁, hcreate, h⟩ := h.of_bind
    rcases createBarriers_standing hcreate cleared with
      ⟨ids, rfl, hlength, standing⟩ | ⟨refusal, rfl, standing⟩
    · obtain ⟨heq, rfl⟩ := h.of_pure
      cases heq
      exact ⟨standing, hlength⟩
    · obtain ⟨heq, rfl⟩ := h.of_pure
      cases heq
      exact ⟨standing, rfl⟩

/-! ## Everything else -/

/-- A request that is not about barriers. -/
def Spares (r : Request) : Prop := r.isBarrier = false

theorem spares_of_elsewhere (r : Request) (h : Elsewhere r) : Spares r := by
  cases r with
  | createBarrier | deleteBarrier => cases h
  | barrierSupport | pointer | keyboard | keyboardReport | rules | keymap | startEvents | flush |
    selectInput | warp => rfl

theorem warp_spares (s : Seat) (x y : Int32) (screen : Rect) :
    AsksOnly Spares (s.warp S.recorded x y screen) := by
  refine .bind (.ask rfl) fun answer => ?_
  cases answer <;> exact .pure _

/-! ## Any step -/

/-- A step confines the pointer or frees it, or it has nothing to do with barriers. -/
theorem Step.Calls.cases (calls : t.Calls S l l') :
    (∃ rect screen, t.operation = .clip rect screen ∧
      (t.before.clip S.recorded rect screen).Leads l (t.result, t.after) l') ∨
    (∀ rect screen, t.operation ≠ .clip rect screen) ∧ t.after.link = t.before.link ∧
      t.after.barriers = t.before.barriers ∧ Adds (Call.OfKind Spares) l l' := by
  rcases calls.cursor_cases with ⟨rect, screen, hop, hclip⟩ | ⟨x, y, screen, hop, hwarp⟩ |
    ⟨hclip, -, same, elsewhere⟩
  · exact .inl ⟨rect, screen, hop, hclip⟩
  · obtain ⟨lastWarp, flushPending, hafter⟩ := warp_yields hwarp.yields
    refine .inr ⟨?_, by rw [hafter], by rw [hafter], warp_spares _ _ _ _ _ _ _ hwarp⟩
    intro rect screen hclip
    cases hop.symm.trans hclip
  · exact .inr ⟨hclip, same.link, same.barriers, elsewhere.weaken spares_of_elsewhere⟩

theorem isConfined_iff (s : Seat) : s.isConfined = true ↔ s.barriers ≠ [] := by
  simp [isConfined]

/-! ## Runs -/

/-- A seat that has just been set up has no barriers, and none were asked for. -/
theorem connect_standing {display : String}
    (h : (connect S.recorded display).Leads [] (.ok s) l) :
    Standing s.link.id l [] ∧ s.barriers = [] := by
  obtain ⟨⟨own, elsewhere⟩, hnone, -⟩ := connect_cursor h
  have opened : Standing s.link.id [.opened display own] [] := .of_nil rfl rfl
  exact ⟨opened.other (elsewhere.weaken spares_of_elsewhere), hnone⟩

theorem RecordedRun.standing {display : String}
    (opened : (connect S.recorded display).Leads [] (.ok start) l₀)
    (run : RecordedRun S start l₀ steps s l) :
    Standing s.link.id l s.barriers ∧ (s.barriers.length = 0 ∨ s.barriers.length = 4) := by
  induction run with
  | nil =>
    obtain ⟨standing, hnone⟩ := connect_standing opened
    rw [hnone]
    exact ⟨standing, .inl rfl⟩
  | snoc _ calls ih =>
    obtain ⟨standing, hlength⟩ := ih
    rcases calls.cases with ⟨rect, screen, -, hclip⟩ | ⟨-, hlink, hbarriers, spares⟩
    · obtain ⟨standing, hlength⟩ := clip_standing hclip standing
      refine ⟨standing, ?_⟩
      rw [hlength]
      split
      · exact .inr rfl
      · exact .inl rfl
    -- what is not about the cursor asks for no barriers
    · rw [hlink, hbarriers]
      exact ⟨standing.other spares, hlength⟩

/-- A seat confines the pointer after it was to do so and could. It frees the pointer if it is to
confine it to nothing, or to something else and cannot. -/
theorem RecordedRun.isConfined_clip {display : String} {rect : Option Rect}
    (opened : (connect S.recorded display).Leads [] (.ok start) l₀)
    (run : RecordedRun S start l₀ (steps ++ [t]) s l) (hclip : t.operation = .clip rect screen) :
    s.isConfined = true ↔ rect.isSome ∧ t.result = .ok () := by
  generalize hsteps : steps ++ [t] = all at run
  cases run with
  | nil => exact absurd hsteps (by simp)
  | snoc run calls =>
    obtain ⟨rfl, ht⟩ := List.append_inj' hsteps rfl
    cases ht
    rcases calls.cases with ⟨rect', screen', hclip', h⟩ | ⟨hother, -⟩
    -- the last step of the run is the one in question
    · cases hclip.symm.trans hclip'
      obtain ⟨-, hlength⟩ := clip_standing h (run.standing opened).1
      rw [isConfined_iff, ← List.length_pos_iff, hlength]
      split <;> simp_all
    · exact absurd hclip (hother _ _)

/-- As long as the display server gives no two barriers of a seat one name, those that were
created and not asked to be deleted are the seat's: four of them while it confines the pointer,
and none otherwise. Each barrier that is asked to be deleted was created before and is asked for
once. -/
theorem RecordedRun.barriers_standing {display : String}
    (opened : (connect S.recorded display).Leads [] (.ok start) l₀)
    (run : RecordedRun S start l₀ steps s l) (fresh : (createdBarriers s.link.id l).Nodup) :
    (∀ id, id ∈ createdBarriers s.link.id l ∧ id ∉ deletedBarriers s.link.id l ↔
      id ∈ s.barriers) ∧
    (if s.isConfined then s.barriers.length = 4 ∧ s.barriers.Nodup else s.barriers = []) ∧
    (deletedBarriers s.link.id l).Nodup ∧
    (∀ before id answer after, l = before ++ .asked s.link.id (.deleteBarrier id) answer :: after →
      id ∈ createdBarriers s.link.id before ∧ id ∉ deletedBarriers s.link.id before) ∧
    ∀ earlier t rect screen, steps = earlier ++ [t] → t.operation = .clip rect screen →
      (s.isConfined = true ↔ rect.isSome ∧ t.result = .ok ()) := by
  obtain ⟨standing, hlength⟩ := run.standing opened
  refine ⟨fun id => standing.mem_iff fresh, ?_, ?_,
    fun before id answer after => standing.deleted_once fresh, ?_⟩
  · split
    · next hconfined =>
      -- a confined pointer has a barrier, and then all four of them
      have hnone : s.barriers.length ≠ 0 :=
        mt List.length_eq_zero_iff.mp ((isConfined_iff s).mp hconfined)
      exact ⟨hlength.resolve_left hnone, standing.nodup fresh⟩
    · next hfree => exact of_not_not (mt (isConfined_iff s).mpr hfree)
  · rw [standing.balance] at fresh
    exact (List.nodup_append.mp fresh).1
  · rintro earlier t rect screen rfl hclip
    exact run.isConfined_clip opened hclip

/-! ### A refused replacement -/

/-- A display server that creates the barriers its state lists, one after the other, and refuses
one where none is listed. It refuses to delete any. Its keyboard is empty. -/
def barrierServer : DisplayServer (List (Option UInt32)) where
  openLink display listed := ((twoGroupServer.openLink display ()).1, listed)
  answer
    | _, .createBarrier _, some id :: listed => (.ok id, listed)
    | _, .createBarrier _, none :: listed => (.error (.request "BadAlloc"), listed)
    | _, .createBarrier _, [] => (.error (.request "BadAlloc"), [])
    | _, .deleteBarrier _, listed => (.error (.request "BadValue"), listed)
    | _, .keymap _, listed =>
      (.ok ⟨8, 8, 0, fun _ => none, fun _ _ => none, fun _ => 0, fun _ _ _ => none⟩, listed)
    | link, r, listed => ((twoGroupServer.answer link r ()).1, listed)
  closeLink _ listed := listed

/-- What setting up a seat over it comes to. -/
def barrierServerOpened :
    Except SeatError Seat × World (Recorded (List (Option UInt32))) :=
  connect barrierServer.recorded ":0" ⟨⟨[], []⟩, 1⟩

/-- The seat that is set up over it. -/
def barredSeat : Seat := barrierServerOpened.1.toOption.getD default

theorem connect_barrierServer :
    (connect barrierServer.recorded ":0").Leads [] (.ok barredSeat)
      barrierServerOpened.2.server.calls :=
  connect_leads rfl (by decide +kernel)

/-- The pointer is confined; then to something else, but one of the barriers is refused; then
again. -/
def thriceConfined : List Step × List Call :=
  barredSeat.playRecorded barrierServer barrierServerOpened.2.server.calls
    [(.clip (some ⟨10, 10, 90, 90⟩) ⟨0, 0, 800, 600⟩, ⟨[some 1, some 2, some 3, some 4], 1⟩),
      (.clip (some ⟨20, 20, 80, 80⟩) ⟨0, 0, 800, 600⟩, ⟨[some 5, some 6, none], 1⟩),
      (.clip (some ⟨30, 30, 70, 70⟩) ⟨0, 0, 800, 600⟩, ⟨[some 7, some 8, some 9, some 10], 1⟩)]

theorem thriceConfined_standing :
    let s := barredSeat.finish thriceConfined.1
    createdBarriers s.link.id thriceConfined.2 = [1, 2, 3, 4, 5, 6, 7, 8, 9, 10] ∧
      deletedBarriers s.link.id thriceConfined.2 = [1, 2, 3, 4, 5, 6] ∧ s.isConfined ∧
      ∀ id, id ∈ createdBarriers s.link.id thriceConfined.2 ∧
        id ∉ deletedBarriers s.link.id thriceConfined.2 ↔ id ∈ s.barriers := by
  intro s
  obtain ⟨hcreated, hdeleted, hconfined⟩ :
      createdBarriers s.link.id thriceConfined.2 = [1, 2, 3, 4, 5, 6, 7, 8, 9, 10] ∧
      deletedBarriers s.link.id thriceConfined.2 = [1, 2, 3, 4, 5, 6] ∧ s.isConfined := by
    decide +kernel
  have fresh : (createdBarriers s.link.id thriceConfined.2).Nodup := by
    rw [hcreated]
    decide
  obtain ⟨hstanding, -⟩ :=
    RecordedRun.barriers_standing connect_barrierServer (recordedRun_play _ _ _ _) fresh
  exact ⟨hcreated, hdeleted, hconfined, hstanding⟩

end Seat

end InputBridge
