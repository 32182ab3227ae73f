-- SUMMARY: Warps go where motion is reported from, and hold back the motion with their own number.
import InputBridge.Proofs.Seat.ActiveLayout
import InputBridge.Proofs.Seat.Cursor
import InputBridge.Proofs.Seat.Positions

/-!
# Warps

A warp goes to the place in the root window that a position of the screen stands for, and motion
that is reported there is delivered at that position again, for all places that have a report in
16.16 form. Motion that a warp has caused itself is not delivered: the seat keeps the number under
which the display server granted the last warp, until the next one is granted.
-/

namespace InputBridge

/-! ## Numbers of warps -/

/-- The numbers under which warps were granted on a link, in order. -/
def grantedWarps (link : Nat) (calls : List Call) : List UInt64 :=
  calls.filterMap fun
    | .asked l (.warp _ _) (.ok number) => if l = link then some number else none
    | _ => none

/-- A request other than a warp. -/
def Request.IsNoWarp (r : Request) : Prop := ∀ x y, r ≠ .warp x y

theorem grantedWarps_append (link : Nat) (calls more : List Call) :
    grantedWarps link (calls ++ more) = grantedWarps link calls ++ grantedWarps link more :=
  List.filterMap_append

theorem grantedWarps_of_adds {link : Nat} {l l' : List Call}
    (h : Adds (Call.OfKind Request.IsNoWarp) l l') : grantedWarps link l' = grantedWarps link l := by
  obtain ⟨calls, rfl, hcalls⟩ := h
  have hnone : grantedWarps link calls = [] := by
    apply List.filterMap_eq_nil_iff.mpr
    intro call hcall
    obtain ⟨other, r, answer, rfl, hr⟩ := hcalls call hcall
    cases r with
    | warp x y => exact absurd rfl (hr x y)
    | barrierSupport | pointer | keyboard | keyboardReport | rules | keymap | startEvents | flush |
      selectInput | createBarrier | deleteBarrier => rfl
  rw [grantedWarps_append, hnone, List.append_nil]

namespace Seat

open Talk (AsksOnly)

variable {σ : Type} {S : DisplayServer σ} {start s s' : Seat} {l l' l₀ : List Call}
  {steps : List Step} {t : Step} {screen : Rect} {x y rootX rootY : Int32} {window : WindowId}
  {handle : Handle} {seq : UInt64} {time : UInt32} {kind : MotionKind}

/-! ## Where a warp goes to -/

theorem toInt_addClamped {a b : Int32} (h : 0 ≤ a.toInt + b.toInt ∧ a.toInt + b.toInt ≤ 32767) :
    (addClamped a b).toInt = a.toInt + b.toInt := by
  -- the sum is far from the ends of the range
  rw [addClamped, toInt_clampInt32]
  omega

/-- The fraction of a position is taken in parts of 65535, so that a pixel in 16.16 form is too far
by one part for each pixel. Up to 32767 that is less than half of a pixel. -/
theorem toInt_fixed16Round_of_pixel {p : Int} (hp : 0 ≤ p ∧ p ≤ 32767)
    (hroot : rootX.toInt = p * 65536) : (fixed16Round rootX).toInt = p := by
  rw [toInt_fixed16Round, hroot]
  omega

/-- What is in front of the corner of the screen comes off again. -/
theorem located_of_pixel
    (hx : 0 ≤ x.toInt + screen.left.toInt ∧ x.toInt + screen.left.toInt ≤ 32767)
    (hy : 0 ≤ y.toInt + screen.top.toInt ∧ y.toInt + screen.top.toInt ≤ 32767)
    (hrootX : rootX.toInt = (x.toInt + screen.left.toInt) * 65536)
    (hrootY : rootY.toInt = (y.toInt + screen.top.toInt) * 65536) :
    Located screen rootX rootY x y where
  left := by
    rw [toInt_fixed16Round_of_pixel hx hrootX]
    omega
  top := by
    rw [toInt_fixed16Round_of_pixel hy hrootY]
    omega

/-- A warp is one request, and the seat keeps the number under which it is granted. -/
theorem warp_leads {r : Except SeatError Unit}
    (h : (s.warp S.recorded x y screen).Leads l (r, s') l') :
    ∃ answer, l' = l ++ [.asked s.link.id
        (.warp (addClamped x screen.left) (addClamped y screen.top)) answer] ∧
      ((∃ number, answer = .ok number ∧ r = .ok () ∧
          s' = { s with lastWarp := some number, flushPending := true }) ∨
        ∃ refusal, answer = .error refusal ∧ r = .error (.refused refusal) ∧ s' = s) := by
  unfold warp at h
  obtain ⟨answer, m, hask, h⟩ := h.of_bind
  obtain rfl := hask.of_ask
  cases answer with
  -- a warp that is refused leaves the number of the one before
  | ok number =>
    obtain ⟨heq, rfl⟩ := h.of_pure
    cases heq
    exact ⟨_, rfl, .inl ⟨number, rfl, rfl, rfl⟩⟩
  | error refusal =>
    obtain ⟨heq, rfl⟩ := h.of_pure
    cases heq
    exact ⟨_, rfl, .inr ⟨refusal, rfl, rfl, rfl⟩⟩

/-! ## Numbers that are kept -/

theorem deleteBarriers_isNoWarp (link : Link) (ids : List UInt32) :
    AsksOnly Request.IsNoWarp (deleteBarriers S.recorded link ids) := by
  induction ids with
  | nil => exact .pure _
  | cons id ids ih => exact .bind (.map (.ask fun _ _ => nofun)) fun _ => ih

theorem createBarriers_isNoWarp (link : Link) (created : List UInt32) (barriers : List Barrier) :
    AsksOnly Request.IsNoWarp (createBarriers S.recorded link created barriers) := by
  induction barriers generalizing created with
  | nil => exact .pure _
  | cons b barriers ih =>
    refine .bind (.ask fun _ _ => nofun) fun answer => ?_
    cases answer with
    | ok id => exact ih _
    | error refusal => exact .bind (deleteBarriers_isNoWarp link created) fun _ => .pure _

theorem clip_isNoWarp (s : Seat) (rect : Option Rect) (screen : Rect) :
    AsksOnly Request.IsNoWarp (s.clip S.recorded rect screen) := by
  refine .bind (deleteBarriers_isNoWarp _ _) fun _ => ?_
  cases rect with
  | none => exact .pure _
  | some rect =>
    refine .bind (createBarriers_isNoWarp _ _ _) fun created => ?_
    cases created <;> exact .pure _

theorem isNoWarp_of_elsewhere (r : Request) (h : Elsewhere r) : r.IsNoWarp := by
  rintro x y rfl
  cases h

/-- The step is a warp that was granted. -/
def Step.Warps (t : Step) : Prop :=
  (∃ x y screen, t.operation = .warp x y screen) ∧ t.result = .ok ()

/-- A warp that is granted has one number, which the seat keeps. Nothing else has a number, and
the seat keeps the one it has. -/
theorem Step.Calls.warps (calls : t.Calls S l l') :
    t.after.link = t.before.link ∧
    ((t.Warps ∧ ∃ number, grantedWarps t.before.link.id l' =
        grantedWarps t.before.link.id l ++ [number] ∧ t.after.lastWarp = some number) ∨
      ¬t.Warps ∧ grantedWarps t.before.link.id l' = grantedWarps t.before.link.id l ∧
        t.after.lastWarp = t.before.lastWarp) := by
  -- confining the pointer and all the rest ask for no warp
  rcases calls.cursor_cases with ⟨rect, screen, hop, h⟩ | ⟨x, y, screen, hop, h⟩ |
    ⟨-, hop, same, elsewhere⟩
  · obtain ⟨barriers, hafter⟩ := clip_yields h.yields
    refine ⟨by rw [hafter], .inr ⟨?_, ?_, by rw [hafter]⟩⟩
    · rintro ⟨⟨x, y, screen', hwarp⟩, -⟩
      cases hop.symm.trans hwarp
    · exact grantedWarps_of_adds (clip_isNoWarp _ _ _ _ _ _ h)
  · refine ⟨(warp_undisturbed h.yields).link, ?_⟩
    obtain ⟨answer, rfl, ⟨number, rfl, hresult, hafter⟩ | ⟨refusal, rfl, hresult, hafter⟩⟩ :=
      warp_leads h
    · refine .inl ⟨⟨⟨x, y, screen, hop⟩, hresult⟩, number, ?_, by rw [hafter]⟩
      rw [grantedWarps_append]
      simp [grantedWarps]
    · refine .inr ⟨?_, ?_, by rw [hafter]⟩
      · rintro ⟨-, hgranted⟩
        cases hresult.symm.trans hgranted
      · rw [grantedWarps_append]
        simp [grantedWarps]
  · refine ⟨same.link, .inr ⟨?_, ?_, same.lastWarp⟩⟩
    · rintro ⟨⟨x, y, screen', hwarp⟩, -⟩
      exact hop x y screen' hwarp
    · exact grantedWarps_of_adds (elsewhere.weaken isNoWarp_of_elsewhere)

/-- The number that the seat keeps is that of the last warp that was granted. -/
theorem RecordedRun.lastWarp_eq {display : String}
    (opened : (connect S.recorded display).Leads [] (.ok start) l₀)
    (run : RecordedRun S start l₀ steps s l) :
    s.lastWarp = (grantedWarps s.link.id l).getLast? := by
  induction run with
  | nil =>
    -- a seat has no number to begin with, and setting it up warps nothing
    obtain ⟨⟨own, elsewhere⟩, -, hnone⟩ := connect_cursor opened
    rw [hnone, grantedWarps_of_adds (elsewhere.weaken isNoWarp_of_elsewhere)]
    rfl
  | snoc _ calls ih =>
    obtain ⟨hlink, ⟨-, number, hgranted, hkept⟩ | ⟨-, hgranted, hkept⟩⟩ := calls.warps
    · rw [hkept, hlink, hgranted, List.getLast?_concat]
    · rw [hkept, hlink, hgranted, ih]

/-! ## Motion -/

/-- A position whose place in the root window has a report in 16.16 form is warped to exactly, and
motion that is reported there has the position again, unless it is the motion of the last warp. -/
theorem motion_of_warp (S : DisplayServer σ) (screen : Rect) (x y : Int32)
    (hx : 0 ≤ x.toInt + screen.left.toInt ∧ x.toInt + screen.left.toInt ≤ 32767)
    (hy : 0 ≤ y.toInt + screen.top.toInt ∧ y.toInt + screen.top.toInt ≤ 32767) :
    (∀ (s : Seat) l result (s' : Seat) l',
      (s.warp S.recorded x y screen).Leads l (result, s') l' →
      ∃ (rootX rootY : Int32) (answer : Except Refusal UInt64),
        rootX.toInt = x.toInt + screen.left.toInt ∧ rootY.toInt = y.toInt + screen.top.toInt ∧
        l' = l ++ [.asked s.link.id (.warp rootX rootY) answer] ∧
        ∀ number, answer = .ok number → result = .ok () ∧ s'.lastWarp = some number) ∧
    ∀ (s : Seat) kind seq time window handle (rootX rootY : Int32),
      rootX.toInt = (x.toInt + screen.left.toInt) * 65536 →
      rootY.toInt = (y.toInt + screen.top.toInt) * 65536 →
      s.windows.lookup? window = some handle → s.lastWarp ≠ some seq →
      s.onMotion screen seq time window rootX rootY = .ok [motionInput handle x y time] ∧
        (s.failed = false → ∀ w, s.delivered S screen
            (.motion kind seq time window rootX rootY) w = .ok [motionInput handle x y time]) := by
  constructor
  · intro s l result s' l' h
    obtain ⟨answer, hcall, hanswer⟩ := warp_leads h
    refine ⟨_, _, answer, toInt_addClamped hx, toInt_addClamped hy, hcall, ?_⟩
    rintro number rfl
    -- a warp that was refused has no number
    rcases hanswer with ⟨number', hnumber, hresult, rfl⟩ | ⟨refusal, hrefused, -⟩
    · cases hnumber
      exact ⟨hresult, rfl⟩
    · cases hrefused
  · intro s kind seq time window handle rootX rootY hrootX hrootY hwindow hseq
    have located : Located screen rootX rootY x y := located_of_pixel hx hy hrootX hrootY
    have hmotion : s.onMotion screen seq time window rootX rootY =
        .ok [motionInput handle x y time] := by
      rw [onMotion_eq hwindow, if_neg hseq, toScreen_eq_ok_iff.mpr located]
      rfl
    exact ⟨hmotion, fun hlive w => (delivered_motion hlive w).trans hmotion⟩

/-- What comes of a warp to the place that is farthest from the origin. -/
def farWarp : (Except SeatError Unit × Seat) × World (Recorded Unit) :=
  windowSeat.warp twoGroupServer.recorded 34687 (-100) ⟨-1920, 100, 0, 1180⟩ ⟨⟨(), []⟩, 2⟩

theorem motion_of_farWarp :
    (∃ answer, farWarp.2.server.calls = [.asked windowSeat.link.id (.warp 32767 0) answer]) ∧
      farWarp.1.2.lastWarp = some 1 ∧
      farWarp.1.2.delivered twoGroupServer ⟨-1920, 100, 0, 1180⟩
        (.motion .motion 2 0 0x500 2147418112 0) ⟨(), 2⟩ = .ok [motionInput 1 34687 (-100) 0] := by
  obtain ⟨hwarp, hmotion⟩ := motion_of_warp twoGroupServer ⟨-1920, 100, 0, 1180⟩ 34687 (-100)
    (by decide) (by decide)
  obtain ⟨hlast, hwindow, hlive⟩ : farWarp.1.2.lastWarp = some 1 ∧
      farWarp.1.2.windows.lookup? 0x500 = some 1 ∧ farWarp.1.2.failed = false := by decide +kernel
  refine ⟨?_, hlast, ?_⟩
  · obtain ⟨rootX, rootY, answer, hrootX, hrootY, hcall, -⟩ :=
      hwarp windowSeat [] farWarp.1.1 farWarp.1.2 farWarp.2.server.calls ⟨_, rfl, rfl, rfl⟩
    obtain rfl : rootX = 32767 := Int32.toInt_inj.mp (hrootX.trans (by decide))
    obtain rfl : rootY = 0 := Int32.toInt_inj.mp (hrootY.trans (by decide))
    exact ⟨answer, hcall⟩
  · obtain ⟨-, hdelivered⟩ := hmotion farWarp.1.2 .motion 2 0 0x500 1 2147418112 0 (by decide)
      (by decide) hwindow (by simp [hlast])
    exact hdelivered hlive _

/-! ## Motion of a warp -/

/-- Motion that is not held back is one move to where it is, or has no position in its window and
overflows. -/
theorem delivered_motion_cases (hlive : s.failed = false)
    (hwindow : s.windows.lookup? window = some handle) (hseq : s.lastWarp ≠ some seq) (w : World σ) :
    (∃ x y, Located screen rootX rootY x y ∧
      s.delivered S screen (.motion kind seq time window rootX rootY) w =
        .ok [motionInput handle x y time]) ∨
    (∀ x y, ¬Located screen rootX rootY x y) ∧
      s.delivered S screen (.motion kind seq time window rootX rootY) w = .error .subtract := by
  rw [delivered_motion hlive, onMotion_eq hwindow, if_neg hseq]
  rcases toScreen_cases rootX rootY screen with ⟨x, y, located, h⟩ | ⟨hnone, h⟩
  · exact .inl ⟨x, y, located, by rw [h]; rfl⟩
  · exact .inr ⟨hnone, by rw [h]; rfl⟩

/-- Motion in a window is held back exactly if it has the number of the last warp that was granted.
All other motion is one move in the window, or it overflows; next to a screen it never does exactly
if the corner is not at the far ends of the plane. A warp that is granted has one number. Nothing
else has one, and it leaves what is held back as it was. -/
theorem RecordedRun.motion_suppressed_iff {display : String}
    (opened : (connect S.recorded display).Leads [] (.ok start) l₀)
    (run : RecordedRun S start l₀ steps s l) (hlive : s.failed = false)
    (hwindow : s.windows.lookup? window = some handle) :
    (∀ screen kind seq time rootX rootY w,
      let delivered := s.delivered S screen (.motion kind seq time window rootX rootY) w
      (delivered = .ok [] ↔ (grantedWarps s.link.id l).getLast? = some seq) ∧
        ((grantedWarps s.link.id l).getLast? ≠ some seq →
          (∃ x y, Located screen rootX rootY x y ∧
            delivered = .ok [motionInput handle x y time]) ∨
          (∀ x y, ¬Located screen rootX rootY x y) ∧ delivered = .error .subtract)) ∧
    (∀ screen kind seq time w, (grantedWarps s.link.id l).getLast? ≠ some seq →
      ((∀ rootX rootY, ∃ x y,
          s.delivered S screen (.motion kind seq time window rootX rootY) w =
            .ok [motionInput handle x y time]) ↔ CornerInReach screen)) ∧
    ∀ (t : Step) l', t.before = s → t.Calls S l l' →
      (t.Warps → ∃ number, grantedWarps s.link.id l' = grantedWarps s.link.id l ++ [number] ∧
        t.after.lastWarp = some number) ∧
      (¬t.Warps → grantedWarps s.link.id l' = grantedWarps s.link.id l ∧
        t.after.lastWarp = s.lastWarp) := by
  rw [← run.lastWarp_eq opened]
  refine ⟨?_, ?_, ?_⟩
  · intro screen kind seq time rootX rootY w delivered
    have moves : s.lastWarp ≠ some seq →
        (∃ x y, Located screen rootX rootY x y ∧ delivered = .ok [motionInput handle x y time]) ∨
        (∀ x y, ¬Located screen rootX rootY x y) ∧ delivered = .error .subtract :=
      fun hseq => delivered_motion_cases hlive hwindow hseq w
    refine ⟨⟨fun hnone => ?_, fun hseq => ?_⟩, moves⟩
    · by_contra hseq
      rcases moves hseq with ⟨x, y, -, h⟩ | ⟨-, h⟩ <;> cases hnone.symm.trans h
    · exact (delivered_motion hlive w).trans (by rw [onMotion_eq hwindow, if_pos hseq])
  · intro screen kind seq time w hseq
    constructor
    · intro h
      have hdelivered : ∀ rootX rootY, ∃ deliveries,
          s.delivered S screen (.motion kind seq time window rootX rootY) w = .ok deliveries := by
        intro rootX rootY
        obtain ⟨x, y, hmove⟩ := h rootX rootY
        exact ⟨_, hmove⟩
      exact cornerInReach_of_delivered hlive hwindow hseq w hdelivered
    · intro hcorner rootX rootY
      obtain ⟨x, y, located⟩ := exists_located_of_cornerInReach hcorner rootX rootY
      rw [delivered_motion hlive w, onMotion_eq hwindow, if_neg hseq,
        toScreen_eq_ok_iff.mpr located]
      exact ⟨x, y, rfl⟩
  · rintro t l' rfl calls
    obtain ⟨-, ⟨hwarp, hgranted⟩ | ⟨hother, hkept⟩⟩ := calls.warps
    · exact ⟨fun _ => hgranted, fun hother => absurd hwarp hother⟩
    · exact ⟨fun hwarp => absurd hwarp hother, fun _ => hkept⟩

/-- A display server that numbers warps by what its state lists, one after the other, and refuses
one where none is listed. It creates no barriers. Its keyboard is empty. -/
def warpServer : DisplayServer (List (Option UInt64)) where
  openLink display listed := ((twoGroupServer.openLink display ()).1, listed)
  answer
    | _, .warp _ _, some number :: listed => (.ok number, listed)
    | _, .warp _ _, none :: listed => (.error (.request "BadWindow"), listed)
    | _, .warp _ _, [] => (.error (.request "BadWindow"), [])
    | _, .createBarrier _, listed => (.error (.request "BadAlloc"), listed)
    | _, .keymap _, listed =>
      (.ok ⟨8, 8, 0, fun _ => none, fun _ _ => none, fun _ => 0, fun _ _ _ => none⟩, listed)
    | link, r, listed => ((twoGroupServer.answer link r ()).1, listed)
  closeLink _ listed := listed

/-- What setting up a seat over it comes to. -/
def warpServerOpened : Except SeatError Seat × World (Recorded (List (Option UInt64))) :=
  connect warpServer.recorded ":0" ⟨⟨[], []⟩, 1⟩

/-- The seat that is set up over it. -/
def warpedSeat : Seat := warpServerOpened.1.toOption.getD default

theorem connect_warpServer :
    (connect warpServer.recorded ":0").Leads [] (.ok warpedSeat)
      warpServerOpened.2.server.calls :=
  connect_leads rfl (by decide +kernel)

/-- A window is registered and the pointer is warped. Another warp is refused, and so is a barrier. -/
def onceWarped : List Step × List Call :=
  warpedSeat.playRecorded warpServer warpServerOpened.2.server.calls
    [(.startInput 0x500 1, ⟨[], 1⟩),
      (.warp 40 30 ⟨0, 0, 800, 600⟩, ⟨[some 41], 1⟩),
      (.warp 50 30 ⟨0, 0, 800, 600⟩, ⟨[none], 1⟩),
      (.clip (some ⟨10, 10, 90, 90⟩) ⟨0, 0, 800, 600⟩, ⟨[some 43], 1⟩)]

theorem onceWarped_suppressed :
    let s := warpedSeat.finish onceWarped.1
    (grantedWarps s.link.id onceWarped.2).getLast? = some 41 ∧
      ∀ w, s.delivered warpServer ⟨0, 0, 800, 600⟩ (.motion .motion 41 0 0x500 0 0) w = .ok [] ∧
        ∀ rootX rootY, ∃ x y,
          s.delivered warpServer ⟨0, 0, 800, 600⟩ (.motion .enter 42 0 0x500 rootX rootY) w =
            .ok [motionInput 1 x y 0] := by
  intro s
  obtain ⟨hlast, hlive, hwindow⟩ : (grantedWarps s.link.id onceWarped.2).getLast? = some 41 ∧
      s.failed = false ∧ s.windows.lookup? 0x500 = some 1 := by decide +kernel
  have run : RecordedRun warpServer warpedSeat warpServerOpened.2.server.calls onceWarped.1 s
      onceWarped.2 := recordedRun_play _ _ _ _
  obtain ⟨hmotion, hmoves, -⟩ :=
    RecordedRun.motion_suppressed_iff connect_warpServer run hlive hwindow
  refine ⟨hlast, fun w => ⟨?_, ?_⟩⟩
  · obtain ⟨hheld, -⟩ := hmotion ⟨0, 0, 800, 600⟩ .motion 41 0 0 0 w
    exact hheld.mpr hlast
  · have hseq : (grantedWarps s.link.id onceWarped.2).getLast? ≠ some 42 := by
      rw [hlast]
      decide
    exact (hmoves ⟨0, 0, 800, 600⟩ .enter 42 0 w hseq).mpr (by decide)

/-- A window is registered and nothing is warped. -/
def neverWarped : List Step × List Call :=
  warpedSeat.playRecorded warpServer warpServerOpened.2.server.calls
    [(.startInput 0x500 1, ⟨[], 1⟩)]

/-- Motion at the origin of the root window, next to the leftmost screen, is no warp's and is not
moved either. -/
theorem neverWarped_unmoved :
    let s := warpedSeat.finish neverWarped.1
    (connect warpServer.recorded ":0").Leads [] (.ok warpedSeat)
        warpServerOpened.2.server.calls ∧
      RecordedRun warpServer warpedSeat warpServerOpened.2.server.calls neverWarped.1 s
        neverWarped.2 ∧
      s.failed = false ∧ s.windows.lookup? 0x500 = some 1 ∧
      (grantedWarps s.link.id neverWarped.2).getLast? = none ∧
      s.delivered warpServer ⟨-2147483648, 0, -2147483647, 1⟩ (.motion .motion 7 0 0x500 0 0)
        ⟨[], 1⟩ = .error .subtract := by
  intro s
  have evaluated : s.failed = false ∧ s.windows.lookup? 0x500 = some 1 ∧
      (grantedWarps s.link.id neverWarped.2).getLast? = none ∧
      s.delivered warpServer ⟨-2147483648, 0, -2147483647, 1⟩ (.motion .motion 7 0 0x500 0 0)
        ⟨[], 1⟩ = .error .subtract := by decide +kernel
  exact ⟨connect_warpServer, recordedRun_play _ _ _ _, evaluated⟩

end Seat

end InputBridge
