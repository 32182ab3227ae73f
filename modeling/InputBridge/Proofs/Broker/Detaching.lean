-- SUMMARY: What detaching a client takes away, and that everything else stays.
import InputBridge.Proofs.Broker.Ownership
import InputBridge.Proofs.Broker.Silence
import InputBridge.Proofs.Broker.Tables

/-!
# What a client leaves behind

A client that detaches from its seat takes its windows and handles with it, out of the broker's
records and out of the table of the seat. The seat is had by one less, and is closed if nobody has
it any more. Everything else stays, whoever it belongs to.
-/

namespace InputBridge

namespace Broker

variable {σ : Type} {S : DisplayServer σ} {b b' : Broker} {c o : ClientId} {id other : SeatId}
  {seat : Seat} {window : WindowId} {windows : List WindowId} {handle : Handle} {l l' : List Call}

/-! ## Each window is recorded once -/

theorem distinct_forgetWindow (h : b.windows.Distinct) :
    (b.forgetWindow id window).windows.Distinct := by
  unfold forgetWindow
  split
  · exact h
  · exact h.erase

theorem distinct_ownWindow (h : b.windows.Distinct) :
    (b.ownWindow id window handle c).windows.Distinct :=
  (distinct_forgetWindow h).insert

theorem Reachable.distinct (reachable : Reachable S b) : b.windows.Distinct := by
  refine reachable.of_moves (I := fun b => b.windows.Distinct) (fun _ => .nil) ?_ ?_ ?_
  · intro b b' h move
    cases move with
    | forget | stop => exact distinct_forgetWindow h
    | greet | proceed | fail | leave | join | depart => exact h
  · rintro b b' c id window handle h ⟨-, seat, seat', -, -, -, -, -, rfl⟩
    exact h
  · rintro b b' c id window handle h ⟨-, seat, seat', -, -, -, -, rfl⟩
    exact distinct_ownWindow h

theorem ownerOf_eq_some :
    b.ownerOf id window = some c ↔ ∃ handle, b.windows.get? (id, window) = some (c, handle) := by
  simp [ownerOf]

theorem mem_windowsOf_iff (distinct : b.windows.Distinct) :
    window ∈ b.windowsOf id c ↔ b.ownerOf id window = some c := by
  rw [ownerOf_eq_some]
  constructor
  · intro hmem
    obtain ⟨⟨⟨id', window'⟩, c', handle⟩, hentry, heq⟩ :=
      List.mem_filterMap.mp ((ordered_perm _).mem_iff.mp hmem)
    obtain ⟨⟨rfl, rfl⟩, rfl⟩ : (id' = id ∧ c' = c) ∧ window' = window := by simpa using heq
    exact ⟨handle, Assoc.get?_of_mem distinct hentry⟩
  · rintro ⟨handle, hwindow⟩
    exact mem_windowsOf hwindow

/-- Every seat has each of its windows once. -/
theorem Reachable.tables (reachable : Reachable S b) : b.EverySeat fun _ _ => True := by
  refine reachable.of_moves .empty (fun _ _ h move => ?_) ?_ ?_
  · exact h.move (fun _ => trivial) move fun _ => trivial
  · intro b b' c id window handle h withdrawn
    exact h.withdraw withdrawn fun _ _ => trivial
  · intro b b' c id window handle h registered
    exact h.register (fun _ => trivial) registered

/-! ## Stopping windows -/

/-- If all the windows are of one client, the handles of the others stay. -/
theorem handles_stopWindows
    (hown : ∀ window ∈ windows, ∀ o handle, b.windows.get? (id, window) = some (o, handle) → o = c)
    (h : (stopWindows S id windows b).Yields b') (hne : o ≠ c) :
    b'.handles.get? (other, handle) = some o ↔ b.handles.get? (other, handle) = some o := by
  induction windows generalizing b with
  | nil =>
    cases h.of_pure
    rfl
  | cons w ws ih =>
    obtain ⟨seats, h, -⟩ := stopWindows_yields h
    -- forgetting a window only takes records away, so those of the other windows are still `c`'s
    have hrest : ∀ window ∈ ws, ∀ o handle,
        (b.forgetWindow id w).windows.get? (id, window) = some (o, handle) → o = c := by
      intro window hmem o handle hwindow
      rw [windows_forgetWindow] at hwindow
      split at hwindow
      · cases hwindow
      · exact hown window (List.mem_cons_of_mem _ hmem) o handle hwindow
    have rest := ih (b := { b.forgetWindow id w with seats }) hrest h
    refine rest.trans (handles_forgetWindow.trans (and_iff_left fun hforgotten => hne ?_))
    exact hown w List.mem_cons_self o handle hforgotten.2

/-- The seat has the windows no more that were stopped. -/
theorem tables_stopWindows (h : (stopWindows S id windows b).Yields b')
    (hseat : b.seats.get? id = some seat) (distinct : seat.windows.Distinct) :
    ∃ seat', b'.seats.get? id = some seat' ∧ ∀ w, seat'.windows.lookup? w =
      if w ∈ windows then none else seat.windows.lookup? w := by
  induction windows generalizing b seat with
  | nil =>
    cases h.of_pure
    exact ⟨seat, hseat, by simp⟩
  | cons w ws ih =>
    obtain ⟨seats, h, ⟨hnone, -⟩ | ⟨old, seat₁, r, hold, hstop, rfl⟩⟩ := stopWindows_yields h
    · simp [hseat] at hnone
    -- the seat that the window is stopped at is the one the table was read from
    obtain rfl : seat = old := Option.some.inj (hseat.symm.trans hold)
    obtain ⟨-, -, hwindows⟩ := Seat.stopInput_yields hstop
    have distinct₁ : seat₁.windows.Distinct := hwindows ▸ distinct.remove
    obtain ⟨seat', hseat', hlookup⟩ :=
      ih h ((get?_set_of_some hseat seat₁ id).trans (if_pos rfl)) distinct₁
    refine ⟨seat', hseat', fun w' => ?_⟩
    rw [hlookup, hwindows, WindowTable.lookup?_remove distinct]
    by_cases heq : w = w'
    · simp [heq]
    · simp [Ne.symm heq]

theorem clients_stopWindows (h : (stopWindows S id windows b).Yields b') :
    b'.clients = b.clients := by
  have hstop : (stopWindows S id windows { b with clients := b.clients }).Yields b' := h
  obtain ⟨b₁, -, -, rfl⟩ := stopWindows_moves hstop
  rfl

/-! ## All windows of a client -/

section Leaving

variable {clients : Assoc ClientId (Option SeatId)}

theorem Owned.of_ownerOf (owned : b.Owned) (howner : b.ownerOf id window = some c) :
    b.seatOf c = some id := by
  obtain ⟨handle, hwindow⟩ := ownerOf_eq_some.mp howner
  exact owned.windows id window c handle hwindow

/-- Whatever windows a client has, they are at its seat. -/
theorem windows_leave (owned : b.Owned) (distinct : b.windows.Distinct) (hc : b.seatOf c = some id)
    (h : (stopWindows S id (b.windowsOf id c) { b with clients }).Yields b') :
    b'.windows.get? (other, window) =
      if b.ownerOf other window = some c then none else b.windows.get? (other, window) := by
  rw [windows_stopWindows h]
  by_cases howner : b.ownerOf other window = some c
  -- the owner of a window is attached to its seat, and nobody to two
  · obtain rfl : id = other := Option.some.inj (hc.symm.trans (owned.of_ownerOf howner))
    rw [if_pos ⟨rfl, (mem_windowsOf_iff distinct).mpr howner⟩, if_pos howner]
  · rw [if_neg howner, if_neg]
    rintro ⟨rfl, hmem⟩
    exact howner ((mem_windowsOf_iff distinct).mp hmem)

theorem handles_leave (distinct : b.windows.Distinct)
    (h : (stopWindows S id (b.windowsOf id c) { b with clients }).Yields b') (hne : o ≠ c) :
    b'.handles.get? (other, handle) = some o ↔ b.handles.get? (other, handle) = some o := by
  refine handles_stopWindows (b := { b with clients }) (fun window hmem owner k hwindow => ?_) h hne
  obtain ⟨k', hwindow'⟩ := ownerOf_eq_some.mp ((mem_windowsOf_iff distinct).mp hmem)
  cases hwindow.symm.trans hwindow'
  rfl

theorem tables_leave (distinct : b.windows.Distinct) (hseat : b.seats.get? id = some seat)
    (table : seat.windows.Distinct)
    (h : (stopWindows S id (b.windowsOf id c) { b with clients }).Yields b') :
    ∃ seat', b'.seats.get? id = some seat' ∧ ∀ window, seat'.windows.lookup? window =
      if b.ownerOf id window = some c then none else seat.windows.lookup? window := by
  obtain ⟨seat', hseat', hlookup⟩ := tables_stopWindows h hseat table
  refine ⟨seat', hseat', fun window => ?_⟩
  rw [hlookup]
  simp only [mem_windowsOf_iff distinct]

end Leaving

/-! ## Detaching -/

/-- What is left when a client is detached. -/
structure Detaches (c : ClientId) (b : Broker) (l : List Call) (b' : Broker) (l' : List Call) :
    Prop where
  clients : ∀ other, b'.clients.get? other =
    if other = c then (b.clients.get? c).map fun _ => none else b.clients.get? other
  windows : ∀ id window, b'.windows.get? (id, window) =
    if b.ownerOf id window = some c then none else b.windows.get? (id, window)
  handles : ∀ id handle, b'.handles.get? (id, handle) =
    if b.handles.get? (id, handle) = some c then none else b.handles.get? (id, handle)
  tables : ∀ id seat seat', b.seats.get? id = some seat → b'.seats.get? id = some seat' →
    ∀ window, seat'.windows.lookup? window =
      if b.ownerOf id window = some c then none else seat.windows.lookup? window
  refs : ∀ id, b.seats.refs id = b'.seats.refs id + if b.seatOf c = some id then 1 else 0
  present : ∀ id, (b'.seats.get? id).isSome ↔ 1 ≤ b'.seats.refs id
  /-- A seat is closed if it has gone with the client. -/
  closed : ∃ calls, l' = l ++ calls ∧ ∀ id seat, b.seats.get? id = some seat →
    (Call.closed seat.link.id ∈ calls ↔ b'.seats.refs id = 0)

theorem detach_of_none (hc : b.seatOf c = none) (h : (b.detach S.recorded c).Leads l b' l') :
    b' = b ∧ l' = l := by
  rcases detach_leads h with ⟨-, hsame, hquiet⟩ | ⟨id, -, -, -, -, -, -, hid, -⟩
  · exact ⟨hsame, hquiet⟩
  · simp [hc] at hid

/-- A client that has a seat stops its windows, has the seat send what it queued, and lets it
go. -/
theorem detach_of_seatOf (hc : b.seatOf c = some id) (hseat : b.seats.get? id = some seat)
    (h : (b.detach S.recorded c).Leads l b' l') :
    ∃ b₁ seat₁ seat' last, ∃ m m',
      (stopWindows S.recorded id (b.windowsOf id c)
        { b with clients := b.clients.insert c none }).Leads l b₁ m ∧
      (∀ other, b₁.seats.get? other = if id = other then some seat₁ else b.seats.get? other) ∧
      seat.Queues l seat₁ m ∧ (seat₁.flushIfPending S.recorded).Leads m seat' m' ∧
      ((b₁.seats.set id seat').release S.recorded id).Leads m' (last, b'.seats) l' ∧
      b' = { b₁ with seats := b'.seats } := by
  rcases detach_leads h with
    ⟨hnone, -⟩ | ⟨id', b₁, m, seats, m', seats', last, hid, hstop, hflushed, hrelease, rfl⟩
  · simp [hc] at hnone
  obtain rfl : id = id' := Option.some.inj (hc.symm.trans hid)
  -- the seat stays in its place until it is let go, so neither part can find it gone
  rcases stopWindows_calls hstop with ⟨hgone, -⟩ | ⟨old, seat₁, hold, queues, hseats⟩
  · simp [hseat] at hgone
  obtain rfl : seat = old := Option.some.inj (hseat.symm.trans hold)
  have hseat₁ := (hseats id).trans (if_pos rfl)
  rcases hflushed with ⟨hgone, -⟩ | ⟨seat₂, seat', hseat₂, hflush, rfl⟩
  · simp [hseat₁] at hgone
  obtain rfl : seat₁ = seat₂ := Option.some.inj (hseat₁.symm.trans hseat₂)
  exact ⟨b₁, seat₁, seat', last, m, m', hstop, hseats, queues, hflush, hrelease, rfl⟩

/-- Of the seats that are there after that, one has sent what it queued, and the others are as
before. -/
theorem get?_of_detach {b₁ : Broker} {seat₁ seat' new : Seat} {last : Bool} {p : SharedSeats}
    {m : List Call}
    (hseats : ∀ other, b₁.seats.get? other = if id = other then some seat₁ else b.seats.get? other)
    (h : ((b₁.seats.set id seat').release S.recorded id).Leads m (last, p) l')
    (hnew : p.get? other = some new) :
    id = other ∧ new = seat' ∨ id ≠ other ∧ b.seats.get? other = some new := by
  have hset := get?_set_of_some ((hseats id).trans (if_pos rfl)) seat' other
  rw [SharedSeats.get?_of_release h.yields hnew] at hset
  split at hset
  · next heq => exact .inl ⟨heq, Option.some.inj hset⟩
  · next hne =>
    rw [hseats, if_neg hne] at hset
    exact .inr ⟨hne, hset.symm⟩

/-- No link is opened by that, and no seat changes its link. -/
theorem detach_links (balanced : b.Balanced) (h : (b.detach S.recorded c).Leads l b' l') :
    openedLinks l' = openedLinks l ∧ ∀ id seat', b'.seats.get? id = some seat' →
      ∃ seat, b.seats.get? id = some seat ∧ seat'.link = seat.link := by
  cases hc : b.seatOf c with
  | none =>
    obtain ⟨rfl, rfl⟩ := detach_of_none hc h
    exact ⟨rfl, fun _ seat hseat => ⟨seat, hseat, rfl⟩⟩
  | some id =>
    obtain ⟨seat, hseat⟩ := Option.isSome_iff_exists.mp (balanced.isSome_of_seatOf hc)
    obtain ⟨b₁, seat₁, seat', last, m, m', -, hseats, queues, hflush, hrelease, -⟩ :=
      detach_of_seatOf hc hseat h
    have settles := queues.settles hflush
    constructor
    -- whatever the seat asks of its link, it never asks for another one to be opened
    · have hsame : openedLinks m' = openedLinks l := by
        refine settles.own.openedLinks ?_
        rintro display own ⟨-, r, answer, heq⟩
        cases heq
      rw [← hsame]
      rcases SharedSeats.release_leads hrelease with
        ⟨-, -, rfl⟩ | ⟨shared, -, ⟨-, -, rfl⟩ | ⟨-, -, rfl⟩⟩
      · rfl
      · rfl
      · simp [openedLinks]
    · intro other new hnew
      rcases get?_of_detach hseats hrelease hnew with ⟨rfl, rfl⟩ | ⟨-, hold⟩
      · exact ⟨seat, hseat, settles.link⟩
      · exact ⟨new, hold, rfl⟩

/-- Whoever has no seat has nothing to leave behind. -/
theorem Detaches.of_none (balanced : b.Balanced) (owned : b.Owned) (hc : b.seatOf c = none) :
    Detaches c b l b l where
  clients other := by
    split
    · next heq =>
      subst heq
      cases hentry : b.clients.get? other with
      | none => rfl
      | some entry => simpa [seatOf, hentry] using hc
    · rfl
  windows id window := by
    refine (if_neg fun howner => ?_).symm
    simp [owned.of_ownerOf howner] at hc
  handles id handle := by
    refine (if_neg fun hhandle => ?_).symm
    simp [owned.seatOf_of_handles hhandle] at hc
  tables id seat seat' hseat hseat' window := by
    obtain rfl : seat = seat' := Option.some.inj (hseat.symm.trans hseat')
    refine (if_neg fun howner => ?_).symm
    simp [owned.of_ownerOf howner] at hc
  refs id := by simp [hc]
  -- read off the counts, which agree with who has the seat
  present id := by rw [balanced.seats.present, balanced.seats.refs]
  closed := by
    refine ⟨[], (List.append_nil l).symm, fun id seat hseat => iff_of_false List.not_mem_nil ?_⟩
    -- a seat that is there is had by somebody, so it is not among the closed ones
    have hpresent := (balanced.seats.present id).mp (by simp [hseat])
    rw [balanced.seats.refs]
    omega

variable {config : BrokerConfig} {steps : List Step}

theorem Moves.balanced (moves : Moves S b b') (balanced : b.Balanced) : b'.Balanced :=
  moves.invariant balanced fun _ _ h move => h.move move

theorem Moves.owned (moves : Moves S b b') (owned : b.Owned) : b'.Owned :=
  moves.invariant owned fun _ _ h move => h.move move

/-- The client is counted no more. -/
theorem refs_of_detached (balanced : b.Balanced) (balanced' : b'.Balanced)
    (hclients : b'.clients = b.clients.insert c none) (id : SeatId) :
    b.seats.refs id = b'.seats.refs id + if b.seatOf c = some id then 1 else 0 := by
  have hcount := headcount_insert (b := b) (c := c) b'.seats none id
  have hsame : b'.headcount id =
      headcount { b with clients := b.clients.insert c none, seats := b'.seats } id := by
    rw [headcount, hclients, headcount]
  rw [balanced.seats.refs, balanced'.seats.refs, hsame]
  simpa using hcount.symm

/-- A client without a seat has no handles, so those are gone that were its own. -/
theorem handles_detached (owned' : b'.Owned) (hnone : b'.seatOf c = none)
    (hkept : ∀ o, o ≠ c →
      (b'.handles.get? (other, handle) = some o ↔ b.handles.get? (other, handle) = some o)) :
    b'.handles.get? (other, handle) =
      if b.handles.get? (other, handle) = some c then none else b.handles.get? (other, handle) := by
  refine Option.ext fun o => ?_
  by_cases heq : o = c
  · subst heq
    -- what is recorded for `c` afterwards would attach it to a seat
    refine iff_of_false (fun hhandle => ?_) ?_
    · simp [owned'.seatOf_of_handles hhandle] at hnone
    · split
      · simp
      · next hother => exact hother
  · rw [hkept o heq]
    split
    · next hhandle => simp [hhandle, Ne.symm heq]
    · rfl

/-- The seat that is let go is closed if nobody else has it, and no other seat is. -/
theorem closed_of_release {last : Bool} {p p' : SharedSeats} {seat' : Seat} {m : List Call}
    (numbered : b.seats.Numbered l) (hseat : b.seats.get? id = some seat)
    (hseat' : p.get? id = some seat') (settles : seat.Settles l seat' m)
    (h : (p.release S.recorded id).Leads m (last, p') l') :
    ∃ calls, l' = l ++ calls ∧ ∀ other seat₁, b.seats.get? other = some seat₁ →
      (Call.closed seat₁.link.id ∈ calls ↔ other = id ∧ p'.refs id = 0) := by
  obtain ⟨calls, rfl, hcalls⟩ := settles.own
  -- up to the release the seat only asks, which closes nothing
  have hopen : ∀ link, Call.closed link ∉ calls := by
    intro link hmem
    obtain ⟨-, r, answer, heq⟩ := hcalls _ hmem
    cases heq
  rcases SharedSeats.release_leads h with
    ⟨hnone, -⟩ | ⟨shared, hshared, ⟨hmore, rfl, rfl⟩ | ⟨hlast, rfl, rfl⟩⟩
  · simp [SharedSeats.get?, hnone] at hseat'
  · refine ⟨calls, rfl, fun other seat₁ _ => iff_of_false (hopen _) ?_⟩
    rw [SharedSeats.refs_drop, if_pos rfl]
    omega
  · obtain rfl : shared.seat = seat' := by simpa [SharedSeats.get?, hshared] using hseat'
    refine ⟨calls ++ [.closed shared.seat.link.id], List.append_assoc .., fun other seat₁ h₁ => ?_⟩
    rw [SharedSeats.refs_close, if_pos rfl, settles.link]
    simp only [List.mem_append, hopen, List.mem_singleton, Call.closed.injEq, false_or, and_true]
    constructor
    -- no two seats have the same link
    · exact fun hlink => numbered.own other id seat₁ seat h₁ hseat hlink
    · rintro rfl
      rw [Option.some.inj (h₁.symm.trans hseat)]

theorem detach_detaches (run : RecordedRun S { config } [] steps b l)
    (h : (b.detach S.recorded c).Leads l b' l') : Detaches c b l b' l' := by
  have balanced := run.reachable.balanced
  have owned := run.reachable.owned
  have distinct := run.reachable.distinct
  cases hc : b.seatOf c with
  | none =>
    obtain ⟨rfl, rfl⟩ := detach_of_none hc h
    exact .of_none balanced owned hc
  | some id =>
    obtain ⟨seat, hseat⟩ := Option.isSome_iff_exists.mp (balanced.isSome_of_seatOf hc)
    obtain ⟨moves, hnone⟩ := detach_moves h.yields
    have balanced' := moves.balanced balanced
    have owned' := moves.owned owned
    obtain ⟨b₁, seat₁, seat', last, m, m', hstop, hseats, queues, hflush, hrelease, hb'⟩ :=
      detach_of_seatOf hc hseat h
    have hclients : b'.clients = b.clients.insert c none :=
      (congrArg Broker.clients hb').trans (clients_stopWindows hstop.yields)
    have hwindows : b'.windows = b₁.windows := by rw [hb']
    have hhandles : b'.handles = b₁.handles := by rw [hb']
    have hseat₁ := (hseats id).trans (if_pos rfl)
    have hrefs := refs_of_detached balanced balanced' hclients
    constructor
    case clients =>
      intro other
      rw [hclients, Assoc.get?_insert, seatOf_eq_some.mp hc]
      simp [eq_comm]
    case windows =>
      intro other window
      rw [hwindows]
      exact windows_leave owned distinct hc hstop.yields
    case handles =>
      intro other handle
      refine handles_detached owned' hnone fun o hne => ?_
      rw [hhandles, handles_leave distinct hstop.yields hne]
    case tables =>
      intro other old new hold hnew window
      rcases get?_of_detach hseats hrelease hnew with ⟨rfl, rfl⟩ | ⟨hne, hsame⟩
      · obtain rfl : seat = old := Option.some.inj (hseat.symm.trans hold)
        obtain ⟨seat₂, hseat₂, hlookup⟩ := tables_leave distinct hseat
          (run.reachable.tables id seat hseat).distinct hstop.yields
        obtain rfl : seat₁ = seat₂ := Option.some.inj (hseat₁.symm.trans hseat₂)
        -- the flush leaves the table as the stopped windows left it
        rw [(Seat.flushIfPending_undisturbed hflush.yields).windows, hlookup]
      · obtain rfl : new = old := Option.some.inj (hsame.symm.trans hold)
        -- at another seat the client has no windows
        refine (if_neg fun howner => hne ?_).symm
        exact Option.some.inj (hc.symm.trans (owned.of_ownerOf howner))
    case refs => exact hrefs
    case present =>
      intro other
      rw [balanced'.seats.present, balanced'.seats.refs]
    case closed =>
      obtain ⟨calls, hl', hclosed⟩ := closed_of_release run.numbered hseat
        ((get?_set_of_some hseat₁ seat' id).trans (if_pos rfl)) (queues.settles hflush) hrelease
      refine ⟨calls, hl', fun other old hold => (hclosed other old hold).trans ?_⟩
      have hpresent := (balanced.seats.present other).mp (by simp [hold])
      have hother := hrefs other
      -- another seat that is there keeps all it was had by, so it cannot come down to none
      rw [balanced.seats.refs] at hother
      by_cases heq : other = id
      · simp [heq]
      · have hne : b.seatOf c ≠ some other := by simpa [hc] using Ne.symm heq
        rw [if_neg hne] at hother
        simp only [heq, false_and, false_iff]
        omega

end Broker

end InputBridge
