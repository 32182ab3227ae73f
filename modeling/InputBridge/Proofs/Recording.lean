-- SUMMARY: Display servers with a record of their calls, and what recorded computations come to.
import InputBridge.Proofs.Talk

/-!
# Recorded conversations

Any display server can be had with somebody who writes down all that is asked of it, and who
numbers the links in the order in which they are opened. The bridge cannot tell, so what is
shown of the records holds of all that the bridge ever asks.
-/

namespace InputBridge

/-! ## Calls -/

/-- A call of a display server. Links go by their numbers in the order of their opening. -/
inductive Call where
  /-- A link is opened, which the server itself gives the number `own`. -/
  | opened (display : String) (own : Nat)
  | asked (link : Nat) (r : Request) (answer : Except Refusal r.Answer)
  | closed (link : Nat)

/-- The links that have been opened, by the server's own numbers. -/
def openedLinks (calls : List Call) : List Nat :=
  calls.filterMap fun
    | .opened _ own => some own
    | _ => none

/-- A display server's state, with the calls so far. -/
structure Recorded (σ : Type) where
  server : σ
  calls : List Call := []

/-- The display server with a record of its calls. -/
def DisplayServer.recorded {σ : Type} (S : DisplayServer σ) : DisplayServer (Recorded σ) where
  openLink display s :=
    match S.openLink display s.server with
    | (.error reason, server) => (.error reason, { s with server })
    | (.ok link, server) => (.ok { link with id := (openedLinks s.calls).length },
        { server, calls := s.calls ++ [.opened display link.id] })
  answer link r s :=
    let (answer, server) := S.answer ((openedLinks s.calls).getD link link) r s.server
    (answer, { server, calls := s.calls ++ [.asked link r answer] })
  closeLink link s :=
    { server := S.closeLink ((openedLinks s.calls).getD link link) s.server
      calls := s.calls ++ [.closed link] }

theorem openedLinks_append (calls more : List Call) :
    openedLinks (calls ++ more) = openedLinks calls ++ openedLinks more :=
  List.filterMap_append

/-! ## What is said of calls -/

/-- Whether the request waits with the display server until a flush. -/
def Request.isQueued : Request → Bool
  | .selectInput .. | .warp .. | .createBarrier _ | .deleteBarrier _ => true
  | _ => false

/-- A request is made on the link. -/
def Call.On (link : Nat) (call : Call) : Prop := ∃ r answer, call = .asked link r answer

/-- A request other than a flush is made on the link. -/
def Call.Asks (link : Nat) (call : Call) : Prop :=
  ∃ r answer, call = .asked link r answer ∧ r ≠ .flush

/-- Whether the call is a request that was granted and waits for a flush. -/
def Call.waits : Call → Bool
  | .asked _ r (.ok _) => r.isQueued
  | _ => false

/-- Only such calls are added. -/
def Adds (P : Call → Prop) (l l' : List Call) : Prop :=
  ∃ calls, l' = l ++ calls ∧ ∀ call ∈ calls, P call

/-- Nothing is asked on the link. -/
def Silent (link : Nat) (calls : List Call) : Prop := ∀ call ∈ calls, ¬call.On link

/-- Each request that was granted and waits for a flush is followed by one on its link. -/
def Flushed (calls : List Call) : Prop :=
  ∀ before link r answer after, calls = before ++ .asked link r (.ok answer) :: after →
    r.isQueued = true → ∃ flushed, Call.asked link .flush flushed ∈ after

namespace Adds

variable {P Q : Call → Prop} {l l' l'' : List Call} {call : Call}

theorem refl (l : List Call) : Adds P l l := ⟨[], (List.append_nil l).symm, List.forall_mem_nil _⟩

theorem single (l : List Call) (h : P call) : Adds P l (l ++ [call]) :=
  ⟨[call], rfl, List.forall_mem_singleton.mpr h⟩

theorem trans (h : Adds P l l') (h' : Adds P l' l'') : Adds P l l'' := by
  obtain ⟨calls, rfl, hcalls⟩ := h
  obtain ⟨more, rfl, hmore⟩ := h'
  exact ⟨calls ++ more, List.append_assoc .., List.forall_mem_append.mpr ⟨hcalls, hmore⟩⟩

theorem mono (h : Adds P l l') (himp : ∀ call, P call → Q call) : Adds Q l l' := by
  obtain ⟨calls, rfl, hcalls⟩ := h
  exact ⟨calls, rfl, fun call hcall => himp call (hcalls call hcall)⟩

/-- Where no link is opened the number of links stays. -/
theorem openedLinks (h : Adds P l l') (hP : ∀ display own, ¬P (.opened display own)) :
    openedLinks l' = openedLinks l := by
  obtain ⟨calls, rfl, hcalls⟩ := h
  have hnone : InputBridge.openedLinks calls = [] := by
    refine List.filterMap_eq_nil_iff.mpr fun call hcall => ?_
    cases call with
    | opened display own => exact absurd (hcalls _ hcall) (hP display own)
    | asked | closed => rfl
  rw [openedLinks_append, hnone, List.append_nil]

end Adds

theorem Silent.append {link : Nat} {calls more : List Call} (h : Silent link calls)
    (h' : Silent link more) : Silent link (calls ++ more) :=
  List.forall_mem_append.mpr ⟨h, h'⟩

/-- A place in two lists together is a place in one of them. -/
theorem append_eq_append_cons {α : Type} {l l' before after : List α} {x : α}
    (h : l ++ l' = before ++ x :: after) :
    (∃ middle, l = before ++ x :: middle ∧ after = middle ++ l') ∨
      ∃ middle, l' = middle ++ x :: after ∧ before = l ++ middle := by
  rcases List.append_eq_append_iff.mp h with ⟨middle, rfl, hl'⟩ | ⟨middle, rfl, hafter⟩
  · exact .inr ⟨middle, hl', rfl⟩
  -- the element begins the second list if nothing of the first is left
  · cases middle with
    | nil =>
      refine .inr ⟨[], ?_, ?_⟩ <;> simp_all
    | cons y middle =>
      cases hafter
      exact .inl ⟨middle, rfl, rfl⟩

theorem Flushed.append {calls more : List Call} (h : Flushed calls) (h' : Flushed more) :
    Flushed (calls ++ more) := by
  intro before link r answer after heq hr
  rcases append_eq_append_cons heq with ⟨middle, hcalls, rfl⟩ | ⟨middle, hmore, -⟩
  · obtain ⟨flushed, hflushed⟩ := h before link r answer middle hcalls hr
    exact ⟨flushed, List.mem_append_left _ hflushed⟩
  · exact h' middle link r answer after hmore hr

/-- A flush that is refused is the last thing that is asked on its link. -/
def Heeded (calls : List Call) : Prop :=
  ∀ before link e after, calls = before ++ .asked link .flush (.error e) :: after →
    Silent link after

/-- Among other requests there is no flush. -/
theorem flush_not_mem {calls : List Call} {link : Nat} (h : ∀ call ∈ calls, call.Asks link)
    (other : Nat) (e : Refusal) : Call.asked other .flush (.error e) ∉ calls := by
  intro hcall
  obtain ⟨r, answer, heq, hr⟩ := h _ hcall
  cases heq
  exact hr rfl

/-- No flush is refused. -/
theorem Heeded.of_none {calls : List Call}
    (h : ∀ link e, Call.asked link .flush (.error e) ∉ calls) : Heeded calls := by
  rintro before link e after rfl
  exact absurd (List.mem_append_right _ List.mem_cons_self) (h link e)

theorem Heeded.append {calls more : List Call} (h : Heeded calls) (h' : Heeded more)
    (hcross : ∀ link e, Call.asked link .flush (.error e) ∈ calls → Silent link more) :
    Heeded (calls ++ more) := by
  intro before link e after heq
  rcases append_eq_append_cons heq with ⟨middle, rfl, rfl⟩ | ⟨middle, hmore, -⟩
  · exact (h before link e middle rfl).append
      (hcross link e (List.mem_append_right _ List.mem_cons_self))
  · exact h' middle link e after hmore

theorem Heeded.single (call : Call) : Heeded [call] := by
  intro before link e after heq
  rcases List.cons_eq_append_iff.mp heq with ⟨-, hone⟩ | ⟨rest, -, hnone⟩
  · cases hone
    exact List.forall_mem_nil _
  · simp at hnone

/-- Where nothing waits for a flush there need not be one. -/
theorem Flushed.of_none {calls : List Call} (h : ∀ link r answer,
    Call.asked link r (.ok answer) ∈ calls → r.isQueued = false) : Flushed calls := by
  rintro before link r answer after rfl hr
  rw [h link r answer (List.mem_append_right _ List.mem_cons_self)] at hr
  cases hr

/-- Requests on one link need one flush after all of them. -/
theorem Flushed.of_last {calls : List Call} {link : Nat} {flushed : Except Refusal Unit}
    (h : ∀ other r answer, Call.asked other r (.ok answer) ∈ calls → r.isQueued = true →
      other = link) : Flushed (calls ++ [.asked link .flush flushed]) := by
  intro before other r answer after heq hr
  rcases append_eq_append_cons heq with ⟨middle, rfl, rfl⟩ | ⟨middle, hlast, -⟩
  · obtain rfl := h other r answer (List.mem_append_right _ List.mem_cons_self) hr
    exact ⟨flushed, List.mem_append_right _ List.mem_cons_self⟩
  · rcases List.cons_eq_append_iff.mp hlast with ⟨-, hone⟩ | ⟨rest, -, hnone⟩
    · cases hone
      cases hr
    · simp at hnone

/-! ## What a recorded conversation comes to -/

namespace Talk

variable {σ α β : Type} {S : DisplayServer σ} {l l' : List Call}

/-- In some state of the display server, after the calls `l`, the computation ends with `a`
and the calls are `l'`. -/
def Leads (x : Talk (Recorded σ) α) (l : List Call) (a : α) (l' : List Call) : Prop :=
  ∃ w, w.server.calls = l ∧ (x w).1 = a ∧ (x w).2.server.calls = l'

namespace Leads

theorem yields {x : Talk (Recorded σ) α} {a : α} (h : x.Leads l a l') : x.Yields a := by
  obtain ⟨w, -, h, -⟩ := h
  exact ⟨w, h⟩

theorem of_pure {a b : α} (h : Leads (pure a : Talk (Recorded σ) α) l b l') : b = a ∧ l' = l := by
  obtain ⟨w, hl, h, hl'⟩ := h
  exact ⟨h.symm, hl'.symm.trans hl⟩

theorem of_bind {x : Talk (Recorded σ) α} {f : α → Talk (Recorded σ) β} {b : β}
    (h : Leads (x >>= f) l b l') : ∃ a m, x.Leads l a m ∧ (f a).Leads m b l' := by
  obtain ⟨w, hl, h, hl'⟩ := h
  exact ⟨(x w).1, (x w).2.server.calls, ⟨w, hl, rfl, rfl⟩, (x w).2, rfl, h, hl'⟩

theorem of_map {x : Talk (Recorded σ) α} {f : α → β} {b : β} (h : Leads (f <$> x) l b l') :
    ∃ a, x.Leads l a l' ∧ b = f a := by
  obtain ⟨w, hl, h, hl'⟩ := h
  exact ⟨(x w).1, ⟨w, hl, rfl, hl'⟩, h.symm⟩

/-- After an error the rest is not run. -/
theorem of_bind_run {ε : Type} {x : ExceptT ε (Talk (Recorded σ)) α}
    {f : α → ExceptT ε (Talk (Recorded σ)) β} {r : Except ε β}
    (h : Leads (x >>= f).run l r l') :
    (∃ e, r = .error e ∧ Leads x.run l (.error e) l') ∨
      ∃ a m, Leads x.run l (.ok a) m ∧ Leads (f a).run m r l' := by
  rw [ExceptT.run_bind] at h
  obtain ⟨r', m, hx, h⟩ := h.of_bind
  cases r' with
  | error e =>
    obtain ⟨rfl, rfl⟩ := of_pure h
    exact .inl ⟨e, rfl, hx⟩
  | ok a => exact .inr ⟨a, m, hx, h⟩

theorem of_get {w : World (Recorded σ)} (h : Leads get l w l') : l' = l := by
  obtain ⟨w', hl, -, hl'⟩ := h
  exact hl'.symm.trans hl

theorem of_modify {f : World (Recorded σ) → World (Recorded σ)} {u : PUnit}
    (hf : ∀ w, (f w).server = w.server) (h : Leads (modify f) l u l') : l' = l := by
  obtain ⟨w, hl, -, hl'⟩ := h
  rw [← hl', ← hl, ← hf w]
  rfl

theorem of_ask {link : Link} {r : Request} {answer : Except Refusal r.Answer}
    (h : Leads (S.recorded.ask link r) l answer l') : l' = l ++ [.asked link.id r answer] := by
  obtain ⟨w, rfl, rfl, rfl⟩ := h
  rfl

theorem of_demand {link : Link} {r : Request} {result : Except SeatError r.Answer}
    (h : Leads (S.recorded.demand link r).run l result l') :
    ∃ answer, result = answer.mapError .refused ∧ l' = l ++ [.asked link.id r answer] := by
  obtain ⟨answer, m, hask, h⟩ := of_bind h
  obtain ⟨rfl, rfl⟩ := h.of_pure
  exact ⟨answer, rfl, hask.of_ask⟩

theorem of_connect {display : String} {result : Except String Link}
    (h : Leads (S.recorded.connect display) l result l') :
    (∃ reason, result = .error reason ∧ l' = l) ∨
      ∃ link own, result = .ok link ∧ link.id = (openedLinks l).length ∧
        l' = l ++ [.opened display own] := by
  obtain ⟨w, rfl, rfl, rfl⟩ := h
  unfold DisplayServer.connect DisplayServer.recorded
  dsimp only
  split
  · exact .inl ⟨_, rfl, rfl⟩
  · exact .inr ⟨_, _, rfl, rfl, rfl⟩

theorem of_disconnect {link : Link} {u : Unit} (h : Leads (S.recorded.disconnect link) l u l') :
    l' = l ++ [.closed link.id] := by
  obtain ⟨w, rfl, -, rfl⟩ := h
  rfl

end Leads

end Talk

namespace Checked

variable {σ α β : Type} {l l' : List Call}

/-- In some state of the display server, after the calls `l`, the computation gets to its end,
with `a`, and the calls are `l'`. -/
def Leads (x : Checked (Recorded σ) α) (l : List Call) (a : α) (l' : List Call) : Prop :=
  Talk.Leads x.run l (.ok a) l'

namespace Leads

theorem yields {x : Checked (Recorded σ) α} {a : α} (h : x.Leads l a l') : x.Yields a :=
  Talk.Leads.yields h

theorem of_pure {a b : α} (h : Leads (pure a : Checked (Recorded σ) α) l b l') :
    b = a ∧ l' = l := by
  obtain ⟨heq, hl⟩ := Talk.Leads.of_pure h
  exact ⟨Except.ok.inj heq, hl⟩

theorem of_bind {x : Checked (Recorded σ) α} {f : α → Checked (Recorded σ) β} {b : β}
    (h : Leads (x >>= f) l b l') : ∃ a m, x.Leads l a m ∧ (f a).Leads m b l' := by
  rcases Talk.Leads.of_bind_run h with ⟨e, heq, -⟩ | ⟨a, m, hx, h⟩
  · cases heq
  · exact ⟨a, m, hx, h⟩

theorem of_talk {x : Talk (Recorded σ) α} {a : α}
    (h : Leads (liftM x : Checked (Recorded σ) α) l a l') : x.Leads l a l' := by
  obtain ⟨a', hx, heq⟩ := Talk.Leads.of_map (f := Except.ok) h
  cases heq
  exact hx

theorem of_except {x : Except Overflow α} {a : α}
    (h : Leads (liftM x : Checked (Recorded σ) α) l a l') : x = .ok a ∧ l' = l := by
  obtain ⟨heq, hl⟩ := Talk.Leads.of_pure h
  exact ⟨heq.symm, hl⟩

end Leads

end Checked

end InputBridge
