-- SUMMARY: The barriers that stand on a link, told by the record of its calls.
import InputBridge.Proofs.Recording.Kinds

/-!
# The barriers of a link

Which barriers were created on a link, and which of them were asked to be deleted, can be told
from the record. Barriers stand in a queue: whoever has them creates the next one at the end and
deletes the first, and so never deletes one that is not there.
-/

namespace InputBridge

/-! ## What the record says -/

/-- The barriers that were created on a link, in order. -/
def createdBarriers (link : Nat) (calls : List Call) : List UInt32 :=
  calls.filterMap fun
    | .asked l (.createBarrier _) (.ok id) => if l = link then some id else none
    | _ => none

/-- The barriers that were asked to be deleted on a link, granted or not, in order. -/
def deletedBarriers (link : Nat) (calls : List Call) : List UInt32 :=
  calls.filterMap fun
    | .asked l (.deleteBarrier id) _ => if l = link then some id else none
    | _ => none

/-- Whether the request is about a barrier. -/
def Request.isBarrier : Request → Bool
  | .createBarrier _ | .deleteBarrier _ => true
  | _ => false

variable {link : Nat} {calls before after : List Call} {call : Call} {held : List UInt32}
  {b : Barrier} {id : UInt32} {refusal : Refusal} {answer : Except Refusal Unit}

theorem createdBarriers_append (calls more : List Call) :
    createdBarriers link (calls ++ more) =
      createdBarriers link calls ++ createdBarriers link more := List.filterMap_append

theorem deletedBarriers_append (calls more : List Call) :
    deletedBarriers link (calls ++ more) =
      deletedBarriers link calls ++ deletedBarriers link more := List.filterMap_append

theorem createdBarriers_created :
    createdBarriers link [.asked link (.createBarrier b) (.ok id)] = [id] := by
  simp [createdBarriers]

theorem deletedBarriers_created {answer : Except Refusal UInt32} :
    deletedBarriers link [.asked link (.createBarrier b) answer] = [] := rfl

theorem createdBarriers_refused :
    createdBarriers link [.asked link (.createBarrier b) (.error refusal)] = [] := rfl

theorem createdBarriers_deleted :
    createdBarriers link [.asked link (.deleteBarrier id) answer] = [] := rfl

theorem deletedBarriers_deleted :
    deletedBarriers link [.asked link (.deleteBarrier id) answer] = [id] := by
  simp [deletedBarriers]

/-- A request of another kind is nothing to barriers. -/
theorem barriers_of_ofKind (link : Nat) (h : call.OfKind (·.isBarrier = false)) :
    createdBarriers link [call] = [] ∧ deletedBarriers link [call] = [] := by
  obtain ⟨l, r, answer, rfl, hr⟩ := h
  cases r with
  | createBarrier | deleteBarrier => cases hr
  | barrierSupport | pointer | keyboard | keyboardReport | rules | keymap | startEvents | flush |
    selectInput | warp => exact ⟨rfl, rfl⟩

/-! ## Standing barriers -/

/-- After the calls just these barriers stand on the link, the oldest first. Barriers have always
been deleted in the order of their creation. -/
structure Standing (link : Nat) (calls : List Call) (held : List UInt32) : Prop where
  balance : createdBarriers link calls = deletedBarriers link calls ++ held
  always : ∀ before, before <+: calls → deletedBarriers link before <+: createdBarriers link before

namespace Standing

/-- Where nothing was asked about barriers there are none. -/
theorem of_nil (hcreated : createdBarriers link calls = [])
    (hdeleted : deletedBarriers link calls = []) : Standing link calls [] := by
  refine ⟨by rw [hcreated, hdeleted, List.append_nil], ?_⟩
  rintro before ⟨after, rfl⟩
  rw [deletedBarriers_append, List.append_eq_nil_iff] at hdeleted
  rw [hdeleted.1]
  exact List.nil_prefix

theorem snoc {held' : List UInt32} (h : Standing link calls held)
    (hbalance : createdBarriers link calls ++ createdBarriers link [call] =
      deletedBarriers link calls ++ deletedBarriers link [call] ++ held') :
    Standing link (calls ++ [call]) held' := by
  rw [← createdBarriers_append, ← deletedBarriers_append] at hbalance
  refine ⟨hbalance, fun before hbefore => ?_⟩
  rcases List.prefix_concat_iff.mp hbefore with rfl | hbefore
  · exact ⟨held', hbalance.symm⟩
  · exact h.always before hbefore

theorem created (h : Standing link calls held) :
    Standing link (calls ++ [.asked link (.createBarrier b) (.ok id)]) (held ++ [id]) :=
  h.snoc (by rw [createdBarriers_created, deletedBarriers_created, h.balance, List.append_nil,
    List.append_assoc])

theorem refused (h : Standing link calls held) :
    Standing link (calls ++ [.asked link (.createBarrier b) (.error refusal)]) held :=
  h.snoc (by rw [createdBarriers_refused, deletedBarriers_created, h.balance, List.append_nil,
    List.append_nil])

theorem deleted (h : Standing link calls (id :: held)) :
    Standing link (calls ++ [.asked link (.deleteBarrier id) answer]) held :=
  h.snoc (by rw [createdBarriers_deleted, deletedBarriers_deleted, h.balance, List.append_nil,
    List.append_assoc, List.singleton_append])

theorem other (h : Standing link calls held) {calls' : List Call}
    (hadds : Adds (Call.OfKind (·.isBarrier = false)) calls calls') :
    Standing link calls' held := by
  obtain ⟨more, rfl, hmore⟩ := hadds
  induction more generalizing calls with
  | nil => rwa [List.append_nil]
  | cons call more ih =>
    obtain ⟨hcall, hmore⟩ := List.forall_mem_cons.mp hmore
    obtain ⟨hcreated, hdeleted⟩ := barriers_of_ofKind link hcall
    have hstep : Standing link (calls ++ [call]) held :=
      h.snoc (by rw [hcreated, hdeleted, List.append_nil, List.append_nil, h.balance])
    rw [List.append_cons]
    exact ih hstep hmore

/-! ## If every barrier has a name of its own -/

/-- Those that stand are those that were created and not deleted. -/
theorem mem_iff (h : Standing link calls held) (fresh : (createdBarriers link calls).Nodup) :
    id ∈ createdBarriers link calls ∧ id ∉ deletedBarriers link calls ↔ id ∈ held := by
  rw [h.balance] at fresh ⊢
  obtain ⟨-, -, disjoint⟩ := List.nodup_append.mp fresh
  constructor
  · rintro ⟨hcreated, hdeleted⟩
    exact (List.mem_append.mp hcreated).resolve_left hdeleted
  · intro hheld
    exact ⟨List.mem_append_right _ hheld, fun hdeleted => disjoint id hdeleted id hheld rfl⟩

theorem nodup (h : Standing link calls held) (fresh : (createdBarriers link calls).Nodup) :
    held.Nodup := by
  rw [h.balance] at fresh
  exact (List.nodup_append.mp fresh).2.1

/-- A barrier that is deleted was created and not deleted before. -/
theorem deleted_once (h : Standing link calls held) (fresh : (createdBarriers link calls).Nodup)
    (hcalls : calls = before ++ .asked link (.deleteBarrier id) answer :: after) :
    id ∈ createdBarriers link before ∧ id ∉ deletedBarriers link before := by
  rw [List.append_cons] at hcalls
  subst hcalls
  have hearlier := h.always _ (List.prefix_append _ after)
  rw [deletedBarriers_append, createdBarriers_append, deletedBarriers_deleted,
    createdBarriers_deleted, List.append_nil] at hearlier
  -- the created ones begin with all that were deleted by then
  have hnodup : (deletedBarriers link before ++ [id]).Nodup := by
    rw [createdBarriers_append, createdBarriers_append, createdBarriers_deleted,
      List.append_nil] at fresh
    exact (List.nodup_append.mp fresh).1.sublist hearlier.sublist
  obtain ⟨-, -, disjoint⟩ := List.nodup_append.mp hnodup
  exact ⟨hearlier.subset (List.mem_append_right _ List.mem_cons_self),
    fun hdeleted => disjoint id hdeleted id List.mem_cons_self rfl⟩

end Standing

end InputBridge
