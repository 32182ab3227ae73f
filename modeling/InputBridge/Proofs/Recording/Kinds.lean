-- SUMMARY: Computations that make requests of certain kinds only.
import InputBridge.Proofs.Recording

/-!
# Kinds of requests

Which kinds of requests a computation makes, whatever they are answered with. A computation in
steps makes those of its steps.
-/

namespace InputBridge

/-- A request of such a kind is made. -/
def Call.OfKind (P : Request → Prop) (call : Call) : Prop :=
  ∃ link r answer, call = .asked link r answer ∧ P r

theorem Call.OfKind.mono {P Q : Request → Prop} {call : Call} (h : call.OfKind P)
    (himp : ∀ r, P r → Q r) : call.OfKind Q := by
  obtain ⟨link, r, answer, rfl, hr⟩ := h
  exact ⟨link, r, answer, rfl, himp r hr⟩

theorem Adds.weaken {P Q : Request → Prop} {l l' : List Call} (h : Adds (Call.OfKind P) l l')
    (himp : ∀ r, P r → Q r) : Adds (Call.OfKind Q) l l' :=
  h.mono fun _ hcall => hcall.mono himp

namespace Talk

variable {σ α β ε : Type} {S : DisplayServer σ} {P : Request → Prop} {link : Link} {r : Request}

/-- Only requests of such a kind are made. -/
def AsksOnly (P : Request → Prop) (x : Talk (Recorded σ) α) : Prop :=
  ∀ l a l', x.Leads l a l' → Adds (Call.OfKind P) l l'

namespace AsksOnly

theorem pure (a : α) : AsksOnly P (pure a : Talk (Recorded σ) α) := by
  intro l b l' h
  obtain ⟨-, rfl⟩ := h.of_pure
  exact .refl l'

theorem ask (hr : P r) : AsksOnly P (S.recorded.ask link r) := by
  intro l answer l' h
  obtain rfl := h.of_ask
  exact .single l ⟨link.id, r, answer, rfl, hr⟩

theorem bind {x : Talk (Recorded σ) α} {f : α → Talk (Recorded σ) β} (hx : AsksOnly P x)
    (hf : ∀ a, AsksOnly P (f a)) : AsksOnly P (x >>= f) := by
  intro l b l' h
  obtain ⟨a, m, hx', hf'⟩ := h.of_bind
  exact (hx l a m hx').trans (hf a m b l' hf')

theorem map {x : Talk (Recorded σ) α} {f : α → β} (hx : AsksOnly P x) : AsksOnly P (f <$> x) := by
  intro l b l' h
  obtain ⟨a, hx', -⟩ := h.of_map
  exact hx l a l' hx'

theorem get : AsksOnly P (get : Talk (Recorded σ) (World (Recorded σ))) := by
  intro l w l' h
  obtain rfl := h.of_get
  exact .refl _

theorem modify {f : World (Recorded σ) → World (Recorded σ)} (hf : ∀ w, (f w).server = w.server) :
    AsksOnly P (modify f : Talk (Recorded σ) PUnit) := by
  intro l u l' h
  obtain rfl := h.of_modify hf
  exact .refl _

/-! ### With errors -/

theorem demand (hr : P r) : AsksOnly P (S.recorded.demand link r).run :=
  bind (ask hr) fun _ => .pure _

theorem bind_run {x : ExceptT ε (Talk (Recorded σ)) α} {f : α → ExceptT ε (Talk (Recorded σ)) β}
    (hx : AsksOnly P x.run) (hf : ∀ a, AsksOnly P (f a).run) : AsksOnly P (x >>= f).run := by
  rw [ExceptT.run_bind]
  refine hx.bind fun result => ?_
  cases result with
  | ok a => exact hf a
  | error e => exact .pure _

end AsksOnly

end Talk

end InputBridge
