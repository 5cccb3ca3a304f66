import Rollout.Proofs.Action

/-!
# What actions uphold

An invariant and a kind of faults are followed through an action: where the invariant holds, the action
ends with a result and leaves the invariant, or it ends with a fault of the kind (`Action.Upholds`).
-/

namespace Rollout.Action

variable {α β : Type} {I : Session → Prop} {R : Fault → Prop} {P : α → Prop} {Q : β → Prop}
  {x : Action α} {f : α → Action β}

/-- Where an invariant holds, an action ends with a result of a kind and leaves the invariant, or it
ends with a fault of a kind. -/
def Upholds (I : Session → Prop) (R : Fault → Prop) (P : α → Prop) (x : Action α) : Prop :=
  ∀ s, I s →
    (∃ a s', x s = .ok a s' ∧ P a ∧ I s') ∨ ∃ fault s', x s = .error fault s' ∧ R fault

theorem Upholds.bind (hx : Upholds I R P x) (hf : ∀ a, P a → Upholds I R Q (f a)) :
    Upholds I R Q (x >>= f) := by
  intro s hI
  rcases hx s hI with ⟨a, mid, hok, ha, hmid⟩ | ⟨fault, s', herror, hfault⟩
  · rcases hf a ha mid hmid with ⟨b, s', hok', hb, hs'⟩ | ⟨fault, s', herror, hfault⟩
    · exact Or.inl ⟨b, s', (bind_of_ok hok).trans hok', hb, hs'⟩
    · exact Or.inr ⟨fault, s', (bind_of_ok hok).trans herror, hfault⟩
  · exact Or.inr ⟨fault, s', bind_of_error herror, hfault⟩

theorem upholds_pure {a : α} (h : P a) : Upholds I R P (pure a : Action α) :=
  fun s hI => Or.inl ⟨a, s, rfl, h, hI⟩

theorem upholds_throw {fault : Fault} (h : R fault) : Upholds I R P (throw fault : Action α) :=
  fun s _ => Or.inr ⟨fault, s, rfl, h⟩

theorem upholds_ofExcept {r : Except Fault α} (hok : ∀ a, r = .ok a → P a)
    (herror : ∀ fault, r = .error fault → R fault) : Upholds I R P (ofExcept r) := by
  cases r with
  | ok a => exact upholds_pure (hok a rfl)
  | error fault => exact upholds_throw (herror fault rfl)

theorem upholds_modify {g : Session → Session} (h : ∀ s, I s → I (g s)) :
    Upholds I R (fun _ => True) (modify g) := fun s hI => Or.inl ⟨(), g s, rfl, trivial, h s hI⟩

/-- What an action looks at is looked at where the invariant holds. -/
theorem upholds_get {f : Session → Action β} (h : ∀ s, I s → Upholds I R Q (f s)) :
    Upholds I R Q (get >>= f) := fun s hI => h s hI s hI

theorem Upholds.mono {R' : Fault → Prop} (h : Upholds I R P x) (hR : ∀ fault, R fault → R' fault) :
    Upholds I R' P x := by
  intro s hI
  refine (h s hI).imp_right ?_
  rintro ⟨fault, s', herror, hfault⟩
  exact ⟨fault, s', herror, hR fault hfault⟩

theorem upholds_mapM {items : List α} {act : α → Action β}
    (h : ∀ item ∈ items, Upholds I R (fun _ => True) (act item)) :
    Upholds I R (fun _ => True) (items.mapM act) := by
  induction items with
  | nil => exact upholds_pure trivial
  | cons item rest ih =>
    obtain ⟨hitem, hrest⟩ := List.forall_mem_cons.1 h
    rw [List.mapM_cons]
    exact hitem.bind fun _ _ => (ih hrest).bind fun _ _ => upholds_pure trivial

theorem upholds_forIn {items : List α} {act : α → Action PUnit}
    (h : ∀ item ∈ items, Upholds I R (fun _ => True) (act item)) :
    Upholds I R (fun _ => True)
      (forIn items PUnit.unit fun item _ => do act item; pure (.yield PUnit.unit)) := by
  induction items with
  | nil => exact upholds_pure trivial
  | cons item rest ih =>
    obtain ⟨hitem, hrest⟩ := List.forall_mem_cons.1 h
    rw [List.forIn_cons]
    have hstep : Upholds I R (fun step => step = ForInStep.yield PUnit.unit)
        (do act item; pure (.yield PUnit.unit) : Action (ForInStep PUnit)) :=
      hitem.bind fun _ _ => upholds_pure rfl
    refine hstep.bind fun step hyield => ?_
    subst hyield
    exact ih hrest

end Rollout.Action
