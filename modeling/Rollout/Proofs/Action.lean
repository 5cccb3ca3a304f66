import Rollout.Session

/-!
# Running actions

An action ends with a result or a fault, and leaves a session in either case. What it leaves is
followed through a relation that each of its steps keeps to (`Action.Keeps`).
-/

namespace Rollout.Action

variable {α β : Type} {x : Action α} {f : α → Action β} {s s' : Session}

/-- The session that an action leaves, whether it ends with a result or a fault. -/
def after (x : Action α) (s : Session) : Session :=
  match x s with
  | .ok _ s' => s'
  | .error _ s' => s'

theorem after_of_ok {a : α} (h : x s = .ok a s') : x.after s = s' := by
  rw [after, h]

theorem after_of_error {fault : Fault} (h : x s = .error fault s') : x.after s = s' := by
  rw [after, h]

/-- The result or the fault with which an action ends. -/
def result (x : Action α) (s : Session) : Except Fault α :=
  match x s with
  | .ok a _ => .ok a
  | .error fault _ => .error fault

theorem result_of_ok {a : α} (h : x s = .ok a s') : x.result s = .ok a := by
  rw [result, h]

theorem result_of_error {fault : Fault} (h : x s = .error fault s') : x.result s = .error fault := by
  rw [result, h]

/-! ## Sequencing -/

/-- A sequence ends with a result exactly if both of its parts do. -/
theorem bind_eq_ok {b : β} :
    (x >>= f) s = .ok b s' ↔ ∃ a mid, x s = .ok a mid ∧ f a mid = .ok b s' := by
  show EStateM.bind x f s = _ ↔ _
  unfold EStateM.bind
  cases x s with
  | ok a mid =>
    constructor
    · intro h
      exact ⟨a, mid, rfl, h⟩
    · rintro ⟨_, _, ⟨⟩, h⟩
      exact h
  | error fault mid => simp

theorem bind_of_ok {a : α} {mid : Session} (h : x s = .ok a mid) : (x >>= f) s = f a mid := by
  show EStateM.bind x f s = _
  rw [EStateM.bind, h]

theorem bind_of_error {fault : Fault} (h : x s = .error fault s') :
    (x >>= f) s = .error fault s' := by
  show EStateM.bind x f s = _
  rw [EStateM.bind, h]

theorem bind_eq_bind {y : Action α} {t : Session} (h : x s = y t) : (x >>= f) s = (y >>= f) t := by
  cases hy : y t with
  | ok a mid => rw [bind_of_ok (h.trans hy), bind_of_ok hy]
  | error fault mid => rw [bind_of_error (h.trans hy), bind_of_error hy]

/-- Where the second part of a sequence leaves every session as it is, the sequence leaves the session
that the first part does. -/
theorem bind_after (h : ∀ a mid, (f a).after mid = mid) (s : Session) :
    (x >>= f).after s = x.after s := by
  cases hx : x s with
  | ok a mid =>
    have hbind : (x >>= f).after s = (f a).after mid := by
      rw [after, bind_of_ok hx]
      rfl
    rw [hbind, h, after_of_ok hx]
  | error fault mid => rw [after_of_error hx, after_of_error (bind_of_error hx)]

theorem bind_pure_after (x : Action α) (g : α → β) (s : Session) :
    (x >>= fun a => pure (g a)).after s = x.after s :=
  bind_after (fun _ _ => rfl) s

theorem ofExcept_eq_ok {r : Except Fault α} {a : α} :
    ofExcept r s = .ok a s' ↔ r = .ok a ∧ s = s' := by
  cases r with
  | error fault =>
    show EStateM.Result.error fault s = _ ↔ _
    simp
  | ok value =>
    show EStateM.Result.ok value s = _ ↔ _
    simp

theorem ofExcept_eq_error {r : Except Fault α} {fault : Fault} :
    ofExcept r s = .error fault s' ↔ r = .error fault ∧ s = s' := by
  cases r with
  | error other =>
    show EStateM.Result.error other s = _ ↔ _
    simp
  | ok value =>
    show EStateM.Result.ok value s = _ ↔ _
    simp

theorem ofExcept_after (r : Except Fault α) (s : Session) : (ofExcept r).after s = s := by
  cases r <;> rfl

theorem ofExcept_bind_after (r : Except Fault α) :
    (ofExcept r >>= f).after s = match r with
      | .ok a => (f a).after s
      | .error _ => s := by
  cases r <;> rfl

/-! ## Handling faults -/

theorem tryCatch_of_ok {handle : Fault → Action α} {a : α} (h : x s = .ok a s') :
    (tryCatchThe Fault x handle) s = .ok a s' := by
  show EStateM.tryCatch x handle s = _
  delta EStateM.tryCatch
  simp only [h]

theorem tryCatch_of_error {handle : Fault → Action α} {fault : Fault} (h : x s = .error fault s') :
    (tryCatchThe Fault x handle) s = handle fault s' := by
  show EStateM.tryCatch x handle s = _
  delta EStateM.tryCatch
  simp only [h]
  rfl

/-! ## Relations that actions keep to -/

/-- Relations between sessions that can be followed from step to step. -/
class Follows (R : Session → Session → Prop) : Prop where
  refl (s : Session) : R s s
  trans {s mid s' : Session} : R s mid → R mid s' → R s s'

/-- However an action ends, it leaves a session related to the one in which it began. -/
def Keeps (R : Session → Session → Prop) (x : Action α) : Prop := ∀ s, R s (x.after s)

/-- A part of the session stays as it is. -/
def Unchanged {γ : Type} (part : Session → γ) (s s' : Session) : Prop := part s' = part s

instance {γ : Type} (part : Session → γ) : Follows (Unchanged part) where
  refl _ := rfl
  trans h h' := Eq.trans h' h

variable {R : Session → Session → Prop}

theorem Keeps.mono {R' : Session → Session → Prop} (hx : Keeps R x)
    (h : ∀ {s s'}, R s s' → R' s s') : Keeps R' x := fun s => h (hx s)

/-- A sequence keeps to a relation where its parts do: the second one only in the session, and with
the result, that the first one leaves. -/
theorem after_bind [Follows R] (hx : R s (x.after s))
    (hf : ∀ a mid, x s = .ok a mid → R mid ((f a).after mid)) : R s ((x >>= f).after s) := by
  cases h : x s with
  | ok a mid =>
    have e : (x >>= f).after s = (f a).after mid := by rw [after, bind_of_ok h]; rfl
    rw [after_of_ok h] at hx
    exact e ▸ Follows.trans hx (hf a mid h)
  | error fault mid =>
    rw [after_of_error h] at hx
    exact (after_of_error (bind_of_error (f := f) h)).symm ▸ hx

theorem Keeps.bind [Follows R] (hx : Keeps R x) (hf : ∀ a, Keeps R (f a)) : Keeps R (x >>= f) :=
  fun s => after_bind (hx s) fun a mid _ => hf a mid

theorem keeps_pure [Follows R] (a : α) : Keeps R (pure a : Action α) := fun s => Follows.refl s

theorem keeps_throw [Follows R] (fault : Fault) : Keeps R (throw fault : Action α) :=
  fun s => Follows.refl s

theorem keeps_get [Follows R] : Keeps R (get : Action Session) := fun s => Follows.refl s

theorem keeps_ofExcept [Follows R] (r : Except Fault α) : Keeps R (ofExcept r) := by
  intro s
  rw [ofExcept_after]
  exact Follows.refl s

theorem keeps_modify {g : Session → Session} (h : ∀ s, R s (g s)) : Keeps R (modify g) := h

theorem Keeps.tryCatch [Follows R] (hx : Keeps R x) {handle : Fault → Action α}
    (hh : ∀ fault, Keeps R (handle fault)) : Keeps R (tryCatch x handle) := by
  intro s
  cases h : x s with
  | ok a mid =>
    have hcatch : (tryCatchThe Fault x handle).after s = mid := after_of_ok (tryCatch_of_ok h)
    exact hcatch ▸ after_of_ok h ▸ hx s
  | error fault mid =>
    have hcatch : (tryCatchThe Fault x handle).after s = (handle fault).after mid := by
      rw [after, tryCatch_of_error h]
      rfl
    exact hcatch ▸ Follows.trans (after_of_error h ▸ hx s) (hh fault mid)

theorem keeps_ite [Follows R] {c : Prop} [Decidable c] {x y : Action α} (hx : Keeps R x)
    (hy : Keeps R y) : Keeps R (if c then x else y) := by
  split
  · exact hx
  · exact hy

theorem keeps_forIn [Follows R] {γ : Type} (items : List γ) {body : γ → β → Action (ForInStep β)}
    (h : ∀ item b, Keeps R (body item b)) (b : β) : Keeps R (forIn items b body) := by
  induction items generalizing b with
  | nil => exact keeps_pure b
  | cons item rest ih =>
    rw [List.forIn_cons]
    refine (h item b).bind fun next => ?_
    cases next with
    | done b => exact keeps_pure b
    | yield b => exact ih b

/-! ## Accessing the node -/

/-- The session in which the node is accessed. -/
def accessing (contract : Option Contract) (step : Chain.Step) (event : Event) (s : Session) :
    Session :=
  { s with deeds := s.deeds ++ [.access contract event], node := s.node.accessed step }

section access

variable {contract : Option Contract} {step : Chain.Step} {event : Event}

@[simp]
theorem accessing_deeds :
    (accessing contract step event s).deeds = s.deeds ++ [.access contract event] := rfl

@[simp]
theorem accessing_node : (accessing contract step event s).node = s.node.accessed step := rfl

theorem access_of_none (h : s.node.outage? step = none) :
    access contract step event s = .ok () (accessing contract step event s) := by
  refine (bind_of_ok rfl).trans ((bind_of_ok rfl).trans ((bind_of_ok rfl).trans ?_))
  simp only [h]
  rfl

theorem access_of_some {fault : Fault} (h : s.node.outage? step = some fault) :
    access contract step event s = .error fault (accessing contract step event s) := by
  refine (bind_of_ok rfl).trans ((bind_of_ok rfl).trans ((bind_of_ok rfl).trans ?_))
  simp only [h]
  rfl

/-- An access is kept as a deed, and the node counts it; nothing else changes. -/
theorem access_after (contract : Option Contract) (step : Chain.Step) (event : Event)
    (s : Session) : (access contract step event).after s = accessing contract step event s := by
  cases h : s.node.outage? step with
  | none => exact after_of_ok (access_of_none h)
  | some fault => exact after_of_error (access_of_some h)

theorem access_eq_ok : access contract step event s = .ok () s' ↔
    s.node.outage? step = none ∧ s' = accessing contract step event s := by
  cases h : s.node.outage? step with
  | none => rw [access_of_none h]; simp [eq_comm]
  | some fault => rw [access_of_some h]; simp

end access

/-! ## Reading artifacts -/

theorem artifact_of_get {contract : Contract} {artifact : Artifact} {store : ArtifactStore}
    (h : s.artifacts.get s.files contract = .ok (artifact, store)) :
    Action.artifact contract s = .ok artifact { s with artifacts := store } := by
  refine (bind_of_ok rfl).trans ((bind_of_ok (ofExcept_eq_ok.2 ⟨h, rfl⟩)).trans ?_)
  rfl

theorem artifact_of_error {contract : Contract} {fault : Fault}
    (h : s.artifacts.get s.files contract = .error fault) :
    Action.artifact contract s = .error fault s := by
  refine (bind_of_ok rfl).trans (bind_of_error ?_)
  rw [h]
  rfl

/-! ## Asking for the genesis state -/

/-- The session in which the web is asked for the genesis state. -/
def asking (s : Session) : Session :=
  { s with
    notices := s.notices
      ++ ("Fetching light client genesis from " ++ s.genesis.endpoint ++ "..." ++ "\n")
    deeds := s.deeds ++ [.access none (.request s.genesis.endpoint s.genesis.timeout)]
    web.requests := s.web.requests + 1 }

/-- A genesis state that is known is not asked for. -/
theorem genesis_of_some {known : Genesis} (h : s.genesis.fetched = some known) :
    Action.genesis s = .ok known s := by
  refine (bind_of_ok rfl).trans ?_
  rw [h]
  rfl

/-- The web is asked for a genesis state that is not known, and a state that it answers is kept. -/
theorem genesis_of_none (h : s.genesis.fetched = none) : Action.genesis s =
    match s.genesis.read s.web.answer with
    | .ok fetched => .ok fetched { asking s with genesis.fetched := some fetched }
    | .error fault => .error fault (asking s) := by
  refine (bind_of_ok rfl).trans ?_
  rw [h]
  refine (bind_of_ok rfl).trans ((bind_of_ok rfl).trans ?_)
  cases s.genesis.read s.web.answer with
  | ok fetched => rfl
  | error fault => rfl

theorem genesis_result_of_none (h : s.genesis.fetched = none) :
    Action.genesis.result s = s.genesis.read s.web.answer := by
  rw [result, genesis_of_none h]
  cases s.genesis.read s.web.answer <;> rfl

end Rollout.Action
