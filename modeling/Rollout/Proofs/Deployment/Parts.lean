import Rollout.Proofs.Deployment.Steps

/-!
# Properties that pass from parts to the whole

A property of actions that a sequence has where its parts have it (`Action.Composes`) is had by every
resolution, and by all that a deployment does before the registry is published, as soon as it is had
by each thing that is done there (`Deployment.HeldByParts`). The second part of a sequence is looked
at only in the session, and with the result, that the first part leaves.
-/

namespace Rollout

open Rollout.Action

variable {α β : Type} {s : Session}

namespace Action

/-- A property of an action in the session where it begins. -/
abbrev Property := ∀ ⦃α : Type⦄, Action α → Session → Prop

/-- A property passes from the parts of a sequence to the whole. -/
structure Composes (P : Property) : Prop where
  /-- What is known already. -/
  ofExcept : ∀ {α : Type} (r : Except Fault α) (s : Session), P (ofExcept r) s
  /-- Two actions, one after the other. -/
  bind : ∀ {α β : Type} {x : Action α} {f : α → Action β} {s : Session}, P x s →
    (∀ a mid, x s = .ok a mid → P (f a) mid) → P (x >>= f) s
  /-- Another action that does the same. -/
  congr : ∀ {α : Type} {x y : Action α} {s : Session}, P x s → y s = x s → P y s

namespace Composes

variable {P : Property}

theorem pure (h : Composes P) (a : α) (s : Session) : P (pure a : Action α) s := h.ofExcept (.ok a) s

theorem get (h : Composes P) {f : Session → Action α} (hf : P (f s) s) : P (get >>= f) s :=
  h.congr hf rfl

theorem map (h : Composes P) {x : Action α} (hx : P x s) (g : α → β) :
    P (x >>= fun a => Pure.pure (g a)) s :=
  h.bind hx fun a mid _ => h.pure (g a) mid

theorem mapM (h : Composes P) {items : List α} {act : α → Action β}
    (hact : ∀ item ∈ items, ∀ s, P (act item) s) (s : Session) : P (items.mapM act) s := by
  induction items generalizing s with
  | nil => exact h.pure [] s
  | cons item rest ih =>
    rw [List.mapM_cons]
    refine h.bind (hact item List.mem_cons_self s) fun first mid _ => ?_
    refine h.bind (ih (fun other hother => hact other (List.mem_cons_of_mem _ hother)) mid) ?_
    exact fun others mid _ => h.pure _ mid

theorem forIn (h : Composes P) (items : List α) {act : α → Action PUnit}
    (hact : ∀ item s, P (act item) s) (s : Session) :
    P (forIn items PUnit.unit fun item _ => do act item; Pure.pure (.yield PUnit.unit)) s := by
  induction items generalizing s with
  | nil => exact h.pure _ s
  | cons item rest ih =>
    rw [List.forIn_cons]
    refine h.bind (h.map (hact item s) _) fun step mid hstep => ?_
    obtain ⟨_, _, -, hpure⟩ := bind_eq_ok.1 hstep
    cases hpure
    exact ih mid

end Composes

end Action

namespace Deployment

open Resolution

/-- A property is had by each thing that a deployment does before the registry is published. -/
structure HeldByParts (P : Property) : Prop extends Composes P where
  /-- Telling of what is done. -/
  notices : ∀ (text : String) (s : Session), P (notice text) s
  /-- Creating a contract. -/
  creates : ∀ (contract : Contract) (interface : Value) (bytecode : Octets)
    (arguments : List Value) (s : Session), P (Client.deploy contract interface bytecode arguments) s
  /-- Reading the artifact of a contract. -/
  reads : ∀ (contract : Contract) (s : Session), P (Action.artifact contract) s
  /-- Getting the genesis state. -/
  fetches : ∀ s : Session, P Action.genesis s
  /-- Asking for the code at an address. -/
  inquires : ∀ (address : String) (s : Session), P (Client.queryCode address) s
  /-- Entering a stage. -/
  enters : ∀ (stage : Stage) (s : Session), P (enter stage) s
  /-- Finding the address of a contract. -/
  finds : ∀ {contract address s}, s.registry.get? contract = some address → P (resolve contract) s
  /-- Calling the procedure of a contract. -/
  opens : ∀ (contract : Contract) (s : Session), P (modify (Registry.opening contract)) s
  /-- Recording what the procedure of a contract answers. -/
  settles : ∀ (contract : Contract) (value : Value) (s : Session),
    P (Registry.settle contract value) s

namespace HeldByParts

variable {P : Property}

theorem deployArtifact (h : HeldByParts P) (contract : Contract) (arguments : List Value)
    (s : Session) : P (Client.deployArtifact contract arguments) s :=
  h.bind (h.reads contract s) fun artifact mid _ => h.bind (h.ofExcept _ mid) fun code mid _ =>
    h.creates contract artifact.interface code arguments mid

theorem procedure (h : HeldByParts P) (contract : Contract)
    (dependencies : List (Contract × Address)) (s : Session) :
    P (Resolution.deploy contract dependencies) s := by
  cases contract with
  | lightClient =>
    refine h.bind (h.reads .lightClient s) fun artifact mid _ => ?_
    exact h.bind (h.ofExcept _ mid) fun code mid _ => h.creates .lightClient (.list []) code [] mid
  | lightClientProxy =>
    cases dependencies with
    | nil => exact h.deployArtifact .lightClientProxy [] s
    | cons entry rest =>
      refine h.bind (h.reads .lightClient s) fun artifact mid _ => ?_
      refine h.bind (h.fetches mid) fun genesis mid _ => ?_
      refine h.bind (h.ofExcept _ mid) fun call mid _ => ?_
      exact h.bind (h.notices _ mid) fun _ mid _ => h.deployArtifact .lightClientProxy _ mid
  | hotShot => exact h.deployArtifact .hotShot [] s
  | plonkVerifier => exact h.deployArtifact .plonkVerifier [] s
  | lightClientStateUpdateVK => exact h.deployArtifact .lightClientStateUpdateVK [] s

/-- Every resolution has a property that the things done there have. -/
theorem resolve (h : HeldByParts P) (contract : Contract) (s : Session) :
    P (Resolution.resolve contract) s := by
  cases hget : s.registry.get? contract with
  | some address => exact h.finds hget
  | none =>
    have hrun : Resolution.resolve contract s = (modify (Registry.opening contract) >>= fun _ =>
        Resolution.procedure contract >>= Registry.settle contract) s := by
      rw [resolve_eq, Registry.resolve_of_none hget]
      rfl
    refine h.congr (h.bind (h.opens contract s) fun _ mid _ => ?_) hrun
    refine h.bind ?_ fun value mid _ => h.settles contract value mid
    refine h.bind (h.mapM (fun dependency _ s => ?_) mid) fun dependencies mid _ => ?_
    · exact h.map (HeldByParts.resolve h dependency.1 s) _
    · exact h.map (h.procedure contract dependencies mid) _
termination_by contract.height
decreasing_by exact Contract.height_lt_of_mem_dependencies dependency.2

theorem checkCode (h : HeldByParts P) (contract : Contract) (s : Session) :
    P (Deployment.checkCode contract) s := by
  refine h.get (h.bind (h.notices _ s) fun _ mid _ => h.bind (h.inquires _ mid) fun code mid _ => ?_)
  split
  · exact h.ofExcept (.error _) mid
  · exact h.pure _ mid

theorem supply (h : HeldByParts P) (deployment : Deployment) (s : Session) :
    P deployment.supply s := by
  rw [Deployment.supply]
  split
  · exact h.get (h.map (h.forIn _ h.checkCode s) _)
  · exact h.pure () s

/-- All that a deployment does before the registry is published has a property that the things done
there have. -/
theorem prepare (h : HeldByParts P) (deployment : Deployment) (s : Session) :
    P deployment.prepare s := by
  refine h.bind (h.supply deployment s) fun _ mid _ => ?_
  refine h.bind (h.resolve .hotShot mid) fun _ mid _ => h.bind (h.enters _ mid) fun _ mid _ => ?_
  exact h.bind (h.resolve .lightClientProxy mid) fun _ mid _ => h.enters _ mid

end HeldByParts

end Deployment

end Rollout
