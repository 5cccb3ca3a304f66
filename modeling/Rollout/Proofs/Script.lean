import Rollout.Proofs.Registry.Log

/-!
# Scripts

What an action does is known in outline before it is run: which accesses it makes for which
contracts, and which contracts it records, in which order. Such an outline is a script. An action
that ends with a result has followed its script to the end; a fault cuts it short
(`Action.Scripted`). What is recorded on the way is in the registry in either case.
-/

namespace Rollout

/-- What a deed is, apart from its data. -/
inductive Outline where
  /-- A request to the web. -/
  | request
  /-- An access to the node at a step, for a contract if one is concerned. -/
  | access (contract : Option Contract) (step : Chain.Step)
  /-- The address of a contract is recorded. -/
  | recorded (contract : Contract)
deriving DecidableEq

/-- The outline of an event. -/
def Event.outline (contract : Option Contract) : Event → Outline
  | request _ _ => .request
  | constructor _ => .access contract .constructor
  | nonce _ => .access contract .nonce
  | chainId => .access contract .chainId
  | build _ _ _ _ => .access contract .build
  | send _ => .access contract .send
  | receipt _ _ => .access contract .receipt
  | code _ => .access contract .code

/-- The outline of a deed, unless it only tells how a resolution goes. -/
def Deed.outline? : Deed → Option Outline
  | access contract event => some (event.outline contract)
  | recorded contract _ => some (.recorded contract)
  | _ => none

/-- The entry that a deed records. -/
def Deed.entry? : Deed → Option (Contract × Address)
  | recorded contract address => some (contract, address)
  | _ => none

/-- Deeds in outline. -/
def outlines (deeds : List Deed) : List Outline := deeds.filterMap Deed.outline?

/-- The entries that deeds record. -/
def entriesOf (deeds : List Deed) : List (Contract × Address) := deeds.filterMap Deed.entry?

@[simp]
theorem outlines_append (a b : List Deed) : outlines (a ++ b) = outlines a ++ outlines b :=
  List.filterMap_append

@[simp]
theorem entriesOf_append (a b : List Deed) : entriesOf (a ++ b) = entriesOf a ++ entriesOf b :=
  List.filterMap_append

namespace Action

variable {α β : Type} {x : Action α} {f : α → Action β} {s s' : Session}
  {script p q : List Outline}

/-- An action adds deeds that follow a script: the whole of it if the action ends with a result, a
first part of it if a fault ends the action. The registry holds what the deeds record. -/
structure Adds (x : Action α) (s : Session) (script : List Outline) (added : List Deed) :
    Prop where
  deeds : (x.after s).deeds = s.deeds ++ added
  begins : outlines added <+: script
  completes : ∀ a s', x s = .ok a s' → outlines added = script
  registry : s.registry.Appends (entriesOf added) (x.after s).registry

/-- An action follows a script. -/
def Scripted (x : Action α) (s : Session) (script : List Outline) : Prop :=
  ∃ added, Adds x s script added

/-- An action that leaves the deeds and the registry as they are follows the empty script. -/
theorem scripted_nil (hdeeds : (x.after s).deeds = s.deeds)
    (hregistry : (x.after s).registry = s.registry) : Scripted x s [] := by
  refine ⟨[], by simp [hdeeds], List.prefix_rfl, fun _ _ _ => rfl, ?_⟩
  rw [hregistry]
  exact .nil s.registry

/-- In a sequence one script is followed after the other. -/
theorem Scripted.bind (hx : Scripted x s p)
    (hf : ∀ a mid, x s = .ok a mid → Scripted (f a) mid q) : Scripted (x >>= f) s (p ++ q) := by
  obtain ⟨first, hfirst⟩ := hx
  cases h : x s with
  | error fault mid =>
    have hmid := after_of_error h
    have hbind := after_of_error (bind_of_error (f := f) h)
    refine ⟨first, ?_, hfirst.begins.trans (List.prefix_append p q), ?_, ?_⟩
    · rw [hbind, ← hmid, hfirst.deeds]
    · intro b s' hok
      rw [bind_of_error h] at hok
      cases hok
    · rw [hbind, ← hmid]
      exact hfirst.registry
  | ok a mid =>
    have hmid := after_of_ok h
    have hbind : (x >>= f).after s = (f a).after mid := by
      rw [after, bind_of_ok h]
      rfl
    have hp := hfirst.completes a mid h
    have hdeeds := hfirst.deeds
    have hregistry := hfirst.registry
    rw [hmid] at hdeeds hregistry
    obtain ⟨second, hsecond⟩ := hf a mid h
    refine ⟨first ++ second, ?_, ?_, ?_, ?_⟩
    · rw [hbind, hsecond.deeds, hdeeds, List.append_assoc]
    · rw [outlines_append, hp]
      exact (List.prefix_append_right_inj p).2 hsecond.begins
    · intro b s' hok
      rw [bind_of_ok h] at hok
      rw [outlines_append, hp, hsecond.completes b s' hok]
    · rw [hbind, entriesOf_append]
      exact hregistry.trans hsecond.registry

theorem Scripted.bind_nil (hx : Scripted x s p) (hf : ∀ a mid, Scripted (f a) mid []) :
    Scripted (x >>= f) s p := by
  have h := hx.bind fun a mid _ => hf a mid
  rwa [List.append_nil] at h

theorem Scripted.nil_bind (hx : Scripted x s [])
    (hf : ∀ a mid, x s = .ok a mid → Scripted (f a) mid q) : Scripted (x >>= f) s q :=
  hx.bind hf

theorem scripted_pure (a : α) (s : Session) : Scripted (pure a : Action α) s [] :=
  scripted_nil rfl rfl

theorem scripted_ofExcept (r : Except Fault α) (s : Session) : Scripted (ofExcept r) s [] :=
  scripted_nil (by rw [ofExcept_after]) (by rw [ofExcept_after])

theorem Scripted.congr {y : Action α} (hx : Scripted x s script) (hafter : y.after s = x.after s)
    (hok : ∀ a s', y s = .ok a s' → x s = .ok a s') : Scripted y s script := by
  obtain ⟨added, h⟩ := hx
  exact ⟨added, hafter ▸ h.deeds, h.begins, fun a s' hy => h.completes a s' (hok a s' hy),
    hafter ▸ h.registry⟩

/-- Handling a fault without ending with a result adds nothing to a script. -/
theorem Scripted.tryCatch {handle : Fault → Action α} (hx : Scripted x s script)
    (hh : ∀ fault mid, ∃ stop at', handle fault mid = .error stop at' ∧ at'.deeds = mid.deeds ∧
      at'.registry = mid.registry) : Scripted (tryCatch x handle) s script := by
  obtain ⟨added, h⟩ := hx
  have hdeeds := h.deeds
  have hregistry := h.registry
  cases hok : x s with
  | ok a s' =>
    have hcatch : (tryCatchThe Fault x handle) s = .ok a s' := tryCatch_of_ok hok
    rw [after_of_ok hok] at hdeeds hregistry
    exact ⟨added, (after_of_ok hcatch).symm ▸ hdeeds, h.begins, fun _ _ _ => h.completes a s' hok,
      (after_of_ok hcatch).symm ▸ hregistry⟩
  | error fault mid =>
    obtain ⟨stop, at', hhandle, hsame, hsame'⟩ := hh fault mid
    have hcatch : (tryCatchThe Fault x handle) s = .error stop at' :=
      (tryCatch_of_error hok).trans hhandle
    rw [after_of_error hok] at hdeeds hregistry
    have hafter := after_of_error hcatch
    refine ⟨added, ?_, h.begins, fun a s' hok' => ?_, ?_⟩
    · exact hafter.symm ▸ hsame.trans hdeeds
    · have e := hcatch.symm.trans hok'
      cases e
    · exact hafter.symm ▸ hsame'.symm ▸ hregistry

/-- A deed that only tells how far an action has come does not count. -/
theorem scripted_log {deed : Deed} (houtline : deed.outline? = none) (hentry : deed.entry? = none)
    (s : Session) : Scripted (log deed) s [] := by
  have houtlines : outlines [deed] = [] := by simp [outlines, houtline]
  have hentries : entriesOf [deed] = [] := by simp [entriesOf, hentry]
  refine ⟨[deed], rfl, houtlines ▸ List.prefix_rfl, fun _ _ _ => houtlines, ?_⟩
  rw [hentries]
  exact .nil s.registry

/-- Whatever is done stands in the script. -/
theorem Scripted.mem {added : List Deed} {deed : Deed} {outline : Outline} (h : Scripted x s script)
    (hdeeds : (x.after s).deeds = s.deeds ++ added) (hdeed : deed ∈ added)
    (houtline : deed.outline? = some outline) : outline ∈ script := by
  obtain ⟨added', hadds⟩ := h
  obtain rfl := List.append_cancel_left (hdeeds.symm.trans hadds.deeds)
  exact hadds.begins.subset (List.mem_filterMap.2 ⟨deed, hdeed, houtline⟩)

theorem scripted_get {f : Session → Action β} (h : Scripted (f s) s script) :
    Scripted (get >>= f) s script :=
  h.congr rfl fun _ _ => id

theorem scripted_access (contract : Option Contract) (step : Chain.Step) (event : Event)
    (s : Session) : Scripted (access contract step event) s [event.outline contract] := by
  refine ⟨[.access contract event], ?_, List.prefix_rfl, fun _ _ _ => rfl, ?_⟩
  · rw [access_after, accessing_deeds]
  · rw [access_after]
    exact .nil s.registry

end Action

end Rollout
