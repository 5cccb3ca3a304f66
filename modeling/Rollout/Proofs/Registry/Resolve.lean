import Rollout.Proofs.Action
import Rollout.Proofs.Address
import Rollout.Registry.Resolve

/-!
# What resolving does

Resolving a contract that has an address answers with it. Resolving one that has none runs the
procedure, and then records the address that it answers with (`Registry.settle`); here each way to
end is one lemma.
-/

namespace Rollout.Registry

variable {registry next : Registry} {contract other : Contract} {address : Address} {value : Value}
  {s s' mid : Session} {procedure : Action Value}

/-- The contracts that have an address, in order. -/
def contracts (registry : Registry) : List Contract := registry.addresses.map (·.1)

/-! ## Looking up and inserting -/

theorem get?_eq_none_iff : registry.get? contract = none ↔ contract ∉ registry.contracts := by
  rw [get?, List.lookup_eq_none_iff, contracts]
  constructor
  · intro h hmem
    obtain ⟨p, hp, rfl⟩ := List.mem_map.1 hmem
    have hp' := h p hp
    simp at hp'
  · intro h p hp
    have hne : contract ≠ p.1 := fun e => h (e ▸ List.mem_map_of_mem hp)
    simp [hne]

theorem get?_of_mem_contracts (h : contract ∈ registry.contracts) :
    ∃ address, registry.get? contract = some address := by
  cases hget : registry.get? contract with
  | none => exact absurd h (get?_eq_none_iff.1 hget)
  | some address => exact ⟨address, rfl⟩

theorem contains_iff : registry.contains contract = true ↔ contract ∈ registry.contracts := by
  rw [contains, Option.isSome_iff_ne_none, Ne, get?_eq_none_iff, Decidable.not_not]

theorem mem_addresses_of_get? (h : registry.get? contract = some address) :
    (contract, address) ∈ registry.addresses := by
  obtain ⟨before, after, e, -⟩ := List.lookup_eq_some_iff.1 h
  rw [e]
  simp

theorem mem_contracts_of_get? (h : registry.get? contract = some address) :
    contract ∈ registry.contracts :=
  List.mem_map_of_mem (f := (·.1)) (mem_addresses_of_get? h)

/-- Inserting an address either puts it at the end, or finds it in place. -/
theorem insert?_cases (h : registry.insert? contract address = some next) :
    (registry.get? contract = none ∧
      next = { registry with addresses := registry.addresses ++ [(contract, address)] }) ∨
    (registry.get? contract = some address ∧ next = registry) := by
  unfold insert? at h
  split at h
  · next absent => exact Or.inl ⟨absent, (Option.some.inj h).symm⟩
  · next recorded present =>
    split at h
    · next same => exact Or.inr ⟨same ▸ present, (Option.some.inj h).symm⟩
    · exact absurd h (by simp)

theorem insert?_of_none (h : registry.get? contract = none) :
    registry.insert? contract address =
      some { registry with addresses := registry.addresses ++ [(contract, address)] } := by
  rw [insert?, h]

theorem mem_contracts_of_insert? (h : registry.insert? contract address = some next) :
    other ∈ next.contracts ↔ other ∈ registry.contracts ∨ other = contract := by
  rcases insert?_cases h with ⟨-, rfl⟩ | ⟨present, rfl⟩
  · simp [contracts]
  · constructor
    · exact Or.inl
    · rintro (hmem | rfl)
      · exact hmem
      · exact mem_contracts_of_get? present

/-- An address is recorded if the value stands for it and it can be inserted. -/
theorem record_eq_ok : registry.record contract value = .ok (address, next) ↔
    Address.read value = .ok address ∧ registry.insert? contract address = some next := by
  rw [record]
  cases hread : Address.read value with
  | error fault =>
    show Except.error fault = _ ↔ _
    simp
  | ok a =>
    simp only [bind, Except.bind]
    cases hinsert : registry.insert? contract a with
    | none => simp; rintro rfl; simp [hinsert]
    | some r =>
      constructor
      · intro h
        obtain ⟨rfl, rfl⟩ := Prod.mk.inj (Except.ok.inj h)
        exact ⟨rfl, hinsert⟩
      · rintro ⟨h, h'⟩
        obtain rfl := Except.ok.inj h
        rw [hinsert] at h'
        rw [Option.some.inj h']
        rfl

/-! ## Recording in a session -/

theorem recordValue_of_ok (h : s.registry.record contract value = .ok (address, next)) :
    recordValue contract value s =
      .ok address { s with registry := next, deeds := s.deeds ++ [.recorded contract address] } := by
  show (Action.ofExcept (s.registry.record contract value) >>= _) s = _
  rw [h]
  rfl

theorem recordValue_of_error {fault : Fault}
    (h : s.registry.record contract value = .error fault) :
    recordValue contract value s = .error fault s := by
  show (Action.ofExcept (s.registry.record contract value) >>= _) s = _
  rw [h]
  rfl

/-- Recording an address keeps to what an address that is recorded does. -/
theorem recordValue_keeps {R : Session → Session → Prop} [Action.Follows R]
    (h : ∀ (s : Session) address next, s.registry.record contract value = .ok (address, next) →
      R s { s with registry := next, deeds := s.deeds ++ [.recorded contract address] }) :
    Action.Keeps R (recordValue contract value) := by
  intro s
  cases hrecord : s.registry.record contract value with
  | error fault =>
    rw [Action.after_of_error (recordValue_of_error hrecord)]
    exact Action.Follows.refl s
  | ok recorded =>
    obtain ⟨address, next⟩ := recorded
    rw [Action.after_of_ok (recordValue_of_ok hrecord)]
    exact h s address next hrecord

/-! ## Resolving -/

/-- The session in which a contract is found at its address. -/
def finding (contract : Contract) (address : Address) (s : Session) : Session :=
  { s with
    notices := s.notices ++ ("Skipping deployment of " ++ contract.name ++ ", already deployed at "
      ++ address.text ++ "\n")
    deeds := s.deeds ++ [.found contract address] }

/-- The session in which the procedure of a contract is called. -/
def opening (contract : Contract) (s : Session) : Session :=
  { s with
    notices := s.notices ++ ("\nDeploying " ++ contract.name ++ "..." ++ "\n")
    deeds := s.deeds ++ [.called contract] }

/-- What remains to be done when the procedure of a contract has answered. -/
def settle (contract : Contract) (value : Value) : Action Address := do
  Action.log (.answered contract value)
  let address ← recordValue contract value
  Action.notice ("(i) Deployed " ++ contract.name ++ " at " ++ address.text)
  return address

theorem resolve_of_some (h : s.registry.get? contract = some address) :
    resolve contract procedure s = .ok address (finding contract address s) := by
  refine (Action.bind_of_ok rfl).trans ?_
  rw [h]
  rfl

theorem resolve_of_none (h : s.registry.get? contract = none) :
    resolve contract procedure s = (procedure >>= settle contract) (opening contract s) := by
  refine (Action.bind_of_ok rfl).trans ?_
  rw [h]
  rfl

theorem settle_of_ok
    (h : s.registry.record contract value = .ok (address, next)) :
    settle contract value s = .ok address { s with
      registry := next
      notices := s.notices ++ ("(i) Deployed " ++ contract.name ++ " at " ++ address.text ++ "\n")
      deeds := s.deeds ++ [.answered contract value, .recorded contract address] } := by
  have hrecord := recordValue_of_ok (s := { s with deeds := s.deeds ++ [.answered contract value] }) h
  show (recordValue contract value >>= _) _ = _
  rw [Action.bind_of_ok hrecord, List.append_assoc]
  rfl

theorem settle_of_error {fault : Fault} (h : s.registry.record contract value = .error fault) :
    settle contract value s =
      .error fault { s with deeds := s.deeds ++ [.answered contract value] } := by
  have hrecord :=
    recordValue_of_error (s := { s with deeds := s.deeds ++ [.answered contract value] }) h
  show (recordValue contract value >>= _) _ = _
  exact Action.bind_of_error hrecord

/-! ## Publishing -/

/-- Only the files, the output and the notices change. -/
def OnlyPublishes (s s' : Session) : Prop :=
  s' = { s with files := s'.files, output := s'.output, notices := s'.notices }

instance : Action.Follows OnlyPublishes where
  refl s := rfl
  trans {s mid s'} h h' := by
    rw [OnlyPublishes] at h h' ⊢
    rw [h', h]

theorem OnlyPublishes.registry_eq (h : OnlyPublishes s s') : s'.registry = s.registry := by
  rw [OnlyPublishes] at h
  rw [h]

theorem OnlyPublishes.deeds_eq (h : OnlyPublishes s s') : s'.deeds = s.deeds := by
  rw [OnlyPublishes] at h
  rw [h]

theorem OnlyPublishes.node_eq (h : OnlyPublishes s s') : s'.node = s.node := by
  rw [OnlyPublishes] at h
  rw [h]

theorem OnlyPublishes.web_eq (h : OnlyPublishes s s') : s'.web = s.web := by
  rw [OnlyPublishes] at h
  rw [h]

theorem writeFile_keeps (path : File.Path) (content : String) :
    Action.Keeps OnlyPublishes (writeFile path content) := by
  intro s
  refine Action.after_bind (Action.Follows.refl s) fun _ _ hget => ?_
  cases hget
  refine Action.after_bind ?_ fun _ mid _ => ?_
  · exact rfl
  refine (Action.keeps_ofExcept _).bind (fun _ => (Action.keeps_ofExcept _).bind fun _ => ?_) mid
  exact Action.keeps_modify fun _ => rfl

theorem publish_keeps (entries : List RegistryEntry) (path : Option File.Path) :
    Action.Keeps OnlyPublishes (publish entries path) := by
  cases path with
  | none => exact Action.keeps_modify fun _ => rfl
  | some path =>
    refine Action.Keeps.bind (Action.Keeps.tryCatch (writeFile_keeps path _) fun fault => ?_)
      fun _ => Action.keeps_modify fun _ => rfl
    cases fault <;> exact Action.keeps_throw _

theorem load_after (path : String) (s : Session) : (load path).after s = s := by
  show (Action.ofExcept (s.files.readText path) >>= _ : Action _).after s = s
  rw [Action.ofExcept_bind_after]
  split
  · exact Action.ofExcept_after _ s
  · rfl

end Rollout.Registry
