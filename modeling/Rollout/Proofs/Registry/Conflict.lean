import Rollout.Proofs.Address.Spelling
import Rollout.Proofs.Registry.Resolve

/-!
# Conflicts between addresses

Whether a second address of a contract is the first one again is decided by the address, however it is
spelled (`record_decided`). The texts that are told apart when addresses are shown are different just if
the addresses are.
-/

namespace Rollout.Registry

open Address (Denotes IsWritten)

variable {registry : Registry} {contract : Contract} {value : Value} {recorded address : Address}
  {result : EStateM.Result Fault Session Address}

/-! ## In a registry -/

theorem record_of_same (hget : registry.get? contract = some address)
    (hread : Address.read value = .ok address) :
    registry.record contract value = .ok (address, registry) :=
  record_eq_ok.2 ⟨hread, insert?_eq_self hget⟩

theorem record_of_absent (hget : registry.get? contract = none)
    (hread : Address.read value = .ok address) : registry.record contract value =
      .ok (address, { registry with addresses := registry.addresses ++ [(contract, address)] }) :=
  record_eq_ok.2 ⟨hread, insert?_of_none hget⟩

theorem record_of_other (hget : registry.get? contract = some recorded)
    (hread : Address.read value = .ok address) (hne : address ≠ recorded) :
    registry.record contract value =
      .error (.deployment (.conflict recorded.text address.text) (some contract)) := by
  have hinsert : registry.insert? contract address = none := by
    unfold insert?
    rw [hget]
    exact if_neg (Ne.symm hne)
  unfold record
  rw [hread]
  simp only [bind, Except.bind, hinsert, hget]
  rfl

theorem record_of_error {fault : Fault} (hread : Address.read value = .error fault) :
    registry.record contract value = .error fault := by
  unfold record
  rw [hread]
  rfl

/-! ## In a session -/

/-- What comes of recording a value, by the address that the value denotes. -/
structure Decided (contract : Contract) (value : Value) (registry : Registry)
    (result : EStateM.Result Fault Session Address) : Prop where
  same : ∀ address, registry.get? contract = some address → Denotes value address →
    ∃ s', result = .ok address s' ∧ s'.registry = registry
  other : ∀ recorded address, registry.get? contract = some recorded → Denotes value address →
    address ≠ recorded → ∃ s',
      result = .error (.deployment (.conflict recorded.text address.text) (some contract)) s' ∧
        s'.registry = registry
  undenoted : (∀ address, ¬Denotes value address) →
    ∃ message s', result = .error (.invalidValue message) s' ∧ s'.registry = registry
  /-- What is stored depends on nothing of the value but the address. -/
  absent : ∀ address, registry.get? contract = none → Denotes value address →
    ∃ s', result = .ok address s' ∧
      s'.registry = { registry with addresses := registry.addresses ++ [(contract, address)] }

/-- An action decides about a value by its address if it ends as recording the value in the registry does,
and keeps the registry that comes of it. -/
theorem decided_of_record (hvalue : IsWritten value)
    (hok : ∀ address next, registry.record contract value = .ok (address, next) →
      ∃ s', result = .ok address s' ∧ s'.registry = next)
    (herror : ∀ fault, registry.record contract value = .error fault →
      ∃ s', result = .error fault s' ∧ s'.registry = registry) :
    Decided contract value registry result where
  same address hget hdenotes := hok _ _ (record_of_same hget (hvalue.read_eq_ok_iff.2 hdenotes))
  other recorded address hget hdenotes hne :=
    herror _ (record_of_other hget (hvalue.read_eq_ok_iff.2 hdenotes) hne)
  undenoted hnone := by
    obtain ⟨flaw, hread⟩ := hvalue.read_eq_error hnone
    obtain ⟨s', hresult, hregistry⟩ := herror _ (record_of_error hread)
    exact ⟨flaw.message, s', hresult, hregistry⟩
  absent address hget hdenotes := hok _ _ (record_of_absent hget (hvalue.read_eq_ok_iff.2 hdenotes))

theorem recordValue_decided (hvalue : IsWritten value) (s : Session) :
    Decided contract value s.registry (recordValue contract value s) := by
  apply decided_of_record hvalue
  · intro address next hrecord
    exact ⟨_, recordValue_of_ok hrecord, rfl⟩
  · intro fault hrecord
    exact ⟨_, recordValue_of_error hrecord, rfl⟩

theorem settle_decided (hvalue : IsWritten value) (s : Session) :
    Decided contract value s.registry (settle contract value s) := by
  apply decided_of_record hvalue
  · intro address next hrecord
    exact ⟨_, settle_of_ok hrecord, rfl⟩
  · intro fault hrecord
    exact ⟨_, settle_of_error hrecord, rfl⟩

/-- **Conflicts are decided by the address**, not by its spelling: for a value that is recorded, and for
one that the procedure of a contract answers with. -/
theorem record_decided (hvalue : IsWritten value) (contract : Contract) :
    (∀ s, Decided contract value s.registry (recordValue contract value s)) ∧
    (∀ s mid procedure, s.registry.get? contract = none →
      procedure (opening contract s) = .ok value mid →
        Decided contract value mid.registry (resolve contract procedure s)) ∧
    ∀ a b : Address, a.text = b.text ↔ a = b := by
  refine ⟨recordValue_decided hvalue, ?_, fun a b => Address.text_inj⟩
  intro s mid procedure habsent hprocedure
  rw [resolve_of_none habsent, Action.bind_of_ok hprocedure]
  exact settle_decided hvalue mid

/-- An address that is spelled without mark and in upper case is the recorded one, and recorded if there is
none. -/
theorem record_decided_of_upper :
    let value := Value.text "ABABABABABABABABABABABABABABABABABABABAB"
    let s : Session := { registry := ⟨[(.hotShot, .filled 0xAB)], [.hotShot]⟩ }
    IsWritten value ∧ Denotes value (.filled 0xAB) ∧
    (∃ s', recordValue .hotShot value s = .ok (.filled 0xAB) s' ∧ s'.registry = s.registry) ∧
    ∃ s', resolve .lightClient (pure value) s = .ok (.filled 0xAB) s' ∧ s'.registry =
      ⟨[(.hotShot, .filled 0xAB), (.lightClient, .filled 0xAB)], [.hotShot]⟩ := by
  intro value s
  have hvalue : IsWritten value := .text _
  have hdenotes : Denotes value (.filled 0xAB) := ⟨[], by decide, _, rfl, by decide⟩
  have hrecorded := (record_decided hvalue .hotShot).1 s
  have hresolved := (record_decided hvalue .lightClient).2.1 s _ (pure value) rfl rfl
  exact ⟨hvalue, hdenotes, hrecorded.same _ rfl hdenotes, hresolved.absent _ rfl hdenotes⟩

end Rollout.Registry
