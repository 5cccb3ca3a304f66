import Rollout.Fault

/-!
# The registry

A registry holds the addresses of contracts, in the order in which they were recorded, each contract
at most once. The contracts whose addresses were supplied in advance are remembered as such.

Recording an address again changes nothing (`insert?_eq_self`), and a second address is refused.
-/

namespace Rollout

/-- Values supplied for the addresses of contracts, in order. -/
abbrev Supply := List (Contract × Value)

/-- Supplies a value for a contract: in its place if it has one, else at the end. -/
def Supply.set : Supply → Contract → Value → Supply
  | [], contract, value => [(contract, value)]
  | (other, old) :: rest, contract, value =>
    if other = contract then (other, value) :: rest else (other, old) :: set rest contract value

/-- The addresses of contracts. -/
structure Registry where
  /-- The recorded contracts and their addresses, in order. -/
  addresses : List (Contract × Address) := []
  /-- The contracts whose addresses were supplied in advance, in order. -/
  predeployed : List Contract := []

namespace Registry

/-- The address of a contract. -/
def get? (registry : Registry) (contract : Contract) : Option Address :=
  registry.addresses.lookup contract

/-- Tells whether a contract has an address. -/
def contains (registry : Registry) (contract : Contract) : Bool := (registry.get? contract).isSome

/-- The number of contracts that have an address. -/
def size (registry : Registry) : Nat := registry.addresses.length

/-- Records an address for a contract; nothing if it has another one. -/
def insert? (registry : Registry) (contract : Contract) (address : Address) : Option Registry :=
  match registry.get? contract with
  | none => some { registry with addresses := registry.addresses ++ [(contract, address)] }
  | some recorded => if recorded = address then some registry else none

/-- Records the address that a value stands for. -/
def record (registry : Registry) (contract : Contract) (value : Value) :
    Except Fault (Address × Registry) := do
  let address ← Address.read value
  match registry.insert? contract address with
  | some registry => return (address, registry)
  | none =>
    let recorded := ((registry.get? contract).map Address.text).getD ""
    .error (.deployment (.conflict recorded address.text) (some contract))

/-- The registry with supplied addresses recorded; a vacant value supplies none. -/
def recordAll (registry : Registry) : Supply → Except Fault Registry
  | [] => .ok registry
  | (contract, value) :: rest =>
    if value.isVacant then registry.recordAll rest
    else do
      let (_, registry) ← registry.record contract value
      registry.recordAll rest

/-- The registry of addresses that are supplied in advance. -/
def ofSupply (supply : Supply) : Except Fault Registry := do
  let registry ← ({} : Registry).recordAll supply
  return { registry with predeployed := registry.addresses.map (·.1) }

/-! ## Laws of recording -/

theorem get?_insert?_same {registry next : Registry} {contract : Contract} {address : Address}
    (h : registry.insert? contract address = some next) : next.get? contract = some address := by
  unfold insert? at h
  split at h
  next absent =>
    cases h
    simp only [get?] at absent ⊢
    rw [List.lookup_append, absent]; simp
  next recorded present =>
    split at h
    next same => cases h; rw [present, same]
    next => cases h

theorem get?_insert?_other {registry next : Registry} {contract other : Contract}
    {address : Address} (h : registry.insert? contract address = some next)
    (ne : other ≠ contract) : next.get? other = registry.get? other := by
  unfold insert? at h
  split at h
  next absent =>
    cases h
    have differ : (other == contract) = false := by simp [ne]
    simp only [get?]
    rw [List.lookup_append]
    cases registry.addresses.lookup other <;> simp [List.lookup_cons, differ]
  next recorded present =>
    split at h
    next => cases h; rfl
    next => cases h

/-- Recording the address that a contract has changes nothing. -/
theorem insert?_eq_self {registry : Registry} {contract : Contract} {address : Address}
    (h : registry.get? contract = some address) :
    registry.insert? contract address = some registry := by
  simp [insert?, h]

end Registry

end Rollout
