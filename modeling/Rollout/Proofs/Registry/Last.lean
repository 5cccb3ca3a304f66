import Rollout.Proofs.Registry.Record

/-!
# The last address counts

A text may have many lines for a contract. If it is read as a registry, the contract has the address of
the last of them (`lookup_of_read`), and no contract has two (`nodup_readLines`).
-/

namespace Rollout

variable {known : List (Contract × Address)} {contract other : Contract} {address : Address}

namespace Registry

/-! ## Setting addresses -/

theorem lookup_setAddress_same (known : List (Contract × Address)) (contract : Contract)
    (address : Address) : (setAddress known contract address).lookup contract = some address := by
  induction known with
  | nil => simp [setAddress]
  | cons entry known ih =>
    obtain ⟨first, old⟩ := entry
    unfold setAddress
    by_cases hfirst : first = contract
    · rw [if_pos hfirst, hfirst, List.lookup_cons_self]
    · have hdiffer : (contract == first) = false := by simp [Ne.symm hfirst]
      rw [if_neg hfirst, List.lookup_cons, hdiffer]
      exact ih

theorem lookup_setAddress_other (h : other ≠ contract) (known : List (Contract × Address))
    (address : Address) :
    (setAddress known contract address).lookup other = known.lookup other := by
  induction known with
  | nil =>
    have hdiffer : (other == contract) = false := by simp [h]
    rw [setAddress, List.lookup_cons, hdiffer]
  | cons entry known ih =>
    obtain ⟨first, old⟩ := entry
    unfold setAddress
    by_cases hfirst : first = contract
    · have hdiffer : (other == first) = false := by simp [hfirst, h]
      rw [if_pos hfirst, List.lookup_cons, List.lookup_cons, hdiffer]
    · rw [if_neg hfirst, List.lookup_cons, List.lookup_cons, ih]

theorem mem_setAddress (h : other ∈ (setAddress known contract address).map (·.1)) :
    other = contract ∨ other ∈ known.map (·.1) := by
  induction known with
  | nil => exact Or.inl (by simpa [setAddress] using h)
  | cons entry known ih =>
    obtain ⟨first, old⟩ := entry
    unfold setAddress at h
    by_cases hfirst : first = contract
    · rw [if_pos hfirst] at h
      exact Or.inr h
    · rw [if_neg hfirst, List.map_cons, List.mem_cons] at h
      rcases h with rfl | h
      · exact Or.inr List.mem_cons_self
      · exact (ih h).imp_right (List.mem_cons_of_mem _)

/-- No contract gets two addresses. -/
theorem nodup_setAddress (h : (known.map (·.1)).Nodup) (contract : Contract) (address : Address) :
    ((setAddress known contract address).map (·.1)).Nodup := by
  induction known with
  | nil => simp [setAddress]
  | cons entry known ih =>
    obtain ⟨first, old⟩ := entry
    rw [List.map_cons, List.nodup_cons] at h
    unfold setAddress
    by_cases hfirst : first = contract
    · rw [if_pos hfirst, List.map_cons, List.nodup_cons]
      exact h
    · rw [if_neg hfirst, List.map_cons, List.nodup_cons]
      refine ⟨fun hmem => ?_, ih h.2⟩
      rcases mem_setAddress hmem with hsame | hmem
      · exact hfirst hsame
      · exact h.1 hmem

/-! ## The last address -/

/-- The values of a contract in the lines of a text, from the first to the last. -/
def valuesOf (text : List Char) (contract : Contract) : List (List Char) :=
  (((Text.lines text).filterMap lineEntry?).filter fun entry => entry.1 = contract).map (·.2)

/-- The last address that the lines of a text give a contract. -/
def lastAddress? (text : List Char) (contract : Contract) : Option Address :=
  (valuesOf text contract).getLast?.bind fun value =>
    (Address.ofValue (.text (String.ofList value))).toOption

/-- The last address that lines give a contract, if it had one before. -/
theorem lookup_readLines {path : String} {number : Nat} {lines : List (List Char)}
    {addresses : List (Contract × Address)} (h : readLines path number lines known = .ok addresses) :
    addresses.lookup contract =
      match (((lines.filterMap lineEntry?).filter fun entry => entry.1 = contract).map (·.2)).getLast?
      with
      | some value => (Address.ofValue (.text (String.ofList value))).toOption
      | none => known.lookup contract := by
  induction lines generalizing number known with
  | nil =>
    cases h
    rfl
  | cons line lines ih =>
    unfold readLines at h
    cases hentry : lineEntry? line with
    | none =>
      rw [hentry] at h
      rw [List.filterMap_cons_none hentry]
      exact ih h
    | some entry =>
      obtain ⟨named, value⟩ := entry
      rw [hentry] at h
      cases haddress : Address.ofValue (.text (String.ofList value)) with
      | error fault =>
        simp only [haddress] at h
        cases h
      | ok address =>
        simp only [haddress] at h
        rw [ih h, List.filterMap_cons_some hentry]
        by_cases hnamed : named = contract
        · subst hnamed
          rw [List.filter_cons_of_pos (by simp), List.map_cons, List.getLast?_cons]
          cases hlast : (((lines.filterMap lineEntry?).filter fun entry =>
              entry.1 = named).map (·.2)).getLast? with
          | some last => rfl
          | none =>
            show (setAddress known named address).lookup named =
              (Address.ofValue (.text (String.ofList value))).toOption
            rw [lookup_setAddress_same, haddress]
            rfl
        · rw [List.filter_cons_of_neg (by simpa using hnamed),
            lookup_setAddress_other (Ne.symm hnamed)]

theorem nodup_readLines {path : String} {number : Nat} {lines : List (List Char)}
    {addresses : List (Contract × Address)} (h : readLines path number lines known = .ok addresses)
    (hknown : (known.map (·.1)).Nodup) : (addresses.map (·.1)).Nodup := by
  induction lines generalizing number known with
  | nil =>
    cases h
    exact hknown
  | cons line lines ih =>
    unfold readLines at h
    split at h
    · exact ih h hknown
    · split at h
      · exact ih h (nodup_setAddress hknown _ _)
      · cases h

/-- A text that is read as addresses gives each contract the last address that it has for it. -/
theorem lookup_of_read {path : String} {text : List Char} {addresses : List (Contract × Address)}
    (h : read path text = .ok addresses) (contract : Contract) :
    addresses.lookup contract = lastAddress? text contract := by
  unfold lastAddress? valuesOf
  rw [lookup_readLines h]
  cases (((Text.lines text).filterMap lineEntry?).filter fun entry =>
      entry.1 = contract).map (·.2) |>.getLast? <;> rfl

theorem set_toSupply (known : List (Contract × Address)) (contract : Contract) (address : Address) :
    (toSupply known).set contract (.text address.text) =
      toSupply (setAddress known contract address) := by
  induction known with
  | nil => rfl
  | cons entry known ih =>
    obtain ⟨first, old⟩ := entry
    show Supply.set ((first, .text old.text) :: toSupply known) contract _ = _
    unfold Supply.set setAddress
    by_cases hfirst : first = contract
    · rw [if_pos hfirst, if_pos hfirst]
      rfl
    · rw [if_neg hfirst, if_neg hfirst, ih]
      rfl

end Registry

end Rollout
