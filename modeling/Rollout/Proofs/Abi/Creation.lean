import Rollout.Abi.Interface
import Rollout.Proofs.Address

/-!
# The data of a constructor that takes an address and octets

An address in text is encoded as the word of the address that it spells, and octets as their
distance, their number and the octets themselves. So the data for a constructor of these two are
known octet by octet (`creationData_address_bytes`).
-/

namespace Rollout.Abi

variable {interface : Value} {code call data : Octets} {address : Address} {entries : List Fields}
  {entry : Fields}

theorem Kind.addressOf?_text (address : Address) :
    addressOf? (.text address.text) = some address := by
  rw [addressOf?, Address.ofDigits?_dropMark_text]
  exact if_pos rfl

/-- The arguments of a constructor that takes an address and octets, as octets. -/
def addressAndBytes (address : Address) (call : Octets) : Octets :=
  Octets.ofNat 12 0 ++ address.octets ++ word 64 ++ word call.length ++ fillWords call

theorem encodeArguments_address_bytes (address : Address) (call : Octets) :
    encodeArguments [.address, .bytes] [.text address.text, .octets call] =
      some (addressAndBytes address call) := by
  have haddress : Kind.address.encode (.text address.text) =
      some (Octets.ofNat 12 0 ++ address.octets) := by
    rw [Kind.encode, Kind.addressOf?_text]
    rfl
  have hbytes : Kind.bytes.encode (.octets call) =
      some (word call.length ++ fillWords call) := by
    rw [Kind.encode]
    rfl
  have hlength : (Octets.ofNat 12 0 ++ address.octets).length = 32 := by
    rw [List.length_append, Octets.length_ofNat, address.length_octets]
  rw [encodeArguments, Kind.encodeEach, Kind.encodeEach, Kind.encodeEach, haddress, hbytes]
  simp [join, joinFrom, Part.headSize, Kind.isDynamic, hlength, wordSize, addressAndBytes]

/-- The data for a contract with a constructor are its bytecode and the arguments as they are encoded
for the constructor, which is the only one. -/
theorem creationData_of_constructor {arguments : List Value}
    (hentries : entriesOf interface = .ok entries) (hentry : entry ∈ entries)
    (hconstructor : hasType "constructor" entry = true)
    (h : creationData interface code arguments = .ok data) :
    ∃ texts kinds octets, kindTexts entry = .ok texts ∧
      texts.mapM (fun text => Kind.ofText? text.toList) = some kinds ∧
      encodeArguments kinds arguments = some octets ∧ data = code ++ octets := by
  have hmem : entry ∈ entries.filter (hasType "constructor") :=
    List.mem_filter.2 ⟨hentry, hconstructor⟩
  rw [creationData, hentries] at h
  simp only [bind, Except.bind] at h
  split at h
  · next hnone =>
    rw [hnone] at hmem
    cases hmem
  · next only hone =>
    rw [hone] at hmem
    obtain rfl : entry = only := List.mem_singleton.1 hmem
    cases hinputs : elementsOf (inputsOf entry) with
    | error fault =>
      rw [hinputs] at h
      cases h
    | ok inputs =>
      rw [hinputs] at h
      dsimp only at h
      split at h
      · cases htexts : inputs.mapM kindText with
        | error fault =>
          rw [htexts] at h
          cases h
        | ok texts =>
          rw [htexts] at h
          dsimp only at h
          split at h
          · cases h
          · next kinds hkinds =>
            split at h
            · split at h
              · next octets hoctets =>
                refine ⟨texts, kinds, octets, ?_, hkinds, hoctets, (Except.ok.inj h).symm⟩
                rw [kindTexts, hinputs]
                exact htexts
              · cases h
            · cases h
      · cases h
  · cases h

/-- The data for a constructor that takes an address and octets, octet by octet. -/
theorem creationData_address_bytes (hentries : entriesOf interface = .ok entries)
    (hentry : entry ∈ entries) (hconstructor : hasType "constructor" entry = true)
    (hkinds : kindTexts entry = .ok ["address", "bytes"])
    (h : creationData interface code [.text address.text, .octets call] = .ok data) :
    data = code ++ addressAndBytes address call := by
  obtain ⟨texts, kinds, octets, htexts, hkinds', hoctets, rfl⟩ :=
    creationData_of_constructor hentries hentry hconstructor h
  rw [hkinds] at htexts
  obtain rfl := Except.ok.inj htexts
  have hknown : ["address", "bytes"].mapM (fun text => Kind.ofText? text.toList) =
      some [.address, .bytes] := by rfl
  obtain rfl := Option.some.inj (hknown.symm.trans hkinds')
  rw [encodeArguments_address_bytes] at hoctets
  rw [Option.some.inj hoctets]

end Rollout.Abi
