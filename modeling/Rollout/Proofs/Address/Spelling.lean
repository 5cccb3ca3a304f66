import Rollout.Proofs.Address

/-!
# Spellings of an address

A text is read as an address just if it spells the address (`ofValue_text_eq_ok_iff_spells`): its digits
in either case, behind a mark or none. Of the many spellings of an address one is its text, the case of
whose letters bears the checksum (`checksummed_text`).
-/

namespace Rollout

namespace Hex

/-- The halves of octets, the upper one of each octet first. -/
def nibbles (octets : Octets) : List Nat :=
  octets.flatMap fun octet => [octet.toNat / 16, octet.toNat % 16]

theorem encode_eq_map_nibbles (octets : Octets) : encode octets = (nibbles octets).map lowerDigit := by
  rw [encode, nibbles, List.map_flatMap]
  rfl

theorem lt_of_mem_nibbles {octets : Octets} {n : Nat} (h : n ∈ nibbles octets) : n < 16 := by
  obtain ⟨octet, -, hn⟩ := List.mem_flatMap.1 h
  have hlt := octet.toNat_lt
  rcases List.mem_cons.1 hn with rfl | hn
  · omega
  · obtain rfl := List.mem_singleton.1 hn
    omega

end Hex

namespace Address

variable {address : Address} {text : List Char}

/-- A text spells an address: the digits of the address, in either case, behind a mark or none. -/
def Spells (text : List Char) (address : Address) : Prop :=
  ∃ mark ∈ Hex.marks, ∃ digits, text = mark ++ digits ∧ digits.map Hex.lower = address.digits

theorem ofValue_text_eq_ok_iff_spells {s : String} :
    ofValue (.text s) = .ok address ↔ Spells s.toList address := by
  constructor
  · intro h
    obtain ⟨mark, hmark, htext⟩ := Hex.exists_mark s.toList
    by_cases hdigits : (Hex.dropMark s.toList).all Hex.isDigit = true
    · have haddress := (ofValue_text_eq_ok_iff (List.all_eq_true.1 hdigits)).1 h
      exact ⟨mark, hmark, _, htext, haddress.symm⟩
    · rw [ofValue, if_neg hdigits] at h
      cases h
  · rintro ⟨mark, hmark, digits, htext, hlower⟩
    have hdigits := isDigit_of_map_lower hlower
    have hdrop : Hex.dropMark s.toList = digits := by rw [htext, Hex.dropMark_append hmark hdigits]
    rw [ofValue_text_eq_ok_iff (hdrop ▸ hdigits), hdrop, hlower]

/-- What spells some address is forty hexadecimal digits behind a mark or none. -/
theorem exists_spells_iff : (∃ address, Spells text address) ↔
    ∃ mark ∈ Hex.marks, ∃ digits, text = mark ++ digits ∧ digits.length = 40 ∧
      ∀ c ∈ digits, Hex.isDigit c = true := by
  constructor
  · rintro ⟨address, mark, hmark, digits, htext, hlower⟩
    have hlength : digits.length = 40 := by
      rw [← List.length_map Hex.lower, hlower, address.length_digits]
      rfl
    exact ⟨mark, hmark, digits, htext, hlength, isDigit_of_map_lower hlower⟩
  · rintro ⟨mark, hmark, digits, htext, hlength, hdigits⟩
    obtain ⟨octets, hoctets⟩ := Hex.exists_of_isDigit hdigits (by omega)
    have hlower := Hex.decode?_eq_some_iff.1 hoctets
    have htwenty : octets.length = 20 := by
      have hboth := Hex.length_encode octets
      rw [hlower, List.length_map] at hboth
      omega
    exact ⟨⟨octets, htwenty⟩, mark, hmark, digits, htext, hlower.symm⟩

theorem spells_text (address : Address) : Spells address.text.toList address :=
  ofValue_text_eq_ok_iff_spells.1 (ofValue_text address)

theorem text_inj {a b : Address} : a.text = b.text ↔ a = b := by
  constructor
  · intro h
    exact Except.ok.inj ((ofValue_text a).symm.trans (h ▸ ofValue_text b))
  · rintro rfl
    rfl

/-! ## Values -/

/-- What a value of text or octets denotes: a text the address that it spells, octets the address that
they are. -/
def Denotes : Value → Address → Prop
  | .text s, address => Spells s.toList address
  | .octets o, address => o = address.octets
  | _, _ => False

/-- A value is a text or octets. -/
inductive IsWritten : Value → Prop where
  | text (s : String) : IsWritten (.text s)
  | octets (o : Octets) : IsWritten (.octets o)

theorem ofValue_octets_eq_ok_iff {o : Octets} : ofValue (.octets o) = .ok address ↔
    o = address.octets := by
  rw [ofValue, ofParts_eq_ok_iff, ofDigits?_eq_some_iff, Hex.map_lower_encode]
  constructor
  · intro h
    exact (Hex.encode_injective h).symm
  · rintro rfl
    rfl

theorem ofParts_ne_wrongType (value : Value) (sign : String) (digits : List Char) :
    ofParts value sign digits ≠ .error .wrongType := by
  unfold ofParts
  split <;> simp

theorem ofValue_text_ne_wrongType (s : String) : ofValue (.text s) ≠ .error .wrongType := by
  show (if _ then ofParts _ _ _ else _) ≠ _
  split
  · exact ofParts_ne_wrongType _ _ _
  · simp

theorem IsWritten.read_eq_ok_iff {value : Value} (h : IsWritten value) :
    read value = .ok address ↔ Denotes value address := by
  have hread : read value = .ok address ↔ ofValue value = .ok address := by
    unfold read
    cases ofValue value with
    | ok other =>
      show Except.ok other = _ ↔ _
      simp
    | error flaw =>
      show Except.error _ = _ ↔ _
      simp
  rw [hread]
  cases h with
  | text s => exact ofValue_text_eq_ok_iff_spells
  | octets o => exact ofValue_octets_eq_ok_iff

/-- A text or octets that denote no address are refused for what they are. -/
theorem IsWritten.read_eq_error {value : Value} (h : IsWritten value)
    (hnone : ∀ address, ¬Denotes value address) :
    ∃ flaw : Flaw, read value = .error (.invalidValue flaw.message) := by
  have hne : ofValue value ≠ .error .wrongType := by
    cases h with
    | text s => exact ofValue_text_ne_wrongType s
    | octets o => exact ofParts_ne_wrongType _ _ _
  cases hvalue : ofValue value with
  | ok address =>
    have hread : read value = .ok address := by
      rw [read, hvalue]
      rfl
    exact absurd (h.read_eq_ok_iff.1 hread) (hnone address)
  | error flaw =>
    refine ⟨flaw, ?_⟩
    rw [read, hvalue]
    cases flaw with
    | wrongType => exact absurd hvalue hne
    | notHex text => rfl
    | unknownFormat value digits => rfl

/-! ## The checksum -/

/-- A text bears its checksum: the digest of its digits, in lower case, has a nibble of at least eight in
the places of just those letters that are in upper case. -/
def Checksummed (text : List Char) : Prop :=
  ∃ digits, text = '0' :: 'x' :: digits ∧ digits.length = 40 ∧ (∀ c ∈ digits, Hex.isDigit c = true) ∧
    ∀ (i : Nat) (c : Char) (n : Nat), digits[i]? = some c →
      (Hex.nibbles (Keccak.keccak256 ((digits.map Hex.lower).map fun c => UInt8.ofNat c.toNat)))[i]? =
        some n → (c.isUpper = true ↔ c.isAlpha = true ∧ 8 ≤ n)

theorem isUpper_checked : ∀ m n : Fin 16,
    (if '8' ≤ Hex.lowerDigit n ∧ 'a' ≤ Hex.lowerDigit m
      then Char.ofNat ((Hex.lowerDigit m).toNat - 32) else Hex.lowerDigit m).isUpper = true ↔
    (if '8' ≤ Hex.lowerDigit n ∧ 'a' ≤ Hex.lowerDigit m
      then Char.ofNat ((Hex.lowerDigit m).toNat - 32) else Hex.lowerDigit m).isAlpha = true ∧
      8 ≤ n.val := by
  decide

/-- The text of an address is in checksum form. -/
theorem checksummed_text (address : Address) : Checksummed address.text.toList := by
  refine ⟨withChecksum address.digits, address.toList_text, ?_, ?_, ?_⟩
  · rw [← List.length_map Hex.lower, map_lower_withChecksum, address.length_digits]
    rfl
  · exact fun c hc => isDigit_of_mem_withChecksum hc
  · rw [map_lower_withChecksum]
    intro i c n hc hn
    have hnibble := Hex.lt_of_mem_nibbles (List.mem_of_getElem? hn)
    simp only [withChecksum, List.getElem?_map, Option.map_eq_some_iff] at hc
    obtain ⟨⟨d, e⟩, hzip, rfl⟩ := hc
    rw [List.getElem?_zip_eq_some, Hex.encode_eq_map_nibbles, List.getElem?_map, hn] at hzip
    obtain ⟨hd, he⟩ := hzip
    obtain ⟨m, rfl⟩ := Hex.mem_encode (List.mem_of_getElem? hd)
    obtain rfl := Option.some.inj he
    exact isUpper_checked m ⟨n, hnibble⟩

end Address

end Rollout
