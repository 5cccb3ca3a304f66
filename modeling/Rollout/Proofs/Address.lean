import Rollout.Fault
import Rollout.Proofs.Hex

/-!
# Reading addresses back

The text of an address spells the address, and so does the same text in any other case
(`Address.ofValue_text`, `Address.ofDigits?_dropMark_text`): the case of the letters bears the
checksum alone. Hence the text of an address is its own checksum form (`Address.read_text`).
-/

namespace Rollout

namespace Address

variable {address : Address} {digits : List Char} {value : Value}

/-- The character that the checksum puts in the place of a digit has the digit as its lower-case
form. -/
theorem lower_checked (n : Fin 16) (nibble : Char) :
    Hex.lower (if '8' ≤ nibble ∧ 'a' ≤ Hex.lowerDigit n
      then Char.ofNat ((Hex.lowerDigit n).toNat - 32) else Hex.lowerDigit n) =
        Hex.lowerDigit n := by
  split
  · next h =>
    have hraised : ∀ n : Fin 16, 'a' ≤ Hex.lowerDigit n →
        Hex.lower (Char.ofNat ((Hex.lowerDigit n).toNat - 32)) = Hex.lowerDigit n := by decide
    exact hraised n h.2
  · exact Hex.lower_lowerDigit n

/-- The checksum changes nothing but the case of digits. -/
theorem map_lower_withChecksum (address : Address) :
    (withChecksum address.digits).map Hex.lower = address.digits := by
  unfold withChecksum
  generalize hns : Hex.encode (Keccak.keccak256 _) = nibbles
  have hlength : address.digits.length ≤ nibbles.length := by
    rw [← hns, address.length_digits, Hex.length_encode, Keccak.length_keccak256, digitCount]
    omega
  rw [List.map_map]
  have hfst : ∀ p ∈ address.digits.zip nibbles,
      (Hex.lower ∘ fun (p : Char × Char) =>
        if '8' ≤ p.2 ∧ 'a' ≤ p.1 then Char.ofNat (p.1.toNat - 32) else p.1) p = p.1 := by
    rintro ⟨c, nibble⟩ hp
    obtain ⟨n, rfl⟩ := Hex.mem_encode (List.of_mem_zip hp).1
    exact lower_checked n nibble
  rw [List.map_congr_left hfst]
  exact List.map_fst_zip hlength

theorem toList_text (address : Address) :
    address.text.toList = '0' :: 'x' :: withChecksum address.digits := by
  simp only [text, String.toList_append, String.toList_ofList]
  rfl

theorem dropMark_text (address : Address) :
    Hex.dropMark address.text.toList = withChecksum address.digits := by
  rw [toList_text]; rfl

theorem isDigit_of_map_lower (h : digits.map Hex.lower = address.digits) :
    ∀ c ∈ digits, Hex.isDigit c = true := by
  intro c hc
  have hlower : Hex.lower c ∈ address.digits := h ▸ List.mem_map_of_mem hc
  rw [← Hex.isDigit_lower]
  exact Hex.isDigit_of_mem_encode hlower

theorem isDigit_of_mem_withChecksum {address : Address} {c : Char}
    (h : c ∈ withChecksum address.digits) : Hex.isDigit c = true :=
  isDigit_of_map_lower (map_lower_withChecksum address) c h

/-- Digits spell an address just if they are its digits in lower case. -/
theorem ofDigits?_eq_some_iff : ofDigits? digits = some address ↔
    address.digits = digits.map Hex.lower := by
  rw [ofDigits?]
  constructor
  · intro h
    split at h
    · obtain ⟨octets, hdecode, hoctets⟩ := Option.bind_eq_some_iff.1 h
      rw [ofOctets?] at hoctets
      split at hoctets
      · obtain rfl := Option.some.inj hoctets
        exact Hex.decode?_eq_some_iff.1 hdecode
      · cases hoctets
    · cases h
  · intro h
    have hlength : digits.length = digitCount := by
      rw [← List.length_map Hex.lower, ← h, length_digits]
    rw [if_pos hlength, Hex.decode?_eq_some_iff.2 h, Option.bind_some, ofOctets?,
      dif_pos address.length_octets]

theorem ofDigits?_map_lower (digits : List Char) :
    ofDigits? (digits.map Hex.lower) = ofDigits? digits := by
  rw [ofDigits?, ofDigits?, List.length_map, Hex.decode?_map_lower]

theorem ofParts_eq_ok_iff : ofParts value "" digits = .ok address ↔
    ofDigits? digits = some address := by
  have hsign : "".isEmpty = true := rfl
  rw [ofParts, hsign, if_pos rfl]
  cases ofDigits? digits with
  | none => simp
  | some other => simp

theorem ofValue_text_eq_ok_iff {s : String} (h : ∀ c ∈ Hex.dropMark s.toList, Hex.isDigit c = true) :
    ofValue (.text s) = .ok address ↔ address.digits = (Hex.dropMark s.toList).map Hex.lower := by
  rw [ofValue, if_pos (List.all_eq_true.2 h), ofParts_eq_ok_iff, ofDigits?_map_lower,
    ofDigits?_eq_some_iff]

/-- The digits in the text of an address spell it, checksum or not. -/
theorem ofDigits?_dropMark_text (address : Address) :
    ofDigits? (Hex.dropMark address.text.toList) = some address := by
  rw [ofDigits?_eq_some_iff, dropMark_text, map_lower_withChecksum]

theorem ofValue_text (address : Address) : ofValue (.text address.text) = .ok address := by
  rw [ofValue_text_eq_ok_iff, dropMark_text, map_lower_withChecksum]
  rw [dropMark_text]
  exact fun c hc => isDigit_of_mem_withChecksum hc

/-- Reading the text of an address gives it back, so that no recorded text is changed by reading
and writing it again. -/
theorem read_text (address : Address) : read (.text address.text) = .ok address := by
  rw [read, ofValue_text]; rfl

/-- The digits of an address are read as the address without a checksum, too. -/
theorem read_hexText (address : Address) : read (.text (Hex.text address.octets)) = .ok address := by
  have hvalue : ofValue (.text (Hex.text address.octets)) = .ok address := by
    rw [ofValue_text_eq_ok_iff, Hex.dropMark_text, Hex.map_lower_encode, digits]
    rw [Hex.dropMark_text]
    exact fun c hc => Hex.isDigit_of_mem_encode hc
  rw [read, hvalue]
  rfl

/-- Too many digits, or too few, spell no address. -/
theorem ofParts_of_length_ne {value : Value} {sign : String} {digits : List Char}
    (h : digits.length ≠ digitCount) :
    ofParts value sign digits =
      .error (.unknownFormat value.quoted (sign ++ "0x" ++ String.ofList digits)) := by
  rw [ofParts, ofDigits?, if_neg h, ite_self]

/-- A value that stands for an address is not vacant. -/
theorem isVacant_of_read {value : Value} {address : Address} (h : read value = .ok address) :
    value.isVacant = false := by
  have hshort : ∀ (sign : String) (digits : List Char), digits.length ≠ digitCount →
      ofValue value ≠ ofParts value sign digits := by
    intro sign digits hlength hvalue
    rw [read, hvalue, ofParts_of_length_ne hlength] at h
    cases h
  cases value with
  | null => cases h
  | truth b =>
    cases b with
    | false => exact absurd rfl (hshort "" ['0'] (by decide))
    | true => rfl
  | integer n =>
    by_cases hzero : n = 0
    · subst hzero
      exact absurd rfl (hshort "" ['0'] (by decide))
    · simpa [Value.isVacant] using hzero
  | number x => cases h
  | text s =>
    by_cases hempty : s = ""
    · subst hempty
      exact absurd rfl (hshort "" [] (by decide))
    · simpa [Value.isVacant] using hempty
  | octets o =>
    cases o with
    | nil => exact absurd rfl (hshort "" [] (by decide))
    | cons octet rest => rfl
  | list items => cases h
  | tuple items => cases h
  | record fields => cases h

/-! ## The zero address -/

/-- The address all octets of which are the same. -/
def filled (octet : UInt8) : Address := ⟨List.replicate 20 octet, List.length_replicate⟩

/-- The address all octets of which are zero. -/
def zero : Address := filled 0

theorem digits_zero : zero.digits = List.replicate digitCount '0' := by decide

/-- Digits spell the zero address just if they are forty zeros. -/
theorem ofDigits?_eq_zero_iff : ofDigits? digits = some zero ↔
    digits.length = digitCount ∧ ∀ c ∈ digits, c = '0' := by
  rw [ofDigits?_eq_some_iff, digits_zero, eq_comm, List.eq_replicate_iff, List.length_map]
  simp only [List.mem_map, forall_exists_index, and_imp, forall_apply_eq_imp_iff₂,
    Hex.lower_eq_zero_iff]

/-- A number all digits of which are zero is zero. -/
theorem eq_zero_of_toDigits {n : Nat} (h : ∀ c ∈ Nat.toDigits 16 n, c = '0') : n = 0 := by
  induction n using Nat.strongRecOn with | _ n ih
  by_cases hsmall : n < 16
  · rw [Nat.toDigits_of_lt_base hsmall] at h
    have hdigits : ∀ n : Fin 16, n.val.digitChar = '0' → n.val = 0 := by decide
    exact hdigits ⟨n, hsmall⟩ (h _ List.mem_cons_self)
  · have hquotient : n / 16 = 0 := by
      refine ih (n / 16) (by omega) fun c hc => h c ?_
      rw [Nat.toDigits_of_base_le (by omega) (by omega)]
      exact List.mem_append_left _ hc
    omega

/-- A number is no text of the zero address, since it is not written with zeros in front. -/
theorem ofValue_integer_ne_zero (n : Int) : ofValue (.integer n) ≠ .ok zero := by
  intro h
  rw [ofValue] at h
  split at h
  · rw [ofParts] at h
    exact absurd h (by simp [show "-".isEmpty = false from rfl])
  · obtain ⟨hlength, hzeros⟩ := ofDigits?_eq_zero_iff.1 (ofParts_eq_ok_iff.1 h)
    rw [eq_zero_of_toDigits hzeros] at hlength
    exact absurd hlength (by decide)

/-- **What counts as the zero address** among the arguments is what is read as the address all octets
of which are zero. -/
theorem isZeroValue_iff : isZeroValue value = true ↔ ofValue value = .ok zero := by
  cases value with
  | text s =>
    have hzero : isZeroValue (.text s) = true ↔ (Hex.dropMark s.toList).length = digitCount ∧
        ∀ c ∈ Hex.dropMark s.toList, c = '0' := by
      simp [isZeroValue]
    rw [hzero, ofValue]
    by_cases hdigits : (Hex.dropMark s.toList).all Hex.isDigit = true
    · rw [if_pos hdigits, ofParts_eq_ok_iff, ofDigits?_eq_zero_iff, List.length_map]
      simp only [List.mem_map, forall_exists_index, and_imp, forall_apply_eq_imp_iff₂,
        Hex.lower_eq_zero_iff]
    · rw [if_neg hdigits]
      refine iff_of_false (fun ⟨_, hzeros⟩ => hdigits ?_) (by simp)
      refine List.all_eq_true.2 fun c hc => ?_
      rw [hzeros c hc]
      rfl
  | octets o =>
    rw [isZeroValue, ofValue, ofParts_eq_ok_iff, ofDigits?_eq_some_iff, Hex.map_lower_encode,
      decide_eq_true_iff]
    constructor
    · rintro rfl
      rfl
    · intro h
      exact (Hex.encode_injective h).symm
  | truth b =>
    refine iff_of_false (by simp [isZeroValue]) fun h => ?_
    obtain ⟨hlength, -⟩ := ofDigits?_eq_zero_iff.1 (ofParts_eq_ok_iff.1 h)
    cases b <;> exact absurd hlength (by decide)
  | integer n => exact iff_of_false (by simp [isZeroValue]) (ofValue_integer_ne_zero n)
  | null => simp [isZeroValue, ofValue]
  | number x => simp [isZeroValue, ofValue]
  | list items => simp [isZeroValue, ofValue]
  | tuple items => simp [isZeroValue, ofValue]
  | record fields => simp [isZeroValue, ofValue]

end Address

end Rollout
