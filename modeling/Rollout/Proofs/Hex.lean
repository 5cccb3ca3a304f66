import Rollout.Hex

/-!
# Hexadecimal digits

The case of hexadecimal digits does not count when they are read. Digits spell octets just if the octets
are written with the same digits in lower case (`Hex.decode?_eq_some_iff`), and parts of octets are
written as parts of the digits.
-/

namespace Rollout.Hex

/-- The digits that are written are the sixteen lower-case ones. -/
theorem mem_encode {c : Char} {octets : Octets} (h : c ∈ encode octets) :
    ∃ n : Fin 16, c = lowerDigit n := by
  induction octets with
  | nil => simp [encode] at h
  | cons octet rest ih =>
    have hlt := octet.toNat_lt
    rw [encode_cons] at h
    rcases List.mem_cons.1 h with rfl | h
    · exact ⟨⟨octet.toNat / 16, by omega⟩, rfl⟩
    · rcases List.mem_cons.1 h with rfl | h
      · exact ⟨⟨octet.toNat % 16, by omega⟩, rfl⟩
      · exact ih h

theorem lower_lowerDigit (n : Fin 16) : lower (lowerDigit n) = lowerDigit n := by
  revert n; decide

theorem isDigit_lowerDigit (n : Fin 16) : isDigit (lowerDigit n) = true := by
  rw [isDigit, digit?_lowerDigit]; rfl

theorem isDigit_of_mem_encode {c : Char} {octets : Octets} (h : c ∈ encode octets) :
    isDigit c = true := by
  obtain ⟨n, rfl⟩ := mem_encode h
  exact isDigit_lowerDigit n

theorem dropMark_text (octets : Octets) : dropMark (text octets).toList = encode octets := by
  simp only [text, String.toList_append, String.toList_ofList]
  rfl

theorem lower_eq_self_or (c : Char) :
    lower c = c ∨ c ∈ ['A', 'B', 'C', 'D', 'E', 'F'] := by
  by_cases h : 'A' ≤ c ∧ c ≤ 'F'
  · right
    have hlow : 65 ≤ c.toNat := h.1
    have hhigh : c.toNat ≤ 70 := h.2
    have hmem : ∀ n < 71, 65 ≤ n → Char.ofNat n ∈ ['A', 'B', 'C', 'D', 'E', 'F'] := by decide
    have hc := hmem c.toNat (by omega) hlow
    rwa [Char.ofNat_toNat] at hc
  · left
    rw [lower, if_neg h]

theorem digit?_lower (c : Char) : digit? (lower c) = digit? c := by
  rcases lower_eq_self_or c with h | h
  · rw [h]
  · simp only [List.mem_cons, List.not_mem_nil, or_false] at h
    rcases h with rfl | rfl | rfl | rfl | rfl | rfl <;> rfl

theorem isDigit_lower (c : Char) : isDigit (lower c) = isDigit c := by
  rw [isDigit, digit?_lower, isDigit]

/-- The case of digits does not count when they are read. -/
theorem decode?_map_lower (digits : List Char) : decode? (digits.map lower) = decode? digits := by
  fun_induction decode? digits with
  | case1 => rfl
  | case2 => rfl
  | case3 a b rest ih =>
    simp only [List.map_cons, decode?, digit?_lower, ih]

theorem lower_of_digit? {c : Char} {n : Nat} (h : digit? c = some n) :
    n < 16 ∧ lower c = lowerDigit n := by
  have hself : Char.ofNat c.toNat = c := Char.ofNat_toNat c
  rw [digit?] at h
  split at h
  · next hc =>
    have hlow : 48 ≤ c.toNat := hc.1
    have hhigh : c.toNat ≤ 57 := hc.2
    have hsmall : ¬ ('A' ≤ c ∧ c ≤ 'F') := fun hupper => by
      have hle : 65 ≤ c.toNat := hupper.1
      omega
    obtain rfl := Option.some.inj h
    have hsum : 48 + (c.toNat - 48) = c.toNat := by omega
    refine ⟨by omega, ?_⟩
    rw [lower, if_neg hsmall, lowerDigit, if_pos (by omega), hsum, hself]
  · split at h
    · next hc =>
      have hlow : 97 ≤ c.toNat := hc.1
      have hhigh : c.toNat ≤ 102 := hc.2
      have hsmall : ¬ ('A' ≤ c ∧ c ≤ 'F') := fun hupper => by
        have hle : c.toNat ≤ 70 := hupper.2
        omega
      obtain rfl := Option.some.inj h
      have hsum : 87 + (c.toNat - 87) = c.toNat := by omega
      refine ⟨by omega, ?_⟩
      rw [lower, if_neg hsmall, lowerDigit, if_neg (by omega), hsum, hself]
    · split at h
      · next hc =>
        have hlow : 65 ≤ c.toNat := hc.1
        have hhigh : c.toNat ≤ 70 := hc.2
        obtain rfl := Option.some.inj h
        have hsum : 87 + (c.toNat - 55) = c.toNat + 32 := by omega
        refine ⟨by omega, ?_⟩
        rw [lower, if_pos hc, lowerDigit, if_neg (by omega), hsum]
      · cases h

/-- Digits spell octets just if the octets are written with the same digits in lower case. -/
theorem decode?_eq_some_iff {digits : List Char} {octets : Octets} :
    decode? digits = some octets ↔ encode octets = digits.map lower := by
  constructor
  · intro h
    induction digits using decode?.induct generalizing octets with
    | case1 =>
      cases h
      rfl
    | case2 c => cases h
    | case3 a b rest ih =>
      rw [decode?] at h
      cases hhigh : digit? a with
      | none => rw [hhigh] at h; cases h
      | some high =>
        cases hlow : digit? b with
        | none => rw [hhigh, hlow] at h; cases h
        | some low =>
          cases hrest : decode? rest with
          | none => rw [hhigh, hlow, hrest] at h; cases h
          | some others =>
            rw [hhigh, hlow, hrest] at h
            obtain ⟨hhigh16, ha⟩ := lower_of_digit? hhigh
            obtain ⟨hlow16, hb⟩ := lower_of_digit? hlow
            obtain rfl : UInt8.ofNat (16 * high + low) :: others = octets := Option.some.inj h
            have hnumber : (UInt8.ofNat (16 * high + low)).toNat = 16 * high + low :=
              UInt8.toNat_ofNat_of_lt' (by show 16 * high + low < 256; omega)
            have hquotient : (16 * high + low) / 16 = high := by omega
            have hremainder : (16 * high + low) % 16 = low := by omega
            rw [encode_cons, hnumber, hquotient, hremainder, ih hrest, List.map_cons, List.map_cons,
              ha, hb]
  · intro h
    rw [← decode?_map_lower, ← h, decode?_encode]

/-- An even number of digits spells octets. -/
theorem exists_of_isDigit {text : List Char} (h : ∀ c ∈ text, isDigit c = true)
    (heven : text.length % 2 = 0) : ∃ octets, decode? text = some octets := by
  induction text using decode?.induct with
  | case1 => exact ⟨[], rfl⟩
  | case2 c => cases heven
  | case3 a b rest ih =>
    obtain ⟨ha, hb, hrest⟩ : isDigit a = true ∧ isDigit b = true ∧
        ∀ c ∈ rest, isDigit c = true := by simpa using h
    obtain ⟨high, hhigh⟩ := Option.isSome_iff_exists.1 ha
    obtain ⟨low, hlow⟩ := Option.isSome_iff_exists.1 hb
    have hlength : rest.length % 2 = 0 := by
      rw [List.length_cons, List.length_cons] at heven
      omega
    obtain ⟨octets, hoctets⟩ := ih hrest hlength
    exact ⟨_, by rw [decode?, hhigh, hlow, hoctets]; rfl⟩

theorem map_lower_encode (octets : Octets) :
    (encode octets).map lower = encode octets :=
  (decode?_eq_some_iff.1 (decode?_encode octets)).symm

theorem encode_injective {a b : Octets} (h : encode a = encode b) : a = b :=
  Option.some.inj ((decode?_encode a).symm.trans (h ▸ decode?_encode b))

theorem encode_drop (count : Nat) (octets : Octets) :
    encode (octets.drop count) = (encode octets).drop (2 * count) := by
  induction count generalizing octets with
  | zero => rfl
  | succ count ih =>
    cases octets with
    | nil => rfl
    | cons octet rest => exact ih rest

theorem encode_take (count : Nat) (octets : Octets) :
    encode (octets.take count) = (encode octets).take (2 * count) := by
  induction count generalizing octets with
  | zero => rfl
  | succ count ih =>
    cases octets with
    | nil => rfl
    | cons octet rest =>
      rw [List.take_succ_cons, encode_cons, encode_cons, ih]
      rfl

/-! ## Zeros -/

theorem digit?_eq_zero_iff {c : Char} : digit? c = some 0 ↔ c = '0' := by
  constructor
  · intro h
    rw [digit?] at h
    split at h
    · next hc =>
      have hlow : 48 ≤ c.toNat := hc.1
      have hzero := Option.some.inj h
      have hnumber : c.toNat = '0'.toNat := by
        show c.toNat = 48
        omega
      exact Char.toNat_inj.1 hnumber
    · split at h
      · next hc =>
        have hlow : 97 ≤ c.toNat := hc.1
        have hzero := Option.some.inj h
        omega
      · split at h
        · next hc =>
          have hlow : 65 ≤ c.toNat := hc.1
          have hzero := Option.some.inj h
          omega
        · cases h
  · rintro rfl
    rfl

theorem lower_eq_zero_iff {c : Char} : lower c = '0' ↔ c = '0' := by
  rw [← digit?_eq_zero_iff, digit?_lower, digit?_eq_zero_iff]

/-! ## Marks -/

variable {digits mark : List Char}

/-- The marks that digits can stand behind. -/
def marks : List (List Char) := [[], ['0', 'x'], ['0', 'X']]

theorem exists_mark (text : List Char) : ∃ mark ∈ marks, text = mark ++ dropMark text := by
  fun_cases dropMark text with
  | case1 rest => exact ⟨['0', 'x'], by decide, rfl⟩
  | case2 rest => exact ⟨['0', 'X'], by decide, rfl⟩
  | case3 => exact ⟨[], by decide, rfl⟩

theorem dropMark_append (hmark : mark ∈ marks) (hdigits : ∀ c ∈ digits, isDigit c = true) :
    dropMark (mark ++ digits) = digits := by
  simp only [marks, List.mem_cons, List.not_mem_nil, or_false] at hmark
  rcases hmark with rfl | rfl | rfl
  · -- A mark is no text of digits, so digits by themselves do not start with one.
    rw [List.nil_append]
    fun_cases dropMark digits with
    | case1 rest => exact absurd (hdigits 'x' (by simp)) (by decide)
    | case2 rest => exact absurd (hdigits 'X' (by simp)) (by decide)
    | case3 => rfl
  · rfl
  · rfl

end Rollout.Hex
