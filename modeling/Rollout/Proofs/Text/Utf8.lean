import Rollout.Text.Utf8

/-!
# Reading UTF-8 back

Every text is read back from the octets that spell it (`Utf8.decode_encode`): the lead octet of a
character tells how many octets follow it and in which ranges, and no character lies outside them.
-/

namespace Rollout.Utf8

variable {octet low high : UInt8} {bits n v : Nat} {ranges : List (UInt8 × UInt8)} {rest : Octets}

theorem toNat_ofNat (h : n < 256) : (UInt8.ofNat n).toNat = n := UInt8.toNat_ofNat_of_lt' h

theorem lead?_two (hlow : 0xC2 ≤ n) (hhigh : n < 0xE0) :
    lead? (UInt8.ofNat n) = some ⟨n - 0xC0, [(0x80, 0xBF)]⟩ := by
  unfold lead?
  rw [toNat_ofNat (by omega)]
  dsimp only
  rw [if_neg (by omega), if_neg (by omega), if_pos hhigh]

theorem lead?_three (hlow : 0xE0 ≤ n) (hhigh : n < 0xF0) :
    lead? (UInt8.ofNat n) = some ⟨n - 0xE0,
      [(if n = 0xE0 then 0xA0 else 0x80, if n = 0xED then 0x9F else 0xBF), (0x80, 0xBF)]⟩ := by
  by_cases hfirst : n = 0xE0
  · subst hfirst
    rfl
  · by_cases hsurrogates : n = 0xED
    · subst hsurrogates
      rfl
    · unfold lead?
      rw [toNat_ofNat (by omega), if_neg hfirst, if_neg hsurrogates]
      dsimp only
      rw [if_neg (by omega), if_neg (by omega), if_neg (by omega), if_neg hfirst, if_neg hsurrogates,
        if_pos hhigh]

theorem lead?_four (hlow : 0xF0 ≤ n) (hhigh : n ≤ 0xF4) :
    lead? (UInt8.ofNat n) = some ⟨n - 0xF0,
      [(if n = 0xF0 then 0x90 else 0x80, if n = 0xF4 then 0x8F else 0xBF), (0x80, 0xBF),
        (0x80, 0xBF)]⟩ := by
  by_cases hfirst : n = 0xF0
  · subst hfirst
    rfl
  · by_cases hlast : n = 0xF4
    · subst hlast
      rfl
    · unfold lead?
      rw [toNat_ofNat (by omega), if_neg hfirst, if_neg hlast]
      dsimp only
      rw [if_neg (by omega), if_neg (by omega), if_neg (by omega), if_neg (by omega),
        if_neg (by omega), if_neg (by omega), if_neg hfirst, if_pos (by omega)]

/-- An octet in its range contributes its low six bits. -/
theorem continuation_cons {found : Nat × Octets} (hlow : low.toNat ≤ v % 64 + 128)
    (hhigh : v % 64 + 128 ≤ high.toNat)
    (h : continuation (bits * 64 + v % 64) ranges rest = .ok found) :
    continuation bits ((low, high) :: ranges) (UInt8.ofNat (v % 64 + 128) :: rest) = .ok found := by
  have hoctet : (UInt8.ofNat (v % 64 + 128)).toNat = v % 64 + 128 := toNat_ofNat (by omega)
  have hbits : (UInt8.ofNat (v % 64 + 128)).toNat - 0x80 = v % 64 := by omega
  have hrange : low ≤ UInt8.ofNat (v % 64 + 128) ∧ UInt8.ofNat (v % 64 + 128) ≤ high := by
    rw [UInt8.le_iff_toNat_le, UInt8.le_iff_toNat_le, hoctet]
    exact ⟨hlow, hhigh⟩
  rw [continuation, if_pos hrange, hbits, h]
  rfl

/-- The octets of a character are a lead octet and, in the ranges that it calls for, the octets with
which the character is continued. -/
theorem exists_lead (c : Char) : ∃ octet tail lead,
    String.utf8EncodeChar c = octet :: tail ∧ lead? octet = some lead ∧
      ∀ rest, continuation lead.bits lead.ranges (tail ++ rest) = .ok (c.toNat, rest) := by
  have hvalid : c.toNat < 0xD800 ∨ 0xDFFF < c.toNat ∧ c.toNat < 0x110000 := c.valid
  have hval : c.val.toNat = c.toNat := rfl
  rw [String.utf8EncodeChar, hval]
  generalize c.toNat = v at hvalid
  by_cases hone : v ≤ 0x7F
  · rw [if_pos hone]
    refine ⟨_, _, ⟨v, []⟩, rfl, ?_, fun _ => rfl⟩
    unfold lead?
    rw [toNat_ofNat (by omega)]
    exact if_pos (by omega)
  rw [if_neg hone]
  by_cases htwo : v ≤ 0x7FF
  · rw [if_pos htwo]
    refine ⟨_, _, _, rfl, lead?_two (by omega) (by omega), fun rest => ?_⟩
    refine continuation_cons (by show 128 ≤ _; omega) (by show _ ≤ 191; omega) ?_
    have hbits : (v / 64 % 32 + 192 - 0xC0) * 64 + v % 64 = v := by omega
    rw [hbits]
    rfl
  rw [if_neg htwo]
  by_cases hthree : v ≤ 0xFFFF
  · rw [if_pos hthree]
    refine ⟨_, _, _, rfl, lead?_three (by omega) (by omega), fun rest => ?_⟩
    refine continuation_cons ?_ ?_ ?_
    · split
      · simp
        omega
      · simp
    · split <;> (simp; omega)
    refine continuation_cons (by show 128 ≤ _; omega) (by show _ ≤ 191; omega) ?_
    have hbits : ((v / 4096 % 16 + 224 - 0xE0) * 64 + v / 64 % 64) * 64 + v % 64 = v := by omega
    rw [hbits]
    rfl
  · rw [if_neg hthree]
    refine ⟨_, _, _, rfl, lead?_four (by omega) (by omega), fun rest => ?_⟩
    refine continuation_cons ?_ ?_ ?_
    · split
      · simp
        omega
      · simp
    · split <;> (simp; omega)
    refine continuation_cons (by show 128 ≤ _; omega) (by show _ ≤ 191; omega) ?_
    refine continuation_cons (by show 128 ≤ _; omega) (by show _ ≤ 191; omega) ?_
    have hbits : (((v / 262144 % 8 + 240 - 0xF0) * 64 + v / 4096 % 64) * 64 + v / 64 % 64) * 64 +
        v % 64 = v := by omega
    rw [hbits]
    rfl

/-! ## Whole texts -/

theorem toList_loop (bytes : ByteArray) (i : Nat) (passed : List UInt8) :
    ByteArray.toList.loop bytes i passed = passed.reverse ++ bytes.data.toList.drop i := by
  rw [ByteArray.toList.loop]
  split
  · next h =>
    have hlt : i < bytes.data.toList.length := h
    have hget : bytes.get! i = bytes.data.toList[i] := by
      show bytes.data[i]! = _
      rw [getElem!_pos bytes.data i h]
      rfl
    rw [toList_loop, List.reverse_cons, List.append_assoc, hget, List.drop_eq_getElem_cons hlt]
    rfl
  · next h =>
    have hle : bytes.data.toList.length ≤ i := Nat.le_of_not_lt h
    rw [List.drop_eq_nil_of_le hle, List.append_nil]
termination_by bytes.size - i

theorem toList_eq (bytes : ByteArray) : bytes.toList = bytes.data.toList := by
  rw [ByteArray.toList, toList_loop]
  rfl

theorem encode_eq (text : String) : encode text = text.toList.flatMap String.utf8EncodeChar := by
  have hlist : (String.ofList text.toList).toUTF8.toList =
      text.toList.flatMap String.utf8EncodeChar := by
    rw [String.toUTF8_eq_toByteArray, String.toByteArray_ofList, toList_eq, List.utf8Encode,
      List.toList_data_toByteArray]
  rwa [String.ofList_toList] at hlist

theorem decodeFrom_flatMap (text : List Char) {fuel : Nat} (hfuel : text.length ≤ fuel)
    (position : Nat) (passed : List Char) :
    decodeFrom fuel position (text.flatMap String.utf8EncodeChar) passed =
      .ok (passed.reverse ++ text) := by
  induction text generalizing fuel position passed with
  | nil => cases fuel <;> simp [decodeFrom]
  | cons c rest ih =>
    cases fuel with
    | zero => cases hfuel
    | succ fuel =>
      obtain ⟨octet, tail, lead, hoctets, hlead, hcontinued⟩ := exists_lead c
      rw [List.flatMap_cons, hoctets, List.cons_append, decodeFrom, hlead]
      simp only [hcontinued]
      rw [ih (Nat.le_of_succ_le_succ hfuel), Char.ofNat_toNat, List.reverse_cons, List.append_assoc]
      rfl

/-- **Reading UTF-8 back.** A text is read from the octets that spell it. -/
theorem decode_encode (text : String) : decode (encode text) = .ok text.toList := by
  have hfuel : ∀ chars : List Char,
      chars.length ≤ (chars.flatMap String.utf8EncodeChar).length := by
    intro chars
    induction chars with
    | nil => exact Nat.zero_le _
    | cons c rest ih =>
      obtain ⟨octet, tail, -, hoctets, -⟩ := exists_lead c
      rw [List.flatMap_cons, hoctets, List.length_append, List.length_cons, List.length_cons]
      omega
  rw [encode_eq, decode, decodeFrom_flatMap text.toList (hfuel _)]
  rfl

end Rollout.Utf8
