import Mathlib.Data.List.Infix
import Rollout.Proofs.Bytecode

/-!
# Placeholders in a text

A placeholder is found by its form, whether or not it is that of a library that is known. The first
one that is found is the leftmost one of the text (`exists_leftmost`). Replacing the placeholder of
a library by digits moves no other one, makes none, and leaves none of that library
(`IsPlaceholder.of_replace`): digits do not begin with a mark, and there are more of them than a
placeholder has between its marks.
-/

namespace Rollout

namespace Bytecode

variable {pattern digits text front back word found after : List Char}
  {addresses : List (LibraryName × Address)} {library : LibraryName} {address : Address}

theorem ne_mark_of_isDigit {c : Char} (hc : Hex.isDigit c = true) : c ≠ '_' := by
  rintro rfl
  rw [isDigit_mark] at hc
  cases hc

/-! ## The form of a placeholder -/

/-- A word has the form of a placeholder: digits, as many as there have to be, between marks. -/
def IsPlaceholder (word : List Char) : Prop :=
  ∃ digits, word = marked digits ∧ digits.length = placeholderDigits ∧
    ∀ c ∈ digits, Hex.isDigit c = true

theorem isPlaceholder_placeholder (library : LibraryName) : IsPlaceholder (placeholder library) :=
  exists_marked library

theorem IsPlaceholder.length_eq (h : IsPlaceholder word) : word.length = 40 := by
  obtain ⟨digits, rfl, hlength, -⟩ := h
  simp [marked, hlength, placeholderDigits]

theorem IsPlaceholder.getLast?_eq (h : IsPlaceholder word) : word.getLast? = some '_' := by
  obtain ⟨digits, rfl, -⟩ := h
  exact getLast?_marked digits

theorem IsPlaceholder.exists_cons (h : IsPlaceholder word) : ∃ rest, word = '_' :: rest := by
  obtain ⟨digits, rfl, -⟩ := h
  exact ⟨_, rfl⟩

theorem marked_append (digits rest : List Char) :
    marked digits ++ rest = '_' :: '_' :: '$' :: (digits ++ ('$' :: '_' :: '_' :: rest)) := by
  simp [marked]

theorem placeholderAt?_eq_some_iff :
    placeholderAt? text = some (found, after) ↔ IsPlaceholder found ∧ text = found ++ after := by
  constructor
  · intro h
    unfold placeholderAt? at h
    split at h
    · next rest =>
      split at h
      · next behind hdrop =>
        dsimp only at h
        split at h
        · next hform =>
          obtain ⟨hlength, hall⟩ := hform
          obtain ⟨rfl, rfl⟩ := Prod.mk.inj (Option.some.inj h)
          refine ⟨⟨_, rfl, hlength, List.all_eq_true.1 hall⟩, ?_⟩
          rw [marked_append, ← hdrop, List.take_append_drop]
        · cases h
      · cases h
    · cases h
  · rintro ⟨⟨digits, rfl, hlength, hdigits⟩, rfl⟩
    rw [marked_append, placeholderAt?, List.take_left' hlength, List.drop_left' hlength]
    exact if_pos ⟨hlength, List.all_eq_true.2 hdigits⟩

theorem placeholderAt?_eq_none_iff :
    placeholderAt? text = none ↔ ∀ word, IsPlaceholder word → ¬ word <+: text := by
  constructor
  · rintro hnone word hword ⟨after, rfl⟩
    rw [placeholderAt?_eq_some_iff.2 ⟨hword, rfl⟩] at hnone
    cases hnone
  · intro h
    cases hfound : placeholderAt? text with
    | none => rfl
    | some pair =>
      obtain ⟨word, after⟩ := pair
      obtain ⟨hword, htext⟩ := placeholderAt?_eq_some_iff.1 hfound
      exact absurd ⟨after, htext.symm⟩ (h word hword)

/-! ## Finding placeholders -/

/-- A word is the leftmost placeholder of a text, and stands behind the given part of the text. -/
structure IsLeftmost (text front word : List Char) : Prop where
  form : IsPlaceholder word
  stands : front ++ word <+: text
  /-- No placeholder stands at a smaller offset. -/
  first : ∀ front' word', IsPlaceholder word' → front' ++ word' <+: text →
    front.length ≤ front'.length

theorem placeholders_cons_of_none {c : Char} (h : placeholderAt? (c :: text) = none) :
    placeholders (c :: text) = placeholders text := by
  rw [placeholders, placeholdersFrom, h]
  rfl

/-- The first placeholder that is found is the leftmost one. -/
theorem exists_leftmost {rest : List (List Char)} (h : placeholders text = found :: rest) :
    ∃ front, IsLeftmost text front found := by
  induction text with
  | nil => cases h
  | cons c text ih =>
    cases hat : placeholderAt? (c :: text) with
    | none =>
      rw [placeholders_cons_of_none hat] at h
      obtain ⟨front, hform, hstands, hfirst⟩ := ih h
      refine ⟨c :: front, hform, List.cons_prefix_cons.2 ⟨rfl, hstands⟩, ?first⟩
      case first =>
        intro front' word' hword hprefix
        cases front' with
        | nil => exact absurd hprefix (placeholderAt?_eq_none_iff.1 hat word' hword)
        | cons d front' =>
          exact Nat.succ_le_succ (hfirst front' word' hword (List.cons_prefix_cons.1 hprefix).2)
    | some pair =>
      obtain ⟨word, after⟩ := pair
      rw [placeholders, placeholdersFrom, hat] at h
      obtain ⟨rfl, -⟩ := List.cons.inj h
      obtain ⟨hform, htext⟩ := placeholderAt?_eq_some_iff.1 hat
      exact ⟨[], hform, ⟨after, htext.symm⟩, fun _ _ _ _ => Nat.zero_le _⟩

/-- No placeholder is found just if none stands in the text. -/
theorem placeholders_eq_nil_iff :
    placeholders text = [] ↔ ∀ word, IsPlaceholder word → ¬ word <:+: text := by
  induction text with
  | nil =>
    refine iff_of_true rfl fun word hword hwithin => ?_
    obtain ⟨rest, rfl⟩ := hword.exists_cons
    cases List.infix_nil.1 hwithin
  | cons c text ih =>
    cases hat : placeholderAt? (c :: text) with
    | none =>
      have hnone := placeholderAt?_eq_none_iff.1 hat
      rw [placeholders_cons_of_none hat, ih]
      refine forall₂_congr fun word hword => not_congr ?_
      rw [List.infix_cons_iff, or_iff_right (hnone word hword)]
    | some pair =>
      obtain ⟨word, after⟩ := pair
      obtain ⟨hform, htext⟩ := placeholderAt?_eq_some_iff.1 hat
      refine iff_of_false ?_ fun h => h word hform ?_
      · rw [placeholders, placeholdersFrom, hat]
        exact List.cons_ne_nil _ _
      · rw [htext]
        exact (List.prefix_append word after).isInfix

/-- A mark before the digits of bytecode does not count. -/
theorem infix_dropMark_iff (hword : IsPlaceholder word) :
    word <:+: Hex.dropMark text ↔ word <:+: text := by
  obtain ⟨rest, rfl⟩ := hword.exists_cons
  have hskip : ∀ c (later : List Char), c ≠ '_' →
      ('_' :: rest <:+: c :: later ↔ '_' :: rest <:+: later) := by
    intro c later hc
    rw [List.infix_cons_iff, List.cons_prefix_cons, or_iff_right fun h => hc h.1.symm]
  obtain ⟨mark, hmark, htext⟩ := Hex.exists_mark text
  generalize Hex.dropMark text = body at htext ⊢
  subst htext
  simp only [Hex.marks, List.mem_cons, List.not_mem_nil, or_false] at hmark
  rcases hmark with rfl | rfl | rfl
  · rfl
  · exact ((hskip '0' _ (by decide)).trans (hskip 'x' body (by decide))).symm
  · exact ((hskip '0' _ (by decide)).trans (hskip 'X' body (by decide))).symm

/-! ## Placeholders after a replacement -/

/-- What begins with no digit in the result of a replacement by digits begins at the same offset in
the text, if there are as many digits as the pattern has characters. -/
theorem exists_offset_of_replace {c : Char} (hdigits : ∀ d ∈ digits, Hex.isDigit d = true)
    (hpattern : pattern ≠ []) (hlength : digits.length = pattern.length)
    (hc : Hex.isDigit c = false) (h : replace pattern digits text = front ++ c :: back) :
    ∃ front' rest, text = front' ++ rest ∧ front'.length = front.length ∧
      replace pattern digits rest = c :: back := by
  -- the text is gone through from the left, by an occurrence or by a character at a time
  induction hn : text.length using Nat.strongRecOn generalizing text front with | _ n ih
  by_cases hextends : pattern <+: text
  · obtain ⟨after, rfl⟩ := hextends
    rw [replace_append hpattern] at h
    have hpos : 0 < pattern.length := List.length_pos_of_ne_nil hpattern
    rw [List.length_append] at hn
    have hlater : ∃ later, front = digits ++ later ∧
        replace pattern digits after = later ++ c :: back := by
      rcases List.append_eq_append_iff.1 h with ⟨later, rfl, hlater⟩ | ⟨later, hfront, hlater⟩
      · exact ⟨later, rfl, hlater⟩
      · cases later with
        | nil => exact ⟨[], by simpa using hfront.symm, by simpa using hlater.symm⟩
        | cons d later =>
          -- the character is none of the digits
          obtain ⟨rfl, -⟩ := List.cons.inj hlater
          have hmem : c ∈ digits := hfront ▸ List.mem_append_right _ List.mem_cons_self
          rw [hdigits c hmem] at hc
          cases hc
    obtain ⟨later, rfl, hlater⟩ := hlater
    obtain ⟨front', rest, rfl, hoffset, hrest⟩ := ih after.length (by omega) hlater rfl
    refine ⟨pattern ++ front', rest, (List.append_assoc _ _ _).symm, ?_, hrest⟩
    rw [List.length_append, List.length_append, hoffset, hlength]
  · cases front with
    | nil => exact ⟨[], text, rfl, rfl, h⟩
    | cons d front =>
      cases text with
      | nil => cases h
      | cons e text =>
        rw [replace_cons hextends] at h
        rw [List.length_cons] at hn
        obtain ⟨front', rest, rfl, hoffset, hrest⟩ :=
          ih text.length (by omega) (List.cons.inj h).2 rfl
        exact ⟨e :: front', rest, rfl, congrArg Nat.succ hoffset, hrest⟩

/-- An address has as many digits as a placeholder has characters. -/
theorem length_digits_eq (address : Address) (library : LibraryName) :
    address.digits.length = (placeholder library).length := by
  rw [Address.length_digits, length_placeholder, Address.digitCount]

/-- What has the form of a placeholder after a library is linked stood at the same offset before,
and is not the placeholder of this library. -/
theorem IsPlaceholder.of_replace (hword : IsPlaceholder word)
    (h : front ++ word <+: replace (placeholder library) address.digits text) :
    (∃ front' rest, text = front' ++ (word ++ rest) ∧ front'.length = front.length) ∧
      placeholder library ≠ word := by
  obtain ⟨back, hback⟩ := h
  have hdigits := isDigit_of_mem_digits address
  obtain ⟨tail, htail⟩ := hword.exists_cons
  have hsplit : replace (placeholder library) address.digits text =
      front ++ '_' :: (tail ++ back) := by
    rw [← hback, htail, List.append_assoc]
    rfl
  obtain ⟨front', rest, rfl, hoffset, hrest⟩ := exists_offset_of_replace hdigits
    (placeholder_ne_nil library) (length_digits_eq address library) isDigit_mark hsplit
  have hstarts : replace (placeholder library) address.digits rest = word ++ back := by
    rw [hrest, htail]
    rfl
  have hlength : word.length ≤ address.digits.length := by
    rw [hword.length_eq, Address.length_digits, Address.digitCount]
  have hlast : ∀ c, word.getLast? = some c → c = '_' := fun c hc =>
    Option.some.inj (hc.symm.trans hword.getLast?_eq)
  obtain ⟨behind, rfl, -⟩ :=
    split_of_replace hdigits hlength hlast (placeholder_ne_nil library) hstarts
  refine ⟨⟨front', behind, rfl, hoffset⟩, ?_⟩
  -- the placeholder of the library would have been replaced
  rintro rfl
  rw [replace_append (placeholder_ne_nil library)] at hstarts
  have hprefix : placeholder library <+: address.digits :=
    List.prefix_of_prefix_length_le ⟨back, rfl⟩ ⟨_, hstarts⟩ hlength
  have hmem : '_' ∈ address.digits := hprefix.subset (htail ▸ List.mem_cons_self)
  exact ne_mark_of_isDigit (hdigits _ hmem) rfl

/-- What has the form of a placeholder after linking stood at the same offset before, and is the
placeholder of none of the libraries. -/
theorem IsPlaceholder.of_substitute (hword : IsPlaceholder word)
    (h : front ++ word <+: substitute text addresses) :
    (∃ front' rest, text = front' ++ (word ++ rest) ∧ front'.length = front.length) ∧
      ∀ entry ∈ addresses, placeholder entry.1 ≠ word := by
  induction addresses generalizing text with
  | nil =>
    obtain ⟨rest, hrest⟩ := h
    exact ⟨⟨front, rest, by rw [← List.append_assoc]; exact hrest.symm, rfl⟩, by simp⟩
  | cons entry addresses ih =>
    have hlater : front ++ word <+:
        substitute (replace (placeholder entry.1) entry.2.digits text) addresses := h
    obtain ⟨⟨middle, rest, hmiddle, hoffset⟩, hothers⟩ := ih hlater
    have hstands : middle ++ word <+: replace (placeholder entry.1) entry.2.digits text :=
      ⟨rest, by rw [hmiddle, List.append_assoc]⟩
    obtain ⟨⟨front', behind, htext, hoffset'⟩, hentry⟩ := hword.of_replace hstands
    exact ⟨⟨front', behind, htext, hoffset'.trans hoffset⟩,
      List.forall_mem_cons.2 ⟨hentry, hothers⟩⟩

/-- Linking leaves no placeholder of a library that it is given. -/
theorem absent_of_substitute {entry : LibraryName × Address} (hentry : entry ∈ addresses) :
    ¬ placeholder entry.1 <:+: substitute text addresses := by
  rintro ⟨front, back, hsplit⟩
  have hform := isPlaceholder_placeholder entry.1
  exact (hform.of_substitute ⟨back, hsplit⟩).2 entry hentry rfl

end Bytecode

end Rollout
