import Rollout.CommandLine.Argument
import Rollout.Proofs.Address.Spelling
import Rollout.Proofs.Registry.Parts

/-!
# Addresses on the command line and in registries

An option for an address and a line of a registry take the same texts (`takesAlike`): a blank one gives no
address, one that spells an address between blanks gives the address, and any other one is refused. What
is spelled is forty hexadecimal digits behind a mark or none (`takesSpellings`).
-/

namespace Rollout

variable {contract : Contract} {s : String} {address : Address}

namespace CommandLine

/-! ## As an argument -/

/-- The words in which an argument is refused that is no address. -/
def unsuitableAddress (s : String) : ArgumentFault :=
  .unsuitable (s ++ " is not a valid ethereum address")

theorem suppliedAddress_of_blank (h : Text.strip s.toList = []) :
    suppliedAddress (.text s) = .ok none := by
  unfold suppliedAddress
  simp [stripped?, h]

theorem suppliedAddress_of_filled (h : Text.strip s.toList ≠ []) : suppliedAddress (.text s) =
    match Address.ofValue (.text (String.ofList (Text.strip s.toList))) with
    | .ok address => .ok (some address)
    | .error _ => .error (unsuitableAddress s) := by
  have hfilled : String.ofList (Text.strip s.toList) ≠ "" := by
    intro hempty
    apply h
    rw [← String.toList_ofList (l := Text.strip s.toList), hempty]
    rfl
  have hstripped : stripped? (.text s) = some (.text (String.ofList (Text.strip s.toList))) := rfl
  unfold suppliedAddress
  rw [hstripped]
  split
  · next heq => cases heq
  · split
    · next heq => cases heq
    · next heq => exact absurd (Value.text.inj (Option.some.inj heq)) hfilled
    · next heq =>
      obtain rfl := Option.some.inj heq
      cases haddress : Address.ofValue (.text (String.ofList (Text.strip s.toList))) with
      | ok address => rfl
      | error flaw =>
        cases flaw with
        | wrongType => exact absurd haddress (Address.ofValue_text_ne_wrongType _)
        | notHex text => rfl
        | unknownFormat value digits => rfl

theorem suppliedAddress_eq_none_iff :
    suppliedAddress (.text s) = .ok none ↔ Text.strip s.toList = [] := by
  constructor
  · intro h
    by_contra hfilled
    rw [suppliedAddress_of_filled hfilled] at h
    split at h <;> cases h
  · exact suppliedAddress_of_blank

theorem suppliedAddress_eq_some_iff : suppliedAddress (.text s) = .ok (some address) ↔
    Address.Spells (Text.strip s.toList) address := by
  have hspells : Address.ofValue (.text (String.ofList (Text.strip s.toList))) = .ok address ↔
      Address.Spells (Text.strip s.toList) address := by
    rw [Address.ofValue_text_eq_ok_iff_spells, String.toList_ofList]
  by_cases hblank : Text.strip s.toList = []
  · rw [suppliedAddress_of_blank hblank]
    refine iff_of_false (by simp) ?_
    rintro ⟨mark, hmark, digits, htext, hlower⟩
    have hlength := congrArg List.length hlower
    rw [hblank] at htext
    rw [(List.append_eq_nil_iff.1 htext.symm).2, address.length_digits] at hlength
    cases hlength
  · rw [suppliedAddress_of_filled hblank, ← hspells]
    cases Address.ofValue (.text (String.ofList (Text.strip s.toList))) with
    | ok other => simp
    | error flaw => simp

/-- An argument of text is taken, or it is refused with a word about it. -/
theorem suppliedAddress_cases (s : String) : suppliedAddress (.text s) = .ok none ∨
    (∃ address, suppliedAddress (.text s) = .ok (some address)) ∨
      suppliedAddress (.text s) = .error (unsuitableAddress s) := by
  by_cases hblank : Text.strip s.toList = []
  · exact .inl (suppliedAddress_of_blank hblank)
  · rw [suppliedAddress_of_filled hblank]
    cases Address.ofValue (.text (String.ofList (Text.strip s.toList))) with
    | ok address => exact .inr (.inl ⟨address, rfl⟩)
    | error flaw => exact .inr (.inr rfl)

end CommandLine

/-! ## As the value of a variable -/

namespace Registry

/-- The line that gives a contract's variable a value. -/
def assignment (contract : Contract) (s : String) : String := contract.variableName ++ "=" ++ s

theorem toList_assignment (contract : Contract) (s : String) :
    (assignment contract s).toList = contract.variableName.toList ++ '=' :: s.toList := by
  rw [assignment, String.toList_append, String.toList_append, List.append_assoc]
  rfl

theorem unbroken_assignment (h : Text.Unbroken s.toList) :
    Text.Unbroken (assignment contract s).toList := by
  have hname : ∀ c, Text.isVisible c = false → c ∉ contract.variableName.toList := by
    intro c hc hmem
    rw [(Contract.isVisible_of_mem_variableName hmem).1] at hc
    cases hc
  rw [toList_assignment]
  constructor
  · simpa using ⟨hname '\n' (by decide), h.1⟩
  · simpa using ⟨hname '\r' (by decide), h.2⟩

/-- A registry of one line is read as the line's value is taken as an argument. -/
theorem load_assignment (h : Text.Unbroken s.toList) (source : Source (assignment contract s)) :
    source.load = match CommandLine.suppliedAddress (.text s) with
      | .ok none => .ok [] source.session
      | .ok (some address) => .ok [(contract, address)] source.session
      | .error _ => .error (.deployment
          (.invalidEntry (String.ofList (Text.strip s.toList)) source.path 1) (some contract))
          source.session := by
  have hline : Text.linesOf (assignment contract s).toList =
      [contract.variableName.toList ++ '=' :: s.toList] := by
    rw [Text.linesOf_eq_singleton (unbroken_assignment h), toList_assignment]
    rw [toList_assignment]
    simp
  rw [source.load_eq, hline]
  unfold readLines
  rw [lineEntry?_variable]
  by_cases hblank : Text.strip s.toList = []
  · rw [CommandLine.suppliedAddress_of_blank hblank, hblank]
    rfl
  · rw [CommandLine.suppliedAddress_of_filled hblank, if_neg (by simpa using hblank)]
    cases haddress : Address.ofValue (.text (String.ofList (Text.strip s.toList))) with
    | ok address =>
      simp only [haddress]
      rfl
    | error flaw =>
      simp only [haddress]
      rfl

end Registry

/-! ## Both alike -/

namespace CommandLine

open Registry (Source assignment)

/-- A registry of one line takes the value of the line just as it is taken as an argument. -/
structure TakesAlike (contract : Contract) (s : String) (source : Source (assignment contract s)) :
    Prop where
  absent : source.load = .ok [] source.session ↔ suppliedAddress (.text s) = .ok none
  given : ∀ address, source.load = .ok [(contract, address)] source.session ↔
    suppliedAddress (.text s) = .ok (some address)
  refused : (∃ cause, source.load = .error (.deployment cause (some contract)) source.session) ↔
    ∃ message, suppliedAddress (.text s) = .error (.unsuitable message)
  /-- There is no other way for the argument to be taken. -/
  settled : suppliedAddress (.text s) = .ok none ∨
    (∃ address, suppliedAddress (.text s) = .ok (some address)) ∨
      ∃ message, suppliedAddress (.text s) = .error (.unsuitable message)

/-- What is taken as an address. -/
structure TakesSpellings (s : String) : Prop where
  blank : suppliedAddress (.text s) = .ok none ↔ ∀ c ∈ s.toList, Text.isBlank c = true
  spelled : ∀ address, suppliedAddress (.text s) = .ok (some address) ↔
    Address.Spells (Text.strip s.toList) address
  language : (∃ address, suppliedAddress (.text s) = .ok (some address)) ↔
    ∃ mark ∈ Hex.marks, ∃ digits, Text.strip s.toList = mark ++ digits ∧ digits.length = 40 ∧
      ∀ c ∈ digits, Hex.isDigit c = true
  /-- The text of the address is in checksum form, and is taken as the same address. -/
  canonical : ∀ address, suppliedAddress (.text s) = .ok (some address) →
    Address.Checksummed address.text.toList ∧
      suppliedAddress (.text address.text) = .ok (some address)

theorem takesAlike (h : Text.Unbroken s.toList) (source : Source (assignment contract s)) :
    TakesAlike contract s source := by
  have hload := Registry.load_assignment h source
  have hcases := suppliedAddress_cases s
  rcases hcases with hnone | ⟨address, hsome⟩ | hrefused
  · rw [hnone] at hload
    exact ⟨by simp [hload, hnone], by simp [hload, hnone], by simp [hload, hnone], .inl hnone⟩
  · rw [hsome] at hload
    exact ⟨by simp [hload, hsome], by simp [hload, hsome], by simp [hload, hsome],
      .inr (.inl ⟨address, hsome⟩)⟩
  · rw [hrefused] at hload
    exact ⟨by simp [hload, hrefused], by simp [hload, hrefused],
      by simp [hload, hrefused, unsuitableAddress], .inr (.inr ⟨_, hrefused⟩)⟩

theorem takesSpellings (s : String) : TakesSpellings s where
  blank := by rw [suppliedAddress_eq_none_iff, Text.strip_eq_nil_iff]
  spelled address := suppliedAddress_eq_some_iff
  language := by
    rw [← Address.exists_spells_iff]
    exact exists_congr fun address => suppliedAddress_eq_some_iff
  canonical address _ := by
    refine ⟨address.checksummed_text, suppliedAddress_eq_some_iff.2 ?_⟩
    rw [Text.strip_eq_self fun _ h => Address.isVisible_of_mem_text h]
    exact address.spells_text

/-- **Options and registries take the same addresses.** -/
theorem suppliedAddress_as_recorded (h : Text.Unbroken s.toList)
    (source : Source (assignment contract s)) : TakesAlike contract s source ∧ TakesSpellings s :=
  ⟨takesAlike h source, takesSpellings s⟩

/-- An address without checksum is taken between blanks and behind the mark in upper case. -/
theorem suppliedAddress_as_recorded_of_blanks :
    let s := " \t0XabcdefABCDEFabcdefABCDEFabcdefABCDEFabcd "
    let source := Source.of (assignment .plonkVerifier s)
    Text.Unbroken s.toList ∧ TakesAlike .plonkVerifier s source ∧ TakesSpellings s := by
  intro s source
  have hunbroken : Text.Unbroken s.toList := ⟨by decide, by decide⟩
  exact ⟨hunbroken, suppliedAddress_as_recorded hunbroken source⟩

end CommandLine

end Rollout
