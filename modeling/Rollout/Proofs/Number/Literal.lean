import Mathlib.Algebra.Ring.Nat
import Rollout.Proofs.Except
import Rollout.Proofs.Number.Numeral

/-!
# The integers that literals spell

A literal is decimal digits behind a sign or none, or hexadecimal digits behind a mark (`Spells`). A
text is read as an integer just if it is a literal with blanks around it (`read_strip_eq_ok_iff`).
An integer is spelled by its decimal digits, unless these are too many, and by its hexadecimal
digits in either letter case.
-/

namespace Rollout

namespace Literal

variable {c : Char} {text body rest whole literal left sign mark digits : List Char}
  {counts : List Nat} {n : Nat} {factor : Int}

/-! ## Signs and marks -/

/-- The signs that decimal digits can stand behind, and the factor that each stands for. -/
def signs : List (List Char × Int) := [([], 1), (['+'], 1), (['-'], -1)]

/-- The marks that hexadecimal digits are written behind. -/
def writtenMarks : List (List Char) := [['0', 'x'], ['0', 'X']]

/-- The marks that hexadecimal digits can stand behind: an underscore more is skipped. -/
def marks : List (List Char) := writtenMarks ++ writtenMarks.map (· ++ ['_'])

theorem mem_marks (h : mark ∈ writtenMarks) : mark ∈ marks := List.mem_append_left _ h

/-- A literal spells an integer. -/
inductive Spells : List Char → Int → Prop where
  /-- In decimal digits behind a sign or none. -/
  | decimal {sign body : List Char} {factor : Int} {counts : List Nat} :
    (sign, factor) ∈ signs → Numeral .ten body counts → counts.length ≤ digitLimit →
    Spells (sign ++ body) (factor * Base.ten.number counts)
  /-- In hexadecimal digits behind a mark. -/
  | hexadecimal {mark body : List Char} {counts : List Nat} :
    mark ∈ marks → Numeral .sixteen body counts →
    Spells (mark ++ body) (Base.sixteen.number counts)

/-- Nothing in a literal is a blank. -/
theorem Spells.isBlank_eq_false {n : Int} (h : Spells literal n) :
    ∀ c ∈ literal, Text.isBlank c = false := by
  cases h with
  | decimal hsign hbody _ =>
    have hblank : ∀ entry ∈ signs, entry.1.any Text.isBlank = false := by decide
    intro c hc
    rcases List.mem_append.1 hc with hc | hc
    · exact Bool.not_eq_true _ ▸ List.any_eq_false.1 (hblank _ hsign) c hc
    · exact hbody.isBlank_eq_false c hc
  | hexadecimal hmark hbody =>
    have hblank : ∀ mark ∈ marks, mark.any Text.isBlank = false := by decide
    intro c hc
    rcases List.mem_append.1 hc with hc | hc
    · exact Bool.not_eq_true _ ▸ List.any_eq_false.1 (hblank _ hmark) c hc
    · exact hbody.isBlank_eq_false c hc

/-- A text is a literal with blanks around it. -/
def Holds (text : List Char) (n : Int) : Prop :=
  ∃ left literal right, text = left ++ literal ++ right ∧ (∀ c ∈ left, Text.isBlank c = true) ∧
    (∀ c ∈ right, Text.isBlank c = true) ∧ Spells literal n

/-! ### What is read is a literal -/

/-- Behind a sign, what is read as a magnitude is a literal. -/
theorem holds_of_sign (hsign : (sign, factor) ∈ signs) (hleft : ∀ c ∈ left, Text.isBlank c = true)
    (h : magnitude .ten whole rest = .ok n) : Holds (left ++ (sign ++ rest)) (factor * n) := by
  obtain ⟨body, counts, blanks, rfl, hbody, hkeeps, hblanks, rfl⟩ := magnitude_eq_ok_iff.1 h
  exact ⟨left, sign ++ body, blanks, by simp, hleft,
    fun c hc => text_isBlank_of_isBlank (hblanks c hc), .decimal hsign hbody (hkeeps rfl)⟩

/-- Behind a mark, too. -/
theorem holds_of_mark (hmark : mark ∈ marks) (h : magnitude .sixteen whole rest = .ok n) :
    Holds (mark ++ rest) n := by
  obtain ⟨body, counts, blanks, rfl, hbody, -, hblanks, rfl⟩ := magnitude_eq_ok_iff.1 h
  exact ⟨[], mark ++ body, blanks, by simp, by simp,
    fun c hc => text_isBlank_of_isBlank (hblanks c hc), .hexadecimal hmark hbody⟩

theorem holds_of_decimal {n : Int} (h : decimal text = .ok n) : Holds text n := by
  have hleft : ∀ c ∈ text.takeWhile isBlank, Text.isBlank c = true := by
    intro c hc
    exact text_isBlank_of_isBlank (List.mem_takeWhile_imp hc)
  rw [decimal] at h
  rw [← List.takeWhile_append_dropWhile (p := isBlank) (l := text)]
  split at h
  · next digits hdigits =>
    obtain ⟨_, hcast, rfl⟩ := except_map_eq_ok.1 h
    obtain ⟨m, hm, hcast⟩ := except_bind_eq_ok.1 hcast
    obtain rfl := Except.ok.inj hcast
    have hsign : (['-'], -1) ∈ signs := by decide
    simpa [hdigits] using holds_of_sign hsign hleft hm
  · next digits hdigits =>
    obtain ⟨m, hm, rfl⟩ := except_map_eq_ok.1 h
    have hsign : (['+'], 1) ∈ signs := by decide
    simpa [hdigits] using holds_of_sign hsign hleft hm
  · obtain ⟨m, hm, rfl⟩ := except_map_eq_ok.1 h
    have hsign : ([], 1) ∈ signs := by decide
    simpa using holds_of_sign hsign hleft hm

theorem exists_writtenMark (h : Hex.isMarked text = true) :
    ∃ mark ∈ writtenMarks, ∃ rest, text = mark ++ rest ∧ Hex.dropMark text = rest := by
  unfold Hex.isMarked at h
  split at h
  · exact ⟨['0', 'x'], by decide, _, rfl, rfl⟩
  · exact ⟨['0', 'X'], by decide, _, rfl, rfl⟩
  · cases h

theorem holds_of_hexadecimal {n : Int} (hmark : Hex.isMarked text = true)
    (h : hexadecimal text = .ok n) : Holds text n := by
  obtain ⟨mark, hwritten, rest, rfl, hdrop⟩ := exists_writtenMark hmark
  rw [hexadecimal, hdrop] at h
  split at h
  · obtain ⟨m, hm, rfl⟩ := except_map_eq_ok.1 h
    have hspaced : mark ++ ['_'] ∈ marks :=
      List.mem_append_right _ (List.mem_map_of_mem hwritten)
    simpa using holds_of_mark hspaced hm
  · obtain ⟨m, hm, rfl⟩ := except_map_eq_ok.1 h
    exact holds_of_mark (mem_marks hwritten) hm

/-! ### A literal is read -/

/-- A decimal numeral has no mark. -/
theorem Numeral.isMarked_eq_false (h : Numeral .ten text counts) : Hex.isMarked text = false := by
  have hletter : ∀ c ∈ text, c ≠ 'x' ∧ c ≠ 'X' := by
    apply h.forall_mem (p := fun c => c ≠ 'x' ∧ c ≠ 'X')
    · intro c d hc
      constructor
      · rintro rfl
        simp [Base.digit?, Text.digitValue?] at hc
      · rintro rfl
        simp [Base.digit?, Text.digitValue?] at hc
    · decide
  unfold Hex.isMarked
  split
  · exact absurd rfl (hletter 'x' (by simp)).1
  · exact absurd rfl (hletter 'X' (by simp)).2
  · rfl

theorem isMarked_of_sign (hsign : (sign, factor) ∈ signs) (hbody : Numeral .ten body counts) :
    Hex.isMarked (sign ++ body) = false := by
  have hall : ∀ entry ∈ signs, Hex.isMarked (entry.1 ++ body) = false := by
    simpa [signs] using ⟨hbody.isMarked_eq_false, rfl, rfl⟩
  exact hall _ hsign

theorem isMarked_of_mark (hmark : mark ∈ marks) (body : List Char) :
    Hex.isMarked (mark ++ body) = true := by
  have hall : ∀ mark ∈ marks, Hex.isMarked (mark ++ body) = true := by
    simp [marks, writtenMarks, Hex.isMarked]
  exact hall mark hmark

theorem ne_sign {d : Nat} (h : Base.ten.digit? c = some d) : c ≠ '-' ∧ c ≠ '+' := by
  constructor
  · rintro rfl
    simp [Base.digit?, Text.digitValue?] at h
  · rintro rfl
    simp [Base.digit?, Text.digitValue?] at h

theorem decimal_of_numeral (hsign : (sign, factor) ∈ signs) (hbody : Numeral .ten body counts)
    (hlimit : counts.length ≤ digitLimit) :
    decimal (sign ++ body) = .ok (factor * Base.ten.number counts) := by
  have hread : ∀ whole, magnitude .ten whole body = .ok (Base.ten.number counts) :=
    magnitude_of_numeral hbody fun _ => hlimit
  obtain ⟨c, d, rest, rfl, hc⟩ := hbody.exists_head
  rw [decimal]
  simp only [signs, List.mem_cons, Prod.mk.injEq, List.not_mem_nil, or_false] at hsign
  rcases hsign with ⟨rfl, rfl⟩ | ⟨rfl, rfl⟩ | ⟨rfl, rfl⟩
  · -- without a sign the text starts with a digit, which is neither a blank nor a sign
    have hblank : isBlank c = false := by
      rw [isBlank, isBlank_of_digit? hc]
      rfl
    obtain ⟨hminus, hplus⟩ := ne_sign hc
    rw [List.nil_append, List.dropWhile_cons, hblank, if_neg (by simp)]
    split
    · next heq => exact absurd (List.cons.inj heq).1 hminus
    · next heq => exact absurd (List.cons.inj heq).1 hplus
    · rw [hread]
      simp [Except.map]
  · show (magnitude .ten _ (c :: rest)).map Int.ofNat = _
    rw [hread]
    simp [Except.map]
  · show Except.map _ (magnitude .ten _ (c :: rest) >>= _) = _
    rw [hread]
    simp [Except.map, bind, Except.bind, pure, Except.pure]

/-- What stands behind a mark without underscore is read as a magnitude. -/
theorem hexadecimal_of_dropMark (hdrop : Hex.dropMark whole = c :: rest) (hc : c ≠ '_') :
    hexadecimal whole = (magnitude .sixteen whole (c :: rest)).map Int.ofNat := by
  rw [hexadecimal, hdrop]
  split
  · next heq => exact absurd (List.cons.inj heq).1 hc
  · rfl

theorem hexadecimal_of_numeral (hmark : mark ∈ marks) (hbody : Numeral .sixteen body counts) :
    hexadecimal (mark ++ body) = .ok (Base.sixteen.number counts) := by
  have hread : ∀ whole, magnitude .sixteen whole body = .ok (Base.sixteen.number counts) :=
    magnitude_of_numeral hbody nofun
  obtain ⟨c, d, rest, rfl, hc⟩ := hbody.exists_head
  have hcases : ∀ mark ∈ marks, mark = ['0', 'x'] ∨ mark = ['0', 'X'] ∨ mark = ['0', 'x', '_'] ∨
      mark = ['0', 'X', '_'] := by decide
  rcases hcases mark hmark with rfl | rfl | rfl | rfl
  · show hexadecimal ('0' :: 'x' :: c :: rest) = _
    rw [hexadecimal_of_dropMark rfl (ne_underscore hc), hread]
    rfl
  · show hexadecimal ('0' :: 'X' :: c :: rest) = _
    rw [hexadecimal_of_dropMark rfl (ne_underscore hc), hread]
    rfl
  · show (magnitude .sixteen _ (c :: rest)).map Int.ofNat = _
    rw [hread]
    rfl
  · show (magnitude .sixteen _ (c :: rest)).map Int.ofNat = _
    rw [hread]
    rfl

/-- A literal is read as what it spells. -/
theorem read_of_spells {n : Int} (h : Spells literal n) :
    (if Hex.isMarked literal then hexadecimal literal else decimal literal) = .ok n := by
  cases h with
  | decimal hsign hbody hlimit =>
    rw [isMarked_of_sign hsign hbody, if_neg (by simp)]
    exact decimal_of_numeral hsign hbody hlimit
  | hexadecimal hmark hbody =>
    rw [isMarked_of_mark hmark, if_pos rfl]
    exact hexadecimal_of_numeral hmark hbody

/-- A text is read as an integer just if it is a literal with blanks around it. -/
theorem read_strip_eq_ok_iff {n : Int} :
    (if Hex.isMarked (Text.strip text) then hexadecimal (Text.strip text)
      else decimal (Text.strip text)) = .ok n ↔ Holds text n := by
  constructor
  · intro h
    have hstripped : Holds (Text.strip text) n := by
      by_cases hmark : Hex.isMarked (Text.strip text) = true
      · rw [if_pos hmark] at h
        exact holds_of_hexadecimal hmark h
      · rw [if_neg hmark] at h
        exact holds_of_decimal h
    obtain ⟨left, literal, right, hstrip, hleft, hright, hspells⟩ := hstripped
    obtain ⟨before, after, htext, hbefore, hafter⟩ := Text.exists_strip text
    refine ⟨before ++ left, literal, right ++ after, ?_, ?_, ?_, hspells⟩
    · rw [htext, hstrip]
      simp
    · exact List.forall_mem_append.2 ⟨hbefore, hleft⟩
    · exact List.forall_mem_append.2 ⟨hright, hafter⟩
  · rintro ⟨left, literal, right, rfl, hleft, hright, hspells⟩
    rw [Text.strip_between hleft hspells.isBlank_eq_false hright]
    exact read_of_spells hspells

/-! ## Written integers -/

/-- A natural number is written in a numeral, as long as its digits are not too many. -/
theorem exists_numeral_toString (hn : n < 10 ^ digitLimit) : ∃ counts,
    Numeral .ten (toString n).toList counts ∧ counts.length ≤ digitLimit ∧
      Base.ten.number counts = n := by
  obtain ⟨counts, hcounts, hnumber⟩ := exists_counts .ten n
  have hdigits : (toString n).toList = Nat.toDigits 10 n := by
    rw [Nat.toString_eq_ofList_toDigits, String.toList_ofList]
  have hlength : (Nat.toDigits 10 n).length ≤ digitLimit :=
    (Nat.length_toDigits_le_iff (by decide) (by decide)).2 hn
  have hcount := congrArg List.length hcounts
  rw [List.length_map, List.length_map] at hcount
  refine ⟨counts, ?_, hcount ▸ hlength, hnumber⟩
  rw [hdigits]
  exact .of_digits Nat.toDigits_ne_nil hcounts

theorem spells_toString {n : Int} (h : n.natAbs < 10 ^ digitLimit) :
    Spells (toString n).toList n := by
  cases n with
  | ofNat m =>
    obtain ⟨counts, hbody, hlimit, hnumber⟩ := exists_numeral_toString (n := m) h
    have hsign : ([], 1) ∈ signs := by decide
    have hspells := Spells.decimal hsign hbody hlimit
    rw [hnumber, List.nil_append, Int.one_mul] at hspells
    exact hspells
  | negSucc m =>
    obtain ⟨counts, hbody, hlimit, hnumber⟩ := exists_numeral_toString (n := m + 1) h
    have hsign : (['-'], -1) ∈ signs := by decide
    have hspells := Spells.decimal hsign hbody hlimit
    rw [hnumber, Int.neg_mul, Int.one_mul] at hspells
    have htext : (toString (Int.negSucc m)).toList = ['-'] ++ (toString (m + 1)).toList :=
      String.toList_append ..
    rw [htext]
    exact hspells

theorem spells_toDigits (hmark : mark ∈ writtenMarks)
    (h : digits.map Hex.lower = Nat.toDigits 16 n) : Spells (mark ++ digits) n := by
  obtain ⟨counts, hcounts, hnumber⟩ := exists_counts .sixteen n
  have hdigits : digits.map Base.sixteen.digit? = counts.map some := by
    rw [← hcounts]
    show _ = (Nat.toDigits 16 n).map _
    rw [← h, List.map_map]
    exact List.map_congr_left fun c _ => (digit?_lower c).symm
  have hne : digits ≠ [] := by
    rintro rfl
    exact Nat.toDigits_ne_nil h.symm
  rw [← hnumber]
  exact .hexadecimal (mem_marks hmark) (.of_digits hne hdigits)

end Literal

end Rollout
