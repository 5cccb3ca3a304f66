import Mathlib.Data.List.TakeWhile
import Rollout.Json.Parser

/-!
# Where a document is read

Each reader of a part of a document answers with what stands behind the part, which is an end of the
text that it was given (`Reads`). So an integer that is refused for its length stands in the
document with all of its digits (`oversized_of_parse`), and a document that is refused for its depth has
an opening bracket for each list and record on the way (`lt_openings_of_parse`).
-/

namespace Rollout.Json

variable {α : Type} {text rest after : List Char} {count room : Nat} {step : Step α}

/-- More decimal digits than an integer may have stand in a text, one behind the other. -/
def Oversized (text : List Char) (count : Nat) : Prop :=
  ∃ digits, digits <:+: text ∧ (∀ c ∈ digits, Text.isAsciiDigit c = true) ∧
    digits.length = count ∧ Literal.digitLimit < count

theorem Oversized.mono (h : Oversized rest count) (hrest : rest <:+ text) :
    Oversized text count := by
  obtain ⟨digits, hdigits, hrun⟩ := h
  exact ⟨digits, hdigits.trans hrest.isInfix, hrun⟩

/-- The number of brackets in a text that open a list or a record. -/
def openings (text : List Char) : Nat := text.countP fun c => c = '[' || c = '\x7b'

theorem openings_le (h : rest <:+ text) : openings rest ≤ openings text := h.sublist.countP_le

/-- A reader of the head of a text leaves an end of the text, and refuses only an integer that
stands in the text for its length, and only more brackets than it has room for for their depth. -/
def Reads (room : Nat) (text : List Char) : Step α → Prop
  | .ok (_, rest) => rest <:+ text
  | .error (problem, _) => (∀ count, problem = .tooLong count → Oversized text count) ∧
      (problem = .tooDeep → room < openings text)

theorem Reads.mono (h : Reads room rest step) (hrest : rest <:+ text) : Reads room text step := by
  cases step with
  | ok found => exact List.IsSuffix.trans h hrest
  | error flaw =>
    exact ⟨fun count hproblem => (h.1 count hproblem).mono hrest,
      fun hproblem => Nat.lt_of_lt_of_le (h.2 hproblem) (openings_le hrest)⟩

/-- Behind an opening bracket there is less room. -/
theorem Reads.enclosed {c : Char} (h : Reads room rest step) (hc : c = '[' ∨ c = '\x7b') :
    Reads (room + 1) (c :: rest) step := by
  have hbehind := h.mono (List.suffix_cons c rest)
  cases step with
  | ok found => exact hbehind
  | error flaw =>
    have hcount : openings (c :: rest) = openings rest + 1 :=
      List.countP_cons_of_pos (by simpa using hc)
    refine ⟨hbehind.1, fun hproblem => ?_⟩
    rw [hcount]
    exact Nat.succ_lt_succ (h.2 hproblem)

theorem reads_ok {a : α} (h : rest <:+ text) : Reads room text (.ok (a, rest) : Step α) := h

/-- A problem that is neither the length of an integer nor the depth. -/
theorem reads_error {problem : Problem} (left : Nat) (h : ∀ count, problem ≠ .tooLong count)
    (hdeep : problem ≠ .tooDeep) : Reads room text (.error (problem, left) : Step α) :=
  ⟨fun count hproblem => absurd hproblem (h count), fun hproblem => absurd hproblem hdeep⟩

theorem skipSpace_suffix (text : List Char) : skipSpace text <:+ text := List.dropWhile_suffix _

/-- What stands behind a character after spaces. -/
theorem suffix_of_skipSpace {c : Char} (h : skipSpace text = c :: rest) : rest <:+ text :=
  ((List.suffix_cons c rest).trans (h ▸ List.suffix_refl _)).trans (skipSpace_suffix text)

/-! ## Texts -/

theorem suffix_of_unit? {unit : Nat} (h : unit? text = some (unit, rest)) : rest <:+ text := by
  unfold unit? at h
  split at h
  · next a b c d e others =>
    cases hdigits : [a, b, c, d].mapM Hex.digit? with
    | none =>
      rw [hdigits] at h
      cases h
    | some digits =>
      rw [hdigits] at h
      cases h
      exact ⟨[a, b, c, d], rfl⟩
  · cases h

theorem suffix_of_lowSurrogate? {unit : Nat} (h : lowSurrogate? text = some (unit, rest)) :
    rest <:+ text := by
  unfold lowSurrogate? at h
  split at h
  · next others =>
    cases hunit : unit? others with
    | none =>
      rw [hunit] at h
      cases h
    | some found =>
      obtain ⟨low, behind⟩ := found
      have hrest : rest = behind := by
        by_cases hrange : 0xDC00 ≤ low ∧ low ≤ 0xDFFF
        · simp [hunit, hrange] at h
          exact h.2.symm
        · simp [hunit, hrange] at h
      rw [hrest]
      exact (suffix_of_unit? hunit).trans ⟨['\\', 'u'], rfl⟩
  · cases h

theorem joinUnits_suffix (unit : Nat) (text : List Char) : (joinUnits unit text).2 <:+ text := by
  unfold joinUnits
  split
  · split
    · next hlow => exact suffix_of_lowSurrogate? hlow
    · exact List.suffix_refl text
  · split
    · exact List.suffix_refl text
    · exact List.suffix_refl text

theorem readText_reads (start fuel : Nat) (read text : List Char) :
    Reads room text (readText start fuel read text) := by
  induction fuel generalizing read text with
  | zero => exact reads_error start nofun nofun
  | succ fuel ih =>
    cases text with
    | nil => exact reads_error start nofun nofun
    | cons c rest =>
      have hrest : rest <:+ c :: rest := List.suffix_cons c rest
      simp only [readText]
      split
      · exact reads_ok hrest
      split
      · split
        · exact reads_error start nofun nofun
        · next after =>
          split
          · exact reads_error _ nofun nofun
          · next unit behind hunit =>
            have hbehind : behind <:+ after := suffix_of_unit? hunit
            have hjoined := (joinUnits_suffix unit behind).trans hbehind
            exact ((ih _ _).mono hjoined).mono (((List.suffix_cons 'u' after)).trans hrest)
        · next letter after _ =>
          split
          · exact reads_error _ nofun nofun
          · exact ((ih _ _).mono (List.suffix_cons letter after)).mono hrest
      · split
        · exact reads_error _ nofun nofun
        · exact (ih _ _).mono hrest

/-! ## Numbers -/

theorem fraction_suffix (text : List Char) : (fraction text).2 <:+ text := by
  unfold fraction
  split
  · split
    · exact List.suffix_refl _
    · exact (List.dropWhile_suffix _).trans (List.suffix_cons _ _)
  · exact List.suffix_refl text

theorem suffix_of_exponent? {power : Int} (h : exponent? text = some (power, rest)) :
    rest <:+ text := by
  unfold exponent? at h
  split at h
  · next e others =>
    split at h
    · split at h
      next negative digits hsign =>
      have hdigits : digits <:+ others := by
        split at hsign
        · cases hsign
          exact List.suffix_cons _ _
        · cases hsign
          exact List.suffix_cons _ _
        · cases hsign
          exact List.suffix_refl _
      dsimp only at h
      split at h
      · cases h
      · cases h
        exact ((List.dropWhile_suffix _).trans hdigits).trans (List.suffix_cons e others)
    · cases h
  · cases h

/-- The digits before the point and the exponent. -/
def whole (text : List Char) : List Char :=
  match text with
  | '0' :: _ => ['0']
  | _ => text.takeWhile Text.isAsciiDigit

theorem isAsciiDigit_of_mem_whole {c : Char} (h : c ∈ whole text) : Text.isAsciiDigit c = true := by
  unfold whole at h
  split at h
  · obtain rfl := List.mem_singleton.1 h
    rfl
  · exact List.mem_takeWhile_imp h

/-- The text behind those digits. -/
def behindWhole (text : List Char) : List Char := text.drop (whole text).length

theorem whole_append_behindWhole (text : List Char) : whole text ++ behindWhole text = text := by
  unfold behindWhole whole
  split
  · rfl
  · exact List.prefix_iff_eq_append.1 (List.takeWhile_prefix _)

/-- The number that a text starts with, by its parts. -/
theorem readNumber_eq (negative : Bool) (text : List Char) : readNumber negative text =
    if (whole text).isEmpty then none
    else if (fraction (behindWhole text)).1.isEmpty ∧
        (exponent? (fraction (behindWhole text)).2).isNone then
      if Literal.digitLimit < (whole text).length then
        some (.error (.tooLong (whole text).length), behindWhole text)
      else
        let size : Int := Text.asciiNat (whole text)
        some (.ok (.integer (if negative then -size else size)), behindWhole text)
    else
      let power := (exponent? (fraction (behindWhole text)).2).getD
        (0, (fraction (behindWhole text)).2)
      some (.ok (.number (Binary64.ofDecimal negative
        (Text.asciiNat (whole text ++ (fraction (behindWhole text)).1))
        (power.1 - (fraction (behindWhole text)).1.length))), power.2) := rfl

/-- A number is read up to an end of the text, and is refused only for its length. -/
theorem readNumber_cases {negative : Bool} {result : Except Problem Value}
    (h : readNumber negative text = some (result, rest)) :
    rest <:+ text ∧ ∀ problem, result = .error problem →
      problem = .tooLong (whole text).length ∧ Literal.digitLimit < (whole text).length := by
  have hbehind : behindWhole text <:+ text := List.drop_suffix _ _
  have hplaces := (fraction_suffix (behindWhole text)).trans hbehind
  rw [readNumber_eq] at h
  split at h
  · cases h
  split at h
  · split at h
    · next hlimit =>
      cases h
      refine ⟨hbehind, ?_⟩
      rintro problem ⟨⟩
      exact ⟨rfl, hlimit⟩
    · cases h
      exact ⟨hbehind, nofun⟩
  · cases h
    refine ⟨?_, nofun⟩
    cases hpower : exponent? (fraction (behindWhole text)).2 with
    | none => exact hplaces
    | some found => exact (suffix_of_exponent? hpower).trans hplaces

theorem oversized_of_whole (h : Literal.digitLimit < (whole text).length) :
    Oversized text (whole text).length :=
  ⟨whole text, ⟨[], behindWhole text, whole_append_behindWhole text⟩,
    fun _ => isAsciiDigit_of_mem_whole, rfl, h⟩

/-- A value that is the number at an end of a text. -/
theorem readNumber_reads {negative : Bool} {digits : List Char} (hdigits : digits <:+ text) :
    Reads room text (match readNumber negative digits with
      | some (.ok value, rest) => .ok (value, rest)
      | some (.error problem, rest) => .error (problem, rest.length)
      | none => .error (.expectedValue, text.length)) := by
  split
  · next hread => exact reads_ok ((readNumber_cases hread).1.trans hdigits)
  · next problem behind hread =>
    obtain ⟨rfl, hlimit⟩ := (readNumber_cases hread).2 problem rfl
    refine ⟨?_, nofun⟩
    rintro count ⟨⟩
    exact (oversized_of_whole hlimit).mono hdigits
  · exact reads_error _ nofun nofun

theorem suffix_of_afterWord? {word : String} (h : afterWord? word text = some rest) :
    rest <:+ text := by
  unfold afterWord? at h
  split at h
  · obtain rfl := Option.some.inj h
    exact List.drop_suffix _ _
  · cases h

theorem readScalar_reads (text : List Char) : Reads room text (readScalar text) := by
  unfold readScalar
  split
  · next found hfound =>
    obtain ⟨⟨word, value⟩, -, hword⟩ := List.exists_of_findSome?_eq_some hfound
    obtain ⟨behind, hbehind, rfl⟩ := Option.map_eq_some_iff.1 hword
    exact reads_ok (suffix_of_afterWord? hbehind)
  · split
    · exact readNumber_reads (List.suffix_cons _ _)
    · exact readNumber_reads (List.suffix_refl text)

/-! ## Lists and records -/

variable {fuel : Nat}

theorem readValue_reads
    (hitems : ∀ room read text, Reads room text (readItems fuel room read text))
    (hfields : ∀ room read text, Reads room text (readFields fuel room read text)) (room : Nat)
    (text : List Char) : Reads room text (readValue (fuel + 1) room text) := by
  unfold readValue
  split
  · next rest =>
    have htext : Reads room rest (readText ('"' :: rest).length ('"' :: rest).length [] rest) :=
      readText_reads _ _ _ _
    split
    · next flaw hread =>
      rw [hread] at htext
      have hflaw : Reads room rest (.error flaw : Step Value) := htext
      exact hflaw.mono (List.suffix_cons _ _)
    · next content after hread =>
      rw [hread] at htext
      exact reads_ok (List.IsSuffix.trans htext (List.suffix_cons _ _))
  · next rest =>
    cases room with
    | zero => exact ⟨nofun, fun _ => by simp [openings]⟩
    | succ room =>
      dsimp only
      split
      · next after hafter =>
        exact reads_ok ((suffix_of_skipSpace hafter).trans (List.suffix_cons _ _))
      · exact ((hitems room _ _).mono (skipSpace_suffix rest)).enclosed (.inl rfl)
  · next rest =>
    cases room with
    | zero => exact ⟨nofun, fun _ => by simp [openings]⟩
    | succ room =>
      dsimp only
      split
      · next after hafter =>
        exact reads_ok ((suffix_of_skipSpace hafter).trans (List.suffix_cons _ _))
      · exact ((hfields room _ _).mono (skipSpace_suffix rest)).enclosed (.inr rfl)
  · exact readScalar_reads text

theorem readItems_reads (hvalue : ∀ room text, Reads room text (readValue fuel room text))
    (hitems : ∀ room read text, Reads room text (readItems fuel room read text)) (room : Nat)
    (read : List Value) (text : List Char) :
    Reads room text (readItems (fuel + 1) room read text) := by
  have hitem := hvalue room text
  unfold readItems
  split
  · next flaw hread => rwa [hread] at hitem
  · next item rest hread =>
    rw [hread] at hitem
    have hrest : rest <:+ text := hitem
    split
    · next after hafter => exact reads_ok ((suffix_of_skipSpace hafter).trans hrest)
    · next after hafter =>
      exact (((hitems room _ _).mono (skipSpace_suffix after)).mono
        (suffix_of_skipSpace hafter)).mono hrest
    · exact reads_error _ nofun nofun

theorem readFields_reads (hvalue : ∀ room text, Reads room text (readValue fuel room text))
    (hfields : ∀ room read text, Reads room text (readFields fuel room read text)) (room : Nat)
    (read : Fields) (text : List Char) :
    Reads room text (readFields (fuel + 1) room read text) := by
  unfold readFields
  split
  · next rest =>
    have hname : Reads room rest (readText ('"' :: rest).length ('"' :: rest).length [] rest) :=
      readText_reads _ _ _ _
    split
    · next flaw hread =>
      rw [hread] at hname
      have hflaw : Reads room rest (.error flaw : Step Value) := hname
      exact hflaw.mono (List.suffix_cons _ _)
    · next name after hread =>
      rw [hread] at hname
      have hafter : after <:+ '"' :: rest := List.IsSuffix.trans hname (List.suffix_cons _ _)
      split
      · next behind hcolon =>
        have hbehind := (suffix_of_skipSpace hcolon).trans hafter
        have hread := ((hvalue room (skipSpace behind)).mono (skipSpace_suffix behind)).mono hbehind
        split
        · next flaw hflaw => rwa [hflaw] at hread
        · next value others hothers =>
          rw [hothers] at hread
          have hrest : others <:+ '"' :: rest := hread
          dsimp only
          split
          · next closed hclosed => exact reads_ok ((suffix_of_skipSpace hclosed).trans hrest)
          · next more hmore =>
            exact (((hfields room _ _).mono (skipSpace_suffix more)).mono
              (suffix_of_skipSpace hmore)).mono hrest
          · exact reads_error _ nofun nofun
      · exact reads_error _ nofun nofun
  · exact reads_error _ nofun nofun

/-- Each reader keeps to its text, whatever the supply and the room. -/
theorem reads (fuel : Nat) :
    (∀ room text, Reads room text (readValue fuel room text)) ∧
      (∀ room read text, Reads room text (readItems fuel room read text)) ∧
      ∀ room read text, Reads room text (readFields fuel room read text) := by
  induction fuel with
  | zero =>
    refine ⟨fun room text => ?_, fun room read text => ?_, fun room read text => ?_⟩
    · exact reads_error _ nofun nofun
    · exact reads_error _ nofun nofun
    · exact reads_error _ nofun nofun
  | succ fuel ih =>
    obtain ⟨hvalue, hitems, hfields⟩ := ih
    exact ⟨readValue_reads hitems hfields, readItems_reads hvalue hitems,
      readFields_reads hvalue hfields⟩

/-- What a document is refused for stands in it. -/
theorem reads_parse {nesting : Nat} {flaw : Flaw} (h : parse nesting text = .error flaw) :
    (∀ count, flaw.problem = .tooLong count → Oversized text count) ∧
      (flaw.problem = .tooDeep → nesting < openings text) := by
  unfold parse at h
  split at h
  · cases h
    exact ⟨nofun, nofun⟩
  · have hread := ((reads (2 * text.length + 2)).1 nesting (skipSpace text)).mono
      (skipSpace_suffix text)
    split at h
    · next problem left hflaw =>
      rw [hflaw] at hread
      cases h
      exact hread
    · split at h
      · cases h
      · cases h
        exact ⟨nofun, nofun⟩

/-- An integer that is refused for its length stands in the document. -/
theorem oversized_of_parse {nesting : Nat} {flaw : Flaw} (h : parse nesting text = .error flaw)
    (hproblem : flaw.problem = .tooLong count) : Oversized text count :=
  (reads_parse h).1 count hproblem

/-- A document that is refused for its depth has more opening brackets than it may have in each other. -/
theorem lt_openings_of_parse {nesting : Nat} {flaw : Flaw} (h : parse nesting text = .error flaw)
    (hproblem : flaw.problem = .tooDeep) : nesting < openings text :=
  (reads_parse h).2 hproblem

/-! ## A record with an integer over the limit -/

/-- A text stands in a document as it is. -/
def IsPlain (text : List Char) : Prop := ∀ c ∈ text, c ≠ '"' ∧ c ≠ '\\' ∧ 0x1F < c.toNat

/-- A plain text is read up to the quote behind it. -/
theorem readText_of_isPlain {name : List Char} (h : IsPlain name) (start fuel : Nat)
    (hfuel : name.length < fuel) (read rest : List Char) :
    readText start fuel read (name ++ '"' :: rest) =
      .ok (String.ofList (read.reverse ++ name), rest) := by
  induction name generalizing fuel read with
  | nil =>
    obtain ⟨fuel, rfl⟩ := Nat.exists_eq_add_of_lt hfuel
    simp [readText]
  | cons c name ih =>
    obtain ⟨⟨hquote, hescape, hcontrol⟩, hname⟩ := List.forall_mem_cons.1 h
    cases fuel with
    | zero => cases hfuel
    | succ fuel =>
      have hmore := ih hname fuel (Nat.lt_of_succ_lt_succ hfuel) (c :: read)
      rw [List.reverse_cons, List.append_assoc, List.singleton_append] at hmore
      rw [List.cons_append]
      simp only [readText]
      rw [if_neg hquote, if_neg hescape, if_neg (by omega), hmore]

/-- Digits spell an integer over the limit. -/
structure Overlong (digits : List Char) : Prop where
  /-- Each of them is a decimal digit. -/
  digit : ∀ c ∈ digits, Text.isAsciiDigit c = true
  /-- A zero does not start an integer of more digits. -/
  head : digits.head? ≠ some '0'
  /-- There are too many of them. -/
  limit : Literal.digitLimit < digits.length

namespace Overlong

variable {digits name : List Char}

theorem exists_cons (h : Overlong digits) :
    ∃ c others, digits = c :: others ∧ ∀ d, Text.isAsciiDigit d = false → c ≠ d := by
  obtain ⟨hdigits, -, hlimit⟩ := h
  cases digits with
  | nil => cases hlimit
  | cons c others =>
    refine ⟨c, others, rfl, ?_⟩
    rintro d hd rfl
    rw [hdigits c List.mem_cons_self] at hd
    cases hd

/-- Such digits at the end of a record are refused by their number. -/
theorem readNumber_eq (h : Overlong digits) (negative : Bool) (rest : List Char) :
    readNumber negative (digits ++ '\x7d' :: rest) =
      some (.error (.tooLong digits.length), '\x7d' :: rest) := by
  have hwhole : whole (digits ++ '\x7d' :: rest) = digits := by
    unfold whole
    split
    · next others hothers =>
      obtain ⟨c, more, rfl, -⟩ := h.exists_cons
      obtain ⟨rfl, -⟩ := List.cons.inj hothers
      exact absurd rfl h.head
    · rw [List.takeWhile_append_of_pos h.digit]
      simp [Text.isAsciiDigit]
  have hbehind : behindWhole (digits ++ '\x7d' :: rest) = '\x7d' :: rest := by
    rw [behindWhole, hwhole, List.drop_left]
  have hne : digits.isEmpty = false := by
    obtain ⟨c, others, rfl, -⟩ := h.exists_cons
    rfl
  have hfraction : fraction ('\x7d' :: rest) = ([], '\x7d' :: rest) := rfl
  have hexponent : exponent? ('\x7d' :: rest) = none := by simp [exponent?]
  rw [Json.readNumber_eq, hwhole, hbehind, hne, if_neg (by simp), hfraction, hexponent,
    if_pos ⟨rfl, rfl⟩, if_pos h.limit]

/-- No word starts with a digit. -/
theorem afterWord?_eq_none {c : Char} (hc : ∀ d, Text.isAsciiDigit d = false → c ≠ d)
    (rest : List Char) : ∀ entry ∈ words, afterWord? entry.1 (c :: rest) = none := by
  have hword : ∀ entry ∈ words, ∃ d others, entry.1.toList = d :: others ∧
      Text.isAsciiDigit d = false := by
    simp [words, Text.isAsciiDigit]
  intro entry hentry
  obtain ⟨d, others, hd, hdigit⟩ := hword entry hentry
  have hne : (d == c) = false := beq_eq_false_iff_ne.2 (hc d hdigit).symm
  have hprefix : entry.1.toList.isPrefixOf (c :: rest) = false := by
    rw [hd, List.isPrefixOf_cons_cons, hne, Bool.false_and]
  simp [afterWord?, hprefix]

theorem readScalar_eq (h : Overlong digits) :
    readScalar (digits ++ ['\x7d']) = .error (.tooLong digits.length, 1) := by
  have hnumber := h.readNumber_eq false []
  obtain ⟨c, others, rfl, hne⟩ := h.exists_cons
  unfold readScalar
  split
  · next found hfound =>
    obtain ⟨⟨word, value⟩, hentry, hword⟩ := List.exists_of_findSome?_eq_some hfound
    obtain ⟨behind, hbehind, -⟩ := Option.map_eq_some_iff.1 hword
    rw [List.cons_append, afterWord?_eq_none hne _ _ hentry] at hbehind
    cases hbehind
  · split
    · next rest hsign => exact absurd (List.cons.inj hsign).1 (hne '-' (by decide))
    · rw [hnumber]
      rfl

theorem readValue_eq (h : Overlong digits) (fuel room : Nat) :
    readValue (fuel + 1) room (digits ++ ['\x7d']) = .error (.tooLong digits.length, 1) := by
  have hscalar := h.readScalar_eq
  obtain ⟨c, others, rfl, hne⟩ := h.exists_cons
  unfold readValue
  split
  · next rest hquote => exact absurd (List.cons.inj hquote).1 (hne '"' (by decide))
  · next rest hbracket => exact absurd (List.cons.inj hbracket).1 (hne '[' (by decide))
  · next rest hbrace => exact absurd (List.cons.inj hbrace).1 (hne '\x7b' (by decide))
  · exact hscalar

/-- A field of a plain name with such digits, which ends a record. -/
def field (name digits : List Char) : List Char :=
  '"' :: (name ++ '"' :: ':' :: (digits ++ ['\x7d']))

theorem readFields_eq (h : Overlong digits) (hname : IsPlain name) (fuel room : Nat) :
    readFields (fuel + 2) room [] (field name digits) = .error (.tooLong digits.length, 1) := by
  have hdigits : skipSpace (digits ++ ['\x7d']) = digits ++ ['\x7d'] := by
    obtain ⟨c, others, rfl, hne⟩ := h.exists_cons
    have hspace : isSpace c = false := by
      simp [isSpace, hne ' ' (by decide), hne '\t' (by decide), hne '\n' (by decide),
        hne '\r' (by decide)]
    rw [skipSpace, List.cons_append, List.dropWhile_cons, hspace]
    rfl
  have hcolon : ∀ rest, skipSpace (':' :: rest) = ':' :: rest := fun rest => rfl
  have hlength : name.length < (field name digits).length := by
    rw [field, List.length_cons, List.length_append]
    omega
  have htext := readText_of_isPlain hname (field name digits).length (field name digits).length
    hlength [] (':' :: (digits ++ ['\x7d']))
  unfold readFields field
  rw [field] at htext
  simp only [htext, hcolon, hdigits, h.readValue_eq]

/-- A record with an integer over the limit is refused for the length of the integer. -/
theorem exists_refusal (h : Overlong digits) (hname : IsPlain name) {nesting : Nat}
    (hnesting : 0 < nesting) : ∃ flaw, parse nesting ('\x7b' :: field name digits) = .error flaw ∧
      flaw.problem = .tooLong digits.length := by
  obtain ⟨room, rfl⟩ := Nat.exists_eq_succ_of_ne_zero (Nat.ne_of_gt hnesting)
  have hread : ∀ fuel, readValue (fuel + 3) (room + 1) ('\x7b' :: field name digits) =
      .error (.tooLong digits.length, 1) := by
    intro fuel
    have hquote : skipSpace (field name digits) = field name digits := rfl
    unfold readValue
    simp only [hquote]
    exact h.readFields_eq hname fuel room
  have hbrace : skipSpace ('\x7b' :: field name digits) = '\x7b' :: field name digits := rfl
  obtain ⟨fuel, hfuel⟩ : ∃ fuel, 2 * ('\x7b' :: field name digits).length + 2 = fuel + 3 :=
    Nat.exists_eq_add_of_le' (by simp; omega)
  unfold parse
  split
  · next rest hmark => exact absurd (List.cons.inj hmark).1 (by decide)
  · rw [hbrace, hfuel, hread]
    exact ⟨_, rfl, rfl⟩

end Overlong

end Rollout.Json
