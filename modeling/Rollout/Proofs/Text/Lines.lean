import Mathlib.Data.List.TakeWhile
import Rollout.Proofs.Text

/-!
# Lines of a text

A text that is put together from parts has the lines of its parts, as long as no part but the last ends
in the middle of a line (`linesOf_append`). A line that does not count can be inserted between any two
others, and at both ends, without changing the lines that count (`Inserts.filterMap_linesOf`).

Stripping a text around a visible character strips what stands on either side of it (`strip_append`).
-/

namespace Rollout.Text

variable {first second text text' line before after part ending : List Char} {c : Char} {β : Type}
  {f : List Char → Option β}

/-! ## Stripping -/

/-- A text without blanks at its left end. -/
def stripLeft (text : List Char) : List Char := text.dropWhile isBlank

/-- A text without blanks at its right end. -/
def stripRight (text : List Char) : List Char := (text.reverse.dropWhile isBlank).reverse

theorem strip_eq (text : List Char) : strip text = stripRight (stripLeft text) := rfl

theorem stripLeft_cons (c : Char) (text : List Char) :
    stripLeft (c :: text) = if isBlank c then stripLeft text else c :: text := by
  unfold stripLeft
  rw [List.dropWhile_cons]

theorem stripRight_cons (c : Char) (text : List Char) :
    stripRight (c :: text) =
      if stripRight text = [] ∧ isBlank c = true then [] else c :: stripRight text := by
  unfold stripRight
  rw [List.reverse_cons, List.dropWhile_append]
  by_cases hrest : text.reverse.dropWhile isBlank = []
  · by_cases hc : isBlank c = true <;> simp [hrest, hc]
  · simp [hrest]

theorem stripLeft_append (h : isBlank c = false) (before after : List Char) :
    stripLeft (before ++ c :: after) = stripLeft before ++ c :: after := by
  induction before with
  | nil => simp [stripLeft, h]
  | cons d before ih =>
    rw [List.cons_append, stripLeft_cons, stripLeft_cons]
    by_cases hd : isBlank d = true
    · rw [if_pos hd, if_pos hd, ih]
    · rw [if_neg hd, if_neg hd]
      rfl

theorem stripRight_append (h : isBlank c = false) (before after : List Char) :
    stripRight (before ++ c :: after) = before ++ c :: stripRight after := by
  induction before with
  | nil => simp [stripRight_cons, h]
  | cons d before ih =>
    rw [List.cons_append, stripRight_cons, ih]
    simp

/-- What stands on either side of a character that is no blank is stripped by itself. -/
theorem strip_append (h : isBlank c = false) (before after : List Char) :
    strip (before ++ c :: after) = stripLeft before ++ c :: stripRight after := by
  rw [strip_eq, stripLeft_append h, stripRight_append h]

theorem stripLeft_stripRight (text : List Char) :
    stripLeft (stripRight text) = stripRight (stripLeft text) := by
  induction text with
  | nil => rfl
  | cons c rest ih =>
    rw [stripRight_cons, stripLeft_cons]
    by_cases hc : isBlank c = true
    · rw [if_pos hc, ← ih]
      by_cases hrest : stripRight rest = []
      · rw [if_pos ⟨hrest, hc⟩, hrest]
      · rw [if_neg fun h => hrest h.1, stripLeft_cons, if_pos hc]
    · rw [if_neg fun h => hc h.2, if_neg hc, stripLeft_cons, if_neg hc, stripRight_cons,
        if_neg fun h => hc h.2]

theorem stripRight_stripRight (text : List Char) :
    stripRight (stripRight text) = stripRight text := by
  induction text with
  | nil => rfl
  | cons c rest ih =>
    rw [stripRight_cons]
    by_cases hrest : stripRight rest = [] ∧ isBlank c = true
    · rw [if_pos hrest]
      rfl
    · rw [if_neg hrest, stripRight_cons, ih, if_neg hrest]

theorem stripLeft_stripLeft (text : List Char) : stripLeft (stripLeft text) = stripLeft text := by
  induction text with
  | nil => rfl
  | cons c rest ih =>
    rw [stripLeft_cons]
    by_cases hc : isBlank c = true
    · rw [if_pos hc, ih]
    · rw [if_neg hc, stripLeft_cons, if_neg hc]

@[simp]
theorem strip_stripLeft (text : List Char) : strip (stripLeft text) = strip text := by
  rw [strip_eq, stripLeft_stripLeft, strip_eq]

@[simp]
theorem strip_stripRight (text : List Char) : strip (stripRight text) = strip text := by
  rw [strip_eq, stripLeft_stripRight, stripRight_stripRight, strip_eq]

theorem stripLeft_of_blank (h : ∀ c ∈ text, isBlank c = true) : stripLeft text = [] :=
  List.dropWhile_eq_nil_iff.2 h

/-- Stripping leaves nothing of blanks alone. -/
theorem strip_eq_nil_iff : strip text = [] ↔ ∀ c ∈ text, isBlank c = true := by
  constructor
  · intro h
    have hleft : stripLeft text = [] := by
      have hblank := List.dropWhile_eq_nil_iff.1 (List.reverse_eq_nil_iff.1 h)
      by_contra hne
      have hhead := List.head_dropWhile_not isBlank hne
      have hmem : (stripLeft text).head hne ∈ (stripLeft text).reverse :=
        List.mem_reverse.2 (List.head_mem hne)
      exact absurd (hblank _ hmem) (by simp [stripLeft, hhead])
    exact List.dropWhile_eq_nil_iff.1 hleft
  · exact strip_eq_nil_of_blank

theorem mem_of_mem_stripLeft (h : c ∈ stripLeft text) : c ∈ text := (List.dropWhile_sublist _).mem h

theorem mem_of_mem_strip (h : c ∈ strip text) : c ∈ text := by
  have hreverse := (List.dropWhile_sublist isBlank).mem (List.mem_reverse.1 h)
  exact mem_of_mem_stripLeft (List.mem_reverse.1 hreverse)

/-- What stripping takes off are blanks on either side. -/
theorem exists_strip (text : List Char) : ∃ left right, text = left ++ strip text ++ right ∧
    (∀ c ∈ left, isBlank c = true) ∧ ∀ c ∈ right, isBlank c = true := by
  refine ⟨text.takeWhile isBlank, ((text.dropWhile isBlank).reverse.takeWhile isBlank).reverse,
    ?_, fun c hc => List.mem_takeWhile_imp hc,
    fun c hc => List.mem_takeWhile_imp (List.mem_reverse.1 hc)⟩
  rw [strip, trimBoth, List.append_assoc, ← List.reverse_append, List.takeWhile_append_dropWhile,
    List.reverse_reverse, List.takeWhile_append_dropWhile]

theorem splitFirst?_of_not_mem (h : c ∉ text) : splitFirst? c text = none := by
  have hdrop : text.dropWhile (· != c) = [] := by
    rw [List.dropWhile_eq_nil_iff]
    intro d hd
    exact bne_iff_ne.2 fun hsame => h (hsame ▸ hd)
  rw [splitFirst?, hdrop]

/-! ## Line ends -/

/-- The ways in which a line can end. -/
def lineEnds : List (List Char) := [['\n'], ['\r'], ['\r', '\n']]

/-- Nothing of a line stands before a place: up to there the text is empty or has just ended a line. -/
def AtLineStart (before : List Char) : Prop :=
  before = [] ∨ before.getLast? = some '\n' ∨ before.getLast? = some '\r'

/-- A text has no line ends in it. -/
def Unbroken (text : List Char) : Prop := '\n' ∉ text ∧ '\r' ∉ text

/-- The lines of a text, in whichever way they end. -/
def linesOf (text : List Char) : List (List Char) := lines (normalizeLineEnds text)

/-- Line ends are made line feeds part by part, unless the two characters of one line end stand in
different parts. -/
theorem normalizeLineEnds_append (h : first.getLast? = some '\r' → second.head? ≠ some '\n') :
    normalizeLineEnds (first ++ second) = normalizeLineEnds first ++ normalizeLineEnds second := by
  fun_induction normalizeLineEnds first with
  | case1 rest ih =>
    rw [List.cons_append, List.cons_append, normalizeLineEnds, ih, List.cons_append]
    intro hlast
    exact h (by simp [List.getLast?_cons, hlast])
  | case2 rest hrest ih =>
    have hsplit : ∀ others, rest ++ second = '\n' :: others → False := by
      intro others hothers
      cases rest with
      | nil =>
        rw [List.nil_append] at hothers
        exact h rfl (by rw [hothers]; rfl)
      | cons d rest =>
        obtain ⟨rfl, -⟩ := List.cons.inj hothers
        exact hrest rest rfl
    rw [List.cons_append, normalizeLineEnds, ih, List.cons_append]
    · intro hlast
      exact h (by simp [List.getLast?_cons, hlast])
    · exact hsplit
  | case3 c rest hcr hc ih =>
    rw [List.cons_append, normalizeLineEnds, ih, List.cons_append]
    · intro hlast
      exact h (by simp [List.getLast?_cons, hlast])
    · rintro others rfl -
      exact hc rfl
    · exact hc
  | case4 => rfl

/-- What has just ended a line ends with a line feed once line ends are made line feeds. -/
theorem exists_normalizeLineEnds (h : text.getLast? = some '\n' ∨ text.getLast? = some '\r') :
    ∃ front, normalizeLineEnds text = front ++ ['\n'] := by
  rcases h with h | h
  · obtain ⟨front, rfl⟩ := List.getLast?_eq_some_iff.1 h
    by_cases hreturn : front.getLast? = some '\r'
    · obtain ⟨line, rfl⟩ := List.getLast?_eq_some_iff.1 hreturn
      rw [List.append_assoc, List.singleton_append, normalizeLineEnds_append fun _ => by simp]
      exact ⟨_, rfl⟩
    · rw [normalizeLineEnds_append fun hlast => absurd hlast hreturn]
      exact ⟨_, rfl⟩
  · obtain ⟨front, rfl⟩ := List.getLast?_eq_some_iff.1 h
    rw [normalizeLineEnds_append fun _ => by simp]
    exact ⟨_, rfl⟩

theorem lines_cons_of_ne (h : c ≠ '\n') (text : List Char) : lines (c :: text) =
    match lines text with
    | [] => [[c]]
    | part :: parts => (c :: part) :: parts := by
  cases hrest : lines text with
  | nil => simp only [lines, hrest]
  | cons part parts => simp only [lines, hrest]

theorem lines_eq_nil_iff : lines text = [] ↔ text = [] := by
  cases text with
  | nil => simp [lines]
  | cons c rest =>
    by_cases hc : c = '\n'
    · simp [hc, lines]
    · rw [lines_cons_of_ne hc]
      split <;> simp

theorem lines_append_of_ended (front second : List Char) :
    lines (front ++ ['\n'] ++ second) = lines (front ++ ['\n']) ++ lines second := by
  induction front with
  | nil => rfl
  | cons c front ih =>
    by_cases hc : c = '\n'
    · simp only [hc, List.cons_append, lines, ih]
    · rw [List.cons_append, List.cons_append, lines_cons_of_ne hc, lines_cons_of_ne hc, ih]
      cases hfront : lines (front ++ ['\n']) with
      | nil => exact absurd (lines_eq_nil_iff.1 hfront) (by simp)
      | cons part parts => rfl

theorem lines_unbroken (h : '\n' ∉ line) (hline : line ≠ []) : lines line = [line] := by
  induction line with
  | nil => exact absurd rfl hline
  | cons c rest ih =>
    have hc : c ≠ '\n' := by
      rintro rfl
      exact h List.mem_cons_self
    rw [lines_cons_of_ne hc]
    by_cases hrest : rest = []
    · rw [hrest]
      rfl
    · rw [ih (fun hmem => h (List.mem_cons_of_mem c hmem)) hrest]

/-- The lines of a part that ends a line come before those of the part behind it. -/
theorem linesOf_append (h : first = [] ∨ first.getLast? = some '\n') (second : List Char) :
    linesOf (first ++ second) = linesOf first ++ linesOf second := by
  rcases h with rfl | h
  · rfl
  · obtain ⟨front, hfront⟩ := exists_normalizeLineEnds (Or.inl h)
    have hreturn : first.getLast? ≠ some '\r' := by simp [h]
    unfold linesOf
    rw [normalizeLineEnds_append fun hlast => absurd hlast hreturn, hfront, lines_append_of_ended]

/-- The same of the lines that count, even if a carriage return and a line feed are torn apart: then
they end an empty line more, and empty lines do not count. -/
theorem filterMap_linesOf_append (hempty : f [] = none) (h : AtLineStart first)
    (second : List Char) : (linesOf (first ++ second)).filterMap f =
      (linesOf first).filterMap f ++ (linesOf second).filterMap f := by
  rcases h with rfl | h | h
  · rfl
  · rw [linesOf_append (Or.inr h), List.filterMap_append]
  · by_cases htorn : second.head? = some '\n'
    · obtain ⟨rest, rfl⟩ := List.head?_eq_some_iff.1 htorn
      obtain ⟨front, rfl⟩ := List.getLast?_eq_some_iff.1 h
      have hends : normalizeLineEnds (front ++ ['\r', '\n']) =
          normalizeLineEnds (front ++ ['\r']) := by
        rw [normalizeLineEnds_append fun _ => by simp, normalizeLineEnds_append fun _ => by simp]
        rfl
      have hjoin : front ++ ['\r'] ++ '\n' :: rest = (front ++ ['\r', '\n']) ++ rest := by simp
      have hlines : linesOf (front ++ ['\r', '\n']) = linesOf (front ++ ['\r']) :=
        congrArg lines hends
      have hnext : linesOf ('\n' :: rest) = [] :: linesOf rest := rfl
      rw [hjoin, linesOf_append (Or.inr (by simp)), hlines, hnext, List.filterMap_append,
        List.filterMap_cons_none hempty]
    · obtain ⟨front, hfront⟩ := exists_normalizeLineEnds (Or.inr h)
      unfold linesOf
      rw [normalizeLineEnds_append fun _ => htorn, hfront, lines_append_of_ended,
        List.filterMap_append]

theorem linesOf_unbroken (h : Unbroken line) (hending : ending ∈ lineEnds) :
    linesOf (line ++ ending) = [line] := by
  have hline : normalizeLineEnds line = line := normalizeLineEnds_eq_self h.2
  have hend : normalizeLineEnds ending = ['\n'] := by
    revert hending
    simp only [lineEnds, List.mem_cons, List.not_mem_nil, or_false]
    rintro (rfl | rfl | rfl) <;> rfl
  have hjoin : normalizeLineEnds (line ++ ending) = line ++ ['\n'] := by
    rw [normalizeLineEnds_append, hline, hend]
    intro hlast
    exact absurd (List.mem_of_getLast? hlast) h.2
  rw [linesOf, hjoin, lines_append h.1, lines]

/-- A text ends with a part in which no line ends. -/
theorem exists_last_part (text : List Char) :
    ∃ before part, text = before ++ part ∧ AtLineStart before ∧ Unbroken part := by
  induction text with
  | nil => exact ⟨[], [], rfl, Or.inl rfl, by simp [Unbroken]⟩
  | cons c rest ih =>
    obtain ⟨before, part, rfl, hstart, hpart⟩ := ih
    by_cases hbefore : before = []
    · subst hbefore
      by_cases hc : c = '\n' ∨ c = '\r'
      · refine ⟨[c], part, rfl, Or.inr ?_, hpart⟩
        simpa using hc
      · rw [not_or] at hc
        refine ⟨[], c :: part, rfl, Or.inl rfl, ?_⟩
        simpa [Unbroken, Ne.symm hc.1, Ne.symm hc.2] using hpart
    · refine ⟨c :: before, part, rfl, Or.inr ?_, hpart⟩
      obtain ⟨last, hlast⟩ := Option.ne_none_iff_exists'.1 (mt List.getLast?_eq_none_iff.1 hbefore)
      simpa [List.getLast?_cons, hlast, hbefore, AtLineStart] using hstart

theorem linesOf_eq_singleton (h : Unbroken line) (hline : line ≠ []) : linesOf line = [line] := by
  rw [linesOf, normalizeLineEnds_eq_self h.2, lines_unbroken h.1 hline]

theorem filterMap_linesOf_unbroken (hempty : f [] = none) (h : Unbroken line) :
    (linesOf line).filterMap f = [line].filterMap f := by
  cases line with
  | nil => exact (List.filterMap_cons_none hempty).symm
  | cons c rest => rw [linesOf_eq_singleton h (by simp)]

/-- A line end behind a text makes no line count that did not count before. -/
theorem filterMap_linesOf_ended (hempty : f [] = none) (text : List Char)
    (hending : ending ∈ lineEnds) :
    (linesOf (text ++ ending)).filterMap f = (linesOf text).filterMap f := by
  obtain ⟨before, part, rfl, hstart, hpart⟩ := exists_last_part text
  rw [List.append_assoc, filterMap_linesOf_append hempty hstart,
    filterMap_linesOf_append hempty hstart, linesOf_unbroken hpart hending,
    filterMap_linesOf_unbroken hempty hpart]

/-! ## Inserting lines -/

/-- A line is inserted into a text: before another line or the end, or behind a last line that has no
line end. -/
inductive Inserts (line : List Char) : List Char → List Char → Prop where
  | between {before ending after : List Char} : AtLineStart before → ending ∈ lineEnds →
    Inserts line (before ++ after) (before ++ line ++ ending ++ after)
  | last {before : List Char} : AtLineStart before → Inserts line before (before ++ line)
  | behind {text ending : List Char} : ending ∈ lineEnds →
    Inserts line text (text ++ ending ++ line)

theorem atLineStart_append (before : List Char) (hending : ending ∈ lineEnds) :
    AtLineStart (before ++ ending) := by
  revert hending
  simp only [lineEnds, List.mem_cons, List.not_mem_nil, or_false]
  rintro (rfl | rfl | rfl) <;> simp [AtLineStart]

/-- A line that does not count changes nothing about the lines that count. -/
theorem Inserts.filterMap_linesOf (h : Inserts line text text') (hempty : f [] = none)
    (hline : f line = none) (hunbroken : Unbroken line) :
    (linesOf text').filterMap f = (linesOf text).filterMap f := by
  have hnone : (linesOf line).filterMap f = [] := by
    rw [filterMap_linesOf_unbroken hempty hunbroken, List.filterMap_cons_none hline]
    rfl
  cases h with
  | between hstart hending =>
    rw [filterMap_linesOf_append hempty (atLineStart_append _ hending),
      filterMap_linesOf_ended hempty _ hending, filterMap_linesOf_append hempty hstart, hnone,
      List.append_nil, filterMap_linesOf_append hempty hstart]
  | last hstart => rw [filterMap_linesOf_append hempty hstart, hnone, List.append_nil]
  | behind hending =>
    rw [filterMap_linesOf_append hempty (atLineStart_append _ hending), hnone, List.append_nil,
      filterMap_linesOf_ended hempty _ hending]

end Rollout.Text
