import Rollout.Text.Blank
import Rollout.Text.Lines

/-!
# Reading plain text

What is written is plain text: visible ASCII characters and line feeds. Such text is not changed by
stripping, and has no line ends but line feeds.
-/

namespace Rollout

namespace Text

variable {c : Char} {line text name value left word right : List Char}

/-- Tells whether a character is a visible ASCII character. -/
def isVisible (c : Char) : Bool := 33 ≤ c.toNat && c.toNat ≤ 126

theorem isBlank_of_isVisible (h : isVisible c = true) : isBlank c = false := by
  simp only [isVisible, Bool.and_eq_true, decide_eq_true_eq] at h
  simp only [isBlank, blanks, List.contains_eq_mem, List.mem_cons, List.not_mem_nil, or_false,
    decide_eq_false_iff_not]
  omega

theorem ne_of_isVisible {d : Char} (h : isVisible c = true) (hd : isVisible d = false) : c ≠ d := by
  rintro rfl
  rw [h] at hd
  cases hd

theorem dropWhile_isBlank (h : ∀ c ∈ text, isBlank c = false) : text.dropWhile isBlank = text := by
  cases text with
  | nil => rfl
  | cons c rest =>
    rw [List.dropWhile_cons, h c List.mem_cons_self]
    rfl

theorem dropWhile_isBlank_eq_self (h : ∀ c ∈ text, isVisible c = true) :
    text.dropWhile isBlank = text :=
  dropWhile_isBlank fun c hc => isBlank_of_isVisible (h c hc)

/-- Stripping takes the blanks around a word off. -/
theorem strip_between (hleft : ∀ c ∈ left, isBlank c = true)
    (hword : ∀ c ∈ word, isBlank c = false) (hright : ∀ c ∈ right, isBlank c = true) :
    strip (left ++ word ++ right) = word := by
  have hreverse : ∀ c ∈ right.reverse, isBlank c = true := by
    intro c hc
    exact hright c (List.mem_reverse.1 hc)
  rw [strip, trimBoth, List.append_assoc, List.dropWhile_append_of_pos hleft]
  cases word with
  | nil => exact strip_eq_nil_of_blank hright
  | cons c rest =>
    rw [List.cons_append, List.dropWhile_cons, hword c List.mem_cons_self, if_neg (by simp),
      ← List.cons_append, List.reverse_append, List.dropWhile_append_of_pos hreverse,
      dropWhile_isBlank fun d hd => hword d (List.mem_reverse.1 hd), List.reverse_reverse]

theorem strip_eq_self (h : ∀ c ∈ text, isVisible c = true) : strip text = text := by
  have hword : ∀ c ∈ text, isBlank c = false := fun c hc => isBlank_of_isVisible (h c hc)
  have hnone : ∀ c ∈ ([] : List Char), isBlank c = true := by simp
  simpa using strip_between hnone hword hnone

theorem splitFirst?_append (h : c ∉ name) (value : List Char) :
    splitFirst? c (name ++ c :: value) = some (name, value) := by
  have hname : ∀ d ∈ name, (d != c) = true := fun d hd =>
    bne_iff_ne.2 fun e => h (e ▸ hd)
  have hstop : (c != c) = false := by simp
  rw [splitFirst?, List.dropWhile_append_of_pos hname, List.takeWhile_append_of_pos hname]
  rw [List.dropWhile_cons, List.takeWhile_cons, hstop]
  simp

/-! ## Lines -/

theorem lines_append (h : '\n' ∉ line) (rest : List Char) :
    lines (line ++ '\n' :: rest) = line :: lines rest := by
  induction line with
  | nil => rw [List.nil_append, lines]
  | cons c line ih =>
    have hne : c ≠ '\n' := fun e => h (e ▸ List.mem_cons_self)
    rw [List.cons_append, lines]
    · rw [ih fun hmem => h (List.mem_cons_of_mem c hmem)]
    · exact hne

/-- The lines of a text are those of which it is made. -/
theorem lines_flatMap {parts : List (List Char)} (h : ∀ part ∈ parts, '\n' ∉ part) :
    lines (parts.flatMap fun part => part ++ ['\n']) = parts := by
  induction parts with
  | nil => rfl
  | cons part rest ih =>
    rw [List.flatMap_cons, List.append_assoc]
    show lines (part ++ '\n' :: rest.flatMap fun part => part ++ ['\n']) = part :: rest
    rw [lines_append (h part List.mem_cons_self),
      ih fun other hother => h other (List.mem_cons_of_mem _ hother)]

/-- Text without carriage returns keeps its line ends. -/
theorem normalizeLineEnds_eq_self (h : '\r' ∉ text) : normalizeLineEnds text = text := by
  induction text with
  | nil => rfl
  | cons c rest ih =>
    have hne : c ≠ '\r' := fun e => h (e ▸ List.mem_cons_self)
    rw [normalizeLineEnds]
    · rw [ih fun hmem => h (List.mem_cons_of_mem c hmem)]
    · rintro _ rfl -
      exact hne rfl
    · exact hne

end Text

end Rollout
