/-!
# Blanks

The characters that separate words: the ASCII controls from tab to carriage return, the four
information separators, the space, and the spaces and line ends of Unicode. `strip` removes them
from both ends of a text.
-/

namespace Rollout.Text

/-- The code points of the blanks, in increasing order. -/
def blanks : List Nat :=
  [0x09, 0x0A, 0x0B, 0x0C, 0x0D, 0x1C, 0x1D, 0x1E, 0x1F, 0x20, 0x85, 0xA0, 0x1680, 0x2000, 0x2001,
    0x2002, 0x2003, 0x2004, 0x2005, 0x2006, 0x2007, 0x2008, 0x2009, 0x200A, 0x2028, 0x2029, 0x202F,
    0x205F, 0x3000]

/-- Tells whether a character is a blank. -/
def isBlank (c : Char) : Bool := blanks.contains c.toNat

/-- Tells whether a character is one of the four information separators. -/
def isInformationSeparator (c : Char) : Bool := 0x1C ≤ c.toNat && c.toNat ≤ 0x1F

/-- A text without the characters of a class at its two ends. -/
def trimBoth (p : Char → Bool) (text : List Char) : List Char :=
  ((text.dropWhile p).reverse.dropWhile p).reverse

/-- A text without blanks at its two ends. -/
def strip (text : List Char) : List Char := trimBoth isBlank text

/-- The two parts of a text around the first occurrence of a character. -/
def splitFirst? (c : Char) (text : List Char) : Option (List Char × List Char) :=
  match text.dropWhile (· != c) with
  | [] => none
  | _ :: after => some (text.takeWhile (· != c), after)

/-- The parts of a text between the occurrences of a character, empty parts included. -/
def splitAll (c : Char) : List Char → List (List Char)
  | [] => [[]]
  | x :: rest =>
    match splitAll c rest with
    | [] => [[]]
    | part :: parts => if x = c then [] :: part :: parts else (x :: part) :: parts

example : strip " \n a b\t".toList = "a b".toList := by decide
example : splitAll '/' "a//b".toList = ["a".toList, [], "b".toList] := by decide

/-- Nothing but blanks is removed by stripping a text of blanks. -/
theorem strip_eq_nil_of_blank {text : List Char} (h : ∀ c ∈ text, isBlank c) : strip text = [] := by
  have drop : text.dropWhile isBlank = [] := by
    induction text with
    | nil => rfl
    | cons c rest ih =>
      rw [List.dropWhile_cons, if_pos (h c (by simp))]
      exact ih fun d hd => h d (by simp [hd])
  simp [strip, trimBoth, drop]

theorem splitAll_ne_nil (c : Char) (text : List Char) : splitAll c text ≠ [] := by
  cases text with
  | nil => simp [splitAll]
  | cons x rest => simp only [splitAll]; split <;> (try split) <;> simp

end Rollout.Text
