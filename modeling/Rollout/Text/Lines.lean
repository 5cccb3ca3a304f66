/-!
# Line ends

A text file may end its lines with a line feed, a carriage return or both. Reading makes every
line end a single line feed.
-/

namespace Rollout.Text

/-- A text with every line end made a line feed. -/
def normalizeLineEnds : List Char → List Char
  | '\r' :: '\n' :: rest => '\n' :: normalizeLineEnds rest
  | '\r' :: rest => '\n' :: normalizeLineEnds rest
  | c :: rest => c :: normalizeLineEnds rest
  | [] => []

/-- The lines of a text, without their line feeds; a line feed at the end opens no further line. -/
def lines : List Char → List (List Char)
  | [] => []
  | '\n' :: rest => [] :: lines rest
  | c :: rest =>
    match lines rest with
    | [] => [[c]]
    | part :: parts => (c :: part) :: parts

example : normalizeLineEnds "a\r\nb\rc\n".toList = "a\nb\nc\n".toList := by decide
example : lines "a\n\nbc".toList = ["a".toList, [], "bc".toList] := by decide
example : lines "ab\n".toList = ["ab".toList] := by decide

end Rollout.Text
