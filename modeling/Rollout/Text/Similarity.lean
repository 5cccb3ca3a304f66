import Rollout.Text.Order

/-!
# Similar texts

How similar two texts are is measured by the characters in their common blocks: the longest block
that both hold, and the same again on either side of it. A misspelled word is answered with the few
words of a list that are similar enough to it.
-/

namespace Rollout.Text

/-- The number of characters that two texts have in common at their heads. -/
def commonHead : List Char → List Char → Nat
  | a :: as, b :: bs => if a = b then commonHead as bs + 1 else 0
  | _, _ => 0

/-- A block that two texts have in common. -/
structure Block where
  /-- Where the block starts in the first text. -/
  first : Nat
  /-- Where the block starts in the second text. -/
  second : Nat
  /-- The number of characters of the block. -/
  size : Nat

/-- The longest block that two texts have in common; of several the one that starts first in the
first text, then in the second. -/
def longestBlock (a b : List Char) : Block :=
  (List.range a.length).foldl
    (fun best i =>
      (List.range b.length).foldl
        (fun best j =>
          let size := commonHead (a.drop i) (b.drop j)
          if best.size < size then ⟨i, j, size⟩ else best)
        best)
    ⟨0, 0, 0⟩

/-- The number of characters in the common blocks of two texts; `fuel` bounds the number of blocks
on the way to any of them. -/
def matchedTo : Nat → List Char → List Char → Nat
  | 0, _, _ => 0
  | fuel + 1, a, b =>
    let block := longestBlock a b
    if block.size = 0 then 0
    else
      block.size + matchedTo fuel (a.take block.first) (b.take block.second)
        + matchedTo fuel (a.drop (block.first + block.size)) (b.drop (block.second + block.size))

/-- The number of characters in the common blocks of two texts. -/
def matched (a b : List Char) : Nat := matchedTo (a.length + 1) a b

/-- Tells whether at least six tenths of the characters of two texts are in common blocks. -/
def isSimilar (a b : List Char) : Bool := 6 * (a.length + b.length) ≤ 20 * matched a b

/-- Tells whether the first of two words is at least as similar to a text as the second. -/
def atLeastAsSimilar (text a b : List Char) : Bool :=
  let left := matched a text * (b.length + text.length)
  let right := matched b text * (a.length + text.length)
  right < left || (left = right && atMost b a)

/-- The words of a list that are similar to a text, the most similar ones up to a number. -/
def similarWords (count : Nat) (text : List Char) (words : List (List Char)) : List (List Char) :=
  ((words.filter fun word => isSimilar word text).mergeSort (atLeastAsSimilar text)).take count

example : matched "acb".toList "ab".toList = 2 := by decide

end Rollout.Text
