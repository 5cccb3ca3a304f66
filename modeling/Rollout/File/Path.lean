import Rollout.Text.Blank

/-!
# Paths

A path is a root, which is empty for a relative path, and names. The text of a path has one slash
between its names; the names that a text repeats without effect (empty ones and single points) are
no part of the path.
-/

namespace Rollout.File

/-- A path in the tree of files. -/
structure Path where
  /-- The text before the names: empty, or slashes. -/
  root : String
  /-- The names on the path. -/
  names : List String
deriving DecidableEq, Repr

namespace Path

/-- The slashes that a text starts with, as far as they count: two are kept, more are one. -/
def rootOf (text : List Char) : String :=
  match (text.takeWhile (· = '/')).length with
  | 0 => ""
  | 2 => "//"
  | _ => "/"

/-- The path that a text spells. -/
def ofText (text : String) : Path where
  root := rootOf text.toList
  names := ((Text.splitAll '/' text.toList).filter fun name => name ≠ [] ∧ name ≠ ['.']).map
    String.ofList

/-- A path as text. -/
def text (path : Path) : String :=
  match path.root ++ "/".intercalate path.names with
  | "" => "."
  | text => text

/-- The path to the directory in which a path ends. -/
def parent (path : Path) : Path := { path with names := path.names.dropLast }

/-- A path with a name added. -/
def child (path : Path) (name : String) : Path := { path with names := path.names ++ [name] }

example : (ofText "./a//b").text = "a/b" := by decide
example : (ofText "").text = "." := by decide
example : (ofText "a").parent.text = "." := by decide

end Path

end Rollout.File
