import Rollout.Text.Quoted

/-!
# What goes wrong with files

A file operation that fails tells what went wrong and for which path.
-/

namespace Rollout.File

/-- What can go wrong with a file operation. -/
inductive Trouble where
  /-- Nothing stands at the path. -/
  | missing
  /-- Something stands at the path already. -/
  | present
  /-- A file stands where the path needs a directory. -/
  | notDirectory
  /-- A directory stands where a file is needed. -/
  | isDirectory
  /-- A name on the path, or the path, is too long. -/
  | nameTooLong
deriving DecidableEq, Repr

/-- The number of a trouble. -/
def Trouble.number : Trouble → Nat
  | .missing => 2
  | .present => 17
  | .notDirectory => 20
  | .isDirectory => 21
  | .nameTooLong => 36

/-- The wording of a trouble. -/
def Trouble.message : Trouble → String
  | .missing => "No such file or directory"
  | .present => "File exists"
  | .notDirectory => "Not a directory"
  | .isDirectory => "Is a directory"
  | .nameTooLong => "File name too long"

/-- A trouble and the path at which it arose. -/
structure Problem where
  /-- What went wrong. -/
  trouble : Trouble
  /-- The path, as it was given. -/
  path : String
deriving DecidableEq, Repr

/-- The wording of a problem. -/
def Problem.message (problem : Problem) : String :=
  "[Errno " ++ toString problem.trouble.number ++ "] " ++ problem.trouble.message ++ ": "
    ++ String.ofList (Text.quoted problem.path.toList)

end Rollout.File
