import Rollout.Fault
import Rollout.File.Path
import Rollout.Text.Lines
import Rollout.Text.Utf8

/-!
# The tree of files

The files and directories that a run can see, each at its place: the names that lead to it from the
working directory. A text is followed name by name, so that a missing directory, a file in place of
a directory, or a name that is too long is found where it stands.

A place may start with names `..` for the directories above the working directory, or with `/` for
the root.
-/

namespace Rollout.File

/-- What stands at a place. -/
inductive Node where
  /-- A file with its octets. -/
  | file (content : Octets)
  /-- A directory. -/
  | directory
deriving DecidableEq, Repr

/-- The names that lead to a place. -/
abbrev Place := List String

/-- The files and directories, apart from the working directory and those above it. -/
structure Tree where
  /-- What stands at each place. -/
  nodes : List (Place × Node) := []

namespace Tree

/-- Tells whether a place is the working directory, a directory above it, or the root. -/
def isGround (place : Place) : Bool := place.all (· = "..") || place = ["/"]

/-- What stands at a place. -/
def at? (tree : Tree) (place : Place) : Option Node :=
  if isGround place then some .directory else tree.nodes.lookup place

/-- Nodes with one put at a place: where one stood if one did, else at the end. -/
def putNode (place : Place) (node : Node) : List (Place × Node) → List (Place × Node)
  | [] => [(place, node)]
  | (other, old) :: rest =>
    if other = place then (place, node) :: rest else (other, old) :: putNode place node rest

/-- Puts a node at a place. -/
def put (tree : Tree) (place : Place) (node : Node) : Tree := ⟨putNode place node tree.nodes⟩

/-- Takes away what stands at a place. -/
def remove (tree : Tree) (place : Place) : Tree :=
  ⟨tree.nodes.filter fun entry => entry.1 ≠ place⟩

/-! ## Following a text -/

/-- The greatest number of octets of a name. -/
def nameLimit : Nat := 255

/-- The number of octets from which on a text is too long. -/
def textLimit : Nat := 4096

/-- The place above a place. -/
def above (place : Place) : Place :=
  if place = ["/"] then place
  else if place.all (· = "..") then place ++ [".."]
  else place.dropLast

/-- The place that a name leads to from a directory. -/
def enter (place : Place) (name : String) : Except Trouble Place :=
  if name = "" ∨ name = "." then .ok place
  else if name = ".." then .ok (above place)
  else if nameLimit < name.utf8ByteSize then .error .nameTooLong
  else .ok (place ++ [name])

/-- Follows names from a place that must be a directory; only the last name may lead to nothing. -/
def follow (tree : Tree) (place : Place) : List String → Except Trouble Place
  | [] => .ok place
  | name :: rest =>
    match tree.at? place with
    | none => .error .missing
    | some (.file _) => .error .notDirectory
    | some .directory =>
      match enter place name with
      | .error trouble => .error trouble
      | .ok next => follow tree next rest

/-- The place that a text leads to. -/
def locate (tree : Tree) (text : String) : Except Fault Place :=
  if text.toList.contains '\x00' then .error (.invalidValue "embedded null byte")
  else if text = "" then .error (.file ⟨.missing, text⟩)
  else if textLimit ≤ text.utf8ByteSize then .error (.file ⟨.nameTooLong, text⟩)
  else
    let names := (Text.splitAll '/' text.toList).map String.ofList
    let start : Place := if text.toList.head? = some '/' then ["/"] else []
    (tree.follow start names).mapError fun trouble => .file ⟨trouble, text⟩

/-! ## Operations -/

/-- What a text leads to. -/
def look (tree : Tree) (text : String) : Except Fault Node := do
  match tree.at? (← tree.locate text) with
  | some node => return node
  | none => .error (.file ⟨.missing, text⟩)

/-- Tells whether a text leads to anything. A text that cannot be followed leads to nothing, unless
a name in it is too long. -/
def holds (tree : Tree) (text : String) : Except Fault Bool :=
  match tree.look text with
  | .ok _ => .ok true
  | .error (.invalidValue _) => .ok false
  | .error (.file problem) =>
    if problem.trouble = .missing ∨ problem.trouble = .notDirectory then .ok false
    else .error (.file problem)
  | .error fault => .error fault

/-- Tells whether a text leads to a directory, in the cases in which `holds` answers. -/
def holdsDirectory (tree : Tree) (text : String) : Except Fault Bool := do
  if ← tree.holds text then return (← tree.look text) = .directory else return false

/-- The octets of the file that a text leads to. -/
def read (tree : Tree) (text : String) : Except Fault Octets := do
  match ← tree.look text with
  | .file content => return content
  | .directory => .error (.file ⟨.isDirectory, text⟩)

/-- The text of the file that a text leads to, with every line end a line feed. -/
def readText (tree : Tree) (text : String) : Except Fault (List Char) := do
  match Utf8.decode (← tree.read text) with
  | .ok content => return Text.normalizeLineEnds content
  | .error flaw => .error (.undecodable flaw.message)

/-- Makes a directory where nothing stands. -/
def makeDirectory (tree : Tree) (text : String) : Except Fault Tree := do
  let place ← tree.locate text
  match tree.at? place with
  | some _ => .error (.file ⟨.present, text⟩)
  | none => return tree.put place .directory

/-- Makes the directory at a path of the given names, and before it the directories on the way, as
far as they do not stand. What was made stays, whether the rest succeeds or not. -/
def makeDirectories (root : String) : List String → Tree → Except Fault Unit × Tree
  | names, tree =>
    go names.reverse tree
where
  /-- The same, for names from the last one to the first. -/
  go : List String → Tree → Except Fault Unit × Tree
    | [], tree => settle tree (Path.mk root []).text
    | name :: rest, tree =>
      let text := (Path.mk root (rest.reverse ++ [name])).text
      match tree.makeDirectory text with
      | .ok made => (.ok (), made)
      | .error (.file ⟨.missing, _⟩) =>
        match go rest tree with
        | (.error fault, tree) => (.error fault, tree)
        | (.ok (), tree) => settle tree text
      | .error _ => settle tree text
  /-- Makes one directory; it does not matter if it stands already. -/
  settle (tree : Tree) (text : String) : Except Fault Unit × Tree :=
    match tree.makeDirectory text with
    | .ok made => (.ok (), made)
    | .error fault =>
      match fault with
      | .file _ =>
        match tree.holdsDirectory text with
        | .ok true => (.ok (), tree)
        | .ok false => (.error fault, tree)
        | .error other => (.error other, tree)
      | _ => (.error fault, tree)

/-- Writes octets to the file that a text leads to. -/
def write (tree : Tree) (text : String) (content : Octets) : Except Fault Tree := do
  let place ← tree.locate text
  match tree.at? place with
  | some .directory => .error (.file ⟨.isDirectory, text⟩)
  | _ => return tree.put place (.file content)

/-! ## What operations keep -/

theorem lookup_putNode_same (place : Place) (node : Node) (nodes : List (Place × Node)) :
    (putNode place node nodes).lookup place = some node := by
  induction nodes with
  | nil => simp [putNode]
  | cons entry rest ih =>
    obtain ⟨other, old⟩ := entry
    by_cases h : other = place
    · simp [putNode, h]
    · have differ : (place == other) = false := by simp [Ne.symm h]
      simp [putNode, h, List.lookup_cons, differ, ih]

theorem lookup_putNode_other {place other : Place} (node : Node) (nodes : List (Place × Node))
    (h : other ≠ place) : (putNode place node nodes).lookup other = nodes.lookup other := by
  induction nodes with
  | nil =>
    have differ : (other == place) = false := by simp [h]
    simp [putNode, List.lookup_cons, differ]
  | cons entry rest ih =>
    obtain ⟨key, old⟩ := entry
    by_cases e : key = place
    · subst e
      have differ : (other == key) = false := by simp [h]
      simp [putNode, List.lookup_cons, differ]
    · by_cases f : other = key
      · subst f; simp [putNode, e]
      · have differ : (other == key) = false := by simp [f]
        simp [putNode, e, List.lookup_cons, differ, ih]

/-- What is put at a place stands there. -/
theorem at?_put_same {tree : Tree} {place : Place} {node : Node} (h : isGround place = false) :
    (tree.put place node).at? place = some node := by
  simp [at?, put, h, lookup_putNode_same]

/-- Putting a node at one place changes no other place. -/
theorem at?_put_other {tree : Tree} {place other : Place} {node : Node} (h : other ≠ place) :
    (tree.put place node).at? other = tree.at? other := by
  simp [at?, put, lookup_putNode_other node tree.nodes h]

end Tree

end Rollout.File
