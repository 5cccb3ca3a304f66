import Rollout.CommandLine.Run
import Rollout.Wallet.KeyPath

/-!
# The command

The command rehearses a deployment: its files, its environment and its answers are those of the
terminal, while the node and the web are those of a fresh session.

A run is a function of its input. So it is run on the input known so far, and where it asks for more
it is run again with one more line; only what a run says beyond the one before is shown.
-/

namespace Rollout.Terminal

open CommandLine

/-- The variables that the command reads. -/
def environment : IO Environment := do
  let names := Parameter.declared.filterMap Parameter.variableName?
  let found ← names.mapM fun name => return (← IO.getEnv name).map fun value => (name, value)
  return found.filterMap id

/-- The texts of the paths that a run may follow: every word, and every variable. -/
def pathTexts (environment : Environment) (words : List String) : List String :=
  let values := words.filterMap fun word =>
    (Text.splitFirst? '=' word.toList).map fun parts => String.ofList parts.2
  let letters := words.map fun word => String.ofList (word.toList.drop 2)
  let directories := words ++ values ++ environment.map (·.2) ++ ["contracts/out"]
  let artifacts := directories.flatMap fun directory =>
    Contract.all.map fun contract =>
      (ArtifactStore.path { directory := .ofText directory } contract).text
  letters ++ directories ++ artifacts

/-- The paths on the way to a path, the shorter ones first, and the path itself. -/
def onTheWay (path : File.Path) : List File.Path :=
  (List.range path.names.length).map fun i => { path with names := path.names.take (i + 1) }

/-- What stands at a path of the machine. -/
def nodeAt? (path : String) : IO (Option File.Node) := do
  try
    let data ← (← IO.FS.realPath path).metadata
    match data.type with
    | .dir => return some .directory
    | _ => return some (.file (← IO.FS.readBinFile path).toList)
  catch _ => return none

/-- The files that a run may see. -/
def files (texts : List String) : IO File.Tree := do
  let mut tree : File.Tree := {}
  for text in texts do
    let path := File.Path.ofText text
    if path.root.isEmpty ∧ !path.names.contains ".." ∧ !text.toList.contains '\x00' then
      for path in onTheWay path do
        if (tree.at? path.names).isNone then
          if let some node ← nodeAt? path.text then tree := tree.put path.names node
  return tree

/-- Brings the machine's files to those of a tree. -/
def store (before after : File.Tree) : IO Unit := do
  for (place, node) in after.nodes do
    unless before.at? place = some node do
      let path := "/".intercalate place
      match node with
      | .directory => IO.FS.createDirAll path
      | .file content => IO.FS.writeBinFile path ⟨content.toArray⟩

/-- The account of a wallet. -/
def account (settings : Settings) : Except Fault String :=
  match Wallet.accountAddress? settings.mnemonic settings.accountIndex with
  | some address => .ok address.text
  | none => .error .invalidMnemonic

/-- Runs the command on the input known so far, and on more input as long as it asks for it. `told`
is the number of characters that were shown already. -/
partial def runOn (environment : Environment) (words : List String) (start : Session)
    (told : Nat) : IO UInt32 := do
  match EStateM.run (attempt account environment words) start with
  | .error _ _ => return 1
  | .ok report session =>
    IO.eprint (String.ofList (session.notices.toList.drop told))
    let line ←
      match report.ending with
      | .aborted => (← IO.getStdin).getLine
      | _ => pure ""
    if line.isEmpty then
      IO.print session.output
      IO.eprint report.ending.notice
      store start.files session.files
      return UInt32.ofNat (report.ending.exitCode % 256).toNat
    else
      runOn environment words { start with input := start.input ++ line.toList }
        session.notices.length

end Rollout.Terminal

/-- Runs the command. -/
def main (words : List String) : IO UInt32 := do
  let environment ← Rollout.Terminal.environment
  let files ← Rollout.Terminal.files (Rollout.Terminal.pathTexts environment words)
  Rollout.Terminal.runOn environment words { files } 0
