import Rollout.CommandLine.Argument
import Rollout.CommandLine.Parser
import Rollout.File.Tree

/-!
# Settings

The settings of a deployment come from the command line, else from the environment, else they have a
default. An empty variable counts as not set; an empty value on the command line counts as given.
The options are settled one after the other, and the first one at fault is reported.
-/

namespace Rollout.CommandLine

/-- The variables of the environment. -/
abbrev Environment := List (String × String)

/-- The settings of a deployment. -/
structure Settings where
  /-- The URL of the node. -/
  rpcUrl : String := "http://localhost:8545"
  /-- The URL of the orchestrator. -/
  orchestratorUrl : String := "http://localhost:40001"
  /-- The mnemonic of the wallet. -/
  mnemonic : String := "test test test test test test test test test test test junk"
  /-- The index of the account in the wallet. -/
  accountIndex : Nat := 0
  /-- The file to which the registry is written. -/
  output : Option File.Path := none
  /-- The directory of the build artifacts. -/
  artifacts : File.Path := .ofText "contracts/out"
  /-- The registry of an earlier deployment. -/
  registry : Option File.Path := none
  /-- The addresses of contracts that are in place. -/
  addresses : List (Contract × Address) := []
  /-- Tells whether supplied addresses are checked. -/
  checkPredeployed : Bool := false
  /-- Tells whether consent is asked for before each step. -/
  interactive : Bool := false

/-- Why a command line gives no settings. -/
inductive Refusal where
  /-- The command line is misused. -/
  | misuse (misuse : Misuse)
  /-- Settling an option fails in a way that is no misuse. -/
  | failed (fault : Fault)

/-- The fault or misuse of an option's value. -/
def Refusal.ofArgument (parameter : Parameter) : ArgumentFault → Refusal
  | .unsuitable text => .misuse (.invalidValue parameter.hint text)
  | .failed fault => .failed fault

/-- What a path must lead to, if it leads to anything. -/
inductive PathRule where
  /-- To a file. -/
  | file
  /-- To a file, and it must lead to one. -/
  | existingFile
  /-- To a directory. -/
  | directory
deriving DecidableEq, Repr

/-- The path that a text spells, if it keeps a rule. -/
def settlePath (files : File.Tree) (rule : PathRule) (text : String) :
    Except ArgumentFault File.Path :=
  let shown := Misuse.quote text
  match files.look text with
  | .ok (.file _) =>
    if rule = .directory then .error (.unsuitable ("Directory " ++ shown ++ " is a file."))
    else .ok (.ofText text)
  | .ok .directory =>
    if rule = .directory then .ok (.ofText text)
    else .error (.unsuitable ("File " ++ shown ++ " is a directory."))
  | .error (.file _) =>
    if rule = .existingFile then .error (.unsuitable ("File " ++ shown ++ " does not exist."))
    else .ok (.ofText text)
  | .error fault => .error (.failed fault)

/-- The text for an option: from the command line, else from the environment. -/
def textFor? (arguments : Arguments) (environment : Environment) (parameter : Parameter) :
    Option String :=
  match arguments.value? parameter with
  | some text => some text
  | none => do
    let text ← environment.lookup (← parameter.variableName?)
    if text.isEmpty then none else some text

/-- Settings with the value of an option that a text gives. -/
def settleText (files : File.Tree) (settings : Settings) (parameter : Parameter) (text : String) :
    Except ArgumentFault Settings :=
  match parameter with
  | .rpcUrl => .ok { settings with rpcUrl := text }
  | .orchestratorUrl => .ok { settings with orchestratorUrl := text }
  | .mnemonic => .ok { settings with mnemonic := text }
  | .accountIndex => do
    return { settings with accountIndex := ← CommandLine.accountIndex (.text text) }
  | .output => do return { settings with output := some (← settlePath files .file text) }
  | .artifacts => do return { settings with artifacts := ← settlePath files .directory text }
  | .registry => do
    return { settings with registry := some (← settlePath files .existingFile text) }
  | .address contract => do
    match ← suppliedAddress (.text text) with
    | some address =>
      return { settings with addresses := settings.addresses ++ [(contract, address)] }
    | none => return settings
  | .checkPredeployed => .ok { settings with checkPredeployed := true }
  | .interactive => .ok { settings with interactive := true }
  | .help => .ok settings

/-- Settings with the value of an option: the one that a text gives, else the default, which must
keep the rule of the option too. -/
def settleOption (files : File.Tree) (settings : Settings) (parameter : Parameter) :
    Option String → Except ArgumentFault Settings
  | some text => settleText files settings parameter text
  | none =>
    match parameter with
    | .artifacts => do
      return { settings with artifacts := ← settlePath files .directory settings.artifacts.text }
    | _ => .ok settings

/-- Settles options one after the other. -/
def settleAll (files : File.Tree) (arguments : Arguments) (environment : Environment) :
    Settings → List Parameter → Except Refusal Settings
  | settings, [] => .ok settings
  | settings, parameter :: rest =>
    match settleOption files settings parameter (textFor? arguments environment parameter) with
    | .ok settings => settleAll files arguments environment settings rest
    | .error fault => .error (.ofArgument parameter fault)

/-- The settings that a command line and an environment give. -/
def Settings.of (files : File.Tree) (arguments : Arguments) (environment : Environment) :
    Except Refusal Settings := do
  let settings ← settleAll files arguments environment {} arguments.settleOrder
  if arguments.extra.isEmpty then return settings
  else .error (.misuse (.extraArguments arguments.extra))

end Rollout.CommandLine
