import Rollout.CommandLine.Settings
import Rollout.Deployment

/-!
# Running the command

The command reads its settings and the registry of an earlier deployment, puts the addresses
together (those given explicitly come before those of the registry), opens the account, says what it
is about to do, asks for consent in interactive use, and deploys. Each way to end has an exit code
of its own.
-/

namespace Rollout.CommandLine

/-- How a run of the command ends. -/
inductive Ending where
  /-- All is done. -/
  | done
  /-- The command line is misused. -/
  | misused (misuse : Misuse)
  /-- The deployment gives up, with what it says. -/
  | failed (text : String)
  /-- The user declines. -/
  | declined
  /-- The input ends where an answer is needed. -/
  | aborted
  /-- A fault that the command does not answer for. -/
  | uncaught (fault : Fault)
deriving DecidableEq, Repr

namespace Ending

/-- The exit code of an ending. -/
def exitCode : Ending → Int
  | done => 0
  | misused _ => 2
  | declined => -1
  | failed _ | aborted | uncaught _ => 1

/-- The last words of a run. -/
def notice : Ending → String
  | misused misuse => misuse.shown
  | failed text => "Error: " ++ text ++ "\n"
  | aborted => "\nAborted!\n"
  | done | declined | uncaught _ => ""

/-- The ending of a run that a fault ended. -/
def ofFault : Fault → Ending
  | .deployment cause contract => failed (Fault.deployment cause contract).text
  | .refusal => declined
  | .endOfInput => aborted
  | fault => uncaught fault

/-- The ending of a run whose command line gives no settings. -/
def ofRefusal : Refusal → Ending
  | .misuse misuse => misused misuse
  | .failed fault => ofFault fault

/-- The ending of a run whose registry cannot be read: an address in it that is none is a misuse of
the option that names it. -/
def ofRegistryFault : Fault → Ending
  | .deployment cause contract =>
    misused (.invalidValue Parameter.registry.longName (Fault.deployment cause contract).text)
  | fault => ofFault fault

end Ending

/-- What a run leaves: how it ended, and the settings if it came to open an account. -/
structure Report where
  /-- How the run ended. -/
  ending : Ending
  /-- The settings with which an account was opened. -/
  opened : Option Settings := none

/-- The values for the addresses of contracts: those of a registry, then those given explicitly. -/
def supply (recorded : List (Contract × Address)) (settings : Settings) : Supply :=
  Contract.all.foldl
    (fun known contract =>
      match settings.addresses.lookup contract with
      | some address => known.set contract (.text address.text)
      | none => known)
    (Registry.toSupply recorded)

/-- Says what a deployment is about to do. -/
def describe (settings : Settings) : Action Unit := do
  let chain ← Client.queryChainId
  let session ← Action.session
  let names := (Deployment.sortContracts session.registry.predeployed).map Contract.name
  Action.notice ("Account: " ++ session.client.account)
  Action.notice ("RPC: " ++ settings.rpcUrl)
  Action.notice ("Chain ID: " ++ toString chain)
  Action.notice ("Orchestrator: " ++ settings.orchestratorUrl)
  Action.notice ("Output: " ++ (settings.output.map File.Path.text).getD "stdout")
  Action.notice ("Predeployed: " ++ (if names.isEmpty then "none" else ", ".intercalate names))

/-- Says what a deployment is about to do, asks for consent in interactive use, and deploys. -/
def deploy (settings : Settings) : Action Unit := do
  describe settings
  if settings.interactive then Consent.askStart
  modify fun session => { session with
    artifacts := { directory := settings.artifacts }
    genesis := { url := settings.orchestratorUrl } }
  Deployment.run ⟨settings.output, settings.checkPredeployed⟩

/-- The addresses of the registry that the settings name. -/
def recorded (settings : Settings) : Action (List (Contract × Address)) :=
  match settings.registry with
  | none => return []
  | some path => Registry.load path.text

/-- Runs an action and answers with its result or fault. -/
def observe {α : Type} (action : Action α) : Action (Except Fault α) :=
  tryCatch (do return .ok (← action)) fun fault => return .error fault

/-- Opens the account of the settings, and deploys. -/
def deployFrom (account : Settings → Except Fault String) (settings : Settings)
    (registry : Registry) : Action Unit := do
  let address ← Action.ofExcept (account settings)
  modify fun session => { session with
    registry
    client := { account := address, autosign := !settings.interactive } }
  Client.announce
  deploy settings

/-- Runs the command with its settings. -/
def runWith (account : Settings → Except Fault String) (settings : Settings) : Action Report := do
  match ← observe (recorded settings) with
  | .error fault => return ⟨.ofRegistryFault fault, none⟩
  | .ok addresses =>
    match Registry.ofSupply (supply addresses settings) with
    | .error fault => return ⟨.ofFault fault, none⟩
    | .ok registry =>
      match ← observe (deployFrom account settings registry) with
      | .error fault => return ⟨.ofFault fault, some settings⟩
      | .ok () => return ⟨.done, some settings⟩

/-- The text that answers the flag for help. -/
def helpText : String :=
  "Usage: cli [OPTIONS]\n\n  Deploy the contracts needed to run the sequencer.\n\nOptions:\n"
    ++ String.join (Parameter.declared.map fun parameter => "  " ++ parameter.longName ++ "\n")

/-- Runs the command up to its last words; `account` opens an account. -/
def attempt (account : Settings → Except Fault String) (environment : Environment)
    (words : List String) : Action Report := do
  match Arguments.read words with
  | .error misuse => return ⟨.misused misuse, none⟩
  | .ok arguments =>
    if arguments.has .help then
      Action.emit helpText
      return ⟨.done, none⟩
    else
      match Settings.of (← Action.session).files arguments environment with
      | .error refusal => return ⟨.ofRefusal refusal, none⟩
      | .ok settings => runWith account settings

/-- Runs the command; `account` opens an account. -/
def run (account : Settings → Except Fault String) (environment : Environment)
    (words : List String) : Action Report := do
  let report ← attempt account environment words
  Action.tell report.ending.notice
  return report

end Rollout.CommandLine
