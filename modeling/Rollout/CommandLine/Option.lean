import Rollout.Contract

/-!
# Options

The options of the command line, in the order of their declaration. An option is named by a long
name and perhaps by a letter; it takes one value, unless it is a flag. The value of an option that
is not given may come from a variable of the environment.
-/

namespace Rollout.CommandLine

/-- An option. -/
inductive Parameter where
  /-- The URL of the node. -/
  | rpcUrl
  /-- The URL of the orchestrator. -/
  | orchestratorUrl
  /-- The mnemonic of the wallet. -/
  | mnemonic
  /-- The index of the account in the wallet. -/
  | accountIndex
  /-- The file to which the registry is written. -/
  | output
  /-- The directory of the build artifacts. -/
  | artifacts
  /-- The registry of an earlier deployment. -/
  | registry
  /-- The address of a contract that is in place. -/
  | address (contract : Contract)
  /-- The flag that asks for a check of supplied addresses. -/
  | checkPredeployed
  /-- The flag that asks for consent before each step. -/
  | interactive
  /-- The flag that asks for help. -/
  | help
deriving DecidableEq, Repr

namespace Parameter

/-- The options in the order of their declaration. -/
def declared : List Parameter :=
  [rpcUrl, orchestratorUrl, mnemonic, accountIndex, output, artifacts, registry]
    ++ Contract.all.map address ++ [checkPredeployed, interactive, help]

/-- The long name of an option. -/
def longName : Parameter → String
  | rpcUrl => "--rpc-url"
  | orchestratorUrl => "--orchestrator-url"
  | mnemonic => "--mnemonic"
  | accountIndex => "--account-index"
  | output => "--out"
  | artifacts => "--artifacts-dir"
  | registry => "--registry-filepath"
  | address .hotShot => "--hotshot"
  | address .plonkVerifier => "--plonk-verifier"
  | address .lightClientStateUpdateVK => "--light-client-state-update-vk"
  | address .lightClient => "--light-client"
  | address .lightClientProxy => "--light-client-proxy"
  | checkPredeployed => "--check-predeployed"
  | interactive => "--interactive"
  | help => "--help"

/-- The letter of an option. -/
def letter? : Parameter → Option Char
  | rpcUrl => some 'r'
  | output => some 'o'
  | registry => some 'f'
  | _ => none

/-- Tells whether an option is a flag. An option with a letter is none. -/
def isFlag : Parameter → Bool
  | checkPredeployed => true
  | interactive => true
  | help => true
  | _ => false

/-- The variable from which the value of an option may come. -/
def variableName? : Parameter → Option String
  | rpcUrl => some "ESPRESSO_SEQUENCER_L1_PROVIDER"
  | orchestratorUrl => some "ESPRESSO_SEQUENCER_ORCHESTRATOR_URL"
  | mnemonic => some "ESPRESSO_SEQUENCER_ETH_MNEMONIC"
  | accountIndex => some "ESPRESSO_DEPLOYER_ACCOUNT_INDEX"
  | output => some "ESPRESSO_DEPLOYER_OUT_PATH"
  | artifacts => some "ESPRESSO_DEPLOYER_ARTIFACTS_DIR"
  | address contract => some contract.variableName
  | _ => none

/-- The names of an option as a message shows them. -/
def hint (parameter : Parameter) : String :=
  "'" ++ parameter.longName ++ "'"
    ++ match parameter.letter? with
      | some letter => " / '-" ++ String.singleton letter ++ "'"
      | none => ""

/-- The option of a long name. -/
def ofLongName? (name : String) : Option Parameter :=
  declared.find? fun parameter => parameter.longName = name

/-- The option of a letter. -/
def ofLetter? (letter : Char) : Option Parameter :=
  declared.find? fun parameter => parameter.letter? = some letter

end Parameter

end Rollout.CommandLine
