import Rollout.Address
import Rollout.Contract
import Rollout.File.Problem

/-!
# Faults

What can end an action without a result. A `Cause` is a reason for which a deployment gives up; its
wording is `Cause.message`. The other faults come from outside (the node, the web, the user, the
files), or from a document or argument whose shape an action does not take.
-/

namespace Rollout

/-- The families of causes. -/
inductive Cause.Family where
  /-- A cause that belongs to no other family. -/
  | general
  /-- A transaction that cannot be broadcast or is reverted. -/
  | transaction
  /-- A genesis state that cannot be fetched or read. -/
  | genesis
  /-- Bytecode that refers to a library after linking, or is none. -/
  | linking
  /-- An initialization call that does not fit the contract. -/
  | initialization
  /-- A build artifact that is missing or malformed. -/
  | artifact
  /-- A supplied address without code. -/
  | predeployed
  /-- A second address for a contract. -/
  | conflict
  /-- A registry that cannot be written. -/
  | registryWrite
deriving DecidableEq, Repr

/-- The reasons for which a deployment gives up. -/
inductive Cause where
  /-- The node does not tell its chain. -/
  | chainUnknown (text : String)
  /-- The node does not tell the code at an address. -/
  | codeUnknown (address text : String)
  /-- A transaction fails on its way. -/
  | transactionFailed (text : String)
  /-- A transaction is reverted. -/
  | reverted (hash : String)
  /-- A receipt names no contract. -/
  | noContractAddress
  /-- The genesis state cannot be fetched. -/
  | genesisUnreachable (text : String)
  /-- The genesis state is no record. -/
  | genesisNotRecord
  /-- The genesis state lacks a field. -/
  | genesisFieldMissing (field : String)
  /-- A field of the genesis state is no integer. -/
  | genesisFieldInvalid (field text : String)
  /-- Bytecode still refers to libraries. -/
  | unresolvedLibrary (library : String) (count : Nat)
  /-- Linked bytecode is not hexadecimal. -/
  | bytecodeNotHex
  /-- No function of the contract has the name of the call. -/
  | noFunction
  /-- No function of that name takes the arguments. -/
  | noOverload (name : String) (count : Nat)
  /-- The call cannot be encoded. -/
  | notEncodable (function text : String)
  /-- There is no build artifact. -/
  | artifactMissing (path : String)
  /-- A build artifact cannot be read. -/
  | artifactUnreadable (path text : String)
  /-- A build artifact lacks a part. -/
  | artifactIncomplete (path : String)
  /-- A build artifact has no bytecode. -/
  | noBytecode
  /-- There is no code at a supplied address. -/
  | noCode (address : String)
  /-- Another address is recorded already. -/
  | conflict (recorded refused : String)
  /-- The registry cannot be written. -/
  | registryUnwritable (path text : String)
  /-- A line of a registry holds no address. -/
  | invalidEntry (value path : String) (line : Nat)
  /-- A cause reported from outside in its own words. -/
  | reported (family : Cause.Family) (text : String)
deriving DecidableEq, Repr

namespace Cause

/-- The family of a cause. -/
def family : Cause → Family
  | chainUnknown _ | codeUnknown _ _ | transactionFailed _ | reverted _ | noContractAddress =>
    .transaction
  | genesisUnreachable _ | genesisNotRecord | genesisFieldMissing _ | genesisFieldInvalid _ _ =>
    .genesis
  | unresolvedLibrary _ _ | bytecodeNotHex => .linking
  | noFunction | noOverload _ _ | notEncodable _ _ => .initialization
  | artifactMissing _ | artifactUnreadable _ _ | artifactIncomplete _ | noBytecode => .artifact
  | noCode _ => .predeployed
  | conflict _ _ => .conflict
  | registryUnwritable _ _ => .registryWrite
  | invalidEntry _ _ _ => .general
  | reported family _ => family

/-- The wording of a cause. -/
def message : Cause → String
  | chainUnknown text => "unable to query chain id: " ++ text
  | codeUnknown address text => "unable to query code at " ++ address ++ ": " ++ text
  | transactionFailed text => "deployment transaction failed: " ++ text
  | reverted hash => "deployment transaction " ++ hash ++ " reverted"
  | noContractAddress => "deployment receipt has no contract address"
  | genesisUnreachable text => "unable to fetch light client genesis: " ++ text
  | genesisNotRecord => "genesis response is not a JSON object"
  | genesisFieldMissing field => "genesis response is missing '" ++ field ++ "'"
  | genesisFieldInvalid field text => "genesis field '" ++ field ++ "' is invalid: " ++ text
  | unresolvedLibrary library count =>
    "unresolved library " ++ library ++ " (" ++ toString count
      ++ " unresolved reference(s) after linking)"
  | bytecodeNotHex => "bytecode is not valid hex after linking"
  | noFunction => "no matching function in ABI"
  | noOverload name count =>
    "could not find ABI for '" ++ name ++ "' with " ++ toString count
      ++ " arg(s) and given type(s)"
  | notEncodable function text => "unable to encode " ++ function ++ " call: " ++ text
  | artifactMissing path => "no build artifact at " ++ path ++ "; were the contracts compiled?"
  | artifactUnreadable path text => "malformed build artifact at " ++ path ++ ": " ++ text
  | artifactIncomplete path => "malformed build artifact at " ++ path
  | noBytecode => "malformed build artifact: no bytecode object"
  | noCode address => "no contract code at " ++ address
  | conflict recorded refused =>
    "already recorded at " ++ recorded ++ ", refusing to record " ++ refused
  | registryUnwritable path text => "unable to write registry to " ++ path ++ ": " ++ text
  | invalidEntry value path line =>
    "invalid address '" ++ value ++ "' at " ++ path ++ ":" ++ toString line
  | reported _ text => text

/-- The library at which linking failed. -/
def library? : Cause → Option String
  | unresolvedLibrary library _ => some library
  | _ => none

/-- The file that could not be written. -/
def path? : Cause → Option String
  | registryUnwritable path _ => some path
  | _ => none

end Cause

/-- The kinds of errors that the node, the web and the programs between report. -/
inductive ReportKind where
  | chainError
  | chainTimeout
  | rpcError
  | transactionNotFound
  | chainValueError
  | chainTypeError
  | badFunctionOutput
  | requestError
  | connectionError
  | requestTimeout
  | connectTimeout
  | httpError
  | tooManyRedirects
  | invalidUrl
  | missingSchema
  | chunkedEncodingError
  | tlsError
  | invalidJson
  | badValue
  | badType
  | badState
  | badAttribute
deriving DecidableEq, Repr

namespace ReportKind

/-- Tells whether a report comes from the node. -/
def isFromChain : ReportKind → Bool
  | chainError | chainTimeout | rpcError | transactionNotFound | chainValueError | chainTypeError
  | badFunctionOutput => true
  | _ => false

/-- Tells whether a report comes from the web. -/
def isFromWeb : ReportKind → Bool
  | requestError | connectionError | requestTimeout | connectTimeout | httpError | tooManyRedirects
  | invalidUrl | missingSchema | chunkedEncodingError | tlsError | invalidJson => true
  | _ => false

end ReportKind

/-- What ends an action without a result. -/
inductive Fault where
  /-- The deployment gives up for a cause, at a contract if one is concerned. -/
  | deployment (cause : Cause) (contract : Option Contract)
  /-- An error reported from outside, in its own words. -/
  | report (kind : ReportKind) (text : String)
  /-- The user declines. -/
  | refusal
  /-- The input ends where an answer is needed. -/
  | endOfInput
  /-- A value is not one that the action takes, with the reason. -/
  | invalidValue (text : String)
  /-- An interface cannot be used to create a contract. -/
  | unusableInterface
  /-- A value is of a kind that the action does not take. -/
  | wrongType
  /-- A value that should be a record is none. -/
  | notRecord
  /-- A record lacks a field. -/
  | fieldMissing
  /-- A number is too large. -/
  | tooLarge
  /-- A phrase is no mnemonic. -/
  | invalidMnemonic
  /-- A file does not hold UTF-8 text, with the reason. -/
  | undecodable (text : String)
  /-- A text has no UTF-8 form. -/
  | unencodable
  /-- A document has lists and records too deep in each other. -/
  | tooDeep
  /-- A file operation fails. -/
  | file (problem : File.Problem)
deriving DecidableEq, Repr

namespace Fault

/-- What a fault says for itself. -/
def text : Fault → String
  | deployment cause (some contract) => contract.name ++ ": " ++ cause.message
  | deployment cause none => cause.message
  | report _ text => text
  | invalidValue text => text
  | undecodable text => text
  | file problem => problem.message
  | _ => ""

/-- Tells whether a fault is an error of the network: of the node or of the way to it. -/
def isNetworkError : Fault → Bool
  | report kind _ => kind.isFromChain || kind.isFromWeb
  | _ => false

/-- The fault for a value that is no address. -/
def ofAddressFlaw : Address.Flaw → Fault
  | .wrongType => .wrongType
  | flaw => .invalidValue flaw.message

end Fault

/-- The contract of a variable, or the fault that there is none. -/
def Contract.ofVariable (variableName : String) : Except Fault Contract :=
  match ofVariable? variableName with
  | some contract => .ok contract
  | none => .error (.invalidValue ("Unknown contract variable '" ++ variableName ++ "'"))

/-- The name of a library that a text spells, or the fault that the text has no UTF-8 form. -/
def LibraryName.read (text : String) : Except Fault LibraryName :=
  if h : Text.isWellFormed text.toList = true then .ok ⟨text, h⟩ else .error .unencodable

/-- The address that a value stands for, or the fault that it is none. -/
def Address.read (value : Value) : Except Fault Address :=
  (Address.ofValue value).mapError Fault.ofAddressFlaw

end Rollout
