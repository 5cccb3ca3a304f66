import Rollout.Artifact
import Rollout.Chain.Node
import Rollout.Genesis.Source
import Rollout.Registry.Completion

/-!
# Sessions

A session is everything that a deployment can see and change: the files, the input, the output and
the notices, the node and the web, the account that signs, and what the deployment knows so far. An
action runs in a session and ends with a result or a fault; what it changed stays changed in either
case.

What is done in a session is kept, in order: each access to the node and the web, the beginning of
each transaction, and each step of resolving contracts through the registry. So are the contracts for
which the creation has answered with an address.
-/

namespace Rollout

/-- An access to the node or the web. -/
inductive Event where
  /-- A request to the web, with the seconds that it may take. -/
  | request (url : String) (timeout : Int)
  /-- The data of a transaction was put together from arguments. -/
  | constructor (arguments : List Value)
  /-- The number of transactions of an account was asked for. -/
  | nonce (account : String)
  /-- The number of the chain was asked for. -/
  | chainId
  /-- A transaction was completed. -/
  | build (account : String) (nonce chainId : Int) (data : Octets)
  /-- A transaction was broadcast. -/
  | send (nonce : Int)
  /-- The receipt of a transaction was waited for, with the seconds that it may take. -/
  | receipt (hash : Octets) (timeout : Int)
  /-- The code at an address was asked for. -/
  | code (address : String)

/-- What is done in a session. -/
inductive Deed where
  /-- The node or the web is accessed, for a contract if one is concerned. -/
  | access (contract : Option Contract) (event : Event)
  /-- The transaction that creates a contract is begun: its data are to be put together from bytecode
  and from the arguments of the constructor. -/
  | began (contract : Contract) (interface : Value) (bytecode : Octets) (arguments : List Value)
  /-- The procedure that deploys a contract is called. -/
  | called (contract : Contract)
  /-- The procedure that deploys a contract answers. -/
  | answered (contract : Contract) (answer : Value)
  /-- The address of a contract is found in the registry. -/
  | found (contract : Contract) (address : Address)
  /-- The address of a contract is recorded, for the first time or again. -/
  | recorded (contract : Contract) (address : Address)

/-- The access that a deed is. -/
def Deed.event? : Deed → Option Event
  | access _ event => some event
  | _ => none

/-- The stages of a deployment. -/
inductive Stage where
  /-- Nothing is deployed yet. -/
  | start
  /-- The contract without dependencies is deployed. -/
  | standaloneDeployed
  /-- The proxy and all that it depends on are deployed. -/
  | proxyChainResolved
  /-- The registry is written. -/
  | written
  /-- The deployment is done. -/
  | done
  /-- The deployment has failed. -/
  | failed
deriving DecidableEq, Repr

/-- The name of a stage in messages. -/
def Stage.name : Stage → String
  | .start => "start"
  | .standaloneDeployed => "standalone deployed"
  | .proxyChainResolved => "proxy chain resolved"
  | .written => "written"
  | .done => "done"
  | .failed => "failed"

/-- The account that signs, and how it goes about it. -/
structure Client where
  /-- The address of the account, as it is written. -/
  account : String := "0x00000000000000000000000000000000000000D3"
  /-- Tells whether transactions are signed without asking. -/
  autosign : Bool := true
  /-- How many seconds a receipt is waited for. -/
  receiptTimeout : Int := 120
  /-- The number of the chain, once the node has told it. -/
  chainId : Option Int := none

/-- Everything that a deployment can see and change. -/
structure Session where
  /-- The files. -/
  files : File.Tree := {}
  /-- The input that is not read yet. -/
  input : List Char := []
  /-- The output so far. -/
  output : String := ""
  /-- The notices so far. -/
  notices : String := ""
  /-- What was done so far, in order. -/
  deeds : List Deed := []
  /-- The node. -/
  node : Chain.Node := {}
  /-- The web. -/
  web : Web := {}
  /-- The account that signs. -/
  client : Client := {}
  /-- The build artifacts. -/
  artifacts : ArtifactStore := { directory := .ofText "out" }
  /-- The source of the genesis state. -/
  genesis : GenesisSource := { url := "" }
  /-- The registry. -/
  registry : Registry := {}
  /-- The stage of the deployment. -/
  stage : Stage := .start
  /-- The registry commands that procedures have completed, in order. -/
  completions : List Registry.Completion := []
  /-- The contracts that were created, in order, with the addresses that were answered. -/
  creations : List (Contract × Address) := []

/-- The accesses to the node and the web so far, in order. -/
def Session.events (session : Session) : List Event := session.deeds.filterMap Deed.event?

/-- What runs in a session. -/
abbrev Action := EStateM Fault Session

namespace Action

/-- Ends with a result or a fault that is known already. -/
def ofExcept {α : Type} : Except Fault α → Action α
  | .ok value => pure value
  | .error fault => throw fault

/-- The session as it stands. -/
def session : Action Session := get

/-- Adds text to the notices. -/
def tell (text : String) : Action Unit :=
  modify fun session => { session with notices := session.notices ++ text }

/-- Adds a line to the notices. -/
def notice (text : String) : Action Unit := tell (text ++ "\n")

/-- Adds text to the output. -/
def emit (text : String) : Action Unit :=
  modify fun session => { session with output := session.output ++ text }

/-- Keeps a deed. -/
def log (deed : Deed) : Action Unit :=
  modify fun session => { session with deeds := session.deeds ++ [deed] }

/-- Reads a line of the input. -/
def readLine : Action (List Char) := do
  let session ← get
  match session.input with
  | [] => throw .endOfInput
  | input =>
    set { session with input := (input.dropWhile (· != '\n')).drop 1 }
    return input.takeWhile (· != '\n')

/-- Accesses the node at a step, for a contract if one is concerned: the access is kept, and an
outage ends it. -/
def access (contract : Option Contract) (step : Chain.Step) (event : Event) : Action Unit := do
  log (.access contract event)
  let session ← get
  set { session with node := session.node.accessed step }
  match session.node.outage? step with
  | some fault => throw fault
  | none => return ()

/-- Requests a URL. -/
def request (url : String) (timeout : Int) : Action (Except Fault Response) := do
  log (.access none (.request url timeout))
  let session ← get
  set { session with web.requests := session.web.requests + 1 }
  return session.web.answer

/-- The artifact of a contract. -/
def artifact (contract : Contract) : Action Artifact := do
  let session ← get
  let (artifact, artifacts) ← ofExcept (session.artifacts.get session.files contract)
  set { session with artifacts }
  return artifact

/-- The genesis state, fetched if it is not known yet. -/
def genesis : Action Genesis := do
  let session ← get
  match session.genesis.fetched with
  | some genesis => return genesis
  | none =>
    let endpoint := session.genesis.endpoint
    notice ("Fetching light client genesis from " ++ endpoint ++ "...")
    let answer ← request endpoint session.genesis.timeout
    let genesis ← ofExcept (session.genesis.read answer)
    modify fun session => { session with genesis.fetched := some genesis }
    return genesis

end Action

end Rollout
