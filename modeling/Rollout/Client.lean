import Rollout.Consent

/-!
# Creating contracts

A contract is created by one transaction: its data is put together, completed with the number of the
transaction and of the chain, signed and broadcast; then its receipt is waited for, which must tell
of success and name the address of the contract. An error of the network on the way is a failure of
the transaction.
-/

namespace Rollout.Client

/-- Runs an action, turning an error of the network into a cause. -/
def naming {α : Type} (cause : String → Cause) (contract : Option Contract)
    (action : Action α) : Action α :=
  tryCatch action fun fault =>
    throw (if fault.isNetworkError then .deployment (cause fault.text) contract else fault)

/-- The number of the chain, which the node is asked for until it has told it once; it may be needed
for a contract. -/
def queryChainId (contract : Option Contract := none) : Action Int := do
  match (← get).client.chainId with
  | some number => return number
  | none =>
    naming .chainUnknown none (Action.access contract .chainId .chainId)
    let number := (← get).node.chainId
    modify fun session => { session with client.chainId := some number }
    return number

/-- The code at an address. -/
def queryCode (address : String) : Action Octets := do
  naming (.codeUnknown address) none (Action.access none .code (.code address))
  return (← get).node.codeAt address

/-- Puts the data of a contract's transaction together. -/
def assemble (contract : Contract) (interface : Value) (bytecode : Octets)
    (arguments : List Value) : Action Octets := do
  Action.log (.began contract interface bytecode arguments)
  let data ← Action.ofExcept (Abi.creationData interface bytecode arguments)
  Action.access (some contract) .constructor (.constructor arguments)
  return data

/-- Completes, signs and broadcasts a contract's transaction, and answers with its hash. -/
def broadcast (contract : Contract) (data : Octets) : Action Octets := do
  let account := (← get).client.account
  Action.access (some contract) .nonce (.nonce account)
  let nonce := (← get).node.transactionCount
  let chain ← queryChainId (some contract)
  Action.access (some contract) .build (.build account nonce chain data)
  Action.access (some contract) .send (.send nonce)
  modify fun session => { session with node.sent := session.node.sent + 1 }
  let hash := (← get).node.lastHash
  Action.notice ("(i) Sent transaction " ++ Hex.text hash)
  return hash

/-- What is told if there is no transaction with a hash after some seconds. -/
def awaitedInVain (hash : Octets) (timeout : Int) : Fault :=
  .report .chainTimeout ("Transaction HexBytes('" ++ Hex.text hash ++ "') is not in the chain after "
    ++ toString timeout ++ " seconds")

/-- Waits for the receipt of a contract's transaction, which is looked up by its hash. -/
def awaitReceipt (contract : Contract) (hash : Octets) : Action Chain.Receipt := do
  let timeout := (← get).client.receiptTimeout
  Action.access (some contract) .receipt (.receipt hash timeout)
  match (← get).node.receipt? hash with
  | some receipt => return receipt
  | none => throw (awaitedInVain hash timeout)

/-- The address that the receipt of a contract's transaction names. -/
def createdContract (contract : Contract) (hash : Octets) (receipt : Chain.Receipt) :
    Except Fault Address :=
  match receipt.status with
  | none => .error .fieldMissing
  | some status =>
    if Chain.Receipt.succeeded status then
      if receipt.contractAddress.isVacant then
        .error (.deployment .noContractAddress (some contract))
      else Address.read receipt.contractAddress
    else .error (.deployment (.reverted (Hex.text hash)) (some contract))

/-- Ends the creation of a contract with the address that the receipt of its transaction names, and
keeps that it was created there. -/
def conclude (contract : Contract) (hash : Octets) (receipt : Chain.Receipt) : Action Address := do
  let address ← Action.ofExcept (createdContract contract hash receipt)
  modify fun session => { session with creations := session.creations ++ [(contract, address)] }
  return address

/-- Asks for consent to the creation of a contract, unless transactions are signed without asking.
-/
def consent (contract : Contract) (interface : Value) (arguments : List Value) : Action Unit := do
  unless (← get).client.autosign do
    let parameters ← Action.ofExcept (Abi.constructorParameters interface arguments)
    Consent.askCreation contract.artifact parameters

/-- Creates a contract, and answers with its address. -/
def deploy (contract : Contract) (interface : Value) (bytecode : Octets)
    (arguments : List Value) : Action Address := do
  Action.notice
    ("\nTransacting " ++ contract.artifact ++ " creation from " ++ (← get).client.account)
  consent contract interface arguments
  Action.ofExcept (Abi.checkCreatable interface)
  let (hash, receipt) ← naming .transactionFailed (some contract) do
    let data ← assemble contract interface bytecode arguments
    let hash ← broadcast contract data
    return (hash, ← awaitReceipt contract hash)
  conclude contract hash receipt

/-- Creates a contract from its bytecode alone. -/
def deployBytecode (contract : Contract) (bytecode : Octets) : Action Address :=
  deploy contract (.list []) bytecode []

/-- Creates a contract from its artifact, which must need no library. -/
def deployArtifact (contract : Contract) (arguments : List Value) : Action Address := do
  let artifact ← Action.artifact contract
  let bytecode ← Action.ofExcept (artifact.bytecode.link [])
  deploy contract artifact.interface bytecode arguments

/-- Says that each creation will be asked for, unless transactions are signed without asking. -/
def announce : Action Unit := do
  unless (← get).client.autosign do
    Action.notice "(i) Interactive mode: each deployment must be confirmed."

end Rollout.Client
