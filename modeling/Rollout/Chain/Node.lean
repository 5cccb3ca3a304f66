import Rollout.Fault

/-!
# The node

A node of the chain answers queries and takes transactions. What it answers is given in advance: the
chain and the number of transactions that the account has sent, the code at addresses, the receipt
of each transaction, and the outages, each at one step and perhaps at one transaction or at one access
only. A receipt is asked for by the hash of its transaction.
-/

namespace Rollout.Chain

/-- The steps at which a node is accessed. -/
inductive Step where
  /-- The data of a transaction is put together. -/
  | constructor
  /-- The number of transactions of an account is asked for. -/
  | nonce
  /-- The number of the chain is asked for. -/
  | chainId
  /-- A transaction is completed. -/
  | build
  /-- A transaction is broadcast. -/
  | send
  /-- The receipt of a transaction is waited for. -/
  | receipt
  /-- The code at an address is asked for. -/
  | code
deriving DecidableEq, Repr

/-- A fault at a step. -/
structure Outage where
  /-- The step at which the fault arises. -/
  step : Step
  /-- The transaction at which it arises; without one it arises at each. -/
  transaction : Option Int := none
  /-- The access at which it arises, the accesses at its step being counted from zero; without one it
  arises at each. -/
  access : Option Nat := none
  /-- The fault. -/
  fault : Fault

/-- The receipt of a transaction. -/
structure Receipt where
  /-- The status of the transaction; a receipt may lack it. -/
  status : Option Value
  /-- The address of the contract that the transaction created. -/
  contractAddress : Value

/-- A node. -/
structure Node where
  /-- The number of the chain. -/
  chainId : Int := 31337
  /-- The number of transactions that the account had sent at the start. -/
  nonce : Int := 7
  /-- The code at addresses. -/
  codes : List (String × Octets) := []
  /-- The receipts of transactions in turn; where there is none, the transaction succeeds. -/
  receipts : List (Option Receipt) := []
  /-- The outages. -/
  outages : List Outage := []
  /-- The number of transactions that were sent. -/
  sent : Nat := 0
  /-- The steps at which the node was accessed, in order. -/
  accesses : List Step := []

/-- The address of the contract that a transaction creates, transactions being counted from one. -/
def createdAddress (count : Nat) : String := Hex.text (Octets.ofNat 20 (0x1000 + count))

/-- The hash of a transaction, transactions being counted from zero. -/
def hashOf (number : Nat) : Octets := Octets.ofNat 32 (number + 1)

/-- The number of the transaction with a hash among the first ones, the last one of them that has
it. -/
def numberOf? (hash : Octets) : Nat → Option Nat
  | 0 => none
  | count + 1 => if hashOf count = hash then some count else numberOf? hash count

/-- Tells whether a receipt tells of success. -/
def Receipt.succeeded : Value → Bool
  | .integer n => n = 1
  | .truth b => b
  | .number x => x.isOne
  | _ => false

namespace Node

/-- The transaction to which an access at a step belongs: the next one, but for a receipt the last
one. -/
def transactionAt (node : Node) (step : Step) : Int :=
  if step = .receipt then (node.sent : Int) - 1 else node.sent

/-- The first outage that the next access at a step meets. -/
def outage? (node : Node) (step : Step) : Option Fault :=
  (node.outages.find? fun outage =>
    outage.step = step
      && outage.transaction.all (fun transaction => transaction = node.transactionAt step)
      && outage.access.all fun access => access = node.accesses.count step).map
    (·.fault)

/-- The node after an access at a step. -/
def accessed (node : Node) (step : Step) : Node := { node with accesses := node.accesses ++ [step] }

/-- The number of transactions that the account has sent. -/
def transactionCount (node : Node) : Int := node.nonce + node.sent

/-- The code at an address; where none is given there is none. -/
def codeAt (node : Node) (address : String) : Octets := (node.codes.lookup address).getD []

/-- The hash of the transaction sent last. -/
def lastHash (node : Node) : Octets := hashOf (node.sent - 1)

/-- The receipt of a transaction, transactions being counted from zero. -/
def receiptAt (node : Node) (number : Nat) : Receipt :=
  match node.receipts[number]? with
  | some (some receipt) => receipt
  | _ => ⟨some (.integer 1), .text (createdAddress (number + 1))⟩

/-- The receipt of the transaction with a hash, if one was sent. -/
def receipt? (node : Node) (hash : Octets) : Option Receipt :=
  (numberOf? hash node.sent).map node.receiptAt

end Node

end Rollout.Chain
