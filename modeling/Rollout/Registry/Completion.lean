import Rollout.Registry

/-!
# Completed registry commands

What was asked of a registry, and what it answered.
-/

namespace Rollout.Registry

/-- What can be asked of a registry. -/
inductive Verb where
  /-- To resolve a contract by a procedure. -/
  | resolve
  /-- To resolve a contract by a single transaction. -/
  | resolveByTransaction
  /-- To record an address. -/
  | record
  /-- To look a contract up. -/
  | get
  /-- To tell whether a contract has an address. -/
  | contains
  /-- To count the contracts that have an address. -/
  | size
  /-- To list the contracts whose addresses were supplied in advance. -/
  | predeployed
  /-- To list the lines. -/
  | entries
  /-- To write the lines. -/
  | write
  /-- To read lines. -/
  | read
deriving DecidableEq, Repr

/-- What a registry answers. -/
inductive Answer where
  /-- An address, if there is one. -/
  | address (found : Option Address)
  /-- A truth value. -/
  | truth (b : Bool)
  /-- A number. -/
  | count (n : Nat)
  /-- Contracts. -/
  | contracts (contracts : List Contract)
  /-- Lines. -/
  | lines (lines : List String)
  /-- Nothing. -/
  | nothing
  /-- Contracts with their addresses. -/
  | addresses (addresses : List (Contract × Address))

/-- A question that was answered. -/
structure Completion where
  /-- What was asked. -/
  verb : Verb
  /-- What was answered. -/
  answer : Answer

end Rollout.Registry
