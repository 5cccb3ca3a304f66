import Rollout.Fault
import Rollout.Number.Literal

/-!
# The genesis state of the light client

The light client starts from eight integers. They are read from a record whose fields hold integers
or texts that spell integers; the order of the fields in the record does not count.
-/

namespace Rollout

/-- The genesis state of the light client. -/
structure Genesis where
  /-- The number of the view. -/
  viewNum : Int
  /-- The height of the block. -/
  blockHeight : Int
  /-- The root of the block commitments. -/
  blockCommRoot : Int
  /-- The commitment to the fee ledger. -/
  feeLedgerComm : Int
  /-- The commitment to one kind of keys of the stake table. -/
  stakeTableBlsKeyComm : Int
  /-- The commitment to the other kind of keys of the stake table. -/
  stakeTableSchnorrKeyComm : Int
  /-- The commitment to the amounts of the stake table. -/
  stakeTableAmountComm : Int
  /-- The stake that a quorum needs. -/
  threshold : Int
deriving DecidableEq, Repr

namespace Genesis

/-- The names of the fields, in the order in which the light client takes them. -/
def fieldNames : List String :=
  ["viewNum", "blockHeight", "blockCommRoot", "feeLedgerComm", "stakeTableBlsKeyComm",
    "stakeTableSchnorrKeyComm", "stakeTableAmountComm", "threshold"]

/-- The values of the fields, in the order of `fieldNames`. -/
def values (genesis : Genesis) : List Int :=
  [genesis.viewNum, genesis.blockHeight, genesis.blockCommRoot, genesis.feeLedgerComm,
    genesis.stakeTableBlsKeyComm, genesis.stakeTableSchnorrKeyComm, genesis.stakeTableAmountComm,
    genesis.threshold]

/-- The fault that a genesis state cannot be had. -/
def refuse {α : Type} (cause : Cause) : Except Fault α :=
  .error (.deployment cause (some .lightClientProxy))

/-- The integer of a field, or the reason why it has none. -/
def integerOf : Value → Except String Int
  | .integer n => .ok n
  | .text s =>
    let digits := Text.strip s.toList
    let read := if Hex.isMarked digits then Literal.hexadecimal digits else Literal.decimal digits
    read.mapError Literal.Flaw.message
  | value => .error (value.quoted ++ " is not an integer")

/-- The integer of a named field. -/
def field (fields : Fields) (name : String) : Except Fault Int :=
  match fields.get? name with
  | none => refuse (.genesisFieldMissing name)
  | some value =>
    match integerOf value with
    | .ok n => .ok n
    | .error text => refuse (.genesisFieldInvalid name text)

/-- The genesis state that a value describes. The fields are read in their order, so the first one
at fault is reported. -/
def ofValue : Value → Except Fault Genesis
  | .record fields => do
    return {
      viewNum := ← field fields "viewNum"
      blockHeight := ← field fields "blockHeight"
      blockCommRoot := ← field fields "blockCommRoot"
      feeLedgerComm := ← field fields "feeLedgerComm"
      stakeTableBlsKeyComm := ← field fields "stakeTableBlsKeyComm"
      stakeTableSchnorrKeyComm := ← field fields "stakeTableSchnorrKeyComm"
      stakeTableAmountComm := ← field fields "stakeTableAmountComm"
      threshold := ← field fields "threshold" }
  | _ => refuse .genesisNotRecord

/-- The values of the fields as one argument of a call. -/
def argument (genesis : Genesis) : Value := .tuple (genesis.values.map Value.integer)

end Genesis

end Rollout
