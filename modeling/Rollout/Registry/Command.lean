import Rollout.Registry.Resolve

/-!
# Registry commands

The procedure by which a contract is resolved may itself use the registry: resolve the contracts
that it depends on, record addresses, look contracts up. Such a use is a tree of commands. A
procedure runs its commands one after the other and then answers, unless a fault ends it; the
commands that it completes are kept in the order of their completion, the inner ones first.
-/

namespace Rollout.Registry

/-- A command on a registry. -/
inductive Command where
  /-- Resolves a contract by a procedure: commands, then a fault if there is one, else an answer.
  The procedure may stand for a single transaction. -/
  | resolve (byTransaction : Bool) (contract : Contract) (steps : List Command)
      (fault : Option Fault) (answer : Value)
  /-- Records the address that a value stands for. -/
  | record (contract : Contract) (value : Value)
  /-- Looks a contract up. -/
  | get (contract : Contract)
  /-- Tells whether a contract has an address. -/
  | contains (contract : Contract)
  /-- Counts the contracts that have an address. -/
  | size
  /-- Lists the contracts whose addresses were supplied in advance. -/
  | predeployed
  /-- Lists the lines of the registry. -/
  | entries
  /-- Writes the registry to a file, or to the output. -/
  | write (path : Option File.Path)
  /-- Reads a registry from a file. -/
  | read (path : String)
deriving Inhabited

namespace Command

/-- What a command asks. -/
def verb : Command → Verb
  | resolve byTransaction _ _ _ _ => if byTransaction then .resolveByTransaction else .resolve
  | record _ _ => .record
  | get _ => .get
  | contains _ => .contains
  | size => .size
  | predeployed => .predeployed
  | entries => .entries
  | write _ => .write
  | read _ => .read

/-- Keeps a completed command. -/
def complete (command : Command) (answer : Answer) : Action Unit :=
  modify fun session =>
    { session with completions := session.completions ++ [⟨command.verb, answer⟩] }

/-- Ends a procedure: with a fault if there is one, else with an answer. -/
def conclude (fault : Option Fault) (answer : Value) : Action Value :=
  match fault with
  | some fault => throw fault
  | none => pure answer

mutual

/-- Runs a command. -/
def run : Command → Action Answer
  | resolve _ contract steps fault answer => do
    let address ← Registry.resolve contract do
      runSteps steps
      conclude fault answer
    return .address (some address)
  | record contract value => do return .address (some (← recordValue contract value))
  | get contract => do return .address ((← Action.session).registry.get? contract)
  | contains contract => do return .truth ((← Action.session).registry.contains contract)
  | size => do return .count (← Action.session).registry.size
  | predeployed => do return .contracts (← Action.session).registry.predeployed
  | entries => do
    return .lines ((← Action.session).registry.entries.map RegistryEntry.text)
  | write path => do
    publish (← Action.session).registry.entries path
    return .nothing
  | read path => do
    let addresses ← load path
    let registry ← Action.ofExcept (Registry.ofSupply (toSupply addresses))
    return .addresses registry.addresses

/-- Runs the commands of a procedure. -/
def runSteps : List Command → Action Unit
  | [] => pure ()
  | command :: rest => do
    let answer ← command.run
    command.complete answer
    runSteps rest

end

end Command

end Rollout.Registry
