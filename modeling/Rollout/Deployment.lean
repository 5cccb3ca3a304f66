import Rollout.Resolution

/-!
# Deployments

A deployment resolves the consensus contract and the proxy with all that it depends on, and then
publishes the registry. Before that it may check that each supplied address hosts code. The stage
tells how far it came; a fault is reported together with the stage after which it arose, but a user
who declines leaves without report.
-/

namespace Rollout

/-- What a deployment is to do. -/
structure Deployment where
  /-- The file to which the registry is written; without one it goes to the output. -/
  output : Option File.Path := none
  /-- Tells whether supplied addresses are checked for code. -/
  checkPredeployed : Bool := false

namespace Deployment

/-- Contracts in the order of their variables' names. -/
def sortContracts (contracts : List Contract) : List Contract :=
  contracts.mergeSort fun a b => a.rank ≤ b.rank

/-- Enters a stage. -/
def enter (stage : Stage) : Action Unit := modify fun session => { session with stage }

/-- Checks that the address of a contract hosts code. -/
def checkCode (contract : Contract) : Action Unit := do
  let address := (((← get).registry.get? contract).map Address.text).getD ""
  Action.notice ("(i) Checking code of predeployed " ++ contract.name ++ " at " ++ address)
  let code ← Client.queryCode address
  if code.isEmpty then throw (.deployment (.noCode address) (some contract))

/-- Checks that each supplied address hosts code. -/
def checkSupplied : Action Unit := do
  for contract in sortContracts (← get).registry.predeployed do
    checkCode contract

/-- Publishes the registry. -/
def publish (deployment : Deployment) : Action Unit := do
  Registry.publish (← get).registry.entries deployment.output

/-- The steps of a deployment. -/
def steps (deployment : Deployment) : Action Unit := do
  if deployment.checkPredeployed then checkSupplied
  let _ ← Resolution.resolve .hotShot
  enter .standaloneDeployed
  let _ ← Resolution.resolve .lightClientProxy
  enter .proxyChainResolved
  deployment.publish
  enter .written

/-- Runs a deployment. -/
def run (deployment : Deployment) : Action Unit := do
  tryCatch deployment.steps fun fault => do
    unless fault = .refusal do
      Action.notice ("Deployment aborted after stage '" ++ (← get).stage.name ++ "'.")
      enter .failed
    throw fault
  enter .done

end Deployment

end Rollout
