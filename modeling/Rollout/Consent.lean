import Rollout.Abi.Parameters
import Rollout.Session

/-!
# Consent

In interactive use the user is asked before a deployment starts, before each contract is created,
and once more if the zero address is among the arguments of the constructor. Any answer but the
letter `n` is consent.
-/

namespace Rollout.Consent

/-- Tells whether an answer declines. -/
def declines (answer : List Char) : Bool :=
  let answer := Text.strip answer
  answer = ['n'] || answer = ['N']

/-- Asks a question; a declining answer ends the run. -/
def ask (question : String) : Action Unit := do
  Action.tell (question ++ " Y/N? ")
  let answer ← Action.readLine
  if declines answer then
    Action.notice "Aborting deployment!"
    throw .refusal

/-- Asks before the start of a deployment. -/
def askStart : Action Unit := ask "Continue"

/-- Shows the parameters of a contract's constructor. -/
def showParameters (name : String) (parameters : Abi.Parameters) : Action Unit :=
  if parameters.isEmpty then Action.notice ("(i) No constructor parameters for " ++ name)
  else do
    Action.notice ("Constructor parameters for " ++ name)
    for (key, value) in parameters do
      Action.notice ("\t" ++ key.shown ++ "=" ++ value.shown)

/-- Asks before the creation of a contract. -/
def askCreation (name : String) (parameters : Abi.Parameters) : Action Unit := do
  showParameters name parameters
  ask ("Deploy " ++ name)
  if parameters.any fun (_, value) => Address.isZeroValue value then
    ask "Zero Address detected for deployment parameter; Continue?"

end Rollout.Consent
