import Rollout.Genesis
import Rollout.Web

/-!
# The source of the genesis state

The orchestrator serves the genesis state at a fixed path below its URL. A state that was fetched is
kept; a state that could not be had is asked for again.
-/

namespace Rollout

/-- Where the genesis state comes from, and the state if it was fetched. -/
structure GenesisSource where
  /-- The URL of the orchestrator. -/
  url : String
  /-- How many seconds a request may take. -/
  timeout : Int := 30
  /-- How deep lists and records may lie in each other in what is served. -/
  nesting : Nat := Json.nestingLimit
  /-- The state that was fetched. -/
  fetched : Option Genesis := none

namespace GenesisSource

/-- The path below the URL. -/
def servicePath : String := "api/light_client_genesis"

/-- The URL at which the genesis state is served. -/
def endpoint (source : GenesisSource) : String :=
  String.ofList (source.url.toList.reverse.dropWhile (· = '/')).reverse ++ "/" ++ servicePath

/-- The value that a response gives. -/
def gives (source : GenesisSource) (response : Response) : Except Fault Value :=
  response.value source.nesting source.endpoint

/-- The value that the web answers. An error of the web means that the genesis state cannot be had.
-/
def valueOf (source : GenesisSource) (answer : Except Fault Response) : Except Fault Value :=
  match answer.bind source.gives with
  | .ok value => .ok value
  | .error (.report kind text) =>
    if kind.isFromWeb then Genesis.refuse (.genesisUnreachable text) else .error (.report kind text)
  | .error fault => .error fault

/-- The genesis state that the web answers. -/
def read (source : GenesisSource) (answer : Except Fault Response) : Except Fault Genesis := do
  Genesis.ofValue (← source.valueOf answer)

end GenesisSource

end Rollout
