import Rollout.Fault
import Rollout.Json.Body

/-!
# The web

A request is answered by a response or fails on its way. What the web answers to each request of a
run is given in advance: the answers are taken in turn, and the last one is given again and again.
-/

namespace Rollout

/-- A response to a request. -/
structure Response where
  /-- The status code. -/
  status : Int := 200
  /-- The reason that goes with the status. -/
  reason : String := ""
  /-- The octets of the body. -/
  body : Octets := []

/-- The answers of the web, and how many of them were asked for. -/
structure Web where
  /-- The answers in turn: a response, or the fault by which the request fails. -/
  answers : List (Except Fault Response) := []
  /-- The number of requests so far. -/
  requests : Nat := 0

namespace Response

/-- The response where there are no answers: nothing is found. -/
def notFound : Response := { status := 404 }

/-- The error that the status of a response stands for, if it stands for one. -/
def statusError? (response : Response) (url : String) : Option String :=
  let blame : Option String :=
    if 400 ≤ response.status ∧ response.status < 500 then some "Client Error"
    else if 500 ≤ response.status ∧ response.status < 600 then some "Server Error"
    else none
  blame.map fun side =>
    toString response.status ++ " " ++ side ++ ": " ++ response.reason ++ " for url: " ++ url

/-- The value in the body of a response from a URL, read up to a depth. A number over the limit is no
error of the request, nor is a document that is deeper. -/
def value (response : Response) (nesting : Nat) (url : String) : Except Fault Value :=
  match response.statusError? url with
  | some text => .error (.report .httpError text)
  | none =>
    match Json.parseBody nesting response.body with
    | .ok value => .ok value
    | .error flaw =>
      match flaw.problem with
      | .tooLong _ => .error (.invalidValue flaw.message)
      | .tooDeep => .error .tooDeep
      | _ => .error (.report .invalidJson flaw.message)

end Response

/-- The answer to the next request. -/
def Web.answer (web : Web) : Except Fault Response :=
  match web.answers[web.requests]? with
  | some answer => answer
  | none => web.answers.getLastD (.ok .notFound)

end Rollout
