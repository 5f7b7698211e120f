/-
# Endpoint errors

What can go wrong between a prompt and its completion.
-/

namespace Ensemble

/-- Why an endpoint gave no completion. -/
inductive EndpointError where
  | invalidConfig (reason : String)
  | invalidRequest (reason : String)
  | transport (reason : String)
  | timeout (seconds : Nat)
  | status (code : Nat) (body : String)
  | malformedResponse (reason : String)
deriving DecidableEq, Repr

namespace EndpointError

/-- The sentence for an error. -/
def message : EndpointError → String
  | invalidConfig reason => "Invalid endpoint configuration: " ++ reason
  | invalidRequest reason => "Invalid request: " ++ reason
  | transport reason => "Transport error: " ++ reason
  | timeout seconds => "Request timed out after " ++ toString seconds ++ "s"
  | status code body => "Endpoint returned HTTP " ++ toString code ++ ": " ++ body
  | malformedResponse reason => "Malformed response: " ++ reason

/-- The status code of an answer that was refused. -/
def statusCode? : EndpointError → Option Nat
  | status code _ => some code
  | _ => none

end EndpointError

end Ensemble
