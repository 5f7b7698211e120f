/-
# Exchanges over HTTP

A request to a server and what comes of it. How requests are carried is left open: a transport
is any function from requests to outcomes.
-/

import Ensemble.Document.Value

namespace Ensemble

/-- What a request asks for. -/
inductive HttpMethod where
  | get
  | post
deriving DecidableEq, Repr

/-- The name of a method. -/
def HttpMethod.name : HttpMethod → String
  | get => "GET"
  | post => "POST"

/-- A request to a server. -/
structure HttpRequest where
  method : HttpMethod
  url : String
  /-- The JSON text that is sent along. -/
  body : Option String
  /-- How many seconds the answer may take. -/
  patience : Nat
deriving DecidableEq, Repr

/-- What comes of a request. -/
inductive HttpOutcome where
  | answer (status : Nat) (body : ByteArray)
  | timedOut
  | unreachable

end Ensemble
