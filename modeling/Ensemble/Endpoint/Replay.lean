/-
# Replayed exchanges

A transport that answers with outcomes known beforehand. When they run out it notes the request
that it has no outcome for, and reaches no server from then on. So work over a transport can be
repeated with one more outcome each time until it asks for nothing new.
-/

import Ensemble.Endpoint.Http

namespace Ensemble

/-- Outcomes that are known beforehand. -/
structure Replay where
  outcomes : List HttpOutcome
  /-- The first request without an outcome. -/
  missing : Option HttpRequest

namespace Replay

/-- Outcomes of which none is used yet. -/
def ofOutcomes (outcomes : List HttpOutcome) : Replay :=
  ⟨outcomes, none⟩

/-- The next outcome answers a request. -/
def transport (request : HttpRequest) (replay : Replay) : HttpOutcome × Replay :=
  match replay.missing, replay.outcomes with
  | none, outcome :: rest => (outcome, ⟨rest, none⟩)
  | none, [] => (.unreachable, ⟨[], some request⟩)
  | some _, _ => (.unreachable, replay)

end Replay

end Ensemble
