/-
# Contexts

A context is what an agent is told besides its task: data under names, in ascending order of
the names, so that the same context always reads the same.
-/

import Ensemble.Document.Decoding

namespace Ensemble

/-- Data under names. -/
abbrev Context := Dictionary Datum

namespace Context

/-- A context with another on top, whose data win under common names. -/
def overlay (base : Context) (top : Option Context) : Context :=
  match top with
  | some context => base.merge context
  | none => base

/-- A context as a record. -/
def encode (context : Context) : Value :=
  .record (context.entries.map fun entry => (entry.1, entry.2.value))

/-- Read a context from a record. -/
def decode : Value → Decoded Context :=
  Value.decodeDictionary Value.decodeDatum

end Context

end Ensemble
