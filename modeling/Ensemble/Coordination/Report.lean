/-
# Coordination reports

The results of a coordinated task, in the order in which its agents were named.
-/

import Ensemble.Context
import Ensemble.Coordination.Strategy
import Ensemble.Text.Blank

namespace Ensemble

/-- What one agent contributed to a task. -/
structure CoordinationEntry where
  key : String
  agent : String
  output : String
deriving DecidableEq, Repr

namespace CoordinationEntry

/-- An entry as a record. -/
def encode (entry : CoordinationEntry) : Value :=
  .record [("key", .text entry.key), ("agent", .text entry.agent), ("output", .text entry.output)]

/-- The fields of an entry. -/
def fields : Fields CoordinationEntry :=
  (Fields.none CoordinationEntry.mk)
    |>.both (.required "key" Value.decodeText)
    |>.both (.required "agent" Value.decodeText)
    |>.both (.required "output" Value.decodeText)

/-- Read an entry. -/
def decode : Value → Decoded CoordinationEntry :=
  fields.decode "struct CoordinationEntry" .direct

end CoordinationEntry

/-- The results of a coordinated task. -/
structure CoordinationReport where
  strategy : Strategy
  task : String
  entries : List CoordinationEntry
deriving DecidableEq, Repr

namespace CoordinationReport

/-- The output under a key, the first if there are several. -/
def get? (report : CoordinationReport) (key : String) : Option String :=
  (report.entries.find? fun entry => entry.key == key).map CoordinationEntry.output

/-- The number of entries. -/
def size (report : CoordinationReport) : Nat :=
  report.entries.length

/-- Whether there is no entry. -/
def isEmpty (report : CoordinationReport) : Bool :=
  report.entries.isEmpty

/-- The agents in order. -/
def agents (report : CoordinationReport) : List String :=
  report.entries.map CoordinationEntry.agent

/-- The outputs under their keys, as a context. -/
def toContext (report : CoordinationReport) : Context :=
  Dictionary.ofList (report.entries.map fun entry => (entry.key, Datum.text entry.output))

/-- An output under a heading with its key. -/
def passage (entry : CoordinationEntry) : String :=
  "## " ++ entry.key ++ "\n" ++ Text.trimEnd entry.output ++ "\n"

/-- All outputs in order. -/
def render (report : CoordinationReport) : String :=
  "\n".intercalate (report.entries.map passage)

/-- A report as a record. -/
def encode (report : CoordinationReport) : Value :=
  .record [("strategy", report.strategy.encode), ("task", .text report.task),
    ("entries", .list (report.entries.map CoordinationEntry.encode))]

/-- The fields of a report. -/
def fields : Fields CoordinationReport :=
  (Fields.none CoordinationReport.mk)
    |>.both (.required "strategy" Strategy.decode)
    |>.both (.required "task" Value.decodeText)
    |>.both (.required "entries" (Value.decodeList CoordinationEntry.decode))

/-- Read a report. -/
def decode : Value → Decoded CoordinationReport :=
  fields.decode "struct CoordinationReport" .direct

end CoordinationReport

end Ensemble
