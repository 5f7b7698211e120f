/-
# Strategies

How one task is run by several agents: one after another, all at once, or in groups.
-/

import Ensemble.Document.Decoding
import Ensemble.Text.Blank
import Ensemble.Text.LowerCase

namespace Ensemble

/-- A policy for running a task with several agents. -/
inductive Strategy where
  /-- One agent after another, in listed order. -/
  | sequential
  /-- All agents at once. -/
  | parallel
  /-- Groups one after another, the agents of a group at once; each group sees the results of
  the groups before it. -/
  | hybrid
deriving DecidableEq, Repr, Inhabited

/-- A text that names no strategy. -/
structure UnknownStrategy where
  text : String
deriving DecidableEq, Repr

/-- The sentence for a text that names no strategy. -/
def UnknownStrategy.message (unknown : UnknownStrategy) : String :=
  "unknown strategy '" ++ unknown.text ++ "', expected sequential, parallel or hybrid"

namespace Strategy

/-- The name of a strategy. -/
def name : Strategy → String
  | sequential => "sequential"
  | parallel => "parallel"
  | hybrid => "hybrid"

/-- Every strategy under its name. -/
def named : List (String × Strategy) :=
  [("sequential", sequential), ("parallel", parallel), ("hybrid", hybrid)]

/-- The strategy that a text names, in letters of any case and with blanks around it. -/
def ofText (text : String) : Except UnknownStrategy Strategy :=
  let plain := Text.lowerCase (Text.trim text)
  match named.find? fun entry => entry.1 == plain with
  | some entry => .ok entry.2
  | none => .error ⟨plain⟩

/-- A strategy as its name. -/
def encode (strategy : Strategy) : Value :=
  .text strategy.name

/-- Read a strategy. -/
def decode : Value → Decoded Strategy :=
  Value.decodeVariant named .direct

end Strategy

end Ensemble
