/-
# Commands

What the command line can be asked to do, and how arguments say it. Options that hold for every
command may stand before or behind its name; behind it they win.
-/

import Ensemble.CommandLine.Arguments
import Ensemble.Coordination.Strategy
import Ensemble.Text.Blank

namespace Ensemble

/-- What the command line is asked to do. -/
inductive Command where
  /-- Make a project. -/
  | init (replaces isSmall : Bool)
  /-- List the agents. -/
  | agents
  /-- One agent carries out a task. -/
  | ask (agent task : String)
  /-- Several agents carry out one task; no groups are given as the empty list. -/
  | coordinate (strategy : Strategy) (agents : List String) (groups : List (List String))
      (task : String)
  /-- Several agents contribute to one answer. -/
  | collaborate (agents : List String) (synthesizer : Option String) (task : String)
  /-- Run a workflow. -/
  | run (workflow : String) (failFast : Bool) (output : Option String) (asJson : Bool)
deriving DecidableEq, Repr

/-- A command and the directory of the project it is about. -/
structure Invocation where
  root : String
  command : Command
deriving DecidableEq, Repr

/-- What arguments ask for. -/
inductive Request where
  | invocation (invocation : Invocation)
  /-- The name and version of the program. -/
  | version
  /-- A description of the arguments. -/
  | help
deriving DecidableEq, Repr

namespace Command

/-- An option for everyone. -/
def flag (name : String) : OptionRule := ⟨name, none, .flag⟩

/-- An option with any text. -/
def textOption (name : String) (repeats : Bool) : OptionRule :=
  ⟨name, none, .value repeats fun _ => true⟩

/-- An option with a path, which is not empty. -/
def pathOption (name : String) (letter : Option Char) : OptionRule :=
  ⟨name, letter, .value false fun path => !path.isEmpty⟩

/-- The options of every command. A log is not kept, so asking for more of it changes nothing. -/
def sharedOptions : List OptionRule :=
  [pathOption "root" none, ⟨"verbose", some 'v', .flag⟩, ⟨"help", some 'h', .request⟩]

/-- The rules for what comes before the name of a command. -/
def outerRules : ArgumentRules :=
  ⟨sharedOptions ++ [⟨"version", some 'V', .request⟩], [], 0, false⟩

/-- Whether a text names a strategy. -/
def namesStrategy (text : String) : Bool :=
  (Strategy.ofText text).isOk

/-- The rules for the arguments of a command. -/
def rules? (name : String) : Option ArgumentRules :=
  match name with
  | "init" => some ⟨sharedOptions ++ [flag "force", flag "minimal"], [], 0, false⟩
  | "agents" => some ⟨sharedOptions, [], 0, false⟩
  | "ask" => some ⟨sharedOptions, [], 1, true⟩
  | "coordinate" =>
    some ⟨sharedOptions ++ [⟨"strategy", none, .value false namesStrategy⟩,
      textOption "agents" true, textOption "group" true], ["agents"], 0, true⟩
  | "collaborate" =>
    some ⟨sharedOptions ++ [textOption "agents" true, textOption "synthesizer" false],
      ["agents"], 0, true⟩
  | "run" =>
    some ⟨sharedOptions ++ [flag "fail-fast", pathOption "output" (some 'o'), flag "json"],
      [], 1, false⟩
  | _ => none

/-- The names of the commands. -/
def names : List String :=
  ["init", "agents", "ask", "coordinate", "collaborate", "run", "help"]

/-- Whether words behind the request for help name what help is asked for. -/
def isHelpTopic : List String → Bool
  | [] => true
  | [name] => names.contains name
  | _ => false

/-- The agents that are listed between commas, as they stand. -/
def listedAgents (values : List String) : List String :=
  values.flatMap (Text.split ',')

/-- The agents of a group: what stands between commas without the blanks around it, unless
nothing is left. -/
def groupAgents (value : String) : List String :=
  ((Text.split ',' value).map Text.trim).filter fun name => !name.isEmpty

/-- Words with a space between them. -/
def joinWords (words : List String) : String :=
  " ".intercalate words

/-- The strategy that is asked for; it is sequential when nothing is said. -/
def strategyOf (value : Option String) : Strategy :=
  match value.map Strategy.ofText with
  | some (.ok strategy) => strategy
  | _ => .sequential

/-- The command with a name that its arguments describe. -/
def ofArguments? (name : String) (arguments : Arguments) : Option Command :=
  match name, arguments.words with
  | "init", [] => some (.init (arguments.has "force") (arguments.has "minimal"))
  | "agents", [] => some .agents
  | "ask", agent :: words => some (.ask agent (joinWords words))
  | "coordinate", words =>
    some (.coordinate (strategyOf (arguments.value? "strategy"))
      (listedAgents (arguments.values "agents")) ((arguments.values "group").map groupAgents)
      (joinWords words))
  | "collaborate", words =>
    some (.collaborate (listedAgents (arguments.values "agents"))
      (arguments.value? "synthesizer") (joinWords words))
  | "run", [workflow] =>
    some (.run workflow (arguments.has "fail-fast") (arguments.value? "output")
      (arguments.has "json"))
  | _, _ => none

end Command

namespace Invocation

/-- The directory of the project when nothing is said. -/
def standardRoot : String := "."

/-- Read a command and its directory. -/
def ofTexts (texts : List String) : Except ArgumentStop Invocation := do
  match ← Command.outerRules.readToWord texts with
  | (_, none) => throw .missingWord
  | (_, some ("help", topic)) =>
    if Command.isHelpTopic topic then throw (.asked "help")
    else throw (.unknownCommand (Command.joinWords topic))
  | (outer, some (name, rest)) =>
    match Command.rules? name with
    | none => throw (.unknownCommand name)
    | some rules =>
      let inner ← rules.read rest
      match Command.ofArguments? name inner with
      | none => throw .missingWord
      | some command =>
        let root := (inner.value? "root").or (outer.value? "root")
        return ⟨root.getD standardRoot, command⟩

end Invocation

namespace Request

/-- The name and version of the program. -/
def versionLine : String := "maki 0.1.0\n"

/-- A description of the arguments. -/
def helpText : String := String.join ([
  "Coordinate LLM-backed agents and run workflows",
  "",
  "Usage: maki [--root ROOT] [--verbose] COMMAND",
  "",
  "Commands:",
  "  init [--force] [--minimal]",
  "  agents",
  "  ask AGENT TASK...",
  "  coordinate [--strategy STRATEGY] --agents AGENTS [--group GROUP]... TASK...",
  "  collaborate --agents AGENTS [--synthesizer AGENT] TASK...",
  "  run [--fail-fast] [--output FILE] [--json] WORKFLOW"].map (· ++ "\n"))

/-- What arguments ask for. -/
def ofTexts (texts : List String) : Except ArgumentStop Request :=
  match Invocation.ofTexts texts with
  | .ok asked => .ok (.invocation asked)
  | .error (.asked "version") => .ok .version
  | .error (.asked _) => .ok .help
  | .error stop => .error stop

end Request

end Ensemble
