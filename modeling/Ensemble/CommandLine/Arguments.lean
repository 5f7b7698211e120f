/-
# Arguments

Reading the arguments of a command by rules. An option is a name behind two dashes or a letter
behind one; letters may stand together. The value of an option is the next argument or follows an
equals sign, and for a letter it may follow at once. All else are words; behind two dashes alone,
everything is.
-/

import Ensemble.Text.Split

namespace Ensemble

/-- What comes with an option. -/
inductive OptionKind where
  /-- Nothing. -/
  | flag
  /-- Nothing, and the arguments behind it do not matter. -/
  | request
  /-- A value that is accepted, and where it repeats, one each time. -/
  | value (repeats : Bool) (accepts : String → Bool)

/-- An option that is known. -/
structure OptionRule where
  name : String
  letter : Option Char
  kind : OptionKind

/-- What is known of the arguments of a command. -/
structure ArgumentRules where
  options : List OptionRule
  /-- The options that must be given. -/
  required : List String
  /-- How many words come first. -/
  leadingWords : Nat
  /-- Whether a text of one or more words follows. It takes all arguments behind its start. -/
  hasText : Bool

/-- Why reading arguments ends without a result. -/
inductive ArgumentStop where
  /-- An option asks for something else. -/
  | asked (name : String)
  | unknownOption (option : String)
  | unknownCommand (word : String)
  | missingValue (name : String)
  | unexpectedValue (name value : String)
  | unfitValue (name value : String)
  | repeated (name : String)
  | unexpectedWord (word : String)
  | missingOption (name : String)
  | missingWord
deriving DecidableEq, Repr

/-- The sentence for a stop. -/
def ArgumentStop.message : ArgumentStop → String
  | asked name => "--" ++ name ++ " was asked for"
  | unknownOption option => "unexpected argument '" ++ option ++ "' found"
  | unknownCommand word => "unrecognized command '" ++ word ++ "'"
  | missingValue name => "a value is required for '--" ++ name ++ "' but none was supplied"
  | unexpectedValue name value => "unexpected value '" ++ value ++ "' for '--" ++ name ++ "' found"
  | unfitValue name value => "invalid value '" ++ value ++ "' for '--" ++ name ++ "'"
  | repeated name => "the argument '--" ++ name ++ "' cannot be used multiple times"
  | unexpectedWord word => "unexpected argument '" ++ word ++ "' found"
  | missingOption name => "the required argument '--" ++ name ++ "' was not provided"
  | missingWord => "a required argument was not provided"

/-- An argument by its form. -/
inductive Argument where
  | terminator
  | named (name : String) (value : Option String)
  | letters (letters : List Char)
  | word (text : String)
deriving DecidableEq, Repr

/-- A text at its first equals sign. -/
def Argument.splitValue (characters : List Char) : String × Option String :=
  match characters.dropWhile (· != '=') with
  | [] => (String.ofList characters, none)
  | _ :: value => (String.ofList (characters.takeWhile (· != '=')), some (String.ofList value))

/-- The form of an argument. A dash alone is a word. -/
def Argument.ofText (text : String) : Argument :=
  match text.toList with
  | ['-', '-'] => .terminator
  | '-' :: '-' :: rest => .named (splitValue rest).1 (splitValue rest).2
  | '-' :: c :: rest => .letters (c :: rest)
  | _ => .word text

/-- What arguments say. -/
structure Arguments where
  /-- The options in their order, each with its value or with the empty text. -/
  options : List (String × String)
  words : List String
deriving DecidableEq, Repr

namespace Arguments

/-- No arguments. -/
def none : Arguments := ⟨[], []⟩

/-- Whether an option is given. -/
def has (arguments : Arguments) (name : String) : Bool :=
  arguments.options.any fun option => option.1 == name

/-- All values of an option. -/
def values (arguments : Arguments) (name : String) : List String :=
  (arguments.options.filter fun option => option.1 == name).map Prod.snd

/-- The value of an option. -/
def value? (arguments : Arguments) (name : String) : Option String :=
  (arguments.values name).head?

end Arguments

/-- Arguments that are being read. -/
structure ArgumentReading where
  arguments : Arguments
  /-- The option whose value comes next. -/
  pending : Option OptionRule
  /-- Everything that follows is a word. -/
  wordsOnly : Bool

namespace ArgumentReading

/-- Nothing is read yet. -/
def start : ArgumentReading := ⟨.none, .none, false⟩

/-- An option is given alone. If it takes a value, that comes next. -/
def give (reading : ArgumentReading) (rule : OptionRule) :
    Except ArgumentStop ArgumentReading :=
  match rule.kind with
  | .request => .error (.asked rule.name)
  | .flag =>
    if reading.arguments.has rule.name then .error (.repeated rule.name)
    else .ok { reading with
      arguments.options := reading.arguments.options ++ [(rule.name, "")] }
  | .value _ _ => .ok { reading with pending := some rule }

/-- An option is given with a value. -/
def giveValue (reading : ArgumentReading) (rule : OptionRule) (value : String) :
    Except ArgumentStop ArgumentReading :=
  match rule.kind with
  | .value repeats accepts =>
    if !repeats && reading.arguments.has rule.name then .error (.repeated rule.name)
    else if accepts value then
      .ok { reading with
        arguments.options := reading.arguments.options ++ [(rule.name, value)]
        pending := none }
    else .error (.unfitValue rule.name value)
  | _ => .error (.unexpectedValue rule.name value)

/-- Letters behind one dash: the rest behind a letter with a value is that value. -/
def giveLetters (rules : ArgumentRules) (reading : ArgumentReading) :
    List Char → Except ArgumentStop ArgumentReading
  | [] => .ok reading
  | letter :: rest =>
    match rules.options.find? fun rule => rule.letter == some letter with
    | none => .error (.unknownOption (String.ofList ['-', letter]))
    | some rule =>
      match rule.kind, rest with
      | .value _ _, '=' :: value => reading.giveValue rule (String.ofList value)
      | .value _ _, c :: value => reading.giveValue rule (String.ofList (c :: value))
      | _, _ => do giveLetters rules (← reading.give rule) rest

/-- A word is given. -/
def giveWord (rules : ArgumentRules) (reading : ArgumentReading) (word : String) :
    Except ArgumentStop ArgumentReading :=
  let given := { reading with arguments.words := reading.arguments.words ++ [word] }
  if reading.arguments.words.length < rules.leadingWords then .ok given
  else if rules.hasText then .ok { given with wordsOnly := true }
  else .error (.unexpectedWord word)

/-- Read one argument. -/
def step (rules : ArgumentRules) (reading : ArgumentReading) (text : String) :
    Except ArgumentStop ArgumentReading :=
  if reading.wordsOnly then reading.giveWord rules text
  else
    match reading.pending, Argument.ofText text with
    | some rule, .word value => reading.giveValue rule value
    | some rule, _ => .error (.missingValue rule.name)
    | none, .terminator => .ok { reading with wordsOnly := true }
    | none, .letters letters => reading.giveLetters rules letters
    | none, .word word => reading.giveWord rules word
    | none, .named name value =>
      match rules.options.find? fun rule => rule.name == name, value with
      | none, _ => .error (.unknownOption text)
      | some rule, none => reading.give rule
      | some rule, some value => reading.giveValue rule value

/-- What was read, if nothing is missing. -/
def finish (rules : ArgumentRules) (reading : ArgumentReading) :
    Except ArgumentStop Arguments := do
  if let some rule := reading.pending then throw (.missingValue rule.name)
  if let some name := rules.required.find? fun name => !reading.arguments.has name then
    throw (.missingOption name)
  if reading.arguments.words.length < rules.leadingWords + rules.hasText.toNat then
    throw .missingWord
  return reading.arguments

/-- Read arguments up to the first word, which is given with the arguments behind it. -/
def toWord (rules : ArgumentRules) (reading : ArgumentReading) :
    List String → Except ArgumentStop (Arguments × Option (String × List String))
  | [] => do return (← reading.finish rules, none)
  | text :: rest => do
    match reading.wordsOnly, reading.pending, Argument.ofText text with
    | false, none, .word word => return (reading.arguments, some (word, rest))
    | _, _, _ => toWord rules (← reading.step rules text) rest

end ArgumentReading

/-- Read the arguments of a command. -/
def ArgumentRules.read (rules : ArgumentRules) (texts : List String) :
    Except ArgumentStop Arguments := do
  (← texts.foldlM (ArgumentReading.step rules) .start).finish rules

/-- Read arguments up to the first word, which is given with the arguments behind it. -/
def ArgumentRules.readToWord (rules : ArgumentRules) (texts : List String) :
    Except ArgumentStop (Arguments × Option (String × List String)) :=
  ArgumentReading.toWord rules .start texts

end Ensemble
