/-
# Project errors

Why a project cannot be loaded or made. Every error names the file or directory it is about.
-/

import Ensemble.Agent.Document
import Ensemble.File.Tree
import Ensemble.Text.Quoted

namespace Ensemble

/-- Why a project cannot be loaded. -/
inductive LoadError where
  | fileRead (path : String) (error : FileError)
  /-- The settings are malformed or do not fit. -/
  | settings (path : String)
  /-- A workflow is malformed or does not fit. -/
  | workflow (path : String)
  | agent (path : String) (fault : ProfileFault)
  | duplicateAgent (name first second : String)
  /-- The default temperature is not between zero and one. -/
  | temperature (path : String) (temperature : Binary32)

namespace LoadError

/-- The sentence about an agent document. -/
def agentMessage (path : String) : ProfileFault → String
  | .noFrontMatter =>
    "Failed to parse Markdown front matter in " ++ path ++ ": Missing YAML front matter"
  | .unfit mismatch =>
    "Failed to parse Markdown front matter in " ++ path ++
      ": Failed to deserialize front matter: " ++ mismatch.message
  | .blankName => "Invalid configuration in " ++ path ++ ": agent name must not be blank"

/-- The sentence for an error. -/
def message : LoadError → String
  | fileRead path error => "Failed to read config file at " ++ path ++ ": " ++ error.message
  | settings path => "Failed to parse TOML file at " ++ path
  | workflow path => "Failed to parse YAML file at " ++ path
  | agent path fault => agentMessage path fault
  | duplicateAgent name first second =>
    "Agent '" ++ name ++ "' is defined in both " ++ first ++ " and " ++ second
  | temperature path value =>
    "Invalid configuration in " ++ path ++ ": endpoint temperature " ++ value.text .plain ++
      " is outside [0, 1]"

end LoadError

/-- Why a project cannot be made. -/
inductive ScaffoldError where
  | directoryExists (path : String)
  | templateMissing (path : String)
  | directoryCreate (path : String) (error : FileError)
  | fileWrite (path : String) (error : FileError)
deriving DecidableEq, Repr

/-- The sentence for an error. -/
def ScaffoldError.message : ScaffoldError → String
  | directoryExists path =>
    ".maki directory already exists at " ++ Text.quoted path ++ ". Use --force to overwrite."
  | templateMissing path => "Template file not found: " ++ path
  | directoryCreate path error =>
    "Failed to create directory " ++ Text.quoted path ++ ": " ++ error.message
  | fileWrite path error => "Failed to write file " ++ Text.quoted path ++ ": " ++ error.message

end Ensemble
