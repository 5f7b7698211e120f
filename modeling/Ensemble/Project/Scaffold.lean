/-
# Making a project

A new project gets its settings and, from the templates, agents and workflows: all of them, or one
of each. An existing project is only touched on request, and then only the files of templates
are replaced.
-/

import Ensemble.Project.Basic
import Ensemble.Project.Template

namespace Ensemble.Scaffold

/-- The agent of a small project. -/
def smallAgent : String := "agents/writer.md"

/-- The workflow of a small project. -/
def smallWorkflow : String := "workflows/quick-note.yaml"

/-- The paths of the templates of a project, in the order in which they are written. -/
def templatePaths (isSmall : Bool) : List String :=
  "config.toml" ::
    if isSmall then [smallAgent, smallWorkflow]
    else Template.below "agents/" ++ Template.below "workflows/"

/-- Make directories. -/
def makeDirectories (tree : FileTree) : List String → FileTree × Except ScaffoldError Unit
  | [] => (tree, .ok ())
  | path :: rest =>
    match tree.ensureDirectories path with
    | (made, none) => makeDirectories made rest
    | (made, some error) => (made, .error (.directoryCreate path error))

/-- Write the file of a template, after making the directory that holds it. -/
def writeTemplate (tree : FileTree) (directory template : String) :
    FileTree × Except ScaffoldError String :=
  match Template.find? template with
  | none => (tree, .error (.templateMissing template))
  | some content =>
    let path := Path.join directory template
    match tree.ensureParent path with
    | (prepared, some error) => (prepared, .error (.directoryCreate (Path.parent path) error))
    | (prepared, none) =>
      match prepared.write path .overwrite content.toUTF8 with
      | .ok written => (written, .ok path)
      | .error error => (prepared, .error (.fileWrite path error))

/-- Write the files of templates, up to the first that fails. -/
def writeTemplates (tree : FileTree) (directory : String) :
    List String → FileTree × Except ScaffoldError (List String)
  | [] => (tree, .ok [])
  | template :: rest =>
    match writeTemplate tree directory template with
    | (after, .error error) => (after, .error error)
    | (after, .ok path) =>
      match writeTemplates after directory rest with
      | (last, .ok paths) => (last, .ok (path :: paths))
      | (last, .error error) => (last, .error error)

/-- Make a project below a target: the paths that were written. -/
def make (tree : FileTree) (target : String) (replaces isSmall : Bool) :
    FileTree × Except ScaffoldError (List String) :=
  let directory := Path.join target Project.directoryName
  if tree.contains directory && !replaces then (tree, .error (.directoryExists directory))
  else
    match makeDirectories tree [Path.join directory "agents", Path.join directory "workflows"] with
    | (prepared, .error error) => (prepared, .error error)
    | (prepared, .ok ()) => writeTemplates prepared directory (templatePaths isSmall)

end Ensemble.Scaffold
