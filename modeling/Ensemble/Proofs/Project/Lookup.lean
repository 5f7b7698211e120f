/-
# Which workflow a name reaches

The workflows of a project are those that its files describe, in ascending order of the file names.
A workflow has the name that its document gives, or else that of its file without the extension.
Unlike the names of agents, these names are not compared when a project is loaded: several files may
describe workflows of one name, and then the name reaches the first of them alone. This module says
for every file which workflow its name reaches, and that it is the file's own exactly when no file
before it describes a workflow of that name.
-/

import Ensemble.Proofs.Project.Loading

namespace Ensemble

/-! ## Names of workflows -/

namespace Workflow

/-- A workflow that a text describes has the name that is given there, whatever its file is called,
or else that of its file. -/
def NamedBy (fileName text : String) (workflow : Workflow) : Prop :=
  (Text.isBlankText workflow.name = false ∧ ∀ other, ofDocument? other text = some workflow) ∨
    (workflow.name = fileName ∧
      ∀ other, ofDocument? other text = some { workflow with name := other })

theorem namedBy_of_ofDocument? {fileName text : String} {workflow : Workflow}
    (h : ofDocument? fileName text = some workflow) : NamedBy fileName text workflow := by
  obtain ⟨documents, hdocuments, h⟩ := Option.bind_eq_some_iff.1 h
  simp only [NamedBy, ofDocument?, hdocuments, Option.bind_eq_bind, Option.bind_some] at h ⊢
  split at h
  next hmany => simp at h
  next hone =>
    simp only [hone, if_false]
    cases hwritten : ofNode? (documents.head?.getD Yaml.Node.absent) with
    | none => simp [hwritten] at h
    | some written =>
        simp only [hwritten, Option.bind_some, Option.pure_def] at h ⊢
        cases hblank : Text.isBlankText written.name with
        | true =>
            simp only [hblank, if_true, Option.some.injEq] at h ⊢
            subst h
            exact Or.inr ⟨rfl, fun _ => rfl⟩
        | false =>
            simp only [hblank, Bool.false_eq_true, if_false, Option.some.injEq] at h ⊢
            subst h
            exact Or.inl ⟨hblank, fun _ => rfl⟩

end Workflow

namespace Project

variable {tree : FileTree} {root : String} {project : Project}

/-! ## Files and workflows -/

/-- The directory of a project's workflows. -/
def workflowFolder (root : String) : String :=
  Path.join (Path.join root directoryName) "workflows"

/-- The names of the files that describe a project's workflows. -/
def workflowFiles (tree : FileTree) (root : String) : List String :=
  if tree.contains (Path.join root directoryName) then
    filesWith tree (workflowFolder root) ["yaml", "yml"]
  else []

theorem workflowFiles_ascend (tree : FileTree) (root : String) :
    (workflowFiles tree root).Pairwise (· < ·) := by
  rw [workflowFiles]
  split
  · exact filesWith_ascend tree _ _
  · exact .nil

/-- A file of a project describes a workflow. -/
def Describes (tree : FileTree) (root file : String) (workflow : Workflow) : Prop :=
  loadWorkflow tree (workflowFolder root) file = .ok workflow

/-- The file of a workflow has a text that describes it. -/
theorem Describes.namedBy {file : String} {workflow : Workflow}
    (h : Describes tree root file workflow) :
    ∃ text, readFile tree (Path.join (workflowFolder root) file) = .ok text ∧
      workflow.NamedBy (Path.stem file) text := by
  rw [Describes, loadWorkflow] at h
  cases htext : readFile tree (Path.join (workflowFolder root) file) with
  | error error => simp [htext, bind, Except.bind] at h
  | ok text =>
      simp only [htext, bind, Except.bind] at h
      split at h
      next described hdescribed =>
        obtain rfl := Except.ok.inj h
        exact ⟨text, rfl, Workflow.namedBy_of_ofDocument? hdescribed⟩
      next => cases h

/-- Workflows that load are described by their files, one by one. -/
theorem forall₂_of_mapM {folder : String} {files : List String} {workflows : List Workflow}
    (h : files.mapM (loadWorkflow tree folder) = .ok workflows) :
    List.Forall₂ (fun file workflow => loadWorkflow tree folder file = .ok workflow) files
      workflows := by
  induction files generalizing workflows with
  | nil =>
      obtain rfl := Except.ok.inj h
      exact .nil
  | cons file rest ih =>
      rw [List.mapM_cons] at h
      cases hfile : loadWorkflow tree folder file with
      | error error => simp [hfile, bind, Except.bind] at h
      | ok workflow =>
          cases hrest : rest.mapM (loadWorkflow tree folder) with
          | error error => simp [hfile, hrest, bind, Except.bind] at h
          | ok others =>
              simp only [hfile, hrest, bind, Except.bind, pure, Except.pure] at h
              obtain rfl := Except.ok.inj h
              exact .cons hfile (ih hrest)

/-- The workflows of a project that loads are those that its files describe. -/
theorem describes_of_load (h : load tree root = .ok project) :
    List.Forall₂ (Describes tree root) (workflowFiles tree root) project.workflows := by
  rw [load] at h
  rw [workflowFiles]
  split at h
  next hthere =>
    rw [if_pos hthere]
    cases hsettings : loadSettings tree (Path.join root directoryName) with
    | error error => simp [hsettings, bind, Except.bind] at h
    | ok settings =>
        cases hagents : loadAgents tree (Path.join root directoryName) with
        | error error => simp [hsettings, hagents, bind, Except.bind] at h
        | ok agents =>
            simp only [hsettings, hagents, bind, Except.bind] at h
            split at h
            next => cases h
            next workflows hworkflows =>
              obtain rfl := Except.ok.inj h
              exact forall₂_of_mapM hworkflows
  next hmissing =>
    rw [if_neg hmissing]
    obtain rfl := Except.ok.inj h
    exact .nil

/-! ## The first of a name -/

/-- A workflow is the first of its name, at a position of the list. -/
structure IsFirst (workflows : List Workflow) (name : String) (position : Nat)
    (workflow : Workflow) : Prop where
  here : workflows[position]? = some workflow
  name_eq : workflow.name = name
  unseen : ∀ earlier < position, ∀ other, workflows[earlier]? = some other → other.name ≠ name

/-- A name reaches the first workflow that has it. -/
theorem workflow?_eq_some_iff {name : String} {workflow : Workflow} :
    project.workflow? name = some workflow ↔
      ∃ position, IsFirst project.workflows name position workflow := by
  rw [workflow?, List.find?_eq_some_iff_getElem]
  constructor
  · rintro ⟨hname, position, hlt, hhere, hbefore⟩
    refine ⟨position, List.getElem?_eq_some_iff.2 ⟨hlt, hhere⟩, by simpa using hname, ?_⟩
    intro earlier hearlier other hother
    obtain ⟨hbound, rfl⟩ := List.getElem?_eq_some_iff.1 hother
    simpa using hbefore earlier hearlier
  · rintro ⟨position, hfirst⟩
    obtain ⟨hlt, hhere⟩ := List.getElem?_eq_some_iff.1 hfirst.here
    refine ⟨by simpa using hfirst.name_eq, position, hlt, hhere, fun earlier hearlier => ?_⟩
    simpa using hfirst.unseen earlier hearlier _ (List.getElem?_eq_getElem (by omega))

/-- Some workflow at or before the position of a workflow is the first of its name. -/
theorem exists_isFirst {workflows : List Workflow} {position : Nat} {workflow : Workflow}
    (h : workflows[position]? = some workflow) :
    ∃ first ≤ position, ∃ found, IsFirst workflows workflow.name first found := by
  induction position using Nat.strongRecOn generalizing workflow with
  | ind position ih =>
      by_cases hseen : ∃ earlier < position, ∃ other, workflows[earlier]? = some other ∧
          other.name = workflow.name
      · obtain ⟨earlier, hlt, other, hother, hname⟩ := hseen
        obtain ⟨first, hle, found, hfound⟩ := ih earlier hlt hother
        exact ⟨first, by omega, found, hname ▸ hfound⟩
      · refine ⟨position, Nat.le_refl position, workflow, h, rfl, ?_⟩
        intro earlier hlt other hother hname
        exact hseen ⟨earlier, hlt, other, hother, hname⟩

/-- The workflows of a loaded project are those of its files, in ascending order of the file names,
each under the name of its document or else of its file. The name of a workflow reaches the first
workflow of that name, which stands at or before it; it reaches the workflow itself exactly when no
file before it describes a workflow of that name. So every workflow is reached by its name exactly
when no two files give the same name. -/
theorem workflow?_reaches_first (h : load tree root = .ok project) :
    (workflowFiles tree root).Pairwise (· < ·) ∧
    List.Forall₂ (Describes tree root) (workflowFiles tree root) project.workflows ∧
    (∀ file workflow, Describes tree root file workflow →
      ∃ text, readFile tree (Path.join (workflowFolder root) file) = .ok text ∧
        workflow.NamedBy (Path.stem file) text) ∧
    (∀ position workflow, project.workflows[position]? = some workflow →
      ∃ first ≤ position, ∃ found, IsFirst project.workflows workflow.name first found ∧
        project.workflow? workflow.name = some found ∧
        (first = position ↔ ∀ earlier < position, ∀ other,
          project.workflows[earlier]? = some other → other.name ≠ workflow.name)) ∧
    ((∀ position workflow, project.workflows[position]? = some workflow →
        IsFirst project.workflows workflow.name position workflow) ↔
      (project.workflows.map Workflow.name).Nodup) := by
  refine ⟨workflowFiles_ascend tree root, describes_of_load h, fun _ _ => Describes.namedBy, ?_, ?_,
    ?_⟩
  · intro position workflow hworkflow
    obtain ⟨first, hle, found, hfirst⟩ := exists_isFirst hworkflow
    refine ⟨first, hle, found, hfirst, workflow?_eq_some_iff.2 ⟨first, hfirst⟩, ?_, ?_⟩
    · rintro rfl
      exact hfirst.unseen
    · intro hunseen
      by_cases heq : first = position
      · exact heq
      · exact absurd hfirst.name_eq (hunseen first (by omega) found hfirst.here)
  · intro hfirst
    rw [List.Nodup, List.pairwise_map, List.pairwise_iff_getElem]
    intro earlier later hearlier hlater hlt
    exact (hfirst later _ (List.getElem?_eq_getElem hlater)).unseen earlier hlt _
      (List.getElem?_eq_getElem hearlier)
  · intro hdistinct position workflow hworkflow
    refine ⟨hworkflow, rfl, fun earlier hlt other hother hname => ?_⟩
    have hsame : (project.workflows.map Workflow.name)[earlier]? =
        (project.workflows.map Workflow.name)[position]? := by
      rw [List.getElem?_map, List.getElem?_map, hother, hworkflow, Option.map_some,
        Option.map_some, hname]
    have hbound : earlier < (project.workflows.map Workflow.name).length := by
      rw [List.length_map]
      exact (List.getElem?_eq_some_iff.1 hother).1
    have heq := (List.getElem?_inj hbound hdistinct).1 hsame
    omega

/-- Two files that describe workflows of one name. -/
def twins : FileTree :=
  ⟨.ofList [(".maki", .directory), (".maki/workflows", .directory),
    (".maki/workflows/a.yaml", .file "name: daily\ndescription: morning\nsteps: []\n".toUTF8),
    (".maki/workflows/b.yaml", .file "name: daily\ndescription: evening\nsteps: []\n".toUTF8)]⟩

/-- The project of the two files. -/
def morningAndEvening : Project :=
  ⟨.standard, [], [⟨"daily", "morning", false, []⟩, ⟨"daily", "evening", false, []⟩]⟩

/-- A file with a text that describes a workflow without steps. -/
theorem loadWorkflow_of_text {folder file text name description : String}
    (htext : (tree.readText (Path.join folder file)).toOption = some text)
    (hworkflow : (Workflow.ofDocument? (Path.stem file) text).map (fun workflow =>
      (workflow.name, workflow.description, workflow.failFast, workflow.steps.length)) =
        some (name, description, false, 0)) :
    loadWorkflow tree folder file = .ok ⟨name, description, false, []⟩ := by
  obtain ⟨workflow, hdescribed, hfields⟩ := Option.map_eq_some_iff.1 hworkflow
  simp only [Prod.mk.injEq, List.length_eq_zero_iff] at hfields
  obtain ⟨rfl, rfl, hfast, hsteps⟩ := hfields
  rw [loadWorkflow, readFile_of_text htext]
  simp only [bind, Except.bind, hdescribed]
  rw [← hfast, ← hsteps]
  rfl

theorem load_twins : load twins "" = .ok morningAndEvening := by
  have hdirectory : Path.join "" directoryName = ".maki" := by decide +kernel
  have hthere : twins.contains ".maki" = true := by decide +kernel
  have hsettings : loadSettings twins ".maki" = .ok .standard := by
    have hnone : ¬ twins.contains (Path.join ".maki" "config.toml") = true := by decide +kernel
    rw [loadSettings, if_neg hnone]
  have hagents : loadAgents twins ".maki" = .ok [] := by
    have hnone : filesWith twins (Path.join ".maki" "agents") ["md"] = [] := by decide +kernel
    rw [loadAgents, hnone]
    rfl
  have hfolder : Path.join ".maki" "workflows" = ".maki/workflows" := by decide +kernel
  have hfiles : filesWith twins ".maki/workflows" ["yaml", "yml"] = ["a.yaml", "b.yaml"] := by
    decide +kernel
  have hmorning : loadWorkflow twins ".maki/workflows" "a.yaml" =
      .ok ⟨"daily", "morning", false, []⟩ :=
    @loadWorkflow_of_text _ _ _ "name: daily\ndescription: morning\nsteps: []\n" _ _
      (by decide +kernel) (by decide +kernel)
  have hevening : loadWorkflow twins ".maki/workflows" "b.yaml" =
      .ok ⟨"daily", "evening", false, []⟩ :=
    @loadWorkflow_of_text _ _ _ "name: daily\ndescription: evening\nsteps: []\n" _ _
      (by decide +kernel) (by decide +kernel)
  have hworkflows : loadWorkflows twins ".maki" = .ok morningAndEvening.workflows := by
    rw [loadWorkflows, hfolder, hfiles, List.mapM_cons, hmorning, List.mapM_cons, hevening]
    rfl
  rw [load, hdirectory, if_pos hthere, hsettings, hagents, hworkflows]
  rfl

/-- The name of the second workflow reaches the first, so no name reaches the second. -/
theorem workflow?_hides_twin :
    load twins "" = .ok morningAndEvening ∧
      morningAndEvening.workflows[1]? = some ⟨"daily", "evening", false, []⟩ ∧
      morningAndEvening.workflow? "daily" = some ⟨"daily", "morning", false, []⟩ ∧
      (⟨"daily", "morning", false, []⟩ : Workflow) ≠ ⟨"daily", "evening", false, []⟩ := by
  refine ⟨load_twins, rfl, rfl, fun hsame => ?_⟩
  exact absurd (congrArg Workflow.description hsame) (by decide)

/-- Of the two workflows the name reaches the one of the first file. -/
theorem workflow?_reaches_first_twins :
    load twins "" = .ok morningAndEvening ∧
      ∃ found, IsFirst morningAndEvening.workflows "daily" 0 found ∧
        morningAndEvening.workflow? "daily" = some found ∧ found.description = "morning" ∧
        ¬ (morningAndEvening.workflows.map Workflow.name).Nodup := by
  obtain ⟨-, -, -, hreached, -⟩ := workflow?_reaches_first load_twins
  obtain ⟨first, -, found, hfirst, hfound, hown⟩ := hreached 1 _ rfl
  have hzero : first = 0 := by
    by_cases hzero : first = 0
    · exact hzero
    · exact absurd rfl (hfirst.unseen 0 (by omega) ⟨"daily", "morning", false, []⟩ rfl)
  subst hzero
  obtain rfl := Option.some.inj hfirst.here
  exact ⟨load_twins, _, hfirst, hfound, rfl, by decide⟩

end Project

end Ensemble
