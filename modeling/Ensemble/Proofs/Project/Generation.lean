/-
# Projects that are made

To make a project writes the files of its templates and touches nothing else. A project that stands
already is refused, unless it is to be replaced; then the files of the templates are written over
and those next to them stay. To make a project a second time finds every directory made and every
file filled, and changes nothing.
-/

import Ensemble.Project.Scaffold
import Ensemble.Proofs.File.Frame
import Mathlib.Data.List.Nodup

namespace Ensemble.Scaffold

variable {tree made after : FileTree} {directory template path : String}
  {templates paths : List String}

/-! ## The templates of a project -/

/-- The templates of a folder that a project gets: all of them, or the one of a small project. They
ascend, so each is there once. -/
structure IsChoice (isSmall : Bool) (folder small : String) (chosen : List String) : Prop where
  ascends : chosen.Pairwise (· < ·)
  mem_iff : ∀ template, template ∈ chosen ↔
    if isSmall then template = small
    else (Template.find? template).isSome ∧ folder.toList <+: template.toList

theorem isChoice_small (folder small : String) : IsChoice true folder small [small] :=
  ⟨List.pairwise_singleton _ _, fun template => by simp⟩

theorem isChoice_below (folder small : String) :
    IsChoice false folder small (Template.below folder) := by
  have hascends : (Template.all.map Prod.fst).Pairwise (· < ·) := by decide
  refine ⟨hascends.filter _, fun template => ?_⟩
  rw [Template.below, List.mem_filter, List.isPrefixOf_iff_prefix, if_neg Bool.false_ne_true]
  refine and_congr_left fun _ => ?_
  rw [Template.find?, List.lookup_isSome_iff, List.mem_map]
  constructor
  · rintro ⟨entry, hentry, rfl⟩
    exact ⟨entry, hentry, beq_self_eq_true _⟩
  · rintro ⟨entry, hentry, hsame⟩
    exact ⟨entry, hentry, (beq_iff_eq.1 hsame).symm⟩

/-- The files of a project: its settings, then its agents, then its workflows. -/
theorem templatePaths_eq (isSmall : Bool) :
    ∃ agents workflows, templatePaths isSmall = "config.toml" :: agents ++ workflows ∧
      IsChoice isSmall "agents/" smallAgent agents ∧
      IsChoice isSmall "workflows/" smallWorkflow workflows := by
  cases isSmall with
  | true => exact ⟨_, _, rfl, isChoice_small _ _, isChoice_small _ _⟩
  | false => exact ⟨_, _, rfl, isChoice_below _ _, isChoice_below _ _⟩

/-- The names that lead to the file of a template lead on from its directory. -/
theorem isOrdinary_of_mem_names {isSmall : Bool} (h : template ∈ templatePaths isSmall) :
    Path.isRooted template = false ∧ ∀ name ∈ Path.names template, Path.IsOrdinary name := by
  have hall : ∀ isSmall, ∀ template ∈ templatePaths isSmall,
      Path.isRooted template = false ∧
        ∀ name ∈ Path.names template, name ≠ "." ∧ name ≠ ".." := by
    decide +kernel
  exact hall isSmall template h

/-- Where the file of a template stands. -/
theorem location_template (directory : String) {isSmall : Bool}
    (h : template ∈ templatePaths isSmall) :
    Path.location (Path.join directory template) =
      Path.location directory ++ Path.names template :=
  Path.location_join directory (isOrdinary_of_mem_names h).1 (isOrdinary_of_mem_names h).2

/-- The files of templates stand at different places. -/
theorem nodup_locations (directory : String) (isSmall : Bool) :
    ((templatePaths isSmall).map fun template =>
      Path.location (Path.join directory template)).Nodup := by
  have hdistinct : ((templatePaths isSmall).map Path.names).Nodup := by
    cases isSmall <;> decide +kernel
  have hlocations : (templatePaths isSmall).map
      (fun template => Path.location (Path.join directory template)) =
        ((templatePaths isSmall).map Path.names).map (Path.location directory ++ ·) := by
    rw [List.map_map]
    exact List.map_congr_left fun template h => location_template directory h
  rw [hlocations]
  exact hdistinct.map (List.append_right_injective _)

/-! ## One template -/

/-- What it takes to write the file of a template. -/
theorem writeTemplate_ok (h : writeTemplate tree directory template = (after, .ok path)) :
    path = Path.join directory template ∧
      ∃ text prepared, Template.find? template = some text ∧
        tree.ensureParent path = (prepared, none) ∧
        prepared.write path .overwrite text.toUTF8 = .ok after := by
  rw [writeTemplate] at h
  split at h
  next => cases h
  next text htext =>
    dsimp only at h
    split at h
    next => cases h
    next prepared hprepared =>
      split at h
      next written hwritten =>
        obtain ⟨rfl, hpath⟩ := Prod.mk.inj h
        obtain rfl := Except.ok.inj hpath
        exact ⟨rfl, text, prepared, htext, hprepared, hwritten⟩
      next => cases h

theorem changesAt_writeTemplate (h : writeTemplate tree directory template = (after, .ok path)) :
    FileTree.ChangesAt [Path.location path] tree after := by
  obtain ⟨-, text, prepared, -, hprepared, hwritten⟩ := writeTemplate_ok h
  have hadds := FileTree.addsDirectories_ensureParent tree path
  rw [hprepared] at hadds
  exact hadds.changesAt.trans (FileTree.changesAt_write hwritten)

theorem entry_writeTemplate (h : writeTemplate tree directory template = (after, .ok path)) :
    ∃ text, Template.find? template = some text ∧ after.entry path = .ok (.file text.toUTF8) := by
  obtain ⟨-, text, prepared, htext, -, hwritten⟩ := writeTemplate_ok h
  exact ⟨text, htext, FileTree.entry_write_overwrite hwritten⟩

/-- The file of a template is written again without a change while it holds the template. -/
theorem writeTemplate_again (h : writeTemplate tree directory template = (made, .ok path))
    (hkeeps : made.KeepsDirectories after) {text : String}
    (htext : Template.find? template = some text)
    (hentry : after.entry path = .ok (.file text.toUTF8)) :
    writeTemplate after directory template = (after, .ok path) := by
  obtain ⟨rfl, text', prepared, htext', hprepared, hwritten⟩ := writeTemplate_ok h
  have hkept := (FileTree.changesAt_write hwritten).keeps.trans hkeeps
  rw [writeTemplate, htext]
  simp only [FileTree.ensureParent_again hprepared hkept, FileTree.write_of_entry hentry]

/-! ## All templates -/

theorem writeTemplates_cons_ok
    (h : writeTemplates tree directory (template :: templates) = (after, .ok paths)) :
    ∃ middle path others, paths = path :: others ∧
      writeTemplate tree directory template = (middle, .ok path) ∧
      writeTemplates middle directory templates = (after, .ok others) := by
  rw [writeTemplates] at h
  split at h
  next => cases h
  next middle path hfirst =>
    split at h
    next last others hrest =>
      obtain ⟨rfl, hpaths⟩ := Prod.mk.inj h
      exact ⟨middle, path, others, (Except.ok.inj hpaths).symm, hfirst, hrest⟩
    next => cases h

/-- The paths that were written are those of the templates. -/
theorem paths_writeTemplates
    (h : writeTemplates tree directory templates = (after, .ok paths)) :
    paths = templates.map (Path.join directory) := by
  induction templates generalizing tree paths with
  | nil => exact (Except.ok.inj (Prod.mk.inj h).2).symm
  | cons template rest ih =>
      obtain ⟨middle, path, others, rfl, hfirst, hrest⟩ := writeTemplates_cons_ok h
      rw [ih hrest, (writeTemplate_ok hfirst).1, List.map_cons]

/-- Only the files that were written change. -/
theorem changesAt_writeTemplates
    (h : writeTemplates tree directory templates = (after, .ok paths)) :
    FileTree.ChangesAt (paths.map Path.location) tree after := by
  induction templates generalizing tree paths with
  | nil =>
      obtain ⟨rfl, hpaths⟩ := Prod.mk.inj h
      obtain rfl := Except.ok.inj hpaths
      exact (FileTree.AddsDirectories.refl _).changesAt
  | cons template rest ih =>
      obtain ⟨middle, path, others, rfl, hfirst, hrest⟩ := writeTemplates_cons_ok h
      exact (changesAt_writeTemplate hfirst).trans (ih hrest)

/-- Every file that was written holds its template in the end, because none is written twice. -/
theorem entry_writeTemplates
    (h : writeTemplates tree directory templates = (after, .ok paths))
    (hdistinct : (paths.map Path.location).Nodup) :
    ∀ template ∈ templates, ∃ text, Template.find? template = some text ∧
      after.entry (Path.join directory template) = .ok (.file text.toUTF8) := by
  induction templates generalizing tree paths with
  | nil => exact List.forall_mem_nil _
  | cons template rest ih =>
      obtain ⟨middle, path, others, rfl, hfirst, hrest⟩ := writeTemplates_cons_ok h
      rw [List.map_cons, List.nodup_cons] at hdistinct
      refine List.forall_mem_cons.2 ⟨?_, ih hrest hdistinct.2⟩
      obtain ⟨text, htext, hentry⟩ := entry_writeTemplate hfirst
      refine ⟨text, htext, ?_⟩
      rw [← (writeTemplate_ok hfirst).1]
      refine (changesAt_writeTemplates hrest).entry hentry hdistinct.1 fun location hlocation => ?_
      obtain ⟨other, -, rfl⟩ := List.mem_map.1 hlocation
      exact Path.isName_location other

/-- A project has its files at different places. -/
theorem nodup_paths {isSmall : Bool}
    (h : writeTemplates tree directory (templatePaths isSmall) = (after, .ok paths)) :
    (paths.map Path.location).Nodup := by
  rw [paths_writeTemplates h, List.map_map]
  exact nodup_locations directory isSmall

/-- The files of templates are written again without a change while they hold the templates. -/
theorem writeTemplates_again
    (h : writeTemplates tree directory templates = (made, .ok paths))
    (hkeeps : made.KeepsDirectories after)
    (hfilled : ∀ template ∈ templates, ∃ text, Template.find? template = some text ∧
      after.entry (Path.join directory template) = .ok (.file text.toUTF8)) :
    writeTemplates after directory templates = (after, .ok paths) := by
  induction templates generalizing tree paths with
  | nil =>
      rw [← Except.ok.inj (Prod.mk.inj h).2]
      rfl
  | cons template rest ih =>
      obtain ⟨middle, path, others, rfl, hfirst, hrest⟩ := writeTemplates_cons_ok h
      obtain ⟨⟨text, htext, hentry⟩, hothers⟩ := List.forall_mem_cons.1 hfilled
      rw [← (writeTemplate_ok hfirst).1] at hentry
      have hkept := (changesAt_writeTemplates hrest).keeps.trans hkeeps
      simp only [writeTemplates, writeTemplate_again hfirst hkept htext hentry, ih hrest hothers]

/-! ## A whole project -/

theorem makeDirectories_cons_ok {directories : List String}
    (h : makeDirectories tree (path :: directories) = (made, .ok ())) :
    ∃ first, tree.ensureDirectories path = (first, none) ∧
      makeDirectories first directories = (made, .ok ()) := by
  rw [makeDirectories] at h
  split at h
  next first hfirst => exact ⟨first, hfirst, h⟩
  next => cases h

theorem addsDirectories_makeDirectories {directories : List String}
    (h : makeDirectories tree directories = (made, .ok ())) : tree.AddsDirectories made := by
  induction directories generalizing tree with
  | nil =>
      obtain ⟨rfl, -⟩ := Prod.mk.inj h
      exact .refl _
  | cons path rest ih =>
      obtain ⟨first, hfirst, hrest⟩ := makeDirectories_cons_ok h
      have hadds := FileTree.addsDirectories_ensurePath tree (Path.isRooted path)
        (Path.essentialNames path).reverse
      rw [← FileTree.ensureDirectories, hfirst] at hadds
      exact hadds.trans (ih hrest)

/-- Directories that were made are not made again as long as they are kept. -/
theorem makeDirectories_again {directories : List String}
    (h : makeDirectories tree directories = (made, .ok ()))
    (hkeeps : made.KeepsDirectories after) :
    makeDirectories after directories = (after, .ok ()) := by
  induction directories generalizing tree with
  | nil => rfl
  | cons path rest ih =>
      obtain ⟨first, hfirst, hrest⟩ := makeDirectories_cons_ok h
      have hkept := (addsDirectories_makeDirectories hrest).keepsDirectories.trans hkeeps
      rw [makeDirectories, FileTree.ensureDirectories, FileTree.ensurePath_again hfirst hkept]
      exact ih hrest

/-- What it takes to make a project. -/
theorem make_ok {target : String} {replaces isSmall : Bool}
    (h : make tree target replaces isSmall = (after, .ok paths)) :
    ∃ prepared, makeDirectories tree
        [Path.join (Path.join target Project.directoryName) "agents",
          Path.join (Path.join target Project.directoryName) "workflows"] = (prepared, .ok ()) ∧
      writeTemplates prepared (Path.join target Project.directoryName) (templatePaths isSmall) =
        (after, .ok paths) := by
  simp only [make] at h
  split at h
  next => cases h
  next =>
    split at h
    next => cases h
    next prepared hprepared => exact ⟨prepared, hprepared, h⟩

/-- A project that was made. -/
structure Generated (tree after : FileTree) (directory : String) (isSmall : Bool)
    (paths : List String) : Prop where
  /-- The settings come first, then the agents, then the workflows. -/
  ordered : ∃ agents workflows,
    paths = ("config.toml" :: agents ++ workflows).map (Path.join directory) ∧
      IsChoice isSmall "agents/" smallAgent agents ∧
      IsChoice isSmall "workflows/" smallWorkflow workflows
  distinct : paths.Nodup
  /-- Every file holds its template. -/
  filled : ∀ path ∈ paths, ∃ template text, path = Path.join directory template ∧
    Template.find? template = some text ∧ after.entry path = .ok (.file text.toUTF8) ∧
    after.readText path = .ok text
  /-- Elsewhere the tree has the files that it had, and no others. -/
  framed : ∀ key, (∀ path ∈ paths, FileTree.keyOf (Path.location path) ≠ key) →
    ∀ content, after.entries.get? key = some (.file content) ↔
      tree.entries.get? key = some (.file content)
  /-- Every other file is found where it was. -/
  kept : ∀ other content, tree.entry other = .ok (.file content) →
    (∀ path ∈ paths, Path.location path ≠ Path.location other) →
      after.entry other = .ok (.file content)
  /-- The directories stay. -/
  directories : tree.KeepsDirectories after

theorem generated_of_writeTemplates {prepared : FileTree} {isSmall : Bool}
    (hprepared : tree.AddsDirectories prepared)
    (h : writeTemplates prepared directory (templatePaths isSmall) = (after, .ok paths)) :
    Generated tree after directory isSmall paths := by
  have hpaths := paths_writeTemplates h
  have hdistinct := nodup_paths h
  have hchanges : FileTree.ChangesAt (paths.map Path.location) tree after :=
    hprepared.changesAt.trans (changesAt_writeTemplates h)
  obtain ⟨agents, workflows, htemplates, hagents, hworkflows⟩ := templatePaths_eq isSmall
  refine ⟨⟨agents, workflows, htemplates ▸ hpaths, hagents, hworkflows⟩, hdistinct.of_map, ?_, ?_,
    ?_, hchanges.keeps⟩
  · intro path hpath
    rw [hpaths] at hpath
    obtain ⟨template, htemplate, rfl⟩ := List.mem_map.1 hpath
    obtain ⟨text, htext, hentry⟩ := entry_writeTemplates h hdistinct template htemplate
    refine ⟨template, text, rfl, htext, hentry, ?_⟩
    simp only [FileTree.readText, hentry, bind, Except.bind, FileTree.fromUTF8?_toUTF8, pure,
      Except.pure]
  · intro key hkey
    exact hchanges.file_iff (List.forall_mem_map.2 hkey)
  · intro other content hentry hother
    refine hchanges.entry hentry (fun hmem => ?_) (List.forall_mem_map.2 fun path _ =>
      Path.isName_location path)
    obtain ⟨path, hpath, hsame⟩ := List.mem_map.1 hmem
    exact hother path hpath hsame

/-- A project that stands is refused, unless it is to be replaced. One that is made has the files of
its templates, each once and in order, and leaves every other file as it was. To make it again
changes nothing. -/
theorem make_framed_and_repeatable (tree : FileTree) (target : String) (replaces isSmall : Bool) :
    (tree.contains (Path.join target Project.directoryName) = true → replaces = false →
      make tree target replaces isSmall =
        (tree, .error (.directoryExists (Path.join target Project.directoryName)))) ∧
    ∀ after paths, make tree target replaces isSmall = (after, .ok paths) →
      Generated tree after (Path.join target Project.directoryName) isSmall paths ∧
        make after target true isSmall = (after, .ok paths) := by
  constructor
  · intro hthere hkeep
    simp only [make, hthere, hkeep, Bool.not_false, Bool.and_self, if_true]
  · intro after paths h
    obtain ⟨prepared, hprepared, hwritten⟩ := make_ok h
    refine ⟨generated_of_writeTemplates (addsDirectories_makeDirectories hprepared) hwritten, ?_⟩
    -- The second run starts from what the first one left, so it finds all of it done.
    have hmade := makeDirectories_again hprepared (changesAt_writeTemplates hwritten).keeps
    have hagain := writeTemplates_again hwritten (.refl after)
      (entry_writeTemplates hwritten (nodup_paths hwritten))
    simp only [make, Bool.not_true, Bool.and_false, Bool.false_eq_true, if_false, hmade, hagain]

/-- A project with an agent of its own and a template that was edited, next to another file. -/
def edited : FileTree :=
  ⟨.ofList [(".maki", .directory), (".maki/agents", .directory),
    (".maki/agents/editor.md", .file "mine".toUTF8),
    (".maki/agents/writer.md", .file "changed".toUTF8), ("notes.txt", .file "kept".toUTF8)]⟩

/-- The edited project is refused, and on request replaced. The files that are no templates stay. -/
theorem make_framed_and_repeatable_edited :
    make edited "" false true = (edited, .error (.directoryExists ".maki")) ∧
      ∃ after paths, make edited "" true true = (after, .ok paths) ∧
        paths = [".maki/config.toml", ".maki/agents/writer.md",
          ".maki/workflows/quick-note.yaml"] ∧
        Generated edited after ".maki" true paths ∧
        after.entry ".maki/agents/editor.md" = .ok (.file "mine".toUTF8) ∧
        after.entry "notes.txt" = .ok (.file "kept".toUTF8) ∧
        make after "" true true = (after, .ok paths) := by
  have hdirectory : Path.join "" Project.directoryName = ".maki" := by decide +kernel
  have hthere : edited.contains (Path.join "" Project.directoryName) = true := by decide +kernel
  have hrefused := (make_framed_and_repeatable edited "" false true).1 hthere rfl
  have hmade : (make edited "" true true).2 = .ok [".maki/config.toml",
      ".maki/agents/writer.md", ".maki/workflows/quick-note.yaml"] := by decide +kernel
  obtain ⟨after, hafter⟩ : ∃ after, make edited "" true true = (after, .ok [".maki/config.toml",
      ".maki/agents/writer.md", ".maki/workflows/quick-note.yaml"]) := ⟨_, by rw [← hmade]⟩
  obtain ⟨hgenerated, hagain⟩ :=
    (make_framed_and_repeatable edited "" true true).2 after _ hafter
  rw [hdirectory] at hrefused hgenerated
  have hentry : ∀ {path name : String} {directory : List String} {content : ByteArray},
      edited.place path = .ok ⟨directory, some name, false⟩ →
      ¬ FileTree.longestName < name.utf8ByteSize →
      edited.entries.get? (FileTree.keyOf (directory ++ [name])) = some (.file content) →
        edited.entry path = .ok (.file content) := by
    intro path name directory content hplace hshort hget
    rw [FileTree.entry_of_place hplace rfl rfl hshort, FileTree.entryAt_append, hget]
    rfl
  have heditor : edited.entry ".maki/agents/editor.md" = .ok (.file "mine".toUTF8) :=
    @hentry _ "editor.md" [".maki", "agents"] _ (by decide +kernel) (by decide)
      ((Dictionary.get?_ofList_eq_some_iff (by decide +kernel)).2 (by simp [FileTree.keyOf]))
  have hnotes : edited.entry "notes.txt" = .ok (.file "kept".toUTF8) :=
    @hentry _ "notes.txt" [] _ (by decide +kernel) (by decide)
      ((Dictionary.get?_ofList_eq_some_iff (by decide +kernel)).2 (by simp [FileTree.keyOf]))
  exact ⟨hrefused, after, _, hafter, rfl, hgenerated,
    hgenerated.kept _ _ heditor (by decide +kernel),
    hgenerated.kept _ _ hnotes (by decide +kernel), hagain⟩

end Ensemble.Scaffold
