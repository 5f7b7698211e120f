/-
# Workflows that are refused for their step names

A step is recorded under its name without the blanks around it, or under a standard name that is
made of its position if its name is blank. A workflow is refused exactly when two steps would be
recorded under one name: when they have the same name, or when one has the standard name of
another that has none. Standard names of different positions differ, so that blank names alone are
never in the way. The error names the first step that repeats an earlier one, and nothing happens.
-/

import Mathlib.Data.List.Nodup
import Ensemble.Proofs.Coordination.ResultKeys
import Ensemble.Proofs.Text.Trimming
import Ensemble.Proofs.Workflow.Isolation
import Ensemble.Proofs.Workflow.Narration

namespace Ensemble

variable {ε σ : Type}

/-! ## The name of a step -/

namespace WorkflowStep

/-- The name of a step at a position that has none of its own. -/
def standardName (index : Nat) : String := "step_" ++ toString index

theorem standardName_injective {first second : Nat}
    (h : standardName first = standardName second) : first = second := by
  have hlists := congrArg String.toList h
  simp only [standardName, String.toList_append] at hlists
  have hdigits := List.append_cancel_left hlists
  exact ResultKeys.toDigits_injective (by simpa [Nat.toString_eq_ofList_toDigits] using hdigits)

theorem standardName_ne_empty (index : Nat) : standardName index ≠ "" := by
  simp [standardName]

theorem resolvedName_of_blank {step : WorkflowStep} (h : Text.isBlankText step.name = true)
    (index : Nat) : step.resolvedName index = standardName index := by
  rw [resolvedName, Text.trim_eq_empty_iff.2 h]
  rfl

theorem trim_ne_empty_of_unblank {step : WorkflowStep} (h : Text.isBlankText step.name = false) :
    Text.trim step.name ≠ "" := by
  rw [Ne, Text.trim_eq_empty_iff, h]
  exact Bool.false_ne_true

theorem resolvedName_of_unblank {step : WorkflowStep} (h : Text.isBlankText step.name = false)
    (index : Nat) : step.resolvedName index = Text.trim step.name :=
  Workflow.resolvedName_of_named (trim_ne_empty_of_unblank h) index

/-- Blank names at different positions never come to the same. -/
theorem resolvedName_ne_of_blank {one other : WorkflowStep}
    (hone : Text.isBlankText one.name = true) (hother : Text.isBlankText other.name = true)
    {first second : Nat} (hne : first ≠ second) :
    one.resolvedName first ≠ other.resolvedName second := by
  rw [resolvedName_of_blank hone, resolvedName_of_blank hother]
  exact fun h => hne (standardName_injective h)

/-- Steps at different positions come to the same name exactly when they have the same name, or one
has the standard name of the other, which has none. -/
theorem resolvedName_eq_iff {one other : WorkflowStep} {first second : Nat}
    (hne : first ≠ second) :
    one.resolvedName first = other.resolvedName second ↔
      (Text.isBlankText one.name = false ∧ Text.trim one.name = Text.trim other.name) ∨
      (Text.isBlankText one.name = true ∧ Text.trim other.name = standardName first) ∨
      (Text.isBlankText other.name = true ∧ Text.trim one.name = standardName second) := by
  cases hone : Text.isBlankText one.name with
  | false =>
      cases hother : Text.isBlankText other.name with
      | false => simp [resolvedName_of_unblank hone, resolvedName_of_unblank hother]
      | true =>
          simp [resolvedName_of_unblank hone, resolvedName_of_blank hother,
            Text.trim_eq_empty_iff.2 hother, trim_ne_empty_of_unblank hone]
  | true =>
      cases hother : Text.isBlankText other.name with
      | false =>
          simp [resolvedName_of_blank hone, resolvedName_of_unblank hother, eq_comm]
      | true =>
          -- Neither name is anything, but standard names are.
          simp [resolvedName_ne_of_blank hone hother hne, Text.trim_eq_empty_iff.2 hone,
            Text.trim_eq_empty_iff.2 hother, (standardName_ne_empty first).symm,
            (standardName_ne_empty second).symm]

end WorkflowStep

namespace Workflow

open WorkflowStep (standardName)

/-! ## Names that clash -/

/-- Two steps have the same name, which is not blank. -/
def SharesName (workflow : Workflow) : Prop :=
  ∃ (first second : Nat) (one other : WorkflowStep), first ≠ second ∧
    workflow.steps[first]? = some one ∧ workflow.steps[second]? = some other ∧
    Text.isBlankText one.name = false ∧ Text.trim one.name = Text.trim other.name

/-- A step has the standard name of a step without a name. -/
def TakesStandardName (workflow : Workflow) : Prop :=
  ∃ (index position : Nat) (unnamed named : WorkflowStep),
    workflow.steps[index]? = some unnamed ∧ Text.isBlankText unnamed.name = true ∧
    workflow.steps[position]? = some named ∧ Text.trim named.name = standardName index

theorem getElem?_stepNames (workflow : Workflow) (position : Nat) :
    workflow.stepNames[position]? =
      workflow.steps[position]?.map fun step => step.resolvedName position := by
  rw [stepNames, getElem?_namesFrom, Nat.zero_add]

/-- Step names repeat exactly when two steps come to the same name. -/
theorem not_nodup_stepNames_iff {workflow : Workflow} :
    ¬ workflow.stepNames.Nodup ↔
      ∃ (first second : Nat) (one other : WorkflowStep), first ≠ second ∧
        workflow.steps[first]? = some one ∧ workflow.steps[second]? = some other ∧
        one.resolvedName first = other.resolvedName second := by
  rw [List.nodup_iff_getElem?_ne_getElem?]
  push Not
  constructor
  · rintro ⟨first, second, hlt, hbound, hsame⟩
    rw [List.getElem?_eq_getElem hbound, getElem?_stepNames, Option.map_eq_some_iff] at hsame
    obtain ⟨one, hone, hname⟩ := hsame
    have hlast := List.getElem?_eq_getElem hbound
    rw [getElem?_stepNames, Option.map_eq_some_iff] at hlast
    obtain ⟨other, hother, hlastName⟩ := hlast
    exact ⟨first, second, one, other, Nat.ne_of_lt hlt, hone, hother,
      hname.trans hlastName.symm⟩
  · rintro ⟨first, second, one, other, hne, hone, hother, hsame⟩
    have hfirst : workflow.stepNames[first]? = some (one.resolvedName first) := by
      rw [getElem?_stepNames, hone, Option.map_some]
    have hsecond : workflow.stepNames[second]? = some (other.resolvedName second) := by
      rw [getElem?_stepNames, hother, Option.map_some]
    obtain ⟨hbound, -⟩ := List.getElem?_eq_some_iff.1 hfirst
    obtain ⟨hboundOther, -⟩ := List.getElem?_eq_some_iff.1 hsecond
    rcases Nat.lt_or_gt_of_ne hne with hlt | hgt
    · exact ⟨first, second, hlt, hboundOther, by rw [hfirst, hsecond, hsame]⟩
    · exact ⟨second, first, hgt, hbound, by rw [hfirst, hsecond, hsame]⟩

/-- Step names repeat exactly when two steps have the same name or one has the standard name of
another that has none. -/
theorem not_nodup_iff_clash {workflow : Workflow} :
    ¬ workflow.stepNames.Nodup ↔ workflow.SharesName ∨ workflow.TakesStandardName := by
  rw [not_nodup_stepNames_iff]
  constructor
  · rintro ⟨first, second, one, other, hne, hone, hother, hsame⟩
    rcases (WorkflowStep.resolvedName_eq_iff hne).1 hsame with
      ⟨hblank, hname⟩ | ⟨hblank, hname⟩ | ⟨hblank, hname⟩
    · exact Or.inl ⟨first, second, one, other, hne, hone, hother, hblank, hname⟩
    · exact Or.inr ⟨first, second, one, other, hone, hblank, hother, hname⟩
    · exact Or.inr ⟨second, first, other, one, hother, hblank, hone, hname⟩
  · rintro (⟨first, second, one, other, hne, hone, hother, hshared⟩ |
      ⟨index, position, unnamed, named, hunnamed, hblank, hnamed, hname⟩)
    · refine ⟨first, second, one, other, hne, hone, hother, ?_⟩
      exact (WorkflowStep.resolvedName_eq_iff hne).2 (Or.inl hshared)
    · have hne : index ≠ position := by
        rintro rfl
        obtain rfl := Option.some.inj (hunnamed.symm.trans hnamed)
        rw [Text.trim_eq_empty_iff.2 hblank] at hname
        exact WorkflowStep.standardName_ne_empty index hname.symm
      refine ⟨index, position, unnamed, named, hne, hunnamed, hnamed, ?_⟩
      exact (WorkflowStep.resolvedName_eq_iff hne).2 (Or.inr (Or.inl ⟨hblank, hname⟩))

/-- Blank names alone do not repeat. -/
theorem nodup_of_blank {workflow : Workflow}
    (hblank : ∀ step ∈ workflow.steps, Text.isBlankText step.name = true) :
    workflow.stepNames.Nodup := by
  by_contra hrepeated
  obtain ⟨first, second, one, other, hne, hone, hother, hsame⟩ :=
    not_nodup_stepNames_iff.1 hrepeated
  exact WorkflowStep.resolvedName_ne_of_blank (hblank one (List.mem_of_getElem? hone))
    (hblank other (List.mem_of_getElem? hother)) hne hsame

/-! ## The name that is reported -/

/-- A name stands at a position, which is the first to repeat an earlier name. -/
structure IsFirstRepeat (names : List String) (position : Nat) (name : String) : Prop where
  name_at : names[position]? = some name
  repeats : name ∈ names.take position
  first : (names.take position).Nodup

/-- Behind distinct names, which have been seen, the search finds the first name that repeats an
earlier one. -/
theorem exists_isFirstRepeat {before rest : List String} (hdistinct : before.Nodup)
    {name : String} (h : firstRepeated? before.reverse rest = some name) :
    ∃ position, IsFirstRepeat (before ++ rest) position name := by
  induction rest generalizing before with
  | nil => simp [firstRepeated?] at h
  | cons head rest ih =>
      rw [firstRepeated?] at h
      split at h
      next hseen =>
        obtain rfl := Option.some.inj h
        exact ⟨before.length, by simp, by simpa using hseen, by simpa using hdistinct⟩
      next hnew =>
        have hlonger : (before ++ [head]).Nodup := by
          rw [List.nodup_append_comm]
          exact List.nodup_cons.2 ⟨by simpa using hnew, hdistinct⟩
        obtain ⟨position, hrepeat⟩ := ih hlonger (by simpa using h)
        exact ⟨position, by simpa using hrepeat⟩

/-- A workflow that is refused repeats a step name, which the error names where it is first
repeated. -/
theorem run_of_firstRepeat (responder : Responder ε σ) {workflow : Workflow}
    (hrepeated : ¬ workflow.stepNames.Nodup) (stamp : RunStamp) (listener : Listener)
    (session : Session ε σ) :
    ∃ position name, IsFirstRepeat workflow.stepNames position name ∧
      workflow.run responder stamp listener session =
        (.error (.invalidStrategy (repeatedStep workflow.name name)), listener, session) := by
  cases hfirst : firstRepeated? [] workflow.stepNames with
  | none => exact absurd (firstRepeated?_eq_none_iff.1 hfirst).1 hrepeated
  | some name =>
      obtain ⟨position, hrepeat⟩ := exists_isFirstRepeat List.nodup_nil hfirst
      exact ⟨position, name, hrepeat, by simp only [run, hfirst]⟩

/-- A workflow is refused exactly when two of its steps have the same name, or one has the standard
name of another that has none; steps without names never clash with each other. The error names the
first step that repeats an earlier one, no step runs, and the listener is told nothing. -/
theorem run_refuses_clashes (responder : Responder ε σ) (workflow : Workflow) (stamp : RunStamp)
    (listener : Listener) (session : Session ε σ) :
    ((∃ error, (workflow.run responder stamp listener session).1 = .error error) ↔
      workflow.SharesName ∨ workflow.TakesStandardName) ∧
    (∀ error heard after,
      workflow.run responder stamp listener session = (.error error, heard, after) →
      (∃ position name, IsFirstRepeat workflow.stepNames position name ∧
        error = .invalidStrategy (repeatedStep workflow.name name)) ∧
      heard = listener ∧ after = session) ∧
    (∀ (one other : WorkflowStep) (first second : Nat), Text.isBlankText one.name = true →
      Text.isBlankText other.name = true → first ≠ second →
      one.resolvedName first ≠ other.resolvedName second) ∧
    ((∀ step ∈ workflow.steps, Text.isBlankText step.name = true) → ∃ report heard after,
      workflow.run responder stamp listener session = (.ok report, heard, after)) := by
  refine ⟨?_, ?_, ?_, ?_⟩
  · rw [← not_nodup_iff_clash]
    constructor
    · rintro ⟨error, herror⟩ hdistinct
      rw [run_told responder hdistinct] at herror
      simp at herror
    · intro hrepeated
      obtain ⟨position, name, -, hrefused⟩ :=
        run_of_firstRepeat responder hrepeated stamp listener session
      exact ⟨_, congrArg Prod.fst hrefused⟩
  · intro error heard after h
    by_cases hdistinct : workflow.stepNames.Nodup
    · rw [run_told responder hdistinct] at h
      simp at h
    · obtain ⟨position, name, hrepeat, hrefused⟩ :=
        run_of_firstRepeat responder hdistinct stamp listener session
      rw [hrefused] at h
      obtain ⟨herror, hrest⟩ := Prod.mk.inj h
      obtain ⟨hheard, hafter⟩ := Prod.mk.inj hrest
      exact ⟨⟨position, name, hrepeat, (Except.error.inj herror).symm⟩, hheard.symm, hafter.symm⟩
  · intro one other first second hone hother hne
    exact WorkflowStep.resolvedName_ne_of_blank hone hother hne
  · intro hblank
    exact ⟨_, _, _, run_told responder (nodup_of_blank hblank) stamp listener session⟩

/-- The second step has no name, and the third has the standard name for it. -/
def preempted : Workflow :=
  .new "preempted" [⟨"\u2003draft", "writer", "Write", none⟩, ⟨"\u00a0", "writer", "Look", none⟩,
    ⟨" step_1\n", "writer", "Finish", none⟩]

/-- Two steps whose names are different blanks. -/
def nameless : Workflow :=
  .new "nameless" [⟨"", "writer", "Write", none⟩, ⟨"\u3000 ", "writer", "Finish", none⟩]

/-- The third step of `preempted` repeats the name of the second and is reported; the steps of
`nameless` run. -/
theorem run_refuses_clashes_preempted :
    preempted.TakesStandardName ∧
    (∃ error, (preempted.run (fun _ _ _ _ => (.ok "done", ())) ⟨default, default, default⟩
      (.listening []) (.start () ())).1 = .error error) ∧
    (∃ position name, IsFirstRepeat preempted.stepNames position name ∧
      repeatedStep preempted.name name =
        "workflow 'preempted' declares step 'step_1' more than once") ∧
    nameless.stepNames = ["step_0", "step_1"] ∧
    (∃ report heard after, nameless.run (fun _ _ _ _ => (.ok "done", ()))
      ⟨default, default, default⟩ (.listening []) (.start () ()) = (.ok report, heard, after)) ∧
    (⟨"", "writer", "Write", none⟩ : WorkflowStep).resolvedName 0 ≠
      (⟨"\u3000 ", "writer", "Finish", none⟩ : WorkflowStep).resolvedName 1 := by
  have hclash : preempted.TakesStandardName :=
    ⟨1, 2, _, _, rfl, by decide, rfl, by decide⟩
  have hrun : preempted.run (fun _ _ _ _ => (.ok "done", ())) ⟨default, default, default⟩
      (.listening []) (.start () ()) = (.error (.invalidStrategy
        "workflow 'preempted' declares step 'step_1' more than once"), .listening [],
        .start () ()) := rfl
  have hnames : nameless.stepNames = ["step_0", "step_1"] := by decide
  have hblank : ∀ step ∈ nameless.steps, Text.isBlankText step.name = true := by decide
  obtain ⟨hiff, hrefused, hapart, -⟩ := run_refuses_clashes (fun _ _ _ _ => (.ok "done", ()))
    preempted ⟨default, default, default⟩ (.listening []) (.start () ())
  obtain ⟨-, -, -, hruns⟩ := run_refuses_clashes (fun _ _ _ _ => (.ok "done", ()))
    nameless ⟨default, default, default⟩ (.listening []) (.start () ())
  obtain ⟨⟨position, name, hrepeat, herror⟩, -, -⟩ := hrefused _ _ _ hrun
  exact ⟨hclash, hiff.2 (Or.inr hclash),
    ⟨position, name, hrepeat, (OrchestrationError.invalidStrategy.inj herror).symm⟩, hnames,
    hruns hblank, hapart _ _ 0 1 (by decide) (by decide) (by decide)⟩

end Workflow

end Ensemble
