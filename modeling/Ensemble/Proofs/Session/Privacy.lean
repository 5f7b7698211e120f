/-
# Memories are inert

Two sessions that differ only in what their agents remember answer every operation alike, unless it
asks for a memory, send the same calls, and differ afterwards only in what their agents remember.
To say so, both are given the same memories: routine operations do not mind whether this is done
before or behind them, and what the others change is overwritten.
-/

import Ensemble.Proofs.Session.Operation
import Mathlib.Data.List.Forall2

namespace Ensemble

variable {ε σ : Type}

/-! ## Operations that memories do not matter to -/

/-- The answer in which an agent has the memory that is given under its name. -/
def Answer.withMemories (memories : String → Dictionary Datum) : Answer ε → Answer ε
  | .enrolled result => .enrolled (result.map (Option.map (Agent.withMemories memories)))
  | .agent found => .agent (found.map (Agent.withMemories memories))
  | answer => answer

/-- An operation that asks for memories or changes them. -/
def Operation.isOfMemory : Operation ε → Bool
  | .edit _ _ | .lookUp _ _ | .memoryKeys _ => true
  | _ => false

/-- An operation that is neither about who is registered nor about memories. -/
def Operation.isRoutine : Operation ε → Bool
  | .enroll _ | .edit _ _ | .lookUp _ _ | .memoryKeys _ => false
  | _ => true

theorem Operation.kind (operation : Operation ε) : operation.isRoutine = true ∨
    operation.isOfMemory = true ∨ ∃ call, operation = .enroll call := by
  cases operation <;> simp [isRoutine, isOfMemory]

/-- An operation that answers with what an agent remembers. -/
def Operation.tellsMemory : Operation ε → Bool
  | .edit _ (.forget _) | .lookUp _ _ | .memoryKeys _ => true
  | _ => false

namespace Session

variable (memories : String → Dictionary Datum) (responder : Responder ε σ)
  (session : Session ε σ)

theorem consult_withMemories (name : String) {act act' : Agent ε → Answer ε × Session ε σ}
    (h : ∀ agent, act' (agent.withMemories memories) =
      (act agent).map (Answer.withMemories memories) (withMemories memories)) :
    (session.withMemories memories).consult name act' =
      (session.consult name act).map (Answer.withMemories memories) (withMemories memories) := by
  have hfound : (session.withMemories memories).registry.find? name =
      (session.registry.find? name).map (Agent.withMemories memories) :=
    session.registry.find?_withMemories memories name
  rw [consult, consult, hfound]
  cases session.registry.find? name with
  | none => rfl
  | some agent => exact h agent

theorem answerCall_withMemories (agent : Agent ε) (call : AgentCall) :
    (session.withMemories memories).answerCall responder (agent.withMemories memories) call =
      (session.answerCall responder agent call).map (Answer.withMemories memories)
        (withMemories memories) := by
  -- All but the last are a single assignment, whose answer is a text.
  have htext : ∀ assignment : Assignment,
      ((session.withMemories memories).carryOut responder (agent.withMemories memories)
          assignment).map (@Answer.text ε) id =
        ((session.carryOut responder agent assignment).map Answer.text id).map
          (Answer.withMemories memories) (withMemories memories) := by
    intro assignment
    rw [carryOut_withMemories]
    rfl
  cases call with
  | execute task context image => exact htext _
  | shaped shape task context => exact htext _
  | think problem steps => exact htext _
  | correct answer feedback => exact htext _
  | decompose task limit =>
      rw [answerCall, answerCall, decompose_withMemories]
      rfl

theorem capHistory_withMemories (name : String) (cap : Nat) :
    (session.withMemories memories).capHistory name cap =
      (session.capHistory name cap).withMemories memories := by
  have hname : ∀ agent : Agent ε, (agent.capHistory cap).name = agent.name := fun _ => rfl
  have hregistry := session.registry.update_withMemories memories name hname fun _ => rfl
  rw [capHistory, capHistory, withMemories, withMemories, hregistry]

/-- Memories may be exchanged before or after a routine operation. -/
theorem perform_withMemories {operation : Operation ε} (h : operation.isRoutine = true) :
    (session.withMemories memories).perform responder operation =
      (session.perform responder operation).map (Answer.withMemories memories)
        (withMemories memories) := by
  cases operation with
  | enroll call => exact absurd h Bool.false_ne_true
  | edit name edit => exact absurd h Bool.false_ne_true
  | lookUp name key => exact absurd h Bool.false_ne_true
  | memoryKeys name => exact absurd h Bool.false_ne_true
  | find name =>
      exact Prod.ext (congrArg Answer.agent (session.registry.find?_withMemories memories name)) rfl
  | has name =>
      have hnames := session.registry.names_withMemories memories
      exact Prod.ext (congrArg (fun names : List String => (.truth (names.contains name) : Answer ε))
        hnames) rfl
  | list =>
      exact Prod.ext (congrArg Answer.names (session.registry.names_withMemories memories)) rfl
  | limit => rfl
  | setLimit limit => rfl
  | call name call =>
      exact session.consult_withMemories memories name fun agent =>
        session.answerCall_withMemories memories responder agent call
  | showPrompt name task context => exact session.consult_withMemories memories name fun _ => rfl
  | assign name task context =>
      rw [perform, perform, assign_withMemories]
      rfl
  | coordinate request =>
      rw [perform, perform, coordinate_withMemories]
      rfl
  | collaborate task names context synthesizer =>
      rw [perform, perform, collaborate_withMemories]
      rfl
  | run workflow stamp listener =>
      simp only [perform, Workflow.run_withMemories]
      rfl
  | history name => exact session.consult_withMemories memories name fun _ => rfl
  | historyCap name => exact session.consult_withMemories memories name fun _ => rfl
  | capHistory name cap =>
      refine session.consult_withMemories memories name fun agent => ?_
      rw [capHistory_withMemories]
      rfl

end Session

/-! ## Operations on memories and on who is registered -/

/-- Memories that are given later replace those that were given before. -/
theorem Registry.withMemories_withMemories (memories others : String → Dictionary Datum)
    (registry : Registry ε) :
    (registry.withMemories others).withMemories memories = registry.withMemories memories := by
  apply ext_agents
  simp only [withMemories, List.map_map]
  rfl

/-- A change of memories alone is overwritten. -/
theorem Registry.withMemories_update (memories : String → Dictionary Datum)
    (registry : Registry ε) (name : String) {change : Agent ε → Agent ε}
    (hname : ∀ agent, (change agent).name = agent.name)
    (honly : ∀ agent, (change agent).withMemories memories = agent.withMemories memories) :
    (registry.update name change hname).withMemories memories =
      registry.withMemories memories := by
  apply ext_agents
  simp only [update, withMemories, List.map_map]
  apply List.map_congr_left
  intro agent _
  rw [Function.comp_apply]
  split
  · exact honly agent
  · rfl

/-- Whether an agent can join does not depend on memories. -/
theorem Registry.register_withMemories (memories others : String → Dictionary Datum)
    (registry : Registry ε) (agent : Agent ε) :
    ((registry.withMemories others).register agent).map (withMemories memories) =
      (registry.register agent).map (withMemories memories) := by
  have hnames := registry.names_withMemories others
  by_cases hname : agent.name = ""
  · rw [register_of_blank hname, register_of_blank hname]
  by_cases htaken : agent.name ∈ registry.names
  · rw [register_of_taken hname htaken, register_of_taken hname (hnames.symm ▸ htaken)]
  · obtain ⟨after, hregistered, hafter⟩ := register_ok hname htaken
    obtain ⟨after', hregistered', hafter'⟩ : ∃ after,
        (registry.withMemories others).register agent = .ok after ∧
          after.agents = (registry.withMemories others).agents ++ [agent] :=
      register_ok hname (hnames.symm ▸ htaken)
    rw [hregistered, hregistered']
    refine congrArg Except.ok (ext_agents ?_)
    have hothers : (registry.agents.map (Agent.withMemories others)).map
        (Agent.withMemories memories) = registry.agents.map (Agent.withMemories memories) :=
      congrArg Registry.agents (registry.withMemories_withMemories memories others)
    simp only [withMemories, hafter, hafter', List.map_append, hothers]

theorem Registry.withMemories_remove (memories others : String → Dictionary Datum)
    (registry : Registry ε) (name : String) :
    ((registry.withMemories others).remove name).withMemories memories =
      (registry.remove name).withMemories memories := by
  apply ext_agents
  simp only [remove, withMemories, List.filter_map, List.map_map]
  rfl

theorem Answer.withMemories_withMemories (memories others : String → Dictionary Datum)
    (answer : Answer ε) :
    (answer.withMemories others).withMemories memories = answer.withMemories memories := by
  cases answer with
  | enrolled result =>
      rcases result with error | (_ | agent) <;> rfl
  | agent found => cases found <;> rfl
  | _ => rfl

namespace Session

variable (memories others : String → Dictionary Datum) (responder : Responder ε σ)
  (session : Session ε σ)

theorem withMemories_withMemories :
    (session.withMemories others).withMemories memories = session.withMemories memories := by
  have hregistry := session.registry.withMemories_withMemories memories others
  simp only [withMemories, hregistry]

theorem withMemories_edit (name : String) (edit : MemoryEdit) :
    (session.edit name edit).withMemories memories = session.withMemories memories := by
  have hupdate : ∀ (change : Agent ε → Agent ε) (hname : ∀ agent, (change agent).name = agent.name),
      (∀ agent, (change agent).withMemories memories = agent.withMemories memories) →
      ({ session with registry := session.registry.update name change hname } :
        Session ε σ).withMemories memories = session.withMemories memories := by
    intro change hname honly
    have hregistry := session.registry.withMemories_update memories name hname honly
    simp only [withMemories, hregistry]
  cases edit with
  | remember key value => exact hupdate (·.remember key value) (fun _ => rfl) fun _ => rfl
  | forget key => exact hupdate (·.forget key) (fun _ => rfl) fun _ => rfl
  | clear => exact hupdate Agent.clearMemory (fun _ => rfl) fun _ => rfl

/-- Who asks to join is taken or refused whatever the others remember. -/
theorem register_withMemories (agent : Agent ε) :
    ((session.withMemories others).register agent).1 = (session.register agent).1 ∧
      ((session.withMemories others).register agent).2.withMemories memories =
        (session.register agent).2.withMemories memories := by
  have hboth := session.registry.register_withMemories memories others agent
  rw [register, register,
    show (session.withMemories others).registry = session.registry.withMemories others from rfl]
  rcases hleft : (session.registry.withMemories others).register agent with error | left <;>
    rcases hright : session.registry.register agent with error' | right <;>
    rw [hleft, hright] at hboth
  · cases hboth
    exact ⟨rfl, withMemories_withMemories memories others session⟩
  · cases hboth
  · cases hboth
  · have hregistry : left.withMemories memories = right.withMemories memories :=
      Except.ok.inj hboth
    refine ⟨rfl, ?_⟩
    simp only [withMemories, hregistry]

/-- Who joins or leaves does so whatever anyone remembers. -/
theorem enroll_withMemories (call : RosterCall ε) :
    ((session.withMemories others).enroll call).map
        (fun answer => (Answer.enrolled answer).withMemories memories) (withMemories memories) =
      (session.enroll call).map
        (fun answer => (Answer.enrolled answer).withMemories memories) (withMemories memories) := by
  have hjoin : ∀ agent : Agent ε,
      ((session.withMemories others).enroll (.register agent)).map
          (fun answer => (Answer.enrolled answer).withMemories memories) (withMemories memories) =
        (session.enroll (.register agent)).map
          (fun answer => (Answer.enrolled answer).withMemories memories)
          (withMemories memories) := by
    intro agent
    obtain ⟨hanswer, hafter⟩ := session.register_withMemories memories others agent
    exact Prod.ext (congrArg (fun answer : Except OrchestrationError (Agent ε) =>
      (Answer.enrolled (answer.map some)).withMemories memories) hanswer) hafter
  cases call with
  | add name role instructions endpoint => exact hjoin _
  | register agent => exact hjoin agent
  | remove name =>
      have hfound := session.registry.find?_withMemories others name
      have hleft := session.registry.withMemories_remove memories others name
      refine Prod.ext ?_ ?_
      · simp only [enroll_remove, Prod.map_fst, withMemories, hfound]
        cases session.registry.find? name <;> rfl
      · simp only [enroll_remove, Prod.map_snd, withMemories, hleft]

end Session

/-! ## Two runs -/

/-- Two answers that become the same when agents are given the same memories. -/
def Answer.Alike (left right : Answer ε) : Prop :=
  ∀ memories, left.withMemories memories = right.withMemories memories

namespace Session

variable (memories : String → Dictionary Datum) (responder : Responder ε σ)

/-- Two sessions that become the same when agents are given the same memories. -/
def Alike (left right : Session ε σ) : Prop :=
  ∀ memories, left.withMemories memories = right.withMemories memories

/-- The same calls were made in alike sessions. -/
theorem Alike.calls {left right : Session ε σ} (h : left.Alike right) :
    left.calls = right.calls :=
  congrArg (fun session => session.calls) (h fun _ => ∅)

/-- To look for an agent and change nothing but memories is to change nothing but memories. -/
theorem withMemories_consult (session : Session ε σ) (name : String)
    {act : Agent ε → Answer ε × Session ε σ}
    (h : ∀ agent, (act agent).2.withMemories memories = session.withMemories memories) :
    (session.consult name act).2.withMemories memories = session.withMemories memories := by
  rw [consult]
  split
  next agent _ => exact h agent
  next => rfl

theorem withMemories_perform (session : Session ε σ) {operation : Operation ε}
    (h : operation.isOfMemory = true) :
    (session.perform responder operation).2.withMemories memories =
      session.withMemories memories := by
  cases operation with
  | edit name edit =>
      exact session.withMemories_consult memories name fun _ =>
        session.withMemories_edit memories name edit
  | lookUp name key => exact session.withMemories_consult memories name fun _ => rfl
  | memoryKeys name => exact session.withMemories_consult memories name fun _ => rfl
  | _ => exact absurd h Bool.false_ne_true

/-- To exchange memories before an operation changes nothing but memories behind it. -/
theorem after_perform_withMemories (others : String → Dictionary Datum) (session : Session ε σ)
    (operation : Operation ε) :
    ((session.withMemories others).perform responder operation).2.withMemories memories =
      (session.perform responder operation).2.withMemories memories := by
  rcases operation.kind with hroutine | hmemory | ⟨call, rfl⟩
  · rw [perform_withMemories others responder session hroutine]
    exact withMemories_withMemories memories others _
  · rw [withMemories_perform memories responder _ hmemory,
      withMemories_perform memories responder _ hmemory, withMemories_withMemories]
  · exact congrArg Prod.snd (session.enroll_withMemories memories others call)

/-- Nor does it change an answer, but for the memories in it, unless the answer tells a memory. -/
theorem answer_perform_withMemories (others : String → Dictionary Datum) (session : Session ε σ)
    {operation : Operation ε} (h : operation.tellsMemory = false) :
    ((session.withMemories others).perform responder operation).1.withMemories memories =
      (session.perform responder operation).1.withMemories memories := by
  rcases operation.kind with hroutine | hmemory | ⟨call, rfl⟩
  · rw [perform_withMemories others responder session hroutine]
    exact Answer.withMemories_withMemories memories others _
  · cases operation with
    | edit name edit =>
        have hfound := session.registry.find?_withMemories others name
        rw [perform, perform, consult, consult, withMemories, hfound]
        -- Whoever remembers, or forgets everything, answers that this is done.
        cases edit with
        | forget key => exact absurd h.symm Bool.false_ne_true
        | remember key value => cases session.registry.find? name <;> rfl
        | clear => cases session.registry.find? name <;> rfl
    | lookUp name key => exact absurd h.symm Bool.false_ne_true
    | memoryKeys name => exact absurd h.symm Bool.false_ne_true
    | _ => exact absurd hmemory Bool.false_ne_true
  · exact congrArg Prod.fst (session.enroll_withMemories memories others call)

variable {left right : Session ε σ}

/-- Alike sessions stay alike through an operation. -/
theorem Alike.after_perform (h : left.Alike right) (operation : Operation ε) :
    (left.perform responder operation).2.Alike (right.perform responder operation).2 := by
  intro memories
  rw [← after_perform_withMemories memories responder memories left,
    ← after_perform_withMemories memories responder memories right, h memories]

/-- Alike sessions answer alike what does not ask for a memory. -/
theorem Alike.answer_perform (h : left.Alike right) {operation : Operation ε}
    (htells : operation.tellsMemory = false) :
    (left.perform responder operation).1.Alike (right.perform responder operation).1 := by
  intro memories
  rw [← answer_perform_withMemories memories responder memories left htells,
    ← answer_perform_withMemories memories responder memories right htells, h memories]

/-- Alike sessions stay alike through a run. -/
theorem Alike.after_performAll (h : left.Alike right) (operations : List (Operation ε)) :
    (left.performAll responder operations).2.Alike
      (right.performAll responder operations).2 := by
  induction operations generalizing left right with
  | nil => exact h
  | cons operation rest ih => exact ih (h.after_perform responder operation)

/-- Alike sessions answer alike, in the course of a run, what does not ask for a memory. -/
theorem Alike.answers_performAll (h : left.Alike right) (operations : List (Operation ε)) :
    List.Forall₂ (fun operation answers =>
        operation.tellsMemory = false → answers.1.Alike answers.2)
      operations ((left.performAll responder operations).1.zip
        (right.performAll responder operations).1) := by
  induction operations generalizing left right with
  | nil => exact .nil
  | cons operation rest ih =>
      exact .cons (fun htells => h.answer_perform responder htells)
        (ih (h.after_perform responder operation))

end Session

end Ensemble
