/-
# What an agent remembers

After any run an agent remembers what the operations on its own memory say, however many others
stand between them. The agents that join and leave apart, under every key the last word counts: the
value that was put there last, unless the key or everything was forgotten since. Together with the
equations on alike sessions this makes memories private: nobody else reads one, and nobody else
writes to it.
-/

import Ensemble.Proofs.Session.Privacy

namespace Ensemble

variable {ε σ : Type}

/-! ## Edits of one memory -/

namespace MemoryEdit

/-- What an edit says about a key: nothing, that it is forgotten, or the value that it has. -/
def settles? (key : String) : MemoryEdit → Option (Option Datum)
  | remember other value => if other = key then some (some value) else none
  | forget other => if other = key then some none else none
  | clear => some none

theorem get?_apply (edit : MemoryEdit) (memory : Dictionary Datum) (key : String) :
    (edit.apply memory).get? key = (edit.settles? key).getD (memory.get? key) := by
  cases edit with
  | remember other value =>
      rw [apply, settles?, Dictionary.get?_insert]
      split <;> rfl
  | forget other =>
      rw [apply, settles?, Dictionary.get?_erase]
      split <;> rfl
  | clear => rfl

/-- What is said last about a key. -/
def lastWord? (key : String) (edits : List MemoryEdit) : Option (Option Datum) :=
  edits.reverse.findSome? (settles? key)

/-- After edits a key has the value that the last edit about it says. -/
theorem get?_foldl_apply (edits : List MemoryEdit) (memory : Dictionary Datum) (key : String) :
    (edits.foldl apply memory).get? key = (lastWord? key edits).getD (memory.get? key) := by
  induction edits generalizing memory with
  | nil => rfl
  | cons edit rest ih =>
      rw [List.foldl_cons, ih, get?_apply, lastWord?, lastWord?, List.reverse_cons,
        List.findSome?_append, List.findSome?_singleton]
      cases rest.reverse.findSome? (settles? key) <;> rfl

end MemoryEdit

namespace Dictionary

theorem keys_ascend {α : Type} (dictionary : Dictionary α) :
    dictionary.keys.Pairwise (· < ·) :=
  dictionary.ascend.map _ fun _ _ hlt => hlt

/-- The keys are those under which something is found. -/
theorem mem_keys_iff {α : Type} {dictionary : Dictionary α} {key : String} :
    key ∈ dictionary.keys ↔ (dictionary.get? key).isSome = true := by
  rw [keys, List.mem_map, Option.isSome_iff_exists]
  constructor
  · rintro ⟨entry, hentry, rfl⟩
    exact ⟨entry.2, get?_eq_some_iff.2 hentry⟩
  · rintro ⟨value, hvalue⟩
    exact ⟨(key, value), get?_eq_some_iff.1 hvalue, rfl⟩

end Dictionary

/-! ## One operation -/

namespace RosterCall

/-- What the agent with the name that a call is about remembers after the call. Who is there
already stays as it is, and a newcomer brings its memory along. -/
def memoryAfter (memory : Option (Dictionary Datum)) : RosterCall ε → Option (Dictionary Datum)
  | add name _ _ _ => if Text.trim name = "" then memory else memory.or (some ∅)
  | register agent => if agent.name = "" then memory else memory.or (some agent.memory)
  | remove _ => none

end RosterCall

namespace Operation

/-- Whether an operation is about the memory of the agent with a name, or makes it join or
leave. -/
def concerns (name : String) : Operation ε → Bool
  | .enroll entry => entry.subject == name
  | .edit other _ => other == name
  | _ => false

/-- What the agent that an operation concerns remembers after the operation. -/
def memoryAfter (memory : Option (Dictionary Datum)) : Operation ε → Option (Dictionary Datum)
  | .enroll entry => entry.memoryAfter memory
  | .edit _ change => memory.map change.apply
  | _ => memory

/-- Whether an operation makes the agent with a name join or leave. -/
def moves (name : String) : Operation ε → Bool
  | .enroll entry => entry.subject == name
  | _ => false

/-- The edit of the memory of the agent with a name. -/
def editOf? (name : String) : Operation ε → Option MemoryEdit
  | .edit other change => if other = name then some change else none
  | _ => none

/-- While an agent stays, only edits concern it. -/
theorem concerns_eq_isSome_editOf? {name : String} {operation : Operation ε}
    (h : operation.moves name = false) :
    operation.concerns name = (operation.editOf? name).isSome := by
  cases operation with
  | enroll entry => exact h
  | edit other change =>
      rw [concerns, editOf?]
      by_cases hname : other = name <;> simp [hname]
  | _ => rfl

theorem memoryAfter_of_editOf? {name : String} {operation : Operation ε} {edit : MemoryEdit}
    (h : operation.editOf? name = some edit) (memory : Option (Dictionary Datum)) :
    operation.memoryAfter memory = memory.map edit.apply := by
  cases operation with
  | edit other change =>
      rw [editOf?] at h
      split at h
      · obtain rfl := Option.some.inj h
        rfl
      · cases h
  | _ => cases h

/-- What is remembered after a run by an agent that stays. -/
theorem foldl_memoryAfter_of_stays {name : String} {operations : List (Operation ε)}
    (h : ∀ operation ∈ operations, operation.moves name = false)
    (memory : Option (Dictionary Datum)) :
    (operations.filter (concerns name)).foldl memoryAfter memory =
      memory.map ((operations.filterMap (editOf? name)).foldl MemoryEdit.apply) := by
  induction operations generalizing memory with
  | nil => simp
  | cons operation rest ih =>
      have hconcerns := concerns_eq_isSome_editOf? (h operation List.mem_cons_self)
      have hrest := ih fun other hother => h other (List.mem_cons_of_mem _ hother)
      cases hedit : operation.editOf? name with
      | none =>
          rw [hedit] at hconcerns
          rw [List.filter_cons_of_neg (by simp [hconcerns]), List.filterMap_cons_none hedit]
          exact hrest memory
      | some edit =>
          rw [hedit] at hconcerns
          rw [List.filter_cons_of_pos hconcerns, List.filterMap_cons_some hedit, List.foldl_cons,
            hrest, memoryAfter_of_editOf? hedit, Option.map_map]
          rfl

end Operation

namespace Session

variable (responder : Responder ε σ) (session : Session ε σ)

theorem memoryOf?_register (agent : Agent ε) :
    (session.register agent).2.memoryOf? agent.name =
      if agent.name = "" then session.memoryOf? agent.name
      else (session.memoryOf? agent.name).or (some agent.memory) := by
  by_cases hname : agent.name = ""
  · rw [register, Registry.register_of_blank hname, if_pos hname]
  by_cases htaken : agent.name ∈ session.registry.names
  · rw [register, Registry.register_of_taken hname htaken, if_neg hname]
    obtain ⟨other, hfound, -⟩ := Registry.mem_names_iff_exists.1 htaken
    rw [memoryOf?, hfound]
    rfl
  · obtain ⟨after, hregistered, hagents⟩ := Registry.register_ok hname htaken
    rw [register, hregistered, if_neg hname, memoryOf?, memoryOf?,
      Registry.find?_eq_none_iff.2 htaken]
    simp only [Registry.find?_self_of_joined hagents]
    rfl

theorem memoryOf?_enroll (call : RosterCall ε) :
    (session.enroll call).2.memoryOf? call.subject =
      call.memoryAfter (session.memoryOf? call.subject) := by
  cases call with
  | add name role instructions endpoint => exact session.memoryOf?_register (.new name role _ _)
  | register agent => exact session.memoryOf?_register agent
  | remove name =>
      rw [enroll_remove, memoryOf?]
      exact congrArg (Option.map Agent.memory) (session.registry.find?_remove_self name)

theorem memoryOf?_update (name other : String) {change : Agent ε → Agent ε}
    (hname : ∀ agent, (change agent).name = agent.name) :
    ({ session with registry := session.registry.update name change hname } :
        Session ε σ).memoryOf? other =
      (session.registry.find? other).map fun agent =>
        if other = name then (change agent).memory else agent.memory :=
  session.registry.map_find?_update name other hname Agent.memory

/-- An edit changes the memory of the agent that is named. -/
theorem memoryOf?_edit (name other : String) (edit : MemoryEdit) :
    (session.edit name edit).memoryOf? other =
      if other = name then (session.memoryOf? other).map edit.apply
      else session.memoryOf? other := by
  have hedited : (session.edit name edit).memoryOf? other =
      (session.registry.find? other).map fun agent =>
        if other = name then edit.apply agent.memory else agent.memory := by
    cases edit with
    | remember key value => exact session.memoryOf?_update name other _
    | forget key => exact session.memoryOf?_update name other _
    | clear => exact session.memoryOf?_update name other _
  rw [hedited, memoryOf?, Option.map_map]
  split <;> rfl

theorem memoryOf?_consult (name other : String) {act : Agent ε → Answer ε × Session ε σ}
    (h : ∀ agent, session.registry.find? agent.name = some agent →
      (act agent).2.memoryOf? other = session.memoryOf? other) :
    (session.consult name act).2.memoryOf? other = session.memoryOf? other := by
  rw [consult]
  split
  next agent hfound => exact h agent (Registry.name_of_find? hfound ▸ hfound)
  next => rfl

/-- Agents do errands, and all memories stay as they are. -/
theorem memoryOf?_of_serves {errands : List Errand} {after : Session ε σ}
    {told : List (Exchange ε) → Prop}
    (h : ∃ exchanges, session.Serves responder errands exchanges after ∧ told exchanges)
    (name : String) : after.memoryOf? name = session.memoryOf? name := by
  obtain ⟨exchanges, hserves, -⟩ := h
  exact hserves.conducts.memoryOf? name

/-- No operation but those that concern an agent changes what it remembers. -/
theorem memoryOf?_perform_of_other {operation : Operation ε} {name : String}
    (h : operation.concerns name = false) :
    (session.perform responder operation).2.memoryOf? name = session.memoryOf? name := by
  cases operation with
  | enroll call =>
      have hother : name ≠ call.subject := Ne.symm (by simpa [Operation.concerns] using h)
      exact congrArg (Option.map Agent.memory) ((session.enrolls_enroll call).others name hother)
  | edit other edit =>
      have hother : name ≠ other := Ne.symm (by simpa [Operation.concerns] using h)
      exact session.memoryOf?_consult other name fun _ _ => by rw [memoryOf?_edit, if_neg hother]
  | call other call =>
      exact session.memoryOf?_consult other name fun _ hfound =>
        session.memoryOf?_of_serves responder (serves_answerCall responder call .nobody hfound) name
  | capHistory other cap =>
      have hcapped : (session.capHistory other cap).memoryOf? name =
          (session.registry.find? name).map fun agent =>
            if name = other then (agent.capHistory cap).memory else agent.memory :=
        session.memoryOf?_update other name _
      simp only [Agent.capHistory, ite_self] at hcapped
      exact session.memoryOf?_consult other name fun _ _ => hcapped
  | assign other task context =>
      exact session.memoryOf?_of_serves responder
        (session.serves_assign responder other task context) name
  | coordinate request =>
      exact session.memoryOf?_of_serves responder (session.serves_coordinate responder request) name
  | collaborate task names context synthesizer =>
      exact session.memoryOf?_of_serves responder
        (session.serves_collaborate responder task names context synthesizer) name
  | run workflow stamp listener =>
      exact session.memoryOf?_of_serves responder
        (workflow.serves_run responder stamp listener session) name
  | showPrompt other task context => exact session.memoryOf?_consult other name fun _ _ => rfl
  | history other => exact session.memoryOf?_consult other name fun _ _ => rfl
  | historyCap other => exact session.memoryOf?_consult other name fun _ _ => rfl
  | lookUp other key => exact session.memoryOf?_consult other name fun _ _ => rfl
  | memoryKeys other => exact session.memoryOf?_consult other name fun _ _ => rfl
  | _ => rfl

/-- An operation that concerns an agent changes what it remembers as it says. -/
theorem memoryOf?_perform_of_concerned {operation : Operation ε} {name : String}
    (h : operation.concerns name = true) :
    (session.perform responder operation).2.memoryOf? name =
      operation.memoryAfter (session.memoryOf? name) := by
  cases operation with
  | enroll call =>
      obtain rfl : call.subject = name := by simpa [Operation.concerns] using h
      exact session.memoryOf?_enroll call
  | edit other edit =>
      obtain rfl : other = name := by simpa [Operation.concerns] using h
      rw [perform, consult, Operation.memoryAfter]
      split
      next => rw [memoryOf?_edit, if_pos rfl]
      next hnone => rw [memoryOf?, hnone]; rfl
  | _ => exact absurd h Bool.false_ne_true

/-! ## Runs -/

/-- What an agent remembers after a run is told by the operations that concern it. -/
theorem memoryOf?_performAll (operations : List (Operation ε)) (name : String) :
    (session.performAll responder operations).2.memoryOf? name =
      (operations.filter (Operation.concerns name)).foldl Operation.memoryAfter
        (session.memoryOf? name) := by
  induction operations generalizing session with
  | nil => rfl
  | cons operation rest ih =>
      have hrest := ih (session.perform responder operation).2
      cases hconcerns : operation.concerns name with
      | false =>
          rw [memoryOf?_perform_of_other responder session hconcerns] at hrest
          rw [List.filter_cons_of_neg (by simp [hconcerns])]
          exact hrest
      | true =>
          rw [memoryOf?_perform_of_concerned responder session hconcerns] at hrest
          rw [List.filter_cons_of_pos hconcerns]
          exact hrest

/-- What an agent remembers can be asked for. -/
theorem answer_perform_lookUp {name : String} {memory : Dictionary Datum}
    (h : session.memoryOf? name = some memory) (key : String) :
    (session.perform responder (.lookUp name key)).1 = .datum (memory.get? key) := by
  obtain ⟨agent, hfound, rfl⟩ := Option.map_eq_some_iff.1 h
  rw [perform, consult, hfound]
  rfl

theorem answer_perform_memoryKeys {name : String} {memory : Dictionary Datum}
    (h : session.memoryOf? name = some memory) :
    (session.perform responder (.memoryKeys name)).1 = .names memory.keys := by
  obtain ⟨agent, hfound, rfl⟩ := Option.map_eq_some_iff.1 h
  rw [perform, consult, hfound]

/-- Memories are inert: sessions that are alike but for memories stay so through any run, send the
same calls, and answer alike whatever does not ask for a memory. And they are private: what an agent
remembers after a run is what the operations that concern it say. As long as it stays, under each
key the last word counts, and it lists its keys in ascending order, each once. -/
theorem memories_private_inert (operations : List (Operation ε)) :
    (∀ left right : Session ε σ, left.Alike right →
      (left.performAll responder operations).2.Alike (right.performAll responder operations).2 ∧
      (left.performAll responder operations).2.calls =
        (right.performAll responder operations).2.calls ∧
      List.Forall₂ (fun operation answers =>
          operation.tellsMemory = false → answers.1.Alike answers.2)
        operations ((left.performAll responder operations).1.zip
          (right.performAll responder operations).1)) ∧
    ∀ (session : Session ε σ) (name : String),
      (session.performAll responder operations).2.memoryOf? name =
        (operations.filter (Operation.concerns name)).foldl Operation.memoryAfter
          (session.memoryOf? name) ∧
      ∀ memory, session.memoryOf? name = some memory →
        (∀ operation ∈ operations, operation.moves name = false) →
        ∃ later : Dictionary Datum,
          (session.performAll responder operations).2.memoryOf? name = some later ∧
          (∀ key, later.get? key =
            (MemoryEdit.lastWord? key (operations.filterMap (Operation.editOf? name))).getD
              (memory.get? key)) ∧
          (∀ key, ((session.performAll responder operations).2.perform responder
            (.lookUp name key)).1 = .datum (later.get? key)) ∧
          ((session.performAll responder operations).2.perform responder (.memoryKeys name)).1 =
            .names later.keys ∧
          later.keys.Pairwise (· < ·) ∧
          ∀ key, key ∈ later.keys ↔ (later.get? key).isSome = true := by
  refine ⟨fun left right halike => ?_, fun session name => ⟨?_, fun memory hmemory hstays => ?_⟩⟩
  · have hafter := halike.after_performAll responder operations
    exact ⟨hafter, hafter.calls, halike.answers_performAll responder operations⟩
  · exact session.memoryOf?_performAll responder operations name
  · have hlater := session.memoryOf?_performAll responder operations name
    rw [Operation.foldl_memoryAfter_of_stays hstays, hmemory] at hlater
    exact ⟨_, hlater, MemoryEdit.get?_foldl_apply _ memory,
      answer_perform_lookUp responder _ hlater, answer_perform_memoryKeys responder _ hlater,
      Dictionary.keys_ascend _, fun _ => Dictionary.mem_keys_iff⟩

/-- Endpoints that repeat the prompt. -/
def repeating : Responder Unit Unit := fun _ prompt _ world => (.ok prompt, world)

/-- Two agents, of which nobody remembers anything. -/
def pairOfAgents : Session Unit Unit :=
  ((start () ()).performAll repeating
    [.enroll (.add "a" "" "" none), .enroll (.add "b" "" "" none)]).2

/-- One agent is told the same key twice, and meanwhile the other is given a task and told the key
as well. -/
def twoWords : List (Operation Unit) :=
  [.edit "a" (.remember "k" (.text "first")), .assign "b" "task" none,
    .edit "b" (.remember "k" (.text "other")), .edit "a" (.remember "k" (.text "last"))]

/-- Who was told something before sends the same calls, and the last word counts. -/
theorem memories_private_inert_twoWords :
    pairOfAgents.Alike (pairOfAgents.edit "b" (.remember "x" (.text "secret"))) ∧
      pairOfAgents.memoryOf? "a" = some ∅ ∧
      (∀ operation ∈ twoWords, operation.moves "a" = false) ∧
      ((pairOfAgents.edit "b" (.remember "x" (.text "secret"))).performAll repeating
          twoWords).2.calls = (pairOfAgents.performAll repeating twoWords).2.calls ∧
      ((pairOfAgents.performAll repeating twoWords).2.perform repeating (.lookUp "a" "k")).1 =
        .datum (some (.text "last")) := by
  have halike : pairOfAgents.Alike
      (pairOfAgents.edit "b" (.remember "x" (.text "secret"))) :=
    fun memories => (withMemories_edit memories pairOfAgents "b" _).symm
  have hmemory : pairOfAgents.memoryOf? "a" = some ∅ := by rfl
  have hstays : ∀ operation ∈ twoWords, operation.moves "a" = false := by
    simp [twoWords, Operation.moves]
  obtain ⟨hinert, hprivate⟩ := memories_private_inert repeating twoWords
  obtain ⟨-, hcalls, -⟩ := hinert _ _ halike
  obtain ⟨later, -, hlast, hrecall, -⟩ := (hprivate pairOfAgents "a").2 ∅ hmemory hstays
  refine ⟨halike, hmemory, hstays, hcalls.symm, ?_⟩
  rw [hrecall, hlast]
  rfl

end Session

end Ensemble
