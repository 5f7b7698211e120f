/-
# Who is registered

Three calls change who is registered in a session: two add an agent, one removes it. What came of
all calls so far tells the roster: those who were there and have not left, and behind them those who
joined and have not left since, in the order in which they joined. A call that is refused, or that
removes nobody, leaves the session as it is. A directory, which keeps a table of the agents and a
list of their names, follows a session through all calls.
-/

import Ensemble.Proofs.Agent.Directory
import Ensemble.Session.Basic

namespace Ensemble

variable {ε σ : Type}

/-- An agent that has been asked for nothing and told to remember nothing. -/
def Agent.IsUnused (agent : Agent ε) : Prop :=
  agent.memory = ∅ ∧ agent.history = .empty

/-- A call that changes who is registered. -/
inductive RosterCall (ε : Type) where
  | add (name role instructions : String) (endpoint : Option ε)
  | register (agent : Agent ε)
  | remove (name : String)

/-- What came of such a call. -/
inductive RosterEvent (ε : Type) where
  | joined (agent : Agent ε)
  | left (name : String)
  | nothing

/-- Whether the agent with a name left. -/
def RosterEvent.isExit (name : String) : RosterEvent ε → Bool
  | left other => other == name
  | _ => false

namespace RosterCall

/-- The agent that is to be added, whose endpoint is the default one if none is given. -/
def newcomer? (defaultEndpoint : ε) : RosterCall ε → Option (Agent ε)
  | add name role instructions endpoint =>
    some (.new name role instructions (endpoint.getD defaultEndpoint))
  | register agent => some agent
  | remove _ => none

/-- The name that the call is about. -/
def subject : RosterCall ε → String
  | add name _ _ _ => Text.trim name
  | register agent => agent.name
  | remove name => name

/-- The call adds no agent that was used before. -/
def IsFresh : RosterCall ε → Prop
  | register agent => agent.IsUnused
  | _ => True

/-- What came of the call, by its answer. -/
def event : RosterCall ε → Except OrchestrationError (Option (Agent ε)) → RosterEvent ε
  | remove name, .ok (some _) => .left name
  | remove _, _ => .nothing
  | _, .ok (some agent) => .joined agent
  | _, _ => .nothing

variable {call : RosterCall ε} {defaultEndpoint : ε} {agent : Agent ε}

theorem subject_of_newcomer (h : call.newcomer? defaultEndpoint = some agent) :
    call.subject = agent.name := by
  cases call with
  | add name role instructions endpoint =>
      obtain rfl := Option.some.inj h
      rfl
  | register other =>
      obtain rfl := Option.some.inj h
      rfl
  | remove name => simp [newcomer?] at h

/-- An agent that is made for a call is unused. -/
theorem isUnused_of_newcomer (h : call.newcomer? defaultEndpoint = some agent)
    (hfresh : call.IsFresh) : agent.IsUnused := by
  cases call with
  | add name role instructions endpoint =>
      obtain rfl := Option.some.inj h
      exact ⟨rfl, rfl⟩
  | register other =>
      obtain rfl := Option.some.inj h
      exact hfresh
  | remove name => simp [newcomer?] at h

end RosterCall

/-- Whether the agent with a name left in the course of some events. -/
def hasExit (events : List (RosterEvent ε)) (name : String) : Bool :=
  events.any (RosterEvent.isExit name)

@[simp] theorem hasExit_nil (name : String) :
    hasExit ([] : List (RosterEvent ε)) name = false := rfl

@[simp] theorem hasExit_joined (agent : Agent ε) (rest : List (RosterEvent ε)) (name : String) :
    hasExit (.joined agent :: rest) name = hasExit rest name := rfl

@[simp] theorem hasExit_left (other : String) (rest : List (RosterEvent ε)) (name : String) :
    hasExit (.left other :: rest) name = (other == name || hasExit rest name) := rfl

/-- The agents that joined and did not leave since, in the order in which they joined. -/
def standing : List (RosterEvent ε) → List (Agent ε)
  | [] => []
  | .joined agent :: rest =>
    if hasExit rest agent.name then standing rest else agent :: standing rest
  | _ :: rest => standing rest

namespace Session

/-- Make a call. The answer is the agent that joins or leaves, if one does. -/
def enroll (call : RosterCall ε) (session : Session ε σ) : Result ε σ (Option (Agent ε)) :=
  match call with
  | .add name role instructions endpoint =>
    let added := session.addAgent name role instructions endpoint
    (added.1.map some, added.2)
  | .register agent =>
    let added := session.register agent
    (added.1.map some, added.2)
  | .remove name =>
    let removed := session.removeAgent name
    (.ok removed.1, removed.2)

/-- Make calls, one after another, with what came of each. -/
def enrollAll : List (RosterCall ε) → Session ε σ → List (RosterEvent ε) × Session ε σ
  | [], session => ([], session)
  | call :: rest, session =>
    let made := session.enroll call
    let later := enrollAll rest made.2
    (call.event made.1 :: later.1, later.2)

variable {session : Session ε σ} {call : RosterCall ε} {agent : Agent ε}

/-! ## One call -/

/-- A newcomer with a name that is new and not empty joins behind the others. -/
theorem enroll_joined (hnewcomer : call.newcomer? session.defaultEndpoint = some agent)
    (hname : agent.name ≠ "") (hnew : agent.name ∉ session.registry.names) :
    ∃ after, session.enroll call = (.ok (some agent), after) ∧
      call.event (.ok (some agent)) = .joined agent ∧
      after.registry.agents = session.registry.agents ++ [agent] := by
  obtain ⟨registry, hregistered, hagents⟩ := Registry.register_ok hname hnew
  have hjoined : session.register agent = (.ok agent, { session with registry := registry }) := by
    simp only [register, hregistered]
  cases call with
  | add name role instructions endpoint =>
      obtain rfl := Option.some.inj hnewcomer
      exact ⟨_, by rw [enroll, addAgent, hjoined]; rfl, rfl, hagents⟩
  | register other =>
      obtain rfl := Option.some.inj hnewcomer
      exact ⟨_, by rw [enroll, hjoined]; rfl, rfl, hagents⟩
  | remove name => simp [RosterCall.newcomer?] at hnewcomer

/-- A newcomer whose name is empty or taken is refused. -/
theorem enroll_refused (hnewcomer : call.newcomer? session.defaultEndpoint = some agent)
    (h : agent.name = "" ∨ agent.name ∈ session.registry.names) :
    ∃ error, session.enroll call = (.error error, session) ∧
      call.event (.error error) = .nothing := by
  obtain ⟨error, hrefused⟩ := Registry.register_error h
  have hunchanged : session.register agent = (.error error, session) := by
    simp only [register, hrefused]
  cases call with
  | add name role instructions endpoint =>
      obtain rfl := Option.some.inj hnewcomer
      exact ⟨error, by rw [enroll, addAgent, hunchanged]; rfl, rfl⟩
  | register other =>
      obtain rfl := Option.some.inj hnewcomer
      exact ⟨error, by rw [enroll, hunchanged]; rfl, rfl⟩
  | remove name => simp [RosterCall.newcomer?] at hnewcomer

theorem enroll_remove (session : Session ε σ) (name : String) :
    session.enroll (.remove name) = (.ok (session.registry.find? name),
      { session with registry := session.registry.remove name }) := rfl

/-- To remove a name that no agent has leaves the session as it is. -/
theorem enroll_remove_of_absent {name : String} (h : session.registry.find? name = none) :
    session.enroll (.remove name) = (.ok none, session) := by
  rw [enroll_remove, h, Registry.remove_of_absent h]

/-- How a session comes out of an event. -/
inductive Turnover (before : Session ε σ) : RosterEvent ε → Session ε σ → Prop
  | joined {agent : Agent ε} {after : Session ε σ}
      (agents : after.registry.agents = before.registry.agents ++ [agent]) :
      Turnover before (.joined agent) after
  | left {name : String} {after : Session ε σ}
      (agents : after.registry.agents =
        before.registry.agents.filter fun agent => agent.name != name) :
      Turnover before (.left name) after
  | nothing : Turnover before .nothing before

/-- Every call leads to a turnover by what came of it. -/
theorem turnover_enroll (call : RosterCall ε) (session : Session ε σ) :
    session.Turnover (call.event (session.enroll call).1) (session.enroll call).2 := by
  cases hnewcomer : call.newcomer? session.defaultEndpoint with
  | some agent =>
      by_cases h : agent.name = "" ∨ agent.name ∈ session.registry.names
      · obtain ⟨error, hmade, hevent⟩ := enroll_refused hnewcomer h
        rw [hmade, hevent]
        exact .nothing
      · rw [not_or] at h
        obtain ⟨after, hmade, hevent, hagents⟩ := enroll_joined hnewcomer h.1 h.2
        rw [hmade, hevent]
        exact .joined hagents
  | none =>
      cases call with
      | add name role instructions endpoint => simp [RosterCall.newcomer?] at hnewcomer
      | register agent => simp [RosterCall.newcomer?] at hnewcomer
      | remove name =>
          cases hfound : session.registry.find? name with
          | none =>
              rw [enroll_remove_of_absent hfound]
              exact .nothing
          | some agent =>
              rw [enroll_remove, hfound]
              exact .left (session.registry.agents_remove name)

/-! ## Many calls -/

/-- The roster after some calls: those who were there and did not leave, and behind them those who
joined and did not leave since. -/
theorem agents_enrollAll (calls : List (RosterCall ε)) (session : Session ε σ) :
    (session.enrollAll calls).2.registry.agents =
      (session.registry.agents.filter fun agent =>
        !hasExit (session.enrollAll calls).1 agent.name) ++
        standing (session.enrollAll calls).1 := by
  induction calls generalizing session with
  | nil =>
      symm
      simp [enrollAll, standing]
  | cons call rest ih =>
      have hstep := turnover_enroll call session
      have hrest := ih (session.enroll call).2
      rw [enrollAll]
      generalize call.event (session.enroll call).1 = event at hstep ⊢
      generalize (session.enroll call).2 = middle at hstep hrest ⊢
      generalize middle.enrollAll rest = later at hrest ⊢
      rw [hrest]
      cases hstep with
      | @joined agent _ hagents =>
          -- Who joins is among those that were there for the calls behind.
          simp only [hagents, hasExit_joined, List.filter_append, List.append_assoc, standing]
          cases hexit : hasExit later.1 agent.name <;> simp [hexit]
      | @left name _ hagents =>
          rw [hagents, List.filter_filter]
          congr 1
          apply List.filter_congr
          intro agent _
          rw [hasExit_left, Bool.not_or, Bool.and_comm, Bool.beq_comm]
          rfl
      | nothing => rfl

/-! ## What calls keep and change -/

/-- What a call does with the roster. A call that is refused, or that removes nobody, does nothing;
any other is about one name and leaves the agents of all other names as they are. -/
structure Enrolls (before : Session ε σ) (call : RosterCall ε)
    (answer : Except OrchestrationError (Option (Agent ε))) (after : Session ε σ) : Prop where
  refused : ∀ error, answer = .error error → after = before
  nobody : answer = .ok none → after = before
  joins : ∀ agent, call.newcomer? before.defaultEndpoint = some agent → agent.name ≠ "" →
    agent.name ∉ before.registry.names →
    answer = .ok (some agent) ∧ after.registry.names = before.registry.names ++ [agent.name] ∧
    after.registry.find? agent.name = some agent ∧ (call.IsFresh → agent.IsUnused)
  turnedAway : ∀ agent, call.newcomer? before.defaultEndpoint = some agent →
    (agent.name = "" ∨ agent.name ∈ before.registry.names) → ∃ error, answer = .error error
  leaves : ∀ name, call = .remove name →
    answer = .ok (before.registry.find? name) ∧
    after.registry.names = before.registry.names.filter (· != name) ∧
    after.registry.find? name = none
  others : ∀ other, other ≠ call.subject →
    after.registry.find? other = before.registry.find? other

theorem enrolls_of_newcomer (hnewcomer : call.newcomer? session.defaultEndpoint = some agent) :
    session.Enrolls call (session.enroll call).1 (session.enroll call).2 := by
  have hnotRemoval : ∀ name, call ≠ .remove name := by
    rintro name rfl
    simp [RosterCall.newcomer?] at hnewcomer
  by_cases h : agent.name = "" ∨ agent.name ∈ session.registry.names
  · obtain ⟨error, hmade, -⟩ := enroll_refused hnewcomer h
    rw [hmade]
    refine ⟨fun _ _ => rfl, fun _ => rfl, ?_, fun _ _ _ => ⟨error, rfl⟩, ?_, fun _ _ => rfl⟩
    · intro other hother hname hnew
      obtain rfl := Option.some.inj (hnewcomer.symm.trans hother)
      exact absurd h (not_or.2 ⟨hname, hnew⟩)
    · intro name hremoval
      exact absurd hremoval (hnotRemoval name)
  · obtain ⟨hname, hnew⟩ := not_or.1 h
    obtain ⟨after, hmade, -, hagents⟩ := enroll_joined hnewcomer hname hnew
    rw [hmade]
    refine ⟨fun _ herror => by simp at herror, fun hnone => by simp at hnone, ?_, ?_, ?_, ?_⟩
    · intro other hother _ _
      obtain rfl := Option.some.inj (hnewcomer.symm.trans hother)
      exact ⟨rfl, Registry.names_of_joined hagents, Registry.find?_self_of_joined hagents,
        RosterCall.isUnused_of_newcomer hnewcomer⟩
    · intro other hother hrefused
      obtain rfl := Option.some.inj (hnewcomer.symm.trans hother)
      exact absurd hrefused h
    · intro name hremoval
      exact absurd hremoval (hnotRemoval name)
    · intro other hne
      rw [RosterCall.subject_of_newcomer hnewcomer] at hne
      exact Registry.find?_of_joined hagents hne

theorem enrolls_remove (session : Session ε σ) (name : String) :
    session.Enrolls (.remove name) (session.enroll (.remove name)).1
      (session.enroll (.remove name)).2 where
  refused error herror := by simp [enroll_remove] at herror
  nobody hnone := by
    have habsent : session.registry.find? name = none := Except.ok.inj hnone
    rw [enroll_remove_of_absent habsent]
  joins agent hnewcomer := by simp [RosterCall.newcomer?] at hnewcomer
  turnedAway agent hnewcomer := by simp [RosterCall.newcomer?] at hnewcomer
  leaves other hother := by
    obtain rfl := RosterCall.remove.inj hother
    exact ⟨rfl, session.registry.names_remove name, session.registry.find?_remove_self name⟩
  others other hne := session.registry.find?_remove_of_ne hne

theorem enrolls_enroll (call : RosterCall ε) (session : Session ε σ) :
    session.Enrolls call (session.enroll call).1 (session.enroll call).2 := by
  cases call with
  | add name role instructions endpoint => exact enrolls_of_newcomer rfl
  | register agent => exact enrolls_of_newcomer rfl
  | remove name => exact enrolls_remove session name

/-- To register an agent changes who is registered and nothing else. -/
theorem register_eq (agent : Agent ε) (session : Session ε σ) :
    (session.register agent).2 =
      { session with registry := (session.register agent).2.registry } := by
  rw [register]
  cases session.registry.register agent <;> rfl

/-- A call changes who is registered and nothing else. -/
theorem enroll_eq (call : RosterCall ε) (session : Session ε σ) :
    (session.enroll call).2 =
      { session with registry := (session.enroll call).2.registry } := by
  cases call with
  | add name role instructions endpoint => exact register_eq _ session
  | register agent => exact register_eq agent session
  | remove name => rfl

theorem defaultEndpoint_enroll (call : RosterCall ε) (session : Session ε σ) :
    (session.enroll call).2.defaultEndpoint = session.defaultEndpoint := by
  rw [enroll_eq]

end Session

/-! ## Calls to a directory -/

namespace Directory

/-- Make a call. The answer is the agent that joins or leaves, if one does. -/
def enroll (defaultEndpoint : ε) (call : RosterCall ε) (directory : Directory ε) :
    Except OrchestrationError (Option (Agent ε)) × Directory ε :=
  match call with
  | .add name role instructions endpoint =>
    let added := directory.register (.new name role instructions (endpoint.getD defaultEndpoint))
    (added.1.map some, added.2)
  | .register agent =>
    let added := directory.register agent
    (added.1.map some, added.2)
  | .remove name =>
    let removed := directory.remove name
    (.ok removed.1, removed.2)

/-- Make calls, one after another, with what came of each. -/
def enrollAll (defaultEndpoint : ε) :
    List (RosterCall ε) → Directory ε → List (RosterEvent ε) × Directory ε
  | [], directory => ([], directory)
  | call :: rest, directory =>
    let made := directory.enroll defaultEndpoint call
    let later := enrollAll defaultEndpoint rest made.2
    (call.event made.1 :: later.1, later.2)

namespace Shows

variable {directory : Directory ε} {session : Session ε σ}

/-- A directory takes and refuses the agents that a session does. -/
theorem registerWith (h : directory.Shows session.registry) (agent : Agent ε) :
    (directory.register agent).1 = (session.register agent).1 ∧
      (directory.register agent).2.Shows (session.register agent).2.registry := by
  rw [Session.register]
  rcases h.register agent with
    ⟨after, later, hregistered, hjoined, hshows⟩ | ⟨error, hrefused, hunchanged⟩
  · rw [hregistered, hjoined]
    exact ⟨rfl, hshows⟩
  · rw [hrefused, hunchanged]
    exact ⟨rfl, h⟩

/-- A directory answers a call as a session does. -/
theorem enroll (h : directory.Shows session.registry) (call : RosterCall ε) :
    (directory.enroll session.defaultEndpoint call).1 = (session.enroll call).1 ∧
      (directory.enroll session.defaultEndpoint call).2.Shows
        (session.enroll call).2.registry := by
  cases call with
  | add name role instructions endpoint =>
      obtain ⟨hanswer, hshows⟩ := h.registerWith
        (.new name role instructions (endpoint.getD session.defaultEndpoint))
      exact ⟨congrArg (Except.map some) hanswer, hshows⟩
  | register agent =>
      obtain ⟨hanswer, hshows⟩ := h.registerWith agent
      exact ⟨congrArg (Except.map some) hanswer, hshows⟩
  | remove name =>
      obtain ⟨hanswer, hshows⟩ := h.remove name
      exact ⟨congrArg Except.ok hanswer, hshows⟩

/-- A directory and a session stay in step through all calls. -/
theorem enrollAll (h : directory.Shows session.registry) (calls : List (RosterCall ε)) :
    (directory.enrollAll session.defaultEndpoint calls).1 = (session.enrollAll calls).1 ∧
      (directory.enrollAll session.defaultEndpoint calls).2.Shows
        (session.enrollAll calls).2.registry := by
  induction calls generalizing directory session with
  | nil => exact ⟨rfl, h⟩
  | cons call rest ih =>
      obtain ⟨hanswer, hshows⟩ := h.enroll call
      obtain ⟨hevents, hlast⟩ := ih hshows
      rw [Session.defaultEndpoint_enroll] at hevents hlast
      rw [Directory.enrollAll, Session.enrollAll]
      exact ⟨by rw [hanswer, hevents], hlast⟩

end Shows

end Directory

namespace Session

/-- After any number of calls the roster is what came of them says: it names nobody twice, finds an
agent of that name under every name that it lists and under no other, and lists trimmed names that
are not empty. The next call changes at most the one agent that it is about. A directory that shows
the agents of the session answers all calls alike and shows the roster in both its parts. -/
theorem enrollAll_roster (session : Session ε σ) (calls : List (RosterCall ε)) :
    ∃ events after, session.enrollAll calls = (events, after) ∧
      after.registry.agents =
        (session.registry.agents.filter fun agent => !hasExit events agent.name) ++
          standing events ∧
      after.registry.names.Nodup ∧
      (∀ name, (after.registry.has name = true ↔ name ∈ after.registry.names) ∧
        (name ∈ after.registry.names ↔
          ∃ agent, after.registry.find? name = some agent ∧ agent.name = name)) ∧
      (∀ name ∈ after.registry.names, name ≠ "" ∧ Text.trim name = name) ∧
      (∀ call, after.Enrolls call (after.enroll call).1 (after.enroll call).2) ∧
      ∀ directory : Directory ε, directory.Shows session.registry →
        ∃ later, directory.enrollAll session.defaultEndpoint calls = (events, later) ∧
          later.Shows after.registry := by
  refine ⟨_, _, rfl, agents_enrollAll calls session, ?_, ?_, ?_, ?_, ?_⟩
  · exact (session.enrollAll calls).2.registry.distinct
  · intro name
    exact ⟨Registry.has_iff_mem, Registry.mem_names_iff_exists⟩
  · intro name hlisted
    exact Registry.named_of_mem hlisted
  · intro call
    exact enrolls_enroll call _
  · intro directory hshows
    obtain ⟨hevents, hlast⟩ := hshows.enrollAll calls
    exact ⟨_, Prod.ext hevents rfl, hlast⟩

/-- Two agents join, one of them leaves and joins again, and the other calls are refused or remove
nobody. -/
def rejoining : List (RosterCall Unit) :=
  [.add " a" "" "" none, .add "\u3000" "" "" none, .register (.new "b\n" "" "" ()),
    .add "a " "" "" none, .remove " a", .remove "a", .register (.new "a" "" "" ())]

/-- Who left and joined again is last, also in a directory. -/
theorem enrollAll_roster_rejoining :
    ∃ events after, (Session.start () ()).enrollAll rejoining = (events, after) ∧
      after.registry.names = ["b", "a"] ∧
      (standing events).map Agent.name = ["b", "a"] ∧ "a" ∈ after.registry.names ∧
      Text.trim "a" = "a" ∧ after.enroll (.remove "c") = (.ok none, after) ∧
      (Directory.empty : Directory Unit).Shows (Session.start () ()).registry ∧
      ∃ later, Directory.empty.enrollAll () rejoining = (events, later) ∧
        later.names = ["b", "a"] := by
  obtain ⟨events, after, hran, hagents, -, -, hnamed, henrolls, hdirectory⟩ :=
    enrollAll_roster (Session.start () ()) rejoining
  have hstanding : (standing events).map Agent.name = ["b", "a"] := by
    rw [show events = ((Session.start () ()).enrollAll rejoining).1 by rw [hran]]
    decide
  have hnames : after.registry.names = ["b", "a"] := by
    rw [Registry.names, hagents]
    exact hstanding
  have hlisted : "a" ∈ after.registry.names := by simp [hnames]
  have habsent : after.registry.find? "c" = none := by
    rw [Registry.find?_eq_none_iff, hnames]
    decide
  have hremoved : (after.enroll (.remove "c")).1 = .ok none := by rw [enroll_remove, habsent]
  obtain ⟨later, hlater, hshows⟩ := hdirectory Directory.empty Directory.shows_empty
  exact ⟨events, after, hran, hnames, hstanding, hlisted, (hnamed "a" hlisted).2,
    Prod.ext hremoved ((henrolls (.remove "c")).nobody hremoved), Directory.shows_empty, later,
    hlater, hshows.names.trans hnames⟩

end Session

end Ensemble
