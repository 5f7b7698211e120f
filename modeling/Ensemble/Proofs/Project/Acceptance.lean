/-
# From a loaded project to its session

Two layers look at the agents of a project: the one that loads it and the one that registers its
agents. What the first lets through, the second takes, so the names of a loaded project are never
refused. What can still fail is an endpoint, and only for the settings of a server: by the defaults,
or by what an agent asks for itself. The agents join in order; those that ask for nothing share the
default endpoint, and each of the others has its own.
-/

import Ensemble.Project.Session
import Ensemble.Proofs.Agent.Registry
import Ensemble.Proofs.Project.Loading

namespace Ensemble

/-! ## Endpoints -/

/-- Settings from which an endpoint can be made. Only those of a server can fail to do. -/
def EndpointSettings.IsUsable (settings : EndpointSettings) : Prop :=
  settings.provider = .ollama →
    OllamaServer.plainUrl settings.url ≠ "" ∧ settings.port ≠ 0 ∧
      Text.trim settings.model ≠ "" ∧ settings.temperature.inUnitInterval = true

namespace Endpoint

theorem ofSettings_ok {settings : EndpointSettings} (h : settings.IsUsable) :
    ∃ endpoint, ofSettings settings = .ok endpoint := by
  rw [ofSettings]
  split
  next hprovider =>
    obtain ⟨hurl, hport, hmodel, htemperature⟩ := h hprovider
    rw [OllamaServer.ofSettings, if_neg (by simpa [String.isEmpty_iff] using hurl), if_neg hport,
      if_neg (by simpa [String.isEmpty_iff] using hmodel), if_pos htemperature]
    exact ⟨_, rfl⟩
  next => exact ⟨_, rfl⟩

theorem ofSettings_error {settings : EndpointSettings} (h : ¬ settings.IsUsable) :
    ∃ reason, ofSettings settings = .error (.invalidConfig reason) := by
  rw [EndpointSettings.IsUsable, Classical.not_imp] at h
  obtain ⟨hprovider, hunfit⟩ := h
  rw [ofSettings, hprovider]
  simp only
  rw [OllamaServer.ofSettings]
  by_cases hurl : OllamaServer.plainUrl settings.url = ""
  · rw [if_pos (by simpa [String.isEmpty_iff] using hurl)]
    exact ⟨_, rfl⟩
  rw [if_neg (by simpa [String.isEmpty_iff] using hurl)]
  by_cases hport : settings.port = 0
  · rw [if_pos hport]
    exact ⟨_, rfl⟩
  rw [if_neg hport]
  by_cases hmodel : Text.trim settings.model = ""
  · rw [if_pos (by simpa [String.isEmpty_iff] using hmodel)]
    exact ⟨_, rfl⟩
  rw [if_neg (by simpa [String.isEmpty_iff] using hmodel),
    if_neg fun htemperature => hunfit ⟨hurl, hport, hmodel, htemperature⟩]
  exact ⟨_, rfl⟩

end Endpoint

/-- What an agent asks for itself makes an endpoint, if it asks for anything. -/
def AgentProfile.Fits (settings : EndpointSettings) (profile : AgentProfile) : Prop :=
  profile.overridesEndpoint = true →
    (settings.withOverrides profile.model profile.temperature).IsUsable

theorem AgentProfile.overridesEndpoint_eq_false_iff {profile : AgentProfile} :
    profile.overridesEndpoint = false ↔ profile.model = none ∧ profile.temperature = none := by
  rw [overridesEndpoint, Bool.or_eq_false_iff]
  simp

namespace Project

variable {σ : Type} {settings : EndpointSettings} {profile : AgentProfile}

/-- An agent that a profile makes. Without wishes it has the shared endpoint, and otherwise one of
its own, made from the settings and its wishes. -/
structure Makes (settings : EndpointSettings) (shared : Binding) (profile : AgentProfile)
    (agent : Agent Binding) : Prop where
  name : agent.name = profile.name
  shares : profile.overridesEndpoint = false → agent.endpoint = shared
  owns : profile.overridesEndpoint = true → ∃ endpoint,
    Endpoint.ofSettings (settings.withOverrides profile.model profile.temperature) = .ok endpoint ∧
      agent.endpoint = ⟨some profile.name, endpoint⟩

/-- An agent has the shared endpoint exactly when it asks for neither a model nor a temperature. -/
theorem Makes.endpoint_eq_iff {endpoint : Endpoint} {agent : Agent Binding}
    (h : Makes settings ⟨none, endpoint⟩ profile agent) :
    agent.endpoint = ⟨none, endpoint⟩ ↔ profile.model = none ∧ profile.temperature = none := by
  rw [← AgentProfile.overridesEndpoint_eq_false_iff]
  refine ⟨fun hshared => ?_, h.shares⟩
  by_contra hwishes
  obtain ⟨own, -, howns⟩ := h.owns (by simpa using hwishes)
  rw [hshared] at howns
  cases howns

theorem ownEndpoint?_ok (h : profile.Fits settings) :
    ∃ binding, ownEndpoint? settings profile = .ok binding ∧
      (profile.overridesEndpoint = false → binding = none) ∧
      (profile.overridesEndpoint = true → ∃ endpoint,
        Endpoint.ofSettings (settings.withOverrides profile.model profile.temperature) =
          .ok endpoint ∧
        binding = some ⟨some profile.name, endpoint⟩) := by
  rw [ownEndpoint?]
  cases hwishes : profile.overridesEndpoint with
  | false => exact ⟨none, rfl, fun _ => rfl, fun htrue => by cases htrue⟩
  | true =>
      obtain ⟨endpoint, hmade⟩ := Endpoint.ofSettings_ok (h hwishes)
      rw [if_pos rfl, hmade]
      exact ⟨_, rfl, fun hfalse => (by cases hfalse), fun _ => ⟨endpoint, rfl, rfl⟩⟩

theorem ownEndpoint?_error (h : ¬ profile.Fits settings) :
    ∃ reason, ownEndpoint? settings profile = .error (.invalidConfig reason) := by
  rw [AgentProfile.Fits, Classical.not_imp] at h
  obtain ⟨hwishes, hunusable⟩ := h
  obtain ⟨reason, hfailed⟩ := Endpoint.ofSettings_error hunusable
  rw [ownEndpoint?, if_pos hwishes, hfailed]
  exact ⟨reason, rfl⟩

/-! ## Registering the agents -/

/-- Profiles whose agents can join a registry: each has a proper name that is new. -/
structure CanJoin (registry : Registry Binding) (profiles : List AgentProfile) : Prop where
  named : ∀ profile ∈ profiles, profile.name ≠ "" ∧ Text.trim profile.name = profile.name
  distinct : (profiles.map AgentProfile.name).Nodup
  new : ∀ profile ∈ profiles, profile.name ∉ registry.names

/-- The first agent joins, and the others still can. -/
theorem CanJoin.step {session : Session Binding σ} {profiles : List AgentProfile}
    (h : CanJoin session.registry (profile :: profiles)) (hfits : profile.Fits settings) :
    ∃ agent after, Makes settings session.defaultEndpoint profile agent ∧
      registerAgents settings session (profile :: profiles) =
        registerAgents settings after profiles ∧
      after.registry.agents = session.registry.agents ++ [agent] ∧
      after.defaultEndpoint = session.defaultEndpoint ∧
      after.parallelLimit = session.parallelLimit ∧
      CanJoin after.registry profiles := by
  obtain ⟨hname, htrimmed⟩ := h.named profile List.mem_cons_self
  obtain ⟨binding, hbinding, hnone, hsome⟩ := ownEndpoint?_ok hfits
  let agent : Agent Binding := .new profile.name profile.role profile.instructions
    (binding.getD session.defaultEndpoint)
  have hagent : agent.name = profile.name := htrimmed
  obtain ⟨registry, hregistered, hagents⟩ : ∃ registry,
      session.registry.register agent = .ok registry ∧
        registry.agents = session.registry.agents ++ [agent] :=
    Registry.register_ok (hagent ▸ hname) (hagent ▸ h.new profile List.mem_cons_self)
  have hadded : session.addAgent profile.name profile.role profile.instructions binding =
      (.ok agent, { session with registry := registry }) := by
    rw [Session.addAgent, Session.register, hregistered]
  refine ⟨agent, { session with registry := registry }, ⟨hagent, fun hno => ?_, fun hyes => ?_⟩,
    ?_, hagents, rfl, rfl, ⟨fun other hother => ?_, ?_, fun other hother => ?_⟩⟩
  · rw [show agent.endpoint = binding.getD session.defaultEndpoint from rfl, hnone hno]
    rfl
  · obtain ⟨endpoint, hmade, rfl⟩ := hsome hyes
    exact ⟨endpoint, hmade, rfl⟩
  · rw [registerAgents, hbinding]
    simp only [hadded]
  · exact h.named other (List.mem_cons_of_mem _ hother)
  · exact (List.nodup_cons.1 h.distinct).2
  · have hne : other.name ≠ profile.name := fun heq =>
      (List.nodup_cons.1 h.distinct).1 (heq ▸ List.mem_map_of_mem hother)
    rw [Registry.names_of_joined hagents, List.mem_append, List.mem_singleton, hagent, not_or]
    exact ⟨h.new other (List.mem_cons_of_mem _ hother), hne⟩

/-- Agents whose wishes can be met all join, in order. -/
theorem registerAgents_ok {session : Session Binding σ} {profiles : List AgentProfile}
    (h : CanJoin session.registry profiles) (hfits : ∀ profile ∈ profiles, profile.Fits settings) :
    ∃ after agents, registerAgents settings session profiles = .ok after ∧
      after.registry.agents = session.registry.agents ++ agents ∧
      List.Forall₂ (Makes settings session.defaultEndpoint) profiles agents ∧
      after.defaultEndpoint = session.defaultEndpoint ∧
      after.parallelLimit = session.parallelLimit := by
  induction profiles generalizing session with
  | nil => exact ⟨session, [], rfl, (List.append_nil _).symm, .nil, rfl, rfl⟩
  | cons profile rest ih =>
      obtain ⟨agent, middle, hmakes, hrun, hjoined, hdefault, hlimit, hrest⟩ :=
        h.step (hfits profile List.mem_cons_self)
      obtain ⟨after, agents, hran, hagents, hmade, hdefault', hlimit'⟩ :=
        ih hrest fun other hother => hfits other (List.mem_cons_of_mem _ hother)
      refine ⟨after, agent :: agents, hrun.trans hran, ?_, .cons hmakes (hdefault ▸ hmade),
        hdefault'.trans hdefault, hlimit'.trans hlimit⟩
      rw [hagents, hjoined, List.append_assoc]
      rfl

/-- A wish that cannot be met ends in an error of an endpoint, even behind agents that join. -/
theorem registerAgents_error {session : Session Binding σ} {profiles : List AgentProfile}
    (h : CanJoin session.registry profiles)
    (hunfit : ∃ profile ∈ profiles, ¬ profile.Fits settings) :
    ∃ reason, registerAgents settings session profiles =
      .error (.endpoint (.invalidConfig reason)) := by
  induction profiles generalizing session with
  | nil =>
      obtain ⟨profile, hprofile, -⟩ := hunfit
      cases hprofile
  | cons profile rest ih =>
      by_cases hfits : profile.Fits settings
      · obtain ⟨agent, middle, -, hrun, -, -, -, hrest⟩ := h.step hfits
        obtain ⟨other, hother, hother'⟩ := hunfit
        have hbehind : other ∈ rest := by
          refine (List.mem_cons.1 hother).resolve_left fun heq => hother' ?_
          exact heq ▸ hfits
        rw [hrun]
        exact ih hrest ⟨other, hbehind, hother'⟩
      · obtain ⟨reason, hfailed⟩ := ownEndpoint?_error hfits
        rw [registerAgents, hfailed]
        exact ⟨reason, rfl⟩

/-! ## The session of a loaded project -/

/-- The settings of a project let all its endpoints be made. -/
def EndpointsFit (project : Project) : Prop :=
  project.settings.endpoint.IsUsable ∧
    ∀ profile ∈ project.agents, profile.Fits project.settings.endpoint

/-- On a server with good defaults an agent's wishes can be met when its own model is not blank and
its own temperature is between zero and one. -/
theorem fits_iff (hprovider : settings.provider = .ollama) (husable : settings.IsUsable) :
    profile.Fits settings ↔ (∀ model, profile.model = some model → Text.trim model ≠ "") ∧
      ∀ temperature, profile.temperature = some temperature →
        temperature.inUnitInterval = true := by
  obtain ⟨hurl, hport, hmodel, htemperature⟩ := husable hprovider
  constructor
  · intro hfits
    refine ⟨fun model hown => ?_, fun temperature hown => ?_⟩
    · have hwishes : profile.overridesEndpoint = true := by
        simp [AgentProfile.overridesEndpoint, hown]
      have hmade := (hfits hwishes hprovider).2.2.1
      rwa [EndpointSettings.withOverrides, hown] at hmade
    · have hwishes : profile.overridesEndpoint = true := by
        simp [AgentProfile.overridesEndpoint, hown]
      have hmade := (hfits hwishes hprovider).2.2.2
      rwa [EndpointSettings.withOverrides, hown] at hmade
  · rintro ⟨hownModel, hownTemperature⟩ - -
    refine ⟨hurl, hport, ?_, ?_⟩
    · cases hown : profile.model with
      | none => exact hmodel
      | some model => exact hownModel model hown
    · cases hown : profile.temperature with
      | none => exact htemperature
      | some temperature => exact hownTemperature temperature hown

/-- With a default temperature between zero and one, endpoints fail to be made for a server only: by
the default address, port or model, or by an agent's own model or temperature. -/
theorem not_endpointsFit_iff {project : Project}
    (htemperature : project.settings.endpoint.temperature.inUnitInterval = true) :
    ¬ project.EndpointsFit ↔ project.settings.endpoint.provider = .ollama ∧
      (OllamaServer.plainUrl project.settings.endpoint.url = "" ∨
        project.settings.endpoint.port = 0 ∨ Text.trim project.settings.endpoint.model = "" ∨
        ∃ profile ∈ project.agents,
          (∃ model, profile.model = some model ∧ Text.trim model = "") ∨
          ∃ temperature, profile.temperature = some temperature ∧
            temperature.inUnitInterval = false) := by
  constructor
  · intro hunfit
    by_cases hprovider : project.settings.endpoint.provider = .ollama
    · refine ⟨hprovider, ?_⟩
      by_contra hflawless
      simp only [not_or, not_exists, not_and, Bool.not_eq_false] at hflawless
      obtain ⟨hurl, hport, hmodel, hagents⟩ := hflawless
      have husable : project.settings.endpoint.IsUsable :=
        fun _ => ⟨hurl, hport, hmodel, htemperature⟩
      exact hunfit ⟨husable, fun profile hprofile =>
        (fits_iff hprovider husable).2 (hagents profile hprofile)⟩
    · -- An echo takes any settings.
      exact absurd ⟨fun hserver => absurd hserver hprovider,
        fun _ _ _ hserver => absurd hserver hprovider⟩ hunfit
  · rintro ⟨hprovider, hflaw⟩ ⟨husable, hfits⟩
    obtain ⟨hurl, hport, hmodel, -⟩ := husable hprovider
    rcases hflaw with hurl' | hport' | hmodel' | ⟨profile, hprofile, hown⟩
    · exact hurl hurl'
    · exact hport hport'
    · exact hmodel hmodel'
    · obtain ⟨hownModel, hownTemperature⟩ :=
        (fits_iff hprovider husable).1 (hfits profile hprofile)
      rcases hown with ⟨model, hmodel, hblank⟩ | ⟨temperature, hown, hout⟩
      · exact hownModel model hmodel hblank
      · rw [hownTemperature temperature hown] at hout
        cases hout

/-- The agents of a loaded project can join a registry without agents. -/
theorem canJoin_of_loads {tree : FileTree} {paths : List String} {profiles : List AgentProfile}
    (h : Loads tree [] paths profiles) : CanJoin .empty profiles :=
  ⟨h.named, h.distinct, fun _ _ => List.not_mem_nil⟩

/-- The session of a project whose agents can join and whose endpoints can be made. -/
theorem session_ok {project : Project} (world : σ) (hjoin : CanJoin .empty project.agents)
    (hfits : project.EndpointsFit) :
    ∃ session endpoint, project.session world = .ok session ∧
      session.defaultEndpoint = ⟨none, endpoint⟩ ∧
      session.parallelLimit = max 1 project.settings.coordination.parallelLimit.toNat ∧
      List.Forall₂ (Makes project.settings.endpoint ⟨none, endpoint⟩) project.agents
        session.registry.agents := by
  obtain ⟨endpoint, hendpoint⟩ := Endpoint.ofSettings_ok hfits.1
  let start := (Session.start (⟨none, endpoint⟩ : Binding) world).withLimit
    project.settings.coordination.parallelLimit.toNat
  obtain ⟨after, agents, hran, hagents, hmade, hdefault, hlimit⟩ :
      ∃ after agents, registerAgents project.settings.endpoint start project.agents = .ok after ∧
        after.registry.agents = [] ++ agents ∧
        List.Forall₂ (Makes project.settings.endpoint ⟨none, endpoint⟩) project.agents agents ∧
        after.defaultEndpoint = ⟨none, endpoint⟩ ∧ after.parallelLimit = start.parallelLimit :=
    registerAgents_ok hjoin hfits.2
  refine ⟨after, endpoint, ?_, hdefault, ?_, ?_⟩
  · rw [session, hendpoint]
    exact hran
  · rw [hlimit, Nat.max_comm]
    rfl
  · rw [hagents]
    exact hmade

/-- Without all endpoints there is no session. -/
theorem session_error {project : Project} (world : σ) (hjoin : CanJoin .empty project.agents)
    (hunfit : ¬ project.EndpointsFit) :
    ∃ reason, project.session world = .error (.endpoint (.invalidConfig reason)) := by
  by_cases husable : project.settings.endpoint.IsUsable
  · obtain ⟨endpoint, hendpoint⟩ := Endpoint.ofSettings_ok husable
    have hagents : ∃ profile ∈ project.agents, ¬ profile.Fits project.settings.endpoint := by
      by_contra hnone
      refine hunfit ⟨husable, fun profile hprofile => ?_⟩
      by_contra hunfit'
      exact hnone ⟨profile, hprofile, hunfit'⟩
    rw [session, hendpoint]
    exact registerAgents_error hjoin hagents
  · obtain ⟨reason, hfailed⟩ := Endpoint.ofSettings_error husable
    rw [session, hfailed]
    exact ⟨reason, rfl⟩

theorem names_of_makes {shared : Binding} {profiles : List AgentProfile}
    {agents : List (Agent Binding)} (h : List.Forall₂ (Makes settings shared) profiles agents) :
    agents.map Agent.name = profiles.map AgentProfile.name := by
  induction h with
  | nil => rfl
  | cons hmakes _ ih => rw [List.map_cons, List.map_cons, hmakes.name, ih]

/-- What loads can be registered. The agents of a loaded project are those of its files in ascending
order, under trimmed names that are not empty and pairwise different. No name is refused when the
session is made, and it fails exactly when the endpoint of a server cannot be made, by the default
address, port or model or by what an agent asks for. Otherwise the session has the agents in order,
its limit is at least one, and the agents that ask for nothing share the default endpoint. -/
theorem session_of_load {tree : FileTree} {root : String} {project : Project}
    (h : load tree root = .ok project) (world : σ) :
    (agentFiles tree root).Pairwise (· < ·) ∧
    List.Forall₂ (fun file profile =>
        loadAgent tree (Path.join (agentFolder root) file) = .ok profile)
      (agentFiles tree root) project.agents ∧
    (project.agents.map AgentProfile.name).Nodup ∧
    (∀ profile ∈ project.agents, profile.name ≠ "" ∧ Text.trim profile.name = profile.name ∧
      project.agent? profile.name = some profile) ∧
    (∀ fault, project.session world = .error fault →
      ∃ reason, fault = .endpoint (.invalidConfig reason)) ∧
    ((∃ fault, project.session world = .error fault) ↔
      project.settings.endpoint.provider = .ollama ∧
        (OllamaServer.plainUrl project.settings.endpoint.url = "" ∨
          project.settings.endpoint.port = 0 ∨ Text.trim project.settings.endpoint.model = "" ∨
          ∃ profile ∈ project.agents,
            (∃ model, profile.model = some model ∧ Text.trim model = "") ∨
            ∃ temperature, profile.temperature = some temperature ∧
              temperature.inUnitInterval = false)) ∧
    ∀ session, project.session world = .ok session →
      session.registry.names = project.agents.map AgentProfile.name ∧
      session.parallelLimit = max 1 project.settings.coordination.parallelLimit.toNat ∧
      List.Forall₂ (fun profile agent =>
          agent.endpoint = session.defaultEndpoint ↔
            profile.model = none ∧ profile.temperature = none)
        project.agents session.registry.agents := by
  obtain ⟨htemperature, hloads⟩ := loads_of_load h
  have hjoin := canJoin_of_loads hloads
  rw [← not_endpointsFit_iff htemperature]
  refine ⟨agentFiles_ascend tree root, ?_, hloads.distinct, fun profile hprofile => ?_, ?_, ?_, ?_⟩
  · exact List.forall₂_map_left_iff.1 hloads.described
  · obtain ⟨hname, htrimmed⟩ := hloads.named profile hprofile
    exact ⟨hname, htrimmed, agent?_name hloads.distinct hprofile⟩
  · intro fault hfault
    by_cases hfits : project.EndpointsFit
    · obtain ⟨session, endpoint, hmade, -⟩ := session_ok world hjoin hfits
      rw [hmade] at hfault
      cases hfault
    · obtain ⟨reason, hfailed⟩ := session_error world hjoin hfits
      rw [hfailed] at hfault
      exact ⟨reason, (Except.error.inj hfault).symm⟩
  · constructor
    · rintro ⟨fault, hfault⟩ hfits
      obtain ⟨session, endpoint, hmade, -⟩ := session_ok world hjoin hfits
      rw [hmade] at hfault
      cases hfault
    · intro hunfit
      obtain ⟨reason, hfailed⟩ := session_error world hjoin hunfit
      exact ⟨_, hfailed⟩
  · intro session hsession
    by_cases hfits : project.EndpointsFit
    · obtain ⟨made, endpoint, hmade, hdefault, hlimit, hagents⟩ := session_ok world hjoin hfits
      obtain rfl := Except.ok.inj (hmade.symm.trans hsession)
      refine ⟨names_of_makes hagents, hlimit, ?_⟩
      rw [hdefault]
      exact hagents.imp fun _ _ hmakes => hmakes.endpoint_eq_iff
    · obtain ⟨reason, hfailed⟩ := session_error world hjoin hfits
      rw [hfailed] at hsession
      cases hsession

/-- A file with a text that describes an agent. -/
theorem loadAgent_of_text {tree : FileTree} {path text : String} {profile : AgentProfile}
    (htext : (tree.readText path).toOption = some text)
    (hprofile : (AgentProfile.ofDocument text).toOption = some profile) :
    loadAgent tree path = .ok profile := by
  rw [loadAgent, readFile_of_text htext]
  simp only [bind, Except.bind, eq_ok_of_toOption hprofile, pure, Except.pure]

/-- Two files whose order is not that of the names in them. -/
def crossedNames : FileTree :=
  ⟨.ofList [(".maki", .directory), (".maki/agents", .directory),
    (".maki/agents/a.md", .file "---\nname: zoe\n---\nHelp.".toUTF8),
    (".maki/agents/b.md", .file "---\nname: amy\n---\nHelp.".toUTF8)]⟩

/-- The project of the two files. -/
def zoeAndAmy : Project :=
  ⟨.standard, [⟨"zoe", "", "", none, none, "Help."⟩, ⟨"amy", "", "", none, none, "Help."⟩], []⟩

theorem load_crossedNames : load crossedNames "" = .ok zoeAndAmy := by
  have hdirectory : Path.join "" directoryName = ".maki" := by decide +kernel
  have hfolder : Path.join ".maki" "agents" = ".maki/agents" := by decide +kernel
  have hthere : crossedNames.contains ".maki" = true := by decide +kernel
  have hsettings : loadSettings crossedNames ".maki" = .ok .standard := by
    have hnone : ¬ crossedNames.contains (Path.join ".maki" "config.toml") = true := by
      decide +kernel
    rw [loadSettings, if_neg hnone]
  have hfiles : filesWith crossedNames ".maki/agents" ["md"] = ["a.md", "b.md"] := by
    decide +kernel
  have hpaths : ["a.md", "b.md"].map (Path.join ".maki/agents") =
      [".maki/agents/a.md", ".maki/agents/b.md"] := by decide +kernel
  have hzoe : loadAgent crossedNames ".maki/agents/a.md" =
      .ok ⟨"zoe", "", "", none, none, "Help."⟩ :=
    @loadAgent_of_text _ _ "---\nname: zoe\n---\nHelp." _ (by decide +kernel) (by decide +kernel)
  have hamy : loadAgent crossedNames ".maki/agents/b.md" =
      .ok ⟨"amy", "", "", none, none, "Help."⟩ :=
    @loadAgent_of_text _ _ "---\nname: amy\n---\nHelp." _ (by decide +kernel) (by decide +kernel)
  have hworkflows : loadWorkflows crossedNames ".maki" = .ok [] := by
    have hnone : filesWith crossedNames (Path.join ".maki" "workflows") ["yaml", "yml"] = [] := by
      decide +kernel
    rw [loadWorkflows, hnone]
    rfl
  have hagents : loadAgents crossedNames ".maki" = .ok zoeAndAmy.agents := by
    rw [loadAgents, hfolder, hfiles, hpaths, loadAgentFiles, hzoe]
    simp only [bind, Except.bind, List.lookup_nil, loadAgentFiles, hamy]
    rfl
  rw [load, hdirectory, if_pos hthere, hsettings, hagents, hworkflows]
  rfl

/-- The session of the two has them in the order of their files, and they share the endpoint. -/
theorem session_of_load_crossedNames :
    load crossedNames "" = .ok zoeAndAmy ∧
      ∃ session, zoeAndAmy.session () = .ok session ∧ session.registry.names = ["zoe", "amy"] ∧
        session.parallelLimit = 4 := by
  obtain ⟨-, -, -, -, -, hfails, hsession⟩ := session_of_load load_crossedNames ()
  refine ⟨load_crossedNames, ?_⟩
  cases hmade : zoeAndAmy.session () with
  | error fault =>
      refine absurd (hfails.1 ⟨fault, hmade⟩).2 ?_
      decide +kernel
  | ok session =>
      obtain ⟨hnames, hlimit, -⟩ := hsession session hmade
      exact ⟨session, rfl, hnames, hlimit⟩

end Project

end Ensemble
