/-
# Agents and groups between commas

The agents of a coordinated task are listed in one text between commas, and so are those of every
group. The two are not read alike: a group is tidied, so that its names have no blanks around them
and none is empty, but the list of the agents is taken as it stands. A hybrid task whose groups are
spelled as its agents are is therefore accepted exactly when there was nothing to tidy. Otherwise
the command is refused, whatever the project holds.
-/

import Ensemble.CommandLine.Execution
import Ensemble.Proofs.CommandLine.Running
import Ensemble.Proofs.Coordination.Tiling

namespace Ensemble

/-! ## Names that are tidied -/

namespace Command

/-- A name without blanks around it that is not empty. -/
def IsTidy (name : String) : Prop :=
  Text.trim name = name ∧ name ≠ ""

instance : DecidablePred IsTidy :=
  fun _ => inferInstanceAs (Decidable (_ ∧ _))

/-- Names without the blanks around them, except those of which nothing is left. -/
def tidied (names : List String) : List String :=
  (names.map Text.trim).filter fun name => !name.isEmpty

theorem groupAgents_eq (value : String) : groupAgents value = tidied (Text.split ',' value) :=
  rfl

theorem isTidy_of_mem_tidied {names : List String} {name : String} (h : name ∈ tidied names) :
    IsTidy name := by
  obtain ⟨hmem, hsome⟩ := List.mem_filter.1 h
  obtain ⟨given, -, rfl⟩ := List.mem_map.1 hmem
  exact ⟨Text.trim_trim given, by simpa using hsome⟩

/-- Tidying changes nothing exactly when all names are tidy. -/
theorem tidied_eq_self_iff {names : List String} :
    tidied names = names ↔ ∀ name ∈ names, IsTidy name := by
  constructor
  · intro h name hmem
    rw [← h] at hmem
    exact isTidy_of_mem_tidied hmem
  · intro h
    have htrim : names.map Text.trim = names := by
      rw [List.map_congr_left fun name hmem => (h name hmem).1, List.map_id']
    rw [tidied, htrim, List.filter_eq_self]
    intro name hmem
    simpa using (h name hmem).2

theorem tidied_flatMap {α : Type} (f : α → List String) (items : List α) :
    tidied (items.flatMap f) = items.flatMap fun item => tidied (f item) := by
  rw [tidied, List.map_flatMap, List.filter_flatMap]
  rfl

variable {groups : List String}

theorem listedAgents_joined (hsome : groups ≠ []) :
    listedAgents [",".intercalate groups] = groups.flatMap (Text.split ',') := by
  rw [listedAgents, List.flatMap_singleton, Text.split_intercalate hsome]

/-- The agents of all groups together are those of the list, tidied. -/
theorem flatten_groupAgents (groups : List String) :
    (groups.map groupAgents).flatten = tidied (listedAgents [",".intercalate groups]) := by
  cases groups with
  | nil => decide
  | cons group rest =>
      rw [listedAgents_joined (List.cons_ne_nil group rest), tidied_flatMap, List.flatMap_def]
      rfl

/-- The groups fit the list exactly when all names of the list are tidy. -/
theorem fits_joined_iff :
    Grouping.Fits (groups.map groupAgents) (listedAgents [",".intercalate groups]) ↔
      ∀ name ∈ listedAgents [",".intercalate groups], IsTidy name := by
  constructor
  · rintro ⟨-, hlisted⟩
    rwa [flatten_groupAgents, tidied_eq_self_iff] at hlisted
  · intro htidy
    refine ⟨fun hempty => ?_, by rw [flatten_groupAgents, tidied_eq_self_iff.2 htidy]⟩
    -- An empty group would come of a text whose pieces are all dropped, but none of them is.
    obtain ⟨group, hgroup, hnone⟩ := List.mem_map.1 hempty
    have hpieces : ∀ name ∈ Text.split ',' group, IsTidy name := by
      intro name hname
      apply htidy
      rw [listedAgents_joined (List.ne_nil_of_mem hgroup)]
      exact List.mem_flatMap.2 ⟨group, hgroup, hname⟩
    rw [groupAgents_eq, tidied_eq_self_iff.2 hpieces] at hnone
    exact Text.split_ne_nil ',' group hnone

end Command

/-! ## Reading the arguments -/

/-- An option with its value in one argument. -/
def Argument.joined (name value : String) : String :=
  "--" ++ name ++ ("=" ++ value)

/-- The name ends at the equals sign. -/
theorem Argument.ofText_joined {name : String} (hname : '=' ∉ name.toList) (value : String) :
    Argument.ofText (joined name value) = .named name (some value) := by
  have hchars : (joined name value).toList =
      '-' :: '-' :: (name.toList ++ '=' :: value.toList) := by
    simp [joined]
  have hunlike : ∀ c ∈ name.toList, (c != '=') = true := by
    intro c hc
    simpa using fun heq : c = '=' => hname (heq ▸ hc)
  have hsplit : splitValue (name.toList ++ '=' :: value.toList) = (name, some value) := by
    simp [splitValue, List.dropWhile_append_of_pos hunlike, List.takeWhile_append_of_pos hunlike]
  cases hrest : name.toList ++ '=' :: value.toList with
  | nil => simp at hrest
  | cons c rest =>
      rw [hrest] at hsplit hchars
      simp only [ofText, hchars, hsplit]

namespace ArgumentReading

variable {rules : ArgumentRules} {rule : OptionRule} {name : String}
  {options : List (String × String)} {words : List String}

/-- An option with its value in one argument is given that value. -/
theorem step_joined (hrule : rules.options.find? (·.name == name) = some rule)
    (hname : '=' ∉ name.toList) (value : String) :
    step rules ⟨⟨options, words⟩, none, false⟩ (Argument.joined name value) =
      giveValue ⟨⟨options, words⟩, none, false⟩ rule value := by
  simp only [step, Bool.false_eq_true, if_false, Argument.ofText_joined hname, hrule]

/-- An option that may repeat is given all its values in their order. -/
theorem foldlM_joined
    (hrule : rules.options.find? (·.name == name) = some (Command.textOption name true))
    (hname : '=' ∉ name.toList) (values rest : List String) :
    (values.map (Argument.joined name) ++ rest).foldlM (step rules)
        ⟨⟨options, words⟩, none, false⟩ =
      rest.foldlM (step rules) ⟨⟨options ++ values.map (name, ·), words⟩, none, false⟩ := by
  induction values generalizing options with
  | nil => rw [List.map_nil, List.map_nil, List.append_nil, List.nil_append]
  | cons value values ih =>
      rw [List.map_cons, List.cons_append, List.foldlM_cons, step_joined hrule hname]
      refine (@ih (options ++ [(name, value)])).trans ?_
      rw [List.append_assoc, List.map_cons, List.singleton_append]

end ArgumentReading

/-- What the arguments behind the name of a command say is what is asked for. -/
theorem Invocation.ofTexts_of_read {texts rest : List String} {name : String}
    {outer inner : Arguments} {rules : ArgumentRules} {command : Command}
    (hword : Command.outerRules.readToWord texts = .ok (outer, some (name, rest)))
    (hrules : Command.rules? name = some rules)
    (hread : rules.read rest = .ok inner)
    (hcommand : Command.ofArguments? name inner = some command) :
    ofTexts texts =
      .ok ⟨((inner.value? "root").or (outer.value? "root")).getD standardRoot, command⟩ := by
  have hhelp : name ≠ "help" := by
    rintro rfl
    simp [Command.rules?] at hrules
  rw [ofTexts, hword]
  simp only [bind, Except.bind, hrules, hread, hcommand]
  rfl

namespace Command

/-- The arguments of a hybrid task: its groups, and as its agents the same texts between commas. -/
def groupedTexts (groups : List String) (task : String) : List String :=
  Argument.joined "strategy" "hybrid" ::
    ([",".intercalate groups].map (Argument.joined "agents") ++
      (groups.map (Argument.joined "group") ++ ["--", task]))

/-- What these arguments say. -/
def groupedArguments (groups : List String) (task : String) : Arguments where
  options := [("strategy", "hybrid"), ("agents", ",".intercalate groups)] ++
    groups.map ("group", ·)
  words := [task]

theorem foldlM_groupedTexts {rules : ArgumentRules} (h : rules? "coordinate" = some rules)
    (groups : List String) (task : String) :
    (groupedTexts groups task).foldlM (ArgumentReading.step rules) .start =
      .ok ⟨groupedArguments groups task, none, true⟩ := by
  obtain rfl := Option.some.inj h
  -- The strategy is a fixed argument; the agents and the groups repeat an option.
  show List.foldlM (ArgumentReading.step _) ⟨⟨[("strategy", "hybrid")], []⟩, none, false⟩
    (List.map (Argument.joined "agents") [",".intercalate groups] ++ _) = _
  rw [ArgumentReading.foldlM_joined rfl (by decide),
    ArgumentReading.foldlM_joined rfl (by decide)]
  rfl

theorem read_groupedTexts {rules : ArgumentRules} (h : rules? "coordinate" = some rules)
    (groups : List String) (task : String) :
    rules.read (groupedTexts groups task) = .ok (groupedArguments groups task) := by
  rw [ArgumentRules.read, foldlM_groupedTexts h]
  obtain rfl := Option.some.inj h
  rfl

/-- However a hybrid task is spelled out, its groups and the same texts between commas as its agents
are read in the two ways. -/
theorem ofArguments?_grouped {arguments : Arguments} {groups : List String}
    (hstrategy : arguments.value? "strategy" = some "hybrid")
    (hagents : arguments.values "agents" = [",".intercalate groups])
    (hgroups : arguments.values "group" = groups) :
    ofArguments? "coordinate" arguments = some (.coordinate .hybrid
      (listedAgents [",".intercalate groups]) (groups.map groupAgents)
      (joinWords arguments.words)) := by
  show some (coordinate (strategyOf (arguments.value? "strategy"))
    (listedAgents (arguments.values "agents")) ((arguments.values "group").map groupAgents)
    (joinWords arguments.words)) = _
  rw [hstrategy, hagents, hgroups]
  rfl

theorem ofTexts_groupedTexts (groups : List String) (task : String) :
    Invocation.ofTexts ("coordinate" :: groupedTexts groups task) =
      .ok ⟨Invocation.standardRoot, .coordinate .hybrid (listedAgents [",".intercalate groups])
        (groups.map groupAgents) task⟩ := by
  obtain ⟨rules, hrules⟩ : ∃ rules, rules? "coordinate" = some rules := ⟨_, rfl⟩
  have hstrategy : (groupedArguments groups task).value? "strategy" = some "hybrid" := rfl
  have hagents : (groupedArguments groups task).values "agents" = [",".intercalate groups] := by
    simp [groupedArguments, Arguments.values]
  have hgroups : (groupedArguments groups task).values "group" = groups := by
    simp [groupedArguments, Arguments.values, List.filter_map, Function.comp_def]
  have hroot : (groupedArguments groups task).value? "root" = none := by
    simp [groupedArguments, Arguments.value?, Arguments.values]
  rw [Invocation.ofTexts_of_read rfl hrules (read_groupedTexts hrules groups task)
    (ofArguments?_grouped hstrategy hagents hgroups), hroot]
  rfl

end Command

/-! ## Refusing groups that do not fit -/

theorem CoordinationRequest.exists_groupSizes_withGroups_iff {request : CoordinationRequest}
    {groups : List (List String)} :
    (∃ sizes, (request.withGroups groups).groupSizes = .ok sizes) ↔
      Grouping.Fits groups request.agentNames := by
  simp [exists_groupSizes_iff, withGroups]

/-- A hybrid task whose groups do not fit is refused before anything happens. -/
theorem Session.coordinate_of_unfit {ε σ : Type} {request : CoordinationRequest}
    (hunfit : ¬ ∃ sizes, request.groupSizes = .ok sizes) (hhybrid : request.strategy = .hybrid)
    (responder : Responder ε σ) (session : Session ε σ) :
    ∃ error, session.coordinate responder request = (.error error, session) := by
  cases hsizes : request.groupSizes with
  | ok sizes => exact absurd ⟨sizes, hsizes⟩ hunfit
  | error error =>
      rw [coordinate]
      split
      next missing _ => exact ⟨missing, rfl⟩
      next taken _ =>
        simp only [Coordination.run, hhybrid, hsizes]
        exact ⟨error, rfl⟩

namespace Surroundings

variable {agents : List String} {groups : List (List String)}

/-- The request of a hybrid task with some groups. -/
theorem coordinationRequest_hybrid (hsome : groups ≠ []) (agents : List String) (task : String) :
    coordinationRequest .hybrid agents groups task =
      .ok ((CoordinationRequest.new task agents .hybrid).withGroups groups) := by
  simp [coordinationRequest, hsome]

/-- The command of a hybrid task whose groups do not fit is refused, whatever its project holds. -/
theorem refuses_coordinate {σ : Type} (hsome : groups ≠ [])
    (hunfit : ¬ Grouping.Fits groups agents) (around : Surroundings σ) (root task : String) :
    around.Refuses (around.carryOut ⟨root, .coordinate .hybrid agents groups task⟩) := by
  show around.Refuses (around.work root fun _ session =>
    around.coordinate session .hybrid agents groups task)
  rw [work]
  split
  next => exact ⟨rfl, rfl, rfl, rfl, Option.some_ne_none _⟩
  next project session hopen =>
    obtain ⟨hcalls, hworld⟩ := open?_silent hopen
    have hsizes : ¬ ∃ sizes, ((CoordinationRequest.new task agents .hybrid).withGroups
        groups).groupSizes = .ok sizes := by
      rwa [CoordinationRequest.exists_groupSizes_withGroups_iff]
    obtain ⟨error, hrefused⟩ :=
      Session.coordinate_of_unfit hsizes rfl around.responder session
    simp only [coordinate, coordinationRequest_hybrid hsome, hrefused, conclude]
    exact ⟨hcalls, hworld, rfl, rfl, Option.some_ne_none _⟩

/-- A project of two workflows without steps, and no server to be reached. -/
def offline : Surroundings Unit where
  tree := Project.twins
  transport := fun _ world => (.unreachable, world)
  world := ()
  stamp := ⟨default, default, default⟩
  styled := false

end Surroundings

namespace Command

/-- Groups are spelled as the agents are when the agents are given as the texts of all groups
between commas. The command then reads the groups tidied and the agents as they stand, so that they
list the same agents exactly when every listed name is tidy. Just then the groups fit the request;
otherwise the command is refused, whatever the project holds. -/
theorem groups_agree_iff_tidy (groups : List String) (task : String) :
    let listed := listedAgents [",".intercalate groups]
    let grouped := groups.map groupAgents
    (∀ arguments : Arguments, arguments.value? "strategy" = some "hybrid" →
      arguments.values "agents" = [",".intercalate groups] → arguments.values "group" = groups →
      ofArguments? "coordinate" arguments =
        some (.coordinate .hybrid listed grouped (joinWords arguments.words))) ∧
    Invocation.ofTexts ("coordinate" :: groupedTexts groups task) =
      .ok ⟨Invocation.standardRoot, .coordinate .hybrid listed grouped task⟩ ∧
    grouped.flatten = tidied listed ∧
    (grouped.flatten = listed ↔ ∀ name ∈ listed, IsTidy name) ∧
    (groups ≠ [] → ∃ request,
      Surroundings.coordinationRequest .hybrid listed grouped task = .ok request ∧
      request.agentNames = listed ∧
      ((∃ sizes, request.groupSizes = .ok sizes) ↔ ∀ name ∈ listed, IsTidy name)) ∧
    (groups ≠ [] → (∃ name ∈ listed, ¬ IsTidy name) →
      ∀ {σ : Type} (around : Surroundings σ) (root : String),
        around.Refuses (around.carryOut ⟨root, .coordinate .hybrid listed grouped task⟩)) := by
  intro listed grouped
  have hflatten : grouped.flatten = tidied listed := flatten_groupAgents groups
  have hfits : Grouping.Fits grouped listed ↔ ∀ name ∈ listed, IsTidy name := fits_joined_iff
  have hgrouped : groups ≠ [] → grouped ≠ [] := mt List.map_eq_nil_iff.1
  refine ⟨fun arguments => ofArguments?_grouped, ofTexts_groupedTexts groups task, hflatten,
    by rw [hflatten, tidied_eq_self_iff], fun hsome => ?_, fun hsome huntidy σ around root => ?_⟩
  · refine ⟨_, Surroundings.coordinationRequest_hybrid (hgrouped hsome) listed task, rfl, ?_⟩
    rw [CoordinationRequest.exists_groupSizes_withGroups_iff, ← hfits]
    rfl
  · refine Surroundings.refuses_coordinate (hgrouped hsome) (fun hfit => ?_) around root task
    obtain ⟨name, hname, huntidy⟩ := huntidy
    exact huntidy (hfits.1 hfit name hname)

/-- The arguments of a hybrid task of two groups, with a space behind a comma. -/
def spacedArguments : Arguments where
  options := [("group", "a"), ("agents", "a,b, c"), ("strategy", "hybrid"), ("group", "b, c")]
  words := ["Review", "it"]

/-- Two groups that are spelled as their agents fit when there is nothing to tidy. When a space
follows a comma they do not, and the command is refused. -/
theorem groups_agree_iff_tidy_spaced :
    (∃ request, Surroundings.coordinationRequest .hybrid ["a", "b", "c"] [["a"], ["b", "c"]]
      "Review" = .ok request ∧ ∃ sizes, request.groupSizes = .ok sizes) ∧
    ["a", "b, c"] ≠ [] ∧ (∃ name ∈ listedAgents ["a,b, c"], ¬ IsTidy name) ∧
    spacedArguments.value? "strategy" = some "hybrid" ∧
    spacedArguments.values "agents" = ["a,b, c"] ∧
    spacedArguments.values "group" = ["a", "b, c"] ∧
    ofArguments? "coordinate" spacedArguments =
      some (.coordinate .hybrid ["a", "b", " c"] [["a"], ["b", "c"]] "Review it") ∧
    Surroundings.offline.Refuses (Surroundings.offline.carryOut
      ⟨".", .coordinate .hybrid ["a", "b", " c"] [["a"], ["b", "c"]] "Review it"⟩) := by
  obtain ⟨-, -, -, -, hfit, -⟩ := groups_agree_iff_tidy ["a", "b,c"] "Review"
  obtain ⟨request, hrequest, -, hsizes⟩ := hfit (List.cons_ne_nil _ _)
  obtain ⟨hread, -, -, -, -, hrefused⟩ := groups_agree_iff_tidy ["a", "b, c"] "Review it"
  have hsome : ["a", "b, c"] ≠ [] := List.cons_ne_nil _ _
  have huntidy : ∃ name ∈ listedAgents ["a,b, c"], ¬ IsTidy name := by decide
  exact ⟨⟨request, hrequest, hsizes.2 (by decide)⟩, hsome, huntidy, rfl, rfl, rfl,
    hread spacedArguments rfl rfl rfl, hrefused hsome huntidy Surroundings.offline "."⟩

/-- The list and the group are the same text and both agents are there, but the list names another
one, so that the task is refused for an agent that is not there. -/
theorem groups_disagree_spaced :
    Invocation.ofTexts ["coordinate", "--strategy", "hybrid", "--agents", "a, b", "--group",
      "a, b", "Review"] =
        .ok ⟨".", .coordinate .hybrid ["a", " b"] [["a", "b"]] "Review"⟩ ∧
    [["a", "b"]].flatten ≠ ["a", " b"] ∧
    ∃ request, Surroundings.coordinationRequest .hybrid ["a", " b"] [["a", "b"]] "Review" =
      .ok request ∧
      (Session.staffed ["a", "b"]).coordinate (fun _ _ _ _ => (.ok "done", ())) request =
        (.error (.agentNotFound " b"), Session.staffed ["a", "b"]) :=
  ⟨by decide, by decide, _, rfl, rfl⟩

end Command

end Ensemble
