/-
# Groups tile the agents of a request

The groups of a hybrid request are checked before anything happens, and accepted exactly when none
is empty and together they list the agents in order. After that only their sizes are kept. Cutting
the agents, or their seats, at these sizes gives the groups back, so that the run never comes to a
group which the seats do not fill, and every seat is in exactly one group. The groups are run in
their order up to the first that fails, which is the last if none does.
-/

import Mathlib.Data.List.Nodup
import Mathlib.Data.List.SplitLengths
import Ensemble.Proofs.Session.Refusal

namespace Ensemble

/-! ## Cutting lists -/

section Cutting

variable {α β : Type}

/-- Groups are found again by cutting at their sizes. -/
theorem splitLengths_flatten (groups : List (List α)) :
    (groups.map List.length).splitLengths groups.flatten = groups := by
  induction groups with
  | nil => rfl
  | cons group rest ih =>
      rw [List.map_cons, List.flatten_cons, List.splitLengths_cons, List.take_left,
        List.drop_left, ih]

theorem map_splitLengths (f : α → β) (sizes : List Nat) (items : List α) :
    (sizes.splitLengths items).map (List.map f) = sizes.splitLengths (items.map f) := by
  induction sizes generalizing items with
  | nil => rfl
  | cons size sizes ih =>
      rw [List.splitLengths_cons, List.splitLengths_cons, List.map_cons, ih, List.map_take,
        List.map_drop]

/-- When nothing repeats, an item of some groups is in exactly one of them. -/
theorem existsUnique_group {groups : List (List α)} (hdistinct : groups.flatten.Nodup) {item : α}
    (hmem : item ∈ groups.flatten) :
    ∃! group : Nat, ∃ members, groups[group]? = some members ∧ item ∈ members := by
  obtain ⟨members, hgroup, hitem⟩ := List.mem_flatten.1 hmem
  obtain ⟨group, hat⟩ := List.mem_iff_getElem?.1 hgroup
  have hapart := List.pairwise_iff_getElem.1 (List.nodup_flatten.1 hdistinct).2
  refine ⟨group, ⟨members, hat, hitem⟩, ?_⟩
  rintro other ⟨others, hother, hagain⟩
  obtain ⟨hlt, rfl⟩ := List.getElem?_eq_some_iff.1 hat
  obtain ⟨hltOther, rfl⟩ := List.getElem?_eq_some_iff.1 hother
  rcases Nat.lt_trichotomy other group with hbelow | heq | habove
  · exact absurd hitem (hapart other group hltOther hlt hbelow hagain)
  · exact heq
  · exact absurd hagain (hapart group other hlt hltOther habove hitem)

end Cutting

/-! ## Groups that are accepted -/

namespace Grouping

/-- Groups fit some names when none is empty and together they list the names in order. -/
structure Fits (groups : List (List String)) (names : List String) : Prop where
  full : [] ∉ groups
  listed : groups.flatten = names

/-- The groups of names when none are given: the first name alone and the others together. -/
def standardGroups : List String → List (List String)
  | [] => []
  | [name] => [[name]]
  | first :: second :: rest => [[first], second :: rest]

theorem fits_standardGroups (names : List String) : Fits (standardGroups names) names := by
  match names with
  | [] => exact ⟨by simp [standardGroups], rfl⟩
  | [name] => exact ⟨by simp [standardGroups], rfl⟩
  | first :: second :: rest => exact ⟨by simp [standardGroups], by simp [standardGroups]⟩

theorem map_length_standardGroups (names : List String) :
    (standardGroups names).map List.length = standardSizes names.length := by
  match names with
  | [] => rfl
  | [name] => rfl
  | first :: second :: rest => rfl

end Grouping

namespace CoordinationRequest

open Grouping

variable {request : CoordinationRequest} {sizes : List Nat}

/-- The groups that a request asks for. -/
def groups (request : CoordinationRequest) : List (List String) :=
  match request.grouping with
  | none => standardGroups request.agentNames
  | some grouping => grouping.groups

theorem groups_of_ungrouped (h : request.grouping = none) :
    request.groups = standardGroups request.agentNames := by
  rw [groups, h]

theorem groups_of_grouped {grouping : Grouping} (h : request.grouping = some grouping) :
    request.groups = grouping.groups := by
  rw [groups, h]

/-- A request has sizes exactly when its groups fit its agents, and they are the sizes of these
groups. -/
theorem groupSizes_eq_ok_iff :
    request.groupSizes = .ok sizes ↔
      Fits request.groups request.agentNames ∧ request.groups.map List.length = sizes := by
  cases hgrouping : request.grouping with
  | none =>
      rw [groups_of_ungrouped hgrouping, map_length_standardGroups, groupSizes, hgrouping,
        Except.ok.injEq, and_iff_right (fits_standardGroups _)]
  | some grouping =>
      rw [groups_of_grouped hgrouping]
      constructor
      · intro h
        simp only [groupSizes, hgrouping] at h
        split at h
        next => simp at h
        next hfull =>
          split at h
          next hlisted =>
            rw [List.findIdx?_eq_none_iff] at hfull
            refine ⟨⟨fun hmem => ?_, hlisted⟩, Except.ok.inj h⟩
            exact Bool.noConfusion (hfull [] hmem)
          next => simp at h
      · rintro ⟨⟨hfull, hlisted⟩, rfl⟩
        exact groupSizes_of_flatten hgrouping (fun group hmem hnil => hfull (hnil ▸ hmem)) hlisted

/-- A request has sizes exactly when no groups are given, or groups that fit its agents. -/
theorem exists_groupSizes_iff :
    (∃ sizes, request.groupSizes = .ok sizes) ↔ request.grouping = none ∨
      ∃ grouping, request.grouping = some grouping ∧
        Fits grouping.groups request.agentNames := by
  simp only [groupSizes_eq_ok_iff, exists_and_left, exists_eq', and_true]
  cases hgrouping : request.grouping with
  | none =>
      rw [groups_of_ungrouped hgrouping]
      exact iff_of_true (fits_standardGroups _) (Or.inl rfl)
  | some grouping =>
      rw [groups_of_grouped hgrouping]
      constructor
      · intro hfits
        exact Or.inr ⟨grouping, rfl, hfits⟩
      · rintro (hnone | ⟨given, hsome, hfits⟩)
        · exact absurd hnone (Option.some_ne_none grouping)
        · rwa [Option.some.inj hsome]

theorem pos_of_mem_groupSizes (h : request.groupSizes = .ok sizes) : ∀ size ∈ sizes, 0 < size := by
  obtain ⟨hfits, rfl⟩ := groupSizes_eq_ok_iff.1 h
  intro size hsize
  obtain ⟨group, hgroup, rfl⟩ := List.mem_map.1 hsize
  exact List.length_pos_iff.2 fun hnil => hfits.full (hnil ▸ hgroup)

/-- The groups of a request are found again by cutting its agents at the sizes. -/
theorem splitLengths_groupSizes (h : request.groupSizes = .ok sizes) :
    sizes.splitLengths request.agentNames = request.groups := by
  obtain ⟨hfits, rfl⟩ := groupSizes_eq_ok_iff.1 h
  rw [← hfits.listed, splitLengths_flatten]

/-- A request without groups has sizes as if the standard ones were given. -/
theorem groupSizes_of_ungrouped (h : request.grouping = none) :
    request.groupSizes = (request.withGroups (standardGroups request.agentNames)).groupSizes := by
  have hgroups := groups_of_ungrouped h
  have hfits := fits_standardGroups request.agentNames
  rw [groupSizes_eq_ok_iff.2 ⟨hgroups ▸ hfits, rfl⟩, hgroups]
  symm
  exact groupSizes_eq_ok_iff.2 ⟨hfits, rfl⟩

end CoordinationRequest

/-! ## Groups that are run -/

variable {ε σ : Type}

namespace Coordination

variable {responder : Responder ε σ} {request : CoordinationRequest} {limit : Nat}

/-- What comes of running groups of seats one after another, each after the outputs of the groups
before it were put into the common context. Every group of the list was started, and only the last
can have failed. -/
inductive Executes (responder : Responder ε σ) (request : CoordinationRequest) (limit : Nat) :
    List (List (Seat ε)) → Context → Session ε σ → Entries ε σ → Prop
  | done (base : Context) (session : Session ε σ) :
      Executes responder request limit [] base session (.ok [], session)
  | failed {group : List (Seat ε)} {base : Context} {session after : Session ε σ}
      {error : OrchestrationError}
      (ran : runAtOnce responder request base limit group session = (.error error, after)) :
      Executes responder request limit [group] base session (.error error, after)
  | next {group : List (Seat ε)} {later : List (List (Seat ε))} {base : Context}
      {session middle after : Session ε σ} {entries : List CoordinationEntry}
      {result : Except OrchestrationError (List CoordinationEntry)}
      (ran : runAtOnce responder request base limit group session = (.ok entries, middle))
      (others : Executes responder request limit later (withOutputs base entries) middle
        (result, after)) :
      Executes responder request limit (group :: later) base session
        (result.map (entries ++ ·), after)

/-- Groups whose sizes do not exceed the seats are run as they are cut from the seats: all of them
when the run succeeds, and otherwise the first ones. -/
theorem runGroups_executes {sizes : List Nat} {base : Context} {seats : List (Seat ε)}
    {session after : Session ε σ} {result : Except OrchestrationError (List CoordinationEntry)}
    (hfits : sizes.sum ≤ seats.length)
    (h : runGroups responder request limit sizes base seats session = (result, after)) :
    ∃ executed, executed <+: sizes.splitLengths seats ∧
      Executes responder request limit executed base session (result, after) ∧
      ∀ entries, result = .ok entries → executed = sizes.splitLengths seats := by
  induction sizes generalizing base seats session after result with
  | nil =>
      obtain ⟨rfl, rfl⟩ := Prod.mk.inj h
      exact ⟨[], List.nil_prefix, .done base session, fun _ _ => rfl⟩
  | cons size sizes ih =>
      rw [List.sum_cons] at hfits
      have hrest : sizes.sum ≤ (seats.drop size).length := by
        rw [List.length_drop]
        omega
      rw [runGroups, if_neg (by omega)] at h
      rw [List.splitLengths_cons]
      split at h
      next error middle hgroup =>
        obtain ⟨rfl, rfl⟩ := Prod.mk.inj h
        refine ⟨[seats.take size], ?_, .failed hgroup, fun _ hok => by simp at hok⟩
        exact List.prefix_append [seats.take size] _
      next entries middle hgroup =>
        rcases hlater : runGroups responder request limit sizes (withOutputs base entries)
          (seats.drop size) middle with ⟨others, last⟩
        obtain ⟨executed, hprefix, hexecutes, hall⟩ := ih hrest hlater
        have hresult : (others.map (entries ++ ·), last) = (result, after) := by
          rw [hlater] at h
          cases others <;> exact h
        obtain ⟨rfl, rfl⟩ := Prod.mk.inj hresult
        refine ⟨seats.take size :: executed, (List.prefix_cons_inj _).2 hprefix,
          .next hgroup hexecutes, ?_⟩
        intro whole hwhole
        cases others with
        | error error => simp [Except.map] at hwhole
        | ok later => rw [hall later rfl]

/-- Groups of seats are those that a request asks for: they hold its agents, and every seat is in
exactly one of them. -/
structure Tiles (request : CoordinationRequest) (seats : List (Seat ε))
    (parts : List (List (Seat ε))) : Prop where
  names_eq : parts.map (List.map (·.agent.name)) = request.groups
  flatten_eq : parts.flatten = seats
  unique : ∀ seat ∈ seats, ∃! group : Nat, ∃ members, parts[group]? = some members ∧
    seat ∈ members

end Coordination

open Coordination

/-- The seats of a request are tiled by cutting them at the sizes of its groups. -/
theorem SeatsFor.tiles {registry : Registry ε} {request : CoordinationRequest}
    {seats : List (Seat ε)} {sizes : List Nat} (h : SeatsFor registry request.agentNames seats)
    (hsizes : request.groupSizes = .ok sizes) :
    Tiles request seats (sizes.splitLengths seats) := by
  have hsum : seats.length ≤ sizes.sum := by rw [request.sum_groupSizes hsizes, h.length]
  have hflatten := List.flatten_splitLengths seats sizes hsum
  refine ⟨?_, hflatten, fun seat hseat => existsUnique_group ?_ ?_⟩
  · rw [map_splitLengths, h.names_eq, CoordinationRequest.splitLengths_groupSizes hsizes]
  · have hkeys : (seats.map Seat.key).Nodup := h.keys_eq ▸ nodup_resultKeys request.agentNames
    rw [hflatten]
    exact hkeys.of_map Seat.key
  · rw [hflatten]
    exact hseat

/-! ## The check that never fails -/

/-- The sentence for an empty group is not the one for seats that the groups do not fit. -/
theorem Grouping.emptyGroup_ne_otherSeats (index : Nat) : emptyGroup index ≠ otherSeats := by
  intro h
  have hfirst := congrArg (fun text : String => text.toList.head?) h
  simp [emptyGroup, otherSeats] at hfirst

theorem CoordinationRequest.groupSizes_ne_otherSeats (request : CoordinationRequest) :
    request.groupSizes ≠ .error (.invalidStrategy otherSeats) := by
  rw [groupSizes]
  split
  next => simp
  next =>
    split
    next index _ => simpa using Grouping.emptyGroup_ne_otherSeats index
    next =>
      split
      next => simp
      next =>
        have hother : Grouping.otherAgents ≠ otherSeats := by decide
        simpa using hother

namespace Session

theorem seats_ne_otherSeats (registry : Registry ε) (names : List String) :
    seats registry names ≠ .error (.invalidStrategy otherSeats) := by
  intro h
  by_cases hnil : names = []
  · subst hnil
    have hreason : noAgents = otherSeats := by simpa [seats] using h
    exact absurd hreason (by decide)
  · obtain ⟨name, -, herror⟩ := (seats_eq_error_iff hnil).1 h
    exact OrchestrationError.noConfusion herror

/-- A coordinated task never comes to groups that its seats do not fit. -/
theorem coordinate_ne_otherSeats (responder : Responder ε σ) (request : CoordinationRequest)
    (session after : Session ε σ) :
    session.coordinate responder request ≠ (.error (.invalidStrategy otherSeats), after) := by
  intro h
  rcases coordinate_error h with ⟨hseats | hsizes, -⟩ | ⟨agent, source, hcall⟩
  · exact seats_ne_otherSeats _ _ hseats
  · exact request.groupSizes_ne_otherSeats hsizes
  · exact OrchestrationError.noConfusion hcall

/-- A hybrid task whose seats and groups are accepted runs the groups as they are cut from the
seats: all of them when it succeeds, and otherwise the first ones. -/
theorem coordinate_executes {responder : Responder ε σ} {request : CoordinationRequest}
    {session : Session ε σ} {taken : List (Seat ε)} {sizes : List Nat}
    (hhybrid : request.strategy = .hybrid)
    (htaken : seats session.registry request.agentNames = .ok taken)
    (hsizes : request.groupSizes = .ok sizes) :
    ∃ executed result after, executed <+: sizes.splitLengths taken ∧
      Executes responder request session.parallelLimit executed request.sharedContext session
        (result, after) ∧
      (∀ entries, result = .ok entries → executed = sizes.splitLengths taken) ∧
      session.coordinate responder request =
        (result.map fun entries => ⟨request.strategy, request.task, entries⟩, after) := by
  have hfits : sizes.sum ≤ taken.length := by
    rw [request.sum_groupSizes hsizes, (seats_ok htaken).length]
  obtain ⟨result, after, hgroups⟩ : ∃ result after,
      runGroups responder request session.parallelLimit sizes request.sharedContext taken
        session = (result, after) := ⟨_, _, rfl⟩
  have hrun : Coordination.run responder request session.parallelLimit taken session =
      (result, after) := by
    simp only [Coordination.run, hhybrid, hsizes, hgroups]
  obtain ⟨executed, hprefix, hexecutes, hall⟩ := runGroups_executes hfits hgroups
  exact ⟨executed, result, after, hprefix, hexecutes, hall, coordinate_of_run htaken hrun⟩

/-- The groups of a request are accepted exactly when there are none or they fit its agents, and
then their sizes cut the agents into these groups; without groups the first agent is alone and the
others follow together. A coordinated task never comes to groups that its seats do not fit. When it
is hybrid, its seats are tiled by groups, which are run in their order: all of them if the task
succeeds, and otherwise up to the one that fails. -/
theorem coordinate_groups_tile (responder : Responder ε σ) (request : CoordinationRequest)
    (session : Session ε σ) :
    ((∃ sizes, request.groupSizes = .ok sizes) ↔ request.grouping = none ∨
      ∃ grouping, request.grouping = some grouping ∧
        Grouping.Fits grouping.groups request.agentNames) ∧
    (∀ sizes, request.groupSizes = .ok sizes → (∀ size ∈ sizes, 0 < size) ∧
      sizes.sum = request.agentNames.length ∧ ∀ grouping, request.grouping = some grouping →
        sizes.splitLengths request.agentNames = grouping.groups) ∧
    (request.grouping = none → request.groupSizes =
      (request.withGroups (Grouping.standardGroups request.agentNames)).groupSizes) ∧
    (∀ after,
      session.coordinate responder request ≠ (.error (.invalidStrategy otherSeats), after)) ∧
    ∀ taken sizes, request.strategy = .hybrid →
      seats session.registry request.agentNames = .ok taken → request.groupSizes = .ok sizes →
      Tiles request taken (sizes.splitLengths taken) ∧
      ∃ executed result after, executed <+: sizes.splitLengths taken ∧
        Executes responder request session.parallelLimit executed request.sharedContext session
          (result, after) ∧
        (∀ entries, result = .ok entries → executed = sizes.splitLengths taken) ∧
        session.coordinate responder request =
          (result.map fun entries => ⟨request.strategy, request.task, entries⟩, after) := by
  refine ⟨CoordinationRequest.exists_groupSizes_iff, ?_,
    CoordinationRequest.groupSizes_of_ungrouped,
    coordinate_ne_otherSeats responder request session, ?_⟩
  · intro sizes hsizes
    refine ⟨CoordinationRequest.pos_of_mem_groupSizes hsizes, request.sum_groupSizes hsizes, ?_⟩
    intro grouping hgrouping
    rw [CoordinationRequest.splitLengths_groupSizes hsizes,
      CoordinationRequest.groups_of_grouped hgrouping]
  · intro taken sizes hhybrid htaken hsizes
    exact ⟨(seats_ok htaken).tiles hsizes, coordinate_executes hhybrid htaken hsizes⟩

/-- A request that names one agent twice, in two groups. -/
def regrouped : CoordinationRequest :=
  (CoordinationRequest.new "Review" ["a", "b", "a"] .hybrid).withGroups [["a", "b"], ["a"]]

/-- Of the seats of `regrouped`, both groups are run and hold every seat once, although two seats
have the same agent. -/
theorem coordinate_groups_tile_regrouped :
    ∃ taken, ∃ executed : List (List (Seat Unit)), ∃ report after,
      seats (staffed ["a", "b"]).registry regrouped.agentNames = .ok taken ∧
      regrouped.strategy = .hybrid ∧ regrouped.groupSizes = .ok [2, 1] ∧
      (staffed ["a", "b"]).coordinate (fun _ _ _ _ => (.ok "done", ())) regrouped =
        (.ok report, after) ∧
      executed.map (List.map (·.agent.name)) = [["a", "b"], ["a"]] ∧
      ∀ seat ∈ taken, ∃! group : Nat, ∃ members, executed[group]? = some members ∧
        seat ∈ members := by
  obtain ⟨taken, htaken⟩ : ∃ taken,
      seats (staffed ["a", "b"]).registry regrouped.agentNames = .ok taken := ⟨_, rfl⟩
  obtain ⟨report, after, hran⟩ : ∃ report after,
      (staffed ["a", "b"]).coordinate (fun _ _ _ _ => (.ok "done", ())) regrouped =
        (.ok report, after) := ⟨_, _, rfl⟩
  have hsizes : regrouped.groupSizes = .ok [2, 1] := by decide
  obtain ⟨-, -, -, -, hhybrid⟩ :=
    coordinate_groups_tile (fun _ _ _ _ => (.ok "done", ())) regrouped (staffed ["a", "b"])
  obtain ⟨htiles, executed, result, last, -, -, hall, hcoordinate⟩ :=
    hhybrid taken [2, 1] rfl htaken hsizes
  rw [hran] at hcoordinate
  obtain ⟨hreport, -⟩ := Prod.mk.inj hcoordinate
  cases result with
  | error error => simp [Except.map] at hreport
  | ok entries =>
      rw [← hall entries rfl] at htiles
      exact ⟨taken, executed, report, after, htaken, rfl, hsizes, hran, htiles.names_eq,
        htiles.unique⟩

end Session

end Ensemble
