/-
# How results flow between the groups of a hybrid run

In a hybrid run a call is prompted with the shared context, the outputs of exactly the groups
before its own on top of it, and the context of its own agent on top of both. Keys of different
positions differ, so no output hides another. The outputs of the same group and of later ones do
not matter: two runs that agree before a group send the same prompts in it.
-/

import Ensemble.Proofs.Agent.Prompt
import Ensemble.Proofs.Coordination.Alignment

namespace Ensemble

variable {ε σ : Type}

namespace Coordination

/-! ## Positions and groups -/

/-- Every position lies in a group. -/
theorem exists_inGroup {sizes : List Nat} {position : Nat} (h : position < sizes.sum) :
    ∃ group, InGroup sizes group position := by
  induction sizes generalizing position with
  | nil => simp at h
  | cons size sizes ih =>
      rw [List.sum_cons] at h
      by_cases hfirst : position < size
      · refine ⟨0, ?_, ?_⟩
        · simp
        · rw [groupStart_cons_succ, groupStart_zero]
          exact hfirst
      · have hrest : position - size < sizes.sum := by omega
        obtain ⟨group, hstart, hend⟩ := ih hrest
        refine ⟨group + 1, ?_, ?_⟩
        · rw [groupStart_cons_succ]
          omega
        · rw [groupStart_cons_succ]
          omega

/-- A position in a group is one of those that the groups cover. -/
theorem InGroup.lt_sum {sizes : List Nat} {group position : Nat}
    (h : InGroup sizes group position) : position < sizes.sum := by
  have hsum := congrArg List.sum (List.take_append_drop (group + 1) sizes)
  rw [List.sum_append] at hsum
  have hend : position < (sizes.take (group + 1)).sum := h.2
  omega

/-! ## Outputs under keys -/

/-- The outputs of entries under their keys. -/
def outputsOf (entries : List CoordinationEntry) : Context :=
  .ofList (entries.map fun entry => (entry.key, Datum.text entry.output))

/-- With distinct keys the outputs are found under their keys, and nothing else is found. -/
theorem get?_outputsOf_eq_some_iff {entries : List CoordinationEntry}
    (hdistinct : (entries.map CoordinationEntry.key).Nodup) {key : String} {datum : Datum} :
    (outputsOf entries).get? key = some datum ↔
      ∃ entry ∈ entries, entry.key = key ∧ datum = .text entry.output := by
  rw [outputsOf, Dictionary.get?_ofList_eq_some_iff (by simpa [Function.comp_def] using hdistinct)]
  simp only [List.mem_map, Prod.mk.injEq]
  refine exists_congr fun entry => and_congr_right fun _ => and_congr_right fun _ => eq_comm

/-- To add outputs with distinct keys to a context is to lay them over it. -/
theorem withOutputs_eq_overlay (context : Context) {entries : List CoordinationEntry}
    (hdistinct : (entries.map CoordinationEntry.key).Nodup) :
    withOutputs context entries = context.overlay (some (outputsOf entries)) :=
  (Dictionary.merge_ofList context (by simpa [Function.comp_def] using hdistinct)).symm

theorem eq_of_columns {entry entry' : Option CoordinationEntry}
    (hkey : entry.map CoordinationEntry.key = entry'.map CoordinationEntry.key)
    (hagent : entry.map CoordinationEntry.agent = entry'.map CoordinationEntry.agent)
    (houtput : entry.map CoordinationEntry.output = entry'.map CoordinationEntry.output) :
    entry = entry' := by
  cases entry with
  | none => exact (Option.map_eq_none_iff.1 hkey.symm).symm
  | some entry =>
      obtain ⟨other, rfl, hsame⟩ := Option.map_eq_some_iff.1 hkey.symm
      obtain ⟨key, agent, output⟩ := entry
      obtain ⟨key', agent', output'⟩ := other
      simp only [Option.map_some, Option.some.injEq] at hkey hagent houtput
      rw [hkey, hagent, houtput]

/-- Entries of the same keys and agents whose outputs agree before a position are the same before
it. -/
theorem take_eq_take {entries entries' : List CoordinationEntry}
    (hkeys : entries.map CoordinationEntry.key = entries'.map CoordinationEntry.key)
    (hagents : entries.map CoordinationEntry.agent = entries'.map CoordinationEntry.agent)
    {start : Nat} (hagree : ∀ earlier < start,
      entries[earlier]?.map CoordinationEntry.output =
        entries'[earlier]?.map CoordinationEntry.output) :
    entries.take start = entries'.take start := by
  apply List.ext_getElem?
  intro position
  rw [List.getElem?_take, List.getElem?_take]
  split
  next hlt =>
    have hkey := congrArg (fun keys : List String => keys[position]?) hkeys
    have hagent := congrArg (fun agents : List String => agents[position]?) hagents
    simp only [List.getElem?_map] at hkey hagent
    exact eq_of_columns hkey hagent (hagree position hlt)
  next => rfl

end Coordination

/-! ## The calls of a run -/

/-- The call that was made at a position between two sessions. -/
def Session.callAt (before after : Session ε σ) (position : Nat) : Option (Call ε) :=
  after.calls[before.calls.length + position]?

/-- Exchanges make their calls in their order. -/
theorem Session.Conducts.callAt {responder : Responder ε σ} {before after : Session ε σ}
    {exchanges : List (Exchange ε)} (h : before.Conducts responder exchanges after)
    (position : Nat) :
    before.callAt after position = exchanges[position]?.map Exchange.call := by
  rw [Session.callAt, h.calls, List.getElem?_append_right (Nat.le_add_right _ _),
    Nat.add_sub_cancel_left, List.getElem?_map]

namespace Session

open Coordination

variable {responder : Responder ε σ} {request : CoordinationRequest}
  {session after : Session ε σ} {report : CoordinationReport} {sizes : List Nat}

/-- The context that an agent sees on top of the outputs of some entries. -/
def contextOver (request : CoordinationRequest) (entries : List CoordinationEntry)
    (name : String) : Context :=
  (request.sharedContext.overlay (some (outputsOf entries))).overlay
    (request.agentContexts.get? name)

/-- In a hybrid run that succeeds the call at a position is that of its registered agent, which
sees the outputs of the groups before. -/
theorem callAt_of_hybrid (hstrategy : request.strategy = .hybrid)
    (hsizes : request.groupSizes = .ok sizes)
    (h : session.coordinate responder request = (.ok report, after)) {group position : Nat}
    {name : String} (hgroup : InGroup sizes group position)
    (hname : request.agentNames[position]? = some name) :
    ∃ agent entry, session.registry.find? name = some agent ∧
      report.entries[position]? = some entry ∧
      session.callAt after position = some ⟨agent.endpoint, agent.prompt request.task
        (some (contextOver request (report.entries.take (groupStart sizes group)) name)), none,
        .ok entry.output⟩ := by
  obtain ⟨taken, hseats, hrun⟩ := coordinate_ok h
  rw [Coordination.run, hstrategy] at hrun
  simp only [hsizes] at hrun
  obtain ⟨turns, hturns, -, hbases⟩ := runGroups_ok hrun
  rw [request.sum_groupSizes hsizes, ← hseats.length, List.take_length] at hturns
  -- The turn at the position is that of the agent that is named there.
  rw [← hseats.names_eq, List.getElem?_map, Option.map_eq_some_iff] at hname
  obtain ⟨seat, hseat, rfl⟩ := hname
  have hfound := hseats.found seat (List.mem_of_getElem? hseat)
  rw [← hturns.seats_eq, List.getElem?_map, Option.map_eq_some_iff] at hseat
  obtain ⟨turn, hturn, rfl⟩ := hseat
  -- What it saw in common with its group are the outputs before the group, under distinct keys.
  have hdistinct : ((report.entries.take (groupStart sizes group)).map
      CoordinationEntry.key).Nodup := by
    rw [List.map_take, hturns.keys_eq hseats]
    exact (nodup_resultKeys request.agentNames).sublist (List.take_sublist _ _)
  have hbase := hbases group position turn hgroup hturn
  rw [withOutputs_eq_overlay _ hdistinct] at hbase
  refine ⟨turn.seat.agent, turn.entry, hfound, ?_, ?_⟩
  · rw [← hturns.entries_eq, List.getElem?_map, hturn, Option.map_some]
  · rw [hturns.conducts.callAt, List.getElem?_map, hturn, contextOver, ← hbase]
    rfl

/-- What an agent sees in a group that starts at a position: `results` are the outputs of exactly
the earlier positions, on top of the shared context and under the agent's own. So an earlier
output is there unless the agent's own context declares its key. -/
structure SeesBefore (request : CoordinationRequest) (entries : List CoordinationEntry)
    (start : Nat) (name : String) (results seen : Context) : Prop where
  results_iff : ∀ key datum, results.get? key = some datum ↔
    ∃ earlier < start, ∃ entry, entries[earlier]? = some entry ∧ entry.key = key ∧
      datum = .text entry.output
  seen_eq : seen = (request.sharedContext.overlay (some results)).overlay
    (request.agentContexts.get? name)
  kept : ∀ earlier < start, ∀ entry, entries[earlier]? = some entry →
    (request.agentContexts.get? name).bind (·.get? entry.key) = none →
    seen.get? entry.key = some (.text entry.output)

/-- An agent sees the entries before a position if their keys are distinct. -/
theorem seesBefore_contextOver {entries : List CoordinationEntry}
    (hdistinct : (entries.map CoordinationEntry.key).Nodup) (start : Nat) (name : String) :
    SeesBefore request entries start name (outputsOf (entries.take start))
      (contextOver request (entries.take start) name) := by
  have hearlier : ((entries.take start).map CoordinationEntry.key).Nodup := by
    rw [List.map_take]
    exact hdistinct.sublist (List.take_sublist _ _)
  have hresults : ∀ key datum, (outputsOf (entries.take start)).get? key = some datum ↔
      ∃ earlier < start, ∃ entry, entries[earlier]? = some entry ∧ entry.key = key ∧
        datum = .text entry.output := by
    intro key datum
    rw [get?_outputsOf_eq_some_iff hearlier]
    constructor
    · rintro ⟨entry, hmem, hentry⟩
      obtain ⟨earlier, hat⟩ := List.mem_iff_getElem?.1 hmem
      rw [List.getElem?_take] at hat
      split at hat
      next hlt => exact ⟨earlier, hlt, entry, hat, hentry⟩
      next => simp at hat
    · rintro ⟨earlier, hlt, entry, hat, hentry⟩
      refine ⟨entry, ?_, hentry⟩
      rw [← List.getElem?_take_of_lt hlt] at hat
      exact List.mem_of_getElem? hat
  refine ⟨hresults, rfl, ?_⟩
  intro earlier hlt entry hat hopen
  have hresult := (hresults entry.key (.text entry.output)).2 ⟨earlier, hlt, entry, hat, rfl, rfl⟩
  rw [contextOver, Context.get?_overlay, hopen, Option.none_or, Context.get?_overlay,
    Option.bind_some, hresult, Option.some_or]

/-- Two hybrid runs of a request with the same agents whose outputs agree before a group send the
same prompts in the group. -/
theorem prompt_eq_of_agree (hstrategy : request.strategy = .hybrid)
    (hsizes : request.groupSizes = .ok sizes)
    (h : session.coordinate responder request = (.ok report, after)) {σ' : Type}
    {responder' : Responder ε σ'} {session' after' : Session ε σ'} {report' : CoordinationReport}
    (hregistry : session'.registry = session.registry)
    (h' : session'.coordinate responder' request = (.ok report', after')) {group position : Nat}
    (hgroup : InGroup sizes group position)
    (hagree : ∀ earlier < groupStart sizes group,
      report.entries[earlier]?.map CoordinationEntry.output =
        report'.entries[earlier]?.map CoordinationEntry.output) :
    (session.callAt after position).map Call.prompt =
      (session'.callAt after' position).map Call.prompt := by
  obtain ⟨hkeys, hagents⟩ := coordinate_entries h
  obtain ⟨hkeys', hagents'⟩ := coordinate_entries h'
  have htake := take_eq_take (hkeys.trans hkeys'.symm) (hagents.trans hagents'.symm) hagree
  have hlt := hgroup.lt_sum
  rw [request.sum_groupSizes hsizes] at hlt
  have hname := List.getElem?_eq_getElem hlt
  obtain ⟨agent, _, hfound, -, hcall⟩ := callAt_of_hybrid hstrategy hsizes h hgroup hname
  obtain ⟨agent', _, hfound', -, hcall'⟩ := callAt_of_hybrid hstrategy hsizes h' hgroup hname
  rw [hregistry, hfound, Option.some.injEq] at hfound'
  rw [hcall, hcall', htake, hfound', Option.map_some, Option.map_some]

/-- In a hybrid run that succeeds every position lies in a group, and its call shows the agent the
outputs of exactly the earlier groups, under their own keys, between the shared context and the
agent's own. The outputs from the agent's group on make no difference to its prompt. -/
theorem coordinate_hybrid_dataFlow (hstrategy : request.strategy = .hybrid)
    (hsizes : request.groupSizes = .ok sizes)
    (h : session.coordinate responder request = (.ok report, after)) :
    report.entries.map CoordinationEntry.key = resultKeys request.agentNames ∧
    (∀ position < request.agentNames.length, ∃ group, InGroup sizes group position) ∧
    (∀ group position name, InGroup sizes group position →
      request.agentNames[position]? = some name →
      ∃ agent entry results seen, session.registry.find? name = some agent ∧
        report.entries[position]? = some entry ∧
        SeesBefore request report.entries (groupStart sizes group) name results seen ∧
        session.callAt after position = some ⟨agent.endpoint,
          agent.prompt request.task (some seen), none, .ok entry.output⟩) ∧
    ∀ {σ' : Type} (responder' : Responder ε σ') (session' after' : Session ε σ')
      (report' : CoordinationReport), session'.registry = session.registry →
      session'.coordinate responder' request = (.ok report', after') →
      ∀ group position, InGroup sizes group position →
        (∀ earlier < groupStart sizes group,
          report.entries[earlier]?.map CoordinationEntry.output =
            report'.entries[earlier]?.map CoordinationEntry.output) →
        (session.callAt after position).map Call.prompt =
          (session'.callAt after' position).map Call.prompt := by
  obtain ⟨hkeys, -⟩ := coordinate_entries h
  have hdistinct : (report.entries.map CoordinationEntry.key).Nodup :=
    hkeys ▸ nodup_resultKeys request.agentNames
  refine ⟨hkeys, fun position hlt => ?_, ?_, ?_⟩
  · rw [← request.sum_groupSizes hsizes] at hlt
    exact exists_inGroup hlt
  · intro group position name hgroup hname
    obtain ⟨agent, entry, hfound, hentry, hcall⟩ :=
      callAt_of_hybrid hstrategy hsizes h hgroup hname
    exact ⟨agent, entry, _, _, hfound, hentry, seesBefore_contextOver hdistinct _ name, hcall⟩
  · intro σ' responder' session' after' report' hregistry h' group position hgroup hagree
    exact prompt_eq_of_agree hstrategy hsizes h hregistry h' hgroup hagree

theorem coordinate_hybrid_dataFlow_standard :
    ∃ report after first, ∃ agent : Agent Unit, ∃ seen : Context,
      (staffed ["a", "b"]).coordinate (fun _ _ _ _ => (.ok "done", ()))
        (.new "Review" ["a", "b", "a"] .hybrid) = (.ok report, after) ∧
      report.entries[0]? = some first ∧ first.key = "a#0" ∧
      ((staffed ["a", "b"]).callAt after 2).map Call.prompt =
        some (agent.prompt "Review" (some seen)) ∧
      seen.get? "a#0" = some (.text first.output) := by
  obtain ⟨report, after, hran⟩ : ∃ report after,
      (staffed ["a", "b"]).coordinate (fun _ _ _ _ => (.ok "done", ()))
        (.new "Review" ["a", "b", "a"] .hybrid) = (.ok report, after) := ⟨_, _, rfl⟩
  have hsizes : (CoordinationRequest.new "Review" ["a", "b", "a"] .hybrid).groupSizes =
      .ok [1, 2] := rfl
  obtain ⟨hkeys, -, hflow, -⟩ := coordinate_hybrid_dataFlow rfl hsizes hran
  have hgroup : InGroup [1, 2] 1 2 := ⟨by decide, by decide⟩
  obtain ⟨agent, _, _, seen, -, -, hsees, hcall⟩ := hflow 1 2 "a" hgroup rfl
  have hkey : report.entries[0]?.map CoordinationEntry.key = some "a#0" := by
    rw [← List.getElem?_map, hkeys]
    decide
  obtain ⟨first, hfirst, hname⟩ := Option.map_eq_some_iff.1 hkey
  refine ⟨report, after, first, agent, seen, hran, hfirst, hname, ?_, ?_⟩
  · rw [hcall, Option.map_some]
    rfl
  · rw [← hname]
    exact hsees.kept 0 (by decide) first hfirst rfl

end Session

end Ensemble
