/-
# When a generated key shadows an agent

The key that is generated for an occurrence of a repeated name is kept apart from the names that
occur once, but not from other names that are repeated themselves. So the key may be the name of
another agent of the list, and an output that is looked up under that name is not that agent's.
This module says exactly when: the name is repeated, and it is the first candidate of some
position that no name occurring once has taken.
-/

import Mathlib.Data.List.Nodup
import Ensemble.Proofs.Coordination.Alignment
import Ensemble.Proofs.Dictionary

namespace Ensemble

variable {ε σ : Type}

open ResultKeys

/-- A name is shadowed when it is repeated, and for some position of a repeated name it is the
first candidate that is no name occurring once. -/
def IsShadowed (names : List String) (other : String) : Prop :=
  isRepeated names other = true ∧ ∃ (position : Nat) (name : String) (counter : Nat),
    names[position]? = some name ∧ isRepeated names name = true ∧
    other = candidate name position counter ∧
    ∀ earlier < counter, candidate name position earlier ∈ singles names

/-- A listed name is shadowed exactly when it is the key of an occurrence of a repeated name. -/
theorem isShadowed_iff {names : List String} {other : String} (hlisted : other ∈ names) :
    IsShadowed names other ↔ ∃ (position : Nat) (name : String),
      names[position]? = some name ∧ isRepeated names name = true ∧
      (resultKeys names)[position]? = some other := by
  constructor
  · rintro ⟨hother, position, name, counter, hname, hrepeated, hcandidate, hbelow⟩
    have hfree : other ∉ singles names := by
      intro hsingle
      rw [(mem_singles.1 hsingle).2] at hother
      exact Bool.noConfusion hother
    have hkeyAt : IsKeyAt names position name other := by
      rw [IsKeyAt, if_pos hrepeated]
      exact ⟨counter, hcandidate, hfree, hbelow⟩
    obtain ⟨hlt, -⟩ := List.getElem?_eq_some_iff.1 hname
    rw [← length_resultKeys] at hlt
    have hkey := List.getElem?_eq_getElem hlt
    rw [(isKeyAt_resultKeys hname hkey).unique hkeyAt] at hkey
    exact ⟨position, name, hname, hrepeated, hkey⟩
  · rintro ⟨position, name, hname, hrepeated, hkey⟩
    have hkeyAt := isKeyAt_resultKeys hname hkey
    rw [IsKeyAt, if_pos hrepeated] at hkeyAt
    obtain ⟨counter, hcandidate, hfree, hbelow⟩ := hkeyAt
    have hother : isRepeated names other = true := by
      by_cases hsingle : isRepeated names other = true
      · exact hsingle
      · exact absurd (mem_singles.2 ⟨hlisted, by simpa using hsingle⟩) hfree
    exact ⟨hother, position, name, counter, hname, hrepeated, hcandidate, hbelow⟩

/-- With distinct keys the output under a key is that of the one entry with the key. -/
theorem CoordinationReport.get?_eq_some_iff {report : CoordinationReport}
    (hdistinct : (report.entries.map CoordinationEntry.key).Nodup) {key output : String} :
    report.get? key = some output ↔
      ∃ entry ∈ report.entries, entry.key = key ∧ entry.output = output := by
  rw [get?, Option.map_eq_some_iff]
  constructor
  · rintro ⟨entry, hfind, houtput⟩
    obtain ⟨hmem, hkey⟩ := (find?_key_eq_some_iff hdistinct).1 hfind
    exact ⟨entry, hmem, hkey, houtput⟩
  · rintro ⟨entry, hmem, hkey, houtput⟩
    exact ⟨entry, (find?_key_eq_some_iff hdistinct).2 ⟨hmem, hkey⟩, houtput⟩

namespace Session

variable {responder : Responder ε σ} {request : CoordinationRequest}
  {session after : Session ε σ} {report : CoordinationReport}

/-- An entry stands at a position with its agent and its key. -/
theorem position_of_entry (h : session.coordinate responder request = (.ok report, after))
    {entry : CoordinationEntry} (hmem : entry ∈ report.entries) :
    ∃ position : Nat, request.agentNames[position]? = some entry.agent ∧
      (resultKeys request.agentNames)[position]? = some entry.key := by
  obtain ⟨hkeys, hagents⟩ := coordinate_entries h
  obtain ⟨position, hentry⟩ := List.mem_iff_getElem?.1 hmem
  refine ⟨position, ?_, ?_⟩
  · rw [← hagents, List.getElem?_map, hentry, Option.map_some]
  · rw [← hkeys, List.getElem?_map, hentry, Option.map_some]

/-- A name that is not shadowed is the key of its own agent only. -/
theorem agent_of_not_isShadowed (h : session.coordinate responder request = (.ok report, after))
    {other : String} (hlisted : other ∈ request.agentNames)
    (hopen : ¬ IsShadowed request.agentNames other) {entry : CoordinationEntry}
    (hmem : entry ∈ report.entries) (hkey : entry.key = other) : entry.agent = other := by
  obtain ⟨position, hagent, hat⟩ := position_of_entry h hmem
  rw [hkey] at hat
  by_cases hrepeated : isRepeated request.agentNames entry.agent = true
  · exact absurd ((isShadowed_iff hlisted).2 ⟨position, entry.agent, hagent, hrepeated, hat⟩) hopen
  · have hkeyAt := isKeyAt_resultKeys hagent hat
    rw [IsKeyAt, if_neg hrepeated] at hkeyAt
    exact hkeyAt.symm

/-- A name that is shadowed is the key of another agent. -/
theorem exists_entry_of_isShadowed
    (h : session.coordinate responder request = (.ok report, after)) {other : String}
    (hshadowed : IsShadowed request.agentNames other) (hlisted : other ∈ request.agentNames) :
    ∃ entry ∈ report.entries, entry.key = other ∧ entry.agent ≠ other := by
  obtain ⟨hkeys, hagents⟩ := coordinate_entries h
  obtain ⟨position, name, hname, hrepeated, hkey⟩ := (isShadowed_iff hlisted).1 hshadowed
  have hkeyAt := isKeyAt_resultKeys hname hkey
  rw [IsKeyAt, if_pos hrepeated] at hkeyAt
  obtain ⟨counter, hcandidate, -, -⟩ := hkeyAt
  rw [← hkeys, List.getElem?_map, Option.map_eq_some_iff] at hkey
  obtain ⟨entry, hentry, hkey⟩ := hkey
  rw [← hagents, List.getElem?_map, hentry, Option.map_some, Option.some.injEq] at hname
  refine ⟨entry, List.mem_of_getElem? hentry, hkey, ?_⟩
  rw [hname, hcandidate]
  exact (candidate_ne_name name position counter).symm

end Session

/-- Generated keys keep clear of a listed name, and the output under it is that agent's own,
exactly when the name is not shadowed. -/
theorem clear_iff_not_isShadowed {names : List String} {other : String}
    (hlisted : other ∈ names) :
    ((∀ (position : Nat) (name : String), names[position]? = some name →
      isRepeated names name = true → (resultKeys names)[position]? ≠ some other) ↔
      ¬ IsShadowed names other) ∧
    ∀ (responder : Responder ε σ) (request : CoordinationRequest) (session after : Session ε σ)
      (report : CoordinationReport), request.agentNames = names →
      session.coordinate responder request = (.ok report, after) →
      ((∀ output, report.get? other = some output → ∃ entry ∈ report.entries,
        entry.key = other ∧ entry.agent = other ∧ entry.output = output) ↔
        ¬ IsShadowed names other) := by
  constructor
  · rw [isShadowed_iff hlisted]
    constructor
    · rintro hclear ⟨position, name, hname, hrepeated, hkey⟩
      exact hclear position name hname hrepeated hkey
    · intro hnone position name hname hrepeated hkey
      exact hnone ⟨position, name, hname, hrepeated, hkey⟩
  · rintro responder request session after report rfl h
    have hdistinct : (report.entries.map CoordinationEntry.key).Nodup := by
      rw [(Session.coordinate_entries h).1]
      exact nodup_resultKeys request.agentNames
    constructor
    · intro hown hshadowed
      obtain ⟨entry, hmem, hkey, hagent⟩ :=
        Session.exists_entry_of_isShadowed h hshadowed hlisted
      obtain ⟨own, hown, hownKey, hownAgent, -⟩ := hown entry.output
        ((report.get?_eq_some_iff hdistinct).2 ⟨entry, hmem, hkey, rfl⟩)
      have hsame : entry = own :=
        List.inj_on_of_nodup_map hdistinct hmem hown (hkey.trans hownKey.symm)
      exact hagent (hsame ▸ hownAgent)
    · intro hopen output hget
      obtain ⟨entry, hmem, hkey, houtput⟩ := (report.get?_eq_some_iff hdistinct).1 hget
      exact ⟨entry, hmem, hkey, Session.agent_of_not_isShadowed h hlisted hopen hmem hkey,
        houtput⟩

/-- Of two repeated names one may be the key that is generated for the other. -/
theorem resultKeys_shadow_repeated :
    resultKeys ["a", "a", "a#0", "a#0"] = ["a#0", "a#1", "a#0#2", "a#0#3"] ∧
      isRepeated ["a", "a", "a#0", "a#0"] "a" = true ∧ "a#0" ∈ ["a", "a", "a#0", "a#0"] := by
  decide

theorem clear_iff_not_isShadowed_repeated :
    "a#0" ∈ ["a", "a", "a#0", "a#0"] ∧ ∃ report after,
      (Session.staffed ["a", "a#0"]).coordinate (fun _ _ _ _ => (.ok "done", ()))
        (.new "Review" ["a", "a", "a#0", "a#0"] .sequential) = (.ok report, after) ∧
      ¬ ∀ output, report.get? "a#0" = some output → ∃ entry ∈ report.entries,
        entry.key = "a#0" ∧ entry.agent = "a#0" ∧ entry.output = output := by
  have hlisted : "a#0" ∈ ["a", "a", "a#0", "a#0"] := by decide
  have hshadowed : IsShadowed ["a", "a", "a#0", "a#0"] "a#0" := by
    refine ⟨by decide, 0, "a", 0, rfl, by decide, rfl, ?_⟩
    intro earlier hlt
    exact absurd hlt (Nat.not_lt_zero earlier)
  obtain ⟨report, after, hran⟩ : ∃ report after,
      (Session.staffed ["a", "a#0"]).coordinate (fun _ _ _ _ => (.ok "done", ()))
        (.new "Review" ["a", "a", "a#0", "a#0"] .sequential) = (.ok report, after) := ⟨_, _, rfl⟩
  refine ⟨hlisted, report, after, hran, fun hown => ?_⟩
  exact ((clear_iff_not_isShadowed hlisted).2 _ _ _ _ _ rfl hran).1 hown hshadowed

end Ensemble
