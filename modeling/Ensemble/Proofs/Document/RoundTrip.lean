/-
# What is written is read back

Requests, reports, workflows, outcomes, events and subtasks are read back from the values that they
are written as, also when the members of these values are put in order. What is absent is not
written and read as absent; an empty context is not absent.
-/

import Ensemble.Agent.Subtask
import Ensemble.Coordination.Report
import Ensemble.Coordination.Request
import Ensemble.Proofs.Document.Steadiness
import Ensemble.Proofs.Workflow.Moment
import Ensemble.Proofs.Workflow.RunId
import Ensemble.Workflow.Definition
import Ensemble.Workflow.Event
import Ensemble.Workflow.Report

namespace Ensemble

/-- A value is read back from what it is written as, as written and with the members in order. -/
def RoundTrips {α : Type} (encode : α → Value) (decode : Value → Decoded α) (value : α) : Prop :=
  decode (encode value) = .ok value ∧ decode (encode value).normalize = .ok value

theorem Value.Steady.roundTrips {α : Type} {encode : α → Value} {decode : Value → Decoded α}
    (h : Value.Steady decode) {value : α} (hread : decode (encode value) = .ok value) :
    RoundTrips encode decode value :=
  ⟨hread, h hread⟩

/-! ## Coordination -/

theorem Strategy.decode_encode (strategy : Strategy) :
    Strategy.decode strategy.encode = .ok strategy := by
  cases strategy <;> rfl

theorem Strategy.steady_decode : Value.Steady Strategy.decode :=
  Value.steady_decodeVariant named .direct

namespace Grouping

theorem decode_encode (grouping : Grouping) : decode grouping.encode = .ok grouping := by
  obtain ⟨groups⟩ := grouping
  apply Fields.decode_record
  exact .both (.none _) (.required rfl (Value.decodeList_map Value.decodeList_text))

theorem steady_decode : Value.Steady decode :=
  ((Fields.steady_none _).both
    (Fields.steady_required _ Value.steady_decodeText.list.list)).decode _ _

end Grouping

namespace CoordinationRequest

/-- Contexts that are not written are none. -/
theorem eq_empty_of_isEmpty {contexts : Dictionary Context} (h : contexts.isEmpty = true) :
    contexts = ∅ :=
  Dictionary.ext (List.isEmpty_iff.1 h)

theorem member?_contexts (contexts : Dictionary Context) (name : String) :
    Value.member? (if contexts.isEmpty then [] else [("agent-context", encodeContexts contexts)])
        name =
      if "agent-context" = name ∧ contexts.isEmpty = false then some (encodeContexts contexts)
      else none := by
  cases contexts.isEmpty with
  | true => simp
  | false => simp [Value.member?_cons]

theorem decode_encode (request : CoordinationRequest) : decode request.encode = .ok request := by
  obtain ⟨task, agentNames, strategy, context, contexts, grouping⟩ := request
  have hcontexts : (Fields.optional "agent-context" (Value.decodeDictionary Context.decode)
      ∅).Reads
      ([("task", .text task), ("agent-names", .list (agentNames.map Value.text)),
          ("strategy", strategy.encode)] ++
        Value.optionalMember "context" Context.encode context ++
        (if contexts.isEmpty then [] else [("agent-context", encodeContexts contexts)]) ++
        Value.optionalMember "grouping" Grouping.encode grouping) contexts := by
    cases hempty : contexts.isEmpty with
    | true =>
        obtain rfl := eq_empty_of_isEmpty hempty
        apply Fields.Reads.missing
        simp [Value.member?_append, Value.member?_cons, Value.member?_optionalMember]
    | false =>
        refine .optional ?_ (Value.decodeDictionary_map contexts Context.decode_encode)
        simp [Value.member?_append, Value.member?_cons, Value.member?_optionalMember,
          encodeContexts]
  apply Fields.decode_record
  refine .both (.both (.both (.both (.both (.both (.none _)
    (.required ?_ (Value.decodeText_text task))) (.required ?_ (Value.decodeList_text agentNames)))
    (.required ?_ strategy.decode_encode))
    (.perhaps ?_ fun present => ⟨present.decode_encode, fun h => by cases h⟩)) hcontexts)
    (.perhaps ?_ fun present => ⟨present.decode_encode, fun h => by cases h⟩)
  all_goals
    simp [Value.member?_append, Value.member?_cons, Value.member?_optionalMember,
      member?_contexts]

theorem steady_decode : Value.Steady decode :=
  (((((((Fields.steady_none _).both (Fields.steady_required _ Value.steady_decodeText)).both
    (Fields.steady_required _ Value.steady_decodeText.list)).both
    (Fields.steady_required _ Strategy.steady_decode)).both
    (Fields.steady_optional _ _ Value.steady_context.optional)).both
    (Fields.steady_optional _ _ Value.steady_context.dictionary)).both
    (Fields.steady_optional _ _ Grouping.steady_decode.optional)).decode _ _

end CoordinationRequest

namespace CoordinationEntry

theorem decode_encode (entry : CoordinationEntry) : decode entry.encode = .ok entry := by
  obtain ⟨key, agent, output⟩ := entry
  apply Fields.decode_record
  exact .both (.both (.both (.none _) (.required rfl rfl)) (.required rfl rfl))
    (.required rfl rfl)

theorem steady_decode : Value.Steady decode :=
  ((((Fields.steady_none _).both (Fields.steady_required _ Value.steady_decodeText)).both
    (Fields.steady_required _ Value.steady_decodeText)).both
    (Fields.steady_required _ Value.steady_decodeText)).decode _ _

end CoordinationEntry

namespace CoordinationReport

theorem decode_encode (report : CoordinationReport) : decode report.encode = .ok report := by
  obtain ⟨strategy, task, entries⟩ := report
  apply Fields.decode_record
  exact .both (.both (.both (.none _) (.required rfl strategy.decode_encode))
    (.required rfl rfl)) (.required rfl (Value.decodeList_map CoordinationEntry.decode_encode))

theorem steady_decode : Value.Steady decode :=
  ((((Fields.steady_none _).both (Fields.steady_required _ Strategy.steady_decode)).both
    (Fields.steady_required _ Value.steady_decodeText)).both
    (Fields.steady_required _ CoordinationEntry.steady_decode.list)).decode _ _

end CoordinationReport

/-! ## Workflows -/

namespace WorkflowStep

theorem decode_encode (step : WorkflowStep) : decode step.encode = .ok step := by
  obtain ⟨name, agent, task, context⟩ := step
  apply Fields.decode_record
  refine .both (.both (.both (.both (.none _) (.optional ?_ (Value.decodeText_text name)))
    (.required ?_ (Value.decodeText_text agent))) (.required ?_ (Value.decodeText_text task)))
    (.perhaps ?_ fun present => ⟨present.decode_encode, fun h => by cases h⟩)
  all_goals simp [Value.member?_cons, Value.member?_optionalMember]

theorem steady_decode : Value.Steady decode :=
  (((((Fields.steady_none _).both (Fields.steady_optional _ _ Value.steady_decodeText)).both
    (Fields.steady_required _ Value.steady_decodeText)).both
    (Fields.steady_required _ Value.steady_decodeText)).both
    (Fields.steady_optional _ _ Value.steady_context.optional)).decode _ _

end WorkflowStep

namespace Workflow

theorem decode_encode (workflow : Workflow) : decode workflow.encode = .ok workflow := by
  obtain ⟨name, description, failFast, steps⟩ := workflow
  apply Fields.decode_record
  exact .both (.both (.both (.both (.none _) (.optional rfl rfl)) (.optional rfl rfl))
    (.optional rfl rfl)) (.required rfl (Value.decodeList_map WorkflowStep.decode_encode))

theorem steady_decode : Value.Steady decode :=
  (((((Fields.steady_none _).both (Fields.steady_optional _ _ Value.steady_decodeText)).both
    (Fields.steady_optional _ _ Value.steady_decodeText)).both
    (Fields.steady_optional _ _ Value.steady_decodeBoolean)).both
    (Fields.steady_required _ WorkflowStep.steady_decode.list)).decode _ _

end Workflow

theorem ErrorKind.decode_encode (origin : Origin) (kind : ErrorKind) :
    ErrorKind.decode origin (.text kind.code) = .ok kind := by
  cases kind <;> rfl

namespace StepError

theorem decode_encode (origin : Origin) (error : StepError) :
    decode origin error.encode = .ok error := by
  obtain ⟨kind, message⟩ := error
  apply Fields.decode_record
  exact .both (.both (.none _) (.required rfl (kind.decode_encode origin))) (.required rfl rfl)

theorem steady_decode (origin : Origin) : Value.Steady (decode origin) :=
  (((Fields.steady_none _).both
    (Fields.steady_required _ (Value.steady_decodeVariant ErrorKind.coded origin))).both
    (Fields.steady_required _ Value.steady_decodeText)).decode _ _

end StepError

namespace StepOutcome

theorem decode_encode (origin : Origin) (outcome : StepOutcome) :
    decode origin outcome.encode = .ok outcome := by
  cases outcome with
  | success value =>
      have hreads : successFields.Reads [("status", .text "Success"), ("value", .text value)]
          (success value) := .both (.none _) (.required rfl rfl)
      exact Fields.decode_record hreads "struct variant StepOutcome::Success" .setAside
  | failed error =>
      have hreads : failedFields.Reads [("status", .text "Failed"), ("error", error.encode)]
          (failed error) := .both (.none _) (.required rfl (error.decode_encode .setAside))
      exact Fields.decode_record hreads "struct variant StepOutcome::Failed" .setAside
  | skipped => rfl

theorem steady_decodeContent (status : Status) : Value.Steady (decodeContent status) := by
  cases status with
  | success =>
      exact ((Fields.steady_none _).both
        (Fields.steady_required _ Value.steady_decodeText)).decode _ _
  | failed =>
      exact ((Fields.steady_none _).both
        (Fields.steady_required _ (StepError.steady_decode .setAside))).decode _ _
  | skipped =>
      intro content outcome hread
      cases content with
      | list items =>
          cases items with
          | nil => exact hread
          | cons item rest => cases hread
      | _ => exact hread

theorem steady_decode (origin : Origin) : Value.Steady (decode origin) := by
  intro value outcome hread
  have hstatus := Value.steady_decodeTag statuses origin
  cases value with
  | record members =>
      rw [decode] at hread
      rw [Value.normalize_record, decode, Value.member?_orderedMembers]
      cases htag : Value.member? members "status" with
      | none =>
          rw [htag] at hread
          cases hread
      | some tag =>
          rw [htag] at hread
          have hnormal := hstatus.select steady_decodeContent hread
          rw [Value.normalize_record] at hnormal
          exact hnormal
  | list items =>
      cases items with
      | nil => cases hread
      | cons tag rest =>
          rw [decode] at hread
          exact hstatus.select steady_decodeContent hread
  | _ => cases hread

end StepOutcome

namespace StepRecord

theorem decode_encode (record : StepRecord) : decode record.encode = .ok record := by
  obtain ⟨name, agent, outcome⟩ := record
  apply Fields.decode_record
  exact .both (.both (.both (.none _) (.required rfl rfl)) (.required rfl rfl))
    (.required rfl (outcome.decode_encode .direct))

theorem steady_decode : Value.Steady decode :=
  ((((Fields.steady_none _).both (Fields.steady_required _ Value.steady_decodeText)).both
    (Fields.steady_required _ Value.steady_decodeText)).both
    (Fields.steady_required _ (StepOutcome.steady_decode .direct))).decode _ _

end StepRecord

theorem RunId.steady_decode : Value.Steady RunId.decode := by
  intro value id hread
  cases value with
  | text text => exact hread
  | _ => cases hread

theorem Moment.steady_decode : Value.Steady Moment.decode := by
  intro value moment hread
  cases value with
  | text text => exact hread
  | _ => cases hread

namespace WorkflowReport

theorem decode_encode (report : WorkflowReport) : decode report.encode = .ok report := by
  obtain ⟨runId, workflow, startedAt, finishedAt, steps⟩ := report
  apply Fields.decode_record
  exact .both (.both (.both (.both (.both (.none _) (.required rfl runId.decode_encode))
    (.required rfl rfl)) (.required rfl startedAt.decode_encode))
    (.required rfl finishedAt.decode_encode))
    (.required rfl (Value.decodeList_map StepRecord.decode_encode))

theorem steady_decode : Value.Steady decode :=
  ((((((Fields.steady_none _).both (Fields.steady_required _ RunId.steady_decode)).both
    (Fields.steady_required _ Value.steady_decodeText)).both
    (Fields.steady_required _ Moment.steady_decode)).both
    (Fields.steady_required _ Moment.steady_decode)).both
    (Fields.steady_required _ StepRecord.steady_decode.list)).decode _ _

end WorkflowReport

/-! ## Events -/

namespace Event

/-- The numbers of an event fit a machine word. -/
def CountsFit : Event → Prop
  | workflowStarted _ _ total => total < UInt64.size
  | stepStarted _ index _ _ => index < UInt64.size
  | stepFinished _ index _ _ => index < UInt64.size
  | workflowCompleted _ succeeded failed skipped =>
    succeeded < UInt64.size ∧ failed < UInt64.size ∧ skipped < UInt64.size

theorem decodeCount_encodeCount {count : Nat} (h : count < UInt64.size) :
    decodeCount (encodeCount count) = .ok count :=
  Value.decodeWhole_natCast h "usize"

/-- What stands beside a type that has a name is read as the payload of the type. -/
theorem decode_tagged {type : EventType} {name : String} {payload : List (String × Value)}
    {event : Event} (hname : Value.variantNamed types name = .ok type)
    (hreads : (payloadFields .setAside type).2.Reads payload event) :
    decode (tagged name payload) = .ok event := by
  have htype : Value.member? [("type", .text name), ("payload", .record payload)] "type" =
      some (.text name) := rfl
  have hpayload : Value.member? [("type", .text name), ("payload", .record payload)] "payload" =
      some (.record payload) := rfl
  rw [tagged, decode, htype, hpayload]
  simp only [Value.decodeVariant, hname]
  exact Fields.decode_record hreads (payloadFields .setAside type).1 .setAside

theorem decode_encode {event : Event} (h : event.CountsFit) : decode event.encode = .ok event := by
  cases event with
  | workflowStarted id name total =>
      have htotal : total < UInt64.size := h
      exact decode_tagged rfl (.both (.both (.both (.none _) (.required rfl id.decode_encode))
        (.required rfl rfl)) (.required rfl (decodeCount_encodeCount htotal)))
  | stepStarted id index name agent =>
      have hindex : index < UInt64.size := h
      exact decode_tagged rfl (.both (.both (.both (.both (.none _)
        (.required rfl id.decode_encode)) (.required rfl (decodeCount_encodeCount hindex)))
        (.required rfl rfl)) (.required rfl rfl))
  | stepFinished id index name outcome =>
      have hindex : index < UInt64.size := h
      exact decode_tagged rfl (.both (.both (.both (.both (.none _)
        (.required rfl id.decode_encode)) (.required rfl (decodeCount_encodeCount hindex)))
        (.required rfl rfl)) (.required rfl (outcome.decode_encode .setAside)))
  | workflowCompleted id succeeded failed skipped =>
      obtain ⟨hsucceeded, hfailed, hskipped⟩ := h
      exact decode_tagged rfl (.both (.both (.both (.both (.none _)
        (.required rfl id.decode_encode)) (.required rfl (decodeCount_encodeCount hsucceeded)))
        (.required rfl (decodeCount_encodeCount hfailed)))
        (.required rfl (decodeCount_encodeCount hskipped)))

theorem steady_payloadFields (origin : Origin) (type : EventType) :
    (payloadFields origin type).2.Steady := by
  have hid := Fields.steady_required "run_id" RunId.steady_decode
  have htext : ∀ name, (Fields.required name Value.decodeText).Steady :=
    fun name => Fields.steady_required name Value.steady_decodeText
  have hcount : ∀ name, (Fields.required name decodeCount).Steady :=
    fun name => Fields.steady_required name (Value.steady_decodeWhole UInt64.size "usize")
  cases type with
  | workflowStarted => exact (((Fields.steady_none _).both hid).both (htext _)).both (hcount _)
  | stepStarted =>
      exact ((((Fields.steady_none _).both hid).both (hcount _)).both (htext _)).both (htext _)
  | stepFinished =>
      exact ((((Fields.steady_none _).both hid).both (hcount _)).both (htext _)).both
        (Fields.steady_required _ (StepOutcome.steady_decode origin))
  | workflowCompleted =>
      exact ((((Fields.steady_none _).both hid).both (hcount _)).both (hcount _)).both (hcount _)

theorem steady_decodePayload (type : EventType) (origin : Origin) :
    Value.Steady (decodePayload type origin) :=
  (steady_payloadFields origin type).decode _ _

/-- A tag without a payload is not an event, whether or not it names a type. -/
theorem decodeVariant_bind_error (tag : Value) (mismatch : Mismatch) (event : Event) :
    (Value.decodeVariant types .direct tag >>= fun _ => throw mismatch : Decoded Event) ≠
      .ok event := by
  intro h
  cases htype : Value.decodeVariant types .direct tag <;> rw [htype] at h <;> cases h

theorem steady_decode : Value.Steady decode := by
  intro value event hread
  have htype := Value.steady_decodeVariant types .direct
  cases value with
  | record members =>
      rw [decode] at hread
      rw [Value.normalize_record, decode, Value.member?_orderedMembers,
        Value.member?_orderedMembers]
      cases htag : Value.member? members "type" with
      | none =>
          rw [htag] at hread
          cases hread
      | some tag =>
          cases hpayload : Value.member? members "payload" with
          | none =>
              rw [htag, hpayload] at hread
              exact absurd hread (decodeVariant_bind_error tag _ event)
          | some payload =>
              rw [htag, hpayload] at hread
              exact htype.select (fun type => steady_decodePayload type .setAside) hread
  | list items =>
      match items with
      | [] => cases hread
      | [tag] => exact absurd hread (decodeVariant_bind_error tag _ event)
      | tag :: payload :: rest =>
          rw [decode] at hread
          cases hnamed : Value.decodeVariant types .direct tag with
          | error mismatch => simp [hnamed, bind, Except.bind] at hread
          | ok type =>
              cases hevent : decodePayload type .direct payload with
              | error mismatch => simp [hnamed, hevent, bind, Except.bind] at hread
              | ok found =>
                  simp only [hnamed, hevent, bind, Except.bind] at hread
                  rw [Value.normalize, Value.normalizeItems_eq_map, List.map_cons, List.map_cons,
                    decode, htype hnamed]
                  simp only [bind, Except.bind, steady_decodePayload type .direct hevent]
                  -- Nothing may stand behind the payload.
                  cases rest with
                  | nil => exact hread
                  | cons item others => cases hread
  | _ => cases hread

end Event

/-! ## Subtasks -/

namespace Subtask

theorem decode_encode (subtask : Subtask) : decode subtask.encode = .ok subtask := by
  obtain ⟨description, resources, expectedOutcome, parsingError⟩ := subtask
  apply Fields.decode_record
  refine .both (.both (.both (.both (.none _) (.required ?_ (Value.decodeText_text description)))
    (.required ?_ (Value.decodeText_text resources)))
    (.required ?_ (Value.decodeText_text expectedOutcome)))
    (.perhaps ?_ fun present => ⟨Value.decodeText_text present, fun h => by cases h⟩)
  all_goals simp [Value.member?_cons, Value.member?_optionalMember]

theorem steady_decode : Value.Steady decode :=
  (((((Fields.steady_none _).both (Fields.steady_required _ Value.steady_decodeText)).both
    (Fields.steady_required _ Value.steady_decodeText)).both
    (Fields.steady_required _ Value.steady_decodeText)).both
    (Fields.steady_optional _ _ Value.steady_decodeText.optional)).decode _ _

end Subtask

/-! ## All of them -/

/-- What a program asks for and is told, and every part of a workflow and of its report, is read
back from the value that it is written as. The numbers of an event are those of machine words. -/
theorem runtimeModels_roundTrip :
    (∀ request, RoundTrips CoordinationRequest.encode CoordinationRequest.decode request) ∧
    (∀ report, RoundTrips CoordinationReport.encode CoordinationReport.decode report) ∧
    (∀ grouping, RoundTrips Grouping.encode Grouping.decode grouping) ∧
    (∀ workflow, RoundTrips Workflow.encode Workflow.decode workflow) ∧
    (∀ step, RoundTrips WorkflowStep.encode WorkflowStep.decode step) ∧
    (∀ outcome, RoundTrips StepOutcome.encode (StepOutcome.decode .direct) outcome) ∧
    (∀ error, RoundTrips StepError.encode (StepError.decode .direct) error) ∧
    (∀ report, RoundTrips WorkflowReport.encode WorkflowReport.decode report) ∧
    (∀ event : Event, event.CountsFit → RoundTrips Event.encode Event.decode event) ∧
    ∀ subtask, RoundTrips Subtask.encode Subtask.decode subtask :=
  ⟨fun request => CoordinationRequest.steady_decode.roundTrips request.decode_encode,
    fun report => CoordinationReport.steady_decode.roundTrips report.decode_encode,
    fun grouping => Grouping.steady_decode.roundTrips grouping.decode_encode,
    fun workflow => Workflow.steady_decode.roundTrips workflow.decode_encode,
    fun step => WorkflowStep.steady_decode.roundTrips step.decode_encode,
    fun outcome => (StepOutcome.steady_decode .direct).roundTrips
      (outcome.decode_encode .direct),
    fun error => (StepError.steady_decode .direct).roundTrips (error.decode_encode .direct),
    fun report => WorkflowReport.steady_decode.roundTrips report.decode_encode,
    fun _ hcounts => Event.steady_decode.roundTrips (Event.decode_encode hcounts),
    fun subtask => Subtask.steady_decode.roundTrips subtask.decode_encode⟩

/-- The greatest counts that there are. -/
theorem runtimeModels_roundTrip_greatestCounts :
    (Event.workflowCompleted default (UInt64.size - 1) (UInt64.size - 1) 0).CountsFit ∧
    RoundTrips Event.encode Event.decode
      (.workflowCompleted default (UInt64.size - 1) (UInt64.size - 1) 0) := by
  have hcounts :
      (Event.workflowCompleted default (UInt64.size - 1) (UInt64.size - 1) 0).CountsFit := by
    exact ⟨by decide, by decide, by decide⟩
  obtain ⟨-, -, -, -, -, -, -, -, hevents, -⟩ := runtimeModels_roundTrip
  exact ⟨hcounts, hevents _ hcounts⟩

end Ensemble
