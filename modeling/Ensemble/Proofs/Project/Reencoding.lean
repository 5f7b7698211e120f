/-
# Settings that are written again

Settings that were read are read again from what they are written as, as they are written and as
they are stored. The one exception is a temperature that is too large for a single: it became
infinite, and is written as null. The settings of an endpoint have no null, so that they are
refused; an agent is read without a temperature.
-/

import Ensemble.Agent.Profile
import Ensemble.Project.Settings
import Ensemble.Proofs.Json.Width

namespace Ensemble

/-- What a value is read as after it was written, as it is written and as it is stored. -/
def ReadBack {α : Type} (encode : α → Value) (decode : Value → Decoded α) (value : α)
    (result : Decoded α) : Prop :=
  decode (encode value) = result ∧ decode (encode value).stored = result

/-! ## Numbers -/

/-- A single is read again, unless it is written as null. -/
theorem decodeSingle_encodeSingle (number : Binary32) :
    Value.decodeSingle (encodeSingle number) =
      if number.isFinite then .ok number else .error (.kind .null "f32") := by
  rw [encodeSingle]
  split <;> rfl

/-- Widened and narrowed again, a single is the same. -/
theorem narrowed_widened {number : Binary32} (h : number.Canonical) :
    ((number.convert .double : Binary64).convert .single : Binary32) = number :=
  Binary.convert_convert BinaryFormat.sound_double BinaryFormat.single_within_double h

theorem decodeSingle_stored_encodeSingle {number : Binary32} (h : number.Canonical) :
    Value.decodeSingle (encodeSingle number).stored =
      if number.isFinite then .ok number else .error (.kind .null "f32") := by
  rw [encodeSingle]
  split
  · exact congrArg Except.ok (narrowed_widened h)
  · rfl

/-- Where null stands for nothing, a single that is not finite is read as nothing. -/
theorem decodeOptional_encodeSingle (number : Binary32) :
    Value.decodeOptional Value.decodeSingle (encodeSingle number) =
      .ok (if number.isFinite then some number else none) := by
  rw [encodeSingle]
  split <;> rfl

theorem decodeOptional_stored_encodeSingle {number : Binary32} (h : number.Canonical) :
    Value.decodeOptional Value.decodeSingle (encodeSingle number).stored =
      .ok (if number.isFinite then some number else none) := by
  rw [encodeSingle]
  split
  · exact congrArg (fun read => Except.ok (some read)) (narrowed_widened h)
  · rfl

variable {members : List (String × Value)} {name : String}

theorem reads_port {port absent : UInt16}
    (h : Value.member? members name = some (.number (.integer port.toNat))) :
    (Fields.optional name
      (fun value => (value.decodeWhole UInt16.size "u16").map UInt16.ofNat) absent).Reads
        members port := by
  refine .optional h ?_
  rw [Value.decodeWhole_natCast port.toNat_lt]
  exact congrArg Except.ok port.ofNat_toNat

theorem reads_word {expected : String} {word absent : UInt64}
    (h : Value.member? members name = some (.number (.integer word.toNat))) :
    (Fields.optional name
      (fun value => (value.decodeWhole UInt64.size expected).map UInt64.ofNat) absent).Reads
        members word := by
  refine .optional h ?_
  rw [Value.decodeWhole_natCast word.toNat_lt]
  exact congrArg Except.ok word.ofNat_toNat

theorem Provider.decode_name (provider : Provider) (origin : Origin) :
    Provider.decode origin (.text provider.name) = .ok provider := by
  cases provider <;> rfl

/-! ## Endpoints -/

namespace EndpointSettings

/-- Members that say settings, with some value for the temperature. -/
structure Says (settings : EndpointSettings) (temperature : Value)
    (members : List (String × Value)) : Prop where
  provider : Value.member? members "provider" = some (.text settings.provider.name)
  url : Value.member? members "url" = some (.text settings.url)
  port : Value.member? members "port" = some (.number (.integer settings.port.toNat))
  model : Value.member? members "model" = some (.text settings.model)
  temperature : Value.member? members "temperature" = some temperature
  timeout : Value.member? members "timeout-secs" =
    some (.number (.integer settings.timeoutSeconds.toNat))

namespace Says

variable {settings : EndpointSettings} {temperature : Value} {members : List (String × Value)}

/-- What is stored says the same. -/
theorem stored (h : settings.Says temperature members) :
    settings.Says temperature.stored (Value.storedMembers members) := by
  constructor <;> rw [Value.member?_storedMembers]
  · rw [h.provider]; rfl
  · rw [h.url]; rfl
  · rw [h.port]; rfl
  · rw [h.model]; rfl
  · rw [h.temperature]; rfl
  · rw [h.timeout]; rfl

/-- The settings are read with the temperature that the members say, if it is one. -/
theorem decode (h : settings.Says temperature members) :
    EndpointSettings.decode (.record members) =
      (Value.decodeSingle temperature).map fun number =>
        { settings with temperature := number } := by
  obtain ⟨provider, url, port, model, old, timeout⟩ := settings
  have hprovider := provider.decode_name .direct
  have hurl := Value.decodeText_text url
  have hmodel := Value.decodeText_text model
  cases hread : Value.decodeSingle temperature with
  | ok number =>
      exact Fields.decode_record (.both (.both (.both (.both (.both (.both (.none _)
        (.optional h.provider hprovider)) (.optional h.url hurl)) (reads_port h.port))
        (.optional h.model hmodel)) (.optional h.temperature hread)) (reads_word h.timeout))
        "struct EndpointConfig" .direct
  | error mismatch =>
      exact Fields.decode_record_of_misfits (.before (.last (.both (.both (.both (.both (.none _)
        (.optional h.provider hprovider)) (.optional h.url hurl)) (reads_port h.port))
        (.optional h.model hmodel)) (.optional h.temperature hread)) (reads_word h.timeout))
        "struct EndpointConfig" .direct

end Says

theorem says_encode (settings : EndpointSettings) :
    ∃ members, settings.encode = .record members ∧
      settings.Says (encodeSingle settings.temperature) members :=
  ⟨_, rfl, rfl, rfl, rfl, rfl, rfl, rfl⟩

/-- Settings are read again if the temperature is finite, and refused otherwise. -/
theorem readBack {settings : EndpointSettings} (h : settings.temperature.Canonical) :
    ReadBack encode decode settings
      (if settings.temperature.isFinite then .ok settings else .error (.kind .null "f32")) := by
  obtain ⟨members, hencode, hsays⟩ := settings.says_encode
  rw [ReadBack, hencode, Value.stored_record, hsays.decode, hsays.stored.decode,
    decodeSingle_encodeSingle, decodeSingle_stored_encodeSingle h]
  split <;> exact ⟨rfl, rfl⟩

/-- The temperature of settings that are read is a single in its form. -/
theorem canonical_of_decode {value : Value} (hwide : value.IsWide) {origin : Origin}
    {settings : EndpointSettings} (h : decodeFrom origin value = .ok settings) :
    settings.temperature.Canonical := by
  obtain ⟨members, hvalues, hread⟩ := Fields.exists_read_of_decode h
  -- The fields are taken off from behind, down to the temperature and on to the constructor.
  obtain ⟨_, _, hfive, -, rfl⟩ := Fields.read_both_eq_complete_iff.1 hread
  obtain ⟨_, number, hfour, hnumber, rfl⟩ := Fields.read_both_eq_complete_iff.1 hfive
  obtain ⟨_, _, hthree, -, rfl⟩ := Fields.read_both_eq_complete_iff.1 hfour
  obtain ⟨_, _, htwo, -, rfl⟩ := Fields.read_both_eq_complete_iff.1 hthree
  obtain ⟨_, _, hone, -, rfl⟩ := Fields.read_both_eq_complete_iff.1 htwo
  obtain ⟨_, _, hnone, -, rfl⟩ := Fields.read_both_eq_complete_iff.1 hone
  obtain rfl := Reading.complete.inj hnone
  rcases Fields.read_optional hnumber with rfl | ⟨found, hfound, hsingle⟩
  · exact Binary.canonical_zero BinaryFormat.sound_single false
  · have hpart : found ∈ value.parts := hvalues ▸ Members.mem_values_of_drop hfound
    exact (hwide.of_mem_parts hpart).canonical_of_decodeSingle hsingle

end EndpointSettings

/-! ## Projects -/

namespace CoordinationSettings

theorem decode_record {limit : UInt64} {members : List (String × Value)}
    (h : Value.member? members "parallel-limit" = some (.number (.integer limit.toNat))) :
    decode (.record members) = .ok ⟨limit⟩ :=
  Fields.decode_record (.both (.none _) (reads_word h)) "struct CoordinationSettings" .direct

theorem readBack (settings : CoordinationSettings) :
    ReadBack encode decode settings (.ok settings) := by
  refine ⟨decode_record rfl, ?_⟩
  rw [encode, Value.stored_record]
  refine decode_record ?_
  rw [Value.member?_storedMembers]
  rfl

end CoordinationSettings

namespace ProjectSettings

theorem decode_record {settings : ProjectSettings} {members : List (String × Value)}
    {endpoint coordination : Value} (hendpoint : Value.member? members "endpoint" = some endpoint)
    (hcoordination : Value.member? members "coordination" = some coordination)
    (hread : CoordinationSettings.decode coordination = .ok settings.coordination) :
    decode (.record members) =
      (EndpointSettings.decode endpoint).map fun found => { settings with endpoint := found } := by
  cases hfound : EndpointSettings.decode endpoint with
  | ok found =>
      exact Fields.decode_record (.both (.both (.none _) (.optional hendpoint hfound))
        (.optional hcoordination hread)) "struct GlobalConfig" .direct
  | error mismatch =>
      exact Fields.decode_record_of_misfits (.before (.last (.none _)
        (.optional hendpoint hfound)) (.optional hcoordination hread)) "struct GlobalConfig" .direct

/-- The settings of a project are read again when those of its endpoint are. -/
theorem readBack {settings : ProjectSettings} (h : settings.endpoint.temperature.Canonical) :
    ReadBack encode decode settings
      (if settings.endpoint.temperature.isFinite then .ok settings
        else .error (.kind .null "f32")) := by
  obtain ⟨hwritten, hstored⟩ := EndpointSettings.readBack h
  obtain ⟨hlimit, hlimitStored⟩ := settings.coordination.readBack
  have hendpoint : Value.member? (Value.storedMembers [("endpoint", settings.endpoint.encode),
      ("coordination", settings.coordination.encode)]) "endpoint" =
        some settings.endpoint.encode.stored := by
    rw [Value.member?_storedMembers]
    rfl
  have hcoordination : Value.member? (Value.storedMembers [("endpoint", settings.endpoint.encode),
      ("coordination", settings.coordination.encode)]) "coordination" =
        some settings.coordination.encode.stored := by
    rw [Value.member?_storedMembers]
    rfl
  rw [ReadBack, encode, Value.stored_record, decode_record rfl rfl hlimit,
    decode_record hendpoint hcoordination hlimitStored, hwritten, hstored]
  split <;> exact ⟨rfl, rfl⟩

theorem canonical_of_decode {value : Value} (hwide : value.IsWide) {settings : ProjectSettings}
    (h : decode value = .ok settings) : settings.endpoint.temperature.Canonical := by
  obtain ⟨members, hvalues, hread⟩ := Fields.exists_read_of_decode h
  obtain ⟨_, _, hone, -, rfl⟩ := Fields.read_both_eq_complete_iff.1 hread
  obtain ⟨_, endpoint, hnone, hendpoint, rfl⟩ := Fields.read_both_eq_complete_iff.1 hone
  obtain rfl := Reading.complete.inj hnone
  rcases Fields.read_optional hendpoint with rfl | ⟨found, hfound, hsettings⟩
  · exact Binary.canonical_zero BinaryFormat.sound_single false
  · have hpart : found ∈ value.parts := hvalues ▸ Members.mem_values_of_drop hfound
    exact EndpointSettings.canonical_of_decode (hwide.of_mem_parts hpart) hsettings

end ProjectSettings

/-! ## Agents -/

namespace AgentProfile

/-- Members that say a profile, with some value for the temperature if there is any. -/
structure Says (profile : AgentProfile) (temperature : Option Value)
    (members : List (String × Value)) : Prop where
  name : Value.member? members "name" = some (.text profile.name)
  role : Value.member? members "role" = some (.text profile.role)
  description : Value.member? members "description" = some (.text profile.description)
  model : Value.member? members "model" = profile.model.map Value.text
  temperature : Value.member? members "temperature" = temperature

theorem says_encode (profile : AgentProfile) :
    ∃ members, profile.encode = .record members ∧
      profile.Says (profile.temperature.map encodeSingle) members := by
  refine ⟨_, rfl, ?_, ?_, ?_, ?_, ?_⟩ <;>
    simp [Value.member?_append, Value.member?_cons, Value.member?_optionalMember]

namespace Says

variable {profile : AgentProfile} {temperature : Option Value} {members : List (String × Value)}

theorem stored (h : profile.Says temperature members) :
    profile.Says (temperature.map Value.stored) (Value.storedMembers members) := by
  constructor <;> rw [Value.member?_storedMembers]
  · rw [h.name]; rfl
  · rw [h.role]; rfl
  · rw [h.description]; rfl
  · rw [h.model, Option.map_map]; rfl
  · rw [h.temperature]

/-- The profile is read with what is read as the temperature, and without instructions. -/
theorem decode (h : profile.Says temperature members) {number : Option Binary32}
    (hread : (Fields.optional "temperature" (Value.decodeOptional Value.decodeSingle) none).Reads
      members number) :
    AgentProfile.decode (.record members) =
      .ok { profile with temperature := number, instructions := "" } := by
  obtain ⟨name, role, description, model, old, instructions⟩ := profile
  have hname := Value.decodeText_text name
  have hrole := Value.decodeText_text role
  have hdescription := Value.decodeText_text description
  have hmodel : ∀ present, Value.decodeText (.text present) = .ok present ∧
      Value.text present ≠ .null := fun present => ⟨rfl, fun hnull => by cases hnull⟩
  exact Fields.decode_record (.both (.both (.both (.both (.both (.none _)
    (.required h.name hname)) (.optional h.role hrole)) (.optional h.description hdescription))
    (.perhaps h.model hmodel)) hread) "struct AgentConfig" .direct

end Says

/-- A temperature that is written is read again, unless it is not finite. -/
theorem reads_temperature {number : Option Binary32} {write : Binary32 → Value}
    {members : List (String × Value)}
    (hfound : Value.member? members "temperature" = number.map write)
    (hwrite : ∀ present, number = some present → Value.decodeOptional Value.decodeSingle
      (write present) = .ok (if present.isFinite then some present else none)) :
    (Fields.optional "temperature" (Value.decodeOptional Value.decodeSingle) none).Reads members
      (number.filter Binary.isFinite) := by
  cases number with
  | none => exact .missing hfound
  | some present =>
      rw [Option.filter_some]
      exact .optional hfound (hwrite present rfl)

/-- A profile without instructions is read again, but for a temperature that is not finite. -/
theorem readBack {profile : AgentProfile} (hinstructions : profile.instructions = "")
    (h : ∀ number, profile.temperature = some number → number.Canonical) :
    ReadBack encode decode profile
      (.ok { profile with temperature := profile.temperature.filter Binary.isFinite }) := by
  obtain ⟨members, hencode, hsays⟩ := profile.says_encode
  have hresult : ({ profile with
        temperature := profile.temperature.filter Binary.isFinite,
        instructions := "" } : AgentProfile) =
      { profile with temperature := profile.temperature.filter Binary.isFinite } := by
    rw [hinstructions]
  rw [ReadBack, hencode, Value.stored_record, ← hresult]
  constructor
  · refine hsays.decode (reads_temperature hsays.temperature fun present hpresent => ?_)
    exact decodeOptional_encodeSingle present
  · have hfound := hsays.stored.temperature
    rw [Option.map_map] at hfound
    refine hsays.stored.decode (reads_temperature hfound fun present hpresent => ?_)
    exact decodeOptional_stored_encodeSingle (h present hpresent)

theorem canonical_of_decode {value : Value} (hwide : value.IsWide) {profile : AgentProfile}
    (h : decode value = .ok profile) :
    profile.instructions = "" ∧
      ∀ number, profile.temperature = some number → number.Canonical := by
  obtain ⟨members, hvalues, hread⟩ := Fields.exists_read_of_decode h
  obtain ⟨_, temperature, hfour, htemperature, rfl⟩ := Fields.read_both_eq_complete_iff.1 hread
  obtain ⟨_, _, hthree, -, rfl⟩ := Fields.read_both_eq_complete_iff.1 hfour
  obtain ⟨_, _, htwo, -, rfl⟩ := Fields.read_both_eq_complete_iff.1 hthree
  obtain ⟨_, _, hone, -, rfl⟩ := Fields.read_both_eq_complete_iff.1 htwo
  obtain ⟨_, _, hnone, -, rfl⟩ := Fields.read_both_eq_complete_iff.1 hone
  obtain rfl := Reading.complete.inj hnone
  refine ⟨rfl, fun number hnumber => ?_⟩
  obtain rfl : temperature = some number := hnumber
  rcases Fields.read_optional htemperature with hnone | ⟨found, hfound, hread⟩
  · cases hnone
  · have hpart : found ∈ value.parts := hvalues ▸ Members.mem_values_of_drop hfound
    have hsingle := Value.decode_of_decodeOptional hread
    exact (hwide.of_mem_parts hpart).canonical_of_decodeSingle hsingle

end AgentProfile

/-! ## All of them -/

/-- Settings that were read of a document without singles, as every JSON text is, are read again
from what they are written as, unless their temperature became infinite. Then it is written as null:
the settings of an endpoint and of a project are refused, and an agent is read without a
temperature. -/
theorem configurationModels_readBack {value : Value} (hwide : value.IsWide) :
    (∀ settings, EndpointSettings.decode value = .ok settings →
      ReadBack EndpointSettings.encode EndpointSettings.decode settings
        (if settings.temperature.isFinite then .ok settings else .error (.kind .null "f32"))) ∧
    (∀ settings, CoordinationSettings.decode value = .ok settings →
      ReadBack CoordinationSettings.encode CoordinationSettings.decode settings (.ok settings)) ∧
    (∀ settings, ProjectSettings.decode value = .ok settings →
      ReadBack ProjectSettings.encode ProjectSettings.decode settings
        (if settings.endpoint.temperature.isFinite then .ok settings
          else .error (.kind .null "f32"))) ∧
    ∀ profile, AgentProfile.decode value = .ok profile →
      ReadBack AgentProfile.encode AgentProfile.decode profile
        (.ok { profile with temperature := profile.temperature.filter Binary.isFinite }) := by
  refine ⟨fun settings h => ?_, fun settings _ => ?_, fun settings h => ?_, fun profile h => ?_⟩
  · exact EndpointSettings.readBack (EndpointSettings.canonical_of_decode hwide h)
  · exact settings.readBack
  · exact ProjectSettings.readBack (ProjectSettings.canonical_of_decode hwide h)
  · obtain ⟨hinstructions, hcanonical⟩ := AgentProfile.canonical_of_decode hwide h
    exact AgentProfile.readBack hinstructions hcanonical

/-- Whether a text is read as a record of one number. -/
def Json.readsNumber (text key : String) (number : Number) : Bool :=
  match Json.read text with
  | .ok (.record [(name, .number found)]) => decide (name = key ∧ found = number)
  | _ => false

theorem Json.read_of_readsNumber {text key : String} {number : Number}
    (h : Json.readsNumber text key number = true) :
    Json.read text = .ok (.record [(key, .number number)]) := by
  rw [readsNumber] at h
  split at h
  next name found hread =>
    obtain ⟨rfl, rfl⟩ := of_decide_eq_true h
    exact hread
  next => cases h

/-- Seven tenths, which a single holds nearly. -/
theorem configurationModels_readBack_sevenTenths :
    ∃ value, Json.read "\x7b\"temperature\": 0.7\x7d" = .ok value ∧ value.IsWide ∧
      ∃ settings, EndpointSettings.decode value = .ok settings ∧
        ReadBack EndpointSettings.encode EndpointSettings.decode settings (.ok settings) := by
  have htext : Json.readsNumber "\x7b\"temperature\": 0.7\x7d" "temperature"
      (.double (.finite false 6305039478318694 (-53))) = true := by decide +kernel
  have hjson := Json.read_of_readsNumber htext
  have hwide := Json.isWide_of_read hjson
  let settings : EndpointSettings :=
    { EndpointSettings.standard with temperature := .finite false 11744051 (-24) }
  have hread : EndpointSettings.decode (.record [("temperature",
      .number (.double (.finite false 6305039478318694 (-53))))]) = .ok settings := rfl
  obtain ⟨hendpoint, -, -, -⟩ := configurationModels_readBack hwide
  exact ⟨_, hjson, hwide, settings, hread, hendpoint settings hread⟩

/-- Ten to the 39, which no single holds: the settings are accepted, but what they are written as is
refused. -/
theorem configurationModels_readBack_overflow :
    ∃ value, Json.read "\x7b\"temperature\": 1e39\x7d" = .ok value ∧
      ∃ settings, EndpointSettings.decode value = .ok settings ∧
        EndpointSettings.decode settings.encode ≠ .ok settings := by
  have htext : Json.readsNumber "\x7b\"temperature\": 1e39\x7d" "temperature"
      (.double (.finite false 6617444900424221 77)) = true := by decide +kernel
  let settings : EndpointSettings :=
    { EndpointSettings.standard with temperature := .infinite false }
  have hread : EndpointSettings.decode (.record [("temperature",
      .number (.double (.finite false 6617444900424221 77)))]) = .ok settings := rfl
  have hcanonical : settings.temperature.Canonical := trivial
  obtain ⟨hrefused, -⟩ := EndpointSettings.readBack hcanonical
  refine ⟨_, Json.read_of_readsNumber htext, settings, hread, fun hagain => ?_⟩
  rw [hagain] at hrefused
  cases hrefused

end Ensemble
