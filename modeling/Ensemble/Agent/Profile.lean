/-
# Agent profiles

What a project says about an agent: its name and role, what it is for, its standing
instructions, and what it asks of its endpoint beyond the defaults.
-/

import Ensemble.Endpoint.Settings

namespace Ensemble

/-- A configured agent. -/
structure AgentProfile where
  name : String
  role : String
  description : String
  model : Option String
  temperature : Option Binary32
  /-- The body of the document; never part of its record. -/
  instructions : String
deriving DecidableEq, Repr

namespace AgentProfile

/-- Whether the agent needs an endpoint of its own. -/
def overridesEndpoint (profile : AgentProfile) : Bool :=
  profile.model.isSome || profile.temperature.isSome

/-- A profile as a record, without the instructions. -/
def encode (profile : AgentProfile) : Value :=
  .record ([("name", .text profile.name), ("role", .text profile.role),
      ("description", .text profile.description)] ++
    Value.optionalMember "model" Value.text profile.model ++
    Value.optionalMember "temperature" encodeSingle profile.temperature)

/-- A profile without instructions. -/
def withoutInstructions (name role description : String) (model : Option String)
    (temperature : Option Binary32) : AgentProfile :=
  ⟨name, role, description, model, temperature, ""⟩

/-- The fields of a profile. -/
def fields : Fields AgentProfile :=
  (Fields.none withoutInstructions)
    |>.both (.required "name" Value.decodeText)
    |>.both (.optional "role" Value.decodeText "")
    |>.both (.optional "description" Value.decodeText "")
    |>.both (.optional "model" (Value.decodeOptional Value.decodeText) none)
    |>.both (.optional "temperature" (Value.decodeOptional Value.decodeSingle) none)

/-- Read a profile. -/
def decode : Value → Decoded AgentProfile :=
  fields.decode "struct AgentConfig" .direct

end AgentProfile

end Ensemble
