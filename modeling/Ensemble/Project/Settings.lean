/-
# Project settings

The settings that a project makes for all its agents: the default endpoint, and how many calls
may be under way at once.
-/

import Ensemble.Endpoint.Settings

namespace Ensemble

/-- Settings of coordinated tasks. -/
structure CoordinationSettings where
  /-- How many calls may be under way at once. -/
  parallelLimit : UInt64
deriving DecidableEq, Repr

namespace CoordinationSettings

/-- The settings when nothing is said. -/
def standard : CoordinationSettings := ⟨4⟩

/-- Settings as a record. -/
def encode (settings : CoordinationSettings) : Value :=
  .record [("parallel-limit", .number (.integer settings.parallelLimit.toNat))]

/-- The fields of settings. -/
def fields : Fields CoordinationSettings :=
  (Fields.none CoordinationSettings.mk)
    |>.both (.optional "parallel-limit"
      (fun value => (value.decodeWhole UInt64.size "usize").map UInt64.ofNat) standard.parallelLimit)

/-- Read settings from an origin. -/
def decodeFrom (origin : Origin) : Value → Decoded CoordinationSettings :=
  fields.decode "struct CoordinationSettings" origin

/-- Read settings. -/
def decode : Value → Decoded CoordinationSettings :=
  decodeFrom .direct

end CoordinationSettings

/-- Settings of a project. -/
structure ProjectSettings where
  endpoint : EndpointSettings
  coordination : CoordinationSettings
deriving DecidableEq, Repr

namespace ProjectSettings

/-- The settings when nothing is said. -/
def standard : ProjectSettings := ⟨.standard, .standard⟩

/-- Settings as a record. -/
def encode (settings : ProjectSettings) : Value :=
  .record [("endpoint", settings.endpoint.encode), ("coordination", settings.coordination.encode)]

/-- The fields of settings. -/
def fields (origin : Origin) : Fields ProjectSettings :=
  (Fields.none ProjectSettings.mk)
    |>.both (.optional "endpoint" (EndpointSettings.decodeFrom origin) .standard)
    |>.both (.optional "coordination" (CoordinationSettings.decodeFrom origin) .standard)

/-- Read settings from an origin. -/
def decodeFrom (origin : Origin) : Value → Decoded ProjectSettings :=
  (fields origin).decode "struct GlobalConfig" origin

/-- Read settings. -/
def decode : Value → Decoded ProjectSettings :=
  decodeFrom .direct

end ProjectSettings

end Ensemble
