/-
# Step outcomes

A step succeeds with a value, fails with an error, or is skipped. The outcome is a record whose
member `status` decides what the others are.
-/

import Ensemble.Error

namespace Ensemble

/-- A failure as it is recorded. -/
structure StepError where
  kind : ErrorKind
  message : String
deriving DecidableEq, Repr

/-- The record of an error. -/
def OrchestrationError.toStepError (error : OrchestrationError) : StepError :=
  ⟨error.kind, error.message⟩

namespace StepError

/-- A recorded failure as a record. -/
def encode (error : StepError) : Value :=
  .record [("kind", .text error.kind.code), ("message", .text error.message)]

/-- The fields of a recorded failure. -/
def fields (origin : Origin) : Fields StepError :=
  (Fields.none StepError.mk)
    |>.both (.required "kind" (ErrorKind.decode origin))
    |>.both (.required "message" Value.decodeText)

/-- Read a recorded failure. -/
def decode (origin : Origin) : Value → Decoded StepError :=
  (fields origin).decode "struct StepError" origin

end StepError

/-- What became of a step. -/
inductive StepOutcome where
  | success (value : String)
  | failed (error : StepError)
  | skipped
deriving DecidableEq, Repr

namespace StepOutcome

/-- Whether the step succeeded. -/
def isSuccess : StepOutcome → Bool
  | success _ => true
  | _ => false

/-- Whether the step failed. -/
def isFailed : StepOutcome → Bool
  | failed _ => true
  | _ => false

/-- Whether the step was skipped. -/
def isSkipped : StepOutcome → Bool
  | skipped => true
  | _ => false

/-- The value of a success. -/
def value? : StepOutcome → Option String
  | success value => some value
  | _ => none

/-- The error of a failure. -/
def error? : StepOutcome → Option StepError
  | failed error => some error
  | _ => none

/-- An outcome as a record. -/
def encode : StepOutcome → Value
  | success value => .record [("status", .text "Success"), ("value", .text value)]
  | failed error => .record [("status", .text "Failed"), ("error", error.encode)]
  | skipped => .record [("status", .text "Skipped")]

/-- The statuses. -/
inductive Status where
  | success
  | failed
  | skipped
deriving DecidableEq, Repr

/-- Every status under its name. -/
def statuses : List (String × Status) :=
  [("Success", .success), ("Failed", .failed), ("Skipped", .skipped)]

/-- The field of a success. -/
def successFields : Fields StepOutcome :=
  (Fields.none StepOutcome.success).both (.required "value" Value.decodeText)

/-- The field of a failure. -/
def failedFields : Fields StepOutcome :=
  (Fields.none StepOutcome.failed).both (.required "error" (StepError.decode .setAside))

/-- Read what stands beside a status. -/
def decodeContent (status : Status) (content : Value) : Decoded StepOutcome :=
  match status with
  | .success => successFields.decode "struct variant StepOutcome::Success" .setAside content
  | .failed => failedFields.decode "struct variant StepOutcome::Failed" .setAside content
  | .skipped =>
    match content with
    | .list (item :: items) =>
      .error (.length (item :: items).length (elementCount 0 ++ " in sequence"))
    | _ => .ok .skipped

/-- Read an outcome. Of a list the first item is the status. -/
def decode (origin : Origin) : Value → Decoded StepOutcome
  | .record members =>
    match Value.member? members "status" with
    | none => .error (.missingField "status")
    | some tag => do
      let status ← Value.decodeTag statuses origin tag
      decodeContent status (.record members)
  | .list [] => .error (.missingField "status")
  | .list (tag :: items) => do
    let status ← Value.decodeTag statuses origin tag
    decodeContent status (.list items)
  | found => .error (.kind found "internally tagged enum StepOutcome")

end StepOutcome

end Ensemble
