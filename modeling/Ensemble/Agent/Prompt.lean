/-
# Prompts

A prompt says who the agent is, what it always has to heed, the context, and the task, in this
order. A shape changes only the task.
-/

import Ensemble.Context
import Ensemble.Text.Blank

namespace Ensemble

namespace Prompt

/-- The text of a datum: texts are taken as they are, other values as JSON. -/
def dataText (datum : Datum) : String :=
  match datum.value with
  | .text text => text
  | value => Json.compact value

/-- The line of one entry of a context. -/
def contextLine (entry : String × Datum) : String :=
  "- " ++ entry.1 ++ ": " ++ dataText entry.2

/-- A context, one item for every name in ascending order. -/
def renderContext (context : Context) : String :=
  "\n".intercalate (context.entries.map contextLine)

/-- Who the agent is and what it always has to heed. -/
def identity (name role instructions : String) : String :=
  (if Text.isBlankText role then "You are " ++ name ++ "."
    else "You are " ++ name ++ ", a " ++ Text.trim role ++ ".") ++
  (if Text.isBlankText instructions then "" else "\n" ++ Text.trim instructions)

/-- The context as a part of a prompt, if there is any. -/
def contextPart : Option Context → List String
  | some context => if context.isEmpty then [] else ["Context:\n" ++ renderContext context]
  | none => []

/-- The prompt of an agent for a task. -/
def compose (name role instructions : String) (context : Option Context) (task : String) :
    String :=
  "\n\n".intercalate
    (identity name role instructions :: contextPart context ++ ["Task: " ++ task])

end Prompt

/-- How a task is rewritten before it is sent. -/
inductive Shape where
  /-- Ask for so many steps of reasoning before the answer. -/
  | stepByStep (steps : Nat)
  /-- Ask for a better version of an answer. -/
  | selfCorrection (feedback : String)
  /-- Ask for subtasks, at most so many. -/
  | decomposition (limit : Nat)
deriving DecidableEq, Repr

namespace Shape

/-- The rewritten task. -/
def apply (shape : Shape) (task : String) : String :=
  match shape with
  | stepByStep steps =>
    "Break down the following problem into " ++ toString (max steps 1) ++
      " clear reasoning steps, then give your answer.\n" ++
      "Problem: " ++ task ++ "\n\n" ++
      "Provide a structured approach with:\n" ++
      "1. Initial analysis\n" ++
      "2. Key considerations\n" ++
      "3. Solution approach"
  | selfCorrection feedback =>
    "Improve the following response based on feedback.\n\n" ++
      "Original response: " ++ task ++ "\n" ++
      "Feedback: " ++ feedback ++ "\n\n" ++
      "Please revise your response to be more accurate and complete."
  | decomposition limit =>
    "Decompose the following task into " ++ toString limit ++ " or fewer subtasks.\n" ++
      "Task: " ++ task ++ "\n\n" ++
      "Return ONLY a JSON array. Each element must be an object with these exact keys:\n" ++
      "- \"description\": a clear description of the subtask\n" ++
      "- \"resources\": required tools, data or skills\n" ++
      "- \"expected_outcome\": what successful completion looks like"

end Shape

end Ensemble
