/-
# Histories

An agent remembers its successful calls, the newest last, up to a cap of at least one. When the
cap is reached the oldest calls are dropped.
-/

namespace Ensemble

/-- What an agent was asked for. -/
inductive HistoryKind where
  | task
  | reasoning
  | correction
  | decomposition
deriving DecidableEq, Repr

/-- The name of a kind. -/
def HistoryKind.name : HistoryKind → String
  | task => "task"
  | reasoning => "reasoning"
  | correction => "correction"
  | decomposition => "decomposition"

/-- A successful call: the task as it was given, before it was rewritten, and the answer. -/
structure HistoryEntry where
  kind : HistoryKind
  task : String
  result : String
deriving DecidableEq, Repr

/-- The newest `cap` of some entries. -/
def newest {α : Type} (cap : Nat) (entries : List α) : List α :=
  entries.drop (entries.length - cap)

theorem length_newest {α : Type} (cap : Nat) (entries : List α) :
    (newest cap entries).length = min entries.length cap := by
  simp only [newest, List.length_drop]
  omega

/-- The newest entries are a suffix. -/
theorem newest_suffix {α : Type} (cap : Nat) (entries : List α) : newest cap entries <:+ entries :=
  List.drop_suffix _ _

theorem newest_of_length_le {α : Type} {cap : Nat} {entries : List α} (h : entries.length ≤ cap) :
    newest cap entries = entries := by
  rw [newest, Nat.sub_eq_zero_of_le h, List.drop_zero]

/-- To leave out the oldest entries early is to leave them out late. -/
theorem newest_append_newest {α : Type} (cap : Nat) (first second : List α) :
    newest cap (newest cap first ++ second) = newest cap (first ++ second) := by
  have hfront : first.length - cap ≤ first.length := Nat.sub_le _ _
  have hlength : (newest cap first ++ second).length = min first.length cap + second.length := by
    rw [List.length_append, length_newest]
  rw [newest, hlength, newest, newest, ← List.drop_append_of_le_length hfront, List.drop_drop,
    List.length_append]
  congr 1
  omega

/-- The newest successful calls of an agent, no more than the cap. -/
structure History where
  entries : List HistoryEntry
  cap : Nat
  one_le_cap : 1 ≤ cap
  length_le_cap : entries.length ≤ cap
deriving DecidableEq, Repr

namespace History

/-- The cap of a new agent. -/
def standardCap : Nat := 1000

/-- The history of a new agent. -/
def empty : History := ⟨[], standardCap, by decide, by decide⟩

instance : Inhabited History := ⟨empty⟩

/-- The history after one more successful call. -/
def push (history : History) (entry : HistoryEntry) : History :=
  ⟨newest history.cap (history.entries ++ [entry]), history.cap, history.one_le_cap, by
    rw [length_newest]
    exact Nat.min_le_right _ _⟩

/-- The history with another cap; zero counts as one. -/
def withCap (history : History) (cap : Nat) : History :=
  ⟨newest (max cap 1) history.entries, max cap 1, Nat.le_max_right _ _, by
    rw [length_newest]
    exact Nat.min_le_right _ _⟩

end History

end Ensemble
