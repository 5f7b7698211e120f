/-
# Result keys

Every position of a list of agent names gets a key of its own. A name that occurs once is its
own key. A repeated name is keyed by name and position, with a counter behind it when that key
is already taken.
-/

namespace Ensemble.ResultKeys

/-- Whether a name occurs more than once. -/
def isRepeated (names : List String) (name : String) : Bool :=
  decide (1 < names.count name)

/-- The key of a position before it is made free. -/
def base (name : String) (position : Nat) : String :=
  name ++ "#" ++ toString position

/-- The key of a position with a counter. -/
def counted (base : String) (counter : Nat) : String :=
  base ++ "." ++ toString counter

/-- The first of the counters from `counter` on whose key is not taken. Of more counters than
there are taken keys one is free, so `attempts` of at least their number are never used up. -/
def firstFreeCounter (taken : List String) (base : String) : Nat → Nat → Nat
  | 0, counter => counter
  | attempts + 1, counter =>
    if counted base counter ∈ taken then firstFreeCounter taken base attempts (counter + 1)
    else counter

/-- The key of a position, given the keys that are taken. -/
def freeKey (taken : List String) (base : String) : String :=
  if base ∈ taken then counted base (firstFreeCounter taken base taken.length 1) else base

/-- The keys of the names from a position on, given the keys that are taken. -/
def assign (names : List String) (taken : List String) : Nat → List String → List String
  | _, [] => []
  | position, name :: rest =>
    if isRepeated names name then
      let key := freeKey taken (base name position)
      key :: assign names (key :: taken) (position + 1) rest
    else name :: assign names taken (position + 1) rest

end ResultKeys

/-- The result keys of a list of agent names. Names that occur once are taken from the start. -/
def resultKeys (names : List String) : List String :=
  ResultKeys.assign names (names.filter fun name => !ResultKeys.isRepeated names name) 0 names

end Ensemble
