/-
# Data

A datum is a value in normal form: the members of its records, at every depth, ascend by key
without repetition. Two data are equal when they hold the same, in whatever order a document
wrote it. Prompts, memories and contexts hold data.
-/

import Ensemble.Document.Value

namespace Ensemble

namespace Value

mutual

/-- Normal form is kept. -/
theorem normalize_normalize (value : Value) : value.normalize.normalize = value.normalize := by
  cases value with
  | list items => simp [normalize, normalizeItems_normalizeItems items]
  | record members =>
    have hmembers : ∀ member ∈ normalizeMembers members, member.2.normalize = member.2 :=
      isNormal_of_mem_normalizeMembers members
    have hfixed : normalizeMembers (Dictionary.ofList (normalizeMembers members)).entries =
        (Dictionary.ofList (normalizeMembers members)).entries :=
      normalizeMembers_of_forall fun member hmember =>
        hmembers member (Dictionary.mem_ofList hmember)
    simp [normalize, hfixed]
  | null => rfl
  | boolean => rfl
  | number => rfl
  | text => rfl

/-- Items in normal form keep it. -/
theorem normalizeItems_normalizeItems (items : List Value) :
    normalizeItems (normalizeItems items) = normalizeItems items := by
  cases items with
  | nil => rfl
  | cons item rest =>
    simp [normalizeItems, normalize_normalize item, normalizeItems_normalizeItems rest]

/-- The members' values are in normal form. -/
theorem isNormal_of_mem_normalizeMembers (members : List (String × Value)) :
    ∀ member ∈ normalizeMembers members, member.2.normalize = member.2 := by
  cases members with
  | nil => simp [normalizeMembers]
  | cons head rest =>
    intro member hmember
    simp only [normalizeMembers, List.mem_cons] at hmember
    rcases hmember with rfl | hmember
    · exact normalize_normalize head.2
    · exact isNormal_of_mem_normalizeMembers rest member hmember

/-- Members whose values are in normal form stay as they are. -/
theorem normalizeMembers_of_forall {members : List (String × Value)}
    (h : ∀ member ∈ members, member.2.normalize = member.2) :
    normalizeMembers members = members := by
  cases members with
  | nil => rfl
  | cons head rest =>
    have hrest := normalizeMembers_of_forall fun member hmember =>
      h member (List.mem_cons_of_mem _ hmember)
    have hhead := h head List.mem_cons_self
    obtain ⟨key, value⟩ := head
    simp only [normalizeMembers, hrest]
    rw [hhead]

end

end Value

/-- A value in normal form. -/
structure Datum where
  value : Value
  isNormal : value.normalize = value

namespace Datum

/-- The normal form of a value. -/
def ofValue (value : Value) : Datum :=
  ⟨value.normalize, value.normalize_normalize⟩

/-- A text as a datum. -/
def text (value : String) : Datum :=
  ⟨.text value, rfl⟩

theorem text_inj {first second : String} : text first = text second ↔ first = second :=
  ⟨fun h => Value.text.inj (congrArg value h), congrArg text⟩

instance : Inhabited Datum := ⟨⟨.null, rfl⟩⟩

/-- Data are equal when their values are. -/
theorem ext {left right : Datum} (h : left.value = right.value) : left = right := by
  obtain ⟨value, hleft⟩ := left
  obtain ⟨value', hright⟩ := right
  subst h
  rfl

/-- A datum is the normal form of its value. -/
@[simp] theorem ofValue_value (datum : Datum) : ofValue datum.value = datum :=
  ext datum.isNormal

end Datum

end Ensemble
