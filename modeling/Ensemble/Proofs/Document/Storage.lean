/-
# Values as documents are stored

A stored document has its members in order and knows one width of floats: a single is stored as the
double that is equal to it. Where the members of a record say the fields of a structure, those of
the stored record say them, too. A document that was stored has no singles, and neither has any
part of it.
-/

import Ensemble.Proofs.Document.Steadiness
import Ensemble.Proofs.Number.Rounding

namespace Ensemble

/-- A number of which no width is known: a single becomes the double equal to it. -/
def Number.widened : Number → Number
  | integer value => integer value
  | double value => double value
  | single value => double (value.convert .double)

namespace Value

mutual

/-- The value with its singles, at every depth, as doubles. -/
def widened : Value → Value
  | list items => list (widenItems items)
  | record members => record (widenMembers members)
  | number value => number value.widened
  | null => null
  | boolean value => boolean value
  | text value => text value

/-- Every item widened. -/
def widenItems : List Value → List Value
  | [] => []
  | item :: rest => widened item :: widenItems rest

/-- Every member's value widened. -/
def widenMembers : List (String × Value) → List (String × Value)
  | [] => []
  | (key, value) :: rest => (key, widened value) :: widenMembers rest

end

/-- The value that is stored. -/
def stored (value : Value) : Value :=
  value.widened.normalize

/-- The members that are stored. -/
def storedMembers (members : List (String × Value)) : List (String × Value) :=
  orderedMembers (widenMembers members)

theorem stored_record (members : List (String × Value)) :
    (record members).stored = record (storedMembers members) := by
  rw [stored, widened, normalize_record, storedMembers]

theorem widenItems_eq_map (items : List Value) : widenItems items = items.map widened := by
  induction items with
  | nil => rfl
  | cons item rest ih => rw [widenItems, ih, List.map_cons]

theorem widenMembers_eq_map (members : List (String × Value)) :
    widenMembers members = members.map fun member => (member.1, member.2.widened) := by
  induction members with
  | nil => rfl
  | cons member rest ih =>
      obtain ⟨key, value⟩ := member
      rw [widenMembers, ih, List.map_cons]

/-- Of what is stored, the same members are found. -/
theorem member?_storedMembers (members : List (String × Value)) (key : String) :
    member? (storedMembers members) key = (member? members key).map stored := by
  rw [storedMembers, member?_orderedMembers, widenMembers_eq_map, member?_map, Option.map_map]
  rfl

/-! ## Documents without singles -/

/-- A value without singles: those that come of writing are the only ones that there are. -/
def IsWide (value : Value) : Prop :=
  value.widened = value

theorem isWide_list_iff {items : List Value} :
    (list items).IsWide ↔ ∀ item ∈ items, item.IsWide := by
  rw [IsWide, widened, widenItems_eq_map, list.injEq]
  exact (Eq.congr_right (List.map_id items).symm).trans List.map_inj_left

theorem isWide_record_iff {members : List (String × Value)} :
    (record members).IsWide ↔ ∀ member ∈ members, member.2.IsWide := by
  rw [IsWide, widened, widenMembers_eq_map, record.injEq]
  refine (Eq.congr_right (List.map_id members).symm).trans (List.map_inj_left.trans ?_)
  exact forall₂_congr fun member _ => ⟨congrArg Prod.snd, fun h => congrArg (Prod.mk member.1) h⟩

/-- The items of a list and the values of a record. -/
def parts : Value → List Value
  | list items => items
  | record members => members.map Prod.snd
  | _ => []

/-- What has no singles has none in any part. -/
theorem IsWide.of_mem_parts {value part : Value} (h : value.IsWide) (hpart : part ∈ value.parts) :
    part.IsWide := by
  cases value with
  | list items => exact isWide_list_iff.1 h part hpart
  | record members =>
      obtain ⟨member, hmember, rfl⟩ := List.mem_map.1 hpart
      exact isWide_record_iff.1 h member hmember
  | _ => cases hpart

/-- A single that is read of what has no singles is in the form of its format. -/
theorem IsWide.canonical_of_decodeSingle {found : Value} (h : found.IsWide) {number : Binary32}
    (hread : decodeSingle found = .ok number) : number.Canonical := by
  cases found with
  | number written =>
      cases written with
      | integer whole =>
          obtain rfl := Except.ok.inj hread
          exact Binary.canonical_ofInt BinaryFormat.sound_single whole
      | double value =>
          obtain rfl := Except.ok.inj hread
          exact Binary.canonical_convert BinaryFormat.sound_single value
      | single value => cases Value.number.inj h
  | _ => cases hread

end Value

/-! ## The fields of what was read -/

/-- The values of the members or the items. -/
def Members.values : Members → List Value
  | keyed members => members.map Prod.snd
  | placed items => items

theorem Members.mem_values_of_drop {members : Members} {count : Nat} {found : Value}
    (h : found ∈ (members.drop count).values) : found ∈ members.values := by
  cases members with
  | keyed members => exact h
  | placed items => exact List.mem_of_mem_drop h

namespace Fields

variable {α : Type}

/-- A field is read of one of the values, unless it is missing. -/
theorem read_optional {name : String} {decode : Value → Decoded α} {absent : α}
    {members : Members} {value : α}
    (h : (optional name decode absent).read members = .complete value) :
    value = absent ∨ ∃ found ∈ members.values, decode found = .ok value := by
  cases members with
  | keyed members =>
      simp only [optional, field] at h
      cases hfound : Value.member? members name with
      | none =>
          rw [hfound] at h
          exact .inl (Reading.complete.inj h).symm
      | some found =>
          rw [hfound] at h
          exact .inr ⟨found, Value.mem_of_member?_eq_some hfound, fit_eq_complete_iff.1 h⟩
  | placed items =>
      cases items with
      | nil => exact .inl (Reading.complete.inj h).symm
      | cons found rest => exact .inr ⟨found, List.mem_cons_self, fit_eq_complete_iff.1 h⟩

/-- A structure is read of parts of a value. -/
theorem exists_read_of_decode {fields : Fields α} {name : String} {origin : Origin}
    {value : Value} {result : α} (h : fields.decode name origin value = .ok result) :
    ∃ members : Members, members.values = value.parts ∧ fields.read members = .complete result := by
  cases value with
  | record members => exact ⟨.keyed members, rfl, decode_record_eq_ok_iff.1 h⟩
  | list items => exact ⟨.placed items, rfl, (decode_list_eq_ok_iff.1 h).1⟩
  | _ => cases h

end Fields

end Ensemble
