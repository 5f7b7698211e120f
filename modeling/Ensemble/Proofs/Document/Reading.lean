/-
# Reading what was written

When the members of a record say the fields of a structure, the structure is read. A field is said
by a member with its name, or by no such member when the field has a value for that. Lists and
contexts are read back when their parts are.
-/

import Ensemble.Context
import Ensemble.Proofs.Dictionary

namespace Ensemble

variable {α β : Type}

/-! ## Looking for members -/

namespace Value

/-- Of several members with a key the last counts. -/
theorem member?_cons (entry : String × Value) (rest : List (String × Value)) (key : String) :
    member? (entry :: rest) key =
      (member? rest key).or (if entry.1 = key then some entry.2 else none) := by
  rw [member?, List.reverse_cons, List.find?_append, List.find?_singleton, member?]
  by_cases hkey : entry.1 = key
  · cases rest.reverse.find? fun entry => entry.1 == key <;> simp [hkey]
  · cases rest.reverse.find? fun entry => entry.1 == key <;> simp [hkey]

@[simp] theorem member?_nil (key : String) : member? [] key = none := rfl

theorem member?_append (first second : List (String × Value)) (key : String) :
    member? (first ++ second) key = (member? second key).or (member? first key) := by
  induction first with
  | nil => simp
  | cons entry rest ih => rw [List.cons_append, member?_cons, ih, member?_cons, Option.or_assoc]

/-- When every value is changed alike, the same members are found. -/
theorem member?_map (change : Value → Value) (members : List (String × Value)) (key : String) :
    member? (members.map fun member => (member.1, change member.2)) key =
      (member? members key).map change := by
  induction members with
  | nil => rfl
  | cons member rest ih =>
      rw [List.map_cons, member?_cons, member?_cons, ih]
      cases member? rest key with
      | some found => rfl
      | none =>
          simp only [Option.map_none, Option.none_or]
          split <;> rfl

/-- A member that is found is one of the members. -/
theorem mem_of_member?_eq_some {members : List (String × Value)} {key : String} {found : Value}
    (h : member? members key = some found) : found ∈ members.map Prod.snd := by
  obtain ⟨entry, hentry, rfl⟩ := Option.map_eq_some_iff.1 h
  exact List.mem_map_of_mem (List.mem_reverse.1 (List.mem_of_find?_eq_some hentry))

/-- A value that may be absent is found under its key, and nothing under another. -/
theorem member?_optionalMember (key name : String) (encode : α → Value) (value : Option α) :
    member? (optionalMember key encode value) name =
      if key = name then value.map encode else none := by
  cases value with
  | none => simp [optionalMember]
  | some value => simp [optionalMember, member?_cons]

end Value

/-! ## Structures -/

namespace Fields

theorem fit_eq_complete_iff {name : String} {decode : Value → Decoded α} {found : Value}
    {value : α} : fit name decode found = .complete value ↔ decode found = .ok value := by
  rw [fit]
  cases decode found <;> simp

/-- Two groups of fields are read when the one and the other is. -/
theorem read_both_eq_complete_iff {build : Fields (α → β)} {argument : Fields α}
    {members : Members} {value : β} :
    (build.both argument).read members = .complete value ↔
      ∃ f found, build.read members = .complete f ∧
        argument.read (members.drop build.count) = .complete found ∧ f found = value := by
  have hunfold : (build.both argument).read members =
      (build.read members).both (argument.read (members.drop build.count)) := rfl
  rw [hunfold]
  cases build.read members <;> cases argument.read (members.drop build.count) <;>
    simp [Reading.both]

/-- In a record each group of fields looks at all members. -/
theorem read_both_keyed (build : Fields (α → β)) (argument : Fields α)
    (members : List (String × Value)) :
    (build.both argument).read (.keyed members) =
      (build.read (.keyed members)).both (argument.read (.keyed members)) := rfl

/-- The members of a record say the fields of a structure. -/
def Reads (fields : Fields α) (members : List (String × Value)) (value : α) : Prop :=
  fields.read (.keyed members) = .complete value

namespace Reads

variable {members : List (String × Value)} {name : String} {decode : Value → Decoded α}

theorem none (value : α) : (Fields.none value).Reads members value := rfl

theorem both {build : Fields (α → β)} {argument : Fields α} {f : α → β} {value : α}
    (hbuild : build.Reads members f) (hargument : argument.Reads members value) :
    (build.both argument).Reads members (f value) :=
  read_both_eq_complete_iff.2 ⟨f, value, hbuild, hargument, rfl⟩

theorem field {absent : Reading α} {found : Value} {value : α}
    (hfound : Value.member? members name = some found) (hvalue : decode found = .ok value) :
    (Fields.field name decode absent).Reads members value := by
  simp only [Reads, Fields.field, hfound, fit, hvalue]

theorem required {found : Value} {value : α} (hfound : Value.member? members name = some found)
    (hvalue : decode found = .ok value) : (Fields.required name decode).Reads members value :=
  field hfound hvalue

theorem optional {absent : α} {found : Value} {value : α}
    (hfound : Value.member? members name = some found) (hvalue : decode found = .ok value) :
    (Fields.optional name decode absent).Reads members value :=
  field hfound hvalue

/-- A field that no member says has its value for that. -/
theorem missing {absent : α} (hnone : Value.member? members name = Option.none) :
    (Fields.optional name decode absent).Reads members absent := by
  simp only [Reads, Fields.optional, Fields.field, hnone]

/-- A value that may be absent, and that is not written as null. -/
theorem perhaps {encode : α → Value} {value : Option α}
    (hfound : Value.member? members name = value.map encode)
    (hvalue : ∀ present, decode (encode present) = .ok present ∧ encode present ≠ .null) :
    (Fields.optional name (Value.decodeOptional decode) Option.none).Reads members value := by
  cases value with
  | none => exact missing hfound
  | some present =>
      obtain ⟨hread, hwritten⟩ := hvalue present
      refine optional hfound ?_
      rw [Value.decodeOptional, hread]
      · rfl
      · exact hwritten

end Reads

/-- The members of a record say the fields of a structure, but for one whose value does not fit. -/
def Misfits (fields : Fields α) (members : List (String × Value)) (mismatch : Mismatch) : Prop :=
  ∃ name, fields.read (.keyed members) = .faulty [.unfit name mismatch]

namespace Misfits

variable {members : List (String × Value)} {name : String} {decode : Value → Decoded α}
  {build : Fields (α → β)} {argument : Fields α} {mismatch : Mismatch}

theorem optional {absent : α} {found : Value} (hfound : Value.member? members name = some found)
    (hvalue : decode found = .error mismatch) :
    (Fields.optional name decode absent).Misfits members mismatch :=
  ⟨name, by simp only [Fields.optional, Fields.field, hfound, fit, hvalue]⟩

/-- The field that does not fit is the last. -/
theorem last {f : α → β} (hbuild : build.Reads members f)
    (hargument : argument.Misfits members mismatch) :
    (build.both argument).Misfits members mismatch := by
  obtain ⟨name, hfault⟩ := hargument
  refine ⟨name, ?_⟩
  rw [read_both_keyed, hbuild, hfault]
  rfl

/-- The field that does not fit is one before the last. -/
theorem before {value : α} (hbuild : build.Misfits members mismatch)
    (hargument : argument.Reads members value) :
    (build.both argument).Misfits members mismatch := by
  obtain ⟨name, hfault⟩ := hbuild
  refine ⟨name, ?_⟩
  rw [read_both_keyed, hfault, hargument]
  rfl

end Misfits

/-- A structure is read of a record whose members say its fields. -/
theorem decode_record_eq_ok_iff {fields : Fields α} {members : List (String × Value)} {value : α}
    {name : String} {origin : Origin} :
    fields.decode name origin (.record members) = .ok value ↔ fields.Reads members value := by
  rw [decode, Reads]
  cases fields.read (.keyed members) <;> simp

/-- A structure is read of a list of its fields that is not too long. -/
theorem decode_list_eq_ok_iff {fields : Fields α} {items : List Value} {value : α}
    {name : String} {origin : Origin} :
    fields.decode name origin (.list items) = .ok value ↔
      fields.read (.placed items) = .complete value ∧
        ¬(fields.count < items.length ∧ origin ≠ .table) := by
  rw [decode]
  cases fields.read (.placed items) with
  | faulty faults => simp
  | complete found =>
      simp only
      split
      next hmany => simp [hmany]
      next hfew => simp [hfew]

/-- If one field does not fit, that is reported. -/
theorem decode_record_of_misfits {fields : Fields α} {members : List (String × Value)}
    {mismatch : Mismatch} (h : fields.Misfits members mismatch) (name : String) (origin : Origin) :
    fields.decode name origin (.record members) = .error mismatch := by
  obtain ⟨field, hfault⟩ := h
  rw [decode, hfault]
  rfl

/-- A structure whose fields are said is read. -/
theorem decode_record {fields : Fields α} {members : List (String × Value)} {value : α}
    (h : fields.Reads members value) (name : String) (origin : Origin) :
    fields.decode name origin (.record members) = .ok value :=
  decode_record_eq_ok_iff.2 h

end Fields

/-! ## Lists and dictionaries -/

namespace Value

variable {encode : α → Value} {decode : Value → Decoded α}

theorem decodeText_text (value : String) : decodeText (.text value) = .ok value := rfl

/-- What is read and may be absent is read as it is when it is present. -/
theorem decode_of_decodeOptional {found : Value} {value : α}
    (h : decodeOptional decode found = .ok (some value)) : decode found = .ok value := by
  have hpresent : ∀ result : Decoded α, result.map some = .ok (some value) →
      result = .ok value := by
    rintro (mismatch | other) hresult
    · cases hresult
    · exact congrArg Except.ok (Option.some.inj (Except.ok.inj hresult))
  cases found with
  | null => cases h
  | _ => exact hpresent _ h

/-- A whole number below the bound is read. -/
theorem decodeWhole_natCast {count bound : Nat} (h : count < bound) (expected : String) :
    decodeWhole bound expected (.number (.integer count)) = .ok count := by
  have hfits : 0 ≤ (count : Int) ∧ (count : Int) < (bound : Nat) :=
    ⟨Int.natCast_nonneg count, Int.ofNat_lt.2 h⟩
  rw [decodeWhole, if_pos hfits, Int.toNat_natCast]

theorem decodeItems_map {items : List α}
    (h : ∀ item ∈ items, decode (encode item) = .ok item) :
    decodeItems decode (items.map encode) = .ok items := by
  induction items with
  | nil => rfl
  | cons item rest ih =>
      have hrest := ih fun other hother => h other (List.mem_cons_of_mem _ hother)
      rw [List.map_cons, decodeItems, h item List.mem_cons_self, hrest]
      rfl

theorem decodeList_map {items : List α} (h : ∀ item, decode (encode item) = .ok item) :
    decodeList decode (.list (items.map encode)) = .ok items :=
  decodeItems_map fun item _ => h item

theorem decodeList_text (texts : List String) :
    decodeList decodeText (.list (texts.map text)) = .ok texts :=
  decodeList_map decodeText_text

theorem decodeMembers_map {entries : List (String × α)}
    (h : ∀ item, decode (encode item) = .ok item) :
    decodeMembers decode (entries.map fun entry => (entry.1, encode entry.2)) = .ok entries := by
  induction entries with
  | nil => rfl
  | cons entry rest ih =>
      rw [List.map_cons, decodeMembers, h entry.2, ih]
      rfl

theorem decodeDictionary_map (dictionary : Dictionary α)
    (h : ∀ item, decode (encode item) = .ok item) :
    decodeDictionary decode
      (.record (dictionary.entries.map fun entry => (entry.1, encode entry.2))) =
        .ok dictionary := by
  rw [decodeDictionary, decodeMembers_map h]
  exact congrArg Except.ok dictionary.ofList_entries

end Value

/-- A context is read back. -/
theorem Context.decode_encode (context : Context) : Context.decode context.encode = .ok context :=
  Value.decodeDictionary_map context fun datum => congrArg Except.ok datum.ofValue_value

end Ensemble
