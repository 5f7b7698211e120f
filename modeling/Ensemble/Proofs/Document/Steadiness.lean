/-
# The order of members does not matter

A value that can be read is read as the same when the members of its records are put in order and
those that are overridden are left out. Every way of reading is shown to be steady in this sense,
from single values up to structures.
-/

import Ensemble.Proofs.Document.Reading
import Mathlib.Data.List.Forall2

namespace Ensemble

variable {α β : Type}

/-! ## Members in order -/

namespace Dictionary

/-- Of several entries for one key the last is found. -/
theorem get?_insertAll_member? (base : Dictionary Value) (entries : List (String × Value))
    (key : String) :
    (base.insertAll entries).get? key = (Value.member? entries key).or (base.get? key) := by
  induction entries generalizing base with
  | nil => rfl
  | cons entry rest ih =>
      have hrest := ih (base.insert entry.1 entry.2)
      rw [Value.member?_cons, Option.or_assoc]
      refine hrest.trans (congrArg _ ?_)
      rw [get?_insert]
      split <;> rfl

/-- In a dictionary a member is found as an entry is. -/
theorem member?_entries (dictionary : Dictionary Value) (key : String) :
    Value.member? dictionary.entries key = dictionary.get? key := by
  have hall := get?_insertAll_member? empty dictionary.entries key
  rw [get?_empty, Option.or_none] at hall
  rw [← hall]
  exact congrArg (fun other : Dictionary Value => other.get? key) dictionary.ofList_entries

end Dictionary

namespace Value

theorem normalizeMembers_eq_map (members : List (String × Value)) :
    normalizeMembers members = members.map fun member => (member.1, member.2.normalize) := by
  induction members with
  | nil => rfl
  | cons member rest ih =>
      obtain ⟨key, value⟩ := member
      rw [normalizeMembers, ih, List.map_cons]

/-- The members of a record in normal form. -/
def orderedMembers (members : List (String × Value)) : List (String × Value) :=
  (Dictionary.ofList (normalizeMembers members)).entries

theorem normalize_record (members : List (String × Value)) :
    (record members).normalize = record (orderedMembers members) := by
  rw [normalize, orderedMembers]

/-- In order, the same members are found. -/
theorem member?_orderedMembers (members : List (String × Value)) (key : String) :
    member? (orderedMembers members) key = (member? members key).map normalize := by
  rw [orderedMembers, Dictionary.member?_entries, Dictionary.ofList,
    Dictionary.get?_insertAll_member?, Dictionary.get?_empty, Option.or_none,
    normalizeMembers_eq_map, member?_map]

/-! ## Single values, lists and dictionaries -/

/-- A way of reading that does not mind the order of members. -/
def Steady (decode : Value → Decoded α) : Prop :=
  ∀ ⦃value : Value⦄ ⦃result : α⦄, decode value = .ok result → decode value.normalize = .ok result

theorem steady_decodeText : Steady decodeText := by
  intro value result h
  cases value with
  | text text => exact h
  | _ => cases h

theorem steady_decodeBoolean : Steady decodeBoolean := by
  intro value result h
  cases value with
  | boolean boolean => exact h
  | _ => cases h

theorem steady_decodeWhole (bound : Nat) (expected : String) :
    Steady (decodeWhole bound expected) := by
  intro value result h
  cases value with
  | number number => exact h
  | _ => cases h

theorem steady_decodeDatum : Steady decodeDatum := by
  intro value result h
  obtain rfl := Except.ok.inj h
  exact congrArg Except.ok (Datum.ext value.normalize_normalize)

theorem Steady.map {decode : Value → Decoded α} (h : Steady decode) (f : α → β) :
    Steady fun value => (decode value).map f := by
  intro value result hread
  cases hdecoded : decode value with
  | error mismatch => simp [hdecoded, Except.map] at hread
  | ok read =>
      simp only [hdecoded] at hread
      simp only [h hdecoded]
      exact hread

theorem Steady.optional {decode : Value → Decoded α} (h : Steady decode) :
    Steady (decodeOptional decode) := by
  intro value result hread
  cases value with
  | null => exact hread
  | list items => exact h.map some hread
  | record members => exact h.map some hread
  | boolean boolean => exact hread
  | number number => exact hread
  | text text => exact hread

/-- What one value decides about how another is read, it decides in normal form, too. -/
theorem Steady.select {select : Value → Decoded α} {decode : α → Value → Decoded β}
    (hselect : Steady select) (hdecode : ∀ kind, Steady (decode kind)) {tag content : Value}
    {result : β} (h : (select tag >>= fun kind => decode kind content) = .ok result) :
    (select tag.normalize >>= fun kind => decode kind content.normalize) = .ok result := by
  cases hkind : select tag with
  | error mismatch =>
      rw [hkind] at h
      cases h
  | ok kind =>
      rw [hkind] at h
      rw [hselect hkind]
      exact hdecode kind h

theorem decodeItems_normalizeItems {decode : Value → Decoded α} (h : Steady decode)
    {items : List Value} {results : List α} (hread : decodeItems decode items = .ok results) :
    decodeItems decode (normalizeItems items) = .ok results := by
  induction items generalizing results with
  | nil => exact hread
  | cons item rest ih =>
      rw [decodeItems] at hread
      cases hitem : decode item with
      | error mismatch => simp [hitem, bind, Except.bind] at hread
      | ok result =>
          cases hrest : decodeItems decode rest with
          | error mismatch => simp [hitem, hrest, bind, Except.bind] at hread
          | ok others =>
              rw [hitem, hrest] at hread
              rw [normalizeItems, decodeItems, h hitem, ih hrest]
              exact hread

theorem Steady.list {decode : Value → Decoded α} (h : Steady decode) :
    Steady (decodeList decode) := by
  intro value result hread
  cases value with
  | list items => exact decodeItems_normalizeItems h hread
  | _ => cases hread

end Value

/-! ### Dictionaries -/

/-- Entries that correspond: the keys are the same, and the values are related. -/
def Correspond (R : α → β → Prop) (entries : List (String × α)) (others : List (String × β)) :
    Prop :=
  List.Forall₂ (fun entry other => other.1 = entry.1 ∧ R entry.2 other.2) entries others

namespace Correspond

variable {R : α → β → Prop} {entries : List (String × α)} {others : List (String × β)}

/-- Entries still correspond when two related values are put in under one key. -/
theorem insertEntry (hall : Correspond R entries others) {key : String} {left : α} {right : β}
    (h : R left right) :
    Correspond R (insertEntry key left entries) (Ensemble.insertEntry key right others) := by
  induction hall with
  | nil => exact .cons ⟨rfl, h⟩ .nil
  | @cons entry other entries others hhead hrest ih =>
      rw [Ensemble.insertEntry, Ensemble.insertEntry, hhead.1]
      split
      · exact .cons ⟨rfl, h⟩ (.cons hhead hrest)
      · split
        · exact .cons ⟨rfl, h⟩ hrest
        · exact .cons hhead ih

theorem insertAll (hall : Correspond R entries others) {base : Dictionary α}
    {base' : Dictionary β} (hbase : Correspond R base.entries base'.entries) :
    Correspond R (base.insertAll entries).entries (base'.insertAll others).entries := by
  induction hall generalizing base base' with
  | nil => exact hbase
  | @cons entry other entries others hhead _ ih =>
      obtain ⟨key, left⟩ := entry
      obtain ⟨key', right⟩ := other
      obtain ⟨rfl, h⟩ := hhead
      exact @ih (base.insert _ left) (base'.insert _ right) (hbase.insertEntry h)

end Correspond

namespace Value

/-- Members are read when each value is, under the key that it has. -/
theorem decodeMembers_eq_ok_iff {decode : Value → Decoded α} {members : List (String × Value)}
    {entries : List (String × α)} :
    decodeMembers decode members = .ok entries ↔
      Correspond (fun found value => decode found = .ok value) members entries := by
  induction members generalizing entries with
  | nil =>
      rw [decodeMembers, Correspond, List.forall₂_nil_left_iff]
      exact ⟨fun h => (Except.ok.inj h).symm, fun h => congrArg Except.ok h.symm⟩
  | cons member rest ih =>
      obtain ⟨key, found⟩ := member
      rw [decodeMembers, Correspond, List.forall₂_cons_left_iff]
      cases hfound : decode found with
      | error mismatch =>
          constructor
          · intro h
            simp [bind, Except.bind] at h
          · rintro ⟨entry, others, ⟨-, hread⟩, -⟩
            cases hread
      | ok value =>
          cases hrest : decodeMembers decode rest with
          | error mismatch =>
              constructor
              · intro h
                simp [bind, Except.bind] at h
              · rintro ⟨entry, others, -, hothers, -⟩
                cases hrest.symm.trans (ih.2 hothers)
          | ok others =>
              constructor
              · intro h
                obtain rfl := Except.ok.inj h
                exact ⟨(key, value), others, ⟨rfl, rfl⟩, ih.1 hrest, rfl⟩
              · rintro ⟨⟨key', value'⟩, others', ⟨rfl, hvalue⟩, hothers, rfl⟩
                obtain rfl := Except.ok.inj hvalue
                obtain rfl := Except.ok.inj (hrest.symm.trans (ih.2 hothers))
                rfl

/-- A dictionary does not depend on the order in which its members are written. -/
theorem Steady.dictionary {decode : Value → Decoded α} (h : Steady decode) :
    Steady (decodeDictionary decode) := by
  intro value result hread
  cases value with
  | record members =>
      rw [decodeDictionary] at hread
      cases hentries : decodeMembers decode members with
      | error mismatch => simp [hentries, Except.map] at hread
      | ok entries =>
          rw [hentries] at hread
          obtain rfl := Except.ok.inj hread
          have hnormal : Correspond (fun found value => decode found = .ok value)
              (normalizeMembers members) entries := by
            rw [normalizeMembers_eq_map, Correspond, List.forall₂_map_left_iff]
            exact (decodeMembers_eq_ok_iff.1 hentries).imp
              fun _ _ hmember => ⟨hmember.1, h hmember.2⟩
          have hordered := decodeMembers_eq_ok_iff.2 (hnormal.insertAll
            (show Correspond _ (Dictionary.empty : Dictionary Value).entries
              (Dictionary.empty : Dictionary α).entries from .nil))
          rw [normalize_record, decodeDictionary]
          exact (congrArg (Except.map Dictionary.ofList) hordered).trans
            (congrArg Except.ok (Dictionary.ofList entries).ofList_entries)
  | _ => cases hread

theorem steady_context : Steady Context.decode :=
  steady_decodeDatum.dictionary

/-! ## Variants -/

theorem isNoContent_normalize {origin : Origin} {content : Value}
    (h : content.isNoContent origin = true) : content.normalize.isNoContent origin = true := by
  cases content with
  | null => rfl
  | record members =>
      cases members with
      | nil => exact h
      | cons member rest => cases h
  | list items =>
      cases items with
      | nil => exact h
      | cons item rest => cases h
  | _ => cases h

theorem steady_decodeVariant (variants : List (String × α)) (origin : Origin) :
    Steady (decodeVariant variants origin) := by
  intro value result hread
  cases value with
  | text name => exact hread
  | record members =>
      match members with
      | [] => cases hread
      | [(name, content)] =>
          rw [decodeVariant] at hread
          have honly : (record [(name, content)]).normalize =
              record [(name, content.normalize)] := rfl
          rw [honly, decodeVariant]
          cases hvariant : variantNamed variants name with
          | error mismatch => simp [hvariant, bind, Except.bind] at hread
          | ok variant =>
              cases hcontent : content.isNoContent origin with
              | false => simp [hvariant, hcontent, bind, Except.bind] at hread
              | true =>
                  rw [hvariant, hcontent] at hread
                  rw [isNoContent_normalize hcontent]
                  exact hread
      | _ :: _ :: _ => cases hread
  | _ => cases hread

theorem steady_decodeTag (variants : List (String × α)) (origin : Origin) :
    Steady (decodeTag variants origin) := by
  intro value result hread
  cases value with
  | text name => exact hread
  | number number => exact hread
  | _ => cases hread

end Value

/-! ## Structures -/

/-- Members with their values in normal form, and in order under their keys. -/
def Members.normalize : Members → Members
  | keyed members => keyed (Value.orderedMembers members)
  | placed items => placed (Value.normalizeItems items)

theorem Value.normalizeItems_eq_map (items : List Value) :
    normalizeItems items = items.map Value.normalize := by
  induction items with
  | nil => rfl
  | cons item rest ih => rw [normalizeItems, ih, List.map_cons]

theorem Members.normalize_drop (members : Members) (count : Nat) :
    (members.drop count).normalize = members.normalize.drop count := by
  cases members with
  | keyed members => rfl
  | placed items =>
      simp only [drop, normalize, Value.normalizeItems_eq_map, List.map_drop]

namespace Fields

/-- Fields that are read as the same from members in normal form. -/
def Steady (fields : Fields α) : Prop :=
  ∀ ⦃members : Members⦄ ⦃value : α⦄, fields.read members = .complete value →
    fields.read members.normalize = .complete value

theorem steady_none (value : α) : (none value).Steady := fun _ _ h => h

theorem Steady.both {build : Fields (α → β)} {argument : Fields α} (hbuild : build.Steady)
    (hargument : argument.Steady) : (build.both argument).Steady := by
  intro members value hread
  obtain ⟨f, found, hleft, hright, rfl⟩ := read_both_eq_complete_iff.1 hread
  refine read_both_eq_complete_iff.2 ⟨f, found, hbuild hleft, ?_, rfl⟩
  rw [← Members.normalize_drop]
  exact hargument hright

theorem steady_fit {name : String} {decode : Value → Decoded α} (h : Value.Steady decode)
    {found : Value} {value : α} (hfit : fit name decode found = .complete value) :
    fit name decode found.normalize = .complete value :=
  fit_eq_complete_iff.2 (h (fit_eq_complete_iff.1 hfit))

theorem steady_field (name : String) {decode : Value → Decoded α} (absent : Reading α)
    (h : Value.Steady decode) : (field name decode absent).Steady := by
  intro members value hread
  cases members with
  | keyed members =>
      simp only [field, Members.normalize, Value.member?_orderedMembers] at hread ⊢
      cases hfound : Value.member? members name with
      | none =>
          rw [hfound] at hread
          exact hread
      | some found =>
          rw [hfound] at hread
          exact steady_fit h hread
  | placed items =>
      cases items with
      | nil => exact hread
      | cons found rest => exact steady_fit h hread

theorem steady_required (name : String) {decode : Value → Decoded α} (h : Value.Steady decode) :
    (required name decode).Steady :=
  steady_field name _ h

theorem steady_optional (name : String) {decode : Value → Decoded α} (absent : α)
    (h : Value.Steady decode) : (optional name decode absent).Steady :=
  steady_field name _ h

/-- A structure with steady fields is read steadily. -/
theorem Steady.decode {fields : Fields α} (h : fields.Steady) (name : String) (origin : Origin) :
    Value.Steady (fields.decode name origin) := by
  intro value result hread
  cases value with
  | record members =>
      have hnormal : fields.Reads (Value.orderedMembers members) result :=
        h (decode_record_eq_ok_iff.1 hread)
      rw [Value.normalize_record]
      exact decode_record_eq_ok_iff.2 hnormal
  | list items =>
      obtain ⟨hitems, hfew⟩ := decode_list_eq_ok_iff.1 hread
      -- Whether there are too many items is decided alike.
      have hlength : (Value.normalizeItems items).length = items.length := by
        rw [Value.normalizeItems_eq_map, List.length_map]
      rw [Value.normalize]
      exact decode_list_eq_ok_iff.2 ⟨h hitems, hlength ▸ hfew⟩
  | _ => cases hread

end Fields

end Ensemble
