/-
# Members in any order

Two documents say the same when they differ only in the order in which the members of their records
are written, at whatever depth. As long as no record has two members with one key, they have one
normal form, so nothing that reads data can tell them apart.
-/

import Ensemble.Proofs.Document.Steadiness

namespace Ensemble

/-- What holds of all items still holds of all when one of them is replaced. -/
theorem forall_mem_replaced {α : Type} {p : α → Prop} {front behind : List α} {old new : α}
    (h : ∀ item ∈ front ++ old :: behind, p item) (hnew : p old → p new) :
    ∀ item ∈ front ++ new :: behind, p item := by
  intro item hitem
  rcases List.mem_append.1 hitem with hfront | hrest
  · exact h item (List.mem_append_left _ hfront)
  · rcases List.mem_cons.1 hrest with rfl | hbehind
    · exact hnew (h old (List.mem_append_right _ List.mem_cons_self))
    · exact h item (List.mem_append_right _ (List.mem_cons_of_mem _ hbehind))

namespace Value

/-- No record, at whatever depth, has two members with one key. -/
inductive KeysDistinct : Value → Prop
  | null : KeysDistinct null
  | boolean (value : Bool) : KeysDistinct (boolean value)
  | number (value : Number) : KeysDistinct (number value)
  | text (value : String) : KeysDistinct (text value)
  | list {items : List Value} (hitems : ∀ item ∈ items, KeysDistinct item) :
      KeysDistinct (list items)
  | record {members : List (String × Value)} (hkeys : (members.map Prod.fst).Nodup)
      (hvalues : ∀ member ∈ members, KeysDistinct member.2) : KeysDistinct (record members)

/-- The members of records are put in another order, in any record at any depth, as often as one
likes. -/
inductive Reordered : Value → Value → Prop
  | refl (value : Value) : Reordered value value
  | trans {first second third : Value} (hfirst : Reordered first second)
      (hsecond : Reordered second third) : Reordered first third
  | members {members others : List (String × Value)} (h : members.Perm others) :
      Reordered (record members) (record others)
  | inMember (front behind : List (String × Value)) (key : String) {value other : Value}
      (h : Reordered value other) :
      Reordered (record (front ++ (key, value) :: behind))
        (record (front ++ (key, other) :: behind))
  | inItem (front behind : List Value) {item other : Value} (h : Reordered item other) :
      Reordered (list (front ++ item :: behind)) (list (front ++ other :: behind))

variable {value other : Value}

/-- Keys stay distinct in another order. -/
theorem KeysDistinct.reordered (hdistinct : value.KeysDistinct) (h : Reordered value other) :
    other.KeysDistinct := by
  induction h with
  | refl => exact hdistinct
  | trans _ _ ihfirst ihsecond => exact ihsecond (ihfirst hdistinct)
  | members hperm =>
      cases hdistinct with
      | record hkeys hvalues =>
          refine .record ((hperm.map Prod.fst).nodup_iff.1 hkeys) fun member hmember => ?_
          exact hvalues member (hperm.mem_iff.2 hmember)
  | inMember front behind key _ ih =>
      cases hdistinct with
      | record hkeys hvalues =>
          exact .record (by simpa using hkeys) (forall_mem_replaced hvalues ih)
  | inItem front behind _ ih =>
      cases hdistinct with
      | list hitems =>
          exact .list (forall_mem_replaced hitems ih)

/-- Values with distinct keys that differ only in the order of members have one normal form. -/
theorem normalize_eq_of_reordered (hdistinct : value.KeysDistinct) (h : Reordered value other) :
    value.normalize = other.normalize := by
  induction h with
  | refl => rfl
  | trans hfirst _ ihfirst ihsecond =>
      exact (ihfirst hdistinct).trans (ihsecond (hdistinct.reordered hfirst))
  | members hperm =>
      cases hdistinct with
      | record hkeys _ =>
          rw [normalize_record, normalize_record, orderedMembers, orderedMembers,
            normalizeMembers_eq_map, normalizeMembers_eq_map,
            Dictionary.ofList_perm (hperm.map _)]
          rwa [List.map_map]
  | inMember front behind key _ ih =>
      cases hdistinct with
      | record _ hvalues =>
          have hsame := ih (hvalues _ (List.mem_append_right _ List.mem_cons_self))
          simp only [normalize_record, orderedMembers, normalizeMembers_eq_map, List.map_append,
            List.map_cons, hsame]
  | inItem front behind _ ih =>
      cases hdistinct with
      | list hitems =>
          have hsame := ih (hitems _ (List.mem_append_right _ List.mem_cons_self))
          simp only [normalize, normalizeItems_eq_map, List.map_append, List.map_cons, hsame]

end Value

namespace Context

/-- Every record is read as a context. -/
theorem decode_record (members : List (String × Value)) :
    decode (.record members) =
      .ok (.ofList (members.map fun member => (member.1, Datum.ofValue member.2))) := by
  have hmembers : Value.decodeMembers Value.decodeDatum members =
      .ok (members.map fun member => (member.1, Datum.ofValue member.2)) := by
    rw [Value.decodeMembers_eq_ok_iff, Correspond, List.forall₂_map_right_iff,
      List.forall₂_same]
    exact fun _ _ => ⟨rfl, rfl⟩
  rw [decode, Value.decodeDictionary, hmembers]
  rfl

/-- A context is read as the same in whatever order the members of its document are written. -/
theorem decode_of_reordered {value other : Value} {context : Context}
    (hdistinct : value.KeysDistinct) (h : Value.Reordered value other)
    (hread : decode value = .ok context) : decode other = .ok context := by
  have hsame := Value.normalize_eq_of_reordered hdistinct h
  have hnormal : decode value.normalize = .ok context := Value.steady_context hread
  rw [hsame] at hnormal
  -- Only records are read as contexts, and only they have records as normal forms.
  cases other with
  | record members =>
      have hother := decode_record members
      have hagain := Value.steady_context hother
      rw [hother, ← hagain, hnormal]
  | _ => simp [Value.normalize, decode, Value.decodeDictionary] at hnormal

end Context

end Ensemble
