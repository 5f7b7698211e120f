/-
# Looking up merged dictionaries

What is found under a key after several entries were put in, and after one dictionary was laid
over another. A dictionary is determined by its look-ups, and an entry is found under its key
exactly when the dictionary holds it.
-/

import Ensemble.Context

namespace Ensemble

universe u

/-- In a list with distinct keys a search for a key finds the one item that has it. -/
theorem find?_key_eq_some_iff {β : Type u} {keyOf : β → String} {items : List β}
    (hdistinct : (items.map keyOf).Nodup) {key : String} {item : β} :
    items.find? (fun other => keyOf other == key) = some item ↔
      item ∈ items ∧ keyOf item = key := by
  induction items with
  | nil => simp
  | cons head rest ih =>
      rw [List.map_cons, List.nodup_cons] at hdistinct
      by_cases hhead : keyOf head = key
      · rw [List.find?_cons_of_pos (by simpa using hhead), Option.some.injEq]
        constructor
        · rintro rfl
          exact ⟨List.mem_cons_self, hhead⟩
        · rintro ⟨hmem, hitem⟩
          rcases List.mem_cons.1 hmem with rfl | hmem
          · rfl
          · refine absurd ?_ hdistinct.1
            rw [hhead, ← hitem]
            exact List.mem_map_of_mem hmem
      · rw [List.find?_cons_of_neg (by simpa using hhead), ih hdistinct.2]
        refine and_congr_left fun hitem => ?_
        have hne : item ≠ head := fun heq => hhead (heq ▸ hitem)
        rw [List.mem_cons, or_iff_right hne]

namespace Dictionary

variable {α : Type u}

theorem snd_find?_eq_some_iff {entries : List (String × α)}
    (hdistinct : (entries.map Prod.fst).Nodup) {key : String} {value : α} :
    (entries.find? fun entry => entry.1 == key).map Prod.snd = some value ↔
      (key, value) ∈ entries := by
  rw [Option.map_eq_some_iff]
  constructor
  · rintro ⟨entry, hfind, rfl⟩
    obtain ⟨hmem, rfl⟩ := (find?_key_eq_some_iff hdistinct).1 hfind
    exact hmem
  · intro hmem
    exact ⟨_, (find?_key_eq_some_iff hdistinct).2 ⟨hmem, rfl⟩, rfl⟩

/-- A value is found under a key exactly when the dictionary holds that entry. -/
theorem get?_eq_some_iff {dictionary : Dictionary α} {key : String} {value : α} :
    dictionary.get? key = some value ↔ (key, value) ∈ dictionary.entries :=
  snd_find?_eq_some_iff dictionary.nodup_keys

/-- Entries with different keys are found after they were put in, and what they do not cover is
found as before. -/
theorem get?_insertAll (base : Dictionary α) {entries : List (String × α)}
    (hdistinct : (entries.map Prod.fst).Nodup) (key : String) :
    (base.insertAll entries).get? key =
      ((entries.find? fun entry => entry.1 == key).map Prod.snd).or (base.get? key) := by
  induction entries generalizing base with
  | nil => simp [insertAll]
  | cons head rest ih =>
      rw [List.map_cons, List.nodup_cons] at hdistinct
      have hrest := ih (base.insert head.1 head.2) hdistinct.2
      rw [show base.insertAll (head :: rest) = (base.insert head.1 head.2).insertAll rest from rfl,
        hrest, get?_insert]
      by_cases heq : head.1 = key
      · have hnone : rest.find? (fun entry => entry.1 == key) = none := by
          rw [List.find?_eq_none]
          intro entry hentry hkey
          apply hdistinct.1
          rw [heq, ← (by simpa using hkey : entry.1 = key)]
          exact List.mem_map_of_mem hentry
        rw [hnone, List.find?_cons_of_pos (by simpa using heq), if_pos heq]
        rfl
      · rw [List.find?_cons_of_neg (by simpa using heq), if_neg heq]

/-- In a merged dictionary the overlay wins. -/
theorem get?_merge (base overlay : Dictionary α) (key : String) :
    (base.merge overlay).get? key = (overlay.get? key).or (base.get? key) :=
  get?_insertAll base overlay.nodup_keys key

theorem nodup_entries (dictionary : Dictionary α) : dictionary.entries.Nodup := by
  refine dictionary.ascend.imp fun {left right} hlt heq => ?_
  subst heq
  exact String.lt_irrefl _ hlt

/-- Dictionaries in which the same is found under every key are equal. -/
theorem ext_get? {left right : Dictionary α} (h : ∀ key, left.get? key = right.get? key) :
    left = right := by
  have hmem : ∀ entry, entry ∈ left.entries ↔ entry ∈ right.entries := fun entry => by
    rw [← get?_eq_some_iff, ← get?_eq_some_iff, h]
  have hperm : left.entries.Perm right.entries :=
    (List.perm_ext_iff_of_nodup left.nodup_entries right.nodup_entries).2 hmem
  apply ext
  refine hperm.eq_of_pairwise (fun first second _ _ hlt hgt => ?_) left.ascend right.ascend
  exact absurd (String.lt_trans hlt hgt) (String.lt_irrefl _)

/-- To put in the dictionary of entries with different keys is to put in the entries. -/
theorem merge_ofList (base : Dictionary α) {entries : List (String × α)}
    (hdistinct : (entries.map Prod.fst).Nodup) :
    base.merge (ofList entries) = base.insertAll entries := by
  apply ext_get?
  intro key
  rw [get?_merge, get?_insertAll base hdistinct, ofList, get?_insertAll empty hdistinct,
    get?_empty, Option.or_none]

/-- The dictionary of entries with different keys holds exactly these entries. -/
theorem get?_ofList_eq_some_iff {entries : List (String × α)}
    (hdistinct : (entries.map Prod.fst).Nodup) {key : String} {value : α} :
    (ofList entries).get? key = some value ↔ (key, value) ∈ entries := by
  rw [ofList, get?_insertAll empty hdistinct, get?_empty, Option.or_none,
    snd_find?_eq_some_iff hdistinct]

/-- The order of entries with different keys does not matter. -/
theorem ofList_perm {entries others : List (String × α)} (h : entries.Perm others)
    (hdistinct : (entries.map Prod.fst).Nodup) : ofList entries = ofList others := by
  have hothers : (others.map Prod.fst).Nodup := (h.map Prod.fst).nodup_iff.1 hdistinct
  apply ext_get?
  intro key
  apply Option.ext
  intro value
  rw [get?_ofList_eq_some_iff hdistinct, get?_ofList_eq_some_iff hothers, h.mem_iff]

/-- The dictionary of entries with different keys has as many. -/
theorem size_ofList {entries : List (String × α)} (hdistinct : (entries.map Prod.fst).Nodup) :
    (ofList entries).size = entries.length := by
  have hentries : entries.Nodup :=
    List.Pairwise.of_map Prod.fst (fun _ _ hne heq => hne (congrArg Prod.fst heq)) hdistinct
  have hperm : (ofList entries).entries.Perm entries := by
    refine (List.perm_ext_iff_of_nodup (nodup_entries _) hentries).2 fun entry => ?_
    rw [← get?_eq_some_iff, get?_ofList_eq_some_iff hdistinct]
  exact hperm.length_eq

/-! ## Laws of merging -/

theorem merge_assoc (first second third : Dictionary α) :
    (first.merge second).merge third = first.merge (second.merge third) := by
  apply ext_get?
  intro key
  simp only [get?_merge, Option.or_assoc]

theorem merge_self (dictionary : Dictionary α) : dictionary.merge dictionary = dictionary := by
  apply ext_get?
  intro key
  rw [get?_merge, Option.or_self]

theorem empty_merge (dictionary : Dictionary α) : empty.merge dictionary = dictionary := by
  apply ext_get?
  intro key
  rw [get?_merge, get?_empty, Option.or_none]

/-- Dictionaries without a common key are merged in either order. -/
theorem merge_comm {left right : Dictionary α}
    (h : ∀ key, left.get? key = none ∨ right.get? key = none) :
    left.merge right = right.merge left := by
  apply ext_get?
  intro key
  rw [get?_merge, get?_merge]
  rcases h key with hnone | hnone
  · rw [hnone, Option.or_none, Option.none_or]
  · rw [hnone, Option.or_none, Option.none_or]

end Dictionary

/-- In a context with another on top, the one on top wins. -/
theorem Context.get?_overlay (base : Context) (top : Option Context) (key : String) :
    (base.overlay top).get? key = (top.bind (·.get? key)).or (base.get? key) := by
  cases top with
  | none => rfl
  | some context => exact Dictionary.get?_merge base context key

/-- What is on top of a context does not mind what is put in below it under another name. -/
theorem Context.overlay_insert (base : Context) {top : Option Context} {key : String}
    (hopen : top.bind (·.get? key) = none) (datum : Datum) :
    Context.overlay (base.insert key datum) top = (Context.overlay base top).insert key datum := by
  apply Dictionary.ext_get?
  intro other
  rw [get?_overlay, Dictionary.get?_insert, Dictionary.get?_insert, get?_overlay]
  by_cases heq : key = other
  · subst heq
    rw [hopen, if_pos rfl, if_pos rfl, Option.none_or]
  · rw [if_neg heq, if_neg heq]

/-- A context on top of nothing is itself. -/
theorem Context.empty_overlay (top : Option Context) :
    Context.overlay ∅ top = top.getD ∅ := by
  cases top with
  | none => rfl
  | some context => exact context.ofList_entries

end Ensemble
