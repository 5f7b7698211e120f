/-
# Dictionaries

A dictionary holds one value for each of its keys, in ascending order of the keys. Keys are
ordered by their code points, which is also the order of their UTF-8 bytes. The order and the
uniqueness of keys are part of the type, so a dictionary is determined by its look-ups.
-/

namespace Ensemble

universe u

/-- Put a value under a key of a list that is ordered by its keys. -/
def insertEntry {α : Type u} (key : String) (value : α) : List (String × α) → List (String × α)
  | [] => [(key, value)]
  | entry :: rest =>
    if key < entry.1 then (key, value) :: entry :: rest
    else if key = entry.1 then (key, value) :: rest
    else entry :: insertEntry key value rest

/-- Every key is below the keys that follow it. -/
def KeysAscend {α : Type u} (entries : List (String × α)) : Prop :=
  entries.Pairwise fun left right => left.1 < right.1

/-- One of two different keys is below the other. -/
theorem key_lt_or_gt {left right : String} (h : left ≠ right) : left < right ∨ right < left := by
  rcases Std.le_total (a := left) (b := right) with hle | hle
  · exact Or.inl (Std.lt_of_le_of_ne hle h)
  · exact Or.inr (Std.lt_of_le_of_ne hle (Ne.symm h))

theorem mem_insertEntry {α : Type u} {key : String} {value : α} {entries : List (String × α)}
    {entry : String × α} (h : entry ∈ insertEntry key value entries) :
    entry = (key, value) ∨ entry ∈ entries := by
  induction entries with
  | nil => simpa [insertEntry] using h
  | cons head rest ih =>
    simp only [insertEntry] at h
    split at h
    · simpa using h
    · split at h
      · rcases List.mem_cons.1 h with h | h
        · exact Or.inl h
        · exact Or.inr (List.mem_cons_of_mem _ h)
      · rcases List.mem_cons.1 h with h | h
        · exact Or.inr (h ▸ List.mem_cons_self)
        · exact (ih h).imp id (List.mem_cons_of_mem _)

/-- Inserting keeps the keys in ascending order. -/
theorem keysAscend_insertEntry {α : Type u} (key : String) (value : α)
    {entries : List (String × α)} (h : KeysAscend entries) :
    KeysAscend (insertEntry key value entries) := by
  induction entries with
  | nil => simp [insertEntry, KeysAscend]
  | cons head rest ih =>
    have hrest : KeysAscend rest := (List.pairwise_cons.1 h).2
    have hhead := (List.pairwise_cons.1 h).1
    simp only [insertEntry]
    split
    next hlt =>
      refine List.pairwise_cons.2 ⟨fun entry hentry => ?_, h⟩
      rcases List.mem_cons.1 hentry with rfl | hmem
      · exact hlt
      · exact String.lt_trans hlt (hhead entry hmem)
    next hnlt =>
      split
      next heq =>
        exact List.pairwise_cons.2 ⟨fun entry hentry => heq ▸ hhead entry hentry, hrest⟩
      next hne =>
        refine List.pairwise_cons.2 ⟨fun entry hentry => ?_, ih hrest⟩
        rcases mem_insertEntry hentry with rfl | hmem
        · exact (key_lt_or_gt hne).resolve_left hnlt
        · exact hhead entry hmem

/-- Values under keys, each key once, in ascending order of the keys. -/
structure Dictionary (α : Type u) where
  entries : List (String × α)
  ascend : KeysAscend entries

namespace Dictionary

variable {α : Type u}

/-- The dictionary without keys. -/
def empty : Dictionary α := ⟨[], List.Pairwise.nil⟩

instance : EmptyCollection (Dictionary α) := ⟨empty⟩

instance : Inhabited (Dictionary α) := ⟨empty⟩

/-- The value under a key. -/
def get? (dictionary : Dictionary α) (key : String) : Option α :=
  (dictionary.entries.find? fun entry => entry.1 == key).map Prod.snd

/-- Put a value under a key, in place of the one that is there. -/
def insert (dictionary : Dictionary α) (key : String) (value : α) : Dictionary α :=
  ⟨insertEntry key value dictionary.entries, keysAscend_insertEntry key value dictionary.ascend⟩

/-- Take a key away. -/
def erase (dictionary : Dictionary α) (key : String) : Dictionary α :=
  ⟨dictionary.entries.filter fun entry => entry.1 != key, dictionary.ascend.filter _⟩

/-- Put every entry of a list into a dictionary, from the first to the last. -/
def insertAll (dictionary : Dictionary α) (entries : List (String × α)) : Dictionary α :=
  entries.foldl (fun result entry => result.insert entry.1 entry.2) dictionary

/-- The dictionary of a list of entries; of several entries for one key the last counts. -/
def ofList (entries : List (String × α)) : Dictionary α :=
  empty.insertAll entries

/-- The first dictionary with the entries of the second put in, which win on common keys. -/
def merge (base overlay : Dictionary α) : Dictionary α :=
  base.insertAll overlay.entries

/-- The keys in ascending order. -/
def keys (dictionary : Dictionary α) : List String :=
  dictionary.entries.map Prod.fst

/-- The number of keys. -/
def size (dictionary : Dictionary α) : Nat :=
  dictionary.entries.length

/-- Whether there is no key. -/
def isEmpty (dictionary : Dictionary α) : Bool :=
  dictionary.entries.isEmpty

/-- The keys of a dictionary have no repetition. -/
theorem nodup_keys (dictionary : Dictionary α) : dictionary.keys.Nodup := by
  refine List.Pairwise.map _ (fun left right hlt => ?_) dictionary.ascend
  exact fun heq => String.lt_irrefl _ (heq ▸ hlt)

@[simp] theorem get?_empty (key : String) : (empty : Dictionary α).get? key = none := rfl

theorem find?_insertEntry {entries : List (String × α)} (h : KeysAscend entries)
    (key other : String) (value : α) :
    (insertEntry key value entries).find? (fun entry => entry.1 == other) =
      if key = other then some (key, value) else entries.find? fun entry => entry.1 == other := by
  induction entries with
  | nil => by_cases heq : key = other <;> simp [insertEntry, heq]
  | cons head rest ih =>
    have hrest : KeysAscend rest := (List.pairwise_cons.1 h).2
    simp only [insertEntry]
    split
    next => by_cases heq : key = other <;> simp [heq]
    next =>
      split
      next hkey =>
        subst hkey
        by_cases heq : head.1 = other <;> simp [heq]
      next hkey =>
        by_cases heq : key = other
        · subst heq
          simp [Ne.symm hkey, ih hrest]
        · by_cases hhead : head.1 = other <;> simp [heq, hhead, ih hrest]

/-- What was put under a key is found there, and nowhere else. -/
theorem get?_insert (dictionary : Dictionary α) (key other : String) (value : α) :
    (dictionary.insert key value).get? other =
      if key = other then some value else dictionary.get? other := by
  simp only [get?, insert, find?_insertEntry dictionary.ascend]
  split <;> simp

/-- An erased key is not found, and every other key as before. -/
theorem get?_erase (dictionary : Dictionary α) (key other : String) :
    (dictionary.erase key).get? other = if key = other then none else dictionary.get? other := by
  obtain ⟨entries, hascend⟩ := dictionary
  simp only [get?, erase]
  clear hascend
  induction entries with
  | nil => simp
  | cons head rest ih =>
    by_cases hkey : head.1 = key
    · subst hkey
      by_cases hother : head.1 = other <;> simp_all
    · by_cases hother : head.1 = other
      · subst hother
        simp [hkey, Ne.symm hkey]
      · by_cases heq : key = other <;> simp_all

/-- A dictionary is determined by its entries. -/
theorem ext {left right : Dictionary α} (h : left.entries = right.entries) : left = right := by
  obtain ⟨entries, hleft⟩ := left
  obtain ⟨entries', hright⟩ := right
  subst h
  rfl

/-- A key above all others goes to the end. -/
theorem insertEntry_of_lt {entries : List (String × α)} {key : String}
    (h : ∀ entry ∈ entries, entry.1 < key) (value : α) :
    insertEntry key value entries = entries ++ [(key, value)] := by
  induction entries with
  | nil => rfl
  | cons head rest ih =>
    have hhead := h head List.mem_cons_self
    have hnot : ¬ key < head.1 := fun hlt => String.lt_irrefl _ (String.lt_trans hlt hhead)
    have hne : key ≠ head.1 := fun heq => String.lt_irrefl _ (heq ▸ hhead)
    simp [insertEntry, hnot, hne, ih fun entry hentry => h entry (List.mem_cons_of_mem _ hentry)]

/-- Ascending entries above all of a dictionary's go behind them. -/
theorem entries_insertAll_of_lt {base : Dictionary α} {entries : List (String × α)}
    (hascend : KeysAscend entries)
    (habove : ∀ left ∈ base.entries, ∀ right ∈ entries, left.1 < right.1) :
    (base.insertAll entries).entries = base.entries ++ entries := by
  induction entries generalizing base with
  | nil => simp [insertAll]
  | cons head rest ih =>
    have hhead := (List.pairwise_cons.1 hascend).1
    have hinsert : (base.insert head.1 head.2).entries = base.entries ++ [head] :=
      insertEntry_of_lt (fun entry hentry => habove entry hentry head List.mem_cons_self) head.2
    have hrest := @ih (base.insert head.1 head.2) (List.pairwise_cons.1 hascend).2 (by
      intro left hleft right hright
      rw [hinsert] at hleft
      rcases List.mem_append.1 hleft with hleft | hleft
      · exact habove left hleft right (List.mem_cons_of_mem _ hright)
      · rw [List.mem_singleton.1 hleft]
        exact hhead right hright)
    rw [hinsert] at hrest
    simpa [insertAll] using hrest

/-- A dictionary is the dictionary of its entries. -/
@[simp] theorem ofList_entries (dictionary : Dictionary α) :
    ofList dictionary.entries = dictionary :=
  ext (entries_insertAll_of_lt dictionary.ascend (by simp [empty]))

/-- Every entry of a dictionary that was filled from a list was there or comes from the list. -/
theorem mem_insertAll {base : Dictionary α} {entries : List (String × α)} {entry : String × α}
    (h : entry ∈ (base.insertAll entries).entries) : entry ∈ base.entries ∨ entry ∈ entries := by
  induction entries generalizing base with
  | nil => exact Or.inl h
  | cons head rest ih =>
    rcases @ih (base.insert head.1 head.2) h with h | h
    · rcases mem_insertEntry h with h | h
      · exact Or.inr (h ▸ List.mem_cons_self)
      · exact Or.inl h
    · exact Or.inr (List.mem_cons_of_mem _ h)

/-- Every entry of the dictionary of a list comes from the list. -/
theorem mem_ofList {entries : List (String × α)} {entry : String × α}
    (h : entry ∈ (ofList entries).entries) : entry ∈ entries :=
  (mem_insertAll h).resolve_left (by simp [empty])

end Dictionary

end Ensemble
