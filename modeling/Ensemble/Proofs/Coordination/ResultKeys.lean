/-
# Result keys, position by position

A position of a repeated name has candidates for its key: the name with the position, then the
same with a counter. A candidate can be decoded: it determines the name, the position and the
counter. Hence keys generated at other positions never stand in the way, and the key of a
position is the first of its candidates that no name occurring once has taken. The keys of a
list are pairwise distinct for the same reason.
-/

import Ensemble.Coordination.ResultKeys

namespace Ensemble

namespace ResultKeys

/-- The names that occur once. They are their own keys. -/
def singles (names : List String) : List String :=
  names.filter fun name => !isRepeated names name

/-- The keys that a position of a repeated name may get, the one without a counter first. -/
def candidate (name : String) (position : Nat) : Nat → String
  | 0 => base name position
  | counter + 1 => counted (base name position) (counter + 1)

theorem isRepeated_iff {names : List String} {name : String} :
    isRepeated names name = true ↔ 1 < names.count name := by
  simp [isRepeated]

theorem mem_singles {names : List String} {name : String} :
    name ∈ singles names ↔ name ∈ names ∧ isRepeated names name = false := by
  simp [singles]

/-! ## Decoding a candidate -/

/-- The digits of a number determine it. -/
theorem toDigits_injective {first second : Nat}
    (h : Nat.toDigits 10 first = Nat.toDigits 10 second) : first = second := by
  rw [← Nat.ofDigitChars_ten_toDigits (n := first), h, Nat.ofDigitChars_ten_toDigits]

/-- Read from the end, digits stop at the mark before them. -/
theorem takeWhile_reverse_digits (front : List Char) {mark : Char}
    (hmark : mark.isDigit = false) (number : Nat) :
    (front ++ mark :: Nat.toDigits 10 number).reverse.takeWhile Char.isDigit =
      (Nat.toDigits 10 number).reverse := by
  have hdigits : ∀ c ∈ (Nat.toDigits 10 number).reverse, c.isDigit = true := fun c hc =>
    Nat.isDigit_of_mem_toDigits (by decide) (by decide) (List.mem_reverse.1 hc)
  rw [List.reverse_append, List.reverse_cons, List.append_assoc, List.singleton_append,
    List.takeWhile_append_of_pos hdigits]
  simp [hmark]

/-- A number behind a mark that is no digit can be told from what stands before it. -/
theorem append_digits_injective {front front' : List Char} {mark mark' : Char}
    {number number' : Nat} (hmark : mark.isDigit = false) (hmark' : mark'.isDigit = false)
    (h : front ++ mark :: Nat.toDigits 10 number = front' ++ mark' :: Nat.toDigits 10 number') :
    front = front' ∧ mark = mark' ∧ number = number' := by
  have hreversed : (Nat.toDigits 10 number).reverse = (Nat.toDigits 10 number').reverse := by
    rw [← takeWhile_reverse_digits front hmark, ← takeWhile_reverse_digits front' hmark', h]
  have hdigits := List.reverse_inj.1 hreversed
  rw [hdigits] at h
  have hfronts : (front ++ [mark]) ++ Nat.toDigits 10 number' =
      (front' ++ [mark']) ++ Nat.toDigits 10 number' := by simpa using h
  obtain ⟨hfront, hlast⟩ := List.append_inj' (List.append_cancel_right hfronts) rfl
  exact ⟨hfront, List.head_eq_of_cons_eq hlast, toDigits_injective hdigits⟩

theorem toList_base (name : String) (position : Nat) :
    (base name position).toList = name.toList ++ '#' :: Nat.toDigits 10 position := by
  simp [base]

theorem toList_counted (key : String) (counter : Nat) :
    (counted key counter).toList = key.toList ++ '.' :: Nat.toDigits 10 counter := by
  simp [counted]

theorem base_injective {name name' : String} {position position' : Nat}
    (h : base name position = base name' position') : name = name' ∧ position = position' := by
  have hlists := congrArg String.toList h
  rw [toList_base, toList_base] at hlists
  obtain ⟨hname, -, hposition⟩ := append_digits_injective (by decide) (by decide) hlists
  exact ⟨String.toList_inj.1 hname, hposition⟩

theorem counted_injective {key key' : String} {counter counter' : Nat}
    (h : counted key counter = counted key' counter') : key = key' ∧ counter = counter' := by
  have hlists := congrArg String.toList h
  rw [toList_counted, toList_counted] at hlists
  obtain ⟨hkey, -, hcounter⟩ := append_digits_injective (by decide) (by decide) hlists
  exact ⟨String.toList_inj.1 hkey, hcounter⟩

theorem base_ne_counted (name key : String) (position counter : Nat) :
    base name position ≠ counted key counter := by
  intro h
  have hlists := congrArg String.toList h
  rw [toList_base, toList_counted] at hlists
  obtain ⟨-, hmark, -⟩ := append_digits_injective (by decide) (by decide) hlists
  exact absurd hmark (by decide)

/-- A candidate determines the name, the position and the counter it was made of. -/
theorem candidate_injective {name name' : String} {position position' counter counter' : Nat}
    (h : candidate name position counter = candidate name' position' counter') :
    name = name' ∧ position = position' ∧ counter = counter' := by
  cases counter with
  | zero =>
      cases counter' with
      | zero =>
          obtain ⟨hname, hposition⟩ := base_injective h
          exact ⟨hname, hposition, rfl⟩
      | succ counter' => exact absurd h (base_ne_counted _ _ _ _)
  | succ counter =>
      cases counter' with
      | zero => exact absurd h.symm (base_ne_counted _ _ _ _)
      | succ counter' =>
          obtain ⟨hbase, hcounter⟩ := counted_injective h
          obtain ⟨hname, hposition⟩ := base_injective hbase
          exact ⟨hname, hposition, hcounter⟩

/-- A candidate is longer than the name it was made of. -/
theorem candidate_ne_name (name : String) (position counter : Nat) :
    candidate name position counter ≠ name := by
  intro h
  have hlength := congrArg (fun key => key.toList.length) h
  cases counter with
  | zero => simp [candidate, toList_base] at hlength
  | succ counter =>
      simp only [candidate, toList_counted, toList_base, List.length_append,
        List.length_cons] at hlength
      omega

/-! ## The first free candidate -/

/-- The counter that is found has only taken keys below it, and is free unless all attempts
were used up. -/
theorem firstFreeCounter_spec (taken : List String) (key : String) (attempts counter : Nat) :
    counter ≤ firstFreeCounter taken key attempts counter ∧
      (∀ earlier, counter ≤ earlier → earlier < firstFreeCounter taken key attempts counter →
        counted key earlier ∈ taken) ∧
      (counted key (firstFreeCounter taken key attempts counter) ∉ taken ∨
        firstFreeCounter taken key attempts counter = counter + attempts) := by
  induction attempts generalizing counter with
  | zero =>
      refine ⟨Nat.le_refl _, fun earlier hle hlt => ?_, Or.inr rfl⟩
      simp only [firstFreeCounter] at hlt
      omega
  | succ attempts ih =>
      simp only [firstFreeCounter]
      split
      next htaken =>
        obtain ⟨hle, hbelow, hend⟩ := ih (counter + 1)
        refine ⟨by omega, fun earlier hearlier hlt => ?_, hend.imp_right (by omega)⟩
        by_cases heq : earlier = counter
        · rw [heq]
          exact htaken
        · exact hbelow earlier (by omega) hlt
      next hfree => exact ⟨Nat.le_refl _, fun earlier hle hlt => by omega, Or.inl hfree⟩

/-- A list that holds the first candidates of a position is at least as long as their number. -/
theorem length_le_of_candidates_mem {keys : List String} {name : String} {position count : Nat}
    (h : ∀ counter < count, candidate name position counter ∈ keys) : count ≤ keys.length := by
  have hdistinct : ((List.range count).map (candidate name position)).Nodup := by
    refine List.Pairwise.map _ (fun first second hne heq => ?_) List.nodup_range
    exact hne (candidate_injective heq).2.2
  have hsubset : (List.range count).map (candidate name position) ⊆ keys := by
    intro key hkey
    obtain ⟨counter, hcounter, rfl⟩ := List.mem_map.1 hkey
    exact h counter (List.mem_range.1 hcounter)
  have hlength := hdistinct.length_le_of_subset hsubset
  rwa [List.length_map, List.length_range] at hlength

/-- Not all of as many candidates as there are taken keys, and one more, can be taken. -/
theorem exists_candidate_not_mem (taken : List String) (name : String) (position : Nat) :
    ∃ counter ≤ taken.length, candidate name position counter ∉ taken := by
  by_cases h : ∃ counter ≤ taken.length, candidate name position counter ∉ taken
  · exact h
  · have hall : ∀ counter < taken.length + 1, candidate name position counter ∈ taken :=
      fun counter hlt => Decidable.not_not.1 fun hnot => h ⟨counter, Nat.le_of_lt_succ hlt, hnot⟩
    have hlength := length_le_of_candidates_mem hall
    omega

/-- The key that is made free is the first candidate that is not taken. -/
theorem freeKey_spec (taken : List String) (name : String) (position : Nat) :
    ∃ counter, freeKey taken (base name position) = candidate name position counter ∧
      candidate name position counter ∉ taken ∧
      ∀ earlier < counter, candidate name position earlier ∈ taken := by
  by_cases hbase : base name position ∈ taken
  · obtain ⟨hone, hbelow, hend⟩ := firstFreeCounter_spec taken (base name position)
      taken.length 1
    obtain ⟨counter, hcounter⟩ : ∃ counter,
        firstFreeCounter taken (base name position) taken.length 1 = counter + 1 :=
      ⟨_, (Nat.sub_add_cancel hone).symm⟩
    rw [hcounter] at hbelow hend
    have htaken : ∀ earlier < counter + 1, candidate name position earlier ∈ taken := by
      intro earlier hlt
      cases earlier with
      | zero => exact hbase
      | succ earlier => exact hbelow (earlier + 1) (by omega) hlt
    refine ⟨counter + 1, by simp [freeKey, hbase, hcounter, candidate], ?_, htaken⟩
    rcases hend with hfree | hlast
    · exact hfree
    · -- All attempts are used up, so the free candidate that exists can only be this one.
      obtain ⟨free, hle, hfree⟩ := exists_candidate_not_mem taken name position
      by_cases heq : free = counter + 1
      · exact heq ▸ hfree
      · exact absurd (htaken free (by omega)) hfree
  · exact ⟨0, by simp [freeKey, hbase, candidate], hbase, fun earlier hlt => by omega⟩

/-! ## The key of a position -/

/-- The key that a name at a position gets: the name itself if it occurs once, and otherwise the
first candidate that is no name occurring once. -/
def IsKeyAt (names : List String) (position : Nat) (name key : String) : Prop :=
  if isRepeated names name = true then
    ∃ counter, key = candidate name position counter ∧ key ∉ singles names ∧
      ∀ earlier < counter, candidate name position earlier ∈ singles names
  else key = name

/-- What holds of the taken keys at a position: all names that occur once are among them, and
everything else among them is a candidate of an earlier position. -/
structure TakenBefore (names : List String) (position : Nat) (taken : List String) : Prop where
  singles_subset : ∀ name ∈ singles names, name ∈ taken
  origin : ∀ key ∈ taken, key ∈ singles names ∨
    ∃ name earlier counter, earlier < position ∧ key = candidate name earlier counter

theorem takenBefore_singles (names : List String) : TakenBefore names 0 (singles names) :=
  ⟨fun _ hname => hname, fun _ hkey => Or.inl hkey⟩

theorem TakenBefore.succ {names taken : List String} {position : Nat}
    (h : TakenBefore names position taken) : TakenBefore names (position + 1) taken := by
  refine ⟨h.singles_subset, fun key hkey => (h.origin key hkey).imp_right ?_⟩
  rintro ⟨name, earlier, counter, hlt, heq⟩
  exact ⟨name, earlier, counter, Nat.lt_succ_of_lt hlt, heq⟩

theorem TakenBefore.cons {names taken : List String} {position : Nat}
    (h : TakenBefore names position taken) (name : String) (counter : Nat) :
    TakenBefore names (position + 1) (candidate name position counter :: taken) := by
  refine ⟨fun single hsingle => List.mem_cons_of_mem _ (h.singles_subset single hsingle),
    fun key hkey => ?_⟩
  rcases List.mem_cons.1 hkey with rfl | hkey
  · exact Or.inr ⟨name, position, counter, Nat.lt_succ_self position, rfl⟩
  · exact h.succ.origin key hkey

/-- A candidate of a position is taken only by a name that occurs once. -/
theorem TakenBefore.candidate_mem_iff {names taken : List String} {position : Nat}
    (h : TakenBefore names position taken) (name : String) (counter : Nat) :
    candidate name position counter ∈ taken ↔ candidate name position counter ∈ singles names := by
  constructor
  · intro htaken
    rcases h.origin _ htaken with hsingle | ⟨name', earlier, counter', hlt, heq⟩
    · exact hsingle
    · have hposition := (candidate_injective heq).2.1
      omega
  · exact h.singles_subset _

theorem length_assign (names taken : List String) (position : Nat) (rest : List String) :
    (assign names taken position rest).length = rest.length := by
  induction rest generalizing taken position with
  | nil => rfl
  | cons name rest ih =>
      simp only [assign]
      split <;> simp [ih]

/-- Every position of the names from a position on gets its key. -/
theorem isKeyAt_assign {names taken : List String} {position : Nat} {rest : List String}
    (htaken : TakenBefore names position taken) {index : Nat} {name key : String}
    (hname : rest[index]? = some name)
    (hkey : (assign names taken position rest)[index]? = some key) :
    IsKeyAt names (position + index) name key := by
  induction rest generalizing taken position index with
  | nil => simp at hname
  | cons head rest ih =>
      by_cases hrepeated : isRepeated names head = true
      · obtain ⟨counter, hfree, hnew, hbelow⟩ := freeKey_spec taken head position
        simp only [assign, hrepeated, if_true, hfree] at hkey
        cases index with
        | zero =>
            obtain rfl : head = name := by simpa using hname
            obtain rfl : candidate head position counter = key := by simpa using hkey
            rw [IsKeyAt, Nat.add_zero, if_pos hrepeated]
            exact ⟨counter, rfl, fun hsingle => hnew (htaken.singles_subset _ hsingle),
              fun earlier hlt => (htaken.candidate_mem_iff head earlier).1 (hbelow earlier hlt)⟩
        | succ index =>
            have hlater := ih (htaken.cons head counter) (by simpa using hname)
              (by simpa using hkey)
            rwa [Nat.add_right_comm] at hlater
      · simp only [assign, hrepeated] at hkey
        cases index with
        | zero =>
            obtain rfl : head = name := by simpa using hname
            obtain rfl : head = key := by simpa using hkey
            rw [IsKeyAt, if_neg hrepeated]
        | succ index =>
            have hlater := ih htaken.succ (by simpa using hname) (by simpa using hkey)
            rwa [Nat.add_right_comm] at hlater

/-- A name at two positions occurs more than once. -/
theorem isRepeated_of_getElem? {names : List String} {name : String} {position position' : Nat}
    (hlt : position < position') (hname : names[position]? = some name)
    (hname' : names[position']? = some name) : isRepeated names name = true := by
  have hfirst : name ∈ names.take (position + 1) := by
    apply List.mem_of_getElem? (i := position)
    rw [List.getElem?_take_of_lt (Nat.lt_succ_self position), hname]
  have hsecond : name ∈ names.drop (position + 1) := by
    apply List.mem_of_getElem? (i := position' - (position + 1))
    rw [List.getElem?_drop, Nat.add_sub_cancel' hlt, hname']
  rw [isRepeated_iff, ← List.take_append_drop (position + 1) names, List.count_append]
  have hfirst := List.count_pos_iff.2 hfirst
  have hsecond := List.count_pos_iff.2 hsecond
  omega

/-- A position gets no more than one key. -/
theorem IsKeyAt.unique {names : List String} {position : Nat} {name key key' : String}
    (h : IsKeyAt names position name key) (h' : IsKeyAt names position name key') :
    key = key' := by
  by_cases hrepeated : isRepeated names name = true
  · rw [IsKeyAt, if_pos hrepeated] at h h'
    obtain ⟨counter, rfl, hfree, hbelow⟩ := h
    obtain ⟨counter', rfl, hfree', hbelow'⟩ := h'
    rcases Nat.lt_trichotomy counter counter' with hlt | rfl | hlt
    · exact absurd (hbelow' counter hlt) hfree
    · rfl
    · exact absurd (hbelow counter' hlt) hfree'
  · rw [IsKeyAt, if_neg hrepeated] at h h'
    rw [h, h']

/-- Keys of two different positions differ. -/
theorem IsKeyAt.ne {names : List String} {position position' : Nat} {name name' key key' : String}
    (hlt : position < position') (hname : names[position]? = some name)
    (hname' : names[position']? = some name') (h : IsKeyAt names position name key)
    (h' : IsKeyAt names position' name' key') : key ≠ key' := by
  intro heq
  subst heq
  have hlisted := List.mem_of_getElem? hname
  have hlisted' := List.mem_of_getElem? hname'
  by_cases hrepeated : isRepeated names name = true <;>
    by_cases hrepeated' : isRepeated names name' = true <;>
    simp only [IsKeyAt, hrepeated, hrepeated', if_true, Bool.false_eq_true, if_false] at h h'
  · obtain ⟨counter, hkey, -, -⟩ := h
    obtain ⟨counter', hkey', -, -⟩ := h'
    have hposition := (candidate_injective (hkey.symm.trans hkey')).2.1
    omega
  · obtain ⟨counter, -, hsingle, -⟩ := h
    rw [h'] at hsingle
    exact hsingle (mem_singles.2 ⟨hlisted', by simpa using hrepeated'⟩)
  · obtain ⟨counter', -, hsingle, -⟩ := h'
    rw [h] at hsingle
    exact hsingle (mem_singles.2 ⟨hlisted, by simpa using hrepeated⟩)
  · have hsame : name = name' := h.symm.trans h'
    subst hsame
    exact hrepeated (isRepeated_of_getElem? hlt hname hname')

end ResultKeys

open ResultKeys

@[simp] theorem length_resultKeys (names : List String) :
    (resultKeys names).length = names.length :=
  length_assign _ _ _ _

/-- Every position of a list of names gets its key. -/
theorem isKeyAt_resultKeys {names : List String} {position : Nat} {name key : String}
    (hname : names[position]? = some name) (hkey : (resultKeys names)[position]? = some key) :
    IsKeyAt names position name key := by
  have h := isKeyAt_assign (takenBefore_singles names) hname hkey
  rwa [Nat.zero_add] at h

/-- No two positions have the same key. -/
theorem nodup_resultKeys (names : List String) : (resultKeys names).Nodup := by
  rw [List.Nodup, List.pairwise_iff_getElem]
  intro first second hfirst hsecond hlt
  have hlength := length_resultKeys names
  refine IsKeyAt.ne hlt (List.getElem?_eq_getElem (by omega)) (List.getElem?_eq_getElem (by omega))
    (isKeyAt_resultKeys (List.getElem?_eq_getElem (by omega)) (List.getElem?_eq_getElem hfirst))
    (isKeyAt_resultKeys (List.getElem?_eq_getElem (by omega)) (List.getElem?_eq_getElem hsecond))

end Ensemble
