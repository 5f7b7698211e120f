/-
# The search for a free key

A position of a repeated name tries the name with the position first, and then the same with one
counter after the other. The search is told here without any bound on its rounds: it ends because
only a name that occurs once can stand in its way, so that it passes over no more keys than there
are such names.
-/

import Ensemble.Proofs.Coordination.ResultKeys

namespace Ensemble

namespace ResultKeys

/-- The state of a search: the key that is tried, and the counter of the key after it. -/
structure Trial where
  key : String
  next : Nat

/-- A search goes on from a key that is taken, and ends with one that is free. -/
inductive Ends (taken : List String) (base : String) : Trial → String → Prop
  | free {trial : Trial} (free : trial.key ∉ taken) : Ends taken base trial trial.key
  | taken {trial : Trial} {key : String} (blocked : trial.key ∈ taken)
      (later : Ends taken base ⟨counted base trial.next, trial.next + 1⟩ key) :
      Ends taken base trial key

/-- A search passes over the candidates that are taken and ends with the first that is free. -/
theorem ends_of_first {taken : List String} {name : String} {position counter : Nat}
    (hfree : candidate name position counter ∉ taken)
    (hbelow : ∀ earlier < counter, candidate name position earlier ∈ taken) :
    Ends taken (base name position) ⟨base name position, 1⟩ (candidate name position counter) := by
  have hfrom : ∀ rounds start, start + rounds = counter →
      Ends taken (base name position) ⟨candidate name position start, start + 1⟩
        (candidate name position counter) := by
    intro rounds
    induction rounds with
    | zero =>
        rintro start rfl
        exact .free hfree
    | succ rounds ih =>
        intro start hstart
        exact .taken (hbelow start (by omega)) (ih (start + 1) (by omega))
  exact hfrom counter 0 (Nat.zero_add counter)

/-- The keys that a position finds taken: the names that occur once, and the keys of the positions
before it. -/
def takenAt (names : List String) (position : Nat) : List String :=
  singles names ++ (resultKeys names).take position

theorem mem_takenAt_of_single {names : List String} {key : String} (position : Nat)
    (h : key ∈ singles names) : key ∈ takenAt names position :=
  List.mem_append_left _ h

/-- No key is taken before its position, unless it is a name that occurs once. -/
theorem not_mem_takenAt {names : List String} {position : Nat} {key : String}
    (hkey : (resultKeys names)[position]? = some key) (hsingle : key ∉ singles names) :
    key ∉ takenAt names position := by
  intro htaken
  rcases List.mem_append.1 htaken with hmem | hmem
  · exact hsingle hmem
  · obtain ⟨earlier, hearlier⟩ := List.mem_iff_getElem?.1 hmem
    rw [List.getElem?_take] at hearlier
    split at hearlier
    next hlt =>
      have hposition := (List.getElem?_inj (List.getElem?_eq_some_iff.1 hearlier).1
        (nodup_resultKeys names)).1 (hearlier.trans hkey.symm)
      omega
    next => cases hearlier

/-- The key of a position of a repeated name is the first candidate that is free there, and there
are as many names that occur once as candidates before it. -/
theorem exists_first_free {names : List String} {position : Nat} {name key : String}
    (hname : names[position]? = some name) (hkey : (resultKeys names)[position]? = some key)
    (hrepeated : isRepeated names name = true) :
    ∃ counter ≤ (singles names).length, key = candidate name position counter ∧
      key ∉ takenAt names position ∧
      ∀ earlier < counter, candidate name position earlier ∈ takenAt names position := by
  have hkeyAt := isKeyAt_resultKeys hname hkey
  rw [IsKeyAt, if_pos hrepeated] at hkeyAt
  obtain ⟨counter, hcandidate, hfree, hbelow⟩ := hkeyAt
  exact ⟨counter, length_le_of_candidates_mem hbelow, hcandidate, not_mem_takenAt hkey hfree,
    fun earlier hlt => mem_takenAt_of_single position (hbelow earlier hlt)⟩

end ResultKeys

open ResultKeys

/-- Every list of names has keys, one for each position and no two alike. A name that occurs once
is its own key. At a position of a repeated name the search for a key ends with the name and the
position if that is free, and else with the first counter behind it that is, which is no greater
than the number of names that occur once. -/
theorem resultKeys_canonical (names : List String) :
    (resultKeys names).length = names.length ∧ (resultKeys names).Nodup ∧
    ∀ position name, names[position]? = some name →
      ∃ key, (resultKeys names)[position]? = some key ∧
        (names.count name = 1 → key = name) ∧
        (1 < names.count name →
          Ends (takenAt names position) (base name position) ⟨base name position, 1⟩ key ∧
          (base name position ∉ takenAt names position → key = base name position) ∧
          (base name position ∈ takenAt names position →
            ∃ counter, 1 ≤ counter ∧ counter ≤ (singles names).length ∧
              key = counted (base name position) counter ∧ key ∉ takenAt names position ∧
              ∀ smaller, 1 ≤ smaller → smaller < counter →
                counted (base name position) smaller ∈ takenAt names position)) := by
  refine ⟨length_resultKeys names, nodup_resultKeys names, fun position name hname => ?_⟩
  obtain ⟨hlt, -⟩ := List.getElem?_eq_some_iff.1 hname
  have hkey := List.getElem?_eq_getElem ((length_resultKeys names).symm ▸ hlt)
  refine ⟨_, hkey, fun honce => ?_, fun hrepeated => ?_⟩
  · have hkeyAt := isKeyAt_resultKeys hname hkey
    rwa [IsKeyAt, if_neg (by rw [isRepeated_iff]; omega)] at hkeyAt
  · obtain ⟨counter, hle, hcandidate, hfree, hbelow⟩ :=
      exists_first_free hname hkey (isRepeated_iff.2 hrepeated)
    rw [hcandidate] at hfree ⊢
    refine ⟨ends_of_first hfree hbelow, fun hbase => ?_, fun hbase => ?_⟩
    · cases counter with
      | zero => rfl
      | succ counter => exact absurd (hbelow 0 (Nat.succ_pos counter)) hbase
    · cases counter with
      | zero => exact absurd hbase hfree
      | succ counter =>
          refine ⟨counter + 1, Nat.succ_pos counter, hle, rfl, hfree, ?_⟩
          intro smaller hsmall hlt
          obtain ⟨below, rfl⟩ := Nat.exists_eq_add_of_le' hsmall
          exact hbelow (below + 1) hlt

/-- The first key of the repeated name is the third that it tries, since two names that occur once
stand in its way. -/
theorem resultKeys_canonical_twoBlocked :
    ["a", "a#0", "a#0.1", "a"][0]? = some "a" ∧ 1 < ["a", "a#0", "a#0.1", "a"].count "a" ∧
      base "a" 0 ∈ takenAt ["a", "a#0", "a#0.1", "a"] 0 ∧
      (resultKeys ["a", "a#0", "a#0.1", "a"])[0]? = some "a#0.2" ∧
      Ends (takenAt ["a", "a#0", "a#0.1", "a"] 0) (base "a" 0) ⟨base "a" 0, 1⟩ "a#0.2" := by
  obtain ⟨-, -, hkeys⟩ := resultKeys_canonical ["a", "a#0", "a#0.1", "a"]
  obtain ⟨key, hkey, -, hrepeated⟩ := hkeys 0 "a" rfl
  have hfirst : (resultKeys ["a", "a#0", "a#0.1", "a"])[0]? = some "a#0.2" := by decide
  obtain rfl : key = "a#0.2" := Option.some.inj (hkey.symm.trans hfirst)
  exact ⟨rfl, by decide, by decide, hfirst, (hrepeated (by decide)).1⟩

end Ensemble
