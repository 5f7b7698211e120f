/-
# Subtasks of an answer

Whatever the limit, an answer comes to subtasks in one of two ways. When what is left of it inside
blanks and a code fence is an array, every item makes one subtask, by itself and its place, and the
limit cuts the list. When it is no array, there is a single subtask that shows the beginning of the
answer and says what is wrong. Blanks and a code fence around an array make no difference, and the
array that some subtasks are written as is read as these subtasks.
-/

import Ensemble.Agent.Subtask
import Ensemble.Proofs.Document.Steadiness
import Ensemble.Proofs.Json.Acceptance
import Ensemble.Proofs.Text.Trimming

namespace Ensemble.Subtask

/-! ## What is left of an answer -/

theorem withoutOpening_of_unfenced {chars : List Char} (h : ¬ fence <+: chars) :
    withoutOpening chars = chars := by
  have hnamed : ¬ fence ++ ['j', 's', 'o', 'n'] <+: chars :=
    fun hprefixed => h ((List.prefix_append _ _).trans hprefixed)
  simp only [withoutOpening, List.isPrefixOf_iff_prefix]
  rw [if_neg hnamed, if_neg h]

theorem withoutClosing_of_unfenced {chars : List Char} (h : ¬ fence <:+ chars) :
    withoutClosing chars = chars := by
  simp only [withoutClosing, List.isSuffixOf_iff_suffix]
  rw [if_neg h]

/-- An opening fence: with or without the name of the language. -/
def IsOpening (mark : List Char) : Prop :=
  mark = fence ∨ mark = fence ++ ['j', 's', 'o', 'n']

/-- An opening fence ends at the end of its line, so its name is not taken for its text. -/
theorem withoutOpening_of_isOpening {mark : List Char} (h : IsOpening mark) (rest : List Char) :
    withoutOpening (mark ++ '\n' :: rest) = '\n' :: rest := by
  rcases h with rfl | rfl <;> simp [withoutOpening, fence]

theorem withoutClosing_append_fence (chars : List Char) :
    withoutClosing (chars ++ fence) = chars := by
  simp only [withoutClosing, List.isSuffixOf_iff_suffix]
  rw [if_pos (List.suffix_append chars fence), List.length_append, Nat.add_sub_cancel,
    List.take_left]

/-- Without a fence at either end only blanks are dropped. -/
theorem bodyOf_of_unfenced {answer : List Char} (hstart : ¬ fence <+: Text.trimChars answer)
    (hend : ¬ fence <:+ Text.trimChars answer) : bodyOf answer = Text.trimChars answer := by
  rw [bodyOf, withoutOpening_of_unfenced hstart, withoutClosing_of_unfenced hend,
    Text.trimChars_trimChars]

/-- Of a text between two fences on lines of their own the text is left. -/
theorem bodyOf_fenced {front mark text behind : List Char}
    (hfront : ∀ c ∈ front, Text.isBlank c = true) (hmark : IsOpening mark)
    (hbehind : ∀ c ∈ behind, Text.isBlank c = true) :
    bodyOf (front ++ (mark ++ '\n' :: (text ++ ['\n'] ++ fence)) ++ behind) =
      Text.trimChars text := by
  have hends : Text.trimChars (mark ++ '\n' :: (text ++ ['\n'] ++ fence)) =
      mark ++ '\n' :: (text ++ ['\n'] ++ fence) := by
    apply Text.trimChars_of_ends
    · intro c hc
      rcases hmark with rfl | rfl
      all_goals
        obtain rfl : '`' = c := Option.some.inj hc
        decide
    · intro c hc
      rw [← List.cons_append, ← List.append_assoc, List.getLast?_append] at hc
      obtain rfl : '`' = c := Option.some.inj hc
      decide
  have hline : ∀ c ∈ ['\n'], Text.isBlank c = true := List.forall_mem_singleton.2 (by decide)
  rw [bodyOf, Text.trimChars_surrounded hfront hbehind, hends, withoutOpening_of_isOpening hmark,
    ← List.cons_append, withoutClosing_append_fence, ← List.singleton_append, ← List.append_assoc,
    Text.trimChars_surrounded hline hline]

/-- What is left of a compact array with blanks around it is the array. -/
theorem bodyOf_compact {front behind : List Char} (items : List Value)
    (hfront : ∀ c ∈ front, Text.isBlank c = true) (hbehind : ∀ c ∈ behind, Text.isBlank c = true) :
    bodyOf (front ++ Json.compactChars (.list items) ++ behind) =
      Json.compactChars (.list items) := by
  have hlast : (Json.compactChars (.list items)).getLast? = some ']' := by
    rw [Json.compactChars, List.getLast?_append]
    rfl
  have htrimmed : Text.trimChars (front ++ Json.compactChars (.list items) ++ behind) =
      Json.compactChars (.list items) := by
    rw [Text.trimChars_surrounded hfront hbehind]
    apply Text.trimChars_of_ends
    · intro c hc
      rw [Json.compactChars] at hc
      obtain rfl : '[' = c := Option.some.inj hc
      decide
    · intro c hc
      obtain rfl : ']' = c := Option.some.inj (hlast.symm.trans hc)
      decide
  rw [bodyOf_of_unfenced, htrimmed]
  · rw [htrimmed, Json.compactChars]
    rintro ⟨rest, hrest⟩
    cases hrest
  · rw [htrimmed]
    rintro ⟨rest, hrest⟩
    rw [← hrest, List.getLast?_append] at hlast
    cases hlast

/-! ## Items -/

theorem take_ofItems (index limit : Nat) (items : List Value) :
    ofItems index (items.take limit) = (ofItems index items).take limit := by
  induction items generalizing index limit with
  | nil => simp [ofItems]
  | cons item rest ih =>
      cases limit with
      | zero => rfl
      | succ limit => simp [ofItems, ih]

theorem length_ofItems (index : Nat) (items : List Value) :
    (ofItems index items).length = items.length := by
  induction items generalizing index with
  | nil => rfl
  | cons item rest ih => rw [ofItems, List.length_cons, ih, List.length_cons]

/-- A subtask depends on its item and on the place of that, and on no other item. -/
theorem getElem?_ofItems (index place : Nat) (items : List Value) :
    (ofItems index items)[place]? = items[place]?.map (ofItem (index + place)) := by
  induction items generalizing index place with
  | nil => simp [ofItems]
  | cons item rest ih =>
      cases place with
      | zero => rfl
      | succ place =>
          rw [ofItems, List.getElem?_cons_succ, ih, List.getElem?_cons_succ, Nat.add_assoc,
            Nat.add_comm 1 place]

theorem parsingError_ofItem (index : Nat) (item : Value) :
    (ofItem index item).parsingError = none := by
  cases item <;> rfl

theorem parsingError_of_mem_ofItems {index : Nat} {items : List Value} {subtask : Subtask}
    (h : subtask ∈ ofItems index items) : subtask.parsingError = none := by
  obtain ⟨place, hplace⟩ := List.mem_iff_getElem?.1 h
  rw [getElem?_ofItems] at hplace
  obtain ⟨item, -, rfl⟩ := Option.map_eq_some_iff.1 hplace
  exact parsingError_ofItem _ item

/-! ## Answers -/

/-- What is left of an answer is read as an array of some items. -/
def IsArray (answer : String) (items : List Value) : Prop :=
  Json.read (String.ofList (bodyOf answer.toList)) = .ok (.list items)

variable {answer other task : String} {items : List Value}

theorem itemsOf_eq_ok_iff : itemsOf answer = .ok items ↔ IsArray answer items := by
  unfold itemsOf IsArray
  dsimp only
  cases Json.read (String.ofList (bodyOf answer.toList)) with
  | ok value => cases value <;> simp
  | error fault => simp

theorem itemsOf_congr (h : bodyOf answer.toList = bodyOf other.toList) :
    itemsOf answer = itemsOf other := by
  unfold itemsOf
  rw [h]

theorem ofAnswer_of_ok (h : itemsOf answer = .ok items) (task : String) (limit : Nat) :
    ofAnswer answer task limit = ofItems 0 (items.take limit) := by
  unfold ofAnswer
  rw [h]

theorem ofAnswer_of_error {problem : String} (h : itemsOf answer = .error problem)
    (task : String) (limit : Nat) :
    ofAnswer answer task limit = [fallback answer task problem] := by
  unfold ofAnswer
  rw [h]

/-! ## Code fences -/

/-- A text between two fences, each on a line of its own, with something around it. -/
def fenced (front opening text behind : String) : String :=
  front ++ opening ++ "\n" ++ text ++ "\n```" ++ behind

theorem bodyOf_fenced_text {front opening text behind : String}
    (hfront : Text.isBlankText front = true) (hopening : opening = "```" ∨ opening = "```json")
    (hbehind : Text.isBlankText behind = true) :
    bodyOf (fenced front opening text behind).toList = Text.trimChars text.toList := by
  have hmark : IsOpening opening.toList := by
    rcases hopening with rfl | rfl
    · exact Or.inl rfl
    · exact Or.inr rfl
  have hchars : (fenced front opening text behind).toList =
      front.toList ++ (opening.toList ++ '\n' :: (text.toList ++ ['\n'] ++ fence)) ++
        behind.toList := by
    simp [fenced, fence]
  rw [hchars]
  exact bodyOf_fenced (List.all_eq_true.1 hfront) hmark (List.all_eq_true.1 hbehind)

/-- A text that has no code fence of its own comes to the same subtasks with and without one, with
any blanks around the fence. When it is no array, both say the same of what is wrong, and each shows
its own beginning. -/
theorem ofAnswer_fenced {front opening text behind : String}
    (hfront : Text.isBlankText front = true) (hopening : opening = "```" ∨ opening = "```json")
    (hbehind : Text.isBlankText behind = true)
    (hstart : ¬ fence <+: (Text.trim text).toList) (hend : ¬ fence <:+ (Text.trim text).toList) :
    (∀ task limit,
      ofAnswer (fenced front opening text behind) task limit = ofAnswer text task limit ∧
      ∀ subtask ∈ ofAnswer text task limit, subtask.parsingError = none) ∨
    ∃ problem, ∀ task limit,
      ofAnswer text task limit = [fallback text task problem] ∧
      ofAnswer (fenced front opening text behind) task limit =
        [fallback (fenced front opening text behind) task problem] := by
  rw [Text.trim, String.toList_ofList] at hstart hend
  have hbody : bodyOf (fenced front opening text behind).toList = bodyOf text.toList := by
    rw [bodyOf_fenced_text hfront hopening hbehind, bodyOf_of_unfenced hstart hend]
  have hitems := itemsOf_congr hbody
  cases htext : itemsOf text with
  | ok items =>
      rw [htext] at hitems
      refine Or.inl fun task limit => ?_
      rw [ofAnswer_of_ok hitems, ofAnswer_of_ok htext]
      exact ⟨rfl, fun subtask => parsingError_of_mem_ofItems⟩
  | error problem =>
      rw [htext] at hitems
      exact Or.inr ⟨problem, fun task limit =>
        ⟨ofAnswer_of_error htext task limit, ofAnswer_of_error hitems task limit⟩⟩

/-- An answer in prose, with the mark of a fence inside. -/
def prose : String := "\u00a0json is written between ``` and ```."

/-- Prose in a fence is refused for the same reason as prose without one. -/
theorem ofAnswer_fenced_prose :
    Text.isBlankText "\u2003" = true ∧ Text.isBlankText "\n" = true ∧
    ¬ fence <+: (Text.trim prose).toList ∧ ¬ fence <:+ (Text.trim prose).toList ∧
    ∃ problem, ∀ task limit,
      ofAnswer prose task limit = [fallback prose task problem] ∧
      ofAnswer (fenced "\u2003" "```json" prose "\n") task limit =
        [fallback (fenced "\u2003" "```json" prose "\n") task problem] := by
  have hfront : Text.isBlankText "\u2003" = true := by decide
  have hbehind : Text.isBlankText "\n" = true := by decide
  have hstart : ¬ fence <+: (Text.trim prose).toList := by decide
  have hend : ¬ fence <:+ (Text.trim prose).toList := by decide
  refine ⟨hfront, hbehind, hstart, hend, ?_⟩
  rcases ofAnswer_fenced hfront (Or.inr rfl) hbehind hstart hend with hsame | hrefused
  · have hwrong : ∃ subtask ∈ ofAnswer prose "" 0, subtask.parsingError ≠ none := by decide
    obtain ⟨subtask, hsubtask, herror⟩ := hwrong
    exact absurd ((hsame "" 0).2 subtask hsubtask) herror
  · exact hrefused

/-! ## Arrays and other answers -/

/-- Whatever the limit, an answer comes to one and the same subtask, which says what is wrong and
shows the answer, or its first 200 characters when there are more. -/
def IsRefused (answer task : String) : Prop :=
  ∃ subtask : Subtask, subtask.parsingError ≠ none ∧
    subtask.expectedOutcome =
      (if answer.length ≤ 200 then answer
        else String.ofList (answer.toList.take 200) ++ "...") ∧
    ∀ limit, ofAnswer answer task limit = [subtask]

/-- A record does not say what a field is. -/
def IsSilent (members : List (String × Value)) (key : String) : Prop :=
  Value.member? members key = none ∨ Value.member? members key = some .null

/-- An answer comes to subtasks with nothing wrong, one for each of some items, as far as the limit
allows. Each is made of its own item; a record that says nothing of a subtask is named after its
place. -/
structure IsItemized (answer task : String) (items : List Value) : Prop where
  sound : ∀ limit, ∀ subtask ∈ ofAnswer answer task limit, subtask.parsingError = none
  cut : ∀ limit more, limit ≤ more →
    ofAnswer answer task limit = (ofAnswer answer task more).take limit
  length : ∀ limit, (ofAnswer answer task limit).length = min limit items.length
  each : ∀ limit place, place < limit →
    (ofAnswer answer task limit)[place]? = items[place]?.map (ofItem place)
  unsaid : ∀ limit place members, place < limit → items[place]? = some (.record members) →
    (∀ key ∈ ["description", "resources", "expected_outcome"], IsSilent members key) →
    (ofAnswer answer task limit)[place]? =
      some ⟨"Subtask " ++ toString (place + 1), "Not specified", "Not specified", none⟩

theorem memberText?_of_isSilent {members : List (String × Value)} {key : String}
    (h : IsSilent members key) : memberText? members key = none := by
  rcases h with hnone | hnull
  · rw [memberText?, hnone]
  · rw [memberText?, hnull]

theorem isItemized_of_isArray (h : IsArray answer items) (task : String) :
    IsItemized answer task items := by
  have hanswer := ofAnswer_of_ok (itemsOf_eq_ok_iff.2 h) task
  have heach : ∀ limit place, place < limit →
      (ofAnswer answer task limit)[place]? = items[place]?.map (ofItem place) := by
    intro limit place hplace
    rw [hanswer, getElem?_ofItems, List.getElem?_take_of_lt hplace, Nat.zero_add]
  refine ⟨?_, ?_, ?_, heach, ?_⟩
  · intro limit subtask hsubtask
    rw [hanswer] at hsubtask
    exact parsingError_of_mem_ofItems hsubtask
  · intro limit more hmore
    rw [hanswer, hanswer, take_ofItems, take_ofItems, List.take_take, Nat.min_eq_left hmore]
  · intro limit
    rw [hanswer, length_ofItems, List.length_take]
  · intro limit place members hplace hitem hsilent
    simp only [List.forall_mem_cons] at hsilent
    obtain ⟨hdescription, hresources, houtcome, -⟩ := hsilent
    rw [heach limit place hplace, hitem, Option.map_some, ofItem,
      memberText?_of_isSilent hdescription, memberText?_of_isSilent hresources,
      memberText?_of_isSilent houtcome]
    rfl

theorem isRefused_of_not_isArray (h : ¬ ∃ items, IsArray answer items) (task : String) :
    IsRefused answer task := by
  cases hitems : itemsOf answer with
  | ok items => exact absurd ⟨items, itemsOf_eq_ok_iff.1 hitems⟩ h
  | error problem =>
      refine ⟨fallback answer task problem, Option.some_ne_none problem, ?_,
        ofAnswer_of_error hitems task⟩
      rw [fallback, excerpt, excerptLength]
      by_cases hlength : answer.length ≤ 200
      · rw [if_neg (Nat.not_lt.2 hlength), if_pos hlength]
      · rw [if_pos (Nat.lt_of_not_le hlength), if_neg hlength]

theorem IsRefused.not_isItemized (h : IsRefused answer task) (items : List Value) :
    ¬ IsItemized answer task items := by
  obtain ⟨subtask, herror, -, hanswer⟩ := h
  intro hitemized
  exact herror (hitemized.sound 0 subtask (hanswer 0 ▸ List.mem_singleton_self subtask))

/-- An answer is refused or itemized, whatever the limit, and never both. It is refused exactly when
what is left of it is not read as an array; it is read as one exactly when it writes a list that is
not nested too deep. -/
theorem ofAnswer_refused_or_itemized (answer task : String) :
    (IsRefused answer task ∨ ∃ items, IsItemized answer task items) ∧
    (IsRefused answer task ↔ ¬ ∃ items, IsArray answer items) ∧
    (∀ items, IsArray answer items → IsItemized answer task items) ∧
    ∀ items, IsArray answer items ↔
      ∃ written, Json.Writes (bodyOf answer.toList) (.list written) ∧
        Value.normalizeItems written = items := by
  refine ⟨?_, ⟨?_, fun h => isRefused_of_not_isArray h task⟩,
    fun items h => isItemized_of_isArray h task, fun items => ?_⟩
  · by_cases harray : ∃ items, IsArray answer items
    · obtain ⟨items, hitems⟩ := harray
      exact Or.inr ⟨items, isItemized_of_isArray hitems task⟩
    · exact Or.inl (isRefused_of_not_isArray harray task)
  · rintro hrefused ⟨items, hitems⟩
    exact hrefused.not_isItemized items (isItemized_of_isArray hitems task)
  · rw [IsArray, Json.read_eq_list_iff, String.toList_ofList]

/-- Lists around a list, so many of them. -/
def nestedLists : Nat → Value
  | 0 => .list []
  | depth + 1 => .list [nestedLists depth]

theorem isPlain_nestedLists (depth : Nat) : (nestedLists depth).IsPlain (depth + 1) := by
  induction depth with
  | zero => exact .list (List.forall_mem_nil _)
  | succ depth ih => exact .list (List.forall_mem_cons.2 ⟨ih, List.forall_mem_nil _⟩)

/-- A list in 127 others is written as an array, and the answer is refused all the same. -/
theorem ofAnswer_refused_nested :
    (Json.tokens (Json.compactChars (nestedLists 127))).map Prod.fst =
      Json.words (.list [nestedLists 126]) ∧
    IsRefused (Json.compact (nestedLists 127)) "Plan" := by
  refine ⟨(Json.Spells.compact (isPlain_nestedLists 127)).map_tokens, ?_⟩
  apply isRefused_of_not_isArray
  rintro ⟨items, harray⟩
  have hnone : ∀ c ∈ ([] : List Char), Text.isBlank c = true := List.forall_mem_nil _
  have hbody : bodyOf (Json.compact (nestedLists 127)).toList =
      Json.compactChars (nestedLists 127) := by
    have hcompact := bodyOf_compact [nestedLists 126] hnone hnone
    rw [List.nil_append, List.append_nil] at hcompact
    rw [Json.compact, String.toList_ofList]
    exact hcompact
  rw [IsArray, hbody, Json.read_eq_list_iff, String.toList_ofList] at harray
  obtain ⟨written, hwrites, -⟩ := harray
  have hrefused : (Json.readWritten (Json.compactChars (nestedLists 127))).isOk = false := by
    decide +kernel
  rw [hwrites.readWritten_eq] at hrefused
  cases hrefused

/-! ## Subtasks that were written -/

theorem isPlain_encode (subtask : Subtask) : subtask.encode.IsPlain 1 := by
  obtain ⟨description, resources, expectedOutcome, parsingError⟩ := subtask
  cases parsingError with
  | none =>
      exact .member (.text _ _) (.member (.text _ _) (.member (.text _ _) (.emptyRecord _)))
  | some problem =>
      exact .member (.text _ _) (.member (.text _ _) (.member (.text _ _)
        (.member (.text _ _) (.emptyRecord _))))

theorem memberText?_orderedMembers {members : List (String × Value)} {key value : String}
    (h : Value.member? members key = some (.text value)) :
    memberText? (Value.orderedMembers members) key = some value := by
  rw [memberText?, Value.member?_orderedMembers, h]
  rfl

/-- A subtask without a problem is read back from its item, wherever it stands. -/
theorem ofItem_encode {subtask : Subtask} (h : subtask.parsingError = none) (index : Nat) :
    ofItem index subtask.encode.normalize = subtask := by
  obtain ⟨description, resources, expectedOutcome, parsingError⟩ := subtask
  obtain rfl : parsingError = none := h
  let members : List (String × Value) := [("description", .text description),
    ("resources", .text resources), ("expected_outcome", .text expectedOutcome)]
  have hdescription : Value.member? members "description" = some (.text description) := rfl
  have hresources : Value.member? members "resources" = some (.text resources) := rfl
  have houtcome : Value.member? members "expected_outcome" = some (.text expectedOutcome) := rfl
  have hencode : (encode ⟨description, resources, expectedOutcome, none⟩).normalize =
      .record (Value.orderedMembers members) := Value.normalize_record members
  rw [hencode, ofItem, memberText?_orderedMembers hdescription,
    memberText?_orderedMembers hresources, memberText?_orderedMembers houtcome]
  rfl

theorem ofItems_encode {subtasks : List Subtask}
    (h : ∀ subtask ∈ subtasks, subtask.parsingError = none) (index : Nat) :
    ofItems index (Value.normalizeItems (subtasks.map encode)) = subtasks := by
  induction subtasks generalizing index with
  | nil => rfl
  | cons subtask rest ih =>
      obtain ⟨hsubtask, hrest⟩ := List.forall_mem_cons.1 h
      rw [List.map_cons, Value.normalizeItems, ofItems, ofItem_encode hsubtask, ih hrest]

/-- The compact array that subtasks without a problem are written as, with any blanks around it, is
read as these subtasks, as far as the limit allows. -/
theorem ofAnswer_compact {subtasks : List Subtask} {front behind : String}
    (hsound : ∀ subtask ∈ subtasks, subtask.parsingError = none)
    (hfront : Text.isBlankText front = true) (hbehind : Text.isBlankText behind = true)
    (task : String) (limit : Nat) :
    ofAnswer (front ++ Json.compact (.list (subtasks.map encode)) ++ behind) task limit =
      subtasks.take limit := by
  have hplain : (Value.list (subtasks.map encode)).IsPlain 2 := by
    refine .list fun item hitem => ?_
    obtain ⟨subtask, -, rfl⟩ := List.mem_map.1 hitem
    exact subtask.isPlain_encode
  have harray : IsArray (front ++ Json.compact (.list (subtasks.map encode)) ++ behind)
      (Value.normalizeItems (subtasks.map encode)) := by
    rw [IsArray, Json.read_eq_list_iff, String.toList_ofList, String.toList_append,
      String.toList_append, Json.compact, String.toList_ofList,
      bodyOf_compact _ (List.all_eq_true.1 hfront) (List.all_eq_true.1 hbehind)]
    exact ⟨_, Json.writes_compactChars hplain (by decide), rfl⟩
  rw [ofAnswer_of_ok (itemsOf_eq_ok_iff.2 harray), take_ofItems, ofItems_encode hsound]

/-- Subtasks with quotes, a backslash, control characters, brackets, a fence and nothing at all. -/
def awkward : List Subtask :=
  [⟨"say \"```json\"", "C:\\tools\t\u0001", "[null, \u00e9]", none⟩,
    ⟨"", "Not specified", "]\n```", none⟩, ⟨"Subtask 3", "", "\u2028", none⟩]

/-- The first two of three awkward subtasks are read back, between blanks that are not ASCII. -/
theorem ofAnswer_compact_awkward :
    (∀ subtask ∈ awkward, subtask.parsingError = none) ∧
    Text.isBlankText "\u2003\n" = true ∧ Text.isBlankText "\u00a0" = true ∧
    ofAnswer ("\u2003\n" ++ Json.compact (.list (awkward.map encode)) ++ "\u00a0") "Plan" 2 =
      awkward.take 2 := by
  have hsound : ∀ subtask ∈ awkward, subtask.parsingError = none := by decide
  have hfront : Text.isBlankText "\u2003\n" = true := by decide
  have hbehind : Text.isBlankText "\u00a0" = true := by decide
  exact ⟨hsound, hfront, hbehind, ofAnswer_compact hsound hfront hbehind "Plan" 2⟩

end Ensemble.Subtask
