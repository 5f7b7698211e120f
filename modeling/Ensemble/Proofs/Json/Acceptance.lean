/-
# What reading JSON accepts

A text is read as a value exactly when its words are the words of that value, and the lists and
records of the value are nested at most 127 deep. That such a text is read belongs to the round
trip. The other direction is an invariant of the assembly: the words taken so far are those of
what is open, up to where the next word is expected, or of what is complete.
-/

import Ensemble.Proofs.Json.RoundTrip

namespace Ensemble.Json

/-! ## Words of values -/

/-- The words of some items, each with a comma behind it. -/
def itemWordsWithCommas (items : List Value) : List Token :=
  items.flatMap fun item => words item ++ [.comma]

/-- The words of some members, each with a comma behind it. -/
def memberWordsWithCommas (members : List (String × Value)) : List Token :=
  members.flatMap fun member => .text member.1 :: .colon :: words member.2 ++ [.comma]

theorem itemWords_append_singleton (items : List Value) (item : Value) :
    itemWords (items ++ [item]) = itemWordsWithCommas items ++ words item := by
  induction items with
  | nil => rfl
  | cons first rest ih =>
      rw [List.cons_append, itemWords]
      · simp [ih, itemWordsWithCommas]
      · simp

theorem memberWords_append_singleton (members : List (String × Value)) (key : String)
    (value : Value) :
    memberWords (members ++ [(key, value)]) =
      memberWordsWithCommas members ++ .text key :: .colon :: words value := by
  induction members with
  | nil => rfl
  | cons first rest ih =>
      rw [List.cons_append, memberWords]
      · simp [ih, memberWordsWithCommas]
      · simp

/-- A word that is a value by itself is a value without parts. -/
def Token.IsSimple : Token → Prop
  | .scalar value => words value = [.scalar value] ∧ ∀ depth, value.Nests depth
  | _ => True

theorem isSimple_nextToken (c : Char) (rest : List Char) : (nextToken c rest).1.IsSimple := by
  have hnull : (Token.scalar .null).IsSimple := ⟨rfl, .null⟩
  have hboolean : ∀ value, (Token.scalar (.boolean value)).IsSimple :=
    fun value => ⟨rfl, fun depth => .boolean depth value⟩
  have hnumber : ∀ number, (Token.scalar (.number number)).IsSimple :=
    fun number => ⟨rfl, fun depth => .number depth number⟩
  rw [nextToken.eq_def]
  simp only
  split
  case h_7 => split <;> trivial
  case h_8 =>
    split
    next hread => exact value_of_readWord hread ▸ hnull
    next => trivial
  case h_9 | h_10 =>
    split
    next hread => exact value_of_readWord hread ▸ hboolean _
    next => trivial
  case h_11 =>
    split
    next => exact hnumber _
    next => trivial
  case h_12 =>
    split
    · split
      next => exact hnumber _
      next => trivial
    · trivial
  all_goals trivial

/-! ## What is open -/

/-- The words of an open list or record up to where the next item, key or value is expected. -/
def Frame.words : Frame → List Token
  | .list items => .openList :: itemWordsWithCommas items.reverse
  | .record members => .openRecord :: memberWordsWithCommas members.reverse
  | .member members key =>
    .openRecord :: memberWordsWithCommas members.reverse ++ [.text key, .colon]

/-- The words of everything that is open, the innermost first. -/
def openWords : List Frame → List Token
  | [] => []
  | frame :: frames => openWords frames ++ frame.words

/-- Lists and records that are open, all of which wait for a value: no more than 127, and what
they hold leaves room for those around it. -/
inductive Waiting : List Frame → Prop
  | nil : Waiting []
  | list {items : List Value} {frames : List Frame} (around : Waiting frames)
      (room : frames.length < 127) (nests : ∀ item ∈ items, item.Nests (126 - frames.length)) :
      Waiting (.list items :: frames)
  | member {members : List (String × Value)} {key : String} {frames : List Frame}
      (around : Waiting frames) (room : frames.length < 127)
      (nests : ∀ member ∈ members, member.2.Nests (126 - frames.length)) :
      Waiting (.member members key :: frames)

namespace Waiting

variable {items : List Value} {members : List (String × Value)} {key : String}
  {frames : List Frame}

theorem length_le (h : Waiting frames) : frames.length ≤ 127 := by
  cases h with
  | nil => exact Nat.zero_le 127
  | list _ room _ => exact room
  | member _ room _ => exact room

/-- A list that is closed leaves the frames around it, with room for it. -/
theorem closeList (h : Waiting (.list items :: frames)) :
    Waiting frames ∧ (Value.list items.reverse).Nests (127 - frames.length) := by
  cases h with
  | list around room nests =>
      have hlist : (Value.list items.reverse).Nests (126 - frames.length + 1) :=
        .list fun item hitem => nests item (List.mem_reverse.1 hitem)
      rw [show 127 - frames.length = 126 - frames.length + 1 by omega]
      exact ⟨around, hlist⟩

/-- A record that is closed leaves the frames around it, with room for it. -/
theorem closeRecord (h : Waiting (.member members key :: frames)) :
    Waiting frames ∧ (Value.record members.reverse).Nests (127 - frames.length) := by
  cases h with
  | member around room nests =>
      have hrecord : (Value.record members.reverse).Nests (126 - frames.length + 1) :=
        .record fun member hmember => nests member (List.mem_reverse.1 hmember)
      rw [show 127 - frames.length = 126 - frames.length + 1 by omega]
      exact ⟨around, hrecord⟩

end Waiting

/-- The words of a list that is closed behind an item. -/
theorem words_list_reverse (item : Value) (items : List Value) :
    words (.list (item :: items).reverse) =
      (Frame.list items).words ++ words item ++ [.closeList] := by
  rw [words, List.reverse_cons, itemWords_append_singleton, Frame.words]
  simp

/-- The words of a record that is closed behind a member. -/
theorem words_record_reverse (key : String) (value : Value) (members : List (String × Value)) :
    words (.record ((key, value) :: members).reverse) =
      (Frame.member members key).words ++ words value ++ [.closeRecord] := by
  rw [words, List.reverse_cons, memberWords_append_singleton, Frame.words]
  simp

/-- The words that were taken are those of an assembly. -/
inductive Spelled : List Token → Assembly → Prop
  | value {frames : List Frame} (waiting : Waiting frames) :
      Spelled (openWords frames) ⟨frames, .value⟩
  | firstItem {frames : List Frame} (waiting : Waiting (.list [] :: frames)) :
      Spelled (openWords (.list [] :: frames)) ⟨.list [] :: frames, .firstItem⟩
  | firstKey {frames : List Frame} (waiting : ∀ key, Waiting (.member [] key :: frames)) :
      Spelled (openWords (.record [] :: frames)) ⟨.record [] :: frames, .firstKey⟩
  | furtherKey {members : List (String × Value)} {frames : List Frame}
      (waiting : ∀ key, Waiting (.member members key :: frames)) :
      Spelled (openWords (.record members :: frames)) ⟨.record members :: frames, .furtherKey⟩
  | colon {members : List (String × Value)} {key : String} {frames : List Frame}
      (waiting : Waiting (.member members key :: frames)) :
      Spelled (openWords (.record members :: frames) ++ [.text key])
        ⟨.member members key :: frames, .colon⟩
  | item {item : Value} {items : List Value} {frames : List Frame}
      (waiting : Waiting (.list (item :: items) :: frames)) :
      Spelled (openWords (.list items :: frames) ++ words item)
        ⟨.list (item :: items) :: frames, .separator⟩
  | member {key : String} {value : Value} {members : List (String × Value)} {frames : List Frame}
      (waiting : ∀ next, Waiting (.member ((key, value) :: members) next :: frames)) :
      Spelled (openWords (.member members key :: frames) ++ words value)
        ⟨.record ((key, value) :: members) :: frames, .separator⟩
  | complete {value : Value} (nests : value.Nests 127) :
      Spelled (words value) ⟨[], .nothing value⟩

namespace Spelled

variable {spelled : List Token} {before after : Assembly} {frames : List Frame}

/-- A complete value goes where a value was expected. -/
theorem deliver {value : Value} (waiting : Waiting frames)
    (hnests : value.Nests (127 - frames.length)) :
    Spelled (openWords frames ++ words value) (Assembly.deliver value frames) := by
  cases waiting with
  | nil => exact .complete hnests
  | @list items frames around room nests =>
      refine .item (.list around room (List.forall_mem_cons.2 ⟨?_, nests⟩))
      rwa [List.length_cons, Nat.add_comm, ← Nat.sub_sub] at hnests
  | @member members key frames around room nests =>
      refine .member fun next => .member around room (List.forall_mem_cons.2 ⟨?_, nests⟩)
      rwa [List.length_cons, Nat.add_comm, ← Nat.sub_sub] at hnests

/-- A word where a value is expected. -/
theorem takeValue {token : Token} {place : List Char} (hsimple : token.IsSimple)
    (waiting : Waiting frames) (h : Assembly.takeValue frames token place = .ok after) :
    Spelled (openWords frames ++ [token]) after := by
  cases token with
  | scalar value =>
      cases h
      exact hsimple.1 ▸ deliver waiting (hsimple.2 _)
  | text value =>
      cases h
      exact deliver waiting (.text _ value)
  | openList =>
      have hlength := waiting.length_le
      rw [Assembly.takeValue, Assembly.open] at h
      split at h
      · cases h
      · cases h
        exact .firstItem (.list waiting (by omega) (List.forall_mem_nil _))
  | openRecord =>
      have hlength := waiting.length_le
      rw [Assembly.takeValue, Assembly.open] at h
      split at h
      · cases h
      · cases h
        exact .firstKey fun key => .member waiting (by omega) (List.forall_mem_nil _)
  | _ => cases h

/-- A word where a key is expected. -/
theorem takeKey {members : List (String × Value)} {token : Token} (place : List Char)
    (waiting : ∀ key, Waiting (.member members key :: frames))
    (h : Assembly.takeKey (.record members :: frames) token place = .ok after) :
    Spelled (openWords (.record members :: frames) ++ [token]) after := by
  rw [Assembly.takeKey.eq_def] at h
  split at h
  next key _ _ hopen =>
    cases hopen
    cases h
    exact .colon (waiting key)
  next => cases h
  next => cases h

/-- One more word. -/
theorem take {token : Token} {place : List Char} (h : Spelled spelled before)
    (hsimple : token.IsSimple) (htaken : before.take (token, place) = .ok after) :
    Spelled (spelled ++ [token]) after := by
  cases h with
  | @value frames waiting =>
      by_cases hclose : token = .closeList
      · subst hclose
        cases waiting <;> cases htaken
      · have hawaits : Takes.AwaitsValue .value := trivial
        rw [Takes.take_eq_takeValue hawaits hclose] at htaken
        exact takeValue hsimple waiting htaken
  | @firstItem frames waiting =>
      by_cases hclose : token = .closeList
      · subst hclose
        cases htaken
        obtain ⟨around, hnests⟩ := waiting.closeList
        rw [openWords, List.append_assoc]
        exact deliver around hnests
      · have hawaits : Takes.AwaitsValue .firstItem := trivial
        rw [Takes.take_eq_takeValue hawaits hclose] at htaken
        exact takeValue hsimple waiting htaken
  | @firstKey frames waiting =>
      cases token with
      | closeRecord =>
          cases htaken
          obtain ⟨around, hnests⟩ := (waiting "").closeRecord
          rw [openWords, List.append_assoc]
          exact deliver around hnests
      | _ => exact takeKey place waiting htaken
  | @furtherKey members frames waiting =>
      cases token with
      | closeRecord => cases htaken
      | _ => exact takeKey place waiting htaken
  | @colon members key frames waiting =>
      cases token with
      | colon =>
          cases htaken
          have hwords : openWords (.record members :: frames) ++ [.text key] ++ [.colon] =
              openWords (.member members key :: frames) := by
            simp [openWords, Frame.words]
          rw [hwords]
          exact .value waiting
      | _ => cases htaken
  | @item item items frames waiting =>
      cases token with
      | closeList =>
          cases htaken
          obtain ⟨around, hnests⟩ := waiting.closeList
          have hdelivered := deliver around hnests
          rwa [words_list_reverse, ← List.append_assoc, ← List.append_assoc] at hdelivered
      | comma =>
          cases htaken
          have hwords : openWords (.list items :: frames) ++ words item ++ [.comma] =
              openWords (.list (item :: items) :: frames) := by
            simp [openWords, Frame.words, itemWordsWithCommas]
          rw [hwords]
          exact .value waiting
      | _ => cases htaken
  | @member key value members frames waiting =>
      cases token with
      | closeRecord =>
          cases htaken
          obtain ⟨around, hnests⟩ := (waiting "").closeRecord
          have hdelivered := deliver around hnests
          rwa [words_record_reverse, ← List.append_assoc, ← List.append_assoc] at hdelivered
      | comma =>
          cases htaken
          have hwords : openWords (.member members key :: frames) ++ words value ++ [.comma] =
              openWords (.record ((key, value) :: members) :: frames) := by
            simp [openWords, Frame.words, memberWordsWithCommas]
          rw [hwords]
          exact .furtherKey waiting
      | _ => cases htaken
  | complete => cases htaken

/-- All words. -/
theorem takeAll {placed : List (Token × List Char)} (h : Spelled spelled before)
    (hsimple : ∀ word ∈ placed, word.1.IsSimple)
    (htaken : placed.foldlM Assembly.take before = .ok after) :
    Spelled (spelled ++ placed.map Prod.fst) after := by
  induction placed generalizing spelled before with
  | nil =>
      cases htaken
      rwa [List.map_nil, List.append_nil]
  | cons word rest ih =>
      obtain ⟨hword, hrest⟩ := List.forall_mem_cons.1 hsimple
      rw [List.foldlM_cons] at htaken
      cases hstep : before.take word with
      | error fault =>
          rw [hstep] at htaken
          cases htaken
      | ok next =>
          rw [hstep] at htaken
          have hspelled := ih (h.take hword hstep) hrest htaken
          rwa [List.append_assoc, List.singleton_append, ← List.map_cons] at hspelled

end Spelled

/-! ## Texts that are read -/

/-- A text is read as a value exactly when it writes that value. -/
theorem readWritten_eq_ok_iff {chars : List Char} {value : Value} :
    readWritten chars = .ok value ↔ Writes chars value := by
  constructor
  · intro h
    obtain ⟨assembly, hall, hexpects⟩ := assembled_of_readWritten h
    have hsimple : ∀ word ∈ tokens chars, word.1.IsSimple :=
      forall_mem_tokensWithin isSimple_nextToken chars.length chars
    have hspelled := (Spelled.value .nil).takeAll hsimple hall
    obtain ⟨frames, expects⟩ := assembly
    obtain rfl : expects = .nothing value := hexpects
    generalize hwords : openWords [] ++ (tokens chars).map Prod.fst = spelled at hspelled
    cases hspelled with
    | complete nests => exact ⟨hwords, nests⟩
  · exact Writes.readWritten_eq

/-- A text is read as a list exactly when it writes one; its items are then in normal form. -/
theorem read_eq_list_iff {text : String} {items : List Value} :
    read text = .ok (.list items) ↔
      ∃ written, Writes text.toList (.list written) ∧ Value.normalizeItems written = items := by
  rw [read_eq_ok_iff]
  constructor
  · rintro ⟨value, hread, hnormal⟩
    cases value with
    | list written => exact ⟨written, readWritten_eq_ok_iff.1 hread, Value.list.inj hnormal⟩
    | _ => cases hnormal
  · rintro ⟨written, hwrites, rfl⟩
    exact ⟨.list written, readWritten_eq_ok_iff.2 hwrites, by rw [Value.normalize]⟩

end Ensemble.Json
