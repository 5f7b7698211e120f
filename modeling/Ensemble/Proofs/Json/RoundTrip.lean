/-
# JSON texts are read back

Both forms of a value, the compact and the indented, consist of the same words, whatever follows
them. From these words the value is assembled again, unless its lists and records are nested too
deep. Numbers are left out of the forms: where the word of a number ends depends on what follows it.
-/

import Ensemble.Json.Reader
import Ensemble.Json.Writer
import Ensemble.Proofs.Text.Digits

namespace Ensemble

/-- A value without numbers, whose lists and records are nested at most so many deep. -/
inductive Value.IsPlain : Nat → Value → Prop
  | null (depth : Nat) : IsPlain depth .null
  | boolean (depth : Nat) (value : Bool) : IsPlain depth (.boolean value)
  | text (depth : Nat) (value : String) : IsPlain depth (.text value)
  | list {depth : Nat} {items : List Value} (plain : ∀ item ∈ items, IsPlain depth item) :
      IsPlain (depth + 1) (.list items)
  | record {depth : Nat} {members : List (String × Value)}
      (plain : ∀ member ∈ members, IsPlain depth member.2) : IsPlain (depth + 1) (.record members)

/-- A value whose lists and records are nested at most so many deep. -/
inductive Value.Nests : Nat → Value → Prop
  | null (depth : Nat) : Nests depth .null
  | boolean (depth : Nat) (value : Bool) : Nests depth (.boolean value)
  | number (depth : Nat) (value : Number) : Nests depth (.number value)
  | text (depth : Nat) (value : String) : Nests depth (.text value)
  | list {depth : Nat} {items : List Value} (nests : ∀ item ∈ items, Nests depth item) :
      Nests (depth + 1) (.list items)
  | record {depth : Nat} {members : List (String × Value)}
      (nests : ∀ member ∈ members, Nests depth member.2) : Nests (depth + 1) (.record members)

theorem Value.Nests.mono {depth room : Nat} {value : Value} (h : value.Nests depth)
    (hroom : depth ≤ room) : value.Nests room := by
  induction h generalizing room with
  | null => exact .null room
  | boolean _ value => exact .boolean room value
  | number _ value => exact .number room value
  | text _ value => exact .text room value
  | list _ ih =>
      obtain ⟨inner, rfl⟩ : ∃ inner, room = inner + 1 := ⟨room - 1, by omega⟩
      exact .list fun item hitem => ih item hitem (by omega)
  | record _ ih =>
      obtain ⟨inner, rfl⟩ : ∃ inner, room = inner + 1 := ⟨room - 1, by omega⟩
      exact .record fun member hmember => ih member hmember (by omega)

namespace Value.IsPlain

theorem nests {depth : Nat} {value : Value} (h : value.IsPlain depth) : value.Nests depth := by
  induction h with
  | null depth => exact .null depth
  | boolean depth value => exact .boolean depth value
  | text depth value => exact .text depth value
  | list _ ih => exact .list ih
  | record _ ih => exact .record ih

theorem emptyRecord (depth : Nat) : (Value.record []).IsPlain (depth + 1) :=
  .record (List.forall_mem_nil _)

theorem member {depth : Nat} {key : String} {value : Value} {rest : List (String × Value)}
    (hvalue : value.IsPlain depth) (hrest : (Value.record rest).IsPlain (depth + 1)) :
    (Value.record ((key, value) :: rest)).IsPlain (depth + 1) := by
  cases hrest with
  | record plain => exact .record (List.forall_mem_cons.2 ⟨hvalue, plain⟩)

end Value.IsPlain

namespace Json

/-! ## Texts between quotes -/

theorem hexUnit?_control {number : Nat} (h : number < 0x20) :
    hexUnit? '0' '0' (Text.hexDigit (number / 16)) (Text.hexDigit (number % 16)) =
      some number := by
  have hzero : Text.hexDigit? '0' = some 0 := rfl
  have hhigh : Text.hexDigit? (Text.hexDigit (number / 16)) = some (number / 16) :=
    Text.hexDigit?_hexDigit (by omega)
  have hlow : Text.hexDigit? (Text.hexDigit (number % 16)) = some (number % 16) :=
    Text.hexDigit?_hexDigit (by omega)
  rw [hexUnit?, hzero, hhigh, hlow]
  simp only [Option.bind_eq_bind, Option.bind_some, pure]
  congr 1
  omega

/-- A character is read back from what is written for it. -/
theorem readText_escapeChar (c : Char) (rest : List Char) :
    readText (escapeChar c ++ rest) = consChar c (readText rest) := by
  rw [escapeChar.eq_def]
  split
  case h_8 hquote hbackslash _ _ _ _ _ =>
    split
    next hcontrol =>
      have hunit := hexUnit?_control hcontrol
      simp only [List.cons_append, List.nil_append]
      rw [readText, hunit]
      simp only
      rw [if_neg (by omega), if_neg (by omega), Char.ofNat_toNat]
    next hcontrol =>
      rw [List.singleton_append, readText]
      · rw [if_neg hcontrol]
      all_goals
        intros
        contradiction
  all_goals rfl

theorem readText_flatMap_escapeChar (chars rest : List Char) :
    readText (chars.flatMap escapeChar ++ '"' :: rest) = .ok (chars, rest) := by
  induction chars with
  | nil => rfl
  | cons c more ih =>
      rw [List.flatMap_cons, List.append_assoc, readText_escapeChar, ih, consChar]

/-! ## Words -/

mutual

/-- The words of a value. -/
def words : Value → List Token
  | .null => [.scalar .null]
  | .boolean value => [.scalar (.boolean value)]
  | .number value => [.scalar (.number value)]
  | .text value => [.text value]
  | .list items => .openList :: itemWords items ++ [.closeList]
  | .record members => .openRecord :: memberWords members ++ [.closeRecord]

/-- The words of the items of a list. -/
def itemWords : List Value → List Token
  | [] => []
  | [item] => words item
  | item :: rest => words item ++ .comma :: itemWords rest

/-- The words of the members of a record. -/
def memberWords : List (String × Value) → List Token
  | [] => []
  | [(key, value)] => .text key :: .colon :: words value
  | (key, value) :: rest => .text key :: .colon :: words value ++ .comma :: memberWords rest

end

/-- Characters that consist of some words, whatever follows them. -/
def Spells (chars : List Char) (spelled : List Token) : Prop :=
  ∀ (rest : List Char) (fuel : Nat), (chars ++ rest).length ≤ fuel →
    ∃ (placed : List (Token × List Char)) (left : Nat), placed.map Prod.fst = spelled ∧
      rest.length ≤ left ∧ tokensWithin fuel (chars ++ rest) = placed ++ tokensWithin left rest

namespace Spells

theorem nil : Spells [] [] :=
  fun _ fuel hfuel => ⟨[], fuel, rfl, hfuel, rfl⟩

theorem append {first second : List Char} {before behind : List Token}
    (hfirst : Spells first before) (hsecond : Spells second behind) :
    Spells (first ++ second) (before ++ behind) := by
  intro rest fuel hfuel
  rw [List.append_assoc] at hfuel ⊢
  obtain ⟨placed, left, hplaced, hleft, htokens⟩ := hfirst (second ++ rest) fuel hfuel
  obtain ⟨more, last, hmore, hlast, hrest⟩ := hsecond rest left hleft
  refine ⟨placed ++ more, last, ?_, hlast, ?_⟩
  · rw [List.map_append, hplaced, hmore]
  · rw [htokens, hrest, List.append_assoc]

/-- A space is no word. -/
theorem space {c : Char} (h : isSpace c = true) : Spells [c] [] := by
  intro rest fuel hfuel
  obtain ⟨left, rfl⟩ : ∃ left, fuel = left + 1 := ⟨fuel - 1, by simp at hfuel; omega⟩
  refine ⟨[], left, rfl, by simpa using hfuel, ?_⟩
  rw [List.singleton_append, tokensWithin, if_pos h]
  rfl

/-- A word that does not depend on what follows it. -/
theorem word {c : Char} {more : List Char} {token : Token} (hspace : isSpace c = false)
    (h : ∀ rest, nextToken c (more ++ rest) = (token, rest)) : Spells (c :: more) [token] := by
  intro rest fuel hfuel
  rw [List.cons_append, List.length_cons, List.length_append] at hfuel
  obtain ⟨left, rfl⟩ : ∃ left, fuel = left + 1 := ⟨fuel - 1, by omega⟩
  refine ⟨[(token, c :: (more ++ rest))], left, rfl, by omega, ?_⟩
  rw [List.cons_append, tokensWithin, if_neg (by rw [hspace]; exact Bool.false_ne_true)]
  simp only [h]
  rfl

/-- A text is a single word. -/
theorem text (value : String) : Spells (textChars value) [.text value] := by
  refine word rfl fun rest => ?_
  have hread : readText (value.toList.flatMap escapeChar ++ ['"'] ++ rest) =
      .ok (value.toList, rest) := by
    rw [List.append_assoc]
    exact readText_flatMap_escapeChar value.toList rest
  simp only [nextToken, List.append_eq, hread, String.ofList_toList]

theorem comma : Spells [','] [.comma] := word rfl fun _ => rfl

theorem colon : Spells [':'] [.colon] := word rfl fun _ => rfl

/-- The brackets around a list. -/
theorem list {inner : List Char} {spelled : List Token} (h : Spells inner spelled) :
    Spells ('[' :: inner ++ [']']) (.openList :: spelled ++ [.closeList]) := by
  have hopen : Spells ['['] [.openList] := word rfl fun _ => rfl
  have hclose : Spells [']'] [.closeList] := word rfl fun _ => rfl
  exact (hopen.append h).append hclose

/-- The braces around a record. -/
theorem record {inner : List Char} {spelled : List Token} (h : Spells inner spelled) :
    Spells ('\x7b' :: inner ++ ['\x7d']) (.openRecord :: spelled ++ [.closeRecord]) := by
  have hopen : Spells ['\x7b'] [.openRecord] := word rfl fun _ => rfl
  have hclose : Spells ['\x7d'] [.closeRecord] := word rfl fun _ => rfl
  exact (hopen.append h).append hclose

/-- A new line and its indentation are no words. -/
theorem newLine (depth : Nat) : Spells (newLine depth) [] := by
  have hspaces : ∀ count, Spells (List.replicate count ' ') [] := by
    intro count
    induction count with
    | zero => exact nil
    | succ count ih => exact (space rfl).append ih
  have hline : Spells ['\n'] [] := space rfl
  exact hline.append (hspaces (2 * depth))

theorem null : Spells (compactChars .null) (words .null) := by
  rw [compactChars, words]
  exact word rfl fun _ => rfl

theorem boolean (value : Bool) : Spells (compactChars (.boolean value)) (words (.boolean value)) := by
  cases value with
  | true =>
      rw [compactChars, words]
      exact word rfl fun _ => rfl
  | false =>
      rw [compactChars, words]
      exact word rfl fun _ => rfl

/-! ### The compact form -/

theorem items {items : List Value}
    (h : ∀ item ∈ items, Spells (compactChars item) (words item)) :
    Spells (itemChars items) (itemWords items) := by
  induction items with
  | nil => exact nil
  | cons item rest ih =>
      obtain ⟨hitem, hrest⟩ := List.forall_mem_cons.1 h
      cases rest with
      | nil => exact hitem
      | cons next rest => exact hitem.append (comma.append (ih hrest))

theorem members {members : List (String × Value)}
    (h : ∀ member ∈ members, Spells (compactChars member.2) (words member.2)) :
    Spells (memberChars members) (memberWords members) := by
  induction members with
  | nil => exact nil
  | cons member rest ih =>
      obtain ⟨key, value⟩ := member
      obtain ⟨hvalue, hrest⟩ := List.forall_mem_cons.1 h
      have hmember := (text key).append (colon.append hvalue)
      cases rest with
      | nil => exact hmember
      | cons next rest =>
          have hall := hmember.append (comma.append (ih hrest))
          simpa [memberChars, memberWords] using hall

/-- The compact form of a value has its words. -/
theorem compact {depth : Nat} {value : Value} (h : value.IsPlain depth) :
    Spells (compactChars value) (words value) := by
  induction h with
  | null => exact null
  | boolean _ value => exact boolean value
  | text _ value =>
      rw [compactChars, words]
      exact text value
  | list _ ih =>
      rw [compactChars, words]
      exact list (items ih)
  | record _ ih =>
      rw [compactChars, words]
      exact record (members ih)

/-! ### The indented form -/

theorem indentedItems {depth : Nat} {items : List Value}
    (h : ∀ item ∈ items, Spells (indentedChars depth item) (words item)) :
    Spells (indentedItems depth items) (itemWords items) := by
  induction items with
  | nil => exact nil
  | cons item rest ih =>
      obtain ⟨hitem, hrest⟩ := List.forall_mem_cons.1 h
      have hline := (newLine depth).append hitem
      cases rest with
      | nil => exact hline
      | cons next rest => exact hline.append (comma.append (ih hrest))

theorem indentedMembers {depth : Nat} {members : List (String × Value)}
    (h : ∀ member ∈ members, Spells (indentedChars depth member.2) (words member.2)) :
    Spells (indentedMembers depth members) (memberWords members) := by
  induction members with
  | nil => exact nil
  | cons member rest ih =>
      obtain ⟨key, value⟩ := member
      obtain ⟨hvalue, hrest⟩ := List.forall_mem_cons.1 h
      have hblank : Spells [' '] [] := space rfl
      have hline := ((newLine depth).append (text key)).append (colon.append (hblank.append hvalue))
      cases rest with
      | nil => exact hline
      | cons next rest =>
          have hall := hline.append (comma.append (ih hrest))
          simpa [Json.indentedMembers, memberWords] using hall

/-- The indented form of a value has its words. -/
theorem indented {room : Nat} {value : Value} (h : value.IsPlain room) (depth : Nat) :
    Spells (indentedChars depth value) (words value) := by
  induction h generalizing depth with
  | null =>
      rw [indentedChars]
      exact null
  | boolean _ value =>
      rw [indentedChars]
      exact boolean value
  | text _ value =>
      rw [indentedChars, compactChars, words]
      exact text value
  | @list _ items _ ih =>
      rw [words]
      cases items with
      | nil =>
          rw [indentedChars]
          exact list nil
      | cons item rest =>
          have hitems := indentedItems fun item hmem => ih item hmem (depth + 1)
          have hlist := list (hitems.append (newLine depth))
          rw [indentedChars]
          · simpa using hlist
          · exact List.cons_ne_nil item rest
  | @record _ members _ ih =>
      rw [words]
      cases members with
      | nil =>
          rw [indentedChars]
          exact record nil
      | cons member rest =>
          have hmembers := indentedMembers fun member hmem => ih member hmem (depth + 1)
          have hrecord := record (hmembers.append (newLine depth))
          rw [indentedChars]
          · simpa using hrecord
          · exact List.cons_ne_nil member rest

end Spells

/-! ## Assembly -/

/-- Words that take an assembly from one state to another, wherever they stand. -/
def Takes (spelled : List Token) (before after : Assembly) : Prop :=
  ∀ placed : List (Token × List Char), placed.map Prod.fst = spelled →
    placed.foldlM Assembly.take before = .ok after

namespace Takes

variable {before middle after : Assembly} {frames : List Frame} {expects : Expectation}

theorem nil (assembly : Assembly) : Takes [] assembly assembly := by
  intro placed hplaced
  rw [List.map_eq_nil_iff.1 hplaced]
  rfl

theorem cons {token : Token} {rest : List Token}
    (htoken : ∀ place, before.take (token, place) = .ok middle) (hrest : Takes rest middle after) :
    Takes (token :: rest) before after := by
  intro placed hplaced
  obtain ⟨⟨first, place⟩, more, rfl, hfirst, hmore⟩ := List.map_eq_cons_iff.1 hplaced
  obtain rfl : first = token := hfirst
  rw [List.foldlM_cons, htoken]
  exact hrest more hmore

theorem append {first second : List Token} (hfirst : Takes first before middle)
    (hsecond : Takes second middle after) : Takes (first ++ second) before after := by
  intro placed hplaced
  obtain ⟨placedFirst, placedSecond, rfl, hplacedFirst, hplacedSecond⟩ :=
    List.map_eq_append_iff.1 hplaced
  rw [List.foldlM_append, hfirst placedFirst hplacedFirst]
  exact hsecond placedSecond hplacedSecond

/-- Where a value is expected, also instead of the end of a list. -/
def AwaitsValue : Expectation → Prop
  | .value | .firstItem => True
  | _ => False

/-- Where a key is expected, also instead of the end of a record. -/
def AwaitsKey : Expectation → Prop
  | .firstKey | .furtherKey => True
  | _ => False

/-- Where a value is expected, every word is taken for one, unless it ends a list. -/
theorem take_eq_takeValue (hexpects : AwaitsValue expects) {token : Token}
    (htoken : token ≠ .closeList) (place : List Char) :
    Assembly.take ⟨frames, expects⟩ (token, place) = Assembly.takeValue frames token place := by
  cases expects with
  | value => cases token <;> first | rfl | exact absurd rfl htoken
  | firstItem => cases token <;> first | rfl | exact absurd rfl htoken
  | _ => exact hexpects.elim

theorem take_value (hexpects : AwaitsValue expects) {token : Token}
    (htoken : ∀ place, Assembly.takeValue frames token place = .ok after) (place : List Char) :
    Assembly.take ⟨frames, expects⟩ (token, place) = .ok after := by
  have hnotEnd : token ≠ .closeList := by
    rintro rfl
    cases htoken []
  rw [take_eq_takeValue hexpects hnotEnd, htoken]

/-- An opening bracket or brace, as long as not too many are open. -/
theorem take_open (hexpects : AwaitsValue expects) (hroom : frames.length + 1 < 128)
    {token : Token} {frame : Frame} {first : Expectation}
    (htoken : ∀ place, Assembly.takeValue frames token place =
      Assembly.open frames frame first place) (place : List Char) :
    Assembly.take ⟨frames, expects⟩ (token, place) = .ok ⟨frame :: frames, first⟩ := by
  refine take_value hexpects (fun place => ?_) place
  rw [htoken, Assembly.open, if_neg (by omega)]

theorem take_closeList (items : List Value) (place : List Char) :
    Assembly.take ⟨.list items.reverse :: frames, .separator⟩ (.closeList, place) =
      .ok (Assembly.deliver (.list items) frames) := by
  have htaken : Assembly.take ⟨.list items.reverse :: frames, .separator⟩ (.closeList, place) =
      .ok (Assembly.deliver (.list items.reverse.reverse) frames) := rfl
  rw [htaken, List.reverse_reverse]

theorem take_closeRecord (members : List (String × Value)) (place : List Char) :
    Assembly.take ⟨.record members.reverse :: frames, .separator⟩ (.closeRecord, place) =
      .ok (Assembly.deliver (.record members) frames) := by
  have htaken : Assembly.take ⟨.record members.reverse :: frames, .separator⟩
      (.closeRecord, place) =
        .ok (Assembly.deliver (.record members.reverse.reverse) frames) := rfl
  rw [htaken, List.reverse_reverse]

/-- The items of a list are gathered, the last first. -/
theorem items {items gathered : List Value} (hsome : items ≠ []) (hexpects : AwaitsValue expects)
    (h : ∀ item ∈ items, ∀ gathered expects, AwaitsValue expects →
      Takes (words item) ⟨.list gathered :: frames, expects⟩
        ⟨.list (item :: gathered) :: frames, .separator⟩) :
    Takes (itemWords items) ⟨.list gathered :: frames, expects⟩
      ⟨.list (items.reverse ++ gathered) :: frames, .separator⟩ := by
  induction items generalizing gathered expects with
  | nil => exact absurd rfl hsome
  | cons item rest ih =>
      obtain ⟨hitem, hrest⟩ := List.forall_mem_cons.1 h
      have hfirst := hitem gathered expects hexpects
      cases rest with
      | nil => exact hfirst
      | cons next rest =>
          have hothers : Takes (itemWords (next :: rest))
              ⟨.list (item :: gathered) :: frames, .value⟩
              ⟨.list ((next :: rest).reverse ++ item :: gathered) :: frames, .separator⟩ :=
            ih (List.cons_ne_nil next rest) trivial hrest
          rw [List.reverse_cons, List.append_assoc]
          exact hfirst.append (hothers.cons fun _ => rfl)

/-- The members of a record are gathered, the last first. -/
theorem members {members gathered : List (String × Value)} (hsome : members ≠ [])
    (hexpects : AwaitsKey expects)
    (h : ∀ member ∈ members, ∀ gathered,
      Takes (words member.2) ⟨.member gathered member.1 :: frames, .value⟩
        ⟨.record (member :: gathered) :: frames, .separator⟩) :
    Takes (memberWords members) ⟨.record gathered :: frames, expects⟩
      ⟨.record (members.reverse ++ gathered) :: frames, .separator⟩ := by
  induction members generalizing gathered expects with
  | nil => exact absurd rfl hsome
  | cons member rest ih =>
      obtain ⟨key, value⟩ := member
      obtain ⟨hvalue, hrest⟩ := List.forall_mem_cons.1 h
      have hkey : ∀ place, Assembly.take ⟨.record gathered :: frames, expects⟩
          (.text key, place) = .ok ⟨.member gathered key :: frames, .colon⟩ := by
        intro place
        cases expects with
        | firstKey => rfl
        | furtherKey => rfl
        | _ => exact hexpects.elim
      have hfirst : Takes (.text key :: .colon :: words value)
          ⟨.record gathered :: frames, expects⟩
          ⟨.record ((key, value) :: gathered) :: frames, .separator⟩ :=
        ((hvalue gathered).cons fun _ => rfl).cons hkey
      cases rest with
      | nil => exact hfirst
      | cons next rest =>
          have hothers : Takes (memberWords (next :: rest))
              ⟨.record ((key, value) :: gathered) :: frames, .furtherKey⟩
              ⟨.record ((next :: rest).reverse ++ (key, value) :: gathered) :: frames,
                .separator⟩ :=
            ih (List.cons_ne_nil next rest) trivial hrest
          rw [List.reverse_cons, List.append_assoc]
          exact hfirst.append (hothers.cons fun _ => rfl)

/-- The words of a value are assembled to that value. -/
theorem value {depth : Nat} {value : Value} (h : value.Nests depth) (frames : List Frame)
    (hroom : frames.length + depth < 128) {expects : Expectation}
    (hexpects : AwaitsValue expects) :
    Takes (words value) ⟨frames, expects⟩ (Assembly.deliver value frames) := by
  induction h generalizing frames expects with
  | null => exact (nil _).cons (take_value hexpects fun _ => rfl)
  | boolean => exact (nil _).cons (take_value hexpects fun _ => rfl)
  | number => exact (nil _).cons (take_value hexpects fun _ => rfl)
  | text => exact (nil _).cons (take_value hexpects fun _ => rfl)
  | @list depth items _ ih =>
      have hopen : ∀ place, Assembly.take ⟨frames, expects⟩ (.openList, place) =
          .ok ⟨.list [] :: frames, .firstItem⟩ :=
        take_open hexpects (by omega) fun _ => rfl
      rw [words]
      cases items with
      | nil => exact ((nil _).cons fun _ => rfl).cons hopen
      | cons item rest =>
          have hitems : Takes (itemWords (item :: rest)) ⟨.list [] :: frames, .firstItem⟩
              ⟨.list ((item :: rest).reverse ++ []) :: frames, .separator⟩ :=
            Takes.items (List.cons_ne_nil item rest) trivial
              fun item hmem gathered expects hexpects =>
                ih item hmem (.list gathered :: frames) (by rw [List.length_cons]; omega) hexpects
          rw [List.append_nil] at hitems
          exact cons hopen (hitems.append ((nil _).cons (take_closeList _)))
  | @record depth members _ ih =>
      have hopen : ∀ place, Assembly.take ⟨frames, expects⟩ (.openRecord, place) =
          .ok ⟨.record [] :: frames, .firstKey⟩ :=
        take_open hexpects (by omega) fun _ => rfl
      rw [words]
      cases members with
      | nil => exact ((nil _).cons fun _ => rfl).cons hopen
      | cons member rest =>
          have hmembers : Takes (memberWords (member :: rest)) ⟨.record [] :: frames, .firstKey⟩
              ⟨.record ((member :: rest).reverse ++ []) :: frames, .separator⟩ :=
            Takes.members (List.cons_ne_nil member rest) trivial fun member hmem gathered =>
              ih member hmem (.member gathered member.1 :: frames)
                (by rw [List.length_cons]; omega) trivial
          rw [List.append_nil] at hmembers
          exact cons hopen (hmembers.append ((nil _).cons (take_closeRecord _)))

end Takes

/-! ## Texts -/

/-- Characters write a value that can be read: their words are those of the value, and its lists
and records are nested at most 127 deep. -/
structure Writes (chars : List Char) (value : Value) : Prop where
  words_eq : (tokens chars).map Prod.fst = words value
  nests : value.Nests 127

/-- A text that writes a value is read as that value. -/
theorem Writes.readWritten_eq {chars : List Char} {value : Value} (h : Writes chars value) :
    readWritten chars = .ok value := by
  have htakes : Takes (words value) ⟨[], .value⟩ (Assembly.deliver value []) :=
    Takes.value h.nests [] (by simp) trivial
  rw [readWritten, Assembly.start, htakes _ h.words_eq]
  rfl

/-- A text that consists of some words has these and no others. -/
theorem Spells.map_tokens {chars : List Char} {spelled : List Token} (h : Spells chars spelled) :
    (tokens chars).map Prod.fst = spelled := by
  obtain ⟨placed, left, hplaced, -, htokens⟩ := h [] chars.length (by simp)
  have hend : tokensWithin left [] = [] := by cases left <;> rfl
  rw [List.append_nil, hend, List.append_nil] at htokens
  rw [tokens, htokens, hplaced]

/-- A text that consists of the words of a value writes it. -/
theorem Spells.writes {chars : List Char} {value : Value} {depth : Nat}
    (h : Spells chars (words value)) (hnests : value.Nests depth) (hdepth : depth < 128) :
    Writes chars value :=
  ⟨h.map_tokens, hnests.mono (by omega)⟩

/-- The compact form of a value without numbers writes it. -/
theorem writes_compactChars {value : Value} {depth : Nat} (hplain : value.IsPlain depth)
    (hdepth : depth < 128) : Writes (compactChars value) value :=
  (Spells.compact hplain).writes hplain.nests hdepth

/-- The indented form of a value without numbers writes it. -/
theorem writes_indentedChars {value : Value} {depth : Nat} (hplain : value.IsPlain depth)
    (hdepth : depth < 128) : Writes (indentedChars 0 value) value :=
  (Spells.indented hplain 0).writes hplain.nests hdepth

end Json

end Ensemble
