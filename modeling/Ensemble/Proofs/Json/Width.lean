/-
# JSON texts have no singles

A number in a JSON text is read as a whole number or as a double, so that what the text is read as
has no singles. Word by word this is kept by everything that is open or complete.
-/

import Ensemble.Json.Reader
import Ensemble.Proofs.Document.Storage

namespace Ensemble

/-- Normal form adds no singles. -/
theorem Value.IsWide.normalize : ∀ {value : Value}, value.IsWide → value.normalize.IsWide
  | list items, h => by
      rw [Value.normalize, normalizeItems_eq_map, isWide_list_iff]
      intro item hitem
      obtain ⟨original, horiginal, rfl⟩ := List.mem_map.1 hitem
      have hlt : sizeOf original < sizeOf items := List.sizeOf_lt_of_mem horiginal
      exact (isWide_list_iff.1 h original horiginal).normalize
  | record members, h => by
      rw [normalize_record, orderedMembers, normalizeMembers_eq_map, isWide_record_iff]
      intro member hmember
      obtain ⟨⟨key, original⟩, horiginal, rfl⟩ := List.mem_map.1 (Dictionary.mem_ofList hmember)
      have hlt : sizeOf (key, original) < sizeOf members := List.sizeOf_lt_of_mem horiginal
      exact (isWide_record_iff.1 h (key, original) horiginal).normalize
  | null, h => h
  | boolean _, h => h
  | number _, h => h
  | text _, h => h
termination_by value => sizeOf value
decreasing_by all_goals simp_all; omega

namespace Json

/-! ## Numbers -/

/-- A number, if one was read, is no single. -/
def ReadsWide (result : Except Fault (Number × List Char)) : Prop :=
  ∀ {number : Number} {rest : List Char}, result = .ok (number, rest) → (Value.number number).IsWide

theorem readsWide_error (fault : Fault) : ReadsWide (.error fault) := by
  intro number rest h
  cases h

theorem readsWide_double (value : Binary64) (rest : List Char) :
    ReadsWide (.ok (.double value, rest)) := by
  intro number rest h
  cases h
  rfl

theorem readsWide_finishFloat (negative : Bool) (significand : Nat) (exponent : Int)
    (rest : List Char) : ReadsWide (finishFloat negative significand exponent rest) := by
  rw [finishFloat]
  split
  · exact readsWide_double _ _
  · exact readsWide_error _

theorem readsWide_readPower (negative : Bool) (significand : Nat) (exponent : Int)
    (chars : List Char) : ReadsWide (readPower negative significand exponent chars) := by
  rw [readPower]
  generalize (if (chars.head? == some '+' || chars.head? == some '-') = true then chars.drop 1
    else chars) = digits
  split
  · split
    · exact readsWide_finishFloat _ _ _ _
    · split
      · exact readsWide_error _
      · exact readsWide_double _ _
  · split <;> exact readsWide_error _

theorem readsWide_readOptionalPower (negative : Bool) (significand : Nat) (exponent : Int)
    (chars : List Char) : ReadsWide (readOptionalPower negative significand exponent chars) := by
  rw [readOptionalPower.eq_def]
  split
  · exact readsWide_readPower _ _ _ _
  · exact readsWide_readPower _ _ _ _
  · exact readsWide_finishFloat _ _ _ _

theorem readsWide_readFraction (negative : Bool) (significand : Nat) (exponent : Int)
    (chars : List Char) : ReadsWide (readFraction negative significand exponent chars) := by
  rw [readFraction]
  split
  split
  · exact readsWide_readOptionalPower _ _ _ _
  · split
    · split <;> exact readsWide_error _
    · exact readsWide_readOptionalPower _ _ _ _

theorem isWide_wholeNumber (negative : Bool) (significand : Nat) :
    (Value.number (wholeNumber negative significand)).IsWide := by
  rw [wholeNumber]
  split
  · split <;> rfl
  · rfl

theorem readsWide_readAfterDigits (negative : Bool) (significand skipped : Nat)
    (chars : List Char) : ReadsWide (readAfterDigits negative significand skipped chars) := by
  rw [readAfterDigits.eq_def]
  split
  · exact readsWide_readFraction _ _ _ _
  · exact readsWide_readPower _ _ _ _
  · exact readsWide_readPower _ _ _ _
  · split
    · intro number rest h
      cases h
      exact isWide_wholeNumber negative significand
    · exact readsWide_finishFloat _ _ _ _

theorem readsWide_readNumber (negative : Bool) (chars : List Char) :
    ReadsWide (readNumber negative chars) := by
  rw [readNumber.eq_def]
  split
  · exact readsWide_error _
  · split
    · exact readsWide_error _
    · exact readsWide_readAfterDigits _ _ _ _
  · split
    · exact readsWide_readAfterDigits _ _ _ _
    · exact readsWide_error _

/-! ## Words -/

/-- A word that brings no single. -/
def Token.IsWide : Token → Prop
  | scalar value => value.IsWide
  | _ => True

theorem isWide_nextToken (c : Char) (rest : List Char) : (nextToken c rest).1.IsWide := by
  rw [nextToken.eq_def]
  simp only
  split
  case h_7 => split <;> trivial
  case h_8 | h_9 | h_10 =>
    split
    next hread => exact value_of_readWord hread ▸ rfl
    next => trivial
  case h_11 =>
    split
    next hread => exact readsWide_readNumber true rest hread
    next => trivial
  case h_12 =>
    split
    · split
      next hread => exact readsWide_readNumber false (c :: rest) hread
      next => trivial
    · trivial
  all_goals trivial

/-! ## Assembly -/

/-- An open list or record that holds no single. -/
def Frame.IsWide : Frame → Prop
  | list items => ∀ item ∈ items, item.IsWide
  | record members => ∀ member ∈ members, member.2.IsWide
  | member members _ => ∀ member ∈ members, member.2.IsWide

/-- What is complete, if anything is, has no single. -/
def Expectation.IsWide : Expectation → Prop
  | nothing result => result.IsWide
  | _ => True

/-- Nothing that is open or complete has a single. -/
structure Assembly.IsWide (assembly : Assembly) : Prop where
  frames : ∀ frame ∈ assembly.frames, frame.IsWide
  expects : assembly.expects.IsWide

namespace Assembly

theorem isWide_deliver {value : Value} (hvalue : value.IsWide) {frames : List Frame}
    (hframes : ∀ frame ∈ frames, frame.IsWide) : (deliver value frames).IsWide := by
  cases frames with
  | nil => exact ⟨hframes, hvalue⟩
  | cons frame rest =>
      have hframe := hframes frame List.mem_cons_self
      have hrest : ∀ frame ∈ rest, frame.IsWide :=
        fun other hother => hframes other (List.mem_cons_of_mem _ hother)
      cases frame with
      | list items =>
          exact ⟨List.forall_mem_cons.2 ⟨List.forall_mem_cons.2 ⟨hvalue, hframe⟩, hrest⟩, trivial⟩
      | record members => exact ⟨List.forall_mem_cons.2 ⟨hframe, hrest⟩, trivial⟩
      | member members key =>
          exact ⟨List.forall_mem_cons.2 ⟨List.forall_mem_cons.2 ⟨hvalue, hframe⟩, hrest⟩, trivial⟩

theorem isWide_open {frames : List Frame} (hframes : ∀ frame ∈ frames, frame.IsWide)
    {frame : Frame} (hframe : frame.IsWide) {expects : Expectation}
    {place : List Char} {after : Assembly}
    (h : Assembly.open frames frame expects place = .ok after) (hexpects : expects.IsWide) : after.IsWide := by
  rw [Assembly.open] at h
  split at h
  · cases h
  · cases h
    exact ⟨List.forall_mem_cons.2 ⟨hframe, hframes⟩, hexpects⟩

theorem isWide_takeValue {frames : List Frame} (hframes : ∀ frame ∈ frames, frame.IsWide)
    {token : Token} (htoken : token.IsWide) {place : List Char} {after : Assembly}
    (h : takeValue frames token place = .ok after) : after.IsWide := by
  cases token with
  | scalar value =>
      cases h
      exact isWide_deliver htoken hframes
  | text value =>
      cases h
      have hvalue : (Value.text value).IsWide := rfl
      exact isWide_deliver hvalue hframes
  | openList =>
      have hframe : (Frame.list []).IsWide := List.forall_mem_nil _
      exact isWide_open hframes hframe h trivial
  | openRecord =>
      have hframe : (Frame.record []).IsWide := List.forall_mem_nil _
      exact isWide_open hframes hframe h trivial
  | _ => cases h

theorem isWide_takeKey {frames : List Frame} (hframes : ∀ frame ∈ frames, frame.IsWide)
    {token : Token} {place : List Char} {after : Assembly}
    (h : takeKey frames token place = .ok after) : after.IsWide := by
  rw [takeKey.eq_def] at h
  split at h
  next key members rest =>
    cases h
    obtain ⟨hframe, hrest⟩ := List.forall_mem_cons.1 hframes
    have hmember : (Frame.member members key).IsWide := hframe
    exact ⟨List.forall_mem_cons.2 ⟨hmember, hrest⟩, trivial⟩
  next => cases h
  next => cases h

/-- One more word keeps it. -/
theorem IsWide.take {assembly after : Assembly} (hwide : assembly.IsWide)
    {word : Token × List Char} (hword : word.1.IsWide) (h : assembly.take word = .ok after) :
    after.IsWide := by
  obtain ⟨hframes, hexpects⟩ := hwide
  -- A list or record that is closed is complete, and goes into the one around it.
  have hlist : ∀ {items : List Value} {frames : List Frame},
      assembly.frames = .list items :: frames →
      (deliver (.list items.reverse) frames).IsWide := by
    intro items frames hopen
    obtain ⟨hframe, hrest⟩ := List.forall_mem_cons.1 (hopen ▸ hframes)
    refine isWide_deliver (Value.isWide_list_iff.2 fun item hitem => ?_) hrest
    exact hframe item (List.mem_reverse.1 hitem)
  have hrecord : ∀ {members : List (String × Value)} {frames : List Frame},
      assembly.frames = .record members :: frames →
      (deliver (.record members.reverse) frames).IsWide := by
    intro members frames hopen
    obtain ⟨hframe, hrest⟩ := List.forall_mem_cons.1 (hopen ▸ hframes)
    refine isWide_deliver (Value.isWide_record_iff.2 fun member hmember => ?_) hrest
    exact hframe member (List.mem_reverse.1 hmember)
  rw [Assembly.take.eq_def] at h
  simp only at h
  split at h
  case h_2 hopen => exact Except.ok.inj h ▸ hlist hopen
  case h_3 hopen => exact Except.ok.inj h ▸ hrecord hopen
  case h_4 hopen => exact Except.ok.inj h ▸ hlist hopen
  case h_5 hopen => exact Except.ok.inj h ▸ hrecord hopen
  case h_6 hopen => exact Except.ok.inj h ▸ ⟨hopen ▸ hframes, trivial⟩
  case h_7 hopen => exact Except.ok.inj h ▸ ⟨hopen ▸ hframes, trivial⟩
  case h_10 => exact Except.ok.inj h ▸ ⟨hframes, trivial⟩
  case h_13 => exact isWide_takeKey hframes h
  case h_14 => exact isWide_takeKey hframes h
  case h_16 => exact isWide_takeValue hframes hword h
  case h_17 => exact isWide_takeValue hframes hword h
  all_goals cases h

/-- All words keep it. -/
theorem IsWide.takeAll {words : List (Token × List Char)} (hwords : ∀ word ∈ words, word.1.IsWide)
    {assembly after : Assembly} (hwide : assembly.IsWide)
    (h : words.foldlM Assembly.take assembly = .ok after) : after.IsWide := by
  induction words generalizing assembly with
  | nil =>
      cases h
      exact hwide
  | cons word rest ih =>
      obtain ⟨hword, hrest⟩ := List.forall_mem_cons.1 hwords
      rw [List.foldlM_cons] at h
      cases hstep : assembly.take word with
      | error fault =>
          rw [hstep] at h
          cases h
      | ok next =>
          rw [hstep] at h
          exact ih hrest (hwide.take hword hstep) h

end Assembly

/-- What a text is read as has no singles. -/
theorem isWide_of_read {text : String} {value : Value} (h : read text = .ok value) :
    value.IsWide := by
  obtain ⟨written, hwritten, rfl⟩ := read_eq_ok_iff.1 h
  obtain ⟨assembly, hall, hexpects⟩ := assembled_of_readWritten hwritten
  have hstart : Assembly.start.IsWide := ⟨List.forall_mem_nil _, trivial⟩
  have hwide := hstart.takeAll (forall_mem_tokensWithin isWide_nextToken _ _) hall
  have hcomplete : (Expectation.nothing written).IsWide := hexpects ▸ hwide.expects
  exact hcomplete.normalize

end Json

end Ensemble
