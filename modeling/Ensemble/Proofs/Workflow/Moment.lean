/-
# Moments are read back

The text of a moment has each part in a fixed number of digits, but for a year that needs a sign,
and a mark behind each part. So the parts are read back one by one, and with no offset they are the
moment again.
-/

import Ensemble.Proofs.Text.Digits
import Ensemble.Workflow.Moment

namespace Ensemble.Moment

/-! ## The parts of a text -/

/-- A number does not go on with a mark. -/
theorem endsNumber_cons {mark : Char} (h : Text.decimalDigit? mark = none) (rest : List Char) :
    Text.EndsNumber (mark :: rest) := by
  rintro c hc
  obtain rfl := Option.some.inj hc
  exact h

/-- Digits stand at the start of a written number. -/
theorem exists_fixedDigits_eq_cons (width number : Nat) :
    ∃ digit rest, digit < 10 ∧
      Text.fixedDigits 10 (width + 1) number = Text.hexDigit digit :: rest := by
  induction width generalizing number with
  | zero => exact ⟨number % 10, [], Nat.mod_lt _ (by decide), rfl⟩
  | succ width ih =>
      obtain ⟨digit, rest, hdigit, hrest⟩ := ih (number / 10)
      exact ⟨digit, rest ++ [Text.hexDigit (number % 10)], hdigit, by
        rw [Text.fixedDigits, hrest, List.cons_append]⟩

theorem trimStartChars_fixedDigits (width number : Nat) (rest : List Char) :
    Text.trimStartChars (Text.fixedDigits 10 (width + 1) number ++ rest) =
      Text.fixedDigits 10 (width + 1) number ++ rest := by
  obtain ⟨digit, others, hdigit, hcons⟩ := exists_fixedDigits_eq_cons width number
  apply Text.trimStartChars_of_head
  intro c hc
  rw [hcons, List.cons_append, List.head?_cons] at hc
  obtain rfl := Option.some.inj hc
  exact (Text.hexDigit_plain hdigit).1

theorem readPart?_fixedDigits {number : Nat} (h : number < 100) (rest : List Char) :
    readPart? (Text.fixedDigits 10 2 number ++ rest) = some (number, rest) := by
  rw [readPart?, trimStartChars_fixedDigits, Text.readNumber?_fixedDigits,
    Nat.mod_eq_of_lt (by simpa using h)]

theorem readMark?_cons {mark : Char} (h : Text.isBlank mark = false) (rest : List Char) :
    readMark? mark (mark :: rest) = some rest := by
  have hkept : Text.trimStartChars (mark :: rest) = mark :: rest := by
    apply Text.trimStartChars_of_head
    intro c hc
    obtain rfl := Option.some.inj hc
    exact h
  rw [readMark?, hkept]
  exact if_pos rfl

/-! ## Years -/

/-- A year that needs a sign has it before at least four digits. -/
theorem yearChars_of_signed {year : Int} (h : ¬ (0 ≤ year ∧ year ≤ 9999)) :
    ∃ width, year.natAbs < 10 ^ (width + 1) ∧
      yearChars year = (if year < 0 then '-' else '+') ::
        Text.fixedDigits 10 (width + 1) year.natAbs := by
  obtain ⟨width, hwidth⟩ : ∃ width, max 4 (Nat.toDigits 10 year.natAbs).length = width + 1 :=
    ⟨max 4 (Nat.toDigits 10 year.natAbs).length - 1, by omega⟩
  have hfits : (Nat.toDigits 10 year.natAbs).length ≤ width + 1 := by omega
  have hzeros : width + 1 - (Nat.toDigits 10 year.natAbs).length =
      4 - (Nat.toDigits 10 year.natAbs).length := by omega
  refine ⟨width, (Nat.length_toDigits_le_iff (by decide) (by omega)).1 hfits, ?_⟩
  rw [yearChars, if_neg h, Text.fixedDigits_eq_toDigits hfits, hzeros]
  rfl

theorem readYear?_yearChars (year : Int) {rest : List Char} (h : Text.EndsNumber rest) :
    readYear? (yearChars year ++ rest) = some (year, rest) := by
  by_cases hplain : 0 ≤ year ∧ year ≤ 9999
  · obtain ⟨digit, others, hdigit, hcons⟩ := exists_fixedDigits_eq_cons 3 year.toNat
    have hread := Text.readNumber?_fixedDigits 3 year.toNat rest
    have hsmall : year.toNat % 10 ^ (3 + 1) = year.toNat := Nat.mod_eq_of_lt (by omega)
    have hyear : (year.toNat : Int) = year := Int.toNat_of_nonneg hplain.1
    obtain ⟨-, hminus, hplus⟩ := Text.hexDigit_plain hdigit
    rw [hsmall] at hread
    rw [yearChars, if_pos hplain]
    -- The first character is a digit, so the text is read as a year without a sign.
    rw [hcons, List.cons_append] at hread ⊢
    rw [readYear?]
    · rw [hread, Option.map_some, hyear]
    · exact fun _ hsign => hminus (List.cons.inj hsign).1
    · exact fun _ hsign => hplus (List.cons.inj hsign).1
  · obtain ⟨width, hsmall, hchars⟩ := yearChars_of_signed hplain
    have hread := Text.readNumber?_of_endsNumber h width rest.length year.natAbs
    have hlimit : (Text.fixedDigits 10 (width + 1) year.natAbs ++ rest).length =
        width + 1 + rest.length := by
      rw [List.length_append, Text.length_fixedDigits]
    rw [Nat.mod_eq_of_lt hsmall] at hread
    rw [hchars]
    by_cases hnegative : year < 0
    · have hyear : -(year.natAbs : Int) = year := by omega
      rw [if_pos hnegative, List.cons_append, readYear?, hlimit, hread, Option.map_some, hyear]
    · have hyear : (year.natAbs : Int) = year := by omega
      rw [if_neg hnegative, List.cons_append, readYear?, hlimit, hread, Option.map_some, hyear]

theorem trimStartChars_yearChars (year : Int) (rest : List Char) :
    Text.trimStartChars (yearChars year ++ rest) = yearChars year ++ rest := by
  by_cases hplain : 0 ≤ year ∧ year ≤ 9999
  · rw [yearChars, if_pos hplain]
    exact trimStartChars_fixedDigits 3 _ rest
  · obtain ⟨width, -, hchars⟩ := yearChars_of_signed hplain
    apply Text.trimStartChars_of_head
    intro c hc
    rw [hchars, List.cons_append, List.head?_cons] at hc
    obtain rfl := Option.some.inj hc
    split <;> decide

/-! ## Decimals of a second -/

/-- Decimals count as many as they are written with. -/
theorem readFraction?_fixedDigits {width decimals : Nat} (hwidth : width < 9)
    (h : decimals < 10 ^ (width + 1)) :
    readFraction? ('.' :: Text.fixedDigits 10 (width + 1) decimals ++ ['Z']) =
      some (decimals * 10 ^ (9 - (width + 1)), ['Z']) := by
  have htaken := Text.takeNumber_fixedDigits 0 0 (width + 1) (9 - (width + 1)) decimals ['Z']
  rw [Nat.zero_mul, Nat.zero_add, Nat.zero_add, Nat.mod_eq_of_lt h,
    Text.takeNumber_of_endsNumber (endsNumber_cons rfl []),
    Nat.add_sub_cancel' (Nat.succ_le_of_lt hwidth)] at htaken
  rw [List.cons_append, readFraction?, htaken]
  rfl

theorem readFraction?_fractionChars {nanosecond : Nat} (h : nanosecond < 1000000000) :
    readFraction? (fractionChars nanosecond ++ ['Z']) = some (nanosecond, ['Z']) := by
  rw [fractionChars]
  split
  next hnone => rw [hnone]; rfl
  next =>
    split
    next hthree =>
      rw [readFraction?_fixedDigits (by decide) (by omega)]
      exact congrArg (fun number => some (number, ['Z'])) (by omega)
    next =>
      split
      next hsix =>
        rw [readFraction?_fixedDigits (by decide) (by omega)]
        exact congrArg (fun number => some (number, ['Z'])) (by omega)
      next =>
        rw [readFraction?_fixedDigits (by decide) (by omega)]
        exact congrArg (fun number => some (number, ['Z'])) (by omega)

/-! ## Moments -/

theorem daysInMonth_le (year : Int) (month : Nat) : daysInMonth year month ≤ 31 := by
  rw [daysInMonth.eq_def]
  cases isLeapYear year <;> split <;> decide

theorem daysInMonth_of_lt {month : Nat} (h : 12 < month) (year : Int) :
    daysInMonth year month = 0 := by
  rw [daysInMonth] <;> omega

/-- The parts of a moment fit the digits that they are written with. -/
theorem bounds (moment : Moment) : moment.day.month < 100 ∧ moment.day.day < 100 ∧
    moment.time.minute < 1440 ∧ moment.time.second < 100 ∧
    moment.time.nanosecond < 1000000000 := by
  have hvalid := moment.isValid
  simp only [Bool.and_eq_true, Day.isValid, TimeOfDay.isValid, decide_eq_true_eq] at hvalid
  obtain ⟨⟨⟨⟨-, -⟩, hfirst⟩, hday⟩, ⟨hminute, hsecond⟩, hnanosecond⟩ := hvalid
  have hdays := daysInMonth_le moment.day.year moment.day.month
  have hmonth : ¬ 12 < moment.day.month := fun hlate => by
    rw [daysInMonth_of_lt hlate] at hday
    omega
  omega

/-- Without an offset the parts of a moment make it again. -/
theorem ofLocal?_self (moment : Moment) : ofLocal? moment.day moment.time 0 = some moment := by
  obtain ⟨day, time, hvalid⟩ := moment
  have hminute : time.minute < 1440 := (bounds ⟨day, time, hvalid⟩).2.2.1
  have hclock :
      ({ time with minute := ((time.minute : Int) % 1440).toNat } : TimeOfDay) = time := by
    rw [Int.emod_eq_of_lt (by omega) (by omega), Int.toNat_natCast]
  have hearly : ¬ (time.minute : Int) < 0 := by omega
  have hlate : ¬ 1440 ≤ (time.minute : Int) := by omega
  simp only [ofLocal?, Int.sub_zero, hclock, if_neg hearly, if_neg hlate, hvalid, Bool.not_true,
    Bool.false_eq_true, if_false, dif_pos]

theorem toList_text (moment : Moment) : moment.text.toList =
    yearChars moment.day.year ++ '-' :: (Text.fixedDigits 10 2 moment.day.month ++
      '-' :: (Text.fixedDigits 10 2 moment.day.day ++ 'T' ::
      (Text.fixedDigits 10 2 (moment.time.minute / 60) ++ ':' ::
      (Text.fixedDigits 10 2 (moment.time.minute % 60) ++ ':' ::
      (Text.fixedDigits 10 2 moment.time.second ++
        (fractionChars moment.time.nanosecond ++ ['Z'])))))) := by
  rw [text, String.toList_ofList]
  simp only [List.append_assoc, List.cons_append]

theorem ofChars?_text (moment : Moment) : ofChars? moment.text.toList = some moment := by
  obtain ⟨hmonth, hday, hminute, hsecond, hnanosecond⟩ := moment.bounds
  have hhour : moment.time.minute / 60 < 24 := by omega
  have hsixty : moment.time.minute % 60 < 60 := Nat.mod_lt _ (by decide)
  have htime : moment.time.minute / 60 * 60 + moment.time.minute % 60 = moment.time.minute :=
    Nat.div_add_mod' _ _
  have hdash : ∀ rest, readMark? '-' ('-' :: rest) = some rest := readMark?_cons rfl
  have hdivider : ∀ rest, readDivider? ('T' :: rest) = some rest := fun _ => rfl
  have hcolon : ∀ rest, readMark? ':' (':' :: rest) = some rest := readMark?_cons rfl
  rw [toList_text, ofChars?, trimStartChars_yearChars]
  -- Each part is read, and then the mark behind it.
  refine Option.bind_eq_some_iff.2 ⟨_, readYear?_yearChars _ (endsNumber_cons rfl _), ?_⟩
  refine Option.bind_eq_some_iff.2 ⟨_, hdash _, ?_⟩
  refine Option.bind_eq_some_iff.2 ⟨_, readPart?_fixedDigits hmonth _, ?_⟩
  refine Option.bind_eq_some_iff.2 ⟨_, hdash _, ?_⟩
  refine Option.bind_eq_some_iff.2 ⟨_, readPart?_fixedDigits hday _, ?_⟩
  refine Option.bind_eq_some_iff.2 ⟨_, hdivider _, ?_⟩
  refine Option.bind_eq_some_iff.2 ⟨_, readPart?_fixedDigits (by omega) _, ?_⟩
  refine Option.bind_eq_some_iff.2 ⟨_, hcolon _, ?_⟩
  refine Option.bind_eq_some_iff.2 ⟨_, readPart?_fixedDigits (by omega) _, ?_⟩
  refine Option.bind_eq_some_iff.2 ⟨_, hcolon _, ?_⟩
  refine Option.bind_eq_some_iff.2 ⟨_, readPart?_fixedDigits hsecond _, ?_⟩
  refine Option.bind_eq_some_iff.2 ⟨_, readFraction?_fractionChars hnanosecond, ?_⟩
  refine Option.bind_eq_some_iff.2 ⟨(0, []), rfl, ?_⟩
  refine (if_pos ⟨hhour, hsixty, rfl⟩).trans ?_
  rw [htime]
  exact ofLocal?_self moment

/-- A moment is read back from its text. -/
theorem decode_encode (moment : Moment) : decode moment.encode = .ok moment := by
  rw [encode, decode, ofChars?_text]

end Ensemble.Moment
