/-
# Dates and date-times are read back

The text of a date is read as that date (`readDate_text`), and the text of a
date-time as that date-time, be there a blank or a `T` between its parts
(`readDateTime?_blank`, `readDateTime?_letter`).  Only a leap second that does not end
its minute is read as the next second, like which it is written (`asRead`).  So distinct
dates have distinct texts (`Date.text_inj`), and date-times have one text just if they
are read as one (`DateTime.text_eq_iff`).

Each item of a pattern takes just the digits that were written for it, whatever
comes behind them: a number is written with as many digits as its field has, and a
year that has more of them has a sign, behind which any number of digits is taken.

Of the patterns for date-times only one fits, and those before it fail:

| pattern | where the text does not fit |
| --- | --- |
| timestamp | at a sign before the year, or at the end, where a zone is missing |
| the other separator | at the `T`, where an hour should begin |
| no seconds | at the colon behind the minutes |
-/

import Mathlib.Data.List.Basic
import ReportQuery.Calendar.Pattern

namespace ReportQuery
namespace Calendar

/-! ## Numbers -/

section

variable {w n : Nat}

theorem toList_padded (w n : Nat) : (padded w n).toList =
    List.replicate (w - (Nat.toDigits 10 n).length) '0' ++ Nat.toDigits 10 n :=
  String.toList_ofList

theorem isDigit_of_mem_padded {c : Char} (h : c ∈ (padded w n).toList) : c.isDigit = true := by
  rw [toList_padded, List.mem_append] at h
  rcases h with h | h
  · obtain rfl := List.eq_of_mem_replicate h
    rfl
  · exact Nat.isDigit_of_mem_toDigits (by decide) (by decide) h

theorem exists_cons_padded (w n : Nat) :
    ∃ c ds, (padded w n).toList = c :: ds ∧ c.isDigit = true := by
  cases h : (padded w n).toList with
  | nil =>
    rw [toList_padded] at h
    exact absurd (List.append_eq_nil_iff.1 h).2 Nat.toDigits_ne_nil
  | cons c ds => exact ⟨c, ds, rfl, isDigit_of_mem_padded (h ▸ List.mem_cons_self)⟩

/-- A number that has room in some digits is written with just as many. -/
theorem length_padded (hw : 0 < w) (hn : n < Nat.pow 10 w) : (padded w n).toList.length = w := by
  have h := (Nat.length_toDigits_le_iff (b := 10) (by decide) hw).2 hn
  rw [toList_padded, List.length_append, List.length_replicate]
  omega

theorem ofDigits_padded (w n : Nat) : Decimal.ofDigits (padded w n).toList = n := by
  have h : Nat.ofDigitChars 10 (List.replicate (w - (Nat.toDigits 10 n).length) '0' ++
      Nat.toDigits 10 n) 0 = n := by
    rw [Nat.ofDigitChars_append, Nat.ofDigitChars_replicate_zero, Nat.mul_zero,
      Nat.ofDigitChars_ten_toDigits]
  rw [toList_padded]
  exact h

theorem takeWhile_padded_append (w n : Nat) (rest : List Char) :
    ((padded w n).toList ++ rest).takeWhile Char.isDigit =
      (padded w n).toList ++ rest.takeWhile Char.isDigit :=
  List.takeWhile_append_of_pos fun _ hc => isDigit_of_mem_padded hc

/-- The digits that are taken are read as their number. -/
theorem takeNumber_of_taken {least : Nat} (most : Option Nat) {ds rest : List Char}
    (ht : most.elim ((ds ++ rest).takeWhile Char.isDigit)
      ((ds ++ rest).takeWhile Char.isDigit).take = ds)
    (hl : least ≤ ds.length) (hb : (Decimal.ofDigits ds : Int) ≤ Int64.maxValue.toInt) :
    takeNumber least most (ds ++ rest) = .ok (Decimal.ofDigits ds, rest) := by
  have hlong : ¬ ds.length < least := by omega
  have hsmall : ¬ Int64.maxValue.toInt < (Decimal.ofDigits ds : Int) := by omega
  cases most <;>
    · rw [Option.elim] at ht
      simp only [takeNumber, ht]
      rw [if_neg hlong, if_neg hsmall, List.drop_left]

/-- A number with a fixed width is read, also in front of other digits. -/
theorem takeNumber_padded {least : Nat} (hleast : least ≤ w) (hw : 0 < w) (hn : n < Nat.pow 10 w)
    (hb : (n : Int) ≤ Int64.maxValue.toInt) (rest : List Char) :
    takeNumber least (some w) ((padded w n).toList ++ rest) = .ok (n, rest) := by
  have hl := length_padded hw hn
  have ht : (((padded w n).toList ++ rest).takeWhile Char.isDigit).take w =
      (padded w n).toList := by
    rw [takeWhile_padded_append, List.take_left' hl]
  rw [takeNumber_of_taken (some w) ht (by omega) (by rwa [ofDigits_padded]), ofDigits_padded]

/-- A number is read to its end if no digit follows and more digits are allowed than it has. -/
theorem takeNumber_padded_of_end {most : Option Nat} {rest : List Char}
    (hm : ∀ m ∈ most, (padded w n).toList.length ≤ m) (hrest : rest.takeWhile Char.isDigit = [])
    (hb : (n : Int) ≤ Int64.maxValue.toInt) :
    takeNumber 1 most ((padded w n).toList ++ rest) = .ok (n, rest) := by
  have ht : most.elim (((padded w n).toList ++ rest).takeWhile Char.isDigit)
      (((padded w n).toList ++ rest).takeWhile Char.isDigit).take = (padded w n).toList := by
    rw [takeWhile_padded_append, hrest, List.append_nil]
    cases most with
    | none => rfl
    | some m => exact List.take_of_length_le (hm m rfl)
  have hl : 1 ≤ (padded w n).toList.length := by
    obtain ⟨c, ds, hp, -⟩ := exists_cons_padded w n
    rw [hp]
    exact Nat.succ_pos _
  rw [takeNumber_of_taken most ht hl (by rwa [ofDigits_padded]), ofDigits_padded]

end

/-- Without any digit no number is read. -/
theorem takeNumber_of_not_isDigit {least : Nat} (hl : 0 < least) {c : Char} (hc : c.isDigit = false)
    (most : Option Nat) (cs : List Char) :
    takeNumber least most (c :: cs) = .error .invalid := by
  have hrun : (c :: cs).takeWhile Char.isDigit = [] := List.takeWhile_cons_of_neg (by simp [hc])
  cases most <;> simp [takeNumber, hrun, hl]

/-! ## Parts -/

namespace Parts

/-- The parts with a field set to a value. -/
def put (p : Parts) (f : Field) (value : Int) : Parts :=
  match f with
  | .year => { p with year := value }
  | .month => { p with month := value.toNat }
  | .day => { p with day := value.toNat }
  | .hour => { p with hour := value.toNat }
  | .minute => { p with minute := value.toNat }
  | .second => { p with second := value.toNat }

theorem store_of_range {f : Field} {value : Int} (h : f.range.1 ≤ value ∧ value ≤ f.range.2)
    (p : Parts) : p.store f value = .ok (p.put f value) := by
  have hin : ¬ (value < f.range.1 ∨ f.range.2 < value) := by omega
  cases f <;> exact if_neg hin

end Parts

/-! ## Items -/

theorem takeAll_of_take {p q : Parts} {cs rest : List Char} {item : Item}
    (h : item.take p cs = .ok (q, rest)) (items : List Item) :
    takeAll p cs (item :: items) = takeAll q rest items := by
  rw [takeAll, h]
  rfl

theorem takeAll_of_take_error {p : Parts} {cs : List Char} {item : Item} {fault : Fault}
    (h : item.take p cs = .error fault) (items : List Item) :
    takeAll p cs (item :: items) = .error fault := by
  rw [takeAll, h]
  rfl

theorem take_anyOf {c : Char} {allowed : List Char} (hc : c ∈ allowed) (p : Parts)
    (rest : List Char) : (Item.anyOf allowed).take p (c :: rest) = .ok (p, rest) := by
  rw [Item.take, takeAnyOf, if_pos hc]
  rfl

theorem take_literal (p : Parts) (c : Char) (rest : List Char) :
    (Item.literal c).take p (c :: rest) = .ok (p, rest) :=
  take_anyOf List.mem_cons_self p rest

theorem skipBlanks_cons {c : Char} (hc : Text.isBlank c = false) (cs : List Char) :
    Text.skipBlanks (c :: cs) = c :: cs :=
  List.dropWhile_cons_of_neg (hc ▸ Bool.false_ne_true)

theorem take_blanks {cs rest : List Char} (h : Text.skipBlanks cs = rest) (p : Parts) :
    Item.blanks.take p cs = .ok (p, rest) := by
  rw [Item.take, h]

theorem skipBlanks_padded_append (w n : Nat) (rest : List Char) :
    Text.skipBlanks ((padded w n).toList ++ rest) = (padded w n).toList ++ rest := by
  obtain ⟨c, ds, hp, hc⟩ := exists_cons_padded w n
  rw [hp, List.cons_append, skipBlanks_cons (Text.isBlank_of_isDigit hc)]

theorem le_maxValue_of_range {f : Field} {value : Int}
    (h : f.range.1 ≤ value ∧ value ≤ f.range.2) : value ≤ Int64.maxValue.toInt := by
  have hmax : f.range.2 ≤ Int64.maxValue.toInt := by cases f <;> decide
  omega

/-- Two digits are enough for every field but the year. -/
theorem lt_of_range {f : Field} (hf : f ≠ .year) {n : Nat}
    (h : f.range.1 ≤ (n : Int) ∧ (n : Int) ≤ f.range.2) : n < Nat.pow 10 2 := by
  show n < 100
  cases f with
  | year => exact absurd rfl hf
  | month | day | hour | minute | second =>
    simp only [Field.range] at h
    omega

/-- A field with two digits. -/
theorem take_number {f : Field} (hf : f ≠ .year) {n : Nat}
    (h : f.range.1 ≤ (n : Int) ∧ (n : Int) ≤ f.range.2) (p : Parts) (rest : List Char) :
    (Item.number f).take p ((padded 2 n).toList ++ rest) = .ok (p.put f n, rest) := by
  have ht : takeNumber 1 (some 2) ((padded 2 n).toList ++ rest) = .ok (n, rest) :=
    takeNumber_padded (by decide) (by decide) (lt_of_range hf h) (le_maxValue_of_range h) rest
  cases f with
  | year => exact absurd rfl hf
  | month | day | hour | minute | second =>
    simp only [Item.take, Field.width, skipBlanks_padded_append, ht]
    simp only [bind, Except.bind, pure, Except.pure, Parts.store_of_range h]

/-- A field with its usual number of digits. -/
theorem take_exact {f : Field} {w n : Nat} (hf : f.width = w) (hn : n < Nat.pow 10 w)
    (h : f.range.1 ≤ (n : Int) ∧ (n : Int) ≤ f.range.2) (p : Parts) (rest : List Char) :
    (Item.exact f).take p ((padded w n).toList ++ rest) = .ok (p.put f n, rest) := by
  subst hf
  have hw : 0 < f.width := by cases f <;> decide
  rw [Item.take, takeNumber_padded (Nat.le_refl _) hw hn (le_maxValue_of_range h)]
  simp only [bind, Except.bind, pure, Except.pure, Parts.store_of_range h]

/-- A field that is written with two digits, and has to be. -/
theorem take_exact_two {f : Field} (hf : f ≠ .year) {n : Nat}
    (h : f.range.1 ≤ (n : Int) ∧ (n : Int) ≤ f.range.2) (p : Parts) (rest : List Char) :
    (Item.exact f).take p ((padded 2 n).toList ++ rest) = .ok (p.put f n, rest) :=
  take_exact (by cases f <;> first | rfl | exact absurd rfl hf) (lt_of_range hf h) h p rest

theorem takeYear_padded {n : Nat} (hn : n < Nat.pow 10 4) (rest : List Char) :
    takeYear ((padded 4 n).toList ++ rest) = .ok (n, rest) := by
  have hb : (n : Int) ≤ Int64.maxValue.toInt := by
    have hmax : Int64.maxValue.toInt = 9223372036854775807 := rfl
    have : n < 10000 := hn
    omega
  have ht : takeNumber 1 (some 4) ((padded 4 n).toList ++ rest) = .ok (n, rest) :=
    takeNumber_padded (by decide) (by decide) hn hb rest
  obtain ⟨c, ds, hp, hc⟩ := exists_cons_padded 4 n
  rw [hp, List.cons_append] at ht ⊢
  unfold takeYear
  split
  · next h => cases h; exact absurd hc (by decide)
  · next h => cases h; exact absurd hc (by decide)
  · rw [Field.width, ht]
    rfl

/-- Every year that does not have just four digits has a sign. -/
theorem toList_yearText_of_signed {year : Int} (h : ¬ (0 ≤ year ∧ year ≤ 9999)) :
    (Date.yearText year).toList =
      (if year < 0 then '-' else '+') :: (padded 4 year.natAbs).toList := by
  rw [Date.yearText, if_neg h, String.toList_append]
  split <;> rfl

/-- The text of a year is read as the year, in front of what is no digit. -/
theorem takeYear_yearText {year : Int} (h : -262143 ≤ year ∧ year ≤ 262142) (rest : List Char) :
    takeYear ((Date.yearText year).toList ++ '-' :: rest) = .ok (year, '-' :: rest) := by
  by_cases hy : 0 ≤ year ∧ year ≤ 9999
  · have hn : year.toNat < Nat.pow 10 4 := by
      show year.toNat < 10000
      omega
    rw [Date.yearText, if_pos hy, takeYear_padded hn, Int.toNat_of_nonneg hy.1]
  · have hb : (year.natAbs : Int) ≤ Int64.maxValue.toInt := by
      have hmax : Int64.maxValue.toInt = 9223372036854775807 := rfl
      omega
    have ht : takeNumber 1 none ((padded 4 year.natAbs).toList ++ '-' :: rest) =
        .ok (year.natAbs, '-' :: rest) :=
      takeNumber_padded_of_end (fun m hm => by cases hm) rfl hb
    rw [toList_yearText_of_signed hy, List.cons_append]
    by_cases hneg : year < 0
    · rw [if_pos hneg, takeYear, ht]
      exact congrArg (fun y => Except.ok (y, '-' :: rest)) (by omega)
    · rw [if_neg hneg, takeYear, ht]
      exact congrArg (fun y => Except.ok (y, '-' :: rest)) (by omega)

theorem skipBlanks_yearText_append (year : Int) (rest : List Char) :
    Text.skipBlanks ((Date.yearText year).toList ++ rest) =
      (Date.yearText year).toList ++ rest := by
  by_cases hy : 0 ≤ year ∧ year ≤ 9999
  · rw [Date.yearText, if_pos hy, skipBlanks_padded_append]
  · rw [toList_yearText_of_signed hy, List.cons_append]
    exact skipBlanks_cons (by split <;> rfl) _

theorem take_year {year : Int} (h : -262143 ≤ year ∧ year ≤ 262142) (p : Parts)
    (rest : List Char) :
    (Item.number .year).take p ((Date.yearText year).toList ++ '-' :: rest) =
      .ok (p.put .year year, '-' :: rest) := by
  have hr : Field.year.range.1 ≤ year ∧ year ≤ Field.year.range.2 := by
    simp only [Field.range]
    omega
  simp only [Item.take, skipBlanks_yearText_append, takeYear_yearText h]
  simp only [bind, Except.bind, pure, Except.pure, Parts.store_of_range hr]

/-! ## Dates -/

theorem daysInMonth_le (year : Int) (month : Nat) : daysInMonth year month ≤ 31 := by
  unfold daysInMonth
  split <;> try split
  all_goals omega

theorem month_of_daysInMonth {year : Int} {month : Nat} (h : 0 < daysInMonth year month) :
    1 ≤ month ∧ month ≤ 12 := by
  unfold daysInMonth at h
  split at h <;> omega

namespace Date

theorem month_range (d : Date) :
    Field.month.range.1 ≤ (d.month : Int) ∧ (d.month : Int) ≤ Field.month.range.2 := by
  obtain ⟨-, -, hd, hm⟩ := d.isDay
  have := month_of_daysInMonth (Nat.lt_of_lt_of_le hd hm)
  simp only [Field.range]
  omega

theorem day_range (d : Date) :
    Field.day.range.1 ≤ (d.day : Int) ∧ (d.day : Int) ≤ Field.day.range.2 := by
  obtain ⟨-, -, hd, hm⟩ := d.isDay
  have := daysInMonth_le d.year d.month
  simp only [Field.range]
  omega

theorem ofFields?_self (d : Date) : ofFields? d.year d.month d.day = some d := dif_pos d.isDay

theorem toList_text (d : Date) : d.text.toList =
    (yearText d.year).toList ++ '-' :: ((padded 2 d.month).toList ++ '-' ::
      (padded 2 d.day).toList) := by
  simp [text]

end Date

/-- The parts with those of a date. -/
def Parts.putDate (p : Parts) (d : Date) : Parts :=
  ((p.put .year d.year).put .month d.month).put .day d.day

theorem takeAll_date (d : Date) (p : Parts) (rest : List Char) (items : List Item) :
    takeAll p (d.text.toList ++ rest) (dateItems ++ items) = takeAll (p.putDate d) rest items := by
  have hy : -262143 ≤ d.year ∧ d.year ≤ 262142 := ⟨d.isDay.1, d.isDay.2.1⟩
  simp only [Date.toList_text, dateItems, List.append_assoc, List.cons_append, List.nil_append]
  rw [takeAll_of_take (take_year hy _ _), takeAll_of_take (take_literal _ _ _),
    takeAll_of_take (take_number (by decide) d.month_range _ _),
    takeAll_of_take (take_literal _ _ _),
    takeAll_of_take (take_number (by decide) d.day_range _ _)]
  rfl

/-- **The text of a date is read as the date.** -/
theorem readDate_text (d : Date) : readDate d.text = .ok d := by
  have h : takeAll {} d.text.toList dateItems = .ok (({} : Parts).putDate d) := by
    have ht := takeAll_date d {} [] []
    rwa [List.append_nil, List.append_nil] at ht
  have hd : (({} : Parts).putDate d).date? = some d := d.ofFields?_self
  simp only [readDate, h, bind, Except.bind, hd]
  rfl

/-! ## Times of day -/

namespace TimeOfDay

theorem hour_range (t : TimeOfDay) :
    Field.hour.range.1 ≤ (t.hour : Int) ∧ (t.hour : Int) ≤ Field.hour.range.2 := by
  have := t.isTime.1
  simp only [Field.range]
  omega

theorem minute_range (t : TimeOfDay) :
    Field.minute.range.1 ≤ (t.minute : Int) ∧ (t.minute : Int) ≤ Field.minute.range.2 := by
  have := t.isTime.2.1
  simp only [Field.range]
  omega

theorem second_range (t : TimeOfDay) :
    Field.second.range.1 ≤ (t.shownSecond : Int) ∧
      (t.shownSecond : Int) ≤ Field.second.range.2 := by
  obtain ⟨-, -, hs, hn⟩ := t.isTime
  simp only [Field.range, shownSecond, billion] at *
  omega

theorem shownNano_lt (t : TimeOfDay) : t.shownNano < billion := Nat.mod_lt _ (by decide)

/-- What is written behind the minutes. -/
def secondsText (t : TimeOfDay) : List Char :=
  ':' :: ((padded 2 t.shownSecond).toList ++ (fractionText t.shownNano).toList)

theorem toList_text (t : TimeOfDay) : t.text.toList =
    (padded 2 t.hour).toList ++ ':' :: ((padded 2 t.minute).toList ++ t.secondsText) := by
  simp [text, secondsText]

theorem isTime_next {t : TimeOfDay} (h : ¬ LeapEndsMinute t.second t.nano) :
    IsTime t.hour t.minute (t.second + 1) (t.nano - billion) := by
  obtain ⟨hh, hm, hs, hn⟩ := t.isTime
  obtain ⟨-, hne⟩ := Classical.not_imp.1 h
  exact ⟨hh, hm, by omega, by omega⟩

/-- The time that the text of a time is read as: that of the next second in a leap second that
does not end its minute, and else the same. -/
def asRead (t : TimeOfDay) : TimeOfDay :=
  if h : LeapEndsMinute t.second t.nano then t
  else ⟨t.hour, t.minute, t.second + 1, t.nano - billion, isTime_next h⟩

theorem asRead_eq_self_iff {t : TimeOfDay} : t.asRead = t ↔ LeapEndsMinute t.second t.nano := by
  by_cases h : LeapEndsMinute t.second t.nano
  · exact iff_of_true (dif_pos h) h
  · refine iff_of_false (fun he => ?_) h
    have hsecond := congrArg second he
    rw [asRead, dif_neg h] at hsecond
    exact Nat.succ_ne_self _ hsecond

theorem leapEndsMinute_asRead (t : TimeOfDay) :
    LeapEndsMinute t.asRead.second t.asRead.nano := by
  by_cases h : LeapEndsMinute t.second t.nano
  · rwa [asRead_eq_self_iff.2 h]
  · have hn := t.isTime.2.2.2
    rw [asRead, dif_neg h]
    exact fun hle => by simp only at hle; omega

/-- Nothing that is shown tells a time from the one that it is read as. -/
theorem shown_asRead (t : TimeOfDay) :
    t.asRead.hour = t.hour ∧ t.asRead.minute = t.minute ∧
      t.asRead.shownSecond = t.shownSecond ∧ t.asRead.shownNano = t.shownNano := by
  by_cases h : LeapEndsMinute t.second t.nano
  · rw [asRead_eq_self_iff.2 h]
    exact ⟨rfl, rfl, rfl, rfl⟩
  · have hnano := t.isTime.2.2.2
    have hleap := (Classical.not_imp.1 h).1
    rw [asRead, dif_neg h]
    simp only [shownSecond, shownNano, billion, true_and] at *
    omega

theorem ofFields?_self {t : TimeOfDay} (h : LeapEndsMinute t.second t.nano) :
    ofFields? t.hour t.minute t.second t.nano = some t := dif_pos ⟨t.isTime, h⟩

theorem leapEndsMinute_of_ofFields? {hour minute second nano : Nat} {t : TimeOfDay}
    (ht : ofFields? hour minute second nano = some t) : LeapEndsMinute t.second t.nano := by
  rw [ofFields?] at ht
  split at ht
  · next h =>
    obtain rfl := Option.some.inj ht
    exact h.2
  · cases ht

section

variable {p : Parts} {t : TimeOfDay} (hh : p.hour = t.hour) (hm : p.minute = t.minute)
  (hs : p.second = t.shownSecond) (hn : p.nano = t.shownNano)
include hh hm hs hn

/-- The time that is shown is the time if a leap second ends its minute: just then it is shown as
second 60. -/
theorem time?_of_leapEndsMinute (h : LeapEndsMinute t.second t.nano) : p.time? = some t := by
  have hself := ofFields?_self h
  obtain ⟨-, -, hsecond, hnano⟩ := t.isTime
  rw [Parts.time?, hh, hm, hs, hn]
  by_cases hleap : billion ≤ t.nano
  · have h59 := h hleap
    have hsum : t.shownNano + billion = t.nano := by
      simp only [shownNano, billion] at *
      omega
    rw [if_pos (by simp only [shownSecond, billion] at *; omega), hsum, ← h59, hself]
  · have hsame : t.shownSecond = t.second ∧ t.shownNano = t.nano := by
      simp only [shownSecond, shownNano, billion] at *
      omega
    rw [hsame.1, hsame.2, if_neg (by omega), hself]

theorem time?_eq_some : p.time? = some t.asRead := by
  obtain ⟨hh', hm', hs', hn'⟩ := t.shown_asRead
  exact time?_of_leapEndsMinute (hh.trans hh'.symm) (hm.trans hm'.symm) (hs.trans hs'.symm)
    (hn.trans hn'.symm) t.leapEndsMinute_asRead

end

theorem leapEndsMinute_of_time? {p : Parts} {t : TimeOfDay} (h : p.time? = some t) :
    LeapEndsMinute t.second t.nano := by
  rw [Parts.time?] at h
  split at h
  · exact leapEndsMinute_of_ofFields? h
  · exact leapEndsMinute_of_ofFields? h

end TimeOfDay

/-- The digits of a fraction are read as so many nanoseconds. -/
theorem takeFraction_padded {k n : Nat} (hk : 0 < k ∧ k ≤ 9) (hn : n < Nat.pow 10 k) :
    takeFraction (padded k n).toList = .ok (n * Nat.pow 10 (9 - k), []) := by
  have hl := length_padded hk.1 hn
  have hb : (n : Int) ≤ Int64.maxValue.toInt := by
    have hmax : Int64.maxValue.toInt = 9223372036854775807 := rfl
    have hp : Nat.pow 10 k ≤ 1000000000 := Nat.pow_le_pow_right (by decide) hk.2
    omega
  have ht : takeNumber 1 (some 9) (padded k n).toList = .ok (n, []) := by
    rw [← List.append_nil (padded k n).toList]
    refine takeNumber_padded_of_end (fun m hm => ?_) rfl hb
    rw [← Option.some.inj hm, hl]
    exact hk.2
  simp only [takeFraction, ht, bind, Except.bind, pure, Except.pure, hl, List.length_nil,
    List.dropWhile_nil, Nat.sub_zero]

theorem take_point_padded {k n : Nat} (hk : 0 < k ∧ k ≤ 9) (hn : n < Nat.pow 10 k) (p : Parts) :
    Item.fraction.take p ("." ++ padded k n).toList =
      .ok ({ p with nano := n * Nat.pow 10 (9 - k) }, []) := by
  have hpoint : ("." ++ padded k n).toList = '.' :: (padded k n).toList := by simp
  rw [hpoint, Item.take, takeFraction_padded hk hn]
  rfl

/-- A fraction is read to its end, with how many digits it may be shown. -/
theorem take_fraction {n : Nat} (hn : n < billion) {p : Parts} (hp : p.nano = 0) :
    Item.fraction.take p (TimeOfDay.fractionText n).toList = .ok ({ p with nano := n }, []) := by
  have hb : n < 1000000000 := hn
  have hscaled : ∀ m k : Nat, m * k = n →
      (.ok ({ p with nano := m * k }, []) : Except Fault (Parts × List Char)) =
        .ok ({ p with nano := n }, []) :=
    fun m k h => by rw [h]
  rw [TimeOfDay.fractionText]
  split
  · next h =>
    rw [h, ← hp]
    rfl
  split
  · next h =>
    rw [take_point_padded (by decide) (show n / 1000000 < 1000 by omega)]
    exact hscaled _ 1000000 (by omega)
  split
  · next h =>
    rw [take_point_padded (by decide) (show n / 1000 < 1000000 by omega)]
    exact hscaled _ 1000 (by omega)
  · rw [take_point_padded (by decide) hb]
    exact hscaled _ 1 (by omega)

/-- The parts with the hour and the minute of a time. -/
def Parts.putMinutes (p : Parts) (t : TimeOfDay) : Parts :=
  (p.put .hour t.hour).put .minute t.minute

/-- The parts with all those of a date-time. -/
def Parts.ofDateTime (t : DateTime) : Parts :=
  { (((({} : Parts).putDate t.date).putMinutes t.time).put .second t.time.shownSecond) with
    nano := t.time.shownNano }

theorem takeAll_minutes (t : TimeOfDay) (p : Parts) (items : List Item) :
    takeAll p t.text.toList (minuteItems ++ items) =
      takeAll (p.putMinutes t) t.secondsText items := by
  simp only [TimeOfDay.toList_text, minuteItems, List.cons_append, List.nil_append]
  rw [takeAll_of_take (take_number (by decide) t.hour_range _ _),
    takeAll_of_take (take_literal _ _ _),
    takeAll_of_take (take_number (by decide) t.minute_range _ _)]
  rfl

/-- What is read of the seconds: they and the fraction end the text. -/
theorem takeAll_seconds (t : TimeOfDay) {p : Parts} (hp : p.nano = 0) (items : List Item) :
    takeAll p t.secondsText (.literal ':' :: .number .second :: .fraction :: items) =
      takeAll { p.put .second t.shownSecond with nano := t.shownNano } [] items := by
  rw [TimeOfDay.secondsText, takeAll_of_take (take_literal _ _ _),
    takeAll_of_take (take_number (by decide) t.second_range _ _),
    takeAll_of_take (take_fraction (p := p.put .second t.shownSecond) t.shownNano_lt hp)]

/-! ## Date-times -/

/-- The date-time that the text of a date-time is read as. -/
def DateTime.asRead (t : DateTime) : DateTime := ⟨t.date, t.time.asRead⟩

/-- The patterns with a separator between date and time. -/
def patternsWith (separator : Item) : List (List Item) :=
  [minuteItems, secondItems].flatMap fun time =>
    [[], [.literal 'Z'], [.offset]].map fun zone => dateItems ++ [separator] ++ time ++ zone

theorem dateTimePatterns_eq :
    dateTimePatterns = timestampItems :: (patternsWith .blanks ++ patternsWith (.literal 'T')) :=
  rfl

theorem readDateTimeBy?_of_error {cs : List Char} {items : List Item} (fault : Fault)
    (h : takeAll {} cs items = .error fault) : readDateTimeBy? cs items = none := by
  rw [readDateTimeBy?, h]
  rfl

theorem readDateTimeBy?_of_ok {cs : List Char} {items : List Item} {t : DateTime}
    (h : takeAll {} cs items = .ok (.ofDateTime t)) : readDateTimeBy? cs items = some t.asRead := by
  have hd : (Parts.ofDateTime t).date? = some t.date := t.date.ofFields?_self
  have ht : (Parts.ofDateTime t).time? = some t.time.asRead :=
    TimeOfDay.time?_eq_some rfl rfl rfl rfl
  rw [readDateTimeBy?, h]
  simp only [Except.toOption, bind, Option.bind, hd, ht]
  rfl

section

variable {cs : List Char} (separator : Item)

/-- A text whose separator is taken is read by the pattern of just its kind: behind the minutes
the shorter ones find a colon. -/
theorem findSome?_patternsWith (t : DateTime)
    (h : ∀ items, takeAll {} cs (dateItems ++ separator :: items) =
      takeAll (({} : Parts).putDate t.date) t.time.text.toList items) :
    (patternsWith separator).findSome? (readDateTimeBy? cs) = some t.asRead := by
  have hminutes : ∀ zone fault, takeAll ((({} : Parts).putDate t.date).putMinutes t.time)
      t.time.secondsText zone = .error fault →
      readDateTimeBy? cs (dateItems ++ [separator] ++ minuteItems ++ zone) = none :=
    fun zone fault hz => readDateTimeBy?_of_error fault (by
      rw [List.append_assoc, List.append_assoc, List.singleton_append, h, takeAll_minutes, hz])
  have hseconds :
      readDateTimeBy? cs (dateItems ++ [separator] ++ secondItems ++ []) = some t.asRead :=
    readDateTimeBy?_of_ok (by
      rw [List.append_nil, List.append_assoc, List.singleton_append, h, secondItems,
        takeAll_minutes, takeAll_seconds t.time rfl]
      rfl)
  rw [patternsWith]
  simp only [List.flatMap_cons, List.map_cons, List.map_nil, List.cons_append, List.nil_append,
    List.findSome?_cons]
  rw [hminutes [] .tooLong rfl, hminutes [.literal 'Z'] .invalid rfl,
    hminutes [.offset] .invalid rfl, hseconds]

end

/-- A timestamp has a zone at its end, and its year has four digits and no sign. -/
theorem takeAll_timestampItems {c : Char} (hc : c ∈ ['t', 'T', ' ']) (t : DateTime) :
    ∃ fault, takeAll {} (t.date.text.toList ++ c :: t.time.text.toList) timestampItems =
      .error fault := by
  rw [Date.toList_text]
  by_cases hy : 0 ≤ t.date.year ∧ t.date.year ≤ 9999
  · have hn : t.date.year.toNat < Nat.pow 10 4 := by
      show t.date.year.toNat < 10000
      omega
    have hr : Field.year.range.1 ≤ (t.date.year.toNat : Int) ∧
        (t.date.year.toNat : Int) ≤ Field.year.range.2 := by
      simp only [Field.range]
      omega
    refine ⟨.tooShort, ?_⟩
    rw [Date.yearText, if_pos hy]
    simp only [List.append_assoc, List.cons_append, timestampItems]
    rw [takeAll_of_take (take_exact (w := 4) rfl hn hr _ _), takeAll_of_take (take_literal _ _ _),
      takeAll_of_take (take_exact_two (by decide) t.date.month_range _ _),
      takeAll_of_take (take_literal _ _ _),
      takeAll_of_take (take_exact_two (by decide) t.date.day_range _ _),
      takeAll_of_take (take_anyOf hc _ _), TimeOfDay.toList_text,
      takeAll_of_take (take_exact_two (by decide) t.time.hour_range _ _),
      takeAll_of_take (take_literal _ _ _),
      takeAll_of_take (take_exact_two (by decide) t.time.minute_range _ _), TimeOfDay.secondsText,
      takeAll_of_take (take_literal _ _ _),
      takeAll_of_take (take_exact_two (by decide) t.time.second_range _ _),
      takeAll_of_take (take_fraction t.time.shownNano_lt rfl)]
    rfl
  · have hyear : ∀ p rest, (Item.exact .year).take p
        ((if t.date.year < 0 then '-' else '+') :: rest) = .error .invalid := fun p rest => by
      rw [Item.take, takeNumber_of_not_isDigit (by decide) (by split <;> rfl)]
      rfl
    refine ⟨.invalid, ?_⟩
    rw [toList_yearText_of_signed hy, List.cons_append, List.cons_append, timestampItems,
      takeAll_of_take_error (hyear _ _)]

theorem DateTime.toList_text (t : DateTime) (c : Char) {separator : String}
    (h : separator.toList = [c]) :
    (t.text separator).toList = t.date.text.toList ++ c :: t.time.text.toList := by
  simp [text, h]

/-- A date-time with a blank is no date: something follows the day. -/
theorem readDate_dateTime (t : DateTime) : readDate (t.text " ") = .error .tooLong := by
  have h : takeAll {} (t.text " ").toList dateItems = .error .tooLong := by
    rw [t.toList_text ' ' rfl, ← List.append_nil dateItems, takeAll_date]
    rfl
  rw [readDate, h]
  rfl

theorem skipBlanks_time (t : TimeOfDay) : Text.skipBlanks t.text.toList = t.text.toList := by
  rw [t.toList_text, skipBlanks_padded_append]

/-- **The text of a date-time is read as the date-time**, with a blank between its parts. -/
theorem readDateTime?_blank (t : DateTime) : readDateTime? (t.text " ") = some t.asRead := by
  obtain ⟨fault, hstamp⟩ := takeAll_timestampItems (c := ' ') (by decide) t
  have hskip : Text.skipBlanks (' ' :: t.time.text.toList) = t.time.text.toList :=
    (List.dropWhile_cons_of_pos rfl).trans (skipBlanks_time t.time)
  have hfamily := findSome?_patternsWith .blanks t fun items => by
    rw [takeAll_date, takeAll_of_take (take_blanks hskip _)]
  rw [readDateTime?, dateTimePatterns_eq, t.toList_text ' ' rfl, List.findSome?_cons,
    readDateTimeBy?_of_error fault hstamp]
  simp only [List.findSome?_append, hfamily, Option.some_or]

theorem Date.text_inj {d e : Date} : d.text = e.text ↔ d = e := by
  refine ⟨fun h => ?_, fun h => h ▸ rfl⟩
  have hd := readDate_text d
  rw [h, readDate_text] at hd
  exact (Except.ok.inj hd).symm

namespace DateTime

theorem asRead_eq_self_iff {t : DateTime} :
    t.asRead = t ↔ LeapEndsMinute t.time.second t.time.nano := by
  rw [← TimeOfDay.asRead_eq_self_iff, asRead]
  exact ⟨congrArg time, fun h => by rw [h]⟩

/-- A date-time that is read is read again from its text. -/
theorem asRead_of_readDateTime? {s : String} {t : DateTime} (h : readDateTime? s = some t) :
    t.asRead = t := by
  obtain ⟨items, -, hitems⟩ := List.exists_of_findSome?_eq_some h
  simp only [readDateTimeBy?, Option.bind_eq_bind, Option.bind_eq_some_iff] at hitems
  obtain ⟨p, -, date, -, time, htime, hpure⟩ := hitems
  obtain rfl := Option.some.inj hpure
  exact asRead_eq_self_iff.2 (TimeOfDay.leapEndsMinute_of_time? htime)

end DateTime

end Calendar
end ReportQuery
