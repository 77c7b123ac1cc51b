import Mathlib.Algebra.Group.Nat.Defs
import Vetting.Proofs.Calendar
import Vetting.Proofs.Check.Clock

/-!
# The text of a date

A date is accepted by the checks of dates and times because it is one, and a text because of its
layout.  The two agree: the text that a date is coerced to has the layout (`Instant.written_text`),
as long as its year has four digits and it is not in a leap second.  Its first ten characters are
then a date, and the eight behind the `T` a time.

What has to be shown is that the numbers in the text stay within the bounds of the layout.  For the
months and days this is that `CivilDate.ofDays` gives dates of the calendar.
-/

namespace Vetting

open Clock

namespace Clock

variable {width n : Nat} {digits : List Char}

/-- The number `n` written with as many digits as given. -/
structure IsNumeral (width n : Nat) (digits : List Char) : Prop where
  isDigits : IsDigits width digits
  number_eq : number digits = n

theorem isDigits_decimalPlaces (width n : Nat) : IsDigits width (decimalPlaces width n) := by
  induction width generalizing n with
  | zero => exact ⟨rfl, List.forall_mem_nil _⟩
  | succ width ih =>
    obtain ⟨hlength, hdigits⟩ := ih (n / 10)
    refine ⟨by rw [decimalPlaces, List.length_append, hlength, List.length_singleton], ?_⟩
    intro d hd
    rcases List.mem_append.1 hd with hd | hd
    · exact hdigits d hd
    · rw [List.mem_singleton.1 hd, Nat.isDigit_digitChar]
      exact decide_eq_true (Nat.mod_lt n (by decide))

/-- The last digits of a number spell out its remainder. -/
theorem number_decimalPlaces (width n : Nat) : number (decimalPlaces width n) = n % 10 ^ width := by
  induction width generalizing n with
  | zero => exact (Nat.mod_one n).symm
  | succ width ih =>
    have hdigit : n % 10 < 10 := Nat.mod_lt n (by decide)
    have hlast : (Nat.digitChar (n % 10)).toNat - '0'.toNat = n % 10 := by
      rw [Nat.toNat_digitChar_of_lt_ten hdigit]
      exact Nat.add_sub_cancel_left ..
    rw [number, decimalPlaces, Nat.ofDigitChars_append, ← number, ih, Nat.ofDigitChars_cons, hlast,
      Nat.ofDigitChars_nil, Nat.pow_succ', Nat.mod_mul, Nat.add_comm]

theorem isNumeral_decimalPlaces (width n : Nat) (h : n < 10 ^ width) :
    IsNumeral width n (decimalPlaces width n) :=
  ⟨isDigits_decimalPlaces width n, (number_decimalPlaces width n).trans (Nat.mod_eq_of_lt h)⟩

end Clock

namespace Instant

variable {t : Instant} {cs : List Char}

/-! ## The numbers in a text -/

theorem hour_lt (t : Instant) : t.hour < 24 := by
  rw [hour, secondOfDay]
  omega

theorem minute_lt (t : Instant) : t.minute < 60 := Nat.mod_lt _ (by decide)

/-- Only in a leap second there is a second 60. -/
theorem second_lt (h : t.nanos < 1000000000) : t.second < 60 := by
  rw [second, Nat.div_eq_of_lt h]
  exact Nat.mod_lt _ (by decide)

theorem millisecond_lt (t : Instant) : t.millisecond < 1000 := by
  rw [millisecond]
  omega

theorem month_le (t : Instant) : t.date.month ≤ 12 := (CivilDate.isReal_ofDays _).month_le

theorem day_le (t : Instant) : t.date.day ≤ 31 :=
  Nat.le_trans (CivilDate.isReal_ofDays _).day_le (CivilDate.monthLength_bounds ..).2

/-! ## The layout -/

/-- `YYYY-MM-DDTHH:MM:SS.mmmZ` with the numbers of an instant. -/
inductive Written (t : Instant) : List Char → Prop
  | intro {year month day hour minute second millisecond : List Char}
      (hyear : IsNumeral 4 t.date.year.toNat year) (hmonth : IsNumeral 2 t.date.month month)
      (hday : IsNumeral 2 t.date.day day) (hhour : IsNumeral 2 t.hour hour)
      (hminute : IsNumeral 2 t.minute minute) (hsecond : IsNumeral 2 t.second second)
      (hmillisecond : IsNumeral 3 t.millisecond millisecond) :
      Written t ((year ++ '-' :: (month ++ '-' :: day)) ++ (['T'] ++
        ((hour ++ ':' :: (minute ++ ':' :: second)) ++ '.' :: (millisecond ++ ['Z']))))

/-- **The text of an instant has the layout**, unless the year needs a sign or it is in a leap
second. -/
theorem written_text (hyear : 0 ≤ t.date.year ∧ t.date.year ≤ 9999)
    (hnanos : t.nanos < 1000000000) : t.Written t.text.toList := by
  have hfour : IsNumeral 4 t.date.year.toNat (CivilDate.yearText t.date.year) := by
    have hplaces := isNumeral_decimalPlaces 4 t.date.year.natAbs (by omega)
    have hnat : t.date.year.toNat = t.date.year.natAbs := by omega
    rwa [CivilDate.yearText, if_pos hyear, hnat]
  have hmonth := t.month_le
  have hday := t.day_le
  have hhour := t.hour_lt
  have hminute := t.minute_lt
  have hsecond := second_lt hnanos
  have hwritten := Written.intro hfour (isNumeral_decimalPlaces 2 _ (by omega))
    (isNumeral_decimalPlaces 2 _ (by omega))
    (isNumeral_decimalPlaces 2 _ (by omega))
    (isNumeral_decimalPlaces 2 _ (by omega))
    (isNumeral_decimalPlaces 2 _ (by omega))
    (isNumeral_decimalPlaces 3 _ t.millisecond_lt)
  -- the same pieces, put together from the left
  rw [text, String.toList_ofList]
  simpa only [List.append_assoc, List.cons_append, List.nil_append] using hwritten

/-- A text of the layout is a date and a time with a `T` between them and a fraction behind. -/
theorem Written.exists_parts (h : t.Written cs) (hnanos : t.nanos < 1000000000) :
    ∃ date time ending, IsDate date ∧ IsTime time ∧ Ending IsPoint ending ∧
      cs = date ++ (['T'] ++ (time ++ ending)) := by
  obtain ⟨hyear, hmonth, hday, hhour, hminute, hsecond, hmillisecond⟩ := h
  refine ⟨_, _, _, ?date, ?time, ?ending, rfl⟩
  case date =>
    exact .intro hyear.isDigits hmonth.isDigits hday.isDigits (hmonth.number_eq ▸ t.month_le)
      (hday.number_eq ▸ t.day_le)
  case time =>
    exact .intro hhour.isDigits hminute.isDigits hsecond.isDigits (hhour.number_eq ▸ t.hour_lt)
      (hminute.number_eq ▸ t.minute_lt) (hsecond.number_eq ▸ second_lt hnanos)
  case ending =>
    obtain ⟨hlength, hdigits⟩ := hmillisecond.isDigits
    exact .fraction (IsFullStop.isPoint rfl) (by omega) (by omega) hdigits (Or.inr rfl)

/-! ## Dates as values and as texts -/

open Validator

/-- **A date is accepted as its text is.**  Days are counted in the Gregorian calendar from
1 January 1970 on, forwards and backwards.  The text of a date in one of the years 0 to 9999 that
is not in a leap second gives year, month, day, hour, minute, second and millisecond in the layout
`YYYY-MM-DDTHH:MM:SS.mmmZ`.  The text is accepted as a date with a time, its first ten characters as
a date, and the eight from the twelfth on as a time; and so is the date itself. -/
theorem text_accepted :
    (CivilDate.ofDays 0 = ⟨1970, 1, 1⟩ ∧ ∀ days : Int, (CivilDate.ofDays days).IsReal ∧
      CivilDate.ofDays (days + 1) = (CivilDate.ofDays days).next) ∧
    ∀ t : Instant, 0 ≤ t.date.year ∧ t.date.year ≤ 9999 → t.nanos < 1000000000 →
      let text := (Value.date t).display
      t.Written text.toList ∧
      ∀ s : Settings,
        let Accepts (v : Validator) (x : Value) : Prop :=
          { v with settings := s }.validate x = .valid
        (Accepts Builtin.datetime (.date t) ∧ Accepts Builtin.datetime (.text text)) ∧
        (Accepts Builtin.date (.date t) ∧
          Accepts Builtin.date (.text (String.ofList (text.toList.take 10)))) ∧
        (Accepts Builtin.time (.date t) ∧
          Accepts Builtin.time (.text (String.ofList ((text.toList.drop 11).take 8)))) := by
  refine ⟨⟨rfl, fun days => ⟨CivilDate.isReal_ofDays days, CivilDate.ofDays_succ days⟩⟩, ?_⟩
  intro t hyear hnanos text
  have hwritten : t.Written text.toList := written_text hyear hnanos
  -- from here on only the layout of the text counts
  clear_value text
  obtain ⟨date, time, ending, hdate, htime, hending, htext⟩ := hwritten.exists_parts hnanos
  have hmark : Separator IsMark ['T'] := .mark (Or.inr (Or.inl rfl))
  have hwhole : Check.datetime.failure? (.text text) = none := by
    rw [failure?_datetime_eq_none_iff, htext]
    exact .intro hdate hmark htime hending
  have hfirst : Check.date.failure? (.text (String.ofList (text.toList.take 10))) = none := by
    rwa [failure?_date_eq_none_iff, String.toList_ofList, htext, List.take_left' hdate.length_eq]
  have hnext :
      Check.time.failure? (.text (String.ofList ((text.toList.drop 11).take 8))) = none := by
    have hbefore : (date ++ ['T']).length = 11 := by
      rw [List.length_append, hdate.length_eq, List.length_singleton]
    rwa [failure?_time_eq_none_iff, String.toList_ofList, htext, ← List.append_assoc,
      List.drop_left' hbefore, List.take_left' htime.length_eq]
  refine ⟨hwritten, fun s => ⟨⟨?_, ?_⟩, ⟨?_, ?_⟩, ?_, ?_⟩⟩
  · exact validate_withSettings_eq_valid (v := Builtin.datetime) rfl s
  · exact validate_withSettings_eq_valid (v := Builtin.datetime) hwhole s
  · exact validate_withSettings_eq_valid (v := Builtin.date) rfl s
  · exact validate_withSettings_eq_valid (v := Builtin.date) hfirst s
  · exact validate_withSettings_eq_valid (v := Builtin.time) rfl s
  · exact validate_withSettings_eq_valid (v := Builtin.time) hnext s

/-- The last millisecond of a leap day before 1970. -/
theorem text_accepted_leap_day :
    let t : Instant := ⟨-57974401, 999999999⟩
    (Value.date t).display = "1968-02-29T23:59:59.999Z" ∧
    Builtin.datetime.validate (.text "1968-02-29T23:59:59.999Z") = .valid ∧
    Builtin.date.validate (.text "1968-02-29") = .valid ∧
    Builtin.time.validate (.text "23:59:59") = .valid := by
  intro t
  have htext : (Value.date t).display = "1968-02-29T23:59:59.999Z" := by decide +kernel
  obtain ⟨-, haccepted⟩ := text_accepted
  obtain ⟨-, hverdicts⟩ := haccepted t (by decide) (by decide)
  obtain ⟨⟨-, hdatetime⟩, ⟨-, hdate⟩, -, htime⟩ := hverdicts Builtin.datetime.settings
  rw [htext] at hdatetime hdate htime
  exact ⟨htext, hdatetime, hdate, htime⟩

end Instant

end Vetting
