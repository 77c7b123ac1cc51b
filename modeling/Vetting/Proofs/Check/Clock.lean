import Mathlib.Data.List.TakeWhile
import Vetting.Proofs.Validator.Verdict
import Vetting.Validator.Builtin

/-!
# The layout of dates and times

Reading a date or a time takes a fixed number of characters, so what the reader takes can be said
without it: `IsDate` and `IsTime` are the texts that a date and a time are written as, and each
reader takes such a text and leaves the rest (`takeDate_eq_some_iff`, `takeTime_eq_some_iff`).

A date with a time is a date, a separator, a time and an ending (`Joined`).  No separator is a
digit and no part has a choice of its length but the separator and the ending, so a text is made of
such parts in one way only (`parts_unique`).  `datetime_layout` tells which separators and endings
there are, and which of the accepted texts have a blank or a `T` as separator and a full stop before
the fraction.
-/

namespace Vetting

namespace Clock

variable {width value n : Nat} {mark : Char} {cs rest : List Char}

/-! ## Digits and marks -/

/-- As many ASCII digits as given. -/
def IsDigits (width : Nat) (digits : List Char) : Prop :=
  digits.length = width ∧ ∀ d ∈ digits, d.isDigit = true

/-- The number that decimal digits spell out. -/
def number (digits : List Char) : Nat := Nat.ofDigitChars 10 digits 0

theorem takeDigits_eq_some_iff : takeDigits width value cs = some (n, rest) ↔
    ∃ digits, IsDigits width digits ∧ Nat.ofDigitChars 10 digits value = n ∧
      cs = digits ++ rest := by
  induction width generalizing value cs with
  | zero =>
    rw [takeDigits, Option.some_inj, Prod.mk.injEq]
    constructor
    · rintro ⟨rfl, rfl⟩
      exact ⟨[], ⟨rfl, List.forall_mem_nil _⟩, rfl, rfl⟩
    · rintro ⟨digits, ⟨hlength, -⟩, rfl, rfl⟩
      obtain rfl := List.length_eq_zero_iff.1 hlength
      exact ⟨rfl, rfl⟩
  | succ width ih =>
    cases cs with
    | nil =>
      refine iff_of_false (fun h => nomatch h) ?_
      rintro ⟨digits, ⟨hlength, -⟩, -, hnil⟩
      rw [(List.append_eq_nil_iff.1 hnil.symm).1] at hlength
      cases hlength
    | cons c cs =>
      rw [takeDigits]
      split
      · rename_i hdigit
        rw [ih, Nat.mul_comm value]
        constructor
        · rintro ⟨digits, ⟨hlength, hdigits⟩, hn, rfl⟩
          rw [← Nat.ofDigitChars_cons] at hn
          exact ⟨c :: digits, ⟨congrArg Nat.succ hlength, List.forall_mem_cons.2 ⟨hdigit, hdigits⟩⟩,
            hn, rfl⟩
        · rintro ⟨_ | ⟨d, digits⟩, ⟨hlength, hdigits⟩, hn, hcs⟩
          · cases hlength
          · obtain ⟨rfl, rfl⟩ := List.cons.inj hcs
            rw [Nat.ofDigitChars_cons] at hn
            exact ⟨digits, ⟨Nat.succ.inj hlength, (List.forall_mem_cons.1 hdigits).2⟩, hn, rfl⟩
      · rename_i hdigit
        refine iff_of_false (fun h => nomatch h) ?_
        rintro ⟨_ | ⟨d, digits⟩, ⟨hlength, hdigits⟩, -, hcs⟩
        · cases hlength
        · obtain ⟨rfl, -⟩ := List.cons.inj hcs
          exact hdigit (List.forall_mem_cons.1 hdigits).1

theorem takeMark_eq_some_iff : takeMark mark cs = some rest ↔ cs = mark :: rest := by
  cases cs with
  | nil => exact iff_of_false (fun h => nomatch h) fun h => nomatch h
  | cons c cs =>
    rw [takeMark, List.cons.injEq]
    split
    · rename_i hmark
      rw [Option.some_inj, and_iff_right hmark]
    · rename_i hmark
      exact iff_of_false (fun h => nomatch h) fun h => hmark h.1

/-! ## Dates and times -/

/-- `YYYY-MM-DD` with at most 12 months of at most 31 days. -/
inductive IsDate : List Char → Prop
  | intro {year month day : List Char} (hyear : IsDigits 4 year) (hmonth : IsDigits 2 month)
      (hday : IsDigits 2 day) (hmonths : number month ≤ 12) (hdays : number day ≤ 31) :
      IsDate (year ++ '-' :: (month ++ '-' :: day))

/-- `HH:MM:SS` with less than 24 hours of less than 60 minutes of less than 60 seconds. -/
inductive IsTime : List Char → Prop
  | intro {hour minute second : List Char} (hhour : IsDigits 2 hour) (hminute : IsDigits 2 minute)
      (hsecond : IsDigits 2 second) (hhours : number hour < 24) (hminutes : number minute < 60)
      (hseconds : number second < 60) : IsTime (hour ++ ':' :: (minute ++ ':' :: second))

theorem parts_eq_of_marks_eq {a b c a' b' c' : List Char} (ha : a.length = a'.length)
    (hb : b.length = b'.length)
    (h : a ++ mark :: (b ++ mark :: c) = a' ++ mark :: (b' ++ mark :: c')) :
    a = a' ∧ b = b' ∧ c = c' := by
  obtain ⟨hfirst, hrest⟩ := List.append_inj h ha
  obtain ⟨hsecond, hthird⟩ := List.append_inj (List.cons.inj hrest).2 hb
  exact ⟨hfirst, hsecond, (List.cons.inj hthird).2⟩

/-- Of three groups of digits, only the last two have bounds in a date. -/
theorem isDate_iff_of_digits {year month day : List Char} (hyear : IsDigits 4 year)
    (hmonth : IsDigits 2 month) (hday : IsDigits 2 day) :
    IsDate (year ++ '-' :: (month ++ '-' :: day)) ↔ number month ≤ 12 ∧ number day ≤ 31 := by
  constructor
  · intro h
    generalize hcs : year ++ '-' :: (month ++ '-' :: day) = cs at h
    obtain ⟨hyear', hmonth', -, hmonths, hdays⟩ := h
    obtain ⟨-, rfl, rfl⟩ := parts_eq_of_marks_eq (hyear.1.trans hyear'.1.symm)
      (hmonth.1.trans hmonth'.1.symm) hcs
    exact ⟨hmonths, hdays⟩
  · rintro ⟨hmonths, hdays⟩
    exact .intro hyear hmonth hday hmonths hdays

theorem isTime_iff_of_digits {hour minute second : List Char} (hhour : IsDigits 2 hour)
    (hminute : IsDigits 2 minute) (hsecond : IsDigits 2 second) :
    IsTime (hour ++ ':' :: (minute ++ ':' :: second)) ↔
      number hour < 24 ∧ number minute < 60 ∧ number second < 60 := by
  constructor
  · intro h
    generalize hcs : hour ++ ':' :: (minute ++ ':' :: second) = cs at h
    obtain ⟨hhour', hminute', -, hhours, hminutes, hseconds⟩ := h
    obtain ⟨rfl, rfl, rfl⟩ := parts_eq_of_marks_eq (hhour.1.trans hhour'.1.symm)
      (hminute.1.trans hminute'.1.symm) hcs
    exact ⟨hhours, hminutes, hseconds⟩
  · rintro ⟨hhours, hminutes, hseconds⟩
    exact .intro hhour hminute hsecond hhours hminutes hseconds

theorem IsDate.length_eq {date : List Char} (h : IsDate date) : date.length = 10 := by
  obtain ⟨hyear, hmonth, hday, -, -⟩ := h
  rw [List.length_append, List.length_cons, List.length_append, List.length_cons, hyear.1,
    hmonth.1, hday.1]

theorem IsTime.length_eq {time : List Char} (h : IsTime time) : time.length = 8 := by
  obtain ⟨hhour, hminute, hsecond, -, -, -⟩ := h
  rw [List.length_append, List.length_cons, List.length_append, List.length_cons, hhour.1,
    hminute.1, hsecond.1]

/-- The first character of a text is a digit. -/
def StartsWithDigit (cs : List Char) : Prop := ∃ d more, cs = d :: more ∧ d.isDigit = true

theorem IsDigits.startsWithDigit {digits : List Char} (h : IsDigits width digits)
    (hwidth : 0 < width) (rest : List Char) : StartsWithDigit (digits ++ rest) := by
  obtain ⟨hlength, hdigits⟩ := h
  match digits with
  | [] => exact absurd hlength (Nat.ne_of_lt hwidth)
  | d :: more => exact ⟨d, more ++ rest, rfl, hdigits d List.mem_cons_self⟩

/-- A time starts with a digit. -/
theorem IsTime.startsWithDigit {time : List Char} (h : IsTime time) : StartsWithDigit time := by
  obtain ⟨hhour, -, -, -, -, -⟩ := h
  exact hhour.startsWithDigit Nat.two_pos _

theorem takeDate_eq_some_iff :
    takeDate cs = some rest ↔ ∃ date, IsDate date ∧ cs = date ++ rest := by
  simp only [takeDate, Option.bind_eq_bind, Option.bind_eq_some_iff, Prod.exists,
    takeDigits_eq_some_iff, takeMark_eq_some_iff, Option.ite_none_right_eq_some, Option.some_inj]
  constructor
  · rintro ⟨_, _, ⟨year, hyear, -, rfl⟩, _, rfl, _, _, ⟨month, hmonth, rfl, rfl⟩, _, rfl, _, _,
      ⟨day, hday, rfl, rfl⟩, ⟨hmonths, hdays⟩, rfl⟩
    refine ⟨_, .intro hyear hmonth hday (Nat.le_of_lt_succ hmonths) (Nat.le_of_lt_succ hdays), ?_⟩
    simp only [List.append_assoc, List.cons_append]
  · rintro ⟨_, ⟨hyear, hmonth, hday, hmonths, hdays⟩, rfl⟩
    simp only [List.append_assoc, List.cons_append]
    exact ⟨_, _, ⟨_, hyear, rfl, rfl⟩, _, rfl, _, _, ⟨_, hmonth, rfl, rfl⟩, _, rfl, _, _,
      ⟨_, hday, rfl, rfl⟩, ⟨Nat.lt_succ_of_le hmonths, Nat.lt_succ_of_le hdays⟩, rfl⟩

theorem takeTime_eq_some_iff :
    takeTime cs = some rest ↔ ∃ time, IsTime time ∧ cs = time ++ rest := by
  simp only [takeTime, Option.bind_eq_bind, Option.bind_eq_some_iff, Prod.exists,
    takeDigits_eq_some_iff, takeMark_eq_some_iff, Option.ite_none_right_eq_some, Option.some_inj]
  constructor
  · rintro ⟨_, _, ⟨hour, hhour, rfl, rfl⟩, _, rfl, _, _, ⟨minute, hminute, rfl, rfl⟩, _, rfl, _, _,
      ⟨second, hsecond, rfl, rfl⟩, ⟨hhours, hminutes, hseconds⟩, rfl⟩
    refine ⟨_, .intro hhour hminute hsecond hhours hminutes hseconds, ?_⟩
    simp only [List.append_assoc, List.cons_append]
  · rintro ⟨_, ⟨hhour, hminute, hsecond, hhours, hminutes, hseconds⟩, rfl⟩
    simp only [List.append_assoc, List.cons_append]
    exact ⟨_, _, ⟨_, hhour, rfl, rfl⟩, _, rfl, _, _, ⟨_, hminute, rfl, rfl⟩, _, rfl, _, _,
      ⟨_, hsecond, rfl, rfl⟩, ⟨hhours, hminutes, hseconds⟩, rfl⟩

theorem isDate_eq_true_iff {s : String} : isDate s = true ↔ IsDate s.toList := by
  rw [isDate, beq_iff_eq, takeDate_eq_some_iff]
  simp only [List.append_nil, exists_eq_right']

theorem isTime_eq_true_iff {s : String} : isTime s = true ↔ IsTime s.toList := by
  rw [isTime, beq_iff_eq, takeTime_eq_some_iff]
  simp only [List.append_nil, exists_eq_right']

theorem failure?_date_eq_none_iff {t : String} :
    Check.date.failure? (.text t) = none ↔ IsDate t.toList := by
  rw [← isDate_eq_true_iff]
  exact Check.passIf_eq_none_iff

theorem failure?_time_eq_none_iff {t : String} :
    Check.time.failure? (.text t) = none ↔ IsTime t.toList := by
  rw [← isTime_eq_true_iff]
  exact Check.passIf_eq_none_iff

theorem validate_date_eq_valid_iff {t : String} :
    Builtin.date.validate (.text t) = .valid ↔ IsDate t.toList := by
  rw [Validator.validate_eq_judge rfl, Validator.judge_eq_valid_iff]
  exact failure?_date_eq_none_iff

theorem validate_time_eq_valid_iff {t : String} :
    Builtin.time.validate (.text t) = .valid ↔ IsTime t.toList := by
  rw [Validator.validate_eq_judge rfl, Validator.judge_eq_valid_iff]
  exact failure?_time_eq_none_iff

/-! ## Dates with times -/

/-- Nothing or a single mark. -/
inductive Separator (isMark : Char → Prop) : List Char → Prop
  | none : Separator isMark []
  | mark {c : Char} (h : isMark c) : Separator isMark [c]

/-- A point with one to three digits or not, and then `Z` or not. -/
inductive Ending (isPoint : Char → Prop) : List Char → Prop
  | whole {zone : List Char} (hzone : zone = [] ∨ zone = ['Z']) : Ending isPoint zone
  | fraction {point : Char} {digits zone : List Char} (hpoint : isPoint point)
      (hpos : 1 ≤ digits.length) (hle : digits.length ≤ 3)
      (hdigits : ∀ d ∈ digits, d.isDigit = true) (hzone : zone = [] ∨ zone = ['Z']) :
      Ending isPoint (point :: (digits ++ zone))

/-- A date and a time with a separator between them and an ending behind them. -/
inductive Joined (isMark isPoint : Char → Prop) : List Char → Prop
  | intro {date separator time ending : List Char} (hdate : IsDate date)
      (hseparator : Separator isMark separator) (htime : IsTime time)
      (hending : Ending isPoint ending) :
      Joined isMark isPoint (date ++ (separator ++ (time ++ ending)))

theorem Separator.mono {isMark isMark' : Char → Prop} {separator : List Char}
    (h : Separator isMark separator) (hmark : ∀ c, isMark c → isMark' c) :
    Separator isMark' separator := by
  cases h with
  | none => exact .none
  | mark hc => exact .mark (hmark _ hc)

theorem Ending.mono {isPoint isPoint' : Char → Prop} {ending : List Char}
    (h : Ending isPoint ending) (hpoint : ∀ c, isPoint c → isPoint' c) :
    Ending isPoint' ending := by
  cases h with
  | whole hzone => exact .whole hzone
  | fraction hc hpos hle hdigits hzone => exact .fraction (hpoint _ hc) hpos hle hdigits hzone

/-- White space of any kind. -/
def IsBlank (c : Char) : Prop := Regex.Unicode.blank.contains c = true

/-- What may stand between a date and a time. -/
def IsMark (c : Char) : Prop := IsBlank c ∨ c = 'T' ∨ c = '|'

/-- What may stand between a time and its fraction. -/
def IsPoint (c : Char) : Prop := c ≠ '\n'

theorem isSeparator_eq_true_iff {c : Char} : isSeparator c = true ↔ IsMark c := by
  rw [isSeparator, Bool.or_eq_true, Bool.or_eq_true, decide_eq_true_iff, decide_eq_true_iff,
    or_assoc, IsMark, IsBlank]
  exact or_congr Iff.rfl or_comm

theorem IsMark.isDigit_eq_false {c : Char} (h : IsMark c) : c.isDigit = false := by
  rw [Bool.eq_false_iff]
  intro hdigit
  obtain ⟨hlow, hhigh⟩ := Char.isDigit_iff_toNat.1 hdigit
  have hzero : '0'.toNat = 48 := rfl
  have hnine : '9'.toNat = 57 := rfl
  rcases h with h | rfl | rfl
  · rw [IsBlank, Regex.CharSet.contains, Regex.Unicode.blank, Regex.CharSet.mem] at h
    obtain ⟨r, hr, hin⟩ := List.any_eq_true.1 h
    simp only [Bool.and_eq_true, decide_eq_true_iff] at hin
    have houtside : ∀ r ∈ [(0x9, 0xd), (0x20, 0x20), (0x85, 0x85), (0xa0, 0xa0), (0x1680, 0x1680),
        (0x2000, 0x200a), (0x2028, 0x2029), (0x202f, 0x202f), (0x205f, 0x205f), (0x3000, 0x3000)],
        r.2 < 48 ∨ 57 < r.1 := by decide
    rcases houtside r hr with hbelow | habove <;> omega
  · exact absurd hdigit (by decide)
  · exact absurd hdigit (by decide)

/-- A time is read behind a separator or without one. -/
theorem takeTime_skipSeparator_eq_some_iff : takeTime (skipSeparator cs) = some rest ↔
    ∃ separator time, Separator IsMark separator ∧ IsTime time ∧
      cs = separator ++ (time ++ rest) := by
  rw [takeTime_eq_some_iff]
  constructor
  · rintro ⟨time, htime, hskip⟩
    cases cs with
    | nil => exact ⟨[], time, .none, htime, hskip⟩
    | cons c cs =>
      rw [skipSeparator] at hskip
      split at hskip
      · rename_i hc
        exact ⟨[c], time, .mark (isSeparator_eq_true_iff.1 hc), htime, by rw [hskip]; rfl⟩
      · exact ⟨[], time, .none, htime, hskip⟩
  · rintro ⟨separator, time, hseparator, htime, rfl⟩
    refine ⟨time, htime, ?_⟩
    cases hseparator with
    | none =>
      -- nothing is skipped, since a time starts with a digit
      obtain ⟨d, more, rfl, hdigit⟩ := htime.startsWithDigit
      have hd : ¬ isSeparator d = true := fun h => by
        rw [(isSeparator_eq_true_iff.1 h).isDigit_eq_false] at hdigit
        cases hdigit
      rw [List.nil_append, List.cons_append, skipSeparator, if_neg hd]
    | mark hc => rw [List.singleton_append, skipSeparator, if_pos (isSeparator_eq_true_iff.2 hc)]

theorem isEnding_eq_true_iff : isEnding cs = true ↔ Ending IsPoint cs := by
  cases cs with
  | nil => exact iff_of_true rfl (.whole (Or.inl rfl))
  | cons c cs =>
    rw [isEnding, Bool.or_eq_true, Bool.and_eq_true, Bool.and_eq_true, Bool.and_eq_true,
      Bool.and_eq_true, Bool.or_eq_true, bne_iff_ne, List.isEmpty_iff]
    simp only [decide_eq_true_iff]
    constructor
    · rintro (⟨rfl, rfl⟩ | ⟨⟨⟨hpoint, hpos⟩, hle⟩, hzone⟩)
      · exact .whole (Or.inr rfl)
      · rw [← List.takeWhile_append_dropWhile (p := Char.isDigit) (l := cs)]
        exact .fraction hpoint hpos hle (fun d hd => List.mem_takeWhile_imp hd) hzone
    · intro h
      generalize hending : c :: cs = ending at h
      cases h with
      | whole hzone =>
        rcases hzone with rfl | rfl
        · cases hending
        · exact Or.inl (List.cons.inj hending)
      | @fraction point digits zone hpoint hpos hle hdigits hzone =>
        obtain ⟨rfl, rfl⟩ := List.cons.inj hending
        have hnone : zone.takeWhile Char.isDigit = [] ∧ zone.dropWhile Char.isDigit = zone := by
          rcases hzone with rfl | rfl <;> exact ⟨rfl, rfl⟩
        rw [List.takeWhile_append_of_pos hdigits, List.dropWhile_append_of_pos hdigits, hnone.1,
          hnone.2, List.append_nil]
        exact Or.inr ⟨⟨⟨hpoint, hpos⟩, hle⟩, hzone⟩

theorem isDateTime_eq_true_iff {s : String} :
    isDateTime s = true ↔ Joined IsMark IsPoint s.toList := by
  have hread : isDateTime s = true ↔ ∃ afterDate, takeDate s.toList = some afterDate ∧
      ∃ afterTime, takeTime (skipSeparator afterDate) = some afterTime ∧
        isEnding afterTime = true := by
    rw [isDateTime]
    cases takeDate s.toList with
    | none => exact iff_of_false Bool.false_ne_true fun ⟨_, h, _⟩ => nomatch h
    | some afterDate =>
      dsimp only
      cases htime : takeTime (skipSeparator afterDate) with
      | none =>
        refine iff_of_false Bool.false_ne_true ?_
        rintro ⟨_, hdate, _, h, -⟩
        rw [← Option.some.inj hdate, htime] at h
        cases h
      | some afterTime =>
        constructor
        · exact fun h => ⟨_, rfl, _, htime, h⟩
        · rintro ⟨_, hdate, _, h, hending⟩
          rw [← Option.some.inj hdate, htime] at h
          rwa [← Option.some.inj h] at hending
  simp only [hread, takeDate_eq_some_iff, takeTime_skipSeparator_eq_some_iff, isEnding_eq_true_iff]
  constructor
  · rintro ⟨_, ⟨date, hdate, hs⟩, ending, ⟨separator, time, hseparator, htime, rfl⟩, hending⟩
    rw [hs]
    exact .intro hdate hseparator htime hending
  · intro h
    generalize hs : s.toList = cs at h
    obtain ⟨hdate, hseparator, htime, hending⟩ := h
    exact ⟨_, ⟨_, hdate, rfl⟩, _, ⟨_, _, hseparator, htime, rfl⟩, hending⟩

/-- The parts of a text are determined by it when the first and the third have a known length and
the third starts with a digit, which no separator does. -/
theorem parts_unique_of_lengths
    {date date' separator separator' time time' ending ending' : List Char}
    (hdates : date.length = date'.length) (hseparator : Separator IsMark separator)
    (hseparator' : Separator IsMark separator') (htime : StartsWithDigit time)
    (htime' : StartsWithDigit time') (htimes : time.length = time'.length)
    (h : date ++ (separator ++ (time ++ ending)) = date' ++ (separator' ++ (time' ++ ending'))) :
    date = date' ∧ separator = separator' ∧ time = time' ∧ ending = ending' := by
  obtain ⟨hdates, hrest⟩ := List.append_inj h hdates
  have hseparators : separator = separator' := by
    obtain ⟨d, more, rfl, hd⟩ := htime
    obtain ⟨d', more', rfl, hd'⟩ := htime'
    cases hseparator with
    | none =>
      cases hseparator' with
      | none => rfl
      | mark hc =>
        obtain ⟨rfl, -⟩ := List.cons.inj hrest
        rw [hc.isDigit_eq_false] at hd
        cases hd
    | mark hc =>
      cases hseparator' with
      | none =>
        obtain ⟨rfl, -⟩ := List.cons.inj hrest
        rw [hc.isDigit_eq_false] at hd'
        cases hd'
      | mark hc' => rw [(List.cons.inj hrest).1]
  rw [hseparators] at hrest
  obtain ⟨htimes, hendings⟩ := List.append_inj (List.append_cancel_left hrest) htimes
  exact ⟨hdates, hseparators, htimes, hendings⟩

/-- **The parts of a date with a time are determined by the text.** -/
theorem parts_unique {date date' separator separator' time time' ending ending' : List Char}
    (hdate : IsDate date) (hseparator : Separator IsMark separator) (htime : IsTime time)
    (hdate' : IsDate date') (hseparator' : Separator IsMark separator') (htime' : IsTime time')
    (h : date ++ (separator ++ (time ++ ending)) = date' ++ (separator' ++ (time' ++ ending'))) :
    date = date' ∧ separator = separator' ∧ time = time' ∧ ending = ending' :=
  parts_unique_of_lengths (hdate.length_eq.trans hdate'.length_eq.symm) hseparator hseparator'
    htime.startsWithDigit htime'.startsWithDigit (htime.length_eq.trans htime'.length_eq.symm) h

/-- A text that is cut into parts at the right places is a date with a time exactly when the parts
between these places are a date and a time. -/
theorem joined_iff_of_lengths {date separator time ending : List Char} (hdate : date.length = 10)
    (hseparator : Separator IsMark separator) (htime : time.length = 8)
    (hdigit : StartsWithDigit time) (hending : Ending IsPoint ending) :
    Joined IsMark IsPoint (date ++ (separator ++ (time ++ ending))) ↔
      IsDate date ∧ IsTime time := by
  constructor
  · intro h
    generalize hcs : date ++ (separator ++ (time ++ ending)) = cs at h
    obtain ⟨hdate', hseparator', htime', -⟩ := h
    obtain ⟨rfl, -, rfl, -⟩ := parts_unique_of_lengths (hdate.trans hdate'.length_eq.symm)
      hseparator hseparator' hdigit htime'.startsWithDigit (htime.trans htime'.length_eq.symm) hcs
    exact ⟨hdate', htime'⟩
  · rintro ⟨hdate, htime⟩
    exact .intro hdate hseparator htime hending

/-! ## What is tolerated -/

/-- White space or a `T`. -/
def IsBlankOrT (c : Char) : Prop := IsBlank c ∨ c = 'T'

theorem IsBlankOrT.isMark {c : Char} (h : IsBlankOrT c) : IsMark c := h.imp_right Or.inl

/-- A full stop. -/
def IsFullStop (c : Char) : Prop := c = '.'

theorem IsFullStop.isPoint {c : Char} (h : IsFullStop c) : IsPoint c := by
  obtain rfl : c = '.' := h
  exact show '.' ≠ '\n' by decide

theorem failure?_datetime_eq_none_iff {t : String} :
    Check.datetime.failure? (.text t) = none ↔ Joined IsMark IsPoint t.toList := by
  rw [← isDateTime_eq_true_iff]
  exact Check.passIf_eq_none_iff

theorem validate_datetime_eq_valid_iff {t : String} :
    Builtin.datetime.validate (.text t) = .valid ↔ Joined IsMark IsPoint t.toList := by
  rw [Validator.validate_eq_judge rfl, Validator.judge_eq_valid_iff]
  exact failure?_datetime_eq_none_iff

/-- **A text of given parts is joined by a blank or a `T`, and has a full stop before its fraction,
exactly when its own parts do.** -/
theorem joined_iff_of_parts {date separator time ending : List Char} (hdate : IsDate date)
    (hseparator : Separator IsMark separator) (htime : IsTime time)
    (hending : Ending IsPoint ending) :
    Joined IsBlankOrT IsFullStop (date ++ (separator ++ (time ++ ending))) ↔
      separator ≠ ['|'] ∧ (ending = [] ∨ ending = ['Z'] ∨ ending.head? = some '.') := by
  constructor
  · intro h
    generalize hcs : date ++ (separator ++ (time ++ ending)) = cs at h
    obtain ⟨hdate', hseparator', htime', hending'⟩ := h
    have hmark := hseparator'.mono fun _ => IsBlankOrT.isMark
    obtain ⟨-, rfl, -, rfl⟩ := parts_unique hdate hseparator htime hdate' hmark htime' hcs
    constructor
    · rintro rfl
      cases hseparator' with
      | mark hc =>
        rcases hc with hblank | hletter
        · exact absurd hblank (show ¬ Regex.Unicode.blank.contains '|' = true by decide)
        · exact absurd hletter (by decide)
    · cases hending' with
      | whole hzone => exact hzone.imp_right Or.inl
      | fraction hpoint => exact Or.inr (Or.inr (congrArg some hpoint))
  · rintro ⟨hbar, hhead⟩
    refine .intro hdate ?_ htime ?_
    · cases hseparator with
      | none => exact .none
      | mark hc =>
        rcases hc with hc | hc | rfl
        · exact .mark (Or.inl hc)
        · exact .mark (Or.inr hc)
        · exact absurd rfl hbar
    · rcases hhead with h | h | h
      · exact .whole (Or.inl h)
      · exact .whole (Or.inr h)
      · cases hending with
        | whole hzone => rcases hzone with rfl | rfl <;> cases h
        | fraction _ hpos hle hdigits hzone =>
          exact .fraction (Option.some.inj h) hpos hle hdigits hzone

/-- **What a date with a time may look like.**  A text is accepted exactly when it is a date and a
time joined by nothing, one white space, a `T` or a bar, with nothing behind them or one character
that is no line feed and one to three digits, and then a `Z` or not.  Of the accepted texts, those
without a bar whose fraction starts with a full stop are joined by white space, a `T` or nothing
and have at most such a fraction and a `Z` behind them; the others are not. -/
theorem datetime_layout (t : String) :
    (Builtin.datetime.validate (.text t) = .valid ↔ Joined IsMark IsPoint t.toList) ∧
    ∀ date separator time ending, IsDate date → Separator IsMark separator → IsTime time →
      Ending IsPoint ending → t.toList = date ++ (separator ++ (time ++ ending)) →
        (Joined IsBlankOrT IsFullStop t.toList ↔
          separator ≠ ['|'] ∧ (ending = [] ∨ ending = ['Z'] ∨ ending.head? = some '.')) := by
  refine ⟨validate_datetime_eq_valid_iff, ?_⟩
  intro date separator time ending hdate hseparator htime hending ht
  rw [ht]
  exact joined_iff_of_parts hdate hseparator htime hending

/-- A white space that is no ASCII, and a fraction behind a full stop. -/
theorem datetime_layout_wide_space :
    Builtin.datetime.validate (.text "2000-01-01\u300000:00:30.5Z") = .valid ∧
    Joined IsBlankOrT IsFullStop "2000-01-01\u300000:00:30.5Z".toList := by
  have hdate : IsDate "2000-01-01".toList := isDate_eq_true_iff.1 (by decide)
  have htime : IsTime "00:00:30".toList := isTime_eq_true_iff.1 (by decide)
  have hseparator : Separator IsMark "\u3000".toList := .mark (Or.inl rfl)
  have hending : Ending IsPoint ".5Z".toList := isEnding_eq_true_iff.1 (by decide)
  obtain ⟨hvalid, hparts⟩ := datetime_layout "2000-01-01\u300000:00:30.5Z"
  exact ⟨hvalid.2 (.intro hdate hseparator htime hending),
    (hparts _ _ _ _ hdate hseparator htime hending rfl).2
      ⟨by decide, Or.inr (Or.inr (by decide))⟩⟩

/-- A bar between the date and the time is let through, and so is a comma before the fraction. -/
theorem datetime_lets_bar_and_comma_through :
    (Builtin.datetime.validate (.text "2000-01-01|00:00:30") = .valid ∧
      ¬ Joined IsBlankOrT IsFullStop "2000-01-01|00:00:30".toList) ∧
    (Builtin.datetime.validate (.text "2000-01-01T00:00:30,5") = .valid ∧
      ¬ Joined IsBlankOrT IsFullStop "2000-01-01T00:00:30,5".toList) := by
  have hdate : IsDate "2000-01-01".toList := isDate_eq_true_iff.1 (by decide)
  have htime : IsTime "00:00:30".toList := isTime_eq_true_iff.1 (by decide)
  have hbar : Separator IsMark "|".toList := .mark (Or.inr (Or.inr rfl))
  have hletter : Separator IsMark "T".toList := .mark (Or.inr (Or.inl rfl))
  have hnothing : Ending IsPoint "".toList := .whole (Or.inl rfl)
  have hcomma : Ending IsPoint ",5".toList := isEnding_eq_true_iff.1 (by decide)
  refine ⟨⟨validate_datetime_eq_valid_iff.2 (.intro hdate hbar htime hnothing), fun h => ?_⟩,
    validate_datetime_eq_valid_iff.2 (.intro hdate hletter htime hcomma), fun h => ?_⟩
  · exact ((joined_iff_of_parts hdate hbar htime hnothing).1 h).1 (by decide)
  · exact absurd ((joined_iff_of_parts hdate hletter htime hcomma).1 h).2 (by decide)

end Clock

end Vetting
