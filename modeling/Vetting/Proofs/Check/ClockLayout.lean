import Vetting.Proofs.Check.Address
import Vetting.Proofs.Check.Clock
import Vetting.Proofs.Regex.Capture
import Vetting.Proofs.Regex.CaseFold

/-!
# Dates and times as patterns

A date, a time and a date with a time can each be given by a pattern, whose groups hold the numbers,
and by bounds on these numbers.  `Layout.accepts` takes the pattern that is spelled out, looks for
its groups in a text and reads the numbers in them.  A number that cannot be read is replaced by one
that is given.

Each layout accepts what its reader accepts (`dateLayout_accepts_iff`, `timeLayout_accepts_iff`,
`datetimeLayout_accepts_iff`), whatever the replacement: the groups hold two to four digits each, so
there is always a number to read (`word?_of_isDigits`).

The three agree on their common parts (`layouts_agree`): a date with a time is made of any date and
any time, and holds them at fixed places.
-/

namespace Vetting

namespace Clock

open Regex Regex.Expr Address

/-! ## Layouts -/

/-- The number of 32 bits that decimal digits spell out, behind a plus sign or without one. -/
def word? (cs : List Char) : Option Nat :=
  let digits := if cs.head? = some '+' then cs.tail else cs
  if digits ≠ [] ∧ digits.all Char.isDigit ∧ number digits < 2 ^ 32 then some (number digits)
  else none

/-- The number in a group, or the fallback if there is none to read. -/
def field (fallback : Nat) (texts : Captured) (index : Nat) : Nat :=
  ((texts.lookup index).bind word?).getD fallback

/-- A pattern with groups for numbers, and the bounds on them. -/
structure Layout where
  pattern : String
  inBounds : (Nat → Nat) → Bool

/-- Whether a text has the layout and its numbers are in their bounds. -/
def Layout.accepts (layout : Layout) (fallback : Nat) (s : String) : Bool :=
  match Regex.parse layout.pattern false with
  | .error _ => false
  | .ok regex =>
    match regex.pattern.captures? s with
    | none => false
    | some groups => layout.inBounds (field fallback (Filled.texts s.toList groups))

def dateInBounds (month day : Nat) (field : Nat → Nat) : Bool :=
  field month < 13 && field day < 32

def timeInBounds (hour : Nat) (field : Nat → Nat) : Bool :=
  field hour < 24 && field (hour + 1) < 60 && field (hour + 2) < 60

def dateLayout : Layout where
  pattern := "^([0-9]\x7b4\x7d)-([0-9]\x7b2\x7d)-([0-9]\x7b2\x7d)$"
  inBounds := dateInBounds 2 3

def timeLayout : Layout where
  pattern := "^([0-9]\x7b2\x7d):([0-9]\x7b2\x7d):([0-9]\x7b2\x7d)$"
  inBounds := timeInBounds 1

def datetimeLayout : Layout where
  pattern := "^([0-9]\x7b4\x7d)-([0-9]\x7b2\x7d)-([0-9]\x7b2\x7d)[\\s|T]?" ++
    "([0-9]\x7b2\x7d):([0-9]\x7b2\x7d):([0-9]\x7b2\x7d)(?:.[0-9]\x7b1,3\x7d)?Z?$"
  inBounds field := dateInBounds 2 3 field && timeInBounds 4 field

/-! ## Reading a group -/

variable {width index fallback min max : Nat} {mark : Char} {w : List Char} {texts : Captured}
  {s : String} {es : List Pattern} {layout : Layout}

theorem ofDigitChars_lt {value : Nat} (hw : ∀ d ∈ w, d.isDigit = true) :
    Nat.ofDigitChars 10 w value < (value + 1) * 10 ^ w.length := by
  induction w generalizing value with
  | nil =>
    rw [Nat.ofDigitChars_nil, List.length_nil, Nat.pow_zero, Nat.mul_one]
    exact Nat.lt_succ_self value
  | cons d w ih =>
    obtain ⟨hd, hrest⟩ := List.forall_mem_cons.1 hw
    have hdigit : d.toNat - '0'.toNat ≤ 9 := Nat.sub_le_sub_right (isDigit_iff.1 hd).2 0x30
    rw [Nat.ofDigitChars_cons, List.length_cons]
    calc Nat.ofDigitChars 10 w (10 * value + (d.toNat - '0'.toNat))
        < (10 * value + (d.toNat - '0'.toNat) + 1) * 10 ^ w.length := ih hrest
      _ ≤ ((value + 1) * 10) * 10 ^ w.length := Nat.mul_le_mul_right _ (by omega)
      _ = (value + 1) * 10 ^ (w.length + 1) := by rw [Nat.mul_assoc, Nat.pow_succ']

/-- Up to nine digits always spell out a number of 32 bits. -/
theorem word?_of_isDigits (h : IsDigits width w) (hpos : 0 < width) (hle : width ≤ 9) :
    word? w = some (number w) := by
  obtain ⟨d, more, hw, hd⟩ := h.startsWithDigit hpos []
  rw [List.append_nil] at hw
  have hne : w ≠ [] := hw ▸ List.cons_ne_nil d more
  have hplus : w.head? ≠ some '+' := by
    rw [hw, List.head?_cons]
    rintro ⟨⟩
    exact absurd hd (by decide)
  have hlt : number w < 2 ^ 32 := by
    calc number w < (0 + 1) * 10 ^ w.length := ofDigitChars_lt h.2
      _ = 10 ^ width := by rw [Nat.zero_add, Nat.one_mul, h.1]
      _ ≤ 10 ^ 9 := Nat.pow_le_pow_right (by decide) hle
      _ < 2 ^ 32 := by decide
  rw [word?, if_neg hplus, if_pos ⟨hne, List.all_eq_true.2 h.2, hlt⟩]

theorem field_eq_number (htexts : texts.lookup index = some w) (h : IsDigits 2 w) :
    field fallback texts index = number w := by
  rw [field, htexts, Option.bind_some, word?_of_isDigits h Nat.two_pos (by decide),
    Option.getD_some]

/-- A layout accepts the texts that its pattern spells and for which a condition holds, if its
bounds come down to this condition however the groups are filled. -/
theorem accepts_iff_of_captures (es : List Pattern) {P : Prop}
    (hparse : (Regex.parse layout.pattern false).toOption.map Regex.pattern =
      some (anchored es))
    (hes : ∀ e ∈ es, e.isLookFree = true)
    (h : ∀ texts, (seqAll es).Captures s.toList texts →
      (layout.inBounds (field fallback texts) = true ↔ P)) :
    layout.accepts fallback s = true ↔ (seqAll es).Spells s.toList ∧ P := by
  rw [Layout.accepts]
  cases hregex : Regex.parse layout.pattern false with
  | error fault =>
    rw [hregex] at hparse
    cases hparse
  | ok regex =>
    rw [hregex] at hparse
    obtain hpattern : regex.pattern = anchored es := Option.some.inj hparse
    dsimp only
    rw [hpattern]
    cases hgroups : (anchored es).captures? s with
    | none =>
      exact iff_of_false Bool.false_ne_true
        fun hspells => (captures?_anchored_eq_none_iff hes).1 hgroups hspells.1
    | some groups =>
      have hcaptures := captures_of_captures? hes hgroups
      rw [and_iff_right (exists_captures_iff.1 ⟨_, hcaptures⟩)]
      exact h _ hcaptures

/-! ## What the layouts spell -/

/-- Digits in a group of their own. -/
def numberField (index width : Nat) : Pattern := .group index (times (digits '0' '9') width width)

/-- Three groups of digits with a mark between them. -/
def fields (index : Nat) (mark : Char) (width : Nat) : List Pattern :=
  [numberField index width, char mark, numberField (index + 1) 2, char mark,
    numberField (index + 2) 2]

/-- White space, a bar or a `T`, or nothing. -/
def separator : Pattern :=
  opt (.chars (.union Unicode.blank (.union (.single '|') (.union (.single 'T') .empty))))

/-- A fraction and a `Z`, or one of them, or nothing. -/
def ending : List Pattern := [opt (.seq anyChar (times (digits '0' '9') 1 3)), opt (char 'Z')]

theorem spells_times_digits (h : min ≤ max) : (times (digits '0' '9') min max).Spells w ↔
    (min ≤ w.length ∧ w.length ≤ max) ∧ ∀ d ∈ w, d.isDigit = true := by
  have hdigit : ∀ d : Char, (CharSet.range '0' '9').contains d = true ↔ d.isDigit = true := by
    intro d
    simp [CharSet.range, isDigit_iff]
  rw [times, digits, spells_rep_chars, allowed_some h]
  simp only [hdigit]

theorem captures_numberField :
    (numberField index width).Captures w texts ↔ IsDigits width w ∧ texts = [(index, w)] := by
  rw [numberField, captures_group rfl, spells_times_digits (Nat.le_refl width), IsDigits,
    ← Nat.le_antisymm_iff, eq_comm (a := width)]

theorem captures_mark_cons : (seqAll (char mark :: es)).Captures w texts ↔
    ∃ v, w = mark :: v ∧ (seqAll es).Captures v texts := by
  simp only [captures_seqAll_cons, captures_iff_spells (e := char mark) rfl, spells_char]
  constructor
  · rintro ⟨_, v, _, rest, rfl, ⟨rfl, rfl⟩, h, rfl⟩
    exact ⟨v, rfl, by rwa [List.append_nil]⟩
  · rintro ⟨v, rfl, h⟩
    exact ⟨[mark], v, [], texts, rfl, ⟨rfl, rfl⟩, h, (List.append_nil texts).symm⟩

theorem captures_number_cons : (seqAll (numberField index width :: es)).Captures w texts ↔
    ∃ a v rest, IsDigits width a ∧ (seqAll es).Captures v rest ∧ w = a ++ v ∧
      texts = rest ++ [(index, a)] := by
  simp only [captures_seqAll_cons, captures_numberField]
  constructor
  · rintro ⟨a, v, _, rest, rfl, ⟨ha, rfl⟩, h, rfl⟩
    exact ⟨a, v, rest, ha, h, rfl, rfl⟩
  · rintro ⟨a, v, rest, ha, h, rfl, rfl⟩
    exact ⟨a, v, _, rest, rfl, ⟨ha, rfl⟩, h, rfl⟩

/-- Three groups of digits hold what stands between the marks. -/
theorem captures_fields : (seqAll (fields index mark width)).Captures w texts ↔
    ∃ a b c, IsDigits width a ∧ IsDigits 2 b ∧ IsDigits 2 c ∧ w = a ++ mark :: (b ++ mark :: c) ∧
      texts = [(index + 2, c), (index + 1, b), (index, a)] := by
  constructor
  · intro h
    obtain ⟨a, _, _, ha, hfirst, rfl, rfl⟩ := captures_number_cons.1 h
    obtain ⟨_, rfl, hmiddle⟩ := captures_mark_cons.1 hfirst
    obtain ⟨b, _, _, hb, hsecond, rfl, rfl⟩ := captures_number_cons.1 hmiddle
    obtain ⟨c, rfl, hlast⟩ := captures_mark_cons.1 hsecond
    obtain ⟨hc, rfl⟩ := captures_numberField.1 hlast
    exact ⟨a, b, c, ha, hb, hc, rfl, rfl⟩
  · rintro ⟨a, b, c, ha, hb, hc, rfl, rfl⟩
    have hlast : (seqAll [numberField (index + 2) 2]).Captures c [(index + 2, c)] :=
      captures_numberField.2 ⟨hc, rfl⟩
    have hmiddle : (seqAll [numberField (index + 1) 2, char mark,
        numberField (index + 2) 2]).Captures (b ++ mark :: c) [(index + 2, c), (index + 1, b)] :=
      captures_number_cons.2 ⟨b, _, _, hb, captures_mark_cons.2 ⟨c, rfl, hlast⟩, rfl, rfl⟩
    exact captures_number_cons.2
      ⟨a, _, _, ha, captures_mark_cons.2 ⟨_, rfl, hmiddle⟩, rfl, rfl⟩

theorem captures_separator :
    separator.Captures w texts ↔ Separator IsMark w ∧ texts = [] := by
  have hmark : ∀ c : Char, (CharSet.union Unicode.blank (.union (.single '|') (.union (.single 'T')
      .empty))).contains c = true ↔ IsMark c := by
    intro c
    have hunion : ∀ a b : CharSet, (CharSet.union a b).contains c = true ↔
        a.contains c = true ∨ b.contains c = true := fun a b => Bool.or_eq_true_iff
    simp [hunion, CharSet.empty, IsMark, IsBlank, or_comm (a := c = '|')]
  rw [captures_iff_spells rfl, separator, spells_opt]
  refine and_congr_left fun _ => ⟨?_, fun h => ?_⟩
  · rintro (rfl | ⟨c, hc, rfl⟩)
    · exact .none
    · exact .mark ((hmark c).1 hc)
  · cases h with
    | none => exact Or.inl rfl
    | mark hc => exact Or.inr ⟨_, (hmark _).2 hc, rfl⟩

theorem captures_ending : (seqAll ending).Captures w texts ↔ Ending IsPoint w ∧ texts = [] := by
  have hpoint : ∀ c : Char, (CharSet.compl (.single '\n')).contains c = true ↔ IsPoint c := by
    intro c
    rw [IsPoint, Ne, ← CharSet.contains_single_iff, Bool.not_eq_true, ← Bool.not_eq_true']
    rfl
  rw [captures_iff_spells rfl]
  refine and_congr_left fun _ => ⟨?_, fun h => ?_⟩
  · rintro ⟨fraction, zone, rfl, hfraction, hzone⟩
    have hzones := (spells_opt.1 hzone).imp_right spells_char.1
    rcases spells_opt.1 hfraction with rfl | ⟨_, digits, rfl, ⟨c, hc, rfl⟩, hdigits⟩
    · exact .whole hzones
    · obtain ⟨⟨hpos, hle⟩, hall⟩ := (spells_times_digits (by decide)).1 hdigits
      exact .fraction ((hpoint c).1 hc) hpos hle hall hzones
  · cases h with
    | whole hzone =>
      have hzones := spells_opt.2 (hzone.imp_right spells_char.2)
      exact ⟨[], w, rfl, spells_opt.2 (Or.inl rfl), hzones⟩
    | fraction hc hpos hle hdigits hzone =>
      have hdigits := (spells_times_digits (by decide)).2 ⟨⟨hpos, hle⟩, hdigits⟩
      have hzones := spells_opt.2 (hzone.imp_right spells_char.2)
      exact ⟨_ :: _, _, rfl,
        spells_opt.2 (Or.inr ⟨[_], _, rfl, ⟨_, (hpoint _).2 hc, rfl⟩, hdigits⟩), hzones⟩

/-! ## Readers and layouts -/

/-- The pattern of a date with a time. -/
def datetimeParts : List Pattern := fields 1 '-' 4 ++ separator :: (fields 4 ':' 2 ++ ending)

theorem captures_datetimeParts : (seqAll datetimeParts).Captures w texts ↔
    ∃ date between time behind dateTexts timeTexts,
      (seqAll (fields 1 '-' 4)).Captures date dateTexts ∧ Separator IsMark between ∧
      (seqAll (fields 4 ':' 2)).Captures time timeTexts ∧ Ending IsPoint behind ∧
      w = date ++ (between ++ (time ++ behind)) ∧ texts = timeTexts ++ dateTexts := by
  rw [datetimeParts, captures_seqAll_append]
  constructor
  · rintro ⟨date, _, dateTexts, _, rfl, hdate, h, rfl⟩
    obtain ⟨between, _, _, _, rfl, hbetween, hrest, rfl⟩ := captures_seqAll_cons.1 h
    obtain ⟨time, behind, timeTexts, _, rfl, htime, hbehind, rfl⟩ := captures_seqAll_append.1 hrest
    obtain ⟨hseparator, rfl⟩ := captures_separator.1 hbetween
    obtain ⟨hending, rfl⟩ := captures_ending.1 hbehind
    exact ⟨date, between, time, behind, dateTexts, timeTexts, hdate, hseparator, htime, hending,
      rfl, by rw [List.nil_append, List.append_nil]⟩
  · rintro ⟨date, between, time, behind, dateTexts, timeTexts, hdate, hseparator, htime, hending,
      rfl, rfl⟩
    have hrest := captures_seqAll_append.2 ⟨time, behind, timeTexts, [], rfl, htime,
      captures_ending.2 ⟨hending, rfl⟩, rfl⟩
    have h := captures_seqAll_cons.2 ⟨between, _, [], _, rfl,
      captures_separator.2 ⟨hseparator, rfl⟩, hrest, rfl⟩
    exact ⟨date, _, dateTexts, _, rfl, hdate, h, by rw [List.nil_append, List.append_nil]⟩

theorem dateInBounds_eq_true_iff {month day : Nat} {months days : List Char}
    (hmonths : texts.lookup month = some months) (hmonth : IsDigits 2 months)
    (hdays : texts.lookup day = some days) (hday : IsDigits 2 days) :
    dateInBounds month day (field fallback texts) = true ↔
      number months ≤ 12 ∧ number days ≤ 31 := by
  rw [dateInBounds, field_eq_number hmonths hmonth, field_eq_number hdays hday, Bool.and_eq_true,
    decide_eq_true_iff, decide_eq_true_iff, Nat.lt_succ_iff, Nat.lt_succ_iff]

theorem timeInBounds_eq_true_iff {hour : Nat} {hours minutes seconds : List Char}
    (hhours : texts.lookup hour = some hours) (hhour : IsDigits 2 hours)
    (hminutes : texts.lookup (hour + 1) = some minutes) (hminute : IsDigits 2 minutes)
    (hseconds : texts.lookup (hour + 2) = some seconds) (hsecond : IsDigits 2 seconds) :
    timeInBounds hour (field fallback texts) = true ↔
      number hours < 24 ∧ number minutes < 60 ∧ number seconds < 60 := by
  rw [timeInBounds, field_eq_number hhours hhour, field_eq_number hminutes hminute,
    field_eq_number hseconds hsecond, Bool.and_eq_true, Bool.and_eq_true, decide_eq_true_iff,
    decide_eq_true_iff, decide_eq_true_iff, and_assoc]

/-- **The layout of a date accepts the dates**, whatever stands for a number that cannot be read. -/
theorem dateLayout_accepts_iff : dateLayout.accepts fallback s = true ↔ IsDate s.toList := by
  have hparse : (Regex.parse dateLayout.pattern false).toOption.map Regex.pattern =
      some (anchored (fields 1 '-' 4)) := by decide +kernel
  rw [accepts_iff_of_captures (fields 1 '-' 4) (P := IsDate s.toList) hparse (by decide),
    ← exists_captures_iff, and_iff_right_iff_imp]
  · rintro h
    generalize s.toList = cs at h
    obtain ⟨hyear, hmonth, hday, -, -⟩ := h
    exact ⟨_, captures_fields.2 ⟨_, _, _, hyear, hmonth, hday, rfl, rfl⟩⟩
  · intro texts htexts
    obtain ⟨year, month, day, hyear, hmonth, hday, hs, rfl⟩ := captures_fields.1 htexts
    rw [hs, isDate_iff_of_digits hyear hmonth hday]
    exact dateInBounds_eq_true_iff rfl hmonth rfl hday

theorem timeLayout_accepts_iff : timeLayout.accepts fallback s = true ↔ IsTime s.toList := by
  have hparse : (Regex.parse timeLayout.pattern false).toOption.map Regex.pattern =
      some (anchored (fields 1 ':' 2)) := by decide +kernel
  rw [accepts_iff_of_captures (fields 1 ':' 2) (P := IsTime s.toList) hparse (by decide),
    ← exists_captures_iff, and_iff_right_iff_imp]
  · rintro h
    generalize s.toList = cs at h
    obtain ⟨hhour, hminute, hsecond, -, -, -⟩ := h
    exact ⟨_, captures_fields.2 ⟨_, _, _, hhour, hminute, hsecond, rfl, rfl⟩⟩
  · intro texts htexts
    obtain ⟨hour, minute, second, hhour, hminute, hsecond, hs, rfl⟩ := captures_fields.1 htexts
    rw [hs, isTime_iff_of_digits hhour hminute hsecond]
    exact timeInBounds_eq_true_iff rfl hhour rfl hminute rfl hsecond

theorem datetimeLayout_accepts_iff :
    datetimeLayout.accepts fallback s = true ↔ Joined IsMark IsPoint s.toList := by
  have hparse : (Regex.parse datetimeLayout.pattern false).toOption.map Regex.pattern =
      some (anchored datetimeParts) := by decide +kernel
  rw [accepts_iff_of_captures datetimeParts (P := Joined IsMark IsPoint s.toList) hparse
    (by decide), ← exists_captures_iff, and_iff_right_iff_imp]
  · rintro h
    generalize s.toList = cs at h
    obtain ⟨hdate, hseparator, htime, hending⟩ := h
    obtain ⟨hyear, hmonth, hday, -, -⟩ := hdate
    obtain ⟨hhour, hminute, hsecond, -, -, -⟩ := htime
    exact ⟨_, captures_datetimeParts.2 ⟨_, _, _, _, _, _,
      captures_fields.2 ⟨_, _, _, hyear, hmonth, hday, rfl, rfl⟩, hseparator,
      captures_fields.2 ⟨_, _, _, hhour, hminute, hsecond, rfl, rfl⟩, hending, rfl, rfl⟩⟩
  · intro texts htexts
    obtain ⟨_, between, _, behind, _, _, hdate, hseparator, htime, hending, hs, rfl⟩ :=
      captures_datetimeParts.1 htexts
    obtain ⟨year, month, day, hyear, hmonth, hday, rfl, rfl⟩ := captures_fields.1 hdate
    obtain ⟨hour, minute, second, hhour, hminute, hsecond, rfl, rfl⟩ := captures_fields.1 htime
    have hbounds : ∀ f, datetimeLayout.inBounds f = true ↔
        dateInBounds 2 3 f = true ∧ timeInBounds 4 f = true := fun f => Bool.and_eq_true_iff
    have hdates : (year ++ '-' :: (month ++ '-' :: day)).length = 10 := by
      simp only [List.length_append, List.length_cons, hyear.1, hmonth.1, hday.1]
    have htimes : (hour ++ ':' :: (minute ++ ':' :: second)).length = 8 := by
      simp only [List.length_append, List.length_cons, hhour.1, hminute.1, hsecond.1]
    rw [hs, joined_iff_of_lengths hdates hseparator htimes (hhour.startsWithDigit Nat.two_pos _)
      hending, isDate_iff_of_digits hyear hmonth hday, isTime_iff_of_digits hhour hminute hsecond,
      hbounds]
    exact and_congr (dateInBounds_eq_true_iff rfl hmonth rfl hday)
      (timeInBounds_eq_true_iff rfl hhour rfl hminute rfl hsecond)

/-! ## Common parts -/

/-- What stands behind the first ten characters, without a separator. -/
def afterDate (cs : List Char) : List Char :=
  if cs[10]?.any Char.isDigit then cs.drop 10 else cs.drop 11

theorem afterDate_of_parts {date between rest : List Char} (hdate : IsDate date)
    (hseparator : Separator IsMark between) (hrest : StartsWithDigit rest) :
    afterDate (date ++ (between ++ rest)) = rest := by
  have hhead : (date ++ (between ++ rest))[10]? = (between ++ rest).head? := by
    rw [← hdate.length_eq, List.getElem?_append_right (Nat.le_refl _), Nat.sub_self,
      List.head?_eq_getElem?]
  have hdrop : ∀ n, (date ++ (between ++ rest)).drop (10 + n) = (between ++ rest).drop n := by
    intro n
    rw [← hdate.length_eq, ← List.drop_drop, List.drop_left]
  rw [afterDate, hhead]
  cases hseparator with
  | none =>
    obtain ⟨d, more, rfl, hd⟩ := hrest
    rw [List.nil_append, List.head?_cons, Option.any_some, if_pos hd]
    exact hdrop 0
  | mark hc =>
    rw [List.singleton_append, List.head?_cons, Option.any_some,
      if_neg (Bool.eq_false_iff.1 hc.isDigit_eq_false)]
    exact hdrop 1

/-- **Dates, times and dates with times agree on their parts.**  A date and a time with nothing, a
`T` or one white space between them and nothing, a `Z`, or a fraction of one to three digits with a
`Z` or without one behind them are a date with a time.  Any date with a time holds a date in its
first ten characters, and a time in the next eight but for one that is no digit.  Dates are the
texts `YYYY-MM-DD` with at most 12 months and 31 days, and times the texts `HH:MM:SS` with less
than 24 hours, 60 minutes and 60 seconds.  Looking for the numbers in the groups of a pattern gives
the same answers, whatever is taken for a number that cannot be read. -/
theorem layouts_agree :
    (∀ date between time behind : String, Builtin.date.validate (.text date) = .valid →
      Builtin.time.validate (.text time) = .valid → Separator IsBlankOrT between.toList →
      Ending IsFullStop behind.toList →
      Builtin.datetime.validate (.text (date ++ between ++ time ++ behind)) = .valid) ∧
    (∀ t : String, Builtin.datetime.validate (.text t) = .valid →
      Builtin.date.validate (.text (String.ofList (t.toList.take 10))) = .valid ∧
      Builtin.time.validate (.text (String.ofList ((afterDate t.toList).take 8))) = .valid) ∧
    (∀ t : String, Builtin.date.validate (.text t) = .valid ↔ IsDate t.toList) ∧
    (∀ t : String, Builtin.time.validate (.text t) = .valid ↔ IsTime t.toList) ∧
    ∀ (fallback : Nat) (t : String),
      (Builtin.date.validate (.text t) = .valid ↔ dateLayout.accepts fallback t = true) ∧
      (Builtin.time.validate (.text t) = .valid ↔ timeLayout.accepts fallback t = true) ∧
      (Builtin.datetime.validate (.text t) = .valid ↔
        datetimeLayout.accepts fallback t = true) := by
  refine ⟨?joins, ?parts, fun _ => validate_date_eq_valid_iff, fun _ => validate_time_eq_valid_iff,
    fun fallback t => ⟨?_, ?_, ?_⟩⟩
  case joins =>
    intro date between time behind hdate htime hseparator hending
    rw [validate_datetime_eq_valid_iff]
    simp only [String.toList_append, List.append_assoc]
    exact .intro (validate_date_eq_valid_iff.1 hdate) (hseparator.mono fun _ => IsBlankOrT.isMark)
      (validate_time_eq_valid_iff.1 htime) (hending.mono fun _ => IsFullStop.isPoint)
  case parts =>
    intro t h
    rw [validate_datetime_eq_valid_iff] at h
    rw [validate_date_eq_valid_iff, validate_time_eq_valid_iff, String.toList_ofList,
      String.toList_ofList]
    generalize t.toList = cs at h
    obtain @⟨date, separator, time, ending, hdate, hseparator, htime, -⟩ := h
    have hdigit : StartsWithDigit (time ++ ending) := by
      obtain ⟨d, more, rfl, hd⟩ := htime.startsWithDigit
      exact ⟨d, more ++ ending, rfl, hd⟩
    rw [afterDate_of_parts hdate hseparator hdigit, List.take_left' hdate.length_eq,
      List.take_left' htime.length_eq]
    exact ⟨hdate, htime⟩
  · rw [validate_date_eq_valid_iff, dateLayout_accepts_iff]
  · rw [validate_time_eq_valid_iff, timeLayout_accepts_iff]
  · rw [validate_datetime_eq_valid_iff, datetimeLayout_accepts_iff]

/-- A wide space and a fraction between and behind the parts, and a bar and a comma. -/
theorem layouts_agree_last_second :
    Builtin.date.validate (.text "2001-12-31") = .valid ∧
    Builtin.time.validate (.text "23:59:59") = .valid ∧
    Separator IsBlankOrT "\u3000".toList ∧ Ending IsFullStop ".123Z".toList ∧
    Builtin.datetime.validate (.text ("2001-12-31" ++ "\u3000" ++ "23:59:59" ++ ".123Z")) = .valid ∧
    Builtin.datetime.validate (.text "2001-12-31|23:59:59,5") = .valid ∧
    Builtin.date.validate
      (.text (String.ofList ("2001-12-31|23:59:59,5".toList.take 10))) = .valid ∧
    Builtin.time.validate
      (.text (String.ofList ((afterDate "2001-12-31|23:59:59,5".toList).take 8))) = .valid := by
  have hdate : Builtin.date.validate (.text "2001-12-31") = .valid := by decide +kernel
  have htime : Builtin.time.validate (.text "23:59:59") = .valid := by decide +kernel
  have hseparator : Separator IsBlankOrT "\u3000".toList := .mark (Or.inl rfl)
  have hending : Ending IsFullStop ('.' :: (['1', '2', '3'] ++ ['Z'])) :=
    .fraction rfl (by decide) (by decide) (List.all_eq_true.1 rfl) (Or.inr rfl)
  have hbar : Builtin.datetime.validate (.text "2001-12-31|23:59:59,5") = .valid := by
    decide +kernel
  obtain ⟨hjoins, hparts, -⟩ := layouts_agree
  obtain ⟨hfirst, hnext⟩ := hparts _ hbar
  exact ⟨hdate, htime, hseparator, hending,
    hjoins "2001-12-31" "\u3000" "23:59:59" ".123Z" hdate htime hseparator hending, hbar, hfirst,
    hnext⟩

end Clock

end Vetting
