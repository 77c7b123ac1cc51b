import Vetting.Proofs.Check.Hostname

/-!
# The domains of mail addresses

The pattern of the mail check is looked for anywhere in a text, but it has to reach the end, and
no label holds an at sign.  So it makes no difference which at sign the search comes to first: what
counts is what stands behind the last one (`isMatch_email_iff_endsWithDomain`).

That part is a dotted host, and its labels are compared but for case.  Case is that of all of
Unicode, where two letters beyond ASCII are variants of letters of ASCII: the long s and the Kelvin
sign.  These two, and no others, come in besides the letters and digits of ASCII
(`isLabelStart_iff`).  A domain is therefore not always plain ASCII
(`email_accepts_kelvin_sign`).

An alphabet is left open in `IsLabelOver` and `EndsWithDomain`, so that the domains that are
accepted and those of plain ASCII are told in the same words.
-/

namespace Vetting

namespace Address

open Regex Regex.Expr

variable {c : Char} {w text name domain : List Char} {s : String}

/-! ## The letters of labels -/

/-- A letter or digit of ASCII, the long s or the Kelvin sign. -/
def IsDomainLetter (c : Char) : Prop := c.isAlphanum = true ∨ c = '\u017f' ∨ c = '\u212a'

/-- The variants of the capitals and digits of ASCII, looked up in the table. -/
theorem caseVariants_of_capital_or_digit :
    ∀ n ∈ List.range' 0x41 26 ++ List.range' 0x30 10, ∀ m ∈ caseVariants n,
      (((0x41 ≤ m ∧ m ≤ 0x5a) ∨ (0x61 ≤ m ∧ m ≤ 0x7a)) ∨ (0x30 ≤ m ∧ m ≤ 0x39)) ∨
        m = 0x17f ∨ m = 0x212a := by
  decide +kernel

/-- What is equal to a character but for case is found among its variants. -/
theorem toNat_mem_caseVariants {d : Char} (h : EqButCase d c) :
    c.toNat ∈ caseVariants d.toNat := by
  rw [mem_caseVariants_iff]
  exact h.symm

/-- **Besides the letters and digits of ASCII there are two characters that start a label.** -/
theorem isLabelStart_iff : IsLabelStart c ↔ IsDomainLetter c := by
  constructor
  · rintro ⟨d, hcase, hd⟩
    have hrange : d.toNat ∈ List.range' 0x41 26 ++ List.range' 0x30 10 := by
      have hd : (0x41 ≤ d.toNat ∧ d.toNat ≤ 0x5a) ∨ (0x30 ≤ d.toNat ∧ d.toNat ≤ 0x39) := hd
      rw [List.mem_append, List.mem_range'_1, List.mem_range'_1]
      omega
    rcases caseVariants_of_capital_or_digit _ hrange _ (toNat_mem_caseVariants hcase) with
      halphanum | hlong | hkelvin
    · exact Or.inl (isAlphanum_iff.2 halphanum)
    · exact Or.inr (Or.inl (Char.toNat_inj.1 hlong))
    · exact Or.inr (Or.inr (Char.toNat_inj.1 hkelvin))
  · rintro (halphanum | rfl | rfl)
    · exact isLabelStart_of_isAlphanum halphanum
    · exact ⟨'S', by decide +kernel, by decide⟩
    · exact ⟨'K', by decide +kernel, by decide⟩

/-- The underscore and the hyphen have no variants. -/
theorem isLabelRest_iff : IsLabelRest c ↔ IsDomainLetter c ∨ c = '_' ∨ c = '-' := by
  have hmark : ∀ d : Char, caseVariants d.toNat = [d.toNat] → EqButCase d c → c = d := by
    intro d hvariants hcase
    have hmem := toNat_mem_caseVariants hcase
    rw [hvariants, List.mem_singleton] at hmem
    exact Char.toNat_inj.1 hmem
  rw [← isLabelStart_iff]
  constructor
  · rintro ⟨d, hcase, hcapital | hdigit | rfl | rfl⟩
    · exact Or.inl ⟨d, hcase, Or.inl hcapital⟩
    · exact Or.inl ⟨d, hcase, Or.inr hdigit⟩
    · exact Or.inr (Or.inl (hmark '_' (by decide +kernel) hcase))
    · exact Or.inr (Or.inr (hmark '-' (by decide +kernel) hcase))
  · rintro (⟨d, hcase, hd⟩ | rfl | rfl)
    · exact ⟨d, hcase, hd.imp_right Or.inl⟩
    · exact ⟨'_', .refl '_', by simp⟩
    · exact ⟨'-', .refl '-', by simp⟩

/-! ## Domains over an alphabet -/

section Alphabet

variable {letter : Char → Prop}

/-- A letter, and any number of letters, underscores and hyphens. -/
inductive IsLabelOver (letter : Char → Prop) : List Char → Prop
  | intro {first : Char} {rest : List Char} (hfirst : letter first)
      (hrest : ∀ c ∈ rest, letter c ∨ c = '_' ∨ c = '-') : IsLabelOver letter (first :: rest)

/-- Two or more labels with full stops between them. -/
def IsDomainOver (letter : Char → Prop) (w : List Char) : Prop :=
  ∃ labels, 2 ≤ labels.length ∧ (∀ label ∈ labels, IsLabelOver letter label) ∧
    w = ['.'].intercalate labels

/-- There is an at sign, and what stands behind the last one is a domain. -/
def EndsWithDomain (letter : Char → Prop) (text : List Char) : Prop :=
  ∃ name domain, text = name ++ '@' :: domain ∧ '@' ∉ domain ∧ IsDomainOver letter domain

theorem IsLabelOver.letter_or_mark (h : IsLabelOver letter w) (hc : c ∈ w) :
    letter c ∨ c = '_' ∨ c = '-' := by
  cases h with
  | intro hfirst hrest =>
    rcases List.mem_cons.1 hc with rfl | hc
    · exact Or.inl hfirst
    · exact hrest c hc

/-- The characters of a domain are those of its labels and full stops. -/
theorem IsDomainOver.letter_or_mark (h : IsDomainOver letter w) (hc : c ∈ w) :
    letter c ∨ c = '_' ∨ c = '-' ∨ c = '.' := by
  obtain ⟨labels, -, hlabels, rfl⟩ := h
  have hchar : ∀ label ∈ labels, c ∈ label → letter c ∨ c = '_' ∨ c = '-' ∨ c = '.' := by
    intro label hlabel hmem
    rcases (hlabels label hlabel).letter_or_mark hmem with hletter | hmark | hmark <;> simp [*]
  cases labels with
  | nil => simp at hc
  | cons first rest =>
    rw [intercalate_cons, List.mem_append, List.mem_flatMap] at hc
    rcases hc with hc | ⟨label, hlabel, hc⟩
    · exact hchar first List.mem_cons_self hc
    · rcases List.mem_cons.1 hc with rfl | hc
      · simp
      · exact hchar label (List.mem_cons_of_mem _ hlabel) hc

/-- What stands behind the last at sign is fixed by the text. -/
theorem eq_of_split_at_last {name' domain' : List Char}
    (h : name ++ '@' :: domain = name' ++ '@' :: domain') (hdomain : '@' ∉ domain)
    (hdomain' : '@' ∉ domain') : domain = domain' := by
  rcases List.append_eq_append_iff.1 h with ⟨more, -, hmore⟩ | ⟨more, -, hmore⟩
  · cases more with
    | nil => exact (List.cons.inj hmore).2
    | cons d more =>
      -- the first name would go on to an at sign inside of the first domain
      have hmem : '@' ∈ domain := by
        rw [(List.cons.inj hmore).2]
        simp
      exact absurd hmem hdomain
  · cases more with
    | nil => exact (List.cons.inj hmore).2.symm
    | cons d more =>
      have hmem : '@' ∈ domain' := by
        rw [(List.cons.inj hmore).2]
        simp
      exact absurd hmem hdomain'

end Alphabet

/-! ## The check -/

theorem isLabel_iff : IsLabel w ↔ IsLabelOver IsDomainLetter w := by
  constructor
  · rintro ⟨hfirst, hrest⟩
    exact .intro (isLabelStart_iff.1 hfirst) fun c hc => isLabelRest_iff.1 (hrest c hc)
  · rintro ⟨hfirst, hrest⟩
    exact .intro (isLabelStart_iff.2 hfirst) fun c hc => isLabelRest_iff.2 (hrest c hc)

theorem isDottedHost_iff : IsDottedHost w ↔ IsDomainOver IsDomainLetter w := by
  unfold IsDottedHost IsDomainOver
  simp only [isLabel_iff]

/-- No domain holds an at sign. -/
theorem IsDomainOver.at_notMem (h : IsDomainOver IsDomainLetter w) : '@' ∉ w := by
  intro hmem
  have hletter : ¬ IsDomainLetter '@' := by
    rintro (h | h | h)
    · exact absurd h (by decide)
    · exact absurd h (by decide)
    · exact absurd h (by decide)
  rcases h.letter_or_mark hmem with h | h | h | h
  · exact hletter h
  · exact absurd h (by decide)
  · exact absurd h (by decide)
  · exact absurd h (by decide)

/-- **A mail address is a text with an at sign and a domain behind the last one.** -/
theorem isMatch_email_iff_endsWithDomain :
    email.isMatch s = true ↔ EndsWithDomain IsDomainLetter s.toList := by
  rw [email_isMatch_iff]
  constructor
  · rintro ⟨name, domain, hs, hhost⟩
    have hdomain := isDottedHost_iff.1 hhost
    exact ⟨name, domain, hs, hdomain.at_notMem, hdomain⟩
  · rintro ⟨name, domain, hs, -, hdomain⟩
    exact ⟨name, domain, hs, isDottedHost_iff.2 hdomain⟩

/-- **A text passes for a mail address when two labels or more stand behind its last at sign, of
ASCII letters and digits, the long s and the Kelvin sign, and of underscores and hyphens but for the
first character.**  So the part behind the last at sign of an accepted text is ASCII but for these
two. -/
theorem judge_email_eq_valid_iff (settings : Settings) (x : Value) :
    ({ Builtin.email with settings }.judge x = .valid ↔
      EndsWithDomain IsDomainLetter x.display.toList) ∧
    ∀ name domain, x.display.toList = name ++ '@' :: domain → '@' ∉ domain →
      { Builtin.email with settings }.judge x = .valid →
        ∀ c ∈ domain, c.toNat < 0x80 ∨ c = '\u017f' ∨ c = '\u212a' := by
  have hvalid : { Builtin.email with settings }.judge x = .valid ↔
      EndsWithDomain IsDomainLetter x.display.toList := by
    have hfailure : { Builtin.email with settings }.check.failure? x =
        (Check.email email).passIf (email.isMatch x.display) Messages.defaultSlot := rfl
    rw [Validator.judge_eq_valid_iff, hfailure, Check.passIf_eq_none_iff,
      isMatch_email_iff_endsWithDomain]
  refine ⟨hvalid, ?_⟩
  intro name domain hx hat hjudge c hc
  obtain ⟨name', domain', hx', hat', hdomain⟩ := hvalid.1 hjudge
  obtain rfl := eq_of_split_at_last (hx.symm.trans hx') hat hat'
  rcases hdomain.letter_or_mark hc with (halphanum | hlong | hkelvin) | rfl | rfl | rfl
  · have hcode := isAlphanum_iff.1 halphanum
    exact Or.inl (by omega)
  · exact Or.inr (Or.inl hlong)
  · exact Or.inr (Or.inr hkelvin)
  · exact Or.inl (by decide)
  · exact Or.inl (by decide)
  · exact Or.inl (by decide)

/-- A second at sign in the name, and a domain with a digit, both marks and the long s. -/
theorem judge_email_eq_valid_iff_long_s :
    Builtin.email.judge (.text "a@b@1_-.\u017f") = .valid ∧
    "a@b@1_-.\u017f".toList = "a@b".toList ++ '@' :: "1_-.\u017f".toList ∧
    '@' ∉ "1_-.\u017f".toList ∧
    ∀ c ∈ "1_-.\u017f".toList, c.toNat < 0x80 ∨ c = '\u017f' ∨ c = '\u212a' := by
  obtain ⟨hvalid, hchars⟩ :=
    judge_email_eq_valid_iff Builtin.email.settings (.text "a@b@1_-.\u017f")
  have hsplit : "a@b@1_-.\u017f".toList = "a@b".toList ++ '@' :: "1_-.\u017f".toList := rfl
  have hat : '@' ∉ "1_-.\u017f".toList := by decide
  have hfirst : IsLabelOver IsDomainLetter ['1', '_', '-'] :=
    .intro (Or.inl (by decide)) (by simp)
  have hsecond : IsLabelOver IsDomainLetter ['\u017f'] :=
    .intro (Or.inr (Or.inl rfl)) (List.forall_mem_nil _)
  have hdomain : IsDomainOver IsDomainLetter "1_-.\u017f".toList :=
    ⟨[['1', '_', '-'], ['\u017f']], Nat.le_refl 2, by simp [hfirst, hsecond], rfl⟩
  have hjudge : Builtin.email.judge (.text "a@b@1_-.\u017f") = .valid :=
    hvalid.2 ⟨_, _, hsplit, hat, hdomain⟩
  exact ⟨hjudge, hsplit, hat, hchars _ _ hsplit hat hjudge⟩

/-- **The Kelvin sign is let through**, which is no letter of ASCII. -/
theorem email_accepts_kelvin_sign :
    Builtin.email.judge (.text "x@\u212a.com") = .valid ∧
    ¬ EndsWithDomain (fun c => c.isAlphanum = true) "x@\u212a.com".toList := by
  constructor
  · decide +kernel
  · rintro ⟨name, domain, hsplit, hat, hdomain⟩
    have hfirst : ['x'] ++ '@' :: "\u212a.com".toList = name ++ '@' :: domain := hsplit
    have hlast : "\u212a.com".toList = domain := eq_of_split_at_last hfirst (by decide) hat
    have hkelvin : '\u212a' ∈ domain := by
      rw [← hlast]
      decide
    rcases hdomain.letter_or_mark hkelvin with h | h | h | h
    · exact absurd h (by decide)
    · exact absurd h (by decide)
    · exact absurd h (by decide)
    · exact absurd h (by decide)

end Address

end Vetting
