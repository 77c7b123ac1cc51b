import Vetting.Proofs.Check.Url

/-!
# The texts that pass for host names

A host name is a sequence of labels with full stops between them, and one more may stand at the
end.  The pattern takes a label apart into its last character and the others before it, which is
where its length and the places of its hyphens come from (`spells_hostLabel`); the last label is
written in a different way, but differs only in that it starts with a letter
(`spells_lastHostLabel`).

The labels of host names are labels of dotted hosts (`IsHostLabel.isLabel`), so a host name of two
labels is a dotted host and stands in a mail address and in a URL (`network_checks_accept_host`).
-/

namespace Vetting

namespace Address

open Regex Regex.Expr

variable {c : Char} {w : List Char} {s : String} {labels : List (List Char)}

/-! ## Labels -/

/-- A letter, digit or hyphen. -/
def IsHostChar (c : Char) : Prop := c.isAlphanum = true ∨ c = '-'

/-- One to 63 letters, digits and hyphens, with no hyphen at either end. -/
structure IsHostLabel (w : List Char) : Prop where
  length_pos : 1 ≤ w.length
  length_le : w.length ≤ 63
  isHostChar : ∀ c ∈ w, IsHostChar c
  head?_ne : w.head? ≠ some '-'
  getLast?_ne : w.getLast? ≠ some '-'

theorem contains_letter :
    (CharSet.ranges [(0x61, 0x7a), (0x41, 0x5a)]).contains c = true ↔ c.isAlpha = true := by
  simp [isAlpha_iff, or_comm]

theorem contains_letterOrDigit :
    (CharSet.ranges [(0x61, 0x7a), (0x41, 0x5a), (0x30, 0x39)]).contains c = true ↔
      c.isAlphanum = true := by
  simp only [contains_ranges_cons, contains_ranges_nil, Bool.false_eq_true, or_false,
    isAlphanum_iff]
  omega

theorem contains_letterDigitHyphen :
    (CharSet.ranges [(0x2d, 0x2d), (0x61, 0x7a), (0x41, 0x5a), (0x30, 0x39)]).contains c = true ↔
      IsHostChar c := by
  rw [contains_ranges_cons, contains_letterOrDigit, or_comm]
  exact or_congr Iff.rfl (toNat_between_iff c '-')

theorem ne_hyphen_of_isAlphanum (h : c.isAlphanum = true) : c ≠ '-' := by
  rintro rfl
  exact absurd h (by decide)

theorem isHostLabel_singleton : IsHostLabel [c] ↔ c.isAlphanum = true := by
  constructor
  · intro h
    exact (h.isHostChar c List.mem_cons_self).resolve_right fun hc => h.head?_ne (congrArg some hc)
  · intro h
    have hc : some c ≠ some '-' := fun heq => ne_hyphen_of_isAlphanum h (Option.some.inj heq)
    exact ⟨Nat.le_refl 1, Nat.le_of_ble_eq_true rfl, List.forall_mem_singleton.2 (Or.inl h), hc, hc⟩

/-- A label of two characters or more. -/
theorem isHostLabel_of_ends {first last : Char} {middle : List Char} :
    IsHostLabel (first :: (middle ++ [last])) ↔
      first.isAlphanum = true ∧ (middle.length ≤ 61 ∧ ∀ c ∈ middle, IsHostChar c) ∧
        last.isAlphanum = true := by
  have hlast : (first :: (middle ++ [last])).getLast? = some last := by
    rw [← List.cons_append, List.getLast?_concat]
  have hlength : (first :: (middle ++ [last])).length = middle.length + 2 := by
    rw [List.length_cons, List.length_append, List.length_singleton]
  have hmem : (∀ c ∈ first :: (middle ++ [last]), IsHostChar c) ↔
      IsHostChar first ∧ (∀ c ∈ middle, IsHostChar c) ∧ IsHostChar last := by
    rw [List.forall_mem_cons, List.forall_mem_append, List.forall_mem_singleton]
  constructor
  · rintro ⟨-, hle, hchars, hfirst, hend⟩
    obtain ⟨hfirst', hmiddle, hend'⟩ := hmem.1 hchars
    refine ⟨hfirst'.resolve_right fun h => hfirst (congrArg some h), ⟨by omega, hmiddle⟩, ?_⟩
    exact hend'.resolve_right fun h => hend (hlast.trans (congrArg some h))
  · rintro ⟨hfirst, ⟨hle, hmiddle⟩, hend⟩
    refine ⟨by omega, by omega, hmem.2 ⟨Or.inl hfirst, hmiddle, Or.inl hend⟩, ?_, ?_⟩
    · exact fun h => ne_hyphen_of_isAlphanum hfirst (Option.some.inj h)
    · exact fun h => ne_hyphen_of_isAlphanum hend (Option.some.inj (hlast.symm.trans h))

theorem singleton_or_ends (h : w ≠ []) :
    (∃ c, w = [c]) ∨ ∃ first middle last, w = first :: (middle ++ [last]) := by
  obtain ⟨first, rest, rfl⟩ := List.exists_cons_of_ne_nil h
  rcases List.eq_nil_or_concat rest with rfl | ⟨middle, last, rfl⟩
  · exact Or.inl ⟨first, rfl⟩
  · exact Or.inr ⟨first, middle, last, by rw [List.concat_eq_append]⟩

theorem spells_letterOrDigit : letterOrDigit.Spells w ↔ ∃ c, c.isAlphanum = true ∧ w = [c] :=
  exists_congr fun _ => and_congr_left fun _ => contains_letterOrDigit

theorem spells_letter : letter.Spells w ↔ ∃ c, c.isAlpha = true ∧ w = [c] :=
  exists_congr fun _ => and_congr_left fun _ => contains_letter

theorem spells_middle : (times letterDigitHyphen 0 61).Spells w ↔
    w.length ≤ 61 ∧ ∀ c ∈ w, IsHostChar c := by
  rw [times, letterDigitHyphen, spells_rep_chars, allowed_some (Nat.zero_le 61),
    and_iff_right (Nat.zero_le _)]
  simp only [contains_letterDigitHyphen]

/-- **A label is its last character, with up to 62 before it or none.** -/
theorem spells_hostLabel : hostLabel.Spells w ↔ IsHostLabel w := by
  constructor
  · rintro ⟨start, _, rfl, hstart, hend⟩
    obtain ⟨last, hlast, rfl⟩ := spells_letterOrDigit.1 hend
    rcases spells_opt.1 hstart with rfl | ⟨_, middle, rfl, hone, hmiddle⟩
    · exact isHostLabel_singleton.2 hlast
    · obtain ⟨first, hfirst, rfl⟩ := spells_letterOrDigit.1 hone
      exact isHostLabel_of_ends.2 ⟨hfirst, spells_middle.1 hmiddle, hlast⟩
  · intro h
    rcases singleton_or_ends (List.ne_nil_of_length_pos h.length_pos) with
      ⟨c, rfl⟩ | ⟨first, middle, last, rfl⟩
    · exact ⟨[], [c], rfl, spells_opt.2 (Or.inl rfl),
        spells_letterOrDigit.2 ⟨c, isHostLabel_singleton.1 h, rfl⟩⟩
    · obtain ⟨hfirst, hmiddle, hlast⟩ := isHostLabel_of_ends.1 h
      exact ⟨first :: middle, [last], rfl, spells_opt.2 (Or.inr ⟨[first], middle, rfl,
        spells_letterOrDigit.2 ⟨first, hfirst, rfl⟩, spells_middle.2 hmiddle⟩),
        spells_letterOrDigit.2 ⟨last, hlast, rfl⟩⟩

/-- **The last label is a label that starts with a letter.** -/
theorem spells_lastHostLabel : lastHostLabel.Spells w ↔
    IsHostLabel w ∧ ∃ c, w.head? = some c ∧ c.isAlpha = true := by
  have halphanum : ∀ c : Char, c.isAlpha = true → c.isAlphanum = true := fun c hc =>
    Bool.or_eq_true_iff.2 (Or.inl hc)
  constructor
  · rintro (⟨_, _, rfl, hone, middle, _, rfl, hmiddle, hend⟩ | h)
    · obtain ⟨first, hfirst, rfl⟩ := spells_letter.1 hone
      obtain ⟨last, hlast, rfl⟩ := spells_letterOrDigit.1 hend
      exact ⟨isHostLabel_of_ends.2 ⟨halphanum first hfirst, spells_middle.1 hmiddle, hlast⟩,
        first, rfl, hfirst⟩
    · obtain ⟨c, hc, rfl⟩ := spells_letter.1 h
      exact ⟨isHostLabel_singleton.2 (halphanum c hc), c, rfl, hc⟩
  · rintro ⟨h, c, hhead, hc⟩
    rcases singleton_or_ends (List.ne_nil_of_length_pos h.length_pos) with
      ⟨d, rfl⟩ | ⟨first, middle, last, rfl⟩
    · obtain rfl := Option.some.inj hhead
      exact Or.inr (spells_letter.2 ⟨d, hc, rfl⟩)
    · obtain rfl := Option.some.inj hhead
      obtain ⟨-, hmiddle, hlast⟩ := isHostLabel_of_ends.1 h
      exact Or.inl ⟨[first], _, rfl, spells_letter.2 ⟨first, hc, rfl⟩, middle, [last], rfl,
        spells_middle.2 hmiddle, spells_letterOrDigit.2 ⟨last, hlast, rfl⟩⟩

/-! ## Host names -/

/-- The labels of a host name: one or more, the last of which starts with a letter. -/
structure IsHost (labels : List (List Char)) : Prop where
  ne_nil : labels ≠ []
  isHostLabel : ∀ label ∈ labels, IsHostLabel label
  letter : ∀ last, labels.getLast? = some last → ∃ c, last.head? = some c ∧ c.isAlpha = true

/-- Labels with full stops between them, and one more at the end or not. -/
def IsHostname (w : List Char) : Prop :=
  ∃ labels, IsHost labels ∧
    (w = ['.'].intercalate labels ∨ w = ['.'].intercalate labels ++ ['.'])

theorem isHost_concat {last : List Char} : IsHost (labels ++ [last]) ↔
    (∀ label ∈ labels, IsHostLabel label) ∧ IsHostLabel last ∧
      ∃ c, last.head? = some c ∧ c.isAlpha = true := by
  constructor
  · rintro ⟨-, hlabels, hletter⟩
    obtain ⟨hlabels, hlast⟩ := List.forall_mem_append.1 hlabels
    exact ⟨hlabels, List.forall_mem_singleton.1 hlast, hletter last List.getLast?_concat⟩
  · rintro ⟨hlabels, hlast, hletter⟩
    refine ⟨List.concat_ne_nil last labels, List.forall_mem_append.2
      ⟨hlabels, List.forall_mem_singleton.2 hlast⟩, ?_⟩
    rintro _ hend
    obtain rfl := Option.some.inj (List.getLast?_concat.symm.trans hend)
    exact hletter

theorem spells_hostLabelDot {part : List Char} :
    (seq hostLabel (char '.')).Spells part ↔
      ∃ label, IsHostLabel label ∧ part = label ++ ['.'] := by
  constructor
  · rintro ⟨label, _, rfl, hlabel, hdot⟩
    exact ⟨label, spells_hostLabel.1 hlabel, by rw [spells_char.1 hdot]⟩
  · rintro ⟨label, hlabel, rfl⟩
    exact ⟨label, ['.'], rfl, spells_hostLabel.2 hlabel, spells_char.2 rfl⟩

theorem spells_hostLabels :
    (seq (Expr.star (seq hostLabel (char '.'))) lastHostLabel).Spells w ↔
      ∃ labels, IsHost labels ∧ w = ['.'].intercalate labels := by
  constructor
  · rintro ⟨_, last, rfl, hstart, hlast⟩
    obtain ⟨labels, -, hlabels, rfl⟩ := (spells_rep fun _ => spells_hostLabelDot).1 hstart
    exact ⟨labels ++ [last], isHost_concat.2 ⟨hlabels, spells_lastHostLabel.1 hlast⟩,
      (intercalate_concat '.' labels last).symm⟩
  · rintro ⟨labels, hhost, rfl⟩
    obtain ⟨labels, last, rfl⟩ := (List.eq_nil_or_concat' labels).resolve_left hhost.ne_nil
    obtain ⟨hlabels, hlast⟩ := isHost_concat.1 hhost
    rw [intercalate_concat]
    exact ⟨_, last, rfl, (spells_rep fun _ => spells_hostLabelDot).2
      ⟨labels, allowed_none.2 (Nat.zero_le _), hlabels, rfl⟩, spells_lastHostLabel.2 hlast⟩

theorem hostname_isMatch_iff : hostname.isMatch s = true ↔ IsHostname s.toList := by
  have hanchored : hostname = seqAll (Expr.look Look.textStart ::
      ([Expr.star (seq hostLabel (char '.')), lastHostLabel, opt (char '.')] ++
        [Expr.look Look.textEnd])) := rfl
  have hgrouped : ∀ w, (seqAll [Expr.star (seq hostLabel (char '.')), lastHostLabel,
      opt (char '.')]).Spells w ↔ (seq (seq (Expr.star (seq hostLabel (char '.'))) lastHostLabel)
        (opt (char '.'))).Spells w := fun _ => spells_seq_assoc
  rw [hanchored, isMatch_anchored_iff (by decide), hgrouped]
  constructor
  · rintro ⟨_, dot, hs, hlabels, hdot⟩
    obtain ⟨labels, hhost, rfl⟩ := spells_hostLabels.1 hlabels
    rcases spells_opt.1 hdot with rfl | hdot
    · exact ⟨labels, hhost, Or.inl (by rw [hs, List.append_nil])⟩
    · exact ⟨labels, hhost, Or.inr (by rw [hs, spells_char.1 hdot])⟩
  · rintro ⟨labels, hhost, hs | hs⟩
    · exact ⟨_, [], hs.trans (List.append_nil _).symm, spells_hostLabels.2 ⟨labels, hhost, rfl⟩,
        spells_opt.2 (Or.inl rfl)⟩
    · exact ⟨_, ['.'], hs, spells_hostLabels.2 ⟨labels, hhost, rfl⟩,
        spells_opt.2 (Or.inr (spells_char.2 rfl))⟩

theorem IsHostname.length_pos (h : IsHostname w) : 1 ≤ w.length := by
  obtain ⟨labels, hhost, hw⟩ := h
  obtain ⟨labels, last, rfl⟩ := (List.eq_nil_or_concat' labels).resolve_left hhost.ne_nil
  have hlast := (isHost_concat.1 hhost).2.1.length_pos
  rw [intercalate_concat] at hw
  rcases hw with rfl | rfl <;> simp only [List.length_append] <;> omega

theorem isHostname_eq_true_iff :
    isHostname s = true ↔ s.length ≤ 255 ∧ IsHostname s.toList := by
  rw [isHostname, Bool.and_eq_true, Bool.and_eq_true, decide_eq_true_iff, decide_eq_true_iff,
    hostname_isMatch_iff, and_assoc]
  exact and_iff_right_of_imp fun h => String.length_toList ▸ h.2.length_pos

/-- **A text passes for a host name when it has at most 255 characters and is, but for one full stop
at its end, a sequence of labels with full stops between them.** -/
theorem judge_hostname_eq_valid_iff (settings : Settings) (x : Value) :
    { Builtin.hostname with settings }.judge x = .valid ↔
      x.display.length ≤ 255 ∧ IsHostname x.display.toList := by
  have hfailure : { Builtin.hostname with settings }.check.failure? x =
      Check.hostname.passIf (isHostname x.display) Messages.defaultSlot := rfl
  rw [Validator.judge_eq_valid_iff, hfailure, Check.passIf_eq_none_iff, isHostname_eq_true_iff]

/-! ## Host names in addresses -/

theorem isLabelStart_of_isAlphanum (h : c.isAlphanum = true) : IsLabelStart c := by
  rcases isAlphanum_iff.1 h with (hcapital | hsmall) | hdigit
  · exact ⟨c, .refl c, Or.inl hcapital⟩
  · obtain ⟨d, hd, hcase⟩ := exists_capital_of_small hsmall
    have hcapital : 0x41 ≤ d.toNat ∧ d.toNat ≤ 0x5a := by omega
    exact ⟨d, hcase, Or.inl hcapital⟩
  · exact ⟨c, .refl c, Or.inr hdigit⟩

theorem isLabelRest_of_isHostChar (h : IsHostChar c) : IsLabelRest c := by
  rcases h with h | rfl
  · obtain ⟨d, hcase, hd⟩ := isLabelStart_of_isAlphanum h
    exact ⟨d, hcase, hd.imp_right Or.inl⟩
  · exact ⟨'-', .refl '-', Or.inr (Or.inr (Or.inr rfl))⟩

/-- **A label of a host name is a label of a dotted host.** -/
theorem IsHostLabel.isLabel (h : IsHostLabel w) : IsLabel w := by
  obtain ⟨first, rest, rfl⟩ := List.exists_cons_of_length_pos h.length_pos
  obtain ⟨hfirst, hrest⟩ := List.forall_mem_cons.1 h.isHostChar
  have halphanum := hfirst.resolve_right fun hc => h.head?_ne (congrArg some hc)
  exact .intro (isLabelStart_of_isAlphanum halphanum)
    fun c hc => isLabelRest_of_isHostChar (hrest c hc)

/-- No label holds a full stop. -/
theorem IsHostLabel.fullStop_notMem (h : IsHostLabel w) : '.' ∉ w := fun hmem =>
  (h.isHostChar '.' hmem).elim (by decide) (by decide)

/-- **A host name with no full stop at its end is a dotted host if it has two labels.** -/
theorem IsHostname.isDottedHost (h : IsHostname w) (hlabels : 2 ≤ (w.splitOn '.').length)
    (hend : w.getLast? ≠ some '.') : IsDottedHost w := by
  obtain ⟨labels, hhost, rfl | rfl⟩ := h
  · have hsplit : (['.'].intercalate labels).splitOn '.' = labels :=
      List.splitOn_intercalate '.' (fun l hl => (hhost.isHostLabel l hl).fullStop_notMem)
        hhost.ne_nil
    rw [hsplit] at hlabels
    exact ⟨labels, hlabels, fun l hl => (hhost.isHostLabel l hl).isLabel, rfl⟩
  · exact absurd List.getLast?_concat hend

theorem IsDottedHost.startsWithHost (h : IsDottedHost w) (rest : List Char) :
    StartsWithHost (w ++ rest) :=
  spellsStart_dottedHost_iff.1 ⟨w, spells_dottedHost.2 h, List.prefix_append w rest⟩

theorem validate_hostname_eq_valid_iff {text : String} :
    Builtin.hostname.validate (.text text) = .valid ↔ isHostname text = true := by
  rw [Validator.validate_eq_judge rfl, Validator.judge_eq_valid_iff]
  exact Check.passIf_eq_none_iff

theorem validate_email_eq_valid_iff {text : String} :
    Builtin.email.validate (.text text) = .valid ↔ email.isMatch text = true := by
  rw [Validator.validate_eq_judge rfl, Validator.judge_eq_valid_iff]
  exact Check.passIf_eq_none_iff

theorem validate_urlWith_eq_valid_iff {text : String} {schemes : List String}
    (hschemes : schemes ≠ []) {strict : Bool} :
    (Builtin.urlWith schemes strict (url schemes)).validate (.text text) = .valid ↔
      StartsWithUrl schemes text.toList ∨ (strict = false ∧ StartsWithHost text.toList) := by
  rw [Validator.validate_eq_judge rfl]
  exact judge_urlWith_eq_valid_iff hschemes strict _ (.text text)

/-- **A host name of two labels passes as the host of a mail address, of a URL of the web, and as a
URL without a scheme, whatever stands before and behind it.** -/
theorem network_checks_accept_host (host name rest : String)
    (hhost : Builtin.hostname.validate (.text host) = .valid)
    (hlabels : 2 ≤ (host.toList.splitOn '.').length) (hend : host.toList.getLast? ≠ some '.') :
    Builtin.email.validate (.text (name ++ "@" ++ host)) = .valid ∧
    Builtin.url.validate (.text ("http://" ++ host ++ rest)) = .valid ∧
    Builtin.url.validate (.text ("https://" ++ host ++ rest)) = .valid ∧
    (Builtin.UrlBuilder.withStrict {} false).validator.validate (.text (host ++ rest)) =
      .valid := by
  have hname := (isHostname_eq_true_iff.1 (validate_hostname_eq_valid_iff.1 hhost)).2
  have hdotted := hname.isDottedHost hlabels hend
  have hstart := hdotted.startsWithHost rest.toList
  have hscheme : ∀ scheme ∈ webSchemes, Builtin.url.validate
      (.text (scheme ++ "://" ++ host ++ rest)) = .valid := by
    intro scheme hmem
    refine (validate_urlWith_eq_valid_iff (List.cons_ne_nil _ _)).2 (Or.inl ?_)
    simp only [String.toList_append, List.append_assoc]
    exact .intro hmem (List.forall₂_same.2 fun c _ => .refl c) hstart
  refine ⟨?_, hscheme "http" (by decide), hscheme "https" (by decide), ?_⟩
  · rw [validate_email_eq_valid_iff, email_isMatch_iff]
    refine ⟨name.toList, host.toList, ?_, hdotted⟩
    simp only [String.toList_append, List.append_assoc]
    rfl
  · refine (validate_urlWith_eq_valid_iff (List.cons_ne_nil _ _)).2 (Or.inr ⟨rfl, ?_⟩)
    rwa [String.toList_append]

/-- Labels of one character and of several, with a hyphen, a digit first and both cases. -/
theorem network_checks_accept_host_mixed :
    Builtin.hostname.validate (.text "4-x.Y") = .valid ∧
    2 ≤ ("4-x.Y".toList.splitOn '.').length ∧ "4-x.Y".toList.getLast? ≠ some '.' ∧
    Builtin.email.validate (.text ("me" ++ "@" ++ "4-x.Y")) = .valid ∧
    Builtin.url.validate (.text ("http://" ++ "4-x.Y" ++ ":80")) = .valid ∧
    Builtin.url.validate (.text ("https://" ++ "4-x.Y" ++ ":80")) = .valid ∧
    (Builtin.UrlBuilder.withStrict {} false).validator.validate (.text ("4-x.Y" ++ ":80")) =
      .valid := by
  have hhost : Builtin.hostname.validate (.text "4-x.Y") = .valid := by decide +kernel
  have hlabels : 2 ≤ ("4-x.Y".toList.splitOn '.').length := by decide
  have hend : "4-x.Y".toList.getLast? ≠ some '.' := by decide
  exact ⟨hhost, hlabels, hend, network_checks_accept_host "4-x.Y" "me" ":80" hhost hlabels hend⟩

end Address

end Vetting
