import Vetting.Proofs.Check.Address
import Vetting.Proofs.Regex.CaseFold
import Vetting.Proofs.Regex.Walk

/-!
# Dotted hosts

URLs and mail addresses hold a dotted host: two labels or more with full stops between them, each a
letter or digit and any number of letters, digits, underscores and hyphens.  The patterns ignore
case, so a label may hold any character that is equal to one of these but for case, and that takes
in two characters beyond ASCII.

A mail address ends with such a host, and so the whole host counts (`email_isMatch_iff`).  A URL
only starts with one, and what comes behind the first character of the second label does not matter
(`spellsStart_dottedHost_iff`).
-/

namespace Vetting

namespace Address

open Regex Regex.Expr

variable {c : Char} {w text : List Char} {s : String}

/-! ## Labels -/

/-- A letter or digit, but for case. -/
def IsLabelStart (c : Char) : Prop :=
  ∃ d, EqButCase d c ∧ (('A' ≤ d ∧ d ≤ 'Z') ∨ ('0' ≤ d ∧ d ≤ '9'))

/-- A letter, digit, underscore or hyphen, but for case. -/
def IsLabelRest (c : Char) : Prop :=
  ∃ d, EqButCase d c ∧ (('A' ≤ d ∧ d ≤ 'Z') ∨ ('0' ≤ d ∧ d ≤ '9') ∨ d = '_' ∨ d = '-')

/-- A character that can start a label, and any number of others. -/
inductive IsLabel : List Char → Prop
  | intro {first : Char} {rest : List Char} (hfirst : IsLabelStart first)
      (hrest : ∀ c ∈ rest, IsLabelRest c) : IsLabel (first :: rest)

theorem contains_labelStart :
    (CharSet.anyCase (.ranges [(0x41, 0x5a), (0x30, 0x39)])).contains c = true ↔
      IsLabelStart c := by
  rw [CharSet.contains_anyCase_iff (CharSet.isOfChars_ranges (by decide))]
  refine exists_congr fun d => and_congr Iff.rfl ?_
  simp only [contains_ranges_cons, contains_ranges_nil, Bool.false_eq_true, or_false]
  rfl

theorem contains_labelRest : (CharSet.anyCase
    (.ranges [(0x41, 0x5a), (0x30, 0x39), (0x5f, 0x5f), (0x2d, 0x2d)])).contains c = true ↔
      IsLabelRest c := by
  rw [CharSet.contains_anyCase_iff (CharSet.isOfChars_ranges (by decide))]
  refine exists_congr fun d => and_congr Iff.rfl ?_
  simp only [contains_ranges_cons, contains_ranges_nil, Bool.false_eq_true, or_false]
  exact or_congr Iff.rfl
    (or_congr Iff.rfl (or_congr (toNat_between_iff d '_') (toNat_between_iff d '-')))

theorem spells_label : label.Spells w ↔ IsLabel w := by
  constructor
  · rintro ⟨_, rest, rfl, ⟨first, hfirst, rfl⟩, hrest⟩
    exact .intro (contains_labelStart.1 hfirst)
      fun c hc => contains_labelRest.1 ((spells_rep_chars.1 hrest).2 c hc)
  · rintro ⟨hfirst, hrest⟩
    refine ⟨[_], _, rfl, ⟨_, contains_labelStart.2 hfirst, rfl⟩, spells_rep_chars.2 ⟨?_, ?_⟩⟩
    · exact allowed_none.2 (Nat.zero_le _)
    · exact fun c hc => contains_labelRest.2 (hrest c hc)

/-! ## Dotted hosts -/

/-- Two or more labels with full stops between them. -/
def IsDottedHost (w : List Char) : Prop :=
  ∃ labels, 2 ≤ labels.length ∧ (∀ label ∈ labels, IsLabel label) ∧ w = ['.'].intercalate labels

/-- A label, a full stop and the first character of another label stand at the start. -/
inductive StartsWithHost : List Char → Prop
  | intro {label rest : List Char} {next : Char} (hlabel : IsLabel label)
      (hnext : IsLabelStart next) : StartsWithHost (label ++ '.' :: next :: rest)

theorem spells_dotLabel {part : List Char} :
    (seq (char '.') label).Spells part ↔ ∃ host, IsLabel host ∧ part = '.' :: host := by
  constructor
  · rintro ⟨_, host, rfl, hdot, hhost⟩
    rw [spells_char.1 hdot]
    exact ⟨host, spells_label.1 hhost, rfl⟩
  · rintro ⟨host, hhost, rfl⟩
    exact ⟨['.'], host, rfl, spells_char.2 rfl, spells_label.2 hhost⟩

theorem spells_dottedHost : dottedHost.Spells w ↔ IsDottedHost w := by
  constructor
  · rintro ⟨first, _, rfl, hfirst, hrest⟩
    obtain ⟨labels, hlength, hlabels, rfl⟩ := (spells_rep fun _ => spells_dotLabel).1 hrest
    refine ⟨first :: labels, Nat.succ_le_succ (allowed_none.1 hlength), ?_,
      (intercalate_cons '.' first labels).symm⟩
    exact List.forall_mem_cons.2 ⟨spells_label.1 hfirst, hlabels⟩
  · rintro ⟨labels, hlength, hlabels, rfl⟩
    match labels, hlength, hlabels with
    | first :: labels, hlength, hlabels =>
      obtain ⟨hfirst, hrest⟩ := List.forall_mem_cons.1 hlabels
      rw [intercalate_cons]
      refine ⟨first, _, rfl, spells_label.2 hfirst, (spells_rep fun _ => spells_dotLabel).2 ?_⟩
      exact ⟨labels, allowed_none.2 (Nat.le_of_succ_le_succ hlength), hrest, rfl⟩

/-- **How a host goes on behind the first character of its second label does not matter.** -/
theorem spellsStart_dottedHost_iff : dottedHost.SpellsStart text ↔ StartsWithHost text := by
  constructor
  · rintro ⟨w, hw, rest, rfl⟩
    obtain ⟨labels, hlength, hlabels, rfl⟩ := spells_dottedHost.1 hw
    match labels, hlength, hlabels with
    | first :: second :: labels, _, hlabels =>
      obtain ⟨hfirst, hlabels⟩ := List.forall_mem_cons.1 hlabels
      obtain ⟨hnext, -⟩ := (List.forall_mem_cons.1 hlabels).1
      rw [intercalate_cons, List.flatMap_cons]
      simp only [List.append_assoc, List.cons_append]
      exact .intro hfirst hnext
  · rintro ⟨hlabel, hnext⟩
    rename_i label rest next
    refine ⟨label ++ ['.', next], spells_dottedHost.2 ⟨[label, [next]], Nat.le_refl 2, ?_, ?_⟩,
      rest, ?_⟩
    · exact List.forall_mem_cons.2 ⟨hlabel, List.forall_mem_singleton.2
        (.intro hnext (List.forall_mem_nil _))⟩
    · rw [List.intercalate_cons_cons, List.intercalate_singleton, List.append_assoc]
      rfl
    · rw [List.append_assoc]
      rfl

/-! ## Mail -/

/-- **A mail address ends with an at sign and a dotted host, whatever stands before them.** -/
theorem email_isMatch_iff :
    email.isMatch s = true ↔ ∃ name host, s.toList = name ++ '@' :: host ∧ IsDottedHost host := by
  have hat : ∀ before w after, (char '@').Matches before w after ↔ w = ['@'] :=
    fun before w after => (matches_iff_spells rfl before w after).trans spells_char
  have hhost : ∀ before w after, dottedHost.Matches before w after ↔ IsDottedHost w :=
    fun before w after => (matches_iff_spells rfl before w after).trans spells_dottedHost
  rw [isMatch_eq_true_iff, email]
  simp only [matches_seqAll_cons, hat, hhost]
  constructor
  · rintro ⟨name, _, after, hs, _, _, rfl, rfl, host, _, rfl, hdotted, _, _, rfl, ⟨rfl, hend⟩, hnil⟩
    cases hnil
    obtain rfl : after = [] := List.head?_eq_none_iff.1 (Option.isNone_iff_eq_none.1 hend)
    refine ⟨name, host, ?_, hdotted⟩
    rw [hs]
    simp only [List.append_nil, List.singleton_append]
  · rintro ⟨name, host, hs, hdotted⟩
    refine ⟨name, '@' :: host, [], by rw [hs, List.append_nil], ['@'], host, rfl, rfl, host, [],
      (List.append_nil host).symm, hdotted, [], [], rfl, ⟨rfl, rfl⟩, rfl⟩

end Address

end Vetting
