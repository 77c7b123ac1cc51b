import Vetting.Check.Address
import Vetting.Proofs.Regex.Language

/-!
# What the building blocks of addresses spell

The patterns behind the checks of addresses are put together from characters, ranges of digits and
fixed texts.  Each of these spells what its name says, so that what a pattern spells can be worked
out block by block.
-/

namespace Vetting

namespace Address

open Regex Regex.Expr

variable {c first last : Char} {w : List Char} {s : String}

/-! ## Characters -/

theorem isDigit_iff : c.isDigit = true ↔ 0x30 ≤ c.toNat ∧ c.toNat ≤ 0x39 :=
  Bool.and_eq_true_iff.trans (and_congr decide_eq_true_iff decide_eq_true_iff)

theorem isAlpha_iff : c.isAlpha = true ↔
    (0x41 ≤ c.toNat ∧ c.toNat ≤ 0x5a) ∨ (0x61 ≤ c.toNat ∧ c.toNat ≤ 0x7a) := by
  have hupper : c.isUpper = true ↔ 0x41 ≤ c.toNat ∧ c.toNat ≤ 0x5a := decide_eq_true_iff
  have hlower : c.isLower = true ↔ 0x61 ≤ c.toNat ∧ c.toNat ≤ 0x7a :=
    Bool.and_eq_true_iff.trans (and_congr decide_eq_true_iff decide_eq_true_iff)
  have halpha : c.isAlpha = true ↔ c.isUpper = true ∨ c.isLower = true := Bool.or_eq_true_iff
  rw [halpha, hupper, hlower]

theorem isAlphanum_iff : c.isAlphanum = true ↔
    ((0x41 ≤ c.toNat ∧ c.toNat ≤ 0x5a) ∨ (0x61 ≤ c.toNat ∧ c.toNat ≤ 0x7a)) ∨
      (0x30 ≤ c.toNat ∧ c.toNat ≤ 0x39) := by
  have halphanum : c.isAlphanum = true ↔ c.isAlpha = true ∨ c.isDigit = true := Bool.or_eq_true_iff
  rw [halphanum, isAlpha_iff, isDigit_iff]

@[simp] theorem contains_ranges_nil : (CharSet.ranges []).contains c = false := rfl

@[simp] theorem contains_ranges_cons {lo hi : Nat} {rs : List (Nat × Nat)} :
    (CharSet.ranges ((lo, hi) :: rs)).contains c = true ↔
      (lo ≤ c.toNat ∧ c.toNat ≤ hi) ∨ (CharSet.ranges rs).contains c = true := by
  rw [CharSet.contains, CharSet.mem, List.any_cons, Bool.or_eq_true, Bool.and_eq_true,
    decide_eq_true_iff, decide_eq_true_iff]
  rfl

/-- A range of a single character. -/
theorem toNat_between_iff (c d : Char) : (d.toNat ≤ c.toNat ∧ c.toNat ≤ d.toNat) ↔ c = d := by
  rw [← Nat.le_antisymm_iff, Char.toNat_inj, eq_comm]

/-! ## Patterns -/

theorem spells_digits : (digits first last).Spells w ↔
    ∃ c : Char, (first.toNat ≤ c.toNat ∧ c.toNat ≤ last.toNat) ∧ w = [c] := by
  refine exists_congr fun c => and_congr_left fun _ => ?_
  simp [CharSet.range]

theorem spells_char : (char c).Spells w ↔ w = [c] := by
  have hdigits : (char c).Spells w ↔ (digits c c).Spells w := Iff.rfl
  rw [hdigits, spells_digits]
  simp only [toNat_between_iff, exists_eq_left]

theorem spells_literal : (literal s).Spells w ↔ w = s.toList := by
  rw [literal]
  induction s.toList generalizing w with
  | nil => rfl
  | cons c cs ih =>
    rw [List.map_cons, spells_seqAll_cons]
    simp only [spells_char, ih]
    constructor
    · rintro ⟨_, _, rfl, rfl, rfl⟩
      rfl
    · rintro rfl
      exact ⟨[c], cs, rfl, rfl, rfl⟩

/-- Groups with a mark between them are groups that a mark follows, and a last one. -/
theorem intercalate_concat (mark : Char) (groups : List (List Char)) (last : List Char) :
    [mark].intercalate (groups ++ [last]) = groups.flatMap (fun g => g ++ [mark]) ++ last := by
  induction groups with
  | nil => exact List.intercalate_singleton
  | cons g groups ih =>
    rw [List.cons_append, List.intercalate_cons_of_ne_nil (List.concat_ne_nil last groups), ih,
      List.flatMap_cons, List.append_assoc (g ++ [mark])]

/-- Groups with a mark between them are a first one, and groups that follow a mark. -/
theorem intercalate_cons (mark : Char) (first : List Char) (groups : List (List Char)) :
    [mark].intercalate (first :: groups) = first ++ groups.flatMap (fun g => mark :: g) := by
  induction groups generalizing first with
  | nil => rw [List.intercalate_singleton, List.flatMap_nil, List.append_nil]
  | cons g groups ih =>
    rw [List.intercalate_cons_cons, ih, List.flatMap_cons, List.append_assoc, List.cons_append,
      List.nil_append, List.cons_append]

end Address

end Vetting
