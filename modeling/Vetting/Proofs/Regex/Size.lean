import Mathlib.Algebra.GroupWithZero.Nat
import Vetting.Check.Address
import Vetting.Regex.Size

/-!
# How large automata get

The automaton of a sequence and that of an alternation are at least as large as those of the parts
together, and a set takes a state at least.  So the automaton of a URL grows with its schemes: it is
at least as large as a state for each of their characters (`Address.le_size_url`), and the standard
engine refuses schemes that are too long together (`Address.standard_fits_url_eq_false`).
-/

namespace Vetting

namespace Regex

theorem one_le_byteCount (c : Nat) : 1 ≤ byteCount c := by
  unfold byteCount
  split
  · exact Nat.le_refl 1
  · split
    · decide
    · split <;> decide

theorem CharSet.stateSize_le_size (s : CharSet) : stateSize ≤ s.size := by
  unfold size
  split
  · exact Nat.le_mul_of_pos_right _ (one_le_byteCount _)
  · omega
  · omega

namespace Expr

/-- A sequence is at least as large as its parts together. -/
theorem sum_size_le_size_seqAll (es : List Pattern) :
    (es.map Expr.size).sum ≤ (seqAll es).size := by
  induction es with
  | nil => exact Nat.zero_le _
  | cons e rest ih =>
    rw [List.map_cons, List.sum_cons]
    cases rest with
    | nil => exact Nat.le_refl _
    | cons next rest => exact Nat.add_le_add_left ih _

/-- An alternation is at least as large as its branches together. -/
theorem sum_size_le_size_altAll (es : List Pattern) :
    (es.map Expr.size).sum ≤ (altAll es).size := by
  induction es with
  | nil => exact Nat.zero_le _
  | cons e rest ih =>
    rw [List.map_cons, List.sum_cons]
    cases rest with
    | nil => exact Nat.le_refl _
    | cons next rest =>
      rw [altAll, size, Nat.add_assoc]
      · exact Nat.le_trans (Nat.add_le_add_left ih _) (Nat.le_add_right _ _)
      · exact List.cons_ne_nil next rest

theorem size_le_size_opt (e : Pattern) : e.size ≤ (opt e).size := by
  have hmax : (if e.isZeroWidth = true then some (Nat.min 1 1) else some 1) = some 1 := by
    split <;> rfl
  simp only [opt, size, Option.getD_some, hmax, Nat.one_mul]
  omega

end Expr

end Regex

namespace Address

open Regex

theorem le_size_anyCaseText (s : String) : stateSize * s.length ≤ (anyCaseText s).size := by
  refine Nat.le_trans ?_ (Expr.sum_size_le_size_seqAll _)
  rw [List.map_map, ← String.length_toList]
  induction s.toList with
  | nil => exact Nat.le_refl _
  | cons c rest ih =>
    rw [List.length_cons, List.map_cons, List.sum_cons, Nat.mul_succ, Nat.add_comm]
    exact Nat.add_le_add (CharSet.stateSize_le_size _) ih

/-- **The automaton of a URL has a state for each character of its schemes.** -/
theorem le_size_url (schemes : List String) :
    stateSize * (schemes.map String.length).sum ≤ (url schemes).size := by
  have hschemes : stateSize * (schemes.map String.length).sum ≤
      (Expr.altAll (schemes.map anyCaseText)).size := by
    refine Nat.le_trans ?_ (Expr.sum_size_le_size_altAll _)
    rw [List.map_map]
    induction schemes with
    | nil => exact Nat.le_refl _
    | cons s rest ih =>
      rw [List.map_cons, List.map_cons, List.sum_cons, List.sum_cons, Nat.mul_add]
      exact Nat.add_le_add (le_size_anyCaseText s) ih
  have hpart : (Expr.altAll (schemes.map anyCaseText)).size ≤ (schemePart schemes).size := by
    rw [schemePart, Expr.size, Expr.size]
    omega
  have hurl : (Expr.opt (schemePart schemes)).size ≤ (url schemes).size := by
    refine Nat.le_trans ?_ (Expr.sum_size_le_size_seqAll _)
    simp only [List.map_cons, List.sum_cons]
    omega
  calc stateSize * (schemes.map String.length).sum
      ≤ (Expr.altAll (schemes.map anyCaseText)).size := hschemes
    _ ≤ (schemePart schemes).size := hpart
    _ ≤ (Expr.opt (schemePart schemes)).size := Expr.size_le_size_opt _
    _ ≤ (url schemes).size := hurl

/-- The standard engine refuses schemes that have too many characters together. -/
theorem standard_fits_url_eq_false {schemes : List String}
    (h : sizeLimit < stateSize * (schemes.map String.length).sum) :
    Engine.standard.fits (url schemes) = false :=
  decide_eq_false (Nat.not_le.2 (Nat.lt_of_lt_of_le h (le_size_url schemes)))

end Address

end Vetting
