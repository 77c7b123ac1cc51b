import Mathlib.Data.List.Chain
import Vetting.Regex.CharSet

/-!
# Equal but for case

The variants of a character are found by searching the table of runs from two sides: forwards for
the character it folds to, and backwards for all that fold to the same.  `mem_caseVariants_iff`
says that both searches together give what is meant, the characters with the same fold.

This rests on three properties of the table.  No character stands in two runs, since the runs are
in ascending order (`eq_of_contains`).  No run leads below zero (`foldRuns_above_zero`).  And what
a character folds to stands in no run (`foldChar_foldChar`): the images of a run lie outside every
other run, or between the members of one with gaps (`FoldRun.misses`).
-/

namespace Vetting

namespace Regex

variable {run other : FoldRun} {c d : Nat}

/-! ## The table -/

/-- One run ends before the other starts, which is not empty. -/
def FoldRun.Precedes (run other : FoldRun) : Prop :=
  run.last < other.first ∧ other.first ≤ other.last

instance : IsTrans FoldRun FoldRun.Precedes where
  trans _ _ _ h h' := ⟨Nat.lt_of_lt_of_le (Nat.lt_of_lt_of_le h.1 h.2) (Nat.le_of_lt h'.1), h'.2⟩

instance : DecidableRel FoldRun.Precedes := fun _ _ => inferInstanceAs (Decidable (_ ∧ _))

theorem foldRuns_ascending : foldRuns.Pairwise FoldRun.Precedes := by
  have hchain : foldRuns.IsChain FoldRun.Precedes := by decide +kernel
  exact hchain.pairwise

theorem foldRuns_above_zero : ∀ run ∈ foldRuns, 0 < run.first ∧ 0 ≤ run.first + run.distance := by
  decide +kernel

/-- Whether the images of a run lie outside of another one, or between its members. -/
def FoldRun.misses (run other : FoldRun) : Bool :=
  Nat.blt (run.image run.last) other.first || Nat.blt other.last (run.image run.first) ||
    (Nat.beq other.stride 2 && (Nat.beq run.stride 2 || Nat.beq run.first run.last) &&
      Nat.beq ((run.image run.first + other.first) % 2) 1)

theorem foldRuns_miss : ∀ run ∈ foldRuns, ∀ other ∈ foldRuns, run.misses other = true := by
  have hall : (foldRuns.all fun run => foldRuns.all fun other => run.misses other) = true := by
    decide +kernel
  simpa only [List.all_eq_true] using hall

/-! ## Members and images -/

theorem FoldRun.contains_iff :
    run.contains c = true ↔ run.first ≤ c ∧ c ≤ run.last ∧ (c - run.first) % run.stride = 0 := by
  rw [contains, Bool.and_eq_true, Bool.and_eq_true, decide_eq_true_iff, decide_eq_true_iff,
    beq_iff_eq, and_assoc]

/-- **No character stands in two runs.** -/
theorem eq_of_contains (hrun : run ∈ foldRuns) (hother : other ∈ foldRuns)
    (hc : run.contains c = true) (hc' : other.contains c = true) : run = other := by
  have hapart : foldRuns.Pairwise fun run other =>
      ¬ (run.contains c = true ∧ other.contains c = true) := by
    refine foldRuns_ascending.imp fun {run other} hprecedes ⟨h, h'⟩ => ?_
    obtain ⟨-, hlast, -⟩ := FoldRun.contains_iff.1 h
    obtain ⟨hfirst, -, -⟩ := FoldRun.contains_iff.1 h'
    exact absurd (Nat.le_trans hfirst hlast) (Nat.not_le_of_lt hprecedes.1)
  by_contra hne
  have : Std.Symm fun run other : FoldRun =>
      ¬ (run.contains c = true ∧ other.contains c = true) := ⟨fun _ _ h h' => h h'.symm⟩
  exact hapart.forall hrun hother hne ⟨hc, hc'⟩

/-- The images of a run are as far apart as its members. -/
theorem image_eq (hrun : run ∈ foldRuns) (hc : run.contains c = true) :
    (run.image c : Int) = c + run.distance := by
  obtain ⟨-, hzero⟩ := foldRuns_above_zero run hrun
  obtain ⟨hfirst, -, -⟩ := FoldRun.contains_iff.1 hc
  rw [FoldRun.image]
  omega

/-- **What a run leads to stands in no run.** -/
theorem not_contains_image (hrun : run ∈ foldRuns) (hother : other ∈ foldRuns)
    (hc : run.contains c = true) : other.contains (run.image c) = false := by
  obtain ⟨-, hzero⟩ := foldRuns_above_zero run hrun
  have himage := image_eq hrun hc
  obtain ⟨hfirst, hlast, hstride⟩ := FoldRun.contains_iff.1 hc
  have hlow : (run.image run.first : Int) = run.first + run.distance := by
    rw [FoldRun.image]
    omega
  have hhigh : (run.image run.last : Int) = run.last + run.distance := by
    rw [FoldRun.image]
    omega
  have hmisses := foldRuns_miss run hrun other hother
  rw [FoldRun.misses, Bool.or_eq_true, Bool.or_eq_true, Bool.and_eq_true, Bool.and_eq_true,
    Bool.or_eq_true, Nat.blt_eq, Nat.blt_eq, Nat.beq_eq, Nat.beq_eq, Nat.beq_eq, Nat.beq_eq]
    at hmisses
  rw [Bool.eq_false_iff]
  intro hcontains
  obtain ⟨hfirst', hlast', hstride'⟩ := FoldRun.contains_iff.1 hcontains
  rcases hmisses with (hbefore | hbehind) | ⟨⟨hgaps', hgaps⟩, hodd⟩
  · omega
  · omega
  · rw [hgaps'] at hstride'
    rcases hgaps with hgaps | hsingle
    · rw [hgaps] at hstride
      omega
    · omega

/-! ## Folding -/

theorem foldChar_of_contains (hrun : run ∈ foldRuns) (hc : run.contains c = true) :
    foldChar c = run.image c := by
  rw [foldChar]
  cases hfound : foldRuns.find? fun run => run.contains c with
  | none => exact absurd hc (List.find?_eq_none.1 hfound run hrun)
  | some found =>
    have hmem := List.mem_of_find?_eq_some hfound
    have hcontains := List.find?_some hfound
    rw [eq_of_contains hrun hmem hc hcontains]

theorem foldChar_of_not_contains (h : ∀ run ∈ foldRuns, run.contains c = false) :
    foldChar c = c := by
  have hnone : (foldRuns.find? fun run => run.contains c) = none :=
    List.find?_eq_none.2 fun run hrun => Bool.eq_false_iff.1 (h run hrun)
  rw [foldChar, hnone]

theorem contains_or_not_contains (c : Nat) :
    (∃ run ∈ foldRuns, run.contains c = true) ∨ ∀ run ∈ foldRuns, run.contains c = false := by
  refine or_iff_not_imp_left.2 fun hnone run hrun => ?_
  exact Bool.eq_false_iff.2 fun hc => hnone ⟨run, hrun, hc⟩

/-- **A character that another one folds to folds to itself.** -/
@[simp] theorem foldChar_foldChar (c : Nat) : foldChar (foldChar c) = foldChar c := by
  rcases contains_or_not_contains c with ⟨run, hrun, hc⟩ | hnone
  · rw [foldChar_of_contains hrun hc]
    exact foldChar_of_not_contains fun other hother => not_contains_image hrun hother hc
  · rw [foldChar_of_not_contains hnone, foldChar_of_not_contains hnone]

theorem FoldRun.preimage?_eq_some_iff (hrun : run ∈ foldRuns) :
    run.preimage? c = some d ↔ run.contains d = true ∧ run.image d = c := by
  obtain ⟨hpos, -⟩ := foldRuns_above_zero run hrun
  rw [preimage?, Option.ite_none_right_eq_some, Option.some_inj]
  constructor
  · rintro ⟨hcontains, rfl⟩
    refine ⟨hcontains, ?_⟩
    have himage := image_eq hrun hcontains
    obtain ⟨hfirst, -, -⟩ := FoldRun.contains_iff.1 hcontains
    omega
  · rintro ⟨hcontains, rfl⟩
    have himage := image_eq hrun hcontains
    have hback : ((run.image d : Int) - run.distance).toNat = d := by omega
    rw [hback]
    exact ⟨hcontains, rfl⟩

/-- **The variants of a character are those that fold to the same.** -/
@[simp] theorem mem_caseVariants_iff : d ∈ caseVariants c ↔ foldChar d = foldChar c := by
  rw [caseVariants, List.mem_cons, List.mem_filterMap]
  constructor
  · rintro (rfl | ⟨run, hrun, hpreimage⟩)
    · exact foldChar_foldChar c
    · obtain ⟨hcontains, himage⟩ := (FoldRun.preimage?_eq_some_iff hrun).1 hpreimage
      rw [foldChar_of_contains hrun hcontains, himage]
  · intro h
    rcases contains_or_not_contains d with ⟨run, hrun, hd⟩ | hnone
    · rw [foldChar_of_contains hrun hd] at h
      exact Or.inr ⟨run, hrun, (FoldRun.preimage?_eq_some_iff hrun).2 ⟨hd, h⟩⟩
    · rw [foldChar_of_not_contains hnone] at h
      exact Or.inl h

/-! ## Characters and sets -/

/-- Two characters are equal but for case when they fold to the same. -/
def EqButCase (c d : Char) : Prop := foldChar c.toNat = foldChar d.toNat

instance : DecidableRel EqButCase := fun _ _ => inferInstanceAs (Decidable (_ = _))

theorem EqButCase.refl (c : Char) : EqButCase c c := rfl

theorem EqButCase.symm {c d : Char} (h : EqButCase c d) : EqButCase d c := Eq.symm h

/-- A small ASCII letter has a capital. -/
theorem exists_capital_of_small {c : Char} (h : 0x61 ≤ c.toNat ∧ c.toNat ≤ 0x7a) :
    ∃ d : Char, d.toNat = c.toNat - 0x20 ∧ EqButCase d c := by
  have hvalid : (c.toNat - 0x20).isValidChar := Or.inl (by omega)
  have hmem : (⟨0x41, 0x5a, 1, 0x20⟩ : FoldRun) ∈ foldRuns := List.mem_cons_self
  have hcontains : (⟨0x41, 0x5a, 1, 0x20⟩ : FoldRun).contains (c.toNat - 0x20) = true :=
    FoldRun.contains_iff.2 ⟨by dsimp only; omega, by dsimp only; omega, Nat.mod_one _⟩
  have hfold : foldChar (c.toNat - 0x20) = c.toNat := by
    have himage := image_eq hmem hcontains
    rw [foldChar_of_contains hmem hcontains]
    dsimp only at himage
    omega
  refine ⟨Char.ofNatAux _ hvalid, rfl, ?_⟩
  have hchar : (Char.ofNatAux (c.toNat - 0x20) hvalid).toNat = c.toNat - 0x20 := rfl
  rw [EqButCase, hchar, ← foldChar_foldChar, hfold]

namespace CharSet

/-- There are characters only in a set. -/
def IsOfChars (set : CharSet) : Prop := ∀ d, set.mem d = true → d.isValidChar

theorem isOfChars_ranges {rs : List (Nat × Nat)} (h : ∀ r ∈ rs, r.2 < 0xd800) :
    (ranges rs).IsOfChars := by
  intro d hd
  obtain ⟨r, hr, hin⟩ := List.any_eq_true.1 hd
  have hle : d ≤ r.2 := of_decide_eq_true (Bool.and_eq_true_iff.1 hin).2
  exact Or.inl (Nat.lt_of_le_of_lt hle (h r hr))

@[simp] theorem mem_single_iff {c : Char} {d : Nat} : (single c).mem d = true ↔ d = c.toNat := by
  rw [single, mem, List.any_cons, List.any_nil, Bool.or_false, Bool.and_eq_true,
    decide_eq_true_iff, decide_eq_true_iff, ← Nat.le_antisymm_iff, eq_comm]

@[simp] theorem contains_single_iff {c d : Char} : (single c).contains d = true ↔ d = c := by
  rw [contains, mem_single_iff, Char.toNat_inj]

theorem isOfChars_single (c : Char) : (single c).IsOfChars := by
  intro d hd
  obtain rfl := mem_single_iff.1 hd
  exact c.valid

/-- **Closing a set under case takes in what is equal to a member but for case.** -/
theorem contains_anyCase_iff {set : CharSet} (hset : set.IsOfChars) {c : Char} :
    (anyCase set).contains c = true ↔ ∃ d, EqButCase d c ∧ set.contains d = true := by
  rw [contains, mem, List.any_eq_true]
  simp only [mem_caseVariants_iff]
  constructor
  · rintro ⟨d, hfold, hd⟩
    have hchar : (Char.ofNatAux d (hset d hd)).toNat = d := rfl
    refine ⟨Char.ofNatAux d (hset d hd), ?_, ?_⟩
    · rw [EqButCase, hchar, hfold]
    · rw [contains, hchar, hd]
  · rintro ⟨d, hfold, hd⟩
    exact ⟨d.toNat, hfold, hd⟩

end CharSet

end Regex

end Vetting
