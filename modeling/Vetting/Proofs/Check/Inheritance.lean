import Mathlib.Data.List.Infix
import Vetting.Proofs.Validator.Verdict
import Vetting.Validator.Builtin

/-!
# Inheritance

A class is told by the names from itself to its root, so inheriting is a matter of chains of names:
a class is another, or inherits from it, exactly when the chain of the other ends its own
(`Class.isA_iff_isSuffix`).  Names may occur twice in a chain and in unrelated classes; it takes the
whole chain to know a class again.

The order laws are then those of suffixes.  What lies above one class is a chain, since of two
suffixes of a list one is a suffix of the other.

A value is an instance of a class if its own class inherits from it, and is of a class name if its
own constructor is called so.  `Class.isA_order` puts the two beside each other.
-/

namespace Vetting

namespace Class

variable {a b c : Class} {root names : List String}

/-- A class is known by its chain. -/
@[simp] theorem chain_inj : a.chain = b.chain ↔ a = b := by
  cases a
  cases b
  rw [chain, chain, List.cons.injEq, mk.injEq]

/-- **Walking up a chain meets the suffixes of the chain**, all but the empty one. -/
theorem descends_iff_isSuffix (hroot : root ≠ []) :
    descends root names = true ↔ root <:+ names := by
  induction names with
  | nil => exact iff_of_false Bool.false_ne_true fun h => hroot (List.suffix_nil.1 h)
  | cons name ancestors ih =>
    rw [descends, Bool.or_eq_true, beq_iff_eq, ih, List.suffix_cons_iff, eq_comm]

theorem isA_iff_isSuffix : a.isA b = true ↔ b.chain <:+ a.chain :=
  descends_iff_isSuffix (List.cons_ne_nil b.name b.ancestors)

@[simp] theorem isA_self (a : Class) : a.isA a = true :=
  isA_iff_isSuffix.2 List.suffix_rfl

theorem isA_antisymm (hab : a.isA b = true) (hba : b.isA a = true) : a = b := by
  rw [isA_iff_isSuffix] at hab hba
  exact chain_inj.1 (hba.eq_of_length (Nat.le_antisymm hba.length_le hab.length_le))

theorem isA_trans (hab : a.isA b = true) (hbc : b.isA c = true) : a.isA c = true := by
  rw [isA_iff_isSuffix] at hab hbc ⊢
  exact hbc.trans hab

/-- Two ancestors of one class inherit one from the other. -/
theorem isA_or_isA (hab : a.isA b = true) (hac : a.isA c = true) :
    b.isA c = true ∨ c.isA b = true := by
  rw [isA_iff_isSuffix] at hab hac
  rw [isA_iff_isSuffix, isA_iff_isSuffix]
  exact List.suffix_or_suffix_of_suffix hac hab

end Class

/-! ## Instances -/

namespace ClassRef

variable {a b : Class} {x : Value} {fields : List (String × Value)}

theorem admits_exact_iff : (exact b).admits x = true ↔
    ∃ a fields, x = .object (.instanceOf a) fields ∧ a.isA b = true := by
  constructor
  · intro h
    cases x with
    | object prototype fields =>
      cases prototype with
      | instanceOf a => exact ⟨a, fields, rfl, h⟩
      | _ => cases h
    | _ => cases h
  · rintro ⟨a, fields, rfl, h⟩
    exact h

@[simp] theorem admits_named_iff {name : String} :
    (named name).admits x = true ↔ x.constructorName? = some name := by
  rw [admits, beq_iff_eq]

end ClassRef

namespace Builtin

variable {cls : ClassRef} {s : Settings} {x : Value}

theorem validate_instanceOf_eq_valid_iff :
    { instanceOf cls with settings := s }.validate x = .valid ↔
      (s.allowEmpty && x.isEmpty) = true ∨ cls.admits x = true := by
  have hfailure : (Check.instanceOf cls).failure? x = none ↔ cls.admits x = true := by
    rw [Check.failure?]
    split
    · exact iff_of_true rfl ‹_›
    · exact iff_of_false (Option.some_ne_none _) ‹_›
  rw [Validator.validate_eq_valid_iff, ← hfailure]
  rfl

end Builtin

namespace Class

open Builtin

/-- **Inheritance is a partial order, in which the classes above one class are in line.**  A class
inherits from another, or is it, exactly when the chain of the other is a suffix of its own.

A check for a class lets through what a check for one of its heirs lets through.  Unless it lets
an empty value pass unchecked, it lets through exactly the instances of the class and of its heirs,
and a check for a class name exactly what has a constructor of just this name.  So an instance of an
heir that is called otherwise passes the first and not the second. -/
theorem isA_order :
    (∀ a b : Class, a.isA b = true ↔ b.chain <:+ a.chain) ∧
    (∀ a : Class, a.isA a = true) ∧
    (∀ a b : Class, a.isA b = true → b.isA a = true → a = b) ∧
    (∀ a b c : Class, a.isA b = true → b.isA c = true → a.isA c = true) ∧
    (∀ a b c : Class, a.isA b = true → a.isA c = true → b.isA c = true ∨ c.isA b = true) ∧
    ∀ (s : Settings) (x : Value),
      let Accepts (cls : ClassRef) : Prop :=
        { instanceOf cls with settings := s }.validate x = .valid
      (∀ b c : Class, Accepts (.exact b) → b.isA c = true → Accepts (.exact c)) ∧
      ((s.allowEmpty && x.isEmpty) = false →
        (∀ b : Class, Accepts (.exact b) ↔
          ∃ a fields, x = .object (.instanceOf a) fields ∧ a.isA b = true) ∧
        (∀ name : String, Accepts (.named name) ↔ x.constructorName? = some name)) ∧
      ∀ (a b : Class) (fields : List (String × Value)), x = .object (.instanceOf a) fields →
        a.isA b = true → a.name ≠ b.name → Accepts (.exact b) ∧ ¬ Accepts (.named b.name) := by
  refine ⟨fun a b => isA_iff_isSuffix, isA_self, fun a b => isA_antisymm, fun a b c => isA_trans,
    fun a b c => isA_or_isA, fun s x => ?instances⟩
  case instances =>
    simp only [validate_instanceOf_eq_valid_iff, ClassRef.admits_exact_iff,
      ClassRef.admits_named_iff]
    refine ⟨?closed, ?exactly, ?heir⟩
    case closed =>
      rintro b c (hempty | ⟨a, fields, hx, hab⟩) hbc
      · exact Or.inl hempty
      · exact Or.inr ⟨a, fields, hx, isA_trans hab hbc⟩
    case exactly =>
      intro hchecked
      rw [hchecked]
      exact ⟨fun b => or_iff_right Bool.false_ne_true, fun name => or_iff_right Bool.false_ne_true⟩
    case heir =>
      rintro a b fields rfl hab hname
      refine ⟨Or.inr ⟨a, fields, rfl, hab⟩, ?_⟩
      rintro (hempty | hnamed)
      · -- an instance of a class counts as a value even without fields
        have hkept : (Value.object (.instanceOf a) fields).isEmpty = false := Bool.and_false _
        rw [hkept, Bool.and_false] at hempty
        cases hempty
      · exact hname (Option.some.inj hnamed)

/-- A chain in which a name occurs twice, and an heir of another name. -/
theorem isA_order_same_name :
    let node : Class := ⟨"Node", ["Object"]⟩
    let inner : Class := ⟨"Node", ["Node", "Object"]⟩
    let leaf : Class := ⟨"Leaf", ["Node", "Node", "Object"]⟩
    let accepts (cls : ClassRef) : Prop :=
      (instanceOf cls).validate (.object (.instanceOf leaf) []) = .valid
    leaf.isA inner = true ∧ inner.isA node = true ∧ leaf.isA node = true ∧
    node.isA inner = false ∧ accepts (.exact inner) ∧ accepts (.exact node) ∧
    ¬ accepts (.named "Node") ∧ accepts (.named "Leaf") := by
  intro node inner leaf accepts
  obtain ⟨hsuffix, -, -, htrans, -, hinstances⟩ := isA_order
  obtain ⟨hclosed, hexactly, hheir⟩ := hinstances (instanceOf (.exact inner)).settings
    (.object (.instanceOf leaf) [])
  have hleaf : leaf.isA inner = true := (hsuffix _ _).2 ⟨["Leaf"], rfl⟩
  have hinner : inner.isA node = true := (hsuffix _ _).2 ⟨["Node"], rfl⟩
  obtain ⟨haccepts, hnamed⟩ := hheir leaf inner [] rfl hleaf (by decide)
  exact ⟨hleaf, hinner, htrans _ _ _ hleaf hinner, by decide, haccepts,
    hclosed _ _ haccepts hinner, hnamed, ((hexactly rfl).2 "Leaf").2 rfl⟩

end Class

end Vetting
