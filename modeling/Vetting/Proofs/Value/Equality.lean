import Vetting.Proofs.Nested
import Vetting.Value.Order

/-!
# Equality of values

Both ways to compare two values come to the same thing: the values are alike at the top, and their
members are equal in pairs (`Value.equal_iff_alike`, `Value.strictEqual_iff_alike`).  `Value.Alike`
says this for any relation between the members, so that it can be reversed, composed and carried
from one relation to another without looking at the comparisons again.

From there everything goes by induction over the members of a value (`Value.induction_members`).
The comparisons agree (`Value.strictEqual_eq_beq`), equality is symmetric and transitive, and a
value is equal to itself unless there is a NaN somewhere inside of it
(`Value.strictEqual_self_iff`).
-/

namespace Vetting

namespace Double

variable {x y z : Double}

/-- Numbers are equal where they have the same place on the extended line. -/
theorem beq_iff : (x == y) = true ↔ ∃ place, x.rank? = some place ∧ y.rank? = some place := by
  show equal x y = true ↔ _
  rw [equal]
  cases x.rank? with
  | none => simp
  | some i =>
    cases y.rank? with
    | none => simp
    | some j =>
      constructor
      · intro h
        exact ⟨i, rfl, congrArg some (eq_of_beq h).symm⟩
      · rintro ⟨place, ⟨⟩, ⟨⟩⟩
        exact beq_self_eq_true i

theorem beq_comm : (x == y) = true ↔ (y == x) = true := by
  rw [beq_iff, beq_iff]
  exact exists_congr fun _ => and_comm

theorem beq_trans (hxy : (x == y) = true) (hyz : (y == z) = true) : (x == z) = true := by
  obtain ⟨i, hx, hy⟩ := beq_iff.1 hxy
  obtain ⟨j, hy', hz⟩ := beq_iff.1 hyz
  have hij : i = j := Option.some.inj (hy.symm.trans hy')
  exact beq_iff.2 ⟨i, hx, hij ▸ hz⟩

/-- NaN is the only number that is not equal to itself. -/
theorem beq_self_iff : (x == x) = true ↔ x ≠ .nan := by
  rw [beq_iff]
  constructor
  · rintro ⟨place, hplace, -⟩ rfl
    cases hplace
  · intro hx
    cases x with
    | nan => exact absurd rfl hx
    | infinite s => exact ⟨_, rfl, rfl⟩
    | finite s u hu => exact ⟨_, rfl, rfl⟩

end Double

namespace Value

variable {R S : Value → Value → Prop} {a b c m x : Value}

/-! ## Members -/

/-- The items of an array and the values of the fields of an object. -/
def members : Value → List Value
  | .array items => items
  | .object _ fields => fields.map Prod.snd
  | _ => []

theorem sizeOf_lt_of_mem_members (h : m ∈ a.members) : sizeOf m < sizeOf a := by
  cases a with
  | array items =>
    have hlt := List.sizeOf_lt_of_mem (show m ∈ items from h)
    rw [array.sizeOf_spec]
    omega
  | object prototype fields =>
    obtain ⟨⟨key, value⟩, hfield, rfl⟩ := List.mem_map.1 h
    have hlt := List.sizeOf_lt_of_mem hfield
    rw [Prod.mk.sizeOf_spec] at hlt
    rw [object.sizeOf_spec]
    show sizeOf value < _
    omega
  | _ => cases h

/-- What holds of a value as soon as it holds of its members holds of every value. -/
theorem induction_members {motive : Value → Prop}
    (h : ∀ a, (∀ m ∈ a.members, motive m) → motive a) (a : Value) : motive a :=
  induction_of_members (fun _ _ => sizeOf_lt_of_mem_members) h a

/-- A value is another one, or it occurs inside of it at any depth. -/
abbrev Within (x a : Value) : Prop := Occurs members x a

/-! ## Values that are alike -/

/-- Two values of the same kind and shape, which are equal but for their members; these are related
in pairs, under the same keys in objects. -/
inductive Alike (R : Value → Value → Prop) : Value → Value → Prop
  | undefined : Alike R .undefined .undefined
  | null : Alike R .null .null
  | bool (b : Bool) : Alike R (.bool b) (.bool b)
  | number {x y : Double} (h : (x == y) = true) : Alike R (.number x) (.number y)
  | text (s : String) : Alike R (.text s) (.text s)
  | date (t : Instant) : Alike R (.date t) (.date t)
  | array {as bs : List Value} (h : List.Forall₂ R as bs) : Alike R (.array as) (.array bs)
  | object (prototype : Prototype) {as bs : List (String × Value)}
      (h : List.Forall₂ (fun f g => f.1 = g.1 ∧ R f.2 g.2) as bs) :
      Alike R (.object prototype as) (.object prototype bs)

@[simp] theorem alike_bool_iff {b c : Bool} : Alike R (.bool b) (.bool c) ↔ b = c :=
  ⟨fun h => by cases h; rfl, fun h => h ▸ .bool b⟩

@[simp] theorem alike_number_iff {x y : Double} :
    Alike R (.number x) (.number y) ↔ (x == y) = true :=
  ⟨fun h => by cases h; assumption, .number⟩

@[simp] theorem alike_text_iff {s t : String} : Alike R (.text s) (.text t) ↔ s = t :=
  ⟨fun h => by cases h; rfl, fun h => h ▸ .text s⟩

@[simp] theorem alike_date_iff {t u : Instant} : Alike R (.date t) (.date u) ↔ t = u :=
  ⟨fun h => by cases h; rfl, fun h => h ▸ .date t⟩

@[simp] theorem alike_array_iff {as bs : List Value} :
    Alike R (.array as) (.array bs) ↔ List.Forall₂ R as bs :=
  ⟨fun h => by cases h; assumption, .array⟩

@[simp] theorem alike_object_iff {p q : Prototype} {as bs : List (String × Value)} :
    Alike R (.object p as) (.object q bs) ↔
      p = q ∧ List.Forall₂ (fun f g => f.1 = g.1 ∧ R f.2 g.2) as bs := by
  constructor
  · rintro ⟨⟩
    exact ⟨rfl, by assumption⟩
  · rintro ⟨rfl, h⟩
    exact .object p h

/-- What relates the members may be weakened. -/
theorem Alike.mono (h : Alike R a b) (hRS : ∀ m ∈ a.members, ∀ n, R m n → S m n) :
    Alike S a b := by
  cases h with
  | undefined => exact .undefined
  | null => exact .null
  | bool b => exact .bool b
  | number h => exact .number h
  | text s => exact .text s
  | date t => exact .date t
  | array h => exact .array (forall₂_mono_of_mem h fun m hm n _ => hRS m hm n)
  | object prototype h =>
    refine .object prototype (forall₂_mono_of_mem h fun f hf g _ hfg => ?_)
    exact ⟨hfg.1, hRS _ (List.mem_map_of_mem hf) _ hfg.2⟩

theorem Alike.flip (h : Alike R a b) : Alike (flip R) b a := by
  cases h with
  | undefined => exact .undefined
  | null => exact .null
  | bool b => exact .bool b
  | number h => exact .number (Double.beq_comm.1 h)
  | text s => exact .text s
  | date t => exact .date t
  | array h => exact .array (List.Forall₂.flip h)
  | object prototype h =>
    refine .object prototype (List.Forall₂.flip (h.imp fun f g hfg => ?_))
    exact ⟨hfg.1.symm, hfg.2⟩

theorem Alike.trans (hab : Alike R a b) (hbc : Alike R b c)
    (htrans : ∀ m ∈ a.members, ∀ n o, R m n → R n o → R m o) : Alike R a c := by
  cases hab with
  | number hab =>
    cases hbc with
    | number hbc => exact .number (Double.beq_trans hab hbc)
  | array hab =>
    cases hbc with
    | array hbc => exact .array (forall₂_trans_of_mem hab hbc htrans)
  | object prototype hab =>
    cases hbc with
    | object _ hbc =>
      refine .object prototype (forall₂_trans_of_mem hab hbc fun f hf g h hfg hgh => ?_)
      exact ⟨hfg.1.trans hgh.1, htrans _ (List.mem_map_of_mem hf) _ _ hfg.2 hgh.2⟩
  | _ => exact hbc

/-- A value is alike to itself if its members are related to themselves, unless it is NaN. -/
theorem alike_self_iff : Alike R a a ↔ a ≠ .number .nan ∧ ∀ m ∈ a.members, R m m := by
  constructor
  · intro h
    cases h with
    | number hx =>
      refine ⟨fun h => Double.beq_self_iff.1 hx (Value.number.inj h), List.forall_mem_nil _⟩
    | array h => exact ⟨nofun, List.forall₂_same.1 h⟩
    | object prototype h =>
      refine ⟨nofun, List.forall_mem_map.2 fun f hf => ?_⟩
      exact (List.forall₂_same.1 h f hf).2
    | _ => exact ⟨nofun, List.forall_mem_nil _⟩
  · rintro ⟨hnan, hmembers⟩
    cases a with
    | undefined => exact .undefined
    | null => exact .null
    | bool b => exact .bool b
    | number x =>
      refine .number (Double.beq_self_iff.2 fun hx => hnan ?_)
      rw [hx]
    | text s => exact .text s
    | date t => exact .date t
    | array items => exact .array (List.forall₂_same.2 hmembers)
    | object prototype fields =>
      refine .object prototype (List.forall₂_same.2 fun f hf => ⟨rfl, ?_⟩)
      exact hmembers _ (List.mem_map_of_mem hf)

/-! ## The two comparisons -/

theorem equalItems_iff {as bs : List Value} :
    equalItems as bs = true ↔ List.Forall₂ (fun a b => equal a b = true) as bs := by
  induction as generalizing bs with
  | nil => cases bs <;> simp [equalItems]
  | cons a as ih => cases bs <;> simp [equalItems, ih]

theorem equalFields_iff {as bs : List (String × Value)} :
    equalFields as bs = true ↔
      List.Forall₂ (fun f g => f.1 = g.1 ∧ equal f.2 g.2 = true) as bs := by
  induction as generalizing bs with
  | nil => cases bs <;> simp [equalFields]
  | cons a as ih => cases bs <;> simp [equalFields, ih]

theorem strictEqualItems_iff {as bs : List Value} :
    as.length = bs.length ∧ strictEqualItems as bs = true ↔
      List.Forall₂ (fun a b => strictEqual a b = true) as bs := by
  induction as generalizing bs with
  | nil => cases bs <;> simp [strictEqualItems]
  | cons a as ih => cases bs <;> simp [strictEqualItems, ← ih, and_left_comm]

theorem strictEqualFields_iff {as bs : List (String × Value)} :
    as.length = bs.length ∧ strictEqualFields as bs = true ↔
      List.Forall₂ (fun f g => f.1 = g.1 ∧ strictEqual f.2 g.2 = true) as bs := by
  induction as generalizing bs with
  | nil => cases bs <;> simp [strictEqualFields]
  | cons a as ih => cases bs <;> simp [strictEqualFields, ← ih, and_left_comm]

/-- **Values are equal when they are alike and their members are equal.** -/
theorem equal_iff_alike : equal a b = true ↔ Alike (fun a b => equal a b = true) a b := by
  fun_cases equal a b with
  | case1 => exact iff_of_true rfl .undefined
  | case2 => exact iff_of_true rfl .null
  | case6 as bs => rw [alike_array_iff, equalItems_iff]
  | case7 p as q bs =>
    rw [alike_object_iff, Bool.and_eq_true, beq_iff_eq, equalFields_iff]
  | case9 =>
    -- the two values are of different kinds
    refine iff_of_false Bool.false_ne_true fun h => ?_
    cases h <;> grind
  | _ => simp

/-- **The other comparison says the same of its own.** -/
theorem strictEqual_iff_alike :
    strictEqual a b = true ↔ Alike (fun a b => strictEqual a b = true) a b := by
  fun_cases strictEqual a b with
  | case1 => exact iff_of_true rfl .undefined
  | case2 => exact iff_of_true rfl .null
  | case7 as bs => rw [alike_array_iff, Bool.and_eq_true, beq_iff_eq, strictEqualItems_iff]
  | case8 p as q bs =>
    rw [alike_object_iff, Bool.and_eq_true, Bool.and_eq_true, beq_iff_eq, beq_iff_eq, and_assoc,
      strictEqualFields_iff]
  | case9 =>
    -- the two values are of different kinds
    refine iff_of_false Bool.false_ne_true fun h => ?_
    cases h <;> grind
  | _ => simp

/-- **The comparisons agree.** -/
theorem strictEqual_iff_equal : strictEqual a b = true ↔ equal a b = true := by
  induction a using induction_members generalizing b with
  | h a ih =>
    rw [strictEqual_iff_alike, equal_iff_alike]
    constructor
    · intro h
      exact h.mono fun m hm n => (ih m hm).1
    · intro h
      exact h.mono fun m hm n => (ih m hm).2

theorem strictEqual_eq_beq : strictEqual a b = (a == b) := by
  rw [Bool.eq_iff_iff]
  exact strictEqual_iff_equal

/-! ## A partial equivalence -/

theorem strictEqual_symm (h : strictEqual a b = true) : strictEqual b a = true := by
  induction b using induction_members generalizing a with
  | h b ih =>
    have halike := (strictEqual_iff_alike.1 h).flip
    exact strictEqual_iff_alike.2 (halike.mono fun m hm n hn => ih m hm hn)

theorem strictEqual_comm : strictEqual a b = strictEqual b a := by
  rw [Bool.eq_iff_iff]
  exact ⟨strictEqual_symm, strictEqual_symm⟩

theorem strictEqual_trans (hab : strictEqual a b = true) (hbc : strictEqual b c = true) :
    strictEqual a c = true := by
  induction a using induction_members generalizing b c with
  | h a ih =>
    rw [strictEqual_iff_alike] at hab hbc ⊢
    exact hab.trans hbc fun m hm n o => ih m hm

/-- **A value is equal to itself unless there is a NaN inside of it.** -/
theorem strictEqual_self_iff : strictEqual a a = true ↔ ¬ Within (.number .nan) a := by
  induction a using induction_members with
  | h a ih =>
    rw [strictEqual_iff_alike, alike_self_iff, Within, occurs_iff, not_or]
    refine and_congr Iff.rfl ?_
    rw [not_exists]
    refine forall_congr' fun m => ?_
    rw [not_and]
    exact forall_congr' (ih m)

end Value

end Vetting
