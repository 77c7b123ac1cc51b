import Vetting.Options
import Vetting.Proofs.Dict
import Vetting.Proofs.Steps

/-!
# Which values the decoders take

A decoder turns the value of an option into what the validator wants, or refuses it.  Here each
kind of option gets a predicate on values that says, without the decoder, when a value is well
formed, and a lemma that the decoder takes just those.

The one that needs an argument is the count.  A double is kept in units of 2⁻¹⁰⁷⁴, so that it is a
whole non-negative number exactly when its place is a natural multiple of the units in one; negative
zero has the place of zero and is one of them.
-/

namespace Vetting

namespace Double

/-- A natural number, whichever sign a zero has. -/
def IsNatural (x : Double) : Prop :=
  x.isFinite = true ∧ ∃ n : Nat, x.rank? = some ((n * oneUnits : Nat) : Int)

theorem exists_toNat?_eq_some_iff {x : Double} : (∃ n, x.toNat? = some n) ↔ x.IsNatural := by
  cases x with
  | nan => exact iff_of_false (fun ⟨_, h⟩ => nomatch h) fun h => Bool.noConfusion h.1
  | infinite s => exact iff_of_false (fun ⟨_, h⟩ => nomatch h) fun h => Bool.noConfusion h.1
  | finite s u fits =>
    have hnat : (∃ n, (finite s u fits).toNat? = some n) ↔
        u % oneUnits = 0 ∧ (s = false ∨ u = 0) := by
      rw [toNat?]
      split
      · exact iff_of_true ⟨_, rfl⟩ ‹_›
      · exact iff_of_false (fun ⟨_, h⟩ => nomatch h) ‹_›
    have hplace : ∀ n : Nat, (finite s u fits).rank? = some ((n * oneUnits : Nat) : Int) ↔
        u = n * oneUnits ∧ (s = false ∨ u = 0) := by
      intro n
      generalize n * oneUnits = place
      rw [rank?, Option.some_inj]
      cases s with
      | false =>
        simp only [Bool.false_eq_true, if_false, true_or, and_true]
        omega
      | true =>
        simp only [if_true, Bool.true_eq_false, false_or]
        omega
    rw [hnat, IsNatural]
    simp only [hplace, isFinite, true_and]
    constructor
    · rintro ⟨hmod, hsign⟩
      exact ⟨u / oneUnits, (Nat.div_mul_cancel (Nat.dvd_of_mod_eq_zero hmod)).symm, hsign⟩
    · rintro ⟨n, hu, hsign⟩
      exact ⟨Nat.mod_eq_zero_of_dvd ⟨n, hu.trans (Nat.mul_comm n oneUnits)⟩, hsign⟩

end Double

namespace Value

variable {v : Value}

/-! ## Well-formed values by kind -/

def IsBool (v : Value) : Prop := ∃ b, v = .bool b

def IsText (v : Value) : Prop := ∃ s, v = .text s

/-- A number other than NaN. -/
def IsNumber (v : Value) : Prop := ∃ x, v = .number x ∧ x.isNaN = false

/-- A finite, non-negative whole number. -/
def IsCount (v : Value) : Prop := ∃ x, v = .number x ∧ x.IsNatural

def IsList (v : Value) : Prop := ∃ items, v = .array items

/-- An array of texts. -/
def IsTexts (v : Value) : Prop := ∃ texts : List String, v = .array (texts.map .text)

/-- An object, of whatever prototype, whose fields are all texts. -/
def IsTemplates (v : Value) : Prop :=
  ∃ o, v.asObject? = some o ∧ ∀ slot template, o.find? slot = some template → template.IsText

theorem asText?_eq_some_iff {s : String} : v.asText? = some s ↔ v = .text s := by
  cases v with
  | text t => exact ⟨fun h => congrArg Value.text (Option.some.inj h), fun h => by rw [h]; rfl⟩
  | _ => exact ⟨fun h => (nomatch h), fun h => (nomatch h)⟩

@[simp] theorem asObject?_ofObject (o : Object) : (ofObject o).asObject? = some o := by
  rw [ofObject, asObject?, Dict.ofList_entries]

end Value

namespace OptionDecoder

variable {v : Value}

/-! ## The decoders -/

@[simp] theorem bool_eq_ok_iff {b : Bool} : bool v = .ok b ↔ v = .bool b := by
  cases v with
  | bool c => exact ⟨fun h => congrArg Value.bool (Except.ok.inj h), fun h => by rw [h]; rfl⟩
  | _ => exact ⟨fun h => (nomatch h), fun h => (nomatch h)⟩

theorem exists_bool_eq_ok_iff : (∃ b, bool v = .ok b) ↔ v.IsBool :=
  exists_congr fun _ => bool_eq_ok_iff

@[simp] theorem text_eq_ok_iff {s : String} : text v = .ok s ↔ v = .text s := by
  cases v with
  | text t => exact ⟨fun h => congrArg Value.text (Except.ok.inj h), fun h => by rw [h]; rfl⟩
  | _ => exact ⟨fun h => (nomatch h), fun h => (nomatch h)⟩

theorem exists_text_eq_ok_iff : (∃ s, text v = .ok s) ↔ v.IsText :=
  exists_congr fun _ => text_eq_ok_iff

@[simp] theorem list_eq_ok_iff {items : List Value} : list v = .ok items ↔ v = .array items := by
  cases v with
  | array l => exact ⟨fun h => congrArg Value.array (Except.ok.inj h), fun h => by rw [h]; rfl⟩
  | _ => exact ⟨fun h => (nomatch h), fun h => (nomatch h)⟩

theorem exists_list_eq_ok_iff : (∃ items, list v = .ok items) ↔ v.IsList :=
  exists_congr fun _ => list_eq_ok_iff

@[simp] theorem object_eq_ok_iff {o : Object} : object v = .ok o ↔ v.asObject? = some o := by
  cases v with
  | object prototype fields =>
    exact ⟨fun h => congrArg some (Except.ok.inj h),
      fun h => congrArg Except.ok (Option.some.inj h)⟩
  | _ => exact ⟨fun h => (nomatch h), fun h => (nomatch h)⟩

theorem exists_number_eq_ok_iff : (∃ x, number v = .ok x) ↔ v.IsNumber := by
  cases v with
  | number x =>
    rw [number]
    cases hx : x.isNaN with
    | true =>
      refine iff_of_false not_exists_error_eq_ok ?_
      rintro ⟨y, hy, hnan⟩
      cases hy
      rw [hx] at hnan
      cases hnan
    | false => exact iff_of_true ⟨x, rfl⟩ ⟨x, rfl, hx⟩
  | _ => exact iff_of_false not_exists_error_eq_ok fun ⟨_, h, _⟩ => nomatch h

theorem exists_count_eq_ok_iff : (∃ n, count v = .ok n) ↔ v.IsCount := by
  cases v with
  | number x =>
    have hwhole : Value.IsCount (.number x) ↔ ∃ n, x.toNat? = some n := by
      rw [Double.exists_toNat?_eq_some_iff]
      exact ⟨fun ⟨y, hy, h⟩ => Value.number.inj hy ▸ h, fun h => ⟨x, rfl, h⟩⟩
    rw [hwhole, count]
    cases x.toNat? with
    | none => exact iff_of_false not_exists_error_eq_ok fun ⟨_, h⟩ => nomatch h
    | some n => exact iff_of_true ⟨_, rfl⟩ ⟨n, rfl⟩
  | _ => exact iff_of_false not_exists_error_eq_ok fun ⟨_, h, _⟩ => nomatch h

theorem textItems_eq_ok_iff {items : List Value} {texts : List String} :
    textItems items = .ok texts ↔ items = texts.map .text := by
  induction items generalizing texts with
  | nil => cases texts <;> simp [textItems]
  | cons item rest ih =>
    cases item with
    | text s =>
      rw [textItems, map_eq_ok_iff]
      constructor
      · rintro ⟨after, hafter, rfl⟩
        rw [ih.1 hafter, List.map_cons]
      · intro h
        obtain ⟨t, after, rfl, ht, hafter⟩ := List.map_eq_cons_iff.1 h.symm
        cases ht
        exact ⟨after, ih.2 hafter.symm, rfl⟩
    | _ =>
      refine iff_of_false (fun h => nomatch h) fun h => ?_
      obtain ⟨t, after, -, ht, -⟩ := List.map_eq_cons_iff.1 h.symm
      cases ht

@[simp] theorem texts_eq_ok_iff {ts : List String} :
    texts v = .ok ts ↔ v = .array (ts.map .text) := by
  cases v with
  | array items =>
    rw [texts, textItems_eq_ok_iff, Value.array.injEq]
  | _ => exact ⟨fun h => (nomatch h), fun h => (nomatch h)⟩

end OptionDecoder

namespace Options

/-! ## Well-formed options -/

/-- Whether everything given under the listed names is of the form listed with it. -/
def WellFormed (options : Options) (forms : List (String × (Value → Prop))) : Prop :=
  ∀ key form, (key, form) ∈ forms → ∀ v, options.given? key = some v → form v

variable {options : Options} {key : String} {form : Value → Prop}
  {forms others : List (String × (Value → Prop))}

@[simp] theorem wellFormed_nil : options.WellFormed [] := fun _ _ h => nomatch h

@[simp] theorem wellFormed_cons :
    options.WellFormed ((key, form) :: forms) ↔
      (∀ v, options.given? key = some v → form v) ∧ options.WellFormed forms := by
  constructor
  · intro h
    exact ⟨h key form List.mem_cons_self, fun k f hmem => h k f (List.mem_cons_of_mem _ hmem)⟩
  · rintro ⟨hhead, htail⟩ k f hmem
    rcases List.mem_cons.1 hmem with heq | hmem
    · cases heq
      exact hhead
    · exact htail k f hmem

@[simp] theorem wellFormed_append :
    options.WellFormed (forms ++ others) ↔
      options.WellFormed forms ∧ options.WellFormed others := by
  constructor
  · intro h
    exact ⟨fun k f hmem => h k f (List.mem_append_left _ hmem),
      fun k f hmem => h k f (List.mem_append_right _ hmem)⟩
  · rintro ⟨hleft, hright⟩ k f hmem
    rcases List.mem_append.1 hmem with hmem | hmem
    · exact hleft k f hmem
    · exact hright k f hmem

end Options

end Vetting
