import Vetting.Proofs.Check.Membership
import Vetting.Proofs.Schema.Rule
import Vetting.Proofs.Validator.Spelling
import Vetting.Proofs.Value.Json
import Vetting.Regex.Size

/-!
# Lists of JSON values in rules

A range rule with a list may stand in a document, and so may the value that it is asked about.  Both
are read as values, and then they are compared.  What this comes to can be told without values: the
rule lets a tree through when one of its list is the same but for rounding
(`Value.ofJson_membership`).
-/

namespace Vetting

open Rule (nameKey)

variable {values : List Value} {items : List Json} {factory : Factory} {options : Options}
  {v : Validator}

/-! ## Range rules -/

namespace Builtin

/-- A range check that is given a list has that list, whatever else it is given. -/
theorem check_of_given?_in [Regex.Engine] (hfactory : factory? "range" = some factory)
    (hv : factory options = .ok v) (hin : options.given? "in" = some (.array values)) :
    v.check = .range (.oneOf values) := by
  have hrecipe : recipes.lookup "range" = some rangeRecipe := rfl
  obtain ⟨original, hbase, hconfigured⟩ := exists_base_of_factory? hrecipe hfactory hv
  have hreadIn : options.read "range" "in" OptionDecoder.list = .ok (some values) := by
    rw [Options.read_of_given?_eq_some hin]
    rfl
  simp only [rangeRecipe, hreadIn, ok_bind] at hbase
  obtain ⟨between, -, hbase⟩ := bind_eq_ok_iff.1 hbase
  obtain ⟨bounds, hbounds, hbase⟩ := bind_eq_ok_iff.1 hbase
  obtain rfl := Except.ok.inj hbase
  rw [hconfigured.check]
  cases between with
  | none =>
    obtain rfl := Except.ok.inj hbounds
    rfl
  | some ends => cases hbounds

/-- A list and nothing besides is enough for a range check. -/
theorem factory_of_only_in [Regex.Engine] (hfactory : factory? "range" = some factory)
    (hin : options.given? "in" = some (.array values))
    (honly : ∀ key, key ≠ "in" → options.find? key = none) :
    factory options = .ok (range (.oneOf values)) := by
  have hgiven : ∀ key, key ≠ "in" → options.given? key = none := by
    intro key hkey
    rw [Options.given?, honly key hkey]
    rfl
  refine (Spelling.oneOf values).factory_eq hfactory ⟨?given, ?common, ?known⟩
  case given =>
    intro key v hmem
    rcases List.mem_cons.1 hmem with hfirst | hmem
    · obtain ⟨rfl, rfl⟩ := Prod.mk.inj hfirst
      exact hin
    · obtain ⟨rfl, rfl⟩ := Prod.mk.inj (List.mem_singleton.1 hmem)
      exact hgiven _ (by decide)
  case common =>
    have hcommon : "in" ∉ Settings.commonKeys := by decide
    intro key hkey
    exact hgiven key fun h => hcommon (h ▸ hkey)
  case known =>
    intro key hkey
    obtain ⟨value, hvalue⟩ := Dict.mem_keys_iff.1 hkey
    by_cases h : key = "in"
    · rw [h]
      exact List.mem_append_left _ List.mem_cons_self
    · rw [honly key h] at hvalue
      cases hvalue

end Builtin

namespace Value

/-- The list of a document, given as an option. -/
theorem given?_ofMembers_array {members : Dict Json} {key : String}
    (h : members.find? key = some (.array items)) :
    (Options.ofMembers members).given? key = some (.array (items.map ofJson)) := by
  simp [Options.given?, h, ofJson]

/-- **A range rule of a document lets a tree through when one of its list is the same but for
rounding.** -/
theorem validate_ofJson_eq_valid_iff {k : Json}
    (hcheck : v.check = .range (.oneOf (items.map ofJson)))
    (hitems : ∀ item ∈ items, ¬ Json.Within (.float .nan) item)
    (hk : ¬ Json.Within (.float .nan) k) :
    v.validate (ofJson k) = .valid ↔ (v.allowEmpty = true ∧ (ofJson k).isEmpty = true) ∨
      ∃ item ∈ items, item.rounded = k.rounded := by
  rw [Validator.validate_eq_valid_iff_of_oneOf hcheck]
  simp only [List.mem_map, exists_exists_and_eq_and]
  refine or_congr Iff.rfl (exists_congr fun item => and_congr_right fun hitem => ?_)
  exact strictEqual_ofJson_iff (hitems item hitem) hk

/-- **JSON trees among the values.**  The value of a tree is made of the kinds that trees have; the
items of arrays and the fields of objects stay where they are, fields are looked up as in the tree,
and integers become the nearest doubles.  Two trees are read as equal values exactly when they are
the same but for rounding and the sign of zero.  So that is how a range rule compares what it is
asked about to the list that it has from a document, unless an empty value passes unchecked. -/
theorem ofJson_membership [Regex.Engine] :
    (∀ j : Json, j.Numeric →
      (∀ x, Within x (ofJson j) → x ≠ .undefined ∧ (∀ t, x ≠ .date t) ∧ x ≠ .number .nan ∧
        ∀ prototype fields, x = .object prototype fields → prototype = .plain) ∧
      (∀ items, j = .array items → ofJson j = .array (items.map ofJson)) ∧
      (∀ fields : Dict Json, j = .object fields.entries →
        ∃ o, (ofJson j).asObject? = some o ∧ o.prototype = .plain ∧
          o.fields.keys = fields.keys ∧ o.size = fields.size) ∧
      (∀ key, (ofJson j).get key =
        ((j.asObject?.bind fun fields => fields.find? key).map ofJson).getD .undefined) ∧
      ∀ i, Json.Within (.integer i) j → (Double.ofInt i).IsNearest i) ∧
    (∀ j k : Json, j.Numeric → k.Numeric →
      ((ofJson j).strictEqual (ofJson k) = true ↔ j.rounded = k.rounded)) ∧
    ∀ (items : List Json) (members : Dict Json), (∀ item ∈ items, item.Numeric) →
      members.find? "in" = some (.array items) → members.find? nameKey = none →
      ∀ j ∈ [.array [.text "range", .object members.entries],
          .object (members.insert nameKey (.text "range")).entries],
        ∃ rule, Rule.ofJson j = .ok rule ∧
          ((∀ key, key ≠ "in" → members.find? key = none) →
            ∃ v, Registry.builtins.resolve rule = .ok v ∧ v.allowEmpty = false) ∧
          ∀ v, Registry.builtins.resolve rule = .ok v → ∀ k : Json, k.Numeric →
            (v.validate (ofJson k) = .valid ↔
              (v.allowEmpty = true ∧ (ofJson k).isEmpty = true) ∨
                ∃ item ∈ items, item.rounded = k.rounded) ∧
            (k ∈ items → v.validate (ofJson k) = .valid) := by
  refine ⟨?trees, ?equal, ?rules⟩
  case trees =>
    intro j hj
    refine ⟨fun x => kinds_of_within_ofJson hj.not_nan, ?_, ?_, get_ofJson j, fun i => hj.isNearest⟩
    · rintro items rfl
      rw [ofJson, ofJsonItems_eq_map]
    · rintro fields rfl
      exact exists_asObject?_ofJson fields
  case equal =>
    intro j k hj hk
    exact strictEqual_ofJson_iff hj.not_nan hk.not_nan
  case rules =>
    intro items members hitems hin hname j hj
    obtain ⟨rule, hrule, hresolve⟩ :=
      Registry.builtins.resolve_ofJson (show "range" ≠ "" by decide) hname j hj
    obtain ⟨factory, hfactory⟩ : ∃ factory, Builtin.factory? "range" = some factory := ⟨_, rfl⟩
    have hdefined : Registry.builtins.factories.find? "range" = some factory :=
      (Registry.find?_builtins "range").trans hfactory
    have hgiven := given?_ofMembers_array hin
    refine ⟨rule, hrule, fun honly => ?_, fun v hv k hk => ?_⟩
    · have hoptions : ∀ key, key ≠ "in" → (Options.ofMembers members).find? key = none := by
        intro key hkey
        simp [honly key hkey]
      refine ⟨Builtin.range (.oneOf (items.map ofJson)), ?_, rfl⟩
      rw [hresolve, Registry.create_eq_ok_iff hdefined]
      exact Builtin.factory_of_only_in hfactory hgiven hoptions
    · rw [hresolve, Registry.create_eq_ok_iff hdefined] at hv
      have hvalid := validate_ofJson_eq_valid_iff (Builtin.check_of_given?_in hfactory hv hgiven)
        (fun item hitem => (hitems item hitem).not_nan) hk.not_nan
      exact ⟨hvalid, fun hmem => hvalid.2 (Or.inr ⟨k, hmem, rfl⟩)⟩

section

attribute [local instance] Regex.Engine.standard

/-- The first whole number that no double has, in a list, and the zero with a sign. -/
theorem ofJson_membership_rounded :
    let item : Json := .array [.integer (2 ^ 53 + 1), .float .negZero]
    let k : Json := .array [.integer (2 ^ 53), .integer 0]
    item.Numeric ∧ k.Numeric ∧ item.rounded = k.rounded ∧
      ∃ rule v, Rule.ofJson (.array [.text "range", .object [("in", .array [item])]]) = .ok rule ∧
        Registry.builtins.resolve rule = .ok v ∧ v.validate (ofJson k) = .valid := by
  intro item k
  have hlarge : (Json.integer (2 ^ 53 + 1)).Numeric := Json.numeric_integer (by decide) (by decide)
  have hitem : item.Numeric := Json.numeric_array (List.forall_mem_cons.2
    ⟨hlarge, List.forall_mem_singleton.2 (Json.numeric_float rfl)⟩)
  have hpower : (Json.integer (2 ^ 53)).Numeric := Json.numeric_integer (by decide) (by decide)
  have hzero : (Json.integer 0).Numeric := Json.numeric_integer (by decide) (by decide)
  have hk : k.Numeric := Json.numeric_array (List.forall_mem_cons.2
    ⟨hpower, List.forall_mem_singleton.2 hzero⟩)
  obtain ⟨-, hequal, hrules⟩ := ofJson_membership
  have hstrict : (ofJson item).strictEqual (ofJson k) = true := by decide +kernel
  have hrounded := (hequal item k hitem hk).1 hstrict
  have hin : (Dict.ofList [("in", Json.array [item])]).find? "in" = some (.array [item]) := rfl
  obtain ⟨rule, hrule, hexists, hvalid⟩ := hrules [item] _ (List.forall_mem_singleton.2 hitem) hin
    rfl _ List.mem_cons_self
  obtain ⟨v, hv, -⟩ := hexists fun key hkey => Dict.find?_insert_of_ne _ hkey _
  refine ⟨hitem, hk, hrounded, rule, v, hrule, hv, ?_⟩
  exact (hvalid v hv k hk).1.2 (Or.inr ⟨item, List.mem_singleton_self item, hrounded⟩)

end

end Value

end Vetting
