import Vetting.Registry
import Vetting.Proofs.Dict
import Vetting.Proofs.Steps
import Vetting.Proofs.Validator.Recipe

/-!
# What a registry answers

A registry is its definitions by name, and everything it answers can be told from looking a name up
in them.  `Registry.create` is opened here and nowhere else.
-/

namespace Vetting

namespace Registry

variable {r q : Registry} {name : String} {options : Options} {factory : Factory} {v : Validator}

/-! ## Names -/

@[simp] theorem contains_iff :
    r.contains name = true ↔ ∃ factory, r.factories.find? name = some factory := by
  rw [contains, Dict.contains, Option.isSome_iff_exists]

theorem find?_eq_none_of_contains_eq_false (h : r.contains name = false) :
    r.factories.find? name = none := by
  rwa [contains, Dict.contains, Option.isSome_eq_false_iff, Option.isNone_iff_eq_none] at h

/-- The registry of the built-in validators has the factories of the catalogue. -/
@[simp] theorem find?_builtins [Regex.Engine] (name : String) :
    builtins.factories.find? name = Builtin.factory? name := by
  refine Option.ext fun factory => ?_
  rw [builtins, Dict.find?_ofList_eq_some_iff Builtin.nodup_names_catalogue, Builtin.factory?,
    lookup_eq_some_iff_mem Builtin.nodup_names_catalogue]

/-- What a registry says about its names fits together. -/
structure Listed (r : Registry) : Prop where
  contains : ∀ name, r.contains name = true ↔ name ∈ r.names
  ascending : r.names.Pairwise (· < ·)
  nodup : r.names.Nodup
  size : r.size = r.names.length
  isEmpty : r.isEmpty = true ↔ r.size = 0

theorem listed (r : Registry) : r.Listed where
  contains name := by
    rw [contains_iff, names, Dict.mem_keys_iff]
  ascending := r.factories.pairwise_keys
  nodup := r.factories.nodup_keys
  size := by
    rw [size, Dict.size, names, Dict.keys, List.length_map]
  isEmpty := by
    rw [isEmpty, Dict.isEmpty, size, Dict.size, List.isEmpty_iff, List.length_eq_zero_iff]

/-! ## Validators -/

/-- **A registry creates what the factory of the name makes**, with its errors. -/
theorem create_of_find?_eq_some (h : r.factories.find? name = some factory) (options : Options) :
    r.create name options = (factory options).mapError .config := by
  rw [create, h]

theorem create_of_find?_eq_none (h : r.factories.find? name = none) (options : Options) :
    r.create name options = .error (.notFound name) := by
  rw [create, h]

theorem create_eq_ok_iff (hfactory : r.factories.find? name = some factory) :
    r.create name options = .ok v ↔ factory options = .ok v := by
  rw [create_of_find?_eq_some hfactory, mapError_eq_ok_iff]

/-- A name is not found if it has no factory; no factory reports such an error. -/
theorem create_eq_notFound_iff :
    r.create name options = .error (.notFound name) ↔ r.factories.find? name = none := by
  refine ⟨fun h => ?_, fun h => create_of_find?_eq_none h options⟩
  cases hfactory : r.factories.find? name with
  | none => rfl
  | some factory =>
    rw [create_of_find?_eq_some hfactory, mapError_eq_error_iff] at h
    obtain ⟨cause, -, hcause⟩ := h
    cases hcause

/-- Registries with the same definition of a name create the same under it. -/
theorem create_congr (h : r.factories.find? name = q.factories.find? name) (options : Options) :
    r.create name options = q.create name options := by
  rw [create, create, h]

end Registry

end Vetting
