import Mathlib.Algebra.Group.Int.Defs
import Vetting.Proofs.Dict
import Vetting.Proofs.Number.Nearest
import Vetting.Proofs.Value.Equality
import Vetting.Value.Json

/-!
# JSON trees among the values

A JSON tree is read as a value by replacing its numbers, and everything else stays in its place: the
members of the value are those of the tree (`Value.members_ofJson`).  So what occurs in the value
comes from what occurs in the tree (`Value.exists_of_within_ofJson`), and a look-up can be made
before or after reading (`Value.get_ofJson`).

Rounding can be done in the tree as well.  `Json.rounded` puts the nearest double in the place of
every number and drops the sign of zero; two trees are read as equal values exactly when this makes
them the same tree (`Value.strictEqual_ofJson_iff`).
-/

namespace Vetting

/-! ## The sign of zero -/

namespace Double

variable {x y : Double}

/-- The same number, without a sign if it is zero. -/
def unsignedZero : Double → Double
  | .finite negative units fits => .finite (negative && units != 0) units fits
  | other => other

theorem beq_iff_rank?_eq (hx : x ≠ .nan) : (x == y) = true ↔ x.rank? = y.rank? := by
  rw [beq_iff]
  constructor
  · rintro ⟨place, hplace, hother⟩
    rw [hplace, hother]
  · intro h
    cases x with
    | nan => exact absurd rfl hx
    | infinite s => exact ⟨_, rfl, h.symm⟩
    | finite s u hu => exact ⟨_, rfl, h.symm⟩

/-- **Numbers other than NaN are equal when they are the same but for the sign of zero.** -/
theorem beq_iff_unsignedZero (hx : x ≠ .nan) (hy : y ≠ .nan) :
    (x == y) = true ↔ x.unsignedZero = y.unsignedZero := by
  have hlimit : (limitUnits != 0) = true := bne_iff_ne.2 (Nat.ne_of_gt limitUnits_pos)
  rw [beq_iff_rank?_eq hx]
  cases x with
  | nan => exact absurd rfl hx
  | infinite s =>
    cases y with
    | nan => exact absurd rfl hy
    | infinite t =>
      rw [rank?_infinite, rank?_infinite, Option.some_inj, signed_eq_signed_iff, hlimit,
        Bool.and_true, Bool.and_true, and_iff_left rfl]
      exact (iff_of_eq (infinite.injEq s t)).symm
    | finite t v hv =>
      rw [rank?_infinite, rank?_finite, Option.some_inj, signed_eq_signed_iff]
      exact iff_of_false (fun h => Nat.ne_of_gt hv.1 h.2) nofun
  | finite s u hu =>
    cases y with
    | nan => exact absurd rfl hy
    | infinite t =>
      rw [rank?_finite, rank?_infinite, Option.some_inj, signed_eq_signed_iff]
      exact iff_of_false (fun h => Nat.ne_of_lt hu.1 h.2) nofun
    | finite t v hv =>
      rw [rank?_finite, rank?_finite, Option.some_inj, signed_eq_signed_iff, unsignedZero,
        unsignedZero, finite.injEq]

theorem ofInt_ne_nan (i : Int) : ofInt i ≠ .nan := by
  rw [ofInt, ofRatio, ofUnitRatio]
  split
  · intro h
    cases h
  · intro h
    cases h

end Double

namespace Json

variable {j k m : Json}

/-! ## Trees -/

/-- The items of an array and the values of the fields of an object. -/
def members : Json → List Json
  | .array items => items
  | .object fields => fields.map Prod.snd
  | _ => []

theorem sizeOf_lt_of_mem_members (h : m ∈ j.members) : sizeOf m < sizeOf j := by
  cases j with
  | array items =>
    have hlt := List.sizeOf_lt_of_mem (show m ∈ items from h)
    rw [array.sizeOf_spec]
    omega
  | object fields =>
    obtain ⟨⟨key, value⟩, hfield, rfl⟩ := List.mem_map.1 h
    have hlt := List.sizeOf_lt_of_mem hfield
    rw [Prod.mk.sizeOf_spec] at hlt
    rw [object.sizeOf_spec]
    show sizeOf value < _
    omega
  | _ => cases h

theorem induction_members {motive : Json → Prop}
    (h : ∀ j, (∀ m ∈ j.members, motive m) → motive j) (j : Json) : motive j :=
  induction_of_members (fun _ _ => sizeOf_lt_of_mem_members) h j

/-- A tree is another one, or it occurs inside of it at any depth. -/
abbrev Within (k j : Json) : Prop := Occurs members k j

theorem ne_nan_of_within {x : Double} (hj : ¬ Within (.float .nan) j) (hx : Within (.float x) j) :
    x ≠ .nan := by
  rintro rfl
  exact hj hx

/-- The numbers of a tree are those that documents have: the integers that are kept apart are within
their range, and the others are finite. -/
structure Numeric (j : Json) : Prop where
  integers : ∀ i, Within (.integer i) j → -2 ^ 63 ≤ i ∧ i < 2 ^ 64
  floats : ∀ x, Within (.float x) j → x.isFinite = true

theorem numeric_integer {i : Int} (hlower : -2 ^ 63 ≤ i) (hupper : i < 2 ^ 64) :
    (integer i).Numeric where
  integers l hl := by
    cases hl with
    | self => exact ⟨hlower, hupper⟩
    | member hm => cases hm
  floats x hx := by
    cases hx with
    | member hm => cases hm

theorem numeric_float {x : Double} (hx : x.isFinite = true) : (float x).Numeric where
  integers i hi := by
    cases hi with
    | member hm => cases hm
  floats y hy := by
    cases hy with
    | self => exact hx
    | member hm => cases hm

theorem numeric_array {items : List Json} (h : ∀ item ∈ items, item.Numeric) :
    (array items).Numeric where
  integers i hi := by
    cases hi with
    | member hm hi => exact (h _ hm).integers i hi
  floats x hx := by
    cases hx with
    | member hm hx => exact (h _ hm).floats x hx

theorem Numeric.not_nan (h : j.Numeric) : ¬ Within (.float .nan) j :=
  fun hnan => Bool.false_ne_true (h.floats _ hnan)

theorem Numeric.isNearest (h : j.Numeric) {i : Int} (hi : Within (.integer i) j) :
    (Double.ofInt i).IsNearest i := by
  obtain ⟨hlower, hupper⟩ := h.integers i hi
  exact Double.isNearest_ofInt (by omega)

/-! ## Rounding in a tree -/

mutual

/-- The tree with the nearest double in the place of every number, and no sign on zero. -/
def rounded : Json → Json
  | .integer i => .float (Double.ofInt i).unsignedZero
  | .float x => .float x.unsignedZero
  | .array items => .array (roundedItems items)
  | .object fields => .object (roundedFields fields)
  | other => other

def roundedItems : List Json → List Json
  | [] => []
  | item :: rest => rounded item :: roundedItems rest

def roundedFields : List (String × Json) → List (String × Json)
  | [] => []
  | (key, item) :: rest => (key, rounded item) :: roundedFields rest

end

@[simp] theorem roundedItems_eq_map (items : List Json) :
    roundedItems items = items.map rounded := by
  induction items with
  | nil => rw [roundedItems, List.map_nil]
  | cons item rest ih => rw [roundedItems, List.map_cons, ih]

@[simp] theorem roundedFields_eq_map (fields : List (String × Json)) :
    roundedFields fields = fields.map fun field => (field.1, field.2.rounded) := by
  induction fields with
  | nil => rw [roundedFields, List.map_nil]
  | cons field rest ih => rw [roundedFields, List.map_cons, ih]

end Json

namespace Value

variable {j k : Json} {v : Value}

@[simp] theorem ofJsonItems_eq_map (items : List Json) : ofJsonItems items = items.map ofJson := by
  induction items with
  | nil => rw [ofJsonItems, List.map_nil]
  | cons item rest ih => rw [ofJsonItems, List.map_cons, ih]

@[simp] theorem ofJsonFields_eq_map (fields : List (String × Json)) :
    ofJsonFields fields = fields.map fun field => (field.1, ofJson field.2) := by
  induction fields with
  | nil => rw [ofJsonFields, List.map_nil]
  | cons field rest ih => rw [ofJsonFields, List.map_cons, ih]

theorem members_ofJson (j : Json) : (ofJson j).members = j.members.map ofJson := by
  cases j with
  | array items =>
    rw [ofJson, ofJsonItems_eq_map]
    rfl
  | object fields =>
    rw [ofJson, ofJsonFields_eq_map, members, Json.members, List.map_map, List.map_map]
    rfl
  | _ =>
    rw [ofJson]
    rfl

/-- **What occurs in the value of a tree is the value of what occurs in the tree.** -/
theorem exists_of_within_ofJson (h : Within v (ofJson j)) :
    ∃ k, Json.Within k j ∧ ofJson k = v :=
  exists_of_occurs_map members_ofJson h

/-- **The value of a tree is made of the kinds that trees have.** -/
theorem kinds_of_within_ofJson (hj : ¬ Json.Within (.float .nan) j) (h : Within v (ofJson j)) :
    v ≠ .undefined ∧ (∀ t, v ≠ .date t) ∧ v ≠ .number .nan ∧
      ∀ prototype fields, v = .object prototype fields → prototype = .plain := by
  obtain ⟨k, hk, rfl⟩ := exists_of_within_ofJson h
  cases k with
  | integer i => simp [ofJson, Double.ofInt_ne_nan]
  | float x =>
    have hx := Json.ne_nan_of_within hj hk
    simp [ofJson, hx]
  | _ => simp [ofJson]

theorem asObject?_ofJson_object (fields : List (String × Json)) :
    (ofJson (.object fields)).asObject? =
      some ⟨.plain, .ofList (fields.map fun field => (field.1, ofJson field.2))⟩ := by
  rw [ofJson, ofJsonFields_eq_map]
  rfl

/-- The fields of an object keep their keys. -/
theorem exists_asObject?_ofJson (fields : Dict Json) :
    ∃ o, (ofJson (.object fields.entries)).asObject? = some o ∧ o.prototype = .plain ∧
      o.fields.keys = fields.keys ∧ o.size = fields.size := by
  refine ⟨_, asObject?_ofJson_object fields.entries, rfl, ?keys, ?size⟩
  case keys =>
    rw [Dict.keys, Dict.entries_ofList_map, List.map_map]
    rfl
  case size =>
    rw [Object.size, Dict.size, Dict.entries_ofList_map, List.length_map, Dict.size]

/-- **A field of the value is that of the tree.** -/
theorem get_ofJson (j : Json) (key : String) :
    (ofJson j).get key =
      ((j.asObject?.bind fun fields => fields.find? key).map ofJson).getD .undefined := by
  cases j with
  | object fields =>
    rw [get, asObject?_ofJson_object]
    show (Dict.find? _ key).getD Value.undefined = _
    rw [Dict.find?_ofList_map_values]
    rfl
  | _ =>
    rw [ofJson]
    rfl

/-! ## Trees that are read as equal values -/

theorem strictEqual_number_iff {x y : Double} (hx : x ≠ .nan) (hy : y ≠ .nan) :
    strictEqual (.number x) (.number y) = true ↔ x.unsignedZero = y.unsignedZero := by
  rw [strictEqual, Double.beq_iff_unsignedZero hx hy]

/-- A number is equal to the value of a tree that rounding makes the same number. -/
theorem strictEqual_number_ofJson_iff {x : Double} (hx : x ≠ .nan)
    (hk : ¬ Json.Within (.float .nan) k) :
    strictEqual (.number x) (ofJson k) = true ↔ .float x.unsignedZero = k.rounded := by
  cases k with
  | integer i =>
    rw [ofJson, strictEqual_number_iff hx (Double.ofInt_ne_nan i), Json.rounded, Json.float.injEq]
  | float y =>
    have hy := Json.ne_nan_of_within hk .self
    rw [ofJson, strictEqual_number_iff hx hy, Json.rounded, Json.float.injEq]
  | _ => simp [ofJson, strictEqual, Json.rounded]

/-- **Two trees are read as equal values exactly when rounding makes them the same.** -/
theorem strictEqual_ofJson_iff (hj : ¬ Json.Within (.float .nan) j)
    (hk : ¬ Json.Within (.float .nan) k) :
    (ofJson j).strictEqual (ofJson k) = true ↔ j.rounded = k.rounded := by
  induction j using Json.induction_members generalizing k with
  | h j ih =>
    have hmembers : ∀ m ∈ j.members, ∀ n ∈ k.members,
        ((ofJson m).strictEqual (ofJson n) = true ↔ m.rounded = n.rounded) :=
      fun m hm n hn => ih m hm (fun h => hj (.member hm h)) (fun h => hk (.member hn h))
    cases j with
    | null => cases k <;> simp [ofJson, strictEqual, Json.rounded]
    | bool b => cases k <;> simp [ofJson, strictEqual, Json.rounded]
    | text s => cases k <;> simp [ofJson, strictEqual, Json.rounded]
    | integer i =>
      rw [ofJson, strictEqual_number_ofJson_iff (Double.ofInt_ne_nan i) hk, Json.rounded]
    | float x =>
      rw [ofJson, strictEqual_number_ofJson_iff (Json.ne_nan_of_within hj .self) hk, Json.rounded]
    | array items =>
      cases k with
      | array others =>
        simp only [ofJson, ofJsonItems_eq_map, Json.rounded, Json.array.injEq,
          Json.roundedItems_eq_map, map_eq_map_iff_forall₂]
        rw [strictEqual_iff_alike, alike_array_iff, List.forall₂_map_left_iff,
          List.forall₂_map_right_iff]
        exact forall₂_congr_of_mem hmembers
      | _ => simp [ofJson, strictEqual, Json.rounded]
    | object fields =>
      cases k with
      | object others =>
        simp only [ofJson, ofJsonFields_eq_map, Json.rounded, Json.object.injEq,
          Json.roundedFields_eq_map, map_eq_map_iff_forall₂]
        rw [strictEqual_iff_alike, alike_object_iff, and_iff_right rfl,
          List.forall₂_map_left_iff, List.forall₂_map_right_iff]
        refine forall₂_congr_of_mem fun f hf g hg => ?_
        rw [Prod.mk.injEq]
        exact and_congr_right' (hmembers _ (List.mem_map_of_mem hf) _ (List.mem_map_of_mem hg))
      | _ => simp [ofJson, strictEqual, Json.rounded]

end Value

end Vetting
