import Vetting.Proofs.Value.Equality
import Vetting.Value.Text

/-!
# The text of an array

An array is coerced to the texts of its items with commas between them, and its items may be arrays
themselves.  What comes of this is said without the recursion: an array has *leaves*
(`Value.leaves`), and its text is their texts with commas between them (`Value.display_array`).  A
null or undefined item and an array without items are one empty leaf each, so that no comma is lost.

Two arrays with the same leaves therefore have the same text.  Where the brackets inside of an array
stand does not matter, unless there is nothing between them.
-/

namespace Vetting

/-! ## Texts in groups -/

/-- Joining groups of texts and joining the results is joining all the texts. -/
theorem intercalate_flatMap {α : Type} (separator : String) {f : α → List String} {l : List α}
    (h : ∀ a ∈ l, f a ≠ []) :
    separator.intercalate (l.flatMap f) =
      separator.intercalate (l.map fun a => separator.intercalate (f a)) := by
  induction l with
  | nil => rfl
  | cons a rest ih =>
    obtain ⟨ha, hrest⟩ := List.forall_mem_cons.1 h
    rw [List.flatMap_cons, List.map_cons]
    cases rest with
    | nil => rw [List.flatMap_nil, List.append_nil, List.map_nil, String.intercalate_singleton]
    | cons b rest =>
      have hnext : (b :: rest).flatMap f ≠ [] := by
        rw [List.flatMap_cons]
        exact List.append_ne_nil_of_left_ne_nil (hrest b List.mem_cons_self) _
      rw [String.intercalate_append_of_ne_nil ha hnext, ih hrest, List.map_cons,
        String.intercalate_cons_cons]

namespace Value

/-! ## Leaves -/

mutual

/-- The texts that a value contributes to an array which it is an item of. -/
def leaves : Value → List String
  | .undefined | .null | .array [] => [""]
  | .array items => itemLeaves items
  | item => [item.display]

/-- The texts that the items of an array contribute. -/
def itemLeaves : List Value → List String
  | [] => []
  | item :: rest => leaves item ++ itemLeaves rest

end

variable {v : Value} {items xs ys zs : List Value}

theorem itemLeaves_eq_flatMap (items : List Value) : itemLeaves items = items.flatMap leaves := by
  induction items with
  | nil => rfl
  | cons item rest ih => rw [itemLeaves, ih, List.flatMap_cons]

theorem leaves_array (h : items ≠ []) : leaves (.array items) = itemLeaves items := by
  cases items with
  | nil => exact absurd rfl h
  | cons item rest => rfl

@[simp] theorem leaves_ne_nil (v : Value) : leaves v ≠ [] := by
  induction v using induction_members with
  | h v ih =>
    cases v with
    | array items =>
      cases items with
      | nil => exact List.cons_ne_nil _ _
      | cons item rest =>
        exact List.append_ne_nil_of_left_ne_nil (ih item List.mem_cons_self) _
    | _ => exact List.cons_ne_nil _ _

/-! ## The text of an item -/

/-- How a value stands in an array: null and undefined do not show. -/
def itemText (v : Value) : String := if v.isNullish then "" else v.display

@[simp] theorem displayItems_eq_map (items : List Value) :
    displayItems items = items.map itemText := by
  induction items with
  | nil => rfl
  | cons item rest ih =>
    rw [List.map_cons, ← ih]
    cases item <;> rfl

/-- A value stands in an array as its leaves do. -/
theorem intercalate_leaves (v : Value) : ",".intercalate (leaves v) = itemText v := by
  induction v using induction_members with
  | h v ih =>
    cases v with
    | array items =>
      have hdisplay : itemText (.array items) = ",".intercalate (items.map itemText) := by
        rw [← displayItems_eq_map]
        rfl
      cases items with
      | nil => rfl
      | cons item rest =>
        rw [hdisplay, leaves_array (List.cons_ne_nil _ _), itemLeaves_eq_flatMap,
          intercalate_flatMap _ fun a _ => leaves_ne_nil a]
        exact congrArg _ (List.map_congr_left ih)
    | _ => exact String.intercalate_singleton

/-- **The text of an array is made of its leaves, with commas between them.** -/
@[simp] theorem display_array (items : List Value) :
    (array items).display = ",".intercalate (itemLeaves items) := by
  have hdisplay : (array items).display = ",".intercalate (items.map itemText) := by
    rw [← displayItems_eq_map]
    rfl
  rw [hdisplay, itemLeaves_eq_flatMap, intercalate_flatMap _ fun a _ => leaves_ne_nil a]
  exact congrArg _ (List.map_congr_left fun a _ => (intercalate_leaves a).symm)

/-! ## Arrays joined and nested -/

@[simp] theorem itemLeaves_append (xs ys : List Value) :
    itemLeaves (xs ++ ys) = itemLeaves xs ++ itemLeaves ys := by
  rw [itemLeaves_eq_flatMap, itemLeaves_eq_flatMap, itemLeaves_eq_flatMap, List.flatMap_append]

theorem itemLeaves_ne_nil (h : items ≠ []) : itemLeaves items ≠ [] := by
  rw [← leaves_array h]
  exact leaves_ne_nil _

theorem display_append (hxs : xs ≠ []) (hys : ys ≠ []) :
    (array (xs ++ ys)).display = (array xs).display ++ "," ++ (array ys).display := by
  simp [String.intercalate_append_of_ne_nil (itemLeaves_ne_nil hxs) (itemLeaves_ne_nil hys)]

/-- Brackets inside of an array do not show if there is something between them. -/
theorem display_nested (xs zs : List Value) (hys : ys ≠ []) :
    (array (xs ++ array ys :: zs)).display = (array (xs ++ ys ++ zs)).display := by
  simp [itemLeaves, leaves_array hys]

/-- A value in so many pairs of brackets. -/
def wrapped : Nat → Value → Value
  | 0, v => v
  | depth + 1, v => .array [wrapped depth v]

theorem isNullish_wrapped (h : v.isNullish = false) (depth : Nat) :
    (wrapped depth v).isNullish = false := by
  cases depth with
  | zero => exact h
  | succ depth => rfl

theorem display_wrapped (h : v.isNullish = false) (depth : Nat) :
    (wrapped depth v).display = v.display := by
  induction depth with
  | zero => rfl
  | succ depth ih =>
    have hitem : displayItems [wrapped depth v] = [v.display] := by
      rw [displayItems_eq_map, List.map_singleton, itemText, isNullish_wrapped h depth,
        if_neg Bool.false_ne_true, ih]
    rw [wrapped, display, hitem, String.intercalate_singleton]

end Value

end Vetting
