import Mathlib.Data.List.Nodup
import Vetting.Proofs.Lookup
import Vetting.Schema.Basic

/-!
# Declaring fields

A schema is built by declaring fields one after the other, in code or from a document, and a name
may be declared again.  `Schema.Built` says that a schema came about in this way.  Since declaring
a name again replaces its descriptor in place, no name is ever listed twice
(`Schema.Built.nodup_names`), and the descriptor of a name is the one declared last
(`Schema.find?_insert`).
-/

namespace Vetting

namespace Schema

/-- The names of the fields, in order of declaration. -/
def names (s : Schema) : List String := s.fields.map (·.1)

/-- The schemas that come about by declaring fields, in code or from a document. -/
inductive Built : Schema → Prop
  | empty : Built Schema.empty
  | ofJson {j : Json} {s : Schema} (h : Schema.ofJson j = .ok s) : Built s
  | insert {s : Schema} (h : Built s) (name : String) (descriptor : FieldDescriptor) :
      Built (s.insert name descriptor)

/-! ## One declaration -/

@[simp] theorem map_fst_insertInto (name : String) (descriptor : FieldDescriptor)
    (fields : List (String × FieldDescriptor)) :
    (insertInto name descriptor fields).map (·.1) =
      if name ∈ fields.map (·.1) then fields.map (·.1) else fields.map (·.1) ++ [name] := by
  induction fields with
  | nil => rfl
  | cons head rest ih =>
    rw [insertInto]
    by_cases hname : head.1 = name
    · simp [hname]
    · have hne : name ≠ head.1 := Ne.symm hname
      rw [if_neg hname, List.map_cons, ih, List.map_cons]
      split <;> simp_all

/-- A new name is listed behind the others, and a name that is declared again keeps its place. -/
theorem names_insert (s : Schema) (name : String) (descriptor : FieldDescriptor) :
    (s.insert name descriptor).names =
      if name ∈ s.names then s.names else s.names ++ [name] :=
  map_fst_insertInto name descriptor s.fields

theorem nodup_names_insert {s : Schema} (h : s.names.Nodup) (name : String)
    (descriptor : FieldDescriptor) : (s.insert name descriptor).names.Nodup := by
  rw [names_insert]
  split
  · exact h
  · rename_i hname
    refine List.nodup_append.2 ⟨h, List.nodup_singleton name, ?_⟩
    rintro a ha b hb rfl
    exact hname (List.mem_singleton.1 hb ▸ ha)

@[simp] theorem lookup_insertInto (name other : String) (descriptor : FieldDescriptor)
    (fields : List (String × FieldDescriptor)) :
    (insertInto name descriptor fields).lookup other =
      if other = name then some descriptor else fields.lookup other := by
  induction fields with
  | nil => rw [insertInto, lookup_cons_eq_ite]
  | cons head rest ih =>
    obtain ⟨key, stored⟩ := head
    rw [insertInto]
    by_cases hkey : key = name
    · rw [if_pos hkey, lookup_cons_eq_ite, lookup_cons_eq_ite, hkey]
      split <;> rfl
    · rw [if_neg hkey, lookup_cons_eq_ite, lookup_cons_eq_ite, ih]
      by_cases hother : other = key
      · rw [if_pos hother, if_neg (hother ▸ hkey), if_pos hother]
      · rw [if_neg hother, if_neg hother]

/-- **The descriptor of a name is the one declared last.** -/
@[simp] theorem find?_insert (s : Schema) (name other : String) (descriptor : FieldDescriptor) :
    (s.insert name descriptor).find? other =
      if other = name then some descriptor else s.find? other :=
  lookup_insertInto name other descriptor s.fields

theorem insertInto_of_notMem {name : String} {descriptor : FieldDescriptor}
    {fields : List (String × FieldDescriptor)} (h : name ∉ fields.map (·.1)) :
    insertInto name descriptor fields = fields ++ [(name, descriptor)] := by
  induction fields with
  | nil => rfl
  | cons head rest ih =>
    rw [List.map_cons, List.mem_cons, not_or] at h
    rw [insertInto, if_neg (Ne.symm h.1), ih h.2]
    rfl

/-! ## Many declarations -/

theorem nodup_names_insertMembers {members : List (String × Json)} {s t : Schema}
    (hs : s.names.Nodup) (h : insertMembers members s = .ok t) : t.names.Nodup := by
  induction members generalizing s with
  | nil =>
    cases h
    exact hs
  | cons head rest ih =>
    obtain ⟨name, j⟩ := head
    rw [insertMembers] at h
    cases hd : FieldDescriptor.ofJson name j with
    | error e =>
      rw [hd] at h
      cases h
    | ok descriptor =>
      rw [hd] at h
      exact ih (nodup_names_insert hs name descriptor) h

/-- **No field of a schema is listed twice.** -/
theorem Built.nodup_names {s : Schema} (h : s.Built) : s.names.Nodup := by
  induction h with
  | empty => exact List.nodup_nil
  | @ofJson j s h =>
    rw [Schema.ofJson] at h
    cases hj : j.asObject? with
    | none =>
      rw [hj] at h
      cases h
    | some members =>
      rw [hj] at h
      exact nodup_names_insertMembers (s := Schema.empty) List.nodup_nil h
  | insert _ name descriptor ih => exact nodup_names_insert ih name descriptor

/-- A field is listed with a descriptor exactly when that is what its name finds. -/
theorem Built.find?_eq_some_iff {s : Schema} (h : s.Built) {name : String}
    {descriptor : FieldDescriptor} :
    s.find? name = some descriptor ↔ (name, descriptor) ∈ s.fields :=
  lookup_eq_some_iff_mem h.nodup_names

end Schema

end Vetting
