import Mathlib.Data.List.Forall2
import Mathlib.Data.List.Nodup

/-!
# Looking names up in a list

Fields and built-in validators are kept in lists of names with what belongs to them, and found by
their names.  Two such lists that go together entry by entry answer look-ups together
(`exists_lookup_of_forall₂`).
-/

namespace Vetting

theorem lookup_cons_eq_ite {α : Type} (key other : String) (value : α)
    (entries : List (String × α)) :
    ((key, value) :: entries).lookup other =
      if other = key then some value else entries.lookup other := by
  rw [List.lookup_cons]
  by_cases h : other = key
  · rw [h, beq_self_eq_true, if_pos rfl]
  · rw [beq_false_of_ne h, if_neg h]

/-- Where the keys of a list are distinct, looking one up finds its entry. -/
theorem lookup_eq_some_iff_mem {α : Type} {entries : List (String × α)}
    (hnodup : (entries.map (·.1)).Nodup) {key : String} {value : α} :
    entries.lookup key = some value ↔ (key, value) ∈ entries := by
  induction entries with
  | nil => simp
  | cons head rest ih =>
    obtain ⟨name, stored⟩ := head
    obtain ⟨hhead, hrest⟩ := List.nodup_cons.1 hnodup
    rw [lookup_cons_eq_ite, List.mem_cons, Prod.mk.injEq]
    by_cases hkey : key = name
    · have hnotin : (key, value) ∉ rest := fun h =>
        hhead (hkey ▸ List.mem_map.2 ⟨(key, value), h, rfl⟩)
      rw [if_pos hkey, Option.some_inj, and_iff_right hkey, or_iff_left hnotin, eq_comm]
    · rw [if_neg hkey, ih hrest, or_iff_right fun h => hkey h.1]

/-- In two lists with the same names whose entries are related, so are the answers. -/
theorem exists_lookup_of_forall₂ {α β : Type} (related : String → α → β → Prop)
    {xs : List (String × α)} {ys : List (String × β)}
    (h : List.Forall₂ (fun x y => x.1 = y.1 ∧ related x.1 x.2 y.2) xs ys) {key : String} {a : α}
    (ha : xs.lookup key = some a) : ∃ b, ys.lookup key = some b ∧ related key a b := by
  induction h with
  | nil => cases ha
  | @cons x y xs ys hxy _ ih =>
    obtain ⟨name, value⟩ := x
    obtain ⟨_, b⟩ := y
    obtain ⟨rfl, hrelated⟩ := hxy
    rw [lookup_cons_eq_ite] at ha ⊢
    by_cases hkey : key = name
    · rw [if_pos hkey] at ha ⊢
      obtain rfl := Option.some.inj ha
      exact ⟨b, rfl, hkey ▸ hrelated⟩
    · rw [if_neg hkey] at ha ⊢
      exact ih ha

end Vetting
