import Mathlib.Data.List.Forall2

/-!
# Data made of members of its own kind

Values and JSON trees are made of other values and trees.  What can be said about this without
knowing more is said here, about any type with a function that lists the members of its elements:
there is an induction over the members (`induction_of_members`), an element may occur in another at
any depth (`Occurs`), and the members of two elements may be related in pairs.
-/

namespace Vetting

variable {α β : Type} {members : α → List α} {x a : α}

/-- **What holds of everything whose members it holds of holds of everything**, as long as members
are smaller. -/
theorem induction_of_members [SizeOf α] (hsize : ∀ a, ∀ m ∈ members a, sizeOf m < sizeOf a)
    {motive : α → Prop} (h : ∀ a, (∀ m ∈ members a, motive m) → motive a) (a : α) : motive a :=
  h a fun m _ => induction_of_members hsize h m
termination_by sizeOf a
decreasing_by exact hsize a m (by assumption)

/-- An element is another one, or it occurs in one of the members. -/
inductive Occurs (members : α → List α) (x : α) : α → Prop
  | self : Occurs members x x
  | member {m a : α} (hm : m ∈ members a) (h : Occurs members x m) : Occurs members x a

theorem occurs_iff : Occurs members x a ↔ a = x ∨ ∃ m ∈ members a, Occurs members x m := by
  constructor
  · intro h
    cases h with
    | self => exact Or.inl rfl
    | member hm h => exact Or.inr ⟨_, hm, h⟩
  · rintro (rfl | ⟨m, hm, h⟩)
    · exact .self
    · exact .member hm h

/-- What occurs in the image of an element is the image of what occurs in it, if that goes for
members. -/
theorem exists_of_occurs_map {f : α → β} {images : β → List β}
    (hmembers : ∀ a, images (f a) = (members a).map f) {y : β} (h : Occurs images y (f a)) :
    ∃ x, Occurs members x a ∧ f x = y := by
  generalize hb : f a = b at h
  induction h generalizing a with
  | self => exact ⟨a, .self, hb⟩
  | member himage _ ih =>
    rw [← hb, hmembers] at himage
    obtain ⟨m, hm, hfm⟩ := List.mem_map.1 himage
    obtain ⟨x, hx, hy⟩ := ih hfm
    exact ⟨x, .member hm hx, hy⟩

/-! ## Members in pairs -/

section Pairs

variable {R S : α → α → Prop} {as bs cs : List α}

theorem forall₂_mono_of_mem (h : List.Forall₂ R as bs)
    (hRS : ∀ a ∈ as, ∀ b ∈ bs, R a b → S a b) : List.Forall₂ S as bs := by
  rw [List.forall₂_iff_zip] at h ⊢
  refine ⟨h.1, fun hmem => ?_⟩
  obtain ⟨ha, hb⟩ := List.of_mem_zip hmem
  exact hRS _ ha _ hb (h.2 hmem)

theorem forall₂_congr_of_mem (hRS : ∀ a ∈ as, ∀ b ∈ bs, (R a b ↔ S a b)) :
    List.Forall₂ R as bs ↔ List.Forall₂ S as bs :=
  ⟨fun h => forall₂_mono_of_mem h fun a ha b hb => (hRS a ha b hb).1,
    fun h => forall₂_mono_of_mem h fun a ha b hb => (hRS a ha b hb).2⟩

theorem map_eq_map_iff_forall₂ {f : α → β} :
    as.map f = bs.map f ↔ List.Forall₂ (fun a b => f a = f b) as bs := by
  rw [← List.forall₂_eq_eq_eq, List.forall₂_map_left_iff, List.forall₂_map_right_iff]

theorem forall₂_trans_of_mem (hab : List.Forall₂ R as bs) (hbc : List.Forall₂ R bs cs)
    (htrans : ∀ a ∈ as, ∀ b c, R a b → R b c → R a c) : List.Forall₂ R as cs := by
  induction hab generalizing cs with
  | nil => exact hbc
  | cons hab _ ih =>
    obtain ⟨hfirst, hrest⟩ := List.forall_mem_cons.1 htrans
    cases hbc with
    | cons hbc hbcs => exact .cons (hfirst _ _ hab hbc) (ih hbcs hrest)

end Pairs

end Vetting
