import Mathlib.Data.List.Forall2

/-!
# Steps that may fail

Rules are resolved, descriptors read and documents loaded one by one, up to the first error.  All of
these are `List.mapM` over `Except`, and this file says what that means without the monad.

* `mapM_eq_ok_iff`: it succeeds exactly when every step does, with the results side by side.
* `mapM_eq_error_iff`: it fails exactly with the error of the first step that fails
  (`FailsFirst`).
* `failsFirst_flatMap`: in a list of lists, the first failure is that of the first list that
  fails, so an order within an order is the order of the flattened list.
-/

namespace Vetting

variable {ε α β γ δ : Type}

/-! ## One step after another -/

@[simp] theorem ok_bind (a : α) (f : α → Except ε β) : (Except.ok a >>= f) = f a := rfl

@[simp] theorem error_bind (e : ε) (f : α → Except ε β) :
    ((Except.error e : Except ε α) >>= f) = .error e := rfl

@[simp] theorem pure_eq_ok (a : α) : (pure a : Except ε α) = .ok a := rfl

@[simp] theorem map_ok (a : α) (f : α → β) : (Except.ok a : Except ε α).map f = .ok (f a) := rfl

@[simp] theorem map_error (e : ε) (f : α → β) :
    (Except.error e : Except ε α).map f = .error e := rfl

theorem not_exists_error_eq_ok {e : ε} : ¬ ∃ a : α, (Except.error e : Except ε α) = .ok a := by
  rintro ⟨_, ⟨⟩⟩

@[simp] theorem bind_eq_ok_iff {x : Except ε α} {f : α → Except ε β} {b : β} :
    (x >>= f) = .ok b ↔ ∃ a, x = .ok a ∧ f a = .ok b := by
  cases x with
  | error e => simp
  | ok a => simp

@[simp] theorem bind_eq_error_iff {x : Except ε α} {f : α → Except ε β} {e : ε} :
    (x >>= f) = .error e ↔ x = .error e ∨ ∃ a, x = .ok a ∧ f a = .error e := by
  cases x with
  | error e => simp
  | ok a => simp

theorem exists_bind_eq_ok_iff {x : Except ε α} {f : α → Except ε β} :
    (∃ b, (x >>= f) = .ok b) ↔ ∃ a, x = .ok a ∧ ∃ b, f a = .ok b := by
  cases x with
  | error e => simp
  | ok a => simp

theorem exists_pure_eq_ok (a : α) : ∃ b, (pure a : Except ε α) = .ok b := ⟨a, rfl⟩

@[simp] theorem map_eq_ok_iff {x : Except ε α} {f : α → β} {b : β} :
    x.map f = .ok b ↔ ∃ a, x = .ok a ∧ f a = b := by
  cases x with
  | error e => simp
  | ok a => simp

@[simp] theorem map_eq_error_iff {x : Except ε α} {f : α → β} {e : ε} :
    x.map f = .error e ↔ x = .error e := by
  cases x with
  | error e => simp
  | ok a => simp

@[simp] theorem mapError_eq_ok_iff {x : Except ε α} {f : ε → δ} {a : α} :
    x.mapError f = .ok a ↔ x = .ok a := by
  cases x with
  | error e => simp [Except.mapError]
  | ok b => simp [Except.mapError]

@[simp] theorem mapError_eq_error_iff {x : Except ε α} {f : ε → δ} {e : δ} :
    x.mapError f = .error e ↔ ∃ cause, x = .error cause ∧ f cause = e := by
  cases x with
  | error cause => simp [Except.mapError]
  | ok a => simp [Except.mapError]

theorem exists_map_eq_ok_iff {x : Except ε α} {f : α → β} :
    (∃ b, x.map f = .ok b) ↔ ∃ a, x = .ok a := by
  simp only [map_eq_ok_iff]
  exact ⟨fun ⟨_, a, h, _⟩ => ⟨a, h⟩, fun ⟨a, h⟩ => ⟨f a, a, h, rfl⟩⟩

/-! ## The steps of a list -/

/-- The first step that fails does so with the error `e`. -/
def FailsFirst (f : α → Except ε β) (steps : List α) (e : ε) : Prop :=
  ∃ before a after, steps = before ++ a :: after ∧
    (∀ b ∈ before, ∃ result, f b = .ok result) ∧ f a = .error e

@[simp] theorem failsFirst_nil {f : α → Except ε β} {e : ε} : ¬ FailsFirst f [] e := by
  rintro ⟨before, a, after, h, -⟩
  exact List.append_ne_nil_of_right_ne_nil before (List.cons_ne_nil a after) h.symm

@[simp] theorem failsFirst_cons {f : α → Except ε β} {a : α} {steps : List α} {e : ε} :
    FailsFirst f (a :: steps) e ↔
      f a = .error e ∨ ∃ b, f a = .ok b ∧ FailsFirst f steps e := by
  constructor
  · rintro ⟨before, a', after, h, hbefore, ha⟩
    rcases before with _ | ⟨b, before⟩
    · obtain ⟨rfl, -⟩ := List.cons.inj h
      exact Or.inl ha
    · obtain ⟨rfl, hsteps⟩ := List.cons.inj h
      obtain ⟨result, hb⟩ := hbefore _ List.mem_cons_self
      exact Or.inr ⟨result, hb, before, a', after, hsteps,
        fun c hc => hbefore c (List.mem_cons_of_mem _ hc), ha⟩
  · rintro (h | ⟨b, hb, before, a', after, hsteps, hbefore, ha⟩)
    · exact ⟨[], a, steps, rfl, fun _ hb => absurd hb List.not_mem_nil, h⟩
    · refine ⟨a :: before, a', after, by rw [hsteps]; rfl, fun c hc => ?_, ha⟩
      rcases List.mem_cons.1 hc with rfl | hc
      · exact ⟨b, hb⟩
      · exact hbefore c hc

/-- What is made of the results does not matter to the failures. -/
theorem failsFirst_map {f : α → Except ε β} {g : α → β → γ} {steps : List α} {e : ε} :
    FailsFirst (fun a => (f a).map (g a)) steps e ↔ FailsFirst f steps e := by
  simp only [FailsFirst, map_eq_error_iff, exists_map_eq_ok_iff]

/-- **The steps succeed exactly when each of them does.** -/
@[simp] theorem mapM_eq_ok_iff {f : α → Except ε β} {steps : List α} {results : List β} :
    steps.mapM f = .ok results ↔ List.Forall₂ (fun a b => f a = .ok b) steps results := by
  induction steps generalizing results with
  | nil =>
    rw [List.mapM_nil, List.forall₂_nil_left_iff]
    exact ⟨fun h => (Except.ok.inj h).symm, fun h => by rw [h]; rfl⟩
  | cons a steps ih =>
    rw [List.mapM_cons, bind_eq_ok_iff, List.forall₂_cons_left_iff]
    constructor
    · rintro ⟨b, hb, h⟩
      obtain ⟨rest, hrest, h⟩ := bind_eq_ok_iff.1 h
      exact ⟨b, rest, hb, ih.1 hrest, (Except.ok.inj h).symm⟩
    · rintro ⟨b, rest, hb, hrest, rfl⟩
      exact ⟨b, hb, bind_eq_ok_iff.2 ⟨rest, ih.2 hrest, rfl⟩⟩

/-- **Steps that do not all succeed fail with the first error among them.** -/
@[simp] theorem mapM_eq_error_iff {f : α → Except ε β} {steps : List α} {e : ε} :
    steps.mapM f = .error e ↔ FailsFirst f steps e := by
  induction steps with
  | nil =>
    rw [List.mapM_nil]
    exact iff_of_false (fun h => nomatch h) failsFirst_nil
  | cons a steps ih =>
    rw [List.mapM_cons, bind_eq_error_iff, failsFirst_cons]
    refine or_congr Iff.rfl (exists_congr fun b => and_congr Iff.rfl ?_)
    rw [bind_eq_error_iff, ih]
    exact or_iff_left fun ⟨_, _, h⟩ => nomatch h

theorem exists_mapM_eq_ok_iff {f : α → Except ε β} {steps : List α} :
    (∃ results, steps.mapM f = .ok results) ↔ ∀ a ∈ steps, ∃ b, f a = .ok b := by
  induction steps with
  | nil => exact iff_of_true ⟨[], rfl⟩ fun _ h => absurd h List.not_mem_nil
  | cons a steps ih =>
    rw [List.forall_mem_cons, ← ih]
    constructor
    · rintro ⟨results, h⟩
      obtain ⟨b, rest, hb, hrest, -⟩ := List.forall₂_cons_left_iff.1 (mapM_eq_ok_iff.1 h)
      exact ⟨⟨b, hb⟩, rest, mapM_eq_ok_iff.2 hrest⟩
    · rintro ⟨⟨b, hb⟩, rest, hrest⟩
      exact ⟨b :: rest, mapM_eq_ok_iff.2 (.cons hb (mapM_eq_ok_iff.1 hrest))⟩

/-- What steps yield is what some one of them yields. -/
theorem mem_iff_of_mapM_eq_ok {f : α → Except ε β} {steps : List α} {results : List β}
    (h : steps.mapM f = .ok results) {b : β} : b ∈ results ↔ ∃ a ∈ steps, f a = .ok b := by
  induction steps generalizing results with
  | nil =>
    obtain rfl := Except.ok.inj h
    simp
  | cons a steps ih =>
    obtain ⟨c, rest, hac, hrest, rfl⟩ := List.forall₂_cons_left_iff.1 (mapM_eq_ok_iff.1 h)
    rw [List.mem_cons, ih (mapM_eq_ok_iff.2 hrest), List.exists_mem_cons_iff, hac,
      Except.ok.injEq, eq_comm]

/-- Steps that do the same one by one do the same together. -/
theorem mapM_eq_of_forall₂ {f : α → Except ε γ} {g : β → Except ε γ} {steps : List α}
    {others : List β} (h : List.Forall₂ (fun a b => f a = g b) steps others) :
    steps.mapM f = others.mapM g := by
  induction h with
  | nil => rfl
  | cons hab _ ih => rw [List.mapM_cons, List.mapM_cons, hab, ih]

/-- **Steps that go together one by one go together as a whole**, and so do their results. -/
theorem exists_mapM_of_forall₂ {f : α → Except ε γ} {g : β → Except ε δ} {R : α → β → Prop}
    {S : γ → δ → Prop}
    (hstep : ∀ a b c, R a b → f a = .ok c → ∃ d, g b = .ok d ∧ S c d) {steps : List α}
    {others : List β} (h : List.Forall₂ R steps others) {results : List γ}
    (hresults : steps.mapM f = .ok results) :
    ∃ otherResults, others.mapM g = .ok otherResults ∧ List.Forall₂ S results otherResults := by
  rw [mapM_eq_ok_iff] at hresults
  induction h generalizing results with
  | nil =>
    cases hresults
    exact ⟨[], rfl, .nil⟩
  | cons hab _ ih =>
    cases hresults with
    | cons hfirst hrest =>
      obtain ⟨d, hd, hcd⟩ := hstep _ _ _ hab hfirst
      obtain ⟨rest, hother, hforall⟩ := ih hrest
      exact ⟨d :: rest, mapM_eq_ok_iff.2 (.cons hd (mapM_eq_ok_iff.1 hother)), .cons hcd hforall⟩

/-- Working through the lists of a list is working through the list they make up. -/
theorem mapM_flatMap_eq {f : β → Except ε γ} (g : α → List β) (lists : List α) :
    (lists.flatMap g).mapM f =
      (lists.mapM fun a => (g a).mapM f).map List.flatten := by
  induction lists with
  | nil => rfl
  | cons a lists ih =>
    rw [List.flatMap_cons, List.mapM_append, List.mapM_cons, ih]
    cases (g a).mapM f with
    | error e => rfl
    | ok results => cases lists.mapM fun a => (g a).mapM f <;> rfl

/-- The first list that fails fails where the flattened list does. -/
theorem failsFirst_flatMap {f : β → Except ε γ} {g : α → List β} {lists : List α} {e : ε} :
    FailsFirst f (lists.flatMap g) e ↔ FailsFirst (fun a => (g a).mapM f) lists e := by
  rw [← mapM_eq_error_iff, ← mapM_eq_error_iff, mapM_flatMap_eq, map_eq_error_iff]

end Vetting
