import Mathlib.Data.List.Forall2
import Vetting.Proofs.Schema.Dependence
import Vetting.Regex.Size

/-!
# First failure and last failure

A field reports the first of its failures or the last, and one pass over its validators does for
both (`CompiledField.scan`): a failure replaces the one before it, and under first failure the pass
ends there.  What the pass leaves is what the policy picks among the rejections
(`CompiledField.scan_eq`), and everything about the two policies follows from how the two ends of a
list behave.

* Reversing the validators exchanges the policies (`Aggregation.pick_reverse`).
* The rejections of two lists in a row are those of the one and then those of the other, so reports
  compose: the part that the policy looks at first decides if it fails, and otherwise the other one
  does (`CompiledField.validate_append_lastFailure`, `CompiledField.validate_append_firstFailure`).
* Whether there is a rejection at all is a matter of each validator by itself, and neither the
  policy nor the order has a say in it (`CompiledField.isValid_validate_eq_all`).

Of a schema it follows that the policy shows in no verdict, and that rules put behind others
(`Schema.GrowsInto`) mend nothing.
-/

namespace Vetting

variable {a b : Aggregation} {x : Value}

/-! ## The two ends of a list of messages -/

namespace Aggregation

/-- The other policy. -/
def mirror : Aggregation → Aggregation
  | .lastFailure => .firstFailure
  | .firstFailure => .lastFailure

@[simp] theorem pick_reverse (a : Aggregation) (messages : List String) :
    a.pick messages.reverse = a.mirror.pick messages := by
  cases a with
  | lastFailure => exact List.getLast?_reverse
  | firstFailure => exact List.head?_reverse

@[simp] theorem pick_cons_lastFailure (message : String) (messages : List String) :
    lastFailure.pick (message :: messages) = (lastFailure.pick messages).or (some message) := by
  simp only [pick, List.getLast?_cons]
  cases messages.getLast? <;> rfl

end Aggregation

theorem FieldReport.ofError_or (error other : Option String) :
    ofError (error.or other) =
      if (ofError error).isValid then ofError other else ofError error := by
  cases error <;> rfl

@[simp] theorem Outcome.isValid_eq_true_iff {o : Outcome} : o.isValid = true ↔ o = .valid := by
  cases o <;> simp [isValid]

/-! ## One pass for both policies -/

namespace CompiledField

/-- One pass over validators, given the failure found before them.  A failure replaces the one
before it, a success leaves it, and under first failure the pass ends at a failure. -/
def scan (a : Aggregation) (x : Value) : Option String → List Validator → Option String
  | found, [] => found
  | found, v :: rest =>
    match v.validate x with
    | .valid => scan a x found rest
    | .invalid message => if a = .firstFailure then some message else scan a x (some message) rest

variable {v : Validator} {vs ws : List Validator} {found : Option String} {message : String}

theorem scan_cons_of_valid (h : v.validate x = .valid) :
    scan a x found (v :: vs) = scan a x found vs := by
  rw [scan, h]

theorem scan_cons_of_invalid (h : v.validate x = .invalid message) :
    scan a x found (v :: vs) =
      if a = .firstFailure then some message else scan a x (some message) vs := by
  rw [scan, h]

/-- **What a pass leaves is what the policy picks among the rejections**, or else what was found
before them. -/
theorem scan_eq (a : Aggregation) (x : Value) (found : Option String) (vs : List Validator) :
    scan a x found vs = (a.pick (rejections vs x)).or found := by
  induction vs generalizing found with
  | nil => cases a <;> rfl
  | cons v rest ih =>
    cases hv : v.validate x with
    | valid => rw [scan_cons_of_valid hv, ih, rejections_cons_of_valid hv]
    | invalid message =>
      rw [scan_cons_of_invalid hv, rejections_cons_of_invalid hv]
      cases a with
      | firstFailure => rfl
      | lastFailure =>
        -- the message is kept only if the rest of the pass finds no other
        rw [if_neg (by decide), ih, Aggregation.pick_cons_lastFailure, Option.or_assoc]
        rfl

/-- A report is made in one pass, which starts with no failure found. -/
theorem validate_eq_scan (f : CompiledField) (x : Value) :
    f.validate x = .ofError (scan f.aggregation x none f.validators) := by
  rw [scan_eq, Option.or_none, validate_eq_ofError]

/-! ## The laws of reports -/

@[simp] theorem rejections_append (vs ws : List Validator) (x : Value) :
    rejections (vs ++ ws) x = rejections vs x ++ rejections ws x := List.filterMap_append

@[simp] theorem rejections_reverse (vs : List Validator) (x : Value) :
    rejections vs.reverse x = (rejections vs x).reverse := List.filterMap_reverse

/-- **The policies are mirror images.** -/
theorem validate_reverse (a : Aggregation) (vs : List Validator) (x : Value) :
    validate ⟨vs.reverse, a⟩ x = validate ⟨vs, a.mirror⟩ x := by
  rw [validate_eq_ofError, validate_eq_ofError]
  dsimp only
  rw [rejections_reverse, Aggregation.pick_reverse]

/-- The last failure of two lists in a row is that of the second, if it fails. -/
theorem validate_append_lastFailure (vs ws : List Validator) (x : Value) :
    validate ⟨vs ++ ws, .lastFailure⟩ x =
      if (validate ⟨ws, .lastFailure⟩ x).isValid then validate ⟨vs, .lastFailure⟩ x
      else validate ⟨ws, .lastFailure⟩ x := by
  simp only [validate_eq_ofError, rejections_append, Aggregation.pick, List.getLast?_append,
    FieldReport.ofError_or]

/-- The first failure of two lists in a row is that of the first, if it fails. -/
theorem validate_append_firstFailure (vs ws : List Validator) (x : Value) :
    validate ⟨vs ++ ws, .firstFailure⟩ x =
      if (validate ⟨vs, .firstFailure⟩ x).isValid then validate ⟨ws, .firstFailure⟩ x
      else validate ⟨vs, .firstFailure⟩ x := by
  simp only [validate_eq_ofError, rejections_append, Aggregation.pick, List.head?_append,
    FieldReport.ofError_or]

/-- **A field is valid when all its validators say so**, whatever the policy. -/
theorem isValid_validate_eq_all (f : CompiledField) (x : Value) :
    (f.validate x).isValid = f.validators.all fun v => (v.validate x).isValid := by
  rw [Bool.eq_iff_iff, isValid_validate, Option.isNone_iff_eq_none, error_validate_eq_none_iff,
    List.all_eq_true]
  exact forall₂_congr fun v _ => Outcome.isValid_eq_true_iff.symm

theorem isValid_validate_eq_false_iff {f : CompiledField} :
    (f.validate x).isValid = false ↔ ∃ v ∈ f.validators, (v.validate x).isValid = false := by
  rw [isValid_validate_eq_all, List.all_eq_false]
  simp only [Bool.not_eq_true]

/-- Neither the order of validators nor their repetition has a say in the verdict. -/
theorem isValid_validate_congr (h : ∀ v, v ∈ vs ↔ v ∈ ws) :
    (validate ⟨vs, a⟩ x).isValid = (validate ⟨ws, b⟩ x).isValid := by
  rw [isValid_validate_eq_all, isValid_validate_eq_all, Bool.eq_iff_iff, List.all_eq_true,
    List.all_eq_true]
  simp only [h]

/-- A failure outlasts whatever validators are put around it. -/
theorem isValid_validate_of_subset (h : vs ⊆ ws) (hvs : (validate ⟨vs, a⟩ x).isValid = false) :
    (validate ⟨ws, b⟩ x).isValid = false := by
  obtain ⟨v, hv, hrejects⟩ := isValid_validate_eq_false_iff.1 hvs
  exact isValid_validate_eq_false_iff.2 ⟨v, h hv, hrejects⟩

end CompiledField

/-! ## Schemas -/

/-- A field is in error exactly when it is compiled and fails on its value. -/
theorem CompiledSchema.mem_keys_errors_iff {c : CompiledSchema}
    (hnodup : (c.fields.map (·.1)).Nodup) {name : String} :
    name ∈ (c.validate x).errors.keys ↔
      ∃ f, c.field? name = some f ∧ (f.validate (x.get name)).isValid = false := by
  simp only [Dict.mem_keys_iff, find?_errors_validate hnodup, Option.bind_eq_some_iff]
  rw [exists_comm]
  refine exists_congr fun f => ?_
  rw [exists_and_left, CompiledField.isValid_validate, Option.isNone_eq_false_iff,
    Option.isSome_iff_exists]

/-- Every field that has rules keeps them, and more may follow. -/
def Schema.GrowsInto (s t : Schema) : Prop :=
  ∀ name rules, s.find? name = some ⟨some rules⟩ →
    ∃ more, t.find? name = some ⟨some (rules ++ more)⟩

theorem Schema.GrowsInto.refl (s : Schema) : s.GrowsInto s := by
  intro name rules h
  exact ⟨[], by rw [List.append_nil, h]⟩

namespace Registry

variable {r : Registry} {s t : Schema} {c d : CompiledSchema} {rules more : List Rule}
  {vs : List Validator}

/-- Whether a schema compiles is no matter of the policy. -/
theorem exists_compile_iff_exists_compile (hs : s.Built) :
    (∃ c, r.compile s a = .ok c) ↔ ∃ d, r.compile s b = .ok d := by
  rw [exists_compile_iff_of_built hs, exists_compile_iff_of_built hs]

/-- Rules that are put behind others and resolve give validators behind the others. -/
theorem Resolves.exists_append (h : r.Resolves rules vs)
    (hmore : ∀ rule ∈ more, ∃ v, r.resolve rule = .ok v) :
    ∃ ws, r.Resolves (rules ++ more) (vs ++ ws) := by
  obtain ⟨ws, hws⟩ := exists_mapM_eq_ok_iff.2 hmore
  exact ⟨ws, List.rel_append h (mapM_eq_ok_iff.1 hws)⟩

/-- **More rules mend nothing**, and the policy has no say in it. -/
theorem mem_keys_errors_of_growsInto (hs : s.Built) (ht : t.Built) (h : s.GrowsInto t)
    (hc : r.compile s a = .ok c) (hd : r.compile t b = .ok d) {name : String}
    (hname : name ∈ (c.validate x).errors.keys) : name ∈ (d.validate x).errors.keys := by
  rw [CompiledSchema.mem_keys_errors_iff (nodup_names_of_compile hs hc)] at hname
  rw [CompiledSchema.mem_keys_errors_iff (nodup_names_of_compile ht hd)]
  obtain ⟨⟨vs, _⟩, hfield, hfails⟩ := hname
  obtain ⟨rules, hrules, hresolves, -⟩ := (field?_eq_some_iff_of_compile hs hc).1 hfield
  obtain ⟨more, hgrown⟩ := h name rules hrules
  have hall := (exists_compile_iff_of_built ht).1 ⟨d, hd⟩ name _ hgrown
  -- in `t` the field has the validators that it has in `s`, with others behind them
  obtain ⟨ws, hws⟩ := hresolves.exists_append fun rule hrule =>
    hall rule (List.mem_append_right _ hrule)
  refine ⟨⟨vs ++ ws, b⟩, (field?_eq_some_iff_of_compile ht hd).2 ⟨_, hgrown, hws, rfl⟩, ?_⟩
  exact CompiledField.isValid_validate_of_subset (List.subset_append_left vs ws) hfails

/-- **The two policies are mirror images and compose.**  First failure on a list is last failure on
the list reversed.  Both are one pass and agree on the verdict, which is the conjunction of the
verdicts of the validators, so that reordering or repeating these does not change it.  In a list
split in two, the last failure is that of the second part if this fails and otherwise that of the
first, and the first failure the other way round; and a failure outlasts what is put behind it.

Hence a schema compiles under both policies or under neither, with the same fields in error on every
value, and no rules put behind those of its fields turn a field in error into one that passes. -/
theorem policies_mirrored (vs ws : List Validator) (x : Value) :
    (∀ a, CompiledField.validate ⟨vs, a⟩ x = .ofError (CompiledField.scan a x none vs)) ∧
    CompiledField.validate ⟨vs, .firstFailure⟩ x =
      CompiledField.validate ⟨vs.reverse, .lastFailure⟩ x ∧
    (∀ a, (CompiledField.validate ⟨vs, a⟩ x).isValid = vs.all fun v => (v.validate x).isValid) ∧
    (∀ a b, (∀ v, v ∈ vs ↔ v ∈ ws) →
      (CompiledField.validate ⟨vs, a⟩ x).isValid = (CompiledField.validate ⟨ws, b⟩ x).isValid) ∧
    (CompiledField.validate ⟨vs ++ ws, .lastFailure⟩ x =
      if (CompiledField.validate ⟨ws, .lastFailure⟩ x).isValid then
        CompiledField.validate ⟨vs, .lastFailure⟩ x
      else CompiledField.validate ⟨ws, .lastFailure⟩ x) ∧
    (CompiledField.validate ⟨vs ++ ws, .firstFailure⟩ x =
      if (CompiledField.validate ⟨vs, .firstFailure⟩ x).isValid then
        CompiledField.validate ⟨ws, .firstFailure⟩ x
      else CompiledField.validate ⟨vs, .firstFailure⟩ x) ∧
    (∀ a b, (CompiledField.validate ⟨vs, a⟩ x).isValid = false →
      (CompiledField.validate ⟨vs ++ ws, b⟩ x).isValid = false) ∧
    ∀ (r : Registry) (s : Schema) (a b : Aggregation) (c : CompiledSchema), s.Built →
      r.compile s a = .ok c →
      (∃ d, r.compile s b = .ok d ∧
        ∀ name, name ∈ (d.validate x).errors.keys ↔ name ∈ (c.validate x).errors.keys) ∧
      ∀ (t : Schema) (d : CompiledSchema), t.Built → s.GrowsInto t → r.compile t b = .ok d →
        ∀ name ∈ (c.validate x).errors.keys, name ∈ (d.validate x).errors.keys := by
  refine ⟨fun a => CompiledField.validate_eq_scan _ x,
    (CompiledField.validate_reverse .lastFailure vs x).symm,
    fun a => CompiledField.isValid_validate_eq_all _ x,
    fun a b h => CompiledField.isValid_validate_congr h,
    CompiledField.validate_append_lastFailure vs ws x,
    CompiledField.validate_append_firstFailure vs ws x, fun a b h => ?_,
    fun r s a b c hs hc => ⟨?_, fun t d ht hgrows hd name hname => ?_⟩⟩
  · exact CompiledField.isValid_validate_of_subset (List.subset_append_left vs ws) h
  · obtain ⟨d, hd⟩ := (exists_compile_iff_exists_compile (b := b) hs).1 ⟨c, hc⟩
    refine ⟨d, hd, fun name => ⟨fun h => ?_, fun h => ?_⟩⟩
    · exact mem_keys_errors_of_growsInto hs hs (.refl s) hd hc h
    · exact mem_keys_errors_of_growsInto hs hs (.refl s) hc hd h
  · exact mem_keys_errors_of_growsInto hs ht hgrows hc hd hname

section

attribute [local instance] Regex.Engine.standard

/-- A value is missing where a second rule was put behind `required`.  The field stays in error and
the other rule speaks for it, which it also does as the first failure of the reversed rules. -/
theorem policies_mirrored_second_rule :
    ∃ c d, builtins.compile (Schema.empty.insert "agreed" ⟨some [.name "required"]⟩)
        .firstFailure = .ok c ∧
      builtins.compile (Schema.empty.insert "agreed" ⟨some [.name "required", .name "boolean"]⟩)
        .lastFailure = .ok d ∧
      "agreed" ∈ (c.validate .undefined).errors.keys ∧
      "agreed" ∈ (d.validate .undefined).errors.keys ∧
      CompiledField.validate ⟨[Builtin.required] ++ [Builtin.booleanDefault], .lastFailure⟩
        .undefined = ⟨false, some "Must be true or false."⟩ ∧
      (CompiledField.validate ⟨[Builtin.required] ++ [Builtin.booleanDefault], .firstFailure⟩
        .undefined).isValid = false ∧
      CompiledField.validate ⟨[Builtin.booleanDefault, Builtin.required], .firstFailure⟩
        .undefined = ⟨false, some "Must be true or false."⟩ ∧
      (CompiledField.validate ⟨[Builtin.required, Builtin.required], .lastFailure⟩
        .undefined).isValid = false := by
  have hgrows : Schema.GrowsInto (Schema.empty.insert "agreed" ⟨some [.name "required"]⟩)
      (Schema.empty.insert "agreed" ⟨some [.name "required", .name "boolean"]⟩) := by
    intro name rules h
    by_cases hname : name = "agreed"
    · rw [hname, Schema.find?_insert, if_pos rfl] at h
      cases h
      exact ⟨[.name "boolean"], by simp [hname]⟩
    · rw [Schema.find?_insert, if_neg hname] at h
      cases h
  have hrequired : (CompiledField.validate ⟨[Builtin.required], .firstFailure⟩ .undefined).isValid =
      false := by decide
  obtain ⟨-, -, -, -, hlast, -, hmore, hschema⟩ :=
    policies_mirrored [Builtin.required] [Builtin.booleanDefault] .undefined
  obtain ⟨-, hmirror, -⟩ :=
    policies_mirrored [Builtin.booleanDefault, Builtin.required] [] .undefined
  obtain ⟨-, -, -, hcongr, -⟩ :=
    policies_mirrored [Builtin.required] [Builtin.required, Builtin.required] .undefined
  have hbuilt : ∀ rules, (Schema.empty.insert "agreed" ⟨some rules⟩).Built :=
    fun rules => Schema.Built.empty.insert "agreed" ⟨some rules⟩
  have hagreed := (hschema builtins _ .firstFailure .lastFailure _ (hbuilt _) rfl).2 _ _ (hbuilt _)
    hgrows rfl "agreed" (by decide)
  refine ⟨_, _, rfl, rfl, by decide, hagreed, ?_, hmore .firstFailure _ hrequired, ?_, ?_⟩
  · rw [hlast]
    decide
  · rw [hmirror]
    decide
  · rw [← hcongr .firstFailure .lastFailure (by simp), hrequired]

end

end Registry

end Vetting
