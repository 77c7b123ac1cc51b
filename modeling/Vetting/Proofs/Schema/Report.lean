import Mathlib.Data.List.Forall2
import Vetting.Proofs.Dict
import Vetting.Proofs.Schema.Declaration
import Vetting.Proofs.Steps
import Vetting.Schema.Compiled

/-!
# What a report says

A report is made by one pass over the compiled fields, each of which makes one pass over its
validators.  Neither pass is mentioned in what is proved about it.

* `Aggregation.Rejects`: the message with which a list of validators rejects a value, told by where
  in the list the validator stands whose message it is.
* `CompiledSchema.find?_errors_validate`: looking a field up in the errors of a report is validating
  that field alone.  This needs the names of the fields to be distinct, since otherwise one field
  would overwrite the failure of another.
* `Registry.mem_compileFields`: the compiled fields are the declared ones with a rule list, each
  with what its rules resolve to.
* `Registry.compile_report`: the two together, for every schema that was built by declarations.
-/

namespace Vetting

/-- The value of a field is the stored one, or undefined where nothing is stored under its name. -/
theorem Value.get_cases (x : Value) (name : String) :
    (∃ o, x.asObject? = some o ∧ o.find? name = some (x.get name)) ∨
      ((∀ o, x.asObject? = some o → o.find? name = none) ∧ x.get name = .undefined) := by
  rw [get]
  cases x.asObject? with
  | none => exact Or.inr ⟨fun _ h => absurd h (Option.some_ne_none _).symm, rfl⟩
  | some o =>
    show (∃ p, some o = some p ∧ p.find? name = some ((o.find? name).getD .undefined)) ∨
      ((∀ p, some o = some p → p.find? name = none) ∧
        (o.find? name).getD .undefined = .undefined)
    cases hname : o.find? name with
    | none => exact Or.inr ⟨fun p hp => Option.some.inj hp ▸ hname, rfl⟩
    | some stored => exact Or.inl ⟨o, rfl, hname⟩

/-! ## The verdict on a field -/

namespace Aggregation

/-- The message reported of those with which a field fails. -/
def pick : Aggregation → List String → Option String
  | .lastFailure, messages => messages.getLast?
  | .firstFailure, messages => messages.head?

@[simp] theorem pick_eq_none_iff {a : Aggregation} {messages : List String} :
    a.pick messages = none ↔ messages = [] := by
  cases a with
  | lastFailure => exact List.getLast?_eq_none_iff
  | firstFailure => exact List.head?_eq_none_iff

/-- Validators reject a value with a message under a policy: it is the message of the first of them
that rejects it, or of the last. -/
inductive Rejects (x : Value) : Aggregation → List Validator → String → Prop
  | first {before after : List Validator} {v : Validator} {message : String}
      (hbefore : ∀ w ∈ before, w.validate x = .valid) (hv : v.validate x = .invalid message) :
      Rejects x .firstFailure (before ++ v :: after) message
  | last {before after : List Validator} {v : Validator} {message : String}
      (hv : v.validate x = .invalid message) (hafter : ∀ w ∈ after, w.validate x = .valid) :
      Rejects x .lastFailure (before ++ v :: after) message

end Aggregation

@[simp] theorem Outcome.isValid_eq_false_iff {o : Outcome} : o.isValid = false ↔ o ≠ .valid := by
  cases o <;> simp [isValid]

@[simp] theorem Outcome.error?_eq_none_iff {o : Outcome} : o.error? = none ↔ o = .valid := by
  cases o <;> simp [error?]

@[simp] theorem Outcome.error?_eq_some_iff {o : Outcome} {message : String} :
    o.error? = some message ↔ o = .invalid message := by
  cases o <;> simp [error?]

namespace CompiledField

/-- The messages of the validators that reject a value, in order. -/
def rejections (validators : List Validator) (x : Value) : List String :=
  validators.filterMap fun v => (v.validate x).error?

@[simp] theorem rejections_cons_of_valid {v : Validator} {vs : List Validator} {x : Value}
    (h : v.validate x = .valid) : rejections (v :: vs) x = rejections vs x := by
  rw [rejections, rejections, List.filterMap_cons, h]
  rfl

@[simp] theorem rejections_cons_of_invalid {v : Validator} {vs : List Validator} {x : Value}
    {message : String} (h : v.validate x = .invalid message) :
    rejections (v :: vs) x = message :: rejections vs x := by
  rw [rejections, rejections, List.filterMap_cons, h]
  rfl

theorem firstError_eq (validators : List Validator) (x : Value) :
    firstError validators x = (rejections validators x).head? := by
  induction validators with
  | nil => rfl
  | cons v rest ih =>
    rw [firstError, ih, rejections, rejections, List.filterMap_cons]
    cases (v.validate x).error? <;> rfl

theorem lastError_eq (found : Option String) (validators : List Validator) (x : Value) :
    lastError found validators x = (rejections validators x).getLast?.or found := by
  induction validators generalizing found with
  | nil => rfl
  | cons v rest ih =>
    rw [lastError, ih, rejections, rejections, List.filterMap_cons]
    cases (v.validate x).error? with
    | none => rfl
    | some message =>
      rw [List.getLast?_cons]
      cases (List.filterMap (fun v => (v.validate x).error?) rest).getLast? <;> rfl

theorem error_validate (f : CompiledField) (x : Value) :
    (f.validate x).error = f.aggregation.pick (rejections f.validators x) := by
  obtain ⟨validators, aggregation⟩ := f
  cases aggregation with
  | lastFailure =>
    show lastError none validators x = _
    rw [lastError_eq, Option.or_none]
    rfl
  | firstFailure =>
    show firstError validators x = _
    rw [firstError_eq]
    rfl

/-- **A report is made of the policy and the rejections.** -/
theorem validate_eq_ofError (f : CompiledField) (x : Value) :
    f.validate x = .ofError (f.aggregation.pick (rejections f.validators x)) := by
  rw [← error_validate, validate]
  split <;> rfl

theorem isValid_validate (f : CompiledField) (x : Value) :
    (f.validate x).isValid = (f.validate x).error.isNone := by
  rw [validate]
  split <;> rfl

/-- **A field passes exactly when all its validators accept the value.** -/
theorem error_validate_eq_none_iff {f : CompiledField} {x : Value} :
    (f.validate x).error = none ↔ ∀ v ∈ f.validators, v.validate x = .valid := by
  rw [error_validate, Aggregation.pick_eq_none_iff, rejections, List.filterMap_eq_nil_iff]
  exact forall₂_congr fun v _ => Outcome.error?_eq_none_iff

/-- **A field fails with the message its policy chooses among the rejections.** -/
theorem error_validate_eq_some_iff {f : CompiledField} {x : Value} {message : String} :
    (f.validate x).error = some message ↔ f.aggregation.Rejects x f.validators message := by
  rw [error_validate]
  obtain ⟨validators, aggregation⟩ := f
  cases aggregation with
  | firstFailure =>
    rw [Aggregation.pick, rejections, List.head?_filterMap, List.findSome?_eq_some_iff]
    constructor
    · rintro ⟨before, v, after, rfl, hv, hbefore⟩
      exact .first (fun w hw => Outcome.error?_eq_none_iff.1 (hbefore w hw))
        (Outcome.error?_eq_some_iff.1 hv)
    · intro h
      cases h with
      | @first before after v _ hbefore hv =>
        exact ⟨before, v, after, rfl, Outcome.error?_eq_some_iff.2 hv,
          fun w hw => Outcome.error?_eq_none_iff.2 (hbefore w hw)⟩
  | lastFailure =>
    rw [Aggregation.pick, rejections, List.getLast?_filterMap, List.findSome?_eq_some_iff]
    constructor
    · rintro ⟨after, v, before, hsplit, hv, hafter⟩
      -- the list was searched from its end, so the parts stand the other way round
      have hvalidators : validators = before.reverse ++ v :: after.reverse := by
        rw [← List.reverse_reverse validators, hsplit]
        simp
      rw [hvalidators]
      exact .last (Outcome.error?_eq_some_iff.1 hv)
        fun w hw => Outcome.error?_eq_none_iff.1 (hafter w (List.mem_reverse.1 hw))
    · intro h
      cases h with
      | @last before after v _ hv hafter =>
        refine ⟨after.reverse, v, before.reverse, by simp, Outcome.error?_eq_some_iff.2 hv, ?_⟩
        exact fun w hw => Outcome.error?_eq_none_iff.2 (hafter w (List.mem_reverse.1 hw))

end CompiledField

/-- Some message is chosen exactly when some validator rejects the value. -/
theorem Aggregation.exists_rejects_iff {a : Aggregation} {x : Value}
    {validators : List Validator} :
    (∃ message, a.Rejects x validators message) ↔
      ∃ v ∈ validators, (v.validate x).isValid = false := by
  let field : CompiledField := ⟨validators, a⟩
  calc (∃ message, a.Rejects x validators message)
      ↔ ∃ message, (field.validate x).error = some message :=
        exists_congr fun _ => (CompiledField.error_validate_eq_some_iff (f := field)).symm
    _ ↔ (field.validate x).error ≠ none := Option.ne_none_iff_exists'.symm
    _ ↔ ¬ ∀ v ∈ validators, v.validate x = .valid :=
        not_congr CompiledField.error_validate_eq_none_iff
    _ ↔ ∃ v ∈ validators, (v.validate x).isValid = false := by
        simp only [Outcome.isValid_eq_false_iff, not_forall, exists_prop, ne_eq]

/-! ## The errors of a report -/

namespace CompiledSchema

theorem isValid_collect (x : Value) (fields : List (String × CompiledField)) {report : Report}
    (h : report.isValid = report.errors.isEmpty) :
    (collect x fields report).isValid = (collect x fields report).errors.isEmpty := by
  induction fields generalizing report with
  | nil => exact h
  | cons head rest ih =>
    rw [collect]
    split
    · exact ih (Dict.isEmpty_insert _ _ _).symm
    · exact ih h

/-- The pass over the fields, with any report to start from.  A field that is still to come has not
been entered into it, whence the distinct names. -/
theorem find?_errors_collect (x : Value) {fields : List (String × CompiledField)}
    (hnodup : (fields.map (·.1)).Nodup) (report : Report) (name : String) :
    (collect x fields report).errors.find? name =
      ((fields.lookup name).bind fun field => (field.validate (x.get name)).error).or
        (report.errors.find? name) := by
  induction fields generalizing report with
  | nil => rfl
  | cons head rest ih =>
    obtain ⟨key, field⟩ := head
    obtain ⟨hkey, hrest⟩ := List.nodup_cons.1 hnodup
    rw [collect, lookup_cons_eq_ite]
    by_cases hname : name = key
    · have hnone : rest.lookup name = none := by
        rw [List.lookup_eq_none_iff]
        intro entry hentry
        refine bne_iff_ne.2 fun heq => hkey ?_
        rw [← hname, heq]
        exact List.mem_map.2 ⟨entry, hentry, rfl⟩
      rw [if_pos hname, ← hname, Option.bind_some]
      cases hfield : (field.validate (x.get name)).error with
      | none =>
        show (collect x rest report).errors.find? name = _
        rw [ih hrest, hnone]
        rfl
      | some message =>
        show (collect x rest (report.fail name message)).errors.find? name = _
        rw [ih hrest, hnone]
        exact Dict.find?_insert_self _ _ _
    · rw [if_neg hname]
      split
      · rw [ih hrest, Report.fail, Dict.find?_insert_of_ne _ hname]
      · exact ih hrest report

/-- **A report is valid exactly when it has no errors.** -/
theorem isValid_validate (s : CompiledSchema) (x : Value) :
    (s.validate x).isValid = (s.validate x).errors.isEmpty :=
  isValid_collect x s.fields rfl

/-- **What a report says of a field is what the field says of its value.** -/
theorem find?_errors_validate {s : CompiledSchema} (hnodup : (s.fields.map (·.1)).Nodup)
    (x : Value) (name : String) :
    (s.validate x).errors.find? name =
      (s.field? name).bind fun field => (field.validate (x.get name)).error := by
  rw [validate, find?_errors_collect x hnodup, Report.passed, Dict.find?_empty, Option.or_none]
  rfl

end CompiledSchema

/-! ## Compiling -/

/-- The fields that carry a rule list, each with its list. -/
def ruledFields (fields : List (String × FieldDescriptor)) : List (String × List Rule) :=
  fields.filterMap fun field => field.2.rules.map fun rules => (field.1, rules)

theorem mem_ruledFields {fields : List (String × FieldDescriptor)} {name : String}
    {rules : List Rule} : (name, rules) ∈ ruledFields fields ↔ (name, ⟨some rules⟩) ∈ fields := by
  rw [ruledFields, List.mem_filterMap]
  constructor
  · rintro ⟨⟨key, ⟨declared⟩⟩, hmem, h⟩
    obtain ⟨_, rfl, h⟩ := Option.map_eq_some_iff.1 h
    obtain ⟨rfl, rfl⟩ := Prod.mk.inj h
    exact hmem
  · intro hmem
    exact ⟨_, hmem, rfl⟩

theorem names_ruledFields (fields : List (String × FieldDescriptor)) :
    (ruledFields fields).map (·.1) =
      (fields.filter fun field => field.2.rules.isSome).map (·.1) := by
  induction fields with
  | nil => rfl
  | cons head rest ih =>
    obtain ⟨name, ⟨rules⟩⟩ := head
    rw [ruledFields] at ih ⊢
    cases rules with
    | none => simpa using ih
    | some rules => simpa using ih

/-- Leaving out the fields without rules leaves the others in order. -/
theorem sublist_names_ruledFields (fields : List (String × FieldDescriptor)) :
    ((ruledFields fields).map (·.1)).Sublist (fields.map (·.1)) := by
  rw [names_ruledFields]
  exact List.filter_sublist.map _

theorem nodup_names_ruledFields {fields : List (String × FieldDescriptor)}
    (h : (fields.map (·.1)).Nodup) : ((ruledFields fields).map (·.1)).Nodup :=
  h.sublist (sublist_names_ruledFields fields)

namespace Registry

/-- The compiled form of a field with a rule list. -/
def compileRules (r : Registry) (aggregation : Aggregation) (field : String × List Rule) :
    Except SetupError (String × CompiledField) :=
  (field.2.mapM r.resolve).map fun validators => (field.1, ⟨validators, aggregation⟩)

@[simp] theorem resolveAll_eq_mapM (r : Registry) (rules : List Rule) :
    r.resolveAll rules = rules.mapM r.resolve := by
  induction rules with
  | nil => rfl
  | cons rule rest ih => rw [resolveAll, List.mapM_cons, ih]

/-- **Compiling passes over the fields with rules**, the others being left out. -/
@[simp] theorem compileFields_eq_mapM (r : Registry) (aggregation : Aggregation)
    (fields : List (String × FieldDescriptor)) :
    r.compileFields aggregation fields =
      (ruledFields fields).mapM (r.compileRules aggregation) := by
  induction fields with
  | nil => rfl
  | cons head rest ih =>
    obtain ⟨name, ⟨rules⟩⟩ := head
    rw [compileFields, ih]
    cases rules with
    | none =>
      show _ = (ruledFields rest).mapM (r.compileRules aggregation)
      cases (ruledFields rest).mapM (r.compileRules aggregation) <;> rfl
    | some rules =>
      show _ = ((name, rules) :: ruledFields rest).mapM (r.compileRules aggregation)
      have hfield : r.compileField ⟨some rules⟩ aggregation =
          (rules.mapM r.resolve).map fun validators => some ⟨validators, aggregation⟩ := by
        rw [← resolveAll_eq_mapM]
        rfl
      rw [List.mapM_cons, hfield, compileRules]
      cases rules.mapM r.resolve <;> rfl

variable {r : Registry} {a : Aggregation}

/-- The rules resolve to the validators, one by one. -/
def Resolves (r : Registry) (rules : List Rule) (validators : List Validator) : Prop :=
  List.Forall₂ (fun rule v => r.resolve rule = .ok v) rules validators

/-- **The compiled fields are the declared ones with rules**, each with what these resolve to. -/
theorem mem_compileFields {fields : List (String × FieldDescriptor)}
    {compiled : List (String × CompiledField)} (h : r.compileFields a fields = .ok compiled)
    {name : String} {field : CompiledField} :
    (name, field) ∈ compiled ↔
      ∃ rules, (name, ⟨some rules⟩) ∈ fields ∧ r.Resolves rules field.validators ∧
        field.aggregation = a := by
  rw [compileFields_eq_mapM] at h
  rw [mem_iff_of_mapM_eq_ok h]
  constructor
  · rintro ⟨⟨key, rules⟩, hmem, hcompiled⟩
    obtain ⟨validators, hvalidators, hfield⟩ := map_eq_ok_iff.1 hcompiled
    obtain ⟨rfl, rfl⟩ := Prod.mk.inj hfield
    exact ⟨rules, mem_ruledFields.1 hmem, mapM_eq_ok_iff.1 hvalidators, rfl⟩
  · rintro ⟨rules, hmem, hvalidators, rfl⟩
    refine ⟨(name, rules), mem_ruledFields.2 hmem, ?_⟩
    exact map_eq_ok_iff.2 ⟨field.validators, mapM_eq_ok_iff.2 hvalidators, rfl⟩

theorem names_compileFields {fields : List (String × FieldDescriptor)}
    {compiled : List (String × CompiledField)} (h : r.compileFields a fields = .ok compiled) :
    compiled.map (·.1) = (ruledFields fields).map (·.1) := by
  rw [compileFields_eq_mapM] at h
  have hall := mapM_eq_ok_iff.1 h
  clear h
  generalize ruledFields fields = ruled at hall ⊢
  induction hall with
  | nil => rfl
  | cons hfield _ ih =>
    obtain ⟨validators, -, rfl⟩ := map_eq_ok_iff.1 hfield
    rw [List.map_cons, List.map_cons, ih]

theorem compile_eq_ok_iff {s : Schema} {c : CompiledSchema} :
    r.compile s a = .ok c ↔ r.compileFields a s.fields = .ok c.fields := by
  obtain ⟨fields⟩ := c
  rw [compile, map_eq_ok_iff]
  constructor
  · rintro ⟨_, h, hfields⟩
    cases hfields
    exact h
  · intro h
    exact ⟨fields, h, rfl⟩

theorem nodup_names_of_compile {s : Schema} {c : CompiledSchema} (hs : s.Built)
    (hc : r.compile s a = .ok c) : (c.fields.map (·.1)).Nodup := by
  rw [names_compileFields (compile_eq_ok_iff.1 hc)]
  exact nodup_names_ruledFields hs.nodup_names

/-- **A field is compiled exactly when its current descriptor carries a rule list.** -/
theorem field?_eq_some_iff_of_compile {s : Schema} {c : CompiledSchema} (hs : s.Built)
    (hc : r.compile s a = .ok c) {name : String} {field : CompiledField} :
    c.field? name = some field ↔
      ∃ rules, s.find? name = some ⟨some rules⟩ ∧ r.Resolves rules field.validators ∧
        field.aggregation = a := by
  rw [CompiledSchema.field?, lookup_eq_some_iff_mem (nodup_names_of_compile hs hc),
    mem_compileFields (compile_eq_ok_iff.1 hc)]
  exact exists_congr fun rules => and_congr hs.find?_eq_some_iff.symm Iff.rfl

theorem find?_errors_of_compile {s : Schema} {c : CompiledSchema} (hs : s.Built)
    (hc : r.compile s a = .ok c) (x : Value) {name message : String} :
    (c.validate x).errors.find? name = some message ↔
      ∃ rules validators, s.find? name = some ⟨some rules⟩ ∧ r.Resolves rules validators ∧
        a.Rejects (x.get name) validators message := by
  rw [CompiledSchema.find?_errors_validate (nodup_names_of_compile hs hc),
    Option.bind_eq_some_iff]
  constructor
  · rintro ⟨field, hfield, herror⟩
    obtain ⟨rules, hrules, hvalidators, rfl⟩ := (field?_eq_some_iff_of_compile hs hc).1 hfield
    exact ⟨rules, field.validators, hrules, hvalidators,
      CompiledField.error_validate_eq_some_iff.1 herror⟩
  · rintro ⟨rules, validators, hrules, hvalidators, hrejects⟩
    refine ⟨⟨validators, a⟩, ?_, CompiledField.error_validate_eq_some_iff.2 hrejects⟩
    exact (field?_eq_some_iff_of_compile hs hc).2 ⟨rules, hrules, hvalidators, rfl⟩

/-- **What a compiled schema reports.**  A field is in error exactly when its current descriptor
has a rule list and some rule rejects the value the field has, which is undefined where the input
stores none; its message is the one the policy chooses; and a report without errors is valid. -/
theorem compile_report {s : Schema} {c : CompiledSchema} (hs : s.Built)
    (hc : r.compile s a = .ok c) (x : Value) :
    (∀ name, name ∈ (c.validate x).errors.keys ↔
      ∃ rules validators, s.find? name = some ⟨some rules⟩ ∧ r.Resolves rules validators ∧
        ∃ v ∈ validators, (v.validate (x.get name)).isValid = false) ∧
    (∀ name message, (c.validate x).errors.find? name = some message ↔
      ∃ rules validators, s.find? name = some ⟨some rules⟩ ∧ r.Resolves rules validators ∧
        a.Rejects (x.get name) validators message) ∧
    ((c.validate x).isValid = true ↔ (c.validate x).errors = .empty) ∧
    (∀ name, (∃ o, x.asObject? = some o ∧ o.find? name = some (x.get name)) ∨
      ((∀ o, x.asObject? = some o → o.find? name = none) ∧ x.get name = .undefined)) := by
  refine ⟨fun name => ?_, fun name message => find?_errors_of_compile hs hc x, ?_,
    x.get_cases⟩
  · rw [Dict.mem_keys_iff]
    simp only [find?_errors_of_compile hs hc, ← Aggregation.exists_rejects_iff (a := a)]
    constructor
    · rintro ⟨message, rules, validators, hrules, hvalidators, hrejects⟩
      exact ⟨rules, validators, hrules, hvalidators, message, hrejects⟩
    · rintro ⟨rules, validators, hrules, hvalidators, message, hrejects⟩
      exact ⟨message, rules, validators, hrules, hvalidators, hrejects⟩
  · rw [CompiledSchema.isValid_validate, Dict.isEmpty_iff]

/-- A field declared twice, of whose rules the last one speaks. -/
theorem compile_report_redeclared :
    ∃ c, (Registry.empty.defineCustom "never" "No." fun _ => false).compile
        (((Schema.empty.insert "a" ⟨some []⟩).insert "b" ⟨none⟩).insert "a"
          ⟨some [.inline fun _ => .invalid "First.", .name "never"]⟩) .lastFailure = .ok c ∧
      (c.validate (.object .plain [("a", .null)])).errors.find? "a" = some "No." ∧
      (c.validate (.object .plain [("a", .null)])).isValid = false := by
  have hbuilt := ((Schema.Built.empty.insert "a" ⟨some []⟩).insert "b" ⟨none⟩).insert "a"
    ⟨some [.inline fun _ => .invalid "First.", .name "never"]⟩
  refine ⟨_, rfl, ?_⟩
  obtain ⟨-, hfind, hvalid, -⟩ :=
    compile_report (r := Registry.empty.defineCustom "never" "No." fun _ => false)
      (a := .lastFailure) hbuilt rfl (.object .plain [("a", .null)])
  have ha := (hfind "a" "No.").2 ⟨_, _, rfl, .cons rfl (.cons rfl .nil),
    @Aggregation.Rejects.last _ [_] [] _ _ rfl fun _ hw => absurd hw List.not_mem_nil⟩
  refine ⟨ha, Bool.eq_false_iff.2 fun h => ?_⟩
  rw [hvalid.1 h] at ha
  cases ha

end Registry

end Vetting
