import Vetting.Proofs.Options.Decoders
import Vetting.Proofs.Schema.Report
import Vetting.Regex.Size

/-!
# What a report depends on

A report is about the fields that the schema names.  Two questions are settled here.

* Of the value it looks at nothing but these fields
  (`CompiledSchema.validate_congr`).  Other fields and the prototype of an object do not matter, and
  since a field that is not there counts as undefined, neither does it matter whether it is missing,
  or undefined, or whether the value is an object in the first place.
* Of the schema it looks at nothing but the descriptor of each name.  Fields are resolved and
  checked one by one, and none of them sees what another one leaves behind, so the order in which
  they were declared shows neither in whether the schema compiles
  (`Registry.exists_compile_iff_of_built`) nor in a report.

What the order does show in is the error of a schema that does not compile, which is that of the
first field that fails.
-/

namespace Vetting

variable {r : Registry} {a : Aggregation} {x y : Value}

/-! ## The value -/

@[simp] theorem Value.get_ofObject (o : Object) (key : String) :
    (Value.ofObject o).get key = (o.find? key).getD .undefined := by
  simp [get]

theorem Value.get_of_asObject?_eq_none (h : x.asObject? = none) (key : String) :
    x.get key = .undefined := by
  rw [get, h]

namespace CompiledSchema

/-- One field after the other looks at its own value. -/
theorem collect_congr {fields : List (String × CompiledField)}
    (h : ∀ name ∈ fields.map (·.1), x.get name = y.get name) (report : Report) :
    collect x fields report = collect y fields report := by
  induction fields generalizing report with
  | nil => rfl
  | cons field rest ih =>
    obtain ⟨name, f⟩ := field
    obtain ⟨hname, hrest⟩ := List.forall_mem_cons.1 h
    rw [collect, collect, hname]
    cases (f.validate (y.get name)).error with
    | none => exact ih hrest report
    | some message => exact ih hrest (report.fail name message)

/-- **A report looks at the named fields only.** -/
theorem validate_congr {c : CompiledSchema}
    (h : ∀ name ∈ c.fields.map (·.1), x.get name = y.get name) : c.validate x = c.validate y :=
  collect_congr h .passed

/-- The prototype of an object has no say. -/
theorem validate_prototype (c : CompiledSchema) (o : Object) (prototype : Prototype) :
    c.validate (.ofObject { o with prototype }) = c.validate (.ofObject o) := by
  refine validate_congr fun name _ => ?_
  rw [Value.get_ofObject, Value.get_ofObject]
  rfl

/-- A field that is undefined could as well be missing. -/
theorem validate_insert_undefined (c : CompiledSchema) {o : Object} {key : String}
    (hkey : o.find? key = none) :
    c.validate (.ofObject (o.insert key .undefined)) = c.validate (.ofObject o) := by
  refine validate_congr fun name _ => ?_
  by_cases hname : name = key
  · simp [hname, hkey]
  · simp [hname]

/-- A value that is no object is like an object that has none of the fields. -/
theorem validate_of_asObject?_eq_none {c : CompiledSchema} (hx : x.asObject? = none) {o : Object}
    (ho : ∀ name ∈ c.fields.map (·.1), o.find? name = none) :
    c.validate x = c.validate (.ofObject o) := by
  refine validate_congr fun name hname => ?_
  simp [Value.get_of_asObject?_eq_none hx, ho name hname]

end CompiledSchema

/-! ## The schema -/

/-- Reports with the same errors are the same. -/
theorem Report.eq_of_find?_errors {p q : Report} (hp : p.isValid = p.errors.isEmpty)
    (hq : q.isValid = q.errors.isEmpty)
    (h : ∀ name, p.errors.find? name = q.errors.find? name) : p = q := by
  obtain ⟨valid, errors⟩ := p
  obtain ⟨_, _⟩ := q
  obtain rfl := Dict.ext_find? h
  obtain rfl := hp.trans hq.symm
  rfl

namespace Registry

/-- **A schema compiles exactly when each rule of each name resolves.** -/
theorem exists_compile_iff_of_built {s : Schema} (hs : s.Built) :
    (∃ c, r.compile s a = .ok c) ↔
      ∀ name rules, s.find? name = some ⟨some rules⟩ → ∀ rule ∈ rules,
        ∃ v, r.resolve rule = .ok v := by
  have hfields : (∃ c, r.compile s a = .ok c) ↔
      ∃ compiled, (ruledFields s.fields).mapM (r.compileRules a) = .ok compiled := by
    simp only [compile_eq_ok_iff, compileFields_eq_mapM]
    exact ⟨fun ⟨c, h⟩ => ⟨c.fields, h⟩, fun ⟨compiled, h⟩ => ⟨⟨compiled⟩, h⟩⟩
  rw [hfields, exists_mapM_eq_ok_iff, Prod.forall]
  refine forall₂_congr fun name rules => ?_
  rw [mem_ruledFields, ← hs.find?_eq_some_iff, compileRules, exists_map_eq_ok_iff,
    exists_mapM_eq_ok_iff]

variable {s t : Schema} {c d : CompiledSchema}

/-- **The order of declaration shows in no report.** -/
theorem validate_eq_of_find?_eq (hs : s.Built) (ht : t.Built)
    (h : ∀ name, s.find? name = t.find? name) (hc : r.compile s a = .ok c)
    (hd : r.compile t a = .ok d) (x : Value) : c.validate x = d.validate x := by
  refine Report.eq_of_find?_errors (c.isValid_validate x) (d.isValid_validate x) fun name => ?_
  refine Option.ext fun message => ?_
  rw [find?_errors_of_compile hs hc, find?_errors_of_compile ht hd, h name]

/-- **A report depends on what the schema names and on nothing else.**  Values with the same named
fields have the same report; so other fields, the prototype, and the difference between a missing
and an undefined field, or between an object and none, leave it as it is.  Schemas with the same
descriptors for the same names compile or fail together, whatever the order of declaration, and have
the same reports. -/
theorem compile_dependence (r : Registry) (a : Aggregation) :
    (∀ s c, r.compile s a = .ok c →
      (∀ x y : Value, (∀ name ∈ c.fields.map (·.1), x.get name = y.get name) →
        c.validate x = c.validate y) ∧
      ∀ o : Object,
        (∀ prototype, c.validate (.ofObject { o with prototype }) = c.validate (.ofObject o)) ∧
        (∀ key, o.find? key = none →
          c.validate (.ofObject (o.insert key .undefined)) = c.validate (.ofObject o)) ∧
        ∀ x : Value, x.asObject? = none → (∀ name ∈ c.fields.map (·.1), o.find? name = none) →
          c.validate x = c.validate (.ofObject o)) ∧
    (∀ s t : Schema, s.Built → t.Built → (∀ name, s.find? name = t.find? name) →
      ((∃ c, r.compile s a = .ok c) ↔ ∃ d, r.compile t a = .ok d) ∧
      ∀ c d, r.compile s a = .ok c → r.compile t a = .ok d → ∀ x, c.validate x = d.validate x) := by
  refine ⟨fun s c _ => ⟨fun x y h => CompiledSchema.validate_congr h, fun o => ⟨?_, ?_, ?_⟩⟩,
    fun s t hs ht h => ⟨?_, ?_⟩⟩
  · exact fun prototype => c.validate_prototype o prototype
  · exact fun key hkey => c.validate_insert_undefined hkey
  · exact fun x hx ho => CompiledSchema.validate_of_asObject?_eq_none hx ho
  · rw [exists_compile_iff_of_built hs, exists_compile_iff_of_built ht]
    simp only [h]
  · exact fun c d hc hd x => validate_eq_of_find?_eq hs ht h hc hd x

section

attribute [local instance] Regex.Engine.standard

/-- Two fields declared in either order, and two objects that differ in what neither of them
names. -/
theorem compile_dependence_reordered :
    ∃ c d, builtins.compile ((Schema.empty.insert "a" ⟨some [.name "required"]⟩).insert "b"
        ⟨some [.name "date"]⟩) .firstFailure = .ok c ∧
      builtins.compile ((Schema.empty.insert "b" ⟨some [.name "date"]⟩).insert "a"
        ⟨some [.name "required"]⟩) .firstFailure = .ok d ∧
      c.validate (.object .plain [("b", .text "soon")]) =
        d.validate (.object .bare [("a", .undefined), ("b", .text "soon"), ("z", .null)]) ∧
      (c.validate (.object .plain [("b", .text "soon")])).errors.entries =
        [("a", "Cannot be empty."), ("b", "Not a valid date.")] := by
  have hbuilt := Schema.Built.empty
  have horder : ∀ name, Schema.find? ((Schema.empty.insert "a" ⟨some [.name "required"]⟩).insert "b"
        ⟨some [.name "date"]⟩) name =
      Schema.find? ((Schema.empty.insert "b" ⟨some [.name "date"]⟩).insert "a"
        ⟨some [.name "required"]⟩) name := by
    intro name
    by_cases ha : name = "a" <;> simp [ha]
  obtain ⟨hvalue, hschema⟩ := compile_dependence builtins .firstFailure
  obtain ⟨-, hreports⟩ := hschema
    ((Schema.empty.insert "a" ⟨some [.name "required"]⟩).insert "b" ⟨some [.name "date"]⟩)
    ((Schema.empty.insert "b" ⟨some [.name "date"]⟩).insert "a" ⟨some [.name "required"]⟩)
    ((hbuilt.insert _ _).insert _ _) ((hbuilt.insert _ _).insert _ _) horder
  have hnamed : ∀ name ∈ ["b", "a"], Value.get (.object .plain [("b", .text "soon")]) name =
      Value.get (.object .bare [("a", .undefined), ("b", .text "soon"), ("z", .null)]) name :=
    List.forall_mem_cons.2 ⟨rfl, List.forall_mem_singleton.2 rfl⟩
  obtain ⟨hnamedOnly, -⟩ := hvalue
    ((Schema.empty.insert "b" ⟨some [.name "date"]⟩).insert "a" ⟨some [.name "required"]⟩) _ rfl
  refine ⟨_, _, rfl, rfl, ?_, by decide⟩
  rw [hreports _ _ rfl rfl]
  exact hnamedOnly _ _ hnamed

end

end Registry

end Vetting
