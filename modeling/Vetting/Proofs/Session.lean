import Mathlib.Data.List.Induction
import Vetting.Regex.Size
import Vetting.Session
import Vetting.Command.Check
import Vetting.Proofs.Lookup
import Vetting.Proofs.Registry

/-!
# Which definition is in force

A registry answers by the definitions it holds, and a session changes them in two ways: a step may
install a factory under a name, or a clone that was saved may take the place of the registry.  Which
definition of a name is in force can be told from the steps alone: it is the one installed last,
unless a clone has been restored since, and then it is the one that was in force when the clone was
saved.  `Session.InForce` says this without a registry, and `Session.inForce_iff` that the registry
in use has just the definitions in force.

What a single step does is said first, once for each part of a session.  A run is taken apart from
its end, since the last step decides what is in force.  The step before which the argument jumps
back is the save that the last restore belongs to, so the induction is on the length of the run.

Everything else a session holds is kept.  A compiled schema has its validators in it and asks no
registry, hence a report never changes (`Session.compiled_run`).
-/

namespace Vetting

namespace Session

variable {s : Session} {base : Base} {step : Step} {steps before between later : List Step}
  {name other slot : String} {factory : Factory} {d : Option Factory}

/-! ## The kinds of steps -/

/-- A step that puts a factory under a name. -/
inductive Step.Installs (name : String) : Factory → Step → Prop
  | define (factory : Factory) : Installs name factory (.define name factory)
  | custom (message : String) (test : Value → Bool) :
      Installs name (Validator.custom name message (some test)).configure
        (.defineCustom name message test)

/-- A step that asks the registry for something. -/
inductive Step.Asks : Step → Prop
  | create (name : String) (options : Options) : Asks (.create name options)
  | resolve (rule : Rule) : Asks (.resolve rule)
  | compileField (descriptor : FieldDescriptor) (aggregation : Aggregation) :
      Asks (.compileField descriptor aggregation)
  | compile (slot : String) (schema : Schema) (aggregation : Aggregation) :
      Asks (.compile slot schema aggregation)

/-- A step that compiles a schema for a slot. -/
def Step.CompilesInto (slot : String) (step : Step) : Prop :=
  ∃ schema aggregation, step = .compile slot schema aggregation

/-! ## The definitions in force -/

/-- The definition of a name at the start. -/
def Base.definition? [Regex.Engine] : Base → String → Option Factory
  | .empty, _ => none
  | .builtins, name => Builtin.factory? name

/-- The definition of a name that is in force after steps, where `none` stands for no definition.
The one installed last is in force; a restored clone brings back the one that was in force when the
clone was saved. -/
inductive InForce [Regex.Engine] (base : Base) (name : String) : List Step → Option Factory → Prop
  | initial : InForce base name [] (base.definition? name)
  | installed {steps : List Step} {step : Step} {factory : Factory}
      (h : step.Installs name factory) : InForce base name (steps ++ [step]) (some factory)
  | kept {steps : List Step} {step : Step} {d : Option Factory}
      (hinstalls : ∀ factory, ¬ step.Installs name factory)
      (hrestores : ∀ slot, step ≠ .restore slot) (h : InForce base name steps d) :
      InForce base name (steps ++ [step]) d
  | restored {before between : List Step} {slot : String} {d : Option Factory}
      (h : InForce base name before d) (hbetween : .save slot ∉ between) :
      InForce base name (before ++ .save slot :: between ++ [.restore slot]) d
  | unsaved {steps : List Step} {slot : String} {d : Option Factory}
      (h : InForce base name steps d) (hsteps : .save slot ∉ steps) :
      InForce base name (steps ++ [.restore slot]) d

/-! ## One step -/

theorem find?_after_of_installs (h : step.Installs name factory) :
    (s.after step).registry.factories.find? name = some factory := by
  cases h with
  | define => exact Dict.find?_insert_self _ _ _
  | custom message test => exact Dict.find?_insert_self _ _ _

/-- A step that asks for something leaves all definitions and all clones alone, whatever the
answer. -/
theorem after_of_asks (h : step.Asks) :
    (s.after step).registry = s.registry ∧ (s.after step).saved = s.saved := by
  cases h with
  | create => exact ⟨rfl, rfl⟩
  | resolve => exact ⟨rfl, rfl⟩
  | compileField => exact ⟨rfl, rfl⟩
  | compile slot schema aggregation =>
    rw [after, perform]
    cases s.registry.compile schema aggregation with
    | error e => exact ⟨rfl, rfl⟩
    | ok c => exact ⟨rfl, rfl⟩

/-- What neither installs a name nor restores a clone leaves the definition of the name. -/
theorem find?_after_of_kept (hinstalls : ∀ factory, ¬ step.Installs name factory)
    (hrestores : ∀ slot, step ≠ .restore slot) :
    (s.after step).registry.factories.find? name = s.registry.factories.find? name := by
  cases step with
  | define key factory =>
    have hne : name ≠ key := by
      rintro rfl
      exact hinstalls factory (.define factory)
    exact Dict.find?_insert_of_ne _ hne _
  | defineCustom key message test =>
    have hne : name ≠ key := by
      rintro rfl
      exact hinstalls _ (.custom message test)
    exact Dict.find?_insert_of_ne _ hne _
  | create => rw [(after_of_asks (.create _ _)).1]
  | resolve => rw [(after_of_asks (.resolve _)).1]
  | compileField => rw [(after_of_asks (.compileField _ _)).1]
  | compile => rw [(after_of_asks (.compile _ _ _)).1]
  | save => rfl
  | restore slot => exact absurd rfl (hrestores slot)

@[simp] theorem registry_after_restore (s : Session) (slot : String) :
    (s.after (.restore slot)).registry = (s.saved.find? slot).getD s.registry := rfl

@[simp] theorem saved_after_save (s : Session) (slot : String) :
    (s.after (.save slot)).saved.find? slot = some s.registry := Dict.find?_insert_self _ _ _

theorem saved_after_of_ne (h : step ≠ .save slot) :
    (s.after step).saved.find? slot = s.saved.find? slot := by
  cases step with
  | save other =>
    have hne : slot ≠ other := by
      rintro rfl
      exact h rfl
    exact Dict.find?_insert_of_ne _ hne _
  | create => rw [(after_of_asks (.create _ _)).2]
  | resolve => rw [(after_of_asks (.resolve _)).2]
  | compileField => rw [(after_of_asks (.compileField _ _)).2]
  | compile => rw [(after_of_asks (.compile _ _ _)).2]
  | _ => rfl

theorem compiled_after_of_not (h : ¬ step.CompilesInto slot) :
    (s.after step).compiled.find? slot = s.compiled.find? slot := by
  cases step with
  | compile other schema aggregation =>
    have hne : slot ≠ other := by
      rintro rfl
      exact h ⟨schema, aggregation, rfl⟩
    rw [after, perform]
    cases s.registry.compile schema aggregation with
    | error e => rfl
    | ok c => exact Dict.find?_insert_of_ne _ hne _
  | _ => rfl

/-! ## Runs -/

@[simp] theorem run_nil (s : Session) : s.run [] = s := rfl

@[simp] theorem run_cons (s : Session) (step : Step) (later : List Step) :
    s.run (step :: later) = (s.after step).run later := rfl

@[simp] theorem run_append (s : Session) (before later : List Step) :
    s.run (before ++ later) = (s.run before).run later := List.foldl_append

theorem run_concat (s : Session) (steps : List Step) (step : Step) :
    s.run (steps ++ [step]) = (s.run steps).after step := by
  simp

/-- A clone stays what it is until the next one is put into its slot. -/
theorem saved_run_of_notMem (h : .save slot ∉ steps) :
    (s.run steps).saved.find? slot = s.saved.find? slot := by
  induction steps using List.reverseRecOn with
  | nil => rfl
  | append_singleton steps step ih =>
    rw [List.mem_append, List.mem_singleton, not_or] at h
    rw [run_concat, saved_after_of_ne fun heq => h.2 heq.symm, ih h.1]

/-- A compiled schema stays what it is until the next one is compiled for its slot. -/
theorem compiled_run (h : ∀ step ∈ steps, ¬ step.CompilesInto slot) :
    (s.run steps).compiled.find? slot = s.compiled.find? slot := by
  induction steps using List.reverseRecOn with
  | nil => rfl
  | append_singleton steps step ih =>
    have hstep : ¬ step.CompilesInto slot := h step (by simp)
    have hsteps : ∀ step ∈ steps, ¬ step.CompilesInto slot :=
      fun step hmem => h step (by simp [hmem])
    rw [run_concat, compiled_after_of_not hstep, ih hsteps]

/-- **A restored clone is the registry at the save.** -/
theorem registry_run_restore (hbetween : .save slot ∉ between) :
    (s.run (before ++ .save slot :: between ++ [.restore slot])).registry =
      (s.run before).registry := by
  have hsaved : (s.run (before ++ .save slot :: between)).saved.find? slot =
      some (s.run before).registry := by
    rw [run_append, run_cons, saved_run_of_notMem hbetween, saved_after_save]
  rw [run_concat, registry_after_restore, hsaved, Option.getD_some]

/-- Without a clone there is nothing to restore. -/
theorem registry_run_unsaved [Regex.Engine] (hsteps : .save slot ∉ steps) :
    ((start base).run (steps ++ [.restore slot])).registry = ((start base).run steps).registry := by
  have hsaved : ((start base).run steps).saved.find? slot = none := saved_run_of_notMem hsteps
  rw [run_concat, registry_after_restore, hsaved, Option.getD_none]

/-- A step in a run splits it where it occurs last. -/
theorem exists_split_last (h : step ∈ steps) :
    ∃ before between, steps = before ++ step :: between ∧ step ∉ between := by
  obtain ⟨front, back, hsplit, hfront⟩ := List.eq_append_cons_of_mem (List.mem_reverse.2 h)
  refine ⟨back.reverse, front.reverse, ?_, fun hmem => hfront (List.mem_reverse.1 hmem)⟩
  have heq := congrArg List.reverse hsplit
  simpa using heq

/-! ## The registry has the definitions in force -/

@[simp] theorem find?_registry_base [Regex.Engine] (base : Base) (name : String) :
    base.registry.factories.find? name = base.definition? name := by
  cases base with
  | empty => rfl
  | builtins => exact Registry.find?_builtins name

theorem InForce.find?_eq [Regex.Engine] (h : InForce base name steps d) :
    ((start base).run steps).registry.factories.find? name = d := by
  induction h with
  | initial => exact find?_registry_base base name
  | installed hstep => rw [run_concat, find?_after_of_installs hstep]
  | kept hinstalls hrestores _ ih => rw [run_concat, find?_after_of_kept hinstalls hrestores, ih]
  | restored _ hbetween ih => rw [registry_run_restore hbetween, ih]
  | unsaved _ hsteps ih => rw [registry_run_unsaved hsteps, ih]

/-- Some definition is always in force, or none. -/
theorem exists_inForce [Regex.Engine] (base : Base) (name : String) (steps : List Step) :
    ∃ d, InForce base name steps d := by
  induction hlength : steps.length using Nat.strongRecOn generalizing steps with
  | _ length ih =>
    rcases List.eq_nil_or_concat steps with rfl | ⟨front, step, hsteps⟩
    · exact ⟨_, .initial⟩
    · rw [List.concat_eq_append] at hsteps
      subst hsteps
      have hshorter : front.length < length := by
        rw [← hlength, List.length_append, List.length_singleton]
        omega
      obtain ⟨d, hd⟩ := ih _ hshorter front rfl
      by_cases hinstalls : ∃ factory, step.Installs name factory
      · obtain ⟨factory, hfactory⟩ := hinstalls
        exact ⟨some factory, .installed hfactory⟩
      by_cases hrestores : ∃ slot, step = .restore slot
      · obtain ⟨slot, rfl⟩ := hrestores
        by_cases hsaved : .save slot ∈ front
        · -- back to the save that this restore belongs to
          obtain ⟨before, between, rfl, hbetween⟩ := exists_split_last hsaved
          have hbefore : before.length < length := by
            rw [List.length_append] at hshorter
            omega
          obtain ⟨c, hc⟩ := ih _ hbefore before rfl
          exact ⟨c, .restored hc hbetween⟩
        · exact ⟨d, .unsaved hd hsaved⟩
      · exact ⟨d, .kept (not_exists.1 hinstalls) (not_exists.1 hrestores) hd⟩

/-- **The registry in use has just the definitions in force.** -/
theorem inForce_iff [Regex.Engine] :
    InForce base name steps d ↔
      ((start base).run steps).registry.factories.find? name = d := by
  refine ⟨InForce.find?_eq, fun h => ?_⟩
  obtain ⟨c, hc⟩ := exists_inForce base name steps
  rwa [← h, hc.find?_eq]

/-! ## The names, one on each line -/

/-- Where no name has a line break, the names can be read off the lines. -/
theorem splitOn_join_lines {names : List String} (h : ∀ name ∈ names, '\n' ∉ name.toList) :
    (String.join (names.map fun name => name ++ "\n")).toList.splitOn '\n' =
      names.map String.toList ++ [[]] := by
  rw [String.toList_join]
  induction names with
  | nil => exact List.splitOn_nil _
  | cons name rest ih =>
    obtain ⟨hname, hrest⟩ := List.forall_mem_cons.1 h
    have hbreak : ∀ c ∈ name.toList, (c == '\n') = false := by
      intro c hc
      refine beq_false_of_ne fun heq => hname ?_
      rwa [← heq]
    have hline : (name ++ "\n").toList = name.toList ++ ['\n'] := String.toList_append
    rw [List.map_cons, List.flatMap_cons, hline, List.append_assoc, List.singleton_append,
      List.splitOn, List.splitOnP_append_cons_of_forall_mem hbreak _ (by decide), ← List.splitOn,
      ih hrest]
    rfl

/-- **A registry in use, after any steps.**  Its names are listed in order and without repetition;
they are the names with a definition in force.  A name is not found exactly when no definition of
it is in force, and otherwise the definition in force makes what is created; there is always one
answer to which this is.  Restoring brings back the registry at the save.  What is only asked for
changes nothing, whether or not it is refused, and an installed factory changes no other name.  A
schema once compiled reports the same for every value after any later steps.  The names are printed
one on each line. -/
theorem registry_of_run [Regex.Engine] (hs : s = (start base).run steps) :
    s.registry.Listed ∧
    (∀ name, ∃ d, (∀ e, InForce base name steps e ↔ e = d) ∧
      (name ∈ s.registry.names ↔ d ≠ none) ∧
      ∀ options, (s.registry.create name options = .error (.notFound name) ↔ d = none) ∧
        ∀ factory, d = some factory →
          s.registry.create name options = (factory options).mapError .config) ∧
    (∀ before slot between, steps = before ++ .save slot :: between → .save slot ∉ between →
      (s.after (.restore slot)).registry = ((start base).run before).registry) ∧
    (∀ step : Step, step.Asks → (s.after step).registry = s.registry) ∧
    (∀ (step : Step) name factory, step.Installs name factory → ∀ other, other ≠ name →
      (s.after step).registry.contains other = s.registry.contains other ∧
        ∀ options, (s.after step).registry.create other options =
          s.registry.create other options) ∧
    (∀ slot schema aggregation c, s.registry.compile schema aggregation = .ok c →
      ∀ later : List Step, (∀ step ∈ later, ¬ step.CompilesInto slot) →
        ∀ x, ((s.after (.compile slot schema aggregation)).run later).report? slot x =
          some (c.validate x)) ∧
    (Command.validators s.registry).code = 0 ∧
    (Command.validators s.registry).output =
      String.join (s.registry.names.map fun name => name ++ "\n") ∧
    ((∀ name ∈ s.registry.names, '\n' ∉ name.toList) →
      (Command.validators s.registry).output.toList.splitOn '\n' =
        s.registry.names.map String.toList ++ [[]]) := by
  refine ⟨s.registry.listed, fun name => ?_, ?_, fun step h => (after_of_asks h).1, ?_, ?_, rfl,
    rfl, splitOn_join_lines⟩
  · refine ⟨s.registry.factories.find? name, fun e => ?_, ?_, fun options =>
      ⟨Registry.create_eq_notFound_iff, fun factory h => Registry.create_of_find?_eq_some h _⟩⟩
    · rw [inForce_iff, ← hs, eq_comm]
    · rw [← s.registry.listed.contains, Registry.contains_iff, Option.ne_none_iff_exists']
  · intro before slot between hsteps hbetween
    rw [hs, hsteps, ← run_concat]
    exact registry_run_restore hbetween
  · intro step name factory h other hother
    have hinstalls : ∀ g, ¬ step.Installs other g := by
      rintro g hg
      cases h <;> cases hg <;> exact hother rfl
    have hrestores : ∀ slot, step ≠ .restore slot := by
      rintro slot rfl
      cases h
    have hsame := find?_after_of_kept (s := s) hinstalls hrestores
    refine ⟨?_, Registry.create_congr hsame⟩
    rw [Registry.contains, Registry.contains, Dict.contains, Dict.contains, hsame]
  · intro slot schema aggregation c hc later hlater x
    have hkept : (s.after (.compile slot schema aggregation)).compiled.find? slot = some c := by
      rw [after, perform, hc]
      exact Dict.find?_insert_self _ _ _
    rw [report?, compiled_run hlater, hkept, Option.map_some]

/-- A schema with one field, which has to be filled in. -/
def nameSchema : Schema := Schema.empty.insert "name" ⟨some [.name "required"]⟩

/-- Steps that replace a built-in validator and define a new one. -/
def trial : List Step := [
  .define "required" (fun _ => .error .missingName),
  .defineCustom "hex" "Not hexadecimal." fun _ => false]

section

attribute [local instance] Regex.Engine.standard

/-- The schema is compiled before the built-in validator is replaced and still fails with its
message; after the clone is restored the new validator is gone and the old one is back. -/
theorem registry_of_run_trial :
    ∃ c, Registry.builtins.compile nameSchema .lastFailure = .ok c ∧
      (((start .builtins).after (.compile "form" nameSchema .lastFailure)).run
        (.save "clean" :: trial ++ [.restore "clean"])).report? "form" .null =
          some (c.validate .null) ∧
      (c.validate .null).errors.find? "name" = some "Cannot be empty." ∧
      ((start .builtins).run (.save "clean" :: trial)).registry.create "hex" .empty ≠
        .error (.notFound "hex") ∧
      (((start .builtins).run (.save "clean" :: trial)).after (.restore "clean")).registry =
        Registry.builtins := by
  have hlater : ∀ step ∈ Step.save "clean" :: trial ++ [.restore "clean"],
      ¬ step.CompilesInto "form" := by
    rintro step hmem ⟨schema, aggregation, rfl⟩
    simp [trial] at hmem
  have htrial : Step.save "clean" ∉ trial := by simp [trial]
  have hstart : start .builtins = (start .builtins).run [] := rfl
  obtain ⟨-, -, -, -, -, hcompiled, -⟩ := registry_of_run hstart
  obtain ⟨-, hcreated, hrestored, -⟩ :=
    registry_of_run (Eq.refl ((start .builtins).run (.save "clean" :: trial)))
  refine ⟨_, rfl, hcompiled "form" nameSchema .lastFailure _ rfl _ hlater .null, by decide, ?_,
    hrestored [] "clean" trial rfl htrial⟩
  obtain ⟨d, hd, -, hcreate⟩ := hcreated "hex"
  have hforce : InForce .builtins "hex"
      ([.save "clean", .define "required" fun _ => .error .missingName] ++
        [.defineCustom "hex" "Not hexadecimal." fun _ => false]) _ :=
    .installed (.custom "Not hexadecimal." fun _ => false)
  rw [(hcreate .empty).1.ne, ← (hd _).1 hforce]
  exact fun h => nomatch h

end

end Session

end Vetting
