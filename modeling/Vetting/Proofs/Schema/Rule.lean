import Vetting.Regex.Size
import Vetting.Schema.Rule
import Vetting.Proofs.Registry
import Vetting.Proofs.Validator.Recipe
import Vetting.Proofs.Value.Json

/-!
# The shapes of a rule

A rule can be written as a name, a list or a map, built in code or read from a document.  What
counts is the name and the options it comes to.  This module sorts the rules by that, without
looking at how they are taken apart:

* `Rule.Asks`: the rule asks for the validator of a name, with options;
* `Rule.Malformed`: the rule gives no name, or its options are not as they should be.

A rule that is no predicate is one or the other (`Rule.inline_or_malformed_or_asks`).  The first
kind resolves to what the registry creates (`Rule.Asks.resolve_eq`), whatever its shape, and the
second is refused with its error before the registry is consulted (`Rule.Malformed.resolve_eq`).
The shapes of one request agree because they ask for the same (`Registry.resolve_rule_shapes`).

The one place where shapes differ is an option called `name`.  A map has no room for it, since the
name of the validator stands there; a list passes it on, and the validators at hand do not know it.
-/

namespace Vetting

/-! ## Objects as values -/

/-- The options that the members of a JSON object describe. -/
def Options.ofMembers (members : Dict Json) : Options :=
  .ofList (Value.ofJsonFields members.entries)

namespace Options

@[simp] theorem find?_ofMembers (members : Dict Json) (key : String) :
    (ofMembers members).find? key = (members.find? key).map Value.ofJson := by
  rw [ofMembers, Value.ofJsonFields_eq_map, Dict.find?_ofList_map]

/-- A member added before or after reading is the same. -/
theorem ofMembers_insert (members : Dict Json) (key : String) (item : Json) :
    ofMembers (members.insert key item) =
      (ofMembers members).insert key (Value.ofJson item) := by
  refine Dict.ext_find? fun other => ?_
  by_cases h : other = key <;> simp [h]

@[simp] theorem ofJson_object (members : Dict Json) :
    ofJson (.object members.entries) = .ok (ofMembers members) := by
  rw [ofJson, Value.ofJson, Value.asObject?]
  rfl

end Options

namespace Rule

/-! ## What a rule comes to -/

/-- The rule asks for the validator of a name with these options. -/
inductive Asks : Rule → String → Options → Prop
  | name {n : String} (hn : n ≠ "") : Asks (.name n) n .empty
  | bare {n : String} (hn : n ≠ "") : Asks (.list [.text n]) n .empty
  | list {n : String} {v : Value} {o : Object} (hn : n ≠ "") (hv : v.asObject? = some o) :
      Asks (.list [.text n, v]) n (.ofObject o)
  | map {n : String} {options : Options} (hn : n ≠ "")
      (hname : options.find? nameKey = some (.text n)) :
      Asks (.map options) n (options.erase nameKey)

/-- Whether a value is no name, which is a text that is not empty. -/
def NoName (v : Option Value) : Prop := ∀ n, n ≠ "" → v ≠ some (.text n)

/-- The rule is malformed, and this is what is wrong with it. -/
inductive Malformed : Rule → ConfigError → Prop
  | name : Malformed (.name "") .missingName
  | list {items : List Value} (h : NoName items.head?) : Malformed (.list items) .missingName
  | map {options : Options} (h : NoName (options.find? nameKey)) :
      Malformed (.map options) .missingName
  | options {n : String} {v : Value} (hn : n ≠ "") (hv : v.asObject? = none) :
      Malformed (.list [.text n, v]) (.invalidRule (.listOptions n v))
  | size {n : String} {v w : Value} {rest : List Value} (hn : n ≠ "") :
      Malformed (.list (.text n :: v :: w :: rest)) (.invalidRule (.listSize n (rest.length + 3)))

@[simp] theorem nameOf_of_ne {n : String} (hn : n ≠ "") : nameOf (some (.text n)) = .ok n := by
  rw [nameOf, if_neg fun h => hn (String.isEmpty_iff.1 h)]

@[simp] theorem nameOf_of_noName {v : Option Value} (h : NoName v) :
    nameOf v = .error .missingName := by
  unfold nameOf
  split
  · rename_i n
    by_cases hn : n = ""
    · rw [hn]
      rfl
    · exact absurd rfl (h n hn)
  · rfl

theorem exists_name_or_noName (v : Option Value) :
    (∃ n, n ≠ "" ∧ v = some (.text n)) ∨ NoName v := by
  by_cases h : ∃ n, n ≠ "" ∧ v = some (.text n)
  · exact Or.inl h
  · exact Or.inr fun n hn hv => h ⟨n, hn, hv⟩

/-- **A rule is a predicate, or malformed, or it asks for a validator.** -/
theorem inline_or_malformed_or_asks (rule : Rule) :
    (∃ predicate, rule = .inline predicate) ∨ (∃ e, rule.Malformed e) ∨ ∃ n o, rule.Asks n o := by
  cases rule with
  | inline predicate => exact Or.inl ⟨predicate, rfl⟩
  | name n =>
    by_cases hn : n = ""
    · subst hn
      exact Or.inr (Or.inl ⟨_, .name⟩)
    · exact Or.inr (Or.inr ⟨n, _, .name hn⟩)
  | map options =>
    rcases exists_name_or_noName (options.find? nameKey) with ⟨n, hn, hname⟩ | h
    · exact Or.inr (Or.inr ⟨n, _, .map hn hname⟩)
    · exact Or.inr (Or.inl ⟨_, .map h⟩)
  | list items =>
    rcases exists_name_or_noName items.head? with ⟨n, hn, hname⟩ | h
    · obtain ⟨rest, rfl⟩ := List.head?_eq_some_iff.1 hname
      rcases rest with _ | ⟨v, _ | ⟨w, rest⟩⟩
      · exact Or.inr (Or.inr ⟨n, _, .bare hn⟩)
      · cases hv : v.asObject? with
        | none => exact Or.inr (Or.inl ⟨_, .options hn hv⟩)
        | some o => exact Or.inr (Or.inr ⟨n, _, .list hn hv⟩)
      · exact Or.inr (Or.inl ⟨_, .size hn⟩)
    · exact Or.inr (Or.inl ⟨_, .list h⟩)

theorem Asks.request?_eq {rule : Rule} {n : String} {o : Options} (h : rule.Asks n o) :
    rule.request? = .ok (some ⟨n, o⟩) := by
  cases h with
  | name hn => simp [request?, hn]
  | bare hn => simp [request?, listOptions, hn]
  | list hn hv => simp [request?, listOptions, hn, hv]
  | map hn hname => simp [request?, hn, hname]

theorem Malformed.request?_eq {rule : Rule} {e : ConfigError} (h : rule.Malformed e) :
    rule.request? = .error e := by
  cases h with
  | name => rfl
  | list h => simp [request?, h]
  | map h => simp [request?, h]
  | options hn hv => simp [request?, listOptions, hn, hv]
  | size hn => simp [request?, listOptions, hn]

/-- What is wrong with a rule is its name or its shape. -/
theorem Malformed.isShapeError {rule : Rule} {e : ConfigError} (h : rule.Malformed e) :
    e = .missingName ∨ ∃ fault, e = .invalidRule fault := by
  cases h with
  | name | list _ | map _ => exact Or.inl rfl
  | options _ _ | size _ => exact Or.inr ⟨_, rfl⟩

/-! ## What a rule resolves to -/

variable {r : Registry} {rule : Rule} {n : String} {o : Options} {e : ConfigError}

/-- **Only the name and the options count.** -/
theorem Asks.resolve_eq (h : rule.Asks n o) : r.resolve rule = r.create n o := by
  have hrequest := h.request?_eq
  cases rule with
  | inline _ => cases h
  | name _ | list _ | map _ =>
    rw [Registry.resolve, hrequest]
    exact fun _ h => nomatch h

/-- **A malformed rule is refused whatever the registry holds.** -/
theorem Malformed.resolve_eq (h : rule.Malformed e) : r.resolve rule = .error (.config e) := by
  have hrequest := h.request?_eq
  cases rule with
  | inline _ => cases h
  | name _ | list _ | map _ =>
    rw [Registry.resolve, hrequest]
    exact fun _ h => nomatch h

/-- The list of a name and an object passes all fields of the object on. -/
theorem asks_list (hn : n ≠ "") (o : Object) :
    Asks (.list [.text n, .ofObject o]) n (.ofObject o) :=
  .list hn (Value.asObject?_ofObject o)

/-- The map of a name and options has the name in the place of an option. -/
theorem asks_withOptions (hn : n ≠ "") (o : Options) :
    Asks (withOptions n o) n (o.erase nameKey) := by
  have h : Asks (withOptions n o) n ((o.insert nameKey (.text n)).erase nameKey) :=
    .map hn (Dict.find?_insert_self _ _ _)
  rw [Dict.erase_insert_self] at h
  exact h

/-- Options without a name are passed on by a map as well. -/
theorem asks_withOptions_of_find?_eq_none (hn : n ≠ "") (ho : o.find? nameKey = none) :
    Asks (withOptions n o) n o := by
  have h := asks_withOptions hn o
  rwa [Dict.erase_of_find?_eq_none ho] at h

/-! ## Rules in documents -/

/-- The list of a name and an object, read from a document. -/
theorem ofJson_list (n : String) (members : Dict Json) :
    ofJson (.array [.text n, .object members.entries]) =
      .ok (.list [.text n, .object .plain (Value.ofJsonFields members.entries)]) := by
  rw [ofJson, List.map_cons, List.map_cons, List.map_nil, Value.ofJson, Value.ofJson]

/-- The object with a name among its members, read from a document. -/
theorem ofJson_map (n : String) (members : Dict Json) :
    ofJson (.object (members.insert nameKey (.text n)).entries) =
      .ok (withOptions n (.ofMembers members)) := by
  rw [ofJson, Options.ofJson_object, Options.ofMembers_insert, Value.ofJson]
  rfl

end Rule

namespace Registry

open Rule (nameKey)

/-- An option called like the key of the name is refused by every standard factory that accepts the
other options. -/
theorem create_of_standard [Regex.Engine] {r : Registry} {n b : String} {factory : Factory}
    {o : Options} (hstandard : Factory.Standard b factory)
    (hfactory : r.factories.find? n = some factory)
    (hname : o.find? nameKey ≠ none) (hrest : ∃ v, factory (o.erase nameKey) = .ok v) :
    r.create n o = .error (.config (.unknownOption b nameKey)) := by
  obtain ⟨recipe, hnotMem, reading, hreading, rfl⟩ := hstandard.exists_recipe
  have hunknown : Reading.ofOptions b o reading = .error (.unknownOption b nameKey) :=
    hreading.denotes.ofOptions_eq_unknown_of_erase hnotMem hname hrest
  rw [create_of_find?_eq_some hfactory, hunknown]
  rfl

/-- The rules in documents that ask for the validator of a name without an option of that name. -/
theorem resolve_ofJson (r : Registry) {n : String} (hn : n ≠ "") {members : Dict Json}
    (hmembers : members.find? nameKey = none) :
    ∀ j ∈ [.array [.text n, .object members.entries],
        .object (members.insert nameKey (.text n)).entries],
      ∃ rule, Rule.ofJson j = .ok rule ∧
        r.resolve rule = r.create n (Options.ofMembers members) := by
  have hname : (Options.ofMembers members).find? nameKey = none := by
    rw [Options.find?_ofMembers, hmembers]
    rfl
  have hlist : Rule.Asks (.list [.text n, .object .plain (Value.ofJsonFields members.entries)]) n
      (.ofMembers members) := .list (o := ⟨.plain, Options.ofMembers members⟩) hn rfl
  have hmap := Rule.asks_withOptions_of_find?_eq_none hn hname
  exact List.forall_mem_cons.2 ⟨⟨_, Rule.ofJson_list n members, hlist.resolve_eq⟩,
    List.forall_mem_cons.2 ⟨⟨_, Rule.ofJson_map n members, hmap.resolve_eq⟩,
      List.forall_mem_nil _⟩⟩

/-- **The shapes of a rule are interchangeable.**  A list, a map and an object with the name in it,
in code or in a document, resolve to what the registry creates for the name and the options, and so
do the name alone and the list of it where there are no options.  An option `name` is dropped by a
map and passed on by a list, where no standard validator accepts it.  A malformed rule is refused as
such under every registry, a name that is not defined is reported whatever the options, and there is
no third kind of rule besides the predicates. -/
theorem resolve_rule_shapes [Regex.Engine] (r : Registry) {n : String} (hn : n ≠ "") :
    (∀ o : Object, o.find? nameKey = none →
      (∀ rule ∈ [.list [.text n, .ofObject o], .ofObject (o.insert nameKey (.text n)),
          .withOptions n (.ofObject o)], r.resolve rule = r.create n (.ofObject o)) ∧
      (o.fields = .empty →
        ∀ rule ∈ [.name n, .list [.text n]], r.resolve rule = r.create n (.ofObject o))) ∧
    (∀ members : Dict Json, members.find? nameKey = none →
      ∃ o, Options.ofJson (.object members.entries) = .ok o ∧
        (∀ j ∈ [.array [.text n, .object members.entries],
            .object (members.insert nameKey (.text n)).entries],
          ∃ rule, Rule.ofJson j = .ok rule ∧ r.resolve rule = r.create n o) ∧
        (members = .empty → ∀ j ∈ [.text n, .array [.text n]],
          ∃ rule, Rule.ofJson j = .ok rule ∧ r.resolve rule = r.create n o)) ∧
    (∀ o : Object,
      r.resolve (.withOptions n (.ofObject o)) =
        r.resolve (.withOptions n (.ofObject (o.erase nameKey))) ∧
      r.resolve (.withOptions n (.ofObject o)) = r.create n (.ofObject (o.erase nameKey)) ∧
      r.resolve (.list [.text n, .ofObject o]) = r.create n (.ofObject o) ∧
      ∀ b factory, Factory.Standard b factory → r.factories.find? n = some factory →
        o.find? nameKey ≠ none → (∃ v, factory (.ofObject (o.erase nameKey)) = .ok v) →
        r.resolve (.list [.text n, .ofObject o]) = .error (.config (.unknownOption b nameKey))) ∧
    (∀ rule e, rule.Malformed e → (e = .missingName ∨ ∃ fault, e = .invalidRule fault) ∧
      r.resolve rule = .error (.config e)) ∧
    (∀ rule m o, rule.Asks m o → r.contains m = false → r.resolve rule = .error (.notFound m)) ∧
    (∀ rule : Rule, (∃ predicate, rule = .inline predicate) ∨ (∃ e, rule.Malformed e) ∨
      ∃ m o, rule.Asks m o) := by
  have hempty : ∀ rule ∈ [.name n, .list [.text n]], r.resolve rule = r.create n .empty :=
    List.forall_mem_cons.2 ⟨(Rule.Asks.name hn).resolve_eq,
      List.forall_mem_cons.2 ⟨(Rule.Asks.bare hn).resolve_eq, List.forall_mem_nil _⟩⟩
  refine ⟨fun o ho => ⟨?_, ?_⟩, fun members hmembers => ?_, fun o => ⟨?_, ?_, ?_, ?_⟩, ?_, ?_,
    Rule.inline_or_malformed_or_asks⟩
  · have hmap : r.resolve (.withOptions n (.ofObject o)) = r.create n (.ofObject o) :=
      (Rule.asks_withOptions_of_find?_eq_none hn ho).resolve_eq
    exact List.forall_mem_cons.2 ⟨(Rule.asks_list hn o).resolve_eq,
      List.forall_mem_cons.2 ⟨hmap, List.forall_mem_cons.2 ⟨hmap, List.forall_mem_nil _⟩⟩⟩
  · intro hfields
    rw [Options.ofObject, hfields]
    exact hempty
  · refine ⟨_, Options.ofJson_object members, r.resolve_ofJson hn hmembers, ?_⟩
    rintro rfl
    exact List.forall_mem_cons.2 ⟨⟨_, rfl, (Rule.Asks.name hn).resolve_eq⟩,
      List.forall_mem_cons.2 ⟨⟨_, rfl, (Rule.Asks.bare hn).resolve_eq⟩, List.forall_mem_nil _⟩⟩
  · have herased := Dict.erase_erase_self o.fields nameKey
    rw [(Rule.asks_withOptions hn _).resolve_eq, (Rule.asks_withOptions hn _).resolve_eq]
    exact congrArg (r.create n) herased.symm
  · exact (Rule.asks_withOptions hn _).resolve_eq
  · exact (Rule.asks_list hn o).resolve_eq
  · intro b factory hstandard hfactory hname hrest
    rw [(Rule.asks_list hn o).resolve_eq]
    exact create_of_standard hstandard hfactory hname hrest
  · exact fun rule e h => ⟨h.isShapeError, h.resolve_eq⟩
  · intro rule m o h hm
    rw [h.resolve_eq, create_of_find?_eq_none (find?_eq_none_of_contains_eq_false hm)]

section

attribute [local instance] Regex.Engine.standard

/-- A null `name` in the list of a built-in validator is an option like any other, and it is
refused; in the map it gives way to the name. -/
theorem resolve_rule_shapes_required :
    Registry.builtins.resolve (.list [.text "required", .ofObject (.ofFields [("name", .null)])]) =
        .error (.config (.unknownOption "required" "name")) ∧
      Registry.builtins.resolve
          (.withOptions "required" (.ofObject (.ofFields [("name", .null)]))) =
        .ok Builtin.required := by
  obtain ⟨-, -, hnamed, -⟩ := Registry.builtins.resolve_rule_shapes
    (show "required" ≠ "" by decide)
  obtain ⟨-, hmap, -, hlist⟩ := hnamed (.ofFields [("name", .null)])
  refine ⟨hlist "required" _ (.builtin rfl) rfl (by decide) ⟨_, rfl⟩, ?_⟩
  rw [hmap]
  rfl

end

end Registry

end Vetting
