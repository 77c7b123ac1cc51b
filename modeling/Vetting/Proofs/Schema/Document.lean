import Vetting.Proofs.Schema.Report

/-!
# Schema documents

A document is loaded in two passes that notice different things.  Reading it finds what is out of
shape: the document itself, a descriptor that is no object, an element of a rule list that is no
name, list or map.  Compiling the schema then finds rules that do not resolve.

* `Schema.Shaped` says what a document has to look like, and `Schema.FirstOffence` names the first
  place where it does not, in key order and within a field in rule order.
* `ruleLists` are the rule lists of a document, in key order; they are what compiling passes over,
  and the elements of the lists one after the other are the order in which rules are resolved.
* `Registry.load_document`: both passes succeed, or fail, exactly so.
-/

namespace Vetting

/-! ## Shapes -/

/-- What may stand in a rule list: a name, a list or a map. -/
inductive Rule.Shaped : Json → Prop
  | text (name : String) : Shaped (.text name)
  | array (items : List Json) : Shaped (.array items)
  | object (fields : List (String × Json)) : Shaped (.object fields)

/-- The elements under `rules`, if a list stands there. -/
def Json.ruleElements? (j : Json) : Option (List Json) :=
  j.asObject?.bind fun members => (members.find? "rules").bind Json.asArray?

/-- A descriptor is an object, and the elements of its rule list have the shape of rules. -/
structure FieldDescriptor.Shaped (j : Json) : Prop where
  isObject : j.asObject? ≠ none
  rules : ∀ elements, j.ruleElements? = some elements → ∀ e ∈ elements, Rule.Shaped e

/-- A schema is an object of descriptors. -/
def Schema.Shaped (j : Json) : Prop :=
  ∃ members, j.asObject? = some members ∧ ∀ m ∈ members.entries, FieldDescriptor.Shaped m.2

/-- The first thing in a document that is out of shape, with the error that names it: members
count in key order, and the elements of a rule list in theirs. -/
inductive Schema.FirstOffence (j : Json) : ConfigError → Prop
  | schema (hj : j.asObject? = none) : FirstOffence j (.invalidSchema j)
  | descriptor {members : Dict Json} {before after : List (String × Json)} {field : String}
      {d : Json} (hj : j.asObject? = some members)
      (hsplit : members.entries = before ++ (field, d) :: after)
      (hbefore : ∀ m ∈ before, FieldDescriptor.Shaped m.2) (hd : d.asObject? = none) :
      FirstOffence j (.invalidDescriptor field d)
  | rule {members : Dict Json} {before after : List (String × Json)} {field : String} {d e : Json}
      {first last : List Json} (hj : j.asObject? = some members)
      (hsplit : members.entries = before ++ (field, d) :: after)
      (hbefore : ∀ m ∈ before, FieldDescriptor.Shaped m.2)
      (hd : d.ruleElements? = some (first ++ e :: last)) (hfirst : ∀ x ∈ first, Rule.Shaped x)
      (he : ¬ Rule.Shaped e) : FirstOffence j (.invalidRule (.shape e))

/-! ## Reading rules and descriptors -/

theorem Rule.exists_ofJson_eq_ok_iff {j : Json} :
    (∃ rule, Rule.ofJson j = .ok rule) ↔ Rule.Shaped j := by
  constructor
  · rintro ⟨rule, h⟩
    cases j with
    | text name => exact .text name
    | array items => exact .array items
    | object fields => exact .object fields
    | null | bool _ | integer _ | float _ => cases h
  · rintro (name | items | fields)
    · exact ⟨_, rfl⟩
    · exact ⟨_, rfl⟩
    · exact ⟨_, rfl⟩

theorem Rule.ofJson_eq_error_iff {j : Json} {e : ConfigError} :
    Rule.ofJson j = .error e ↔ ¬ Rule.Shaped j ∧ e = .invalidRule (.shape j) := by
  rw [← Rule.exists_ofJson_eq_ok_iff]
  cases j with
  | text _ | array _ | object _ =>
    exact iff_of_false (fun h => nomatch h) fun h => h.1 ⟨_, rfl⟩
  | null | bool _ | integer _ | float _ =>
    constructor
    · intro h
      refine ⟨?_, (Except.error.inj h).symm⟩
      rintro ⟨rule, hrule⟩
      cases hrule
    · rintro ⟨-, rfl⟩
      rfl

namespace FieldDescriptor

@[simp] theorem rulesOfJson_eq_mapM (elements : List Json) :
    rulesOfJson elements = elements.mapM Rule.ofJson := by
  induction elements with
  | nil => rfl
  | cons e rest ih => rw [rulesOfJson, List.mapM_cons, ih]

/-- An object is read by reading its rule list, if there is one. -/
theorem ofJson_eq {field : String} {j : Json} (h : j.asObject? ≠ none) :
    ofJson field j = match j.ruleElements? with
      | some elements => (elements.mapM Rule.ofJson).map fun rules => ⟨some rules⟩
      | none => .ok ⟨none⟩ := by
  obtain ⟨members, hmembers⟩ := Option.ne_none_iff_exists'.1 h
  rw [ofJson, Json.ruleElements?, hmembers, Option.bind_some]
  dsimp only
  cases members.find? "rules" with
  | none => rfl
  | some rules =>
    cases rules with
    | array elements =>
      show (rulesOfJson elements).map _ = _
      rw [rulesOfJson_eq_mapM]
      rfl
    | null | bool _ | integer _ | float _ | text _ | object _ => rfl

theorem ofJson_eq_error_iff {field : String} {j : Json} {e : ConfigError} :
    ofJson field j = .error e ↔
      (j.asObject? = none ∧ e = .invalidDescriptor field j) ∨
        ∃ elements, j.ruleElements? = some elements ∧ FailsFirst Rule.ofJson elements e := by
  by_cases h : j.asObject? = none
  · have hrules : j.ruleElements? = none := by rw [Json.ruleElements?, h]; rfl
    rw [ofJson, h, hrules]
    constructor
    · intro he
      exact Or.inl ⟨rfl, (Except.error.inj he).symm⟩
    · rintro (⟨-, rfl⟩ | ⟨_, h, -⟩)
      · rfl
      · cases h
  · rw [ofJson_eq h, or_iff_right fun h' => h h'.1]
    cases j.ruleElements? with
    | none => exact iff_of_false (fun h => nomatch h) fun ⟨_, h, _⟩ => nomatch h
    | some elements =>
      show (elements.mapM Rule.ofJson).map _ = _ ↔ _
      rw [map_eq_error_iff, mapM_eq_error_iff]
      exact ⟨fun h => ⟨elements, rfl, h⟩, fun ⟨_, h, hfails⟩ => Option.some.inj h ▸ hfails⟩

theorem exists_ofJson_eq_ok_iff {field : String} {j : Json} :
    (∃ d, ofJson field j = .ok d) ↔ FieldDescriptor.Shaped j := by
  by_cases h : j.asObject? = none
  · refine iff_of_false ?_ fun hshaped => hshaped.isObject h
    rintro ⟨d, hd⟩
    rw [ofJson, h] at hd
    cases hd
  · have hrules : (∃ d, ofJson field j = .ok d) ↔
        ∀ elements, j.ruleElements? = some elements → ∀ e ∈ elements, Rule.Shaped e := by
      rw [ofJson_eq h]
      cases j.ruleElements? with
      | none => exact iff_of_true ⟨_, rfl⟩ fun _ h => nomatch h
      | some elements =>
        simp only [Option.some.injEq, forall_eq', exists_map_eq_ok_iff,
          ← Rule.exists_ofJson_eq_ok_iff, exists_mapM_eq_ok_iff]
    rw [hrules]
    exact ⟨fun hshaped => ⟨h, hshaped⟩, fun hshaped => hshaped.rules⟩

end FieldDescriptor

/-! ## Reading a schema -/

namespace Schema

/-- A member of a document as a declared field. -/
def declare (m : String × Json) : Except ConfigError (String × FieldDescriptor) :=
  (FieldDescriptor.ofJson m.1 m.2).map fun descriptor => (m.1, descriptor)

/-- Members with new names are declared behind the fields that are there. -/
theorem insertMembers_eq {members : List (String × Json)} (hnodup : (members.map (·.1)).Nodup)
    {s : Schema} (hnew : ∀ m ∈ members, m.1 ∉ s.names) :
    insertMembers members s = (members.mapM declare).map fun fields => ⟨s.fields ++ fields⟩ := by
  induction members generalizing s with
  | nil =>
    show Except.ok s = Except.ok (Schema.mk (s.fields ++ []))
    rw [List.append_nil]
  | cons head rest ih =>
    obtain ⟨name, j⟩ := head
    obtain ⟨hname, hrest⟩ := List.nodup_cons.1 hnodup
    rw [insertMembers, List.mapM_cons, declare]
    cases FieldDescriptor.ofJson name j with
    | error e => rfl
    | ok descriptor =>
      have hinsert : s.insert name descriptor = ⟨s.fields ++ [(name, descriptor)]⟩ := by
        rw [insert, insertInto_of_notMem (hnew (name, j) List.mem_cons_self)]
      have hnew' : ∀ m ∈ rest, m.1 ∉ (s.insert name descriptor).names := by
        intro m hm hmem
        rw [hinsert, names, List.map_append, List.mem_append] at hmem
        rcases hmem with hmem | hmem
        · exact hnew m (List.mem_cons_of_mem _ hm) hmem
        · have hkey : m.1 = name := List.mem_singleton.1 hmem
          exact hname (hkey ▸ List.mem_map.2 ⟨m, hm, rfl⟩)
      show insertMembers rest (s.insert name descriptor) = _
      rw [ih hrest hnew', hinsert]
      cases rest.mapM declare with
      | error e => rfl
      | ok fields =>
        show Except.ok (Schema.mk (s.fields ++ [(name, descriptor)] ++ fields)) =
          Except.ok (Schema.mk (s.fields ++ ((name, descriptor) :: fields)))
        rw [List.append_assoc]
        rfl

/-- **Reading a document declares its members in key order.** -/
theorem ofJson_eq {j : Json} {members : Dict Json} (h : j.asObject? = some members) :
    ofJson j = (members.entries.mapM declare).map Schema.mk := by
  rw [ofJson, h]
  show insertMembers members.entries empty = _
  rw [insertMembers_eq members.nodup_keys fun _ _ hmem => absurd hmem List.not_mem_nil]
  rfl

theorem exists_declare_eq_ok_iff {m : String × Json} :
    (∃ field, declare m = .ok field) ↔ FieldDescriptor.Shaped m.2 := by
  rw [← @FieldDescriptor.exists_ofJson_eq_ok_iff m.1]
  exact exists_map_eq_ok_iff

/-- **A document is a schema exactly when it has the shape of one.** -/
theorem exists_ofJson_eq_ok_iff {j : Json} : (∃ s, ofJson j = .ok s) ↔ Shaped j := by
  cases hj : j.asObject? with
  | none =>
    refine iff_of_false ?_ ?_
    · rintro ⟨s, hs⟩
      rw [ofJson, hj] at hs
      cases hs
    · rintro ⟨members, hmembers, -⟩
      rw [hj] at hmembers
      cases hmembers
  | some members =>
    simp only [ofJson_eq hj, Shaped, hj, Option.some.injEq, exists_eq_left',
      exists_map_eq_ok_iff, exists_mapM_eq_ok_iff, exists_declare_eq_ok_iff]

/-- **A document that is no schema is refused for its first offence.** -/
theorem ofJson_eq_error_iff {j : Json} {e : ConfigError} :
    ofJson j = .error e ↔ FirstOffence j e := by
  cases hj : j.asObject? with
  | none =>
    rw [ofJson, hj]
    constructor
    · intro h
      rw [← Except.error.inj h]
      exact .schema hj
    · intro h
      cases h with
      | schema => rfl
      | descriptor hj' => rw [hj] at hj'; cases hj'
      | rule hj' => rw [hj] at hj'; cases hj'
  | some members =>
    rw [ofJson_eq hj, map_eq_error_iff, mapM_eq_error_iff]
    constructor
    · rintro ⟨before, ⟨field, d⟩, after, hsplit, hbefore, he⟩
      have hshaped : ∀ m ∈ before, FieldDescriptor.Shaped m.2 :=
        fun m hm => exists_declare_eq_ok_iff.1 (hbefore m hm)
      rw [declare, map_eq_error_iff, FieldDescriptor.ofJson_eq_error_iff] at he
      rcases he with ⟨hd, rfl⟩ | ⟨elements, hd, first, x, last, rfl, hfirst, hx⟩
      · exact .descriptor hj hsplit hshaped hd
      · obtain ⟨hunshaped, rfl⟩ := Rule.ofJson_eq_error_iff.1 hx
        exact .rule hj hsplit hshaped hd
          (fun y hy => Rule.exists_ofJson_eq_ok_iff.1 (hfirst y hy)) hunshaped
    · intro h
      have hentries : ∀ {members' : Dict Json}, j.asObject? = some members' →
          members'.entries = members.entries := by
        intro members' h'
        rw [Option.some.inj (hj.symm.trans h')]
      cases h with
      | schema hj' => rw [hj] at hj'; cases hj'
      | @descriptor members' before after field d hj' hsplit hbefore hd =>
        refine ⟨before, (field, d), after, (hentries hj').symm.trans hsplit,
          fun m hm => exists_declare_eq_ok_iff.2 (hbefore m hm), ?_⟩
        rw [declare, map_eq_error_iff, FieldDescriptor.ofJson_eq_error_iff]
        exact Or.inl ⟨hd, rfl⟩
      | @rule members' before after field d x first last hj' hsplit hbefore hd hfirst hx =>
        refine ⟨before, (field, d), after, (hentries hj').symm.trans hsplit,
          fun m hm => exists_declare_eq_ok_iff.2 (hbefore m hm), ?_⟩
        rw [declare, map_eq_error_iff, FieldDescriptor.ofJson_eq_error_iff]
        exact Or.inr ⟨_, hd, first, x, last, rfl,
          fun y hy => Rule.exists_ofJson_eq_ok_iff.2 (hfirst y hy),
          Rule.ofJson_eq_error_iff.2 ⟨hx, rfl⟩⟩

end Schema

/-! ## Compiling what was read -/

/-- The rule lists of a document's members, in key order. -/
def ruleLists (members : List (String × Json)) : List (String × List Json) :=
  members.filterMap fun m => m.2.ruleElements?.map fun elements => (m.1, elements)

/-- The validator that an element of a rule list asks for. -/
def Registry.resolveElement (r : Registry) (j : Json) : Except SetupError Validator := do
  r.resolve (← (Rule.ofJson j).mapError .config)

/-- The compiled form of a member with a rule list. -/
def Registry.compileElements (r : Registry) (a : Aggregation) (list : String × List Json) :
    Except SetupError (String × CompiledField) :=
  (list.2.mapM r.resolveElement).map fun validators => (list.1, ⟨validators, a⟩)

/-- The fields with rules are the members with a rule list, each with its elements read. -/
theorem forall₂_ruleLists {members : List (String × Json)}
    {fields : List (String × FieldDescriptor)}
    (h : List.Forall₂ (fun m field => Schema.declare m = .ok field) members fields) :
    List.Forall₂ (fun list field => list.1 = field.1 ∧ list.2.mapM Rule.ofJson = .ok field.2)
      (ruleLists members) (ruledFields fields) := by
  induction h with
  | nil => exact .nil
  | @cons m field members fields hfield _ ih =>
    obtain ⟨descriptor, hdescriptor, rfl⟩ := map_eq_ok_iff.1 hfield
    have hobject : m.2.asObject? ≠ none :=
      (FieldDescriptor.exists_ofJson_eq_ok_iff.1 ⟨descriptor, hdescriptor⟩).isObject
    rw [FieldDescriptor.ofJson_eq hobject] at hdescriptor
    rw [ruleLists, ruledFields, List.filterMap_cons, List.filterMap_cons]
    cases hrules : m.2.ruleElements? with
    | none =>
      rw [hrules] at hdescriptor
      obtain rfl := Except.ok.inj hdescriptor
      exact ih
    | some elements =>
      rw [hrules] at hdescriptor
      obtain ⟨rules, hrules, rfl⟩ := map_eq_ok_iff.1 hdescriptor
      exact .cons ⟨rfl, hrules⟩ ih

namespace Registry

variable {r : Registry} {a : Aggregation}

/-- **Compiling a schema that was read passes over the rule lists of the document.** -/
theorem compile_eq_of_ofJson {j : Json} {members : Dict Json} {s : Schema}
    (hj : j.asObject? = some members) (hs : Schema.ofJson j = .ok s) :
    r.compile s a =
      ((ruleLists members.entries).mapM (r.compileElements a)).map CompiledSchema.mk := by
  rw [Schema.ofJson_eq hj] at hs
  obtain ⟨fields, hfields, rfl⟩ := map_eq_ok_iff.1 hs
  have hlists := forall₂_ruleLists (mapM_eq_ok_iff.1 hfields)
  rw [compile, compileFields_eq_mapM]
  congr 1
  refine (mapM_eq_of_forall₂ (hlists.imp fun list field h => ?_)).symm
  obtain ⟨hname, hrules⟩ := h
  have hresolve : list.2.mapM r.resolveElement = field.2.mapM r.resolve := by
    refine mapM_eq_of_forall₂ ((mapM_eq_ok_iff.1 hrules).imp fun element rule h => ?_)
    rw [resolveElement, h]
    rfl
  rw [compileElements, compileRules, hname, hresolve]

/-- **Loading a document.**  It is a schema exactly when it has the shape of one, and otherwise it
is refused for its first offence.  A schema compiles exactly when every rule resolves, and otherwise
its first rule that does not resolve is reported.  The compiled fields are the members with a rule
list, each with a validator for each element.  A document out of shape never gets as far as its
rules. -/
theorem load_document (r : Registry) (a : Aggregation) (j : Json) :
    ((∃ s, Schema.ofJson j = .ok s) ↔ Schema.Shaped j) ∧
    (∀ e, Schema.ofJson j = .error e ↔ Schema.FirstOffence j e) ∧
    (∀ members s, j.asObject? = some members → Schema.ofJson j = .ok s →
      ((∃ c, r.compile s a = .ok c) ↔
        ∀ list ∈ ruleLists members.entries, ∀ element ∈ list.2,
          ∃ v, r.resolveElement element = .ok v) ∧
      (∀ e, r.compile s a = .error e ↔
        FailsFirst r.resolveElement ((ruleLists members.entries).flatMap (·.2)) e) ∧
      (∀ c, r.compile s a = .ok c →
        List.Forall₂ (fun list field => field.1 = list.1 ∧ field.2.aggregation = a ∧
            List.Forall₂ (fun element v => r.resolveElement element = .ok v)
              list.2 field.2.validators)
          (ruleLists members.entries) c.fields)) ∧
    (∀ e, Schema.FirstOffence j e →
      ((Schema.ofJson j).mapError SetupError.config >>= fun s => r.compile s a) =
        .error (.config e)) := by
  refine ⟨Schema.exists_ofJson_eq_ok_iff, fun _ => Schema.ofJson_eq_error_iff,
    fun members s hj hs => ⟨?_, fun e => ?_, fun c hc => ?_⟩, fun e he => ?_⟩
  · rw [compile_eq_of_ofJson hj hs]
    simp only [exists_map_eq_ok_iff, exists_mapM_eq_ok_iff, compileElements]
  · rw [compile_eq_of_ofJson hj hs, map_eq_error_iff, mapM_eq_error_iff, failsFirst_flatMap]
    exact failsFirst_map
  · rw [compile_eq_of_ofJson hj hs] at hc
    obtain ⟨fields, hfields, rfl⟩ := map_eq_ok_iff.1 hc
    refine (mapM_eq_ok_iff.1 hfields).imp fun list field h => ?_
    obtain ⟨validators, hvalidators, rfl⟩ := map_eq_ok_iff.1 h
    exact ⟨rfl, rfl, mapM_eq_ok_iff.1 hvalidators⟩
  · rw [Schema.ofJson_eq_error_iff.2 he]
    rfl

/-- A rule list out of shape counts before a name that nobody defined, although the name stands in
an earlier field; where all is in shape, the name is what is reported. -/
theorem load_document_late_offence :
    ((Schema.ofJson (.object [("a", .object [("rules", .array [.text "nope"])]),
          ("b", .object [("rules", .array [.array [], .integer 1])])])).mapError
        SetupError.config >>= fun s => Registry.empty.compile s .lastFailure) =
      .error (.config (.invalidRule (.shape (.integer 1)))) ∧
    ∃ s, Schema.ofJson (.object [("a", .object [("rules", .array [.text "nope"])]),
          ("b", .object [("rules", .null)])]) = .ok s ∧
      Registry.empty.compile s .lastFailure = .error (.notFound "nope") := by
  constructor
  · refine (load_document Registry.empty .lastFailure _).2.2.2 _
      (@Schema.FirstOffence.rule _ _ [_] [] _ _ _ [_] [] rfl rfl ?_ rfl ?_ ?_)
    · intro m hm
      rw [List.mem_singleton.1 hm]
      refine ⟨fun h => (by cases h), fun elements helements e he => ?_⟩
      obtain rfl := Option.some.inj helements
      rw [List.mem_singleton.1 he]
      exact .text "nope"
    · intro x hx
      rw [List.mem_singleton.1 hx]
      exact .array []
    · rintro ⟨⟩
  · refine ⟨_, rfl, ?_⟩
    have hcompile := (load_document Registry.empty .lastFailure
      (.object [("a", .object [("rules", .array [.text "nope"])]),
        ("b", .object [("rules", .null)])])).2.2.1 _ _ rfl rfl
    refine (hcompile.2.1 _).2 ?_
    exact ⟨[], .text "nope", [], rfl, fun _ hb => absurd hb List.not_mem_nil, rfl⟩

end Registry

end Vetting
