import Mathlib.Data.Finset.Dedup
import Mathlib.Data.Finset.Card
import Mathlib.Data.List.Induction
import Vetting.Proofs.Schema.Report
import Vetting.Regex.Size

/-!
# What a run of declarations lists

Fields are declared one after the other, under any names and under the same name any number of
times.  `Schema.DeclaredLast` says of the declarations alone which descriptor a name ends up with,
and its place is that of its first declaration.  A schema lists just these: each step keeps the
names that are there in their places and gives one name its descriptor (`Schema.names_insert`,
`Schema.find?_insert`), and the run lemmas take a run apart from its end, since the last declaration
of a name is the one that counts.

* `Schema.pairwise_names_declareAll`: the names by the places of their first declarations.
* `Schema.find?_declareAll_eq_some_iff`: the descriptor of a name is the one declared last.
* `Registry.exists_field?_iff_of_compile`, `Registry.sublist_names_of_compile`: compiling leaves out
  the fields without a rule list and nothing else.
-/

namespace Vetting

namespace Schema

variable {s : Schema} {calls : List (String × FieldDescriptor)} {name : String}
  {descriptor : FieldDescriptor}

/-- A schema with fields declared in it one after the other. -/
def declareAll (s : Schema) (calls : List (String × FieldDescriptor)) : Schema :=
  calls.foldl (fun s call => s.insert call.1 call.2) s

/-- The last declaration of a name gives it the descriptor. -/
def DeclaredLast (calls : List (String × FieldDescriptor)) (name : String)
    (descriptor : FieldDescriptor) : Prop :=
  ∃ before after, calls = before ++ (name, descriptor) :: after ∧ name ∉ after.map (·.1)

@[simp] theorem declareAll_nil (s : Schema) : s.declareAll [] = s := rfl

@[simp] theorem declareAll_cons (s : Schema) (call : String × FieldDescriptor)
    (calls : List (String × FieldDescriptor)) :
    s.declareAll (call :: calls) = (s.insert call.1 call.2).declareAll calls := rfl

@[simp] theorem declareAll_append (s : Schema) (before after : List (String × FieldDescriptor)) :
    s.declareAll (before ++ after) = (s.declareAll before).declareAll after := List.foldl_append

theorem declareAll_concat (s : Schema) (calls : List (String × FieldDescriptor))
    (call : String × FieldDescriptor) :
    s.declareAll (calls ++ [call]) = (s.declareAll calls).insert call.1 call.2 := by
  simp

theorem Built.declareAll (h : s.Built) (calls : List (String × FieldDescriptor)) :
    (s.declareAll calls).Built := by
  induction calls using List.reverseRecOn with
  | nil => exact h
  | append_singleton calls call ih =>
    rw [declareAll_concat]
    exact ih.insert call.1 call.2

/-! ## Names -/

@[simp] theorem mem_names_insert {other : String} :
    other ∈ (s.insert name descriptor).names ↔ other = name ∨ other ∈ s.names := by
  rw [names_insert]
  split
  · rename_i hname
    exact ⟨Or.inr, fun h => h.elim (fun heq => heq ▸ hname) id⟩
  · rw [List.mem_append, List.mem_singleton, or_comm]

/-- A name is listed exactly when it has been declared. -/
@[simp] theorem mem_names_declareAll_iff :
    name ∈ (empty.declareAll calls).names ↔ name ∈ calls.map (·.1) := by
  induction calls using List.reverseRecOn with
  | nil => rfl
  | append_singleton calls call ih =>
    rw [declareAll_concat, mem_names_insert, ih]
    simp [or_comm]

/-- **Names are listed by their first declarations.** -/
theorem pairwise_names_declareAll (calls : List (String × FieldDescriptor)) :
    (empty.declareAll calls).names.Pairwise fun m n =>
      (calls.map (·.1)).idxOf m < (calls.map (·.1)).idxOf n := by
  induction calls using List.reverseRecOn with
  | nil => exact .nil
  | append_singleton calls call ih =>
    -- the first declaration of a name that was there before is not changed by another one
    have hplace : ∀ m ∈ (empty.declareAll calls).names,
        ((calls ++ [call]).map (·.1)).idxOf m = (calls.map (·.1)).idxOf m := by
      intro m hm
      rw [List.map_append, List.idxOf_append, if_pos (mem_names_declareAll_iff.1 hm)]
    have hkept : (empty.declareAll calls).names.Pairwise fun m n =>
        ((calls ++ [call]).map (·.1)).idxOf m < ((calls ++ [call]).map (·.1)).idxOf n :=
      ih.imp_of_mem fun hm hn h => by rwa [hplace _ hm, hplace _ hn]
    rw [declareAll_concat, names_insert]
    split
    · exact hkept
    · rename_i hnew
      refine List.pairwise_append.2 ⟨hkept, List.pairwise_singleton _ _, fun m hm n hn => ?_⟩
      have hfirst : call.1 ∉ calls.map (·.1) := fun h => hnew (mem_names_declareAll_iff.2 h)
      rw [List.mem_singleton.1 hn, hplace m hm, List.map_append, List.idxOf_append, if_neg hfirst]
      have hm := List.idxOf_lt_length_of_mem (mem_names_declareAll_iff.1 hm)
      omega

/-- **As many fields are listed as there are distinct names.** -/
theorem size_declareAll (calls : List (String × FieldDescriptor)) :
    (empty.declareAll calls).size = (calls.map (·.1)).toFinset.card := by
  have hnames : (calls.map (·.1)).toFinset = (empty.declareAll calls).names.toFinset := by
    ext name
    rw [List.mem_toFinset, List.mem_toFinset, mem_names_declareAll_iff]
  rw [hnames, List.toFinset_card_of_nodup (Built.empty.declareAll calls).nodup_names, names,
    List.length_map]
  rfl

/-! ## Descriptors -/

/-- Declaring other names leaves the descriptor of a name alone. -/
theorem find?_declareAll_of_notMem (h : name ∉ calls.map (·.1)) :
    (s.declareAll calls).find? name = s.find? name := by
  induction calls using List.reverseRecOn with
  | nil => rfl
  | append_singleton calls call ih =>
    rw [List.map_append, List.mem_append, not_or] at h
    have hne : name ≠ call.1 := fun heq => h.2 (heq ▸ List.mem_cons_self)
    simp [hne, ih h.1]

theorem DeclaredLast.find?_eq (h : DeclaredLast calls name descriptor) :
    (s.declareAll calls).find? name = some descriptor := by
  obtain ⟨before, after, rfl, hafter⟩ := h
  rw [declareAll_append, declareAll_cons, find?_declareAll_of_notMem hafter]
  simp

/-- A name that has been declared has been declared for a last time. -/
theorem exists_declaredLast (h : name ∈ calls.map (·.1)) :
    ∃ descriptor, DeclaredLast calls name descriptor := by
  induction calls with
  | nil => cases h
  | cons call rest ih =>
    by_cases hrest : name ∈ rest.map (·.1)
    · obtain ⟨descriptor, before, after, hsplit, hafter⟩ := ih hrest
      exact ⟨descriptor, call :: before, after, by rw [hsplit]; rfl, hafter⟩
    · -- no later declaration hides this one
      obtain ⟨key, descriptor⟩ := call
      have hkey : name = key := (List.mem_cons.1 h).resolve_right hrest
      exact ⟨descriptor, [], rest, by rw [hkey]; rfl, hrest⟩

/-- **The descriptor of a name is the one declared last.** -/
theorem find?_declareAll_eq_some_iff :
    (empty.declareAll calls).find? name = some descriptor ↔
      DeclaredLast calls name descriptor := by
  refine ⟨fun h => ?_, DeclaredLast.find?_eq⟩
  by_cases hname : name ∈ calls.map (·.1)
  · obtain ⟨last, hlast⟩ := exists_declaredLast hname
    obtain rfl := Option.some.inj (hlast.find?_eq.symm.trans h)
    exact hlast
  · rw [find?_declareAll_of_notMem hname] at h
    cases h

theorem find?_declareAll_eq_none_iff :
    (empty.declareAll calls).find? name = none ↔ name ∉ calls.map (·.1) := by
  refine ⟨fun h hname => ?_, fun h => find?_declareAll_of_notMem h⟩
  obtain ⟨last, hlast⟩ := exists_declaredLast hname
  rw [hlast.find?_eq] at h
  cases h

end Schema

/-! ## Compiled fields -/

namespace Registry

variable {r : Registry} {a : Aggregation} {s : Schema} {c : CompiledSchema} {name : String}

/-- The compiled fields stand in the order of declaration. -/
theorem sublist_names_of_compile (hc : r.compile s a = .ok c) :
    (c.fields.map (·.1)).Sublist s.names := by
  rw [names_compileFields (compile_eq_ok_iff.1 hc)]
  exact sublist_names_ruledFields s.fields

/-- **A field is compiled exactly when its descriptor carries a rule list**, be it empty. -/
theorem exists_field?_iff_of_compile (hs : s.Built) (hc : r.compile s a = .ok c) :
    (∃ f, c.field? name = some f) ↔ ∃ rules, s.find? name = some ⟨some rules⟩ := by
  have hnames := names_compileFields (compile_eq_ok_iff.1 hc)
  simp only [CompiledSchema.field?, lookup_eq_some_iff_mem (nodup_names_of_compile hs hc),
    hs.find?_eq_some_iff, ← mem_ruledFields]
  constructor
  · rintro ⟨f, hf⟩
    have hname := List.mem_map_of_mem (f := Prod.fst) hf
    rw [hnames] at hname
    obtain ⟨⟨_, rules⟩, hrules, rfl⟩ := List.mem_map.1 hname
    exact ⟨rules, hrules⟩
  · rintro ⟨rules, hrules⟩
    have hname := List.mem_map_of_mem (f := Prod.fst) hrules
    rw [← hnames] at hname
    obtain ⟨⟨_, f⟩, hf, rfl⟩ := List.mem_map.1 hname
    exact ⟨f, hf⟩

/-- **What a run of declarations comes to.**  No name is listed twice, the names are those that were
declared, and they stand by their first declarations.  The descriptor of a name is the one declared
last, there is none for a name that was never declared, and there are as many fields as distinct
names.

Once such a schema compiles, the field of a name is there exactly when the descriptor declared last
carries a rule list, and the compiled fields have distinct names in the order in which the schema
lists them. -/
theorem declarations_listed (calls : List (String × FieldDescriptor)) :
    (Schema.empty.declareAll calls).names.Nodup ∧
    (∀ name, name ∈ (Schema.empty.declareAll calls).names ↔ name ∈ calls.map (·.1)) ∧
    ((Schema.empty.declareAll calls).names.Pairwise fun m n =>
      (calls.map (·.1)).idxOf m < (calls.map (·.1)).idxOf n) ∧
    (∀ name descriptor, (name, descriptor) ∈ (Schema.empty.declareAll calls).fields ↔
      Schema.DeclaredLast calls name descriptor) ∧
    (∀ name descriptor, (Schema.empty.declareAll calls).find? name = some descriptor ↔
      Schema.DeclaredLast calls name descriptor) ∧
    (∀ name, (Schema.empty.declareAll calls).find? name = none ↔ name ∉ calls.map (·.1)) ∧
    (Schema.empty.declareAll calls).size = (calls.map (·.1)).toFinset.card ∧
    ∀ (r : Registry) (a : Aggregation) (c : CompiledSchema),
      r.compile (Schema.empty.declareAll calls) a = .ok c →
      (∀ name, (∃ f, c.field? name = some f) ↔
        ∃ rules, Schema.DeclaredLast calls name ⟨some rules⟩) ∧
      (c.fields.map (·.1)).Sublist (Schema.empty.declareAll calls).names ∧
      (c.fields.map (·.1)).Nodup := by
  have hbuilt : (Schema.empty.declareAll calls).Built := Schema.Built.empty.declareAll calls
  refine ⟨hbuilt.nodup_names, fun name => Schema.mem_names_declareAll_iff,
    Schema.pairwise_names_declareAll calls, fun name descriptor => ?_,
    fun name descriptor => Schema.find?_declareAll_eq_some_iff,
    fun name => Schema.find?_declareAll_eq_none_iff, Schema.size_declareAll calls,
    fun r a c hc => ⟨fun name => ?_, sublist_names_of_compile hc,
      nodup_names_of_compile hbuilt hc⟩⟩
  · rw [← hbuilt.find?_eq_some_iff, Schema.find?_declareAll_eq_some_iff]
  · rw [exists_field?_iff_of_compile hbuilt hc]
    exact exists_congr fun rules => Schema.find?_declareAll_eq_some_iff

section

attribute [local instance] Regex.Engine.standard

/-- A name declared with rules, then without and then with none to check, a name that is empty, and
a name whose rules are taken back. -/
theorem declarations_listed_taken_back :
    ∃ calls c, calls = [("a", ⟨some [.name "required"]⟩), ("", ⟨some []⟩), ("a", ⟨none⟩),
        ("b", ⟨some [.name "unheard of"]⟩), ("a", ⟨some []⟩), ("b", ⟨none⟩)] ∧
      builtins.compile (Schema.empty.declareAll calls) .lastFailure = .ok c ∧
      (Schema.empty.declareAll calls).names = ["a", "", "b"] ∧
      (Schema.empty.declareAll calls).size = 3 ∧
      (Schema.empty.declareAll calls).find? "b" = some ⟨none⟩ ∧
      (∃ f, c.field? "a" = some f) ∧ (¬ ∃ f, c.field? "b" = some f) ∧
      (c.fields.map (·.1)).Sublist ["a", "", "b"] := by
  let calls : List (String × FieldDescriptor) := [("a", ⟨some [.name "required"]⟩), ("", ⟨some []⟩),
    ("a", ⟨none⟩), ("b", ⟨some [.name "unheard of"]⟩), ("a", ⟨some []⟩), ("b", ⟨none⟩)]
  obtain ⟨-, -, -, -, hlast, -, hsize, hcompiled⟩ := declarations_listed calls
  have hb : Schema.DeclaredLast calls "b" ⟨none⟩ := ⟨calls.take 5, [], rfl, List.not_mem_nil⟩
  have ha : Schema.DeclaredLast calls "a" ⟨some []⟩ :=
    ⟨calls.take 4, [("b", ⟨none⟩)], rfl, by decide⟩
  obtain ⟨hfield, hsublist, -⟩ := hcompiled builtins .lastFailure _ rfl
  refine ⟨calls, _, rfl, rfl, rfl, by rw [hsize]; decide, (hlast "b" _).2 hb,
    (hfield "a").2 ⟨[], ha⟩, fun h => ?_, hsublist⟩
  obtain ⟨rules, hrules⟩ := (hfield "b").1 h
  have hfind := (hlast "b" _).2 hrules
  rw [(hlast "b" _).2 hb] at hfind
  cases hfind

end

end Registry

end Vetting
