import Vetting.Proofs.Options.Effect
import Vetting.Proofs.Registry
import Vetting.Proofs.Validator.Grammar
import Vetting.Regex.Size

/-!
# Options that count as absent

Null and undefined stand for no option.  So a validator does not notice when such entries are taken
away, as long as it knows their names: what is made of the options stays the same, and so does the
error where nothing is made (`Registry.create_without_nullish`).

A name that is not known is another matter.  No validator asks for it, so what stands under it does
not count, be it null or not, and the name is refused; but only after everything else has been
found in order (`Reading.Denotes.ofOptions_of_unknown`).
-/

namespace Vetting

variable {name : String} {options : Options}

/-! ## Taking options away -/

namespace Options

/-- The options without the entries of the listed names. -/
def without (options : Options) (dropped : List String) : Options :=
  dropped.foldl (fun rest key => rest.erase key) options

@[simp] theorem find?_without (dropped : List String) (key : String) :
    (options.without dropped).find? key = if key ∈ dropped then none else options.find? key := by
  induction dropped generalizing options with
  | nil => exact (if_neg List.not_mem_nil).symm
  | cons head rest ih =>
    show (Options.without (options.erase head) rest).find? key = _
    rw [ih]
    by_cases hrest : key ∈ rest
    · simp [hrest]
    · by_cases hhead : key = head <;> simp [hrest, hhead]

@[simp] theorem mem_keys_without {dropped : List String} {key : String} :
    key ∈ (options.without dropped).keys ↔ key ∈ options.keys ∧ key ∉ dropped := by
  rw [Dict.mem_keys_iff, Dict.mem_keys_iff, find?_without]
  split
  · exact iff_of_false (fun ⟨_, h⟩ => nomatch h) fun h => h.2 ‹_›
  · exact (and_iff_left ‹_›).symm

theorem given?_without_of_notMem {dropped : List String} {key : String} (h : key ∉ dropped) :
    (options.without dropped).given? key = options.given? key := by
  simp [given?, h]

/-- **What counts as absent is not missed.** -/
theorem given?_without_of_isNullish {dropped : List String}
    (h : ∀ key ∈ dropped, ∀ v, options.find? key = some v → v.isNullish = true) (key : String) :
    (options.without dropped).given? key = options.given? key := by
  by_cases hkey : key ∈ dropped
  · rw [given?, given?, find?_without, if_pos hkey]
    symm
    rw [Option.filter_none, Option.filter_eq_none_iff]
    intro v hv
    rw [h key hkey v hv]
    exact Bool.false_ne_true
  · exact given?_without_of_notMem hkey

/-- The options without the entries whose names are none of `known`. -/
def onlyKnown (options : Options) (known : List String) : Options :=
  options.without (options.keys.filter (· ∉ known))

variable {known : List String} {key : String}

@[simp] theorem mem_keys_onlyKnown :
    key ∈ (options.onlyKnown known).keys ↔ key ∈ options.keys ∧ key ∈ known := by
  rw [onlyKnown, mem_keys_without, List.mem_filter, decide_eq_true_iff]
  exact and_congr_right fun hkey => by rw [and_iff_right hkey, not_not]

theorem given?_onlyKnown (h : key ∈ known) :
    (options.onlyKnown known).given? key = options.given? key := by
  refine given?_without_of_notMem fun hmem => ?_
  exact of_decide_eq_true (List.mem_filter.1 hmem).2 h

end Options

/-! ## Unknown names -/

section Unknown

variable {α : Type} {reading : Reading α} {keys : List String}
  {meaning : String → Options → Except ConfigError α} {validator key : String}

/-- **A name that is not known is refused last.**  The options fail as they do without their unknown
names, and if they do not fail without these, they fail for the least of them. -/
theorem Reading.Denotes.ofOptions_of_unknown (h : reading.Denotes keys meaning)
    (hmem : key ∈ options.keys) (hkey : key ∉ keys) :
    (∀ a, Reading.ofOptions validator (options.onlyKnown keys) reading = .ok a → ∃ least,
      options.LeastUnknown keys least ∧
        Reading.ofOptions validator options reading = .error (.unknownOption validator least)) ∧
    ∀ e, Reading.ofOptions validator (options.onlyKnown keys) reading = .error e →
      Reading.ofOptions validator options reading = .error e := by
  have hmeaning : meaning validator (options.onlyKnown keys) = meaning validator options :=
    h.congr_options validator _ _ fun other hother => Options.given?_onlyKnown hother
  constructor
  · intro a ha
    obtain ⟨hsame, -⟩ := h.ofOptions_eq_ok_iff.1 ha
    cases hresult : Reading.ofOptions validator options reading with
    | ok b => exact absurd ((h.ofOptions_eq_ok_iff.1 hresult).2 key hmem) hkey
    | error e =>
      rcases h.ofOptions_eq_error_iff.1 hresult with he | ⟨-, least, hleast, rfl⟩
      · cases hsame.symm.trans (hmeaning.trans he)
      · exact ⟨least, hleast, rfl⟩
  · intro e he
    rcases h.ofOptions_eq_error_iff.1 he with he | ⟨-, least, hleast, -⟩
    · exact h.ofOptions_eq_error_iff.2 (Or.inl (hmeaning.symm.trans he))
    · exact absurd (Options.mem_keys_onlyKnown.1 hleast.mem).2 hleast.notMem

end Unknown

/-! ## Standard factories -/

/-- The names of the options that a standard factory knows. -/
inductive Factory.Knows [Regex.Engine] (name : String) : Factory → List String → Prop
  | builtin {factory : Factory} {g : Grammar} (h : Builtin.factory? name = some factory)
      (hg : Builtin.grammars.lookup name = some g) : Knows name factory g.keys
  | custom (message : String) (test : Value → Bool) :
      Knows name (Validator.custom name message (some test)).configure Settings.commonKeys

theorem Factory.Knows.exists_recipe [Regex.Engine] {factory : Factory} {keys : List String}
    (h : factory.Knows name keys) :
    ∃ recipe : Recipe, recipe.allKeys = keys ∧ ∃ reading, recipe.Describes reading ∧
      factory = fun options => Reading.ofOptions name options reading := by
  cases h with
  | builtin h hg =>
    obtain ⟨recipe, hrecipe, hreading⟩ := Builtin.exists_recipe_of_factory? h
    obtain ⟨g, hg', hfollows⟩ := exists_lookup_of_forall₂
      (fun _ recipe grammar => Recipe.Follows recipe grammar) Builtin.forall₂_recipes_grammars
      hrecipe
    obtain rfl := Option.some.inj (hg.symm.trans hg')
    exact ⟨recipe, hfollows.allKeys_eq, hreading⟩
  | custom message test =>
    exact ⟨.plain (.custom name message (some test)), rfl, _, Recipe.describes_plain _, rfl⟩

namespace Registry

variable {r : Registry} {factory : Factory} {keys : List String}

/-- **Null options are absent options.**  What a registry makes of options under the name of a
standard validator stays the same, validator or error, when entries with known names are taken away
that are null or undefined.

What stands under a name that is not known does not count either, but there the options are never
accepted: they fail as they do without their unknown names, and if they do not fail without these,
they fail for the least of them. -/
theorem create_without_nullish [Regex.Engine] (h : factory.Knows name keys)
    (hfactory : r.factories.find? name = some factory) (options : Options) :
    (∀ dropped : List String,
      (∀ key ∈ dropped, key ∈ keys ∧ ∀ v, options.find? key = some v → v.isNullish = true) →
      r.create name (options.without dropped) = r.create name options) ∧
    ∀ key ∈ options.keys, key ∉ keys →
      (∀ v, r.create name (options.insert key v) = r.create name options) ∧
      (∀ v, r.create name options ≠ .ok v) ∧
      (∀ v, r.create name (options.onlyKnown keys) = .ok v → ∃ least,
        options.LeastUnknown keys least ∧
          r.create name options = .error (.config (.unknownOption name least))) ∧
      ∀ e, r.create name (options.onlyKnown keys) = .error e →
        r.create name options = .error e := by
  obtain ⟨recipe, rfl, reading, hreading, rfl⟩ := h.exists_recipe
  simp only [create_of_find?_eq_some hfactory]
  refine ⟨fun dropped hdropped => congrArg (Except.mapError _) ?same,
    fun key hmem hkey => ⟨fun v => congrArg (Except.mapError _) ?unread, fun v hv => ?refused,
      fun v hv => ?last, fun e he => ?first⟩⟩
  case same =>
    refine hreading.denotes.ofOptions_congr
      (fun key _ => Options.given?_without_of_isNullish (fun k hk => (hdropped k hk).2) key)
      fun key hkey => ?_
    -- an unknown name is none of those dropped
    rw [Options.mem_keys_without]
    exact and_iff_left fun hmem => hkey (hdropped key hmem).1
  case unread =>
    refine hreading.denotes.ofOptions_congr (fun other hother => ?_) fun other _ => ?_
    · have hne : other ≠ key := fun heq => hkey (heq ▸ hother)
      exact Options.given?_insert_of_ne hne v
    · exact Dict.mem_keys_insert_of_mem hmem v
  case refused =>
    obtain ⟨-, hknown⟩ := hreading.denotes.ofOptions_eq_ok_iff.1 (mapError_eq_ok_iff.1 hv)
    exact hkey (hknown key hmem)
  case last =>
    obtain ⟨hlast, -⟩ := hreading.denotes.ofOptions_of_unknown hmem hkey
    obtain ⟨least, hleast, heq⟩ := hlast v (mapError_eq_ok_iff.1 hv)
    exact ⟨least, hleast, mapError_eq_error_iff.2 ⟨_, heq, rfl⟩⟩
  case first =>
    obtain ⟨-, hfirst⟩ := hreading.denotes.ofOptions_of_unknown hmem hkey
    obtain ⟨cause, hcause, rfl⟩ := mapError_eq_error_iff.1 he
    exact mapError_eq_error_iff.2 ⟨cause, hfirst cause hcause, rfl⟩

section

attribute [local instance] Regex.Engine.standard

/-- The range check with a list and with an interval that is null, and with a null that it does not
know besides. -/
theorem create_without_nullish_range :
    let options : Options :=
      .ofList [("between", .null), ("in", .array [.text "a"]), ("message", .undefined)]
    ∃ factory keys, factory.Knows "range" keys ∧
      builtins.factories.find? "range" = some factory ∧
      (∀ key ∈ ["between", "message"], key ∈ keys ∧
        ∀ v, options.find? key = some v → v.isNullish = true) ∧
      builtins.create "range" (options.without ["between", "message"]) =
        builtins.create "range" options ∧
      builtins.create "range" (options.insert "zz" .null) =
        .error (.config (.unknownOption "range" "zz")) := by
  intro options
  have hknows : Factory.Knows "range" _ _ := .builtin rfl rfl
  have hdropped : ∀ key ∈ ["between", "message"], key ∈ ["in", "between"] ++ Settings.commonKeys ∧
      ∀ v, options.find? key = some v → v.isNullish = true := by
    simp only [List.forall_mem_cons]
    refine ⟨⟨by decide, ?_⟩, ⟨by decide, ?_⟩, List.forall_mem_nil _⟩
    · rintro _ ⟨⟩
      rfl
    · rintro _ ⟨⟩
      rfl
  obtain ⟨hsame, -⟩ := create_without_nullish (r := builtins) hknows rfl options
  refine ⟨_, _, hknows, rfl, hdropped, hsame _ hdropped, ?_⟩
  obtain ⟨-, hunknown⟩ :=
    create_without_nullish (r := builtins) hknows rfl (options.insert "zz" .null)
  obtain ⟨-, -, hlast, -⟩ := hunknown "zz" (by decide) (by decide)
  obtain ⟨least, hleast, herror⟩ := hlast _ rfl
  have honly : ∀ key ∈ (options.insert "zz" .null).keys,
      key ∉ ["in", "between"] ++ Settings.commonKeys → key = "zz" := by decide
  rwa [honly least hleast.mem hleast.notMem] at herror

/-- **A null under an unknown name is not always refused for its name.**  Where a known option is
mistyped, this is what is reported. -/
theorem create_unknown_null_behind_fault :
    ∃ factory keys, factory.Knows "length" keys ∧
      builtins.factories.find? "length" = some factory ∧ "zz" ∉ keys ∧
      ∀ name key, builtins.create "length" (.ofList [("min", .text "x"), ("zz", .null)]) ≠
        .error (.config (.unknownOption name key)) := by
  refine ⟨_, _, .builtin rfl rfl, rfl, by decide, fun name key h => ?_⟩
  have hfault : builtins.create "length" (.ofList [("min", .text "x"), ("zz", .null)]) =
      .error (.config (.invalidOption "length" "min" (.mistyped .count (.text "x")))) := rfl
  cases hfault.symm.trans h

end

end Registry

end Vetting
