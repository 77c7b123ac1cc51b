import Vetting.Proofs.Check.Email
import Vetting.Proofs.Check.Url
import Vetting.Proofs.Validator.Spelling
import Vetting.Regex.Size

/-!
# URL checks without schemes

The pattern of a URL check joins its schemes as alternatives.  Without any there is no alternative,
and that is an empty pattern, which matches: the mark behind the scheme then stands for a scheme
(`spells_schemeMark_nil`).  So a check that allows no scheme still passes the texts that start with
a colon, two slashes and a dotted host, and as the group of the scheme is filled there, being strict
does not help (`strict_without_schemes_accepts_mark`).

Nothing else goes wrong: on every other text the check is what a list without schemes should make of
it (`judge_schemeless_eq_valid_iff`).
-/

namespace Vetting

namespace Address

open Regex Regex.Expr

variable {w text : List Char} {strict : Bool} {v : Validator}

/-! ## The mark without a scheme -/

/-- A colon and two slashes with no scheme before them, and a dotted host. -/
inductive StartsWithMark : List Char → Prop
  | intro {rest : List Char} (hhost : StartsWithHost rest) :
      StartsWithMark ("://".toList ++ rest)

/-- Without schemes the mark is all that stands before the host. -/
@[simp] theorem spells_schemeMark_nil : (schemeMark []).Spells w ↔ w = "://".toList := by
  constructor
  · rintro ⟨_, _, rfl, rfl, hmark⟩
    exact spells_literal.1 hmark
  · intro hw
    exact ⟨[], w, rfl, rfl, spells_literal.2 hw⟩

theorem spellsStart_schemeMark_nil_iff :
    (seq (schemeMark []) dottedHost).SpellsStart text ↔ StartsWithMark text := by
  rw [spellsStart_seq_iff]
  constructor
  · rintro ⟨_, rest, rfl, hmark, hhost⟩
    rw [spells_schemeMark_nil.1 hmark]
    exact .intro (spellsStart_dottedHost_iff.1 hhost)
  · rintro ⟨hhost⟩
    exact ⟨_, _, rfl, spells_schemeMark_nil.2 rfl, spellsStart_dottedHost_iff.2 hhost⟩

/-- No host starts with the mark, since no label starts with a colon. -/
theorem StartsWithMark.not_startsWithHost (h : StartsWithMark text) : ¬ StartsWithHost text := by
  have hcolon : ¬ IsLabelStart ':' := by
    rw [isLabelStart_iff]
    rintro (h | h | h)
    · exact absurd h (by decide)
    · exact absurd h (by decide)
    · exact absurd h (by decide)
  intro hhost
  cases h with
  | @intro rest _ =>
    generalize htext : "://".toList ++ rest = text at hhost
    obtain ⟨⟨hfirst, _⟩, _⟩ := hhost
    obtain rfl := (List.cons.inj htext).1
    exact hcolon hfirst

/-! ## Validators without schemes -/

/-- A URL check that allows no scheme, strict or not: made by a builder with any settings, or from
options that give no pattern in the place of that of the schemes. -/
inductive Schemeless [Regex.Engine] (strict : Bool) : Validator → Prop
  | built {start builder : Builtin.UrlBuilder} (settings : Settings)
      (hbuilder : start.withSchemes [] = .ok builder) :
      Schemeless strict { (builder.withStrict strict).validator with settings }
  | configured {factory : Factory} {options : Options} {v : Validator}
      (hfactory : Builtin.factory? "url" = some factory) (hv : factory options = .ok v)
      (hschemes : options.given? "schemes" = some (.array []))
      (hpattern : options.given? "pattern" = none)
      (hstrict : ((options.given? "strict").bind Value.asBool?).getD true = strict) :
      Schemeless strict v

/-- What the options of a URL check without schemes come to. -/
theorem check_of_urlRecipe_base [Regex.Engine] {options : Options} {original : Validator}
    (hschemes : options.given? "schemes" = some (.array []))
    (hpattern : options.given? "pattern" = none)
    (hbase : Builtin.urlRecipe.base "url" options = .ok original) :
    original.check =
      .url [] (((options.given? "strict").bind Value.asBool?).getD true) (url []) := by
  have hreadSchemes : options.read "url" "schemes" OptionDecoder.texts = .ok (some []) := by
    have hdecode : OptionDecoder.texts (.array []) = .ok [] :=
      OptionDecoder.texts_eq_ok_iff.2 rfl
    rw [Options.read_of_given?_eq_some hschemes, hdecode]
  have hreadPattern : options.read "url" "pattern" OptionDecoder.text = .ok none :=
    Options.read_of_given?_eq_none hpattern
  simp only [Builtin.urlRecipe, hreadSchemes, hreadPattern, ok_bind, Option.getD_some] at hbase
  obtain ⟨default, hdefault, hbase⟩ := bind_eq_ok_iff.1 hbase
  obtain rfl := Builtin.eq_of_schemesPattern hdefault
  obtain ⟨strict, hstrict, hbase⟩ := bind_eq_ok_iff.1 hbase
  have hview : ∀ v b, OptionDecoder.bool v = .ok b ↔ v.asBool? = some b := by
    intro v b
    rw [OptionDecoder.bool_eq_ok_iff, Value.asBool?_eq_some_iff]
  rw [← Options.eq_bind_of_read hview hstrict]
  obtain rfl := Except.ok.inj hbase
  rfl

theorem Schemeless.check_eq [Regex.Engine] (h : Schemeless strict v) :
    v.check = .url [] strict (url []) := by
  cases h with
  | @built start builder settings hbuilder =>
    obtain ⟨hschemes, hpattern⟩ := eq_of_withSchemes hbuilder
    show Check.url builder.schemes strict builder.pattern = .url [] strict (url [])
    rw [hschemes, hpattern]
  | configured hfactory hv hschemes hpattern hstrict =>
    have hrecipe : Builtin.recipes.lookup "url" = some Builtin.urlRecipe := rfl
    obtain ⟨original, hbase, hconfigured⟩ :=
      Builtin.exists_base_of_factory? hrecipe hfactory hv
    rw [hconfigured.check, check_of_urlRecipe_base hschemes hpattern hbase, hstrict]

/-- Every builder takes an empty list of schemes if the engine takes its pattern. -/
theorem exists_withSchemes_nil [Regex.Engine] (hfits : Engine.fits (url []) = true)
    (start : Builtin.UrlBuilder) : ∃ builder, start.withSchemes [] = .ok builder := by
  rw [Builtin.UrlBuilder.withSchemes, Builtin.schemesPattern_of_fits hfits]
  exact ⟨_, rfl⟩

/-- Options that give an empty list of schemes, and nothing but the strictness besides, are
accepted as well. -/
theorem exists_schemeless_of_spells [Regex.Engine] {factory : Factory} {options : Options}
    (hfits : Engine.fits (url []) = true)
    (hfactory : Builtin.factory? "url" = some factory) (strict : Option Bool)
    (hoptions : options.Spells
      [("schemes", some (.array [])), ("strict", strict.map .bool), ("pattern", none)]) :
    ∃ v, factory options = .ok v ∧ Schemeless (strict.getD true) v := by
  have hparts : Builtin.UrlBuilder.ofParts (some []) strict =
      .ok ⟨[], strict.getD true, url []⟩ := by
    rw [Builtin.UrlBuilder.ofParts_eq, Option.getD_some, Builtin.schemesPatternOrWeb,
      Builtin.schemesPattern_of_fits hfits]
    rfl
  have hv : factory options = .ok (Builtin.urlWith [] (strict.getD true) (url [])) := by
    rw [(Builtin.Spelling.url (some []) strict).factory_eq hfactory hoptions, hparts]
    rfl
  have hstrict := hoptions.given "strict" _ (List.mem_cons_of_mem _ List.mem_cons_self)
  have hschemes := hoptions.given "schemes" _ List.mem_cons_self
  have hpattern := hoptions.given "pattern" none
    (List.mem_cons_of_mem _ (List.mem_cons_of_mem _ List.mem_cons_self))
  refine ⟨_, hv, .configured hfactory hv hschemes hpattern ?_⟩
  rw [hstrict]
  cases strict <;> rfl

/-! ## The check -/

/-- **A URL check that allows no scheme passes two kinds of texts: those that start with the mark
and a dotted host, strict or not, and unless it is strict those that start with a dotted host
themselves.**  Only the texts of the second kind should pass, and for any text but those of the
first kind that is so. -/
theorem judge_schemeless_eq_valid_iff [Regex.Engine] (strict : Bool) (v : Validator)
    (hv : Schemeless strict v) (x : Value) :
    (v.judge x = .valid ↔ StartsWithMark x.display.toList ∨
      (strict = false ∧ StartsWithHost x.display.toList)) ∧
    ((v.judge x = .valid ↔ strict = false ∧ StartsWithHost x.display.toList) ↔
      ¬ StartsWithMark x.display.toList) := by
  have hjudge : v.judge x = .valid ↔ StartsWithMark x.display.toList ∨
      (strict = false ∧ StartsWithHost x.display.toList) := by
    rw [judge_eq_valid_iff_matchesUrl hv.check_eq, matchesUrl_url_iff,
      spellsStart_schemeMark_nil_iff, spellsStart_dottedHost_iff]
  refine ⟨hjudge, ?_⟩
  rw [hjudge]
  constructor
  · intro h hmark
    exact hmark.not_startsWithHost (h.1 (Or.inl hmark)).2
  · intro hmark
    exact or_iff_right hmark

section

attribute [local instance] Regex.Engine.standard

/-- The standard engine takes the pattern of no schemes. -/
theorem fits_url_nil : Engine.fits (url []) = true := by decide +kernel

/-- A builder that is left strict, and options that relax the check: the plain host that the one
refuses passes the other. -/
theorem judge_schemeless_eq_valid_iff_relaxed :
    ∃ builder factory v, ({} : Builtin.UrlBuilder).withSchemes [] = .ok builder ∧
      Builtin.factory? "url" = some factory ∧
      factory (.ofList [("schemes", .array []), ("strict", .bool false), ("pattern", .null)]) =
        .ok v ∧
      Schemeless true (builder.withStrict true).validator ∧ Schemeless false v ∧
      (builder.withStrict true).validator.judge (.text "a.b") ≠ .valid ∧
      v.judge (.text "a.b") = .valid := by
  obtain ⟨factory, hfactory⟩ : ∃ factory, Builtin.factory? "url" = some factory := ⟨_, rfl⟩
  have hspelling := Builtin.Spelling.url (some []) (some false)
  obtain ⟨v, hv, hrelaxed⟩ := exists_schemeless_of_spells fits_url_nil hfactory (some false)
    (Options.spells_ofWanted hspelling.spellable)
  obtain ⟨builder, hbuilder⟩ := exists_withSchemes_nil fits_url_nil {}
  have hstrict : Schemeless true (builder.withStrict true).validator :=
    .built (builder.withStrict true).validator.settings hbuilder
  have hlabel : IsLabel "a".toList := .intro ⟨'A', by decide +kernel, Or.inl (by decide)⟩
    (List.forall_mem_nil _)
  have hnext : IsLabelStart 'b' := ⟨'B', by decide +kernel, Or.inl (by decide)⟩
  have hhost : StartsWithHost "a.b".toList := .intro hlabel hnext
  have hnomark : ¬ StartsWithMark "a.b".toList := fun h => h.not_startsWithHost hhost
  refine ⟨builder, factory, v, hbuilder, hfactory, hv, hstrict, hrelaxed, ?_, ?_⟩
  · intro hvalid
    have hfalse := ((judge_schemeless_eq_valid_iff _ _ hstrict (.text "a.b")).2.2 hnomark).1 hvalid
    exact Bool.false_ne_true hfalse.1.symm
  · exact (judge_schemeless_eq_valid_iff _ _ hrelaxed (.text "a.b")).1.2 (Or.inr ⟨rfl, hhost⟩)

/-- **A strict check that allows no scheme lets the mark alone through.** -/
theorem strict_without_schemes_accepts_mark :
    Builtin.UrlBuilder.withSchemes {} [] = .ok ⟨[], true, url []⟩ ∧
    (Builtin.urlWith [] true (url [])).judge (.text "://a.b") = .valid := by
  constructor
  · rw [Builtin.UrlBuilder.withSchemes, Builtin.schemesPattern_of_fits fits_url_nil]
    rfl
  · decide +kernel

end

end Address

end Vetting
