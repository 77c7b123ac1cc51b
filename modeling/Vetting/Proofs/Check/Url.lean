import Vetting.Proofs.Check.DottedHost
import Vetting.Proofs.Steps
import Vetting.Proofs.Validator.Verdict
import Vetting.Regex.Size
import Vetting.Validator.Builder

/-!
# The texts that pass for URLs

A URL check looks for a scheme and a dotted host at the start of a text, and reads no further.  The
scheme may be missing, as far as the pattern goes; a strict check then refuses what it has matched,
since the preferred match has not filled the group of the scheme.

The preferred match fills that group whenever any match does, so a strict check asks for no more
than that some way of reading the text has a scheme (`matchesUrl_url_iff`).  It does not matter
then that one scheme may be the start of another, or that a scheme may look like a host: each of
them is a way of reading the text, and one with a scheme in it is as good as another.

Schemes and labels are compared but for case (`EqButCase`), and characters of a scheme that mean
something in patterns stand for themselves.
-/

namespace Vetting

namespace Address

open Regex Regex.Expr

variable {w text : List Char} {s : String} {schemes : List String}

/-! ## Schemes -/

theorem spells_anyCaseText : (anyCaseText s).Spells w ↔ List.Forall₂ EqButCase w s.toList := by
  have hchar : ∀ (c : Char) w, (anyCaseChar c).Spells w ↔ ∃ d, EqButCase d c ∧ w = [d] := by
    intro c w
    refine exists_congr fun d => and_congr_left fun _ => ?_
    rw [CharSet.contains_anyCase_iff (CharSet.isOfChars_single c)]
    simp only [CharSet.contains_single_iff, exists_eq_right]
    exact ⟨EqButCase.symm, EqButCase.symm⟩
  rw [anyCaseText]
  induction s.toList generalizing w with
  | nil => exact List.forall₂_nil_right_iff.symm
  | cons c cs ih =>
    rw [List.map_cons, spells_seqAll_cons]
    simp only [hchar, ih]
    constructor
    · rintro ⟨_, v, rfl, ⟨d, hd, rfl⟩, hv⟩
      exact .cons hd hv
    · intro h
      cases h with
      | cons hd hv => exact ⟨[_], _, rfl, ⟨_, hd, rfl⟩, hv⟩

/-- One of the schemes but for case, a colon and two slashes, and a dotted host. -/
inductive StartsWithUrl (schemes : List String) : List Char → Prop
  | intro {scheme : String} {spelling rest : List Char} (hscheme : scheme ∈ schemes)
      (hspelling : List.Forall₂ EqButCase spelling scheme.toList) (hhost : StartsWithHost rest) :
      StartsWithUrl schemes (spelling ++ ("://".toList ++ rest))

/-- A scheme with its colon and slashes, outside of its group. -/
def schemeMark (schemes : List String) : Pattern :=
  .seq (altAll (schemes.map anyCaseText)) (literal "://")

theorem spells_schemeMark (hschemes : schemes ≠ []) : (schemeMark schemes).Spells w ↔
    ∃ scheme ∈ schemes, ∃ spelling, List.Forall₂ EqButCase spelling scheme.toList ∧
      w = spelling ++ "://".toList := by
  have hne : schemes.map anyCaseText ≠ [] := fun h => hschemes (List.map_eq_nil_iff.1 h)
  constructor
  · rintro ⟨spelling, _, rfl, hspelling, hmark⟩
    obtain ⟨_, he, hspelling⟩ := (spells_altAll hne).1 hspelling
    obtain ⟨scheme, hscheme, rfl⟩ := List.mem_map.1 he
    rw [spells_literal.1 hmark]
    exact ⟨scheme, hscheme, spelling, spells_anyCaseText.1 hspelling, rfl⟩
  · rintro ⟨scheme, hscheme, spelling, hspelling, rfl⟩
    refine ⟨spelling, _, rfl, (spells_altAll hne).2 ?_, spells_literal.2 rfl⟩
    exact ⟨_, List.mem_map_of_mem hscheme, spells_anyCaseText.2 hspelling⟩

theorem isLookFree_anyCaseText (s : String) : (anyCaseText s).isLookFree = true := by
  refine isLookFree_seqAll fun e he => ?_
  obtain ⟨c, -, rfl⟩ := List.mem_map.1 he
  rfl

theorem isLookFree_schemeMark (schemes : List String) :
    (schemeMark schemes).isLookFree = true := by
  refine Bool.and_eq_true_iff.2 ⟨isLookFree_altAll fun e he => ?_, rfl⟩
  obtain ⟨scheme, -, rfl⟩ := List.mem_map.1 he
  exact isLookFree_anyCaseText scheme

/-- **A strict check passes a text that can be read with a scheme in any way, and one that is not
strict also passes a text that can be read without.** -/
theorem matchesUrl_url_iff {strict : Bool} : matchesUrl (url schemes) strict s = true ↔
    (seq (schemeMark schemes) dottedHost).SpellsStart s.toList ∨
      (strict = false ∧ dottedHost.SpellsStart s.toList) := by
  have hurl : url schemes = afterOptionalGroup schemeGroup (schemeMark schemes) dottedHost := rfl
  have hmark := isLookFree_schemeMark schemes
  have hhost : dottedHost.isLookFree = true := rfl
  have hmatch : (afterOptionalGroup schemeGroup (schemeMark schemes) dottedHost).isMatch s = true ↔
      (seq (schemeMark schemes) dottedHost).SpellsStart s.toList ∨
        dottedHost.SpellsStart s.toList := isMatch_afterOptionalGroup_iff hmark hhost
  rw [matchesUrl, hurl]
  cases hcaptures :
      (afterOptionalGroup schemeGroup (schemeMark schemes) dottedHost).captures? s with
  | none =>
    rw [captures?_eq_none_iff.1 hcaptures] at hmatch
    have hneither := fun h => Bool.false_ne_true (hmatch.2 h)
    exact iff_of_false Bool.false_ne_true fun h => hneither (h.imp_right And.right)
  | some groups =>
    have heither := hmatch.1
      (Bool.ne_false_iff.1 fun h => nomatch (captures?_eq_none_iff.2 h).symm.trans hcaptures)
    rw [Bool.or_eq_true, Bool.not_eq_true', captures?_afterOptionalGroup hmark hhost rfl hcaptures]
    constructor
    · rintro (hrelaxed | hscheme)
      · exact heither.imp_right fun h => ⟨hrelaxed, h⟩
      · exact Or.inl hscheme
    · rintro (hscheme | ⟨hrelaxed, -⟩)
      · exact Or.inr hscheme
      · exact Or.inl hrelaxed

theorem spellsStart_schemeMark_iff (hschemes : schemes ≠ []) :
    (seq (schemeMark schemes) dottedHost).SpellsStart text ↔ StartsWithUrl schemes text := by
  rw [spellsStart_seq_iff]
  constructor
  · rintro ⟨_, rest, rfl, hmark, hhost⟩
    obtain ⟨scheme, hscheme, spelling, hspelling, rfl⟩ := (spells_schemeMark hschemes).1 hmark
    rw [List.append_assoc]
    exact .intro hscheme hspelling (spellsStart_dottedHost_iff.1 hhost)
  · rintro ⟨hscheme, hspelling, hhost⟩
    have hmark := (spells_schemeMark hschemes).2 ⟨_, hscheme, _, hspelling, rfl⟩
    exact ⟨_, _, (List.append_assoc _ _ _).symm, hmark, spellsStart_dottedHost_iff.2 hhost⟩

/-! ## The check -/

/-- What a builder with replaced schemes holds. -/
theorem eq_of_withSchemes [Regex.Engine] {start builder : Builtin.UrlBuilder}
    (h : start.withSchemes schemes = .ok builder) :
    builder.schemes = schemes ∧ builder.pattern = url schemes := by
  obtain ⟨pattern, hpattern, rfl⟩ := map_eq_ok_iff.1 h
  exact ⟨rfl, Builtin.eq_of_schemesPattern hpattern⟩

theorem judge_eq_valid_iff_matchesUrl {v : Validator} {pattern : Pattern} {strict : Bool}
    (h : v.check = .url schemes strict pattern) (x : Value) :
    v.judge x = .valid ↔ matchesUrl pattern strict x.display = true := by
  have hfailure : (Check.url schemes strict pattern).failure? x =
      (Check.url schemes strict pattern).passIf (matchesUrl pattern strict x.display)
        Messages.defaultSlot := rfl
  rw [Validator.judge_eq_valid_iff, h, hfailure, Check.passIf_eq_none_iff]

theorem judge_urlWith_eq_valid_iff (hschemes : schemes ≠ []) (strict : Bool) (settings : Settings)
    (x : Value) :
    { Builtin.urlWith schemes strict (url schemes) with settings }.judge x = .valid ↔
      StartsWithUrl schemes x.display.toList ∨
        (strict = false ∧ StartsWithHost x.display.toList) := by
  have hcheck : { Builtin.urlWith schemes strict (url schemes) with settings }.check =
      .url schemes strict (url schemes) := rfl
  rw [judge_eq_valid_iff_matchesUrl hcheck, matchesUrl_url_iff, spellsStart_schemeMark_iff hschemes,
    spellsStart_dottedHost_iff]

/-- **A strict URL check passes the texts that start with one of its schemes but for case, a colon,
two slashes and a dotted host, whatever the schemes are made of.  One that is not strict also passes
those that start with a dotted host themselves.** -/
theorem judge_withSchemes_eq_valid_iff [Regex.Engine] (schemes : List String)
    (hschemes : schemes ≠ [])
    (start builder : Builtin.UrlBuilder) (hbuilder : start.withSchemes schemes = .ok builder)
    (settings : Settings) (x : Value) :
    ({ (builder.withStrict true).validator with settings }.judge x = .valid ↔
      StartsWithUrl schemes x.display.toList) ∧
    ({ (builder.withStrict false).validator with settings }.judge x = .valid ↔
      StartsWithUrl schemes x.display.toList ∨ StartsWithHost x.display.toList) := by
  obtain ⟨hs, hpattern⟩ := eq_of_withSchemes hbuilder
  have hvalidator (strict : Bool) : (builder.withStrict strict).validator =
      Builtin.urlWith schemes strict (url schemes) := by
    rw [Builtin.UrlBuilder.validator, Builtin.UrlBuilder.withStrict, hs, hpattern]
  rw [hvalidator, hvalidator]
  constructor
  · exact (judge_urlWith_eq_valid_iff hschemes true settings x).trans
      (or_iff_left fun h => nomatch h.1)
  · exact (judge_urlWith_eq_valid_iff hschemes false settings x).trans
      (or_congr Iff.rfl (and_iff_right rfl))

section

attribute [local instance] Regex.Engine.standard

/-- Schemes that mean something as patterns, one the start of the other, with a letter that the
Kelvin sign is a variant of. -/
theorem judge_withSchemes_eq_valid_iff_kelvin :
    ["k+", "k+s"] ≠ [] ∧
    Builtin.UrlBuilder.withSchemes {} ["k+", "k+s"] =
      .ok ⟨["k+", "k+s"], true, url ["k+", "k+s"]⟩ ∧
    (Builtin.urlWith ["k+", "k+s"] true (url ["k+", "k+s"])).judge (.text "\u212a+S://a.b") =
      .valid := by
  have hne : ["k+", "k+s"] ≠ [] := List.cons_ne_nil _ _
  have hbuilder : Builtin.UrlBuilder.withSchemes {} ["k+", "k+s"] =
      .ok ⟨["k+", "k+s"], true, url ["k+", "k+s"]⟩ := by
    have hfits : Engine.fits (url ["k+", "k+s"]) = true := by decide +kernel
    rw [Builtin.UrlBuilder.withSchemes, Builtin.schemesPattern_of_fits hfits]
    rfl
  refine ⟨hne, hbuilder, ?_⟩
  have hstrict := (judge_withSchemes_eq_valid_iff _ hne {} _ hbuilder Builtin.url.settings
    (.text "\u212a+S://a.b")).1
  refine hstrict.2 ?_
  have hspelling : List.Forall₂ EqButCase "\u212a+S".toList "k+s".toList :=
    .cons (by decide +kernel) (.cons (by decide +kernel) (.cons (by decide +kernel) .nil))
  have hlabel : IsLabel "a".toList := .intro ⟨'A', by decide +kernel, Or.inl (by decide)⟩
    (List.forall_mem_nil _)
  have hnext : IsLabelStart 'b' := ⟨'B', by decide +kernel, Or.inl (by decide)⟩
  have hscheme : "k+s" ∈ ["k+", "k+s"] := by decide
  exact .intro hscheme hspelling (.intro hlabel hnext)

end

end Address

end Vetting
