import Vetting.Message

/-!
# How templates read

A template that is known in advance can be written out as what it is made of: texts, each followed
by a token, and a text at the end.  `Template.Reads` says that a template is made of these parts.
It is decided by cutting the template up once; from then on `Template.Reads.prepare_eq` tells how
the template reads for any answers to its tokens, and `Template.Reads.words_eq` which tokens they
are.

`Template.Fills` is what is asked of a failure: each token of its template has an answer, and the
template filled with them is the text in question.
-/

namespace Vetting

namespace Template

/-- The word of a token. -/
def Piece.word? : Piece → Option String
  | .char _ => none
  | .token word => some (String.ofList word)

/-- The words of the tokens in a template. -/
def words (template : String) : List String := (pieces template.toList).filterMap Piece.word?

/-- The pieces that a text is cut into where it holds no token. -/
def plain (text : String) : List Piece := text.toList.map .char

/-- The pieces of texts, each followed by a token, and of a text at the end. -/
def piecesOf : List (String × String) → String → List Piece
  | [], last => plain last
  | (text, word) :: rest, last => plain text ++ .token word.toList :: piecesOf rest last

/-- The template is made of texts, each followed by a token, and of a text at the end. -/
def Reads (template : String) (parts : List (String × String)) (last : String) : Prop :=
  pieces template.toList = piecesOf parts last

instance (template : String) (parts : List (String × String)) (last : String) :
    Decidable (Reads template parts last) :=
  inferInstanceAs (Decidable (pieces template.toList = piecesOf parts last))

/-- The parts put together, with the answers in the place of the tokens. -/
def assemble (lookup : String → Option String) : List (String × String) → String → String
  | [], last => last
  | (text, word) :: rest, last =>
    text ++ ((lookup word).getD "" ++ assemble lookup rest last)

/-- Every token of the template has an answer, and the template filled with them is the text. -/
structure Fills (template : String) (lookup : String → Option String) (text : String) : Prop where
  supplied : ∀ word ∈ words template, ∃ answer, lookup word = some answer
  text : prepare template lookup = text

variable {template last : String} {parts : List (String × String)}
  {lookup : String → Option String}

@[simp] theorem flatMap_fill_plain (lookup : String → Option String) (text : String) :
    (plain text).flatMap (Piece.fill lookup) = text.toList := by
  rw [plain, List.flatMap_map]
  exact List.flatMap_singleton' text.toList

@[simp] theorem flatMap_fill_piecesOf (lookup : String → Option String)
    (parts : List (String × String)) (last : String) :
    (piecesOf parts last).flatMap (Piece.fill lookup) = (assemble lookup parts last).toList := by
  induction parts with
  | nil => exact flatMap_fill_plain lookup last
  | cons part rest ih =>
    obtain ⟨text, word⟩ := part
    rw [piecesOf, List.flatMap_append, List.flatMap_cons, ih, flatMap_fill_plain, Piece.fill,
      String.ofList_toList, assemble, String.toList_append, String.toList_append]

/-- **A template reads as its parts do.** -/
theorem Reads.prepare_eq (h : Reads template parts last) (lookup : String → Option String) :
    prepare template lookup = assemble lookup parts last := by
  rw [prepare, h, flatMap_fill_piecesOf, String.ofList_toList]

theorem Reads.words_eq (h : Reads template parts last) : words template = parts.map (·.2) := by
  have hplain : ∀ text, (plain text).filterMap Piece.word? = [] := by
    intro text
    rw [plain, List.filterMap_map]
    exact List.filterMap_eq_nil_iff.2 fun _ _ => rfl
  rw [words, h]
  clear h
  induction parts with
  | nil => exact hplain last
  | cons part rest ih =>
    obtain ⟨text, word⟩ := part
    rw [piecesOf, List.filterMap_append, hplain, List.nil_append, List.filterMap_cons, ih,
      Piece.word?, String.ofList_toList]
    rfl

/-- **A template is filled once the tokens among its parts are.** -/
theorem Reads.fills (h : Reads template parts last)
    (hlookup : ∀ part ∈ parts, ∃ answer, lookup part.2 = some answer) :
    Fills template lookup (assemble lookup parts last) where
  supplied word hword := by
    rw [h.words_eq] at hword
    obtain ⟨part, hpart, rfl⟩ := List.mem_map.1 hword
    exact hlookup part hpart
  text := h.prepare_eq lookup

/-- A template without tokens is the text itself. -/
theorem Reads.fills_plain (h : Reads template [] template) : Fills template lookup template :=
  h.fills fun _ hpart => nomatch hpart

/-- A template with one token. -/
theorem Reads.fills_one {text word answer : String} (h : Reads template [(text, word)] last)
    (hlookup : lookup word = some answer) :
    Fills template lookup (text ++ answer ++ last) := by
  have hfills := h.fills (List.forall_mem_singleton.2 ⟨answer, hlookup⟩)
  rwa [assemble, assemble, hlookup, Option.getD_some, ← String.append_assoc] at hfills

/-- A template with two tokens. -/
theorem Reads.fills_two {text word answer other word' answer' : String}
    (h : Reads template [(text, word), (other, word')] last)
    (hlookup : lookup word = some answer) (hlookup' : lookup word' = some answer') :
    Fills template lookup (text ++ answer ++ other ++ answer' ++ last) := by
  have hfills := h.fills (List.forall_mem_cons.2 ⟨⟨answer, hlookup⟩,
    List.forall_mem_cons.2 ⟨⟨answer', hlookup'⟩, List.forall_mem_nil _⟩⟩)
  rw [assemble, assemble, assemble, hlookup, hlookup', Option.getD_some, Option.getD_some] at hfills
  rwa [String.append_assoc, String.append_assoc, String.append_assoc]

end Template

end Vetting
