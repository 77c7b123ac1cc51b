import Mathlib.Data.List.TakeWhile
import Vetting.Proofs.Template

/-!
# Filling a template is simultaneous substitution

A template is read from left to right, and a token is passed over once it has been read.  What that
comes to is said here without reading anything.

* `Occurs` says that a token stands at a place of a template.  Two tokens never overlap
  (`TokenAt.disjoint`): a brace opens a token only if another one follows, and behind the first
  brace of a token there is none before its end.  So it makes no difference which token is read
  first.
* A template is made of texts, each followed by a token, and of a text at the end, and the tokens
  among these parts are all that occur in it (`MadeOf`, `exists_madeOf`).
* A token may be replaced before what stands around it is looked at (`pieces_append_token`), so
  neither the answers nor what they make together with the text around them is looked at again.
-/

namespace Vetting

namespace Template

/-! ## Tokens -/

/-- A run of ASCII letters, digits and underscores that is not empty. -/
def IsWord (word : List Char) : Prop := word ≠ [] ∧ ∀ c ∈ word, c.isAlphanum = true ∨ c = '_'

/-- The token of a word as it is written. -/
def spelled (word : List Char) : List Char := '\x7b' :: '\x7b' :: (word ++ ['\x7d', '\x7d'])

/-- The token of a word stands behind the first `i` characters. -/
def TokenAt (cs : List Char) (i : Nat) (word : List Char) : Prop :=
  IsWord word ∧ spelled word <+: cs.drop i

variable {cs word other rest after : List Char} {c : Char} {i j k : Nat}

@[simp] theorem isWordChar_eq_true_iff : isWordChar c = true ↔ c.isAlphanum = true ∨ c = '_' := by
  rw [isWordChar, Bool.or_eq_true, decide_eq_true_iff]

theorem IsWord.forall_isWordChar (h : IsWord word) : ∀ c ∈ word, isWordChar c = true :=
  fun c hc => isWordChar_eq_true_iff.2 (h.2 c hc)

instance (word : List Char) : Decidable (IsWord word) :=
  decidable_of_iff (word ≠ [] ∧ word.all isWordChar = true) <| and_congr_right fun _ =>
    List.all_eq_true.trans (forall₂_congr fun _ _ => isWordChar_eq_true_iff)

theorem IsWord.ne_brace (h : IsWord word) (hc : c ∈ word) : c ≠ '\x7b' := by
  rintro rfl
  exact absurd (h.forall_isWordChar _ hc) (by decide)

@[simp] theorem length_spelled (word : List Char) : (spelled word).length = word.length + 4 := by
  rw [spelled, List.length_cons, List.length_cons, List.length_append]
  rfl

/-- A word is read up to its end, whatever follows the token. -/
theorem tokenAt?_spelled_append (h : IsWord word) (after : List Char) :
    tokenAt? (spelled word ++ after) = some word := by
  have htake : (word ++ ['\x7d', '\x7d'] ++ after).takeWhile isWordChar = word := by
    rw [List.append_assoc, List.takeWhile_append_of_pos h.forall_isWordChar, List.cons_append,
      List.takeWhile_cons_of_neg (by decide), List.append_nil]
  have hdrop : (word ++ ['\x7d', '\x7d'] ++ after).dropWhile isWordChar =
      '\x7d' :: '\x7d' :: after := by
    rw [List.append_assoc, List.dropWhile_append_of_pos h.forall_isWordChar, List.cons_append,
      List.dropWhile_cons_of_neg (by decide)]
    rfl
  have hempty : word.isEmpty = false := List.isEmpty_eq_false_iff.2 h.1
  rw [spelled, List.cons_append, List.cons_append, tokenAt?, hdrop, htake, hempty]
  rfl

theorem tokenAt?_eq_some_iff :
    tokenAt? cs = some word ↔ IsWord word ∧ spelled word <+: cs := by
  constructor
  · intro h
    rw [tokenAt?.eq_def] at h
    split at h
    case h_2 => cases h
    rename_i rest
    dsimp only at h
    split at h
    case h_2 => cases h
    rename_i after hdrop
    split at h
    case isTrue => cases h
    rename_i hempty
    obtain rfl := Option.some.inj h
    have hrest := List.takeWhile_append_dropWhile (p := isWordChar) (l := rest)
    rw [hdrop] at hrest
    refine ⟨⟨fun hnil => hempty (List.isEmpty_iff.2 hnil), fun c hc => ?_⟩, after, ?_⟩
    · exact isWordChar_eq_true_iff.1 (List.mem_takeWhile_imp hc)
    · rw [spelled, List.cons_append, List.cons_append, List.append_assoc]
      exact congrArg (fun tail => '\x7b' :: '\x7b' :: tail) hrest
  · rintro ⟨hword, after, rfl⟩
    exact tokenAt?_spelled_append hword after

theorem tokenAt_iff : TokenAt cs i word ↔ tokenAt? (cs.drop i) = some word :=
  tokenAt?_eq_some_iff.symm

theorem TokenAt.word_eq (h : TokenAt cs i word) (h' : TokenAt cs i other) : word = other :=
  Option.some.inj ((tokenAt_iff.1 h).symm.trans (tokenAt_iff.1 h'))

/-- Behind its first character a token holds no two braces that open one. -/
theorem not_braces_of_drop_spelled (hword : IsWord word) (after : List Char) (hk : 0 < k)
    (hlt : k < (spelled word).length) :
    ¬ ['\x7b', '\x7b'] <+: (spelled word ++ after).drop k := by
  rintro ⟨tail, htail⟩
  -- the braces are the characters `k` and `k + 1`: for `k = 1` the second one would start the word,
  -- and beyond that the first one would lie in the word or among its closing braces
  have hfirst : (spelled word ++ after)[k]? = some '\x7b' := by
    rw [← List.head?_drop, ← htail]
    rfl
  have hsecond : (spelled word ++ after)[k + 1]? = some '\x7b' := by
    rw [← List.head?_drop, ← List.drop_drop, ← htail]
    rfl
  rw [length_spelled] at hlt
  obtain ⟨first, more, rfl⟩ := List.exists_cons_of_ne_nil hword.1
  match k, hk with
  | 1, _ =>
    exact hword.ne_brace List.mem_cons_self (Option.some.inj hsecond)
  | m + 2, _ =>
    have hm : m < (first :: more ++ ['\x7d', '\x7d']).length := by
      rw [List.length_append]
      exact Nat.lt_of_add_lt_add_right hlt
    have hbrace : (first :: more ++ ['\x7d', '\x7d'] ++ after)[m]? = some '\x7b' := hfirst
    rw [List.getElem?_append_left hm] at hbrace
    rcases List.mem_append.1 (List.mem_of_getElem? hbrace) with h | h
    · exact hword.ne_brace h rfl
    · exact absurd h (by decide)

/-- **A token ends before the next one starts.** -/
theorem TokenAt.le_of_lt (h : TokenAt cs i word) (h' : TokenAt cs j other) (hij : i < j) :
    i + (spelled word).length ≤ j := by
  obtain ⟨hword, after, hafter⟩ := h
  obtain ⟨-, tail, htail⟩ := h'
  by_contra hlt
  have hdrop : cs.drop j = (spelled word ++ after).drop (j - i) := by
    rw [hafter, List.drop_drop, Nat.add_sub_cancel' hij.le]
  refine not_braces_of_drop_spelled hword after (Nat.sub_pos_of_lt hij) (by omega)
    ⟨other ++ ['\x7d', '\x7d'] ++ tail, ?_⟩
  rw [← hdrop, ← htail]
  rfl

/-- **Two tokens are the same or do not overlap.** -/
theorem TokenAt.disjoint (h : TokenAt cs i word) (h' : TokenAt cs j other) :
    (i = j ∧ word = other) ∨ i + (spelled word).length ≤ j ∨ j + (spelled other).length ≤ i := by
  rcases Nat.lt_trichotomy i j with hij | rfl | hji
  · exact Or.inr (Or.inl (h.le_of_lt h' hij))
  · exact Or.inl ⟨rfl, h.word_eq h'⟩
  · exact Or.inr (Or.inr (h'.le_of_lt h hji))

/-! ## Pieces -/

theorem piecesAfter_eq_pieces_drop (skip : Nat) (cs : List Char) :
    piecesAfter skip cs = pieces (cs.drop skip) := by
  induction skip generalizing cs with
  | zero => rfl
  | succ skip ih =>
    cases cs with
    | nil => rfl
    | cons c rest => rw [piecesAfter, List.drop_succ_cons, ih]

theorem pieces_spelled_append (h : IsWord word) (rest : List Char) :
    pieces (spelled word ++ rest) = .token word :: pieces rest := by
  have htoken := tokenAt?_spelled_append h rest
  rw [spelled, List.cons_append] at htoken ⊢
  rw [pieces, piecesAfter, htoken]
  dsimp only
  rw [piecesAfter_eq_pieces_drop, List.cons_append, List.drop_succ_cons, List.append_assoc]
  have hlength : word.length + 2 = (word ++ ['\x7d', '\x7d']).length := by
    rw [List.length_append]
    rfl
  rw [hlength, ← List.append_assoc, List.drop_left]

theorem pieces_cons (h : tokenAt? (c :: rest) = none) :
    pieces (c :: rest) = .char c :: pieces rest := by
  rw [pieces, piecesAfter, h]
  rfl

/-- Every text is empty, or starts with a token, or starts with a character that opens none. -/
theorem templateRec {motive : List Char → Prop} (nil : motive [])
    (token : ∀ word rest, IsWord word → motive rest → motive (spelled word ++ rest))
    (char : ∀ c rest, tokenAt? (c :: rest) = none → motive rest → motive (c :: rest))
    (cs : List Char) : motive cs := by
  induction hn : cs.length using Nat.strong_induction_on generalizing cs with
  | _ n ih =>
    cases cs with
    | nil => exact nil
    | cons c rest =>
      cases htoken : tokenAt? (c :: rest) with
      | none =>
        exact char c rest htoken (ih rest.length (by rw [← hn]; exact Nat.lt_succ_self _) rest rfl)
      | some word =>
        obtain ⟨hword, after, hafter⟩ := tokenAt?_eq_some_iff.1 htoken
        have hlength := congrArg List.length hafter
        rw [List.length_append, length_spelled] at hlength
        rw [← hafter]
        exact token word after hword (ih after.length (by omega) after rfl)

/-- **What stands before and behind a token is read as if it stood alone.** -/
theorem pieces_append_token (before : List Char) (hword : IsWord word) (after : List Char) :
    pieces (before ++ (spelled word ++ after)) = pieces before ++ .token word :: pieces after := by
  induction before using templateRec with
  | nil => exact pieces_spelled_append hword after
  | token first rest hfirst ih =>
    rw [List.append_assoc, pieces_spelled_append hfirst, ih, pieces_spelled_append hfirst]
    rfl
  | char c rest hnone ih =>
    rw [List.cons_append, pieces_cons hnone, pieces_cons, ih]
    · rfl
    -- a token that starts here would end before the given one, and so be there without it
    · rw [Option.eq_none_iff_forall_ne_some]
      intro first hsome
      have hfirst : TokenAt (c :: rest ++ (spelled word ++ after)) 0 first := tokenAt_iff.2 hsome
      have hgiven : TokenAt (c :: rest ++ (spelled word ++ after)) (c :: rest).length word :=
        ⟨hword, after, by rw [List.drop_left]⟩
      have hle := hfirst.le_of_lt hgiven (Nat.succ_pos _)
      rw [Nat.zero_add] at hle
      have hhere : spelled first <+: c :: rest :=
        List.prefix_of_prefix_length_le hfirst.2 (List.prefix_append _ _) hle
      rw [tokenAt?_eq_some_iff.2 ⟨hfirst.1, hhere⟩] at hnone
      cases hnone

/-! ## Parts -/

@[simp] theorem not_tokenAt_nil : ¬ TokenAt [] i word := by
  rintro ⟨-, h⟩
  rw [List.drop_nil, List.prefix_nil] at h
  cases h

theorem tokenAt_cons_iff (h : tokenAt? (c :: rest) = none) :
    TokenAt (c :: rest) i word ↔ ∃ k, i = k + 1 ∧ TokenAt rest k word := by
  cases i with
  | zero =>
    rw [tokenAt_iff, List.drop_zero, h]
    exact iff_of_false (fun h => nomatch h) fun ⟨_, h, _⟩ => nomatch h
  | succ k =>
    constructor
    · exact fun htoken => ⟨k, rfl, htoken⟩
    · rintro ⟨_, hk, htoken⟩
      rwa [Nat.succ.inj hk]

theorem tokenAt_spelled_append_iff (hword : IsWord word) :
    TokenAt (spelled word ++ rest) i other ↔
      (i = 0 ∧ other = word) ∨ ∃ k, i = k + (spelled word).length ∧ TokenAt rest k other := by
  have hhere : TokenAt (spelled word ++ rest) 0 word := ⟨hword, List.prefix_append _ _⟩
  have hdrop : ∀ k, (spelled word ++ rest).drop (k + (spelled word).length) = rest.drop k := by
    intro k
    rw [Nat.add_comm, ← List.drop_drop, List.drop_left]
  constructor
  · intro h
    rcases Nat.eq_zero_or_pos i with rfl | hi
    · exact Or.inl ⟨rfl, h.word_eq hhere⟩
    · have hle := hhere.le_of_lt h hi
      rw [Nat.zero_add] at hle
      refine Or.inr ⟨i - (spelled word).length, (Nat.sub_add_cancel hle).symm, h.1, ?_⟩
      rw [← hdrop, Nat.sub_add_cancel hle]
      exact h.2
  · rintro (⟨rfl, rfl⟩ | ⟨k, rfl, h⟩)
    · exact hhere
    · refine ⟨h.1, ?_⟩
      rw [hdrop]
      exact h.2

/-- The token of a word. -/
def tokenText (word : String) : String := "\x7b\x7b" ++ word ++ "\x7d\x7d"

@[simp] theorem toList_tokenText (word : String) :
    (tokenText word).toList = spelled word.toList := by
  rw [tokenText, String.toList_append, String.toList_append]
  rfl

@[simp] theorem length_tokenText (word : String) :
    (tokenText word).length = (spelled word.toList).length := by
  rw [← String.length_toList, toList_tokenText]

/-- Where the tokens behind the texts stand, the first text standing behind `start` characters. -/
def places : Nat → List (String × String) → List (Nat × String)
  | _, [] => []
  | start, (text, word) :: rest =>
    (start + text.length, word) :: places (start + text.length + (tokenText word).length) rest

variable {parts : List (String × String)} {last : String}

theorem mem_places_add {start n : Nat} {key : String} :
    (i, key) ∈ places (start + n) parts ↔ ∃ k, i = k + n ∧ (k, key) ∈ places start parts := by
  induction parts generalizing start with
  | nil => exact iff_of_false (fun h => nomatch h) fun ⟨_, _, h⟩ => nomatch h
  | cons part rest ih =>
    obtain ⟨text, word⟩ := part
    have hfirst : start + n + text.length = start + text.length + n := Nat.add_right_comm _ _ _
    have hrest : start + text.length + n + (tokenText word).length =
        start + text.length + (tokenText word).length + n := Nat.add_right_comm _ _ _
    rw [places, places, hfirst, hrest, List.mem_cons, ih]
    simp only [List.mem_cons, Prod.mk.injEq]
    constructor
    · rintro (⟨rfl, rfl⟩ | ⟨k, rfl, h⟩)
      · exact ⟨_, rfl, Or.inl ⟨rfl, rfl⟩⟩
      · exact ⟨k, rfl, Or.inr h⟩
    · rintro ⟨k, rfl, ⟨rfl, rfl⟩ | h⟩
      · exact Or.inl ⟨rfl, rfl⟩
      · exact Or.inr ⟨k, rfl, h⟩

theorem exists_mem_places {part : String × String} (h : part ∈ parts) (start : Nat) :
    ∃ k, (k, part.2) ∈ places start parts := by
  induction parts generalizing start with
  | nil => cases h
  | cons first rest ih =>
    rw [places]
    rcases List.mem_cons.1 h with rfl | h
    · exact ⟨_, List.mem_cons_self⟩
    · obtain ⟨k, hk⟩ := ih h _
      exact ⟨k, List.mem_cons_of_mem _ hk⟩

/-- A text is made of these parts: it reads so, is written so, and holds no other tokens. -/
structure MadeOf (cs : List Char) (parts : List (String × String)) (last : String) : Prop where
  pieces : pieces cs = piecesOf parts last
  written : cs = (assemble (fun word => some (tokenText word)) parts last).toList
  tokenAt_iff : ∀ i word, TokenAt cs i word ↔ (i, String.ofList word) ∈ places 0 parts

@[simp] theorem madeOf_nil : MadeOf [] [] "" where
  pieces := rfl
  written := rfl
  tokenAt_iff _ _ := iff_of_false not_tokenAt_nil fun h => nomatch h

theorem MadeOf.token (hword : IsWord word) (h : MadeOf rest parts last) :
    MadeOf (spelled word ++ rest) (("", String.ofList word) :: parts) last where
  pieces := by
    rw [pieces_spelled_append hword, h.pieces, piecesOf, String.toList_ofList]
    rfl
  written := by
    rw [assemble, Option.getD_some, String.empty_append, String.toList_append, toList_tokenText,
      String.toList_ofList, ← h.written]
  tokenAt_iff i other := by
    have hempty : "".length = 0 := rfl
    rw [tokenAt_spelled_append_iff hword, places, hempty, Nat.add_zero, List.mem_cons,
      Prod.mk.injEq, String.ofList_inj, mem_places_add, length_tokenText, String.toList_ofList]
    exact or_congr Iff.rfl (exists_congr fun k => and_congr Iff.rfl (h.tokenAt_iff k other))

/-- A character that opens no token goes to the first text. -/
theorem MadeOf.exists_char (hnone : tokenAt? (c :: rest) = none) (h : MadeOf rest parts last) :
    ∃ parts' last', MadeOf (c :: rest) parts' last' := by
  have hstep : ∀ {parts'}, (∀ i key, (i, key) ∈ places 0 parts' ↔ (i, key) ∈ places (0 + 1) parts) →
      ∀ i other, TokenAt (c :: rest) i other ↔ (i, String.ofList other) ∈ places 0 parts' := by
    intro parts' hplaces i other
    rw [tokenAt_cons_iff hnone, hplaces, mem_places_add]
    exact exists_congr fun k => and_congr Iff.rfl (h.tokenAt_iff k other)
  cases parts with
  | nil =>
    refine ⟨[], String.ofList (c :: last.toList), ?_, ?_, hstep fun _ _ => Iff.rfl⟩
    · rw [pieces_cons hnone, h.pieces, piecesOf, piecesOf, plain, plain, String.toList_ofList]
      rfl
    · rw [assemble, String.toList_ofList, h.written]
      rfl
  | cons part more =>
    obtain ⟨text, word⟩ := part
    refine ⟨(String.ofList (c :: text.toList), word) :: more, last, ?_, ?_, hstep fun i key => ?_⟩
    · rw [pieces_cons hnone, h.pieces, piecesOf, piecesOf, plain, plain, String.toList_ofList]
      rfl
    · rw [assemble, String.toList_append, String.toList_ofList, List.cons_append,
        ← String.toList_append, h.written]
      rfl
    · have hlength : (String.ofList (c :: text.toList)).length = 1 + text.length := by
        rw [String.length_ofList, List.length_cons, String.length_toList, Nat.add_comm]
      rw [places, places, hlength, Nat.zero_add, Nat.zero_add]

/-- **Every text is made of parts.** -/
theorem exists_madeOf (cs : List Char) : ∃ parts last, MadeOf cs parts last := by
  induction cs using templateRec with
  | nil => exact ⟨[], "", madeOf_nil⟩
  | token word rest hword ih =>
    obtain ⟨parts, last, h⟩ := ih
    exact ⟨_, last, h.token hword⟩
  | char c rest hnone ih =>
    obtain ⟨parts, last, h⟩ := ih
    exact h.exists_char hnone

/-! ## Filling templates -/

/-- The token of a word stands behind the first `i` characters of a template. -/
def Occurs (template : String) (i : Nat) (word : String) : Prop :=
  IsWord word.toList ∧
    ∃ before after, template = before ++ tokenText word ++ after ∧ before.length = i

theorem toList_split (before word after : String) :
    (before ++ tokenText word ++ after).toList =
      before.toList ++ (spelled word.toList ++ after.toList) := by
  rw [String.toList_append, String.toList_append, toList_tokenText, List.append_assoc]

theorem occurs_iff {template word : String} :
    Occurs template i word ↔ TokenAt template.toList i word.toList := by
  constructor
  · rintro ⟨hword, before, after, rfl, rfl⟩
    refine ⟨hword, after.toList, ?_⟩
    rw [toList_split, ← String.length_toList, List.drop_left]
  · rintro ⟨hword, after, hafter⟩
    have hle : i ≤ template.toList.length := by
      by_contra hlt
      rw [List.drop_eq_nil_of_le (Nat.le_of_not_le hlt)] at hafter
      cases hafter
    refine ⟨hword, String.ofList (template.toList.take i), String.ofList after, ?_, ?_⟩
    · rw [← String.toList_inj, toList_split, String.toList_ofList, String.toList_ofList, hafter,
        List.take_append_drop]
    · rw [String.length_ofList, List.length_take, Nat.min_eq_left hle]

theorem prepare_append_token {word : String} (hword : IsWord word.toList) (before after : String)
    (lookup : String → Option String) :
    prepare (before ++ tokenText word ++ after) lookup =
      prepare before lookup ++ (lookup word).getD "" ++ prepare after lookup := by
  rw [prepare, toList_split, pieces_append_token _ hword, List.flatMap_append, List.flatMap_cons,
    String.ofList_append, String.ofList_append, Piece.fill, String.ofList_toList,
    String.ofList_toList, String.append_assoc]
  rfl

/-- What a list of references says of a word: what the first one of this name says, if any. -/
inductive Answers (references : List (String × String)) (word : String) : Option String → Prop
  | found {before after : List (String × String)} {answer : String}
      (hsplit : references = before ++ (word, answer) :: after)
      (hbefore : ∀ reference ∈ before, reference.1 ≠ word) : Answers references word (some answer)
  | missing (h : ∀ reference ∈ references, reference.1 ≠ word) : Answers references word none

theorem answers_reference? (references : List (String × String)) (word : String) :
    Answers references word (reference? references word) := by
  cases h : reference? references word with
  | some answer =>
    obtain ⟨before, after, hsplit, hbefore⟩ := List.lookup_eq_some_iff.1 h
    exact .found hsplit fun reference hmem => (bne_iff_ne.1 (hbefore reference hmem)).symm
  | none =>
    have hnone := List.lookup_eq_none_iff.1 h
    exact .missing fun reference hmem => (bne_iff_ne.1 (hnone reference hmem)).symm

theorem assemble_congr {lookup lookup' : String → Option String}
    (h : ∀ part ∈ parts, lookup part.2 = lookup' part.2) :
    assemble lookup parts last = assemble lookup' parts last := by
  induction parts with
  | nil => rfl
  | cons part rest ih =>
    obtain ⟨hpart, hrest⟩ := List.forall_mem_cons.1 h
    rw [assemble, assemble, hpart, ih hrest]

/-- **Filling a template is simultaneous substitution.**  The tokens of a template do not overlap,
and it is made of texts, each followed by a token, and of a text at the end, so that these are all
its tokens; filled, it is the same texts with the answers in the place of the tokens.  What stands
before and behind a token is filled as if it stood alone, so an answer is never looked at again.
A list of references answers with the first one of the name.  Only what is answered to the words of
the template's tokens matters. -/
theorem prepare_simultaneous (template : String) :
    (∀ i word j other, Occurs template i word → Occurs template j other →
      (i = j ∧ word = other) ∨ i + (tokenText word).length ≤ j ∨
        j + (tokenText other).length ≤ i) ∧
    (∃ parts last, template = assemble (fun word => some (tokenText word)) parts last ∧
      (∀ i word, Occurs template i word ↔ (i, word) ∈ places 0 parts) ∧
      ∀ lookup, prepare template lookup = assemble lookup parts last) ∧
    (∀ before word after, IsWord word.toList → template = before ++ tokenText word ++ after →
      ∀ lookup, prepare template lookup =
        prepare before lookup ++ (lookup word).getD "" ++ prepare after lookup) ∧
    (∀ references word, Answers references word (reference? references word)) ∧
    (∀ lookup lookup', (∀ i word, Occurs template i word → lookup word = lookup' word) →
      prepare template lookup = prepare template lookup') := by
  obtain ⟨parts, last, hmade⟩ := exists_madeOf template.toList
  have hoccurs : ∀ i word, Occurs template i word ↔ (i, word) ∈ places 0 parts := by
    intro i word
    rw [occurs_iff, hmade.tokenAt_iff, String.ofList_toList]
  have hprepare : ∀ lookup, prepare template lookup = assemble lookup parts last :=
    Reads.prepare_eq hmade.pieces
  refine ⟨fun i word j other h h' => ?_, ⟨parts, last, String.toList_inj.1 hmade.written, hoccurs,
    hprepare⟩, fun before word after hword hsplit lookup => ?_, answers_reference?,
    fun lookup lookup' h => ?_⟩
  · rw [length_tokenText, length_tokenText, ← String.toList_inj]
    exact (occurs_iff.1 h).disjoint (occurs_iff.1 h')
  · rw [hsplit]
    exact prepare_append_token hword before after lookup
  · rw [hprepare, hprepare]
    refine assemble_congr fun part hpart => ?_
    obtain ⟨i, hi⟩ := exists_mem_places hpart 0
    exact h i part.2 ((hoccurs i part.2).2 hi)

/-- A template with a token between single braces, one right behind it, and a blank where a word
should start: `{{{a}}}{{b_1}} {{ a}}`. -/
def nestedBraces : String := "\x7b\x7b\x7ba\x7d\x7d\x7d\x7b\x7bb_1\x7d\x7d \x7b\x7b a\x7d\x7d"

/-- The answers are made of braces and words themselves, and of two references with one name the
first counts. -/
theorem prepare_simultaneous_braces :
    Occurs nestedBraces 1 "a" ∧ Occurs nestedBraces 7 "b_1" ∧
    (1 = 7 ∧ "a" = "b_1" ∨ 1 + (tokenText "a").length ≤ 7 ∨ 7 + (tokenText "b_1").length ≤ 1) ∧
    prepare nestedBraces (reference? [("a", "\x7bb_1\x7d\x7d"), ("b_1", "a"), ("a", "2")]) =
      "\x7b\x7bb_1\x7d\x7d\x7da \x7b\x7b a\x7d\x7d" := by
  have ha : IsWord "a".toList := by decide
  have hb : IsWord "b_1".toList := by decide
  have hfirst : Occurs nestedBraces 1 "a" :=
    ⟨ha, "\x7b", "\x7d\x7b\x7bb_1\x7d\x7d \x7b\x7b a\x7d\x7d", by decide, rfl⟩
  have hsecond : Occurs nestedBraces 7 "b_1" :=
    ⟨hb, "\x7b\x7b\x7ba\x7d\x7d\x7d", " \x7b\x7b a\x7d\x7d", by decide, rfl⟩
  obtain ⟨hdisjoint, -, hsplit, -, -⟩ := prepare_simultaneous nestedBraces
  refine ⟨hfirst, hsecond, hdisjoint _ _ _ _ hfirst hsecond, ?_⟩
  rw [hsplit "\x7b" "a" "\x7d\x7b\x7bb_1\x7d\x7d \x7b\x7b a\x7d\x7d" ha (by decide)]
  decide

end Template

end Vetting
