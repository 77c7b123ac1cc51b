import Mathlib.Data.List.Forall2
import Vetting.Json.Reader
import Vetting.Json.Writer
import Vetting.Proofs.Dict

/-!
# Reading what was written

What the writer makes of texts, truth values, arrays and objects is read back by the reader,
whatever stands in the texts (`read?_pretty_of_plain`).  Numbers are left out here: a double is
written with as few digits as tell it from the others.

`ReadsAs` is the relation between a piece of output and what it is read as.  There is one lemma for
each kind of value, and an output that is put together otherwise is read back by the same lemmas:
`readsAs_text`, `readsAs_bool`, `readsAs_array` and `readsAs_object`, which does not ask for the
order of the fields.

* A character is escaped so that the reader takes it for itself (`text_escaped`), and no escaped
  character looks like the closing quote.
* Between the members of a container stand blanks, which the reader skips, and commas
  (`loop_lines`).  The fuel of the reader is bounded by the length of what is left, so that it
  suffices for every member.
-/

namespace Vetting

namespace Json

namespace Reader

variable {c e : Char} {cs rest seen blanks : List Char} {fuel depth : Nat}

/-! ## Texts -/

theorem text_escape (h : escape cs = some (e, rest)) :
    text (fuel + 1) seen ('\\' :: cs) = text fuel (e :: seen) rest := by
  rw [text, if_neg (by decide), if_pos rfl, h]

theorem hexValue?_digitChar {n : Nat} (h : n < 16) : hexValue? (Nat.digitChar n) = some n := by
  revert n
  decide

/-- A control character by its code. -/
theorem escape_control (h : c.toNat < 0x20) :
    escape ('u' :: '0' :: '0' :: Nat.digitChar (c.toNat / 16) :: Nat.digitChar (c.toNat % 16) ::
      rest) = some (c, rest) := by
  have hunit : codeUnit ('0' :: '0' :: Nat.digitChar (c.toNat / 16) ::
      Nat.digitChar (c.toNat % 16) :: rest) = some (c.toNat, rest) := by
    have hzero : hexValue? '0' = some 0 := rfl
    rw [codeUnit, hzero, hexValue?_digitChar (by omega), hexValue?_digitChar (by omega)]
    simp only [Option.bind_eq_bind, Option.bind_some, Option.some.injEq, Prod.mk.injEq, and_true]
    omega
  have hlow : isLowSurrogate c.toNat = false := by
    rw [isLowSurrogate, Bool.and_eq_false_iff, decide_eq_false_iff_not]
    omega
  have hhigh : isHighSurrogate c.toNat = false := by
    rw [isHighSurrogate, Bool.and_eq_false_iff, decide_eq_false_iff_not]
    omega
  have hpoint : codePoint ('0' :: '0' :: Nat.digitChar (c.toNat / 16) ::
      Nat.digitChar (c.toNat % 16) :: rest) = some (c, rest) := by
    rw [codePoint, hunit, Option.bind_eq_bind, Option.bind_some]
    dsimp only
    rw [hlow, hhigh, Char.ofNat_toNat]
    rfl
  exact hpoint

/-- **What a character is escaped to is read as the character.** -/
theorem text_escaped (c : Char) :
    text (fuel + 1) seen (escaped c ++ rest) = text fuel (c :: seen) rest := by
  rw [escaped]
  split_ifs with hquote hbackslash hb hf hn hr ht hcontrol
  · subst hquote
    exact text_escape rfl
  · subst hbackslash
    exact text_escape rfl
  · subst hb
    exact text_escape rfl
  · subst hf
    exact text_escape rfl
  · subst hn
    exact text_escape rfl
  · subst hr
    exact text_escape rfl
  · subst ht
    exact text_escape rfl
  · exact text_escape (escape_control hcontrol)
  · rw [List.singleton_append, text, if_neg hquote, if_neg hbackslash, if_neg hcontrol]

theorem text_flatMap_escaped (h : cs.length < fuel) :
    text fuel seen (cs.flatMap escaped ++ '"' :: rest) =
      some (String.ofList (seen.reverse ++ cs), rest) := by
  induction cs generalizing fuel seen with
  | nil =>
    obtain ⟨fuel, rfl⟩ := Nat.exists_eq_add_of_lt h
    rw [List.append_nil]
    rfl
  | cons c cs ih =>
    obtain ⟨fuel, rfl⟩ : ∃ k, fuel = k + 1 := Nat.exists_eq_add_one_of_ne_zero (by omega)
    rw [List.flatMap_cons, List.append_assoc, text_escaped,
      ih (Nat.lt_of_succ_lt_succ h), List.reverse_cons, List.append_assoc, List.singleton_append]

theorem length_le_length_flatMap_escaped (cs : List Char) :
    cs.length ≤ (cs.flatMap escaped).length := by
  induction cs with
  | nil => exact Nat.le_refl 0
  | cons c cs ih =>
    have hone : 1 ≤ (escaped c).length := by
      rw [escaped]
      split_ifs <;> exact Nat.succ_pos _
    rw [List.flatMap_cons, List.length_append, List.length_cons]
    omega

@[simp] theorem toList_quoted (s : String) :
    (quoted s).toList = '"' :: (s.toList.flatMap escaped ++ ['"']) := String.toList_ofList

/-! ## Blanks -/

@[simp] theorem skipBlanks_cons (h : isBlank c = false) : skipBlanks (c :: cs) = c :: cs :=
  List.dropWhile_cons_of_neg (Bool.not_eq_true _ ▸ h)

@[simp] theorem skipBlanks_append (h : ∀ c ∈ blanks, isBlank c = true) :
    skipBlanks (blanks ++ cs) = skipBlanks cs :=
  List.dropWhile_append_of_pos h

theorem value_append (h : ∀ c ∈ blanks, isBlank c = true) :
    value fuel depth (blanks ++ cs) = value fuel depth cs := by
  cases fuel with
  | zero => rfl
  | succ fuel => rw [value, value, skipBlanks_append h]

/-! ## Containers -/

@[simp] theorem value_empty_array :
    value (fuel + 1) (depth + 1) ('[' :: ']' :: rest) = some (.array [], rest) := by
  rw [value, skipBlanks_cons rfl]
  rfl

@[simp] theorem value_empty_object :
    value (fuel + 1) (depth + 1) ('\x7b' :: '\x7d' :: rest) = some (.object [], rest) := by
  rw [value, skipBlanks_cons rfl]
  rfl

/-- What is read as items does not start with the closing bracket. -/
theorem value_of_items {result : Json × List Char} (h : items fuel depth [] cs = some result) :
    value (fuel + 1) (depth + 1) ('[' :: cs) = some result := by
  rw [value, skipBlanks_cons rfl]
  dsimp only
  rw [if_neg (by decide), if_pos rfl, if_neg (Nat.succ_ne_zero depth), Nat.add_sub_cancel]
  split
  · rename_i rest hbracket
    match fuel with
    | 0 => cases h
    | 1 =>
      rw [items] at h
      cases h
    | fuel + 2 =>
      have hvalue : value (fuel + 1) depth cs = none := by
        rw [value, hbracket]
        rfl
      rw [items, hvalue] at h
      cases h
  · exact h

/-- What is read as fields does not start with the closing bracket. -/
theorem value_of_fields {result : Json × List Char} (h : fields fuel depth [] cs = some result) :
    value (fuel + 1) (depth + 1) ('\x7b' :: cs) = some result := by
  rw [value, skipBlanks_cons rfl]
  dsimp only
  rw [if_neg (by decide), if_neg (by decide), if_pos rfl, if_neg (Nat.succ_ne_zero depth),
    Nat.add_sub_cancel]
  split
  · rename_i rest hbracket
    cases fuel with
    | zero => cases h
    | succ fuel =>
      rw [fields, hbracket] at h
      cases h
  · exact h

theorem fieldName_quoted {name : String} (h : name.toList.length < fuel) :
    fieldName fuel (skipBlanks ((quoted name).toList ++ ':' :: rest)) = some (name, rest) := by
  have hquote : expect? ['"'] ('"' :: (name.toList.flatMap escaped ++ '"' :: ':' :: rest)) =
      some (name.toList.flatMap escaped ++ '"' :: ':' :: rest) := rfl
  have hcolon : expect? [':'] (':' :: rest) = some rest := rfl
  rw [toList_quoted, List.cons_append, List.append_assoc, List.singleton_append,
    skipBlanks_cons rfl, fieldName, hquote]
  simp only [Option.bind_eq_bind, Option.bind_some, text_flatMap_escaped h, List.reverse_nil,
    List.nil_append, String.ofList_toList]
  rw [skipBlanks_cons rfl, hcolon, Option.bind_some]

/-- **Members on lines of their own are taken one by one.**  The loop takes a member and goes on
behind a comma, or is done at the closing bracket. -/
theorem loop_lines {α : Type} {Member : List Char → α → Prop} {line closing : List Char}
    (loop : Nat → List α → List Char → Option (Json × List Char)) (finish : List α → Json)
    (hcomma : ∀ {fuel seen m a more}, Member m a → 2 * m.length ≤ fuel →
      loop (fuel + 1) seen (line ++ (m ++ ',' :: more)) = loop fuel (a :: seen) more)
    (hclosing : ∀ {fuel seen m a}, Member m a → 2 * m.length ≤ fuel →
      loop (fuel + 1) seen (line ++ (m ++ (closing ++ rest))) =
        some (finish (a :: seen).reverse, rest))
    {ms : List (List Char)} {members : List α} (h : List.Forall₂ Member ms members) (hne : ms ≠ [])
    {seen : List α} (hfuel : 2 * (line.length + ((',' :: line).intercalate ms).length) < fuel) :
    loop fuel seen (line ++ ((',' :: line).intercalate ms ++ (closing ++ rest))) =
      some (finish (seen.reverse ++ members), rest) := by
  -- a member takes one unit of fuel for the loop and twice its length for itself
  induction h generalizing fuel seen with
  | nil => exact absurd rfl hne
  | @cons m a ms members hm hms ih =>
    obtain ⟨fuel, rfl⟩ : ∃ k, fuel = k + 1 := Nat.exists_eq_add_one_of_ne_zero (by omega)
    cases ms with
    | nil =>
      cases hms
      rw [List.intercalate_singleton] at hfuel ⊢
      rw [hclosing hm (by omega), List.reverse_cons]
    | cons m' ms =>
      rw [List.intercalate_cons_cons, List.length_append, List.length_append,
        List.length_cons] at hfuel
      rw [List.intercalate_cons_cons, List.append_assoc, List.append_assoc, List.cons_append,
        hcomma hm (by omega), ih (List.cons_ne_nil _ _) (by omega), List.reverse_cons,
        List.append_assoc, List.singleton_append]

end Reader

/-! ## Values -/

open Reader

variable {depth d : Nat}

/-- A piece of output is read as a value, whatever follows it, if containers may nest so deep. -/
def ReadsAs (depth : Nat) (written : List Char) (j : Json) : Prop :=
  ∀ fuel rest, 2 * written.length ≤ fuel → value fuel depth (written ++ rest) = some (j, rest)

/-- The fuel suffices for what stands behind the first character. -/
theorem readsAs_cons {c : Char} {cs : List Char} {j : Json}
    (h : ∀ fuel rest, 2 * cs.length < fuel →
      value (fuel + 1) depth (c :: (cs ++ rest)) = some (j, rest)) : ReadsAs depth (c :: cs) j := by
  intro fuel rest hfuel
  rw [List.length_cons] at hfuel
  obtain ⟨fuel, rfl⟩ : ∃ k, fuel = k + 1 := Nat.exists_eq_add_one_of_ne_zero (by omega)
  exact h fuel rest (by omega)

theorem readsAs_text (s : String) : ReadsAs depth (prettyAt d (.text s)).toList (.text s) := by
  rw [prettyAt, toList_quoted]
  refine readsAs_cons fun fuel rest hfuel => ?_
  have hlength := length_le_length_flatMap_escaped s.toList
  rw [List.length_append] at hfuel
  rw [List.append_assoc, value, skipBlanks_cons rfl]
  dsimp only
  rw [if_pos rfl, List.singleton_append, text_flatMap_escaped (by omega), List.reverse_nil,
    List.nil_append, String.ofList_toList]
  rfl

theorem readsAs_null : ReadsAs depth (prettyAt d .null).toList .null := by
  have hnull : "null".toList = 'n' :: ['u', 'l', 'l'] := rfl
  rw [prettyAt, hnull]
  refine readsAs_cons fun fuel rest _ => ?_
  rw [value, skipBlanks_cons rfl]
  rfl

theorem readsAs_bool (b : Bool) : ReadsAs depth (prettyAt d (.bool b)).toList (.bool b) := by
  rw [prettyAt]
  cases b with
  | true =>
    have htrue : "true".toList = 't' :: ['r', 'u', 'e'] := rfl
    rw [if_pos rfl, htrue]
    refine readsAs_cons fun fuel rest _ => ?_
    rw [value, skipBlanks_cons rfl]
    rfl
  | false =>
    have hfalse : "false".toList = 'f' :: ['a', 'l', 's', 'e'] := rfl
    rw [if_neg Bool.false_ne_true, hfalse]
    refine readsAs_cons fun fuel rest _ => ?_
    rw [value, skipBlanks_cons rfl]
    rfl

theorem isBlank_of_mem_newline {d : Nat} : ∀ c ∈ (newline d).toList, isBlank c = true := by
  intro c hc
  rw [newline, String.toList_ofList, List.mem_cons] at hc
  rcases hc with rfl | hc
  · rfl
  · rw [List.eq_of_mem_replicate hc]
    rfl

@[simp] theorem toList_block_nil {opening closing : String} :
    (block opening closing d []).toList = opening.toList ++ closing.toList := String.toList_append

theorem toList_block {opening closing : String} {members : List String} (h : members ≠ []) :
    (block opening closing d members).toList = opening.toList ++ ((newline (d + 1)).toList ++
      ((',' :: (newline (d + 1)).toList).intercalate (members.map String.toList) ++
        ((newline d).toList ++ closing.toList))) := by
  have hcomma : ("," ++ newline (d + 1)).toList = ',' :: (newline (d + 1)).toList := by
    rw [String.toList_append]
    rfl
  rw [block, if_neg (by simpa using h)]
  simp only [String.toList_append, String.toList_intercalate, hcomma, List.append_assoc]

@[simp] theorem prettyItems_eq_map (items : List Json) :
    prettyItems d items = items.map (prettyAt (d + 1)) := by
  induction items with
  | nil => rfl
  | cons item rest ih => rw [prettyItems, ih, List.map_cons]

@[simp] theorem prettyFields_eq_map (fields : List (String × Json)) :
    prettyFields d fields =
      fields.map fun field => quoted field.1 ++ ": " ++ prettyAt (d + 1) field.2 := by
  induction fields with
  | nil => rfl
  | cons field rest ih => rw [prettyFields, ih, List.map_cons]

section

variable {fuel : Nat} {m rest : List Char} {j : Json} {seen : List Json}

theorem items_comma (h : ReadsAs depth m j) (hfuel : 2 * m.length ≤ fuel) :
    items (fuel + 1) depth seen ((newline d).toList ++ (m ++ ',' :: rest)) =
      items fuel depth (j :: seen) rest := by
  rw [items, value_append isBlank_of_mem_newline, h fuel _ hfuel]
  rfl

theorem items_closing {e : Nat} (h : ReadsAs depth m j) (hfuel : 2 * m.length ≤ fuel) :
    items (fuel + 1) depth seen ((newline d).toList ++ (m ++ ((newline e).toList ++ ']' :: rest))) =
      some (.array (j :: seen).reverse, rest) := by
  rw [items, value_append isBlank_of_mem_newline, h fuel _ hfuel]
  dsimp only
  rw [skipBlanks_append isBlank_of_mem_newline]
  rfl

end

/-- **An array is read as the array of what its items are read as.** -/
theorem readsAs_array {written members : List Json}
    (h : List.Forall₂ (fun i j => ReadsAs depth (prettyAt (d + 1) i).toList j) written members) :
    ReadsAs (depth + 1) (prettyAt d (.array written)).toList (.array members) := by
  have hopening : "[".toList = ['['] := rfl
  have hclosing : "]".toList = [']'] := rfl
  rw [prettyAt, prettyItems_eq_map]
  by_cases hne : written = []
  · subst hne
    cases h
    rw [List.map_nil, toList_block_nil, hopening, hclosing, List.singleton_append]
    exact readsAs_cons fun fuel rest _ => value_empty_array
  · rw [toList_block (by simpa using hne), hopening, hclosing, List.singleton_append]
    refine readsAs_cons fun fuel rest hfuel => value_of_items ?_
    have hmembers : List.Forall₂ (ReadsAs depth)
        ((written.map (prettyAt (d + 1))).map String.toList) members := by
      rwa [List.forall₂_map_left_iff, List.forall₂_map_left_iff]
    rw [List.length_append, List.length_append] at hfuel
    rw [List.append_assoc, List.append_assoc]
    refine loop_lines (items · depth) .array items_comma ?_ hmembers (by simpa using hne) (by omega)
    intro fuel seen m j hm hfuel
    rw [List.append_assoc]
    exact items_closing hm hfuel

/-- A line of an object is read as a name and a value. -/
def ReadsAsField (depth : Nat) (written : List Char) (field : String × Json) : Prop :=
  ∃ value, ReadsAs depth value field.2 ∧ written = (quoted field.1).toList ++ ':' :: ' ' :: value

section

variable {fuel : Nat} {m rest : List Char} {field : String × Json} {seen : List (String × Json)}

theorem ReadsAsField.exists_behind (h : ReadsAsField depth m field) (hfuel : 2 * m.length ≤ fuel)
    (rest : List Char) :
    ∃ behind, fieldName fuel (skipBlanks ((newline d).toList ++ (m ++ rest))) =
        some (field.1, behind) ∧ value fuel depth behind = some (field.2, rest) := by
  obtain ⟨written, hvalue, rfl⟩ := h
  have hname := length_le_length_flatMap_escaped field.1.toList
  have hblank : ∀ c ∈ [' '], isBlank c = true := List.forall_mem_singleton.2 rfl
  rw [toList_quoted] at hfuel
  simp only [List.length_append, List.length_cons] at hfuel
  refine ⟨[' '] ++ (written ++ rest), ?_, ?_⟩
  · rw [skipBlanks_append isBlank_of_mem_newline, List.append_assoc, List.cons_append,
      fieldName_quoted (by omega)]
    rfl
  · rw [value_append hblank, hvalue fuel rest (by omega)]

theorem fields_comma (h : ReadsAsField depth m field) (hfuel : 2 * m.length ≤ fuel) :
    fields (fuel + 1) depth seen ((newline d).toList ++ (m ++ ',' :: rest)) =
      fields fuel depth (field :: seen) rest := by
  obtain ⟨behind, hname, hvalue⟩ := h.exists_behind (d := d) hfuel (',' :: rest)
  rw [fields, hname]
  dsimp only
  rw [hvalue]
  rfl

theorem fields_closing {e : Nat} (h : ReadsAsField depth m field) (hfuel : 2 * m.length ≤ fuel) :
    fields (fuel + 1) depth seen
        ((newline d).toList ++ (m ++ ((newline e).toList ++ '\x7d' :: rest))) =
      some (ofFields (field :: seen).reverse, rest) := by
  obtain ⟨behind, hname, hvalue⟩ :=
    h.exists_behind (d := d) hfuel ((newline e).toList ++ '\x7d' :: rest)
  rw [fields, hname]
  dsimp only
  rw [hvalue]
  dsimp only
  rw [skipBlanks_append isBlank_of_mem_newline]
  rfl

end

/-- **An object is read as the object of what its fields are read as.** -/
theorem readsAs_object {written members : List (String × Json)}
    (h : List.Forall₂ (fun f g => f.1 = g.1 ∧ ReadsAs depth (prettyAt (d + 1) f.2).toList g.2)
      written members) :
    ReadsAs (depth + 1) (prettyAt d (.object written)).toList (ofFields members) := by
  have hopening : "\x7b".toList = ['\x7b'] := rfl
  have hclosing : "\x7d".toList = ['\x7d'] := rfl
  rw [prettyAt, prettyFields_eq_map]
  by_cases hne : written = []
  · subst hne
    cases h
    rw [List.map_nil, toList_block_nil, hopening, hclosing, List.singleton_append]
    exact readsAs_cons fun fuel rest _ => value_empty_object
  · rw [toList_block (by simpa using hne), hopening, hclosing, List.singleton_append]
    refine readsAs_cons fun fuel rest hfuel => value_of_fields ?_
    have hmembers : List.Forall₂ (ReadsAsField depth)
        ((written.map fun field => quoted field.1 ++ ": " ++ prettyAt (d + 1) field.2).map
          String.toList) members := by
      rw [List.forall₂_map_left_iff, List.forall₂_map_left_iff]
      refine h.imp fun f g hfg => ⟨_, hfg.2, ?_⟩
      rw [← hfg.1, String.toList_append, String.toList_append, List.append_assoc]
      rfl
    rw [List.length_append, List.length_append] at hfuel
    rw [List.append_assoc, List.append_assoc]
    refine loop_lines (fields · depth) ofFields fields_comma ?_ hmembers (by simpa using hne)
      (by omega)
    intro fuel seen m field hm hfuel
    rw [List.append_assoc]
    exact fields_closing hm hfuel

theorem ofFields_of_ascending {fields : List (String × Json)} (h : Ascending fields) :
    ofFields fields = .object fields := by
  have hdict : Dict.ofList fields = ⟨fields, h⟩ := Dict.ofList_entries ⟨fields, h⟩
  rw [ofFields, hdict]

/-- A tree without numbers that nests at most so deep, and whose objects have their fields in key
order. -/
def Plain : Nat → Json → Prop
  | _, .null | _, .bool _ | _, .text _ => True
  | _, .integer _ | _, .float _ => False
  | 0, .array _ | 0, .object _ => False
  | n + 1, .array items => ∀ item ∈ items, Plain n item
  | n + 1, .object fields => Ascending fields ∧ ∀ field ∈ fields, Plain n field.2

theorem readsAs_of_plain {n : Nat} {j : Json} (h : Plain n j) (d : Nat) :
    ReadsAs n (prettyAt d j).toList j := by
  induction n generalizing j d with
  | zero =>
    cases j with
    | null => exact readsAs_null
    | bool b => exact readsAs_bool b
    | text s => exact readsAs_text s
    | integer i => exact h.elim
    | float x => exact h.elim
    | array items => exact h.elim
    | object fields => exact h.elim
  | succ n ih =>
    cases j with
    | null => exact readsAs_null
    | bool b => exact readsAs_bool b
    | text s => exact readsAs_text s
    | integer i => exact h.elim
    | float x => exact h.elim
    | array items =>
      exact readsAs_array (List.forall₂_same.2 fun item hitem => ih (h item hitem) (d + 1))
    | object fields =>
      obtain ⟨hascending, hfields⟩ := h
      have hsame : List.Forall₂ (fun f g => f.1 = g.1 ∧
          ReadsAs n (prettyAt (d + 1) f.2).toList g.2) fields fields :=
        List.forall₂_same.2 fun field hfield => ⟨rfl, ih (hfields field hfield) (d + 1)⟩
      have hobject := readsAs_object (d := d) hsame
      rwa [ofFields_of_ascending hascending] at hobject

/-! ## Whole texts -/

/-- **A value is read back from its lines, whatever blanks follow.** -/
theorem read?_append_of_readsAs {s blanks : String} {j : Json}
    (h : ReadsAs nestingLimit s.toList j) (hblanks : ∀ c ∈ blanks.toList, isBlank c = true) :
    read? (s ++ blanks) = some j := by
  have hfuel : 2 * s.toList.length ≤ 2 * (s.toList ++ blanks.toList).length + 2 := by
    rw [List.length_append]
    omega
  have hrest : skipBlanks blanks.toList = [] := by
    rw [← List.append_nil blanks.toList, skipBlanks_append hblanks]
    rfl
  rw [read?, readNested, String.toList_append, h _ _ hfuel]
  dsimp only
  rw [hrest]
  rfl

/-- **A tree without numbers is read back from its lines.** -/
theorem read?_pretty_of_plain {j : Json} (h : Plain nestingLimit j) : read? j.pretty = some j := by
  have hread : read? (j.pretty ++ "") = some j :=
    read?_append_of_readsAs (readsAs_of_plain h 0) (List.forall_mem_nil _)
  rwa [String.append_empty] at hread

end Json

end Vetting
