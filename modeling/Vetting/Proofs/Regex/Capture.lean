import Vetting.Proofs.Regex.Walk

/-!
# What groups hold

A search tells where each group starts and ends.  What the group holds is the text between the two,
and for a pattern without assertions this can be said without positions: `Expr.Captures` says that
a pattern spells a text and that certain parts of it stand in its groups, one clause for each kind
of pattern.  It is `Expr.Spells` with the groups kept (`Expr.exists_captures_iff`), and along a way
through a text the groups hold what the pattern captures (`Expr.captures_of_fills`).

So a search between the assertions for the start and the end finds groups exactly when the text is
spelled, and they hold parts of the whole text (`Expr.captures_of_captures?`).
-/

namespace Vetting

namespace Regex

/-- Groups with the texts they hold, the latest first. -/
abbrev Captured : Type := List (Nat × List Char)

/-- The texts that filled groups hold. -/
def Filled.texts (cs : List Char) (groups : Filled) : Captured :=
  groups.map fun g => (g.1, cs.extract g.2.1 g.2.2)

/-- Parts one after the other, as many as given, with the groups that are filled in each. -/
def CapturingRounds (P : List Char → Captured → Prop) : Nat → List Char → Captured → Prop
  | 0, w, texts => w = [] ∧ texts = []
  | n + 1, w, texts => ∃ u v first rest,
    w = u ++ v ∧ P u first ∧ CapturingRounds P n v rest ∧ texts = rest ++ first

namespace Expr

/-- A pattern spells a text by its characters alone, with these texts in its groups. -/
def Captures : Pattern → List Char → Captured → Prop
  | .empty, w, texts => w = [] ∧ texts = []
  | .chars set, w, texts => (∃ c, set.contains c = true ∧ w = [c]) ∧ texts = []
  | .look _, _, _ => False
  | .seq a b, w, texts => ∃ u v first rest,
    w = u ++ v ∧ a.Captures u first ∧ b.Captures v rest ∧ texts = rest ++ first
  | .alt a b, w, texts => a.Captures w texts ∨ b.Captures w texts
  | .rep body min max _, w, texts =>
    ∃ n, Allowed min max n ∧ CapturingRounds body.Captures n w texts
  | .group index body, w, texts => ∃ inner, body.Captures w inner ∧ texts = (index, w) :: inner

end Expr

variable {P : List Char → Captured → Prop} {Q : List Char → Prop} {F : Nat → Nat → Filled → Prop}
  {cs w : List Char} {i j n : Nat} {groups : Filled} {texts : Captured}

/-! ## Rounds -/

theorem exists_capturingRounds_iff (h : ∀ w, (∃ texts, P w texts) ↔ Q w) :
    (∃ texts, CapturingRounds P n w texts) ↔
      ∃ parts : List (List Char), parts.length = n ∧ (∀ part ∈ parts, Q part) ∧
        w = parts.flatten := by
  induction n generalizing w with
  | zero =>
    constructor
    · rintro ⟨_, rfl, -⟩
      exact ⟨[], rfl, List.forall_mem_nil _, rfl⟩
    · rintro ⟨parts, hlength, -, rfl⟩
      obtain rfl := List.eq_nil_of_length_eq_zero hlength
      exact ⟨[], rfl, rfl⟩
  | succ n ih =>
    constructor
    · rintro ⟨_, u, v, first, rest, rfl, hu, hv, -⟩
      obtain ⟨parts, rfl, hparts, rfl⟩ := ih.1 ⟨rest, hv⟩
      exact ⟨u :: parts, rfl, List.forall_mem_cons.2 ⟨(h u).1 ⟨first, hu⟩, hparts⟩, rfl⟩
    · rintro ⟨_ | ⟨u, parts⟩, hlength, hparts, rfl⟩
      · exact nomatch hlength
      · obtain ⟨hu, hmore⟩ := List.forall_mem_cons.1 hparts
        obtain ⟨first, hfirst⟩ := (h u).2 hu
        obtain ⟨rest, hrest⟩ := ih.2 ⟨parts, Nat.succ.inj hlength, hmore, rfl⟩
        exact ⟨_, u, parts.flatten, first, rest, rfl, hfirst, hrest, rfl⟩

theorem eq_nil_of_capturingRounds (h : ∀ w texts, P w texts → texts = [])
    (hrounds : CapturingRounds P n w texts) : texts = [] := by
  induction n generalizing w texts with
  | zero => exact hrounds.2
  | succ n ih =>
    obtain ⟨u, v, first, rest, -, hfirst, hrest, rfl⟩ := hrounds
    rw [h u first hfirst, ih hrest, List.append_nil]

/-! ## Stretches of a text -/

theorem extract_append_extract {k : Nat} (hik : i ≤ k) (hkj : k ≤ j) :
    cs.extract i k ++ cs.extract k j = cs.extract i j := by
  have hlength : j - i = (k - i) + (j - k) := by omega
  have hdrop : cs.drop k = (cs.drop i).drop (k - i) := by
    rw [List.drop_drop, Nat.add_sub_cancel' hik]
  rw [List.extract_eq_take_drop, List.extract_eq_take_drop, List.extract_eq_take_drop, hlength,
    List.take_add, hdrop]

@[simp] theorem Filled.texts_append {first rest : Filled} :
    Filled.texts cs (rest ++ first) = rest.texts cs ++ first.texts cs := List.map_append

theorem capturingRounds_of_fillingRounds
    (h : ∀ i j groups, F i j groups → i ≤ j ∧ P (cs.extract i j) (groups.texts cs))
    (hrounds : FillingRounds F n i j groups) :
    i ≤ j ∧ CapturingRounds P n (cs.extract i j) (groups.texts cs) := by
  induction n generalizing i groups with
  | zero =>
    obtain ⟨rfl, rfl⟩ := hrounds
    refine ⟨Nat.le_refl i, ?_, rfl⟩
    rw [List.extract_eq_take_drop, Nat.sub_self, List.take_zero]
  | succ n ih =>
    obtain ⟨k, first, rest, hfirst, hrest, rfl⟩ := hrounds
    obtain ⟨hik, hu⟩ := h i k first hfirst
    obtain ⟨hkj, hv⟩ := ih hrest
    exact ⟨Nat.le_trans hik hkj, _, _, _, _, (extract_append_extract hik hkj).symm, hu, hv,
      Filled.texts_append⟩

namespace Expr

variable {e : Pattern} {es fs : List Pattern} {s : String}

/-! ## Groups and spelling -/

/-- **What a pattern captures is what it spells, with the groups kept.** -/
theorem exists_captures_iff : (∃ texts, e.Captures w texts) ↔ e.Spells w := by
  induction e generalizing w with
  | empty => exact exists_eq_right.trans Iff.rfl
  | chars set => exact exists_eq_right.trans Iff.rfl
  | look l => exact exists_const _
  | seq a b iha ihb =>
    constructor
    · rintro ⟨_, u, v, first, rest, rfl, ha, hb, -⟩
      exact ⟨u, v, rfl, iha.1 ⟨first, ha⟩, ihb.1 ⟨rest, hb⟩⟩
    · rintro ⟨u, v, rfl, ha, hb⟩
      obtain ⟨first, hfirst⟩ := iha.2 ha
      obtain ⟨rest, hrest⟩ := ihb.2 hb
      exact ⟨_, u, v, first, rest, rfl, hfirst, hrest, rfl⟩
  | alt a b iha ihb => exact exists_or.trans (or_congr iha ihb)
  | rep body min max greedy ih =>
    constructor
    · rintro ⟨texts, n, hn, h⟩
      obtain ⟨parts, rfl, hparts, rfl⟩ := (exists_capturingRounds_iff fun _ => ih).1 ⟨texts, h⟩
      exact ⟨parts, hn, hparts, rfl⟩
    · rintro ⟨parts, hn, hparts, rfl⟩
      obtain ⟨texts, h⟩ := (exists_capturingRounds_iff fun _ => ih).2 ⟨parts, rfl, hparts, rfl⟩
      exact ⟨texts, parts.length, hn, h⟩
  | group index body ih =>
    constructor
    · rintro ⟨_, inner, h, -⟩
      exact ih.1 ⟨inner, h⟩
    · intro h
      obtain ⟨inner, hinner⟩ := ih.2 h
      exact ⟨_, inner, hinner, rfl⟩

theorem eq_nil_of_captures (he : e.isGroupFree = true) (h : e.Captures w texts) : texts = [] := by
  induction e generalizing w texts with
  | empty | chars _ => exact h.2
  | look _ => exact h.elim
  | seq a b iha ihb =>
    obtain ⟨ha, hb⟩ := Bool.and_eq_true_iff.1 he
    obtain ⟨u, v, first, rest, -, hfirst, hrest, rfl⟩ := h
    rw [iha ha hfirst, ihb hb hrest, List.append_nil]
  | alt a b iha ihb =>
    obtain ⟨ha, hb⟩ := Bool.and_eq_true_iff.1 he
    exact h.elim (iha ha) (ihb hb)
  | rep body min max greedy ih =>
    obtain ⟨n, -, h⟩ := h
    exact eq_nil_of_capturingRounds (fun _ _ => ih he) h
  | group _ _ => exact nomatch he

/-- Without groups in it, a pattern captures nothing. -/
theorem captures_iff_spells (he : e.isGroupFree = true) :
    e.Captures w texts ↔ e.Spells w ∧ texts = [] := by
  constructor
  · exact fun h => ⟨exists_captures_iff.1 ⟨texts, h⟩, eq_nil_of_captures he h⟩
  · rintro ⟨h, rfl⟩
    obtain ⟨texts, htexts⟩ := exists_captures_iff.2 h
    rwa [eq_nil_of_captures he htexts] at htexts

theorem captures_group {index : Nat} (he : e.isGroupFree = true) :
    (group index e).Captures w texts ↔ e.Spells w ∧ texts = [(index, w)] := by
  constructor
  · rintro ⟨inner, h, rfl⟩
    obtain ⟨hspells, rfl⟩ := (captures_iff_spells he).1 h
    exact ⟨hspells, rfl⟩
  · rintro ⟨h, rfl⟩
    exact ⟨[], (captures_iff_spells he).2 ⟨h, rfl⟩, rfl⟩

@[simp] theorem captures_seqAll_cons :
    (seqAll (e :: es)).Captures w texts ↔ ∃ u v first rest, w = u ++ v ∧ e.Captures u first ∧
      (seqAll es).Captures v rest ∧ texts = rest ++ first := by
  cases es with
  | nil =>
    constructor
    · exact fun h => ⟨w, [], texts, [], (List.append_nil w).symm, h, ⟨rfl, rfl⟩, rfl⟩
    · rintro ⟨u, v, first, rest, rfl, h, ⟨rfl, rfl⟩, rfl⟩
      rwa [List.append_nil]
  | cons f es => rfl

theorem captures_seqAll_append :
    (seqAll (es ++ fs)).Captures w texts ↔ ∃ u v first rest, w = u ++ v ∧
      (seqAll es).Captures u first ∧ (seqAll fs).Captures v rest ∧ texts = rest ++ first := by
  induction es generalizing w texts with
  | nil =>
    constructor
    · exact fun h => ⟨[], w, [], texts, rfl, ⟨rfl, rfl⟩, h, (List.append_nil texts).symm⟩
    · rintro ⟨u, v, first, rest, rfl, ⟨rfl, rfl⟩, h, rfl⟩
      rwa [List.append_nil]
  | cons e es ih =>
    rw [List.cons_append, captures_seqAll_cons]
    constructor
    · rintro ⟨u, _, first, _, rfl, he, h, rfl⟩
      obtain ⟨v, x, second, rest, rfl, hes, hfs, rfl⟩ := ih.1 h
      exact ⟨u ++ v, x, second ++ first, rest, (List.append_assoc ..).symm,
        captures_seqAll_cons.2 ⟨u, v, first, second, rfl, he, hes, rfl⟩, hfs, List.append_assoc ..⟩
    · rintro ⟨_, x, _, rest, rfl, h, hfs, rfl⟩
      obtain ⟨u, v, first, second, rfl, he, hes, rfl⟩ := captures_seqAll_cons.1 h
      exact ⟨u, v ++ x, first, rest ++ second, List.append_assoc .., he,
        ih.2 ⟨v, x, second, rest, rfl, hes, hfs, rfl⟩, (List.append_assoc ..).symm⟩

/-! ## Groups along a way -/

/-- **Along a way through a text, groups hold what the pattern captures.** -/
theorem captures_of_fills (he : e.isLookFree = true) (h : (e.on cs).Fills i j groups) :
    e.Captures (cs.extract i j) (groups.texts cs) := by
  induction e generalizing i j groups with
  | empty =>
    obtain ⟨rfl, rfl⟩ := h
    refine ⟨?_, rfl⟩
    rw [List.extract_eq_take_drop, Nat.sub_self, List.take_zero]
  | chars set =>
    obtain ⟨⟨hset, rfl⟩, rfl⟩ := h
    obtain ⟨c, hc, hin⟩ := contains_charPositions.1 hset
    obtain ⟨hi, rfl⟩ := List.getElem?_eq_some_iff.1 hc
    refine ⟨⟨cs[i], hin, ?_⟩, rfl⟩
    rw [List.extract_eq_take_drop, Nat.add_sub_cancel_left, List.drop_eq_getElem_cons hi,
      List.take_succ_cons, List.take_zero]
  | look l => exact nomatch he
  | seq a b iha ihb =>
    obtain ⟨ha, hb⟩ := Bool.and_eq_true_iff.1 he
    obtain ⟨k, first, rest, hfirst, hrest, rfl⟩ := h
    exact ⟨_, _, _, _, (extract_append_extract (le_of_fills hfirst) (le_of_fills hrest)).symm,
      iha ha hfirst, ihb hb hrest, Filled.texts_append⟩
  | alt a b iha ihb =>
    obtain ⟨ha, hb⟩ := Bool.and_eq_true_iff.1 he
    exact h.imp (iha ha) (ihb hb)
  | rep body min max greedy ih =>
    obtain ⟨n, hn, h⟩ := h
    refine ⟨n, hn, (capturingRounds_of_fillingRounds (fun i j groups hround => ?_) h).2⟩
    exact ⟨le_of_fills hround, ih he hround⟩
  | group index body ih =>
    obtain ⟨inner, h, rfl⟩ := h
    exact ⟨inner.texts cs, ih he h, rfl⟩

theorem fills_seqAll_cons :
    ((seqAll (e :: es)).on cs).Fills i j groups ↔ ∃ k first rest, (e.on cs).Fills i k first ∧
      ((seqAll es).on cs).Fills k j rest ∧ groups = rest ++ first := by
  cases es with
  | nil =>
    constructor
    · exact fun h => ⟨j, groups, [], h, ⟨rfl, rfl⟩, rfl⟩
    · rintro ⟨k, first, rest, h, ⟨rfl, rfl⟩, rfl⟩
      exact h
  | cons f es => rfl

theorem fills_seqAll_append :
    ((seqAll (es ++ fs)).on cs).Fills i j groups ↔ ∃ k first rest,
      ((seqAll es).on cs).Fills i k first ∧ ((seqAll fs).on cs).Fills k j rest ∧
        groups = rest ++ first := by
  induction es generalizing i groups with
  | nil =>
    constructor
    · exact fun h => ⟨i, [], groups, ⟨rfl, rfl⟩, h, (List.append_nil groups).symm⟩
    · rintro ⟨k, first, rest, ⟨rfl, rfl⟩, h, rfl⟩
      rwa [List.append_nil]
  | cons e es ih =>
    rw [List.cons_append, fills_seqAll_cons]
    constructor
    · rintro ⟨k, first, _, he, h, rfl⟩
      obtain ⟨l, second, rest, hes, hfs, rfl⟩ := ih.1 h
      exact ⟨l, second ++ first, rest, fills_seqAll_cons.2 ⟨k, first, second, he, hes, rfl⟩, hfs,
        List.append_assoc ..⟩
    · rintro ⟨l, _, rest, h, hfs, rfl⟩
      obtain ⟨k, first, second, he, hes, rfl⟩ := fills_seqAll_cons.1 h
      exact ⟨k, first, rest ++ second, he, ih.2 ⟨l, second, rest, hes, hfs, rfl⟩,
        (List.append_assoc ..).symm⟩

/-! ## Between the start and the end -/

/-- Patterns one after the other, from the start of a text to its end. -/
def anchored (es : List Pattern) : Pattern :=
  seqAll (.look .textStart :: (es ++ [.look .textEnd]))

/-- **The groups of a search between the start and the end of a text hold what the patterns between
the two assertions capture.** -/
theorem captures_of_captures? (hes : ∀ e ∈ es, e.isLookFree = true)
    (h : (anchored es).captures? s = some groups) :
    (seqAll es).Captures s.toList (groups.texts s.toList) := by
  obtain ⟨i, j, hj, hfills⟩ := exists_fills_of_captures? h
  have hij : i ≤ j := le_of_fills hfills
  obtain ⟨k, _, _, ⟨⟨hstart, rfl⟩, rfl⟩, hrest, rfl⟩ := fills_seqAll_cons.1 hfills
  obtain ⟨l, inner, _, hinner, ⟨⟨hend, rfl⟩, rfl⟩, rfl⟩ := fills_seqAll_append.1 hrest
  obtain rfl := eq_zero_of_contains_textStart hstart (Nat.le_trans hij hj)
  have hnone := Option.isNone_iff_eq_none.1 ((contains_lookPositions hj).1 hend)
  have hl : s.toList.length ≤ l := List.drop_eq_nil_iff.1 (List.head?_eq_none_iff.1 hnone)
  have hcaptures := captures_of_fills (isLookFree_seqAll hes) hinner
  rw [List.extract_eq_take_drop, List.drop_zero, Nat.sub_zero, List.take_of_length_le hl]
    at hcaptures
  rwa [List.append_nil]

/-- There are groups exactly when the text is spelled. -/
theorem captures?_anchored_eq_none_iff (hes : ∀ e ∈ es, e.isLookFree = true) :
    (anchored es).captures? s = none ↔ ¬ (seqAll es).Spells s.toList := by
  rw [captures?_eq_none_iff, Bool.eq_false_iff, anchored, Ne, isMatch_anchored_iff hes]

end Expr

end Regex

end Vetting
