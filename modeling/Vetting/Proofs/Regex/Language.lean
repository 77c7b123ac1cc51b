import Vetting.Proofs.Regex.Search

/-!
# The texts that a pattern matches

`Expr.Matches` says that a pattern matches a stretch of text between what stands before and what
stands behind it, with one clause for each kind of pattern.  `Expr.isMatch_eq_true_iff` is the
promise of the search: it succeeds exactly when the text has such a stretch.

What stands around a stretch matters to assertions only.  A pattern without any spells a set of
texts (`Expr.Spells`), and matches a stretch exactly when it spells it
(`Expr.matches_iff_spells`).  Such a pattern matches the texts that hold one of its own
(`Expr.isMatch_iff_exists_spelled`), or that are one of its own if it stands between the assertions
for the start and the end (`Expr.isMatch_anchored_iff`).
-/

namespace Vetting

namespace Regex

/-- Stretches one after the other, as many as given. -/
def Repeats (M : List Char → List Char → List Char → Prop) :
    Nat → List Char → List Char → List Char → Prop
  | 0, _, w, _ => w = []
  | n + 1, before, w, after =>
    ∃ u v, w = u ++ v ∧ M before u (v ++ after) ∧ Repeats M n (before ++ u) v after

namespace Expr

/-- A pattern matches a stretch of text between what stands before and behind it. -/
def Matches : Pattern → List Char → List Char → List Char → Prop
  | .empty, _, w, _ => w = []
  | .chars set, _, w, _ => ∃ c, set.contains c = true ∧ w = [c]
  | .look l, before, w, after => w = [] ∧ l.holds before.getLast? after.head? = true
  | .seq a b, before, w, after =>
    ∃ u v, w = u ++ v ∧ a.Matches before u (v ++ after) ∧ b.Matches (before ++ u) v after
  | .alt a b, before, w, after => a.Matches before w after ∨ b.Matches before w after
  | .rep body min max _, before, w, after =>
    ∃ n, Allowed min max n ∧ Repeats body.Matches n before w after
  | .group _ body, before, w, after => body.Matches before w after

end Expr

/-! ## Stretches between positions -/

/-- What is asked of a stretch holds of the one between two positions of a text. -/
def Between (M : List Char → List Char → List Char → Prop) (cs : List Char) (i j : Nat) : Prop :=
  ∃ before w after, cs = before ++ (w ++ after) ∧ before.length = i ∧ i + w.length = j ∧
    M before w after

variable {M N : List Char → List Char → List Char → Prop} {cs : List Char} {i j n : Nat}

theorem between_of_empty {P : List Char → List Char → Prop}
    (h : ∀ before w after, M before w after ↔ w = [] ∧ P before after) (hj : j ≤ cs.length) :
    Between M cs i j ↔ i = j ∧ P (cs.take i) (cs.drop i) := by
  constructor
  · rintro ⟨before, _, after, rfl, rfl, rfl, hM⟩
    obtain ⟨rfl, hP⟩ := (h _ _ _).1 hM
    rw [List.nil_append, List.take_left, List.drop_left]
    exact ⟨rfl, hP⟩
  · rintro ⟨rfl, hP⟩
    exact ⟨cs.take i, [], cs.drop i, (List.take_append_drop i cs).symm,
      List.length_take_of_le hj, rfl, (h _ _ _).2 ⟨rfl, hP⟩⟩

/-- A stretch of two parts has a position between them. -/
theorem exists_between_iff :
    (∃ k, Between M cs i k ∧ Between N cs k j) ↔
      Between (fun before w after =>
        ∃ u v, w = u ++ v ∧ M before u (v ++ after) ∧ N (before ++ u) v after) cs i j := by
  constructor
  · rintro ⟨k, ⟨before, u, rest, hcs, hi, hk, hM⟩, before', v, after, hcs', hk', hj, hN⟩
    have hlength : (before ++ u).length = before'.length := by
      rw [List.length_append, hi, hk, hk']
    have happend : before ++ u ++ rest = before' ++ (v ++ after) := by
      rw [List.append_assoc, ← hcs, hcs']
    obtain ⟨rfl, rfl⟩ := List.append_inj happend hlength
    refine ⟨before, u ++ v, after, by rw [hcs, List.append_assoc], hi, ?_, u, v, rfl, hM, hN⟩
    rw [List.length_append, ← Nat.add_assoc, hk, hj]
  · rintro ⟨before, _, after, hcs, hi, hj, u, v, rfl, hM, hN⟩
    rw [List.append_assoc] at hcs
    rw [List.length_append, ← Nat.add_assoc] at hj
    refine ⟨i + u.length, ⟨before, u, v ++ after, hcs, hi, rfl, hM⟩, before ++ u, v, after, ?_, ?_,
      hj, hN⟩
    · rw [hcs, List.append_assoc]
    · rw [List.length_append, hi]

theorem rounds_iff_between {R : Nat → Nat → Prop} (hle : ∀ i j, R i j → i ≤ j)
    (h : ∀ i j, j ≤ cs.length → (R i j ↔ Between M cs i j)) (hj : j ≤ cs.length) :
    Rounds R n i j ↔ Between (Repeats M n) cs i j := by
  induction n generalizing i with
  | zero =>
    have hzero : Between (Repeats M 0) cs i j ↔ i = j ∧ True :=
      between_of_empty (fun _ _ _ => (and_iff_left trivial).symm) hj
    rw [hzero, and_iff_left trivial, Rounds]
  | succ n ih =>
    have hsucc : Between (Repeats M (n + 1)) cs i j ↔
        ∃ k, Between M cs i k ∧ Between (Repeats M n) cs k j := exists_between_iff.symm
    rw [hsucc]
    constructor
    · rintro ⟨k, hik, hkj⟩
      have hk : k ≤ cs.length := Nat.le_trans (exists_rounds_le hle hkj).1 hj
      exact ⟨k, (h i k hk).1 hik, ih.1 hkj⟩
    · rintro ⟨k, hik, hkj⟩
      have hrounds := ih.2 hkj
      have hk : k ≤ cs.length := Nat.le_trans (exists_rounds_le hle hrounds).1 hj
      exact ⟨k, (h i k hk).2 hik, hrounds⟩

/-! ## The leaves of a placed pattern -/

@[simp] theorem contains_charPositions {set : CharSet} :
    (charPositions cs set).contains i ↔ ∃ c, cs[i]? = some c ∧ set.contains c = true := by
  rw [charPositions, Positions.contains_ofBools, List.getElem?_map, Option.map_eq_some_iff]

theorem getElem?_neighbourTests (test : Option Char → Option Char → Bool) (previous : Option Char)
    (cs : List Char) (hi : i ≤ cs.length) :
    (neighbourTests test previous cs)[i]? =
      some (test ((cs.take i).getLast?.or previous) (cs.drop i).head?) := by
  induction cs generalizing i previous with
  | nil =>
    obtain rfl := Nat.le_zero.1 hi
    rfl
  | cons c rest ih =>
    cases i with
    | zero => rfl
    | succ i =>
      rw [neighbourTests, List.getElem?_cons_succ, ih (some c) (Nat.le_of_succ_le_succ hi),
        List.take_succ_cons, List.drop_succ_cons, List.getLast?_cons]
      cases (rest.take i).getLast? <;> rfl

theorem contains_lookPositions {l : Look} (hi : i ≤ cs.length) :
    (lookPositions cs l).contains i ↔
      l.holds (cs.take i).getLast? (cs.drop i).head? = true := by
  rw [lookPositions, Positions.contains_ofBools, getElem?_neighbourTests _ _ _ hi, Option.some_inj,
    Option.or_none]

/-! ## Matching -/

namespace Expr

theorem between_chars {set : CharSet} :
    Between (chars set : Pattern).Matches cs i j ↔
      (∃ c, cs[i]? = some c ∧ set.contains c = true) ∧ j = i + 1 := by
  constructor
  · rintro ⟨before, _, after, rfl, rfl, rfl, c, hset, rfl⟩
    refine ⟨⟨c, ?_, hset⟩, rfl⟩
    rw [List.getElem?_append_right (Nat.le_refl _), Nat.sub_self]
    rfl
  · rintro ⟨⟨c, hc, hset⟩, rfl⟩
    obtain ⟨hi, rfl⟩ := List.getElem?_eq_some_iff.1 hc
    refine ⟨cs.take i, [cs[i]], cs.drop (i + 1), ?_, List.length_take_of_le (Nat.le_of_lt hi), rfl,
      cs[i], hset, rfl⟩
    rw [List.singleton_append, ← List.drop_eq_getElem_cons hi, List.take_append_drop]

/-- **A placed pattern leads from one position to another exactly when the pattern matches what
stands between them.** -/
theorem leads_on_iff (e : Pattern) (hj : j ≤ cs.length) :
    (e.on cs).Leads i j ↔ Between e.Matches cs i j := by
  induction e generalizing i j with
  | empty =>
    have hbetween : Between (empty : Pattern).Matches cs i j ↔ i = j ∧ True :=
      between_of_empty (fun _ _ _ => (and_iff_left trivial).symm) hj
    rw [hbetween, and_iff_left trivial]
    rfl
  | chars set =>
    rw [between_chars, ← contains_charPositions]
    rfl
  | look l =>
    have hbetween : Between (look l : Pattern).Matches cs i j ↔
        i = j ∧ l.holds (cs.take i).getLast? (cs.drop i).head? = true :=
      between_of_empty (fun _ _ _ => Iff.rfl) hj
    rw [hbetween]
    constructor
    · rintro ⟨hl, rfl⟩
      exact ⟨rfl, (contains_lookPositions hj).1 hl⟩
    · rintro ⟨rfl, hl⟩
      exact ⟨(contains_lookPositions hj).2 hl, rfl⟩
  | seq a b iha ihb =>
    have hbetween : Between (seq a b : Pattern).Matches cs i j ↔
        ∃ k, Between a.Matches cs i k ∧ Between b.Matches cs k j := exists_between_iff.symm
    rw [hbetween]
    constructor
    · rintro ⟨k, ha, hb⟩
      exact ⟨k, (iha (Nat.le_trans (le_of_leads hb) hj)).1 ha, (ihb hj).1 hb⟩
    · rintro ⟨k, ha, hb⟩
      have hleads := (ihb hj).2 hb
      exact ⟨k, (iha (Nat.le_trans (le_of_leads hleads) hj)).2 ha, hleads⟩
  | alt a b iha ihb =>
    have hleads : ((alt a b : Pattern).on cs).Leads i j ↔
        (a.on cs).Leads i j ∨ (b.on cs).Leads i j := Iff.rfl
    rw [hleads, iha hj, ihb hj]
    constructor
    · rintro (⟨before, w, after, hcs, hi, hw, h⟩ | ⟨before, w, after, hcs, hi, hw, h⟩)
      · exact ⟨before, w, after, hcs, hi, hw, Or.inl h⟩
      · exact ⟨before, w, after, hcs, hi, hw, Or.inr h⟩
    · rintro ⟨before, w, after, hcs, hi, hw, h | h⟩
      · exact Or.inl ⟨before, w, after, hcs, hi, hw, h⟩
      · exact Or.inr ⟨before, w, after, hcs, hi, hw, h⟩
  | rep body min max greedy ih =>
    have hrounds (n : Nat) :
        Rounds (body.on cs).Leads n i j ↔ Between (Repeats body.Matches n) cs i j :=
      rounds_iff_between (fun _ _ => le_of_leads) (fun _ _ => ih) hj
    constructor
    · rintro ⟨n, hn, h⟩
      obtain ⟨before, w, after, hcs, hi, hw, h⟩ := (hrounds n).1 h
      exact ⟨before, w, after, hcs, hi, hw, n, hn, h⟩
    · rintro ⟨before, w, after, hcs, hi, hw, n, hn, h⟩
      exact ⟨n, hn, (hrounds n).2 ⟨before, w, after, hcs, hi, hw, h⟩⟩
  | group index body ih => exact ih hj

/-- **A search succeeds exactly when the pattern matches a stretch of the text.** -/
theorem isMatch_eq_true_iff {e : Pattern} {s : String} :
    e.isMatch s = true ↔
      ∃ before w after, s.toList = before ++ (w ++ after) ∧ e.Matches before w after := by
  rw [isMatch, bne_iff_ne, Positions.ne_zero_iff]
  constructor
  · rintro ⟨i, hi⟩
    obtain ⟨j, hleads, hj⟩ := (contains_before _ _ _).1 hi
    obtain ⟨before, w, after, hs, -, -, h⟩ :=
      (leads_on_iff e (Positions.contains_upTo.1 hj)).1 hleads
    exact ⟨before, w, after, hs, h⟩
  · rintro ⟨before, w, after, hs, h⟩
    have hj : before.length + w.length ≤ s.toList.length := by
      rw [hs, List.length_append, List.length_append]
      omega
    have hleads := (leads_on_iff e hj).2 ⟨before, w, after, hs, rfl, rfl, h⟩
    exact ⟨before.length, (contains_before _ _ _).2 ⟨_, hleads, Positions.contains_upTo.2 hj⟩⟩

/-! ## Spelling -/

/-- A pattern spells a text by its characters alone, which one with assertions does not. -/
def Spells : Pattern → List Char → Prop
  | .empty, w => w = []
  | .chars set, w => ∃ c, set.contains c = true ∧ w = [c]
  | .look _, _ => False
  | .seq a b, w => ∃ u v, w = u ++ v ∧ a.Spells u ∧ b.Spells v
  | .alt a b, w => a.Spells w ∨ b.Spells w
  | .rep body min max _, w =>
    ∃ parts : List (List Char), Allowed min max parts.length ∧
      (∀ part ∈ parts, body.Spells part) ∧ w = parts.flatten
  | .group _ body, w => body.Spells w

/-- There are no assertions in a pattern. -/
def isLookFree {C L : Type} : Expr C L → Bool
  | .empty | .chars _ => true
  | .look _ => false
  | .seq a b | .alt a b => a.isLookFree && b.isLookFree
  | .rep body _ _ _ | .group _ body => body.isLookFree

theorem repeats_iff {P : List Char → Prop} (h : ∀ before w after, M before w after ↔ P w)
    (before w after : List Char) :
    Repeats M n before w after ↔
      ∃ parts : List (List Char), parts.length = n ∧ (∀ part ∈ parts, P part) ∧
        w = parts.flatten := by
  induction n generalizing before w with
  | zero =>
    constructor
    · rintro rfl
      exact ⟨[], rfl, List.forall_mem_nil _, rfl⟩
    · rintro ⟨parts, hlength, -, rfl⟩
      obtain rfl := List.eq_nil_of_length_eq_zero hlength
      rfl
  | succ n ih =>
    constructor
    · rintro ⟨u, v, rfl, hu, hv⟩
      obtain ⟨parts, rfl, hparts, rfl⟩ := (ih _ _).1 hv
      exact ⟨u :: parts, rfl, List.forall_mem_cons.2 ⟨(h _ _ _).1 hu, hparts⟩, rfl⟩
    · rintro ⟨_ | ⟨u, parts⟩, hlength, hparts, rfl⟩
      · exact nomatch hlength
      · obtain ⟨hu, hrest⟩ := List.forall_mem_cons.1 hparts
        exact ⟨u, parts.flatten, rfl, (h _ _ _).2 hu,
          (ih _ _).2 ⟨parts, Nat.succ.inj hlength, hrest, rfl⟩⟩

/-- **What stands around a stretch does not matter to a pattern without assertions.** -/
theorem matches_iff_spells {e : Pattern} (he : e.isLookFree = true)
    (before w after : List Char) : e.Matches before w after ↔ e.Spells w := by
  induction e generalizing before w after with
  | empty => rfl
  | chars set => rfl
  | look l => exact nomatch he
  | seq a b iha ihb =>
    obtain ⟨ha, hb⟩ := Bool.and_eq_true_iff.1 he
    exact exists₂_congr fun u v =>
      and_congr Iff.rfl (and_congr (iha ha _ _ _) (ihb hb _ _ _))
  | alt a b iha ihb =>
    obtain ⟨ha, hb⟩ := Bool.and_eq_true_iff.1 he
    exact or_congr (iha ha _ _ _) (ihb hb _ _ _)
  | rep body min max greedy ih =>
    constructor
    · rintro ⟨n, hn, h⟩
      obtain ⟨parts, rfl, hparts, rfl⟩ := (repeats_iff (ih he) _ _ _).1 h
      exact ⟨parts, hn, hparts, rfl⟩
    · rintro ⟨parts, hn, hparts, rfl⟩
      exact ⟨_, hn, (repeats_iff (ih he) _ _ _).2 ⟨parts, rfl, hparts, rfl⟩⟩
  | group index body ih => exact ih he _ _ _

/-- **A pattern without assertions matches the texts that hold one that it spells.** -/
theorem isMatch_iff_exists_spelled {e : Pattern} (he : e.isLookFree = true) {s : String} :
    e.isMatch s = true ↔ ∃ w, e.Spells w ∧ w <:+: s.toList := by
  simp only [isMatch_eq_true_iff, matches_iff_spells he]
  constructor
  · rintro ⟨before, w, after, hs, h⟩
    exact ⟨w, h, before, after, by rw [hs, List.append_assoc]⟩
  · rintro ⟨w, h, before, after, hs⟩
    exact ⟨before, w, after, by rw [← hs, List.append_assoc], h⟩

/-! ## Patterns one after the other -/

variable {e : Pattern} {es fs : List Pattern} {w : List Char}

theorem matches_seqAll_cons {before w after : List Char} :
    (seqAll (e :: es)).Matches before w after ↔
      ∃ u v, w = u ++ v ∧ e.Matches before u (v ++ after) ∧
        (seqAll es).Matches (before ++ u) v after := by
  cases es with
  | nil =>
    constructor
    · exact fun h => ⟨w, [], (List.append_nil w).symm, h, rfl⟩
    · rintro ⟨u, v, rfl, h, hv⟩
      obtain rfl : v = [] := hv
      rwa [List.append_nil]
  | cons f es => rfl

theorem matches_seqAll_append {before w after : List Char} :
    (seqAll (es ++ fs)).Matches before w after ↔
      ∃ u v, w = u ++ v ∧ (seqAll es).Matches before u (v ++ after) ∧
        (seqAll fs).Matches (before ++ u) v after := by
  induction es generalizing before w with
  | nil =>
    constructor
    · exact fun h => ⟨[], w, rfl, rfl, by rwa [List.append_nil]⟩
    · rintro ⟨u, v, rfl, hu, h⟩
      obtain rfl : u = [] := hu
      rwa [List.append_nil] at h
  | cons e es ih =>
    rw [List.cons_append, matches_seqAll_cons]
    constructor
    · rintro ⟨u, _, rfl, he, h⟩
      obtain ⟨v, x, rfl, hes, hfs⟩ := ih.1 h
      refine ⟨u ++ v, x, (List.append_assoc u v x).symm, matches_seqAll_cons.2 ⟨u, v, rfl, ?_, hes⟩,
        ?_⟩
      · rwa [← List.append_assoc]
      · rwa [← List.append_assoc]
    · rintro ⟨_, x, rfl, h, hfs⟩
      obtain ⟨u, v, rfl, he, hes⟩ := matches_seqAll_cons.1 h
      refine ⟨u, v ++ x, List.append_assoc u v x, ?_, ih.2 ⟨v, x, rfl, hes, ?_⟩⟩
      · rwa [List.append_assoc]
      · rwa [List.append_assoc]

@[simp] theorem spells_seqAll_cons :
    (seqAll (e :: es)).Spells w ↔ ∃ u v, w = u ++ v ∧ e.Spells u ∧ (seqAll es).Spells v := by
  cases es with
  | nil =>
    constructor
    · exact fun h => ⟨w, [], (List.append_nil w).symm, h, rfl⟩
    · rintro ⟨u, v, rfl, h, hv⟩
      obtain rfl : v = [] := hv
      rwa [List.append_nil]
  | cons f es => rfl

theorem isLookFree_seqAll (h : ∀ e ∈ es, e.isLookFree = true) : (seqAll es).isLookFree = true := by
  induction es with
  | nil => rfl
  | cons e es ih =>
    cases es with
    | nil => exact h e (List.mem_cons_self ..)
    | cons f es =>
      obtain ⟨he, hes⟩ := List.forall_mem_cons.1 h
      exact Bool.and_eq_true_iff.2 ⟨he, ih hes⟩

theorem isLookFree_altAll (h : ∀ e ∈ es, e.isLookFree = true) : (altAll es).isLookFree = true := by
  induction es with
  | nil => rfl
  | cons e es ih =>
    cases es with
    | nil => exact h e (List.mem_cons_self ..)
    | cons f es =>
      obtain ⟨he, hes⟩ := List.forall_mem_cons.1 h
      exact Bool.and_eq_true_iff.2 ⟨he, ih hes⟩

/-- **Between the assertions for the start and the end, patterns without any match the texts that
they spell.** -/
theorem isMatch_anchored_iff (hes : ∀ e ∈ es, e.isLookFree = true) {s : String} :
    (seqAll (.look .textStart :: (es ++ [.look .textEnd]))).isMatch s = true ↔
      (seqAll es).Spells s.toList := by
  have hspells := matches_iff_spells (isLookFree_seqAll hes)
  simp only [isMatch_eq_true_iff, matches_seqAll_cons, matches_seqAll_append, hspells]
  constructor
  · rintro ⟨before, _, after, hs, _, _, rfl, ⟨rfl, hstart⟩, u, _, rfl, hu, v, _, rfl, ⟨rfl, hend⟩,
      hnil⟩
    obtain rfl : before = [] := List.getLast?_eq_none_iff.1 (Option.isNone_iff_eq_none.1 hstart)
    cases hnil
    obtain rfl : after = [] := List.head?_eq_none_iff.1 (Option.isNone_iff_eq_none.1 hend)
    rw [hs]
    simpa only [List.nil_append, List.append_nil] using hu
  · intro h
    refine ⟨[], s.toList, [], (List.append_nil _).symm, [], s.toList, rfl, ⟨rfl, rfl⟩, s.toList, [],
      (List.append_nil _).symm, h, [], [], rfl, ⟨rfl, rfl⟩, rfl⟩

/-! ## What the usual combinations spell -/

theorem spells_seq_assoc {f g : Pattern} :
    (seq e (seq f g)).Spells w ↔ (seq (seq e f) g).Spells w := by
  constructor
  · rintro ⟨u, _, rfl, he, v, x, rfl, hf, hg⟩
    exact ⟨u ++ v, x, (List.append_assoc u v x).symm, ⟨u, v, rfl, he, hf⟩, hg⟩
  · rintro ⟨_, x, rfl, ⟨u, v, rfl, he, hf⟩, hg⟩
    exact ⟨u, v ++ x, List.append_assoc u v x, he, v, x, rfl, hf, hg⟩

theorem spells_altAll (hes : es ≠ []) : (altAll es).Spells w ↔ ∃ e ∈ es, e.Spells w := by
  induction es with
  | nil => exact absurd rfl hes
  | cons e es ih =>
    cases es with
    | nil =>
      simp only [List.mem_singleton, exists_eq_left]
      rfl
    | cons f es =>
      have halt : (altAll (e :: f :: es)).Spells w ↔
          e.Spells w ∨ (altAll (f :: es)).Spells w := Iff.rfl
      rw [halt, ih (List.cons_ne_nil _ _)]
      simp only [List.mem_cons, or_and_right, exists_or, exists_eq_left]

@[simp] theorem allowed_none {min n : Nat} : Allowed min none n ↔ min ≤ n :=
  and_iff_left fun _ h => nomatch h

theorem allowed_some {min max n : Nat} (h : min ≤ max) :
    Allowed min (some max) n ↔ min ≤ n ∧ n ≤ max := by
  constructor
  · rintro ⟨hmin, hmax⟩
    have hle := hmax max rfl
    exact ⟨hmin, by omega⟩
  · rintro ⟨hmin, hmax⟩
    refine ⟨hmin, ?_⟩
    rintro _ ⟨⟩
    exact Nat.sub_le_sub_right hmax min

@[simp] theorem spells_opt : (opt e).Spells w ↔ w = [] ∨ e.Spells w := by
  constructor
  · rintro ⟨parts, hlength, hparts, rfl⟩
    have hle := ((allowed_some (Nat.zero_le 1)).1 hlength).2
    match parts, hle with
    | [], _ => exact Or.inl rfl
    | [part], _ =>
      rw [List.flatten_singleton]
      exact Or.inr (hparts part (List.mem_cons_self ..))
  · rintro (rfl | h)
    · exact ⟨[], (allowed_some (Nat.zero_le 1)).2 ⟨Nat.zero_le _, Nat.zero_le _⟩,
        List.forall_mem_nil _, rfl⟩
    · exact ⟨[w], (allowed_some (Nat.zero_le 1)).2 ⟨Nat.zero_le _, Nat.le_refl _⟩,
        List.forall_mem_singleton.2 h, List.flatten_singleton.symm⟩

/-- What a repetition spells, given what is repeated. -/
theorem spells_rep {α : Type} {body : Pattern} {f : α → List Char} {P : α → Prop}
    (h : ∀ part, body.Spells part ↔ ∃ x, P x ∧ part = f x) {min : Nat} {max : Option Nat}
    {greedy : Bool} :
    (rep body min max greedy).Spells w ↔
      ∃ xs : List α, Allowed min max xs.length ∧ (∀ x ∈ xs, P x) ∧ w = xs.flatMap f := by
  constructor
  · rintro ⟨parts, hlength, hparts, rfl⟩
    have hmap : ∃ xs : List α, (∀ x ∈ xs, P x) ∧ parts = xs.map f := by
      clear hlength
      induction parts with
      | nil => exact ⟨[], List.forall_mem_nil _, rfl⟩
      | cons part parts ih =>
        obtain ⟨hpart, hrest⟩ := List.forall_mem_cons.1 hparts
        obtain ⟨x, hx, rfl⟩ := (h part).1 hpart
        obtain ⟨xs, hxs, rfl⟩ := ih hrest
        exact ⟨x :: xs, List.forall_mem_cons.2 ⟨hx, hxs⟩, rfl⟩
    obtain ⟨xs, hxs, rfl⟩ := hmap
    rw [List.length_map] at hlength
    exact ⟨xs, hlength, hxs, rfl⟩
  · rintro ⟨xs, hlength, hxs, rfl⟩
    refine ⟨xs.map f, by rwa [List.length_map], fun part hpart => ?_, rfl⟩
    obtain ⟨x, hx, rfl⟩ := List.mem_map.1 hpart
    exact (h _).2 ⟨x, hxs x hx, rfl⟩

/-- A set of characters repeated spells the texts of an allowed length over it. -/
theorem spells_rep_chars {set : CharSet} {min : Nat} {max : Option Nat} {greedy : Bool} :
    (rep (chars set) min max greedy : Pattern).Spells w ↔
      Allowed min max w.length ∧ ∀ c ∈ w, set.contains c = true := by
  rw [spells_rep fun _ => Iff.rfl]
  simp only [List.flatMap_singleton', exists_eq_right_right']

end Expr

end Regex

end Vetting
