import Vetting.Proofs.Regex.Language

/-!
# The preferred match

A pattern often matches a text in several ways, and the groups it fills depend on the way.  The
preferred one is found by a walk, which takes at every choice the branch that the pattern prefers
among those from which the target can still be reached.

`Expr.Fills` says of a way which groups it fills.  A walk that starts where the target can be
reached is such a way: it ends in the target and fills the groups of that way and no others
(`Expr.walk_arrives`).  Repetitions without an upper bound are the ones that need care.  Their
rounds are bounded by fuel, which is enough because every round after the first takes a character,
and a walk cannot get stuck between two rounds: a position from which rounds lead to the target is
in the target itself or has a round that moves on (`Round.Sound.contains_or_moves`).

For a whole search this says that there are groups exactly when the pattern matches
(`Expr.captures?_eq_none_iff`), and that they are those of a way through the text
(`Expr.exists_fills_of_captures?`).  What is preferred matters for an optional group at the start
of a text: it is filled whenever that leaves a match at all
(`Expr.captures?_afterOptionalGroup`).
-/

namespace Vetting

namespace Regex

/-- Groups that have been filled: their index, start and end, the latest first. -/
abbrev Filled : Type := List (Nat × Nat × Nat)

/-- Exactly `n` rounds of a relation that fills groups. -/
def FillingRounds (F : Nat → Nat → Filled → Prop) : Nat → Nat → Nat → Filled → Prop
  | 0, i, j, groups => i = j ∧ groups = []
  | n + 1, i, j, groups =>
    ∃ k first rest, F i k first ∧ FillingRounds F n k j rest ∧ groups = rest ++ first

namespace Expr

/-- An expression can lead from one position to another and fill groups on the way. -/
def Fills : Expr Positions Positions → Nat → Nat → Filled → Prop
  | .empty, i, j, groups => i = j ∧ groups = []
  | .chars c, i, j, groups => (c.contains i ∧ j = i + 1) ∧ groups = []
  | .look l, i, j, groups => (l.contains i ∧ i = j) ∧ groups = []
  | .seq a b, i, j, groups =>
    ∃ k first rest, a.Fills i k first ∧ b.Fills k j rest ∧ groups = rest ++ first
  | .alt a b, i, j, groups => a.Fills i j groups ∨ b.Fills i j groups
  | .rep body min max _, i, j, groups =>
    ∃ n, Allowed min max n ∧ FillingRounds body.Fills n i j groups
  | .group index body, i, j, groups =>
    ∃ inner, body.Fills i j inner ∧ groups = (index, i, j) :: inner

/-- There are no groups in an expression. -/
def isGroupFree {C L : Type} : Expr C L → Bool
  | .empty | .chars _ | .look _ => true
  | .seq a b | .alt a b => a.isGroupFree && b.isGroupFree
  | .rep body _ _ _ => body.isGroupFree
  | .group _ _ => false

theorem isGroupFree_map {C D L M : Type} (f : C → D) (g : L → M) (e : Expr C L) :
    (e.map f g).isGroupFree = e.isGroupFree := by
  induction e with
  | empty | chars _ | look _ => rfl
  | seq a b iha ihb | alt a b iha ihb => rw [map, isGroupFree, isGroupFree, iha, ihb]
  | rep body min max greedy ih => exact ih
  | group index body => rfl

end Expr

variable {R : Nat → Nat → Prop} {F : Nat → Nat → Filled → Prop} {i j k m n : Nat} {groups : Filled}

theorem rounds_of_fillingRounds (h : ∀ i j groups, F i j groups → R i j)
    (hrounds : FillingRounds F n i j groups) : Rounds R n i j := by
  induction n generalizing i groups with
  | zero => exact hrounds.1
  | succ n ih =>
    obtain ⟨k, first, rest, hfirst, hrest, -⟩ := hrounds
    exact ⟨k, h i k first hfirst, ih hrest⟩

theorem eq_nil_of_fillingRounds (h : ∀ i j groups, F i j groups → groups = [])
    (hrounds : FillingRounds F n i j groups) : groups = [] := by
  induction n generalizing i groups with
  | zero => exact hrounds.2
  | succ n ih =>
    obtain ⟨k, first, rest, hfirst, hrest, rfl⟩ := hrounds
    rw [h i k first hfirst, ih hrest, List.append_nil]

theorem fillingRounds_append {first rest : Filled} (hfirst : FillingRounds F m i k first)
    (hrest : FillingRounds F n k j rest) : FillingRounds F (m + n) i j (rest ++ first) := by
  induction m generalizing i first with
  | zero =>
    obtain ⟨rfl, rfl⟩ := hfirst
    rw [Nat.zero_add, List.append_nil]
    exact hrest
  | succ m ih =>
    obtain ⟨l, one, more, hone, hmore, rfl⟩ := hfirst
    rw [Nat.succ_add, ← List.append_assoc]
    exact ⟨l, one, rest ++ more, hone, ih hmore, rfl⟩

namespace Expr

variable {e : Expr Positions Positions}

/-- Filling groups, an expression leads where it leads without. -/
theorem leads_of_fills (h : e.Fills i j groups) : e.Leads i j := by
  induction e generalizing i j groups with
  | empty | chars _ | look _ => exact h.1
  | seq a b iha ihb =>
    obtain ⟨k, first, rest, ha, hb, -⟩ := h
    exact ⟨k, iha ha, ihb hb⟩
  | alt a b iha ihb => exact h.imp iha ihb
  | rep body min max greedy ih =>
    obtain ⟨n, hn, h⟩ := h
    exact ⟨n, hn, rounds_of_fillingRounds (fun _ _ _ => ih) h⟩
  | group index body ih =>
    obtain ⟨inner, h, -⟩ := h
    exact ih h

theorem le_of_fills (h : e.Fills i j groups) : i ≤ j := le_of_leads (leads_of_fills h)

/-- **Without groups in it, an expression fills none.** -/
theorem eq_nil_of_fills (he : e.isGroupFree = true) (h : e.Fills i j groups) : groups = [] := by
  induction e generalizing i j groups with
  | empty | chars _ | look _ => exact h.2
  | seq a b iha ihb =>
    obtain ⟨ha, hb⟩ := Bool.and_eq_true_iff.1 he
    obtain ⟨k, first, rest, hfirst, hrest, rfl⟩ := h
    rw [iha ha hfirst, ihb hb hrest, List.append_nil]
  | alt a b iha ihb =>
    obtain ⟨ha, hb⟩ := Bool.and_eq_true_iff.1 he
    exact h.elim (iha ha) (ihb hb)
  | rep body min max greedy ih =>
    obtain ⟨n, -, h⟩ := h
    exact eq_nil_of_fillingRounds (fun _ _ _ => ih he) h
  | group index body => exact nomatch he

end Expr

/-! ## Rounds of a walk -/

theorem iterate_succ (step : Positions → Positions) (n : Nat) (target : Positions) :
    iterate step (n + 1) target = step (iterate step n target) := by
  induction n generalizing target with
  | zero => rfl
  | succ n ih => rw [iterate, ih, iterate]

namespace Walk

variable {round : Round} {target : Positions} {w : Walk}

/-- A walk goes on along a way of the relation that ends in the target. -/
structure Arrives (F : Nat → Nat → Filled → Prop) (target : Positions) (w w' : Walk) : Prop where
  contains : target.contains w'.position
  fills : ∃ groups, F w.position w'.position groups ∧ w'.groups = groups ++ w.groups

theorem Arrives.mono {F' : Nat → Nat → Filled → Prop} {w' : Walk} (h : Arrives F target w w')
    (hF : ∀ i j groups, F i j groups → F' i j groups) : Arrives F' target w w' := by
  obtain ⟨hcontains, groups, hfills, hgroups⟩ := h
  exact ⟨hcontains, groups, hF _ _ _ hfills, hgroups⟩

/-- No rounds at all. -/
theorem arrives_self (h : target.contains w.position) : Arrives (FillingRounds F 0) target w w :=
  ⟨h, [], ⟨rfl, rfl⟩, rfl⟩

/-- A walk and then another one from where it arrived. -/
theorem Arrives.trans {G : Nat → Nat → Filled → Prop} {mid : Positions} {w' w'' : Walk}
    (h : Arrives F mid w w') (h' : Arrives G target w' w'') :
    Arrives (fun i j groups =>
      ∃ k first rest, F i k first ∧ G k j rest ∧ groups = rest ++ first) target w w'' := by
  obtain ⟨-, first, hfirst, hgroups⟩ := h
  obtain ⟨hcontains, rest, hrest, hgroups'⟩ := h'
  refine ⟨hcontains, rest ++ first, ⟨_, first, rest, hfirst, hrest, rfl⟩, ?_⟩
  rw [hgroups', hgroups, List.append_assoc]

/-- A round and then more of them. -/
theorem Arrives.cons {mid : Positions} {w' w'' : Walk} (h : Arrives F mid w w')
    (h' : Arrives (FillingRounds F n) target w' w'') :
    Arrives (FillingRounds F (n + 1)) target w w'' := h.trans h'

namespace Round

/-- A round walks along the ways of a relation, wherever it may start. -/
structure Sound (round : Round) (R : Nat → Nat → Prop) (F : Nat → Nat → Filled → Prop) : Prop where
  steps : Steps round.before R
  le : ∀ i j, R i j → i ≤ j
  arrives : ∀ target w, (round.before target).contains w.position →
    Arrives F target w (round.walk target w)

theorem Sound.exactly (h : round.Sound R F)
    (hw : (iterate round.before n target).contains w.position) :
    Arrives (FillingRounds F n) target w (exactly round target n w) := by
  induction n generalizing w with
  | zero => exact arrives_self hw
  | succ n ih =>
    rw [iterate_succ] at hw
    have hfirst := h.arrives _ w hw
    exact hfirst.cons (ih hfirst.contains)

theorem Sound.upTo (h : round.Sound R F) (greedy : Bool)
    (hw : (withinSteps round.before target n).contains w.position) :
    Arrives (fun i j groups => ∃ m ≤ n, FillingRounds F m i j groups) target w
      (upTo round greedy target n w) := by
  induction n generalizing w with
  | zero => exact (arrives_self hw).mono fun i j groups hrounds => ⟨0, Nat.le_refl 0, hrounds⟩
  | succ n ih =>
    rw [Walk.upTo]
    split
    · rename_i hgo
      have hfirst := h.arrives _ w (Bool.and_eq_true_iff.1 hgo).2
      obtain ⟨hcontains, rest, ⟨m, hm, hrest⟩, hgroups⟩ := ih hfirst.contains
      refine (hfirst.cons ⟨hcontains, rest, hrest, hgroups⟩).mono fun i j groups hrounds => ?_
      exact ⟨m + 1, Nat.succ_le_succ hm, hrounds⟩
    · rename_i hstay
      have hstop : target.contains w.position := by
        rcases Positions.contains_or.1 hw with hstop | hgo
        · exact hstop
        · rw [hgo, Bool.and_true, Bool.or_eq_true, not_or, Bool.not_eq_true',
            Bool.not_eq_false] at hstay
          exact hstay.2
      exact (arrives_self hstop).mono fun i j groups hrounds => ⟨0, Nat.zero_le _, hrounds⟩

/-- **A position from which rounds lead to the target is in the target, or a round leads on from
it to a later such position.** -/
theorem Sound.contains_or_moves (h : round.Sound R F)
    (hi : (anySteps round.before target).contains i) :
    target.contains i ∨
      (round.before ((anySteps round.before target).beyond i)).contains i := by
  obtain ⟨j, ⟨n, hrounds⟩, hj⟩ := (h.steps.anySteps h.le target i).1 hi
  induction n with
  | zero => exact Or.inl ((hrounds : i = j) ▸ hj)
  | succ n ih =>
    obtain ⟨k, hik, hkj⟩ := hrounds
    rcases Nat.eq_or_lt_of_le (h.le i k hik) with rfl | hlt
    · exact ih hkj
    · refine Or.inr ((h.steps _ i).2 ⟨k, hik, ?_⟩)
      rw [Positions.contains_beyond]
      exact ⟨(h.steps.anySteps h.le target k).2 ⟨j, ⟨n, hkj⟩, hj⟩, hlt⟩

theorem Sound.further (h : round.Sound R F) (greedy : Bool) (fuel : Nat)
    (hw : (anySteps round.before target).contains w.position)
    (hfuel : (anySteps round.before target).log2 < w.position + fuel) :
    Arrives (fun i j groups => ∃ n, FillingRounds F n i j groups) target w
      (further round greedy target (anySteps round.before target) fuel w) := by
  induction fuel generalizing w with
  | zero => exact absurd (Positions.le_log2_of_contains hw) (Nat.not_le_of_lt hfuel)
  | succ fuel ih =>
    rw [Walk.further]
    split
    · rename_i hgo
      have hfirst := h.arrives _ w (Bool.and_eq_true_iff.1 hgo).2
      obtain ⟨hopened, hlater⟩ := Positions.contains_beyond.1 hfirst.contains
      obtain ⟨hcontains, rest, ⟨m, hrest⟩, hgroups⟩ := ih hopened (by omega)
      refine (hfirst.cons ⟨hcontains, rest, hrest, hgroups⟩).mono fun i j groups hrounds => ?_
      exact ⟨m + 1, hrounds⟩
    · rename_i hstay
      have hstop : target.contains w.position := by
        rcases h.contains_or_moves hw with hstop | hgo
        · exact hstop
        · rw [hgo, Bool.and_true, Bool.or_eq_true, not_or, Bool.not_eq_true',
            Bool.not_eq_false] at hstay
          exact hstay.2
      exact (arrives_self hstop).mono fun i j groups hrounds => ⟨0, hrounds⟩

theorem Sound.atLeastOne (h : round.Sound R F) (greedy : Bool)
    (hw : (round.before (anySteps round.before target)).contains w.position) :
    Arrives (fun i j groups => ∃ n, FillingRounds F (n + 1) i j groups) target w
      (atLeastOne round greedy target w) := by
  -- a first round that stays where it is has to do, and otherwise it moves on
  have hnext : (round.before ((anySteps round.before target).beyond w.position |||
      (target &&& Positions.single w.position))).contains w.position := by
    obtain ⟨k, hk, hopened⟩ := (h.steps _ _).1 hw
    rcases Nat.eq_or_lt_of_le (h.le _ k hk) with heq | hlt
    · subst heq
      rcases h.contains_or_moves hopened with hstop | hgo
      · refine (h.steps _ _).2 ⟨_, hk, Positions.contains_or.2 (Or.inr ?_)⟩
        exact Positions.contains_and.2 ⟨hstop, Positions.contains_single.2 rfl⟩
      · obtain ⟨l, hl, hbeyond⟩ := (h.steps _ _).1 hgo
        exact (h.steps _ _).2 ⟨l, hl, Positions.contains_or.2 (Or.inl hbeyond)⟩
    · refine (h.steps _ _).2 ⟨k, hk, Positions.contains_or.2 (Or.inl ?_)⟩
      exact Positions.contains_beyond.2 ⟨hopened, hlt⟩
  have hfirst := h.arrives _ w hnext
  rw [Walk.atLeastOne]
  split
  · rename_i hstays
    have hstop : target.contains (round.walk ((anySteps round.before target).beyond w.position |||
        (target &&& Positions.single w.position)) w).position := by
      rcases Positions.contains_or.1 hfirst.contains with hbeyond | hsame
      · have hlater := (Positions.contains_beyond.1 hbeyond).2
        rw [hstays] at hlater
        exact absurd hlater (Nat.lt_irrefl _)
      · exact (Positions.contains_and.1 hsame).1
    exact (hfirst.cons (arrives_self hstop)).mono fun i j groups hrounds => ⟨0, hrounds⟩
  · rename_i hmoves
    have hopened : (anySteps round.before target).contains (round.walk
        ((anySteps round.before target).beyond w.position |||
          (target &&& Positions.single w.position)) w).position := by
      rcases Positions.contains_or.1 hfirst.contains with hbeyond | hsame
      · exact (Positions.contains_beyond.1 hbeyond).1
      · exact absurd (Positions.contains_single.1 (Positions.contains_and.1 hsame).2) hmoves
    obtain ⟨hcontains, rest, ⟨m, hrest⟩, hgroups⟩ :=
      h.further greedy ((anySteps round.before target).log2 + 1) hopened (by omega)
    refine (hfirst.cons ⟨hcontains, rest, hrest, hgroups⟩).mono fun i j groups hrounds => ?_
    exact ⟨m, hrounds⟩

theorem Sound.anyNumber (h : round.Sound R F) (greedy : Bool)
    (hw : (anySteps round.before target).contains w.position) :
    Arrives (fun i j groups => ∃ n, FillingRounds F n i j groups) target w
      (anyNumber round greedy target w) := by
  rw [Walk.anyNumber]
  split
  · rename_i hgo
    refine (h.atLeastOne greedy (Bool.and_eq_true_iff.1 hgo).2).mono fun i j groups hrounds => ?_
    obtain ⟨n, hrounds⟩ := hrounds
    exact ⟨n + 1, hrounds⟩
  · rename_i hstay
    have hstop : target.contains w.position := by
      rcases h.contains_or_moves hw with hstop | hmoves
      · exact hstop
      · obtain ⟨k, hk, hbeyond⟩ := (h.steps _ _).1 hmoves
        have hgo := (h.steps _ _).2 ⟨k, hk, (Positions.contains_beyond.1 hbeyond).1⟩
        rw [hgo, Bool.and_true, Bool.or_eq_true, not_or, Bool.not_eq_true',
          Bool.not_eq_false] at hstay
        exact hstay.2
    exact (arrives_self hstop).mono fun i j groups hrounds => ⟨0, hrounds⟩

end Round

end Walk

namespace Expr

/-! ## The walk through an expression -/

/-- **A walk that starts where the target can be reached is a way that ends in it, and it fills the
groups of that way.** -/
theorem walk_arrives (e : Expr Positions Positions) (target : Positions) (w : Walk)
    (hw : (e.before target).contains w.position) :
    Walk.Arrives e.Fills target w (e.walk target w) := by
  induction e generalizing target w with
  | empty => exact ⟨hw, [], ⟨rfl, rfl⟩, rfl⟩
  | chars c =>
    obtain ⟨hnext, hc⟩ := Positions.contains_and.1 hw
    exact ⟨Positions.contains_back.1 hnext, [], ⟨⟨hc, rfl⟩, rfl⟩, rfl⟩
  | look l =>
    obtain ⟨hstop, hl⟩ := Positions.contains_and.1 hw
    exact ⟨hstop, [], ⟨⟨hl, rfl⟩, rfl⟩, rfl⟩
  | seq a b iha ihb =>
    have hfirst := iha _ w hw
    exact hfirst.trans (ihb target _ hfirst.contains)
  | alt a b iha ihb =>
    rw [walk]
    split
    · rename_i ha
      exact (iha target w ha).mono fun i j groups h => Or.inl h
    · rename_i ha
      have hb := (Positions.contains_or.1 hw).resolve_left ha
      exact (ihb target w hb).mono fun i j groups h => Or.inr h
  | rep body min max greedy ih =>
    have hround : Walk.Round.Sound ⟨body.before, fun t w => body.walk t w⟩ body.Leads body.Fills :=
      ⟨contains_before body, fun _ _ => le_of_leads, ih⟩
    cases max with
    | none =>
      cases min with
      | zero =>
        refine (hround.anyNumber greedy hw).mono fun i j groups h => ?_
        obtain ⟨n, h⟩ := h
        exact ⟨n, ⟨Nat.zero_le n, fun _ hm => nomatch hm⟩, h⟩
      | succ more =>
        rw [before, iterate] at hw
        have hfirst := hround.exactly hw
        have hrest := hround.atLeastOne greedy hfirst.contains
        refine (hfirst.trans hrest).mono fun i j groups h => ?_
        obtain ⟨k, first, rest, hfirst, ⟨n, hrest⟩, rfl⟩ := h
        refine ⟨more + (n + 1), ⟨?_, fun _ hm => nomatch hm⟩, fillingRounds_append hfirst hrest⟩
        exact Nat.add_le_add_left (Nat.le_add_left 1 n) more
    | some bound =>
      have hfirst := hround.exactly hw
      have hrest := hround.upTo greedy hfirst.contains
      refine (hfirst.trans hrest).mono fun i j groups h => ?_
      obtain ⟨k, first, rest, hfirst, ⟨n, hn, hrest⟩, rfl⟩ := h
      refine ⟨min + n, ⟨Nat.le_add_right min n, ?_⟩, fillingRounds_append hfirst hrest⟩
      rintro _ ⟨⟩
      rwa [Nat.add_sub_cancel_left]
  | group index body ih =>
    obtain ⟨hstop, inner, hinner, hgroups⟩ := ih target w hw
    refine ⟨hstop, (index, w.position, (body.walk target w).position) :: inner,
      ⟨inner, hinner, rfl⟩, ?_⟩
    rw [walk, hgroups]
    rfl

/-- Without groups in it, an expression leaves those that have been filled. -/
theorem groups_walk_of_isGroupFree {e : Expr Positions Positions} {target : Positions} {w : Walk}
    (he : e.isGroupFree = true) (hw : (e.before target).contains w.position) :
    (e.walk target w).groups = w.groups := by
  obtain ⟨-, filled, hfills, hgroups⟩ := walk_arrives e target w hw
  rw [hgroups, eq_nil_of_fills he hfills, List.nil_append]

/-! ## The groups of a search -/

variable {e a b : Pattern} {s : String} {cs : List Char} {index : Nat}

theorem captures?_eq_none_iff : e.captures? s = none ↔ e.isMatch s = false := by
  have hmatch : e.isMatch s = false ↔
      ¬ ∃ i, ((e.on s.toList).before (.upTo s.toList.length)).contains i := by
    rw [isMatch, bne_eq_false_iff_eq, ← Positions.ne_zero_iff, not_not]
  rw [captures?, Option.map_eq_none_iff, Positions.leastFrom_eq_none_iff, hmatch, not_exists]
  constructor
  · intro h i hi
    obtain ⟨j, hleads, hj⟩ := (contains_before _ _ _).1 hi
    have hle : i ≤ s.toList.length :=
      Nat.le_trans (le_of_leads hleads) (Positions.contains_upTo.1 hj)
    exact h i (Nat.zero_le i) (by omega) hi
  · exact fun h i _ _ => h i

/-- **The groups of a search are those of a way through the text.** -/
theorem exists_fills_of_captures? (h : e.captures? s = some groups) :
    ∃ i j, j ≤ s.toList.length ∧ (e.on s.toList).Fills i j groups := by
  obtain ⟨start, hstart, rfl⟩ := Option.map_eq_some_iff.1 h
  obtain ⟨hstop, filled, hfills, hgroups⟩ := walk_arrives (e.on s.toList) _ ⟨start, []⟩
    (Positions.contains_of_leastFrom hstart)
  refine ⟨start, _, Positions.contains_upTo.1 hstop, ?_⟩
  rw [hgroups, List.append_nil]
  exact hfills

/-- A placed pattern without assertions leads over the stretches that it spells. -/
theorem leads_on_iff_spells (he : e.isLookFree = true) (hj : j ≤ cs.length) :
    (e.on cs).Leads i j ↔ i ≤ j ∧ e.Spells (cs.extract i j) := by
  rw [leads_on_iff e hj, Between]
  simp only [matches_iff_spells he]
  constructor
  · rintro ⟨before, w, after, rfl, rfl, rfl, h⟩
    refine ⟨Nat.le_add_right _ _, ?_⟩
    rwa [List.extract_eq_take_drop, List.drop_left, Nat.add_sub_cancel_left, List.take_left]
  · rintro ⟨hij, h⟩
    refine ⟨cs.take i, cs.extract i j, cs.drop j, ?_, List.length_take_of_le (Nat.le_trans hij hj),
      ?_, h⟩
    · have hrest : cs.drop j = (cs.drop i).drop (j - i) := by
        rw [List.drop_drop, Nat.add_sub_cancel' hij]
      rw [List.extract_eq_take_drop, hrest, List.take_append_drop, List.take_append_drop]
    · rw [List.extract_eq_take_drop, List.length_take_of_le, Nat.add_sub_cancel' hij]
      rw [List.length_drop]
      exact Nat.sub_le_sub_right hj i

/-- A pattern spells the start of a text. -/
def SpellsStart (e : Pattern) (text : List Char) : Prop := ∃ w, e.Spells w ∧ w <+: text

theorem spellsStart_seq_iff {text : List Char} :
    (seq a b).SpellsStart text ↔ ∃ w rest, text = w ++ rest ∧ a.Spells w ∧ b.SpellsStart rest := by
  constructor
  · rintro ⟨_, ⟨w, v, rfl, ha, hb⟩, more, rfl⟩
    exact ⟨w, v ++ more, List.append_assoc w v more, ha, v, hb, List.prefix_append v more⟩
  · rintro ⟨w, _, rfl, ha, v, hb, more, rfl⟩
    exact ⟨w ++ v, ⟨w, v, rfl, ha, hb⟩, more, List.append_assoc w v more⟩

theorem contains_before_zero_iff (he : e.isLookFree = true) :
    ((e.on cs).before (.upTo cs.length)).contains 0 ↔ e.SpellsStart cs := by
  rw [contains_before]
  constructor
  · rintro ⟨j, hleads, hj⟩
    have hspells := ((leads_on_iff_spells he (Positions.contains_upTo.1 hj)).1 hleads).2
    exact ⟨_, hspells, List.take_prefix _ _⟩
  · rintro ⟨w, hw, hstart⟩
    refine ⟨w.length, ?_, Positions.contains_upTo.2 hstart.length_le⟩
    refine (leads_on_iff_spells he hstart.length_le).2 ⟨Nat.zero_le _, ?_⟩
    rwa [List.extract_eq_take_drop, List.drop_zero, Nat.sub_zero,
      ← List.prefix_iff_eq_take.1 hstart]

/-! ## An optional group at the start -/

/-- A group that may be left out at the start of a text, and what comes behind it. -/
def afterOptionalGroup (index : Nat) (a b : Pattern) : Pattern :=
  seqAll [.look .textStart, opt (.group index a), b]

theorem eq_zero_of_contains_textStart (h : (lookPositions cs .textStart).contains i)
    (hi : i ≤ cs.length) : i = 0 := by
  have hnone := Option.isNone_iff_eq_none.1 ((contains_lookPositions hi).1 h)
  have hlength := List.length_take_of_le hi
  rw [List.getLast?_eq_none_iff.1 hnone] at hlength
  exact hlength.symm

/-- From the start of a text the group is taken or not, and from elsewhere there is no way. -/
theorem contains_before_afterOptionalGroup (ha : a.isLookFree = true) (hb : b.isLookFree = true) :
    (((afterOptionalGroup index a b).on cs).before (.upTo cs.length)).contains i ↔
      i = 0 ∧ ((seq a b).SpellsStart cs ∨ b.SpellsStart cs) := by
  have hab : (seq a b).isLookFree = true := Bool.and_eq_true_iff.2 ⟨ha, hb⟩
  rw [← contains_before_zero_iff hab, ← contains_before_zero_iff hb, or_comm]
  constructor
  · intro h
    obtain ⟨j, hleads, hj⟩ := (contains_before _ _ _).1 h
    have hi : i ≤ cs.length := Nat.le_trans (le_of_leads hleads) (Positions.contains_upTo.1 hj)
    obtain ⟨hrest, hstart⟩ := Positions.contains_and.1 h
    obtain rfl := eq_zero_of_contains_textStart hstart hi
    exact ⟨rfl, Positions.contains_or.1 hrest⟩
  · rintro ⟨rfl, h⟩
    exact Positions.contains_and.2 ⟨Positions.contains_or.2 h,
      (contains_lookPositions (Nat.zero_le _)).2 rfl⟩

theorem isMatch_afterOptionalGroup_iff (ha : a.isLookFree = true) (hb : b.isLookFree = true) :
    (afterOptionalGroup index a b).isMatch s = true ↔
      (seq a b).SpellsStart s.toList ∨ b.SpellsStart s.toList := by
  rw [isMatch, bne_iff_ne, Positions.ne_zero_iff]
  simp only [contains_before_afterOptionalGroup ha hb, exists_eq_left]

/-- **An optional group at the start of a text is filled whenever that leaves a match.** -/
theorem captures?_afterOptionalGroup (ha : a.isLookFree = true) (hb : b.isLookFree = true)
    (hfree : b.isGroupFree = true) (h : (afterOptionalGroup index a b).captures? s = some groups) :
    (groups.any fun g => g.1 = index) = true ↔ (seq a b).SpellsStart s.toList := by
  obtain ⟨start, hstart, rfl⟩ := Option.map_eq_some_iff.1 h
  obtain ⟨rfl, hspells⟩ :=
    (contains_before_afterOptionalGroup ha hb).1 (Positions.contains_of_leastFrom hstart)
  have hab : (seq a b).isLookFree = true := Bool.and_eq_true_iff.2 ⟨ha, hb⟩
  have hbFree : (b.on s.toList).isGroupFree = true := (isGroupFree_map _ _ b).trans hfree
  -- the optional group is taken whenever the target can be reached with it
  have hwalk : ((afterOptionalGroup index a b).on s.toList).walk (.upTo s.toList.length) ⟨0, []⟩ =
      (b.on s.toList).walk (.upTo s.toList.length)
        (if ((seq a b).on s.toList |>.before (.upTo s.toList.length)).contains 0
          then ((group index a : Pattern).on s.toList).walk
            ((b.on s.toList).before (.upTo s.toList.length)) ⟨0, []⟩
          else ⟨0, []⟩) := rfl
  rw [hwalk]
  split
  · rename_i htaken
    have hgroup : (((group index a : Pattern).on s.toList).walk
        ((b.on s.toList).before (.upTo s.toList.length)) ⟨0, []⟩).groups.any
          (fun g => g.1 = index) = true := by
      rw [on, map, walk, List.any_cons, decide_eq_true rfl, Bool.true_or]
    have harrives := walk_arrives ((group index a : Pattern).on s.toList)
      ((b.on s.toList).before (.upTo s.toList.length)) ⟨0, []⟩ htaken
    rw [groups_walk_of_isGroupFree hbFree harrives.contains]
    exact iff_of_true hgroup ((contains_before_zero_iff hab).1 htaken)
  · rename_i hleft
    have hnone : ¬ (seq a b).SpellsStart s.toList := fun h =>
      hleft ((contains_before_zero_iff hab).2 h)
    rw [groups_walk_of_isGroupFree hbFree
      ((contains_before_zero_iff hb).2 (hspells.resolve_left hnone))]
    exact iff_of_false Bool.false_ne_true hnone

end Expr

end Regex

end Vetting
