import Vetting.Proofs.Check.Address
import Vetting.Proofs.Validator.Verdict
import Vetting.Validator.Builtin

/-!
# The texts that pass for internet addresses

The patterns behind the `ip` check are long, but the texts that they let through are not hard to
say.  An address of the fourth version is four numbers up to 255 with full stops between them
(`ipv4_isMatch_iff`), since the three forms of an octet cover the numbers of at most three digits
(`spells_octet`).

The pattern for the sixth version is looked for anywhere, and so most of its forms are superfluous:
a form that leaves out a run of zeros has two colons in a row where the halves meet
(`doubleColon_of_meet`), and two colons in a row are a form of their own.  Apart from those there
are the eight groups of a full address, and a link address with its zone right behind the prefix
(`ipv6_isMatch_iff`).
-/

namespace Vetting

namespace Address

open Regex Regex.Expr

variable {a b c first last : Char} {w : List Char} {s : String}

/-! ## Four numbers -/

/-- One to three ASCII digits that spell a number up to 255, with leading zeros or without. -/
structure IsOctet (w : List Char) : Prop where
  length_pos : 1 ≤ w.length
  length_le : w.length ≤ 3
  isDigit : ∀ c ∈ w, c.isDigit = true
  number_le : Nat.ofDigitChars 10 w 0 ≤ 255

/-- Four octets with full stops between them. -/
def IsDottedQuad (w : List Char) : Prop :=
  ∃ octets, octets.length = 4 ∧ (∀ octet ∈ octets, IsOctet octet) ∧ w = ['.'].intercalate octets

theorem IsOctet.one (hc : 48 ≤ c.toNat ∧ c.toNat ≤ 57) : IsOctet [c] := by
  refine ⟨Nat.le_of_ble_eq_true rfl, Nat.le_of_ble_eq_true rfl, ?_, ?_⟩
  · simpa [isDigit_iff] using hc
  · simp only [Nat.ofDigitChars_cons, Nat.ofDigitChars_nil, Char.reduceToNat]
    omega

theorem IsOctet.two (hb : 48 ≤ b.toNat ∧ b.toNat ≤ 57) (hc : 48 ≤ c.toNat ∧ c.toNat ≤ 57) :
    IsOctet [b, c] := by
  refine ⟨Nat.le_of_ble_eq_true rfl, Nat.le_of_ble_eq_true rfl, ?_, ?_⟩
  · simpa [isDigit_iff] using ⟨hb, hc⟩
  · simp only [Nat.ofDigitChars_cons, Nat.ofDigitChars_nil, Char.reduceToNat]
    omega

theorem number_three (a b c : Char) : Nat.ofDigitChars 10 [a, b, c] 0 =
    100 * (a.toNat - 48) + 10 * (b.toNat - 48) + (c.toNat - 48) := by
  simp only [Nat.ofDigitChars_cons, Nat.ofDigitChars_nil, Char.reduceToNat]
  omega

theorem IsOctet.three (ha : 48 ≤ a.toNat ∧ a.toNat ≤ 57) (hb : 48 ≤ b.toNat ∧ b.toNat ≤ 57)
    (hc : 48 ≤ c.toNat ∧ c.toNat ≤ 57)
    (hle : 100 * (a.toNat - 48) + 10 * (b.toNat - 48) + (c.toNat - 48) ≤ 255) :
    IsOctet [a, b, c] := by
  refine ⟨Nat.le_of_ble_eq_true rfl, Nat.le_refl _, ?_, by rwa [number_three]⟩
  simpa [isDigit_iff] using ⟨ha, hb, hc⟩

/-- **The three forms of an octet cover the numbers of one to three digits up to 255.** -/
theorem spells_octet : octet.Spells w ↔ IsOctet w := by
  simp only [octet, altAll, seqAll, Spells, spells_opt, spells_digits, spells_char, spells_literal,
    Char.reduceToNat]
  constructor
  · rintro (⟨_, _, rfl, rfl, c, hc, rfl⟩ | ⟨_, _, rfl, rfl, _, _, rfl, ⟨b, hb, rfl⟩, c, hc, rfl⟩ |
      ⟨_, _, rfl, rfl | ⟨a, ha, rfl⟩, _, _, rfl, ⟨b, hb, rfl⟩, rfl | ⟨c, hc, rfl⟩⟩)
    · have hle : 100 * ('2'.toNat - 48) + 10 * ('5'.toNat - 48) + (c.toNat - 48) ≤ 255 := by
        simp only [Char.reduceToNat]
        omega
      exact .three (by decide) (by decide) (by omega) hle
    · have hle : 100 * ('2'.toNat - 48) + 10 * (b.toNat - 48) + (c.toNat - 48) ≤ 255 := by
        simp only [Char.reduceToNat]
        omega
      exact .three (by decide) (by omega) (by omega) hle
    · exact .one hb
    · exact .two hb hc
    · exact .two (by omega) hb
    · exact .three (by omega) (by omega) (by omega) (by omega)
  · rintro ⟨hpos, hle, hdigit, hnumber⟩
    simp only [isDigit_iff] at hdigit
    -- there are one, two or three digits
    rcases w with _ | ⟨a, _ | ⟨b, _ | ⟨c, _ | ⟨d, rest⟩⟩⟩⟩
    · exact absurd hpos (by decide)
    · exact Or.inr (Or.inr ⟨[], [a], rfl, Or.inl rfl, [a], [], rfl, ⟨a, hdigit a (by simp), rfl⟩,
        Or.inl rfl⟩)
    · exact Or.inr (Or.inr ⟨[], [a, b], rfl, Or.inl rfl, [a], [b], rfl,
        ⟨a, hdigit a (by simp), rfl⟩, Or.inr ⟨b, hdigit b (by simp), rfl⟩⟩)
    · rw [number_three] at hnumber
      have ha := hdigit a (by simp)
      have hb := hdigit b (by simp)
      have hc := hdigit c (by simp)
      -- the forms go by the hundreds and, of 200 and more, by the tens
      have hcases : a.toNat ≤ 49 ∨ (a.toNat = 50 ∧ b.toNat ≤ 52) ∨
          (a.toNat = 50 ∧ b.toNat = 53 ∧ c.toNat ≤ 53) := by omega
      rcases hcases with ha' | ⟨ha', hb'⟩ | ⟨ha', hb', hc'⟩
      · exact Or.inr (Or.inr ⟨[a], [b, c], rfl, Or.inr ⟨a, ⟨ha.1, ha'⟩, rfl⟩, [b], [c], rfl,
          ⟨b, hb, rfl⟩, Or.inr ⟨c, hc, rfl⟩⟩)
      · obtain rfl : a = '2' := Char.toNat_inj.1 ha'
        exact Or.inr (Or.inl ⟨['2'], [b, c], rfl, rfl, [b], [c], rfl, ⟨b, ⟨hb.1, hb'⟩, rfl⟩,
          c, hc, rfl⟩)
      · obtain rfl : a = '2' := Char.toNat_inj.1 ha'
        obtain rfl : b = '5' := Char.toNat_inj.1 hb'
        exact Or.inl ⟨['2', '5'], [c], rfl, rfl, c, ⟨hc.1, hc'⟩, rfl⟩
    · simp only [List.length_cons] at hle
      omega

theorem ipv4_isMatch_iff : ipv4.isMatch s = true ↔ IsDottedQuad s.toList := by
  have hanchored : ipv4 = seqAll (.look .textStart ::
      ([octet, char '.', octet, char '.', octet, char '.', octet] ++ [.look .textEnd])) := rfl
  rw [hanchored, isMatch_anchored_iff (by decide)]
  simp only [seqAll, Spells, spells_octet, spells_char]
  constructor
  · rintro ⟨a, _, hs, ha, _, _, rfl, rfl, b, _, rfl, hb, _, _, rfl, rfl, c, _, rfl, hc, _, d, rfl,
      rfl, hd⟩
    exact ⟨[a, b, c, d], rfl, by simpa using ⟨ha, hb, hc, hd⟩, by simpa [List.intercalate] using hs⟩
  · rintro ⟨octets, hlength, hoctets, hs⟩
    match octets, hlength, hoctets with
    | [a, b, c, d], _, hoctets =>
      obtain ⟨ha, hb, hc, hd⟩ : IsOctet a ∧ IsOctet b ∧ IsOctet c ∧ IsOctet d := by
        simpa using hoctets
      exact ⟨a, _, by simpa [List.intercalate] using hs, ha, _, _, rfl, rfl, b, _, rfl, hb, _, _,
        rfl, rfl, c, _, rfl, hc, _, d, rfl, rfl, hd⟩

/-! ## Two colons in a row -/

/-- A pattern spells texts only that have two colons in a row. -/
def DoubleColon (e : Pattern) : Prop := ∀ w, e.Spells w → "::".toList <:+: w

/-- A pattern spells texts only that start with a colon. -/
def ColonFirst (e : Pattern) : Prop := ∀ w, e.Spells w → [':'] <+: w

/-- A pattern spells texts only that end with a colon. -/
def ColonLast (e : Pattern) : Prop := ∀ w, e.Spells w → [':'] <:+ w

section

variable {d e : Pattern} {min : Nat} {max : Option Nat} {greedy : Bool}

theorem colonFirst_char : ColonFirst (char ':') := fun _ h =>
  spells_char.1 h ▸ List.prefix_rfl

theorem colonLast_char : ColonLast (char ':') := fun _ h => spells_char.1 h ▸ List.suffix_rfl

theorem ColonFirst.seq (hd : ColonFirst d) : ColonFirst (.seq d e) := by
  rintro _ ⟨u, v, rfl, hu, -⟩
  exact (hd u hu).trans (List.prefix_append u v)

theorem ColonLast.seq (he : ColonLast e) : ColonLast (.seq d e) := by
  rintro _ ⟨u, v, rfl, -, hv⟩
  exact (he v hv).trans (List.suffix_append u v)

theorem ColonFirst.alt (hd : ColonFirst d) (he : ColonFirst e) : ColonFirst (.alt d e) :=
  fun w h => h.elim (hd w) (he w)

theorem ColonFirst.rep (he : ColonFirst e) (hmin : 1 ≤ min) :
    ColonFirst (.rep e min max greedy) := by
  rintro _ ⟨parts, hallowed, hparts, rfl⟩
  match parts, Nat.le_trans hmin hallowed.1 with
  | part :: parts, _ =>
    exact (he part (hparts part List.mem_cons_self)).trans (List.prefix_append part parts.flatten)

theorem ColonLast.rep (he : ColonLast e) (hmin : 1 ≤ min) : ColonLast (.rep e min max greedy) := by
  rintro _ ⟨parts, hallowed, hparts, rfl⟩
  have hne : parts ≠ [] := List.ne_nil_of_length_pos (Nat.le_trans hmin hallowed.1)
  have hlast := he _ (hparts _ (List.getLast_mem hne))
  rw [← List.dropLast_append_getLast hne, List.flatten_append, List.flatten_singleton]
  exact hlast.trans (List.suffix_append _ _)

/-- **Two colons in a row stand where a text that ends with a colon meets one that starts with a
colon.** -/
theorem infix_append_of_meet {u v : List Char} (hu : [':'] <:+ u) (hv : [':'] <+: v) :
    "::".toList <:+: u ++ v := by
  obtain ⟨before, rfl⟩ := hu
  obtain ⟨after, rfl⟩ := hv
  have hcolons : "::".toList = [':'] ++ [':'] := rfl
  exact ⟨before, after, by rw [hcolons]; simp only [List.append_assoc]⟩

theorem doubleColon_of_meet (hd : ColonLast d) (he : ColonFirst e) : DoubleColon (.seq d e) := by
  rintro _ ⟨u, v, rfl, hu, hv⟩
  exact infix_append_of_meet (hd u hu) (he v hv)

theorem doubleColon_literal : DoubleColon (literal "::") := fun _ h =>
  spells_literal.1 h ▸ List.infix_rfl

theorem DoubleColon.seq (hd : DoubleColon d) : DoubleColon (.seq d e) := by
  rintro _ ⟨u, v, rfl, hu, -⟩
  exact (hd u hu).trans (List.prefix_append u v).isInfix

end

theorem colonLast_hextetColons {max : Nat} : ColonLast (times hextetColon 1 max) :=
  colonLast_char.seq.rep (Nat.le_refl 1)

theorem colonFirst_colonHextets {max : Nat} : ColonFirst (times colonHextet 1 max) :=
  colonFirst_char.seq.rep (Nat.le_refl 1)

/-! ## Eight groups -/

/-- An ASCII digit or a letter up to `f`. -/
def IsHexDigit (c : Char) : Prop :=
  c.isDigit = true ∨ ('a' ≤ c ∧ c ≤ 'f') ∨ ('A' ≤ c ∧ c ≤ 'F')

/-- One to four hexadecimal digits. -/
structure IsHextet (w : List Char) : Prop where
  length_pos : 1 ≤ w.length
  length_le : w.length ≤ 4
  isHexDigit : ∀ c ∈ w, IsHexDigit c

/-- Eight hextets with single colons between them. -/
def IsFullAddress (w : List Char) : Prop :=
  ∃ hextets, hextets.length = 8 ∧ (∀ hextet ∈ hextets, IsHextet hextet) ∧
    w = [':'].intercalate hextets

theorem contains_hexDigits :
    (CharSet.ranges [(0x30, 0x39), (0x61, 0x66), (0x41, 0x46)]).contains c = true ↔
      IsHexDigit c := by
  simp only [contains_ranges_cons, contains_ranges_nil, Bool.false_eq_true, or_false, IsHexDigit,
    isDigit_iff]
  rfl

theorem spells_hextet : hextet.Spells w ↔ IsHextet w := by
  rw [hextet, times, hexDigit, spells_rep_chars, allowed_some (by decide)]
  simp only [contains_hexDigits]
  constructor
  · rintro ⟨⟨hpos, hle⟩, hdigits⟩
    exact ⟨hpos, hle, hdigits⟩
  · rintro ⟨hpos, hle, hdigits⟩
    exact ⟨⟨hpos, hle⟩, hdigits⟩

theorem spells_hextetColon {part : List Char} :
    hextetColon.Spells part ↔ ∃ hextet, IsHextet hextet ∧ part = hextet ++ [':'] := by
  constructor
  · rintro ⟨u, v, rfl, hu, hv⟩
    exact ⟨u, spells_hextet.1 hu, by rw [spells_char.1 hv]⟩
  · rintro ⟨u, hu, rfl⟩
    exact ⟨u, [':'], rfl, spells_hextet.2 hu, spells_char.2 rfl⟩

theorem spells_eightHextets :
    (seq (times hextetColon 7 7) hextet : Pattern).Spells w ↔ IsFullAddress w := by
  constructor
  · rintro ⟨_, last, rfl, hu, hlast⟩
    obtain ⟨hextets, hlength, hhextets, rfl⟩ := (spells_rep fun _ => spells_hextetColon).1 hu
    have hseven := (allowed_some (Nat.le_refl 7)).1 hlength
    refine ⟨hextets ++ [last], ?_, ?_, (intercalate_concat ':' hextets last).symm⟩
    · rw [List.length_append, List.length_singleton]
      omega
    · exact List.forall_mem_append.2 ⟨hhextets, List.forall_mem_singleton.2 (spells_hextet.1 hlast)⟩
  · rintro ⟨hextets, hlength, hhextets, rfl⟩
    have hne : hextets ≠ [] := List.ne_nil_of_length_pos (by omega)
    rw [← List.dropLast_append_getLast hne, intercalate_concat]
    refine ⟨_, _, rfl, (spells_rep fun _ => spells_hextetColon).2 ⟨_, ?_, ?_, rfl⟩, ?_⟩
    · rw [List.length_dropLast, hlength]
      exact (allowed_some (Nat.le_refl 7)).2 ⟨Nat.le_refl 7, Nat.le_refl 7⟩
    · exact fun hextet h => hhextets hextet (List.dropLast_subset _ h)
    · exact spells_hextet.2 (hhextets _ (List.getLast_mem hne))

/-! ## Links -/

/-- The prefix of a link address and the first character of its zone. -/
def IsZonedLink (w : List Char) : Prop :=
  ∃ c : Char, c.isAlphanum = true ∧ w = "fe80:%".toList ++ [c]

/-- The form of a link address with a zone. -/
def zonedLink : Pattern :=
  seqAll [literal "fe80:", times (.seq (char ':') (times hexDigit 0 4)) 0 4, char '%',
    plus (.chars (.ranges [(0x30, 0x39), (0x61, 0x7a), (0x41, 0x5a)]))]

theorem contains_zoneChars :
    (CharSet.ranges [(0x30, 0x39), (0x61, 0x7a), (0x41, 0x5a)]).contains c = true ↔
      c.isAlphanum = true := by
  simp only [contains_ranges_cons, contains_ranges_nil, Bool.false_eq_true, or_false,
    isAlphanum_iff]
  omega

/-- A link address has two colons in a row unless its zone comes right behind the prefix. -/
theorem of_spells_zonedLink (h : zonedLink.Spells w) :
    "::".toList <:+: w ∨ ∃ link, IsZonedLink link ∧ link <:+: w := by
  obtain ⟨_, _, rfl, hstart, _, _, rfl, ⟨groups, -, hgroups, rfl⟩, _, zone, rfl, hpercent, hzone⟩ :=
    h
  obtain rfl := spells_literal.1 hstart
  obtain rfl := spells_char.1 hpercent
  match groups, hgroups with
  | [], _ =>
    obtain ⟨hlength, hchars⟩ := spells_rep_chars.1 hzone
    match zone, allowed_none.1 hlength with
    | c :: zone, _ =>
      refine Or.inr ⟨_, ⟨c, contains_zoneChars.1 (hchars c List.mem_cons_self), rfl⟩, [], zone, ?_⟩
      rfl
  | first :: groups, hgroups =>
    have hfirst : [':'] <+: first := colonFirst_char.seq first (hgroups first List.mem_cons_self)
    have hrest : [':'] <+: (first :: groups).flatten ++ (['%'] ++ zone) := by
      rw [List.flatten_cons, List.append_assoc]
      exact hfirst.trans (List.prefix_append _ _)
    exact Or.inl (infix_append_of_meet ⟨"fe80".toList, rfl⟩ hrest)

theorem spells_zonedLink (h : IsZonedLink w) : zonedLink.Spells w := by
  obtain ⟨c, hc, rfl⟩ := h
  refine ⟨"fe80:".toList, ['%', c], rfl, spells_literal.2 rfl, [], ['%', c], rfl, ?_, ['%'], [c],
    rfl, spells_char.2 rfl, ?_⟩
  · exact ⟨[], (allowed_some (Nat.zero_le 4)).2 ⟨Nat.le_refl 0, Nat.zero_le 4⟩,
      List.forall_mem_nil _, rfl⟩
  · refine spells_rep_chars.2 ⟨allowed_none.2 (Nat.le_refl 1), ?_⟩
    exact List.forall_mem_singleton.2 (contains_zoneChars.2 hc)

/-! ## The whole pattern -/

/-- What an address of the sixth version is recognised by. -/
def HoldsIpv6 (text : List Char) : Prop :=
  "::".toList <:+: text ∨ (∃ address, IsFullAddress address ∧ address <:+: text) ∨
    ∃ link, IsZonedLink link ∧ link <:+: text

theorem holdsIpv6_of_spells (h : ipv6.Spells w) : HoldsIpv6 w := by
  rcases h with h | h | h | h | h | h | h | h | h | h | h | h
  · exact Or.inr (Or.inl ⟨w, spells_eightHextets.1 h, List.infix_rfl⟩)
  · exact Or.inl (doubleColon_of_meet colonLast_hextetColons colonFirst_char w h)
  · exact Or.inl (doubleColon_of_meet colonLast_hextetColons colonFirst_char.seq w h)
  · exact Or.inl (doubleColon_of_meet colonLast_hextetColons colonFirst_colonHextets w h)
  · exact Or.inl (doubleColon_of_meet colonLast_hextetColons colonFirst_colonHextets w h)
  · exact Or.inl (doubleColon_of_meet colonLast_hextetColons colonFirst_colonHextets w h)
  · exact Or.inl (doubleColon_of_meet colonLast_hextetColons colonFirst_colonHextets w h)
  · exact Or.inl (doubleColon_of_meet colonLast_char.seq colonFirst_colonHextets w h)
  · exact Or.inl (doubleColon_of_meet colonLast_char
      (colonFirst_colonHextets.alt colonFirst_char) w h)
  · exact (of_spells_zonedLink h).imp_right Or.inr
  · exact Or.inl (doubleColon_literal.seq w h)
  · exact Or.inl (doubleColon_of_meet colonLast_hextetColons colonFirst_char.seq w h)

theorem HoldsIpv6.mono {u : List Char} (h : HoldsIpv6 u) (hheld : u <:+: w) : HoldsIpv6 w := by
  rcases h with h | ⟨address, haddress, h⟩ | ⟨link, hlink, h⟩
  · exact Or.inl (h.trans hheld)
  · exact Or.inr (Or.inl ⟨address, haddress, h.trans hheld⟩)
  · exact Or.inr (Or.inr ⟨link, hlink, h.trans hheld⟩)

/-- **Of the forms of the pattern only three count.** -/
theorem ipv6_isMatch_iff : ipv6.isMatch s = true ↔ HoldsIpv6 s.toList := by
  rw [isMatch_iff_exists_spelled (by decide)]
  constructor
  · rintro ⟨w, hw, hheld⟩
    exact (holdsIpv6_of_spells hw).mono hheld
  · rw [ipv6]
    simp only [spells_altAll (List.cons_ne_nil _ _)]
    rintro (h | ⟨address, haddress, h⟩ | ⟨link, hlink, h⟩)
    · refine ⟨_, ⟨_, List.mem_of_getElem? (i := 8) rfl, ?_⟩, h⟩
      exact ⟨[':'], [':'], rfl, spells_char.2 rfl, Or.inr (spells_char.2 rfl)⟩
    · exact ⟨address, ⟨_, List.mem_of_getElem? (i := 0) rfl, spells_eightHextets.2 haddress⟩, h⟩
    · exact ⟨link, ⟨_, List.mem_of_getElem? (i := 9) rfl, spells_zonedLink hlink⟩, h⟩

/-! ## The check -/

/-- **An address passes exactly when a version that is on recognises its text:** the fourth by four
numbers up to 255 with full stops between them, the sixth by two colons in a row, by eight groups of
hexadecimal digits, or by a link with its zone, anywhere in the text. -/
theorem judge_ip_eq_valid_iff (v4 v6 : Bool) (settings : Settings) (x : Value) :
    { Builtin.ip v4 v6 with settings }.judge x = .valid ↔
      (v4 = true ∧ IsDottedQuad x.display.toList) ∨ (v6 = true ∧ HoldsIpv6 x.display.toList) := by
  have hfailure : { Builtin.ip v4 v6 with settings }.check.failure? x =
      (Check.ip v4 v6).passIf (isIp v4 v6 x.display) Messages.defaultSlot := rfl
  rw [Validator.judge_eq_valid_iff, hfailure, Check.passIf_eq_none_iff, isIp, Bool.or_eq_true,
    Bool.and_eq_true, Bool.and_eq_true, ipv4_isMatch_iff, ipv6_isMatch_iff]

end Address

end Vetting
