import Mathlib.Data.List.Basic

/-!
# The order of texts

Texts are compared as the lists of their characters, and it does not matter how a character is
spelled out: as its code point (`compare_eq_compare_codes`), or as the one to four bytes that encode
it (`compare_eq_compare_bytes`).

Both are instances of one fact about words, `compare_flatMap`.  A spelling keeps the order of words
if it tells two letters apart, in their own order, before either of the two spellings ends.  Code
points do so at once.  Bytes do so because the first byte grows with the number of bytes that follow
it, and for equal numbers the bytes hold the places of the code point, the highest first.
-/

namespace Vetting

open Std

/-! ## Words and spellings -/

section Spelling

variable {α β : Type} [Ord α] [Ord β]

/-- Words with the same beginning compare as what follows it. -/
theorem compare_append_left [ReflOrd β] (p r s : List β) :
    compare (p ++ r) (p ++ s) = compare r s := by
  induction p with
  | nil => rfl
  | cons x p ih =>
    rw [List.cons_append, List.cons_append, List.compare_cons_cons, ReflOrd.compare_self, ih]
    rfl

/-- **A spelling that tells letters apart before it ends keeps the order of words.** -/
theorem compare_flatMap [OrientedOrd α] [LawfulEqOrd α] [OrientedOrd β] [ReflOrd β]
    {spell : α → List β} (hne : ∀ a, spell a ≠ [])
    (hlt : ∀ a b (r s : List β), compare a b = .lt → compare (spell a ++ r) (spell b ++ s) = .lt)
    (as bs : List α) : compare (as.flatMap spell) (bs.flatMap spell) = compare as bs := by
  induction as generalizing bs with
  | nil =>
    cases bs with
    | nil => rfl
    | cons b bs =>
      obtain ⟨x, rest, hx⟩ := List.exists_cons_of_ne_nil (hne b)
      rw [List.flatMap_cons, hx]
      rfl
  | cons a as ih =>
    cases bs with
    | nil =>
      obtain ⟨x, rest, hx⟩ := List.exists_cons_of_ne_nil (hne a)
      rw [List.flatMap_cons, hx]
      rfl
    | cons b bs =>
      rw [List.flatMap_cons, List.flatMap_cons, List.compare_cons_cons]
      cases hab : compare a b with
      | lt => exact hlt a b _ _ hab
      | eq =>
        obtain rfl := LawfulEqOrd.eq_of_compare hab
        rw [compare_append_left, ih]
        rfl
      | gt =>
        rw [OrientedOrd.eq_swap, hlt b a _ _ (OrientedCmp.lt_of_gt hab)]
        rfl

end Spelling

/-! ## Characters and code points -/

theorem compare_char_eq_lt_iff {c d : Char} : compare c d = .lt ↔ c.toNat < d.toNat := by
  have hlt : compare c d = .lt ↔ c < d := compareOfLessAndEq_eq_lt
  rw [hlt]
  exact Iff.rfl

theorem compare_chars_eq_lt_iff {l m : List Char} : compare l m = .lt ↔ l < m := by
  induction l generalizing m with
  | nil => cases m <;> simp
  | cons c l ih =>
    cases m with
    | nil => simp
    | cons d m =>
      have hlt : compare c d = .lt ↔ c < d := compareOfLessAndEq_eq_lt
      rw [List.compare_cons_cons, List.cons_lt_cons_iff, Ordering.then_eq_lt, ih, hlt,
        Std.compare_eq_iff_eq]

/-- Texts compare as their characters do. -/
theorem compare_toList (a b : String) : compare a.toList b.toList = compare a b := by
  have hlt {a b : String} : compare a b = .lt ↔ compare a.toList b.toList = .lt := by
    rw [compare_chars_eq_lt_iff]
    exact compareOfLessAndEq_eq_lt
  cases hab : compare a b with
  | lt => exact hlt.1 hab
  | eq => rw [LawfulEqOrd.eq_of_compare hab, ReflOrd.compare_self]
  | gt =>
    rw [OrientedOrd.eq_swap, hlt.1 (OrientedCmp.lt_of_gt hab)]
    rfl

/-- **Texts are in the order of their code points.** -/
theorem compare_eq_compare_codes (a b : String) :
    compare a b = compare (a.toList.map Char.toNat) (b.toList.map Char.toNat) := by
  rw [List.map_eq_flatMap, List.map_eq_flatMap, compare_flatMap, compare_toList]
  · exact fun _ => List.cons_ne_nil _ _
  · intro c d r s hcd
    have hcode : compare c.toNat d.toNat = .lt :=
      Nat.compare_eq_lt.2 (compare_char_eq_lt_iff.1 hcd)
    rw [List.singleton_append, List.singleton_append, List.compare_cons_cons, hcode]
    rfl

/-! ## Bytes -/

/-- A byte that holds a place behind a mark. -/
theorem toNat_ofNat_mod_add {base mark : Nat} (hbase : 0 < base) (h : base + mark ≤ 256)
    (n : Nat) : (UInt8.ofNat (n % base + mark)).toNat = n % base + mark := by
  have hlt : n % base < base := Nat.mod_lt n hbase
  rw [UInt8.toNat_ofNat', Nat.mod_eq_of_lt (by omega)]

/-- The lesser number is less in the higher places, or it has the same there and is less in the
lowest. -/
theorem div_lt_or_mod_lt {m n : Nat} (base : Nat) (h : m < n) :
    m / base < n / base ∨ m / base = n / base ∧ m % base < n % base := by
  rcases Nat.lt_or_eq_of_le (Nat.div_le_div_right (c := base) (Nat.le_of_lt h)) with hlt | heq
  · exact Or.inl hlt
  · refine Or.inr ⟨heq, ?_⟩
    have hm := Nat.div_add_mod m base
    have hn := Nat.div_add_mod n base
    rw [heq] at hm
    omega

/-- Four places of a code point, the highest first. -/
theorem places_lt_of_lt {m n : Nat} (h : m < n) (hn : n < 0x110000) :
    m / 262144 % 8 < n / 262144 % 8 ∨ m / 262144 % 8 = n / 262144 % 8 ∧
      (m / 4096 % 64 < n / 4096 % 64 ∨ m / 4096 % 64 = n / 4096 % 64 ∧
        (m / 64 % 64 < n / 64 % 64 ∨ m / 64 % 64 = n / 64 % 64 ∧ m % 64 < n % 64)) := by
  have hdiv (i : Nat) : i / 4096 = i / 64 / 64 ∧ i / 262144 = i / 64 / 64 / 64 := by omega
  rw [(hdiv m).1, (hdiv m).2, (hdiv n).1, (hdiv n).2]
  have htop : n / 64 / 64 / 64 < 8 := by omega
  rcases div_lt_or_mod_lt 64 h with h | ⟨hlow, h⟩
  · rcases div_lt_or_mod_lt 64 h with h | ⟨hmiddle, h⟩
    · rcases div_lt_or_mod_lt 64 h with h | ⟨hhigh, h⟩
      · omega
      · omega
    · omega
  · omega

/-- The bytes of a lesser character are less before they end. -/
theorem compare_utf8EncodeChar_append {c d : Char} (h : compare c d = .lt) (r s : List UInt8) :
    compare (String.utf8EncodeChar c ++ r) (String.utf8EncodeChar d ++ s) = .lt := by
  have hbyte (x y : UInt8) : compare x y = .lt ↔ x.toNat < y.toNat := compareOfLessAndEq_eq_lt
  have hd : d.val.toNat < 0x110000 := by
    have hvalid := d.valid
    rw [UInt32.isValidChar, Nat.isValidChar] at hvalid
    omega
  have hcd : c.val.toNat < d.val.toNat := compare_char_eq_lt_iff.1 h
  unfold String.utf8EncodeChar
  generalize c.val.toNat = m at hcd
  generalize d.val.toNat = n at hcd hd
  have hplaces := places_lt_of_lt hcd hd
  have hfirstOfTwo :=
    toNat_ofNat_mod_add (show 0 < 0x20 by decide) (show 0x20 + 0xc0 ≤ 256 by decide)
  have hfirstOfThree :=
    toNat_ofNat_mod_add (show 0 < 0x10 by decide) (show 0x10 + 0xe0 ≤ 256 by decide)
  have hfirstOfFour :=
    toNat_ofNat_mod_add (show 0 < 0x08 by decide) (show 0x08 + 0xf0 ≤ 256 by decide)
  have hnext :=
    toNat_ofNat_mod_add (show 0 < 0x40 by decide) (show 0x40 + 0x80 ≤ 256 by decide)
  dsimp only
  split_ifs <;>
    simp only [List.cons_append, List.nil_append, List.compare_cons_cons, Ordering.then_eq_lt,
      hbyte, Std.compare_eq_iff_eq, ← UInt8.toNat_inj, hfirstOfTwo, hfirstOfThree, hfirstOfFour,
      hnext, UInt8.toNat_ofNat'] <;>
    omega

/-- **Texts are in the order of their bytes.** -/
theorem compare_eq_compare_bytes (a b : String) :
    compare a b = compare a.toByteArray.data.toList b.toByteArray.data.toList := by
  have hbytes (s : String) :
      s.toByteArray.data.toList = s.toList.flatMap String.utf8EncodeChar := by
    rw [← String.utf8Encode_toList, List.utf8Encode, List.toList_data_toByteArray]
  rw [hbytes, hbytes, compare_flatMap, compare_toList]
  · exact fun _ => String.utf8EncodeChar_ne_nil
  · exact fun c d r s hcd => compare_utf8EncodeChar_append hcd r s

end Vetting
