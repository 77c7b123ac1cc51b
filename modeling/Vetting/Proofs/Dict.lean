import Mathlib.Data.List.Induction
import Mathlib.Data.List.Nodup
import Vetting.Dict

/-!
# Dictionaries by their look-ups

The entries of a dictionary and its look-ups say the same thing: an entry is stored exactly when
its key finds its value (`Dict.mem_entries_iff`).  Since the keys ascend, the look-ups fix the
entries as well, so two dictionaries that answer every look-up alike are equal
(`Dict.ext_find?`).  Equations between dictionaries are proved through it, one look-up at a time.
-/

namespace Vetting

universe u v

variable {α : Type u} {β : Type v}

namespace Entries

theorem mem_of_find?_eq_some {key : String} {value : α} {entries : List (String × α)}
    (h : find? key entries = some value) : (key, value) ∈ entries := by
  induction entries with
  | nil => cases h
  | cons head rest ih =>
    rw [find?] at h
    split at h
    · rename_i heq
      obtain rfl := Option.some.inj h
      rw [heq]
      exact List.mem_cons_self
    · exact List.mem_cons_of_mem _ (ih h)

/-- Where keys ascend, an entry hides no other. -/
theorem find?_eq_some_of_mem {key : String} {value : α} {entries : List (String × α)}
    (hasc : Ascending entries) (h : (key, value) ∈ entries) :
    find? key entries = some value := by
  induction entries with
  | nil => cases h
  | cons head rest ih =>
    obtain ⟨hhead, hrest⟩ := List.pairwise_cons.1 hasc
    rw [find?]
    rcases List.mem_cons.1 h with rfl | h
    · rw [if_pos rfl]
    · rw [if_neg (String.ne_of_lt (hhead _ h)).symm]
      exact ih hrest h

theorem find?_eq_none_iff {key : String} {entries : List (String × α)} :
    find? key entries = none ↔ ∀ entry ∈ entries, entry.1 ≠ key := by
  induction entries with
  | nil => simp [find?]
  | cons head rest ih =>
    rw [find?, List.forall_mem_cons]
    split
    · rename_i heq
      simp [heq]
    · rename_i hne
      rw [ih, and_iff_right (Ne.symm hne)]

@[simp] theorem find?_erase_self (key : String) (entries : List (String × α)) :
    find? key (erase key entries) = none := by
  rw [find?_eq_none_iff]
  intro entry hentry
  simpa using (List.mem_filter.1 hentry).2

theorem find?_erase_of_ne {key other : String} (h : other ≠ key)
    (entries : List (String × α)) : find? other (erase key entries) = find? other entries := by
  induction entries with
  | nil => rfl
  | cons head rest ih =>
    rw [erase, List.filter_cons]
    split
    · rw [find?, find?, ← ih, erase]
    · rename_i hhead
      have hkey : head.1 = key := by simpa using hhead
      rw [find?, if_neg (hkey ▸ h), ← ih, erase]

theorem find?_map_values (f : α → β) (key : String) (entries : List (String × α)) :
    find? key (entries.map fun entry => (entry.1, f entry.2)) = (find? key entries).map f := by
  induction entries with
  | nil => rfl
  | cons head rest ih =>
    rw [List.map_cons, find?, find?, ih]
    split <;> rfl

theorem find?_append (key : String) (xs ys : List (String × α)) :
    find? key (xs ++ ys) = (find? key xs).or (find? key ys) := by
  induction xs with
  | nil => rfl
  | cons head rest ih =>
    rw [List.cons_append, find?, find?, ih]
    split <;> rfl

/-- In front of an entry stand the entries with lesser keys. -/
theorem find?_of_split {key other : String} {value : α} {before behind : List (String × α)}
    (h : Ascending (before ++ (key, value) :: behind)) :
    find? other before =
      if other < key then find? other (before ++ (key, value) :: behind) else none := by
  obtain ⟨-, hbehind, hbefore⟩ := List.pairwise_append.1 h
  have hkeys := (List.pairwise_cons.1 hbehind).1
  split
  · rename_i hlt
    have hnone : find? other ((key, value) :: behind) = none := by
      rw [find?_eq_none_iff, List.forall_mem_cons]
      refine ⟨(String.ne_of_lt hlt).symm, fun entry hentry heq => ?_⟩
      exact String.lt_irrefl _ (String.lt_trans hlt (heq ▸ hkeys entry hentry))
    rw [find?_append, hnone, Option.or_none]
  · rename_i hnot
    rw [find?_eq_none_iff]
    intro entry hentry heq
    exact hnot (heq ▸ hbefore entry hentry _ List.mem_cons_self)

end Entries

namespace Dict

@[simp] theorem mem_entries_iff {d : Dict α} {key : String} {value : α} :
    (key, value) ∈ d.entries ↔ d.find? key = some value :=
  ⟨Entries.find?_eq_some_of_mem d.ascending, Entries.mem_of_find?_eq_some⟩

theorem mem_keys_iff {d : Dict α} {key : String} :
    key ∈ d.keys ↔ ∃ value, d.find? key = some value := by
  rw [keys, List.mem_map]
  constructor
  · rintro ⟨entry, hentry, rfl⟩
    exact ⟨entry.2, mem_entries_iff.1 hentry⟩
  · rintro ⟨value, hvalue⟩
    exact ⟨(key, value), mem_entries_iff.2 hvalue, rfl⟩

theorem nodup_keys (d : Dict α) : d.keys.Nodup := by
  refine d.pairwise_keys.imp fun {a b} hlt heq => ?_
  rw [heq] at hlt
  exact String.lt_irrefl b hlt

theorem nodup_entries (d : Dict α) : d.entries.Nodup := d.nodup_keys.of_map

/-- The first key that a test picks out is the least. -/
theorem find?_keys_eq_some_iff {d : Dict α} {test : String → Bool} {key : String} :
    d.keys.find? test = some key ↔
      key ∈ d.keys ∧ test key = true ∧ ∀ other ∈ d.keys, test other = true → ¬ other < key := by
  have hasc := d.pairwise_keys
  rw [List.find?_eq_some_iff_append]
  constructor
  · rintro ⟨hkey, before, after, hsplit, hbefore⟩
    rw [hsplit] at hasc ⊢
    refine ⟨List.mem_append_right _ List.mem_cons_self, hkey, fun other hother htest hlt => ?_⟩
    rcases List.mem_append.1 hother with hother | hother
    · have hfalse := hbefore other hother
      rw [htest] at hfalse
      cases hfalse
    · rcases List.mem_cons.1 hother with rfl | hother
      · exact String.lt_irrefl _ hlt
      · have hrest := (List.pairwise_cons.1 (List.pairwise_append.1 hasc).2.1).1 other hother
        exact String.lt_irrefl _ (String.lt_trans hlt hrest)
  · rintro ⟨hmem, hkey, hleast⟩
    obtain ⟨before, after, hsplit⟩ := List.append_of_mem hmem
    refine ⟨hkey, before, after, hsplit, fun other hother => ?_⟩
    rw [hsplit] at hasc
    have hlt := (List.pairwise_append.1 hasc).2.2 other hother key List.mem_cons_self
    have htest : test other ≠ true := fun h =>
      hleast other (hsplit ▸ List.mem_append_left _ hother) h hlt
    simpa using htest

/-- **Dictionaries with the same look-ups are equal.** -/
theorem ext_find? {d e : Dict α} (h : ∀ key, d.find? key = e.find? key) : d = e := by
  have hperm : d.entries.Perm e.entries := by
    refine (List.perm_ext_iff_of_nodup d.nodup_entries e.nodup_entries).2 fun entry => ?_
    obtain ⟨key, value⟩ := entry
    rw [mem_entries_iff, mem_entries_iff, h key]
  refine ext_entries (hperm.eq_of_pairwise ?_ d.ascending e.ascending)
  intro a b _ _ hab hba
  exact absurd (String.lt_trans hab hba) (String.lt_irrefl _)

/-- Replacing a value adds no key. -/
theorem mem_keys_insert_of_mem {d : Dict α} {key other : String} (h : key ∈ d.keys) (value : α) :
    other ∈ (d.insert key value).keys ↔ other ∈ d.keys := by
  rw [mem_keys_iff, mem_keys_iff, find?_insert]
  split
  · rename_i heq
    exact iff_of_true ⟨value, rfl⟩ (mem_keys_iff.1 (heq ▸ h))
  · rfl

@[simp] theorem find?_erase (d : Dict α) (key other : String) :
    (d.erase key).find? other = if other = key then none else d.find? other := by
  split
  · rename_i heq
    rw [heq]
    exact Entries.find?_erase_self key d.entries
  · rename_i hne
    exact Entries.find?_erase_of_ne hne d.entries

@[simp] theorem erase_insert_self (d : Dict α) (key : String) (value : α) :
    (d.insert key value).erase key = d.erase key := by
  refine ext_find? fun other => ?_
  by_cases h : other = key <;> simp [h]

/-- Erasing a key that is not there changes nothing. -/
theorem erase_of_find?_eq_none {d : Dict α} {key : String} (h : d.find? key = none) :
    d.erase key = d := by
  refine ext_find? fun other => ?_
  by_cases hother : other = key <;> simp [hother, h]

@[simp] theorem erase_erase_self (d : Dict α) (key : String) :
    (d.erase key).erase key = d.erase key :=
  erase_of_find?_eq_none (by simp)

@[simp] theorem isEmpty_iff {d : Dict α} : d.isEmpty = true ↔ d = empty := by
  rw [isEmpty, List.isEmpty_iff]
  exact ⟨fun h => ext_entries h, fun h => by rw [h]; rfl⟩

theorem isEmpty_eq_false_of_find? {d : Dict α} {key : String} {value : α}
    (h : d.find? key = some value) : d.isEmpty = false := by
  have hmem : (key, value) ∈ d.entries := mem_entries_iff.2 h
  rw [isEmpty, List.isEmpty_eq_false_iff]
  exact List.ne_nil_of_mem hmem

@[simp] theorem isEmpty_insert (d : Dict α) (key : String) (value : α) :
    (d.insert key value).isEmpty = false :=
  isEmpty_eq_false_of_find? (find?_insert_self d key value)

/-! ## Dictionaries of lists -/

/-- Of the pairs inserted the last one under a key is found. -/
theorem find?_insertAll (d : Dict α) (pairs : List (String × α)) (key : String) :
    (d.insertAll pairs).find? key = (Entries.find? key pairs.reverse).or (d.find? key) := by
  induction pairs using List.reverseRecOn with
  | nil => rfl
  | append_singleton pairs pair ih =>
    rw [List.reverse_concat, Entries.find?, insertAll, List.foldl_concat, ← insertAll,
      find?_insert, ih]
    split <;> rfl

@[simp] theorem mem_keys_ofList {pairs : List (String × α)} {key : String} :
    key ∈ (ofList pairs).keys ↔ key ∈ pairs.map (·.1) := by
  rw [mem_keys_iff, ← Option.ne_none_iff_exists', ofList, find?_insertAll, find?_empty,
    Option.or_none, Ne, Entries.find?_eq_none_iff]
  simp only [List.mem_reverse, List.mem_map, ne_eq, not_forall, not_not, exists_prop]

/-- Where the keys of a list are distinct, its dictionary has its members for entries. -/
theorem find?_ofList_eq_some_iff {pairs : List (String × α)} (hnodup : (pairs.map (·.1)).Nodup)
    {key : String} {value : α} :
    (ofList pairs).find? key = some value ↔ (key, value) ∈ pairs := by
  rw [ofList, find?_insertAll, find?_empty, Option.or_none]
  constructor
  · intro h
    exact List.mem_reverse.1 (Entries.mem_of_find?_eq_some h)
  · intro h
    cases hfound : Entries.find? key pairs.reverse with
    | none => exact absurd rfl (Entries.find?_eq_none_iff.1 hfound _ (List.mem_reverse.2 h))
    | some other =>
      have hother := List.mem_reverse.1 (Entries.mem_of_find?_eq_some hfound)
      have hpair := List.inj_on_of_nodup_map hnodup hother h rfl
      rw [(Prod.mk.inj hpair).2]

@[simp] theorem ofList_entries (d : Dict α) : ofList d.entries = d := by
  refine ext_find? fun key => Option.ext fun value => ?_
  rw [find?_ofList_eq_some_iff d.nodup_keys, mem_entries_iff]

/-- Replacing the values of a dictionary leaves its entries in their places. -/
theorem entries_ofList_map (d : Dict α) (f : α → β) :
    (ofList (d.entries.map fun entry => (entry.1, f entry.2))).entries =
      d.entries.map fun entry => (entry.1, f entry.2) := by
  have hasc : Ascending (d.entries.map fun entry => (entry.1, f entry.2)) :=
    List.pairwise_map.2 d.ascending
  exact congrArg entries (ofList_entries ⟨_, hasc⟩)

/-- Looking up where every value has been replaced. -/
theorem find?_ofList_map_values (pairs : List (String × α)) (f : α → β) (key : String) :
    (ofList (pairs.map fun pair => (pair.1, f pair.2))).find? key =
      ((ofList pairs).find? key).map f := by
  rw [ofList, ofList, find?_insertAll, find?_insertAll, find?_empty, find?_empty, Option.or_none,
    Option.or_none, ← List.map_reverse, Entries.find?_map_values]

theorem find?_ofList_map (d : Dict α) (f : α → β) (key : String) :
    (ofList (d.entries.map fun entry => (entry.1, f entry.2))).find? key =
      (d.find? key).map f := by
  rw [find?_ofList_map_values, ofList_entries]

end Dict

end Vetting
