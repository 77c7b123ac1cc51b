import Vetting.Options
import Vetting.Proofs.Dict
import Vetting.Proofs.Steps

/-!
# What a run of reads comes to

A `Reading` passes a reader along, which remembers the names asked for.  Its result never looks at
that memory, and a run that succeeds has asked for the same names whatever it found.  So a reading
has a *meaning*, a function of the options alone, and a list of names that it knows:
`Reading.Denotes` ties the two to it.  Meanings compose as readings do (`Denotes.bind`), which is
how every validator of the catalogue gets its own.

What a meaning gives for free is stated here once, for all readings.

* `Denotes.ofOptions_eq_ok_iff`: a reading accepts options exactly when its meaning does and every
  name among them is known.
* `Denotes.ofOptions_eq_unknown_iff`: an unknown option is reported exactly when the meaning accepts
  the options, and it is the least of the unknown names.
* `Denotes.congr_options`: only what stands under the known names counts.
-/

namespace Vetting

namespace ConfigError

/-- Whether an error refuses an option that nobody asked for. -/
def IsUnknownOption : ConfigError → Prop
  | .unknownOption .. => True
  | _ => False

end ConfigError

/-- Whether a step refuses no option for being unknown. -/
def NeverUnknown {α : Type} (x : Except ConfigError α) : Prop :=
  ∀ e, x = .error e → ¬ e.IsUnknownOption

namespace NeverUnknown

variable {α β : Type}

theorem ok (a : α) : NeverUnknown (.ok a) := fun _ h => nomatch h

theorem error {e : ConfigError} (h : ¬ e.IsUnknownOption) :
    NeverUnknown (.error e : Except ConfigError α) := by
  intro e' he
  rw [← Except.error.inj he]
  exact h

theorem bind {x : Except ConfigError α} {f : α → Except ConfigError β} (hx : NeverUnknown x)
    (hf : ∀ a, NeverUnknown (f a)) : NeverUnknown (x >>= f) := by
  intro e h
  rcases bind_eq_error_iff.1 h with h | ⟨a, -, h⟩
  · exact hx e h
  · exact hf a e h

theorem map {x : Except ConfigError α} {f : α → β} (hx : NeverUnknown x) :
    NeverUnknown (x.map f) := fun e h => hx e (map_eq_error_iff.1 h)

end NeverUnknown

namespace Options

/-- What a validator reads under a name. -/
def read {α : Type} (options : Options) (validator key : String) (decode : OptionDecoder α) :
    Except ConfigError (Option α) :=
  (OptionReader.ofOptions validator options).answer key decode

/-- A name among the options that is none of `known`, and the least such. -/
structure LeastUnknown (options : Options) (known : List String) (key : String) : Prop where
  mem : key ∈ options.keys
  notMem : key ∉ known
  le : ∀ other ∈ options.keys, other ∉ known → ¬ other < key

/-- In which order names are known does not matter. -/
theorem leastUnknown_reverse_iff {options : Options} {known : List String} {key : String} :
    options.LeastUnknown known.reverse key ↔ options.LeastUnknown known key :=
  ⟨fun ⟨hmem, hnot, hle⟩ => ⟨hmem, by simpa using hnot, by simpa using hle⟩,
    fun ⟨hmem, hnot, hle⟩ => ⟨hmem, by simpa using hnot, by simpa using hle⟩⟩

/-- Only the names that are not known count. -/
theorem LeastUnknown.congr {o p : Options} {known : List String} {key : String}
    (h : ∀ other, other ∉ known → (other ∈ p.keys ↔ other ∈ o.keys))
    (hkey : o.LeastUnknown known key) : p.LeastUnknown known key where
  mem := (h key hkey.notMem).2 hkey.mem
  notMem := hkey.notMem
  le other hmem hother := hkey.le other ((h other hother).1 hmem) hother

variable {α : Type} {options : Options} {validator key : String} {decode : OptionDecoder α}

theorem read_of_given?_eq_none (h : options.given? key = none) :
    options.read validator key decode = .ok none := by
  rw [read, OptionReader.answer, OptionReader.ofOptions, h]

theorem read_of_given?_eq_some {v : Value} (h : options.given? key = some v) :
    options.read validator key decode = match decode v with
      | .ok a => .ok (some a)
      | .error fault => .error (.invalidOption validator key fault) := by
  cases hv : decode v with
  | ok a => simp only [read, OptionReader.answer, OptionReader.ofOptions, h, hv]
  | error fault => simp only [read, OptionReader.answer, OptionReader.ofOptions, h, hv]

/-- A read looks at nothing but what is given under its name. -/
theorem read_congr {p : Options} (h : options.given? key = p.given? key) :
    options.read validator key decode = p.read validator key decode := by
  rw [read, read, OptionReader.answer, OptionReader.answer, OptionReader.ofOptions,
    OptionReader.ofOptions, h]

/-- **An option that may be missing.**  If what is read is asked to meet a condition, then what is
given must be of the form that this comes to. -/
theorem exists_read_iff {p : α → Prop} {form : Value → Prop}
    (hform : ∀ v, (∃ a, decode v = .ok a ∧ p a) ↔ form v) :
    (∃ a, options.read validator key decode = .ok a ∧ ∀ b, a = some b → p b) ↔
      ∀ v, options.given? key = some v → form v := by
  cases hgiven : options.given? key with
  | none =>
    rw [read_of_given?_eq_none hgiven]
    exact iff_of_true ⟨none, rfl, fun _ h => nomatch h⟩ fun _ h => nomatch h
  | some v =>
    rw [read_of_given?_eq_some hgiven]
    have hv : (∀ w, some v = some w → form w) ↔ ∃ a, decode v = .ok a ∧ p a := by
      rw [hform]
      exact ⟨fun h => h v rfl, fun h w hw => Option.some.inj hw ▸ h⟩
    rw [hv]
    cases decode v with
    | error fault => exact iff_of_false (fun ⟨_, h, _⟩ => nomatch h) fun ⟨_, h, _⟩ => nomatch h
    | ok a =>
      constructor
      · rintro ⟨_, ⟨⟩, h⟩
        exact ⟨a, rfl, h a rfl⟩
      · rintro ⟨_, ⟨⟩, h⟩
        exact ⟨some a, rfl, fun b hb => Option.some.inj hb ▸ h⟩

/-- A read succeeds exactly when what is given, if anything, can be decoded. -/
theorem exists_read_eq_ok_iff :
    (∃ a, options.read validator key decode = .ok a) ↔
      ∀ v, options.given? key = some v → ∃ a, decode v = .ok a := by
  have hform : ∀ v, (∃ a, decode v = .ok a ∧ True) ↔ ∃ a, decode v = .ok a := by
    simp only [and_true, implies_true]
  have hread : (∃ a, options.read validator key decode = .ok a ∧ ∀ b, a = some b → True) ↔
      ∀ v, options.given? key = some v → ∃ a, decode v = .ok a := exists_read_iff hform
  rw [← hread]
  simp only [implies_true, and_true]

/-- A read yields something exactly when something is given. -/
theorem isSome_of_read_eq_ok {a : Option α} (h : options.read validator key decode = .ok a) :
    a.isSome = (options.given? key).isSome := by
  cases hgiven : options.given? key with
  | none =>
    rw [read_of_given?_eq_none hgiven] at h
    rw [← Except.ok.inj h]
    rfl
  | some v =>
    rw [read_of_given?_eq_some hgiven] at h
    cases hv : decode v with
    | error fault => rw [hv] at h; cases h
    | ok b =>
      rw [hv] at h
      rw [← Except.ok.inj h]
      rfl

theorem neverUnknown_read : NeverUnknown (options.read validator key decode) := by
  cases hgiven : options.given? key with
  | none =>
    rw [read_of_given?_eq_none hgiven]
    exact .ok none
  | some v =>
    rw [read_of_given?_eq_some hgiven]
    cases decode v with
    | error fault => exact .error id
    | ok a => exact .ok (some a)

end Options

namespace OptionReader

/-- A read answers from the options and notes the name. -/
theorem read_eq {α : Type} (reader : OptionReader) (key : String) (decode : OptionDecoder α) :
    reader.read key decode = (reader.options.read reader.validator key decode,
      { reader with seen := key :: reader.seen }) := rfl

theorem finish_eq_ok_iff {r : OptionReader} :
    r.finish = .ok () ↔ ∀ key ∈ r.options.keys, key ∈ r.seen := by
  rw [finish]
  cases h : r.options.keys.find? fun key => !r.seen.contains key with
  | none =>
    refine iff_of_true rfl fun key hkey => ?_
    simpa using List.find?_eq_none.1 h key hkey
  | some key =>
    obtain ⟨hmem, hkey, -⟩ := Dict.find?_keys_eq_some_iff.1 h
    refine iff_of_false (fun h => nomatch h) fun hall => ?_
    simp [hall key hmem] at hkey

/-- **The unknown option reported is the least.** -/
theorem finish_eq_error_iff {r : OptionReader} {e : ConfigError} :
    r.finish = .error e ↔
      ∃ key, r.options.LeastUnknown r.seen key ∧ e = .unknownOption r.validator key := by
  have hfind : ∀ key, (r.options.keys.find? fun key => !r.seen.contains key) = some key ↔
      r.options.LeastUnknown r.seen key := by
    intro key
    rw [Dict.find?_keys_eq_some_iff]
    simp only [List.contains_eq_mem, Bool.not_eq_true', decide_eq_false_iff_not]
    exact ⟨fun ⟨hmem, hnot, hle⟩ => ⟨hmem, hnot, hle⟩, fun h => ⟨h.mem, h.notMem, h.le⟩⟩
  simp only [← hfind]
  rw [finish]
  cases r.options.keys.find? fun key => !r.seen.contains key with
  | none => exact iff_of_false (fun h => nomatch h) fun ⟨_, h, _⟩ => nomatch h
  | some key =>
    constructor
    · intro h
      exact ⟨key, rfl, (Except.error.inj h).symm⟩
    · rintro ⟨other, hother, rfl⟩
      rw [Option.some.inj hother]

/-- Whether a name is left over is a matter of the names that nobody asked for. -/
theorem finish_congr {validator : String} {o p : Options} {seen : List String}
    (h : ∀ key, key ∉ seen → (key ∈ p.keys ↔ key ∈ o.keys)) :
    finish ⟨validator, p, seen⟩ = finish ⟨validator, o, seen⟩ := by
  have herror : ∀ e, finish ⟨validator, p, seen⟩ = .error e ↔
      finish ⟨validator, o, seen⟩ = .error e := by
    intro e
    rw [finish_eq_error_iff, finish_eq_error_iff]
    refine exists_congr fun key => and_congr ⟨?_, ?_⟩ Iff.rfl
    · exact Options.LeastUnknown.congr fun other hother => (h other hother).symm
    · exact Options.LeastUnknown.congr h
  cases ho : finish ⟨validator, o, seen⟩ with
  | error e => exact (herror e).2 ho
  | ok =>
    cases hp : finish ⟨validator, p, seen⟩ with
    | error e => exact ((herror e).1 hp).symm.trans ho
    | ok => rfl

end OptionReader

namespace Reading

variable {α β : Type}

theorem run_bind (m : Reading α) (f : α → Reading β) (reader : OptionReader) :
    (m >>= f).run reader = match m.run reader with
      | (.ok a, after) => (f a).run after
      | (.error e, after) => (.error e, after) := by
  show (match m reader with | (x, after) => ExceptT.bindCont f x after) = _
  rw [ExceptT.run]
  rcases m reader with ⟨x, after⟩
  cases x <;> rfl

/-- A reading told without its reader.  Its result is `meaning`, of the name of the validator and
the options; a run that succeeds has asked for `keys`, in this order; nothing but what is given
under them counts; and it never refuses a name for being unknown, which is left to the end. -/
structure Denotes (reading : Reading α) (keys : List String)
    (meaning : String → Options → Except ConfigError α) : Prop where
  result : ∀ reader, (reading.run reader).1 = meaning reader.validator reader.options
  asked : ∀ reader a, (reading.run reader).1 = .ok a →
    (reading.run reader).2 = { reader with seen := keys.reverse ++ reader.seen }
  congr_options : ∀ validator (o p : Options), (∀ key ∈ keys, o.given? key = p.given? key) →
    meaning validator o = meaning validator p
  known : ∀ validator o, NeverUnknown (meaning validator o)

namespace Denotes

theorem pure (a : α) : (Pure.pure a : Reading α).Denotes [] fun _ _ => .ok a where
  result _ := rfl
  asked _ _ _ := rfl
  congr_options _ _ _ _ := rfl
  known _ _ := .ok a

/-- A step that reads nothing may fail for any reason but an unknown option. -/
theorem ofExcept {x : Except ConfigError α} (h : NeverUnknown x) :
    (Reading.ofExcept x).Denotes [] fun _ _ => x where
  result _ := rfl
  asked _ _ _ := rfl
  congr_options _ _ _ _ := rfl
  known _ _ := h

theorem read (key : String) (decode : OptionDecoder α) :
    (Reading.read key decode).Denotes [key] fun validator o => o.read validator key decode where
  result _ := rfl
  asked _ _ _ := rfl
  congr_options _ _ _ h := Options.read_congr (h key List.mem_cons_self)
  known _ _ := Options.neverUnknown_read

/-- **The meaning of one reading after another.** -/
theorem bind {m : Reading α} {f : α → Reading β} {keys keys' : List String}
    {meaning : String → Options → Except ConfigError α}
    {meaning' : α → String → Options → Except ConfigError β} (hm : m.Denotes keys meaning)
    (hf : ∀ a, (f a).Denotes keys' (meaning' a)) :
    (m >>= f).Denotes (keys ++ keys') fun validator o => do
      meaning' (← meaning validator o) validator o where
  result reader := by
    have hresult := hm.result reader
    have hasked := hm.asked reader
    rw [run_bind, ← hresult]
    generalize m.run reader = run at hasked ⊢
    obtain ⟨x, after⟩ := run
    cases x with
    | error e => rfl
    | ok a =>
      obtain rfl := hasked a rfl
      exact (hf a).result _
  asked reader b := by
    have hasked := hm.asked reader
    rw [run_bind]
    generalize m.run reader = run at hasked ⊢
    obtain ⟨x, after⟩ := run
    cases x with
    | error e => exact fun h => nomatch h
    | ok a =>
      intro hb
      have hb' := (hf a).asked after b hb
      obtain rfl := hasked a rfl
      rw [List.reverse_append, List.append_assoc]
      exact hb'
  congr_options validator o p h := by
    rw [hm.congr_options validator o p fun key hkey => h key (List.mem_append_left _ hkey)]
    congr 1
    funext a
    exact (hf a).congr_options validator o p fun key hkey => h key (List.mem_append_right _ hkey)
  known validator o := (hm.known validator o).bind fun a => (hf a).known validator o

variable {reading : Reading α} {keys : List String}
  {meaning : String → Options → Except ConfigError α}

/-- What making something from options comes to: the meaning first, and then the names left. -/
theorem ofOptions_eq (h : reading.Denotes keys meaning) (validator : String) (options : Options) :
    Reading.ofOptions validator options reading = (do
      let a ← meaning validator options
      (OptionReader.finish ⟨validator, options, keys.reverse⟩).map fun _ => a) := by
  have hresult := h.result (.ofOptions validator options)
  have hasked := h.asked (.ofOptions validator options)
  rw [Reading.ofOptions, show meaning validator options = _ from hresult.symm]
  generalize reading.run (.ofOptions validator options) = run at hasked ⊢
  obtain ⟨x, after⟩ := run
  cases x with
  | error e => rfl
  | ok a =>
    obtain rfl := hasked a rfl
    rw [OptionReader.ofOptions, List.append_nil]
    rfl

/-- **Options are accepted exactly when the meaning accepts them and all names are known.** -/
theorem ofOptions_eq_ok_iff (h : reading.Denotes keys meaning) {validator : String}
    {options : Options} {a : α} :
    Reading.ofOptions validator options reading = .ok a ↔
      meaning validator options = .ok a ∧ ∀ key ∈ options.keys, key ∈ keys := by
  have hfinish : OptionReader.finish ⟨validator, options, keys.reverse⟩ = .ok () ↔
      ∀ key ∈ options.keys, key ∈ keys := by
    rw [OptionReader.finish_eq_ok_iff]
    simp only [List.mem_reverse]
  rw [h.ofOptions_eq, bind_eq_ok_iff, ← hfinish]
  constructor
  · rintro ⟨b, hb, hmap⟩
    obtain ⟨⟨⟩, hknown, rfl⟩ := map_eq_ok_iff.1 hmap
    exact ⟨hb, hknown⟩
  · rintro ⟨ha, hknown⟩
    exact ⟨a, ha, map_eq_ok_iff.2 ⟨(), hknown, rfl⟩⟩

/-- Options are refused for what they hold, or else for the least name that is not known. -/
theorem ofOptions_eq_error_iff (h : reading.Denotes keys meaning) {validator : String}
    {options : Options} {e : ConfigError} :
    Reading.ofOptions validator options reading = .error e ↔
      meaning validator options = .error e ∨
        (∃ a, meaning validator options = .ok a) ∧
          ∃ key, options.LeastUnknown keys key ∧ e = .unknownOption validator key := by
  rw [h.ofOptions_eq, bind_eq_error_iff]
  simp only [map_eq_error_iff, OptionReader.finish_eq_error_iff, Options.leastUnknown_reverse_iff,
    exists_and_right]

/-- **An unknown option is reported only when nothing else is wrong.** -/
theorem ofOptions_eq_unknown_iff (h : reading.Denotes keys meaning) {validator : String}
    {options : Options} {name key : String} :
    Reading.ofOptions validator options reading = .error (.unknownOption name key) ↔
      name = validator ∧ (∃ a, meaning validator options = .ok a) ∧
        options.LeastUnknown keys key := by
  rw [h.ofOptions_eq_error_iff]
  constructor
  · rintro (he | ⟨ha, other, hleast, he⟩)
    · exact absurd trivial (h.known validator options _ he)
    · cases he
      exact ⟨rfl, ha, hleast⟩
  · rintro ⟨rfl, ha, hleast⟩
    exact Or.inr ⟨ha, key, hleast, rfl⟩

/-- **Options that come to the same up to a change** are accepted alike and refused alike, if they
have the same unknown names. -/
theorem ofOptions_map (h : reading.Denotes keys meaning) {validator : String} {o p : Options}
    {f : α → α} (hmeaning : meaning validator p = (meaning validator o).map f)
    (hnames : ∀ key, key ∉ keys → (key ∈ p.keys ↔ key ∈ o.keys)) :
    Reading.ofOptions validator p reading = (Reading.ofOptions validator o reading).map f := by
  have hfinish : OptionReader.finish ⟨validator, p, keys.reverse⟩ =
      OptionReader.finish ⟨validator, o, keys.reverse⟩ :=
    OptionReader.finish_congr fun key hkey => hnames key fun hmem => hkey (List.mem_reverse.2 hmem)
  rw [h.ofOptions_eq, h.ofOptions_eq, hmeaning, hfinish]
  cases meaning validator o with
  | error e => rfl
  | ok a =>
    show (OptionReader.finish ⟨validator, o, keys.reverse⟩).map (fun _ => f a) =
      ((OptionReader.finish ⟨validator, o, keys.reverse⟩).map fun _ => a).map f
    cases OptionReader.finish ⟨validator, o, keys.reverse⟩ <;> rfl

/-- Options that give the same under the known names come to the same, if they have the same unknown
ones. -/
theorem ofOptions_congr (h : reading.Denotes keys meaning) {validator : String} {o p : Options}
    (hgiven : ∀ key ∈ keys, p.given? key = o.given? key)
    (hnames : ∀ key, key ∉ keys → (key ∈ p.keys ↔ key ∈ o.keys)) :
    Reading.ofOptions validator p reading = Reading.ofOptions validator o reading := by
  have hmeaning : meaning validator p = (meaning validator o).map id := by
    rw [h.congr_options validator p o hgiven, Except.map_id]
    rfl
  rw [h.ofOptions_map hmeaning hnames, Except.map_id]
  rfl

/-- **One unknown name is enough.**  Where the options without a name are accepted and the name is
none that is known, it is the name reported. -/
theorem ofOptions_eq_unknown_of_erase (h : reading.Denotes keys meaning) {validator key : String}
    {options : Options} (hkey : key ∉ keys) (hgiven : options.find? key ≠ none)
    (hrest : ∃ a, Reading.ofOptions validator (options.erase key) reading = .ok a) :
    Reading.ofOptions validator options reading = .error (.unknownOption validator key) := by
  obtain ⟨a, ha⟩ := hrest
  obtain ⟨hmeaning, hknown⟩ := h.ofOptions_eq_ok_iff.1 ha
  have hsame : meaning validator options = meaning validator (options.erase key) := by
    refine h.congr_options validator _ _ fun other hother => ?_
    have hne : other ≠ key := fun heq => hkey (heq ▸ hother)
    simp [Options.given?, hne]
  refine h.ofOptions_eq_unknown_iff.2 ⟨rfl, ⟨a, hsame.trans hmeaning⟩, ?_, hkey, ?_⟩
  · obtain ⟨v, hv⟩ := Option.ne_none_iff_exists'.1 hgiven
    exact Dict.mem_keys_iff.2 ⟨v, hv⟩
  · intro other hother hunknown
    -- any other name that is left was left among the options that are accepted
    have heq : other = key := by
      by_contra hne
      obtain ⟨v, hv⟩ := Dict.mem_keys_iff.1 hother
      exact hunknown (hknown other (Dict.mem_keys_iff.2 ⟨v, by simp [hne, hv]⟩))
    rw [heq]
    exact String.lt_irrefl key

/-- The same reading with its meaning said in other words. -/
theorem of_eq {keys' : List String} {meaning' : String → Options → Except ConfigError α}
    (h : reading.Denotes keys meaning) (hkeys : keys = keys')
    (hmeaning : ∀ validator o, meaning validator o = meaning' validator o) :
    reading.Denotes keys' meaning' := by
  obtain rfl := hkeys
  obtain rfl : meaning = meaning' := funext fun validator => funext (hmeaning validator)
  exact h

end Denotes

end Reading

end Vetting
