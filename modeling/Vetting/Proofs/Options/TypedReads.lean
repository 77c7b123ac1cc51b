import Vetting.Proofs.Options.Reading

/-!
# Runs of typed reads

A reader is asked for options one after the other, in whatever order and kind, under the same name
any number of times, and it goes on when a read fails.  Two things are said here about such runs.

* A read answers from the options alone.  The reader remembers only names, and no read looks at
  them, so each answer is that of a fresh reader (`OptionReader.performAll_eq`).
* What is left over at the end is a matter of the names asked for, as a set: every read notes its
  name before it looks at the value (`OptionReader.finish_congr_seen`).

Texts are the one kind of read that is made of another.  The list is read first, under the same
name, and its items are looked at afterwards; this comes to a single read
(`OptionReader.readTexts_eq`).
-/

namespace Vetting

/-- The kinds of typed reads. -/
inductive ReadKind where
  | value
  | bool
  | text
  | number
  | count
  | list
  | texts
  | object
  deriving DecidableEq, Repr

namespace ReadKind

/-- What a read of the kind hands out. -/
def Result : ReadKind → Type
  | .value => Value
  | .bool => Bool
  | .text => String
  | .number => Double
  | .count => Nat
  | .list => List Value
  | .texts => List String
  | .object => Object

/-- How a read of the kind takes the value of an option. -/
def decode : (kind : ReadKind) → OptionDecoder kind.Result
  | .value => OptionDecoder.value
  | .bool => OptionDecoder.bool
  | .text => OptionDecoder.text
  | .number => OptionDecoder.number
  | .count => OptionDecoder.count
  | .list => OptionDecoder.list
  | .texts => OptionDecoder.texts
  | .object => OptionDecoder.object

end ReadKind

/-- A read to be made. -/
structure TypedRead where
  kind : ReadKind
  key : String
  deriving DecidableEq, Repr

/-- What comes of a read, with its kind. -/
abbrev TypedAnswer : Type := (kind : ReadKind) × Except ConfigError (Option kind.Result)

namespace OptionReader

variable {validator : String} {options : Options}

/-! ## One read -/

/-- Reads a list and then its items, each of which must be a text. -/
def readTexts (r : OptionReader) (key : String) :
    Except ConfigError (Option (List String)) × OptionReader :=
  match r.read key OptionDecoder.list with
  | (.error e, after) => (.error e, after)
  | (.ok none, after) => (.ok none, after)
  | (.ok (some items), after) =>
    match OptionDecoder.textItems items with
    | .error fault => (.error (.invalidOption after.validator key fault), after)
    | .ok texts => (.ok (some texts), after)

/-- One typed read. -/
def perform (r : OptionReader) (key : String) :
    (kind : ReadKind) → Except ConfigError (Option kind.Result) × OptionReader
  | .texts => r.readTexts key
  | kind => r.read key kind.decode

/-- Reading texts through the list comes to one read, with one note of the name. -/
@[simp] theorem readTexts_eq (r : OptionReader) (key : String) :
    r.readTexts key = r.read key OptionDecoder.texts := by
  simp only [readTexts, read, answer]
  cases r.options.given? key with
  | none => rfl
  | some v =>
    cases v with
    | array items =>
      simp only [OptionDecoder.list, OptionDecoder.texts]
      cases OptionDecoder.textItems items <;> rfl
    | _ => rfl

@[simp] theorem perform_eq (r : OptionReader) (key : String) (kind : ReadKind) :
    r.perform key kind = r.read key kind.decode := by
  cases kind with
  | texts => exact r.readTexts_eq key
  | _ => rfl

/-! ## Runs -/

/-- Makes reads one after the other, whatever comes of them. -/
def performAll (r : OptionReader) : List TypedRead → List TypedAnswer × OptionReader
  | [] => ([], r)
  | read :: rest =>
    match r.perform read.key read.kind with
    | (answer, after) =>
      match after.performAll rest with
      | (answers, last) => (⟨read.kind, answer⟩ :: answers, last)

/-- **A run answers read by read from the options**, and leaves a reader that has noted all
names. -/
theorem performAll_eq (r : OptionReader) (reads : List TypedRead) :
    r.performAll reads =
      (reads.map fun read => ⟨read.kind, r.options.read r.validator read.key read.kind.decode⟩,
        { r with seen := (reads.map (·.key)).reverse ++ r.seen }) := by
  induction reads generalizing r with
  | nil => rfl
  | cons read rest ih =>
    simp only [performAll, perform_eq, read_eq, ih, List.map_cons, List.reverse_cons,
      List.append_assoc, List.singleton_append]

/-- The reader at the end of a run knows the names asked for and nothing else of it. -/
theorem snd_performAll (validator : String) (options : Options) (reads : List TypedRead) :
    ((ofOptions validator options).performAll reads).2 =
      ⟨validator, options, (reads.map (·.key)).reverse⟩ := by
  rw [performAll_eq, ofOptions, List.append_nil]

/-- What is left over is a matter of the names asked for, not of how often or in which order. -/
theorem finish_congr_seen {seen noted : List String} (h : ∀ key, key ∈ seen ↔ key ∈ noted) :
    finish ⟨validator, options, seen⟩ = finish ⟨validator, options, noted⟩ := by
  have hcontains : ∀ key, seen.contains key = noted.contains key := by
    intro key
    rw [Bool.eq_iff_iff, List.contains_iff_mem, List.contains_iff_mem, h]
  simp only [finish, hcontains]

/-- **Reads do not disturb each other, and only their names count at the end.**  In a run of typed
reads every answer is made of the kind, the name and the options, as a fresh reader would give it,
and so the reads before a run change none of its answers.  Finishing succeeds exactly when every
name among the options has been asked for, whatever came of the reads; otherwise it reports the
least name that was never asked for.  Runs that ask for the same names finish alike. -/
theorem performAll_independent (validator : String) (options : Options) (reads : List TypedRead) :
    ((ofOptions validator options).performAll reads).1 =
      reads.map (fun read => ⟨read.kind, ((ofOptions validator options).perform read.key
        read.kind).1⟩) ∧
    (∀ before : List TypedRead,
      (((ofOptions validator options).performAll before).2.performAll reads).1 =
        ((ofOptions validator options).performAll reads).1) ∧
    (((ofOptions validator options).performAll reads).2.finish = .ok () ↔
      ∀ key ∈ options.keys, ∃ read ∈ reads, read.key = key) ∧
    (∀ e, ((ofOptions validator options).performAll reads).2.finish = .error e ↔
      ∃ key, options.LeastUnknown (reads.map (·.key)) key ∧ e = .unknownOption validator key) ∧
    ∀ others : List TypedRead,
      (∀ key, (∃ read ∈ reads, read.key = key) ↔ ∃ read ∈ others, read.key = key) →
      ((ofOptions validator options).performAll reads).2.finish =
        ((ofOptions validator options).performAll others).2.finish := by
  refine ⟨?_, fun before => ?_, ?_, fun e => ?_, fun others h => ?_⟩
  · simp only [performAll_eq, perform_eq, read_eq, ofOptions]
  · simp only [performAll_eq]
  · rw [snd_performAll, finish_eq_ok_iff]
    simp only [List.mem_reverse, List.mem_map]
  · rw [snd_performAll, finish_eq_error_iff]
    simp only [Options.leastUnknown_reverse_iff]
  · rw [snd_performAll, snd_performAll]
    refine finish_congr_seen fun key => ?_
    simpa only [List.mem_reverse, List.mem_map] using h key

/-- Two runs on one set of options.  One name holds a null, another fails as texts and as a count
but not as a text; of the two names left over the lesser is reported. -/
theorem performAll_independent_left_over :
    ∃ options : Options, options.keys = ["max", "min", "step", "zeal"] ∧
      ((ofOptions "length" options).performAll
        [⟨.texts, "min"⟩, ⟨.count, "max"⟩, ⟨.count, "min"⟩, ⟨.text, "min"⟩]).1 =
        [⟨.texts, .error (.invalidOption "length" "min" (.mistyped .list (.text "x")))⟩,
          ⟨.count, .ok none⟩,
          ⟨.count, .error (.invalidOption "length" "min" (.mistyped .count (.text "x")))⟩,
          ⟨.text, .ok (some "x")⟩] ∧
      ((ofOptions "length" options).performAll
        [⟨.texts, "min"⟩, ⟨.count, "max"⟩, ⟨.count, "min"⟩, ⟨.text, "min"⟩]).2.finish =
        .error (.unknownOption "length" "step") ∧
      ((ofOptions "length" options).performAll [⟨.object, "max"⟩, ⟨.list, "min"⟩]).2.finish =
        .error (.unknownOption "length" "step") := by
  let options : Options :=
    .ofList [("min", .text "x"), ("zeal", .bool true), ("max", .null), ("step", .null)]
  obtain ⟨hanswers, -, -, herror, hsame⟩ := performAll_independent "length" options
    [⟨.texts, "min"⟩, ⟨.count, "max"⟩, ⟨.count, "min"⟩, ⟨.text, "min"⟩]
  have hleast : options.LeastUnknown ["min", "max", "min", "min"] "step" :=
    ⟨by decide, by decide, by decide⟩
  have hstep := (herror _).2 ⟨"step", hleast, rfl⟩
  refine ⟨options, rfl, hanswers.trans rfl, hstep, ?_⟩
  rw [← hsame [⟨.object, "max"⟩, ⟨.list, "min"⟩] (by simp [or_comm]), hstep]

end OptionReader

end Vetting
