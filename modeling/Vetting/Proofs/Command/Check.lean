import Vetting.Command.Output
import Vetting.Proofs.Json.RoundTrip
import Vetting.Proofs.Schema.Document
import Vetting.Proofs.Steps
import Vetting.Regex.Size

/-!
# Checking is all or nothing

The command loads everything before it writes anything.  So an error leaves the output as it was,
however many documents have been validated by then, and without an error the output and the exit
code are those of all reports.

* `Writing.Writes` says what a command comes to and what it writes.  It is put together as commands
  are (`Writes.bind`, `Writes.bind_error`), and the one thing to see is that everything up to the
  first write writes nothing.  `writes_checkTo` gives what the command as a whole comes to, which is
  `Command.check`.
* `FirstProblem` says which error is reported, without running anything: the problem of the schema
  if it has one, and otherwise the problem of the first document that has one.  Neither looks at
  what comes later.
-/

namespace Vetting

namespace Command

variable {registry : Registry} {files : String → Option String} {request : CheckRequest}
  {path : String} {aggregation : Aggregation} {schema : CompiledSchema} {e : CheckError}

/-! ## What a command writes -/

namespace Writing

variable {α β : Type}

/-- A command comes to a result and adds a text to its output. -/
def Writes (m : Writing α) (result : Except CheckError α) (text : String) : Prop :=
  ∀ written, m.run written = (result, written ++ text)

theorem writes_pure (a : α) : Writes (pure a) (.ok a) "" := fun written => by
  rw [String.append_empty]
  rfl

theorem writes_write (text : String) : Writes (write text) (.ok ()) text := fun _ => rfl

theorem writes_ofExcept {x result : Except CheckError α} (h : x = result) :
    Writes (ofExcept x) result "" := fun written => by
  rw [String.append_empty, ← h]
  rfl

/-- **What a command writes stands before what the next one writes.** -/
theorem Writes.bind {m : Writing α} {f : α → Writing β} {a : α} {result : Except CheckError β}
    {first second : String} (hm : m.Writes (.ok a) first) (hf : (f a).Writes result second) :
    (m >>= f).Writes result (first ++ second) := by
  intro written
  have hfirst : m written = (.ok a, written ++ first) := hm written
  show (match m written with | (x, after) => ExceptT.bindCont f x after) = _
  rw [hfirst, ← String.append_assoc]
  exact hf (written ++ first)

/-- After an error nothing is written. -/
theorem Writes.bind_error {m : Writing α} {f : α → Writing β} {e : CheckError} {text : String}
    (hm : m.Writes (.error e) text) : (m >>= f).Writes (.error e) text := by
  intro written
  have hfirst : m written = (.error e, written ++ text) := hm written
  show (match m written with | (x, after) => ExceptT.bindCont f x after) = _
  rw [hfirst]
  rfl

/-- Commands that write nothing come to what their results come to. -/
theorem Writes.bind_quiet {m : Writing α} {f : α → Writing β} {x : Except CheckError α}
    {g : α → Except CheckError β} (hm : m.Writes x "") (hf : ∀ a, (f a).Writes (g a) "") :
    (m >>= f).Writes (x >>= g) "" := by
  cases x with
  | error e => exact hm.bind_error
  | ok a => exact hm.bind (hf a)

end Writing

open Writing

/-- Loading and validating writes nothing. -/
theorem writes_gather (schema : CompiledSchema) (files : String → Option String)
    (paths : List String) :
    (gather schema files paths).Writes (reports schema files paths) "" := by
  induction paths with
  | nil => exact writes_pure []
  | cons path rest ih =>
    rw [gather, reports]
    exact (writes_ofExcept rfl).bind_quiet fun j =>
      ih.bind_quiet fun documents => writes_pure ((path, schema.validate (.ofJson j)) :: documents)

theorem writes_writeErrors (entries : List (String × String)) :
    (writeErrors entries).Writes (.ok ())
      (String.join
        (entries.map fun (field, message) => "  " ++ field ++ ": " ++ message ++ "\n")) := by
  induction entries with
  | nil => exact writes_pure ()
  | cons entry rest ih =>
    rw [List.map_cons, String.join_cons]
    exact (writes_write _).bind ih

theorem writes_writeText (documents : List (String × Report)) :
    (writeText documents).Writes (.ok ()) (String.join (documents.map textReport)) := by
  induction documents with
  | nil => exact writes_pure ()
  | cons document rest ih =>
    obtain ⟨name, report⟩ := document
    rw [List.map_cons, String.join_cons, textReport, writeText]
    cases report.isValid with
    | true => exact (writes_write _).bind ih
    | false =>
      rw [if_neg Bool.false_ne_true, if_neg Bool.false_ne_true]
      rw [String.append_assoc]
      exact (writes_write _).bind ((writes_writeErrors report.errors.entries).bind ih)

theorem writes_writeReports (format : OutputFormat) (documents : List (String × Report)) :
    (writeReports format documents).Writes (.ok ()) (render format documents) := by
  cases format with
  | text => exact writes_writeText documents
  | json => exact (writes_write _).bind (writes_write "\n")

/-- **The command writes the output of its answer, and nothing if there is an error.** -/
theorem writes_checkTo (registry : Registry) (files : String → Option String)
    (request : CheckRequest) :
    match check registry files request with
    | .ok answer => (checkTo registry files request).Writes (.ok answer.code) answer.output
    | .error e => (checkTo registry files request).Writes (.error e) "" := by
  rw [check]
  cases hload : loadSchema registry files request.schema request.aggregation with
  | error e => exact (writes_ofExcept hload).bind_error
  | ok schema =>
    have hgather := writes_gather schema files request.documents
    rw [ok_bind]
    cases hreports : reports schema files request.documents with
    | error e =>
      rw [hreports] at hgather
      have hall : (checkTo registry files request).Writes (.error e) ("" ++ "") :=
        (writes_ofExcept hload).bind hgather.bind_error
      exact hall
    | ok documents =>
      rw [hreports] at hgather
      have hwrite := writes_writeReports request.format documents
      have hall : (checkTo registry files request).Writes
          (.ok (if documents.all fun document => document.2.isValid then validCode
            else invalidCode))
          ("" ++ ("" ++ (render request.format documents ++ ""))) :=
        (writes_ofExcept hload).bind (hgather.bind (hwrite.bind (writes_pure _)))
      rw [String.empty_append, String.empty_append, String.append_empty] at hall
      exact hall

/-! ## Problems -/

/-- What a text of a format holds. -/
def FileFormat.read? : FileFormat → String → Option Json
  | .json => Json.read?
  | .yaml => Yaml.read?

/-- A file can be loaded, and this is what it holds. -/
inductive Loads (files : String → Option String) (path : String) (j : Json) : Prop
  | intro {format : FileFormat} {text : String} (hformat : formatOf? path = some format)
      (htext : files path = some text) (hread : format.read? text = some j) : Loads files path j

/-- What keeps a file from being loaded: its extension, its contents, or its text. -/
inductive FileProblem (files : String → Option String) (path : String) : CheckError → Prop
  | unsupported (hformat : formatOf? path = none) : FileProblem files path (.unsupported path)
  | unreadable {format : FileFormat} (hformat : formatOf? path = some format)
      (htext : files path = none) : FileProblem files path (.unreadable path)
  | malformed {format : FileFormat} {text : String} (hformat : formatOf? path = some format)
      (htext : files path = some text) (hread : format.read? text = none) :
      FileProblem files path (.malformed path format)

/-- The schema in a file can be loaded and compiled. -/
inductive LoadsSchema (registry : Registry) (files : String → Option String) (path : String)
    (aggregation : Aggregation) (schema : CompiledSchema) : Prop
  | intro {j : Json} {s : Schema} (hfile : Loads files path j) (hshape : Schema.ofJson j = .ok s)
      (hrules : registry.compile s aggregation = .ok schema) :
      LoadsSchema registry files path aggregation schema

/-- What is wrong with the schema in a file: the file, or else its shape, or else its rules. -/
inductive SchemaProblem (registry : Registry) (files : String → Option String) (path : String)
    (aggregation : Aggregation) : CheckError → Prop
  | file {e : CheckError} (h : FileProblem files path e) :
      SchemaProblem registry files path aggregation e
  | shape {j : Json} {cause : ConfigError} (hfile : Loads files path j)
      (h : Schema.FirstOffence j cause) :
      SchemaProblem registry files path aggregation (.badSchema path cause)
  | rules {j : Json} {s : Schema} {cause : SetupError} (hfile : Loads files path j)
      (hshape : Schema.ofJson j = .ok s) (h : registry.compile s aggregation = .error cause) :
      SchemaProblem registry files path aggregation (.badRules path cause)

/-- The first problem of a request: that of the schema, or else that of a document before which all
documents can be loaded. -/
inductive FirstProblem (registry : Registry) (files : String → Option String)
    (request : CheckRequest) : CheckError → Prop
  | schema {e : CheckError}
      (h : SchemaProblem registry files request.schema request.aggregation e) :
      FirstProblem registry files request e
  | document {schema : CompiledSchema} {before after : List String} {path : String}
      {e : CheckError}
      (hschema : LoadsSchema registry files request.schema request.aggregation schema)
      (hdocuments : request.documents = before ++ path :: after)
      (hbefore : ∀ p ∈ before, ∃ j, Loads files p j) (h : FileProblem files path e) :
      FirstProblem registry files request e

theorem load_eq {format : FileFormat} {text : String} (hformat : formatOf? path = some format)
    (htext : files path = some text) :
    load files path = match format.read? text with
      | none => .error (.malformed path format)
      | some j => .ok j := by
  rw [load, hformat]
  dsimp only
  rw [htext]
  cases format <;> rfl

/-- A file either loads or has a problem. -/
theorem load_cases (files : String → Option String) (path : String) :
    (∃ j, Loads files path j ∧ load files path = .ok j) ∨
      ∃ e, FileProblem files path e ∧ load files path = .error e := by
  cases hformat : formatOf? path with
  | none =>
    refine Or.inr ⟨_, .unsupported hformat, ?_⟩
    rw [load, hformat]
  | some format =>
    cases htext : files path with
    | none =>
      refine Or.inr ⟨_, .unreadable hformat htext, ?_⟩
      rw [load, hformat]
      dsimp only
      rw [htext]
    | some text =>
      have hload := load_eq hformat htext
      cases hread : format.read? text with
      | none => exact Or.inr ⟨_, .malformed hformat htext hread, by rw [hload, hread]⟩
      | some j => exact Or.inl ⟨j, .intro hformat htext hread, by rw [hload, hread]⟩

theorem load_eq_ok_iff {j : Json} : load files path = .ok j ↔ Loads files path j := by
  constructor
  · intro h
    rcases load_cases files path with ⟨i, hloads, hi⟩ | ⟨e, -, he⟩
    · rw [h] at hi
      rwa [Except.ok.inj hi]
    · rw [h] at he
      cases he
  · rintro ⟨hformat, htext, hread⟩
    rw [load_eq hformat htext, hread]

theorem load_eq_error_iff : load files path = .error e ↔ FileProblem files path e := by
  constructor
  · intro h
    rcases load_cases files path with ⟨i, -, hi⟩ | ⟨f, hproblem, hf⟩
    · rw [h] at hi
      cases hi
    · rw [h] at hf
      rwa [Except.error.inj hf]
  · intro h
    cases h with
    | unsupported hformat => rw [load, hformat]
    | unreadable hformat htext =>
      rw [load, hformat]
      dsimp only
      rw [htext]
    | malformed hformat htext hread => rw [load_eq hformat htext, hread]

theorem loadSchema_eq_ok_iff :
    loadSchema registry files path aggregation = .ok schema ↔
      LoadsSchema registry files path aggregation schema := by
  rw [loadSchema]
  simp only [bind_eq_ok_iff, mapError_eq_ok_iff, load_eq_ok_iff]
  constructor
  · rintro ⟨j, hfile, s, hshape, hrules⟩
    exact .intro hfile hshape hrules
  · rintro ⟨hfile, hshape, hrules⟩
    exact ⟨_, hfile, _, hshape, hrules⟩

/-- **The schema is refused for its file, or else its shape, or else its rules.** -/
theorem loadSchema_eq_error_iff :
    loadSchema registry files path aggregation = .error e ↔
      SchemaProblem registry files path aggregation e := by
  rw [loadSchema]
  simp only [bind_eq_error_iff, mapError_eq_ok_iff, mapError_eq_error_iff, load_eq_ok_iff,
    load_eq_error_iff, Schema.ofJson_eq_error_iff]
  constructor
  · rintro (h | ⟨j, hfile, ⟨cause, h, rfl⟩ | ⟨s, hshape, cause, h, rfl⟩⟩)
    · exact .file h
    · exact .shape hfile h
    · exact .rules hfile hshape h
  · intro h
    cases h with
    | file h => exact Or.inl h
    | shape hfile h => exact Or.inr ⟨_, hfile, Or.inl ⟨_, h, rfl⟩⟩
    | rules hfile hshape h => exact Or.inr ⟨_, hfile, Or.inr ⟨_, hshape, _, h, rfl⟩⟩

/-- Documents are reported on one by one. -/
theorem reports_eq_mapM (schema : CompiledSchema) (files : String → Option String)
    (paths : List String) :
    reports schema files paths =
      paths.mapM fun path =>
        (load files path).map fun j => (path, schema.validate (.ofJson j)) := by
  induction paths with
  | nil => rfl
  | cons path rest ih =>
    rw [reports, List.mapM_cons, ih]
    cases load files path with
    | error e => rfl
    | ok j => rfl

/-- The entry of a document among the reports. -/
def ReportOf (schema : CompiledSchema) (files : String → Option String) (path : String)
    (document : String × Report) : Prop :=
  ∃ j, Loads files path j ∧ document = (path, schema.validate (.ofJson j))

theorem reports_eq_ok_iff {paths : List String} {documents : List (String × Report)} :
    reports schema files paths = .ok documents ↔
      List.Forall₂ (ReportOf schema files) paths documents := by
  rw [reports_eq_mapM, mapM_eq_ok_iff]
  simp only [map_eq_ok_iff, load_eq_ok_iff]
  refine Iff.of_eq (congrArg (fun related => List.Forall₂ related paths documents) ?_)
  funext path document
  exact propext (exists_congr fun j => and_congr Iff.rfl eq_comm)

theorem reports_eq_error_iff {paths : List String} :
    reports schema files paths = .error e ↔
      ∃ before path after, paths = before ++ path :: after ∧
        (∀ p ∈ before, ∃ j, Loads files p j) ∧ FileProblem files path e := by
  rw [reports_eq_mapM, mapM_eq_error_iff, failsFirst_map, FailsFirst]
  simp only [load_eq_ok_iff, load_eq_error_iff]

/-! ## The command as a whole -/

theorem check_eq_error_iff : check registry files request = .error e ↔
    FirstProblem registry files request e := by
  rw [check, bind_eq_error_iff]
  simp only [loadSchema_eq_ok_iff, loadSchema_eq_error_iff, bind_eq_error_iff, reports_eq_error_iff]
  constructor
  · rintro (h | ⟨schema, hschema, ⟨before, path, after, hdocuments, hbefore, h⟩ | ⟨_, _, h⟩⟩)
    · exact .schema h
    · exact .document hschema hdocuments hbefore h
    · cases h
  · intro h
    cases h with
    | schema h => exact Or.inl h
    | document hschema hdocuments hbefore h =>
      exact Or.inr ⟨_, hschema, Or.inl ⟨_, _, _, hdocuments, hbefore, h⟩⟩

theorem check_eq_ok_iff {answer : Answer} : check registry files request = .ok answer ↔
    ∃ schema documents,
      LoadsSchema registry files request.schema request.aggregation schema ∧
      List.Forall₂ (ReportOf schema files) request.documents documents ∧
      answer = ⟨if documents.all fun document => document.2.isValid then validCode
        else invalidCode, render request.format documents⟩ := by
  rw [check, bind_eq_ok_iff]
  simp only [loadSchema_eq_ok_iff, bind_eq_ok_iff, reports_eq_ok_iff]
  constructor
  · rintro ⟨schema, hschema, documents, hdocuments, h⟩
    exact ⟨schema, documents, hschema, hdocuments, (Except.ok.inj h).symm⟩
  · rintro ⟨schema, documents, hschema, hdocuments, rfl⟩
    exact ⟨schema, hschema, documents, hdocuments, rfl⟩

theorem run_checkTo (registry : Registry) (files : String → Option String)
    (request : CheckRequest) (written : String) :
    (checkTo registry files request).run written = match check registry files request with
      | .ok answer => (.ok answer.code, written ++ answer.output)
      | .error e => (.error e, written) := by
  have hwrites := writes_checkTo registry files request
  cases hcheck : check registry files request with
  | ok answer =>
    rw [hcheck] at hwrites
    exact hwrites written
  | error e =>
    rw [hcheck] at hwrites
    have hrun := hwrites written
    rwa [String.append_empty] at hrun

/-- How the reports are written is no matter to the exit code, or to the error. -/
theorem map_code_check (format : OutputFormat) :
    (check registry files { request with format }).map Answer.code =
      (check registry files request).map Answer.code := by
  rw [check, check]
  cases loadSchema registry files request.schema request.aggregation with
  | error e => rfl
  | ok schema =>
    rw [ok_bind, ok_bind]
    cases reports schema files request.documents <;> rfl

theorem fst_run_checkTo (registry : Registry) (files : String → Option String)
    (request : CheckRequest) (written : String) :
    ((checkTo registry files request).run written).1 =
      (check registry files request).map Answer.code := by
  rw [run_checkTo]
  cases check registry files request <;> rfl

/-- The exit code says whether all documents have passed. -/
theorem exitCode_eq_iff {documents : List (String × Report)} {code : Nat} :
    code = (if documents.all fun document => document.2.isValid then validCode
      else invalidCode) ↔
      (∀ document ∈ documents, document.2.isValid = true) ∧ code = 0 ∨
        (∃ document ∈ documents, document.2.isValid = false) ∧ code = 2 := by
  cases hall : documents.all fun document => document.2.isValid with
  | true =>
    have hvalid := List.all_eq_true.1 hall
    rw [if_pos rfl]
    constructor
    · exact fun h => Or.inl ⟨hvalid, h⟩
    · rintro (⟨-, h⟩ | ⟨⟨document, hmem, hinvalid⟩, -⟩)
      · exact h
      · rw [hvalid document hmem] at hinvalid
        cases hinvalid
  | false =>
    obtain ⟨document, hmem, hinvalid⟩ := List.all_eq_false.1 hall
    have hfalse : document.2.isValid = false := by simpa using hinvalid
    rw [if_neg Bool.false_ne_true]
    constructor
    · exact fun h => Or.inr ⟨⟨document, hmem, hfalse⟩, h⟩
    · rintro (⟨hvalid, -⟩ | ⟨-, h⟩)
      · rw [hvalid document hmem] at hfalse
        cases hfalse
      · exact h

/-- A document that is added at the end is no matter where there is a problem already. -/
theorem FirstProblem.append (h : FirstProblem registry files request e) (more : List String) :
    FirstProblem registry files { request with documents := request.documents ++ more } e := by
  cases h with
  | schema h => exact .schema h
  | @document schema before after path e hschema hdocuments hbefore h =>
    have hsplit : request.documents ++ more = before ++ path :: (after ++ more) := by
      rw [hdocuments, List.append_assoc, List.cons_append]
    exact .document hschema hsplit hbefore h

/-- **Checking is all or nothing and reports the first problem.**  If it ends with an error, the
output is as it was before, and the error is the first problem of the request.  Without an error
the reports on all documents have been written, and the exit code is 0 if all are valid and 2
otherwise.  How the reports are written changes neither the error nor the exit code.  A problem of
the schema is reported whatever the documents are, and the error of a document whatever comes after
it. -/
theorem checkTo_all_or_nothing (registry : Registry) (files : String → Option String)
    (request : CheckRequest) (written : String) :
    (∀ e after, (checkTo registry files request).run written = (.error e, after) ↔
      FirstProblem registry files request e ∧ after = written) ∧
    (∀ code after, (checkTo registry files request).run written = (.ok code, after) ↔
      ∃ schema documents,
        LoadsSchema registry files request.schema request.aggregation schema ∧
        List.Forall₂ (ReportOf schema files) request.documents documents ∧
        after = written ++ render request.format documents ∧
        ((∀ document ∈ documents, document.2.isValid = true) ∧ code = 0 ∨
          (∃ document ∈ documents, document.2.isValid = false) ∧ code = 2)) ∧
    (∀ format, ((checkTo registry files { request with format }).run written).1 =
      ((checkTo registry files request).run written).1) ∧
    (∀ e, SchemaProblem registry files request.schema request.aggregation e →
      ∀ documents, (checkTo registry files { request with documents }).run written =
        (.error e, written)) ∧
    (∀ e after more, (checkTo registry files request).run written = (.error e, after) →
      (checkTo registry files { request with documents := request.documents ++ more }).run
        written = (.error e, after)) := by
  have herror : ∀ q e after, (checkTo registry files q).run written = (.error e, after) ↔
      FirstProblem registry files q e ∧ after = written := by
    intro q e after
    rw [run_checkTo, ← check_eq_error_iff]
    cases check registry files q with
    | ok answer => exact iff_of_false (fun h => nomatch h) fun h => nomatch h.1
    | error f =>
      rw [Prod.mk.injEq, Except.error.injEq, Except.error.injEq, eq_comm (a := written)]
  refine ⟨herror request, fun code after => ?_, fun format => ?_, fun e h documents => ?_,
    fun e after more h => ?_⟩
  · have hok : (checkTo registry files request).run written = (.ok code, after) ↔
        ∃ answer, check registry files request = .ok answer ∧ answer.code = code ∧
          after = written ++ answer.output := by
      rw [run_checkTo]
      cases check registry files request with
      | error f => exact iff_of_false (fun h => nomatch h) fun ⟨_, h, _⟩ => nomatch h
      | ok answer =>
        constructor
        · rintro ⟨⟩
          exact ⟨answer, rfl, rfl, rfl⟩
        · rintro ⟨_, ⟨⟩, rfl, rfl⟩
          rfl
    rw [hok]
    simp only [check_eq_ok_iff, ← exitCode_eq_iff]
    constructor
    · rintro ⟨_, ⟨schema, documents, hschema, hdocuments, rfl⟩, rfl, hafter⟩
      exact ⟨schema, documents, hschema, hdocuments, hafter, rfl⟩
    · rintro ⟨schema, documents, hschema, hdocuments, hafter, rfl⟩
      exact ⟨_, ⟨schema, documents, hschema, hdocuments, rfl⟩, rfl, hafter⟩
  · rw [fst_run_checkTo, fst_run_checkTo, map_code_check]
  · exact (herror _ e written).2 ⟨.schema h, rfl⟩
  · obtain ⟨hproblem, rfl⟩ := (herror request e after).1 h
    exact (herror _ e after).2 ⟨hproblem.append more, rfl⟩

section

attribute [local instance] Regex.Engine.standard

/-- A schema with a single rule. -/
def singleRule (field rule : String) : Json :=
  .object [(field, .object [("rules", .array [.text rule])])]

theorem plain_singleRule (field rule : String) :
    Json.Plain Json.nestingLimit (singleRule field rule) := by
  have hrules : Json.Plain 126 (.object [("rules", .array [.text rule])]) :=
    ⟨List.pairwise_singleton _ _, List.forall_mem_singleton.2 (List.forall_mem_singleton.2 trivial)⟩
  exact ⟨List.pairwise_singleton _ _, List.forall_mem_singleton.2 hrules⟩

/-- A document with a name. -/
def named : Json := .object [("name", .text "A")]

/-- A schema that asks for a name, one with a rule that nobody has defined, and two documents, the
first of which has a name. -/
def exampleFiles (path : String) : Option String :=
  if path = "schema.json" then some (singleRule "name" "required").pretty
  else if path = "undefined.json" then some (singleRule "name" "unheard of").pretty
  else if path = "a.json" then some named.pretty
  else if path = "b.json" then some "\x7b\x7d"
  else none

/-- A rule that is not defined keeps the documents from being loaded, and a second document that is
none keeps the third one, which cannot be read, from being mentioned; nothing is written then.
Otherwise the documents are reported on, and the exit code tells whether the second one is among
them. -/
theorem checkTo_all_or_nothing_required :
    (checkTo .builtins exampleFiles ⟨"undefined.json", ["c.json"], .lastFailure, .text⟩).run
        "earlier\n" =
      (.error (.badRules "undefined.json" (.notFound "unheard of")), "earlier\n") ∧
    (∀ format, (checkTo .builtins exampleFiles
      ⟨"schema.json", ["a.json", "notes.txt", "c.json"], .lastFailure, format⟩).run "earlier\n" =
        (.error (.unsupported "notes.txt"), "earlier\n")) ∧
    (checkTo .builtins exampleFiles ⟨"schema.json", ["a.json"], .lastFailure, .text⟩).run
        "earlier\n" = (.ok 0, "earlier\na.json: ok\n") ∧
    (checkTo .builtins exampleFiles ⟨"schema.json", ["a.json", "b.json"], .lastFailure, .text⟩).run
        "earlier\n" =
      (.ok 2, "earlier\na.json: ok\nb.json: invalid\n  name: Cannot be empty.\n") := by
  have hformat : ∀ path ∈ ["undefined.json", "schema.json", "a.json", "b.json"],
      formatOf? path = some .json := by decide
  have hundefined : Loads exampleFiles "undefined.json" (singleRule "name" "unheard of") :=
    .intro (hformat _ (by simp)) rfl (Json.read?_pretty_of_plain (plain_singleRule _ _))
  have hschema : LoadsSchema .builtins exampleFiles "schema.json" .lastFailure
      ⟨[("name", ⟨[Builtin.required], .lastFailure⟩)]⟩ :=
    .intro (.intro (hformat _ (by simp)) rfl
      (Json.read?_pretty_of_plain (plain_singleRule "name" "required"))) rfl rfl
  have hnamed : Json.Plain Json.nestingLimit named :=
    ⟨List.pairwise_singleton _ _, List.forall_mem_singleton.2 trivial⟩
  have ha : Loads exampleFiles "a.json" named :=
    .intro (hformat _ (by simp)) rfl (Json.read?_pretty_of_plain hnamed)
  have hb : Loads exampleFiles "b.json" (.object []) := .intro (hformat _ (by simp)) rfl rfl
  refine ⟨?rules, fun format => ?document, ?valid, ?invalid⟩
  case rules =>
    exact ((checkTo_all_or_nothing _ _ _ _).1 _ _).2 ⟨.schema (.rules hundefined rfl rfl), rfl⟩
  case document =>
    have hbefore : ∀ p ∈ ["a.json"], ∃ j, Loads exampleFiles p j :=
      List.forall_mem_singleton.2 ⟨_, ha⟩
    exact ((checkTo_all_or_nothing _ _ _ _).1 _ _).2
      ⟨.document hschema rfl hbefore (.unsupported (by decide)), rfl⟩
  case valid =>
    refine ((checkTo_all_or_nothing _ _ _ _).2.1 _ _).2
      ⟨_, _, hschema, .cons ⟨_, ha, rfl⟩ .nil, by decide, Or.inl ⟨?_, rfl⟩⟩
    exact List.forall_mem_singleton.2 (by decide)
  case invalid =>
    refine ((checkTo_all_or_nothing _ _ _ _).2.1 _ _).2
      ⟨_, _, hschema, .cons ⟨_, ha, rfl⟩ (.cons ⟨_, hb, rfl⟩ .nil), by decide, Or.inr ⟨?_, rfl⟩⟩
    exact ⟨_, List.mem_cons_of_mem _ List.mem_cons_self, by decide⟩

end

end Command

end Vetting
