import Vetting.Proofs.Command.Check
import Vetting.Proofs.Json.RoundTrip

/-!
# The two formats say the same

A run can write its reports for people or for programs.  The output for programs is read back as an
array with an entry for each document, whatever stands in the names of documents and fields and in
the messages, and the entries hold all that the output for people says: it can be written from them
alone.
-/

namespace Vetting

namespace Command

open Json

variable {registry : Registry} {files : String → Option String} {request : CheckRequest}
  {code depth d : Nat} {written after : String}

/-- What the output says of a document. -/
structure Entry where
  document : String
  valid : Bool
  errors : Dict String

namespace Entry

/-- The entry for programs, an object of three fields. -/
def json (e : Entry) : Json :=
  .object [
    ("document", .text e.document),
    ("errors", .object (e.errors.entries.map fun (field, message) => (field, .text message))),
    ("valid", .bool e.valid)]

/-- The entry for people, a line for the document and one for each error. -/
def lines (e : Entry) : String :=
  e.document ++ if e.valid then ": ok\n" else
    ": invalid\n" ++ String.join (e.errors.entries.map fun (field, message) =>
      "  " ++ field ++ ": " ++ message ++ "\n")

/-- The entry of a report. -/
def ofReport (document : String × Report) : Entry :=
  ⟨document.1, document.2.isValid, document.2.errors⟩

end Entry

/-- The entry of a document that can be loaded has an error for each field that fails, with its
message, and is valid without errors. -/
structure EntryOf (schema : CompiledSchema) (files : String → Option String) (path : String)
    (e : Entry) : Prop where
  document : e.document = path
  valid : e.valid = true ↔ e.errors = .empty
  errors : ∃ j, Loads files path j ∧ ∀ field message, e.errors.find? field = some message ↔
    ∃ f, schema.field? field = some f ∧
      (f.validate ((Value.ofJson j).get field)).error = some message

/-! ## Reading the entries back -/

/-- The fields of an entry are written in another order than they are read back in. -/
theorem ofFields_entry (document valid errors : Json) :
    ofFields [("document", document), ("valid", valid), ("errors", errors)] =
      .object [("document", document), ("errors", errors), ("valid", valid)] := by
  simp +decide only [ofFields, Dict.ofList, Dict.insertAll, List.foldl_cons, List.foldl_nil,
    Dict.insert, Dict.empty, Entries.insert, if_true, if_false]

theorem readsAs_jsonReport (document : String × Report) :
    ReadsAs (depth + 2) (prettyAt d (jsonReport document)).toList
      (Entry.ofReport document).json := by
  obtain ⟨path, report⟩ := document
  let errors := report.errors.entries.map fun (field, message) => (field, Json.text message)
  have hascending : Ascending errors := List.pairwise_map.2 report.errors.ascending
  have herrors : Plain (depth + 1) (.object errors) := by
    refine ⟨hascending, fun field hfield => ?_⟩
    obtain ⟨⟨name, message⟩, -, rfl⟩ := List.mem_map.1 hfield
    cases depth <;> exact trivial
  have hfields : List.Forall₂ (fun f g => f.1 = g.1 ∧
      ReadsAs (depth + 1) (prettyAt (d + 1) f.2).toList g.2)
      [("document", .text path), ("valid", .bool report.isValid), ("errors", .object errors)]
      [("document", .text path), ("valid", .bool report.isValid), ("errors", .object errors)] :=
    .cons ⟨rfl, readsAs_text path⟩ (.cons ⟨rfl, readsAs_bool report.isValid⟩
      (.cons ⟨rfl, readsAs_of_plain herrors (d + 1)⟩ .nil))
  have hobject := readsAs_object (d := d) hfields
  rw [ofFields_entry] at hobject
  exact hobject

theorem read?_render (documents : List (String × Report)) :
    Json.read? (render .json documents) =
      some (.array ((documents.map Entry.ofReport).map Entry.json)) := by
  have hentries : List.Forall₂ (fun i j => ReadsAs 126 (prettyAt 1 i).toList j)
      (documents.map jsonReport) ((documents.map Entry.ofReport).map Entry.json) := by
    rw [List.map_map, List.forall₂_map_left_iff, List.forall₂_map_right_iff]
    exact List.forall₂_same.2 fun document _ => readsAs_jsonReport document
  exact read?_append_of_readsAs (readsAs_array hentries) (List.forall_mem_singleton.2 rfl)

theorem render_text (documents : List (String × Report)) :
    render .text documents = String.join ((documents.map Entry.ofReport).map Entry.lines) := by
  have hlines : ∀ document, textReport document = (Entry.ofReport document).lines := by
    rintro ⟨path, report⟩
    rw [textReport, Entry.lines, Entry.ofReport]
    cases report.isValid with
    | true => rfl
    | false => rw [if_neg Bool.false_ne_true, if_neg Bool.false_ne_true, String.append_assoc]
  rw [List.map_map, render, List.map_congr_left fun document _ => hlines document]
  rfl

/-! ## The formats of one run -/

theorem entryOf_ofReport {schema : CompiledSchema} (hnodup : (schema.fields.map (·.1)).Nodup)
    {path : String} {document : String × Report} (h : ReportOf schema files path document) :
    EntryOf schema files path (Entry.ofReport document) := by
  obtain ⟨j, hloads, rfl⟩ := h
  refine ⟨rfl, ?_, j, hloads, fun field message => ?_⟩
  · rw [Entry.ofReport, CompiledSchema.isValid_validate, Dict.isEmpty_iff]
  · rw [Entry.ofReport, CompiledSchema.find?_errors_validate hnodup, Option.bind_eq_some_iff]

/-- **The two formats say the same.**  A request that comes to an exit code does so in both formats.
The output for programs is read back as an array with one entry for each document, in the order of
the request, and the output for people consists of the lines of these entries. -/
theorem checkTo_formats_agree
    (h : (checkTo registry files request).run written = (.ok code, after)) :
    ∃ schema entries output,
      LoadsSchema registry files request.schema request.aggregation schema ∧
      List.Forall₂ (EntryOf schema files) request.documents entries ∧
      (checkTo registry files { request with format := .json }).run written =
        (.ok code, written ++ output) ∧
      Json.read? output = some (.array (entries.map Entry.json)) ∧
      (checkTo registry files { request with format := .text }).run written =
        (.ok code, written ++ String.join (entries.map Entry.lines)) := by
  rw [run_checkTo] at h
  cases hcheck : check registry files request with
  | error e =>
    rw [hcheck] at h
    cases h
  | ok answer =>
    rw [hcheck] at h
    cases h
    obtain ⟨schema, documents, hschema, hdocuments, hanswer⟩ := check_eq_ok_iff.1 hcheck
    have hrun (format : OutputFormat) :
        (checkTo registry files { request with format }).run written =
          (.ok answer.code, written ++ render format documents) := by
      have hformat : check registry files { request with format } =
          .ok ⟨answer.code, render format documents⟩ :=
        check_eq_ok_iff.2 ⟨schema, documents, hschema, hdocuments, by rw [hanswer]⟩
      rw [run_checkTo, hformat]
    refine ⟨schema, documents.map Entry.ofReport, _, hschema, ?_, hrun .json,
      read?_render documents, ?_⟩
    · obtain ⟨_, hshape, hrules⟩ := hschema
      have hnodup := Registry.nodup_names_of_compile (.ofJson hshape) hrules
      rw [List.forall₂_map_right_iff]
      exact hdocuments.imp fun _ _ => entryOf_ofReport hnodup
    · rw [hrun .text, render_text]

/-- A schema with a quote in the name of its field. -/
def quotedSchema : Json := .object [("a\"b", .object [("rules", .array [.text "never"])])]

/-- A document with quotes and a line feed in its own name. -/
def quotedFiles (path : String) : Option String :=
  if path = "schema.json" then some quotedSchema.pretty
  else if path = "\"\n\".json" then some "[]"
  else none

theorem plain_quotedSchema : Plain nestingLimit quotedSchema := plain_singleRule _ _

/-- Quotes and a line feed in the names and in the message of a document that is checked twice. -/
theorem checkTo_formats_agree_quoted :
    let registry := Registry.empty.defineCustom "never" "Not \"so\"." fun _ => false
    let documents := ["\"\n\".json", "\"\n\".json"]
    let lines := "\"\n\".json: invalid\n  a\"b: Not \"so\".\n"
    (checkTo registry quotedFiles ⟨"schema.json", documents, .lastFailure, .text⟩).run "" =
      (.ok 2, lines ++ lines) ∧
    ∃ schema entries output,
      LoadsSchema registry quotedFiles "schema.json" .lastFailure schema ∧
      List.Forall₂ (EntryOf schema quotedFiles) documents entries ∧
      (checkTo registry quotedFiles ⟨"schema.json", documents, .lastFailure, .json⟩).run "" =
        (.ok 2, "" ++ output) ∧
      Json.read? output = some (.array (entries.map Entry.json)) ∧
      (checkTo registry quotedFiles ⟨"schema.json", documents, .lastFailure, .text⟩).run "" =
        (.ok 2, "" ++ String.join (entries.map Entry.lines)) := by
  intro registry documents lines
  let schema : CompiledSchema :=
    ⟨[("a\"b", ⟨[.custom "never" "Not \"so\"." (some fun _ => false)], .lastFailure⟩)]⟩
  have hschemaFormat : formatOf? "schema.json" = some .json := by decide
  have hdocumentFormat : formatOf? "\"\n\".json" = some .json := by decide
  have hschema : LoadsSchema registry quotedFiles "schema.json" .lastFailure schema :=
    .intro (.intro hschemaFormat rfl (read?_pretty_of_plain plain_quotedSchema)) rfl rfl
  have hreport : ReportOf schema quotedFiles "\"\n\".json"
      ("\"\n\".json", schema.validate (.ofJson (.array []))) :=
    ⟨.array [], .intro hdocumentFormat rfl rfl, rfl⟩
  have hcheck : check registry quotedFiles ⟨"schema.json", documents, .lastFailure, .text⟩ =
      .ok ⟨2, lines ++ lines⟩ :=
    check_eq_ok_iff.2 ⟨schema, _, hschema, .cons hreport (.cons hreport .nil), rfl⟩
  have hrun : (checkTo registry quotedFiles ⟨"schema.json", documents, .lastFailure, .text⟩).run
      "" = (.ok 2, lines ++ lines) := by
    rw [run_checkTo, hcheck, ← String.empty_append (s := lines ++ lines)]
    rfl
  exact ⟨hrun, checkTo_formats_agree hrun⟩

end Command

end Vetting
