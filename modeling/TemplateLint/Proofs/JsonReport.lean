import Mathlib.Data.List.Forall2
import TemplateLint.Proofs.JsonText
import TemplateLint.Proofs.Reading
import TemplateLint.Report.Format

/-!
# The JSON report loses nothing

The report of a result is one whole JSON document, the same on one line and over several. It says of every
diagnostic, in order, all there is to say, and it has the six counts and the time in milliseconds. Two
results that differ in a diagnostic or in a number of the summary have different reports.

What a value has to say about a result is stated by its keys and what stands under them
(`Json.DescribesResult`), so that the order of members does not matter.
-/

namespace TemplateLint

theorem Severity.name_injective {s s' : Severity} (h : s.name = s'.name) : s = s' := by
  cases s <;> cases s' <;> first | rfl | exact absurd h (by decide)

/-- The numbers of the summary: the six counts and the duration in whole milliseconds. -/
def LintResult.numbers (r : LintResult) : List Nat :=
  [r.files, r.filesWithErrors, r.filesWithWarnings, r.errors, r.warnings, r.infos,
    r.duration / 1000000]

namespace Json

/-! ### Members in key order -/

theorem insertMember_perm {key : String} {value : α} {ms : List (String × α)}
    (h : key ∉ ms.map (·.1)) : (insertMember key value ms).Perm ((key, value) :: ms) := by
  induction ms with
  | nil => exact .refl _
  | cons m ms ih =>
    obtain ⟨k, v⟩ := m
    rw [List.map_cons, List.mem_cons, not_or] at h
    rw [insertMember]
    split
    · exact .refl _
    · rw [if_neg h.1]
      exact ((ih h.2).cons (k, v)).trans (.swap ..)

theorem foldl_insertMember_perm {ms acc : List (String × α)}
    (h : ((acc ++ ms).map (·.1)).Nodup) :
    (ms.foldl (fun sorted m => insertMember m.1 m.2 sorted) acc).Perm (acc ++ ms) := by
  induction ms generalizing acc with
  | nil => simp
  | cons m ms ih =>
    have hmiddle : (acc ++ m :: ms).Perm (m :: acc ++ ms) := List.perm_middle
    have hnodup : ((m :: acc ++ ms).map (·.1)).Nodup := (hmiddle.map _).nodup_iff.mp h
    have hinsert : (insertMember m.1 m.2 acc).Perm (m :: acc) :=
      insertMember_perm fun hmem => (List.nodup_cons.mp hnodup).1 (by simp_all)
    have hstep := hinsert.append_right ms
    exact ((ih ((hstep.map _).nodup_iff.mpr hnodup)).trans hstep).trans hmiddle.symm

/-- Members of different keys are only put in another order. -/
theorem sortMembers_perm {ms : List (String × α)} (h : (ms.map (·.1)).Nodup) :
    (sortMembers ms).Perm ms :=
  foldl_insertMember_perm h

theorem sortedItems_eq_map (js : List Json) : sortedItems js = js.map sorted := by
  induction js with
  | nil => rfl
  | cons j js ih => rw [sortedItems, ih, List.map_cons]

theorem sortedMembers_eq_map (ms : List (String × Json)) :
    sortedMembers ms = ms.map fun m => (m.1, m.2.sorted) := by
  induction ms with
  | nil => rfl
  | cons m ms ih => rw [sortedMembers, ih, List.map_cons]

theorem keys_sortedMembers (ms : List (String × Json)) :
    (sortedMembers ms).map (·.1) = ms.map (·.1) := by
  rw [sortedMembers_eq_map, List.map_map]
  rfl

theorem lookup_map_value {β : Type} (f : α → β) (ms : List (String × α)) (key : String) :
    (ms.map fun m => (m.1, f m.2)).lookup key = (ms.lookup key).map f := by
  induction ms with
  | nil => rfl
  | cons m ms ih =>
    rw [List.map_cons, List.lookup_cons, List.lookup_cons, ih]
    cases key == m.1 <;> rfl

/-- The keys of an object. -/
def keys (j : Json) : List String := j.members.map (·.1)

theorem keys_sorted {j : Json} (h : j.keys.Nodup) : j.sorted.keys.Perm j.keys := by
  cases j with
  | object ms =>
    have hperm := (sortMembers_perm (by rw [keys_sortedMembers]; exact h)).map (·.1)
    rw [keys_sortedMembers] at hperm
    exact hperm
  | _ => exact .refl _

theorem get?_sorted {j : Json} (h : j.keys.Nodup) (key : String) :
    j.sorted.get? key = (j.get? key).map sorted := by
  cases j with
  | object ms =>
    have hnodup : ((sortedMembers ms).map (·.1)).Nodup := by
      rw [keys_sortedMembers]
      exact h
    show (sortMembers (sortedMembers ms)).lookup key = (ms.lookup key).map sorted
    rw [← List.lookup_perm (sortMembers_perm hnodup).symm hnodup, sortedMembers_eq_map,
      lookup_map_value]
  | _ => rfl

theorem get?_sorted_of_get? {j i : Json} {key : String} (h : j.keys.Nodup)
    (hkey : j.get? key = some i) : j.sorted.get? key = some i.sorted := by
  rw [get?_sorted h, hkey, Option.map_some]

/-! ### What a report says -/

/-- The value says all there is to say about a diagnostic, and nothing else. -/
structure DescribesDiagnostic (j : Json) (d : Diagnostic) : Prop where
  keys : j.keys.Perm (["rule_id", "severity", "message", "file", "line", "column", "source"] ++
    if d.help.isSome then ["help"] else [])
  rule : j.get? "rule_id" = some (.string d.rule)
  severity : j.get? "severity" = some (.string d.severity.name)
  message : j.get? "message" = some (.string d.message)
  file : j.get? "file" = some (.string d.location.file)
  line : j.get? "line" = some (.nat d.location.line.toNat)
  column : j.get? "column" = some (.nat d.location.column.toNat)
  source : j.get? "source" = some (.string d.source)
  help : j.get? "help" = d.help.map .string

/-- The value has the six counts of a result and its duration in whole milliseconds, and nothing
else. -/
structure DescribesSummary (j : Json) (r : LintResult) : Prop where
  keys : j.keys.Perm ["files_processed", "files_with_errors", "files_with_warnings", "error_count",
    "warning_count", "info_count", "duration_ms"]
  files : j.get? "files_processed" = some (.nat r.files)
  filesWithErrors : j.get? "files_with_errors" = some (.nat r.filesWithErrors)
  filesWithWarnings : j.get? "files_with_warnings" = some (.nat r.filesWithWarnings)
  errors : j.get? "error_count" = some (.nat r.errors)
  warnings : j.get? "warning_count" = some (.nat r.warnings)
  infos : j.get? "info_count" = some (.nat r.infos)
  duration : j.get? "duration_ms" = some (.nat (r.duration / 1000000))

/-- The value has the diagnostics of a result in their order and its summary, and nothing else. -/
structure DescribesResult (j : Json) (r : LintResult) : Prop where
  keys : j.keys.Perm ["diagnostics", "summary"]
  diagnostics : ∃ items, j.get? "diagnostics" = some (.array items) ∧
    List.Forall₂ DescribesDiagnostic items r.diagnostics
  summary : ∃ s, j.get? "summary" = some s ∧ s.DescribesSummary r

section

variable {j : Json} {d d' : Diagnostic} {r r' : LintResult}

theorem DescribesDiagnostic.keys_nodup (h : j.DescribesDiagnostic d) : j.keys.Nodup := by
  rw [h.keys.nodup_iff]
  cases d.help with
  | none => decide
  | some _ =>
    show ["rule_id", "severity", "message", "file", "line", "column", "source", "help"].Nodup
    decide

theorem DescribesDiagnostic.sorted (h : j.DescribesDiagnostic d) :
    j.sorted.DescribesDiagnostic d where
  keys := (keys_sorted h.keys_nodup).trans h.keys
  rule := get?_sorted_of_get? h.keys_nodup h.rule
  severity := get?_sorted_of_get? h.keys_nodup h.severity
  message := get?_sorted_of_get? h.keys_nodup h.message
  file := get?_sorted_of_get? h.keys_nodup h.file
  line := get?_sorted_of_get? h.keys_nodup h.line
  column := get?_sorted_of_get? h.keys_nodup h.column
  source := get?_sorted_of_get? h.keys_nodup h.source
  help := by
    rw [get?_sorted h.keys_nodup, h.help]
    cases d.help <;> rfl

theorem DescribesSummary.keys_nodup (h : j.DescribesSummary r) : j.keys.Nodup := by
  rw [h.keys.nodup_iff]
  decide

theorem DescribesSummary.sorted (h : j.DescribesSummary r) : j.sorted.DescribesSummary r where
  keys := (keys_sorted h.keys_nodup).trans h.keys
  files := get?_sorted_of_get? h.keys_nodup h.files
  filesWithErrors := get?_sorted_of_get? h.keys_nodup h.filesWithErrors
  filesWithWarnings := get?_sorted_of_get? h.keys_nodup h.filesWithWarnings
  errors := get?_sorted_of_get? h.keys_nodup h.errors
  warnings := get?_sorted_of_get? h.keys_nodup h.warnings
  infos := get?_sorted_of_get? h.keys_nodup h.infos
  duration := get?_sorted_of_get? h.keys_nodup h.duration

/-- What a value says does not depend on the order of its members. -/
theorem DescribesResult.sorted (h : j.DescribesResult r) : j.sorted.DescribesResult r := by
  have hnodup : j.keys.Nodup := by
    rw [h.keys.nodup_iff]
    decide
  obtain ⟨items, hitems, hdescribe⟩ := h.diagnostics
  obtain ⟨s, hs, hsummary⟩ := h.summary
  have hitems' : j.sorted.get? "diagnostics" = some (.array (items.map Json.sorted)) := by
    rw [get?_sorted_of_get? hnodup hitems, Json.sorted, sortedItems_eq_map]
  exact ⟨(keys_sorted hnodup).trans h.keys,
    ⟨_, hitems', List.forall₂_map_left_iff.mpr (hdescribe.imp fun _ _ h => h.sorted)⟩,
    ⟨_, get?_sorted_of_get? hnodup hs, hsummary.sorted⟩⟩

/-! ### What it says determines the result -/

theorem string_inj_of_get? {key s s' : String} (h : j.get? key = some (.string s))
    (h' : j.get? key = some (.string s')) : s = s' := by
  rw [h] at h'
  exact Json.string.inj (Option.some.inj h')

theorem nat_inj_of_get? {key : String} {n n' : Nat} (h : j.get? key = some (.nat n))
    (h' : j.get? key = some (.nat n')) : n = n' := by
  rw [h] at h'
  exact Int.ofNat.inj (Number.int.inj (Json.number.inj (Option.some.inj h')))

theorem DescribesDiagnostic.unique (h : j.DescribesDiagnostic d) (h' : j.DescribesDiagnostic d') :
    d = d' := by
  obtain ⟨rule, severity, message, ⟨file, line, column⟩, source, help⟩ := d
  obtain ⟨rule', severity', message', ⟨file', line', column'⟩, source', help'⟩ := d'
  obtain rfl : rule = rule' := string_inj_of_get? h.rule h'.rule
  obtain rfl : severity = severity' := Severity.name_injective (string_inj_of_get? h.severity h'.severity)
  obtain rfl : message = message' := string_inj_of_get? h.message h'.message
  obtain rfl : file = file' := string_inj_of_get? h.file h'.file
  obtain rfl : line = line' := UInt64.toNat_inj.mp (nat_inj_of_get? h.line h'.line)
  obtain rfl : column = column' := UInt64.toNat_inj.mp (nat_inj_of_get? h.column h'.column)
  obtain rfl : source = source' := string_inj_of_get? h.source h'.source
  have hhelp : help.map Json.string = help'.map Json.string := h.help.symm.trans h'.help
  obtain rfl : help = help' := Option.map_injective (fun _ _ => Json.string.inj) hhelp
  rfl

theorem DescribesSummary.unique (h : j.DescribesSummary r) (h' : j.DescribesSummary r') :
    r.numbers = r'.numbers := by
  rw [LintResult.numbers, nat_inj_of_get? h.files h'.files,
    nat_inj_of_get? h.filesWithErrors h'.filesWithErrors,
    nat_inj_of_get? h.filesWithWarnings h'.filesWithWarnings,
    nat_inj_of_get? h.errors h'.errors, nat_inj_of_get? h.warnings h'.warnings,
    nat_inj_of_get? h.infos h'.infos, nat_inj_of_get? h.duration h'.duration]
  rfl

/-- Results that one value describes agree in all that the report is about. -/
theorem DescribesResult.unique (h : j.DescribesResult r) (h' : j.DescribesResult r') :
    r.diagnostics = r'.diagnostics ∧ r.numbers = r'.numbers := by
  obtain ⟨items, hitems, hdescribe⟩ := h.diagnostics
  obtain ⟨items', hitems', hdescribe'⟩ := h'.diagnostics
  obtain ⟨s, hs, hsummary⟩ := h.summary
  obtain ⟨s', hs', hsummary'⟩ := h'.summary
  rw [hitems] at hitems'
  obtain rfl := Json.array.inj (Option.some.inj hitems')
  rw [hs] at hs'
  obtain rfl := Option.some.inj hs'
  refine ⟨?_, hsummary.unique hsummary'⟩
  -- Item by item, one value describes a diagnostic of either result.
  have hunique : Relator.RightUnique DescribesDiagnostic := fun _ _ _ h h' => h.unique h'
  exact hunique.forall₂ hdescribe hdescribe'

end

/-! ### Arrays of values of one kind -/

section

variable {js : List Json}

theorem areWhole_documents (h : ∀ j ∈ js, j.document.isWhole) :
    Document.areWhole (documents js) := by
  induction js with
  | nil => rfl
  | cons j js ih =>
    rw [documents, Document.areWhole, h j List.mem_cons_self,
      ih fun i hi => h i (List.mem_cons_of_mem j hi)]
    rfl

theorem itemsFitWords_of_forall (h : ∀ j ∈ js, j.FitsWords) : ItemsFitWords js := by
  induction js with
  | nil => trivial
  | cons j js ih =>
    exact ⟨h j List.mem_cons_self, ih fun i hi => h i (List.mem_cons_of_mem j hi)⟩

theorem depthItems_le_of_forall {n : Nat} (h : ∀ j ∈ js, j.depth ≤ n) : depthItems js ≤ n := by
  induction js with
  | nil => exact Nat.zero_le n
  | cons j js ih =>
    exact Nat.max_le.mpr ⟨h j List.mem_cons_self, ih fun i hi => h i (List.mem_cons_of_mem j hi)⟩

end

end Json

/-! ### The report -/

namespace JsonFormat

open Json

theorem diagnosticJson_describes (d : Diagnostic) : (diagnosticJson d).DescribesDiagnostic d := by
  obtain ⟨_, _, _, _, _, _ | _⟩ := d <;>
    exact ⟨.refl _, rfl, rfl, rfl, rfl, rfl, rfl, rfl, rfl⟩

theorem summaryJson_describes (r : LintResult) : (summaryJson r).DescribesSummary r :=
  ⟨.refl _, rfl, rfl, rfl, rfl, rfl, rfl, rfl⟩

theorem reportJson_describes (r : LintResult) : (reportJson r).DescribesResult r := by
  refine ⟨.refl _, ⟨_, rfl, ?_⟩, ⟨_, rfl, summaryJson_describes r⟩⟩
  rw [List.forall₂_map_left_iff]
  exact List.forall₂_same.mpr fun d _ => diagnosticJson_describes d

theorem isWhole_reportJson (r : LintResult) : (reportJson r).document.isWhole := by
  have hitems : Document.areWhole (documents (r.diagnostics.map diagnosticJson)) := by
    apply areWhole_documents
    simp only [List.forall_mem_map]
    intro d _
    obtain ⟨_, _, _, _, _, _ | _⟩ := d <;> rfl
  simp only [reportJson, document, memberDocuments, Document.isWhole, Document.membersAreWhole,
    hitems]
  rfl

theorem depth_reportJson_le (r : LintResult) : (reportJson r).depth ≤ maxDepth := by
  have hitems : depthItems (r.diagnostics.map diagnosticJson) ≤ 1 := by
    apply depthItems_le_of_forall
    simp only [List.forall_mem_map]
    intro d _
    obtain ⟨_, _, _, _, _, _ | _⟩ := d <;> exact Nat.le_refl 1
  have hsummary : (summaryJson r).depth = 1 := rfl
  simp only [reportJson, depth, depthMembers, hsummary, maxDepth]
  omega

theorem fitsWords_nat {n : Nat} (h : n ≤ Literal.wordMax) : (Json.nat n).FitsWords := by
  constructor <;> omega

theorem fitsWords_diagnosticJson (d : Diagnostic) : (diagnosticJson d).FitsWords := by
  have hword (w : UInt64) : (Json.nat w.toNat).FitsWords := by
    apply fitsWords_nat
    have hlt := w.toNat_lt
    show w.toNat ≤ 2 ^ 64 - 1
    omega
  have hline := hword d.location.line
  have hcolumn := hword d.location.column
  obtain ⟨_, _, _, _, _, _ | _⟩ := d <;>
    exact ⟨trivial, trivial, trivial, trivial, hline, hcolumn, trivial,
      by simp [MembersFitWords, FitsWords]⟩

theorem fitsWords_reportJson {r : LintResult} (h : ∀ n ∈ r.numbers, n ≤ Literal.wordMax) :
    (reportJson r).FitsWords := by
  have hitems : ItemsFitWords (r.diagnostics.map diagnosticJson) := by
    apply itemsFitWords_of_forall
    simp only [List.forall_mem_map]
    exact fun d _ => fitsWords_diagnosticJson d
  have hsummary : (summaryJson r).FitsWords := by
    simp only [LintResult.numbers, List.forall_mem_cons] at h
    obtain ⟨h₁, h₂, h₃, h₄, h₅, h₆, h₇, -⟩ := h
    exact ⟨fitsWords_nat h₁, fitsWords_nat h₂, fitsWords_nat h₃, fitsWords_nat h₄, fitsWords_nat h₅,
      fitsWords_nat h₆, fitsWords_nat h₇, trivial⟩
  exact ⟨hitems, hsummary, trivial⟩

/-- Either form of a value is read as its document. -/
theorem read_write (f : JsonFormat) {j : Json} (h : j.document.isWhole) :
    Document.read (f.write j).toList = (j.document, some []) := by
  rw [write]
  split
  · exact Document.read_pretty h
  · exact Document.read_compact h

/-- A report is one whole document, the same in both forms, and the document is that of a value that
describes the result. A reader whose integers have 64 bits gets this value, with sorted members, if the
numbers of the summary fit. Results with one report agree in every diagnostic and every number. -/
theorem report_lossless :
    (∀ r : LintResult, ∃ j : Json, j.DescribesResult r ∧ j.sorted.DescribesResult r ∧
      j.document.isWhole ∧
      (∀ f : JsonFormat, Document.read (f.report r).toList = (j.document, some [])) ∧
      ((∀ n ∈ r.numbers, n ≤ Literal.wordMax) →
        ∀ f : JsonFormat, parse? (f.report r) = some j.sorted)) ∧
    ∀ (r r' : LintResult) (f f' : JsonFormat), f.report r = f'.report r' →
      r.diagnostics = r'.diagnostics ∧ r.numbers = r'.numbers := by
  have hread (r : LintResult) (f : JsonFormat) :
      Document.read (f.report r).toList = ((reportJson r).document, some []) :=
    read_write f (isWhole_reportJson r)
  constructor
  · intro r
    have hdescribes := reportJson_describes r
    refine ⟨reportJson r, hdescribes, hdescribes.sorted, isWhole_reportJson r, hread r, ?_⟩
    intro hfits f
    rw [parse?_of_read (hread r f)]
    exact value?_document (depth_reportJson_le r) (fitsWords_reportJson hfits)
  · intro r r' f f' hreport
    have hdocument : (reportJson r).document = (reportJson r').document := by
      have hread' := hread r' f'
      rw [← hreport, hread r f] at hread'
      exact (Prod.mk.inj hread').1
    have hjson : reportJson r = reportJson r' :=
      document_injective (isWhole_reportJson r) hdocument
    exact (reportJson_describes r).unique (hjson ▸ reportJson_describes r')

/-- A result with characters that a JSON string cannot hold as they are, and the greatest numbers of 64
bits. -/
def awkwardResult : LintResult where
  diagnostics := [
    { rule := "a\"b", severity := .error, message := "\\ \n\x00\x1f\x7f/",
      location := ⟨"ä/\u2028😀.hbs", 0, 18446744073709551615⟩, source := "\x7b\x7b\t\x7d\x7d",
      help := some "" },
    { rule := "", severity := .info, message := "[,]:", location := ⟨"", 1, 1⟩ }]
  files := 18446744073709551615
  errors := 1
  infos := 1
  duration := 1999999

theorem report_lossless_awkwardResult :
    (∀ n ∈ awkwardResult.numbers, n ≤ Literal.wordMax) ∧
    ∃ j : Json, j.DescribesResult awkwardResult ∧
      parse? (report ⟨false⟩ awkwardResult) = some j ∧
      parse? (report ⟨true⟩ awkwardResult) = some j := by
  have hfits : ∀ n ∈ awkwardResult.numbers, n ≤ Literal.wordMax := by decide
  obtain ⟨j, -, hsorted, -, -, hparse⟩ := report_lossless.1 awkwardResult
  exact ⟨hfits, j.sorted, hsorted, hparse hfits _, hparse hfits _⟩

end JsonFormat

end TemplateLint
