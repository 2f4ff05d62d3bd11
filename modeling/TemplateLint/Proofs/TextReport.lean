import TemplateLint.Proofs.Sections

/-!
# The text report divides the diagnostics

What stands in a text report before the counts is made of the sections of the files, and nothing else. The
sections are the one division of the diagnostics by their paths (`Divides`), so the report is known as soon
as this division is.

* `insert_perm`: putting a diagnostic into a section loses no diagnostic and repeats none. By induction over
  the diagnostics `sections_perm`.
* `report_partition`: the report from the division, and what it depends on.
-/

namespace TemplateLint.TextFormat

/-! ### No diagnostic is lost or repeated -/

theorem insert_perm (d : Diagnostic) (ss : List Section) :
    ((insert d ss).flatMap Section.diagnostics).Perm (d :: ss.flatMap Section.diagnostics) := by
  induction ss with
  | nil => exact List.Perm.refl [d]
  | cons s ss ih =>
    rw [insert]
    cases Path.order d.location.file s.title with
    | lt => exact List.Perm.refl _
    | eq =>
      -- the diagnostic goes behind those of its section
      show ((s.diagnostics ++ [d]) ++ ss.flatMap Section.diagnostics).Perm _
      rw [List.append_assoc]
      exact List.perm_middle
    | gt => exact (ih.append_left s.diagnostics).trans List.perm_middle

theorem foldl_insert_perm (ds : List Diagnostic) (ss : List Section) :
    ((ds.foldl (fun ss d => insert d ss) ss).flatMap Section.diagnostics).Perm
      (ds ++ ss.flatMap Section.diagnostics) := by
  induction ds generalizing ss with
  | nil => exact List.Perm.refl _
  | cons d ds ih =>
    have hstep := (insert_perm d ss).append_left ds
    exact (ih (insert d ss)).trans (hstep.trans List.perm_middle)

theorem sections_perm (ds : List Diagnostic) :
    ((sections ds).flatMap Section.diagnostics).Perm ds := by
  have h := foldl_insert_perm ds []
  rwa [List.flatMap_nil, List.append_nil] at h

/-! ### The report from the division -/

theorem divides_iff {ds : List Diagnostic} {ss : List Section} : Divides ds ss ↔ ss = sections ds := by
  constructor
  · intro h
    exact h.unique (divides_sections ds) fun _ => rfl
  · rintro rfl
    exact divides_sections ds

theorem components_of_mem {ds : List Diagnostic} {ss : List Section} (h : Divides ds ss) {s : Section}
    (hs : s ∈ ss) {d : Diagnostic} (hd : d ∈ s.diagnostics) :
    Path.components d.location.file = Path.components s.title := by
  rw [h.holds s hs] at hd
  exact (Path.same_iff.mp (List.mem_filter.mp hd).2).symm

/-- **Before the counts, the text report is the division of the diagnostics by their paths.** There is one
such division. Its sections come in the order of their paths, which is a total order and takes those paths
for equal that have the same components. A section has a line with its path, as the first of its diagnostics
spells it, and below this line the diagnostics of this path in their order. Without colours the line is the
path as it is. So every diagnostic is shown once and under its own path, and two results with the same counts
have the same report when they have, path by path, the same diagnostics in the same order. -/
theorem report_partition (terminal : Bool) (f : TextFormat) (r : LintResult) :
    (∃ ss : List Section,
      (∀ ss', Divides r.diagnostics ss' ↔ ss' = ss) ∧
      f.report terminal r =
        "".intercalate (ss.map fun s => f.paint terminal .underline s.title ++ "\n" ++
          "".intercalate (s.diagnostics.map fun d => f.diagnostic terminal d ++ "\n")) ++
        (if f.showStats then f.stats terminal r else "") ∧
      (f.colored = false ∨ terminal = false →
        ∀ s ∈ ss, f.paint terminal .underline s.title = s.title) ∧
      (ss.flatMap Section.diagnostics).Perm r.diagnostics ∧
      ∀ s ∈ ss, ∀ d ∈ s.diagnostics, Path.components d.location.file = Path.components s.title) ∧
    ((∀ p q, Path.same p q ↔ Path.components p = Path.components q) ∧
      (∀ p q, Path.order p q = .eq ↔ Path.components p = Path.components q) ∧
      (∀ p q, Path.order q p = (Path.order p q).swap) ∧
      ∀ p q q', Path.order p q = .lt → Path.order q q' = .lt → Path.order p q' = .lt) ∧
    ∀ r' : LintResult, r'.files = r.files → r'.errors = r.errors → r'.warnings = r.warnings →
      r'.infos = r.infos → r'.duration = r.duration →
      (∀ path, atPath path r'.diagnostics = atPath path r.diagnostics) →
      f.report terminal r' = f.report terminal r := by
  refine ⟨⟨sections r.diagnostics, ?_, ?_, ?_, ?_, ?_⟩, ⟨?_, ?_, ?_, ?_⟩, ?_⟩
  · exact fun ss' => divides_iff
  · rfl
  · intro hoff s _
    apply paint_of_off
    rw [Bool.and_eq_false_iff]
    exact hoff
  · exact sections_perm r.diagnostics
  · intro s hs d hd
    exact components_of_mem (divides_sections _) hs hd
  · exact fun p q => Path.same_iff
  · exact fun p q => Path.order_eq_iff
  · exact fun p q => Std.OrientedCmp.eq_swap
  · exact fun p q q' => Std.TransCmp.lt_trans
  · intro r' hfiles herrors hwarnings hinfos hduration hpaths
    exact report_congr terminal f hpaths hfiles herrors hwarnings hinfos hduration

/-- Diagnostics of two files, one of which is spelled in two ways, with the other one between them. -/
def mixedResult : LintResult :=
  { diagnostics := [⟨"r", .error, "first", ⟨"a//b", 1, 0⟩, "", none⟩,
      ⟨"r", .error, "second", ⟨"c", 2, 0⟩, "", none⟩, ⟨"r", .error, "third", ⟨"a/./b/", 3, 0⟩, "", none⟩],
    files := 2, filesWithErrors := 2, errors := 3 }

/-- The same with the other file in front. -/
def mixedResultMoved : LintResult :=
  { mixedResult with
    diagnostics := [⟨"r", .error, "second", ⟨"c", 2, 0⟩, "", none⟩,
      ⟨"r", .error, "first", ⟨"a//b", 1, 0⟩, "", none⟩, ⟨"r", .error, "third", ⟨"a/./b/", 3, 0⟩, "", none⟩] }

theorem atPath_mixedResultMoved (path : String) :
    atPath path mixedResultMoved.diagnostics = atPath path mixedResult.diagnostics := by
  have hfiles : ¬ Path.same "a//b" "c" := by decide +kernel
  by_cases hc : Path.same path "c"
  · have hab : ¬ Path.same path "a//b" := by
      intro hab
      exact hfiles (Path.same_trans (Path.same_symm hab) hc)
    simp [atPath, mixedResult, mixedResultMoved, List.filter_cons, hab]
  · simp [atPath, mixedResult, mixedResultMoved, List.filter_cons, hc]

theorem report_partition_mixedResult :
    let plain : TextFormat := { colored := false, showStats := false }
    report true plain mixedResult =
      "a//b\na//b:1:0: error[r]: first\n\na/./b/:3:0: error[r]: third\n\nc\nc:2:0: error[r]: second\n\n" ∧
    (sections mixedResult.diagnostics).map (fun s => (s.title, s.diagnostics.map fun d => d.location.line)) =
      [("a//b", [1, 3]), ("c", [2])] ∧
    (∀ s ∈ sections mixedResult.diagnostics, plain.paint true .underline s.title = s.title) ∧
    mixedResultMoved.diagnostics ≠ mixedResult.diagnostics ∧
    (∀ path, atPath path mixedResultMoved.diagnostics = atPath path mixedResult.diagnostics) ∧
    ∀ terminal f, report terminal f mixedResultMoved = report terminal f mixedResult := by
  intro plain
  obtain ⟨⟨ss, hunique, -, htitle, -⟩, -⟩ := report_partition true plain mixedResult
  obtain rfl := (hunique _).mp (divides_sections mixedResult.diagnostics)
  refine ⟨by decide +kernel, by decide +kernel, htitle (Or.inl rfl), by decide, atPath_mixedResultMoved, ?_⟩
  intro terminal f
  exact (report_partition terminal f mixedResult).2.2 mixedResultMoved rfl rfl rfl rfl rfl
    atPath_mixedResultMoved

end TemplateLint.TextFormat
