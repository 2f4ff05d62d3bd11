import TemplateLint.Report.Text
import TemplateLint.Proofs.Independence
import TemplateLint.Proofs.PathOrder
import TemplateLint.Proofs.Totals

/-!
# The sections of a text report

The text report takes the diagnostics one by one and puts each into the section of its file. `Divides`
says what comes out, without the order in which things were put in: a section for every path that has
diagnostics, in the order of the paths, with the diagnostics of this path in their order.

* `Divides.insert`: one diagnostic more. By induction over the diagnostics `divides_sections`.
* `Divides.unique`: there is one way to divide, and it depends on nothing but the diagnostics of each
  path. So does the report (`report_congr`).
* `report_lint_perm`: the files of a run can be linted in any order.
-/

namespace TemplateLint.TextFormat

variable {ds ds' : List Diagnostic} {ss ss' : List Section}

/-! ### Dividing diagnostics by their paths -/

/-- The diagnostics of a path, however it is spelled, in their order. -/
def atPath (path : String) (ds : List Diagnostic) : List Diagnostic :=
  ds.filter fun d => Path.same path d.location.file

/-- The sections divide the diagnostics: they come in the order of their paths, each holds the diagnostics
of its path and is called as the first of them calls it, and no diagnostic is left over. -/
structure Divides (ds : List Diagnostic) (ss : List Section) : Prop where
  ordered : ss.Pairwise fun s t => Path.order s.title t.title = .lt
  holds : ∀ s ∈ ss, s.diagnostics = atPath s.title ds
  titled : ∀ s ∈ ss, s.diagnostics.head?.map (·.location.file) = some s.title
  covers : ∀ d ∈ ds, ∃ s ∈ ss, Path.same s.title d.location.file

theorem atPath_append (path : String) (ds ds' : List Diagnostic) :
    atPath path (ds ++ ds') = atPath path ds ++ atPath path ds' :=
  List.filter_append _ _

theorem atPath_singleton_of_same {path : String} {d : Diagnostic}
    (h : Path.same path d.location.file) : atPath path [d] = [d] :=
  List.filter_cons_of_pos h

theorem atPath_singleton_of_not_same {path : String} {d : Diagnostic}
    (h : ¬ Path.same path d.location.file) : atPath path [d] = [] :=
  List.filter_cons_of_neg h

/-- Spellings of one path have the same diagnostics. -/
theorem atPath_congr {path path' : String} (h : Path.same path path') (ds : List Diagnostic) :
    atPath path ds = atPath path' ds := by
  apply List.filter_congr
  intro d _
  rw [Bool.eq_iff_iff, Path.same_iff, Path.same_iff, Path.same_iff.mp h]

/-- A section other than that of the new diagnostic stays as it is. -/
theorem Divides.holds_append (h : Divides ds ss) {s : Section} (hs : s ∈ ss) {d : Diagnostic}
    (hne : ¬ Path.same s.title d.location.file) : s.diagnostics = atPath s.title (ds ++ [d]) := by
  rw [atPath_append, atPath_singleton_of_not_same hne, List.append_nil]
  exact h.holds s hs

/-! ### One diagnostic more -/

/-- A diagnostic goes behind the sections of earlier paths and before those of later ones. It goes into the
section between them, or makes a section there. -/
theorem insert_cases (d : Diagnostic)
    (hss : ss.Pairwise fun s t => Path.order s.title t.title = .lt) :
    ∃ before after,
      (∀ s ∈ before, Path.order s.title d.location.file = .lt) ∧
      (∀ s ∈ after, Path.order d.location.file s.title = .lt) ∧
      ((ss = before ++ after ∧ insert d ss = before ++ ⟨d.location.file, [d]⟩ :: after) ∨
        ∃ s, ss = before ++ s :: after ∧ Path.same s.title d.location.file ∧
          insert d ss = before ++ { s with diagnostics := s.diagnostics ++ [d] } :: after) := by
  induction ss with
  | nil => exact ⟨[], [], by simp, by simp, Or.inl ⟨rfl, rfl⟩⟩
  | cons s ss ih =>
    obtain ⟨hs, hss⟩ := List.pairwise_cons.mp hss
    cases hord : Path.order d.location.file s.title with
    | lt =>
      refine ⟨[], s :: ss, by simp, ?_, Or.inl ⟨rfl, by simp [insert, hord]⟩⟩
      intro t ht
      rcases List.mem_cons.mp ht with rfl | ht
      · exact hord
      · exact Std.TransCmp.lt_trans hord (hs t ht)
    | eq =>
      have hsame : Path.same s.title d.location.file :=
        Path.same_iff.mpr (Path.order_eq_iff.mp hord).symm
      refine ⟨[], ss, by simp, ?_, Or.inr ⟨s, rfl, hsame, by simp [insert, hord]⟩⟩
      intro t ht
      exact Std.TransCmp.lt_of_eq_of_lt hord (hs t ht)
    | gt =>
      obtain ⟨before, after, hbefore, hafter, hinsert⟩ := ih hss
      refine ⟨s :: before, after, ?_, hafter, ?_⟩
      · intro t ht
        rcases List.mem_cons.mp ht with rfl | ht
        · exact Std.OrientedCmp.gt_iff_lt.mp hord
        · exact hbefore t ht
      · rcases hinsert with ⟨rfl, hinsert⟩ | ⟨t, rfl, hsame, hinsert⟩
        · exact Or.inl ⟨rfl, by simp [insert, hord, hinsert]⟩
        · exact Or.inr ⟨t, rfl, hsame, by simp [insert, hord, hinsert]⟩

theorem not_same_of_lt {p q : String} (h : Path.order p q = .lt) : ¬ Path.same p q := by
  simp [Path.same, h]

theorem not_same_of_gt {p q : String} (h : Path.order q p = .lt) : ¬ Path.same p q := by
  simp [Path.same, Std.OrientedCmp.gt_iff_lt.mpr h]

/-- A section of the new diagnostic's path, put between those of earlier and of later paths. -/
theorem Divides.put (h : Divides ds ss) {d : Diagnostic} {s : Section} {before after : List Section}
    (hbefore : ∀ t ∈ before, Path.order t.title d.location.file = .lt)
    (hafter : ∀ t ∈ after, Path.order d.location.file t.title = .lt)
    (hsame : Path.same s.title d.location.file)
    (hsub : (before ++ after).Sublist ss)
    (hrest : ∀ t ∈ ss, t ∈ before ++ after ∨ Path.same t.title d.location.file)
    (hholds : s.diagnostics = atPath s.title (ds ++ [d]))
    (htitled : s.diagnostics.head?.map (·.location.file) = some s.title) :
    Divides (ds ++ [d]) (before ++ s :: after) := by
  have heq : Path.order s.title d.location.file = .eq := Path.order_eq_iff.mpr (Path.same_iff.mp hsame)
  have hmem : ∀ t ∈ before ++ s :: after, t = s ∨ t ∈ before ++ after := by
    intro t ht
    rcases List.mem_append.mp ht with ht | ht
    · exact Or.inr (List.mem_append_left _ ht)
    · exact (List.mem_cons.mp ht).imp_right fun ht => List.mem_append_right _ ht
  constructor
  case ordered =>
    obtain ⟨hb, ha, hba⟩ := List.pairwise_append.mp (h.ordered.sublist hsub)
    refine List.pairwise_append.mpr ⟨hb, List.pairwise_cons.mpr ⟨?_, ha⟩, ?_⟩
    · intro t ht
      exact Std.TransCmp.lt_of_eq_of_lt heq (hafter t ht)
    · intro t ht u hu
      rcases List.mem_cons.mp hu with rfl | hu
      · exact Std.TransCmp.lt_of_lt_of_eq (hbefore t ht) (Std.OrientedCmp.eq_symm heq)
      · exact hba t ht u hu
  case holds =>
    intro t ht
    rcases hmem t ht with rfl | ht
    · exact hholds
    · apply h.holds_append (hsub.subset ht)
      rcases List.mem_append.mp ht with ht | ht
      · exact not_same_of_lt (hbefore t ht)
      · exact not_same_of_gt (hafter t ht)
  case titled =>
    intro t ht
    rcases hmem t ht with rfl | ht
    · exact htitled
    · exact h.titled t (hsub.subset ht)
  case covers =>
    intro d' hd'
    have hs : s ∈ before ++ s :: after := List.mem_append_right _ List.mem_cons_self
    rcases List.mem_append.mp hd' with hd' | hd'
    · obtain ⟨t, ht, htd⟩ := h.covers d' hd'
      rcases hrest t ht with hmem | htsame
      · refine ⟨t, ?_, htd⟩
        rw [List.mem_append] at hmem ⊢
        exact hmem.imp_right (List.mem_cons_of_mem s)
      · exact ⟨s, hs, Path.same_trans hsame (Path.same_trans (Path.same_symm htsame) htd)⟩
    · rw [List.mem_singleton.mp hd']
      exact ⟨s, hs, hsame⟩

/-- What one more diagnostic does to the sections. -/
theorem Divides.insert (h : Divides ds ss) (d : Diagnostic) :
    Divides (ds ++ [d]) (TextFormat.insert d ss) := by
  obtain ⟨before, after, hbefore, hafter, ⟨rfl, hinsert⟩ | ⟨s, rfl, hsame, hinsert⟩⟩ :=
    insert_cases d h.ordered
  · -- a new section: no diagnostic of its path was there before
    rw [hinsert]
    have hself := Path.same_refl d.location.file
    have hnone : atPath d.location.file ds = [] := by
      rw [atPath, List.filter_eq_nil_iff]
      intro d' hd' hdd'
      obtain ⟨t, ht, htd'⟩ := h.covers d' hd'
      have htd : Path.same t.title d.location.file := Path.same_trans htd' (Path.same_symm hdd')
      rcases List.mem_append.mp ht with ht | ht
      · exact not_same_of_lt (hbefore t ht) htd
      · exact not_same_of_gt (hafter t ht) htd
    refine h.put hbefore hafter hself (List.Sublist.refl _) (fun t ht => Or.inl ht) ?_ rfl
    rw [atPath_append, hnone, atPath_singleton_of_same hself, List.nil_append]
  · rw [hinsert]
    have hs : s ∈ before ++ s :: after := List.mem_append_right _ List.mem_cons_self
    refine h.put hbefore hafter hsame ?_ ?_ ?_ ?_
    · exact (List.sublist_cons_self s after).append_left before
    · intro t ht
      rw [List.mem_append, List.mem_cons] at ht
      rcases ht with ht | rfl | ht
      · exact Or.inl (List.mem_append_left _ ht)
      · exact Or.inr hsame
      · exact Or.inl (List.mem_append_right _ ht)
    · rw [atPath_append, atPath_singleton_of_same hsame, ← h.holds s hs]
    · have htitled := h.titled s hs
      cases hds : s.diagnostics with
      | nil => simp [hds] at htitled
      | cons d' more => simpa [hds] using htitled

theorem divides_foldl (h : Divides ds ss) (more : List Diagnostic) :
    Divides (ds ++ more) (more.foldl (fun ss d => insert d ss) ss) := by
  induction more generalizing ds ss with
  | nil => simpa using h
  | cons d more ih =>
    have hstep := ih (h.insert d)
    rwa [List.append_assoc] at hstep

/-- The sections of a report divide its diagnostics. -/
theorem divides_sections (ds : List Diagnostic) : Divides ds (sections ds) := by
  have hnil : Divides [] [] := ⟨.nil, by simp, by simp, by simp⟩
  exact divides_foldl hnil ds

/-! ### What the sections depend on -/

/-- A section is known from the diagnostics of its path. -/
theorem Divides.mem_of_mem (h : Divides ds ss) (h' : Divides ds' ss')
    (hsame : ∀ path, atPath path ds = atPath path ds') {s : Section} (hs : s ∈ ss) : s ∈ ss' := by
  -- the first diagnostic of the section is also one of `ds'`, and has a section there
  obtain ⟨d, hd, htitle⟩ := Option.map_eq_some_iff.mp (h.titled s hs)
  have hmem : d ∈ atPath s.title ds' := by
    rw [← hsame, ← h.holds s hs]
    exact List.mem_of_mem_head? hd
  obtain ⟨s', hs', hpath⟩ := h'.covers d (List.mem_of_mem_filter hmem)
  rw [htitle] at hpath
  have hdiagnostics : s'.diagnostics = s.diagnostics := by
    rw [h'.holds s' hs', h.holds s hs, hsame, atPath_congr hpath]
  have htitles : s'.title = s.title := by
    have htitle' := h'.titled s' hs'
    rw [hdiagnostics, h.titled s hs] at htitle'
    exact (Option.some.inj htitle').symm
  have heq : s' = s := by
    cases s'
    cases s
    simp_all
  exact heq ▸ hs'

/-- There is one way to divide diagnostics, and the order of different paths plays no part in it. -/
theorem Divides.unique (h : Divides ds ss) (h' : Divides ds' ss')
    (hsame : ∀ path, atPath path ds = atPath path ds') : ss = ss' := by
  have hnodup : ∀ {ds ss}, Divides ds ss → ss.Nodup := by
    intro ds ss h
    refine h.ordered.imp ?_
    rintro s t hlt rfl
    exact not_same_of_lt hlt (Path.same_refl _)
  have hperm : ss.Perm ss' := by
    rw [List.perm_ext_iff_of_nodup (hnodup h) (hnodup h')]
    intro s
    exact ⟨h.mem_of_mem h' hsame, h'.mem_of_mem h fun path => (hsame path).symm⟩
  apply hperm.eq_of_pairwise _ h.ordered h'.ordered
  intro s t _ _ hst hts
  exact absurd hts (by simp [Std.OrientedCmp.gt_iff_lt.mpr hst])

/-- Two results have the same report when they have the same counts and, path by path, the same
diagnostics. -/
theorem report_congr (terminal : Bool) (f : TextFormat) {r r' : LintResult}
    (hdiagnostics : ∀ path, atPath path r.diagnostics = atPath path r'.diagnostics)
    (hfiles : r.files = r'.files) (herrors : r.errors = r'.errors)
    (hwarnings : r.warnings = r'.warnings) (hinfos : r.infos = r'.infos)
    (hduration : r.duration = r'.duration) : f.report terminal r = f.report terminal r' := by
  have hsections : sections r.diagnostics = sections r'.diagnostics :=
    (divides_sections _).unique (divides_sections _) hdiagnostics
  have hcounts : f.counts terminal r = f.counts terminal r' := by
    simp only [counts, herrors, hwarnings, hinfos]
  have hstats : f.stats terminal r = f.stats terminal r' := by
    simp only [stats, hfiles, hcounts, hduration]
  simp only [report, hsections, hstats]

end TemplateLint.TextFormat

/-! ### The order of the files -/

namespace TemplateLint

namespace Engine

/-- Every diagnostic of a file carries the path under which the file was linted. -/
theorem file_of_mem_lintFile {e : Engine} {fs : FileSystem} {file : String} {d : Diagnostic}
    (h : d ∈ e.lintFile fs file) : d.location.file = file := by
  unfold lintFile at h
  split at h
  · obtain ⟨o, -, ho⟩ := List.mem_flatMap.mp h
    obtain ⟨r, -, hr⟩ := List.mem_flatMap.mp ho
    obtain ⟨f, -, rfl⟩ := List.mem_map.mp hr
    rfl
  · next failure _ =>
    obtain ⟨message, heq⟩ := loadFailure_eq file failure
    rw [List.mem_singleton.mp h, heq]

/-- The diagnostics of a path are those of the files that have this path. -/
theorem atPath_lint (e : Engine) (fs : FileSystem) (files : List String) (path : String) :
    TextFormat.atPath path (e.lint fs files).diagnostics =
      (files.filter (Path.same path)).flatMap (e.lintFile fs) := by
  rw [diagnostics_lint, TextFormat.atPath, List.filter_flatMap, List.flatMap_filter]
  apply List.flatMap_congr
  intro file _
  by_cases hsame : Path.same path file
  · rw [if_pos hsame, List.filter_eq_self]
    intro d hd
    rwa [file_of_mem_lintFile hd]
  · rw [if_neg hsame, List.filter_eq_nil_iff]
    intro d hd
    rwa [file_of_mem_lintFile hd]

end Engine

/-- Of files in another order, those of one path are the same list, when it has one spelling. -/
theorem filter_same_of_perm {xs ys : List String} (hperm : xs.Perm ys)
    (hspelled : ∀ p ∈ xs, ∀ q ∈ xs, Path.same p q → p = q) (path : String) :
    xs.filter (Path.same path) = ys.filter (Path.same path) := by
  have hall : ∀ p ∈ xs.filter (Path.same path), ∀ q ∈ ys.filter (Path.same path), p = q := by
    intro p hp q hq
    rw [List.mem_filter] at hp hq
    exact hspelled p hp.1 q (hperm.mem_iff.mpr hq.1) (Path.same_trans (Path.same_symm hp.2) hq.2)
  -- a list in which all items are equal has only one arrangement
  have htrivial : ∀ l : List String, l.Pairwise fun _ _ => True :=
    fun l => List.pairwise_of_forall fun _ _ => trivial
  exact (hperm.filter _).eq_of_pairwise (fun p q hp hq _ _ => hall p hp q hq) (htrivial _)
    (htrivial _)

/-- **The text report does not depend on the order in which files are linted.** The lists name the same
files as often, and each path is spelled in one way. -/
theorem TextFormat.report_lint_perm (e : Engine) (fs : FileSystem) {xs ys : List String}
    (hperm : xs.Perm ys) (hspelled : ∀ p ∈ xs, ∀ q ∈ xs, Path.same p q → p = q) (terminal : Bool)
    (f : TextFormat) (duration : Nat) :
    f.report terminal { e.lint fs xs with duration } =
      f.report terminal { e.lint fs ys with duration } := by
  have hx := e.sumsUp_lint fs xs
  have hy := e.sumsUp_lint fs ys
  have hcount : ∀ p : Diagnostic → Bool, (xs.map (e.lintFile fs)).flatten.countP p =
      (ys.map (e.lintFile fs)).flatten.countP p := by
    intro p
    exact (hperm.map _).flatten.countP_eq p
  apply report_congr
  case hdiagnostics =>
    intro path
    rw [e.atPath_lint fs xs, e.atPath_lint fs ys, filter_same_of_perm hperm hspelled]
  case hfiles =>
    simp only [hx.files, hy.files, List.length_map, hperm.length_eq]
  case herrors => simp only [hx.errors, hy.errors, hcount]
  case hwarnings => simp only [hx.warnings, hy.warnings, hcount]
  case hinfos => simp only [hx.infos, hy.infos, hcount]
  case hduration => rfl

/-- A file that is no template, and one with an operation that lacks its argument. -/
def reportedFiles : FileSystem where
  root := .directory [("list", .file "[]".toUTF8),
    ("page", .file ("\x7b\"type\":\"Template\",\"body\":[\x7b\"type\":\"MustacheStatement\",\"path\":" ++
      "\x7b\"type\":\"PathExpression\",\"original\":\"wrapper.headerOperationIndex\"\x7d\x7d]\x7d").toUTF8)]
  workDir := []
  home := none

theorem TextFormat.report_lint_perm_reportedFiles :
    let e : Engine := ⟨{}, [Header.rule true]⟩
    let xs := ["page", "list", "page"]
    let ys := ["list", "page", "page"]
    xs.Perm ys ∧ (∀ p ∈ xs, ∀ q ∈ xs, Path.same p q → p = q) ∧
    ((e.lint reportedFiles xs).diagnostics.map fun d => (d.rule, d.location.file)) =
      [("header-main", "page"), ("parse-error", "list"), ("header-main", "page")] ∧
    TextFormat.report true ⟨false, true, false, false⟩ (e.lint reportedFiles xs) =
      "list\nlist:0:0: error[parse-error]: Parse error: Invalid template AST in list: " ++
        "root node has no Template type\n\npage\n" ++
        "page:0:0: error[header-main]: Component \"headerOperationIndex\" must implement all attrs: close.\n\n" ++
        "page:0:0: error[header-main]: Component \"headerOperationIndex\" must implement all attrs: close.\n\n" ∧
    ∀ terminal f duration,
      TextFormat.report terminal f { e.lint reportedFiles xs with duration } =
        TextFormat.report terminal f { e.lint reportedFiles ys with duration } := by
  have hspelled : ∀ p ∈ ["page", "list", "page"], ∀ q ∈ ["page", "list", "page"],
      Path.same p q → p = q := by decide +kernel
  refine ⟨by decide, hspelled, by decide +kernel, by decide +kernel, ?_⟩
  intro terminal f duration
  exact report_lint_perm _ _ (by decide) hspelled terminal f duration

end TemplateLint
