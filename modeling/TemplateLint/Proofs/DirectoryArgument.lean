import TemplateLint.Proofs.FileNames
import TemplateLint.Proofs.Lookup
import TemplateLint.Proofs.PathOrder
import TemplateLint.Proofs.Wildcards

/-!
# Directories as arguments

An argument that names a directory is made a pattern for all stored templates below it. The name goes
into the pattern as it is. Where it has no meaning there but itself (`Path.isPlain`), the pattern
finds exactly the templates below the directory, under the paths that lead to them
(`FileSystem.ListsTemplates`). A name with wildcards finds others, or none.
-/

namespace TemplateLint

/-! ### Paths that are no patterns -/

namespace Path

/-- Whether a path has no wildcards in it, and no empty piece behind dots at its start. -/
def isPlain (path : String) : Bool :=
  path.toList.all Wildcard.isPlain &&
    ((scopeAndPieces path).1 != "." ||
      ((scopeAndPieces path).2.dropWhile (· = ".")).head? != some "")

theorem isPlain_iff {path : String} : isPlain path ↔
    (∀ c ∈ path.toList, Wildcard.isPlain c) ∧
      NoEmptyStart (scopeAndPieces path).1 (scopeAndPieces path).2 := by
  rw [isPlain, Bool.and_eq_true, List.all_eq_true, Bool.or_eq_true, bne_iff_ne, bne_iff_ne,
    NoEmptyStart, Decidable.imp_iff_not_or]

end Path

namespace FileSystem

/-! ### Components without wildcards -/

theorem visit_void {place place' : List Entry × Entry} {piece void : String}
    (h : visit place piece = .ok place') (hvoid : void = "" ∨ void = ".") :
    visit place void = .ok place := by
  obtain ⟨above, _ | _ | entries⟩ := place
  · cases h
  · cases h
  · simp only [visit, if_pos hvoid]

theorem trace_below_of_visit {fs : FileSystem} {p s : String} {place place' : List Entry × Entry}
    (hp : Path.IsSpelled p) (hs : '/' ∉ s.toList) (hne : p = "." → s ≠ "")
    (htrace : fs.trace p = .ok place) (hvisit : visit place s = .ok place') :
    fs.trace (Path.below p s) = .ok place' := by
  rw [fs.trace_below hp hs hne, htrace]
  exact hvisit

theorem stepLiteral_of_trace {fs : FileSystem} {p s : String} {place place' : List Entry × Entry}
    (hp : Path.IsSpelled p) (hs : '/' ∉ s.toList) (hne : p = "." → s ≠ "")
    (htrace : fs.trace p = .ok place) (hvisit : visit place s = .ok place') :
    fs.stepLiteral ⟨p, place.2⟩ s = some ⟨Path.below p s, place'.2⟩ := by
  obtain ⟨entries, hentries, -⟩ := visit_cases hvisit
  have hentry := at?_of_trace (hp.below hs hne).ne_empty
    (trace_below_of_visit hp hs hne htrace hvisit)
  have hfile : ¬((s = "." ∨ s = "..") ∧ place.2.isFile) := by
    simp [hentries, Entry.isFile]
  rw [stepLiteral, if_neg hfile]
  show (fs.at? (Path.below p s)).map _ = _
  rw [hentry]
  rfl

/-- Where pieces of a path lead somewhere, the steps of a pattern with these names lead there. -/
theorem expandFrom_literals {fs : FileSystem} {p : String} {place place' : List Entry × Entry}
    {pieces : List String} (hp : Path.IsSpelled p) (htrace : fs.trace p = .ok place)
    (hpieces : ∀ s ∈ pieces, '/' ∉ s.toList)
    (hstart : Path.NoEmptyStart p pieces) (hvisit : pieces.foldlM visit place = .ok place') :
    fs.trace (Path.under p pieces) = .ok place' ∧
      ∀ steps, fs.expandFrom (pieces.map .literal ++ steps) ⟨p, place.2⟩ =
        fs.expandFrom steps ⟨Path.under p pieces, place'.2⟩ := by
  induction pieces generalizing p place with
  | nil =>
    obtain rfl := Except.ok.inj hvisit
    exact ⟨htrace, fun steps => rfl⟩
  | cons s pieces ih =>
    obtain ⟨hs, hpieces⟩ := List.forall_mem_cons.mp hpieces
    obtain ⟨hne, hstart⟩ := hstart.cons hp
    obtain ⟨next, hnext, hvisit⟩ := Except.bind_eq_ok_iff.mp hvisit
    have hstep := stepLiteral_of_trace hp hs hne htrace hnext
    have htrace' := trace_below_of_visit hp hs hne htrace hnext
    obtain ⟨hend, hexpand⟩ := ih (hp.below hs hne) htrace' hpieces hstart hvisit
    refine ⟨hend, fun steps => ?_⟩
    rw [List.map_cons, List.cons_append, expandFrom, hstep]
    simp [hexpand, Path.under_cons]

/-! ### The pattern of a directory -/

/-- The steps of a component without wildcards and of the two behind it. -/
theorem mapM_steps {pieces : List String} (h : ∀ s ∈ pieces, ∀ c ∈ s.toList, Wildcard.isPlain c) :
    ((pieces ++ ["**", "*.json"]).mapM fun piece =>
      return PatternStep.ofWildcards (← Wildcard.parse piece)) =
      .ok (pieces.map .literal ++ [.anyDirectories, .wildcard Wildcard.anyJson]) := by
  induction pieces with
  | nil =>
    rw [List.nil_append, List.mapM_cons, List.mapM_cons, Wildcard.parse_anyDirectories,
      Wildcard.parse_anyJson]
    rfl
  | cons s pieces ih =>
    obtain ⟨hs, hpieces⟩ := List.forall_mem_cons.mp h
    rw [List.cons_append, List.mapM_cons, Wildcard.parse_of_isPlain hs, ih hpieces]
    show Except.ok _ = _
    rw [PatternStep.ofWildcards_map_char, String.ofList_toList]
    rfl

theorem expandFrom_anyJson (fs : FileSystem) (p : Place) :
    fs.expandFrom [.anyDirectories, .wildcard Wildcard.anyJson] p =
      ((p.entry.descendants (Path.below p.path)).filter
        fun x => Wildcard.isMatch Wildcard.anyJson x.1).map (·.2) := by
  rw [expandFrom, List.map_eq_flatMap]
  rfl

/-- An expansion by its pieces, for patterns that do not end with a slash. -/
theorem expand_of_steps (fs : FileSystem) {pattern : String} {ws : List Wildcard}
    (pieces : List String) {steps : List PatternStep} (hparse : Wildcard.parse pattern = .ok ws)
    (hpieces : (Text.pieces '/' (if pattern.toList.head? = some '/' then pattern.toList.drop 1
      else pattern.toList)).map String.ofList = pieces)
    (hlast : pieces.getLast? ≠ some "") (hend : pattern.toList.getLast? ≠ some '/')
    (hsteps : (pieces.mapM fun piece => return PatternStep.ofWildcards (← Wildcard.parse piece)) =
      .ok steps) (scope : String)
    (hscope : (if pattern.toList.head? = some '/' then "/" else ".") = scope) :
    fs.expand pattern = .ok (((fs.at? scope).toList.flatMap fun e =>
      fs.expandFrom (PatternStep.collapse steps) ⟨scope, e⟩).map (·.path)) := by
  have htrim : ¬(pieces.getLast? = some "" ∧ pieces.length ≠ 1) := fun h => hlast h.1
  simp only [expand, hparse, hpieces, if_neg htrim, hscope, if_neg hend]
  rw [hsteps]
  rfl

theorem split_directoryPattern (t : String) :
    Text.split '/' (t ++ "/**/*.json") = Text.split '/' t ++ ["**", "*.json"] := by
  have htext : t ++ "/**/*.json" = t ++ "/" ++ "**" ++ "/" ++ "*.json" := by
    simp only [String.append_assoc]
    rfl
  rw [htext, Text.split_append, Text.split_append, List.append_assoc]
  rfl

/-- The paths that the pattern of a directory matches, step by step. -/
theorem expand_directoryPattern (fs : FileSystem) {d : String}
    (hplain : ∀ c ∈ d.toList, Wildcard.isPlain c) :
    fs.expand (Text.trimRight '/' d ++ "/**/*.json") =
      .ok (((fs.at? (Path.scopeAndPieces d).1).toList.flatMap fun e =>
        fs.expandFrom ((Path.scopeAndPieces d).2.map .literal ++
          [.anyDirectories, .wildcard Wildcard.anyJson]) ⟨(Path.scopeAndPieces d).1, e⟩).map
        (·.path)) := by
  have hplain' : ∀ c ∈ (Text.trimRight '/' d).toList, Wildcard.isPlain c :=
    fun c hc => hplain c (Text.mem_of_mem_trimRight hc)
  obtain ⟨ws, hparse⟩ := Wildcard.exists_parse_append hplain'
  have hpieces : ∀ s ∈ (Path.scopeAndPieces d).2, ∀ c ∈ s.toList, Wildcard.isPlain c :=
    fun s hs c hc => hplain' c (Text.mem_of_mem_split (Path.mem_split_of_mem_pieces hs) hc).1
  have hlast (pieces : List String) : (pieces ++ ["**", "*.json"]).getLast? ≠ some "" := by simp
  have hend : (Text.trimRight '/' d ++ "/**/*.json").toList.getLast? ≠ some '/' := by simp
  obtain ⟨f, ps, hfps, hscope⟩ := Path.scopeAndPieces_cases d
  have hsplit := split_directoryPattern (Text.trimRight '/' d)
  rw [hfps, List.cons_append] at hsplit
  have hhead := Text.head?_eq_slash_iff hsplit (by simp)
  rw [← PatternStep.collapse_literals]
  obtain ⟨rfl, hscope⟩ | ⟨hf, hscope⟩ := hscope
  · have hroot := hhead.mpr rfl
    rw [hscope] at hpieces ⊢
    refine fs.expand_of_steps (ps ++ ["**", "*.json"]) hparse ?_ (hlast ps) hend
      (mapM_steps hpieces) "/" (if_pos hroot)
    rw [if_pos hroot, Text.pieces_drop_one hsplit hroot]
  · have hrelative := mt hhead.mp hf
    rw [hscope] at hpieces ⊢
    refine fs.expand_of_steps (f :: ps ++ ["**", "*.json"]) hparse ?_ (hlast (f :: ps)) hend
      (mapM_steps hpieces) "." (if_neg hrelative)
    rw [if_neg hrelative]
    exact hsplit

theorem foldlM_visit_append_eq_ok {xs ys : List String} {place place' : List Entry × Entry}
    (h : (xs ++ ys).foldlM visit place = .ok place') :
    ∃ next, xs.foldlM visit place = .ok next ∧ ys.foldlM visit next = .ok place' := by
  rw [List.foldlM_append] at h
  exact Except.bind_eq_ok_iff.mp h

theorem eq_of_foldlM_visit_replicate {k : Nat} {place place' : List Entry × Entry}
    (h : (List.replicate k "").foldlM visit place = .ok place') : place = place' := by
  induction k with
  | zero => exact Except.ok.inj h
  | succ k ih =>
    obtain ⟨next, hnext, hrest⟩ := Except.bind_eq_ok_iff.mp h
    obtain rfl : place = next := Except.ok.inj ((visit_void hnext (.inl rfl)).symm.trans hnext)
    exact ih hrest

/-- Slashes at the end of a path do not lead anywhere else. -/
theorem foldlM_visit_of_slashes {k : Nat} {pieces : List String} {place place' : List Entry × Entry}
    (h : (pieces ++ List.replicate k "").foldlM visit place = .ok place') :
    pieces.foldlM visit place = .ok place' := by
  obtain ⟨next, hnext, hvoids⟩ := foldlM_visit_append_eq_ok h
  obtain rfl := eq_of_foldlM_visit_replicate hvoids
  exact hnext

theorem exists_trace_of_at? {fs : FileSystem} {d : String} {e : Entry} (hd : d ≠ "")
    (h : fs.at? d = some e) : ∃ above, fs.trace d = .ok (above, e) := by
  rw [at?, fs.lookup_eq_trace hd] at h
  cases htrace : fs.trace d with
  | error _ =>
    rw [htrace] at h
    cases h
  | ok place =>
    rw [htrace] at h
    cases h
    exact ⟨place.1, rfl⟩

/-- The root is a place of its own when something can be looked up in it. -/
theorem trace_slash {fs : FileSystem} {piece : String} {place : List Entry × Entry}
    (h : visit ([], fs.root) piece = .ok place) : fs.trace "/" = .ok ([], fs.root) := by
  have hroute : fs.route "/" = [""] := rfl
  rw [trace, hroute]
  show visit ([], fs.root) "" >>= pure = _
  rw [visit_void h (.inl rfl)]
  rfl

theorem trace_dot {fs : FileSystem} {piece : String} {start place : List Entry × Entry}
    (hstart : fs.workDir.foldlM visit ([], fs.root) = .ok start)
    (h : visit start piece = .ok place) : fs.trace "." = .ok start := by
  have hroute : fs.route "." = fs.workDir ++ ["."] := rfl
  rw [trace, hroute, List.foldlM_append, hstart]
  show visit start "." >>= pure = _
  rw [visit_void h (.inr rfl)]
  rfl

/-- A path that leads somewhere leads there from its scope, piece by piece. -/
theorem exists_trace_scope {fs : FileSystem} {d : String} {e : Entry} (h : fs.at? d = some e) :
    ∃ start above, fs.trace (Path.scopeAndPieces d).1 = .ok start ∧
      (Path.scopeAndPieces d).2.foldlM visit start = .ok (above, e) := by
  have hd : d ≠ "" := by
    rintro rfl
    cases h
  obtain ⟨above, htrace⟩ := exists_trace_of_at? hd h
  obtain ⟨k, hk⟩ := Text.exists_split_trimRight d
  obtain ⟨f, ps, hfps, hscope⟩ := Path.scopeAndPieces_cases d
  rw [hfps, List.cons_append] at hk
  rw [trace, fs.route_of_split hk] at htrace
  obtain ⟨rfl, hscope⟩ | ⟨hf, hscope⟩ := hscope
  · rw [if_pos rfl] at htrace
    rw [hscope]
    refine ⟨([], fs.root), above, ?_, foldlM_visit_of_slashes htrace⟩
    -- The path is not empty, so behind the first slash there is a piece, though it may be void.
    cases hpieces : ps ++ List.replicate k "" with
    | nil =>
      rw [hpieces] at hk
      exact absurd (Text.eq_of_split_eq_singleton hk) hd
    | cons piece pieces =>
      rw [hpieces] at htrace
      obtain ⟨place, hplace, -⟩ := Except.bind_eq_ok_iff.mp htrace
      exact trace_slash hplace
  · rw [if_neg hf] at htrace
    obtain ⟨start, hstart, hrest⟩ := foldlM_visit_append_eq_ok htrace
    rw [← List.cons_append] at hrest
    have hvisit := foldlM_visit_of_slashes hrest
    obtain ⟨next, hnext, -⟩ := Except.bind_eq_ok_iff.mp hvisit
    rw [hscope]
    exact ⟨start, above, trace_dot hstart hnext, hvisit⟩

/-! ### The files of a directory -/

/-- What the pattern of a directory expands to. -/
theorem expand_directory {fs : FileSystem} {d : String} {dir : Entry} (hd : fs.at? d = some dir)
    (hplain : Path.isPlain d) :
    (∃ above, fs.trace (Path.respell d) = .ok (above, dir)) ∧
      fs.expand (Text.trimRight '/' d ++ "/**/*.json") =
        .ok (((dir.descendants (Path.below (Path.respell d))).filter
          fun x => Wildcard.isMatch Wildcard.anyJson x.1).map (·.2.path)) := by
  obtain ⟨hchars, hstart⟩ := Path.isPlain_iff.mp hplain
  obtain ⟨start, above, htrace, hvisit⟩ := exists_trace_scope hd
  have hscope := Path.isSpelled_scope d
  obtain ⟨hend, hexpand⟩ := expandFrom_literals hscope htrace
    (fun s hs => Path.not_mem_of_mem_pieces hs) hstart hvisit
  rw [← Path.respell] at hend
  refine ⟨⟨above, hend⟩, ?_⟩
  rw [fs.expand_directoryPattern hchars, at?_of_trace hscope.ne_empty htrace, Option.toList_some,
    List.flatMap_singleton, hexpand, expandFrom_anyJson, List.map_map, ← Path.respell]
  simp only [Function.comp_def]

/-- A template has a name that the pattern of its directory matches. -/
theorem isMatch_of_isTemplatePath {fs : FileSystem} {p name : String} (hp : p ≠ "")
    (hname : Path.isName name) (h : fs.isTemplatePath (Path.below p name)) :
    Wildcard.isMatch Wildcard.anyJson name := by
  obtain ⟨before, hsplit⟩ := Path.exists_split_below hp (Path.isName_iff.mp hname).2.2.2
  rw [isTemplatePath, Bool.and_eq_true, decide_eq_true_iff, Path.extension?_of_split hsplit hname] at h
  rcases Path.splitExtension_cases name with heq | ⟨stem, extension, -, -, hstem, heq⟩
  · rw [heq] at h
    cases h.1
  · rw [heq] at h
    obtain rfl := Option.some.inj h.1
    have htext : name.toList = stem.toList ++ '.' :: "json".toList := by
      rw [hstem]
      simp
    exact Wildcard.isMatch_anyJson htext

theorem at?_under {fs : FileSystem} {base : String} {above : List Entry} {dir e : Entry}
    {names : List String} (hbase : Path.IsSpelled base) (htrace : fs.trace base = .ok (above, dir))
    (hlegal : dir.isLegal) (hat : dir.at? names = some e) :
    fs.at? (Path.under base names) = some e := by
  obtain ⟨hspelled, above', htrace'⟩ := trace_under hbase htrace hlegal hat
  exact at?_of_trace hspelled.ne_empty htrace'

/-- A file below a directory that its pattern and the filters let through. -/
theorem mem_filter_paths_iff {fs : FileSystem} {base : String} {above : List Entry} {dir : Entry}
    (hbase : Path.IsSpelled base) (htrace : fs.trace base = .ok (above, dir))
    (hlegal : dir.isLegal) {p : String} :
    p ∈ ((((dir.descendants (Path.below base)).filter
        fun x => Wildcard.isMatch Wildcard.anyJson x.1).map (·.2.path)).filter fs.isFile).filter
        fs.isTemplatePath ↔
      ∃ names e, names ≠ [] ∧ dir.at? names = some e ∧ e.isFile ∧
        p = Path.under base names ∧ fs.isTemplatePath p := by
  rw [List.mem_filter, List.mem_filter, List.mem_map]
  constructor
  · rintro ⟨⟨⟨⟨name, place⟩, hmem, rfl⟩, hfile⟩, htemplate⟩
    obtain ⟨names, hat, hpath, hlast⟩ :=
      (dir.mem_descendants_iff hbase hlegal).mp (List.mem_filter.mp hmem).1
    have hne : names ≠ [] := by
      rintro rfl
      cases hlast
    rw [isFile, hpath, at?_under hbase htrace hlegal hat] at hfile
    exact ⟨names, place.entry, hne, hat, hfile, hpath, htemplate⟩
  · rintro ⟨names, e, hne, hat, he, rfl, htemplate⟩
    have hfile : fs.isFile (Path.under base names) := by
      rw [isFile, at?_under hbase htrace hlegal hat]
      exact he
    refine ⟨⟨⟨(names.getLast hne, ⟨Path.under base names, e⟩), ?_, rfl⟩, hfile⟩, htemplate⟩
    rw [List.mem_filter, dir.mem_descendants_iff hbase hlegal]
    refine ⟨⟨names, hat, rfl, List.getLast?_eq_some_getLast hne⟩, ?_⟩
    have hnames := Entry.isName_of_at? hlegal hat
    have hbefore : ∀ name ∈ names.dropLast, Path.isName name := fun name hname =>
      hnames name ((List.dropLast_sublist names).mem hname)
    have hspelled := hbase.under_names hbefore
    rw [← List.dropLast_concat_getLast hne, Path.under_concat] at htemplate
    exact isMatch_of_isTemplatePath hspelled.ne_empty (hnames _ (List.getLast_mem hne)) htemplate

theorem collect_singleton {fs : FileSystem} {d : String} {ps : List String}
    (h : fs.collectArgument fs.expand d = .ok ps) : fs.collect [d] = .ok (Path.sortUnique ps) := by
  rw [collect, collectBy, List.mapM_cons, h]
  show Except.ok (Path.sortUnique [ps].flatten) = _
  rw [List.flatten_singleton]

theorem collectArgument_directory {fs : FileSystem} {d : String} {paths : List String}
    (hd : fs.isDirectory d)
    (hexpand : fs.expand (Text.trimRight '/' d ++ "/**/*.json") = .ok paths) :
    fs.collectArgument fs.expand d =
      .ok ((paths.filter fs.isFile).filter fs.isTemplatePath) := by
  have hpattern : fs.argumentPattern d = Text.trimRight '/' d ++ "/**/*.json" := by
    rw [argumentPattern, if_pos hd]
  simp only [collectArgument, hpattern, hexpand, if_pos hd]
  rfl

/-- The files are the templates below a directory: each once, in the order of their paths, and under paths
that lead to them. A file outside the directory is not one of them. -/
structure ListsTemplates (fs : FileSystem) (d : String) (dir : Entry) (files : List String) : Prop where
  sorted : files.Pairwise fun p q => Path.order p q = .lt
  mem_iff (p : String) : p ∈ files ↔ ∃ names e, names ≠ [] ∧
    dir.at? names = some e ∧ e.isFile ∧ p = Path.under (Path.respell d) names ∧
      fs.isTemplatePath p
  leads {names : List String} {e : Entry} : names ≠ [] → dir.at? names = some e →
    fs.at? (Path.under (Path.respell d) names) = some e
  components {names : List String} {e : Entry} : names ≠ [] → dir.at? names = some e →
    Path.components (Path.under (Path.respell d) names) =
      (Path.components d).filter (· ≠ .current) ++ names.map .name

/-- An argument that names a directory and has no meaning as a pattern stands for the templates below
the directory. -/
theorem collect_directory {fs : FileSystem} {d : String} {dir : Entry}
    (hd : fs.at? d = some dir) (hdir : dir.isDirectory) (hlegal : dir.isLegal)
    (hplain : Path.isPlain d) :
    ∃ files, fs.collect [d] = .ok files ∧ fs.ListsTemplates d dir files := by
  have hstart := (Path.isPlain_iff.mp hplain).2
  have hbase := Path.isSpelled_respell hstart
  obtain ⟨⟨above, htrace⟩, hexpand⟩ := expand_directory hd hplain
  have hisdir : fs.isDirectory d := by
    rw [isDirectory, hd]
    exact hdir
  have hne : d ≠ "" := by
    rintro rfl
    cases hd
  refine ⟨_, collect_singleton (collectArgument_directory hisdir hexpand),
    Path.pairwise_sortUnique _, fun p => ?_, fun _ hat => ?_, fun hnames hat => ?_⟩
  · rw [← mem_filter_paths_iff hbase htrace hlegal]
    refine ⟨Path.mem_of_mem_sortUnique, fun hp => ?_⟩
    -- Another spelling of the path would come from other names, and these lead elsewhere.
    obtain ⟨q, hq, hcomponents⟩ := Path.exists_mem_sortUnique hp
    obtain ⟨names, _, -, hat, -, rfl, -⟩ := (mem_filter_paths_iff hbase htrace hlegal).mp hp
    obtain ⟨names', _, -, hat', -, rfl, -⟩ :=
      (mem_filter_paths_iff hbase htrace hlegal).mp (Path.mem_of_mem_sortUnique hq)
    obtain rfl := hbase.under_injective (Entry.isName_of_at? hlegal hat')
      (Entry.isName_of_at? hlegal hat) hcomponents
    exact hq
  · exact at?_under hbase htrace hlegal hat
  · rw [hbase.components_under_names (Entry.isName_of_at? hlegal hat) hnames,
      Path.filter_components_respell hne hstart]

/-- A page with its text, a page without, and a file that is no page, two levels below the working
directory. -/
def pageDirectory : Entry :=
  .directory [(".old", .directory [("c.hbs.json", .file .empty)]), ("a.json", .file .empty),
    ("b.hbs", .file .empty), ("b.json", .file .empty)]

/-- The pages in `w/p`, seen from `w`. -/
def pageTree : FileSystem where
  root := .directory [("w", .directory [("d.hbs.json", .file .empty), ("p", pageDirectory)])]
  workDir := ["w"]
  home := none

theorem collect_directory_pageTree :
    pageTree.at? "./p//" = some pageDirectory ∧ pageDirectory.isDirectory ∧
      pageDirectory.isLegal ∧ Path.isPlain "./p//" ∧
      ∃ files, pageTree.collect ["./p//"] = .ok files ∧ "p/.old/c.hbs.json" ∈ files ∧
        "p/b.json" ∈ files ∧ "p/a.json" ∉ files := by
  have hd : pageTree.at? "./p//" = some pageDirectory := rfl
  obtain ⟨files, hcollect, hlists⟩ := collect_directory hd rfl (by decide) (by decide)
  refine ⟨hd, rfl, by decide, by decide, files, hcollect, ?_, ?_, ?_⟩
  · exact (hlists.mem_iff _).mpr ⟨[".old", "c.hbs.json"], .file .empty, by decide, rfl, rfl, by decide, by decide⟩
  · exact (hlists.mem_iff _).mpr ⟨["b.json"], .file .empty, by decide, rfl, rfl, by decide, by decide⟩
  · intro hmem
    obtain ⟨-, -, -, -, -, -, htemplate⟩ := (hlists.mem_iff _).mp hmem
    exact absurd htemplate (by decide)

/-! ### Directories whose names are patterns -/

theorem not_listsTemplates {fs : FileSystem} {d p : String} {dir : Entry} {files : List String}
    {e : Entry} (names : List String)
    (hcollect : (fs.collect [d]).toOption = some files) (hp : p ∉ files) (hnames : names ≠ [])
    (hat : dir.at? names = some e) (he : e.isFile)
    (hpath : p = Path.under (Path.respell d) names) (htemplate : fs.isTemplatePath p) :
    ¬∃ files, fs.collect [d] = .ok files ∧ fs.ListsTemplates d dir files := by
  rintro ⟨files', hfiles, hlists⟩
  rw [hfiles] at hcollect
  obtain rfl : files' = files := Option.some.inj hcollect
  exact hp ((hlists.mem_iff p).mpr ⟨names, e, hnames, hat, he, hpath, htemplate⟩)

/-- A directory with one template. -/
def oneTemplate : Entry := .directory [("x.hbs.json", .file .empty)]

/-- Two directories whose names differ by brackets. -/
def bracketTree : FileSystem where
  root := .directory [("[a]", oneTemplate), ("a", oneTemplate)]
  workDir := []
  home := none

/-- Brackets in the name of a directory are taken for a class of characters, so another directory is
searched in its place. Behind a dot and two slashes nothing is found. -/
theorem collect_bracketTree :
    oneTemplate.isDirectory ∧ oneTemplate.isLegal ∧
    (bracketTree.at? "[a]" = some oneTemplate ∧
      ¬∃ files, bracketTree.collect ["[a]"] = .ok files ∧
        bracketTree.ListsTemplates "[a]" oneTemplate files) ∧
    (bracketTree.at? ".//a" = some oneTemplate ∧
      ¬∃ files, bracketTree.collect [".//a"] = .ok files ∧
        bracketTree.ListsTemplates ".//a" oneTemplate files) := by
  have hbrackets : (bracketTree.collect ["[a]"]).toOption = some ["a/x.hbs.json"] := by
    decide +kernel
  have hdot : (bracketTree.collect [".//a"]).toOption = some [] := by
    decide +kernel
  refine ⟨rfl, by decide, ⟨rfl, ?_⟩, rfl, ?_⟩
  · exact not_listsTemplates (p := "[a]/x.hbs.json") ["x.hbs.json"] hbrackets (by decide) (by decide)
      rfl rfl (by decide) (by decide)
  · exact not_listsTemplates (p := "a/x.hbs.json") ["x.hbs.json"] hdot (by decide) (by decide) rfl
      rfl (by decide) (by decide)

end FileSystem

end TemplateLint
