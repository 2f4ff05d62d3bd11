import TemplateLint.Proofs.FileNames
import TemplateLint.Proofs.Lookup
import TemplateLint.Proofs.PathOrder
import TemplateLint.Template.File

/-!
# The text next to a stored template

The text that a stored template was made from is looked for under two names in the directory of the template:
the stem of its name, if that is the name of a text, and the stem with the extension of texts. One of the two
paths is made by joining, the other by changing the end of the text, so they may be spelled differently, but
both lead into the same directory.

* `isFile_iff_of_split`: whether a path leads to a file hangs on the pieces before the last one and on the
  last one. Pieces that make no difference may be left out (`isFile_trimPieces`).
* `isName_of_isFile`: the last piece of a path that leads to a file is a name.
* `source_paired`: which of the two texts is found, and when none is. The name of a template must not be two
  dots and an extension: for such a name no text is found, although there may be one
  (`source_unpaired_dots`).
-/

namespace TemplateLint.FileSystem

variable {fs : FileSystem}

/-! ### Directories above a place -/

/-- Above a place there are directories only. -/
def IsBelowDirectories (place : List Entry × Entry) : Prop := ∀ e ∈ place.1, e.isDirectory

theorem isBelowDirectories_visit {place place' : List Entry × Entry} {piece : String}
    (hplace : IsBelowDirectories place) (h : visit place piece = .ok place') :
    IsBelowDirectories place' := by
  obtain ⟨entries, hentries, rfl | ⟨-, up, above, habove, rfl⟩ | ⟨-, -, -, e, -, rfl⟩⟩ := visit_cases h
  · exact hplace
  · intro e he
    apply hplace
    rw [habove]
    exact List.mem_cons_of_mem up he
  · intro e he
    rcases List.mem_cons.mp he with rfl | he
    · rfl
    · exact hplace e he

theorem isBelowDirectories_foldlM {place place' : List Entry × Entry} {pieces : List String}
    (hplace : IsBelowDirectories place) (h : pieces.foldlM visit place = .ok place') :
    IsBelowDirectories place' := by
  induction pieces generalizing place with
  | nil =>
    obtain rfl := Except.ok.inj h
    exact hplace
  | cons piece pieces ih =>
    obtain ⟨next, hnext, hrest⟩ := Except.bind_eq_ok_iff.mp h
    exact ih (isBelowDirectories_visit hplace hnext) hrest

/-- A piece that leads to a file is the name of an entry. -/
theorem piece_of_visit_file {place : List Entry × Entry} {above : List Entry} {e : Entry}
    {piece : String} (hplace : IsBelowDirectories place) (h : visit place piece = .ok (above, e))
    (he : e.isFile) :
    piece ≠ "" ∧ piece ≠ "." ∧ piece ≠ ".." := by
  obtain ⟨entries, hentries, rfl | ⟨-, up, above, habove, heq⟩ | ⟨hempty, hdot, hdots, -⟩⟩ := visit_cases h
  · obtain rfl : e = .directory entries := hentries
    cases he
  · obtain ⟨rfl, rfl⟩ := Prod.mk.inj heq
    have hdirectory := hplace e (by rw [habove]; exact List.mem_cons_self)
    rw [Entry.isDirectory, he] at hdirectory
    cases hdirectory
  · exact ⟨hempty, hdot, hdots⟩

/-! ### The directory of a path -/

/-- The pieces that lead from the root to the directory of a path, given the pieces before its last one. -/
def approach (fs : FileSystem) : List String → List String
  | [] => fs.workDir
  | first :: pieces => if first = "" then pieces else fs.workDir ++ first :: pieces

/-- The directory of a path, given the pieces before its last one. -/
def enter (fs : FileSystem) (before : List String) : Except FileError (List Entry × Entry) :=
  (fs.approach before).foldlM visit ([], fs.root)

theorem approach_append (first : String) (pieces more : List String) :
    fs.approach (first :: pieces ++ more) = fs.approach (first :: pieces) ++ more := by
  show (if first = "" then pieces ++ more else fs.workDir ++ first :: (pieces ++ more)) =
    (if first = "" then pieces else fs.workDir ++ first :: pieces) ++ more
  split <;> simp

section Split

variable {path last : String} {before : List String} (h : Text.split '/' path = before ++ [last])

include h

theorem trace_of_split (hpath : path ≠ "") :
    fs.trace path = fs.enter before >>= fun place => visit place last := by
  have hroute : fs.route path = fs.approach before ++ [last] := by
    cases before with
    | nil =>
      have hne : last ≠ "" := by
        rwa [← Text.eq_of_split_eq_singleton h]
      rw [fs.route_of_split h, if_neg hne]
      rfl
    | cons first pieces =>
      rw [← approach_append, fs.route_of_split h]
      rfl
  rw [trace, hroute, List.foldlM_append, enter]
  simp

theorem isFile_iff_of_split (hpath : path ≠ "") :
    fs.isFile path ↔ ∃ place above e, fs.enter before = .ok place ∧
      visit place last = .ok (above, e) ∧ e.isFile := by
  have hlookup : fs.isFile path ↔ ∃ above e, fs.trace path = .ok (above, e) ∧ e.isFile := by
    rw [isFile, at?, fs.lookup_eq_trace hpath]
    cases fs.trace path with
    | error e => simp [Except.map, Except.toOption]
    | ok place =>
      obtain ⟨above, e⟩ := place
      simp [Except.map, Except.toOption]
  rw [hlookup, trace_of_split h hpath]
  simp only [Except.bind_eq_ok_iff]
  constructor
  · rintro ⟨above, e, ⟨place, henter, hvisit⟩, he⟩
    exact ⟨place, above, e, henter, hvisit, he⟩
  · rintro ⟨place, above, e, henter, hvisit, he⟩
    exact ⟨above, e, ⟨place, henter, hvisit⟩, he⟩

/-- The last piece of a path that leads to a file is a name. -/
theorem isName_of_isFile (hfile : fs.isFile path) : Path.isName last := by
  have hpath : path ≠ "" := by
    rintro rfl
    cases hfile
  obtain ⟨place, above, e, henter, hvisit, he⟩ := (isFile_iff_of_split h hpath).mp hfile
  have hroot : IsBelowDirectories ([], fs.root) := by
    intro e he
    cases he
  obtain ⟨hempty, hdot, hdots⟩ := piece_of_visit_file (isBelowDirectories_foldlM hroot henter) hvisit he
  have hslash := Text.not_mem_of_mem_split (h ▸ List.mem_append_right before List.mem_cons_self)
  exact Path.isName_iff.mpr ⟨hempty, hdot, hdots, hslash⟩

end Split

theorem exists_split_of_isFile {path : String} (h : fs.isFile path) :
    ∃ before name, Text.split '/' path = before ++ [name] ∧ Path.isName name := by
  have hsplit := List.dropLast_append_getLast (Text.split_ne_nil path)
  exact ⟨_, _, hsplit.symm, isName_of_isFile hsplit.symm h⟩

/-- Pieces that make no difference can be left out before another piece. -/
theorem foldlM_visit_voids {voids : List String} (hvoids : ∀ piece ∈ voids, Path.isVoid piece)
    (place : List Entry × Entry) (piece : String) :
    (voids.foldlM visit place >>= fun q => visit q piece) = visit place piece := by
  induction voids generalizing place with
  | nil => rfl
  | cons void voids ih =>
    obtain ⟨hvoid, hvoids⟩ := List.forall_mem_cons.mp hvoids
    have hcase : void = "" ∨ void = "." := by simpa [Path.isVoid] using hvoid
    rw [List.foldlM_cons, bind_assoc]
    simp only [ih hvoids]
    exact visit_void_bind hcase place piece

theorem enter_trimPieces (before : List String) (piece : String) :
    (fs.enter (Path.trimPieces before) >>= fun place => visit place piece) =
      fs.enter before >>= fun place => visit place piece := by
  cases before with
  | nil => rfl
  | cons first pieces =>
    obtain ⟨kept, voids, rfl, hvoids, htrim, -⟩ := Path.trimPieces_cons first pieces
    rw [htrim, enter, enter, ← List.cons_append, approach_append, List.foldlM_append, bind_assoc]
    simp only [foldlM_visit_voids hvoids]

/-- A path may be spelled without pieces that make no difference. -/
theorem isFile_trimPieces {path path' last : String} {before : List String} (hlast : last ≠ "")
    (h : Text.split '/' path = before ++ [last])
    (h' : Text.split '/' path' = Path.trimPieces before ++ [last]) : fs.isFile path' = fs.isFile path := by
  have hne {path : String} {before : List String} (h : Text.split '/' path = before ++ [last]) :
      path ≠ "" := by
    rintro rfl
    have hmem : last ∈ Text.split '/' "" := h ▸ List.mem_append_right before List.mem_cons_self
    exact hlast (List.mem_singleton.mp hmem)
  rw [isFile, isFile, at?, at?, fs.lookup_eq_trace (hne h), fs.lookup_eq_trace (hne h'),
    trace_of_split h (hne h), trace_of_split h' (hne h'), enter_trimPieces]

/-! ### The two candidates -/

section Candidates

variable {path name parent stem : String} {before : List String}
  (h : Text.split '/' path = before ++ [name]) (hname : Path.isName name)
  (hparent : Path.ofPieces (Path.trimPieces before) = parent)
  (hstem : (Path.splitExtension name).1 = stem)

include h hparent in
theorem split_sibling {s : String} (hs : '/' ∉ s.toList) :
    Text.split '/' (Path.join parent s) = Path.trimPieces before ++ [s] := by
  rw [← hparent]
  apply Path.split_join_trimPieces
  · intro piece hpiece
    exact Text.not_mem_of_mem_split (h ▸ List.mem_append_left _ hpiece)
  · exact hs

include hname hstem in
theorem slash_not_mem_stem : '/' ∉ stem.toList :=
  hstem ▸ Path.not_mem_stem (Path.isName_iff.mp hname).2.2.2

include hname hstem in
theorem isVoid_stem (hdot : stem ≠ ".") : Path.isVoid stem = false := by
  have hempty : stem ≠ "" := hstem ▸ Path.stem_ne_empty (Path.isName_iff.mp hname).1
  simp [Path.isVoid, hempty, hdot]

include h hname hstem in
theorem split_withExtension_source (hdot : stem ≠ ".") :
    Text.split '/' (Path.withExtension path "hbs") = before ++ [stem ++ ".hbs"] := by
  have hslash : '/' ∉ "hbs".toList := by decide
  rw [Path.split_withExtension h hname hslash (hstem ▸ hdot), hstem, String.append_assoc]
  rfl

include hname hstem in
theorem isName_source :
    Path.isName (stem ++ ".hbs") ∧ Path.splitExtension (stem ++ ".hbs") = (stem, some "hbs") := by
  have hempty : stem ≠ "" := hstem ▸ Path.stem_ne_empty (Path.isName_iff.mp hname).1
  have hslash := slash_not_mem_stem hname hstem
  have hlength : (stem ++ ".hbs").length = stem.length + 4 := String.length_append stem ".hbs"
  have hlong {s : String} (hs : s.length < 4) : stem ++ ".hbs" ≠ s := by
    intro heq
    rw [heq] at hlength
    omega
  constructor
  · apply Path.isName_iff.mpr
    refine ⟨hlong (by decide), hlong (by decide), hlong (by decide), ?_⟩
    rw [String.toList_append, List.mem_append, not_or]
    exact ⟨hslash, by decide⟩
  · have hdotted : ".hbs" = "." ++ "hbs" := rfl
    rw [hdotted, ← String.append_assoc]
    exact Path.splitExtension_append hempty (by decide)

include h hname hparent hstem

theorem sourceCandidates_of_split :
    Template.sourceCandidates path =
      (if Path.extension? (Path.join parent stem) = some "hbs" then [Path.join parent stem] else []) ++
        [Path.withExtension path "hbs"] := by
  rw [Template.sourceCandidates, Path.stem?_of_split h hname,
    Path.parent?_of_split h (Path.isVoid_of_isName hname), hparent, hstem]
  rfl

/-- A stem that is a dot leads back to the directory, and the other candidate leads above it. -/
theorem sourcePath?_of_dot (hdot : stem = ".") : fs.sourcePath? path = none := by
  have hslash := slash_not_mem_stem hname hstem
  rw [sourcePath?, List.find?_eq_none, sourceCandidates_of_split h hname hparent hstem]
  intro q hq hfile
  rcases List.mem_append.mp hq with hq | hq
  · obtain rfl : q = Path.join parent stem := by grind
    have hisName := isName_of_isFile (split_sibling h hparent hslash) hfile
    rw [hdot] at hisName
    cases hisName
  · have hdots := Path.split_withExtension_dot h hname "hbs" (hstem.trans hdot)
    rw [List.mem_singleton.mp hq] at hfile
    cases isName_of_isFile hdots hfile

theorem extension?_sibling (hdot : stem ≠ ".") :
    Path.extension? (Path.join parent stem) = Path.extension? stem := by
  have hslash := slash_not_mem_stem hname hstem
  have hvoid := isVoid_stem hname hstem hdot
  have hsplit := split_sibling h hparent hslash
  have hsplit' : Text.split '/' stem = [] ++ [stem] := Text.split_of_not_mem hslash
  rw [Path.extension?, Path.extension?, Path.fileName?, Path.fileName?,
    Path.splitLast_of_split hsplit hvoid, Path.splitLast_of_split hsplit' hvoid]
  rfl

theorem isFile_withExtension (hdot : stem ≠ ".") :
    fs.isFile (Path.withExtension path "hbs") = fs.isFile (Path.join parent (stem ++ ".hbs")) := by
  have hsplit := split_withExtension_source h hname hstem hdot
  have hslash : '/' ∉ (stem ++ ".hbs").toList :=
    Text.not_mem_of_mem_split (hsplit ▸ List.mem_append_right before List.mem_cons_self)
  symm
  apply isFile_trimPieces _ hsplit (split_sibling h hparent hslash)
  simp

theorem sourcePath?_of_split (hdot : stem ≠ ".") :
    fs.sourcePath? path =
      if Path.extension? stem = some "hbs" ∧ fs.isFile (Path.join parent stem) then
        some (Path.join parent stem)
      else if fs.isFile (Path.join parent (stem ++ ".hbs")) then
        some (Path.withExtension path "hbs")
      else none := by
  rw [sourcePath?, sourceCandidates_of_split h hname hparent hstem,
    extension?_sibling h hname hparent hstem hdot, ← isFile_withExtension h hname hparent hstem hdot]
  by_cases hextension : Path.extension? stem = some "hbs"
  · simp only [hextension, if_true, true_and, List.cons_append, List.nil_append, List.find?_cons,
      List.find?_nil]
    grind
  · simp only [hextension, if_false, false_and, List.nil_append, List.find?_cons, List.find?_nil]
    grind

theorem sourcePath?_spec {q : String} (hq : fs.sourcePath? path = some q) :
    fs.isFile q ∧ Path.extension? q = some "hbs" ∧ Path.parent? q = some parent ∧
      Path.fileName? q =
        some (if Path.extension? stem = some "hbs" ∧ fs.isFile (Path.join parent stem)
          then stem else stem ++ ".hbs") := by
  have hdot : stem ≠ "." := by
    intro hdot
    rw [sourcePath?_of_dot h hname hparent hstem hdot] at hq
    cases hq
  rw [sourcePath?_of_split h hname hparent hstem hdot] at hq
  split at hq
  next hdirect =>
    obtain rfl := Option.some.inj hq
    have hsplit := split_sibling h hparent (slash_not_mem_stem hname hstem)
    have hisName := isName_of_isFile hsplit hdirect.2
    rw [if_pos hdirect, extension?_sibling h hname hparent hstem hdot,
      Path.parent?_of_split hsplit (Path.isVoid_of_isName hisName), Path.trimPieces_idem, hparent,
      Path.fileName?_of_split hsplit hisName]
    exact ⟨hdirect.2, hdirect.1, rfl, rfl⟩
  next hdirect =>
    split at hq
    next hfile =>
      obtain rfl := Option.some.inj hq
      have hsplit := split_withExtension_source h hname hstem hdot
      obtain ⟨hisName, hextension⟩ := isName_source hname hstem
      rw [if_neg hdirect, isFile_withExtension h hname hparent hstem hdot,
        Path.extension?_of_split hsplit hisName, hextension,
        Path.parent?_of_split hsplit (Path.isVoid_of_isName hisName), hparent,
        Path.fileName?_of_split hsplit hisName]
      exact ⟨hfile, rfl, rfl, rfl⟩
    · cases hq

theorem sourcePath?_eq_none_iff :
    fs.sourcePath? path = none ↔
      stem = "." ∨
        ¬(Path.extension? stem = some "hbs" ∧ fs.isFile (Path.join parent stem)) ∧
          ¬fs.isFile (Path.join parent (stem ++ ".hbs")) := by
  by_cases hdot : stem = "."
  · simp [hdot, sourcePath?_of_dot h hname hparent hstem hdot]
  · rw [sourcePath?_of_split h hname hparent hstem hdot]
    grind

end Candidates

/-- Paths that are the same lead to files with the same extension. -/
theorem extension?_eq_of_same {p q : String} (hp : fs.isFile p) (hq : fs.isFile q)
    (h : Path.same p q) : Path.extension? p = Path.extension? q := by
  obtain ⟨before, name, hsplit, hname⟩ := exists_split_of_isFile hp
  obtain ⟨before', name', hsplit', hname'⟩ := exists_split_of_isFile hq
  have hlast : some (Component.name name) = some (Component.name name') := by
    rw [← Path.getLast?_components hsplit hname, ← Path.getLast?_components hsplit' hname',
      Path.same_iff.mp h]
  rw [Path.extension?_of_split hsplit hname, Path.extension?_of_split hsplit' hname',
    Component.name.inj (Option.some.inj hlast)]

/-- **The text of a stored template lies next to it.** However the path of a file is spelled, the text that is
found is a file in the same directory. Its name is the stem, if that has the extension of texts and is there,
and else the stem with this extension. No text is found when neither of the two is there, or when the stem is
a dot. A template is another file than its text, and files are taken for templates by their names or for
having a text. -/
theorem source_paired {fs : FileSystem} {path : String} (h : fs.isFile path) :
    ∃ parent stem, Path.parent? path = some parent ∧ Path.stem? path = some stem ∧
      (∀ q, fs.sourcePath? path = some q →
        fs.isFile q ∧ Path.extension? q = some "hbs" ∧ Path.parent? q = some parent ∧
          Path.fileName? q =
            some (if Path.extension? stem = some "hbs" ∧ fs.isFile (Path.join parent stem)
              then stem else stem ++ ".hbs")) ∧
      (fs.sourcePath? path = none ↔
        stem = "." ∨
          ¬(Path.extension? stem = some "hbs" ∧ fs.isFile (Path.join parent stem)) ∧
            ¬fs.isFile (Path.join parent (stem ++ ".hbs"))) ∧
      (Path.extension? path = some "json" →
        (∀ q, fs.sourcePath? path = some q → ¬Path.same q path) ∧
          (fs.isTemplatePath path ↔
            Path.extension? stem = some "hbs" ∨ ∃ q, fs.sourcePath? path = some q)) ∧
      (Path.extension? path ≠ some "json" → fs.isTemplatePath path = false) := by
  obtain ⟨before, name, hsplit, hname⟩ := exists_split_of_isFile h
  have hsource (q : String) (hq : fs.sourcePath? path = some q) :=
    sourcePath?_spec hsplit hname rfl rfl hq
  have hstem := Path.stem?_of_split hsplit hname
  refine ⟨_, _, Path.parent?_of_split hsplit (Path.isVoid_of_isName hname), hstem, ?_, ?_, ?_, ?_⟩
  · exact hsource
  · exact sourcePath?_eq_none_iff hsplit hname rfl rfl
  · intro hjson
    constructor
    · intro q hq hsame
      obtain ⟨hfile, hextension, -⟩ := hsource q hq
      rw [extension?_eq_of_same hfile h hsame, hjson] at hextension
      exact absurd hextension (by decide)
    · rw [isTemplatePath, hstem, hjson]
      simp [Option.isSome_iff_exists]
  · intro hjson
    simp [isTemplatePath, hjson]

/-- Two templates with their texts. The names of all four files start with a dot. -/
def dottedTree : FileSystem where
  root := .directory [("..hbs", .file .empty), ("..json", .file .empty),
    ("a", .directory [(".hbs.hbs", .file .empty), (".hbs.json", .file .empty)])]
  workDir := []
  home := none

/-- The dot at the start of `.hbs` is not that of an extension. -/
theorem source_paired_dottedTree :
    dottedTree.isFile "a//./.hbs.json" ∧
      ∃ q, dottedTree.sourcePath? "a//./.hbs.json" = some q ∧ dottedTree.isFile q ∧
        Path.parent? q = some "a" ∧ Path.fileName? q = some ".hbs.hbs" ∧
        ¬Path.same q "a//./.hbs.json" ∧ dottedTree.isTemplatePath "a//./.hbs.json" := by
  have hfile : dottedTree.isFile "a//./.hbs.json" := by decide +kernel
  obtain ⟨parent, stem, hparent, hstem, hfound, hnone, hjson, -⟩ := source_paired hfile
  have ha : Path.parent? "a//./.hbs.json" = some "a" := by decide +kernel
  have hhbs : Path.stem? "a//./.hbs.json" = some ".hbs" := by decide +kernel
  obtain rfl := Option.some.inj (ha.symm.trans hparent)
  obtain rfl := Option.some.inj (hhbs.symm.trans hstem)
  have hdirect : Path.extension? ".hbs" ≠ some "hbs" := by decide
  obtain ⟨q, hq⟩ : ∃ q, dottedTree.sourcePath? "a//./.hbs.json" = some q := by
    rw [← Option.ne_none_iff_exists', ne_eq, hnone]
    decide +kernel
  obtain ⟨hisFile, -, hsame, hname⟩ := hfound q hq
  rw [if_neg fun h => hdirect h.1] at hname
  obtain ⟨hne, htemplate⟩ := hjson (by decide +kernel)
  exact ⟨hfile, q, hq, hisFile, hsame, hname, hne q hq, htemplate.mpr (Or.inr ⟨q, hq⟩)⟩

/-- The text of `..json` is not found. -/
theorem source_unpaired_dots :
    dottedTree.isFile "..json" ∧ Path.parent? "..json" = some "" ∧ Path.stem? "..json" = some "." ∧
      dottedTree.isFile (Path.join "" ("." ++ ".hbs")) ∧ dottedTree.sourcePath? "..json" = none ∧
      dottedTree.isTemplatePath "..json" = false := by
  decide +kernel

end TemplateLint.FileSystem
