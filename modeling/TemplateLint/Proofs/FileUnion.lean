import Mathlib.Data.List.Sort
import TemplateLint.Proofs.PathOrder
import TemplateLint.Proofs.Reading

/-!
# The files of several arguments

The linter collects the files of its arguments one argument after the other, and then sorts them and drops
those that are the same path as the one before. What comes out is the union: a path is in the result exactly
when it is in the result of one argument alone.

* `Path.isIn_sortUnique_iff`: sorting keeps all paths, up to their spelling.
* `Path.eq_of_isIn_iff`: sorted paths are known from what is in them, up to spelling. So two lists of
  arguments have the same outcome as soon as they cover the same paths (`outcome_congr`).
* `collect_union`: the union, and what follows for the order, the repetition and the addition of arguments.

Nothing here depends on how patterns are expanded.
-/

namespace TemplateLint

/-! ### Paths up to spelling -/

namespace Path

/-- The path is in the list, spelled like this or in another way. -/
def IsIn (p : String) (ps : List String) : Prop := ∃ q ∈ ps, same q p

theorem isIn_iff {p : String} {ps : List String} : IsIn p ps ↔ components p ∈ ps.map components := by
  rw [List.mem_map]
  apply exists_congr
  intro q
  rw [same_iff]

theorem isIn_of_mem {p : String} {ps : List String} (h : p ∈ ps) : IsIn p ps := ⟨p, h, same_refl p⟩

theorem isIn_sortUnique_iff {p : String} {ps : List String} : IsIn p (sortUnique ps) ↔ IsIn p ps := by
  constructor
  · rintro ⟨q, hq, hsame⟩
    exact ⟨q, mem_of_mem_sortUnique hq, hsame⟩
  · rintro ⟨q, hq, hsame⟩
    obtain ⟨r, hr, hcomponents⟩ := exists_mem_sortUnique hq
    exact ⟨r, hr, same_trans (same_iff.mpr hcomponents) hsame⟩

theorem isIn_flatten_iff {p : String} {lists : List (List String)} :
    IsIn p lists.flatten ↔ ∃ ps ∈ lists, IsIn p ps := by
  constructor
  · rintro ⟨q, hq, hsame⟩
    obtain ⟨ps, hps, hmem⟩ := List.mem_flatten.mp hq
    exact ⟨ps, hps, q, hmem, hsame⟩
  · rintro ⟨ps, hps, q, hmem, hsame⟩
    exact ⟨q, List.mem_flatten.mpr ⟨ps, hps, hmem⟩, hsame⟩

/-- Paths in strict order are known from what is in them. -/
theorem eq_of_isIn_iff {ps qs : List String} (hps : ps.Pairwise fun p q => order p q = .lt)
    (hqs : qs.Pairwise fun p q => order p q = .lt) (h : ∀ p, IsIn p ps ↔ IsIn p qs) :
    ps.map components = qs.map components := by
  let lt (a b : List Component) : Prop := compare a b = .lt
  have hirrefl : Std.Irrefl lt := by
    constructor
    intro a (ha : compare a a = .lt)
    have heq : compare a a = .eq := Std.ReflCmp.compare_self
    rw [heq] at ha
    cases ha
  have hantisymm : Std.Antisymm lt := by
    constructor
    intro a b (hab : compare a b = .lt) (hba : compare b a = .lt)
    rw [Std.OrientedCmp.gt_iff_lt.mpr hab] at hba
    cases hba
  have hsorted {ps : List String} (hps : ps.Pairwise fun p q => order p q = .lt) :
      (ps.map components).Pairwise lt := List.pairwise_map.mpr hps
  apply (hsorted hps).eq_of_mem_iff (hsorted hqs)
  intro c
  constructor
  · intro hc
    obtain ⟨p, hp, rfl⟩ := List.mem_map.mp hc
    exact isIn_iff.mp ((h p).mp (isIn_of_mem hp))
  · intro hc
    obtain ⟨q, hq, rfl⟩ := List.mem_map.mp hc
    exact isIn_iff.mp ((h q).mpr (isIn_of_mem hq))

end Path

/-! ### Argument by argument -/

namespace FileSystem

variable {expand : String → Except WildcardError (List String)} {fs : FileSystem}
  {arguments arguments' : List String} {ps : List String}

theorem collectBy_eq_ok_iff : fs.collectBy expand arguments = .ok ps ↔
    ∃ lists : List (List String), arguments.map (fs.collectArgument expand) = lists.map .ok ∧
      ps = Path.sortUnique lists.flatten := by
  rw [collectBy, Except.bind_eq_ok_iff]
  apply exists_congr
  intro lists
  rw [List.mapM_eq_ok_iff]
  apply and_congr_right
  intro _
  show Except.ok _ = Except.ok ps ↔ _
  rw [Except.ok.injEq, eq_comm]

theorem pairwise_collectBy (h : fs.collectBy expand arguments = .ok ps) :
    ps.Pairwise fun p q => Path.order p q = .lt := by
  obtain ⟨lists, -, rfl⟩ := collectBy_eq_ok_iff.mp h
  exact Path.pairwise_sortUnique _

/-- One argument that cannot be read spoils the run, and nothing else does. -/
theorem exists_collectBy_iff : (∃ ps, fs.collectBy expand arguments = .ok ps) ↔
    ∀ a ∈ arguments, ∃ files, fs.collectArgument expand a = .ok files := by
  constructor
  · rintro ⟨ps, hps⟩ a ha
    obtain ⟨lists, hlists, -⟩ := collectBy_eq_ok_iff.mp hps
    have hmem : fs.collectArgument expand a ∈ lists.map .ok := by
      rw [← hlists]
      exact List.mem_map_of_mem ha
    obtain ⟨files, -, hfiles⟩ := List.mem_map.mp hmem
    exact ⟨files, hfiles.symm⟩
  · intro h
    choose! files hfiles using h
    refine ⟨_, collectBy_eq_ok_iff.mpr ⟨arguments.map files, ?_, rfl⟩⟩
    rw [List.map_map]
    apply List.map_congr_left
    intro a ha
    exact hfiles a ha

theorem isIn_collectBy_iff (h : fs.collectBy expand arguments = .ok ps) {p : String} :
    Path.IsIn p ps ↔
      ∃ a ∈ arguments, ∃ files, fs.collectArgument expand a = .ok files ∧ Path.IsIn p files := by
  obtain ⟨lists, hlists, rfl⟩ := collectBy_eq_ok_iff.mp h
  have hmem (files : List String) :
      files ∈ lists ↔ ∃ a ∈ arguments, fs.collectArgument expand a = .ok files := by
    rw [← List.mem_map, hlists, List.mem_map_of_injective fun _ _ => Except.ok.inj]
  rw [Path.isIn_sortUnique_iff, Path.isIn_flatten_iff]
  constructor
  · rintro ⟨files, hfiles, hp⟩
    obtain ⟨a, ha, hcollect⟩ := (hmem files).mp hfiles
    exact ⟨a, ha, files, hcollect, hp⟩
  · rintro ⟨a, ha, files, hcollect, hp⟩
    exact ⟨files, (hmem files).mpr ⟨a, ha, hcollect⟩, hp⟩

/-! ### One argument alone -/

theorem exists_collectBy_singleton_iff {a : String} : (∃ qs, fs.collectBy expand [a] = .ok qs) ↔
    ∃ files, fs.collectArgument expand a = .ok files := by
  rw [exists_collectBy_iff, List.forall_mem_singleton]

theorem isIn_singleton_iff {a p : String} :
    (∃ qs, fs.collectBy expand [a] = .ok qs ∧ Path.IsIn p qs) ↔
      ∃ files, fs.collectArgument expand a = .ok files ∧ Path.IsIn p files := by
  constructor
  · rintro ⟨qs, hqs, hp⟩
    obtain ⟨b, hb, hfiles⟩ := (isIn_collectBy_iff hqs).mp hp
    rwa [List.mem_singleton.mp hb] at hfiles
  · rintro ⟨files, hfiles, hp⟩
    obtain ⟨qs, hqs⟩ := exists_collectBy_singleton_iff.mpr ⟨files, hfiles⟩
    exact ⟨qs, hqs, (isIn_collectBy_iff hqs).mpr ⟨a, List.mem_singleton_self a, files, hfiles, hp⟩⟩

/-! ### Outcomes -/

/-- What collecting comes to, whichever way paths are spelled and whichever pattern cannot be read. -/
def outcome (result : Except CollectError (List String)) : Option (List (List Component)) :=
  result.toOption.map fun ps => ps.map Path.components

/-- Arguments that succeed together and cover the same paths have the same outcome. -/
theorem outcome_congr
    (hok : (∃ ps, fs.collectBy expand arguments = .ok ps) ↔ ∃ qs, fs.collectBy expand arguments' = .ok qs)
    (hisIn : ∀ ps qs, fs.collectBy expand arguments = .ok ps → fs.collectBy expand arguments' = .ok qs →
      ∀ p, Path.IsIn p ps ↔ Path.IsIn p qs) :
    outcome (fs.collectBy expand arguments) = outcome (fs.collectBy expand arguments') := by
  cases h : fs.collectBy expand arguments with
  | ok ps =>
    obtain ⟨qs, hqs⟩ := hok.mp ⟨ps, h⟩
    rw [hqs]
    exact congrArg some
      (Path.eq_of_isIn_iff (pairwise_collectBy h) (pairwise_collectBy hqs) (hisIn ps qs h hqs))
  | error _ =>
    cases h' : fs.collectBy expand arguments' with
    | ok qs =>
      obtain ⟨ps, hps⟩ := hok.mpr ⟨qs, h'⟩
      rw [h] at hps
      cases hps
    | error _ => rfl

theorem outcome_of_mem_iff (h : ∀ a, a ∈ arguments ↔ a ∈ arguments') :
    outcome (fs.collectBy expand arguments) = outcome (fs.collectBy expand arguments') := by
  apply outcome_congr
  · rw [exists_collectBy_iff, exists_collectBy_iff]
    simp only [h]
  · intro ps qs hps hqs p
    rw [isIn_collectBy_iff hps, isIn_collectBy_iff hqs]
    simp only [h]

/-- An argument more whose files are covered already. -/
theorem outcome_covered {before after : List String} {a : String} {qs : List String}
    (ha : fs.collectBy expand [a] = .ok qs)
    (hcovered : ∀ ps, fs.collectBy expand (before ++ after) = .ok ps → ∀ q ∈ qs, Path.IsIn q ps) :
    outcome (fs.collectBy expand (before ++ a :: after)) =
      outcome (fs.collectBy expand (before ++ after)) := by
  have hmem (b : String) : b ∈ before ++ a :: after ↔ b = a ∨ b ∈ before ++ after := by
    simp only [List.mem_append, List.mem_cons]
    grind
  apply outcome_congr
  · rw [exists_collectBy_iff, exists_collectBy_iff]
    constructor
    · intro h b hb
      exact h b ((hmem b).mpr (Or.inr hb))
    · intro h b hb
      rcases (hmem b).mp hb with rfl | hb
      · exact exists_collectBy_singleton_iff.mp ⟨qs, ha⟩
      · exact h b hb
  · intro ps ps' hps hps' p
    rw [isIn_collectBy_iff hps]
    constructor
    · rintro ⟨b, hb, hfiles⟩
      rcases (hmem b).mp hb with rfl | hb
      · -- a file of the new argument is in the old result
        obtain ⟨qs', hqs', q, hq, hsame⟩ := isIn_singleton_iff.mpr hfiles
        obtain rfl := Except.ok.inj (ha.symm.trans hqs')
        obtain ⟨r, hr, hrq⟩ := hcovered ps' hps' q hq
        exact ⟨r, hr, Path.same_trans hrq hsame⟩
      · exact (isIn_collectBy_iff hps').mpr ⟨b, hb, hfiles⟩
    · intro hp
      obtain ⟨b, hb, hfiles⟩ := (isIn_collectBy_iff hps').mp hp
      exact ⟨b, (hmem b).mpr (Or.inr hb), hfiles⟩

/-! ### Files that a directory skips -/

theorem collectArgument_eq_ok_iff {a : String} {files : List String} :
    fs.collectArgument expand a = .ok files ↔ ∃ paths, expand (fs.argumentPattern a) = .ok paths ∧
      files = if fs.isDirectory a then (paths.filter fs.isFile).filter fs.isTemplatePath
        else paths.filter fs.isFile := by
  rw [collectArgument, Except.bind_eq_ok_iff]
  apply exists_congr
  intro paths
  have herror : (expand (fs.argumentPattern a)).mapError (CollectError.mk (fs.argumentPattern a)) =
      .ok paths ↔ expand (fs.argumentPattern a) = .ok paths := by
    cases expand (fs.argumentPattern a) <;> simp [Except.mapError]
  rw [herror]
  apply and_congr_right
  intro _
  show Except.ok _ = Except.ok files ↔ _
  rw [Except.ok.injEq, eq_comm]

/-- Of a directory only stored templates are taken. -/
theorem isTemplatePath_of_collectBy {d f : String} {qs : List String} (hd : fs.isDirectory d)
    (hqs : fs.collectBy expand [d] = .ok qs) (hf : f ∈ qs) : fs.isTemplatePath f := by
  obtain ⟨lists, hlists, rfl⟩ := collectBy_eq_ok_iff.mp hqs
  obtain ⟨files, rfl, hfiles⟩ := List.map_eq_singleton_iff.mp hlists.symm
  obtain ⟨paths, -, rfl⟩ := collectArgument_eq_ok_iff.mp hfiles.symm
  have hmem := Path.mem_of_mem_sortUnique hf
  rw [List.flatten_singleton, if_pos hd] at hmem
  exact (List.mem_filter.mp hmem).2

/-- An argument that is no directory takes every file that its pattern finds. -/
theorem isIn_of_named {a f : String} {paths : List String} (ha : a ∈ arguments)
    (hdir : ¬ fs.isDirectory a) (hexpand : expand a = .ok paths) (hf : f ∈ paths) (hfile : fs.isFile f)
    (h : fs.collectBy expand arguments = .ok ps) : Path.IsIn f ps := by
  have hpattern : fs.argumentPattern a = a := if_neg hdir
  have hcollect : fs.collectArgument expand a = .ok (paths.filter fs.isFile) := by
    rw [collectArgument_eq_ok_iff, hpattern]
    exact ⟨paths, hexpand, (if_neg hdir).symm⟩
  have hmem : f ∈ paths.filter fs.isFile := List.mem_filter.mpr ⟨hf, hfile⟩
  exact (isIn_collectBy_iff h).mpr ⟨a, ha, _, hcollect, Path.isIn_of_mem hmem⟩

/-- **The files of several arguments are the union of the files of each.** `expand` may expand patterns in
any way. The result is in strict order, so that no path is there twice, and up to spelling a path is there
exactly when one of the arguments alone has it. The run succeeds when it does for each argument. So
arguments can be put in another order or repeated, and an argument whose files are covered can be added,
without a change of the outcome. A file that a directory skips stays when another argument names it. -/
theorem collect_union (expand : String → Except WildcardError (List String)) (fs : FileSystem)
    (arguments : List String) :
    (∀ ps, fs.collectBy expand arguments = .ok ps →
      (ps.Pairwise fun p q => Path.order p q = .lt) ∧
      (ps.Pairwise fun p q => ¬ Path.same p q) ∧
      ∀ p, Path.IsIn p ps ↔
        ∃ a ∈ arguments, ∃ qs, fs.collectBy expand [a] = .ok qs ∧ Path.IsIn p qs) ∧
    ((∃ ps, fs.collectBy expand arguments = .ok ps) ↔
      ∀ a ∈ arguments, ∃ qs, fs.collectBy expand [a] = .ok qs) ∧
    (∀ arguments' : List String, (∀ a, a ∈ arguments' ↔ a ∈ arguments) →
      outcome (fs.collectBy expand arguments') = outcome (fs.collectBy expand arguments)) ∧
    (∀ before after a qs, arguments = before ++ after → fs.collectBy expand [a] = .ok qs →
      (∀ ps, fs.collectBy expand arguments = .ok ps → ∀ q ∈ qs, Path.IsIn q ps) →
      outcome (fs.collectBy expand (before ++ a :: after)) =
        outcome (fs.collectBy expand arguments)) ∧
    ∀ d a f paths ps, d ∈ arguments → a ∈ arguments → fs.isDirectory d → ¬ fs.isDirectory a →
      fs.isFile f → ¬ fs.isTemplatePath f → expand a = .ok paths → f ∈ paths →
      fs.collectBy expand arguments = .ok ps →
      (∀ qs, fs.collectBy expand [d] = .ok qs → f ∉ qs) ∧ Path.IsIn f ps := by
  refine ⟨?_, ?_, ?_, ?_, ?_⟩
  · intro ps hps
    have hsorted := pairwise_collectBy hps
    refine ⟨hsorted, hsorted.imp ?_, ?_⟩
    · intro p q hlt hsame
      rw [Path.order_eq_iff.mpr (Path.same_iff.mp hsame)] at hlt
      cases hlt
    · intro p
      rw [isIn_collectBy_iff hps]
      simp only [isIn_singleton_iff]
  · rw [exists_collectBy_iff]
    simp only [exists_collectBy_singleton_iff]
  · intro arguments' h
    exact outcome_of_mem_iff h
  · rintro before after a qs rfl ha hcovered
    exact outcome_covered ha hcovered
  · intro d a f paths ps _ ha hd hdir hfile htemplate hexpand hf hps
    refine ⟨?_, isIn_of_named ha hdir hexpand hf hfile hps⟩
    intro qs hqs hmem
    exact htemplate (isTemplatePath_of_collectBy hd hqs hmem)

/-- A stored template in a directory, beside a file that is none. -/
def skippedTree : FileSystem where
  root := .directory [("p", .directory [("a.json", .file .empty), ("b.hbs.json", .file .empty)])]
  workDir := []
  home := none

/-- The file that is no template is skipped in the directory, and kept where it is named. -/
theorem collect_union_skippedTree :
    skippedTree.isDirectory "p" ∧ ¬ skippedTree.isDirectory "p/a.json" ∧ skippedTree.isFile "p/a.json" ∧
    ¬ skippedTree.isTemplatePath "p/a.json" ∧
    ∃ ps paths, skippedTree.collectBy skippedTree.expand ["p", "p/a.json"] = .ok ps ∧
      skippedTree.expand "p/a.json" = .ok paths ∧ "p/a.json" ∈ paths ∧
      (∀ qs, skippedTree.collectBy skippedTree.expand ["p"] = .ok qs → "p/a.json" ∉ qs) ∧
      Path.IsIn "p/a.json" ps ∧
      outcome (skippedTree.collectBy skippedTree.expand ["p/a.json", "p", "p/a.json"]) =
        outcome (.ok ps) := by
  have hd : skippedTree.isDirectory "p" := by decide +kernel
  have hdir : ¬ skippedTree.isDirectory "p/a.json" := by decide +kernel
  have hfile : skippedTree.isFile "p/a.json" := by decide +kernel
  have htemplate : ¬ skippedTree.isTemplatePath "p/a.json" := by decide +kernel
  have hok {α ε : Type} {x : Except ε α} {a : α} (h : x.toOption = some a) : x = .ok a := by
    cases x <;> cases h
    rfl
  have hexpand : skippedTree.expand "p/a.json" = .ok ["p/a.json"] := hok (by decide +kernel)
  have harguments : ∀ a ∈ ["p", "p/a.json"], ∃ files,
      skippedTree.collectArgument skippedTree.expand a = .ok files := by
    rw [List.forall_mem_cons, List.forall_mem_singleton]
    exact ⟨⟨["p/b.hbs.json"], hok (by decide +kernel)⟩, ⟨["p/a.json"], hok (by decide +kernel)⟩⟩
  obtain ⟨ps, hps⟩ := exists_collectBy_iff.mpr harguments
  have hunion := collect_union skippedTree.expand skippedTree ["p", "p/a.json"]
  obtain ⟨hskipped, hkept⟩ := hunion.2.2.2.2 "p" "p/a.json" "p/a.json" ["p/a.json"] ps (by simp) (by simp)
    hd hdir hfile htemplate hexpand (by simp) hps
  refine ⟨hd, hdir, hfile, htemplate, ps, ["p/a.json"], hps, hexpand, by simp, hskipped, hkept, ?_⟩
  rw [← hps]
  apply hunion.2.2.1
  intro a
  grind

end FileSystem

end TemplateLint
