import TemplateLint.Files.Expand
import TemplateLint.Proofs.Paths
import TemplateLint.Proofs.Reading

/-!
# What paths lead to

Looking up a path is a walk over its pieces, on which the directories above are kept for `..`
(`FileSystem.trace`). A piece more in a spelling is a step more of the walk, so names that lead to an
entry below a directory make the path of this entry (`FileSystem.trace_under`), and the listing of
everything below a directory is the list of these entries with their paths
(`Entry.mem_descendants_iff`).

This needs a tree as a file system has it: names that are not empty, no dots and without slashes, and
no two entries of one name in a directory (`Entry.isLegal`).
-/

namespace TemplateLint

/-! ### Following a path -/

namespace FileSystem

/-- Goes on by one piece of a path, from an entry below some directories, the closest first. -/
def visit (place : List Entry × Entry) (piece : String) : Except FileError (List Entry × Entry) :=
  match place with
  | (_, .file _) | (_, .unreadable _) => .error .notDirectory
  | (above, .directory entries) =>
    if piece = "" ∨ piece = "." then .ok place
    else if piece = ".." then
      match above with
      | [] => .ok place
      | up :: above => .ok (above, up)
    else
      match entries.lookup piece with
      | none => .error .notFound
      | some e => .ok (.directory entries :: above, e)

/-- What a piece of a path can do: it stays where it is, goes up, or goes to an entry of its name. -/
theorem visit_cases {place place' : List Entry × Entry} {piece : String}
    (h : visit place piece = .ok place') :
    ∃ entries, place.2 = .directory entries ∧
      (place' = place ∨
        (piece = ".." ∧ ∃ up above, place.1 = up :: above ∧ place' = (above, up)) ∨
        (piece ≠ "" ∧ piece ≠ "." ∧ piece ≠ ".." ∧
          ∃ e, entries.lookup piece = some e ∧ place' = (.directory entries :: place.1, e))) := by
  obtain ⟨above, _ | _ | entries⟩ := place
  · cases h
  · cases h
  refine ⟨entries, rfl, ?_⟩
  unfold visit at h
  simp only at h
  split at h
  · exact Or.inl (Except.ok.inj h).symm
  next hvoid =>
    rw [not_or] at hvoid
    split at h
    next hdots =>
      cases above with
      | nil => exact Or.inl (Except.ok.inj h).symm
      | cons up above => exact Or.inr (Or.inl ⟨hdots, up, above, rfl, (Except.ok.inj h).symm⟩)
    next hdots =>
      split at h
      · cases h
      next e hlookup =>
        exact Or.inr (Or.inr ⟨hvoid.1, hvoid.2, hdots, e, hlookup, (Except.ok.inj h).symm⟩)

theorem follow_eq (above : List Entry) (here : Entry) (pieces : List String) :
    follow above here pieces = (pieces.foldlM visit (above, here)).map (·.2) := by
  induction pieces generalizing above here with
  | nil => rfl
  | cons piece pieces ih =>
    rw [List.foldlM_cons]
    cases here with
    | file _ | unreadable _ => rfl
    | directory entries =>
      by_cases hvoid : piece = "" ∨ piece = "."
      · simp only [follow, visit, if_pos hvoid]
        exact ih above _
      by_cases hparent : piece = ".."
      · simp only [follow, visit, if_neg hvoid, if_pos hparent]
        cases above with
        | nil => exact ih [] _
        | cons up above => exact ih above up
      · simp only [follow, visit, if_neg hvoid, if_neg hparent]
        cases entries.lookup piece with
        | none => rfl
        | some e => exact ih _ e

/-- The pieces that lead from the root to the place of a path. -/
def route (fs : FileSystem) (path : String) : List String :=
  let (first, pieces) := Path.headAndTail path
  if first = "" then pieces else fs.workDir ++ first :: pieces

/-- The place of a path, with the directories above it. -/
def trace (fs : FileSystem) (path : String) : Except FileError (List Entry × Entry) :=
  (fs.route path).foldlM visit ([], fs.root)

theorem route_of_split (fs : FileSystem) {path first : String} {pieces : List String}
    (h : Text.split '/' path = first :: pieces) :
    fs.route path = if first = "" then pieces else fs.workDir ++ first :: pieces := by
  rw [route, Path.headAndTail, h]

theorem lookup_eq_trace (fs : FileSystem) {path : String} (h : path ≠ "") :
    fs.lookup path = (fs.trace path).map (·.2) := by
  obtain ⟨f, t, hft⟩ := List.exists_cons_of_ne_nil (Text.split_ne_nil path)
  rw [lookup, trace, fs.route_of_split hft, hft]
  split
  next hsingle =>
    exact absurd (Text.eq_of_split_eq_singleton (hft.trans hsingle)) h
  next hcons =>
    obtain ⟨rfl, rfl⟩ := List.cons.inj hcons
    exact follow_eq ..
  next hne =>
    rw [if_neg fun hf => hne t (by rw [hf])]
    exact follow_eq ..

theorem at?_of_trace {fs : FileSystem} {path : String} {place : List Entry × Entry}
    (h : path ≠ "") (htrace : fs.trace path = .ok place) : fs.at? path = some place.2 := by
  rw [at?, fs.lookup_eq_trace h, htrace]
  rfl

/-- A piece that makes no difference needs a directory, as any piece does. -/
theorem visit_void_bind {void : String} (h : void = "" ∨ void = ".") (place : List Entry × Entry)
    (piece : String) : (visit place void >>= fun q => visit q piece) = visit place piece := by
  obtain ⟨above, here⟩ := place
  cases here with
  | file _ | unreadable _ => rfl
  | directory entries =>
    simp only [visit, if_pos h]
    rfl

theorem trace_append (fs : FileSystem) (a : String) {s : String} (hs : '/' ∉ s.toList) :
    fs.trace (a ++ "/" ++ s) = fs.trace a >>= fun place => visit place s := by
  obtain ⟨f, t, hft⟩ := List.exists_cons_of_ne_nil (Text.split_ne_nil a)
  have hsplit : Text.split '/' (a ++ "/" ++ s) = f :: (t ++ [s]) := by
    rw [Text.split_append, hft, Text.split_of_not_mem hs]
    rfl
  have hroute : fs.route (a ++ "/" ++ s) = fs.route a ++ [s] := by
    rw [fs.route_of_split hsplit, fs.route_of_split hft]
    split <;> simp
  rw [trace, hroute, List.foldlM_append, ← trace]
  simp

theorem trace_join (fs : FileSystem) {p s : String} (hp : p ≠ "") (hs : '/' ∉ s.toList) :
    fs.trace (Path.join p s) = fs.trace p >>= fun place => visit place s := by
  obtain ⟨a, hjoin, rfl | rfl⟩ := Path.exists_join_eq hp s
  · rw [hjoin, fs.trace_append _ hs]
  · -- A slash that stood at the end already leads to the same directory.
    have hslash := fs.trace_append a (s := "") (by simp)
    rw [String.append_empty] at hslash
    rw [hjoin, fs.trace_append a hs, hslash, bind_assoc]
    simp only [visit_void_bind (.inl rfl)]

theorem trace_below (fs : FileSystem) {p s : String} (hp : Path.IsSpelled p) (hs : '/' ∉ s.toList)
    (hne : p = "." → s ≠ "") :
    fs.trace (Path.below p s) = fs.trace p >>= fun place => visit place s := by
  by_cases hdot : p = "."
  · subst hdot
    have htrace (t : String) (ht : '/' ∉ t.toList) (hne : t ≠ "") :
        fs.trace t = fs.workDir.foldlM visit ([], fs.root) >>= fun place => visit place t := by
      rw [trace, fs.route_of_split (Text.split_of_not_mem ht), if_neg hne, List.foldlM_append]
      simp
    rw [Path.below_dot, htrace s hs (hne rfl), htrace "." (by simp) (by simp), bind_assoc]
    simp only [visit_void_bind (.inr rfl)]
  · rw [hp.below_of_ne hdot, fs.trace_join hp.ne_empty hs]

end FileSystem

/-! ### Entries below an entry -/

namespace Entry

/-- The entry that some names lead to. -/
def at? (e : Entry) : List String → Option Entry
  | [] => some e
  | name :: names =>
    match e with
    | file _ | unreadable _ => none
    | directory entries => (entries.lookup name).bind fun e => e.at? names

mutual

/-- Whether the names in all directories can be names, and no directory has two entries of one name. -/
def isLegal : Entry → Bool
  | file _ | unreadable _ => true
  | directory entries => decide (entries.map (·.1)).Nodup && areLegal entries

/-- Whether all entries of a directory are legal. -/
def areLegal : List (String × Entry) → Bool
  | [] => true
  | (name, e) :: entries => Path.isName name && e.isLegal && areLegal entries

end

theorem areLegal_iff {entries : List (String × Entry)} :
    areLegal entries ↔ ∀ m ∈ entries, Path.isName m.1 ∧ m.2.isLegal := by
  induction entries with
  | nil => simp [areLegal]
  | cons m entries ih =>
    rw [areLegal, Bool.and_eq_true, Bool.and_eq_true, ih, List.forall_mem_cons]

theorem isLegal_directory_iff {entries : List (String × Entry)} :
    (directory entries).isLegal ↔
      (entries.map (·.1)).Nodup ∧ ∀ m ∈ entries, Path.isName m.1 ∧ m.2.isLegal := by
  rw [isLegal, Bool.and_eq_true, decide_eq_true_iff, areLegal_iff]

theorem at?_directory_cons_iff {entries : List (String × Entry)} {name : String}
    {names : List String} {e : Entry} :
    (directory entries).at? (name :: names) = some e ↔
      ∃ e', entries.lookup name = some e' ∧ e'.at? names = some e := by
  rw [at?, Option.bind_eq_some_iff]

/-- Names that lead somewhere in a legal tree can be names. -/
theorem isName_of_at? {e e' : Entry} (h : e.isLegal) {names : List String}
    (hat : e.at? names = some e') : ∀ name ∈ names, Path.isName name := by
  induction names generalizing e with
  | nil => simp
  | cons name names ih =>
    cases e with
    | file _ | unreadable _ => cases hat
    | directory entries =>
      obtain ⟨c, hlookup, hc⟩ := at?_directory_cons_iff.mp hat
      obtain ⟨hname, hlegal⟩ := (isLegal_directory_iff.mp h).2 _ (List.mem_of_lookup hlookup)
      exact List.forall_mem_cons.mpr ⟨hname, ih hlegal hc⟩

end Entry

namespace FileSystem

theorem visit_of_isName {above : List Entry} {entries : List (String × Entry)} {name : String}
    {e : Entry} (hname : Path.isName name) (hlookup : entries.lookup name = some e) :
    visit (above, .directory entries) name = .ok (.directory entries :: above, e) := by
  obtain ⟨hempty, hdot, hdots, -⟩ := Path.isName_iff.mp hname
  simp [visit, hempty, hdot, hdots, hlookup]

/-- From the path of a directory, the names of entries below it lead to these entries. -/
theorem trace_under {fs : FileSystem} {p : String} {place : List Entry × Entry} {e : Entry}
    {names : List String} (hp : Path.IsSpelled p) (htrace : fs.trace p = .ok place)
    (hlegal : place.2.isLegal) (hat : place.2.at? names = some e) :
    Path.IsSpelled (Path.under p names) ∧
      ∃ above, fs.trace (Path.under p names) = .ok (above, e) := by
  induction names generalizing p place with
  | nil =>
    obtain rfl := Option.some.inj hat
    exact ⟨hp, place.1, htrace⟩
  | cons name names ih =>
    obtain ⟨above, _ | _ | entries⟩ := place
    · cases hat
    · cases hat
    · have hname := Entry.isName_of_at? hlegal hat name List.mem_cons_self
      obtain ⟨c, hlookup, hc⟩ := Entry.at?_directory_cons_iff.mp hat
      obtain ⟨hempty, -, -, hslash⟩ := Path.isName_iff.mp hname
      have hstep : fs.trace (Path.below p name) = .ok (.directory entries :: above, c) := by
        rw [fs.trace_below hp hslash fun _ => hempty, htrace]
        exact visit_of_isName hname hlookup
      exact ih (hp.below hslash fun _ => hempty) hstep
        ((Entry.isLegal_directory_iff.mp hlegal).2 _ (List.mem_of_lookup hlookup)).2 hc

end FileSystem

/-! ### Everything below an entry -/

/-- Some names lead from an entry to a place, which has the path and the name that they make. -/
def Entry.Reaches (e : Entry) (p : String) (names : List String) (name : String) (place : Place) :
    Prop :=
  e.at? names = some place.entry ∧ place.path = Path.under p names ∧ names.getLast? = some name

/-- What has a name or lies below it, when what lies below is known. -/
theorem exists_reaches_cons_iff {e : Entry} {p n name : String} {place : Place} :
    ((name, place) = (n, ⟨Path.below p n, e⟩) ∨
        ∃ names, e.Reaches (Path.below p n) names name place) ↔
      ∃ names, e.at? names = some place.entry ∧ place.path = Path.under p (n :: names) ∧
        (n :: names).getLast? = some name := by
  constructor
  · rintro (hhere | ⟨names, hat, hpath, hlast⟩)
    · obtain ⟨rfl, rfl⟩ := Prod.mk.inj hhere
      exact ⟨[], rfl, rfl, rfl⟩
    · refine ⟨names, hat, hpath, ?_⟩
      rw [List.getLast?_cons, hlast]
      rfl
  · rintro ⟨_ | ⟨n', names⟩, hat, hpath, hlast⟩
    · obtain ⟨path, entry⟩ := place
      obtain rfl := Option.some.inj hat
      obtain rfl : path = Path.below p n := hpath
      obtain rfl : n = name := Option.some.inj hlast
      exact .inl rfl
    · rw [List.getLast?_cons_cons] at hlast
      rw [Path.under_cons] at hpath
      exact .inr ⟨n' :: names, hat, hpath, hlast⟩

mutual

/-- What is below an entry is what names lead to from it. -/
theorem Entry.mem_descendants_iff : (e : Entry) → {p : String} → Path.IsSpelled p → e.isLegal →
    {name : String} → {place : Place} →
    ((name, place) ∈ e.descendants (Path.below p) ↔ ∃ names, e.Reaches p names name place)
  | .file _, p, _, _, name, place | .unreadable _, p, _, _, name, place => by
    constructor
    · intro h
      cases h
    · rintro ⟨_ | _, hat, -, hlast⟩
      · cases hlast
      · cases hat
  | .directory entries, p, hp, hlegal, name, place => by
    obtain ⟨hnodup, hentries⟩ := Entry.isLegal_directory_iff.mp hlegal
    rw [Entry.descendants, mem_descendantsOf_iff entries hp hentries]
    constructor
    · rintro ⟨⟨n, e⟩, hmem, names, hat, hpath, hlast⟩
      have hlookup := List.lookup_of_mem hnodup hmem
      exact ⟨n :: names, Entry.at?_directory_cons_iff.mpr ⟨e, hlookup, hat⟩, hpath, hlast⟩
    · rintro ⟨_ | ⟨n, names⟩, hat, hpath, hlast⟩
      · cases hlast
      · obtain ⟨e, hlookup, he⟩ := Entry.at?_directory_cons_iff.mp hat
        exact ⟨(n, e), List.mem_of_lookup hlookup, names, he, hpath, hlast⟩
termination_by structural e => e

theorem mem_descendantsOf_iff : (entries : List (String × Entry)) → {p : String} → Path.IsSpelled p →
    (∀ m ∈ entries, Path.isName m.1 ∧ m.2.isLegal) → {name : String} → {place : Place} →
    ((name, place) ∈ descendantsOf (Path.below p) entries ↔
      ∃ m ∈ entries, ∃ names, m.2.at? names = some place.entry ∧
        place.path = Path.under p (m.1 :: names) ∧ (m.1 :: names).getLast? = some name)
  | [], p, _, _, name, place => by simp [descendantsOf]
  | (n, e) :: entries, p, hp, hlegal, name, place => by
    obtain ⟨⟨hn, he⟩, hrest⟩ := List.forall_mem_cons.mp hlegal
    obtain ⟨hempty, hdot, -, hslash⟩ := Path.isName_iff.mp hn
    have hspelled : Path.IsSpelled (Path.below p n) := hp.below hslash fun _ => hempty
    -- Behind a name, paths are always joined.
    have hjoin : Path.join (Path.below p n) = Path.below (Path.below p n) :=
      (hspelled.below_of_ne fun hbelow => hdot (hp.eq_dot_of_below hbelow).2).symm
    rw [descendantsOf, List.cons_append, List.mem_cons, List.mem_append, hjoin,
      Entry.mem_descendants_iff e hspelled he, mem_descendantsOf_iff entries hp hrest, ← or_assoc,
      exists_reaches_cons_iff]
    simp only [List.mem_cons, or_and_right, exists_or, exists_eq_left]
termination_by structural entries => entries

end

end TemplateLint
