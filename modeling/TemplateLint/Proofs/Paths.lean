import TemplateLint.Files.Path

/-!
# Paths and their pieces

A path is taken apart at its slashes. Joining a name to a path adds a piece and a component, whatever
the path looks like at its end.

The paths that a pattern finds are spelled piece by piece: `Path.below` adds a piece, and
`Path.under` several of them. Such a spelling has no dot at its start (`Path.IsSpelled`), different
names make different paths, and its last name is the name of the file. `Path.respell` is a path in
this spelling.
-/

namespace TemplateLint

/-! ### Pieces of a text -/

namespace Text

variable {sep : Char} {cs : List Char}

theorem pieces_ne_nil (sep : Char) (cs : List Char) : pieces sep cs ≠ [] := by
  fun_cases pieces sep cs <;> simp

theorem pieces_cons_sep (sep : Char) (cs : List Char) :
    pieces sep (sep :: cs) = [] :: pieces sep cs := by
  obtain ⟨p, ps, hps⟩ := List.exists_cons_of_ne_nil (pieces_ne_nil sep cs)
  simp [pieces, hps]

theorem pieces_cons_of_ne {c : Char} (hc : c ≠ sep) {p : List Char} {ps : List (List Char)}
    (h : pieces sep cs = p :: ps) : pieces sep (c :: cs) = (c :: p) :: ps := by
  simp [pieces, h, hc]

theorem pieces_append (sep : Char) (a b : List Char) :
    pieces sep (a ++ sep :: b) = pieces sep a ++ pieces sep b := by
  induction a with
  | nil => exact pieces_cons_sep sep b
  | cons c a ih =>
    obtain ⟨p, ps, hps⟩ := List.exists_cons_of_ne_nil (pieces_ne_nil sep a)
    rw [hps] at ih
    by_cases hc : c = sep
    · subst hc
      rw [List.cons_append, pieces_cons_sep, ih, pieces_cons_sep, hps]
      rfl
    · rw [List.cons_append, pieces_cons_of_ne hc ih, pieces_cons_of_ne hc hps]
      rfl

theorem pieces_of_not_mem (h : sep ∉ cs) : pieces sep cs = [cs] := by
  induction cs with
  | nil => rfl
  | cons c cs ih =>
    rw [List.mem_cons, not_or] at h
    exact pieces_cons_of_ne (Ne.symm h.1) (ih h.2)

theorem eq_of_pieces_eq_singleton {p : List Char} (h : pieces sep cs = [p]) : cs = p := by
  induction cs generalizing p with
  | nil => exact (List.cons.inj h).1
  | cons c cs ih =>
    obtain ⟨q, qs, hqs⟩ := List.exists_cons_of_ne_nil (pieces_ne_nil sep cs)
    by_cases hc : c = sep
    · subst hc
      rw [pieces_cons_sep, hqs] at h
      cases h
    · rw [pieces_cons_of_ne hc hqs] at h
      obtain ⟨rfl, rfl⟩ := List.cons.inj h
      rw [ih hqs]

/-- A piece has no separator in it and no character that is not in the text. -/
theorem mem_of_mem_pieces {c : Char} {piece : List Char} (h : piece ∈ pieces sep cs)
    (hc : c ∈ piece) : c ∈ cs ∧ c ≠ sep := by
  induction cs generalizing piece with
  | nil =>
    obtain rfl := List.mem_singleton.mp h
    cases hc
  | cons d cs ih =>
    obtain ⟨p, ps, hps⟩ := List.exists_cons_of_ne_nil (pieces_ne_nil sep cs)
    have hrest {q : List Char} (hq : q ∈ p :: ps) (hmem : c ∈ q) : c ∈ d :: cs ∧ c ≠ sep :=
      (ih (hps ▸ hq) hmem).imp_left (List.mem_cons_of_mem d)
    by_cases hd : d = sep
    · subst hd
      rw [pieces_cons_sep, hps] at h
      rcases List.mem_cons.mp h with rfl | h
      · cases hc
      · exact hrest h hc
    · rw [pieces_cons_of_ne hd hps] at h
      rcases List.mem_cons.mp h with rfl | h
      · rcases List.mem_cons.mp hc with rfl | hc
        · exact ⟨List.mem_cons_self, hd⟩
        · exact hrest List.mem_cons_self hc
      · exact hrest (List.mem_cons_of_mem p h) hc

theorem mem_of_mem_split {s piece : String} {c : Char} (h : piece ∈ split sep s)
    (hc : c ∈ piece.toList) : c ∈ s.toList ∧ c ≠ sep := by
  obtain ⟨cs, hcs, rfl⟩ := List.mem_map.mp h
  rw [String.toList_ofList] at hc
  exact mem_of_mem_pieces hcs hc

theorem split_append (a b : String) : split '/' (a ++ "/" ++ b) = split '/' a ++ split '/' b := by
  have htext : (a ++ "/" ++ b).toList = a.toList ++ '/' :: b.toList := by simp
  rw [split, htext, pieces_append, List.map_append, ← split, ← split]

theorem split_of_not_mem {s : String} (h : '/' ∉ s.toList) : split '/' s = [s] := by
  rw [split, pieces_of_not_mem h]
  simp

theorem eq_of_split_eq_singleton {s t : String} (h : split '/' s = [t]) : s = t := by
  obtain ⟨p, hp, rfl⟩ := List.map_eq_singleton_iff.mp h
  rw [← eq_of_pieces_eq_singleton hp, String.ofList_toList]

theorem split_ne_nil (s : String) : split '/' s ≠ [] := by
  simp [split, pieces_ne_nil]

/-- A text of several pieces starts with a slash exactly when the first of them is empty. -/
theorem head?_eq_slash_iff {s first : String} {rest : List String}
    (h : split '/' s = first :: rest) (hrest : rest ≠ []) :
    s.toList.head? = some '/' ↔ first = "" := by
  obtain ⟨p, ps, hpieces, rfl, rfl⟩ := List.map_eq_cons_iff.mp h
  cases hs : s.toList with
  | nil =>
    rw [hs] at hpieces
    obtain ⟨rfl, rfl⟩ := List.cons.inj hpieces
    exact absurd rfl hrest
  | cons c cs =>
    rw [hs] at hpieces
    by_cases hc : c = '/'
    · subst hc
      rw [pieces_cons_sep] at hpieces
      obtain ⟨rfl, -⟩ := List.cons.inj hpieces
      simp
    · obtain ⟨q, qs, hqs⟩ := List.exists_cons_of_ne_nil (pieces_ne_nil '/' cs)
      rw [pieces_cons_of_ne hc hqs] at hpieces
      obtain ⟨rfl, -⟩ := List.cons.inj hpieces
      simp [hc]

theorem pieces_drop_one {s : String} {rest : List String} (h : split '/' s = "" :: rest)
    (hhead : s.toList.head? = some '/') :
    (pieces '/' (s.toList.drop 1)).map String.ofList = rest := by
  obtain ⟨cs, hcs⟩ := List.head?_eq_some_iff.mp hhead
  rw [split, hcs, pieces_cons_sep] at h
  rw [hcs]
  exact (List.cons.inj h).2

theorem mem_of_mem_trimRight {c sep : Char} {s : String} (h : c ∈ (trimRight sep s).toList) :
    c ∈ s.toList := by
  rw [trimRight, String.toList_ofList, List.mem_reverse] at h
  exact List.mem_reverse.mp ((List.dropWhile_sublist _).mem h)

/-- What is cut off are separators. -/
theorem exists_trimRight_append (sep : Char) (s : String) :
    ∃ k, s.toList = (trimRight sep s).toList ++ List.replicate k sep := by
  have hcut : ∀ c ∈ s.toList.reverse.takeWhile (· == sep), c = sep := fun c hc =>
    beq_iff_eq.mp (List.all_eq_true.mp List.all_takeWhile c hc)
  refine ⟨(s.toList.reverse.takeWhile (· == sep)).length, ?_⟩
  rw [trimRight, String.toList_ofList, ← List.reverse_replicate,
    ← List.eq_replicate_of_mem hcut, ← List.reverse_append, List.takeWhile_append_dropWhile,
    List.reverse_reverse]

theorem pieces_replicate (sep : Char) (k : Nat) :
    pieces sep (List.replicate k sep) = List.replicate (k + 1) [] := by
  induction k with
  | zero => rfl
  | succ k ih => rw [List.replicate_succ, pieces_cons_sep, ih, ← List.replicate_succ]

/-- Slashes at the end make empty pieces. -/
theorem exists_split_trimRight (s : String) :
    ∃ k, split '/' s = split '/' (trimRight '/' s) ++ List.replicate k "" := by
  obtain ⟨k, hk⟩ := exists_trimRight_append '/' s
  refine ⟨k, ?_⟩
  cases k with
  | zero =>
    rw [List.replicate_zero, List.append_nil] at hk ⊢
    rw [split, hk, ← split]
  | succ k =>
    rw [split, hk, List.replicate_succ, pieces_append, pieces_replicate,
      List.map_append, List.map_replicate, ← split]

end Text

/-! ### Paths with one more name -/

namespace Path

/-- Whether a text can be the name of a file or a directory. -/
def isName (s : String) : Bool := s != "" && s != "." && s != ".." && !s.toList.contains '/'

theorem isName_iff {s : String} : isName s ↔ s ≠ "" ∧ s ≠ "." ∧ s ≠ ".." ∧ '/' ∉ s.toList := by
  simp [isName, and_assoc]

/-- A joined path has the name behind a slash. It may be one that stood at the end. -/
theorem exists_join_eq {p : String} (hp : p ≠ "") (s : String) :
    ∃ a, join p s = a ++ "/" ++ s ∧ (p = a ∨ p = a ++ "/") := by
  rw [join, if_neg hp]
  split
  next hlast =>
    obtain ⟨cs, hcs⟩ := List.getLast?_eq_some_iff.mp hlast
    have hp' : p = String.ofList cs ++ "/" := by
      rw [← String.ofList_toList (s := p), hcs, String.ofList_append]
    exact ⟨String.ofList cs, by rw [← hp'], .inr hp'⟩
  next => exact ⟨p, rfl, .inl rfl⟩

theorem components_of_split {path first : String} {pieces : List String}
    (h : Text.split '/' path = first :: pieces) :
    components path = (Component.ofHead? (!pieces.isEmpty) first).toList ++
      pieces.filterMap Component.ofPiece? := by
  rw [components, headAndTail, h]

theorem components_of_split_append {path first last : String} {pieces : List String}
    (h : Text.split '/' path = first :: (pieces ++ [last])) :
    components path = (Component.ofHead? true first).toList ++
      pieces.filterMap Component.ofPiece? ++ (Component.ofPiece? last).toList := by
  have hempty : (pieces ++ [last]).isEmpty = false := by simp
  rw [components_of_split h, hempty, List.filterMap_append, List.append_assoc]
  cases hlast : Component.ofPiece? last <;> simp [hlast]

theorem split_append_slash (a : String) : Text.split '/' (a ++ "/") = Text.split '/' a ++ [""] := by
  rw [← String.append_empty (s := a ++ "/"), Text.split_append]
  rfl

theorem components_append_slash {a : String} (ha : a ≠ "") :
    components (a ++ "/") = components a := by
  obtain ⟨f, t, hft⟩ := List.exists_cons_of_ne_nil (Text.split_ne_nil a)
  have hhead : Component.ofHead? (!t.isEmpty) f = Component.ofHead? true f := by
    cases t with
    | cons _ _ => rfl
    | nil =>
      obtain rfl := Text.eq_of_split_eq_singleton hft
      simp [Component.ofHead?, ha]
  rw [components_of_split_append (by rw [split_append_slash, hft]; rfl), components_of_split hft, hhead]
  simp [Component.ofPiece?]

theorem components_join {p s : String} (hp : p ≠ "") (hs : '/' ∉ s.toList) :
    components (join p s) = components p ++ (Component.ofPiece? s).toList := by
  obtain ⟨a, hjoin, hpa⟩ := exists_join_eq hp s
  obtain ⟨f, t, hft⟩ := List.exists_cons_of_ne_nil (Text.split_ne_nil a)
  have hslash : components (a ++ "/") = components p := by
    rcases hpa with rfl | rfl
    · exact components_append_slash hp
    · rfl
  have hsplit : Text.split '/' (join p s) = f :: (t ++ [s]) := by
    rw [hjoin, Text.split_append, hft, Text.split_of_not_mem hs]
    rfl
  have hsplit' : Text.split '/' (a ++ "/") = f :: (t ++ [""]) := by
    rw [split_append_slash, hft]
    rfl
  rw [components_of_split_append hsplit, ← hslash, components_of_split_append hsplit']
  simp [Component.ofPiece?]

theorem ofPiece?_ne_current (s : String) : Component.ofPiece? s ≠ some .current := by
  rw [Component.ofPiece?]
  split
  · simp
  · split <;> simp

theorem filter_ofPiece? (s : String) :
    (Component.ofPiece? s).toList.filter (· ≠ .current) = (Component.ofPiece? s).toList := by
  rw [List.filter_eq_self]
  intro c hc
  have hne : c ≠ .current := by
    rintro rfl
    exact ofPiece?_ne_current s (Option.mem_toList.mp hc)
  simpa using hne

theorem ofHead?_of_ne {absolute : Bool} {s : String} (hs : s ≠ "") (hdot : s ≠ ".") :
    Component.ofHead? absolute s = Component.ofPiece? s := by
  rw [Component.ofHead?, if_neg hs, if_neg hdot]

theorem components_of_not_mem {s : String} (hs : '/' ∉ s.toList) :
    components s = (Component.ofHead? false s).toList := by
  rw [components_of_split (Text.split_of_not_mem hs), List.filterMap_nil, List.append_nil]
  rfl

theorem join_ne_of_not_mem {p s t : String} (hp : p ≠ "") (ht : '/' ∉ t.toList) : join p s ≠ t := by
  obtain ⟨a, hjoin, -⟩ := exists_join_eq hp s
  rintro rfl
  rw [hjoin] at ht
  simp at ht

theorem below_dot (name : String) : below "." name = name := by
  rw [below, if_pos (by decide)]

/-- Whether a path has no dot at its start, unless it is a dot. -/
structure IsSpelled (p : String) : Prop where
  ne_empty : p ≠ ""
  eq_dot : .current ∈ components p → p = "."

theorem isSpelled_dot : IsSpelled "." := ⟨by decide, fun _ => rfl⟩

theorem isSpelled_slash : IsSpelled "/" := ⟨by decide, by decide⟩

namespace IsSpelled

variable {p s : String}

theorem below_of_ne (h : IsSpelled p) (hp : p ≠ ".") : Path.below p = join p := by
  funext name
  have hcurrent : components p ≠ [.current] := fun heq => hp (h.eq_dot (by simp [heq]))
  rw [Path.below, if_neg hcurrent]

theorem below (h : IsSpelled p) (hs : '/' ∉ s.toList) (hne : p = "." → s ≠ "") :
    IsSpelled (Path.below p s) := by
  by_cases hp : p = "."
  · subst hp
    rw [below_dot]
    refine ⟨hne rfl, fun hcurrent => Decidable.byContradiction fun hdot => ?_⟩
    rw [components_of_not_mem hs, ofHead?_of_ne (hne rfl) hdot, Option.mem_toList] at hcurrent
    exact ofPiece?_ne_current s hcurrent
  · rw [h.below_of_ne hp]
    refine ⟨join_ne_of_not_mem h.ne_empty (by simp), fun hcurrent => ?_⟩
    rw [components_join h.ne_empty hs, List.mem_append, Option.mem_toList] at hcurrent
    rcases hcurrent with hcurrent | hcurrent
    · exact absurd (h.eq_dot hcurrent) hp
    · exact absurd hcurrent (ofPiece?_ne_current s)

theorem eq_dot_of_below (h : IsSpelled p) (hbelow : Path.below p s = ".") : p = "." ∧ s = "." := by
  by_cases hp : p = "."
  · subst hp
    rw [below_dot] at hbelow
    exact ⟨rfl, hbelow⟩
  · rw [h.below_of_ne hp] at hbelow
    exact absurd hbelow (join_ne_of_not_mem h.ne_empty (by simp))

/-- The components of a path below a directory, a dot at the start left out. -/
theorem filter_components_below (h : IsSpelled p) (hs : '/' ∉ s.toList) :
    (components (Path.below p s)).filter (· ≠ .current) =
      (components p).filter (· ≠ .current) ++ (Component.ofPiece? s).toList := by
  by_cases hp : p = "."
  · subst hp
    have hnone : (components ".").filter (· ≠ .current) = [] := by decide
    rw [below_dot, components_of_not_mem hs, hnone, List.nil_append]
    by_cases hempty : s = ""
    · subst hempty
      rfl
    by_cases hdot : s = "."
    · subst hdot
      rfl
    · rw [ofHead?_of_ne hempty hdot, filter_ofPiece?]
  · rw [h.below_of_ne hp, components_join h.ne_empty hs, List.filter_append, filter_ofPiece?]

end IsSpelled

/-! ### Paths with several more names -/

/-- The path of what some names lead to from a directory. -/
def under (p : String) (names : List String) : String := names.foldl below p

theorem under_cons (p name : String) (names : List String) :
    under p (name :: names) = under (below p name) names := rfl

theorem under_concat (p : String) (names : List String) (name : String) :
    under p (names ++ [name]) = below (under p names) name := by
  rw [under, List.foldl_append]
  rfl

theorem ofPiece?_of_isName {name : String} (h : isName name) :
    Component.ofPiece? name = some (.name name) := by
  obtain ⟨hempty, hdot, hdots, -⟩ := isName_iff.mp h
  simp [Component.ofPiece?, hempty, hdot, hdots]

/-- The pieces do not start with dots and an empty piece behind them where the path is a dot. The path of
such a piece would be empty. -/
def NoEmptyStart (p : String) (pieces : List String) : Prop :=
  p = "." → (pieces.dropWhile (· = ".")).head? ≠ some ""

theorem NoEmptyStart.cons {p s : String} {pieces : List String} (h : NoEmptyStart p (s :: pieces))
    (hp : IsSpelled p) : (p = "." → s ≠ "") ∧ NoEmptyStart (below p s) pieces := by
  constructor
  · rintro rfl rfl
    exact h rfl rfl
  · intro hbelow
    obtain ⟨rfl, rfl⟩ := hp.eq_dot_of_below hbelow
    simpa using h rfl

theorem noEmptyStart_of_isName {names : List String} (h : ∀ name ∈ names, isName name) (p : String) :
    NoEmptyStart p names := by
  intro _ hhead
  have hmem : "" ∈ names := (List.dropWhile_sublist _).mem (List.mem_of_mem_head? hhead)
  exact absurd rfl (isName_iff.mp (h "" hmem)).1

namespace IsSpelled

variable {p : String} {pieces names names' : List String}

theorem under (h : IsSpelled p) (hpieces : ∀ s ∈ pieces, '/' ∉ s.toList)
    (hstart : NoEmptyStart p pieces) : IsSpelled (Path.under p pieces) := by
  induction pieces generalizing p with
  | nil => exact h
  | cons s pieces ih =>
    obtain ⟨hs, hpieces⟩ := List.forall_mem_cons.mp hpieces
    obtain ⟨hne, hstart⟩ := hstart.cons h
    exact ih (h.below hs hne) hpieces hstart

theorem filter_components_under (h : IsSpelled p) (hpieces : ∀ s ∈ pieces, '/' ∉ s.toList)
    (hstart : NoEmptyStart p pieces) :
    (components (Path.under p pieces)).filter (· ≠ .current) =
      (components p).filter (· ≠ .current) ++ pieces.filterMap Component.ofPiece? := by
  induction pieces generalizing p with
  | nil => simp [Path.under]
  | cons s pieces ih =>
    obtain ⟨hs, hpieces⟩ := List.forall_mem_cons.mp hpieces
    obtain ⟨hne, hstart⟩ := hstart.cons h
    rw [under_cons, ih (h.below hs hne) hpieces hstart, h.filter_components_below hs]
    cases hpiece : Component.ofPiece? s <;> simp [hpiece]

theorem filter_components_under_names (h : IsSpelled p) (hnames : ∀ name ∈ names, isName name) :
    (components (Path.under p names)).filter (· ≠ .current) =
      (components p).filter (· ≠ .current) ++ names.map .name := by
  have hpieces : names.filterMap Component.ofPiece? = names.map .name := by
    induction names with
    | nil => rfl
    | cons name names ih =>
      obtain ⟨hname, hnames⟩ := List.forall_mem_cons.mp hnames
      rw [List.filterMap_cons_some (ofPiece?_of_isName hname), ih hnames, List.map_cons]
  rw [h.filter_components_under (fun s hs => (isName_iff.mp (hnames s hs)).2.2.2)
    (noEmptyStart_of_isName hnames p), hpieces]

theorem under_names (h : IsSpelled p) (hnames : ∀ name ∈ names, isName name) :
    IsSpelled (Path.under p names) :=
  h.under (fun s hs => (isName_iff.mp (hnames s hs)).2.2.2) (noEmptyStart_of_isName hnames p)

theorem components_under_names (h : IsSpelled p) (hnames : ∀ name ∈ names, isName name)
    (hne : names ≠ []) : components (Path.under p names) =
      (components p).filter (· ≠ .current) ++ names.map .name := by
  rw [← h.filter_components_under_names hnames, eq_comm, List.filter_eq_self]
  intro c hc
  have hcurrent : c ≠ .current := by
    rintro rfl
    have hdot := (h.under_names hnames).eq_dot hc
    rw [← List.dropLast_concat_getLast hne, under_concat] at hdot
    have hbefore : IsSpelled (Path.under p names.dropLast) := h.under_names fun name hname =>
      hnames name ((List.dropLast_sublist names).mem hname)
    exact (isName_iff.mp (hnames _ (List.getLast_mem hne))).2.1 (hbefore.eq_dot_of_below hdot).2
  simpa using hcurrent

/-- Different names lead to different paths. -/
theorem under_injective (h : IsSpelled p) (hnames : ∀ name ∈ names, isName name)
    (hnames' : ∀ name ∈ names', isName name)
    (heq : components (Path.under p names) = components (Path.under p names')) : names = names' := by
  have hmap : names.map Component.name = names'.map Component.name := by
    apply List.append_cancel_left
    rw [← h.filter_components_under_names hnames, heq, h.filter_components_under_names hnames']
  exact (List.map_inj_right fun _ _ => Component.name.inj).mp hmap

end IsSpelled

theorem exists_split_below {p s : String} (hp : p ≠ "") (hs : '/' ∉ s.toList) :
    ∃ before, Text.split '/' (below p s) = before ++ [s] := by
  rw [below]
  split
  · exact ⟨[], Text.split_of_not_mem hs⟩
  · obtain ⟨a, hjoin, -⟩ := exists_join_eq hp s
    exact ⟨Text.split '/' a, by rw [hjoin, Text.split_append, Text.split_of_not_mem hs]⟩

/-! ### Another spelling of a path -/

/-- The pieces of a path without the slashes at its end, and where they start. An empty first piece
stands for the root. -/
def scopeAndPieces (path : String) : String × List String :=
  let (first, pieces) := headAndTail (Text.trimRight '/' path)
  if first = "" then ("/", pieces) else (".", first :: pieces)

theorem scopeAndPieces_cases (path : String) : ∃ first pieces,
    Text.split '/' (Text.trimRight '/' path) = first :: pieces ∧
      (first = "" ∧ scopeAndPieces path = ("/", pieces) ∨
        first ≠ "" ∧ scopeAndPieces path = (".", first :: pieces)) := by
  obtain ⟨f, ps, hfps⟩ := List.exists_cons_of_ne_nil (Text.split_ne_nil (Text.trimRight '/' path))
  refine ⟨f, ps, hfps, ?_⟩
  rw [scopeAndPieces, headAndTail, hfps]
  by_cases hf : f = ""
  · exact .inl ⟨hf, if_pos hf⟩
  · exact .inr ⟨hf, if_neg hf⟩

theorem isSpelled_scope (path : String) : IsSpelled (scopeAndPieces path).1 := by
  obtain ⟨f, ps, -, ⟨-, hscope⟩ | ⟨-, hscope⟩⟩ := scopeAndPieces_cases path
  · rw [hscope]
    exact isSpelled_slash
  · rw [hscope]
    exact isSpelled_dot

theorem mem_split_of_mem_pieces {path s : String} (h : s ∈ (scopeAndPieces path).2) :
    s ∈ Text.split '/' (Text.trimRight '/' path) := by
  obtain ⟨f, ps, hfps, ⟨-, hscope⟩ | ⟨-, hscope⟩⟩ := scopeAndPieces_cases path
  · rw [hscope] at h
    rw [hfps]
    exact List.mem_cons_of_mem f h
  · rw [hscope] at h
    rw [hfps]
    exact h

theorem not_mem_of_mem_pieces {path s : String} (h : s ∈ (scopeAndPieces path).2) :
    '/' ∉ s.toList :=
  fun hslash => (Text.mem_of_mem_split (mem_split_of_mem_pieces h) hslash).2 rfl

/-- A path as it stands in the paths of what lies below it. -/
def respell (path : String) : String := under (scopeAndPieces path).1 (scopeAndPieces path).2

theorem isSpelled_respell {path : String}
    (h : NoEmptyStart (scopeAndPieces path).1 (scopeAndPieces path).2) : IsSpelled (respell path) :=
  (isSpelled_scope path).under (fun _ => not_mem_of_mem_pieces) h

theorem filter_filterMap_ofPiece? (pieces : List String) :
    (pieces.filterMap Component.ofPiece?).filter (· ≠ .current) =
      pieces.filterMap Component.ofPiece? := by
  rw [List.filter_eq_self]
  intro c hc
  obtain ⟨s, -, hs⟩ := List.mem_filterMap.mp hc
  have hne : c ≠ .current := by
    rintro rfl
    exact ofPiece?_ne_current s hs
  simpa using hne

/-- The other spelling has the same components, but for a dot at the start. -/
theorem filter_components_respell {path : String} (hpath : path ≠ "")
    (h : NoEmptyStart (scopeAndPieces path).1 (scopeAndPieces path).2) :
    (components (respell path)).filter (· ≠ .current) =
      (components path).filter (· ≠ .current) := by
  rw [respell, (isSpelled_scope path).filter_components_under (fun _ => not_mem_of_mem_pieces) h]
  obtain ⟨k, hk⟩ := Text.exists_split_trimRight path
  obtain ⟨f, ps, hfps, hscope⟩ := scopeAndPieces_cases path
  rw [hfps, List.cons_append] at hk
  have hvoids : (ps ++ List.replicate k "").filterMap Component.ofPiece? =
      ps.filterMap Component.ofPiece? := by
    rw [List.filterMap_append, List.filterMap_replicate_of_none rfl, List.append_nil]
  rw [components_of_split hk, hvoids, List.filter_append, filter_filterMap_ofPiece?]
  obtain ⟨rfl, hscope⟩ | ⟨hf, hscope⟩ := hscope
  · have hne : (ps ++ List.replicate k "").isEmpty = false := by
      rw [List.isEmpty_eq_false_iff]
      intro hnil
      rw [hnil] at hk
      exact hpath (Text.eq_of_split_eq_singleton hk)
    have hroot : components "/" = [.root] := by decide
    rw [hscope, hne, hroot]
    rfl
  · have hcurrent : components "." = [.current] := by decide
    rw [hscope, hcurrent]
    show ([] : List Component) ++ List.filterMap Component.ofPiece? (f :: ps) = _
    by_cases hdot : f = "."
    · subst hdot
      rfl
    · rw [ofHead?_of_ne hf hdot, filter_ofPiece?]
      cases hpiece : Component.ofPiece? f <;> simp [hpiece]

end Path

end TemplateLint
