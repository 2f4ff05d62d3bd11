import TemplateLint.Proofs.Paths
import TemplateLint.Proofs.TextLines

/-!
# Names of files

What a path says about the file that it leads to is read off its last piece: the name, and with it the stem
and the extension. What stands before is the directory, less the pieces at its end that make no difference.

* `splitExtension_append`, `splitExtension_cases`: the two forms of a name.
* `splitLast_of_split`: the name and the directory of a path whose last piece is a name.
* `split_join_trimPieces`: a name joined to the directory is a piece behind those of the directory.
* `split_withExtension`: another extension changes the last piece only. For a name such as `..json`, whose
  stem is a dot, there is no such path (`split_withExtension_dot`).
-/

namespace TemplateLint

/-! ### Pieces put together -/

namespace Text

/-- A text is cut at the last occurrence of a character. -/
theorem exists_last {c : Char} {s : String} (h : c ∈ s.toList) :
    ∃ a b, s = a ++ String.ofList [c] ++ b ∧ c ∉ b.toList := by
  obtain ⟨back, front, hs, hback⟩ := List.eq_append_cons_of_mem (List.mem_reverse.mpr h)
  refine ⟨String.ofList front.reverse, String.ofList back.reverse, ?_, ?_⟩
  · have htext : s.toList = front.reverse ++ [c] ++ back.reverse := by
      rw [← List.reverse_reverse s.toList, hs]
      simp
    rw [← String.toList_inj, htext]
    simp only [String.toList_append, String.toList_ofList]
  · rw [String.toList_ofList, List.mem_reverse]
    exact hback

theorem split_intercalate {parts : List String} (hne : parts ≠ []) (h : ∀ s ∈ parts, '/' ∉ s.toList) :
    split '/' ("/".intercalate parts) = parts := by
  induction parts with
  | nil => exact absurd rfl hne
  | cons a parts ih =>
    obtain ⟨ha, hparts⟩ := List.forall_mem_cons.mp h
    by_cases hnil : parts = []
    · subst hnil
      rw [String.intercalate_singleton, split_of_not_mem ha]
    · rw [String.intercalate_cons_of_ne_nil hnil, split_append, split_of_not_mem ha, ih hnil hparts]
      rfl

theorem not_mem_of_mem_split {s piece : String} (h : piece ∈ split '/' s) : '/' ∉ piece.toList := by
  intro hslash
  exact (mem_of_mem_split h hslash).2 rfl

/-- The last piece of a text can be replaced. -/
theorem exists_front {s last : String} {before : List String} (h : split '/' s = before ++ [last]) :
    ∃ front, s = front ++ last ∧
      ∀ t : String, '/' ∉ t.toList → split '/' (front ++ t) = before ++ [t] := by
  by_cases hslash : '/' ∈ s.toList
  · obtain ⟨a, b, hs, hb⟩ := exists_last hslash
    change s = a ++ "/" ++ b at hs
    rw [hs, split_append, split_of_not_mem hb] at h
    obtain ⟨rfl, hlast⟩ := List.append_inj' h rfl
    obtain rfl := (List.cons.inj hlast).1
    refine ⟨a ++ "/", hs, ?_⟩
    intro t ht
    rw [split_append, split_of_not_mem ht]
  · rw [split_of_not_mem hslash] at h
    obtain ⟨rfl, hlast⟩ : [] = before ∧ [s] = [last] := List.append_inj' h rfl
    obtain rfl := (List.cons.inj hlast).1
    refine ⟨"", String.empty_append.symm, ?_⟩
    intro t ht
    rw [String.empty_append, split_of_not_mem ht]
    rfl

end Text

namespace Path

/-! ### Stem and extension -/

/-- The characters of a name before and behind its last dot. -/
theorem span_reverse {name stem extension : String} (hname : name = stem ++ "." ++ extension)
    (h : '.' ∉ extension.toList) :
    name.toList.reverse.takeWhile (· ≠ '.') = extension.toList.reverse ∧
      name.toList.reverse.dropWhile (· ≠ '.') = '.' :: stem.toList.reverse := by
  have htext : name.toList.reverse = extension.toList.reverse ++ '.' :: stem.toList.reverse := by
    rw [hname]
    simp
  have hbehind : ∀ c ∈ extension.toList.reverse, decide (c ≠ '.') = true := by
    intro c hc
    rw [decide_eq_true_iff]
    rintro rfl
    exact h (List.mem_reverse.mp hc)
  rw [htext, List.takeWhile_append_of_pos hbehind, List.dropWhile_append_of_pos hbehind]
  simp

theorem splitExtension_append {stem extension : String} (hstem : stem ≠ "")
    (h : '.' ∉ extension.toList) :
    splitExtension (stem ++ "." ++ extension) = (stem, some extension) := by
  obtain ⟨htake, hdrop⟩ := span_reverse rfl h
  unfold splitExtension
  rw [htake, hdrop]
  have hne : stem.toList.reverse ≠ [] := by simpa using hstem
  cases hback : stem.toList.reverse with
  | nil => exact absurd hback hne
  | cons c cs => simp [← hback]

/-- A name has no extension, or it is made of a stem, a dot and the extension. -/
theorem splitExtension_cases (name : String) :
    splitExtension name = (name, none) ∨
      ∃ stem extension, stem ≠ "" ∧ '.' ∉ extension.toList ∧ name = stem ++ "." ++ extension ∧
        splitExtension name = (stem, some extension) := by
  by_cases hdot : '.' ∈ name.toList
  · obtain ⟨stem, extension, hname, hextension⟩ := Text.exists_last hdot
    change name = stem ++ "." ++ extension at hname
    by_cases hstem : stem = ""
    · -- a dot at the start does not count
      left
      have hdrop := (span_reverse hname hextension).2
      rw [hstem] at hdrop
      unfold splitExtension
      rw [hdrop]
      rfl
    · right
      refine ⟨stem, extension, hstem, hextension, hname, ?_⟩
      rw [hname]
      exact splitExtension_append hstem hextension
  · left
    have hdrop : name.toList.reverse.dropWhile (· ≠ '.') = [] := by
      rw [← List.append_nil name.toList.reverse, List.dropWhile_append_of_pos]
      · rfl
      · intro c hc
        rw [decide_eq_true_iff]
        rintro rfl
        exact hdot (List.mem_reverse.mp hc)
    unfold splitExtension
    rw [hdrop]

theorem stem_ne_empty {name : String} (h : name ≠ "") : (splitExtension name).1 ≠ "" := by
  rcases splitExtension_cases name with heq | ⟨stem, extension, hstem, -, -, heq⟩
  · rw [heq]
    exact h
  · rw [heq]
    exact hstem

theorem not_mem_stem {name : String} {c : Char} (h : c ∉ name.toList) :
    c ∉ (splitExtension name).1.toList := by
  rcases splitExtension_cases name with heq | ⟨stem, extension, -, -, rfl, heq⟩
  · rw [heq]
    exact h
  · rw [heq]
    intro hc
    apply h
    simp [hc]

/-! ### The last piece of a path -/

section LastPiece

variable {path last : String} {before : List String} (h : Text.split '/' path = before ++ [last])

theorem isVoid_of_isName {name : String} (h : isName name) : isVoid name = false := by
  obtain ⟨hempty, hdot, -, -⟩ := isName_iff.mp h
  simp [isVoid, hempty, hdot]

include h

theorem splitLast_of_split (hlast : isVoid last = false) : splitLast path = some (before, last) := by
  cases before with
  | nil =>
    have hne : last ≠ "" := by
      rintro rfl
      cases hlast
    simp [splitLast, headAndTail, h, hne]
  | cons first before => simp [splitLast, headAndTail, h, hlast]

theorem parent?_of_split (hlast : isVoid last = false) :
    parent? path = some (ofPieces (trimPieces before)) := by
  rw [parent?, splitLast_of_split h hlast]
  rfl

theorem fileName?_of_split (hname : isName last) : fileName? path = some last := by
  obtain ⟨-, hdot, hdots, -⟩ := isName_iff.mp hname
  rw [fileName?, splitLast_of_split h (isVoid_of_isName hname)]
  simp [hdot, hdots]

theorem stem?_of_split (hname : isName last) : stem? path = some (splitExtension last).1 := by
  rw [stem?, fileName?_of_split h hname]
  rfl

theorem extension?_of_split (hname : isName last) : extension? path = (splitExtension last).2 := by
  rw [extension?, fileName?_of_split h hname]
  rfl

/-- Two dots are not the name of a file. -/
theorem fileName?_of_dots (hlast : last = "..") : fileName? path = none := by
  subst hlast
  rw [fileName?, splitLast_of_split h (by decide)]
  rfl

theorem getLast?_components (hname : isName last) :
    (components path).getLast? = some (.name last) := by
  obtain ⟨hempty, hdot, -, -⟩ := isName_iff.mp hname
  cases before with
  | nil =>
    rw [components_of_split h, ofHead?_of_ne hempty hdot, ofPiece?_of_isName hname]
    rfl
  | cons first before =>
    rw [components_of_split_append h, ofPiece?_of_isName hname]
    simp

end LastPiece

/-! ### The directory of a path -/

/-- The pieces that are cut off at the end of a directory make no difference, and the last one that is left
does. -/
theorem trimPieces_cons (first : String) (pieces : List String) :
    ∃ kept voids, pieces = kept ++ voids ∧ (∀ piece ∈ voids, isVoid piece) ∧
      trimPieces (first :: pieces) = first :: kept ∧ ∀ last ∈ kept.getLast?, isVoid last = false := by
  refine ⟨(pieces.reverse.dropWhile isVoid).reverse, (pieces.reverse.takeWhile isVoid).reverse, ?_, ?_, rfl, ?_⟩
  · rw [← List.reverse_append, List.takeWhile_append_dropWhile, List.reverse_reverse]
  · intro piece hpiece
    exact List.all_eq_true.mp List.all_takeWhile piece (List.mem_reverse.mp hpiece)
  · intro last hlast
    rw [List.getLast?_reverse] at hlast
    have hhead := List.head?_dropWhile_not isVoid pieces.reverse
    rw [hlast] at hhead
    exact hhead

theorem mem_of_mem_trimPieces {piece : String} {pieces : List String} (h : piece ∈ trimPieces pieces) :
    piece ∈ pieces := by
  cases pieces with
  | nil => exact h
  | cons first pieces =>
    obtain ⟨kept, voids, rfl, -, htrim, -⟩ := trimPieces_cons first pieces
    rw [htrim] at h
    exact List.cons_subset_cons first (List.subset_append_left kept voids) h

theorem trimPieces_idem (pieces : List String) : trimPieces (trimPieces pieces) = trimPieces pieces := by
  cases pieces with
  | nil => rfl
  | cons first pieces =>
    obtain ⟨kept, voids, -, -, htrim, hlast⟩ := trimPieces_cons first pieces
    rw [htrim]
    -- nothing is left to cut off
    obtain ⟨kept', voids', rfl, hvoids, htrim', -⟩ := trimPieces_cons first kept
    rw [htrim']
    rcases List.eq_nil_or_concat voids' with rfl | ⟨voids', void, rfl⟩
    · rw [List.append_nil]
    · have hvoid := hvoids void (by simp)
      rw [hlast void (by simp)] at hvoid
      cases hvoid

/-- A name joined to a directory stands behind the pieces of the directory. -/
theorem split_join_trimPieces {before : List String} (hbefore : ∀ piece ∈ before, '/' ∉ piece.toList)
    {s : String} (hs : '/' ∉ s.toList) :
    Text.split '/' (join (ofPieces (trimPieces before)) s) = trimPieces before ++ [s] := by
  cases before with
  | nil => exact Text.split_of_not_mem hs
  | cons first pieces =>
    have hmem : ∀ piece ∈ trimPieces (first :: pieces), '/' ∉ piece.toList := by
      intro piece hpiece
      exact hbefore piece (mem_of_mem_trimPieces hpiece)
    obtain ⟨kept, voids, -, -, htrim, hlast⟩ := trimPieces_cons first pieces
    rw [htrim] at hmem ⊢
    by_cases hroot : first = "" ∧ kept = []
    · obtain ⟨rfl, rfl⟩ := hroot
      have hjoin : join (ofPieces [""]) s = "" ++ "/" ++ s := rfl
      rw [hjoin, Text.split_append, Text.split_of_not_mem hs]
      rfl
    · have hpieces : ofPieces (first :: kept) = "/".intercalate (first :: kept) := by
        unfold ofPieces
        grind
      have hsplit := Text.split_intercalate (List.cons_ne_nil first kept) hmem
      rw [← hpieces] at hsplit
      have hne : ofPieces (first :: kept) ≠ "" := by
        intro hempty
        rw [hempty] at hsplit
        obtain ⟨hfirst, hkept⟩ := List.cons.inj hsplit
        exact hroot ⟨hfirst.symm, hkept.symm⟩
      obtain ⟨a, hjoin, ha | ha⟩ := exists_join_eq hne s
      · rw [hjoin, ← ha, Text.split_append, hsplit, Text.split_of_not_mem hs]
      · -- the directory would end in a slash, and its last piece would be empty
        rw [ha, split_append_slash] at hsplit
        obtain ⟨f, t, hft⟩ := List.exists_cons_of_ne_nil (Text.split_ne_nil a)
        rw [hft] at hsplit
        obtain ⟨-, rfl⟩ := List.cons.inj hsplit
        have hvoid := hlast "" (by simp)
        cases hvoid

/-! ### Another extension -/

section Extension

variable {path last : String} {before : List String}
  (h : Text.split '/' path = before ++ [last]) (hname : isName last)

include h hname

theorem split_setExtension {extension : String} (hextension : '/' ∉ extension.toList) :
    Text.split '/' (setExtension path extension) =
      before ++ [(splitExtension last).1 ++ "." ++ extension] := by
  have hpieces : ∀ piece ∈ before ++ [(splitExtension last).1 ++ "." ++ extension],
      '/' ∉ piece.toList := by
    intro piece hpiece
    rcases List.mem_append.mp hpiece with hpiece | hpiece
    · exact Text.not_mem_of_mem_split (h ▸ List.mem_append_left _ hpiece)
    · have hstem := not_mem_stem (isName_iff.mp hname).2.2.2
      rw [List.mem_singleton.mp hpiece]
      simp [hstem, hextension]
  rw [setExtension, splitLast_of_split h (isVoid_of_isName hname), stem?_of_split h hname]
  exact Text.split_intercalate (by simp) hpieces

/-- The text is cut behind the last dot of the name. -/
theorem split_dropExtension {stem old : String} (hlast : last = stem ++ "." ++ old)
    (hold : (splitExtension last).2 = some old) :
    Text.split '/' (dropExtension path) = before ++ [stem ++ "."] := by
  obtain ⟨front, hpath, hfront⟩ := Text.exists_front h
  have htext : path.toList = (front ++ (stem ++ ".")).toList ++ old.toList := by
    rw [hpath, hlast]
    simp
  have hlength : path.length - old.length = (front ++ (stem ++ ".")).toList.length := by
    rw [← String.length_toList, ← String.length_toList, htext, List.length_append, Nat.add_sub_cancel]
  have hdrop : dropExtension path = front ++ (stem ++ ".") := by
    unfold dropExtension
    rw [extension?_of_split h hname, hold]
    show String.ofList (path.toList.take (path.length - old.length)) = _
    rw [hlength, htext, List.take_left, String.ofList_toList]
  rw [hdrop]
  apply hfront
  intro hslash
  apply (isName_iff.mp hname).2.2.2
  rw [hlast, String.toList_append, List.mem_append]
  exact Or.inl hslash

theorem split_withExtension {extension : String} (hextension : '/' ∉ extension.toList)
    (hstem : (splitExtension last).1 ≠ ".") :
    Text.split '/' (withExtension path extension) =
      before ++ [(splitExtension last).1 ++ "." ++ extension] := by
  unfold withExtension
  rcases splitExtension_cases last with heq | ⟨stem, old, hne, -, hlast, heq⟩
  · have hdrop : dropExtension path = path := by
      unfold dropExtension
      rw [extension?_of_split h hname, heq]
    rw [hdrop]
    exact split_setExtension h hname hextension
  · have hsplit := split_dropExtension h hname hlast (by rw [heq])
    rw [heq] at hstem ⊢
    -- what is left is a name with the same stem, whose extension is empty
    have hstem' : splitExtension (stem ++ ".") = (stem, some "") := by
      have happend : splitExtension (stem ++ "." ++ "") = (stem, some "") :=
        splitExtension_append hne (by simp)
      rwa [String.append_empty] at happend
    have hcancel {t : String} (ht : stem ++ "." = t ++ ".") : stem = t := by
      have hchars := congrArg String.toList ht
      exact String.toList_inj.mp (by simpa using hchars)
    have hname' : isName (stem ++ ".") := by
      refine isName_iff.mpr ⟨?_, ?_, ?_, ?_⟩
      · simp
      · exact fun hdot => hne (hcancel hdot)
      · exact fun hdots => hstem (hcancel hdots)
      · exact Text.not_mem_of_mem_split (hsplit ▸ List.mem_append_right before List.mem_cons_self)
    rw [split_setExtension hsplit hname' hextension, hstem']

theorem split_withExtension_dot (extension : String) (hstem : (splitExtension last).1 = ".") :
    Text.split '/' (withExtension path extension) = before ++ [".."] := by
  rcases splitExtension_cases last with heq | ⟨stem, old, -, -, hlast, heq⟩
  · rw [heq] at hstem
    exact absurd hstem (isName_iff.mp hname).2.1
  · have hsplit := split_dropExtension h hname hlast (by rw [heq])
    obtain rfl : stem = "." := by rwa [heq] at hstem
    have hkeep : withExtension path extension = dropExtension path := by
      have hnone : stem? (dropExtension path) = none := by
        rw [stem?, fileName?_of_dots hsplit rfl]
        rfl
      unfold withExtension setExtension
      rw [hnone]
      cases splitLast (dropExtension path) <;> rfl
    rw [hkeep]
    exact hsplit

end Extension

end Path

end TemplateLint
