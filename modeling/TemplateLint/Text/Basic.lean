/-!
# Texts

Lines and pieces of a text, and the two means by which patterns are matched against one: classes of
characters in brackets, and marks for the places where a match may end.
-/

namespace TemplateLint.Text

/-! ### Lines of a text

A line ends at a line feed, and one carriage return directly before that line feed belongs to the
line's end. A text that stops without a line feed has a last line without an end, which keeps every
carriage return it holds. So the empty text has no lines at all. -/

/-- The lines of a character list, without their ends. -/
def lineChars : List Char → List (List Char)
  | [] => []
  | '\n' :: cs => [] :: lineChars cs
  | '\r' :: '\n' :: cs => [] :: lineChars cs
  | c :: cs =>
    match lineChars cs with
    | [] => [[c]]
    | l :: ls => (c :: l) :: ls

def lines (s : String) : List String := (lineChars s.toList).map String.ofList

/-- The pieces of a character list between the occurrences of a separator. There is always one more
piece than there are separators. -/
def pieces (sep : Char) : List Char → List (List Char)
  | [] => [[]]
  | c :: cs =>
    match pieces sep cs with
    | [] => [[]]
    | p :: ps => if c = sep then [] :: p :: ps else (c :: p) :: ps

def split (sep : Char) (s : String) : List String := (pieces sep s.toList).map String.ofList

/-- A text padded with blanks on the left to at least `width` characters. -/
def padLeft (width : Nat) (s : String) : String :=
  String.ofList (List.replicate (width - s.length) ' ') ++ s

/-- The first `k` characters of a text after leaving out the first `n`. -/
def slice (n k : Nat) (s : String) : String := String.ofList ((s.toList.drop n).take k)

/-- A text without its longest run of `c` at the end. -/
def trimRight (c : Char) (s : String) : String :=
  String.ofList (s.toList.reverse.dropWhile (· == c)).reverse

/-- A text without the first occurrence of a character, if there is one. -/
def eraseFirst (c : Char) (s : String) : String := String.ofList (s.toList.erase c)

/-! ### Bracketed parts of a pattern

A class of characters in a pattern ends at a closing bracket. The first character of the class never
closes it, so that a class may hold the bracket itself. -/

/-- What stands before the bracket that closes a class, and the text behind that bracket. -/
def splitBracket : List Char → Option (List Char × List Char)
  | [] => none
  | c :: cs =>
    match cs.dropWhile (· ≠ ']') with
    | [] => none
    | _ :: rest => some (c :: cs.takeWhile (· ≠ ']'), rest)

/-- Behind a class there is less text than before. -/
theorem length_lt_of_splitBracket {cs body rest : List Char}
    (h : splitBracket cs = some (body, rest)) : rest.length < cs.length := by
  cases cs with
  | nil => simp [splitBracket] at h
  | cons c cs =>
    have hle := (List.dropWhile_suffix (l := cs) (· ≠ ']')).length_le
    simp only [splitBracket] at h
    split at h
    · cases h
    · next heq =>
      rw [heq] at hle
      obtain ⟨-, rfl⟩ := Prod.mk.inj (Option.some.inj h)
      simp only [List.length_cons] at hle ⊢
      omega

/-! ### Marks on a sequence

To match a sequence, a pattern moves marks over it. A mark stands before, between or behind the items
of the sequence, where the match of the pattern so far may end. At first there is one mark before the
first item, and the whole sequence is matched when a mark is left behind the last one. However many
ways there are to match, there are never more marks than places. -/

/-- The places of a sequence, each with a mark or without. There is one more place than there are
items. -/
abbrev Marks := List Bool

namespace Marks

variable {α : Type}

/-- A mark before the first item. -/
def start (items : List α) : Marks := true :: items.map fun _ => false

def clear (marks : Marks) : Marks := marks.map fun _ => false

/-- Moves the marks that stand before an item of a kind behind it, and drops all others. -/
def step (p : α → Bool) (items : List α) (marks : Marks) : Marks :=
  false :: List.zipWith (fun a m => m && p a) items marks

/-- Adds marks everywhere behind the first mark; `seen` says that there was one already. -/
def spreadFrom : (seen : Bool) → Marks → Marks
  | _, [] => []
  | seen, m :: ms => (seen || m) :: spreadFrom (seen || m) ms

/-- Adds marks everywhere behind the first mark. -/
def spread : Marks → Marks := spreadFrom false

def union : Marks → Marks → Marks := List.zipWith (· || ·)

/-- Whether a mark stands behind the last item. -/
def atEnd (marks : Marks) : Bool := marks.getLast? = some true

end Marks

end TemplateLint.Text
