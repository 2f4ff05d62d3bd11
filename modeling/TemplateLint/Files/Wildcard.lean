import TemplateLint.Text.Basic

/-!
# Wildcards in file arguments

A file argument may have wildcards in its components: `?` stands for a character, `*` for any number of
them, `[a-z]` for one of some characters and `[!a-z]` for one of the others. `**` stands for any number
of directories and has to be a component of its own.
-/

namespace TemplateLint

/-- A part of a pattern. -/
inductive Wildcard where
  | char (c : Char)
  | anyChar
  | anyChars
  | anyDirectories
  | oneOf (negated : Bool) (ranges : List (Char × Char))
  deriving DecidableEq, Repr

/-- What is wrong with a pattern. -/
inductive WildcardFault where
  | tooManyStars
  | partialComponent
  | invalidRange
  deriving DecidableEq, Repr

/-- The wording of a fault. -/
def WildcardFault.message : WildcardFault → String
  | tooManyStars => "wildcards are either regular `*` or recursive `**`"
  | partialComponent => "recursive wildcards must form a single path component"
  | invalidRange => "invalid range pattern"

/-- A fault with its place in the pattern. -/
structure WildcardError where
  position : Nat
  fault : WildcardFault
  deriving DecidableEq, Repr

/-- The wording of an error. -/
def WildcardError.message (e : WildcardError) : String :=
  "Pattern syntax error near position " ++ toString e.position ++ ": " ++ e.fault.message

namespace Wildcard

/-- The ranges of a class. A minus sign between two characters makes a range of them. -/
def ranges : List Char → List (Char × Char)
  | a :: '-' :: b :: cs => (a, b) :: ranges cs
  | a :: cs => (a, a) :: ranges cs
  | [] => []

/-- Whether a class is negated, and the text behind the sign for that. -/
def splitNegation : List Char → Bool × List Char
  | '!' :: cs => (true, cs)
  | cs => (false, cs)

/-- The sign of a negation takes text away. -/
theorem splitNegation_length_le (cs : List Char) : (splitNegation cs).2.length ≤ cs.length := by
  unfold splitNegation
  split <;> simp

/-- Reads a pattern from a position on. `before` is the character in front of it. -/
def read (before : Option Char) (position : Nat) : List Char → Except WildcardError (List Wildcard)
  | [] => .ok []
  | '?' :: cs => (read (some '?') (position + 1) cs).map (anyChar :: ·)
  | '*' :: '*' :: '*' :: _ => .error ⟨position + 2, .tooManyStars⟩
  | '*' :: '*' :: cs =>
    if before = none ∨ before = some '/' then
      match cs with
      | [] => .ok [anyDirectories]
      | '/' :: cs => (read (some '/') (position + 3) cs).map (anyDirectories :: ·)
      | _ => .error ⟨position + 2, .partialComponent⟩
    else .error ⟨position - 1, .partialComponent⟩
  | '*' :: cs => (read (some '*') (position + 1) cs).map (anyChars :: ·)
  | '[' :: cs =>
    have := splitNegation_length_le cs
    match h : Text.splitBracket (splitNegation cs).2 with
    | none => .error ⟨position, .invalidRange⟩
    | some (body, rest) =>
      have := Text.length_lt_of_splitBracket h
      (read (some ']') (position + 1 + (cs.length - rest.length)) rest).map
        (oneOf (splitNegation cs).1 (ranges body) :: ·)
  | c :: cs => (read (some c) (position + 1) cs).map (char c :: ·)
termination_by cs => cs.length
decreasing_by all_goals simp only [List.length_cons]; omega

/-- The wildcards of a pattern. -/
def parse (pattern : String) : Except WildcardError (List Wildcard) := read none 0 pattern.toList

/-- Whether a character is in one of some ranges. -/
def inRanges (rs : List (Char × Char)) (c : Char) : Bool := rs.any fun (a, b) => a ≤ c && c ≤ b

/-- Moves marks over what a wildcard stands for. -/
def move (name : List Char) (marks : Text.Marks) : Wildcard → Text.Marks
  | char c => marks.step (· == c) name
  | anyChar => marks.step (fun _ => true) name
  | oneOf negated rs => marks.step (fun c => inRanges rs c != negated) name
  | anyChars => marks.spread
  | anyDirectories => marks.spread

/-- Whether wildcards match a name. -/
def isMatch (ws : List Wildcard) (name : String) : Bool :=
  (ws.foldl (move name.toList) (.start name.toList)).atEnd

/-- The text of wildcards that are all characters. -/
def literal? : List Wildcard → Option (List Char)
  | [] => some []
  | char c :: ws => (literal? ws).map (c :: ·)
  | _ :: _ => none

end Wildcard

end TemplateLint
