import TemplateLint.Decimal
import TemplateLint.Json.Value
import TemplateLint.Yaml.Node

/-!
# Values of YAML nodes

A plain scalar without a tag is null, a truth value or a number if it looks like one, and a text
otherwise. Numbers have a decimal, hexadecimal, octal or binary form; with a zero in front of other
digits a scalar is a text. A tag asks for one of these kinds. Integers that need more than 64 bits have
no value, and doubles without a JSON form are null.
-/

namespace TemplateLint.Yaml

/-! ### Plain scalars -/

def isNull (s : String) : Bool := s == "null" || s == "Null" || s == "NULL" || s == "~"

def bool? (s : String) : Option Bool :=
  if s ∈ ["true", "True", "TRUE"] then some true
  else if s ∈ ["false", "False", "FALSE"] then some false
  else none

/-- The value of a digit of a base up to sixteen. -/
def digit? (base : Nat) (c : Char) : Option Nat := (hexDigit? c).filter (· < base)

/-- The number that digits of a base spell; there has to be one digit. -/
def digits? (base : Nat) (cs : List Char) : Option Nat :=
  if cs.isEmpty then none else cs.foldlM (fun n c => (digit? base c).map (base * n + ·)) 0

def hasLeadingZero : List Char → Bool
  | '0' :: c :: cs => (c :: cs).all Char.isDigit
  | _ => false

/-- The number of a scalar without a sign. -/
def natural? : List Char → Option Nat
  | '0' :: 'x' :: cs => digits? 16 cs
  | '0' :: 'o' :: cs => digits? 8 cs
  | '0' :: 'b' :: cs => digits? 2 cs
  | cs => if hasLeadingZero cs then none else digits? 10 cs

/-- The number of a scalar that has a plus sign or none. -/
def unsigned? (s : String) : Option Nat :=
  match s.toList with
  | '+' :: cs => natural? cs
  | cs => natural? cs

/-- The integer that a scalar stands for. -/
def integer? (s : String) : Option Int :=
  match s.toList with
  | '-' :: cs => (natural? cs).map fun n => -(n : Int)
  | _ => (unsigned? s).map Int.ofNat

/-- Whether 64 bits can hold an integer. -/
def isWord (n : Int) : Bool := -(Decimal.twoTo 63 : Int) ≤ n && n < Decimal.twoTo 64

/-- Whether an integer takes at most 128 bits. -/
def isDoubleWord (n : Int) : Bool := -(Decimal.twoTo 127 : Int) ≤ n && n < Decimal.twoTo 128

/-- The digits of a decimal number: those before the point, those behind it, and the exponent. -/
def decimal? (cs : List Char) : Option (List Char × List Char × Int) := do
  let whole := cs.takeWhile Char.isDigit
  let cs := cs.dropWhile Char.isDigit
  let (fraction, cs) := match cs with
    | '.' :: cs => (cs.takeWhile Char.isDigit, cs.dropWhile Char.isDigit)
    | cs => ([], cs)
  if whole.isEmpty ∧ fraction.isEmpty then failure
  match cs with
  | [] => return (whole, fraction, 0)
  | e :: cs =>
    if e ≠ 'e' ∧ e ≠ 'E' then failure
    let exponent ← match cs with
      | '-' :: cs => (digits? 10 cs).map fun n => -(n : Int)
      | '+' :: cs => (digits? 10 cs).map Int.ofNat
      | cs => (digits? 10 cs).map Int.ofNat
    return (whole, fraction, exponent)

/-- The double next to `digits · 10 ^ exponent`, unless that is beyond all doubles. -/
def nearest? (digits : List Char) (exponent : Int) : Option Float :=
  let digits := digits.dropWhile (· == '0')
  let significand := digits.foldl (fun n c => 10 * n + (c.toNat - '0'.toNat)) 0
  let point := digits.length + exponent
  if significand = 0 ∨ point < -400 then some 0
  else if 400 < point then none
  else
    let x := Float.ofScientific significand (exponent < 0) exponent.natAbs
    if x.isInf then none else some x

/-- The finite double that a scalar stands for. -/
def finite? (cs : List Char) : Option Float := do
  let (negative, cs) := match cs with
    | '-' :: cs => (true, cs)
    | '+' :: cs => (false, cs)
    | cs => (false, cs)
  let (whole, fraction, exponent) ← decimal? cs
  let x ← nearest? (whole ++ fraction) (exponent - fraction.length)
  return if negative then -x else x

/-- Whether a scalar stands for a double that has no JSON form. -/
def isNotFinite (s : String) : Bool :=
  s ∈ [".inf", ".Inf", ".INF", "+.inf", "+.Inf", "+.INF", "-.inf", "-.Inf", "-.INF", ".nan", ".NaN",
    ".NAN"]

def integerValue? (n : Int) : Option Json := if isWord n then some (.number (.int n)) else none

/-- The double that a scalar stands for, as a value. -/
def floatValue? (s : String) : Option Json :=
  if isNotFinite s then some .null else (finite? s.toList).map fun x => .number (.float x)

/-- The integer that a scalar stands for, if it is not too large to be one. -/
def scalarInteger? (s : String) : Option Int := (integer? s).filter isDoubleWord

def plainValue? (s : String) : Option Json :=
  if s = "" ∨ isNull s then some .null
  else
    match bool? s, scalarInteger? s with
    | some b, _ => some (.bool b)
    | none, some n => integerValue? n
    | none, none =>
      let cs := s.toList
      let digits := if cs.head? = some '-' ∨ cs.head? = some '+' then cs.drop 1 else cs
      if hasLeadingZero digits then some (.string s) else some ((floatValue? s).getD (.string s))

/-! ### Nodes -/

/-- The value of a scalar. Local tags ask for nothing, but one whose name is a text cannot be left
aside. -/
def scalarValue? (tag : Option Tag) (style : ScalarStyle) (text : String) : Option Json :=
  let untagged := if style = .plain then plainValue? text else some (.string text)
  match tag with
  | none => untagged
  | some tag =>
    if tag = .core "bool" then (bool? text).map .bool
    else if tag = .core "int" then (scalarInteger? text).bind integerValue?
    else if tag = .core "float" then floatValue? text
    else if tag = .core "null" then if isNull text then some .null else none
    else if tag.localName?.isSome then none
    else if tag.isLocal then untagged
    else some (.string text)

/-- Whether a collection with a tag has a value. -/
def allowsValue (tag : Option Tag) : Bool := (tag.bind Tag.localName?).isNone

namespace Document

def text (d : Document) (n : Node) : Follow String := do
  match ← d.follow n with
  | .scalar _ _ text => return text
  | _ => failure

/-- The value of a node that is at most `levels` deep. The keys of mappings are scalars. -/
def value (d : Document) : (levels : Nat) → Node → Follow Json
  | levels, n => do
    match ← d.follow n, levels with
    | .scalar tag style text, _ => scalarValue? tag style text
    | .sequence tag items, levels + 1 =>
      if !allowsValue tag then failure
      return .array (← items.mapM (d.value levels))
    | .mapping tag pairs, levels + 1 =>
      if !allowsValue tag then failure
      let members ← pairs.mapM fun (k, v) => do return (← d.text k, ← d.value levels v)
      return .object (Json.sortMembers members)
    | _, _ => failure

end Document

end TemplateLint.Yaml
