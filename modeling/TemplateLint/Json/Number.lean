import TemplateLint.Decimal
import TemplateLint.Json.Value

/-!
# JSON numbers as text

`Number.text` writes a number: integers plainly, doubles with the fewest digits that read back.
`Literal` is a number as a text spells it, and `Literal.value?` is the number it stands for. A literal
without fraction and exponent is an integer if 64 bits can hold it. Every other literal is a double:
as many leading digits as fit into 64 bits are taken as an integer and scaled by a power of ten, and
a literal beyond the largest double has no value.
-/

namespace TemplateLint.Json

/-! ### Writing -/

/-- Where the point goes in the text of a double. With `point` digits before the decimal point, a
double is written out in full for `-4 ≤ point ≤ 16`, and with an exponent otherwise. -/
def writeDigits (ds : List Char) (point : Int) : List Char :=
  let count : Int := ds.length
  if 0 < point ∧ point ≤ 16 then
    if count ≤ point then ds ++ List.replicate (point - count).toNat '0' ++ ['.', '0']
    else ds.take point.toNat ++ '.' :: ds.drop point.toNat
  else if -5 < point ∧ point ≤ 0 then
    '0' :: '.' :: List.replicate (-point).toNat '0' ++ ds
  else
    let e := point - 1
    let mantissa := match ds with
      | [] => []
      | [d] => [d]
      | d :: rest => d :: '.' :: rest
    mantissa ++ 'e' :: (if e < 0 then '-' else '+') :: Decimal.digits e.natAbs

/-- A finite double with the fewest digits that read back. A whole one keeps a zero behind the
point. -/
def floatText (x : Float) : String :=
  let magnitude :=
    if x == 0 then ['0', '.', '0']
    else
      let d := Decimal.shortest x
      let ds := Decimal.digits d.digits
      writeDigits ds (d.exponent + ds.length)
  String.ofList (if Decimal.isNegative x then '-' :: magnitude else magnitude)

def intText (n : Int) : String :=
  String.ofList (if n < 0 then '-' :: Decimal.digits n.natAbs else Decimal.digits n.natAbs)

def Number.text : Number → String
  | .int n => intText n
  | .float x => floatText x

/-! ### Reading -/

/-- A number as a text spells it. -/
structure Literal where
  negative : Bool
  whole : List Char
  /-- The digits after the point, if there is one. -/
  fraction : Option (List Char)
  /-- The exponent, if there is one: whether it is negative, and its digits. -/
  exponent : Option (Bool × List Char)
  deriving DecidableEq, Repr

namespace Literal

def digitValue (c : Char) : Nat := c.toNat - '0'.toNat

/-- The number that a row of digits stands for. -/
def natOfDigits (ds : List Char) : Nat := ds.foldl (fun n c => 10 * n + digitValue c) 0

/-- The largest integer of 64 bits. -/
def wordMax : Nat := Decimal.twoTo 64 - 1

/-- Takes digits of the whole part while 64 bits can hold them. Every further digit only raises the
exponent. -/
def takeWhole (significand : Nat) : List Char → Nat × Nat
  | [] => (significand, 0)
  | c :: cs =>
    let next := 10 * significand + digitValue c
    if wordMax < next then (significand, cs.length + 1) else takeWhole next cs

/-- Takes digits of the fraction while 64 bits can hold them. Further digits do not count. -/
def takeFraction (significand taken : Nat) : List Char → Nat × Nat
  | [] => (significand, taken)
  | c :: cs =>
    let next := 10 * significand + digitValue c
    if wordMax < next then (significand, taken) else takeFraction next (taken + 1) cs

/-- The double next to `10 ^ n`. -/
def powerOfTen (n : Nat) : Float := Float.ofScientific 1 false n

/-- The largest power of ten that is a double. -/
def powerMax : Nat := 308

/-- A double times `10 ^ e`, in one multiplication or division where a double can hold the power. A
greater power has no value, a smaller one is divided off in steps, of which two always reach zero. -/
def scale (x : Float) (e : Int) : Option Float :=
  if 0 ≤ e then
    if e ≤ powerMax then
      let y := x * powerOfTen e.toNat
      if y.isInf then none else some y
    else if x == 0 then some x else none
  else if -powerMax ≤ e then some (x / powerOfTen (-e).toNat)
  else if x == 0 then some x
  else
    let y := x / powerOfTen powerMax
    let e := e + powerMax
    if -powerMax ≤ e then some (y / powerOfTen (-e).toNat) else some (y / powerOfTen powerMax)

/-- The largest exponent that counts; a greater one means a number without end or zero. -/
def exponentMax : Nat := Decimal.twoTo 31 - 1

/-- The double that a literal stands for, its sign left out. -/
def magnitude? (l : Literal) : Option Float :=
  let (whole, dropped) := takeWhole 0 l.whole
  let (significand, taken) := takeFraction whole 0 (l.fraction.getD [])
  let start : Int := (dropped : Int) - taken
  match l.exponent with
  | none => scale (UInt64.ofNat significand).toFloat start
  | some (negative, ds) =>
    let e := natOfDigits ds
    if exponentMax < e then
      if !negative ∧ significand ≠ 0 then none else some 0
    else scale (UInt64.ofNat significand).toFloat (if negative then start - e else start + e)

/-- The number that a literal stands for. Negative zero is a double. -/
def value? (l : Literal) : Option Number :=
  let n := natOfDigits l.whole
  match l.fraction, l.exponent with
  | none, none =>
    if !l.negative ∧ n ≤ wordMax then some (.int n)
    else if l.negative ∧ 0 < n ∧ n ≤ Decimal.twoTo 63 then some (.int (-n))
    else l.magnitude?.map fun x => .float (if l.negative then -x else x)
  | _, _ => l.magnitude?.map fun x => .float (if l.negative then -x else x)

end Literal

end TemplateLint.Json
