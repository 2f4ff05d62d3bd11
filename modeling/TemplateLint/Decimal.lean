/-!
# Decimal forms of doubles

A finite double is a sign and a magnitude `mantissa * 2 ^ exponent`. Both number formats of this
library start from that pair: a fixed number of places, and the shortest digits that read back.
-/

namespace TemplateLint.Decimal

def twoTo (n : Nat) : Nat := Nat.pow 2 n

def tenTo (n : Nat) : Nat := Nat.pow 10 n

/-- The magnitude `mantissa * 2 ^ exponent` of a finite double. -/
structure Binary where
  mantissa : Nat
  exponent : Int
  /-- Whether the next smaller double is half as far away as the next larger one. -/
  narrowBelow : Bool
  deriving DecidableEq, Repr

namespace Binary

/-- The magnitude of a finite double, read off its 64 bits. -/
def ofFloat (x : Float) : Binary :=
  let bits : Nat := x.toBits.toNat
  let fraction : Nat := bits % twoTo 52
  let field : Nat := bits / twoTo 52 % twoTo 11
  if field = 0 then ⟨fraction, -1074, false⟩
  else ⟨fraction + twoTo 52, (field : Int) - 1075, fraction = 0 && 1 < field⟩

/-- The magnitude as a quotient of two natural numbers. -/
def quotient (b : Binary) : Nat × Nat :=
  (b.mantissa * twoTo b.exponent.toNat, twoTo (-b.exponent).toNat)

end Binary

/-- Whether a double has its sign bit set; negative zero does. -/
def isNegative (x : Float) : Bool := x.toBits.toNat / twoTo 63 = 1

def digits (n : Nat) : List Char := Nat.toDigits 10 n

/-! ### A fixed number of places

The exact value of a double, rounded to a given number of decimal places. A half goes to the even
neighbour. -/

/-- The integer nearest to `num / den`; a half goes to the even neighbour. -/
def roundDiv (num den : Nat) : Nat :=
  let below := num / den
  let rest := num % den
  if 2 * rest < den then below
  else if den < 2 * rest then below + 1
  else below + below % 2

/-- The digits of `n` with a point before the last `places` of them. -/
def pointed (places n : Nat) : List Char :=
  let ds := digits n
  let ds := List.replicate (places + 1 - ds.length) '0' ++ ds
  let whole := ds.length - places
  if places = 0 then ds else ds.take whole ++ '.' :: ds.drop whole

/-- A finite double written with exactly `places` decimal places. -/
def fixed (places : Nat) (x : Float) : String :=
  let (num, den) := (Binary.ofFloat x).quotient
  let text := pointed places (roundDiv (num * tenTo places) den)
  String.ofList (if isNegative x then '-' :: text else text)

/-! ### The fewest digits that read back

Every finite double stands for an interval of reals: those that round to it. Among the decimals in
that interval with the fewest digits, `shortest` takes the one nearest to the double, and of two
equally near ones the even one. All comparisons are made on natural numbers. -/

/-- The decimal `digits * 10 ^ exponent`. -/
structure Scientific where
  digits : Nat
  exponent : Int
  deriving DecidableEq, Repr

/-- The reals that round to a double, scaled by `scale`: the double itself and both ends. -/
structure Interval where
  value : Nat
  low : Nat
  high : Nat
  scale : Nat
  /-- Whether the ends themselves round to the double. -/
  closed : Bool
  deriving DecidableEq, Repr

namespace Interval

/-- The interval of a double's magnitude, in quarters of its last binary place. -/
def ofBinary (b : Binary) : Interval :=
  let unit := twoTo b.exponent.toNat
  { value := 4 * b.mantissa * unit
    low := (4 * b.mantissa - (if b.narrowBelow then 1 else 2)) * unit
    high := (4 * b.mantissa + 2) * unit
    scale := 4 * twoTo (-b.exponent).toNat
    closed := b.mantissa % 2 = 0 }

/-- The two sides to compare for `d * 10 ^ e` against `x / scale`. -/
def sides (i : Interval) (d : Nat) (e : Int) (x : Nat) : Nat × Nat :=
  (d * tenTo e.toNat * i.scale, x * tenTo (-e).toNat)

/-- Whether `d * 10 ^ e` rounds to the double. -/
def contains (i : Interval) (d : Nat) (e : Int) : Bool :=
  let (d₁, low) := i.sides d e i.low
  let (d₂, high) := i.sides d e i.high
  if i.closed then low ≤ d₁ && d₂ ≤ high else low < d₁ && d₂ < high

/-- The largest `e` with `10 ^ e` not above the double, corrected from an estimate by at most one
step either way. -/
def magnitude (i : Interval) (estimate : Int) : Int :=
  let reaches (e : Int) : Bool := let (p, v) := i.sides 1 e i.value; p ≤ v
  if !reaches estimate then estimate - 1
  else if reaches (estimate + 1) then estimate + 1
  else estimate

/-- The best decimal on the grid `10 ^ e`, if one of the double's two neighbours there reads back:
the nearer one, and the even one of two equally near. -/
def onGrid (i : Interval) (e : Int) : Option Nat :=
  let num := i.value * tenTo (-e).toNat
  let den := i.scale * tenTo e.toNat
  let below := num / den
  let above := below + 1
  match i.contains below e, i.contains above e with
  | false, false => none
  | true, false => some below
  | false, true => some above
  | true, true =>
    let rest := num % den
    if 2 * rest < den then some below
    else if den < 2 * rest then some above
    else if below % 2 = 0 then some below
    else some above

end Interval

/-- A decimal without zeros at its end. -/
def Scientific.trim (d : Scientific) : Scientific :=
  let kept := (Decimal.digits d.digits).reverse.takeWhile (· == '0')
  ⟨d.digits / tenTo kept.length, d.exponent + kept.length⟩

/-- The shortest decimal that reads back as the given positive finite double: the first grid from the
coarsest on that has one. Seventeen digits are always enough. -/
def shortest (x : Float) : Scientific :=
  let b := Binary.ofFloat x
  let i := Interval.ofBinary b
  let top := i.magnitude (((b.exponent + b.mantissa.log2) * 30103).fdiv 100000)
  let found := (List.range 17).findSome? fun (n : Nat) =>
    (i.onGrid (top - n)).map fun d => (⟨d, top - n⟩ : Scientific)
  (found.getD ⟨0, 0⟩).trim

end TemplateLint.Decimal
