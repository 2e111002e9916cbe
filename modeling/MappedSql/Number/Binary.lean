/-!
Binary floating-point numbers as exact data. A finite number is a sign and a significand times a
power of two, in the canonical form of its format, so that arithmetic on it is arithmetic on whole
numbers. `round` takes a ratio of whole numbers to the nearest number of a format, a tie going to
the even significand.
-/

namespace MappedSql.Number

/-- A format: how many binary digits a significand has, and the exponents of the unit of the
smallest and of the largest finite numbers. -/
structure BinaryFormat where
  precision : Nat
  leastExponent : Int
  greatestExponent : Int
  deriving DecidableEq, Repr

namespace BinaryFormat

def single : BinaryFormat := ⟨24, -149, 104⟩

def double : BinaryFormat := ⟨53, -1074, 971⟩

end BinaryFormat

/-- A number of a binary format. A finite one is `significand * 2 ^ exponent`, negated if
`negative`; zero has the least exponent of its format and keeps its sign. -/
inductive Binary where
  | nan
  | infinite (negative : Bool)
  | finite (negative : Bool) (significand : Nat) (exponent : Int)
  deriving DecidableEq, Repr

namespace Binary

def isFinite : Binary → Bool
  | finite .. => true
  | _ => false

def equal : Binary → Binary → Bool
  | nan, _ | _, nan => false
  | infinite a, infinite b => a == b
  | finite a m p, finite b n q => (m == 0 && n == 0) || (a == b && m == n && p == q)
  | _, _ => false

def divideToEven (num den : Nat) : Nat :=
  let quotient := num / den
  let twice := 2 * (num % den)
  if twice < den then quotient
  else if den < twice then quotient + 1
  else if quotient % 2 = 0 then quotient else quotient + 1

def scaleDown (num den : Nat) (exponent : Int) : Nat × Nat :=
  if 0 ≤ exponent then (num, den * Nat.pow 2 exponent.toNat)
  else (num * Nat.pow 2 (-exponent).toNat, den)

def exponentOf (format : BinaryFormat) (num den : Nat) : Int :=
  let rough : Int := (num.log2 : Int) - (den.log2 : Int) - format.precision
  let scaled := scaleDown num den rough
  let fit := if scaled.1 / scaled.2 < Nat.pow 2 format.precision then rough else rough + 1
  max fit format.leastExponent

def round (format : BinaryFormat) (negative : Bool) (num den : Nat) : Binary :=
  if num = 0 then finite negative 0 format.leastExponent
  else
    let exponent := exponentOf format num den
    let scaled := scaleDown num den exponent
    let significand := divideToEven scaled.1 scaled.2
    let carried := significand == Nat.pow 2 format.precision
    let significand := if carried then Nat.pow 2 (format.precision - 1) else significand
    let exponent := if carried then exponent + 1 else exponent
    if format.greatestExponent < exponent then infinite negative
    else finite negative significand exponent

def widen : Binary → Binary
  | nan => nan
  | infinite negative => infinite negative
  | finite negative significand exponent =>
      if 0 ≤ exponent then
        round .double negative (significand * Nat.pow 2 exponent.toNat) 1
      else
        round .double negative significand (Nat.pow 2 (-exponent).toNat)

/-- The number of the format nearest to `digits * 10 ^ exponent`. Exponents far outside the range
of every format are settled without forming the power. -/
def ofDecimal (format : BinaryFormat) (negative : Bool) (digits : Nat) (exponent : Int) : Binary :=
  if digits = 0 then finite negative 0 format.leastExponent
  else
    let size : Int := (Nat.toDigits 10 digits).length + exponent
    if 400 < size then infinite negative
    else if size < -400 then finite negative 0 format.leastExponent
    else if 0 ≤ exponent then round format negative (digits * Nat.pow 10 exponent.toNat) 1
    else round format negative digits (Nat.pow 10 (-exponent).toNat)

end Binary

/-!
The shortest decimal of a binary number: of the decimals that round to it in its format, those
with the fewest digits, and of these the nearest. The search is on exact ratios: for one digit, two
digits and so on it tests the two neighbours of the number on the grid of that many digits.
-/

/-- `digits * 10 ^ exponent`, where `digits` does not end in zero unless it is zero. -/
structure ShortDecimal where
  digits : Nat
  exponent : Int
  deriving DecidableEq, Repr

namespace ShortDecimal

def dropZeros : Nat → Nat → Int → ShortDecimal
  | 0, digits, exponent => ⟨digits, exponent⟩
  | fuel + 1, digits, exponent =>
      if digits ≠ 0 ∧ digits % 10 = 0 then dropZeros fuel (digits / 10) (exponent + 1)
      else ⟨digits, exponent⟩

/-- How many places the point stands right of the first digit's left side: the `e` with
`10 ^ (e - 1) ≤ num / den < 10 ^ e`. -/
def pointOf (num den : Nat) : Int :=
  if den ≤ num then (Nat.toDigits 10 (num / den)).length
  else
    let places := (Nat.toDigits 10 (den / num)).length
    if den ≤ num * Nat.pow 10 (places - 1) then 2 - (places : Int) else 1 - (places : Int)

inductive Tie where
  | up
  | even
  deriving DecidableEq, Repr

/-- The numbers that round to a given one lie between `low / den` and `high / den`; the ends
belong to them if `closed`. The number itself is `num / den`. -/
structure Interval where
  low : Nat
  num : Nat
  high : Nat
  den : Nat
  closed : Bool

/-- The interval of a finite positive number of the format. Below a power of two the neighbours
stand at half the distance. -/
def intervalOf (format : BinaryFormat) (significand : Nat) (exponent : Int) : Interval :=
  let atPower := significand == Nat.pow 2 (format.precision - 1) && format.leastExponent < exponent
  let num := 4 * significand
  let low := if atPower then num - 1 else num - 2
  let high := num + 2
  let closed := significand % 2 == 0
  let exponent := exponent - 2
  if 0 ≤ exponent then
    let unit := Nat.pow 2 exponent.toNat
    ⟨low * unit, num * unit, high * unit, 1, closed⟩
  else ⟨low, num, high, Nat.pow 2 (-exponent).toNat, closed⟩

def Interval.holds (i : Interval) (candidate : Nat) (grid : Int) : Bool :=
  let scaled := if 0 ≤ grid then candidate * Nat.pow 10 grid.toNat * i.den else candidate * i.den
  let bound (n : Nat) := if 0 ≤ grid then n else n * Nat.pow 10 (-grid).toNat
  if i.closed then bound i.low ≤ scaled && scaled ≤ bound i.high
  else bound i.low < scaled && scaled < bound i.high

def onGrid (tie : Tie) (i : Interval) (grid : Int) : Option Nat :=
  let num := if 0 ≤ grid then i.num else i.num * Nat.pow 10 (-grid).toNat
  let den := if 0 ≤ grid then i.den * Nat.pow 10 grid.toNat else i.den
  let below := num / den
  let twice := 2 * (num % den)
  let upper : Bool := match tie with
    | .up => den ≤ twice
    | .even => den < twice || (den == twice && below % 2 == 1)
  match i.holds below grid && 0 < below, i.holds (below + 1) grid with
  | true, true => some (if upper then below + 1 else below)
  | true, false => some below
  | false, true => some (below + 1)
  | false, false => none

def search (tie : Tie) (i : Interval) (point : Int) : Nat → Nat → ShortDecimal
  | 0, count => ⟨i.num / i.den, count⟩
  | fuel + 1, count =>
      match onGrid tie i (point - count) with
      | some digits => dropZeros 20 digits (point - count)
      | none => search tie i point fuel (count + 1)

def ofBinary (format : BinaryFormat) (tie : Tie) (significand : Nat) (exponent : Int) :
    ShortDecimal :=
  if significand = 0 then ⟨0, 0⟩
  else
    let i := intervalOf format significand exponent
    search tie i (pointOf i.num i.den) 20 1

end ShortDecimal

end MappedSql.Number
