import MappedSql.Number.Binary

/-!
How a number is laid out as text. A layout says from which sizes on scientific form is used, how
its exponent is written, and whether a whole number keeps a zero after the point. Statements,
documents and inspection each have a layout of their own.
-/

namespace MappedSql.Number

/-- The decisions that make up a layout. A number `d.ddd * 10 ^ e` is written in scientific form
when `e` is below `positionalFrom` or above `positionalTo`, if these are given. -/
structure Layout where
  tie : ShortDecimal.Tie
  positionalFrom : Option Int
  positionalTo : Option Int
  keepsPoint : Bool
  signsExponent : Bool
  deriving DecidableEq, Repr

namespace Layout

def statement : Layout := ⟨.up, none, none, false, false⟩

def document : Layout := ⟨.even, some (-5), some 15, true, true⟩

def inspection : Layout := ⟨.up, some (-4), some 15, true, false⟩

end Layout

def digitsText (n : Nat) : String :=
  String.ofList (Nat.toDigits 10 n)

def padded (width n : Nat) : String :=
  let digits := Nat.toDigits 10 n
  String.ofList (List.replicate (width - digits.length) '0' ++ digits)

def integerText : Int → String
  | .ofNat n => digitsText n
  | .negSucc n => "-" ++ digitsText (n + 1)

def positional (keepsPoint : Bool) (d : ShortDecimal) : String :=
  let digits := Nat.toDigits 10 d.digits
  if 0 ≤ d.exponent then
    String.ofList (digits ++ List.replicate d.exponent.toNat '0') ++ (if keepsPoint then ".0" else "")
  else
    let places := (-d.exponent).toNat
    let filled := List.replicate (places + 1 - digits.length) '0' ++ digits
    let whole := filled.length - places
    String.ofList (filled.take whole ++ '.' :: filled.drop whole)

def scientific (signsExponent : Bool) (d : ShortDecimal) : String :=
  let digits := Nat.toDigits 10 d.digits
  let exponent : Int := d.exponent + (digits.length - 1 : Nat)
  let mantissa := match digits with
    | first :: second :: rest => String.ofList (first :: '.' :: second :: rest)
    | short => String.ofList short
  let sign := if signsExponent && 0 ≤ exponent then "+" else ""
  mantissa ++ "e" ++ sign ++ integerText exponent

def magnitudeText (layout : Layout) (format : BinaryFormat) (significand : Nat) (exponent : Int) :
    String :=
  let d := ShortDecimal.ofBinary format layout.tie significand exponent
  let size : Int := d.exponent + ((Nat.toDigits 10 d.digits).length - 1 : Nat)
  let small : Bool := match layout.positionalFrom with
    | some least => size < least
    | none => false
  let large : Bool := match layout.positionalTo with
    | some greatest => greatest < size
    | none => false
  if d.digits ≠ 0 ∧ (small || large) then scientific layout.signsExponent d
  else positional layout.keepsPoint d

namespace Binary

def text (layout : Layout) (format : BinaryFormat) : Binary → String
  | nan => "NaN"
  | infinite negative => if negative then "-inf" else "inf"
  | finite negative significand exponent =>
      (if negative then "-" else "") ++ magnitudeText layout format significand exponent

end Binary

/-!
Decimal numbers with a scale: `mantissa / 10 ^ scale`. The scale is kept, so `1.50` and `1.5` are
one number with two texts.
-/

structure Decimal where
  mantissa : Int
  scale : Nat
  deriving DecidableEq, Repr

namespace Decimal

def equal (a b : Decimal) : Bool :=
  a.mantissa * Nat.pow 10 b.scale == b.mantissa * Nat.pow 10 a.scale

def text (d : Decimal) : String :=
  let sign := if d.mantissa < 0 then "-" else ""
  let digits := (padded (d.scale + 1) d.mantissa.natAbs).toList
  let whole := digits.length - d.scale
  let fraction := if d.scale = 0 then [] else '.' :: digits.drop whole
  sign ++ String.ofList (digits.take whole ++ fraction)

end Decimal

/-!
Reads decimal numerals: digits, then if wanted a point with digits, then if wanted an exponent. What
a numeral stands for is left to its reader, which may keep whole numbers apart.
-/

def digitsValue (digits : List Char) : Nat :=
  digits.foldl (fun total c => total * 10 + (c.toNat - '0'.toNat)) 0

structure Numeral where
  negative : Bool
  whole : List Char
  fraction : Option (List Char)
  exponent : Option Int
  deriving DecidableEq, Repr

namespace Numeral

def readSign : List Char → Bool × List Char
  | '-' :: rest => (true, rest)
  | chars => (false, chars)

def readFraction (chars : List Char) : Option (Option (List Char) × List Char) :=
  match chars with
  | '.' :: rest =>
      let digits := rest.takeWhile Char.isDigit
      if digits.isEmpty then none else some (some digits, rest.dropWhile Char.isDigit)
  | _ => some (none, chars)

def readExponent (chars : List Char) : Option (Option Int × List Char) :=
  match chars with
  | c :: rest =>
      if c == 'e' || c == 'E' then
        let (negative, rest) : Bool × List Char := match rest with
          | '-' :: tail => (true, tail)
          | '+' :: tail => (false, tail)
          | tail => (false, tail)
        let digits := rest.takeWhile Char.isDigit
        if digits.isEmpty then none
        else
          let size : Int := digitsValue digits
          some (some (if negative then -size else size), rest.dropWhile Char.isDigit)
      else some (none, chars)
  | [] => some (none, [])

def read (chars : List Char) : Option (Numeral × List Char) := do
  let (negative, unsigned) := readSign chars
  let whole := unsigned.takeWhile Char.isDigit
  if whole.isEmpty then none
  else do
    let (fraction, rest) ← readFraction (unsigned.dropWhile Char.isDigit)
    let (exponent, rest) ← readExponent rest
    return (⟨negative, whole, fraction, exponent⟩, rest)

def isWhole (numeral : Numeral) : Bool :=
  numeral.fraction.isNone && numeral.exponent.isNone

def wholeValue (numeral : Numeral) : Int :=
  let value : Int := digitsValue numeral.whole
  if numeral.negative then -value else value

def toBinary (format : BinaryFormat) (numeral : Numeral) : Binary :=
  let places := numeral.fraction.getD []
  Binary.ofDecimal format numeral.negative (digitsValue (numeral.whole ++ places))
    (numeral.exponent.getD 0 - places.length)

end Numeral

namespace Binary

def ofText? (format : BinaryFormat) (text : String) : Option Binary :=
  match text with
  | "NaN" => some nan
  | "inf" => some (infinite false)
  | "-inf" => some (infinite true)
  | _ =>
      match Numeral.read text.toList with
      | some (numeral, []) => some (numeral.toBinary format)
      | _ => none

end Binary

end MappedSql.Number
