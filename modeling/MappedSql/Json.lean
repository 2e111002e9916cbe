import MappedSql.Number.Numeral

/-!
Documents in JSON form. The members of an object are kept in increasing order of their names, each
name once, so that two objects with the same members are the same list.
-/

namespace MappedSql

open Number (Binary)

inductive Json where
  | null
  | bool (value : Bool)
  | integer (value : Int)
  | number (value : Binary)
  | text (value : String)
  | array (items : List Json)
  | object (members : List (String × Json))

namespace Json

instance : Inhabited Json := ⟨null⟩

def insertMember (name : String) (value : Json) : List (String × Json) → List (String × Json)
  | [] => [(name, value)]
  | first :: rest =>
      if name < first.1 then (name, value) :: first :: rest
      else if name = first.1 then (name, value) :: rest
      else first :: insertMember name value rest

def ofMembers (members : List (String × Json)) : Json :=
  object (members.foldl (fun sorted member => insertMember member.1 member.2 sorted) [])

def member? (name : String) : Json → Option Json
  | object members => (members.find? fun member => member.1 == name).map Prod.snd
  | _ => none

mutual

/-- Equality of documents: an integer is not a floating-point number, and floating-point numbers
are compared as numbers. -/
def equal : Json → Json → Bool
  | null, null => true
  | bool a, bool b => a == b
  | integer a, integer b => a == b
  | number a, number b => a.equal b
  | text a, text b => a == b
  | array a, array b => equalItems a b
  | object a, object b => equalMembers a b
  | _, _ => false

def equalItems : List Json → List Json → Bool
  | [], [] => true
  | a :: as, b :: bs => equal a b && equalItems as bs
  | _, _ => false

def equalMembers : List (String × Json) → List (String × Json) → Bool
  | [], [] => true
  | (name, a) :: as, (other, b) :: bs => name == other && equal a b && equalMembers as bs
  | _, _ => false

end

end Json

end MappedSql

/-!
The compact text of a document: no blanks, members in the order in which the object keeps them. In
a text only the quote, the backslash and the control characters below the space are escaped.
-/

namespace MappedSql.Json

open Number (Layout BinaryFormat)

def unitDigits (code : Nat) : List Char :=
  let digits := Nat.toDigits 16 code
  List.replicate (4 - digits.length) '0' ++ digits

def escapeChar (c : Char) : List Char :=
  if c = '"' then ['\\', '"']
  else if c = '\\' then ['\\', '\\']
  else if c = '\n' then ['\\', 'n']
  else if c = '\r' then ['\\', 'r']
  else if c = '\t' then ['\\', 't']
  else if c.toNat = 0x08 then ['\\', 'b']
  else if c.toNat = 0x0C then ['\\', 'f']
  else if c.toNat < 0x20 then '\\' :: 'u' :: unitDigits c.toNat
  else [c]

def quoted (value : String) : String :=
  String.ofList ('"' :: (value.toList.flatMap escapeChar ++ ['"']))

def numberText (value : Number.Binary) : String :=
  if value.isFinite then value.text .document .double else "null"

mutual

def render : Json → String
  | null => "null"
  | bool value => if value then "true" else "false"
  | integer value => Number.integerText value
  | number value => numberText value
  | text value => quoted value
  | array items => "[" ++ ",".intercalate (renderItems items) ++ "]"
  | object members => "\x7b" ++ ",".intercalate (renderMembers members) ++ "\x7d"

def renderItems : List Json → List String
  | [] => []
  | item :: rest => render item :: renderItems rest

def renderMembers : List (String × Json) → List String
  | [] => []
  | (name, value) :: rest => (quoted name ++ ":" ++ render value) :: renderMembers rest

end

/-!
Reads a document from its text. Each reader takes the characters that are left and returns a value
with the characters after it. A number without a point or an exponent that fits sixty-four bits,
signed or unsigned, is an integer; any other is the nearest number of double width.
-/

open Number (Numeral)

def isSpace (c : Char) : Bool :=
  c == ' ' || c == '\t' || c == '\n' || c == '\r'

def skipSpace (chars : List Char) : List Char :=
  chars.dropWhile isSpace

def hexValue? (c : Char) : Option Nat :=
  if '0' ≤ c ∧ c ≤ '9' then some (c.toNat - '0'.toNat)
  else if 'a' ≤ c ∧ c ≤ 'f' then some (c.toNat - 'a'.toNat + 10)
  else if 'A' ≤ c ∧ c ≤ 'F' then some (c.toNat - 'A'.toNat + 10)
  else none

def codeUnit? (a b c d : Char) : Option Nat := do
  return (((← hexValue? a) * 16 + (← hexValue? b)) * 16 + (← hexValue? c)) * 16 + (← hexValue? d)

def simpleEscape? (c : Char) : Option Char :=
  match c with
  | '"' => some '"'
  | '\\' => some '\\'
  | '/' => some '/'
  | 'b' => some (Char.ofNat 0x08)
  | 'f' => some (Char.ofNat 0x0C)
  | 'n' => some '\n'
  | 'r' => some '\r'
  | 't' => some '\t'
  | _ => none

def isHighSurrogate (unit : Nat) : Bool := 0xD800 ≤ unit && unit ≤ 0xDBFF

def isLowSurrogate (unit : Nat) : Bool := 0xDC00 ≤ unit && unit ≤ 0xDFFF

def joinSurrogates (high low : Nat) : Char :=
  Char.ofNat (0x10000 + (high - 0xD800) * 0x400 + (low - 0xDC00))

/-- Reads the inside of a quoted text up to the closing quote. A pair of surrogate escapes is one
character; a surrogate alone is refused. -/
def readText : List Char → Option (List Char × List Char)
  | '"' :: rest => some ([], rest)
  | '\\' :: 'u' :: a :: b :: c :: d :: rest =>
      match codeUnit? a b c d with
      | none => none
      | some unit =>
          if isLowSurrogate unit then none
          else if isHighSurrogate unit then
            match rest with
            | '\\' :: 'u' :: e :: f :: g :: h :: rest =>
                match codeUnit? e f g h with
                | none => none
                | some low =>
                    if isLowSurrogate low then
                      (readText rest).map fun (chars, left) => (joinSurrogates unit low :: chars, left)
                    else none
            | _ => none
          else (readText rest).map fun (chars, left) => (Char.ofNat unit :: chars, left)
  | '\\' :: c :: rest =>
      match simpleEscape? c with
      | none => none
      | some plain => (readText rest).map fun (chars, left) => (plain :: chars, left)
  | c :: rest =>
      if c.toNat < 0x20 then none
      else (readText rest).map fun (chars, left) => (c :: chars, left)
  | [] => none

def fitsInteger (value : Int) : Bool :=
  -9223372036854775808 ≤ value && value ≤ 18446744073709551615

/-- What a numeral stands for. Minus zero is not a whole number, because it keeps its sign. -/
def ofNumeral (numeral : Numeral) : Json :=
  let value := numeral.wholeValue
  if numeral.isWhole && fitsInteger value && !(numeral.negative && value == 0) then integer value
  else number (numeral.toBinary .double)

def readNumber (chars : List Char) : Option (Json × List Char) :=
  match Numeral.read chars with
  | none => none
  | some (numeral, rest) =>
      match numeral.whole with
      | '0' :: _ :: _ => none
      | _ => some (ofNumeral numeral, rest)

def afterWord? (word : List Char) (chars : List Char) : Option (List Char) :=
  if word.isPrefixOf chars then some (chars.drop word.length) else none

mutual

/-- Reads one value. The fuel bounds the nesting together with the number of items. -/
def readValue : Nat → List Char → Option (Json × List Char)
  | 0, _ => none
  | fuel + 1, chars =>
      match skipSpace chars with
      | '"' :: rest =>
          (readText rest).map fun (value, left) => (text (String.ofList value), left)
      | '[' :: rest =>
          match skipSpace rest with
          | ']' :: left => some (array [], left)
          | items => (readItems fuel items).map fun (values, left) => (array values, left)
      | '\x7b' :: rest =>
          match skipSpace rest with
          | '\x7d' :: left => some (object [], left)
          | members => (readMembers fuel members).map fun (values, left) => (ofMembers values, left)
      | 't' :: rest => (afterWord? ['r', 'u', 'e'] rest).map fun left => (bool true, left)
      | 'f' :: rest => (afterWord? ['a', 'l', 's', 'e'] rest).map fun left => (bool false, left)
      | 'n' :: rest => (afterWord? ['u', 'l', 'l'] rest).map fun left => (null, left)
      | rest => readNumber rest

def readItems : Nat → List Char → Option (List Json × List Char)
  | 0, _ => none
  | fuel + 1, chars =>
      match readValue fuel chars with
      | none => none
      | some (item, rest) =>
          match skipSpace rest with
          | ']' :: left => some ([item], left)
          | ',' :: more => (readItems fuel more).map fun (items, left) => (item :: items, left)
          | _ => none

def readMembers : Nat → List Char → Option (List (String × Json) × List Char)
  | 0, _ => none
  | fuel + 1, chars =>
      match skipSpace chars with
      | '"' :: rest =>
          match readText rest with
          | none => none
          | some (name, rest) =>
              match skipSpace rest with
              | ':' :: rest =>
                  match readValue fuel rest with
                  | none => none
                  | some (value, rest) =>
                      match skipSpace rest with
                      | '\x7d' :: left => some ([(String.ofList name, value)], left)
                      | ',' :: more =>
                          (readMembers fuel more).map fun (members, left) =>
                            ((String.ofList name, value) :: members, left)
                      | _ => none
              | _ => none
      | _ => none

end

def ofText? (value : String) : Option Json :=
  let chars := value.toList
  match readValue (2 * chars.length + 2) chars with
  | some (document, rest) => if (skipSpace rest).isEmpty then some document else none
  | none => none

end MappedSql.Json
