import MappedSql.Fault
import MappedSql.Json
import MappedSql.Text.Basic
import MappedSql.Value.Basic

/-!
Names of schemas, tables and columns. A name is written between brackets, with each closing
bracket inside it doubled, so that the text of any name ends where its brackets close.
-/

namespace MappedSql.Identifier

def escape : List Char → List Char
  | [] => []
  | c :: rest => if c = ']' then ']' :: ']' :: escape rest else c :: escape rest

def bracketed (name : String) : String :=
  String.ofList ('[' :: (escape name.toList ++ [']']))

def check (name : String) : Except Fault Unit :=
  if Text.isBlank name then .error .blankIdentifier
  else if name.toList.contains (Char.ofNat 0) then .error .nulInIdentifier
  else .ok ()

def quote (name : String) : Except Fault String := do
  check name
  return bracketed name

def bracketedPair (schema table : String) : String :=
  bracketed schema ++ "." ++ bracketed table

def qualified (schema table : String) : Except Fault String := do
  check schema
  check table
  return bracketedPair schema table

/-- Two names are one to the database when they differ in the case of ASCII letters only. -/
def sameName (a b : String) : Bool :=
  Text.sameIgnoringCase a b

end MappedSql.Identifier

/-!
Literals of statements. Statements have no parameters: every value stands in the text as a literal.
`Value.literal` says which literal a value has under a policy, `Literal.render` how it is written.
Texts stand between quotes with each quote inside doubled; bytes are hexadecimal; truth is 1 or 0;
dates and times are universal time to the second.
-/

namespace MappedSql

structure LiteralPolicy where
  enumAs : EnumStorage
  json : Bool
  quoted : Bool
  deriving DecidableEq, Repr

namespace LiteralPolicy

def plain : LiteralPolicy := ⟨.number, false, true⟩

end LiteralPolicy

inductive Literal where
  | null
  | integer (value : Int)
  | float (width : FloatWidth) (value : Number.Binary)
  | decimal (value : Number.Decimal)
  | bytes (value : List UInt8)
  | text (content : String) (quoted : Bool)
  deriving DecidableEq

namespace Literal

def escape : List Char → List Char
  | [] => []
  | c :: rest => if c = '\'' then '\'' :: '\'' :: escape rest else c :: escape rest

def byteDigits (byte : UInt8) : List Char :=
  let digit (n : Nat) : Char := if n < 10 then Char.ofNat (48 + n) else Char.ofNat (55 + n)
  [digit (byte.toNat / 16), digit (byte.toNat % 16)]

/-- Quotes inside a text are doubled whether or not it stands between quotes. -/
def textForm (content : String) (quoted : Bool) : String :=
  let escaped := escape content.toList
  String.ofList (if quoted then '\'' :: (escaped ++ ['\'']) else escaped)

def render : Literal → String
  | null => "NULL"
  | integer value => Number.integerText value
  | float width value => value.text .statement width.format
  | decimal value => value.text
  | bytes value => "0x" ++ String.ofList (value.flatMap byteDigits)
  | text content quoted => textForm content quoted

end Literal

namespace Value

open Calendar

/-- A time of day is anchored to the first of January of the current year. The year is known only
when the statement is sent, so a mark stands in its place. -/
def anchoredText (time : TimeOfDay) : String :=
  "<year>-01-01T" ++ time.clockText ++ "Z"

def scalarLiteral (policy : LiteralPolicy) : Value → Except Fault Literal
  | null => .ok .null
  | bool value => .ok (.integer (if value then 1 else 0))
  | integer _ value => .ok (.integer value)
  | float width value =>
      if value.isFinite then .ok (.float width value)
      else .error (.nonFinite (value.text .statement width.format))
  | decimal value => .ok (.decimal value)
  | char value => .ok (.text value.toString policy.quoted)
  | text value => .ok (.text value policy.quoted)
  | bytes value => .ok (.bytes value)
  | date value => .ok (.text (Timestamp.atMidnight value).statementText policy.quoted)
  | time value => .ok (.text (anchoredText value) policy.quoted)
  | timestamp value | utcTimestamp value => .ok (.text value.statementText policy.quoted)
  | offsetTimestamp value => .ok (.text value.utc.statementText policy.quoted)
  | guid value => .ok (.text value.text policy.quoted)
  | enumeration value =>
      match policy.enumAs with
      | .number => .ok (.integer value.variant.discriminant)
      | .name => .ok (.text value.variant.name true)
  | other => .error (.noLiteral other.shape)

/-- The literal of a value under a policy. Documents and lists have one only where the policy
writes document text; records have none. -/
def literal (policy : LiteralPolicy) (value : Value) : Except Fault Literal :=
  match value, policy.json with
  | document _, true | list _, true => do
      let content ← value.toDocument
      return .text content.render policy.quoted
  | _, _ => value.scalarLiteral policy

def render (policy : LiteralPolicy) (value : Value) : Except Fault String :=
  (value.literal policy).map Literal.render

end Value

end MappedSql
