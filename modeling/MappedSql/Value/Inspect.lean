import MappedSql.Calendar
import MappedSql.Text.Printable
import MappedSql.Json
import MappedSql.Value.Basic

/-!
Inspection: the text of a value that shows its shape, for people and not for a database. Texts and
characters are quoted, and a character that does not show itself is escaped.
-/

namespace MappedSql

namespace Inspect

def shortEscape? (c : Char) : Option Char :=
  if c = '\n' then some 'n'
  else if c = '\r' then some 'r'
  else if c = '\t' then some 't'
  else if c = '\\' then some '\\'
  else if c.toNat = 0 then some '0'
  else none

def escapeChar (quote c : Char) : List Char :=
  if c = quote then ['\\', c]
  else match shortEscape? c with
    | some letter => ['\\', letter]
    | none =>
        if Text.isPrintable c then [c]
        else '\\' :: 'u' :: '\x7b' :: (Nat.toDigits 16 c.toNat ++ ['\x7d'])

def quoted (quote : Char) (chars : List Char) : String :=
  String.ofList (quote :: (chars.flatMap (escapeChar quote) ++ [quote]))

def text (value : String) : String := quoted '"' value.toList

def tagged (shape content : String) : String := shape ++ "(" ++ content ++ ")"

def listed (items : List String) : String := "[" ++ ", ".intercalate items ++ "]"

end Inspect

namespace Json

mutual

def inspect : Json → String
  | null => "Null"
  | bool value => Inspect.tagged "Bool" (if value then "true" else "false")
  | integer value => Inspect.tagged "Number" (Number.integerText value)
  | number value => Inspect.tagged "Number" (numberText value)
  | text value => Inspect.tagged "String" (Inspect.text value)
  | array items => "Array " ++ Inspect.listed (inspectItems items)
  | object members => "Object \x7b" ++ ", ".intercalate (inspectMembers members) ++ "\x7d"

def inspectItems : List Json → List String
  | [] => []
  | item :: rest => inspect item :: inspectItems rest

def inspectMembers : List (String × Json) → List String
  | [] => []
  | (name, value) :: rest => (Inspect.text name ++ ": " ++ inspect value) :: inspectMembers rest

end

end Json

namespace IntegerWidth

def inspectedShape : IntegerWidth → String
  | int8 => "I8"
  | int16 => "I16"
  | int32 => "I32"
  | int64 => "I64"
  | word8 => "U8"
  | word16 => "U16"
  | word32 => "U32"
  | word64 => "U64"

end IntegerWidth

namespace FloatWidth

def inspectedShape : FloatWidth → String
  | single => "F32"
  | double => "F64"

end FloatWidth

namespace Value

open Inspect (tagged listed)

mutual

def inspect : Value → String
  | null => "Null"
  | bool value => tagged "Bool" (if value then "true" else "false")
  | integer width value => tagged width.inspectedShape (Number.integerText value)
  | float width value => tagged width.inspectedShape (value.text .inspection width.format)
  | decimal value => tagged "Decimal" value.text
  | char value => tagged "Char" (Inspect.quoted '\'' [value])
  | text value => tagged "String" (Inspect.text value)
  | bytes value => tagged "Bytes" (listed (value.map fun byte => Number.digitsText byte.toNat))
  | date value => tagged "Date" value.text
  | time value => tagged "Time" value.text
  | timestamp value => tagged "DateTime" value.text
  | utcTimestamp value => tagged "DateTimeUtc" value.utcText
  | offsetTimestamp value => tagged "DateTimeOffset" value.inspectedText
  | guid value => tagged "Uuid" value.text
  | enumeration value => tagged "Enum" (value.enumeration.name ++ "::" ++ value.variant.name)
  | document value => tagged "Json" value.inspect
  | list items => tagged "List" (listed (inspectItems items))
  | record type _ => tagged "Record" type

def inspectItems : List Value → List String
  | [] => []
  | item :: rest => inspect item :: inspectItems rest

end

end Value

end MappedSql
