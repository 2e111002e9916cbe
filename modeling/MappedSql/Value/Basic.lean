import MappedSql.Calendar
import MappedSql.Fault
import MappedSql.Json
import MappedSql.Number.Numeral
import MappedSql.Schema.Mapping

/-!
Globally unique identifiers: 128 bits, written as 32 lower-case hexadecimal digits in five groups.
-/

namespace MappedSql

structure Guid where
  bits : BitVec 128
  deriving DecidableEq

namespace Guid

def nil : Guid := ⟨0⟩

def isNil (guid : Guid) : Bool := guid.bits == 0

def isRandom (guid : Guid) : Bool :=
  guid.bits.extractLsb' 76 4 == 4 && guid.bits.extractLsb' 62 2 == 2

def digits (guid : Guid) : List Char :=
  let short := Nat.toDigits 16 guid.bits.toNat
  List.replicate (32 - short.length) '0' ++ short

def grouped (digits : List Char) : List Nat → List Char
  | [] => digits
  | size :: rest => digits.take size ++ '-' :: grouped (digits.drop size) rest

def text (guid : Guid) : String :=
  String.ofList (grouped guid.digits [8, 4, 4, 4])

def digitValue? (c : Char) : Option Nat :=
  if '0' ≤ c ∧ c ≤ '9' then some (c.toNat - '0'.toNat)
  else if 'a' ≤ c ∧ c ≤ 'f' then some (c.toNat - 'a'.toNat + 10)
  else if 'A' ≤ c ∧ c ≤ 'F' then some (c.toNat - 'A'.toNat + 10)
  else none

def ofText? (text : String) : Option Guid := do
  let values ← (text.toList.filter (· != '-')).mapM digitValue?
  if values.length = 32 then
    some ⟨BitVec.ofNat 128 (values.foldl (fun total value => total * 16 + value) 0)⟩
  else none

end Guid

/-!
Values: what a member of a record or a captured constant holds when a statement is written. A
record is a value too, so that chains of members can be read; a member may be one whose document
cannot be written, and then it gives the reason.
-/

open Calendar

inductive Value where
  | null
  | bool (value : Bool)
  | integer (width : IntegerWidth) (value : Int)
  | float (width : FloatWidth) (value : Number.Binary)
  | decimal (value : Number.Decimal)
  | char (value : Char)
  | text (value : String)
  | bytes (value : List UInt8)
  | date (value : Date)
  | time (value : TimeOfDay)
  /-- A timestamp without zone, taken as universal time. -/
  | timestamp (value : Timestamp)
  | utcTimestamp (value : Timestamp)
  | offsetTimestamp (value : OffsetTimestamp)
  | guid (value : Guid)
  | enumeration (value : EnumValue)
  | document (value : Json)
  | list (items : List Value)
  | record (type : String) (members : List (String × Except String Value))

structure Record where
  type : String
  members : List (String × Except String Value)

namespace IntegerWidth

def label : IntegerWidth → String
  | int8 => "i8"
  | int16 => "i16"
  | int32 => "i32"
  | int64 => "i64"
  | word8 => "u8"
  | word16 => "u16"
  | word32 => "u32"
  | word64 => "u64"

instance : Vocabulary IntegerWidth where
  all := [int8, int16, int32, int64, word8, word16, word32, word64]
  name := label

end IntegerWidth

namespace FloatWidth

def label : FloatWidth → String
  | single => "f32"
  | double => "f64"

def format : FloatWidth → Number.BinaryFormat
  | single => .single
  | double => .double

end FloatWidth

namespace Record

def find? (record : Record) (name : String) : Option (Except String Value) :=
  (record.members.find? fun member => member.1 == name).map Prod.snd

end Record

namespace Value

def isNull : Value → Bool
  | null => true
  | _ => false

def shape : Value → String
  | null => "null"
  | bool _ => "bool"
  | integer width _ => width.label
  | float width _ => width.label
  | decimal _ => "decimal"
  | char _ => "char"
  | text _ => "string"
  | bytes _ => "bytes"
  | date _ => "date"
  | time _ => "time"
  | timestamp _ | utcTimestamp _ => "datetime"
  | offsetTimestamp _ => "datetimeoffset"
  | guid _ => "uuid"
  | enumeration _ => "enum"
  | document _ => "json"
  | list _ => "list"
  | record .. => "record"

def greatestInt64 : Int := 9223372036854775807

/-- The number that an integer stands for when it is taken as a discriminant: only an unsigned one
of sixty-four bits can be too large. -/
def discriminant? : Value → Option Int
  | integer _ value => if value ≤ greatestInt64 then some value else none
  | _ => none

mutual

/-- Equality of values of one shape. Floating-point numbers and decimals are compared as numbers,
timestamps with an offset as moments; records have no equality. -/
def equal : Value → Value → Bool
  | null, null => true
  | bool a, bool b => a == b
  | integer width a, integer other b => width == other && a == b
  | float width a, float other b => width == other && a.equal b
  | decimal a, decimal b => a.equal b
  | char a, char b => a == b
  | text a, text b => a == b
  | bytes a, bytes b => a == b
  | date a, date b => a == b
  | time a, time b => a == b
  | timestamp a, timestamp b => a == b
  | utcTimestamp a, utcTimestamp b => a == b
  | offsetTimestamp a, offsetTimestamp b => a.equal b
  | guid a, guid b => a == b
  | enumeration a, enumeration b => a == b
  | document a, document b => a.equal b
  | list a, list b => equalItems a b
  | _, _ => false

def equalItems : List Value → List Value → Bool
  | [], [] => true
  | a :: as, b :: bs => equal a b && equalItems as bs
  | _, _ => false

end

end Value

end MappedSql

/-!
Values as documents. Numbers stay numbers, with single width widened and what is not finite
becoming null; decimals, characters, dates, times and identifiers become texts; a list becomes an
array. Bytes and records have no document.
-/

namespace MappedSql.Value

def numberDocument (value : Number.Binary) : Json :=
  if value.isFinite then .number value.widen else .null

mutual

def toDocument : Value → Except Fault Json
  | null => .ok .null
  | bool value => .ok (.bool value)
  | integer _ value => .ok (.integer value)
  | float _ value => .ok (numberDocument value)
  | decimal value => .ok (.text value.text)
  | char value => .ok (.text value.toString)
  | text value => .ok (.text value)
  | date value => .ok (.text value.text)
  | time value => .ok (.text value.text)
  | timestamp value => .ok (.text value.text)
  | utcTimestamp value => .ok (.text value.utcText)
  | offsetTimestamp value => .ok (.text value.text)
  | guid value => .ok (.text value.text)
  | enumeration value => .ok (.text value.variant.name)
  | document value => .ok value
  | list items => (toDocuments items).map .array
  | bytes _ => .error (.noDocument "bytes")
  | record .. => .error (.noDocument "record")

def toDocuments : List Value → Except Fault (List Json)
  | [] => .ok []
  | item :: rest => do
      let first ← toDocument item
      let others ← toDocuments rest
      return first :: others

end

end MappedSql.Value
