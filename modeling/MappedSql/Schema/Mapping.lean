import MappedSql.Text.Basic

/-!
What a member is declared as: its kind, known without a value, and the variant table of an
enumeration. Only kinds that a database can fill in may be generated.
-/

namespace MappedSql

structure Variant where
  name : String
  discriminant : Int
  deriving DecidableEq, Repr

structure Enumeration where
  name : String
  variants : List Variant
  deriving DecidableEq, Repr

structure EnumValue where
  enumeration : Enumeration
  variant : Variant
  deriving DecidableEq, Repr

namespace Enumeration

def byName? (enumeration : Enumeration) (name : String) : Option EnumValue :=
  (enumeration.variants.find? fun variant => variant.name == name).map (EnumValue.mk enumeration)

def byDiscriminant? (enumeration : Enumeration) (discriminant : Int) : Option EnumValue :=
  (enumeration.variants.find? fun variant => variant.discriminant == discriminant).map
    (EnumValue.mk enumeration)

end Enumeration

inductive EnumStorage where
  | number
  | name
  deriving DecidableEq, Repr

instance : Vocabulary EnumStorage where
  all := [.number, .name]
  name
    | .number => "AsInt"
    | .name => "AsString"

inductive Kind where
  | bool
  | integer
  | float
  | decimal
  | char
  | text
  | bytes
  | date
  | time
  | timestamp
  | offsetTimestamp
  | guid
  | enumeration (enumeration : Enumeration)
  | document
  | list
  | record
  deriving DecidableEq, Repr

namespace Kind

def isGeneratable : Kind → Bool
  | guid | timestamp | offsetTimestamp => true
  | _ => false

def enumeration? : Kind → Option Enumeration
  | enumeration e => some e
  | _ => none

def plain : List Kind :=
  [bool, integer, float, decimal, char, text, bytes, date, time, timestamp, offsetTimestamp, guid,
   document, list, record]

def name : Kind → String
  | bool => "Bool"
  | integer => "Integer"
  | float => "Float"
  | decimal => "Decimal"
  | char => "Char"
  | text => "String"
  | bytes => "Bytes"
  | date => "Date"
  | time => "Time"
  | timestamp => "DateTime"
  | offsetTimestamp => "DateTimeOffset"
  | guid => "Guid"
  | enumeration e => e.name
  | document => "Json"
  | list => "List"
  | record => "Record"

def plain? (name : String) : Option Kind :=
  plain.find? fun kind => kind.name == name

end Kind

inductive IntegerWidth where
  | int8
  | int16
  | int32
  | int64
  | word8
  | word16
  | word32
  | word64
  deriving DecidableEq, Repr

inductive FloatWidth where
  | single
  | double
  deriving DecidableEq, Repr

inductive MemberType where
  | bool
  | integer (width : IntegerWidth)
  | float (width : FloatWidth)
  | decimal
  | char
  | text
  | bytes
  | date
  | time
  | timestamp
  | utcTimestamp
  | localTimestamp
  | offsetTimestamp
  | guid
  | document
  | optional (content : MemberType)
  | reference (content : MemberType)
  deriving DecidableEq, Repr

namespace MemberType

/-- Absence and indirection do not change the kind; only a timestamp with an offset of its own is
kept apart from the other timestamps. -/
def kind : MemberType → Kind
  | bool => .bool
  | integer _ => .integer
  | float _ => .float
  | decimal => .decimal
  | char => .char
  | text => .text
  | bytes => .bytes
  | date => .date
  | time => .time
  | timestamp | utcTimestamp | localTimestamp => .timestamp
  | offsetTimestamp => .offsetTimestamp
  | guid => .guid
  | document => .document
  | optional content | reference content => content.kind

end MemberType

/-!
Mappings as declared: which table a type stands for, and which of its members are columns. Nothing
is checked here; `Schema.Table` says which mappings are accepted.
-/

inductive WriteRule where
  | insertAndUpdate
  | onlyInsert
  | neither
  deriving DecidableEq, Repr

instance : Vocabulary WriteRule where
  all := [.insertAndUpdate, .onlyInsert, .neither]
  name
    | .insertAndUpdate => "InsertAndUpdate"
    | .onlyInsert => "OnlyInsert"
    | .neither => "NeitherInsertNorUpdate"

structure TableMapping where
  name : String
  schema : String := "dbo"
  /-- Deletes set a column instead of removing rows. -/
  softDelete : Bool := true
  deriving DecidableEq, Repr

structure ColumnMapping where
  name : String
  writes : WriteRule := .insertAndUpdate
  primaryKey : Bool := false
  enumAs : EnumStorage := .number
  json : Bool := false
  autoGenerate : Bool := false
  deriving DecidableEq, Repr

structure MemberMapping where
  name : String
  kind : Kind
  column : Option ColumnMapping := none
  deriving DecidableEq, Repr

structure Mapping where
  type : String
  table : Option TableMapping := none
  members : List MemberMapping := []
  deriving DecidableEq, Repr

/-- A mapped type: the name by which records and parameters of it are known, and its mapping. -/
structure EntityType where
  name : String
  mapping : Mapping
  deriving DecidableEq, Repr

end MappedSql
