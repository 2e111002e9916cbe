import MappedSql.Literal
import MappedSql.Schema.Mapping

/-!
Accepted tables. `Table.ofMapping` accepts a mapping with usable names, no column mapped twice and
generated values only where a database can make them, and reports the first offence otherwise: the
table first, then the members in order. A key that was declared writable by updates is written by
inserts only.
-/

namespace MappedSql

structure Column where
  member : String
  name : String
  kind : Kind
  writes : WriteRule
  primaryKey : Bool
  enumAs : EnumStorage
  json : Bool
  autoGenerate : Bool
  deriving DecidableEq, Repr

namespace Column

def isInsertable (column : Column) : Bool :=
  column.writes != .neither

def isUpdatable (column : Column) : Bool :=
  column.writes == .insertAndUpdate && !column.primaryKey

def quoted (column : Column) : String :=
  Identifier.bracketed column.name

def policy (column : Column) : LiteralPolicy :=
  ⟨column.enumAs, column.json, true⟩

def normalRule (mapping : ColumnMapping) : WriteRule :=
  if mapping.primaryKey && mapping.writes == .insertAndUpdate then .onlyInsert else mapping.writes

def ofMapping (member : MemberMapping) (mapping : ColumnMapping) : Column where
  member := member.name
  name := mapping.name
  kind := member.kind
  writes := normalRule mapping
  primaryKey := mapping.primaryKey
  enumAs := mapping.enumAs
  json := mapping.json
  autoGenerate := mapping.autoGenerate

end Column

structure Table where
  type : String
  schema : String
  name : String
  softDelete : Bool
  columns : List Column
  deriving DecidableEq, Repr

namespace Table

def columnFault? (type : String) (before : List Column) (member : MemberMapping)
    (mapping : ColumnMapping) : Option Fault :=
  if Text.isBlank mapping.name then some (.blankColumn type member.name)
  else if before.any fun column => Identifier.sameName column.name mapping.name then
    some (.repeatedColumn type mapping.name)
  else if mapping.autoGenerate && !member.kind.isGeneratable then
    some (.ungeneratableMember type member.name)
  else none

def collect (type : String) : List Column → List MemberMapping → Except Fault (List Column)
  | before, [] => .ok before
  | before, member :: rest =>
      match member.column with
      | none => collect type before rest
      | some mapping =>
          match columnFault? type before member mapping with
          | some fault => .error fault
          | none => collect type (before ++ [Column.ofMapping member mapping]) rest

def ofMapping (mapping : Mapping) : Except Fault Table :=
  match mapping.table with
  | none => .error (.noTable mapping.type)
  | some table =>
      if Text.isBlank table.name then .error (.blankTable mapping.type)
      else if Text.isBlank table.schema then .error (.blankSchema mapping.type)
      else do
        let columns ← collect mapping.type [] mapping.members
        return ⟨mapping.type, table.schema, table.name, table.softDelete, columns⟩

def qualifiedName (table : Table) : String :=
  Identifier.bracketedPair table.schema table.name

/-- Whether a text names this table: bare, with its schema, or with its schema in brackets. -/
def isNamed (table : Table) (name : String) : Bool :=
  Identifier.sameName name table.name
    || Identifier.sameName name (table.schema ++ "." ++ table.name)
    || Identifier.sameName name table.qualifiedName

def columnOfMember? (table : Table) (member : String) : Option Column :=
  table.columns.find? fun column => column.member == member

def columnByName? (table : Table) (name : String) : Option Column :=
  table.columns.find? fun column => Identifier.sameName column.name name

def keys (table : Table) : List Column :=
  table.columns.filter (·.primaryKey)

def insertable (table : Table) : List Column :=
  table.columns.filter (·.isInsertable)

def updatable (table : Table) : List Column :=
  table.columns.filter (·.isUpdatable)

end Table

/-!
Cells: what a record contributes to a column when its row is written. Mostly it is the value that
the record holds. In a generated column an unset value is replaced by a fresh GUID or the current
time. These are made when the statement is sent, so their literals are marks.
-/

open Calendar

inductive Cell where
  | stored (value : Value)
  | freshGuid
  | currentTime (withOffset : Bool)

namespace Cell

def shape : Cell → String
  | stored value => value.shape
  | freshGuid => "uuid"
  | currentTime withOffset => if withOffset then "datetimeoffset" else "datetime"

def literal (policy : LiteralPolicy) : Cell → Except Fault Literal
  | stored value => value.literal policy
  | freshGuid => .ok (.text "<uuid>" policy.quoted)
  | currentTime _ => .ok (.text "<now>" policy.quoted)

def isUnset (timestamp : Timestamp) : Bool :=
  timestamp == .epoch || timestamp == .earliest

/-- A timestamp with an offset counts as unset in the first second of Unix time, and at the
earliest timestamp. -/
def isUnsetMoment (timestamp : OffsetTimestamp) : Bool :=
  let utc := timestamp.utc
  (utc.date == .epoch && utc.time.second == 0) || utc == .earliest

def fill (kind : Kind) : Value → Cell
  | .null =>
      match kind with
      | .guid => freshGuid
      | .timestamp => currentTime false
      | .offsetTimestamp => currentTime true
      | _ => stored .null
  | .guid value => if value.isNil then freshGuid else stored (.guid value)
  | .timestamp value => if isUnset value then currentTime false else stored (.timestamp value)
  | .utcTimestamp value =>
      if isUnset value then currentTime false else stored (.utcTimestamp value)
  | .offsetTimestamp value =>
      if isUnsetMoment value then currentTime true else stored (.offsetTimestamp value)
  | other => stored other

end Cell

namespace Record

def read? (record : Record) (name : String) : Except Fault (Option Value) :=
  match record.find? name with
  | none => .ok none
  | some (.ok value) => .ok (some value)
  | some (.error reason) => .error (.failedDocument reason)

-- What the records of a program are relied on for: the one way in which a member that is there
-- cannot be read is that its document could not be written.
theorem read_refused_iff {record : Record} {name : String} {fault : Fault} :
    record.read? name = .error fault ↔
      ∃ reason, record.find? name = some (.error reason) ∧ fault = .failedDocument reason := by
  unfold read?
  cases record.find? name with
  | none => simp
  | some content => cases content <;> simp [eq_comm]

theorem read_refused_category {record : Record} {name : String} {fault : Fault}
    (refused : record.read? name = .error fault) : fault.category = .unsupportedType := by
  obtain ⟨reason, _, rfl⟩ := read_refused_iff.mp refused
  rfl

end Record

namespace Column

def read (column : Column) (record : Record) : Except Fault Cell := do
  match ← record.read? column.member with
  | none => .error (.unreadableMember record.type column.member)
  | some value => return if column.autoGenerate then Cell.fill column.kind value else .stored value

def literal (column : Column) (record : Record) : Except Fault Literal := do
  (← column.read record).literal column.policy

def render (column : Column) (record : Record) : Except Fault String :=
  (column.literal record).map Literal.render

end Column

end MappedSql
