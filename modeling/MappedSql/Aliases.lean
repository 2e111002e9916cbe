import MappedSql.Schema.Table

/-!
The tables of one statement and their aliases. Tables are numbered in the order in which their
types enter the statement; a number is never given twice and never changes. At most one table is
the target of the statement.
-/

namespace MappedSql

structure Participant where
  type : String
  table : Table
  aliasName : String
  isTarget : Bool
  deriving DecidableEq, Repr

structure Aliases where
  participants : List Participant
  deriving DecidableEq, Repr

namespace Participant

def columnText (participant : Participant) (column : Column) : String :=
  participant.aliasName ++ "." ++ column.quoted

def columnTexts (participant : Participant) : List String :=
  participant.table.columns.map participant.columnText

end Participant

namespace Aliases

def empty : Aliases := ⟨[]⟩

def numbered (count : Nat) : String :=
  "t" ++ Number.digitsText count

def find? (aliases : Aliases) (type : String) : Option Participant :=
  aliases.participants.find? fun participant => participant.type == type

def retarget (aliases : Aliases) (type : String) : Aliases :=
  ⟨aliases.participants.map fun participant =>
    { participant with isTarget := participant.type == type }⟩

def enter (aliases : Aliases) (entity : EntityType) : Except Fault Aliases :=
  match aliases.find? entity.name with
  | some _ => .ok aliases
  | none => do
      let table ← Table.ofMapping entity.mapping
      return ⟨aliases.participants ++
        [⟨entity.name, table, numbered aliases.participants.length, false⟩]⟩

/-- Lets a type in and makes it the target if it is to be one. The state of a refused registration
is the one it had come to. -/
def registration (entity : EntityType) (asTarget : Bool) : ExceptT Fault (StateM Aliases) Unit := do
  let entered ← (← get).enter entity
  set entered
  if asTarget then modify (·.retarget entity.name)

def register (aliases : Aliases) (entity : EntityType) (asTarget : Bool) :
    Except Fault Aliases :=
  let (outcome, after) := ((registration entity asTarget).run aliases).run
  outcome.map fun _ => after

def aliasOf? (aliases : Aliases) (type : String) : Option String :=
  (aliases.find? type).map (·.aliasName)

def byTableName? (aliases : Aliases) (name : String) : Option Participant :=
  aliases.participants.find? fun participant => participant.table.isNamed name

def target (aliases : Aliases) : Except Fault Participant :=
  match aliases.participants.find? (·.isTarget) with
  | some participant => .ok participant
  | none => .error .noTargetTable

end Aliases

end MappedSql
