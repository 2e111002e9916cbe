import MappedSql.Draft.Insert
import MappedSql.Draft.Update

/-!
Scripts: statements for single rows, in which tables go by their own names. Updates and deletes pin
the row by its keys and by raw conditions; one that would touch every row is refused. A table with
soft deletes has a column set instead of its row removed.
-/

namespace MappedSql.Script

open Statement

structure SelectOptions where
  sorting : NamedList SortOrder := []
  limit : Option Nat := none
  deriving DecidableEq, Repr

namespace SelectOptions

/-- No more rows than the limit; zero is no limit. -/
def rowLimit (options : SelectOptions) : Option Nat :=
  options.limit.filter (0 < ·)

end SelectOptions

def sortKey (entry : String × SortOrder) : Except Fault String := do
  let column ← Identifier.quote entry.1
  return column ++ " " ++ entry.2.text

def select (settings : Settings) (entity : EntityType) (condition : String)
    (options : SelectOptions) : Except Fault String := do
  let table ← Table.ofMapping entity.mapping
  let sorting ← options.sorting.mapM sortKey
  let trimmed := Text.trim condition
  return clauses (
    ["SELECT"]
    ++ limitClause options.rowLimit
    ++ [commas (table.insertable.map Column.quoted),
        "FROM " ++ table.qualifiedName ++ settings.hintSuffix]
    ++ (if trimmed.isEmpty then [] else ["WHERE " ++ trimmed])
    ++ whenAny sorting ("ORDER BY " ++ commas sorting))

def valueTest (entry : String × Value) : Except Fault String := do
  let column ← Identifier.quote entry.1
  if entry.2.isNull then return "(" ++ column ++ " IS NULL)"
  let value ← entry.2.render .plain
  return equalityTest column value

def selectByValues (settings : Settings) (entity : EntityType) (values : NamedList Value)
    (options : SelectOptions) : Except Fault String := do
  let tests ← values.mapM valueTest
  select settings entity (conjunction tests) options

def selectByCondition (settings : Settings) (entity : EntityType) (condition : Condition)
    (options : SelectOptions) : Except Fault String :=
  select settings entity condition.text options

def insertStatement (entity : EntityType) (record : Record) (additional : AdditionalColumns) :
    Except Fault InsertStatement := do
  let table ← Table.ofMapping entity.mapping
  let columns ← InsertDraft.names table additional
  let own ← InsertDraft.literals table.insertable record
  let more ← additional.literals
  return ⟨table.qualifiedName, columns, [own ++ more]⟩

def insert (entity : EntityType) (record : Record) (additional : AdditionalColumns) :
    Except Fault String :=
  (insertStatement entity record additional).map InsertStatement.render

def keyTest (record : Record) (key : Column) : Except Fault String := do
  let value ← key.render record
  return equalityTest key.quoted value

/-- The raw conditions that are not blank, each in brackets. -/
def rawTests (conditions : List String) : List String :=
  ((conditions.map Text.trim).filter (!·.isEmpty)).map fun text => "(" ++ text ++ ")"

/-- The tests that pin one row. There has to be at least one. -/
def rowTests (table : Table) (record : Record) (conditions : List String) :
    Except Fault (List String) := do
  let keyTests ← table.keys.mapM (keyTest record)
  let tests := keyTests ++ rawTests conditions
  if tests.isEmpty then throw (.unguardedRow table.qualifiedName)
  return tests

def updateText (table : String) (assignments tests : List String) : String :=
  "UPDATE " ++ table ++ " SET " ++ commas assignments ++ " WHERE " ++ conjunction tests ++ " ;"

def update (entity : EntityType) (record : Record) (additional : AdditionalColumns)
    (conditions : List String) : Except Fault String := do
  let table ← Table.ofMapping entity.mapping
  let own ← table.updatable.mapM (UpdateDraft.assignment record)
  let more ← additional.assignments
  let assignments := own ++ more
  if assignments.isEmpty then throw (.noUpdatableColumn table.qualifiedName)
  let tests ← rowTests table record conditions
  return updateText table.qualifiedName assignments tests

structure MergeStatement where
  table : String
  columns : List String
  values : List String
  keys : List String
  updated : List String
  deriving DecidableEq, Repr

namespace MergeStatement

def source (column : String) : String :=
  "source." ++ column

def keyTest (column : String) : String :=
  equalityTest ("target." ++ column) (source column)

def assignment (column : String) : String :=
  Statement.assignment column (source column)

def render (s : MergeStatement) : String :=
  clauses (
    ["MERGE " ++ s.table ++ " as target",
     "USING (VALUES(" ++ commas s.values ++ ")) AS source (" ++ commas s.columns ++ ")",
     "ON (" ++ conjunction (s.keys.map keyTest) ++ ")"]
    ++ whenAny s.updated
      ("WHEN MATCHED THEN UPDATE SET " ++ commas (s.updated.map assignment))
    ++ ["WHEN NOT MATCHED THEN INSERT ( " ++ commas s.columns ++ " ) VALUES ( "
        ++ commas (s.columns.map source) ++ " );"])

end MergeStatement

def mergeStatement (entity : EntityType) (record : Record) : Except Fault MergeStatement := do
  let table ← Table.ofMapping entity.mapping
  let columns := table.insertable
  if columns.isEmpty then throw (.noInsertableColumn table.qualifiedName)
  if table.keys.isEmpty then throw (.mergeWithoutKey table.qualifiedName)
  let values ← InsertDraft.literals columns record
  return {
    table := table.qualifiedName
    columns := columns.map Column.quoted
    values := values
    keys := table.keys.map Column.quoted
    updated := (columns.filter (·.isUpdatable)).map Column.quoted }

def merge (entity : EntityType) (record : Record) : Except Fault String :=
  (mergeStatement entity record).map MergeStatement.render

def delete (settings : Settings) (entity : EntityType) (record : Record)
    (conditions : List String) : Except Fault String := do
  let table ← Table.ofMapping entity.mapping
  let tests ← rowTests table record conditions
  if table.softDelete then
    let flag ← Identifier.quote settings.softDeleteColumn
    return updateText table.qualifiedName [assignment flag "1"] tests
  return "DELETE FROM " ++ table.qualifiedName ++ " WHERE " ++ conjunction tests ++ " ;"

inductive RowStatement where
  | insert
  | update
  | upsert
  | delete
  deriving DecidableEq, Repr

instance : Vocabulary RowStatement where
  all := [.insert, .update, .upsert, .delete]
  name
    | .insert => "Insert"
    | .update => "Update"
    | .upsert => "Upsert"
    | .delete => "Delete"

/-- The statement for one row. Additional columns go to inserts and updates, conditions to updates
and deletes. -/
def rowText (settings : Settings) (entity : EntityType) (kind : RowStatement)
    (additional : AdditionalColumns) (conditions : List String) (record : Record) :
    Except Fault String :=
  match kind with
  | .insert => insert entity record additional
  | .update => update entity record additional conditions
  | .upsert => merge entity record
  | .delete => delete settings entity record conditions

def batch (settings : Settings) (entity : EntityType) (kind : RowStatement)
    (rows : List Record) (additional : AdditionalColumns) (conditions : List String) :
    Except Fault (List String) :=
  rows.mapM (rowText settings entity kind additional conditions)

end MappedSql.Script
