import MappedSql.Draft.Basic
import MappedSql.Draft.Select

/-!
Drafts of inserts of rows. Every column that inserts write is written, then the additional columns,
which have one value on every row.
-/

namespace MappedSql

structure InsertDraft where
  draft : Draft
  rows : List Record
  additional : AdditionalColumns

namespace InsertDraft

def start (target : EntityType) : InsertDraft :=
  ⟨.start target, [], .none⟩

inductive Step where
  | configure (settings : Settings)
  | addRows (rows : List Record)
  | additional (columns : List (String × Value))

def apply (insert : InsertDraft) : Step → InsertDraft
  | .configure settings => { insert with draft := insert.draft.apply (.configure settings) }
  | .addRows rows => { insert with rows := insert.rows ++ rows }
  | .additional columns => { insert with additional := insert.additional.merge columns }

def run (target : EntityType) (steps : List Step) : InsertDraft :=
  steps.foldl apply (start target)

def literals (columns : List Column) (record : Record) : Except Fault (List String) :=
  columns.mapM (Column.render · record)

def names (table : Table) (additional : AdditionalColumns) : Except Fault (List String) := do
  let more ← additional.quotedNames
  let all := table.insertable.map Column.quoted ++ more
  if all.isEmpty then throw (.noInsertableColumn table.qualifiedName)
  return all

def row (table : Table) (more : List String) (record : Record) : Except Fault (List String) := do
  let own ← literals table.insertable record
  return own ++ more

def statement (insert : InsertDraft) : Except Fault InsertStatement := do
  let target ← insert.draft.aliases.target
  let table := target.table
  if insert.rows.isEmpty then throw (.nothingToInsert table.qualifiedName)
  let columns ← names table insert.additional
  let more ← insert.additional.literals
  let rows ← insert.rows.mapM (row table more)
  return ⟨table.qualifiedName, columns, rows⟩

instance : StatementDraft InsertDraft where
  kind := "INSERT"
  settings insert := insert.draft.settings
  fault? insert := insert.draft.fault
  write insert := insert.statement.map InsertStatement.render

end InsertDraft

/-!
Drafts of inserts of the rows of a query. The value of an additional column is injected into the
query, so that names and values line up.
-/

structure InsertTarget where
  draft : Draft
  additional : AdditionalColumns

structure InsertSelectDraft extends InsertTarget where
  query : SelectDraft

namespace InsertTarget

def start (target : EntityType) : InsertTarget :=
  ⟨.start target, .none⟩

inductive Step where
  | configure (settings : Settings)
  | additional (columns : List (String × Value))

def apply (target : InsertTarget) : Step → InsertTarget
  | .configure settings => { target with draft := target.draft.apply (.configure settings) }
  | .additional columns => { target with additional := target.additional.merge columns }

def bind (target : InsertTarget) (query : SelectDraft) : InsertSelectDraft :=
  ⟨target, query⟩

end InsertTarget

namespace InsertSelectDraft

def apply (insert : InsertSelectDraft) (step : InsertTarget.Step) : InsertSelectDraft :=
  ⟨insert.toInsertTarget.apply step, insert.query⟩

def run (target : EntityType) (before : List InsertTarget.Step) (query : SelectDraft)
    (after : List InsertTarget.Step) : InsertSelectDraft :=
  after.foldl apply ((before.foldl InsertTarget.apply (.start target)).bind query)

def filledQuery (insert : InsertSelectDraft) : SelectDraft :=
  if insert.additional.entries.isEmpty then insert.query
  else insert.query.apply (.inject insert.additional.entries)

def statement (insert : InsertSelectDraft) : Except Fault InsertSelectStatement := do
  let target ← insert.draft.aliases.target
  let columns ← InsertDraft.names target.table insert.additional
  let query := insert.filledQuery
  StatementDraft.validate query
  let source ← query.statement
  return ⟨target.table.qualifiedName, columns, source⟩

instance : StatementDraft InsertSelectDraft where
  kind := "INSERT"
  settings insert := insert.draft.settings
  fault? insert := insert.draft.fault.or insert.query.draft.fault
  write insert := insert.statement.map InsertSelectStatement.render

end InsertSelectDraft

end MappedSql
