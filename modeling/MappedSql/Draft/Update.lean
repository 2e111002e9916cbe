import MappedSql.Draft.Basic

/-!
Drafts of updates of rows, one statement per row. The keys pin each statement to its row; the
conditions of the draft are one more test, in brackets.
-/

namespace MappedSql

structure UpdateDraft where
  draft : Draft
  rows : List Record
  additional : AdditionalColumns

namespace UpdateDraft

def start (target : EntityType) : UpdateDraft :=
  ⟨.start target, [], .none⟩

inductive Step where
  | shared (step : Draft.Step)
  | addRows (rows : List Record)
  | additional (columns : List (String × Value))

def apply (update : UpdateDraft) : Step → UpdateDraft
  | .shared step => { update with draft := update.draft.apply step }
  | .addRows rows => { update with rows := update.rows ++ rows }
  | .additional columns => { update with additional := update.additional.merge columns }

def run (target : EntityType) (steps : List Step) : UpdateDraft :=
  steps.foldl apply (start target)

def assignment (record : Record) (column : Column) : Except Fault String := do
  let value ← column.render record
  return Statement.assignment column.quoted value

def keyTest (target : Participant) (record : Record) (key : Column) : Except Fault String := do
  let value ← key.render record
  return Statement.equalityTest (target.columnText key) value

def filterTests (filter : Filter) : List String :=
  if filter.isEmpty then [] else ["(" ++ filter.text ++ ")"]

def rowStatement (update : UpdateDraft) (target : Participant) (more : List String)
    (record : Record) : Except Fault UpdateStatement := do
  let own ← target.table.updatable.mapM (assignment record)
  let keyTests ← target.table.keys.mapM (keyTest target record)
  return {
    table := target.table.qualifiedName
    aliasName := target.aliasName
    assignments := own ++ more
    hint := update.draft.settings.hintSuffix
    joins := update.draft.joins
    tests := keyTests ++ filterTests update.draft.filter }

def statements (update : UpdateDraft) : Except Fault (List UpdateStatement) := do
  let target ← update.draft.aliases.target
  if update.rows.isEmpty then throw (.nothingToUpdate target.table.qualifiedName)
  let more ← update.additional.assignments
  if target.table.updatable.isEmpty && more.isEmpty then
    throw (.noUpdatableColumn target.table.qualifiedName)
  update.rows.mapM (update.rowStatement target more)

instance : StatementDraft UpdateDraft where
  kind := "UPDATE"
  settings update := update.draft.settings
  fault? update := update.draft.fault
  write update := do
    let statements ← update.statements
    return ";\n".intercalate (statements.map UpdateStatement.render)

end UpdateDraft

/-!
Drafts of updates that take values from joined tables. Each assignment names a column of the target
and an expression over the tables of the statement.
-/

structure JoinedUpdateDraft where
  draft : Draft
  assignments : List String
  additional : AdditionalColumns

namespace JoinedUpdateDraft

def start (target : EntityType) : JoinedUpdateDraft :=
  ⟨.start target, [], .none⟩

inductive Step where
  | shared (step : Draft.Step)
  /-- Sets columns of the target from a joined type; a pair is a column and its new value. -/
  | assign (target source : String) (pairs : List (Expr × Expr))
  | additional (columns : List (String × Value))

def fail (update : JoinedUpdateDraft) (fault : Fault) : JoinedUpdateDraft :=
  { update with draft := update.draft.fail fault }

def pairingFault? (aliases : Aliases) (target source : String) : Option Fault :=
  if target = source then some (.assignToSelf target source)
  else if !((aliases.find? target).any (·.isTarget)) then some (.notTarget target)
  else if !((aliases.find? source).any (!·.isTarget)) then some (.notJoined source)
  else none

def assignment (aliases : Aliases) (target : String) (pair : Expr × Expr) :
    Except Fault String := do
  let primary ← aliases.target
  let reference ← pair.1.toColumn aliases
  if reference.participant.aliasName ≠ primary.aliasName then
    throw (.strangerTarget reference.column.name target)
  let value ← pair.2.compile ⟨aliases, false⟩
  return Statement.assignment (reference.participant.columnText reference.column) value

def assignAll (aliases : Aliases) (target : String) (done : List String) :
    List (Expr × Expr) → List String × Option Fault
  | [] => (done, none)
  | pair :: rest =>
      match assignment aliases target pair with
      | .ok text => assignAll aliases target (done ++ [text]) rest
      | .error fault => (done, some fault)

def assign (update : JoinedUpdateDraft) (target source : String) (pairs : List (Expr × Expr)) :
    JoinedUpdateDraft :=
  let aliases := update.draft.aliases
  match pairingFault? aliases target source with
  | some fault => update.fail fault
  | none =>
      let (assignments, refused) := assignAll aliases target update.assignments pairs
      let grown := { update with assignments := assignments }
      match refused with
      | none => grown
      | some fault => grown.fail fault

def apply (update : JoinedUpdateDraft) : Step → JoinedUpdateDraft
  | .shared step => { update with draft := update.draft.apply step }
  | .assign target source pairs =>
      if update.draft.fault.isSome then update else update.assign target source pairs
  | .additional columns => { update with additional := update.additional.merge columns }

def run (target : EntityType) (steps : List Step) : JoinedUpdateDraft :=
  steps.foldl apply (start target)

def statement (update : JoinedUpdateDraft) : Except Fault UpdateStatement := do
  let target ← update.draft.aliases.target
  let more ← update.additional.assignments
  let assignments := update.assignments ++ more
  if assignments.isEmpty then throw (.noAssignment target.table.qualifiedName)
  return {
    table := target.table.qualifiedName
    aliasName := target.aliasName
    assignments := assignments
    hint := update.draft.settings.hintSuffix
    joins := update.draft.joins
    tests := if update.draft.filter.isEmpty then [] else [update.draft.filter.text] }

instance : StatementDraft JoinedUpdateDraft where
  kind := "UPDATE"
  settings update := update.draft.settings
  fault? update := update.draft.fault
  write update := update.statement.map UpdateStatement.render

end JoinedUpdateDraft

/-!
Drafts of removals of rows. Without conditions nothing is written, unless removing every row was
allowed.
-/

structure DeleteDraft where
  draft : Draft
  allowsAll : Bool
  deriving DecidableEq, Repr

namespace DeleteDraft

def start (target : EntityType) : DeleteDraft :=
  ⟨.start target, false⟩

inductive Step where
  | shared (step : Draft.Step)
  | allowAll (allow : Bool)

def apply (delete : DeleteDraft) : Step → DeleteDraft
  | .shared step => { delete with draft := delete.draft.apply step }
  | .allowAll allow => { delete with allowsAll := allow }

def run (target : EntityType) (steps : List Step) : DeleteDraft :=
  steps.foldl apply (start target)

def statement (delete : DeleteDraft) : Except Fault DeleteStatement := do
  let target ← delete.draft.aliases.target
  if delete.draft.filter.isEmpty && !delete.allowsAll then
    throw (.unguardedDelete target.table.qualifiedName)
  return {
    table := target.table.qualifiedName
    aliasName := target.aliasName
    hint := delete.draft.settings.hintSuffix
    joins := delete.draft.joins
    filter := delete.draft.filter.text }

instance : StatementDraft DeleteDraft where
  kind := "DELETE"
  settings delete := delete.draft.settings
  fault? delete := delete.draft.fault
  write delete := delete.statement.map DeleteStatement.render

end DeleteDraft

end MappedSql
