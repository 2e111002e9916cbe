import MappedSql.Draft.Basic

/-!
Drafts of queries. The projection is a list of column texts in which no text comes twice, ASCII case
aside; injected values follow it. Once all columns are asked for, the projection is locked.
-/

namespace MappedSql

structure SelectDraft where
  draft : Draft
  columns : List String
  injected : List String
  allColumns : Bool
  distinct : Bool
  limit : Option Nat
  order : List String
  deriving DecidableEq, Repr

namespace SelectDraft

def start (source : EntityType) : SelectDraft :=
  ⟨.start source, [], [], false, false, none, []⟩

inductive Step where
  | shared (step : Draft.Step)
  | project (projection : Lambda)
  | projectTable (entity : EntityType)
  /-- Projects all columns of all participants instead of what was projected before. -/
  | projectParticipants
  | projectAll
  | distinct
  | limit (count : Nat)
  | orderBy (selector : Lambda) (order : SortOrder)
  | inject (columns : NamedList Value)

def pushColumn (columns : List String) (column : String) : List String :=
  if columns.any fun present => Text.sameIgnoringCase present column then columns
  else columns ++ [column]

def pushColumns (columns : List String) (more : List String) : List String :=
  more.foldl pushColumn columns

def fail (query : SelectDraft) (fault : Fault) : SelectDraft :=
  { query with draft := query.draft.fail fault }

def attempt (query : SelectDraft) (step : SelectDraft → SelectDraft) : SelectDraft :=
  if query.draft.fault.isSome then query else step query

def choosing (query : SelectDraft) (step : SelectDraft → SelectDraft) : SelectDraft :=
  query.attempt fun query => if query.allColumns then query.fail .projectionLocked else step query

def project (query : SelectDraft) (projection : Lambda) : SelectDraft :=
  match query.draft.compile projection true with
  | (draft, .ok text) => { query with draft := draft, columns := pushColumn query.columns text }
  | (draft, .error fault) => { query with draft := draft.fail fault }

def projectTable (query : SelectDraft) (entity : EntityType) : SelectDraft :=
  match query.draft.aliases.register entity false with
  | .error fault => query.fail fault
  | .ok aliases =>
      let texts := match aliases.find? entity.name with
        | some participant => participant.columnTexts
        | none => []
      { query with
        draft := { query.draft with aliases := aliases }
        columns := pushColumns query.columns texts }

def projectParticipants (query : SelectDraft) : SelectDraft :=
  { query with
    columns := pushColumns [] (query.draft.aliases.participants.flatMap Participant.columnTexts) }

def orderBy (query : SelectDraft) (selector : Lambda) (order : SortOrder) : SelectDraft :=
  match query.draft.compile selector false with
  | (draft, .ok text) =>
      { query with draft := draft, order := query.order ++ [text ++ " " ++ order.text] }
  | (draft, .error fault) => { query with draft := draft.fail fault }

def injection (entry : String × Value) : Except Fault String := do
  let value ← entry.2.render .plain
  let name ← Identifier.quote entry.1
  return value ++ " AS " ++ name

def injectAll (injected : List String) : NamedList Value → List String × Option Fault
  | [] => (injected, none)
  | entry :: rest =>
      match injection entry with
      | .ok text => injectAll (pushColumn injected text) rest
      | .error fault => (injected, some fault)

def inject (query : SelectDraft) (columns : NamedList Value) : SelectDraft :=
  let (injected, refused) := injectAll query.injected columns
  let grown := { query with injected := injected }
  match refused with
  | none => grown
  | some fault => grown.fail fault

def apply (query : SelectDraft) : Step → SelectDraft
  | .shared step => { query with draft := query.draft.apply step }
  | .project projection => query.choosing (SelectDraft.project · projection)
  | .projectTable entity => query.choosing (SelectDraft.projectTable · entity)
  | .projectParticipants => query.choosing SelectDraft.projectParticipants
  | .projectAll => { query with allColumns := true, columns := [] }
  | .distinct => { query with distinct := true }
  | .limit count => { query with limit := some count }
  | .orderBy selector order => query.attempt (SelectDraft.orderBy · selector order)
  | .inject columns => query.attempt (SelectDraft.inject · columns)

def run (source : EntityType) (steps : List Step) : SelectDraft :=
  steps.foldl apply (start source)

def hasParticipant (query : SelectDraft) (type : String) : Bool :=
  (query.draft.aliases.find? type).isSome

def projection (query : SelectDraft) : List String :=
  (if query.allColumns || query.columns.isEmpty then ["*"] else query.columns) ++ query.injected

def statement (query : SelectDraft) : Except Fault SelectStatement := do
  let target ← query.draft.aliases.target
  return {
    distinct := query.distinct
    limit := query.limit
    projection := query.projection
    table := target.table.qualifiedName
    aliasName := target.aliasName
    hint := query.draft.settings.hintSuffix
    joins := query.draft.joins
    filter := query.draft.filter.text
    order := query.order }

instance : StatementDraft SelectDraft where
  kind := "SELECT"
  settings query := query.draft.settings
  fault? query := query.draft.fault
  write query := query.statement.map SelectStatement.render

end SelectDraft

end MappedSql
