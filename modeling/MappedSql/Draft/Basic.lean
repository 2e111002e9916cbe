import MappedSql.Condition
import MappedSql.Expr.Lowering
import MappedSql.Settings
import MappedSql.Statement

/-!
Lists of named entries. An entry keeps the place at which its name first came up and has the value
that was given last; names are compared exactly.
-/

namespace MappedSql

abbrev NamedList (α : Type) := List (String × α)

namespace NamedList

variable {α : Type}

def put (name : String) (value : α) : NamedList α → NamedList α
  | [] => [(name, value)]
  | first :: rest =>
      if first.1 = name then (name, value) :: rest else first :: put name value rest

def putAll (entries : NamedList α) (more : List (String × α)) : NamedList α :=
  more.foldl (fun list entry => put entry.1 entry.2 list) entries

end NamedList

/-!
What all drafts of statements have in common: the tables that take part, the conditions so far, the
joins, the settings, and the first fault. A step that fails leaves its fault in the draft; the steps
after it do nothing. Types that a failing step let in stay in.
-/

/-- The conditions of a draft in the order in which they were given. The connective of the first
one is not written. -/
structure Filter where
  parts : List (Connective × String)
  deriving DecidableEq, Repr

namespace Filter

def empty : Filter := ⟨[]⟩

def append (text : String) (part : Connective × String) : String :=
  if text.isEmpty then part.2 else text ++ part.1.text ++ part.2

def text (filter : Filter) : String :=
  filter.parts.foldl append ""

def isEmpty (filter : Filter) : Bool :=
  filter.text.isEmpty

def push (filter : Filter) (connective : Connective) (part : String) : Filter :=
  ⟨filter.parts ++ [(connective, part)]⟩

end Filter

structure Draft where
  aliases : Aliases
  filter : Filter
  joins : List Join
  settings : Settings
  fault : Option Fault
  deriving DecidableEq, Repr

namespace Draft

def fail (draft : Draft) (fault : Fault) : Draft :=
  { draft with fault := some fault }

def attempt (draft : Draft) (step : Draft → Draft) : Draft :=
  if draft.fault.isSome then draft else step draft

def start (target : EntityType) : Draft :=
  match Aliases.empty.register target true with
  | .ok aliases => ⟨aliases, .empty, [], {}, none⟩
  | .error fault => ⟨.empty, .empty, [], {}, some fault⟩

def enterAll (aliases : Aliases) : List EntityType → Aliases × Option Fault
  | [] => (aliases, none)
  | entity :: rest =>
      match aliases.register entity false with
      | .ok entered => enterAll entered rest
      | .error fault => (aliases, some fault)

def compile (draft : Draft) (lambda : Lambda) (namesMembers : Bool) :
    Draft × Except Fault String :=
  let (aliases, refused) := enterAll draft.aliases lambda.parameters
  let entered := { draft with aliases := aliases }
  match refused with
  | some fault => (entered, .error fault)
  | none => (entered, lambda.body.compile ⟨aliases, namesMembers⟩)

inductive Step where
  | filter (condition : Lambda) (connective : Connective)
  | state (condition : Condition) (connective : Connective)
  | join (left right : EntityType) (condition : Expr) (kind : JoinKind)
  | joinTable (table condition : String) (kind : JoinKind)
  | configure (settings : Settings)

def addFilter (draft : Draft) (condition : Lambda) (connective : Connective) : Draft :=
  match draft.compile condition false with
  | (entered, .ok text) => { entered with filter := entered.filter.push connective text }
  | (entered, .error fault) => entered.fail fault

def addStated (draft : Draft) (condition : Condition) (connective : Connective) : Draft :=
  if Text.isBlank condition.text then draft.fail .emptyCondition
  else { draft with filter := draft.filter.push connective ("(" ++ condition.text ++ ")") }

def addJoin (draft : Draft) (left right : EntityType) (condition : Expr) (kind : JoinKind) :
    Draft :=
  if left.name = right.name then draft.fail (.selfJoin right.name)
  else
    match draft.compile ⟨[left, right], condition⟩ false with
    | (entered, .error fault) => entered.fail fault
    | (entered, .ok text) =>
        match entered.aliases.find? right.name with
        | none => entered.fail (.notRegistered right.name)
        | some joined =>
            { entered with
              joins := entered.joins ++ [⟨kind, joined.table.qualifiedName, joined.aliasName, text⟩] }

def splitName (name : String) : Option (String × String) :=
  let chars := name.toList
  match chars.dropWhile (· != '.') with
  | [] => none
  | _ :: rest => some (String.ofList (chars.takeWhile (· != '.')), String.ofList rest)

def quoteTableName (name : String) : Except Fault String :=
  match splitName name with
  | some (schema, table) => Identifier.qualified schema table
  | none => Identifier.quote name

/-- The table and the alias that a name stands for: those of the participant with that name, or
else the name itself and a number among the joins. -/
def resolveTable (draft : Draft) (name : String) : Except Fault (String × String) :=
  match draft.aliases.byTableName? name with
  | some participant => .ok (participant.table.qualifiedName, participant.aliasName)
  | none => do
      let table ← quoteTableName name
      return (table, "j" ++ Number.digitsText draft.joins.length)

def addTableJoin (draft : Draft) (table condition : String) (kind : JoinKind) : Draft :=
  if Text.isBlank condition then draft.fail (.joinWithoutCondition table)
  else
    match draft.resolveTable table with
    | .error fault => draft.fail fault
    | .ok (name, aliasName) => { draft with joins := draft.joins ++ [⟨kind, name, aliasName, condition⟩] }

/-- Settings are taken over even after a fault. -/
def apply (draft : Draft) : Step → Draft
  | .filter condition connective => draft.attempt (addFilter · condition connective)
  | .state condition connective => draft.attempt (addStated · condition connective)
  | .join left right condition kind => draft.attempt (addJoin · left right condition kind)
  | .joinTable table condition kind => draft.attempt (addTableJoin · table condition kind)
  | .configure settings => { draft with settings := settings }

end Draft

structure AdditionalColumns where
  entries : NamedList Value

namespace AdditionalColumns

def none : AdditionalColumns := ⟨[]⟩

def merge (columns : AdditionalColumns) (more : List (String × Value)) : AdditionalColumns :=
  ⟨columns.entries.putAll more⟩

def quotedNames (columns : AdditionalColumns) : Except Fault (List String) :=
  columns.entries.mapM fun entry => Identifier.quote entry.1

def literals (columns : AdditionalColumns) : Except Fault (List String) :=
  columns.entries.mapM fun entry => entry.2.render .plain

def assignment (entry : String × Value) : Except Fault String := do
  let name ← Identifier.quote entry.1
  let value ← entry.2.render .plain
  return Statement.assignment name value

def assignments (columns : AdditionalColumns) : Except Fault (List String) :=
  columns.entries.mapM assignment

end AdditionalColumns

class StatementDraft (δ : Type) where
  kind : String
  settings : δ → Settings
  fault? : δ → Option Fault
  /-- The text of the statement, whatever the steps did. -/
  write : δ → Except Fault String

namespace StatementDraft

variable {δ : Type} [StatementDraft δ]

def validate (draft : δ) : Except Fault Unit :=
  match fault? draft with
  | some fault => .error fault
  | none => .ok ()

def build (draft : δ) : Except Fault String := do
  validate draft
  write draft

end StatementDraft

end MappedSql
