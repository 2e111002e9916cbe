import MappedSql.Literal
import MappedSql.Number.Numeral

/-!
Statements as data, and their text. The parts of a statement are texts already: names in brackets,
literals, fragments and conditions. What is fixed here is the order of the clauses, the words
between them and the separators of lists.
-/

namespace MappedSql

inductive JoinKind where
  | inner
  | left
  | right
  | full
  deriving DecidableEq, Repr

namespace JoinKind

def text : JoinKind → String
  | inner => "INNER JOIN"
  | left => "LEFT JOIN"
  | right => "RIGHT JOIN"
  | full => "FULL JOIN"

instance : Vocabulary JoinKind where
  all := [inner, left, right, full]
  name
    | inner => "Inner"
    | left => "Left"
    | right => "Right"
    | full => "Full"

end JoinKind

inductive SortOrder where
  | ascending
  | descending
  deriving DecidableEq, Repr

namespace SortOrder

def text : SortOrder → String
  | ascending => "ASC"
  | descending => "DESC"

instance : Vocabulary SortOrder where
  all := [ascending, descending]
  name
    | ascending => "Asc"
    | descending => "Desc"

end SortOrder

structure Join where
  kind : JoinKind
  table : String
  aliasName : String
  condition : String
  deriving DecidableEq, Repr

namespace Join

def render (hint : String) (join : Join) : String :=
  join.kind.text ++ " " ++ join.table ++ " " ++ join.aliasName ++ hint ++ " ON " ++ join.condition

end Join

namespace Statement

def commas (items : List String) : String :=
  ",".intercalate items

def clauses (parts : List String) : String :=
  " ".intercalate parts

def conjunction (tests : List String) : String :=
  " AND ".intercalate tests

def whenAny (items : List String) (clause : String) : List String :=
  if items.isEmpty then [] else [clause]

def limitClause : Option Nat → List String
  | some count => ["TOP " ++ Number.digitsText count]
  | none => []

def assignment (column value : String) : String :=
  column ++ " = " ++ value

def equalityTest (column value : String) : String :=
  "(" ++ column ++ " = " ++ value ++ ")"

end Statement

open Statement

structure SelectStatement where
  distinct : Bool
  limit : Option Nat
  projection : List String
  table : String
  aliasName : String
  hint : String
  joins : List Join
  filter : String
  order : List String
  deriving DecidableEq, Repr

namespace SelectStatement

def render (s : SelectStatement) : String :=
  clauses (
    ["SELECT"]
    ++ (if s.distinct then ["DISTINCT"] else [])
    ++ limitClause s.limit
    ++ [commas s.projection, "FROM", s.table ++ " " ++ s.aliasName ++ s.hint]
    ++ s.joins.map (Join.render s.hint)
    ++ (if s.filter.isEmpty then [] else ["WHERE", s.filter])
    ++ (if s.order.isEmpty then [] else ["ORDER BY", commas s.order]))

end SelectStatement

structure InsertStatement where
  table : String
  columns : List String
  rows : List (List String)
  deriving DecidableEq, Repr

namespace InsertStatement

def heading (table : String) (columns : List String) : String :=
  "INSERT INTO " ++ table ++ " ( " ++ commas columns ++ " )"

def rowText (row : List String) : String :=
  "( " ++ commas row ++ " )"

def render (s : InsertStatement) : String :=
  heading s.table s.columns ++ " VALUES " ++ commas (s.rows.map rowText) ++ ";"

end InsertStatement

structure InsertSelectStatement where
  table : String
  columns : List String
  query : SelectStatement
  deriving DecidableEq, Repr

namespace InsertSelectStatement

def render (s : InsertSelectStatement) : String :=
  InsertStatement.heading s.table s.columns ++ " " ++ s.query.render

end InsertSelectStatement

structure UpdateStatement where
  table : String
  aliasName : String
  assignments : List String
  hint : String
  joins : List Join
  tests : List String
  deriving DecidableEq, Repr

namespace UpdateStatement

def render (s : UpdateStatement) : String :=
  clauses (
    ["UPDATE " ++ s.aliasName ++ " SET " ++ commas s.assignments,
     "FROM " ++ s.table ++ " " ++ s.aliasName]
    ++ s.joins.map (Join.render s.hint)
    ++ whenAny s.tests ("WHERE " ++ conjunction s.tests))

end UpdateStatement

structure DeleteStatement where
  table : String
  aliasName : String
  hint : String
  joins : List Join
  filter : String
  deriving DecidableEq, Repr

namespace DeleteStatement

def render (s : DeleteStatement) : String :=
  clauses (
    ["DELETE " ++ s.aliasName, "FROM " ++ s.table ++ " " ++ s.aliasName]
    ++ s.joins.map (Join.render s.hint)
    ++ (if s.filter.isEmpty then [] else ["WHERE " ++ s.filter]))

end DeleteStatement

end MappedSql
