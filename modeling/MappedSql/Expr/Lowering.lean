import MappedSql.Aliases
import MappedSql.Fragment
import MappedSql.Schema.Table

/-!
From expressions to fragments. Members of rows become columns, chains of members of constants are
folded to values, and values become literals. When one side of an operation is a column, the other
side is written by the policy of that column, so a constant reads as the column stores it.
-/

namespace MappedSql

/-- What an expression is lowered under: the tables of the statement, and whether the members of an
object keep their names. -/
structure Scope where
  aliases : Aliases
  namesMembers : Bool := false

structure ColumnReference where
  participant : Participant
  column : Column

namespace Enumeration

/-- A constant next to a column of the enumeration, taken as one of its values: an integer by
number, a text by name. An integer that is no variant stays an integer where numbers are stored. -/
def coerce (enumeration : Enumeration) (storage : EnumStorage) (value : Value) :
    Except Fault Value :=
  match value.discriminant? with
  | some number =>
      match enumeration.byDiscriminant? number, storage with
      | some variant, _ => .ok (.enumeration variant)
      | none, .number => .ok (.integer .int64 number)
      | none, .name => .error (.unknownDiscriminant enumeration.name number)
  | none =>
      match value with
      | .text name =>
          match enumeration.byName? name with
          | some variant => .ok (.enumeration variant)
          | none => .error (.unknownVariant enumeration.name name)
      | other => .ok other

end Enumeration

namespace Value

def literalBeside (value : Value) : Option Column → Except Fault Literal
  | none => value.literal .plain
  | some column =>
      match column.kind.enumeration? with
      | some known => do (← known.coerce column.enumAs value).literal column.policy
      | none => value.literal column.policy

end Value

namespace Expr

/-- The column that a member of a row is. Expressions that are no members of rows are no columns. -/
def columnOf (aliases : Aliases) : Expr → Except Fault (Option ColumnReference)
  | member (some type) (row _) name =>
      match aliases.find? type with
      | none => .error (.strangerType type)
      | some participant =>
          match participant.table.columnOfMember? name with
          | none => .error (.unmappedMember type name)
          | some column => .ok (some ⟨participant, column⟩)
  | _ => .ok none

/-- The column whose policy the other side of an operation takes over. -/
def columnBeside (aliases : Aliases) : Expr → Option Column
  | member declaring source name =>
      match columnOf aliases (member declaring source name) with
      | .ok (some reference) => some reference.column
      | _ => none
  | unary .convert operand => columnBeside aliases operand
  | _ => none

def evaluate : Expr → Except Fault Value
  | constant value => .ok value
  | member _ source name => do
      match ← evaluate source with
      | .record type members =>
          match ← (Record.mk type members).read? name with
          | some value => return value
          | none => .error (.noMember type name)
      | other => .error (.memberOfValue name other.shape)
  | unary .convert operand => evaluate operand
  | row type => .error (.rowInChain type)
  | other => .error (.unfoldable other.node)

def collectionLiterals (beside : Option Column) (collection : Expr) :
    Except Fault (List Literal) := do
  match ← collection.evaluate with
  | .list items => items.mapM fun item => item.literalBeside beside
  | other => .error (.containsOver other.shape)

def membershipTest (element : Fragment) : List Literal → Fragment
  | [] => .never
  | items => .membership element items

def containsTest (aliases : Aliases) (collection element : Expr) (lowered : Fragment) :
    Except Fault Fragment :=
  (collectionLiterals (element.columnBeside aliases) collection).map (membershipTest lowered)

mutual

/-- The fragment of an expression that stands beside a column, or on its own. -/
def lower (scope : Scope) : Expr → Option Column → Except Fault Fragment
  | row type, _ => .error (.rowAsValue type)
  | constant value, beside => (value.literalBeside beside).map .literal
  | member declaring source name, beside => do
      match ← columnOf scope.aliases (member declaring source name) with
      | some reference => return .column reference.participant.aliasName reference.column.name
      | none =>
          let value ← evaluate (member declaring source name)
          return .literal (← value.literalBeside beside)
  | binary op left right, _ =>
      match op.sql? with
      | none => .error (.unspelledBinary op.name)
      | some sql => do
          let loweredLeft ← lower scope left (right.columnBeside scope.aliases)
          let loweredRight ← lower scope right (left.columnBeside scope.aliases)
          return .combine sql loweredLeft loweredRight
  | unary op operand, beside =>
      match op with
      | .negate => (lower scope operand beside).map .negation
      | .not => (lower scope operand none).map .complement
      | .convert => lower scope operand beside
      | .onesComplement | .arrayLength => .error (.unspelledUnary op.name)
  | conditional test whenTrue whenFalse, beside => do
      return .choice (← lower scope test none) (← lower scope whenTrue beside)
        (← lower scope whenFalse beside)
  | object members, _ => (lowerMembers scope members).map .members
  | call method receiver arguments, _ =>
      if method ≠ "Contains" then .error (.unknownMethod method)
      else
        match receiver, arguments with
        | some collection, [element] => do
            let lowered ← lower scope element none
            containsTest scope.aliases collection element lowered
        | none, [collection, element] => do
            let lowered ← lower scope element none
            containsTest scope.aliases collection element lowered
        | _, _ => .error (.containsArity arguments.length)

def lowerMembers (scope : Scope) :
    List (String × Expr) → Except Fault (List (Option String × Fragment))
  | [] => .ok []
  | (name, value) :: rest => do
      let first ← lower scope value none
      let others ← lowerMembers scope rest
      return (if scope.namesMembers then some name else none, first) :: others

end

def compile (scope : Scope) (expr : Expr) : Except Fault String :=
  (expr.lower scope none).map Fragment.render

def withoutConvert : Expr → Expr
  | unary .convert operand => operand
  | other => other

def toColumn (aliases : Aliases) (expr : Expr) : Except Fault ColumnReference := do
  match ← columnOf aliases expr.withoutConvert with
  | some reference => return reference
  | none => .error (.expectedColumn expr.withoutConvert.node)

end Expr

end MappedSql
