import MappedSql.Expr.Basic
import MappedSql.Literal

/-!
Fragments: the parts of a statement that expressions become, as trees, and their text. Operations,
null tests and negation have brackets of their own; complement, choice and membership have none.
-/

namespace MappedSql

inductive SqlOperator where
  | equal
  | notEqual
  | less
  | lessOrEqual
  | greater
  | greaterOrEqual
  | and
  | or
  | plus
  | minus
  | times
  | dividedBy
  | remainder
  deriving DecidableEq, Repr

namespace SqlOperator

def text : SqlOperator → String
  | equal => "="
  | notEqual => "<>"
  | less => "<"
  | lessOrEqual => "<="
  | greater => ">"
  | greaterOrEqual => ">="
  | and => "AND"
  | or => "OR"
  | plus => "+"
  | minus => "-"
  | times => "*"
  | dividedBy => "/"
  | remainder => "%"

end SqlOperator

def BinaryOperator.sql? : BinaryOperator → Option SqlOperator
  | equal => some .equal
  | notEqual => some .notEqual
  | lessThan => some .less
  | lessThanOrEqual => some .lessOrEqual
  | greaterThan => some .greater
  | greaterThanOrEqual => some .greaterOrEqual
  | andAlso => some .and
  | orElse => some .or
  | add => some .plus
  | subtract => some .minus
  | multiply => some .times
  | divide => some .dividedBy
  | modulo => some .remainder
  | bitAnd | bitOr | exclusiveOr | leftShift | rightShift | coalesce | power => none

inductive Fragment where
  | column (aliasName name : String)
  | literal (value : Literal)
  | operation (op : SqlOperator) (left right : Fragment)
  | isNull (operand : Fragment)
  | isNotNull (operand : Fragment)
  | negation (operand : Fragment)
  | complement (operand : Fragment)
  | choice (test whenTrue whenFalse : Fragment)
  | members (items : List (Option String × Fragment))
  | membership (element : Fragment) (items : List Literal)
  /-- What no row satisfies: membership of an empty collection. -/
  | never

namespace Fragment

def listed (items : List String) : String :=
  ",".intercalate items

def namedAs : Option String → String
  | some name => " AS " ++ Identifier.bracketed name
  | none => ""

mutual

def render : Fragment → String
  | column aliasName name => aliasName ++ "." ++ Identifier.bracketed name
  | literal value => value.render
  | operation op left right => "(" ++ left.render ++ " " ++ op.text ++ " " ++ right.render ++ ")"
  | isNull operand => "(" ++ operand.render ++ " IS NULL)"
  | isNotNull operand => "(" ++ operand.render ++ " IS NOT NULL)"
  | negation operand => "(-(" ++ operand.render ++ "))"
  | complement operand => "NOT " ++ operand.render
  | choice test whenTrue whenFalse =>
      "CASE WHEN (" ++ test.render ++ ") THEN " ++ whenTrue.render ++ " ELSE " ++ whenFalse.render
        ++ " END"
  | members items => listed (renderMembers items)
  | membership element items =>
      element.render ++ " IN (" ++ listed (items.map Literal.render) ++ ")"
  | never => "(1=0)"

def renderMembers : List (Option String × Fragment) → List String
  | [] => []
  | (name, fragment) :: rest => (fragment.render ++ namedAs name) :: renderMembers rest

end

def readsNull (fragment : Fragment) : Bool :=
  fragment.render == "NULL"

/-- A binary operation. Equality with null is a null test, where the right side is looked at
first. -/
def combine (op : SqlOperator) (left right : Fragment) : Fragment :=
  match op with
  | .equal =>
      if right.readsNull then isNull left
      else if left.readsNull then isNull right
      else operation op left right
  | .notEqual =>
      if right.readsNull then isNotNull left
      else if left.readsNull then isNotNull right
      else operation op left right
  | _ => operation op left right

end Fragment

end MappedSql
