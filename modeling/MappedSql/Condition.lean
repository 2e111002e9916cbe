import MappedSql.Literal

/-!
Conditions that are stated rather than lowered from expressions over rows: operands joined by an
operator make a comparison, and comparisons chained by AND and OR make a condition. Every
comparison stands in brackets. A condition is kept as its text, which only grows.
-/

namespace MappedSql

inductive ComparisonOperator where
  | equal
  | notEqual
  | lessThan
  | lessThanOrEqual
  | greaterThan
  | greaterThanOrEqual
  | like
  | notLike
  | isIn
  | isNotIn
  | isNull
  | isNotNull
  deriving DecidableEq, Repr

namespace ComparisonOperator

def name : ComparisonOperator → String
  | equal => "Equal"
  | notEqual => "NotEqual"
  | lessThan => "LessThan"
  | lessThanOrEqual => "LessThanOrEqual"
  | greaterThan => "GreaterThan"
  | greaterThanOrEqual => "GreaterThanOrEqual"
  | like => "Like"
  | notLike => "NotLike"
  | isIn => "In"
  | isNotIn => "NotIn"
  | isNull => "IsNull"
  | isNotNull => "IsNotNull"

instance : Vocabulary ComparisonOperator where
  all := [equal, notEqual, lessThan, lessThanOrEqual, greaterThan, greaterThanOrEqual, like,
    notLike, isIn, isNotIn, isNull, isNotNull]
  name := name

def text : ComparisonOperator → String
  | equal => "="
  | notEqual => "<>"
  | lessThan => "<"
  | lessThanOrEqual => "<="
  | greaterThan => ">"
  | greaterThanOrEqual => ">="
  | like => "LIKE"
  | notLike => "NOT LIKE"
  | isIn => "IN"
  | isNotIn => "NOT IN"
  | isNull => "IS NULL"
  | isNotNull => "IS NOT NULL"

end ComparisonOperator

mutual

inductive Operand where
  | constant (value : Value)
  | field (name : String)
  | comparison (inner : Comparison)
  | query (text : String)
  | values (items : List Value)

inductive Comparison where
  | mk (op : ComparisonOperator) (left right : Option Operand)

end

namespace Operand

def ofField (name : String) : Except Fault Operand := do
  Identifier.check name
  return field name

def ofQuery (text : String) : Except Fault Operand :=
  if Text.isBlank text then .error .blankSubQuery else .ok (query text)

end Operand

namespace Comparison

def present (side : String) : Option String :=
  if Text.isBlank side then none else some side

def join (op : ComparisonOperator) (left right : Option String) : Except Fault String :=
  match op with
  | .isNull | .isNotNull =>
      match left, right with
      | some side, none | none, some side => .ok ("(" ++ side ++ " " ++ op.text ++ ")")
      | none, none => .error (.noOperand op.text)
      | some _, some _ => .error (.extraOperand op.text)
  | _ =>
      match left, right with
      | none, _ => .error (.noLeftOperand op.text)
      | some _, none => .error (.noRightOperand op.text)
      | some left, some right =>
          match op with
          | .isIn | .isNotIn => .ok ("(" ++ left ++ " " ++ op.text ++ " (" ++ right ++ "))")
          | _ => .ok ("(" ++ left ++ " " ++ op.text ++ " " ++ right ++ ")")

end Comparison

mutual

def Operand.render : Operand → Except Fault String
  | .constant value => value.render .plain
  | .field name => Identifier.quote name
  | .comparison inner => do
      let text ← inner.render
      return "(" ++ text ++ ")"
  | .query text => .ok text
  | .values items => do
      let texts ← items.mapM (Value.render .plain)
      return ",".intercalate texts

def Operand.renderSide : Option Operand → Except Fault (Option String)
  | none => .ok none
  | some operand => do
      let text ← operand.render
      return Comparison.present text

def Comparison.render : Comparison → Except Fault String
  | .mk op left right => do
      let leftText ← Operand.renderSide left
      let rightText ← Operand.renderSide right
      Comparison.join op leftText rightText

end

inductive Connective where
  | and
  | or
  deriving DecidableEq, Repr

namespace Connective

def text : Connective → String
  | and => " AND "
  | or => " OR "

instance : Vocabulary Connective where
  all := [and, or]
  name
    | and => "And"
    | or => "Or"

end Connective

structure Condition where
  text : String
  deriving DecidableEq, Repr

namespace Condition

def start (first : Comparison) : Except Fault Condition := do
  return ⟨← first.render⟩

def add (condition : Condition) (connective : Connective) (next : Comparison) :
    Except Fault Condition := do
  let text ← next.render
  return ⟨condition.text ++ connective.text ++ text⟩

def group (condition : Condition) : Condition :=
  ⟨"(" ++ condition.text ++ ")"⟩

inductive Step where
  | add (connective : Connective) (next : Comparison)
  | group

def apply (condition : Condition) : Step → Except Fault Condition
  | .add connective next => condition.add connective next
  | .group => .ok condition.group

end Condition

end MappedSql
