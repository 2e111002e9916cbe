import MappedSql.Schema.Mapping
import MappedSql.Value.Basic

/-!
Expressions over rows of mapped types. A row stands for a parameter of the expression; members of a
row are columns, members of a constant record are constants.
-/

namespace MappedSql

inductive BinaryOperator where
  | equal
  | notEqual
  | lessThan
  | lessThanOrEqual
  | greaterThan
  | greaterThanOrEqual
  | andAlso
  | orElse
  | add
  | subtract
  | multiply
  | divide
  | modulo
  | bitAnd
  | bitOr
  | exclusiveOr
  | leftShift
  | rightShift
  | coalesce
  | power
  deriving DecidableEq, Repr

namespace BinaryOperator

def name : BinaryOperator → String
  | equal => "Equal"
  | notEqual => "NotEqual"
  | lessThan => "LessThan"
  | lessThanOrEqual => "LessThanOrEqual"
  | greaterThan => "GreaterThan"
  | greaterThanOrEqual => "GreaterThanOrEqual"
  | andAlso => "AndAlso"
  | orElse => "OrElse"
  | add => "Add"
  | subtract => "Subtract"
  | multiply => "Multiply"
  | divide => "Divide"
  | modulo => "Modulo"
  | bitAnd => "BitAnd"
  | bitOr => "BitOr"
  | exclusiveOr => "ExclusiveOr"
  | leftShift => "LeftShift"
  | rightShift => "RightShift"
  | coalesce => "Coalesce"
  | power => "Power"

instance : Vocabulary BinaryOperator where
  all := [equal, notEqual, lessThan, lessThanOrEqual, greaterThan, greaterThanOrEqual, andAlso,
    orElse, add, subtract, multiply, divide, modulo, bitAnd, bitOr, exclusiveOr, leftShift,
    rightShift, coalesce, power]
  name := name

def isComparison : BinaryOperator → Bool
  | equal | notEqual | lessThan | lessThanOrEqual | greaterThan | greaterThanOrEqual => true
  | _ => false

end BinaryOperator

inductive UnaryOperator where
  | negate
  | not
  /-- A change of type, which statements do not show. -/
  | convert
  | onesComplement
  | arrayLength
  deriving DecidableEq, Repr

namespace UnaryOperator

def name : UnaryOperator → String
  | negate => "Negate"
  | not => "Not"
  | convert => "Convert"
  | onesComplement => "OnesComplement"
  | arrayLength => "ArrayLength"

instance : Vocabulary UnaryOperator where
  all := [negate, not, convert, onesComplement, arrayLength]
  name := name

end UnaryOperator

inductive Expr where
  | row (type : String)
  | constant (value : Value)
  /-- A member of `source`; `declaring` is the type of `source`, where it is known. -/
  | member (declaring : Option String) (source : Expr) (name : String)
  | binary (op : BinaryOperator) (left right : Expr)
  | unary (op : UnaryOperator) (operand : Expr)
  | conditional (test whenTrue whenFalse : Expr)
  | object (members : List (String × Expr))
  | call (method : String) (receiver : Option Expr) (arguments : List Expr)

structure Lambda where
  parameters : List EntityType
  body : Expr

namespace Expr

def node : Expr → String
  | row _ => "parameter"
  | constant _ => "constant"
  | member .. => "member access"
  | binary .. => "binary"
  | unary .. => "unary"
  | conditional .. => "conditional"
  | object _ => "object construction"
  | call .. => "method call"

def knownType? : Expr → Option String
  | row type => some type
  | constant (.record type _) => some type
  | _ => none

def get (source : Expr) (name : String) : Expr :=
  member source.knownType? source name

def column (type name : String) : Expr :=
  (row type).get name

def isNull (operand : Expr) : Expr :=
  binary .equal operand (constant .null)

def isNotNull (operand : Expr) : Expr :=
  binary .notEqual operand (constant .null)

def contains (collection element : Expr) : Expr :=
  call "Contains" (some collection) [element]

def repeatUnary (op : UnaryOperator) : Nat → Expr → Expr
  | 0, operand => operand
  | count + 1, operand => unary op (repeatUnary op count operand)

end Expr

end MappedSql
