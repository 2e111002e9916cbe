import MappedSql.Text.Basic

/-!
Why a mapping is refused or a statement cannot be written. Each constructor of `Fault` is one
cause; its category and its wording are functions of it. A message is the label of the category
followed by the wording.
-/

namespace MappedSql

inductive Category where
  | schema
  | configuration
  | unsupportedType
  | unsupportedExpression
  | missingOperand
  | invalidOperation
  | argument
  | invariantViolation
  | settings
  deriving DecidableEq, Repr

namespace Category

def label : Category → String
  | schema => "Schema error: "
  | configuration => "Configuration error: "
  | unsupportedType => "Unsupported type: "
  | unsupportedExpression => "Unsupported expression: "
  | missingOperand => "Missing operand: "
  | invalidOperation => "Invalid operation: "
  | argument => "Invalid argument: "
  | invariantViolation => "Invariant violation: "
  | settings => "Config error: "

def isUnsupported : Category → Bool
  | unsupportedType | unsupportedExpression => true
  | _ => false

def message (category : Category) (wording : String) : String :=
  category.label ++ wording

instance : Vocabulary Category where
  all := [schema, configuration, unsupportedType, unsupportedExpression, missingOperand,
    invalidOperation, argument, invariantViolation, settings]
  name
    | schema => "Schema"
    | configuration => "Configuration"
    | unsupportedType => "UnsupportedType"
    | unsupportedExpression => "UnsupportedExpression"
    | missingOperand => "MissingOperand"
    | invalidOperation => "InvalidOperation"
    | argument => "Argument"
    | invariantViolation => "InvariantViolation"
    | settings => "Config"

end Category

inductive Fault where
  | noTable (type : String)
  | blankTable (type : String)
  | blankSchema (type : String)
  | blankColumn (type member : String)
  | repeatedColumn (type column : String)
  | ungeneratableMember (type member : String)
  | unreadableMember (type member : String)
  | failedDocument (reason : String)
  | noDocument (shape : String)
  | noLiteral (shape : String)
  | nonFinite (number : String)
  | unknownDiscriminant (enumeration : String) (discriminant : Int)
  | unknownVariant (enumeration variant : String)
  | rowAsValue (type : String)
  | unspelledBinary (operator : String)
  | unspelledUnary (operator : String)
  | unknownMethod (method : String)
  | containsArity (count : Nat)
  | containsOver (shape : String)
  | strangerType (type : String)
  | unmappedMember (type member : String)
  | expectedColumn (node : String)
  | noMember (type member : String)
  | memberOfValue (member shape : String)
  | rowInChain (type : String)
  | unfoldable (node : String)
  | noOperand (operator : String)
  | noLeftOperand (operator : String)
  | noRightOperand (operator : String)
  | extraOperand (operator : String)
  | emptyCondition
  | blankIdentifier
  | nulInIdentifier
  | blankSubQuery
  | selfJoin (type : String)
  | joinWithoutCondition (table : String)
  | assignToSelf (target source : String)
  | notTarget (type : String)
  | notJoined (type : String)
  | strangerTarget (column type : String)
  | projectionLocked
  | nothingToInsert (table : String)
  | nothingToUpdate (table : String)
  | noInsertableColumn (table : String)
  | noUpdatableColumn (table : String)
  | noAssignment (table : String)
  | unguardedDelete (table : String)
  | mergeWithoutKey (table : String)
  | unguardedRow (table : String)
  | noTargetTable
  | notRegistered (type : String)
  | malformedSettings
  deriving DecidableEq, Repr

namespace Fault

def category : Fault → Category
  | noTable .. | blankTable .. | blankSchema .. | blankColumn .. | repeatedColumn ..
  | unreadableMember .. => .schema
  | ungeneratableMember .. => .configuration
  | failedDocument .. | noDocument .. | noLiteral .. | nonFinite .. | unknownDiscriminant ..
  | unknownVariant .. => .unsupportedType
  | rowAsValue .. | unspelledBinary .. | unspelledUnary .. | unknownMethod .. | containsArity ..
  | containsOver .. | strangerType .. | unmappedMember .. | expectedColumn .. | noMember ..
  | memberOfValue .. | rowInChain .. | unfoldable .. => .unsupportedExpression
  | noOperand .. | noLeftOperand .. | noRightOperand .. | emptyCondition => .missingOperand
  | extraOperand .. | blankIdentifier | nulInIdentifier | blankSubQuery | selfJoin ..
  | joinWithoutCondition .. | assignToSelf .. | notTarget .. | notJoined ..
  | strangerTarget .. => .argument
  | projectionLocked | nothingToInsert .. | nothingToUpdate .. | noInsertableColumn ..
  | noUpdatableColumn .. | noAssignment .. | unguardedDelete .. | mergeWithoutKey ..
  | unguardedRow .. => .invalidOperation
  | noTargetTable | notRegistered .. => .invariantViolation
  | malformedSettings => .settings

def wording : Fault → String
  | noTable type => s!"type `{type}` has no table mapping"
  | blankTable type => s!"type `{type}` maps to a blank table name"
  | blankSchema type => s!"type `{type}` maps to a blank schema name"
  | blankColumn type member => s!"member `{type}.{member}` maps to a blank column name"
  | repeatedColumn type column => s!"column `{column}` is mapped more than once on `{type}`"
  | ungeneratableMember type member =>
      s!"member `{type}.{member}` is marked auto_generate but is not a GUID or timestamp"
  | unreadableMember type member => s!"member `{member}` cannot be read from `{type}`"
  | failedDocument reason => s!"JSON serialization failed: {reason}"
  | noDocument shape => s!"{shape} values cannot be serialized as JSON"
  | noLiteral shape => s!"cannot render a {shape} value as a SQL literal"
  | nonFinite number => s!"non-finite float {number} has no SQL literal"
  | unknownDiscriminant enumeration discriminant =>
      s!"`{enumeration}` has no variant with discriminant {discriminant}"
  | unknownVariant enumeration variant => s!"`{enumeration}` has no variant named `{variant}`"
  | rowAsValue type => s!"parameter `{type}` used as a value; select one of its members"
  | unspelledBinary operator => s!"binary operator {operator}"
  | unspelledUnary operator => s!"unary operator {operator}"
  | unknownMethod method => s!"method call `{method}`"
  | containsArity count => s!"`Contains` with {count} argument(s)"
  | containsOver shape => s!"`Contains` over a {shape} value"
  | strangerType type => s!"type `{type}` is not part of this statement"
  | unmappedMember type member => s!"member `{type}.{member}` is not mapped to a column"
  | expectedColumn node => s!"expected a column of a lambda parameter, found a {node}"
  | noMember type member => s!"`{type}` has no member `{member}`"
  | memberOfValue member shape => s!"member `{member}` read from a {shape} value"
  | rowInChain type => s!"member chain rooted at parameter `{type}` cannot be folded"
  | unfoldable node => s!"cannot fold a {node} node into a value"
  | noOperand operator => s!"{operator} requires an operand"
  | noLeftOperand operator => s!"{operator} requires a left operand"
  | noRightOperand operator => s!"{operator} requires a right operand"
  | extraOperand operator => s!"{operator} takes exactly one operand"
  | emptyCondition => "empty condition"
  | blankIdentifier => "Identifier cannot be empty"
  | nulInIdentifier => "Identifier cannot contain NUL character"
  | blankSubQuery => "Sub-query text cannot be empty"
  | selfJoin type =>
      s!"cannot join `{type}` to itself; the two sides must be different types"
  | joinWithoutCondition table => s!"join to `{table}` needs an ON condition"
  | assignToSelf target source => s!"`{target}` must be different from `{source}`"
  | notTarget type => s!"`{type}` should have been added with `into_table()`"
  | notJoined type => s!"`{type}` should have been added with a join"
  | strangerTarget column type => s!"SET target `{column}` is not a column of `{type}`"
  | projectionLocked => "column selection has already been set to `*` (all columns)"
  | nothingToInsert table => s!"no rows were added to the INSERT into {table}"
  | nothingToUpdate table => s!"no rows were added to the UPDATE of {table}"
  | noInsertableColumn table => s!"{table} has no insertable columns"
  | noUpdatableColumn table => s!"{table} has no updatable columns"
  | noAssignment table => s!"no SET mappings were added to the UPDATE of {table}"
  | unguardedDelete table =>
      s!"DELETE from {table} has no WHERE conditions; call allow_delete_all(true) to delete every row"
  | mergeWithoutKey table => s!"MERGE into {table} needs a primary key"
  | unguardedRow table =>
      s!"{table} has no primary key and no conditions were given; the statement would affect every row"
  | noTargetTable => "no primary table has been registered"
  | notRegistered type => s!"`{type}` was not registered"
  | malformedSettings => "the settings document cannot be read"

def message (fault : Fault) : String :=
  fault.category.message fault.wording

end Fault

end MappedSql
