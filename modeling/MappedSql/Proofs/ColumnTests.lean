import MappedSql.Proofs.StoredComparisons

/-!
What tests of columns read as. A comparison of a column with a value, on either side, and a
membership of it in a list of values compile just when literals can be written beside the column for
the values, and the text reads as the test of the column against what the literals read as.
-/

namespace MappedSql

open Outcome Precedence

def Participant.columnPhrase (participant : Participant) (column : Column) : Phrase :=
  .column participant.aliasName.toList column.name.toList

namespace Expr

theorem predicate_text_parsed (scope : Scope) (reached : scope.aliases.Reached) (expr : Expr)
    (predicate : expr.isPredicate = true) (text : String) (compiled : expr.compile scope = .ok text) :
    ∃ phrase, expr.phrase? scope.aliases none = some phrase ∧ Phrase.parse text = some phrase := by
  obtain ⟨fragment, lowers, _, _, read⟩ := compile_tokens scope reached expr text compiled
  obtain ⟨phrase, tree, spelled⟩ :=
    (lowers_spelled scope reached expr none fragment lowers).2 predicate
  refine ⟨phrase, tree, ?_⟩
  rw [Phrase.parse, read, Option.bind_some]
  exact run_complete phrase _ (spelled_looser _ _ _ _ (Nat.zero_le _) spelled)

/-- The expression compiles just when something can be written in it, and its text reads as the
phrase of what is. -/
structure Compiles {α : Type} (scope : Scope) (expr : Expr) (written : α → Prop)
    (phrase : α → Phrase) : Prop where
  accepted : (∃ text, expr.compile scope = .ok text) ↔ ∃ what, written what
  read : ∀ text, expr.compile scope = .ok text →
    ∃ what, written what ∧ Phrase.parse text = some (phrase what)

theorem Compiles.congr {α : Type} {scope : Scope} {expr : Expr} {written other : α → Prop}
    {phrase : α → Phrase} (compiles : expr.Compiles scope written phrase)
    (same : ∀ what, written what ↔ other what) : expr.Compiles scope other phrase := by
  obtain rfl : written = other := funext fun what => propext (same what)
  exact compiles

theorem compiles_of_lower {α : Type} (scope : Scope) (reached : scope.aliases.Reached) (expr : Expr)
    (predicate : expr.isPredicate = true) (made : Except Fault α) (fragment : α → Fragment)
    (phrase : α → Phrase) (lowered : expr.lower scope none = made.map fragment)
    (tree : ∀ what, made = .ok what → expr.phrase? scope.aliases none = some (phrase what)) :
    expr.Compiles scope (fun what => made = .ok what) phrase where
  accepted := by
    rw [compile, lowered]
    cases made with
    | error fault => simp [Except.map]
    | ok what => simp [Except.map]
  read := by
    intro text compiled
    obtain ⟨phrase, same, parsed⟩ := predicate_text_parsed scope reached expr predicate text compiled
    rw [compile, lowered] at compiled
    obtain ⟨_, part, _⟩ := map_ok_iff.mp compiled
    obtain ⟨what, written, _⟩ := map_ok_iff.mp part
    rw [tree what written] at same
    exact ⟨what, written, Option.some.inj same ▸ parsed⟩

section Values

variable {value : Value} {giver : Expr} (gives : Gives value giver)

include gives

theorem gives_scalar : giver.isScalar = true := by
  induction gives with
  | constant _ => rfl
  | captured _ _ _ => rfl
  | convert _ ih => simpa [isScalar] using ih

theorem gives_phrase (aliases : Aliases) (beside : Option Column) :
    giver.phrase? aliases beside = leaf? value beside := by
  induction gives with
  | constant value => rw [phrase?]
  | captured source held _ =>
      rw [phrase?, gives_no_column (.captured source held),
        gives_evaluate (.captured source held)]
      rfl
  | convert _ ih => rw [phrase?, ih]

end Values

section Columns

variable {aliases : Aliases} {participant : Participant} {column : Column} {reader : Expr}
  (reads : ReadsColumn aliases participant column reader)

include reads

theorem reads_column_scalar : reader.isScalar = true := by
  induction reads with
  | member _ _ => rfl
  | convert _ ih => simpa [isScalar] using ih

theorem reads_column_beside : reader.columnBeside aliases = some column :=
  @reads_column_policy ⟨aliases, false⟩ _ _ _ reads

theorem reads_column_phrase (beside : Option Column) :
    reader.phrase? aliases beside = some (participant.columnPhrase column) := by
  induction reads generalizing beside with
  | member found mapped =>
      simp [phrase?, columnOf, found, mapped, Except.toOption, Participant.columnPhrase]
  | convert _ ih => rw [phrase?, ih]

theorem comparison_phrase {giver : Expr} {value : Value} (gives : Gives value giver)
    (op : BinaryOperator) (sign : SqlOperator) (spelled : op.sql? = some sign) (literal : Literal)
    (written : value.literalBeside (some column) = .ok literal) :
    (binary op reader giver).phrase? aliases none =
        some (.combine sign (participant.columnPhrase column) (.leaf literal.leaf)) ∧
      (binary op giver reader).phrase? aliases none =
        some (.combine sign (.leaf literal.leaf) (participant.columnPhrase column)) := by
  have policy := reads_column_beside reads
  simp [phrase?, spelled, reads_column_phrase reads, policy, gives_phrase gives,
    leaf_of_literal value (some column) literal written]

theorem membership_phrase {collection : Expr} {items : List Value}
    (given : Gives (.list items) collection) {receiver : Option Expr} {arguments : List Expr}
    (operands : TestsMembership receiver arguments collection reader) (literals : List Literal)
    (written : items.mapM (Value.literalBeside · (some column)) = .ok literals) :
    (call "Contains" receiver arguments).phrase? aliases none =
      some (.memberOf (participant.columnPhrase column) literals) := by
  have policy := reads_column_beside reads
  have collected : collectionLiterals (some column) collection = .ok literals := by
    rw [collectionLiterals, gives_evaluate given]
    exact written
  cases operands <;>
    simp [phrase?, reads_column_phrase reads, policy, collected, Except.toOption]

end Columns

section Tests

variable {scope : Scope} (reached : scope.aliases.Reached) {participant : Participant}
  {column : Column} {reader : Expr} (reads : ReadsColumn scope.aliases participant column reader)

include reached reads

theorem comparison_compiles {giver : Expr} {value : Value} (gives : Gives value giver)
    (op : BinaryOperator) (comparison : op.isComparison = true) (sign : SqlOperator)
    (spelled : op.sql? = some sign) :
    (binary op reader giver).Compiles scope
        (fun literal => value.literalBeside (some column) = .ok literal)
        (fun literal => .combine sign (participant.columnPhrase column) (.leaf literal.leaf)) ∧
      (binary op giver reader).Compiles scope
        (fun literal => value.literalBeside (some column) = .ok literal)
        fun literal => .combine sign (.leaf literal.leaf) (participant.columnPhrase column) := by
  have scalar := reads_column_scalar reads
  have given := gives_scalar gives
  have lowered := comparison_lower reads gives op sign spelled none
  have tree := comparison_phrase reads gives op sign spelled
  constructor
  · exact compiles_of_lower scope reached _ (by simp [isPredicate, comparison, scalar, given]) _ _ _
      lowered.1 fun literal written => (tree literal written).1
  · exact compiles_of_lower scope reached _ (by simp [isPredicate, comparison, scalar, given]) _ _ _
      lowered.2 fun literal written => (tree literal written).2

theorem membership_compiles {collection : Expr} {items : List Value}
    (given : Gives (.list items) collection) {receiver : Option Expr} {arguments : List Expr}
    (operands : TestsMembership receiver arguments collection reader) :
    (call "Contains" receiver arguments).Compiles scope
      (fun literals => items.mapM (Value.literalBeside · (some column)) = .ok literals)
      (.memberOf (participant.columnPhrase column)) := by
  have predicate : (call "Contains" receiver arguments).isPredicate = true := by
    cases operands <;> simp [isPredicate, reads_column_scalar reads]
  exact compiles_of_lower scope reached _ predicate _ _ _ (membership_lower reads given operands none)
    (membership_phrase reads given operands)

end Tests

end Expr

end MappedSql
