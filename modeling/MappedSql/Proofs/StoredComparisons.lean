import MappedSql.Proofs.Phrases
import MappedSql.Proofs.StableFragments

/-!
Values next to columns. A value that is compared with a column, or listed in a membership test of
it, is written as the column writes it when a row holds the value; so a row is found under the
values that were stored in it.
-/

namespace MappedSql

open Outcome

namespace Value

theorem scalar_not_null (policy : LiteralPolicy) (value : Value) (present : value ≠ .null) :
    value.scalarLiteral policy ≠ .ok .null := by
  cases value with
  | null => exact absurd rfl present
  | float width number =>
      by_cases finite : number.isFinite = true <;> simp [scalarLiteral, finite]
  | enumeration known => cases stored : policy.enumAs <;> simp [scalarLiteral, stored]
  | _ => simp [scalarLiteral]

theorem literal_not_null (policy : LiteralPolicy) (value : Value) (present : value ≠ .null) :
    value.literal policy ≠ .ok .null := by
  unfold Value.literal
  split
  · intro written
    obtain ⟨content, _, same⟩ := bind_ok_iff.mp written
    cases same
  · intro written
    obtain ⟨content, _, same⟩ := bind_ok_iff.mp written
    cases same
  · exact scalar_not_null policy _ present

theorem coerce_not_null (known : Enumeration) (storage : EnumStorage) (value : Value)
    (present : value ≠ .null) : known.coerce storage value ≠ .ok .null := by
  intro coerced
  unfold Enumeration.coerce at coerced
  split at coerced
  · split at coerced <;> cases coerced
  · split at coerced
    · split at coerced <;> cases coerced
    · exact present (Except.ok.inj coerced)

theorem literal_beside_not_null (column : Column) (value : Value) (present : value ≠ .null) :
    value.literalBeside (some column) ≠ .ok .null := by
  intro written
  cases kind : column.kind.enumeration? with
  | none =>
      simp only [literalBeside, kind] at written
      exact literal_not_null column.policy value present written
  | some known =>
      simp only [literalBeside, kind] at written
      obtain ⟨coerced, taken, literal⟩ := bind_ok_iff.mp written
      have kept : coerced ≠ .null := fun null =>
        coerce_not_null known column.enumAs value present (null ▸ taken)
      exact literal_not_null column.policy coerced kept literal

end Value

namespace Column

def Holds (column : Column) (value : Value) : Prop :=
  ∀ known, column.kind.enumeration? = some known → ∃ variant, value = .enumeration ⟨known, variant⟩

theorem read_stored (column : Column) (plain : column.autoGenerate = false) (record : Record)
    (value : Value) (stored : record.find? column.member = some (.ok value)) :
    column.read record = .ok (.stored value) := by
  have present : record.read? column.member = .ok (some value) := by rw [Record.read?, stored]
  rw [read, present]
  simp only [bind, Except.bind, plain]
  rfl

theorem literal_stored (column : Column) (plain : column.autoGenerate = false) (record : Record)
    (value : Value) (stored : record.find? column.member = some (.ok value)) :
    column.literal record = value.literal column.policy := by
  rw [literal, column.read_stored plain record value stored]
  rfl

-- A value of the enumeration is no integer and no text, so it is not looked up again.
theorem beside_stored (column : Column) (plain : column.autoGenerate = false) (record : Record)
    (value : Value) (holds : column.Holds value)
    (stored : record.find? column.member = some (.ok value)) :
    value.literalBeside (some column) = column.literal record := by
  rw [column.literal_stored plain record value stored, Value.literalBeside]
  cases kind : column.kind.enumeration? with
  | none => rfl
  | some known =>
      obtain ⟨variant, rfl⟩ := holds known kind
      rfl

def comparedText (column : Column) (value : Value) : Except Fault String :=
  (value.literalBeside (some column)).map Literal.render

end Column

namespace Fragment

theorem literal_reads_null (literal : Literal) (sound : literal.Sound)
    (present : literal ≠ .null) : (Fragment.literal literal).readsNull = false := by
  rw [← Bool.not_eq_true]
  intro null
  have leaf : Phrase.leaf literal.leaf = .leaf .null :=
    (reads_null_iff (.literal literal) _ sound (literal_atom literal sound)).mp null
  cases literal with
  | null => exact present rfl
  | float width value =>
      cases value with
      | finite negative significand exponent => cases leaf
      | _ => cases sound
  | _ => cases leaf

-- The point behind the alias is in no null literal.
theorem column_reads_null (aliasName name : String) : (column aliasName name).readsNull = false := by
  rw [readsNull, beq_eq_false_iff_ne, render_column]
  intro same
  have point : '.' ∈ (aliasName ++ "." ++ Identifier.bracketed name).toList := by simp
  rw [same] at point
  exact absurd point (by decide)

theorem combine_operation (op : SqlOperator) (left right : Fragment)
    (first : left.readsNull = false) (second : right.readsNull = false) :
    combine op left right = operation op left right := by
  cases op <;> simp [combine, first, second]

end Fragment

namespace Expr

theorem comparison_spelled (op : BinaryOperator) (comparison : op.isComparison = true) :
    ∃ sign, op.sql? = some sign := by
  cases op <;> first | exact ⟨_, rfl⟩ | cases comparison

inductive ReadsColumn (aliases : Aliases) (participant : Participant) (column : Column) :
    Expr → Prop where
  | member {type other name : String} :
      aliases.find? type = some participant →
      participant.table.columnOfMember? name = some column →
      ReadsColumn aliases participant column (member (some type) (row other) name)
  | convert {expr : Expr} : ReadsColumn aliases participant column expr →
      ReadsColumn aliases participant column (unary .convert expr)

/-- The expression gives the value: as a constant, or as a captured member of a record that an
expression gives, whatever changes of type are round it. -/
inductive Gives : Value → Expr → Prop where
  | constant (value : Value) : Gives value (constant value)
  | captured {type name : String} {members : List (String × Except String Value)} {value : Value}
      {declaring : Option String} {source : Expr} :
      Gives (.record type members) source → Record.find? ⟨type, members⟩ name = some (.ok value) →
      Gives value (member declaring source name)
  | convert {value : Value} {expr : Expr} : Gives value expr → Gives value (unary .convert expr)

section Columns

variable {scope : Scope} {participant : Participant} {column : Column} {expr : Expr}
  (reads : ReadsColumn scope.aliases participant column expr)

include reads

theorem reads_column_lower (beside : Option Column) :
    expr.lower scope beside = .ok (.column participant.aliasName column.name) := by
  induction reads with
  | member found mapped =>
      rw [lower, columnOf]
      simp only [found, mapped]
      rfl
  | convert _ ih => rw [lower, ih]

theorem reads_column_policy : expr.columnBeside scope.aliases = some column := by
  induction reads with
  | member found mapped => simp only [columnBeside, columnOf, found, mapped]
  | convert _ ih => rw [columnBeside, ih]

end Columns

section Values

variable {value : Value} {expr : Expr} (gives : Gives value expr)

include gives

-- A row gives no value, so what is captured is no column.
theorem gives_no_column (aliases : Aliases) : columnOf aliases expr = .ok none := by
  cases gives with
  | constant => rfl
  | convert _ => rfl
  | captured held _ => cases held <;> simp [columnOf]

theorem gives_evaluate : expr.evaluate = .ok value := by
  induction gives with
  | constant value => rfl
  | captured _ held ih =>
      rw [evaluate, ih]
      simp only [bind, Except.bind, Record.read?, held]
      rfl
  | convert _ ih => rw [evaluate, ih]

theorem gives_lower (scope : Scope) (beside : Option Column) :
    expr.lower scope beside = (value.literalBeside beside).map .literal := by
  induction gives with
  | constant value => rw [lower]
  | captured source held _ =>
      rw [lower, gives_no_column (.captured source held), gives_evaluate (.captured source held)]
      rfl
  | convert _ ih => rw [lower, ih]

end Values

section Comparisons

variable {scope : Scope} {participant : Participant} {column : Column} {reader : Expr}
  (reads : ReadsColumn scope.aliases participant column reader)

include reads

-- The other side is written by the policy of the column, so the value is too.
theorem comparison_lower {giver : Expr} {value : Value} (gives : Gives value giver)
    (op : BinaryOperator) (sign : SqlOperator) (spelled : op.sql? = some sign)
    (beside : Option Column) :
    (binary op reader giver).lower scope beside =
        (value.literalBeside (some column)).map (fun literal =>
          .combine sign (.column participant.aliasName column.name) (.literal literal)) ∧
      (binary op giver reader).lower scope beside =
        (value.literalBeside (some column)).map fun literal =>
          .combine sign (.literal literal) (.column participant.aliasName column.name) := by
  rw [lower, lower]
  simp only [spelled, reads_column_lower reads, reads_column_policy reads, gives_lower gives]
  cases value.literalBeside (some column) <;> exact ⟨rfl, rfl⟩

theorem membership_lower {collection : Expr} {items : List Value}
    (given : Gives (.list items) collection) {receiver : Option Expr} {arguments : List Expr}
    (operands : TestsMembership receiver arguments collection reader) (beside : Option Column) :
    (call "Contains" receiver arguments).lower scope beside =
      (items.mapM (Value.literalBeside · (some column))).map
        (membershipTest (.column participant.aliasName column.name)) := by
  cases operands <;>
    simp only [lower, reads_column_lower reads, containsTest, reads_column_policy reads,
      collectionLiterals, gives_evaluate given] <;> rfl

-- A null literal would make a null test of an equality; a stored value makes none.
theorem column_compared {giver : Expr} {value : Value} (gives : Gives value giver)
    (present : value ≠ .null) (op : BinaryOperator) (sign : SqlOperator)
    (spelled : op.sql? = some sign) (beside : Option Column) :
    ((binary op reader giver).lower scope beside).map Fragment.render =
        (column.comparedText value).map (fun literal =>
          "(" ++ participant.columnText column ++ " " ++ sign.text ++ " " ++ literal ++ ")") ∧
      ((binary op giver reader).lower scope beside).map Fragment.render =
        (column.comparedText value).map (fun literal =>
          "(" ++ literal ++ " " ++ sign.text ++ " " ++ participant.columnText column ++ ")") := by
  obtain ⟨first, last⟩ := comparison_lower reads gives op sign spelled beside
  rw [first, last, Column.comparedText]
  cases written : value.literalBeside (some column) with
  | error fault => exact ⟨rfl, rfl⟩
  | ok literal =>
      have noColumn := Fragment.column_reads_null participant.aliasName column.name
      have noNull := Fragment.literal_reads_null literal
        (value.literal_beside_sound (some column) literal written)
        fun null => value.literal_beside_not_null column present (null ▸ written)
      constructor
      · simp only [Except.map, Fragment.combine_operation sign _ _ noColumn noNull]
        rfl
      · simp only [Except.map, Fragment.combine_operation sign _ _ noNull noColumn]
        rfl

theorem column_tested {collection : Expr} {items : List Value} (given : Gives (.list items) collection)
    {receiver : Option Expr} {arguments : List Expr}
    (operands : TestsMembership receiver arguments collection reader) (beside : Option Column) :
    ((call "Contains" receiver arguments).lower scope beside).map Fragment.render =
      (items.mapM column.comparedText).map fun texts =>
        if texts.isEmpty then "(1=0)"
        else participant.columnText column ++ " IN (" ++ ",".intercalate texts ++ ")" := by
  have texts : items.mapM column.comparedText =
      (items.mapM (Value.literalBeside · (some column))).map (List.map Literal.render) :=
    (mapM_map items _ Literal.render).symm
  rw [membership_lower reads given operands, texts]
  cases items.mapM (Value.literalBeside · (some column)) with
  | error fault => rfl
  | ok literals => cases literals <;> rfl

end Comparisons

/-- A value is compared as it is stored: beside a column on either side of a comparison, as an item
of a membership test of the column, as a constant or captured, and behind any changes of type, it is
written as the column writes it for a record that holds it, or it is refused as the record is. -/
theorem compared_as_stored (scope : Scope) (participant : Participant) (column : Column)
    (reader : Expr) (reads : ReadsColumn scope.aliases participant column reader)
    (plain : column.autoGenerate = false) (value : Value) (present : value ≠ .null)
    (holds : column.Holds value) (record : Record)
    (stored : record.find? column.member = some (.ok value)) (beside : Option Column) :
    (∀ giver, Gives value giver → ∀ op : BinaryOperator, op.isComparison = true →
      ∃ sign, op.sql? = some sign ∧
        ((binary op reader giver).lower scope beside).map Fragment.render =
          (column.render record).map (fun literal =>
            "(" ++ participant.columnText column ++ " " ++ sign.text ++ " " ++ literal ++ ")") ∧
        ((binary op giver reader).lower scope beside).map Fragment.render =
          (column.render record).map (fun literal =>
            "(" ++ literal ++ " " ++ sign.text ++ " " ++ participant.columnText column ++ ")")) ∧
      ∀ earlier later collection receiver arguments,
        Gives (.list (earlier ++ value :: later)) collection →
        TestsMembership receiver arguments collection reader →
        ((call "Contains" receiver arguments).lower scope beside).map Fragment.render = do
          let before ← earlier.mapM column.comparedText
          let own ← column.render record
          let after ← later.mapM column.comparedText
          return participant.columnText column ++ " IN (" ++
            ",".intercalate (before ++ own :: after) ++ ")" := by
  have same : column.comparedText value = column.render record := by
    rw [Column.comparedText, column.beside_stored plain record value holds stored]
    rfl
  constructor
  · intro giver gives op comparison
    obtain ⟨sign, spelled⟩ := comparison_spelled op comparison
    refine ⟨sign, spelled, ?_⟩
    rw [← same]
    exact column_compared reads gives present op sign spelled beside
  · intro earlier later collection receiver arguments given operands
    rw [column_tested reads given operands, List.mapM_append, List.mapM_cons, same]
    cases earlier.mapM column.comparedText with
    | error fault => rfl
    | ok before =>
        cases column.render record with
        | error fault => rfl
        | ok own =>
            cases later.mapM column.comparedText with
            | error fault => rfl
            | ok after => cases before <;> rfl

def capturedStatus : Expr :=
  unary .convert (member none
    (constant (.record "Request" [("wanted", .ok (.enumeration ⟨Sample.status, ⟨"Inactive", 2⟩⟩))]))
    "wanted")

def ofPalettes : Aliases :=
  Aliases.empty.run [⟨⟨"Palette", Sample.palette⟩, true⟩]

/-- The statuses of palettes are stored by name; an integer beside them is taken as a status. -/
theorem captured_status_compared :
    ((binary .notEqual capturedStatus
        (unary .convert (column "Palette" "both"))).lower ⟨ofPalettes, false⟩ none).map
          Fragment.render = .ok "('Inactive' <> t0.[Both])" ∧
      ((contains (constant (.list [.integer .int32 1,
          .enumeration ⟨Sample.status, ⟨"Inactive", 2⟩⟩]))
        (unary .convert (column "Palette" "both"))).lower ⟨ofPalettes, false⟩ none).map
          Fragment.render = .ok "t0.[Both] IN ('Active','Inactive')" := by
  have compared := compared_as_stored ⟨ofPalettes, false⟩ _ _
    (unary .convert (column "Palette" "both")) (.convert (.member rfl rfl)) rfl
    (.enumeration ⟨Sample.status, ⟨"Inactive", 2⟩⟩) Value.noConfusion
    (fun _ known => Option.some.inj known ▸ ⟨_, rfl⟩)
    ⟨"Palette", [("both", .ok (.enumeration ⟨Sample.status, ⟨"Inactive", 2⟩⟩))]⟩ rfl none
  obtain ⟨sign, spelled, _, mirrored⟩ :=
    compared.1 capturedStatus (.convert (.captured (.constant _) rfl)) .notEqual rfl
  cases spelled
  exact ⟨mirrored.trans rfl,
    (compared.2 [.integer .int32 1] [] _ _ _ (.constant _) (.method _ _)).trans rfl⟩

end Expr

end MappedSql
