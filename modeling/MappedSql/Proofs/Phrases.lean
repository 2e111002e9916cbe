import MappedSql.Proofs.Precedence

/-!
What a reader makes of the text of an expression. Scalars and predicates have a tree of their own,
which knows nothing of brackets, and the text that they are written as is read as just that tree.
-/

namespace MappedSql

open Lexer Precedence

namespace Phrase

/-- A binary operation, where equality with null is a null test. -/
def combine (op : SqlOperator) (left right : Phrase) : Phrase :=
  match op with
  | .equal =>
      if right = leaf .null then isNull left
      else if left = leaf .null then isNull right
      else operation op left right
  | .notEqual =>
      if right = leaf .null then isNotNull left
      else if left = leaf .null then isNotNull right
      else operation op left right
  | _ => operation op left right

/-- `1=0`, which is what membership of an empty collection comes to. -/
def never : Phrase :=
  operation .equal (leaf (.number false ['1'])) (leaf (.number false ['0']))

def memberOf (element : Phrase) : List Literal → Phrase
  | [] => never
  | items => membership element (items.map Literal.leaf)

end Phrase

namespace Expr

mutual

def isScalar : Expr → Bool
  | constant _ | member .. => true
  | binary op left right => op.isArithmetic && left.isScalar && right.isScalar
  | unary .negate operand | unary .convert operand => operand.isScalar
  | conditional test whenTrue whenFalse =>
      test.isPredicate && whenTrue.isScalar && whenFalse.isScalar
  | _ => false

def isPredicate : Expr → Bool
  | binary op left right =>
      (op.isComparison && left.isScalar && right.isScalar) ||
        (op.isConnective && left.isPredicate && right.isPredicate)
  | unary .not operand | unary .convert operand => operand.isPredicate
  | call "Contains" (some _) [element] => element.isScalar
  | call "Contains" none [_, element] => element.isScalar
  | _ => false

end

def leaf? (value : Value) (beside : Option Column) : Option Phrase :=
  (value.literalBeside beside).toOption.map fun literal => .leaf literal.leaf

def phrase? (aliases : Aliases) : Expr → Option Column → Option Phrase
  | constant value, beside => leaf? value beside
  | member declaring source name, beside => do
      match ← (columnOf aliases (member declaring source name)).toOption with
      | some reference =>
          return .column reference.participant.aliasName.toList reference.column.name.toList
      | none => leaf? (← (evaluate (member declaring source name)).toOption) beside
  | binary op left right, _ => do
      return .combine (← op.sql?) (← phrase? aliases left (right.columnBeside aliases))
        (← phrase? aliases right (left.columnBeside aliases))
  | unary .negate operand, beside => do
      return .negation (← phrase? aliases operand beside)
  | unary .not operand, _ => do
      return .complement (← phrase? aliases operand none)
  | unary .convert operand, beside => phrase? aliases operand beside
  | conditional test whenTrue whenFalse, beside => do
      return .choice (← phrase? aliases test none) (← phrase? aliases whenTrue beside)
        (← phrase? aliases whenFalse beside)
  | call "Contains" (some collection) [element], _ => do
      return .memberOf (← phrase? aliases element none)
        (← (collectionLiterals (element.columnBeside aliases) collection).toOption)
  | call "Contains" none [collection, element], _ => do
      return .memberOf (← phrase? aliases element none)
        (← (collectionLiterals (element.columnBeside aliases) collection).toOption)
  | _, _ => none

end Expr

namespace Precedence

theorem spelled_looser (tight loose : Nat) (phrase : Phrase) (lexemes : List Lexeme)
    (order : loose ≤ tight) (spelled : Spells tight phrase lexemes) :
    Spells loose phrase lexemes := by
  cases spelled with
  | column free => exact .column free
  | leaf => exact .leaf
  | operation fits left right => exact .operation (Nat.le_trans order fits) left right
  | isNull fits operand => exact .isNull (Nat.le_trans order fits) operand
  | isNotNull fits operand => exact .isNotNull (Nat.le_trans order fits) operand
  | negation fits operand noNumber => exact .negation (Nat.le_trans order fits) operand noNumber
  | complement fits operand => exact .complement (Nat.le_trans order fits) operand
  | choice test whenTrue whenFalse => exact .choice test whenTrue whenFalse
  | membership fits element present => exact .membership (Nat.le_trans order fits) element present
  | brackets inner => exact .brackets inner

end Precedence

theorem Aliases.numbered_free (count : Nat) : (numbered count).toList ∉ reserved := by
  have first : (numbered count).toList.head? = some 't' := by
    simp [numbered]
  have others : reserved.all (fun word => word.head? != some 't') = true := rfl
  intro member
  have other := List.all_eq_true.mp others _ member
  simp [first] at other

namespace Fragment

/-- A scalar can be any operand as it stands, and only the null literal reads as null. -/
structure Atom (fragment : Fragment) (phrase : Phrase) : Prop where
  spelled : ∀ level, Spells level phrase fragment.tokens
  null : phrase = .leaf .null → fragment.readsNull = true

theorem reads_null_iff (fragment : Fragment) (phrase : Phrase) (sound : fragment.Sound)
    (atom : fragment.Atom phrase) : fragment.readsNull = true ↔ phrase = .leaf .null := by
  refine ⟨fun null => ?_, atom.null⟩
  have text : fragment.render = "NULL" := by simpa [readsNull] using null
  have read := fragment.tokenize_render sound
  rw [text] at read
  have lexemes : fragment.tokens = [keyword "NULL"] := (Option.some.inj read).symm
  have phraseRead := run_complete phrase _ (atom.spelled 0)
  rw [lexemes] at phraseRead
  exact (Option.some.inj phraseRead).symm

theorem literal_atom (literal : Literal) (sound : literal.Sound) :
    (Fragment.literal literal).Atom (.leaf literal.leaf) := by
  refine ⟨fun _ => .leaf, fun null => ?_⟩
  cases literal with
  | null => rfl
  | float width value =>
      cases value with
      | finite negative significand exponent => simp [Literal.leaf] at null
      | _ => simp [Literal.Sound, Number.Binary.isFinite] at sound
  | _ => simp [Literal.leaf] at null

theorem column_atom (count : Nat) (name : String) :
    (column (Aliases.numbered count) name).Atom
      (.column (Aliases.numbered count).toList name.toList) :=
  ⟨fun _ => .column (Aliases.numbered_free count), fun null => by contradiction⟩

theorem negation_atom (operand : Fragment) (phrase : Phrase) (atom : operand.Atom phrase) :
    (negation operand).Atom (.negation phrase) := by
  refine ⟨fun level => ?_, fun null => by contradiction⟩
  have inner : Spells negationLevel phrase _ := .brackets (atom.spelled 0)
  have signed := Spells.negation (Nat.zero_le negationLevel) inner rfl
  have whole : Spells level (.negation phrase) _ := .brackets signed
  simpa [tokens] using whole

theorem choice_atom (test whenTrue whenFalse : Fragment) (first second third : Phrase)
    (testSpelled : Spells 0 first test.tokens) (trueAtom : whenTrue.Atom second)
    (falseAtom : whenFalse.Atom third) :
    (choice test whenTrue whenFalse).Atom (.choice first second third) := by
  refine ⟨fun level => ?_, fun null => by contradiction⟩
  have tested : Spells 0 first _ := .brackets testSpelled
  have whole : Spells level (.choice first second third) _ :=
    .choice tested (trueAtom.spelled 0) (falseAtom.spelled 0)
  simpa [tokens] using whole

theorem operation_spelled (level : Nat) (op : SqlOperator) (left right : Fragment)
    (first second : Phrase) (leftSpelled : Spells op.level first left.tokens)
    (rightSpelled : Spells (op.level + 1) second right.tokens) :
    Spells level (.operation op first second) (operation op left right).tokens := by
  have bare := Spells.operation (Nat.zero_le op.level) leftSpelled rightSpelled
  have whole : Spells level (.operation op first second) _ := .brackets bare
  simpa [tokens] using whole

theorem operation_atom (op : SqlOperator) (left right : Fragment) (first second : Phrase)
    (leftAtom : left.Atom first) (rightAtom : right.Atom second) :
    (operation op left right).Atom (.operation op first second) :=
  ⟨fun level => operation_spelled level op left right first second (leftAtom.spelled _)
    (rightAtom.spelled _), fun null => by contradiction⟩

theorem is_null_spelled (level : Nat) (operand : Fragment) (phrase : Phrase)
    (atom : operand.Atom phrase) : Spells level (.isNull phrase) (isNull operand).tokens := by
  have test := Spells.isNull (Nat.zero_le testLevel) (atom.spelled testLevel)
  have whole : Spells level (.isNull phrase) _ := .brackets test
  simpa [tokens] using whole

theorem is_not_null_spelled (level : Nat) (operand : Fragment) (phrase : Phrase)
    (atom : operand.Atom phrase) :
    Spells level (.isNotNull phrase) (isNotNull operand).tokens := by
  have test := Spells.isNotNull (Nat.zero_le testLevel) (atom.spelled testLevel)
  have whole : Spells level (.isNotNull phrase) _ := .brackets test
  simpa [tokens] using whole

-- Of two scalars, a fragment is a null test just where the phrase is one.
theorem combine_spelled (level : Nat) (op : SqlOperator) (left right : Fragment)
    (first second : Phrase) (leftSound : left.Sound) (rightSound : right.Sound)
    (leftAtom : left.Atom first) (rightAtom : right.Atom second) :
    Spells level (.combine op first second) (combine op left right).tokens := by
  have leftNull := reads_null_iff left first leftSound leftAtom
  have rightNull := reads_null_iff right second rightSound rightAtom
  have plain := operation_spelled level op left right first second (leftAtom.spelled _)
    (rightAtom.spelled _)
  cases op with
  | equal =>
      simp only [Phrase.combine, combine, leftNull, rightNull]
      split
      · exact is_null_spelled level left first leftAtom
      · split
        · exact is_null_spelled level right second rightAtom
        · exact plain
  | notEqual =>
      simp only [Phrase.combine, combine, leftNull, rightNull]
      split
      · exact is_not_null_spelled level left first leftAtom
      · split
        · exact is_not_null_spelled level right second rightAtom
        · exact plain
  | _ => exact plain

theorem membership_test_spelled (element : Fragment) (phrase : Phrase) (literals : List Literal)
    (atom : element.Atom phrase) :
    Spells complementLevel (.memberOf phrase literals)
      (Expr.membershipTest element literals).tokens := by
  cases literals with
  | nil =>
      have one : Spells 4 (.leaf (.number false ['1'])) _ := .leaf
      have zero : Spells 5 (.leaf (.number false ['0'])) _ := .leaf
      have bare : Spells 0 .never _ := .operation (Nat.zero_le _) one zero
      exact .brackets bare
  | cons literal rest =>
      have test : Spells complementLevel (.membership phrase _) _ :=
        .membership (by decide) (atom.spelled testLevel)
          (List.cons_ne_nil literal.leaf (rest.map Literal.leaf))
      simpa [tokens, Expr.membershipTest, Phrase.memberOf, Function.comp_def] using test

end Fragment

namespace Expr

theorem leaf_of_literal (value : Value) (beside : Option Column) (literal : Literal)
    (written : value.literalBeside beside = .ok literal) :
    leaf? value beside = some (.leaf literal.leaf) := by
  simp [leaf?, written, Except.toOption]

theorem arithmetic_operator (op : BinaryOperator) (sql : SqlOperator) (spelled : op.sql? = some sql)
    (arithmetic : op.isArithmetic = true) (left right : Fragment) (first second : Phrase) :
    Fragment.combine sql left right = .operation sql left right ∧
      Phrase.combine sql first second = .operation sql first second := by
  cases op <;> simp [BinaryOperator.isArithmetic] at arithmetic <;>
    (simp only [BinaryOperator.sql?, Option.some.injEq] at spelled; subst spelled; exact ⟨rfl, rfl⟩)

theorem connective_operator (op : BinaryOperator) (sql : SqlOperator) (spelled : op.sql? = some sql)
    (connective : op.isConnective = true) (left right : Fragment) (first second : Phrase) :
    Fragment.combine sql left right = .operation sql left right ∧
      Phrase.combine sql first second = .operation sql first second ∧
      sql.level < complementLevel := by
  cases op <;> simp [BinaryOperator.isConnective] at connective <;>
    (simp only [BinaryOperator.sql?, Option.some.injEq] at spelled; subst spelled
     exact ⟨rfl, rfl, by decide⟩)

def AsScalar (aliases : Aliases) (expr : Expr) (beside : Option Column) (fragment : Fragment) :
    Prop :=
  ∃ phrase, expr.phrase? aliases beside = some phrase ∧ fragment.Atom phrase

def AsPredicate (aliases : Aliases) (expr : Expr) (beside : Option Column) (fragment : Fragment) :
    Prop :=
  ∃ phrase, expr.phrase? aliases beside = some phrase ∧
    Spells complementLevel phrase fragment.tokens

section Operations

variable {aliases : Aliases} {op : BinaryOperator} {sql : SqlOperator} {left right : Expr}
  {first second : Fragment} (spelled : op.sql? = some sql) (beside : Option Column)

include spelled

theorem arithmetic_as_scalar (arithmetic : op.isArithmetic = true)
    (readLeft : left.AsScalar aliases (right.columnBeside aliases) first)
    (readRight : right.AsScalar aliases (left.columnBeside aliases) second) :
    (binary op left right).AsScalar aliases beside (.combine sql first second) := by
  obtain ⟨leftPhrase, leftRead, leftAtom⟩ := readLeft
  obtain ⟨rightPhrase, rightRead, rightAtom⟩ := readRight
  have same := arithmetic_operator op sql spelled arithmetic first second leftPhrase rightPhrase
  refine ⟨.operation sql leftPhrase rightPhrase, ?_, ?_⟩
  · simp [phrase?, spelled, leftRead, rightRead, same.2]
  · rw [same.1]
    exact Fragment.operation_atom sql first second leftPhrase rightPhrase leftAtom rightAtom

theorem comparison_as_predicate (firstSound : first.Sound) (secondSound : second.Sound)
    (readLeft : left.AsScalar aliases (right.columnBeside aliases) first)
    (readRight : right.AsScalar aliases (left.columnBeside aliases) second) :
    (binary op left right).AsPredicate aliases beside (.combine sql first second) := by
  obtain ⟨leftPhrase, leftRead, leftAtom⟩ := readLeft
  obtain ⟨rightPhrase, rightRead, rightAtom⟩ := readRight
  exact ⟨.combine sql leftPhrase rightPhrase, by simp [phrase?, spelled, leftRead, rightRead],
    Fragment.combine_spelled _ sql first second _ _ firstSound secondSound leftAtom rightAtom⟩

theorem connection_as_predicate (connective : op.isConnective = true)
    (readLeft : left.AsPredicate aliases (right.columnBeside aliases) first)
    (readRight : right.AsPredicate aliases (left.columnBeside aliases) second) :
    (binary op left right).AsPredicate aliases beside (.combine sql first second) := by
  obtain ⟨leftPhrase, leftRead, leftSpelled⟩ := readLeft
  obtain ⟨rightPhrase, rightRead, rightSpelled⟩ := readRight
  have same := connective_operator op sql spelled connective first second leftPhrase rightPhrase
  refine ⟨.operation sql leftPhrase rightPhrase, ?_, ?_⟩
  · simp [phrase?, spelled, leftRead, rightRead, same.2.1]
  · rw [same.1]
    exact Fragment.operation_spelled _ sql first second leftPhrase rightPhrase
      (spelled_looser _ _ _ _ (Nat.le_of_lt same.2.2) leftSpelled)
      (spelled_looser _ _ _ _ same.2.2 rightSpelled)

end Operations

theorem contains_as_predicate (aliases : Aliases) (receiver : Option Expr) (arguments : List Expr)
    (collection element : Expr) (beside : Option Column) (part : Fragment) (literals : List Literal)
    (operands : TestsMembership receiver arguments collection element)
    (written : collectionLiterals (element.columnBeside aliases) collection = .ok literals)
    (read : element.AsScalar aliases none part) :
    (call "Contains" receiver arguments).AsPredicate aliases beside
      (membershipTest part literals) := by
  obtain ⟨phrase, tree, atom⟩ := read
  have spelled := Fragment.membership_test_spelled part phrase literals atom
  cases operands with
  | method =>
      exact ⟨.memberOf phrase literals, by simp [phrase?, tree, written, Except.toOption], spelled⟩
  | function =>
      exact ⟨.memberOf phrase literals, by simp [phrase?, tree, written, Except.toOption], spelled⟩

-- The element is the last argument, with or without a receiver.
theorem element_scalar (receiver : Option Expr) (arguments : List Expr) (collection element : Expr)
    (operands : TestsMembership receiver arguments collection element)
    (predicate : (call "Contains" receiver arguments).isPredicate = true) :
    element.isScalar = true := by
  cases operands <;> simpa [isPredicate] using predicate

-- What an expression is written as reads as its phrase: scalars are operands as they stand, and
-- predicates stand wherever NOT can.
theorem lowers_spelled (scope : Scope) (reached : scope.aliases.Reached) (expr : Expr)
    (beside : Option Column) (fragment : Fragment) (lowers : Lowers scope expr beside fragment) :
    (expr.isScalar = true → expr.AsScalar scope.aliases beside fragment) ∧
    (expr.isPredicate = true → expr.AsPredicate scope.aliases beside fragment) := by
  induction lowers with
  | @constant value beside literal written =>
      refine ⟨fun _ => ⟨.leaf literal.leaf, ?_, ?_⟩, fun predicate => by simp [isPredicate] at predicate⟩
      · simpa only [phrase?] using leaf_of_literal value beside literal written
      · exact Fragment.literal_atom literal (Value.literal_beside_sound value beside literal written)
  | @column declaring source name beside reference resolved =>
      refine ⟨fun _ => ?_, fun predicate => by simp [isPredicate] at predicate⟩
      obtain ⟨count, numbered⟩ := column_of_numbered scope.aliases reached _ reference resolved
      refine ⟨.column reference.participant.aliasName.toList reference.column.name.toList, ?_, ?_⟩
      · simp [phrase?, resolved, Except.toOption]
      · rw [numbered]
        exact Fragment.column_atom count reference.column.name
  | @captured declaring source name beside value literal resolved evaluated written =>
      refine ⟨fun _ => ⟨.leaf literal.leaf, ?_, ?_⟩, fun predicate => by simp [isPredicate] at predicate⟩
      · simp [phrase?, resolved, evaluated, Except.toOption,
          leaf_of_literal value beside literal written]
      · exact Fragment.literal_atom literal (Value.literal_beside_sound value beside literal written)
  | @binary op sql left right beside first second spelled leftLowers rightLowers ihLeft ihRight =>
      refine ⟨fun scalar => ?_, fun predicate => ?_⟩
      · simp only [isScalar, Bool.and_eq_true] at scalar
        exact arithmetic_as_scalar spelled beside scalar.1.1 (ihLeft.1 scalar.1.2)
          (ihRight.1 scalar.2)
      · simp only [isPredicate, Bool.or_eq_true, Bool.and_eq_true] at predicate
        rcases predicate with comparison | connective
        · exact comparison_as_predicate spelled beside
            (lower_sound scope reached left _ first leftLowers)
            (lower_sound scope reached right _ second rightLowers)
            (ihLeft.1 comparison.1.2) (ihRight.1 comparison.2)
        · exact connection_as_predicate spelled beside connective.1.1 (ihLeft.2 connective.1.2)
            (ihRight.2 connective.2)
  | @negate operand beside part _ ih =>
      refine ⟨fun scalar => ?_, fun predicate => by simp [isPredicate] at predicate⟩
      obtain ⟨phrase, read, atom⟩ := ih.1 (by simpa [isScalar] using scalar)
      exact ⟨.negation phrase, by simp [phrase?, read], Fragment.negation_atom part phrase atom⟩
  | @not operand beside part _ ih =>
      refine ⟨fun scalar => by simp [isScalar] at scalar, fun predicate => ?_⟩
      obtain ⟨phrase, read, spelled⟩ := ih.2 (by simpa [isPredicate] using predicate)
      exact ⟨.complement phrase, by simp [phrase?, read], .complement (Nat.le_refl _) spelled⟩
  | @convert operand beside part _ ih =>
      refine ⟨fun scalar => ?_, fun predicate => ?_⟩
      · obtain ⟨phrase, read, atom⟩ := ih.1 (by simpa [isScalar] using scalar)
        exact ⟨phrase, by simpa [phrase?] using read, atom⟩
      · obtain ⟨phrase, read, spelled⟩ := ih.2 (by simpa [isPredicate] using predicate)
        exact ⟨phrase, by simpa [phrase?] using read, spelled⟩
  | @conditional test whenTrue whenFalse beside first second third _ _ _ ihTest ihTrue ihFalse =>
      refine ⟨fun scalar => ?_, fun predicate => by simp [isPredicate] at predicate⟩
      simp only [isScalar, Bool.and_eq_true] at scalar
      obtain ⟨testPhrase, testRead, spelled⟩ := ihTest.2 scalar.1.1
      obtain ⟨truePhrase, trueRead, trueAtom⟩ := ihTrue.1 scalar.1.2
      obtain ⟨falsePhrase, falseRead, falseAtom⟩ := ihFalse.1 scalar.2
      have loose := spelled_looser _ 0 testPhrase first.tokens (Nat.zero_le _) spelled
      exact ⟨.choice testPhrase truePhrase falsePhrase,
        by simp [phrase?, testRead, trueRead, falseRead],
        Fragment.choice_atom _ _ _ _ _ _ loose trueAtom falseAtom⟩
  | object _ _ _ =>
      refine ⟨fun scalar => ?_, fun predicate => ?_⟩
      · simp [isScalar] at scalar
      · simp [isPredicate] at predicate
  | @contains receiver arguments collection element beside part literals operands _ written ih =>
      refine ⟨fun scalar => by simp [isScalar] at scalar, fun predicate => ?_⟩
      have scalar := element_scalar receiver arguments collection element operands predicate
      exact contains_as_predicate scope.aliases receiver arguments collection element beside part
        literals operands written (ih.1 scalar)

/-- The text of a scalar or a predicate spells the phrase of the expression by precedence, and the
parser reads it to its end and gives just that phrase back. -/
theorem compiled_text_read (aliases : Aliases) (reached : aliases.Reached) (namesMembers : Bool)
    (expr : Expr) (kind : expr.isScalar = true ∨ expr.isPredicate = true) (text : String)
    (compiled : expr.compile ⟨aliases, namesMembers⟩ = .ok text) :
    ∃ phrase lexemes, expr.phrase? aliases none = some phrase ∧
      tokenize text.toList = some lexemes ∧ Spells 0 phrase lexemes ∧
      Phrase.parse text = some phrase := by
  obtain ⟨fragment, lowers, _, _, read⟩ := compile_tokens _ reached expr text compiled
  have both := lowers_spelled _ reached expr none fragment lowers
  obtain ⟨phrase, tree, spelled⟩ : ∃ phrase, expr.phrase? aliases none = some phrase ∧
      Spells 0 phrase fragment.tokens := by
    rcases kind with scalar | predicate
    · obtain ⟨phrase, tree, atom⟩ := both.1 scalar
      exact ⟨phrase, tree, atom.spelled 0⟩
    · obtain ⟨phrase, tree, spelled⟩ := both.2 predicate
      exact ⟨phrase, tree, spelled_looser _ _ _ _ (Nat.zero_le _) spelled⟩
  refine ⟨phrase, fragment.tokens, tree, read, spelled, ?_⟩
  rw [Phrase.parse, read, Option.bind_some]
  exact run_complete phrase fragment.tokens spelled

def nested : Expr :=
  binary .orElse
    (unary .not (isNull (unary .convert (column "Multi" "body"))))
    (binary .andAlso
      (unary .not (contains (constant (.list [.integer .int32 (-1), .integer .int32 2]))
        (binary .subtract (column "Multi" "k1") (constant (.integer .int32 (-3))))))
      (contains (constant (.list [])) (column "Multi" "k2")))

theorem nested_text_read :
    Aliases.weird.Reached ∧ (nested.isScalar = true ∨ nested.isPredicate = true) ∧
      nested.compile ⟨Aliases.weird, false⟩ =
        .ok "(NOT (t0.[Sp ace] IS NULL) OR (NOT (t0.[K]]1] - -3) IN (-1,2) AND (1=0)))" ∧
      ∃ phrase lexemes, nested.phrase? Aliases.weird none = some phrase ∧
        tokenize "(NOT (t0.[Sp ace] IS NULL) OR (NOT (t0.[K]]1] - -3) IN (-1,2) AND (1=0)))".toList =
          some lexemes ∧ Spells 0 phrase lexemes ∧
        Phrase.parse "(NOT (t0.[Sp ace] IS NULL) OR (NOT (t0.[K]]1] - -3) IN (-1,2) AND (1=0)))" =
          some phrase :=
  ⟨Aliases.weird_reached, .inr rfl, rfl,
    compiled_text_read Aliases.weird Aliases.weird_reached false nested (.inr rfl) _ rfl⟩

end Expr

end MappedSql
