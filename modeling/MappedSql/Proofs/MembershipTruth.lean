import MappedSql.Proofs.Accumulation
import MappedSql.Proofs.ColumnTests

/-!
Membership and equality. A row gives every test one of three truth values. A list of values is the
same test as the equalities with them, one or the other, as long as no value is null: equality with
null is a null test, but a null in a list is compared, which is never true.
-/

namespace MappedSql

open Lexer Outcome Precedence

namespace Truth

def not : Truth → Truth
  | no => yes
  | unknown => unknown
  | yes => no

def ofBool : Bool → Truth
  | true => yes
  | false => no

def anyOf (truths : List Truth) : Truth :=
  truths.foldr or no

theorem of_bool_known (holds : Bool) : ofBool holds ≠ unknown := by
  cases holds <;> simp [ofBool]

theorem or_yes_iff (first second : Truth) : first.or second = yes ↔ first = yes ∨ second = yes := by
  cases first <;> cases second <;> simp [or]

theorem or_no_iff (first second : Truth) : first.or second = no ↔ first = no ∧ second = no := by
  cases first <;> cases second <;> simp [or]

theorem any_of_cons (first : Truth) (rest : List Truth) :
    anyOf (first :: rest) = first.or (anyOf rest) :=
  rfl

theorem any_of_yes_iff (truths : List Truth) : anyOf truths = yes ↔ yes ∈ truths := by
  induction truths with
  | nil => simp [anyOf]
  | cons first rest ih => rw [any_of_cons, or_yes_iff, ih, List.mem_cons, eq_comm]

theorem any_of_no_iff (truths : List Truth) : anyOf truths = no ↔ ∀ truth ∈ truths, truth = no := by
  induction truths with
  | nil => simp [anyOf]
  | cons first rest ih => rw [any_of_cons, or_no_iff, ih, List.forall_mem_cons]

theorem any_of_unknown (truths : List Truth) (unknowing : anyOf truths = unknown) :
    unknown ∈ truths := by
  by_contra known
  have notYes : yes ∉ truths := fun member => by
    rw [(any_of_yes_iff truths).mpr member] at unknowing
    cases unknowing
  have allNo : anyOf truths = no := (any_of_no_iff truths).mpr fun truth member => by
    cases truth with
    | no => rfl
    | unknown => exact absurd member known
    | yes => exact absurd member notYes
  rw [allNo] at unknowing
  cases unknowing

end Truth

/-- A row as a statement meets it: the datum in each column, unless it is null, the data that
literals stand for, and what is computed and compared. -/
structure Row (δ : Type) where
  column : List Char → List Char → Option δ
  literal : Leaf → δ
  negates : δ → δ
  computes : SqlOperator → δ → δ → δ
  compares : SqlOperator → δ → δ → Bool

namespace Row

variable {δ : Type} (row : Row δ)

def leaf : Leaf → Option δ
  | .null => none
  | other => some (row.literal other)

def compared (op : SqlOperator) : Option δ → Option δ → Truth
  | some left, some right => .ofBool (row.compares op left right)
  | _, _ => .unknown

mutual

def scalar : Phrase → Option δ
  | .column aliasName name => row.column aliasName name
  | .leaf value => row.leaf value
  | .operation op left right => do return row.computes op (← scalar left) (← scalar right)
  | .negation operand => (scalar operand).map row.negates
  | .choice test whenTrue whenFalse =>
      if truth test = .yes then scalar whenTrue else scalar whenFalse
  | _ => none

def truth : Phrase → Truth
  | .operation .and left right => (truth left).and (truth right)
  | .operation .or left right => (truth left).or (truth right)
  | .operation op left right => row.compared op (scalar left) (scalar right)
  | .isNull operand => .ofBool (scalar operand).isNone
  | .isNotNull operand => .ofBool (scalar operand).isSome
  | .complement operand => (truth operand).not
  | .membership element items =>
      .anyOf (items.map fun item => row.compared .equal (scalar element) (row.leaf item))
  | _ => .unknown

end

theorem compared_null (op : SqlOperator) (datum : Option δ) :
    row.compared op datum none = .unknown := by
  cases datum <;> rfl

def lists (datum : Option δ) (item : Leaf) : Truth :=
  row.compared .equal datum (row.leaf item)

def equals (datum : Option δ) (item : Leaf) : Truth :=
  if item = .null then .ofBool datum.isNone else row.lists datum item

theorem lists_null (datum : Option δ) : row.lists datum .null = .unknown :=
  row.compared_null .equal datum

theorem equality_truth (element : Phrase) (item : Leaf) (column : element ≠ .leaf .null) :
    row.truth (.combine .equal element (.leaf item)) = row.equals (row.scalar element) item := by
  by_cases null : item = .null
  · simp [Phrase.combine, equals, null, truth]
  · simp [Phrase.combine, equals, null, column, truth, scalar, lists]

-- Among items with a null nothing is ever ruled out.
theorem listed_null_not_no (datum : Option δ) (items : List Leaf) (listed : .null ∈ items) :
    Truth.anyOf (items.map (row.lists datum)) ≠ .no := by
  intro no
  have null := (Truth.any_of_no_iff _).mp no _ (List.mem_map_of_mem listed)
  rw [row.lists_null] at null
  cases null

-- The null test of the null finds a row without a value, and all else is known of a row with one.
theorem equalities_known (datum : Option δ) (items : List Leaf) (listed : .null ∈ items) :
    Truth.anyOf (items.map (row.equals datum)) ≠ .unknown := by
  intro unknowing
  cases datum with
  | none =>
      have found := (Truth.any_of_yes_iff (items.map (row.equals none))).mpr
        (List.mem_map.mpr ⟨.null, listed, rfl⟩)
      rw [found] at unknowing
      cases unknowing
  | some held =>
      obtain ⟨item, _, undecided⟩ := List.mem_map.mp (Truth.any_of_unknown _ unknowing)
      cases item with
      | null =>
          rw [equals, if_pos rfl] at undecided
          exact Truth.of_bool_known _ undecided
      | number negative digits => exact Truth.of_bool_known _ undecided
      | text content => exact Truth.of_bool_known _ undecided

-- A null among the items is never found: a row without a value is missed, and one with a value that
-- is not listed is not ruled out.
theorem lists_equals_iff (datum : Option δ) (items : List Leaf) :
    Truth.anyOf (items.map (row.lists datum)) = .anyOf (items.map (row.equals datum)) ↔
      .null ∉ items ∨ Truth.anyOf (items.map (row.lists datum)) = .yes := by
  constructor
  · intro same
    by_contra otherwise
    obtain ⟨listed, missed⟩ := not_or.mp otherwise
    have listed : .null ∈ items := not_not.mp listed
    cases truth : Truth.anyOf (items.map (row.lists datum)) with
    | no => exact row.listed_null_not_no datum items listed truth
    | unknown => exact row.equalities_known datum items listed (same.symm.trans truth)
    | yes => exact missed truth
  · rintro (unlisted | found)
    · refine congrArg Truth.anyOf (List.map_congr_left fun item member => ?_)
      rw [equals, if_neg fun null : item = .null => unlisted (null ▸ member)]
    · rw [found, eq_comm, Truth.any_of_yes_iff, List.mem_map]
      obtain ⟨item, member, equal⟩ := List.mem_map.mp ((Truth.any_of_yes_iff _).mp found)
      refine ⟨item, member, ?_⟩
      rw [equals, if_neg ?_, equal]
      rintro rfl
      rw [row.lists_null] at equal
      cases equal

theorem membership_truth (element : Phrase) (items : List Leaf) :
    row.truth (.membership element items) = .anyOf (items.map (row.lists (row.scalar element))) := by
  rw [truth]
  rfl

end Row

theorem Literal.leaf_null_iff (literal : Literal) (sound : literal.Sound) :
    literal.leaf = .null ↔ literal = .null := by
  cases literal with
  | float width value =>
      cases value with
      | finite negative significand exponent => simp [leaf]
      | _ => cases sound
  | _ => simp [leaf]

theorem Value.null_beside (beside : Option Column) : Value.null.literalBeside beside = .ok .null := by
  cases beside with
  | none => rfl
  | some column =>
      cases kind : column.kind.enumeration? with
      | none =>
          simp only [literalBeside, kind]
          rfl
      | some known =>
          simp only [literalBeside, kind]
          rfl

theorem Value.leaf_null_iff (column : Column) (value : Value) (literal : Literal)
    (written : value.literalBeside (some column) = .ok literal) :
    literal.leaf = .null ↔ value = .null := by
  rw [literal.leaf_null_iff (value.literal_beside_sound (some column) literal written)]
  constructor
  · rintro rfl
    by_contra present
    exact value.literal_beside_not_null column present written
  · rintro rfl
    exact (Except.ok.inj ((Value.null_beside (some column)).symm.trans written)).symm

theorem Value.nulls_written_iff (column : Column) (items : List Value) (literals : List Literal)
    (each : List.Forall₂ (fun item literal => item.literalBeside (some column) = .ok literal) items
      literals) : .null ∈ literals.map Literal.leaf ↔ .null ∈ items := by
  induction each with
  | nil => simp
  | @cons item literal items literals written _ ih =>
      rw [List.map_cons, List.mem_cons, List.mem_cons, ih, eq_comm,
        Value.leaf_null_iff column item literal written, eq_comm]

namespace Expr

section Columns

variable {aliases : Aliases} {participant : Participant} {column : Column} {reader : Expr}
  (reads : ReadsColumn aliases participant column reader)

include reads

theorem listed_literals {collection : Expr} {items : List Value}
    (given : Gives (.list items) collection) {receiver : Option Expr} {arguments : List Expr}
    (operands : TestsMembership receiver arguments collection reader) (namesMembers : Bool)
    (text : String)
    (compiled : (call "Contains" receiver arguments).compile ⟨aliases, namesMembers⟩ = .ok text) :
    ∃ literals, items.mapM (Value.literalBeside · (some column)) = .ok literals := by
  rw [compile, @membership_lower ⟨aliases, namesMembers⟩ _ _ _ reads _ _ given _ _ operands]
    at compiled
  obtain ⟨_, lowered, _⟩ := map_ok_iff.mp compiled
  obtain ⟨literals, made, _⟩ := map_ok_iff.mp lowered
  exact ⟨literals, made⟩

theorem equality_parsed (reached : aliases.Reached) (namesMembers : Bool) (item : Value)
    (literal : Literal) (written : item.literalBeside (some column) = .ok literal) :
    ∃ text, (binary .equal reader (constant item)).compile ⟨aliases, namesMembers⟩ = .ok text ∧
      Phrase.parse text = some (.combine .equal
        (.column participant.aliasName.toList column.name.toList) (.leaf literal.leaf)) := by
  have compiles := (@comparison_compiles ⟨aliases, namesMembers⟩ reached _ _ _ reads _ _
    (.constant item) .equal rfl .equal rfl).1
  obtain ⟨text, compiled⟩ := compiles.accepted.mpr ⟨literal, written⟩
  obtain ⟨other, same, parsed⟩ := compiles.read text compiled
  obtain rfl : literal = other := Except.ok.inj (written.symm.trans same)
  exact ⟨text, compiled, parsed⟩

end Columns

/-- A list of values and the equalities with them. All of them are written and read, and for a row
the list is true just as one equality or another is, unless a value of the list is null: then they
agree for the rows that the list finds, and for no other row. -/
theorem list_means_equalities_iff (aliases : Aliases) (reached : aliases.Reached)
    (namesMembers : Bool) (participant : Participant) (column : Column) (reader : Expr)
    (reads : ReadsColumn aliases participant column reader) (items : List Value)
    (present : items ≠ []) (collection : Expr) (given : Gives (.list items) collection)
    (receiver : Option Expr) (arguments : List Expr)
    (operands : TestsMembership receiver arguments collection reader) (text : String)
    (compiled : (call "Contains" receiver arguments).compile ⟨aliases, namesMembers⟩ = .ok text) :
    ∃ membership equalities, Phrase.parse text = some membership ∧
      List.Forall₂ (fun item equality => ∃ text,
          (binary .equal reader (constant item)).compile ⟨aliases, namesMembers⟩ = .ok text ∧
          Phrase.parse text = some equality) items equalities ∧
      ∀ (δ : Type) (row : Row δ),
        row.truth membership = .anyOf (equalities.map row.truth) ↔
          .null ∉ items ∨ row.truth membership = .yes := by
  obtain ⟨literals, written⟩ := listed_literals reads given operands namesMembers text compiled
  have each := mapM_ok written
  have predicate : (call "Contains" receiver arguments).isPredicate = true := by
    cases operands <;> simp [isPredicate, reads_column_scalar reads]
  obtain ⟨membership, tree, parsed⟩ :=
    predicate_text_parsed ⟨aliases, namesMembers⟩ reached _ predicate text compiled
  rw [membership_phrase reads given operands literals written] at tree
  let element : Phrase := .column participant.aliasName.toList column.name.toList
  refine ⟨membership, literals.map fun literal => .combine .equal element (.leaf literal.leaf), parsed,
    ?_, fun δ row => ?_⟩
  · rw [List.forall₂_map_right_iff]
    exact each.imp fun item literal made =>
      equality_parsed reads reached namesMembers item literal made
  · have nulls := Value.nulls_written_iff column items literals each
    have listed : Phrase.memberOf element literals = .membership element (literals.map Literal.leaf) := by
      cases literals with
      | nil => exact absurd ((mapM_nil_iff written).mp rfl) present
      | cons first rest => rfl
    obtain rfl : Phrase.membership element (literals.map Literal.leaf) = membership :=
      listed ▸ Option.some.inj tree
    have equal : (literals.map fun literal =>
          Phrase.combine .equal element (.leaf literal.leaf)).map row.truth =
        (literals.map Literal.leaf).map (row.equals (row.scalar element)) := by
      rw [List.map_map, List.map_map]
      exact List.map_congr_left fun literal _ =>
        row.equality_truth element literal.leaf Phrase.noConfusion
    rw [equal, ← nulls, row.membership_truth]
    exact row.lists_equals_iff (row.scalar element) (literals.map Literal.leaf)

def nullOrAnn : Expr :=
  contains (constant (.list [.null, .text "Ann"])) (column "Person" "name")

def named (name : Option (List Char)) : Row (List Char) where
  column _ _ := name
  literal
    | .text content => content
    | .number _ digits => digits
    | .null => []
  negates := id
  computes _ left _ := left
  compares _ left right := left == right

/-- Of a list with a null both agree for a row that the list finds. -/
theorem listed_name_found :
    ∃ membership, ∃ equalities : List Phrase,
      Phrase.parse "t0.[Name] IN (NULL,'Ann')" = some membership ∧ equalities.length = 2 ∧
      (named (some "Ann".toList)).truth membership =
        .anyOf (equalities.map (named (some "Ann".toList)).truth) := by
  obtain ⟨membership, equalities, parsed, each, agree⟩ :=
    list_means_equalities_iff ofPersons (.register ⟨"Person", Sample.person⟩ true .empty rfl) false _ _
      (column "Person" "name") (.member rfl rfl) [.null, .text "Ann"] (List.cons_ne_nil _ _) _
      (.constant _) _ _ (.method _ _) "t0.[Name] IN (NULL,'Ann')" rfl
  refine ⟨membership, equalities, parsed, each.length_eq.symm, (agree _ _).mpr (.inr ?_)⟩
  cases parsed
  rfl

/-- A row without a name is found by the equality with null, and the list misses it. -/
theorem missing_name_missed :
    nullOrAnn.compile ⟨ofPersons, false⟩ = .ok "t0.[Name] IN (NULL,'Ann')" ∧
      (binary .equal (column "Person" "name") (constant .null)).compile ⟨ofPersons, false⟩ =
        .ok "(t0.[Name] IS NULL)" ∧
      (binary .equal (column "Person" "name") (constant (.text "Ann"))).compile ⟨ofPersons, false⟩ =
        .ok "(t0.[Name] = 'Ann')" ∧
      ∃ membership first second,
        Phrase.parse "t0.[Name] IN (NULL,'Ann')" = some membership ∧
        Phrase.parse "(t0.[Name] IS NULL)" = some first ∧
        Phrase.parse "(t0.[Name] = 'Ann')" = some second ∧
        (named none).truth membership = .unknown ∧
        .anyOf ([first, second].map (named none).truth) = Truth.yes :=
  ⟨rfl, rfl, rfl, _, _, _, rfl, rfl, rfl, rfl, rfl⟩

end Expr

end MappedSql
