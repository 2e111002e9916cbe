import MappedSql.Proofs.MembershipTruth

/-!
Constants beside columns that store names. An integer beside such a column is taken as a variant by
its number and a text by its name, and each is refused if there is no such variant. Any other value
is left as it is: it is written as it would be beside a column without an enumeration, and so a
number can stand where only names are stored.
-/

namespace MappedSql

open Outcome

namespace Value

/-- The value is taken as a variant: a text by name, an integer by number unless it is too large. -/
def isLookedUp : Value → Bool
  | integer _ number => decide (number ≤ greatestInt64)
  | text _ => true
  | _ => false

def isNumeral : Value → Bool
  | bool _ | decimal _ | bytes _ => true
  | integer _ number => decide (greatestInt64 < number)
  | float _ number => number.isFinite
  | _ => false

theorem numeral_not_looked_up (value : Value) (numeral : value.isNumeral = true) :
    value.isLookedUp = false := by
  cases value with
  | integer width number =>
      have large : greatestInt64 < number := of_decide_eq_true numeral
      exact decide_eq_false (Int.not_le.mpr large)
  | text content => cases numeral
  | _ => rfl

theorem numeral_literal (policy : LiteralPolicy) (value : Value) (numeral : value.isNumeral = true) :
    ∃ literal negative digits, value.literal policy = .ok literal ∧
      literal.leaf = .number negative digits := by
  cases value with
  | bool holds => exact ⟨_, _, _, rfl, rfl⟩
  | integer width number => exact ⟨_, _, _, rfl, rfl⟩
  | decimal number => exact ⟨_, _, _, rfl, rfl⟩
  | bytes content => exact ⟨_, _, _, rfl, rfl⟩
  | float width number =>
      cases number with
      | finite negative significand exponent => exact ⟨_, _, _, rfl, rfl⟩
      | _ => cases numeral
  | _ => cases numeral

end Value

theorem Literal.leaf_text_iff (literal : Literal) (sound : literal.Sound) (content : String) :
    literal.leaf = .text content.toList ↔ literal = .text content true := by
  cases literal with
  | text held quoted =>
      obtain rfl : quoted = true := sound
      simp [leaf, String.toList_inj]
  | float width value =>
      cases value with
      | finite negative significand exponent => simp [leaf]
      | _ => cases sound
  | _ => simp [leaf]

namespace Enumeration

def Names (known : Enumeration) (leaf : Leaf) : Prop :=
  leaf = .null ∨ ∃ variant ∈ known.variants, leaf = .text variant.name.toList

theorem number_not_named (known : Enumeration) (negative : Bool) (digits : List Char) :
    ¬ known.Names (.number negative digits) := by
  rintro (null | ⟨_, _, name⟩)
  · cases null
  · cases name

/-- What a value is written as beside a column that stores the names of the variants: an integer or
a text as the name that it is looked up under, and any other value as itself. -/
inductive Writes (known : Enumeration) (policy : LiteralPolicy) : Value → Literal → Prop where
  | numbered {value : Value} {number : Int} {taken : EnumValue} :
      value.discriminant? = some number → known.byDiscriminant? number = some taken →
      Writes known policy value (.text taken.variant.name true)
  | named {name : String} {taken : EnumValue} : known.byName? name = some taken →
      Writes known policy (.text name) (.text taken.variant.name true)
  | left {value : Value} {literal : Literal} : value.isLookedUp = false →
      value.literal policy = .ok literal → Writes known policy value literal

theorem found_variant (known : Enumeration) (asked : Variant → Bool) (taken : EnumValue)
    (found : (known.variants.find? asked).map (EnumValue.mk known) = some taken) :
    taken.variant ∈ known.variants := by
  obtain ⟨variant, first, rfl⟩ := Option.map_eq_some_iff.mp found
  exact List.mem_of_find?_eq_some first

theorem discriminant_looked_up (value : Value) (number : Int)
    (integer : value.discriminant? = some number) : value.isLookedUp = true := by
  cases value with
  | integer width held =>
      rw [Value.discriminant?] at integer
      split_ifs at integer with fits
      exact decide_eq_true fits
  | _ => cases integer

theorem coerce_left (known : Enumeration) (storage : EnumStorage) (value : Value)
    (left : value.isLookedUp = false) : known.coerce storage value = .ok value := by
  cases value with
  | integer width number =>
      have large : ¬ number ≤ Value.greatestInt64 := of_decide_eq_false left
      simp [coerce, Value.discriminant?, large]
  | text name => cases left
  | _ => rfl

end Enumeration

namespace Column

variable {column : Column} {known : Enumeration} (kind : column.kind.enumeration? = some known)

theorem found_literal (stored : column.enumAs = .name) (found : Option EnumValue) (fault : Fault)
    (literal : Literal) :
    ((match found with
      | some taken => Except.ok (Value.enumeration taken)
      | none => .error fault) >>= Value.literal column.policy) = .ok literal ↔
      ∃ taken, found = some taken ∧ .text taken.variant.name true = literal := by
  cases found with
  | none => simp [bind, Except.bind]
  | some taken =>
      simp [bind, Except.bind, Value.literal, Value.scalarLiteral, policy, stored]

include kind

theorem beside_numbered (stored : column.enumAs = .name) (value : Value) (number : Int)
    (integer : value.discriminant? = some number) (literal : Literal) :
    value.literalBeside (some column) = .ok literal ↔
      ∃ taken, known.byDiscriminant? number = some taken ∧
        .text taken.variant.name true = literal := by
  rw [← found_literal stored _ (.unknownDiscriminant known.name number)]
  simp only [Value.literalBeside, kind, Enumeration.coerce, integer, stored]
  cases known.byDiscriminant? number <;> rfl

theorem beside_named (stored : column.enumAs = .name) (name : String) (literal : Literal) :
    (Value.text name).literalBeside (some column) = .ok literal ↔
      ∃ taken, known.byName? name = some taken ∧ .text taken.variant.name true = literal := by
  rw [← found_literal stored _ (.unknownVariant known.name name)]
  simp only [Value.literalBeside, kind]
  rfl

theorem beside_left (value : Value) (left : value.isLookedUp = false) :
    value.literalBeside (some column) = value.literal column.policy := by
  simp only [Value.literalBeside, kind]
  rw [known.coerce_left column.enumAs value left]
  rfl

theorem beside_iff (stored : column.enumAs = .name) (value : Value) (literal : Literal) :
    value.literalBeside (some column) = .ok literal ↔ known.Writes column.policy value literal := by
  constructor
  · intro written
    by_cases lookedUp : value.isLookedUp = true
    · cases value with
      | integer width number =>
          have integer : (Value.integer width number).discriminant? = some number :=
            if_pos (of_decide_eq_true lookedUp)
          obtain ⟨taken, found, rfl⟩ := (beside_numbered kind stored _ number integer _).mp written
          exact .numbered integer found
      | text name =>
          obtain ⟨taken, found, rfl⟩ := (beside_named kind stored name _).mp written
          exact .named found
      | _ => cases lookedUp
    · have left : value.isLookedUp = false := Bool.not_eq_true _ ▸ lookedUp
      exact .left left (beside_left kind value left ▸ written)
  · rintro (⟨integer, found⟩ | found | ⟨left, own⟩)
    · exact (beside_numbered kind stored _ _ integer _).mpr ⟨_, found, rfl⟩
    · exact (beside_named kind stored _ _).mpr ⟨_, found, rfl⟩
    · rw [beside_left kind _ left, own]

/-- What is taken as a variant is written as its name, and null as null; all else is a name only if
that is how the value itself is written. -/
theorem names_iff (stored : column.enumAs = .name) (value : Value) (literal : Literal)
    (writes : known.Writes column.policy value literal) :
    known.Names literal.leaf ↔ value.isLookedUp = true ∨ value = .null ∨
      ∃ variant ∈ known.variants, value.literal column.policy = .ok (.text variant.name true) := by
  have written := (beside_iff kind stored value literal).mpr writes
  have null := Value.leaf_null_iff column value literal written
  have sound := value.literal_beside_sound (some column) literal written
  cases writes with
  | @numbered value number taken integer found =>
      exact iff_of_true (.inr ⟨_, known.found_variant _ taken found, rfl⟩)
        (.inl (Enumeration.discriminant_looked_up _ _ integer))
  | @named name taken found =>
      exact iff_of_true (.inr ⟨_, known.found_variant _ taken found, rfl⟩) (.inl rfl)
  | left left own =>
      have name (variant : Variant) : literal.leaf = .text variant.name.toList ↔
          value.literal column.policy = .ok (.text variant.name true) := by
        rw [own, literal.leaf_text_iff sound, Except.ok.injEq]
      simp [Enumeration.Names, null, name, left]

end Column

namespace Expr

/-- A constant beside a column that stores names, on either side of a comparison or in a list, is
written as `Writes` has it, or the whole is refused. Null is written as null, and what is taken as a
variant as its name. Any other value is left as it is, and is a name only where its own literal
happens to be one; the numbers among these are always written and never are a name. -/
theorem constants_named_iff (scope : Scope) (reached : scope.aliases.Reached)
    (participant : Participant) (column : Column) (known : Enumeration)
    (kind : column.kind = .enumeration known) (stored : column.enumAs = .name) (reader : Expr)
    (reads : ReadsColumn scope.aliases participant column reader) :
    (∀ value giver, Gives value giver → ∀ op : BinaryOperator, op.isComparison = true →
      ∃ sign, op.sql? = some sign ∧
        (binary op reader giver).Compiles scope (known.Writes column.policy value)
          (fun literal => .combine sign (participant.columnPhrase column) (.leaf literal.leaf)) ∧
        (binary op giver reader).Compiles scope (known.Writes column.policy value)
          fun literal => .combine sign (.leaf literal.leaf) (participant.columnPhrase column)) ∧
      (∀ items collection receiver arguments, Gives (.list items) collection →
        TestsMembership receiver arguments collection reader →
        (call "Contains" receiver arguments).Compiles scope
          (List.Forall₂ (known.Writes column.policy) items)
          (.memberOf (participant.columnPhrase column))) ∧
      (∀ value literal, known.Writes column.policy value literal →
        (known.Names literal.leaf ↔ value.isLookedUp = true ∨ value = .null ∨
          ∃ variant ∈ known.variants,
            value.literal column.policy = .ok (.text variant.name true))) ∧
      ∀ value : Value, value.isNumeral = true →
        ∃ literal, known.Writes column.policy value literal ∧ ¬ known.Names literal.leaf := by
  have listed : column.kind.enumeration? = some known := congrArg Kind.enumeration? kind
  have beside := Column.beside_iff listed stored
  refine ⟨fun value giver gives op comparison => ?_,
    fun items collection receiver arguments given operands => ?_, Column.names_iff listed stored,
    fun value numeral => ?_⟩
  · obtain ⟨sign, spelled⟩ := comparison_spelled op comparison
    have both := comparison_compiles reached reads gives op comparison sign spelled
    exact ⟨sign, spelled, both.1.congr (beside value), both.2.congr (beside value)⟩
  · refine (membership_compiles reached reads given operands).congr fun literals => ?_
    simp only [mapM_ok_iff, beside]
  · obtain ⟨literal, negative, digits, own, leaf⟩ := value.numeral_literal column.policy numeral
    refine ⟨literal, .left (value.numeral_not_looked_up numeral) own, ?_⟩
    rw [leaf]
    exact known.number_not_named negative digits

/-- The status of persons is stored by name; a number that is a status and a null are listed. -/
theorem listed_statuses_named :
    ∃ first second : Literal,
      Phrase.parse "t0.[Status] IN ('Inactive',NULL)" =
        some (.membership (.column "t0".toList "Status".toList) [first.leaf, second.leaf]) ∧
      Sample.status.Names first.leaf ∧ Sample.status.Names second.leaf := by
  obtain ⟨_, listed, named, _⟩ := constants_named_iff ⟨ofPersons, false⟩
    (.register ⟨"Person", Sample.person⟩ true .empty rfl) _ _ Sample.status rfl rfl
    (unary .convert (column "Person" "status")) (.convert (.member rfl rfl))
  have tested := listed [.integer .word64 2, .null] _ _ _ (.constant _) (.method _ _)
  obtain ⟨literals, each, parsed⟩ := tested.read "t0.[Status] IN ('Inactive',NULL)" rfl
  obtain _ | ⟨number, _ | ⟨null, rest⟩⟩ := each
  cases rest
  exact ⟨_, _, parsed, (named _ _ number).mpr (.inl rfl), (named _ _ null).mpr (.inr (.inl rfl))⟩

/-- A truth value compared with the status of persons is written as a number, which is no name of a
status; a number that is no status is refused. -/
theorem truth_compared_as_number :
    (∃ participant column, ofPersons.find? "Person" = some participant ∧
        participant.table.columnOfMember? "status" = some column ∧
        column.kind = .enumeration Sample.status ∧ column.enumAs = .name) ∧
      (binary .equal (column "Person" "status") (constant (.bool true))).compile ⟨ofPersons, false⟩ =
        .ok "(t0.[Status] = 1)" ∧
      Phrase.parse "(t0.[Status] = 1)" =
        some (.operation .equal (.column "t0".toList "Status".toList)
          (.leaf (.number false ['1']))) ∧
      ¬ Sample.status.Names (.number false ['1']) ∧
      (binary .equal (column "Person" "status") (constant (.integer .int32 9))).compile
        ⟨ofPersons, false⟩ = .error (.unknownDiscriminant "Status" 9) :=
  ⟨⟨_, _, rfl, rfl, rfl, rfl⟩, rfl, by decide, Sample.status.number_not_named false ['1'], rfl⟩

end Expr

end MappedSql
