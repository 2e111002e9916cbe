import MappedSql.Proofs.BlankTexts
import MappedSql.Proofs.BracketedNames
import MappedSql.Proofs.InsertText
import MappedSql.Proofs.KeyTests
import MappedSql.Proofs.StoredComparisons

/-!
Queries by values. An insert writes a value by the policy of its column; a query by values knows the
name of the column alone and writes the value as it would stand anywhere. The two are compared: when
the query asks for the literal that the insert wrote, and when for another one or for none.
-/

namespace MappedSql

open Lexer Outcome Statement

-- What a literal stands for can be told from its text.
theorem Literal.leaf_of_render (first second : Literal) (sound : first.Sound)
    (other : second.Sound) (same : first.render = second.render) : first.leaf = second.leaf := by
  have tokens : first.leaf.tokens = second.leaf.tokens := by
    rw [← Option.some_inj, ← first.tokenize_render sound, ← second.tokenize_render other, same]
  rw [← Option.some_inj, ← KeyTest.leaf_of_tokens, tokens, KeyTest.leaf_of_tokens]

/-- The policy writes the value in a form of its own: a variant by name, or the text of a document.
-/
def LiteralPolicy.shapes (policy : LiteralPolicy) : Value → Bool
  | .enumeration _ => policy.enumAs == .name
  | .document _ | .list _ => policy.json
  | _ => false

namespace Value

theorem literal_unshaped (policy : LiteralPolicy) (quoted : policy.quoted = true) (value : Value)
    (unshaped : policy.shapes value = false) : value.literal policy = value.literal .plain := by
  obtain ⟨enumAs, json, _⟩ := policy
  cases quoted
  cases value with
  | enumeration known =>
      cases enumAs with
      | number => cases json <;> rfl
      | name => cases unshaped
  | document content =>
      obtain rfl : json = false := unshaped
      rfl
  | list items =>
      obtain rfl : json = false := unshaped
      rfl
  | _ => cases json <;> rfl

-- A name is no number, and on its own a document or a list is refused.
theorem shaped_text (policy : LiteralPolicy) (value : Value) (shaped : policy.shapes value = true)
    (text : String) (written : value.render policy = .ok text) : value.render .plain ≠ .ok text := by
  cases value with
  | enumeration known =>
      have stored : policy.enumAs = .name := eq_of_beq shaped
      have named : (enumeration known).render policy =
          .ok (Literal.text known.variant.name true).render := by
        simp [render, literal, scalarLiteral, stored, Except.map]
      intro numbered
      have same := Literal.leaf_of_render (.integer known.variant.discriminant)
        (.text known.variant.name true) trivial rfl
        (Except.ok.inj (numbered.trans (written.symm.trans named)))
      cases same
  | document content => intro plain; cases plain
  | list items => intro plain; cases plain
  | _ => cases shaped

theorem plain_text_iff (policy : LiteralPolicy) (quoted : policy.quoted = true) (value : Value)
    (text : String) (written : value.render policy = .ok text) :
    value.render .plain = .ok text ↔ policy.shapes value = false := by
  constructor
  · intro plain
    by_contra shaped
    exact shaped_text policy value (Bool.not_eq_false _ ▸ shaped) text written plain
  · intro unshaped
    rw [← written, render, render, literal_unshaped policy quoted value unshaped]

end Value

namespace Script

-- A value that is not null is compared, whatever the name is the name of.
theorem value_test_iff (name : String) (value : Value) (present : value ≠ .null) (test : String) :
    valueTest (name, value) = .ok test ↔
      Identifier.check name = .ok () ∧ ∃ literal, value.render .plain = .ok literal ∧
        test = equalityTest (Identifier.bracketed name) literal := by
  have compared : value.isNull = false := by
    cases value with
    | null => exact absurd rfl present
    | _ => rfl
  simp only [valueTest, compared, Identifier.quote, Bool.false_eq_true, ↓reduceIte, bind_ok_iff,
    pure_ok_iff]
  constructor
  · rintro ⟨_, ⟨_, usable, rfl⟩, literal, written, rfl⟩
    exact ⟨usable, literal, written, rfl⟩
  · rintro ⟨usable, literal, written, rfl⟩
    exact ⟨_, ⟨_, usable, rfl⟩, literal, written, rfl⟩

section Queries

variable (settings : Settings) (entity : EntityType) (table : Table)
  (mapped : Table.ofMapping entity.mapping = .ok table) (options : SelectOptions)
  (sorting : List String) (sorted : options.sorting.mapM sortKey = .ok sorting)

def queryText (condition : String) : String :=
  clauses (["SELECT"] ++ limitClause options.rowLimit ++
    [commas (table.insertable.map Column.quoted),
      "FROM " ++ table.qualifiedName ++ settings.hintSuffix, "WHERE " ++ condition] ++
    whenAny sorting ("ORDER BY " ++ commas sorting))

theorem clauses_around (before after : List String) (present : before ≠ []) :
    ∃ front back, ∀ clause, clauses (before ++ clause :: after) = front ++ clause ++ back := by
  have begun (clause : String) : clauses (before ++ clause :: after) =
      clauses before ++ " " ++ clauses (clause :: after) :=
    String.intercalate_append_of_ne_nil present (List.cons_ne_nil _ _)
  cases after with
  | nil => exact ⟨clauses before ++ " ", "", fun clause => by rw [begun]; simp [clauses]⟩
  | cons next more =>
      refine ⟨clauses before ++ " ", " " ++ clauses (next :: more), fun clause => ?_⟩
      have ended : clauses (clause :: next :: more) = clause ++ " " ++ clauses (next :: more) :=
        String.intercalate_cons_cons
      rw [begun, ended]
      simp only [String.append_assoc]

-- The rest of the query does not depend on the condition.
theorem query_text_inj (first second : String)
    (same : queryText settings table options sorting first =
      queryText settings table options sorting second) : first = second := by
  obtain ⟨front, back, around⟩ := clauses_around
    (["SELECT"] ++ limitClause options.rowLimit ++
      [commas (table.insertable.map Column.quoted),
        "FROM " ++ table.qualifiedName ++ settings.hintSuffix])
    (whenAny sorting ("ORDER BY " ++ commas sorting)) (by simp)
  have split (condition : String) : queryText settings table options sorting condition =
      front ++ ("WHERE " ++ condition) ++ back := by
    rw [← around, queryText]
    simp only [List.append_assoc, List.cons_append, List.nil_append]
  rw [split, split, String.append_left_inj, String.append_right_inj, String.append_right_inj] at same
  exact same

include mapped sorted

theorem select_equality (column literal : String) :
    select settings entity (equalityTest column literal) options =
      .ok (queryText settings table options sorting (equalityTest column literal)) := by
  have bracketed : equalityTest column literal = "(" ++ (column ++ " = " ++ literal) ++ ")" := by
    simp only [equalityTest, String.append_assoc]
  rw [bracketed]
  simp [select, mapped, sorted, Text.trim_bracketed, queryText, bind, Except.bind, pure, Except.pure]

theorem selected_by_value_iff (name : String) (value : Value) (present : value ≠ .null)
    (literal : String) :
    selectByValues settings entity [(name, value)] options = .ok (queryText settings table options
        sorting (equalityTest (Identifier.bracketed name) literal)) ↔
      Identifier.check name = .ok () ∧ value.render .plain = .ok literal := by
  have alone : selectByValues settings entity [(name, value)] options =
      valueTest (name, value) >>= fun test => select settings entity test options := by
    rw [selectByValues, List.mapM_cons, List.mapM_nil]
    cases valueTest (name, value) with
    | error fault => rfl
    | ok test =>
        have one : conjunction [test] = test := String.intercalate_singleton
        rw [← one]
        rfl
  have selected := select_equality settings entity table mapped options sorting sorted
  rw [alone, bind_ok_iff]
  constructor
  · rintro ⟨test, tested, same⟩
    obtain ⟨usable, other, written, rfl⟩ := (value_test_iff name value present test).mp tested
    rw [selected, Except.ok.injEq] at same
    have test := query_text_inj settings table options sorting _ _ same
    rw [equalityTest, equalityTest, String.append_left_inj, String.append_right_inj] at test
    exact ⟨usable, test ▸ written⟩
  · rintro ⟨usable, written⟩
    exact ⟨_, (value_test_iff name value present _).mpr ⟨usable, literal, written, rfl⟩,
      selected _ _⟩

end Queries

-- The insert of one row reads as the columns that are listed, with a literal for each.
theorem insert_read (entity : EntityType) (table : Table)
    (mapped : Table.ofMapping entity.mapping = .ok table) (record : Record)
    (additional : AdditionalColumns) (text : String)
    (written : insert entity record additional = .ok text) :
    ∃ row, InsertReading.read? text = some ⟨table.schema, table.name,
        InsertDraft.listed table additional.entries, [row]⟩ ∧
      row.map .ok = InsertDraft.cells table additional.entries record := by
  obtain ⟨statement, made, rfl⟩ := map_ok_iff.mp written
  rw [insertStatement, mapped] at made
  obtain ⟨_, same, rest⟩ := bind_ok_iff.mp made
  obtain rfl := Except.ok.inj same
  obtain ⟨columns, named, rest⟩ := bind_ok_iff.mp rest
  obtain ⟨own, literals, rest⟩ := bind_ok_iff.mp rest
  obtain ⟨more, rendered, same⟩ := bind_ok_iff.mp rest
  obtain rfl := pure_ok_iff.mp same
  obtain ⟨valid, rfl⟩ := InsertDraft.names_ok table additional columns named
  have cells := InsertDraft.row_ok table additional more rendered record (own ++ more)
    (bind_ok_iff.mpr ⟨own, literals, rfl⟩)
  exact ⟨own ++ more, InsertDraft.cells_read table additional.entries [record] [own ++ more] valid
    (List.cons_ne_nil _ _) (.cons cells .nil), cells⟩

/-- A value that an insert wrote is found by the query for it: the query compares the column with
the literal that stands in its place in the insert. This is so just when the name of the column
holds no NUL, which a query refuses, and the policy of the column does not shape the value. -/
theorem inserted_found_iff (settings : Settings) (entity : EntityType) (table : Table)
    (mapped : Table.ofMapping entity.mapping = .ok table) (column : Column)
    (inserted : column ∈ table.insertable) (plain : column.autoGenerate = false) (record : Record)
    (value : Value) (stored : record.find? column.member = some (.ok value))
    (present : value ≠ .null) (text : String) (written : insert entity record .none = .ok text)
    (options : SelectOptions) (sorting : List String)
    (sorted : options.sorting.mapM sortKey = .ok sorting) :
    ∃ row literal, InsertReading.read? text =
        some ⟨table.schema, table.name, table.insertable.map (·.name), [row]⟩ ∧
      (column, literal) ∈ table.insertable.zip row ∧
      (selectByValues settings entity [(column.name, value)] options =
          .ok (queryText settings table options sorting (equalityTest column.quoted literal)) ↔
        Char.ofNat 0 ∉ column.name.toList ∧ column.policy.shapes value = false) := by
  obtain ⟨row, read, cells⟩ := insert_read entity table mapped record .none text written
  have nothing : AdditionalColumns.none.entries = [] := rfl
  simp only [nothing, InsertDraft.listed, List.map_nil, List.append_nil] at read
  simp only [nothing, InsertDraft.cells, List.map_nil, List.append_nil] at cells
  obtain ⟨literal, beside, rendered⟩ := results_beside cells inserted
  rw [Column.render, column.literal_stored plain record value stored] at rendered
  have named : Text.isBlank column.name = false :=
    Table.of_mapping_named entity.mapping table mapped column.name
      (.tail _ (.tail _ (List.mem_map_of_mem (List.mem_of_mem_filter inserted))))
  refine ⟨row, literal, read, beside, ?_⟩
  rw [Column.quoted, selected_by_value_iff settings entity table mapped options sorting sorted
    column.name value present literal, Identifier.check_ok_iff,
    value.plain_text_iff column.policy rfl literal rendered]
  exact and_congr_left fun _ => and_iff_right named

def inactive : Value :=
  .enumeration ⟨Sample.status, ⟨"Inactive", 2⟩⟩

def inactiveOrder : Record :=
  ⟨"Order", [("id", .ok (.integer .int32 7)), ("person_id", .ok (.integer .int32 1)),
    ("total", .ok .null), ("status", .ok inactive)]⟩

def orderStatus : Column :=
  ⟨"status", "Status", .enumeration Sample.status, .insertAndUpdate, false, .number, false, false⟩

theorem inactive_order_found :
    ∃ table row literal, Table.ofMapping Sample.order = .ok table ∧
      InsertReading.read?
          "INSERT INTO [sales].[Orders] ( [Id],[PersonId],[Total],[Status] ) VALUES ( 7,1,NULL,2 );" =
        some ⟨table.schema, table.name, table.insertable.map (·.name), [row]⟩ ∧
      (orderStatus, literal) ∈ table.insertable.zip row ∧
      selectByValues {} ⟨"Order", Sample.order⟩ [("Status", inactive)] ⟨[("Id", .descending)], some 3⟩ =
        .ok (queryText {} table ⟨[("Id", .descending)], some 3⟩ ["[Id] DESC"]
          (equalityTest "[Status]" literal)) := by
  obtain ⟨row, literal, read, beside, found⟩ :=
    inserted_found_iff {} ⟨"Order", Sample.order⟩ _ rfl orderStatus (by decide) rfl inactiveOrder
      inactive rfl Value.noConfusion _ rfl ⟨[("Id", .descending)], some 3⟩ ["[Id] DESC"] rfl
  exact ⟨_, row, literal, rfl, read, beside, found.mpr ⟨by decide, rfl⟩⟩

def inactivePerson : Record :=
  ⟨"Person", [("id", .ok (.integer .int32 7)), ("name", .ok (.text "Ann")),
    ("status", .ok inactive)]⟩

def openBox : Record :=
  ⟨"Boxed", [("id", .ok (.integer .int32 7)), ("doc", .ok (.document (.bool true))),
    ("amount", .ok .null)]⟩

/-- A status that was written by name is looked for by number, and a document not at all. -/
theorem shaped_values_missed :
    insert ⟨"Person", Sample.person⟩ inactivePerson .none =
        .ok "INSERT INTO [dbo].[Person] ( [Id],[Name],[Status] ) VALUES ( 7,'Ann','Inactive' );" ∧
      selectByValues {} ⟨"Person", Sample.person⟩ [("Status", inactive)] {} =
        .ok "SELECT [Id],[Name],[Status] FROM [dbo].[Person] WITH (NOLOCK) WHERE ([Status] = 2)" ∧
      insert ⟨"Boxed", Sample.boxed⟩ openBox .none =
        .ok "INSERT INTO [dbo].[Boxed] ( [Id],[Doc],[Amount] ) VALUES ( 7,'true',NULL );" ∧
      selectByValues {} ⟨"Boxed", Sample.boxed⟩ [("Doc", .document (.bool true))] {} =
        .error (.noLiteral "json") :=
  ⟨rfl, rfl, rfl, rfl⟩

end Script

end MappedSql
