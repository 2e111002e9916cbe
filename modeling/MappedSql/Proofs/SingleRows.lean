import MappedSql.Proofs.Refusals
import MappedSql.Proofs.UpdateText

/-!
Statements for one row, written by a draft and by a script. The two look at the parts of the
statement in different orders; they write the same statement, or neither writes one.
-/

namespace MappedSql

open Outcome Statement

section Inserted

variable (target : EntityType) (record : Record) (given : NamedList Value)

theorem InsertDraft.row_statement (table : Table)
    (mapped : Table.ofMapping target.mapping = .ok table) :
    (run target [.addRows [record], .additional given]).statement = do
      let columns ← names table (AdditionalColumns.none.merge given)
      let more ← (AdditionalColumns.none.merge given).literals
      let rows ← [record].mapM (row table more)
      return ⟨table.qualifiedName, columns, rows⟩ := by
  simp only [InsertDraft.statement, run, List.foldl_cons, List.foldl_nil, apply, start,
    Draft.start_mapped target table mapped]
  rfl

-- The draft looks at the additional columns first, the script at the row.
theorem InsertDraft.row_statement_iff (table : Table)
    (mapped : Table.ofMapping target.mapping = .ok table) (statement : InsertStatement) :
    (run target [.addRows [record], .additional given]).statement = .ok statement ↔
      Script.insertStatement target record (AdditionalColumns.none.merge given) =
        .ok statement := by
  rw [row_statement target record given table mapped, Script.insertStatement, mapped]
  simp only [bind_ok_iff, pure_ok_iff, row, List.mapM_cons, List.mapM_nil]
  constructor
  · rintro ⟨columns, named, more, rendered, rows, ⟨_, ⟨own, literals, rfl⟩, _, rfl, rfl⟩, rfl⟩
    exact ⟨table, rfl, columns, named, own, literals, more, rendered, rfl⟩
  · rintro ⟨_, same, columns, named, own, literals, more, rendered, rfl⟩
    obtain rfl := Except.ok.inj same
    exact ⟨columns, named, more, rendered, _, ⟨_, ⟨own, literals, rfl⟩, _, rfl, rfl⟩, rfl⟩

theorem InsertDraft.row_built_iff (text : String) :
    StatementDraft.build (run target [.addRows [record], .additional given]) = .ok text ↔
      Script.insert target record (AdditionalColumns.none.merge given) = .ok text := by
  have fault : StatementDraft.fault? (run target [.addRows [record], .additional given]) =
      failure? (Table.ofMapping target.mapping) := Draft.start_fault target
  have wrote : StatementDraft.write (run target [.addRows [record], .additional given]) =
      (run target [.addRows [record], .additional given]).statement.map InsertStatement.render :=
    rfl
  rw [StatementDraft.build_ok_iff, fault, wrote, Script.insert]
  cases mapped : Table.ofMapping target.mapping with
  | error fault => simp [failure?, Script.insertStatement, mapped, bind, Except.bind, Except.map]
  | ok table =>
      simp only [failure?, map_ok_iff, row_statement_iff target record given table mapped, true_and]

/-- One row is inserted by a draft and by a script alike: both write the same text, or neither
writes one. -/
theorem row_inserted_alike :
    Alike (· = ·)
      (StatementDraft.build (InsertDraft.run target [.addRows [record], .additional given]))
      (Script.insert target record (AdditionalColumns.none.merge given)) := by
  have same := InsertDraft.row_built_iff target record given
  exact alike_iff.mpr ⟨fun text built => ⟨text, (same text).mp built, rfl⟩,
    fun text written => ⟨text, (same text).mpr written⟩⟩

end Inserted

def Column.pin (record : Record) (key : Column) : Except Fault (String × String) :=
  (key.render record).map fun value => (key.quoted, value)

theorem Column.pins_written (keys : List Column) (record : Record)
    (write : Column → Except Fault String) (form : String × String → String)
    (each : ∀ key, write key = (Column.pin record key).map form) :
    keys.mapM write = (keys.mapM (Column.pin record)).map (List.map form) := by
  rw [mapM_map, funext each]

theorem Script.key_test_pin (record : Record) (key : Column) :
    keyTest record key = (key.pin record).map fun test => equalityTest test.1 test.2 := by
  rw [keyTest, Column.pin]
  cases key.render record <;> rfl

theorem UpdateDraft.key_test_pin (target : Participant) (record : Record) (key : Column) :
    keyTest target record key =
      (key.pin record).map fun test => equalityTest (target.aliasName ++ "." ++ test.1) test.2 := by
  rw [keyTest, Column.pin]
  cases key.render record <;> rfl

section Updated

variable (target : EntityType) (record : Record)

/-- What the update of one row is made of: its assignments, and the names and values that the tests
of its keys compare. -/
structure RowUpdate (additional : AdditionalColumns) (table : Table) (assignments : List String)
    (tests : List (String × String)) : Prop where
  mapped : Table.ofMapping target.mapping = .ok table
  assigned : ∃ own more, table.updatable.mapM (UpdateDraft.assignment record) = .ok own ∧
    additional.assignments = .ok more ∧ assignments = own ++ more
  present : assignments ≠ []
  tested : table.keys.mapM (Column.pin record) = .ok tests

-- As there is a key, there is a test.
theorem Script.row_tests_pins (table : Table) (keyed : table.keys ≠ []) :
    rowTests table record [] = (table.keys.mapM (Column.pin record)).map
      (List.map fun test => equalityTest test.1 test.2) := by
  rw [rowTests, Column.pins_written table.keys record _ _ (key_test_pin record)]
  cases tested : table.keys.mapM (Column.pin record) with
  | error fault => rfl
  | ok tests =>
      have present : tests ≠ [] := by rwa [Ne, mapM_nil_iff tested]
      simp [Except.map, bind, Except.bind, rawTests, present, pure, Except.pure]

theorem Script.row_updated_iff (additional : AdditionalColumns)
    (keyed : ∀ table, Table.ofMapping target.mapping = .ok table → table.keys ≠ [])
    (text : String) :
    update target record additional [] = .ok text ↔
      ∃ table assignments tests, RowUpdate target record additional table assignments tests ∧
        text = updateText table.qualifiedName assignments
          (tests.map fun test => equalityTest test.1 test.2) := by
  constructor
  · intro written
    obtain ⟨table, own, more, texts, mapped, assigned, given, present, tested, rfl⟩ :=
      update_ok target record additional [] text written
    rw [row_tests_pins record table (keyed table mapped)] at tested
    obtain ⟨tests, pinned, rfl⟩ := map_ok_iff.mp tested
    exact ⟨table, _, tests, ⟨mapped, ⟨own, more, assigned, given, rfl⟩, present, pinned⟩, rfl⟩
  · rintro ⟨table, _, tests, ⟨mapped, ⟨own, more, assigned, given, rfl⟩, present, pinned⟩, rfl⟩
    rw [update_valid target record additional [] table own more mapped assigned given present,
      row_tests_pins record table (keyed table mapped), pinned]
    rfl

def RowUpdate.statement (table : Table) (assignments : List String)
    (tests : List (String × String)) : UpdateStatement where
  table := table.qualifiedName
  aliasName := Aliases.numbered 0
  assignments := assignments
  hint := ({} : Settings).hintSuffix
  joins := []
  tests := tests.map fun test => equalityTest (Aliases.numbered 0 ++ "." ++ test.1) test.2

section Drafted

variable (given : NamedList Value) (table : Table)
  (mapped : Table.ofMapping target.mapping = .ok table)

include mapped

theorem UpdateDraft.row_drafted : run target [.addRows [record], .additional given] =
    ⟨⟨⟨[⟨target.name, table, Aliases.numbered 0, true⟩]⟩, .empty, [], {}, none⟩, [record],
      AdditionalColumns.none.merge given⟩ := by
  simp only [run, List.foldl_cons, List.foldl_nil, apply, start,
    Draft.start_mapped target table mapped]
  rfl

theorem UpdateDraft.row_update_drafted (statements : List UpdateStatement)
    (written : (run target [.addRows [record], .additional given]).statements = .ok statements) :
    ∃ assignments tests,
      RowUpdate target record (AdditionalColumns.none.merge given) table assignments tests ∧
        statements = [RowUpdate.statement table assignments tests] := by
  rw [row_drafted target record given table mapped] at written
  obtain ⟨participant, more, targeted, assigned, _, present, each⟩ :=
    statements_ok _ statements written
  obtain rfl := Except.ok.inj targeted
  cases each with
  | cons made rest =>
      cases rest
      obtain ⟨own, keyTests, updated, tested, rfl⟩ := row_statement_ok _ _ _ _ _ made
      rw [Column.pins_written _ _ _ _ (key_test_pin _ record)] at tested
      obtain ⟨tests, pinned, rfl⟩ := map_ok_iff.mp tested
      refine ⟨own ++ more, tests, ⟨mapped, ⟨own, more, updated, assigned, rfl⟩, ?_, pinned⟩, ?_⟩
      · rw [Ne, List.append_eq_nil_iff, mapM_nil_iff updated, not_and_or]
        exact present
      · rw [RowUpdate.statement, show filterTests Filter.empty = [] from rfl, List.append_nil]

theorem UpdateDraft.row_update_written (assignments : List String) (tests : List (String × String))
    (parts : RowUpdate target record (AdditionalColumns.none.merge given) table assignments tests) :
    (run target [.addRows [record], .additional given]).statements =
      .ok [RowUpdate.statement table assignments tests] := by
  obtain ⟨_, ⟨own, more, updated, assigned, rfl⟩, present, pinned⟩ := parts
  rw [Ne, List.append_eq_nil_iff, mapM_nil_iff updated] at present
  have something : (table.updatable.isEmpty && more.isEmpty) = false := by simpa using present
  have tested := Column.pins_written table.keys record _ _
    (key_test_pin ⟨target.name, table, Aliases.numbered 0, true⟩ record)
  rw [pinned] at tested
  have noFilter : filterTests Filter.empty = [] := rfl
  rw [row_drafted target record given table mapped]
  simp [statements, rowStatement, RowUpdate.statement, Aliases.target, assigned, something, updated,
    tested, noFilter, bind, Except.bind, pure, Except.pure, Except.map]

end Drafted

theorem RowUpdate.statement_text (table : Table) (assignments : List String)
    (tests : List (String × String)) (present : tests ≠ []) :
    (statement table assignments tests).render =
      "UPDATE t0 SET " ++ commas assignments ++ " FROM " ++ table.qualifiedName ++ " t0 WHERE " ++
        conjunction (tests.map fun test => "(t0." ++ test.1 ++ " = " ++ test.2 ++ ")") := by
  have first : Aliases.numbered 0 = "t0" := rfl
  have target : "UPDATE " ++ "t0" ++ " SET " = "UPDATE t0 SET " := rfl
  have source : " " ++ "FROM " = " FROM " := rfl
  have before : " " ++ "t0" ++ " WHERE " = " t0 WHERE " := rfl
  have test : "(" ++ ("t0" ++ ".") = "(t0." := rfl
  rw [UpdateStatement.render_tests _ (by simpa [statement] using present)]
  simp only [UpdateStatement.head, statement, clauses, equalityTest, first, ← target, ← source,
    ← before, ← test, String.intercalate_cons_cons, String.intercalate_singleton, List.map_nil,
    List.append_nil, String.append_assoc]

theorem UpdateDraft.row_built_iff (given : NamedList Value) (text : String) :
    StatementDraft.build (run target [.addRows [record], .additional given]) = .ok text ↔
      ∃ table assignments tests,
        RowUpdate target record (AdditionalColumns.none.merge given) table assignments tests ∧
          text = (RowUpdate.statement table assignments tests).render := by
  have fault : StatementDraft.fault? (run target [.addRows [record], .additional given]) =
      failure? (Table.ofMapping target.mapping) := Draft.start_fault target
  have wrote : StatementDraft.write (run target [.addRows [record], .additional given]) = do
      let statements ← (run target [.addRows [record], .additional given]).statements
      return ";\n".intercalate (statements.map UpdateStatement.render) := rfl
  rw [StatementDraft.build_ok_iff, fault, wrote]
  constructor
  · rintro ⟨fresh, written⟩
    cases mapped : Table.ofMapping target.mapping with
    | error fault =>
        rw [mapped] at fresh
        cases fresh
    | ok table =>
        obtain ⟨statements, made, same⟩ := bind_ok_iff.mp written
        obtain ⟨assignments, tests, parts, rfl⟩ :=
          row_update_drafted target record given table mapped statements made
        exact ⟨table, assignments, tests, parts, (pure_ok_iff.mp same).symm⟩
  · rintro ⟨table, assignments, tests, parts, rfl⟩
    rw [row_update_written target record given table parts.mapped assignments tests parts,
      parts.mapped]
    exact ⟨rfl, rfl⟩

/-- The two texts have the assignments and the tests of one update of the row. The draft puts its
alias before the names of the keys. -/
def SameUpdate (additional : AdditionalColumns) (drafted scripted : String) : Prop :=
  ∃ table assignments tests, RowUpdate target record additional table assignments tests ∧
    drafted = "UPDATE t0 SET " ++ commas assignments ++ " FROM " ++ table.qualifiedName ++
      " t0 WHERE " ++
        conjunction (tests.map fun test => "(t0." ++ test.1 ++ " = " ++ test.2 ++ ")") ∧
    scripted = "UPDATE " ++ table.qualifiedName ++ " SET " ++ commas assignments ++ " WHERE " ++
      conjunction (tests.map fun test => "(" ++ test.1 ++ " = " ++ test.2 ++ ")") ++ " ;"

/-- One row with keys is updated by a draft and by a script alike: both write the same update, or
neither writes one. -/
theorem row_updated_alike (given : NamedList Value)
    (keyed : ∀ table, Table.ofMapping target.mapping = .ok table → table.keys ≠ []) :
    Alike (SameUpdate target record (AdditionalColumns.none.merge given))
      (StatementDraft.build (UpdateDraft.run target [.addRows [record], .additional given]))
      (Script.update target record (AdditionalColumns.none.merge given) []) := by
  have drafts := UpdateDraft.row_built_iff target record given
  have scripts := Script.row_updated_iff target record (AdditionalColumns.none.merge given) keyed
  rw [alike_iff]
  constructor
  · intro drafted built
    obtain ⟨table, assignments, tests, parts, rfl⟩ := (drafts drafted).mp built
    have tested : tests ≠ [] := by
      rw [Ne, mapM_nil_iff parts.tested]
      exact keyed table parts.mapped
    exact ⟨_, (scripts _).mpr ⟨table, assignments, tests, parts, rfl⟩, table, assignments, tests,
      parts, RowUpdate.statement_text table assignments tests tested, rfl⟩
  · intro scripted written
    obtain ⟨table, assignments, tests, parts, _⟩ := (scripts scripted).mp written
    exact ⟨_, (drafts _).mpr ⟨table, assignments, tests, parts, rfl⟩⟩

end Updated

def oddRow : Record :=
  ⟨"Multi", [("k1", .ok (.integer .int32 7)), ("body", .ok (.text "] = '")),
    ("k2", .ok (.text "' AND '")), ("é", .ok .null)]⟩

def oddColumns : NamedList Value :=
  [("Tag", .bool true), ("TAG", .text " WHERE ")]

theorem odd_row_updated_alike :
    (∀ table, Table.ofMapping Sample.multi = .ok table → table.keys ≠ []) ∧
      ∃ drafted scripted,
        StatementDraft.build (UpdateDraft.run ⟨"Multi", Sample.multi⟩
          [.addRows [oddRow], .additional oddColumns]) = .ok drafted ∧
        Script.update ⟨"Multi", Sample.multi⟩ oddRow (AdditionalColumns.none.merge oddColumns) [] =
          .ok scripted ∧
        SameUpdate ⟨"Multi", Sample.multi⟩ oddRow (AdditionalColumns.none.merge oddColumns) drafted
          scripted := by
  have keyed : ∀ table, Table.ofMapping Sample.multi = .ok table → table.keys ≠ [] := by
    intro table mapped
    obtain rfl := Except.ok.inj mapped
    decide
  obtain ⟨both, _⟩ :=
    alike_iff.mp (row_updated_alike ⟨"Multi", Sample.multi⟩ oddRow oddColumns keyed)
  obtain ⟨scripted, written, same⟩ := both _ rfl
  exact ⟨keyed, _, scripted, rfl, written, same⟩

end MappedSql
