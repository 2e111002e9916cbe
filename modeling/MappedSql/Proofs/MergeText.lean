import MappedSql.Proofs.ItemLists
import MappedSql.Proofs.PinnedRows
import MappedSql.Proofs.AcceptedMappings

/-!
The text of a merge, read back. The source of a merge is a table of one row with the columns that
inserts write; the tests of the keys, the assignments and the inserted values refer to its columns.
A key that inserts do not write is no column of the source, and its test refers to nothing.
-/

namespace MappedSql

open Lexer Cutting Outcome Statement Reading

structure MergeReading where
  schema : String
  table : String
  values : List String
  columns : List String
  /-- The column of the target and the column of the source in each test. -/
  tests : List (String × String)
  updates : List (String × String)
  inserted : List String
  sources : List String
  deriving DecidableEq, Repr

namespace MergeReading

def sourceName? (text : List Char) : Option String :=
  (text.dropPrefix? "source.".toList).bind wholeName?

def assignment? (text : List Char) : Option (String × String) := do
  let (column, behind) ← name? text
  let source ← (behind.dropPrefix? " = ".toList).bind sourceName?
  return (column, source)

def test? (text : String) : Option (String × String) := do
  let inner ← between? "(".toList ")".toList text.toList
  (inner.dropPrefix? "target.".toList).bind assignment?

def tests? (text : List Char) : Option (List (String × String)) := do
  let (first, more) ← pieces (String.ofList text)
  if more.any (·.1 != .and) then none else (first :: more.map (·.2)).mapM test?

def updates? (text : List Char) : Option (List (String × String) × List Char) :=
  match text.dropPrefix? "MATCHED THEN UPDATE SET ".toList with
  | none => some ([], text)
  | some list => do
      let (assigned, behind) ← clause? "WHEN" list
      let updates ← each? assignment? assigned
      return (updates, behind)

def read? (text : String) : Option MergeReading := do
  let (merged, text) ← clause? "USING" text.toList
  let (row, text) ← clause? "AS" text
  let (source, text) ← clause? "ON" text
  let (condition, text) ← clause? "WHEN" text
  let (updates, text) ← updates? text
  let insert ← text.dropPrefix? "NOT MATCHED THEN INSERT ".toList
  let (list, taken) ← clause? "VALUES" insert
  let (schema, table) ← (between? "MERGE ".toList " as target".toList merged).bind wholeTableName?
  let values ← (between? "(VALUES(".toList "))".toList row).bind (each? (some ∘ String.ofList))
  let columns ← (between? "source (".toList ")".toList source).bind (each? wholeName?)
  let tests ← (between? "(".toList ")".toList condition).bind tests?
  let inserted ← (between? "( ".toList " )".toList list).bind (each? wholeName?)
  let sources ← (between? "( ".toList " );".toList taken).bind (each? sourceName?)
  return { schema, table, values, columns, tests, updates, inserted, sources }

def referenced (reading : MergeReading) : List String :=
  reading.tests.map Prod.snd ++ reading.updates.map Prod.snd ++ reading.sources

/-- The columns, the values, the inserted columns and what is inserted agree place by place. -/
structure Aligned (reading : MergeReading) : Prop where
  values : reading.values.length = reading.columns.length
  inserted : reading.inserted = reading.columns
  sources : reading.sources = reading.columns

def SourceClosed (reading : MergeReading) : Prop :=
  ∀ name ∈ reading.referenced, name ∈ reading.columns

instance (reading : MergeReading) : Decidable reading.SourceClosed :=
  inferInstanceAs (Decidable (∀ name ∈ reading.referenced, name ∈ reading.columns))

end MergeReading

namespace Script.MergeStatement

open MergeReading

section Sources

variable (name : String)

theorem source_tokens : tokenize (source (Identifier.bracketed name)).toList =
    some [keyword "source", .sign ['.'], .name name.toList] := by
  have qualifier : run .nothing "source.".toList =
      some ([keyword "source", .sign ['.']], .nothing) := rfl
  rw [source, String.toList_append]
  exact tokenize_closed _ _ _ _ qualifier (name_tokens name)

theorem assignment_tokens : tokenize (assignment (Identifier.bracketed name)).toList =
    some [.name name.toList, .sign ['='], keyword "source", .sign ['.'], .name name.toList] := by
  have whole := tokenize_operand _ " = ".toList _ _ [.sign ['=']] _ (name_tokens name) (at_blank _)
    rfl (source_tokens name)
  simpa only [assignment, Statement.assignment, String.toList_append, List.append_assoc,
    List.cons_append, List.nil_append] using whole

theorem source_item : Item (source (Identifier.bracketed name)) :=
  passage_of_read _ _ _ (source_tokens name)
    (contained_of_plain _ (by simp [keyword, opening, closing, breakers])) (by simp [keyword])

theorem assignment_passage (tokens : List Lexeme)
    (absent : ∀ lexeme ∈ [Lexeme.name name.toList, .sign ['='], keyword "source", .sign ['.']],
      lexeme ∉ tokens) : Passage tokens (assignment (Identifier.bracketed name)) :=
  passage_of_read _ _ _ (assignment_tokens name)
    (contained_of_plain _ (by simp [keyword, opening, closing, breakers])) (by simp_all)

theorem source_read : sourceName? (source (Identifier.bracketed name)).toList = some name := by
  rw [sourceName?, source, String.toList_append, front_read, Option.bind_some, whole_name_bracketed]

theorem assignment_read :
    assignment? (assignment (Identifier.bracketed name)).toList = some (name, name) := by
  have first := name_bracketed name (" = ".toList ++ (source (Identifier.bracketed name)).toList)
    (by simp)
  simp only [assignment, Statement.assignment, String.toList_append, List.append_assoc, assignment?,
    first, front_read, source_read, Option.bind_eq_bind, Option.bind_some]
  rfl

-- A test is an assignment with a qualifier, between brackets.
theorem key_test_text : keyTest (Identifier.bracketed name) =
    "(" ++ ("target." ++ assignment (Identifier.bracketed name)) ++ ")" := by
  simp only [keyTest, equalityTest, assignment, Statement.assignment, String.append_assoc]

theorem key_test_bracketed : Bracketed (keyTest (Identifier.bracketed name)) := by
  rw [key_test_text]
  refine bracketed_of_closed _ (closed_of_passage [] _ (passage_behind [] "target." _ ?_
    (assignment_passage name [] (by simp))))
  exact filler_of_read [] _ [keyword "target", .sign ['.']] rfl (by decide) (by simp)

theorem key_test_read : test? (keyTest (Identifier.bracketed name)) = some (name, name) := by
  rw [test?, key_test_text, between_read, String.toList_append]
  simp only [Option.bind_eq_bind, Option.bind_some, front_read, assignment_read]

end Sources

section Lists

variable (names : List String)

theorem tests_read (present : names ≠ []) :
    tests? (conjunction ((names.map Identifier.bracketed).map keyTest)).toList =
      some (names.map fun name => (name, name)) := by
  have each (test : String) (member : test ∈ (names.map Identifier.bracketed).map keyTest) :
      Piece test := by
    rw [List.map_map, List.mem_map] at member
    obtain ⟨name, _, rfl⟩ := member
    exact piece_of_bracketed _ (key_test_bracketed name)
  have cutText := conjunction_pieces _ each
  have read := mapM_written test? (fun pair => keyTest (Identifier.bracketed pair.1))
    (names.map fun name => (name, name)) fun pair member => by
      obtain ⟨name, _, rfl⟩ := List.mem_map.mp member
      exact key_test_read name
  cases names with
  | nil => exact absurd rfl present
  | cons first rest =>
      rw [tests?, String.ofList_toList, cutText]
      simpa [Filter.written, Function.comp_def] using read

theorem sources_read (present : names ≠ []) :
    each? sourceName? (commas ((names.map Identifier.bracketed).map source)).toList = some names := by
  rw [List.map_map]
  exact each_read sourceName? _ names present (fun name _ => source_item name)
    fun name _ => source_read name

theorem assignments_read (present : names ≠ []) :
    each? assignment? (commas ((names.map Identifier.bracketed).map assignment)).toList =
      some (names.map fun name => (name, name)) := by
  have read := each_read assignment? (fun pair => assignment (Identifier.bracketed pair.1))
    (names.map fun name => (name, name)) (by simpa using present)
    (fun pair _ => assignment_passage pair.1 _ (by simp [keyword])) fun pair member => by
      obtain ⟨name, _, rfl⟩ := List.mem_map.mp member
      exact assignment_read name
  simpa [Function.comp_def] using read

end Lists

def updatesText (updated : List String) : String :=
  if updated = [] then "" else "MATCHED THEN UPDATE SET " ++ commas (updated.map assignment) ++ " WHEN "

theorem render_clauses (s : MergeStatement) : s.render.toList =
    ("MERGE " ++ s.table ++ " as target").toList ++ (spaced "USING".toList ++
      (("(VALUES(" ++ commas s.values ++ "))").toList ++ (spaced "AS".toList ++
        (("source (" ++ commas s.columns ++ ")").toList ++ (spaced "ON".toList ++
          (("(" ++ conjunction (s.keys.map keyTest) ++ ")").toList ++ (spaced "WHEN".toList ++
            ((updatesText s.updated).toList ++ ("NOT MATCHED THEN INSERT ".toList ++
              (("( " ++ commas s.columns ++ " )").toList ++ (spaced "VALUES".toList ++
                ("( " ++ commas (s.columns.map source) ++ " );").toList))))))))))) := by
  by_cases nothing : s.updated = []
  · simp [render, clauses, whenAny, updatesText, nothing, spaced, String.intercalate_cons_cons]
  · simp [render, clauses, whenAny, updatesText, nothing, spaced, String.intercalate_cons_cons]

theorem target_passage (schema table : String) : Passage [keyword "USING"]
    ("MERGE " ++ Identifier.bracketedPair schema table ++ " as target") := by
  have named := passage_behind [keyword "USING"] "MERGE " _
    (filler_of_read _ _ [keyword "MERGE"] rfl (by decide) (by decide))
    (table_passage _ (by decide) schema table)
  exact passage_append _ _ _ named (at_blank _)
    (passage_of_read _ " as target" [keyword "as", keyword "target"] rfl
      (contained_of_plain _ (by decide)) (by decide))

theorem row_passage (text : String) (closed : Closed text) :
    Passage [keyword "AS"] ("(VALUES(" ++ text ++ "))") := by
  obtain ⟨lexemes, read, contained⟩ := closed
  have called : run .nothing "VALUES(".toList = some ([keyword "VALUES", opening], .nothing) := rfl
  have inner : Closed ("VALUES(" ++ text ++ ")") := by
    refine ⟨keyword "VALUES" :: opening :: (lexemes ++ [closing]), ?_,
      contained_word _ _ (contained_brackets lexemes [] contained contained_nil)⟩
    simp only [String.toList_append, List.append_assoc]
    exact tokenize_closed _ _ _ _ called (tokenize_append _ _ _ _ read (at_closing _) rfl)
  have grouped := passage_grouped [keyword "AS"] _ inner
  have beginning : "(VALUES(" = "(" ++ "VALUES(" := rfl
  have ending : "))" = ")" ++ ")" := rfl
  simpa only [beginning, ending, String.append_assoc] using grouped

theorem source_passage (text : String) (closed : Closed text) :
    Passage [keyword "ON"] ("source (" ++ text ++ ")") := by
  have listed := passage_behind [keyword "ON"] "source " _
    (filler_of_read _ _ [keyword "source"] rfl (by decide) (by decide)) (passage_grouped _ text closed)
  have split : "source (" = "source " ++ "(" := rfl
  simpa only [split, String.append_assoc] using listed

theorem condition_passage (names : List String) : Passage [keyword "WHEN"]
    ("(" ++ conjunction ((names.map Identifier.bracketed).map keyTest) ++ ")") :=
  passage_grouped _ _ (conjunction_closed _ fun test member => by
    rw [List.map_map, List.mem_map] at member
    obtain ⟨name, _, rfl⟩ := member
    exact closed_of_bracketed _ (key_test_bracketed name))

-- Without assignments the clause is missing and the text goes on with the inserts.
theorem updates_read (names : List String) (rest : List Char)
    (front : rest.dropPrefix? "MATCHED THEN UPDATE SET ".toList = none) :
    updates? ((updatesText (names.map Identifier.bracketed)).toList ++ rest) =
      some (names.map fun name => (name, name), rest) := by
  by_cases unnamed : names = []
  · subst unnamed
    have nothing : (updatesText []).toList ++ rest = rest := rfl
    rw [List.map_nil, nothing, updates?, front]
    rfl
  · have list : Passage [keyword "WHEN"]
        (commas ((names.map Identifier.bracketed).map assignment)) :=
      commas_passage _ (by decide) _ fun text member => by
        simp only [List.map_map, List.mem_map, Function.comp_apply] at member
        obtain ⟨name, _, rfl⟩ := member
        exact assignment_passage name _ (by simp [keyword])
    have clause := clause_read "WHEN" (by decide) _ list rest
    have text : (updatesText (names.map Identifier.bracketed)).toList ++ rest =
        "MATCHED THEN UPDATE SET ".toList ++
          ((commas ((names.map Identifier.bracketed).map assignment)).toList ++
            (spaced "WHEN".toList ++ rest)) := by
      have present : names.map Identifier.bracketed ≠ [] := by simpa using unnamed
      rw [updatesText, if_neg present]
      simp only [String.toList_append, List.append_assoc]
      rfl
    rw [text, updates?, front_read]
    simp only [clause, Option.bind_eq_bind, Option.bind_some, assignments_read names unnamed]
    rfl

-- Each clause is read up to the word of the next one.
theorem read_render (schema table : String) (values columns keys updated : List String)
    (filled : values ≠ []) (each : ∀ value ∈ values, Item value) (named : columns ≠ [])
    (keyed : keys ≠ []) :
    MergeReading.read? (render ⟨Identifier.bracketedPair schema table,
      columns.map Identifier.bracketed, values, keys.map Identifier.bracketed,
      updated.map Identifier.bracketed⟩) =
      some {
        schema, table, values, columns
        tests := keys.map fun name => (name, name)
        updates := updated.map fun name => (name, name)
        inserted := columns
        sources := columns } := by
  have target := clause_read "USING" (by decide) _ (target_passage schema table)
  have row := clause_read "AS" (by decide) _ (row_passage _ (commas_closed values each))
  have source := clause_read "ON" (by decide) _ (source_passage _ (names_closed columns))
  have condition := clause_read "WHEN" (by decide) _ (condition_passage keys)
  have list := clause_read "VALUES" (by decide) _
    (passage_bracketed _ _ (padded_bracketed _ (names_closed columns)))
  have matched (rest : List Char) : ("NOT MATCHED THEN INSERT ".toList ++ rest).dropPrefix?
      "MATCHED THEN UPDATE SET ".toList = none := rfl
  have updates (rest : List Char) := updates_read updated _ (matched rest)
  have names := names_read columns named
  rw [MergeReading.read?, render_clauses]
  -- First the clauses, one behind the other; then what stands in each of them.
  refine Option.bind_eq_some_iff.mpr ⟨_, target _, ?_⟩
  refine Option.bind_eq_some_iff.mpr ⟨_, row _, ?_⟩
  refine Option.bind_eq_some_iff.mpr ⟨_, source _, ?_⟩
  refine Option.bind_eq_some_iff.mpr ⟨_, condition _, ?_⟩
  refine Option.bind_eq_some_iff.mpr ⟨_, updates _, ?_⟩
  refine Option.bind_eq_some_iff.mpr ⟨_, front_read _ _, ?_⟩
  refine Option.bind_eq_some_iff.mpr ⟨_, list _, ?_⟩
  simp only [between_read, whole_table_name_pair, texts_read values filled each, names,
    tests_read keys keyed, sources_read columns named, Option.bind_eq_bind, Option.bind_some]
  rfl

end Script.MergeStatement

namespace MergeReading

def ofTable (table : Table) (values : List String) : MergeReading where
  schema := table.schema
  table := table.name
  values := values
  columns := table.insertable.map (·.name)
  tests := table.keys.map fun key => (key.name, key.name)
  updates := (table.insertable.filter (·.isUpdatable)).map fun column => (column.name, column.name)
  inserted := table.insertable.map (·.name)
  sources := table.insertable.map (·.name)

theorem of_table_referenced (table : Table) (values : List String) :
    (ofTable table values).referenced = table.keys.map (·.name) ++
      (table.insertable.filter (·.isUpdatable)).map (·.name) ++ table.insertable.map (·.name) := by
  simp [referenced, ofTable, Function.comp_def]

-- Only the tests refer to columns that are not known to be inserted. As no two columns have one
-- name, a key whose name is among those of the source is itself a column that is inserted.
theorem of_table_closed_iff (table : Table) (values : List String)
    (distinct : Table.Distinct table.columns) :
    (ofTable table values).SourceClosed ↔ ∀ key ∈ table.keys, key.isInsertable = true := by
  rw [SourceClosed, of_table_referenced]
  constructor
  · intro closed key member
    obtain ⟨column, insertable, same⟩ := List.mem_map.mp (closed key.name
      (List.mem_append_left _ (List.mem_append_left _ (List.mem_map_of_mem member))))
    obtain ⟨inTable, inserts⟩ := List.mem_filter.mp insertable
    have equal : Identifier.sameName column.name key.name = true := by
      rw [same]
      exact BEq.rfl
    have one := Table.distinct_unique table.columns distinct column key inTable
      (List.mem_filter.mp member).1 equal
    exact one ▸ inserts
  · intro keys name member
    rcases List.mem_append.mp member with inTests | inSources
    · rcases List.mem_append.mp inTests with inKeys | inUpdates
      · obtain ⟨key, isKey, rfl⟩ := List.mem_map.mp inKeys
        exact List.mem_map_of_mem (List.mem_filter.mpr ⟨(List.mem_filter.mp isKey).1, keys key isKey⟩)
      · obtain ⟨column, updated, rfl⟩ := List.mem_map.mp inUpdates
        exact List.mem_map_of_mem (List.mem_filter.mp updated).1
    · exact inSources

end MergeReading

namespace Script

theorem merge_statement_ok (entity : EntityType) (record : Record) (statement : MergeStatement)
    (written : mergeStatement entity record = .ok statement) :
    ∃ table values, Table.ofMapping entity.mapping = .ok table ∧ table.insertable ≠ [] ∧
      table.keys ≠ [] ∧ InsertDraft.literals table.insertable record = .ok values ∧
      statement = ⟨table.qualifiedName, table.insertable.map Column.quoted, values,
        table.keys.map Column.quoted,
        (table.insertable.filter (·.isUpdatable)).map Column.quoted⟩ := by
  obtain ⟨table, mapped, rest⟩ := bind_ok_iff.mp written
  dsimp only at rest
  split at rest
  · cases rest
  · rename_i inserted
    split at rest
    · cases rest
    · rename_i keyed
      obtain ⟨values, rendered, same⟩ := bind_ok_iff.mp rest
      rw [pure_ok_iff] at same
      exact ⟨table, values, mapped, by simpa using inserted, by simpa using keyed, rendered,
        same.symm⟩

-- The text gives the row and the table back.
theorem merge_read (entity : EntityType) (record : Record) (text : String)
    (written : merge entity record = .ok text) :
    ∃ table values, Table.ofMapping entity.mapping = .ok table ∧
      MergeReading.read? text = some (.ofTable table values) ∧
      values.map .ok = table.insertable.map (·.render record) := by
  obtain ⟨statement, made, rfl⟩ := map_ok_iff.mp written
  obtain ⟨table, values, mapped, inserted, keyed, rendered, rfl⟩ :=
    merge_statement_ok entity record statement made
  have filled : values ≠ [] := by
    rintro rfl
    exact inserted (List.forall₂_nil_right_iff.mp (mapM_ok rendered))
  have items (value : String) (member : value ∈ values) : Item value := by
    obtain ⟨column, _, ofColumn⟩ := mapM_member rendered member
    obtain ⟨leaf, tokens⟩ := column.rendered_leaf record value ofColumn
    exact leaf_item value leaf tokens
  have read := MergeStatement.read_render table.schema table.name values
    (table.insertable.map (·.name)) (table.keys.map (·.name))
    ((table.insertable.filter (·.isUpdatable)).map (·.name)) filled items (by simpa using inserted)
    (by simpa using keyed)
  simp only [List.map_map, Function.comp_def] at read
  exact ⟨table, values, mapped, read, mapM_results rendered⟩

/-- A merge reads as the table, the inserted columns with the values of the row place by place, and
the tests of the keys; and it takes nothing from its source that is no column of it just when
inserts write every key. -/
theorem merge_closed_iff (entity : EntityType) (record : Record) (text : String)
    (written : merge entity record = .ok text) :
    ∃ table values, Table.ofMapping entity.mapping = .ok table ∧
      MergeReading.read? text = some (.ofTable table values) ∧
      values.map .ok = table.insertable.map (·.render record) ∧
      (MergeReading.ofTable table values).Aligned ∧
      ((MergeReading.ofTable table values).SourceClosed ↔
        ∀ key ∈ table.keys, key.isInsertable = true) := by
  obtain ⟨table, values, mapped, read, each⟩ := merge_read entity record text written
  have lengths : values.length = table.insertable.length := by
    simpa using congrArg List.length each
  have aligned : (MergeReading.ofTable table values).Aligned :=
    ⟨by simpa [MergeReading.ofTable] using lengths, rfl, rfl⟩
  have distinct := Table.of_mapping_distinct _ table mapped
  exact ⟨table, values, mapped, read, each, aligned,
    MergeReading.of_table_closed_iff table values distinct⟩

def splitting : Record :=
  ⟨"Multi", [("k1", .ok (.integer .int32 (-1))), ("k2", .ok (.text ")) AS source (")),
    ("body", .ok (.text "' WHEN '")), ("é", .ok .null)]⟩

theorem splitting_closed_iff :
    ∃ text, merge ⟨"Multi", Sample.multi⟩ splitting = .ok text ∧
      ∃ table values, Table.ofMapping Sample.multi = .ok table ∧
        MergeReading.read? text = some (.ofTable table values) ∧
        values.map .ok = table.insertable.map (·.render splitting) ∧
        (MergeReading.ofTable table values).Aligned ∧
        ((MergeReading.ofTable table values).SourceClosed ↔
          ∀ key ∈ table.keys, key.isInsertable = true) :=
  ⟨_, rfl, merge_closed_iff ⟨"Multi", Sample.multi⟩ splitting _ rfl⟩

def numberedRow : Record :=
  ⟨"Identity", [("id", .ok (.integer .int32 7)), ("name", .ok (.text "Ann")), ("stamp", .ok .null)]⟩

/-- The statement is built, and its test takes the key from a source that has no such column. -/
theorem numbered_source_open :
    ∃ text reading, merge ⟨"Identity", Sample.identity⟩ numberedRow = .ok text ∧
      MergeReading.read? text = some reading ∧ reading.tests = [("Id", "Id")] ∧
      reading.columns = ["Name", "Stamp"] ∧ ¬ reading.SourceClosed := by
  obtain ⟨table, values, mapped, read, _⟩ :=
    merge_read ⟨"Identity", Sample.identity⟩ numberedRow _ rfl
  have known : (Table.ofMapping Sample.identity).map (fun table =>
      ((MergeReading.ofTable table values).tests, (MergeReading.ofTable table values).columns)) =
        .ok ([("Id", "Id")], ["Name", "Stamp"]) := rfl
  rw [mapped] at known
  obtain ⟨tests, columns⟩ := Prod.mk.inj (Except.ok.inj known)
  refine ⟨_, _, rfl, read, tests, columns, fun closed => ?_⟩
  have inside := closed "Id" (by simp [MergeReading.referenced, tests])
  rw [columns] at inside
  revert inside
  decide

end Script

end MappedSql
