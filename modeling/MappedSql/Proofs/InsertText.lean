import MappedSql.Draft.Insert
import MappedSql.Proofs.ItemLists
import MappedSql.Proofs.Joins
import MappedSql.Proofs.UpdateText

/-!
The text of an insert, read back. A reader that knows nothing of the mapping finds the table, the
names of the columns and the literals of each row in the text; they are those that the mapping and
the steps of the draft call for, each literal in the place of its column.
-/

namespace MappedSql

open Lexer Cutting Outcome Statement Reading

structure InsertReading where
  schema : String
  table : String
  columns : List String
  rows : List (List String)
  deriving DecidableEq, Repr

namespace InsertReading

def row? (text : List Char) : Option (List String) :=
  (between? "( ".toList " )".toList text).bind (each? (some ∘ String.ofList))

def read? (text : String) : Option InsertReading := do
  let (heading, behind) ← clause? "VALUES" text.toList
  let named ← heading.dropPrefix? "INSERT INTO ".toList
  let ((schema, table), list) ← tableName? named
  let columns ← (between? " ( ".toList " )".toList list).bind (each? wholeName?)
  let rows ← (behind.dropSuffix? ";".toList).bind (each? row?)
  return ⟨schema, table, columns, rows⟩

end InsertReading

namespace InsertStatement

variable (schema table : String) (names : List String)

theorem row_text_read (row : List String) (filled : row ≠ []) (each : ∀ literal ∈ row, Item literal) :
    InsertReading.row? (rowText row).toList = some row := by
  rw [InsertReading.row?, rowText, between_read, Option.bind_some, texts_read row filled each]

theorem row_text_item (row : List String) (each : ∀ literal ∈ row, Item literal) :
    Item (rowText row) :=
  bracketed_item _ (padded_bracketed _ (commas_closed row each))

theorem heading_passage :
    Passage [keyword "VALUES"]
      (heading (Identifier.bracketedPair schema table) (names.map Identifier.bracketed)) := by
  have list := passage_bracketed [keyword "VALUES"] _ (padded_bracketed _ (names_closed names))
  have named := passage_behind [keyword "VALUES"] "INSERT INTO " _
    (filler_of_read _ _ [keyword "INSERT", keyword "INTO"] rfl (by decide) (by decide))
    (table_passage _ (by decide) schema table)
  have whole := passage_between _ _ " " _ named at_blank (blank_filler _) list
  have split : " ( " = " " ++ "( " := rfl
  unfold heading
  rw [split]
  simpa only [String.append_assoc] using whole

-- The heading ends at its word; the names and the rows come apart at the commas outside, and the
-- literals of a row at those within its brackets.
theorem read_render (rows : List (List String)) (named : names ≠ []) (present : rows ≠ [])
    (filled : ∀ row ∈ rows, row ≠ []) (each : ∀ row ∈ rows, ∀ literal ∈ row, Item literal) :
    InsertReading.read? (render ⟨Identifier.bracketedPair schema table,
      names.map Identifier.bracketed, rows⟩) = some ⟨schema, table, names, rows⟩ := by
  have clause := clause_read "VALUES" (by decide) _ (heading_passage schema table names)
    ((commas (rows.map rowText)).toList ++ ";".toList)
  have pair := table_name_pair schema table
    (" ( " ++ commas (names.map Identifier.bracketed) ++ " )").toList (by simp)
  have back : ((commas (rows.map rowText)).toList ++ ";".toList).dropSuffix? ";".toList =
      some (commas (rows.map rowText)).toList :=
    List.dropSuffix?_eq_some_iff.mpr ⟨_, rfl, BEq.rfl⟩
  have lines := each_read InsertReading.row? rowText rows present
    (fun row member => row_text_item row (each row member))
    fun row member => row_text_read row (filled row member) (each row member)
  have text : (render ⟨Identifier.bracketedPair schema table, names.map Identifier.bracketed,
      rows⟩).toList = (heading (Identifier.bracketedPair schema table)
        (names.map Identifier.bracketed)).toList ++ (spaced "VALUES".toList ++
          ((commas (rows.map rowText)).toList ++ ";".toList)) := by
    simp only [render, String.toList_append, List.append_assoc]
    rfl
  have headed : (heading (Identifier.bracketedPair schema table)
      (names.map Identifier.bracketed)).toList = "INSERT INTO ".toList ++
        ((Identifier.bracketedPair schema table).toList ++
          (" ( " ++ commas (names.map Identifier.bracketed) ++ " )").toList) := by
    unfold heading
    simp only [String.toList_append, List.append_assoc]
  rw [InsertReading.read?, text, clause]
  simp only [headed, front_read, pair, between_read, back, Option.bind_eq_bind, Option.bind_some,
    names_read names named, lines]
  rfl

example : InsertReading.read? "INSERT INTO [a].[b] ( [x],[),(] ) VALUES ( 1,'),(' ),( 2,NULL );" =
    some ⟨"a", "b", ["x", "),("], [["1", "'),('"], ["2", "NULL"]]⟩ := by decide +kernel

end InsertStatement

theorem AdditionalColumns.quoted_names_ok (columns : AdditionalColumns) (names : List String)
    (quoted : columns.quotedNames = .ok names) :
    names = columns.entries.map fun entry => Identifier.bracketed entry.1 := by
  have each := mapM_ok quoted
  rw [← List.forall₂_eq_eq_eq, List.forall₂_map_right_iff]
  refine List.Forall₂.flip (each.imp fun entry name written => ?_)
  obtain ⟨_, _, same⟩ := bind_ok_iff.mp written
  exact (pure_ok_iff.mp same).symm

namespace InsertDraft

def listed (table : Table) (given : NamedList Value) : List String :=
  table.insertable.map (·.name) ++ given.map Prod.fst

def cells (table : Table) (given : NamedList Value) (record : Record) :
    List (Except Fault String) :=
  table.insertable.map (·.render record) ++ given.map (·.2.render .plain)

theorem names_ok (table : Table) (additional : AdditionalColumns) (texts : List String)
    (named : names table additional = .ok texts) : listed table additional.entries ≠ [] ∧
      texts = (listed table additional.entries).map Identifier.bracketed := by
  obtain ⟨more, quoted, rest⟩ := bind_ok_iff.mp named
  obtain rfl := additional.quoted_names_ok more quoted
  dsimp only at rest
  split at rest
  · cases rest
  · rename_i present
    rw [pure_ok_iff] at rest
    refine ⟨by simpa [listed] using present, ?_⟩
    rw [← rest, listed, List.map_append, List.map_map, List.map_map]
    rfl

theorem row_ok (table : Table) (additional : AdditionalColumns) (more : List String)
    (rendered : additional.literals = .ok more) (record : Record) (literals : List String)
    (written : row table more record = .ok literals) :
    literals.map .ok = cells table additional.entries record := by
  obtain ⟨own, ofColumns, joined⟩ := bind_ok_iff.mp written
  rw [pure_ok_iff] at joined
  rw [← joined, List.map_append, mapM_results ofColumns, mapM_results rendered, cells]

theorem statement_ok (insert : InsertDraft) (statement : InsertStatement)
    (written : insert.statement = .ok statement) :
    ∃ target rows, insert.draft.aliases.target = .ok target ∧ insert.rows ≠ [] ∧
      listed target.table insert.additional.entries ≠ [] ∧
      List.Forall₂ (fun record row =>
        row.map .ok = cells target.table insert.additional.entries record) insert.rows rows ∧
      statement = ⟨target.table.qualifiedName,
        (listed target.table insert.additional.entries).map Identifier.bracketed, rows⟩ := by
  obtain ⟨target, targeted, filled⟩ := bind_ok_iff.mp written
  dsimp only at filled
  split at filled
  · cases filled
  · rename_i present
    obtain ⟨columns, named, rest⟩ := bind_ok_iff.mp filled
    obtain ⟨more, rendered, rest⟩ := bind_ok_iff.mp rest
    obtain ⟨rows, made, same⟩ := bind_ok_iff.mp rest
    obtain ⟨listed, rfl⟩ := names_ok target.table insert.additional columns named
    rw [pure_ok_iff] at same
    refine ⟨target, rows, targeted, by simpa using present, listed, ?_, same.symm⟩
    exact (mapM_ok made).imp fun record row ofRecord =>
      row_ok target.table insert.additional more rendered record row ofRecord

theorem cells_length (table : Table) (given : NamedList Value) (record : Record) (row : List String)
    (filled : row.map .ok = cells table given record) : row.length = (listed table given).length := by
  simpa [cells, listed] using congrArg List.length filled

-- Each place of a row holds a literal.
theorem cells_item (table : Table) (given : NamedList Value) (record : Record) (text : String)
    (member : .ok text ∈ cells table given record) : Item text := by
  rcases List.mem_append.mp member with inOwn | inMore
  · obtain ⟨column, _, rendered⟩ := List.mem_map.mp inOwn
    obtain ⟨leaf, read⟩ := column.rendered_leaf record text rendered
    exact leaf_item text leaf read
  · obtain ⟨entry, _, rendered⟩ := List.mem_map.mp inMore
    obtain ⟨leaf, read⟩ := Value.rendered_closed entry.2 text rendered
    exact leaf_item text leaf read

-- A row is never empty, because the columns that it has literals for are not.
theorem cells_read (table : Table) (given : NamedList Value) (records : List Record)
    (rows : List (List String)) (named : listed table given ≠ []) (present : records ≠ [])
    (each : List.Forall₂ (fun record row => row.map .ok = cells table given record) records rows) :
    InsertReading.read? (InsertStatement.render ⟨table.qualifiedName,
        (listed table given).map Identifier.bracketed, rows⟩) =
      some ⟨table.schema, table.name, listed table given, rows⟩ := by
  refine InsertStatement.read_render table.schema table.name _ rows named ?_ ?_ ?_
  · rintro rfl
    exact present (List.forall₂_nil_right_iff.mp each)
  · intro row member empty
    obtain ⟨record, _, ofRecord⟩ := forall₂_member each member
    have length := cells_length table given record row ofRecord
    rw [empty, List.length_nil] at length
    exact named (List.length_eq_zero_iff.mp length.symm)
  · intro row member literal inside
    obtain ⟨record, _, ofRecord⟩ := forall₂_member each member
    exact cells_item table given record literal (ofRecord ▸ List.mem_map_of_mem inside)

end InsertDraft

-- Where each step puts its entries, a run puts the entries of all of its steps.
theorem NamedList.put_all_steps {α δ σ : Type} (entries : δ → NamedList α) (apply : δ → σ → δ)
    (given : σ → List (String × α))
    (each : ∀ state step, entries (apply state step) = (entries state).putAll (given step))
    (state : δ) (steps : List σ) :
    entries (steps.foldl apply state) = (entries state).putAll (steps.flatMap given) := by
  induction steps generalizing state with
  | nil => rfl
  | cons step rest ih =>
      rw [List.foldl_cons, ih, each, List.flatMap_cons]
      exact List.foldl_append.symm

namespace InsertDraft

namespace Step

def rows : Step → List Record
  | .addRows rows => rows
  | _ => []

def columns : Step → List (String × Value)
  | .additional columns => columns
  | _ => []

end Step

def givenRows (steps : List Step) : List Record :=
  steps.flatMap Step.rows

/-- The additional columns of all steps: the places are those of the first values, the values the
last. -/
def givenColumns (steps : List Step) : NamedList Value :=
  NamedList.putAll [] (steps.flatMap Step.columns)

structure Grows (before after : InsertDraft) (rows : List Record)
    (columns : List (String × Value)) : Prop where
  rows : after.rows = before.rows ++ rows
  columns : after.additional.entries = before.additional.entries.putAll columns
  aliases : after.draft.aliases = before.draft.aliases
  fault : after.draft.fault = before.draft.fault

theorem apply_grows (insert : InsertDraft) (step : Step) :
    Grows insert (insert.apply step) step.rows step.columns := by
  cases step with
  | configure settings => exact ⟨(List.append_nil _).symm, rfl, rfl, rfl⟩
  | addRows rows => exact ⟨rfl, rfl, rfl, rfl⟩
  | additional columns => exact ⟨(List.append_nil _).symm, rfl, rfl, rfl⟩

theorem run_grows (insert : InsertDraft) (steps : List Step) :
    Grows insert (steps.foldl apply insert) (givenRows steps) (steps.flatMap Step.columns) := by
  induction steps generalizing insert with
  | nil => exact ⟨(List.append_nil _).symm, rfl, rfl, rfl⟩
  | cons step rest ih =>
      have first := insert.apply_grows step
      have later := ih (insert.apply step)
      refine ⟨?_, ?_, later.aliases.trans first.aliases, later.fault.trans first.fault⟩
      · rw [List.foldl_cons, later.rows, first.rows, List.append_assoc]
        rfl
      · rw [List.foldl_cons, later.columns, first.columns, List.flatMap_cons]
        exact List.foldl_append.symm

theorem run_target (target : EntityType) (steps : List Step)
    (succeeded : (run target steps).draft.fault = none) :
    ∃ table, Table.ofMapping target.mapping = .ok table ∧
      (run target steps).draft.aliases.target =
        .ok ⟨target.name, table, Aliases.numbered 0, true⟩ := by
  have grown := run_grows (start target) steps
  obtain ⟨table, aliases, mapped, only, begun⟩ :=
    Draft.start_ok target (grown.fault.symm.trans succeeded)
  have same : (run target steps).draft.aliases = (Draft.start target).aliases := grown.aliases
  exact ⟨table, mapped, by simp [same, begun, Aliases.target, only]⟩

theorem statement_read (target : EntityType) (steps : List Step) (text : String)
    (built : StatementDraft.build (run target steps) = .ok text) :
    ∃ table rows, Table.ofMapping target.mapping = .ok table ∧
      InsertReading.read? text =
        some ⟨table.schema, table.name, listed table (givenColumns steps), rows⟩ ∧
      List.Forall₂ (fun record row => row.map .ok = cells table (givenColumns steps) record)
        (givenRows steps) rows := by
  obtain ⟨succeeded, written⟩ := (StatementDraft.build_ok_iff _ _).mp built
  obtain ⟨statement, made, rfl⟩ := map_ok_iff.mp written
  obtain ⟨table, mapped, isTarget⟩ := run_target target steps succeeded
  obtain ⟨participant, rows, targeted, present, named, each, rfl⟩ :=
    (run target steps).statement_ok statement made
  obtain rfl : participant = ⟨target.name, table, Aliases.numbered 0, true⟩ :=
    Except.ok.inj (targeted.symm.trans isTarget)
  have grown := run_grows (start target) steps
  have columns : (run target steps).additional.entries = givenColumns steps := grown.columns
  have given : (run target steps).rows = givenRows steps := grown.rows
  rw [columns, given] at each
  rw [columns] at named
  rw [given] at present
  refine ⟨table, rows, mapped, ?_, each⟩
  rw [columns]
  exact cells_read table (givenColumns steps) (givenRows steps) rows named present each

/-- The statement reads as the table of the type, the columns that inserts write with the
additional ones behind them, and a row for each item with the literal of each column in its place.
-/
theorem text_read (target : EntityType) (steps : List Step) (text : String)
    (built : StatementDraft.build (run target steps) = .ok text) :
    ∃ table rows, Table.ofMapping target.mapping = .ok table ∧
      InsertReading.read? text =
        some ⟨table.schema, table.name, listed table (givenColumns steps), rows⟩ ∧
      List.Forall₂ (fun record row => row.map .ok = cells table (givenColumns steps) record)
        (givenRows steps) rows ∧
      ∀ row ∈ rows, row.length = (listed table (givenColumns steps)).length := by
  obtain ⟨table, rows, mapped, read, each⟩ := statement_read target steps text built
  refine ⟨table, rows, mapped, read, each, ?_⟩
  intro row member
  obtain ⟨record, _, ofRecord⟩ := forall₂_member each member
  exact cells_length table (givenColumns steps) record row ofRecord

def misleading : List Step :=
  let row (first : Int) (second body : String) : Record :=
    ⟨"Multi", [("k1", .ok (.integer .int32 first)), ("k2", .ok (.text second)),
      ("body", .ok (.text body)), ("é", .ok .null)]⟩
  [.addRows [row (-1) "'),('" "') VALUES ("],
    .additional [("a] ) VALUES (", .text "),("), ("by", .null)],
    .addRows [row 2 ", " "'';"],
    .additional [("by", .integer .int32 (-7))]]

theorem misleading_text_read :
    ∃ text, StatementDraft.build (run ⟨"Multi", Sample.multi⟩ misleading) = .ok text ∧
      ∃ table rows, Table.ofMapping Sample.multi = .ok table ∧
        InsertReading.read? text =
          some ⟨table.schema, table.name, listed table (givenColumns misleading), rows⟩ ∧
        List.Forall₂ (fun record row =>
          row.map .ok = cells table (givenColumns misleading) record) (givenRows misleading) rows ∧
        ∀ row ∈ rows, row.length = (listed table (givenColumns misleading)).length :=
  ⟨_, rfl, text_read ⟨"Multi", Sample.multi⟩ misleading _ rfl⟩

end InsertDraft

end MappedSql
