import MappedSql.Proofs.QueriedValues
import MappedSql.Proofs.UpdatedColumns
import MappedSql.Proofs.WrittenNumbers

/-!
The columns that queries of scripts select. A query asks for the columns that inserts write. Inserts
and merges of a table without such a column are refused; a query of it is written nevertheless, with
nothing between its first words and FROM. The limit, the condition and the sorting stand where they
belong in any case.
-/

namespace MappedSql

open Lexer Cutting Outcome Statement Reading

def Mapping.insertedNames (mapping : Mapping) : List String :=
  (mapping.mapped.filter fun entry => entry.2.writes != .neither).map (·.2.name)

theorem Table.of_mapping_insertable (mapping : Mapping) (table : Table)
    (accepted : ofMapping mapping = .ok table) :
    table.insertable.map (·.name) = mapping.insertedNames := by
  refine of_mapping_picked mapping table accepted _ (·.writes != .neither) fun _ declared => ?_
  unfold Column.isInsertable Column.ofMapping Column.normalRule
  cases declared.primaryKey <;> cases declared.writes <;> rfl

/-- A query as a reader sees it. What stands before FROM is a list of names, or it is none. -/
structure SelectReading where
  limit : Option Nat
  columns : Option (List String)
  schema : String
  table : String
  behind : String
  deriving DecidableEq, Repr

namespace SelectReading

def limit? (text : List Char) : Option Nat × List Char :=
  match text.dropPrefix? "TOP ".toList with
  | some rest =>
      (some (Number.digitsValue (rest.takeWhile (·.isDigit))), (rest.dropWhile (·.isDigit)).drop 1)
  | none => (none, text)

def read? (text : String) : Option SelectReading := do
  let text ← text.toList.dropPrefix? "SELECT ".toList
  let (limit, text) := limit? text
  let (list, text) ← clause? "FROM" text
  let ((schema, table), behind) ← tableName? text
  return ⟨limit, each? wholeName? list, schema, table, String.ofList behind⟩

def limitText : Option Nat → String
  | some count => "TOP " ++ Number.digitsText count ++ " "
  | none => ""

theorem limit_read (limit : Option Nat) (rest : List Char) (other : rest.head? ≠ some 'T') :
    limit? ((limitText limit).toList ++ rest) = (limit, rest) := by
  cases limit with
  | none =>
      have absent : rest.dropPrefix? "TOP ".toList = none := by
        cases rest with
        | nil => rfl
        | cons c more =>
            have different : (c == 'T') = false := by simpa using other
            simp [List.dropPrefix?, different]
      simp only [limitText, String.toList_empty, List.nil_append, limit?, absent]
  | some count =>
      obtain ⟨digits, behind⟩ := Number.span_exact (·.isDigit) (Nat.toDigits 10 count) (' ' :: rest)
        (fun c member => Nat.isDigit_of_mem_toDigits (by decide) (by decide) member) (by simp)
      have text : (limitText (some count)).toList ++ rest =
          "TOP ".toList ++ (Nat.toDigits 10 count ++ ' ' :: rest) := by
        simp [limitText, Number.digitsText]
      rw [text, limit?, front_read]
      simp only [digits, behind, Number.decimal_digits_value, List.drop_one, List.tail_cons]

theorem names_passage (names : List String) :
    Passage [keyword "FROM"] (commas (names.map Identifier.bracketed)) := by
  refine commas_passage _ (by decide) _ fun text member => ?_
  obtain ⟨name, _, rfl⟩ := List.mem_map.mp member
  exact name_passage _ (by decide) name

-- Names begin with brackets, so neither they nor their absence can be taken for a limit.
theorem names_head (names : List String) (rest : List Char) :
    ((commas (names.map Identifier.bracketed)).toList ++ (spaced "FROM".toList ++ rest)).head? ≠
      some 'T' := by
  cases names with
  | nil => simp [commas, spaced]
  | cons name more =>
      cases more <;> simp [commas, String.intercalate_cons_cons, Identifier.bracketed]

/-- A query is read as it is put together, if what stands behind the table does not go on with its
name. The columns are read just when there is one. -/
theorem read_parts (limit : Option Nat) (names : List String) (schema table behind : String)
    (stops : behind.toList.head? ≠ some ']') :
    ∃ columns, (columns = some names ↔ names ≠ []) ∧
      read? ("SELECT " ++ limitText limit ++ commas (names.map Identifier.bracketed) ++ " FROM " ++
        Identifier.bracketedPair schema table ++ behind) =
          some ⟨limit, columns, schema, table, behind⟩ := by
  have text : ("SELECT " ++ limitText limit ++ commas (names.map Identifier.bracketed) ++ " FROM " ++
      Identifier.bracketedPair schema table ++ behind).toList =
        "SELECT ".toList ++ ((limitText limit).toList ++
          ((commas (names.map Identifier.bracketed)).toList ++ (spaced "FROM".toList ++
            ((Identifier.bracketedPair schema table).toList ++ behind.toList)))) := by
    simp only [String.toList_append, List.append_assoc]
    rfl
  refine ⟨each? wholeName? (commas (names.map Identifier.bracketed)).toList, ?_, ?_⟩
  · constructor
    · rintro found rfl
      cases found
    · exact names_read names
  · rw [read?, text, front_read]
    simp only [Option.bind_eq_bind, Option.bind_some]
    rw [limit_read limit _ (names_head names _)]
    simp only [clause_read "FROM" (by decide) _ (names_passage names),
      table_name_pair schema table _ stops, Option.bind_some, String.ofList_toList]
    rfl

end SelectReading

namespace Script

inductive SelectSource where
  | everything
  | raw (condition : String)
  | values (values : NamedList Value)
  | stated (condition : Condition)

namespace SelectSource

def text : SelectSource → Except Fault String
  | .everything => .ok ""
  | .raw condition => .ok condition
  | .values entries => (entries.mapM valueTest).map conjunction
  | .stated condition => .ok condition.text

/-- There is a condition: a text that is not blank, or a value at least. -/
def given : SelectSource → Bool
  | .everything => false
  | .raw condition => !Text.isBlank condition
  | .values entries => !entries.isEmpty
  | .stated condition => !Text.isBlank condition.text

def select (settings : Settings) (entity : EntityType) (options : SelectOptions) :
    SelectSource → Except Fault String
  | .everything => Script.select settings entity "" options
  | .raw condition => Script.select settings entity condition options
  | .values entries => selectByValues settings entity entries options
  | .stated condition => selectByCondition settings entity condition options

theorem select_text (source : SelectSource) (settings : Settings) (entity : EntityType)
    (options : SelectOptions) : source.select settings entity options =
      source.text >>= fun condition => Script.select settings entity condition options := by
  cases source with
  | values entries =>
      simp only [select, selectByValues, text]
      cases List.mapM valueTest entries <;> rfl
  | _ => rfl

-- Each test stands in brackets.
theorem value_test_present (entry : String × Value) (test : String)
    (written : valueTest entry = .ok test) : Text.isBlank test = false := by
  unfold valueTest at written
  obtain ⟨column, _, rest⟩ := bind_ok_iff.mp written
  split at rest
  · obtain rfl := pure_ok_iff.mp rest
    have split : "(" ++ column ++ " IS NULL)" = "(" ++ (column ++ " IS NULL") ++ ")" := by
      simp only [String.append_assoc]
      rfl
    rw [split, Text.bracketed_present]
  · obtain ⟨value, _, same⟩ := bind_ok_iff.mp rest
    obtain rfl := pure_ok_iff.mp same
    have split : equalityTest column value = "(" ++ (column ++ " = " ++ value) ++ ")" := by
      simp only [equalityTest, String.append_assoc]
    rw [split, Text.bracketed_present]

theorem text_given (source : SelectSource) (condition : String)
    (written : source.text = .ok condition) : Text.isBlank condition = !source.given := by
  cases source with
  | values entries =>
      obtain ⟨tests, each, rfl⟩ := map_ok_iff.mp written
      have all := mapM_ok each
      cases all with
      | nil => rfl
      | @cons entry test entries tests first rest =>
          have present := value_test_present entry test first
          cases rest with
          | nil => simpa [conjunction, given] using present
          | cons =>
              simp [conjunction, given, String.intercalate_cons_cons, Text.blank_append, present]
  | everything =>
      cases written
      decide
  | raw condition =>
      cases written
      simp [given]
  | stated condition =>
      cases written
      simp [given]

end SelectSource

def selectTail (condition : String) (keys : List String) : String :=
  (if Text.isBlank condition then "" else " WHERE " ++ Text.trim condition) ++
    (if keys = [] then "" else " ORDER BY " ++ commas keys)

theorem select_ok_iff (settings : Settings) (entity : EntityType) (table : Table)
    (mapped : Table.ofMapping entity.mapping = .ok table) (condition : String)
    (options : SelectOptions) (text : String) :
    select settings entity condition options = .ok text ↔
      ∃ keys, options.sorting.mapM sortKey = .ok keys ∧
        text = "SELECT " ++ SelectReading.limitText options.rowLimit ++
          commas ((table.insertable.map (·.name)).map Identifier.bracketed) ++ " FROM " ++
          table.qualifiedName ++ (settings.hintSuffix ++ selectTail condition keys) := by
  have parts (keys : List String) :
      clauses (["SELECT"] ++ limitClause options.rowLimit ++
        [commas (table.insertable.map Column.quoted),
          "FROM " ++ table.qualifiedName ++ settings.hintSuffix] ++
        (if (Text.trim condition).isEmpty then [] else ["WHERE " ++ Text.trim condition]) ++
        whenAny keys ("ORDER BY " ++ commas keys)) =
      "SELECT " ++ SelectReading.limitText options.rowLimit ++
        commas ((table.insertable.map (·.name)).map Identifier.bracketed) ++ " FROM " ++
        table.qualifiedName ++ (settings.hintSuffix ++ selectTail condition keys) := by
    have names : (table.insertable.map (·.name)).map Identifier.bracketed =
        table.insertable.map Column.quoted := List.map_map
    rw [Text.trim_empty, names, ← String.toList_inj]
    cases options.rowLimit <;> cases blank : Text.isBlank condition <;> cases keys <;>
      simp [clauses, limitClause, SelectReading.limitText, whenAny, selectTail, blank]
  simp only [select, mapped, bind_ok_iff, pure_ok_iff]
  constructor
  · rintro ⟨_, same, keys, sorted, rfl⟩
    obtain rfl := Except.ok.inj same
    exact ⟨keys, sorted, parts keys⟩
  · rintro ⟨keys, sorted, rfl⟩
    exact ⟨table, rfl, keys, sorted, parts keys⟩

theorem tail_head (settings : Settings) (condition : String) (keys : List String) :
    (settings.hintSuffix ++ selectTail condition keys).toList.head? ≠ some ']' := by
  unfold Settings.hintSuffix selectTail
  split <;> split_ifs <;> simp

structure SelectSource.Reads (source : SelectSource) (settings : Settings) (options : SelectOptions)
    (table : Table) (reading : SelectReading) : Prop where
  limit : reading.limit = options.rowLimit
  schema : reading.schema = table.schema
  table : reading.table = table.name
  behind : ∃ condition keys, source.text = .ok condition ∧
    options.sorting.mapM sortKey = .ok keys ∧
    reading.behind = settings.hintSuffix ++
      ((if source.given then " WHERE " ++ Text.trim condition else "") ++
        (if options.sorting = [] then "" else " ORDER BY " ++ commas keys))

theorem select_tail_given (source : SelectSource) (options : SelectOptions) (condition : String)
    (keys : List String) (written : source.text = .ok condition)
    (sorted : options.sorting.mapM sortKey = .ok keys) :
    selectTail condition keys =
      (if source.given then " WHERE " ++ Text.trim condition else "") ++
        (if options.sorting = [] then "" else " ORDER BY " ++ commas keys) := by
  have unsorted : keys = [] ↔ options.sorting = [] := by
    rw [← List.length_eq_zero_iff, ← (mapM_ok sorted).length_eq, List.length_eq_zero_iff]
  rw [selectTail, source.text_given condition written]
  cases source.given <;> simp [unsorted]

section Refused

variable (entity : EntityType) (table : Table) (mapped : Table.ofMapping entity.mapping = .ok table)
  (nothing : table.insertable = []) (record : Record)

include mapped nothing

theorem insert_no_column :
    insert entity record .none = .error (.noInsertableColumn table.qualifiedName) := by
  have named : InsertDraft.names table .none = .error (.noInsertableColumn table.qualifiedName) := by
    rw [InsertDraft.names, nothing]
    rfl
  simp only [insert, insertStatement, mapped, bind, Except.bind, named]
  rfl

theorem merge_no_column :
    merge entity record = .error (.noInsertableColumn table.qualifiedName) := by
  simp only [merge, mergeStatement, mapped, nothing, bind, Except.bind]
  rfl

end Refused

/-- Of what a query is to say, all is there in any case but the columns: the names that inserts
write, in the order of their declaration, stand between the limit and the table just when there is
such a name. Where there is none, an insert and a merge are refused. -/
theorem SelectSource.selects_columns_iff (source : SelectSource) (settings : Settings)
    (entity : EntityType) (table : Table) (mapped : Table.ofMapping entity.mapping = .ok table)
    (options : SelectOptions) (text : String)
    (selected : source.select settings entity options = .ok text) :
    ∃ reading, SelectReading.read? text = some reading ∧
      source.Reads settings options table reading ∧
      (reading.columns = some entity.mapping.insertedNames ↔ entity.mapping.insertedNames ≠ []) ∧
      (entity.mapping.insertedNames = [] → ∀ record,
        insert entity record .none = .error (.noInsertableColumn table.qualifiedName) ∧
        merge entity record = .error (.noInsertableColumn table.qualifiedName)) := by
  rw [source.select_text] at selected
  obtain ⟨condition, written, selected⟩ := bind_ok_iff.mp selected
  obtain ⟨keys, sorted, rfl⟩ :=
    (select_ok_iff settings entity table mapped condition options text).mp selected
  obtain ⟨columns, named, read⟩ := SelectReading.read_parts options.rowLimit
    (table.insertable.map (·.name)) table.schema table.name _ (tail_head settings condition keys)
  rw [Table.of_mapping_insertable entity.mapping table mapped] at named read ⊢
  refine ⟨_, read, ⟨rfl, rfl, rfl, condition, keys, written, sorted, ?_⟩, named, ?_⟩
  · rw [select_tail_given source options condition keys written sorted]
  · intro nameless record
    have nothing : table.insertable = [] := by
      rw [← Table.of_mapping_insertable entity.mapping table mapped] at nameless
      exact List.map_eq_nil_iff.mp nameless
    exact ⟨insert_no_column entity table mapped nothing record,
      merge_no_column entity table mapped nothing record⟩

-- The audit has a column that the database writes; the condition looks like the end of the columns.
theorem audit_columns_selected :
    ∃ table text reading, Table.ofMapping Sample.audit = .ok table ∧
      (SelectSource.raw "  [Payload] <> ' FROM ' ").select {} ⟨"Audit", Sample.audit⟩
        ⟨[("CreatedAt", .descending), ("Id", .ascending)], some 3⟩ = .ok text ∧
      SelectReading.read? text = some reading ∧
      (SelectSource.raw "  [Payload] <> ' FROM ' ").Reads {}
        ⟨[("CreatedAt", .descending), ("Id", .ascending)], some 3⟩ table reading ∧
      reading.columns = some ["Id", "CreatedAt", "Payload"] := by
  obtain ⟨reading, read, reads, columns, _⟩ :=
    (SelectSource.raw "  [Payload] <> ' FROM ' ").selects_columns_iff {} ⟨"Audit", Sample.audit⟩ _
      rfl ⟨[("CreatedAt", .descending), ("Id", .ascending)], some 3⟩ _ rfl
  exact ⟨_, _, reading, rfl, rfl, read, reads, columns.mpr (by decide)⟩

def computedRow : Record :=
  ⟨"Computed", [("id", .ok (.integer .int32 7)), ("sum", .ok .null)]⟩

/-- Of a table whose columns are all computed nothing is selected, where an insert and a merge are
refused. -/
theorem computed_query_bare :
    SelectSource.everything.select {} ⟨"Computed", Sample.computed⟩ {} =
        .ok "SELECT  FROM [v].[Computed] WITH (NOLOCK)" ∧
      SelectReading.read? "SELECT  FROM [v].[Computed] WITH (NOLOCK)" =
        some ⟨none, none, "v", "Computed", " WITH (NOLOCK)"⟩ ∧
      insert ⟨"Computed", Sample.computed⟩ computedRow .none =
        .error (.noInsertableColumn "[v].[Computed]") ∧
      merge ⟨"Computed", Sample.computed⟩ computedRow =
        .error (.noInsertableColumn "[v].[Computed]") :=
  ⟨rfl, by decide +kernel, rfl, rfl⟩

end Script

end MappedSql
