import MappedSql.Proofs.AcceptedMappings
import MappedSql.Proofs.GuardedUpdates
import MappedSql.Proofs.Phrases

/-!
The tests that tell rows apart. Drafts and scripts write a change of a row with one test for each
key of its table, in front of all other conditions; a test compares the column of the key with the
literal of what the record gives to it. The tests are read back from their texts.
-/

namespace MappedSql

open Lexer Cutting Outcome Statement

namespace KeyTest

def leaf? : List Lexeme → Option Leaf
  | [.word letters] => if letters = "NULL".toList then some .null else none
  | [.sign ['-'], .number digits] => some (.number true digits)
  | [.number digits] => some (.number false digits)
  | [.text content] => some (.text content)
  | _ => none

def said? (column : Phrase) : List Lexeme → Option Phrase
  | .sign ['='] :: value => (leaf? value).map fun leaf => .operation .equal column (.leaf leaf)
  | lexemes => if lexemes = [keyword "IS", keyword "NULL"] then some (.isNull column) else none

def test? : List Lexeme → Option Phrase
  | .word aliasName :: .sign ['.'] :: .name name :: rest => said? (.column aliasName name) rest
  | .name name :: rest => said? (.column [] name) rest
  | _ => none

def read? (text : String) : Option Phrase :=
  (tokenize text.toList).bind fun lexemes =>
    if lexemes.head? = some opening ∧ lexemes.getLast? = some closing then
      test? lexemes.tail.dropLast
    else none

example : read? "(t0.[Id] = -1)" =
    some (.operation .equal (.column "t0".toList "Id".toList) (.leaf (.number true ['1']))) := by
  decide

example : read? "([Id] IS NULL)" = some (.isNull (.column [] "Id".toList)) := by
  decide

theorem leaf_of_tokens (leaf : Leaf) : leaf? leaf.tokens = some leaf := by
  cases leaf with
  | null => rfl
  | number negative digits => cases negative <;> rfl
  | text content => rfl

def subject (aliasName name : List Char) : List Lexeme :=
  if aliasName = [] then [.name name] else [.word aliasName, .sign ['.'], .name name]

theorem bracketed_read (inner : String) (lexemes : List Lexeme) (phrase : Phrase)
    (read : tokenize inner.toList = some lexemes) (test : test? lexemes = some phrase) :
    read? ("(" ++ inner ++ ")") = some phrase := by
  have whole : tokenize ("(" ++ inner ++ ")").toList = some (opening :: (lexemes ++ [closing])) := by
    simp only [String.toList_append, List.append_assoc]
    exact tokenize_closed "(".toList _ [opening] _ rfl
      (tokenize_append _ _ _ _ read (at_closing _) rfl)
  have ends : (opening :: (lexemes ++ [closing])).getLast? = some closing := by
    rw [← List.cons_append, List.getLast?_concat]
  rw [read?, whole, Option.bind_some, if_pos ⟨rfl, ends⟩, List.tail_cons, List.dropLast_concat, test]

theorem read_equality (aliasName : List Char) (name column value : String) (leaf : Leaf)
    (readColumn : tokenize column.toList = some (subject aliasName name.toList))
    (readValue : tokenize value.toList = some leaf.tokens) :
    read? (equalityTest column value) =
      some (.operation .equal (.column aliasName name.toList) (.leaf leaf)) := by
  have inner := tokenize_operand column.toList " = ".toList value.toList _ [.sign ['=']] _ readColumn
    (at_blank _) rfl readValue
  have text : equalityTest column value = "(" ++ (column ++ " = " ++ value) ++ ")" := by
    simp only [equalityTest, String.append_assoc]
  rw [text]
  refine bracketed_read _ _ _ (by simpa only [String.toList_append, List.append_assoc] using inner) ?_
  by_cases alone : aliasName = []
  · simp [subject, alone, test?, said?, leaf_of_tokens]
  · simp [subject, alone, test?, said?, leaf_of_tokens]

end KeyTest

def Value.isUnset : Value → Bool
  | null => true
  | guid value => value.isNil
  | timestamp value | utcTimestamp value => Cell.isUnset value
  | offsetTimestamp value => Cell.isUnsetMoment value
  | _ => false

namespace Cell

def marks : List Literal :=
  [.text "<uuid>" true, .text "<now>" true]

theorem fill_set (kind : Kind) (value : Value) (present : value.isUnset = false) :
    fill kind value = stored value := by
  cases value with
  | null => cases present
  | guid value => exact if_neg (Bool.not_eq_true _ ▸ present)
  | timestamp value => exact if_neg (Bool.not_eq_true _ ▸ present)
  | utcTimestamp value => exact if_neg (Bool.not_eq_true _ ▸ present)
  | offsetTimestamp value => exact if_neg (Bool.not_eq_true _ ▸ present)
  | _ => rfl

theorem fill_unset (kind : Kind) (generatable : kind.isGeneratable = true) (value : Value)
    (unset : value.isUnset = true) :
    fill kind value = freshGuid ∨ ∃ withOffset, fill kind value = currentTime withOffset := by
  cases value with
  | null =>
      cases kind with
      | guid => exact .inl rfl
      | timestamp => exact .inr ⟨_, rfl⟩
      | offsetTimestamp => exact .inr ⟨_, rfl⟩
      | _ => cases generatable
  | guid value => exact .inl (if_pos unset)
  | timestamp value => exact .inr ⟨_, if_pos unset⟩
  | utcTimestamp value => exact .inr ⟨_, if_pos unset⟩
  | offsetTimestamp value => exact .inr ⟨_, if_pos unset⟩
  | _ => cases unset

end Cell

namespace Column

def generates (column : Column) (value : Value) : Bool :=
  column.autoGenerate && value.isUnset

theorem read_held (column : Column) (record : Record) (cell : Cell)
    (read : column.read record = .ok cell) :
    ∃ value, record.find? column.member = some (.ok value) ∧
      cell = if column.autoGenerate then Cell.fill column.kind value else .stored value := by
  obtain ⟨found, looked, filled⟩ := bind_ok_iff.mp read
  cases found with
  | none => cases filled
  | some value =>
      refine ⟨value, ?_, (pure_ok_iff.mp filled).symm⟩
      unfold Record.read? at looked
      split at looked
      · cases looked
      · rename_i held stored
        obtain rfl := Option.some.inj (Except.ok.inj looked)
        exact stored
      · cases looked

theorem literal_cases (column : Column) (record : Record) (literal : Literal)
    (generatable : column.autoGenerate = true → column.kind.isGeneratable = true)
    (written : column.literal record = .ok literal) :
    ∃ value, record.find? column.member = some (.ok value) ∧
      if column.generates value then literal ∈ Cell.marks
      else value.literal column.policy = .ok literal := by
  obtain ⟨cell, read, literalOfCell⟩ := bind_ok_iff.mp written
  obtain ⟨value, held, rfl⟩ := column.read_held record cell read
  refine ⟨value, held, ?_⟩
  unfold generates
  cases generated : column.autoGenerate with
  | false => simpa [generated, Cell.literal] using literalOfCell
  | true =>
      rw [generated, if_pos rfl] at literalOfCell
      rw [Bool.true_and]
      cases unset : value.isUnset with
      | false =>
          rw [Cell.fill_set _ value unset] at literalOfCell
          exact literalOfCell
      | true =>
          rcases Cell.fill_unset _ (generatable generated) value unset with fresh | ⟨_, current⟩
          · rw [fresh] at literalOfCell
            obtain rfl := Except.ok.inj literalOfCell
            exact List.mem_cons_self
          · rw [current] at literalOfCell
            obtain rfl := Except.ok.inj literalOfCell
            exact List.mem_cons_of_mem _ List.mem_cons_self

end Column

-- Only a column of a kind that a database can fill in is generated.
theorem Table.generated_kind (mapping : Mapping) (table : Table)
    (accepted : ofMapping mapping = .ok table) (column : Column) (member : column ∈ table.columns)
    (generated : column.autoGenerate = true) : column.kind.isGeneratable = true := by
  have valid := (of_mapping_ok_iff mapping).mp ⟨table, accepted⟩
  obtain ⟨_, _, columns⟩ := of_mapping_fields mapping table accepted
  rw [columns] at member
  obtain ⟨entry, declared, rfl⟩ := List.mem_map.mp member
  exact (Mapping.generatable_iff _).mpr (valid.generatable entry declared generated)

/-! Rows are changed by drafts, one at a time by scripts, and in batches of scripts. The tests of
their keys are written by one rule, so what follows is about all three at once. -/

def whereClause (tests : List String) : String :=
  if tests = [] then "" else " WHERE " ++ conjunction tests

theorem UpdateStatement.render_where (s : UpdateStatement) :
    s.render = s.head ++ whereClause s.tests := by
  unfold whereClause
  split_ifs with untested
  · rw [s.render_untested untested, String.append_empty]
  · rw [s.render_tests untested, String.append_assoc]

/-- A change of rows that are told apart by their keys: updates by a draft, the update or the
removal of one row by a script, or one of these for each row of a batch. -/
inductive Change where
  | rows (target : EntityType) (steps : List UpdateDraft.Step)
  | update (target : EntityType) (record : Record) (additional : AdditionalColumns)
      (conditions : List String)
  | delete (settings : Settings) (target : EntityType) (record : Record) (conditions : List String)
  | batch (settings : Settings) (target : EntityType) (removes : Bool) (records : List Record)
      (additional : AdditionalColumns) (conditions : List String)

namespace Change

def target : Change → EntityType
  | rows target _ | update target _ _ _ | delete _ target _ _ | batch _ target _ _ _ _ => target

def build : Change → Except Fault (List String)
  | rows target steps =>
      (StatementDraft.build (UpdateDraft.run target steps)).map fun text => [text]
  | update target record additional conditions =>
      (Script.update target record additional conditions).map fun text => [text]
  | delete settings target record conditions =>
      (Script.delete settings target record conditions).map fun text => [text]
  | batch settings target removes records additional conditions =>
      Script.batch settings target (if removes then .delete else .update) records additional
        conditions

/-- The texts in which the statements stand: a draft makes one of them all. -/
def gather : Change → List String → List String
  | rows .., statements => [";\n".intercalate statements]
  | update .., statements | delete .., statements | batch .., statements => statements

def records : Change → List Record
  | rows _ steps => UpdateDraft.givenRows steps
  | update _ record _ _ | delete _ _ record _ => [record]
  | batch _ _ _ records _ _ => records

def aliasName : Change → List Char
  | rows .. => "t0".toList
  | update .. | delete .. | batch .. => []

def keyText : Change → Column → String
  | rows .., key => "t0." ++ key.quoted
  | update .., key | delete .., key | batch .., key => key.quoted

def conditionTests : Change → List String
  | rows target steps => UpdateDraft.filterTests ⟨FilteredDraft.parts UpdateDraft target steps⟩
  | update _ _ _ conditions | delete _ _ _ conditions | batch _ _ _ _ _ conditions =>
      Script.rawTests conditions

def ending : Change → String
  | rows .. => ""
  | update .. | delete .. | batch .. => " ;"

def RawFree : Change → Prop
  | rows _ steps => ∀ step ∈ steps, ∀ shared,
      FilteredDraft.shared? UpdateDraft step = some shared → shared.RawFree
  | update .. | delete .. | batch .. => True

def keyTest (change : Change) (keyed : Column × Literal) : String :=
  equalityTest (change.keyText keyed.1) keyed.2.render

def keyPhrase (change : Change) (keyed : Column × Literal) : Phrase :=
  .operation .equal (.column change.aliasName keyed.1.name.toList) (.leaf keyed.2.leaf)

/-- The statement for a record ends in the tests of its keys, one for each, and of the conditions.
-/
structure Writes (change : Change) (table : Table) (record : Record)
    (keyed : List (Column × Literal)) (statement : String) : Prop where
  mapped : Table.ofMapping change.target.mapping = .ok table
  keys : keyed.map Prod.fst = table.keys
  literals : ∀ pair ∈ keyed, pair.1.literal record = .ok pair.2
  text : ∃ head, statement =
    head ++ whereClause (keyed.map change.keyTest ++ change.conditionTests) ++ change.ending
  read : change.RawFree → keyed.map change.keyTest ++ change.conditionTests ≠ [] →
    conditionsOf? statement =
      some (conjunction (keyed.map change.keyTest ++ change.conditionTests) ++ change.ending)

theorem key_text_read (change : Change) (key : Column) :
    tokenize (change.keyText key).toList =
      some (KeyTest.subject change.aliasName key.name.toList) := by
  have bare : tokenize key.quoted.toList = some [.name key.name.toList] := name_tokens key.name
  cases change with
  | rows target steps =>
      have split : "t0." = "t0" ++ "." := rfl
      have first : "t0" = Aliases.numbered 0 := rfl
      rw [keyText, split, first]
      exact Fragment.tokenize_column 0 key.name
  | update target record additional conditions => exact bare
  | delete settings target record conditions => exact bare
  | batch settings target removes records additional conditions => exact bare

theorem key_read (change : Change) (pair : Column × Literal) (sound : pair.2.Sound) :
    KeyTest.read? (change.keyTest pair) = some (change.keyPhrase pair) :=
  KeyTest.read_equality change.aliasName pair.1.name _ _ _ (change.key_text_read pair.1)
    (pair.2.tokenize_render sound)

section Writes

variable {change : Change} {table : Table} {record : Record} {keyed : List (Column × Literal)}
  {statement : String} (writes : change.Writes table record keyed statement)
  (pair : Column × Literal) (member : pair ∈ keyed)

include writes member

theorem Writes.read_test : KeyTest.read? (change.keyTest pair) = some (change.keyPhrase pair) :=
  change.key_read pair (pair.1.cell_sound record pair.2 (writes.literals pair member))

theorem Writes.is_key : pair.1 ∈ table.keys :=
  writes.keys ▸ List.mem_map_of_mem member

theorem Writes.key_generatable (generated : pair.1.autoGenerate = true) :
    pair.1.kind.isGeneratable = true :=
  Table.generated_kind _ table writes.mapped pair.1
    (List.mem_of_mem_filter (writes.is_key pair member)) generated

end Writes

theorem keyed_tests (keys : List Column) (record : Record) (write : Column → Except Fault String)
    (form : Column × Literal → String) (tests : List String)
    (each : ∀ key, write key = (key.literal record).map fun literal => form (key, literal))
    (written : keys.mapM write = .ok tests) :
    ∃ keyed : List (Column × Literal), keyed.map Prod.fst = keys ∧
      (∀ pair ∈ keyed, pair.1.literal record = .ok pair.2) ∧ tests = keyed.map form := by
  induction keys generalizing tests with
  | nil => exact ⟨[], rfl, by simp, (pure_ok_iff.mp written).symm⟩
  | cons key rest ih =>
      rw [List.mapM_cons] at written
      obtain ⟨test, made, more⟩ := bind_ok_iff.mp written
      obtain ⟨others, later, same⟩ := bind_ok_iff.mp more
      rw [each] at made
      obtain ⟨literal, own, rfl⟩ := map_ok_iff.mp made
      obtain ⟨keyed, keys, literals, rfl⟩ := ih others later
      refine ⟨(key, literal) :: keyed, by rw [List.map_cons, keys], ?_, (pure_ok_iff.mp same).symm⟩
      exact List.forall_mem_cons.mpr ⟨own, literals⟩

theorem row_tests_keyed (table : Table) (record : Record) (conditions tests : List String)
    (written : Script.rowTests table record conditions = .ok tests) :
    ∃ keyed : List (Column × Literal), keyed.map Prod.fst = table.keys ∧
      (∀ pair ∈ keyed, pair.1.literal record = .ok pair.2) ∧ tests ≠ [] ∧
      tests = keyed.map (fun pair => equalityTest pair.1.quoted pair.2.render) ++
        Script.rawTests conditions := by
  obtain ⟨keyTests, tested, rfl, present⟩ := Script.row_tests_parts table record conditions tests written
  obtain ⟨keyed, keys, literals, rfl⟩ := keyed_tests table.keys record _
    (fun pair => equalityTest pair.1.quoted pair.2.render) keyTests (fun key => by
      rw [Script.keyTest, Column.render]
      cases key.literal record <;> rfl) tested
  exact ⟨keyed, keys, literals, present, rfl⟩

theorem row_writes (target : EntityType) (steps : List UpdateDraft.Step) (table : Table)
    (mapped : Table.ofMapping target.mapping = .ok table) (more : List String) (statements : List UpdateStatement)
    (made : UpdateDraft.Made target steps table more statements) (record : Record)
    (statement : UpdateStatement)
    (written : (UpdateDraft.run target steps).rowStatement
      ⟨target.name, table, Aliases.numbered 0, true⟩ more record = .ok statement) :
    ∃ keyed, (rows target steps).Writes table record keyed statement.render := by
  obtain ⟨own, keyTests, _, tested, form⟩ := UpdateDraft.row_statement_ok _ _ more record _ written
  obtain ⟨keyed, keys, literals, rfl⟩ := keyed_tests table.keys record _
    (rows target steps).keyTest keyTests (fun key => by
      rw [UpdateDraft.keyTest, Column.render]
      cases key.literal record <;> rfl) tested
  have tests : statement.tests =
      keyed.map (rows target steps).keyTest ++ (rows target steps).conditionTests := by
    rw [form, UpdateDraft.made_filter target steps table more statements made]
    rfl
  refine ⟨keyed, mapped, keys, literals, ⟨statement.head, ?_⟩, fun free present => ?_⟩
  · rw [← tests, ending, String.append_empty, statement.render_where]
  · have tidy := JoiningDraft.run_tidy (δ := UpdateDraft) (UpdateDraft.start target) steps
      (Draft.start_reached target) free (Draft.start_tidy target) made.succeeded
    have sound : statement.Sound :=
      UpdateDraft.row_sound _ _ 0 rfl tidy more made.assigned record statement written
    rw [← tests] at present ⊢
    rw [ending, String.append_empty]
    exact conditions_of_render statement sound present

structure Scripted (change : Change) (conditions : List String) : Prop where
  keyText : change.keyText = Column.quoted
  conditionTests : change.conditionTests = Script.rawTests conditions
  ending : change.ending = " ;"

section Scripts

variable {change : Change} {conditions : List String} (scripted : change.Scripted conditions)
  (record : Record)

include scripted

theorem script_writes (table : Table) (mapped : Table.ofMapping change.target.mapping = .ok table)
    (tests : List String) (head : String)
    (tested : Script.rowTests table record conditions = .ok tests)
    (read : conditionsOf? (head ++ " WHERE " ++ conjunction tests ++ " ;") =
      some (conjunction tests ++ " ;")) :
    ∃ keyed, change.Writes table record keyed (head ++ " WHERE " ++ conjunction tests ++ " ;") := by
  obtain ⟨keyed, keys, literals, present, form⟩ := row_tests_keyed table record conditions tests tested
  have same : tests = keyed.map change.keyTest ++ change.conditionTests := by
    have tests : change.keyTest = fun pair => equalityTest pair.1.quoted pair.2.render := by
      funext pair
      rw [keyTest, scripted.keyText]
    rw [form, tests, scripted.conditionTests]
  refine ⟨keyed, mapped, keys, literals, ⟨head, ?_⟩, fun _ _ => ?_⟩
  · rw [← same, scripted.ending, whereClause, if_neg present]
    simp only [String.append_assoc]
  · rw [← same, scripted.ending, read]

theorem update_writes (additional : AdditionalColumns) (text : String)
    (written : Script.update change.target record additional conditions = .ok text) :
    ∃ table keyed, change.Writes table record keyed text := by
  obtain ⟨table, own, more, tests, mapped, _, _, _, tested, rfl⟩ :=
    Script.update_ok change.target record additional conditions text written
  obtain ⟨known, _, mappedKnown, testedKnown, read⟩ :=
    Script.update_guarded change.target additional record conditions _ written
  obtain rfl : known = table := Except.ok.inj (mappedKnown.symm.trans mapped)
  obtain rfl := Except.ok.inj (testedKnown.symm.trans tested)
  exact ⟨known, script_writes scripted record known mapped _ _ tested read⟩

theorem delete_writes (settings : Settings) (text : String)
    (written : Script.delete settings change.target record conditions = .ok text) :
    ∃ table keyed, change.Writes table record keyed text := by
  obtain ⟨table, tests, mapped, tested, form⟩ :=
    Script.delete_ok settings change.target record conditions text written
  obtain ⟨known, _, mappedKnown, testedKnown, read⟩ :=
    Script.delete_guarded settings change.target record conditions _ written
  obtain rfl : known = table := Except.ok.inj (mappedKnown.symm.trans mapped)
  obtain rfl := Except.ok.inj (testedKnown.symm.trans tested)
  refine ⟨known, ?_⟩
  rcases form with ⟨_, flag, _, rfl⟩ | ⟨_, rfl⟩
  · exact script_writes scripted record known mapped _ _ tested read
  · exact script_writes scripted record known mapped _ _ tested read

end Scripts

theorem built_statements (change : Change) (texts : List String) (built : change.build = .ok texts) :
    ∃ statements, texts = change.gather statements ∧
      List.Forall₂ (fun record statement => ∃ table keyed,
        change.Writes table record keyed statement) change.records statements := by
  cases change with
  | rows target steps =>
      obtain ⟨text, drafted, rfl⟩ := map_ok_iff.mp built
      obtain ⟨table, more, statements, mapped, made, rfl⟩ :=
        UpdateDraft.built_made target steps text drafted
      refine ⟨statements.map UpdateStatement.render, rfl, ?_⟩
      rw [List.forall₂_map_right_iff]
      exact made.rows.imp fun record statement written =>
        ⟨table, row_writes target steps table mapped more statements made record statement written⟩
  | update target record additional conditions =>
      obtain ⟨text, written, rfl⟩ := map_ok_iff.mp built
      exact ⟨[text], rfl, .cons (update_writes ⟨rfl, rfl, rfl⟩ record additional text written) .nil⟩
  | delete settings target record conditions =>
      obtain ⟨text, written, rfl⟩ := map_ok_iff.mp built
      exact ⟨[text], rfl, .cons (delete_writes ⟨rfl, rfl, rfl⟩ record settings text written) .nil⟩
  | batch settings target removes records additional conditions =>
      refine ⟨texts, rfl, (mapM_ok built).imp fun record text written => ?_⟩
      cases removes with
      | false => exact update_writes ⟨rfl, rfl, rfl⟩ record additional text written
      | true => exact delete_writes ⟨rfl, rfl, rfl⟩ record settings text written

end Change

end MappedSql
