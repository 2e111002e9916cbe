import MappedSql.Proofs.GuardedRows

/-!
Updates of rows that touch every row. The tests of a statement are those of the keys and the
conditions of the draft, and where there are neither, the statement has no WHERE: nothing asks, as
it is asked of a removal and of a single row, whether there is a test at all.
-/

namespace MappedSql

open Lexer Cutting Outcome Statement

theorem conditions_absent (head : String) (passage : Passage whereTokens head) :
    conditionsOf? head = none := by
  obtain ⟨lexemes, read, contained, apart⟩ := passage
  have unmarked : Unmarked [spaced "WHERE".toList] outside head.toList [] :=
    unmarked_of_words ["WHERE".toList] (by decide) [] trivial .nothing _ 0 0 lexemes trivial read
      (contained.level 0) apart
  have split := split_unmarked _ outside head.toList [] unmarked
  rw [List.append_nil] at split
  rw [conditionsOf?, split]
  rfl

namespace UpdateStatement

theorem render_untested (s : UpdateStatement) (untested : s.tests = []) : s.render = s.head := by
  rw [render, head, untested, whenAny]
  simp

theorem conditions_read_iff (s : UpdateStatement) (sound : s.Sound) :
    (conditionsOf? s.render).isSome = true ↔ s.tests ≠ [] := by
  by_cases untested : s.tests = []
  · rw [s.render_untested untested, conditions_absent s.head (s.head_passage sound)]
    simp [untested]
  · rw [conditions_of_render s sound untested]
    simp [untested]

theorem text_closed (s : UpdateStatement) (sound : s.Sound)
    (each : ∀ test ∈ s.tests, Closed test) : Closed s.render := by
  by_cases untested : s.tests = []
  · rw [s.render_untested untested]
    exact closed_of_passage whereTokens s.head (s.head_passage sound)
  · exact render_closed s sound untested each

end UpdateStatement

namespace Filter

theorem append_empty_iff (text : String) (parts : List (Connective × String)) :
    parts.foldl append text = "" ↔ text = "" ∧ ∀ part ∈ parts, part.2 = "" := by
  induction parts generalizing text with
  | nil => simp
  | cons part rest ih =>
      rw [List.foldl_cons, ih, List.forall_mem_cons]
      by_cases empty : text = ""
      · subst empty
        simp [append]
      · rw [append_present text part empty]
        simp [empty]

theorem text_empty_iff (filter : Filter) : filter.text = "" ↔ ∀ part ∈ filter.parts, part.2 = "" := by
  rw [text, append_empty_iff]
  simp

end Filter

namespace UpdateDraft

open FilteredDraft JoiningDraft

theorem filter_tests_nil_iff (filter : Filter) :
    filterTests filter = [] ↔ ∀ part ∈ filter.parts, part.2 = "" := by
  rw [← filter.text_empty_iff, filterTests, Filter.isEmpty]
  simp

/-- The statement of a row: the assignments, the table and the joins, and behind WHERE the tests of
the keys and the group of the conditions. Without tests there is no WHERE. -/
def WrittenFor (table : Table) (joins group : List String) (record : Record) (tests : List String)
    (statement : String) : Prop :=
  ∃ assignments keyTests, TestsKeys table record keyTests ∧ tests = keyTests ++ group ∧
    statement = clauses (["UPDATE t0 SET " ++ commas assignments,
      "FROM " ++ table.qualifiedName ++ " t0"] ++ joins ++
        whenAny tests ("WHERE " ++ conjunction tests))

theorem keys_tested_iff (table : Table) (record : Record) (keyTests : List String)
    (tests : TestsKeys table record keyTests) : keyTests = [] ↔ table.keys = [] := by
  rw [← List.length_eq_zero_iff, ← tests.length_eq, List.length_eq_zero_iff]

theorem row_written (update : UpdateDraft) (target : Participant)
    (numbered : target.aliasName = Aliases.numbered 0) (more : List String) (record : Record)
    (statement : UpdateStatement)
    (written : update.rowStatement target more record = .ok statement) :
    WrittenFor target.table (update.draft.joins.map (Join.render update.draft.settings.hintSuffix))
        (filterTests update.draft.filter) record statement.tests statement.render ∧
      (statement.tests ≠ [] ↔
        target.table.keys ≠ [] ∨ ∃ part ∈ update.draft.filter.parts, part.2 ≠ "") := by
  obtain ⟨own, keyTests, _, tested, rfl⟩ := update.row_statement_ok target more record _ written
  have tests : TestsKeys target.table record keyTests :=
    (mapM_ok tested).imp fun key test made => key_test_text target numbered record key test made
  refine ⟨⟨own ++ more, keyTests, tests, rfl, ?_⟩, ?_⟩
  · have first : Aliases.numbered 0 = "t0" := rfl
    rw [UpdateStatement.render, numbered, first]
    simp only [String.append_assoc]
    rfl
  · rw [Ne, List.append_eq_nil_iff, keys_tested_iff _ _ _ tests, filter_tests_nil_iff, not_and_or]
    simp only [not_forall, exists_prop]

def HasTests (target : EntityType) (table : Table) (steps : List Step) : Prop :=
  table.keys ≠ [] ∨ ∃ part ∈ parts UpdateDraft target steps, part.2 ≠ ""

theorem row_closed (update : UpdateDraft) (target : Participant) (count : Nat)
    (numbered : target.aliasName = Aliases.numbered count) (tidy : update.draft.Tidy)
    (each : ∀ part ∈ update.draft.filter.parts, Piece part.2) (more : List String)
    (assigned : update.additional.assignments = .ok more) (record : Record)
    (statement : UpdateStatement)
    (written : update.rowStatement target more record = .ok statement) :
    Closed statement.render := by
  have sound := update.row_sound target count numbered tidy more assigned record statement written
  obtain ⟨own, keyTests, _, tested, rfl⟩ := update.row_statement_ok target more record _ written
  refine UpdateStatement.text_closed _ sound fun test member => closed_of_bracketed test ?_
  rcases List.mem_append.mp member with inKeys | inGroup
  · obtain ⟨key, _, made⟩ := mapM_member tested inKeys
    exact key_test_bracketed target count numbered record key test made
  · exact group_bracketed _ each test inGroup

-- In a run without raw texts every condition that a step gives has a text.
theorem has_tests_iff (target : EntityType) (table : Table) (steps : List Step)
    (succeeded : (run target steps).draft.fault = none)
    (each : ∀ part ∈ parts UpdateDraft target steps, Piece part.2) :
    HasTests target table steps ↔ table.keys ≠ [] ∨ steps.any Step.isCondition = true := by
  have noParts : parts UpdateDraft target steps = [] ↔ steps.any Step.isCondition = false :=
    (parts_from_nil_iff (start target) steps succeeded).trans (by simp [Step.isCondition])
  refine or_congr Iff.rfl ⟨?_, fun given => ?_⟩
  · rintro ⟨part, member, _⟩
    by_contra unconditioned
    rw [noParts.mpr (Bool.not_eq_true _ ▸ unconditioned)] at member
    exact absurd member List.not_mem_nil
  · obtain ⟨part, member⟩ := List.exists_mem_of_ne_nil _ (by
      rw [Ne, noParts, given]
      exact Bool.false_ne_true.symm)
    exact ⟨part, member, (each part member).present⟩

structure Made (target : EntityType) (steps : List Step) (table : Table) (more : List String)
    (statements : List UpdateStatement) : Prop where
  succeeded : (run target steps).draft.fault = none
  assigned : (run target steps).additional.assignments = .ok more
  present : statements ≠ []
  rows : List.Forall₂ (fun record statement =>
    (run target steps).rowStatement ⟨target.name, table, Aliases.numbered 0, true⟩ more record =
      .ok statement) (givenRows steps) statements

theorem built_made (target : EntityType) (steps : List Step) (text : String)
    (built : StatementDraft.build (run target steps) = .ok text) :
    ∃ table more statements, Table.ofMapping target.mapping = .ok table ∧
      Made target steps table more statements ∧
      text = ";\n".intercalate (statements.map UpdateStatement.render) := by
  obtain ⟨succeeded, written⟩ := (StatementDraft.build_ok_iff _ _).mp built
  obtain ⟨statements, made, joined⟩ := bind_ok_iff.mp written
  obtain ⟨participant, more, targeted, assigned, present, _, each⟩ :=
    (run target steps).statements_ok statements made
  obtain ⟨table, mapped, isTarget⟩ := run_target (δ := UpdateDraft) target steps succeeded
  obtain rfl : participant = ⟨target.name, table, Aliases.numbered 0, true⟩ :=
    Except.ok.inj (targeted.symm.trans isTarget)
  have rows : (run target steps).rows = givenRows steps := rows_from (start target) steps
  rw [rows] at present each
  refine ⟨table, more, statements, mapped, ⟨succeeded, assigned, ?_, each⟩,
    (pure_ok_iff.mp joined).symm⟩
  rintro rfl
  exact present (List.forall₂_nil_right_iff.mp each)

section Made

variable (target : EntityType) (steps : List Step) (table : Table) (more : List String)
  (statements : List UpdateStatement) (made : Made target steps table more statements)

include made

theorem made_filter :
    (run target steps).draft.filter = ⟨parts UpdateDraft target steps⟩ :=
  congrArg Filter.mk (run_filter (δ := UpdateDraft) target steps made.succeeded)

theorem made_written :
    List.Forall₂ (fun record statement =>
        WrittenFor table
          ((run target steps).draft.joins.map
            (Join.render (run target steps).draft.settings.hintSuffix))
          (filterTests ⟨parts UpdateDraft target steps⟩) record statement.tests statement.render ∧
        (statement.tests ≠ [] ↔ HasTests target table steps))
      (givenRows steps) statements := by
  have forms := made.rows.imp fun record statement ofRecord =>
    (run target steps).row_written _ rfl more record statement ofRecord
  rwa [made_filter target steps table more statements made] at forms

-- Without raw texts the statements are read off the text, and so is whether they have a WHERE.
theorem made_read
    (free : ∀ step ∈ steps, ∀ shared, shared? UpdateDraft step = some shared → shared.RawFree) :
    statementsOf (";\n".intercalate (statements.map UpdateStatement.render)) =
        statements.map UpdateStatement.render ∧
      ((∀ statement ∈ statements, (conditionsOf? statement.render).isSome = true) ↔
        table.keys ≠ [] ∨ steps.any Step.isCondition = true) := by
  have same := made_filter target steps table more statements made
  have reached : (start target).draft.aliases.Reached := Draft.start_reached target
  have tidy : (run target steps).draft.Tidy :=
    run_tidy (start target) steps reached free (Draft.start_tidy target) made.succeeded
  have partPieces := parts_pieces (start target) steps reached fun step member shared kind =>
    shared.tests_of_raw_free (free step member shared kind)
  have closed (statement : UpdateStatement) (member : statement ∈ statements) :
      Closed statement.render := by
    obtain ⟨record, _, ofRecord⟩ := forall₂_member made.rows member
    exact (run target steps).row_closed _ 0 rfl tidy (by rw [same]; exact partPieces) more
      made.assigned record statement ofRecord
  have tested (statement : UpdateStatement) (member : statement ∈ statements) :
      (conditionsOf? statement.render).isSome = true ↔ HasTests target table steps := by
    obtain ⟨record, _, ofRecord⟩ := forall₂_member made.rows member
    obtain ⟨_, _, _, given⟩ :=
      forall₂_member (made_written target steps table more statements made) member
    exact (statement.conditions_read_iff ((run target steps).row_sound _ 0 rfl tidy more
      made.assigned record statement ofRecord)).trans given
  rw [← has_tests_iff target table steps made.succeeded partPieces]
  have present := made.present
  cases statements with
  | nil => exact absurd rfl present
  | cons first rest =>
      refine ⟨statements_of_intercalate first.render (rest.map UpdateStatement.render) ?_, ?_, ?_⟩
      · intro written member
        obtain ⟨statement, inside, rfl⟩ := List.mem_map.mp ((List.map_cons ▸ member :
          written ∈ (first :: rest).map UpdateStatement.render))
        exact closed statement inside
      · exact fun all => (tested first List.mem_cons_self).mp (all first List.mem_cons_self)
      · exact fun given statement member => (tested statement member).mpr given

end Made

/-- An update that is built has one statement for each row. A statement has a test, and with it a
WHERE, just when the run has something to test: it touches every row, and is built all the same,
when the table has no keys and no step gave a condition with a text. In a run without raw texts
this can be read off the text. -/
theorem rows_guarded_iff (target : EntityType) (steps : List Step) (text : String)
    (built : StatementDraft.build (run target steps) = .ok text) :
    ∃ table statements, Table.ofMapping target.mapping = .ok table ∧ statements ≠ [] ∧
      text = ";\n".intercalate statements ∧
      List.Forall₂ (fun record statement => ∃ tests,
          WrittenFor table
            ((run target steps).draft.joins.map
              (Join.render (run target steps).draft.settings.hintSuffix))
            (filterTests ⟨parts UpdateDraft target steps⟩) record tests statement ∧
          (tests ≠ [] ↔ HasTests target table steps))
        (givenRows steps) statements ∧
      ((∀ step ∈ steps, ∀ shared, shared? UpdateDraft step = some shared → shared.RawFree) →
        statementsOf text = statements ∧
          ((∀ statement ∈ statements, (conditionsOf? statement).isSome = true) ↔
            table.keys ≠ [] ∨ steps.any Step.isCondition = true)) := by
  obtain ⟨table, more, statements, mapped, made, rfl⟩ := built_made target steps text built
  refine ⟨table, statements.map UpdateStatement.render, mapped, by simpa using made.present, rfl,
    ?_, fun free => ?_⟩
  · rw [List.forall₂_map_right_iff]
    exact (made_written target steps table more statements made).imp fun record statement form =>
      ⟨statement.tests, form⟩
  · rw [List.forall_mem_map]
    exact made_read target steps table more statements made free

def keylessRow : Record :=
  ⟨"Keyless", [("a", .ok (.integer .int32 1)), ("b", .ok (.text "x"))]⟩

def conditionedRow : List Step :=
  [.addRows [keylessRow], .shared (.filter ⟨[⟨"Keyless", Sample.keyless⟩],
    .binary .equal (.column "Keyless" "b") (.constant (.text " WHERE "))⟩ .or)]

/-- One condition is enough, whatever its connective and its value. -/
theorem conditioned_row_guarded :
    ∃ text, StatementDraft.build (run ⟨"Keyless", Sample.keyless⟩ conditionedRow) = .ok text ∧
      ∀ statement ∈ statementsOf text, (conditionsOf? statement).isSome = true := by
  obtain ⟨table, statements, _, _, _, _, read⟩ :=
    rows_guarded_iff ⟨"Keyless", Sample.keyless⟩ conditionedRow _ rfl
  obtain ⟨same, tested⟩ := read fun step member shared kind => by
    simp only [conditionedRow, List.mem_cons, List.not_mem_nil, or_false] at member
    rcases member with rfl | rfl
    · cases kind
    · cases kind
      exact rfl
  exact ⟨_, rfl, same ▸ tested.mpr (.inr rfl)⟩

/-- Without keys and conditions every row is updated, where the statement for a single row is
refused. -/
theorem keyless_row_unguarded :
    StatementDraft.build (run ⟨"Keyless", Sample.keyless⟩ [.addRows [keylessRow]]) =
        .ok "UPDATE t0 SET [A] = 1,[B] = 'x' FROM [log].[Keyless] t0" ∧
      conditionsOf? "UPDATE t0 SET [A] = 1,[B] = 'x' FROM [log].[Keyless] t0" = none ∧
      Script.rowText {} ⟨"Keyless", Sample.keyless⟩ .update .none [] keylessRow =
        .error (.unguardedRow "[log].[Keyless]") :=
  ⟨rfl, rfl, rfl⟩

end UpdateDraft

end MappedSql
