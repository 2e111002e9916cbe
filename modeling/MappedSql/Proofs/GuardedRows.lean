import MappedSql.Proofs.BlankTexts
import MappedSql.Proofs.PinnedRows

/-!
Statements that do not touch every row by accident. A removal has conditions unless removing every
row was allowed last; an update or a removal of one row has a test of a key or a condition that is
not blank, and is refused where it has neither.
-/

namespace MappedSql

open Lexer Cutting Outcome Statement

namespace DeleteDraft

open FilteredDraft JoiningDraft

def permission? : Step → Option Bool
  | .allowAll allow => some allow
  | .shared _ => none

def Step.isCondition (step : Step) : Bool :=
  (shared? DeleteDraft step).any Draft.Step.isCondition

-- What was said last holds, whether or not the steps succeed.
theorem steps_permission (delete : DeleteDraft) (steps : List Step) :
    (steps.foldl apply delete).allowsAll =
      ((steps.filterMap permission?).getLast?).getD delete.allowsAll := by
  induction steps generalizing delete with
  | nil => rfl
  | cons step rest ih =>
      rw [List.foldl_cons, ih]
      cases step with
      | shared other => rfl
      | allowAll allow =>
          simp only [List.filterMap_cons, permission?, List.getLast?_cons, Option.getD_some]
          rfl

theorem statement_ok (delete : DeleteDraft) (statement : DeleteStatement)
    (written : delete.statement = .ok statement) :
    ∃ target, delete.draft.aliases.target = .ok target ∧
      (delete.draft.filter.isEmpty = true → delete.allowsAll = true) ∧
      statement = {
        table := target.table.qualifiedName
        aliasName := target.aliasName
        hint := delete.draft.settings.hintSuffix
        joins := delete.draft.joins
        filter := delete.draft.filter.text } := by
  obtain ⟨target, targeted, rest⟩ := bind_ok_iff.mp written
  by_cases unguarded : (delete.draft.filter.isEmpty && !delete.allowsAll) = true
  · simp only [unguarded, ↓reduceIte] at rest
    cases rest
  · simp only [if_neg unguarded] at rest
    refine ⟨target, targeted, fun empty => ?_, (Except.ok.inj rest).symm⟩
    simpa [empty] using unguarded

def EndsInConditions (target : EntityType) (steps : List Step) (text : String) : Prop :=
  ∃ table, Table.ofMapping target.mapping = .ok table ∧
    text = clauses (["DELETE t0", "FROM " ++ table.qualifiedName ++ " t0"] ++
      (run target steps).draft.joins.map
        (Join.render (run target steps).draft.settings.hintSuffix) ++
      ["WHERE " ++ Filter.text ⟨parts DeleteDraft target steps⟩]) ∧
    Text.isBlank (Filter.text ⟨parts DeleteDraft target steps⟩) = false

theorem text_guarded (target : EntityType) (steps : List Step)
    (forbidden : (steps.filterMap permission?).getLast? ≠ some true) (text : String)
    (built : StatementDraft.build (run target steps) = .ok text) :
    steps.any Step.isCondition = true ∧ EndsInConditions target steps text := by
  obtain ⟨succeeded, wrote⟩ := (StatementDraft.build_ok_iff _ _).mp built
  obtain ⟨statement, stated, rfl⟩ := map_ok_iff.mp wrote
  obtain ⟨participant, targeted, guard, rfl⟩ := (run target steps).statement_ok statement stated
  obtain ⟨table, mapped, isTarget⟩ := run_target (δ := DeleteDraft) target steps succeeded
  obtain rfl : participant = ⟨target.name, table, Aliases.numbered 0, true⟩ :=
    Except.ok.inj (targeted.symm.trans isTarget)
  have given : (run target steps).draft.filter = ⟨parts DeleteDraft target steps⟩ :=
    congrArg Filter.mk (run_filter (δ := DeleteDraft) target steps succeeded)
  have noPermission : (run target steps).allowsAll = false := by
    have last : (run target steps).allowsAll = ((steps.filterMap permission?).getLast?).getD false :=
      steps_permission (start target) steps
    rw [last]
    cases said : (steps.filterMap permission?).getLast? with
    | none => rfl
    | some allow => cases allow with
      | false => rfl
      | true => exact absurd said forbidden
  have present : Filter.text ⟨parts DeleteDraft target steps⟩ ≠ "" := by
    rw [← given]
    intro empty
    have allowed := guard (by rw [Filter.isEmpty, empty]; rfl)
    rw [noPermission] at allowed
    cases allowed
  refine ⟨?_, table, mapped, ?_, ?_⟩
  · by_contra unconditioned
    have unfiltered : parts DeleteDraft target steps = [] :=
      (parts_from_nil_iff (start target) steps succeeded).mpr (by
        simpa [Step.isCondition] using unconditioned)
    exact present (by rw [unfiltered]; rfl)
  · have first : "DELETE " ++ Aliases.numbered 0 = "DELETE t0" := rfl
    have source : " t0" = " " ++ Aliases.numbered 0 := rfl
    rw [DeleteStatement.render, given, if_neg (by simpa using present), first, source,
      ← String.append_assoc]
  · rw [← Bool.not_eq_true]
    exact fun blank => present (Filter.text_blank _
      (parts_blank (start target) steps (Draft.start_reached target)) blank)

end DeleteDraft

namespace Script

/-- The tests that pin a row: one for each key, in order, and one for each condition that is not
blank, trimmed and in brackets. -/
def PinTests (table : Table) (record : Record) (conditions tests : List String) : Prop :=
  ∃ keyTests, List.Forall₂ (fun key test => ∃ value, key.render record = .ok value ∧
      test = "(" ++ key.quoted ++ " = " ++ value ++ ")") table.keys keyTests ∧
    tests = keyTests ++ (conditions.filter (!Text.isBlank ·)).map fun condition =>
      "(" ++ Text.trim condition ++ ")"

theorem raw_tests_present (conditions : List String) :
    rawTests conditions = (conditions.filter (!Text.isBlank ·)).map fun condition =>
      "(" ++ Text.trim condition ++ ")" := by
  simp only [rawTests, List.filter_map, List.map_map, Function.comp_def, Text.trim_empty]

theorem row_tests_parts (table : Table) (record : Record) (conditions tests : List String)
    (written : rowTests table record conditions = .ok tests) :
    ∃ keyTests, table.keys.mapM (keyTest record) = .ok keyTests ∧
      tests = keyTests ++ rawTests conditions ∧ tests ≠ [] := by
  obtain ⟨keyTests, tested, rest⟩ := bind_ok_iff.mp written
  by_cases nothing : (keyTests ++ rawTests conditions).isEmpty = true
  · simp only [nothing, ↓reduceIte] at rest
    cases rest
  · simp only [if_neg nothing] at rest
    obtain rfl := Except.ok.inj rest
    exact ⟨keyTests, tested, rfl, by simpa using nothing⟩

theorem row_tests_ok (table : Table) (record : Record) (conditions tests : List String)
    (written : rowTests table record conditions = .ok tests) :
    PinTests table record conditions tests ∧ tests ≠ [] := by
  obtain ⟨keyTests, tested, rfl, present⟩ := row_tests_parts table record conditions tests written
  refine ⟨⟨keyTests, (mapM_ok tested).imp fun key test made => ?_, ?_⟩, present⟩
  · obtain ⟨value, rendered, same⟩ := bind_ok_iff.mp made
    exact ⟨value, rendered, (Except.ok.inj same).symm⟩
  · rw [raw_tests_present]

-- Whatever the conditions, they are the last thing that is looked at and can only be too few.
theorem row_tests_refused (table : Table) (record : Record) (conditions : List String)
    (keyless : table.keys = []) (blank : ∀ condition ∈ conditions, Text.isBlank condition = true) :
    rowTests table record conditions = .error (.unguardedRow table.qualifiedName) := by
  have unconditioned : rawTests conditions = [] := by
    rw [raw_tests_present, List.map_eq_nil_iff, List.filter_eq_nil_iff]
    exact fun condition member => by simp [blank condition member]
  rw [rowTests, keyless, unconditioned]
  rfl

theorem update_passage (schema name : String) (assignments : List String)
    (each : ∀ text ∈ assignments, ∃ column, Assigns column text) :
    Passage whereTokens
      ("UPDATE " ++ Identifier.bracketedPair schema name ++ " SET " ++ commas assignments) := by
  refine passage_between whereTokens _ " SET " _ ?_ at_blank
    (filler_of_read whereTokens _ [keyword "SET"] rfl (by decide) (by decide))
    (commas_passage whereTokens (by decide) assignments fun text member => ?_)
  · exact passage_behind whereTokens "UPDATE " _
      (filler_of_read whereTokens _ [keyword "UPDATE"] rfl (by decide) (by decide))
      (table_passage whereTokens where_foreign schema name)
  · obtain ⟨column, assigns⟩ := each text member
    exact assigns_passage whereTokens (by decide) (by decide) column text assigns

theorem update_conditions (schema name : String) (assignments tests : List String)
    (each : ∀ text ∈ assignments, ∃ column, Assigns column text) :
    conditionsOf? (updateText (Identifier.bracketedPair schema name) assignments tests) =
      some (conjunction tests ++ " ;") := by
  rw [updateText, String.append_assoc]
  exact conditions_behind _ _ (update_passage schema name assignments each)

theorem delete_conditions (schema name : String) (tests : List String) :
    conditionsOf? ("DELETE FROM " ++ Identifier.bracketedPair schema name ++ " WHERE " ++
      conjunction tests ++ " ;") = some (conjunction tests ++ " ;") := by
  rw [String.append_assoc]
  exact conditions_behind _ _ (passage_behind whereTokens "DELETE FROM " _
    (filler_of_read whereTokens _ [keyword "DELETE", keyword "FROM"] rfl (by decide) (by decide))
    (table_passage whereTokens where_foreign schema name))

section Rows

variable (settings : Settings) (entity : EntityType) (kind : RowStatement)
  (additional : AdditionalColumns) (record : Record)

theorem update_guarded (conditions : List String) (text : String)
    (written : update entity record additional conditions = .ok text) :
    ∃ table tests, Table.ofMapping entity.mapping = .ok table ∧
      rowTests table record conditions = .ok tests ∧
      conditionsOf? text = some (conjunction tests ++ " ;") := by
  obtain ⟨table, own, more, tests, mapped, updated, assigned, _, tested, rfl⟩ :=
    update_ok entity record additional conditions text written
  refine ⟨table, tests, mapped, tested, update_conditions table.schema table.name _ tests ?_⟩
  intro text member
  rcases List.mem_append.mp member with inOwn | inMore
  · obtain ⟨column, _, made⟩ := mapM_member updated inOwn
    exact ⟨column.name, UpdateDraft.assignment_assigns record column text made⟩
  · obtain ⟨entry, _, made⟩ := mapM_member assigned inMore
    exact ⟨entry.1, AdditionalColumns.assignment_assigns entry text made⟩

theorem delete_guarded (conditions : List String) (text : String)
    (written : delete settings entity record conditions = .ok text) :
    ∃ table tests, Table.ofMapping entity.mapping = .ok table ∧
      rowTests table record conditions = .ok tests ∧
      conditionsOf? text = some (conjunction tests ++ " ;") := by
  obtain ⟨table, tests, mapped, tested, form⟩ :=
    delete_ok settings entity record conditions text written
  refine ⟨table, tests, mapped, tested, ?_⟩
  rcases form with ⟨_, flag, quoted, rfl⟩ | ⟨_, rfl⟩
  · refine update_conditions table.schema table.name _ tests fun text member => ?_
    obtain ⟨_, _, bracketed⟩ := bind_ok_iff.mp quoted
    obtain rfl := Except.ok.inj bracketed
    rw [List.mem_singleton.mp member]
    exact ⟨settings.softDeleteColumn, bracketed_assigns _ "1"
      (passage_of_read clauseTokens "1" [.number ['1']] rfl (contained_value _ _ rfl contained_nil)
        (by decide))⟩
  · exact delete_conditions table.schema table.name tests

theorem update_refused (others conditions : List String) (text : String) (table : Table)
    (mapped : Table.ofMapping entity.mapping = .ok table)
    (written : update entity record additional others = .ok text) (fault : Fault)
    (refused : rowTests table record conditions = .error fault) :
    update entity record additional conditions = .error fault := by
  obtain ⟨known, own, more, _, mappedKnown, updated, assigned, present, _, _⟩ :=
    update_ok entity record additional others text written
  obtain rfl : known = table := Except.ok.inj (mappedKnown.symm.trans mapped)
  rw [update_valid entity record additional conditions known own more mapped updated assigned present,
    refused]
  rfl

theorem delete_refused (conditions : List String) (table : Table)
    (mapped : Table.ofMapping entity.mapping = .ok table) (fault : Fault)
    (refused : rowTests table record conditions = .error fault) :
    delete settings entity record conditions = .error fault := by
  rw [delete, mapped]
  simp only [bind, Except.bind, refused]

end Rows

end Script

/-- No statement touches every row by accident. A removal that is built was allowed to remove every
row by the last step that says so, or ends in conditions that a step gave. An update or a removal of
one row, soft or physical, has the tests of its keys and of the conditions that are not blank behind
WHERE, and there is at least one; where there would be none, it is refused. -/
theorem every_row_guarded :
    (∀ (target : EntityType) (steps : List DeleteDraft.Step) (text : String),
      (steps.filterMap DeleteDraft.permission?).getLast? ≠ some true →
      StatementDraft.build (DeleteDraft.run target steps) = .ok text →
        steps.any DeleteDraft.Step.isCondition = true ∧
          DeleteDraft.EndsInConditions target steps text) ∧
      ∀ (settings : Settings) (entity : EntityType) (table : Table) (kind : Script.RowStatement)
        (additional : AdditionalColumns) (record : Record),
        Table.ofMapping entity.mapping = .ok table → kind = .update ∨ kind = .delete →
        (∀ conditions text,
          Script.rowText settings entity kind additional conditions record = .ok text →
            ∃ tests, Script.PinTests table record conditions tests ∧ tests ≠ [] ∧
              conditionsOf? text = some (conjunction tests ++ " ;")) ∧
          ∀ conditions others text, table.keys = [] →
            (∀ condition ∈ conditions, Text.isBlank condition = true) →
            Script.rowText settings entity kind additional others record = .ok text →
            Script.rowText settings entity kind additional conditions record =
                .error (.unguardedRow table.qualifiedName) ∧
              (Fault.unguardedRow table.qualifiedName).category = .invalidOperation := by
  refine ⟨fun target steps text forbidden built =>
    DeleteDraft.text_guarded target steps forbidden text built, ?_⟩
  intro settings entity table kind additional record mapped changes
  constructor
  · intro conditions text written
    obtain ⟨known, tests, mappedKnown, tested, behind⟩ :
        ∃ known tests, Table.ofMapping entity.mapping = .ok known ∧
          Script.rowTests known record conditions = .ok tests ∧
          conditionsOf? text = some (conjunction tests ++ " ;") := by
      rcases changes with rfl | rfl
      · exact Script.update_guarded entity additional record conditions text written
      · exact Script.delete_guarded settings entity record conditions text written
    obtain rfl : known = table := Except.ok.inj (mappedKnown.symm.trans mapped)
    obtain ⟨pinned, present⟩ := Script.row_tests_ok known record conditions tests tested
    exact ⟨tests, pinned, present, behind⟩
  · intro conditions others text keyless blank written
    have refused := Script.row_tests_refused table record conditions keyless blank
    refine ⟨?_, rfl⟩
    rcases changes with rfl | rfl
    · exact Script.update_refused entity additional record others conditions text table mapped
        written _ refused
    · exact Script.delete_refused settings entity record conditions table mapped _ refused

def withdrawn : List DeleteDraft.Step :=
  [.allowAll true,
    .shared (.filter ⟨[⟨"Keyless", Sample.keyless⟩],
      .binary .equal (.column "Keyless" "b") (.constant (.text " WHERE "))⟩ .or),
    .allowAll false]

/-- A row without a key is pinned by the one condition that is not blank, or not at all. -/
theorem keyless_row_guarded :
    (∃ text, StatementDraft.build (DeleteDraft.run ⟨"Keyless", Sample.keyless⟩ withdrawn) = .ok text ∧
      DeleteDraft.EndsInConditions ⟨"Keyless", Sample.keyless⟩ withdrawn text) ∧
      (∃ text tests, Script.rowText {} ⟨"Keyless", Sample.keyless⟩ .delete .none
          ["\t", " [A] = 1 OR 1 = 1 "] ⟨"Keyless", []⟩ = .ok text ∧
        conditionsOf? text = some (conjunction tests ++ " ;") ∧ tests ≠ []) ∧
      Script.rowText {} ⟨"Keyless", Sample.keyless⟩ .delete .none ["\t"] ⟨"Keyless", []⟩ =
        .error (.unguardedRow "[log].[Keyless]") := by
  obtain ⟨removals, rows⟩ := every_row_guarded
  obtain ⟨written, refused⟩ := rows {} ⟨"Keyless", Sample.keyless⟩ _ .delete .none ⟨"Keyless", []⟩ rfl
    (.inr rfl)
  obtain ⟨tests, _, present, behind⟩ := written ["\t", " [A] = 1 OR 1 = 1 "] _ rfl
  exact ⟨⟨_, rfl, (removals _ withdrawn _ (by decide) rfl).2⟩, ⟨_, tests, rfl, behind, present⟩,
    (refused ["\t"] [" [A] = 1 "] _ rfl (by decide) rfl).1⟩

end MappedSql
