import MappedSql.Draft.Update
import MappedSql.Proofs.Outcome
import MappedSql.Script

/-!
What an update that is written is made of: the target of its draft, the literals of its rows and
keys, and the additional columns.
-/

namespace MappedSql

open Outcome

namespace StatementDraft

variable {δ : Type} [StatementDraft δ]

theorem validate_ok_iff (draft : δ) : validate draft = .ok () ↔ fault? draft = none := by
  unfold validate
  cases fault? draft <;> simp

theorem build_ok_iff (draft : δ) (text : String) :
    build draft = .ok text ↔ fault? draft = none ∧ write draft = .ok text := by
  rw [← validate_ok_iff]
  constructor
  · intro built
    obtain ⟨_, valid, wrote⟩ := bind_ok_iff.mp built
    exact ⟨valid, wrote⟩
  · rintro ⟨valid, wrote⟩
    exact bind_ok_iff.mpr ⟨(), valid, wrote⟩

theorem build_refused (draft : δ) {fault : Fault} (failed : fault? draft = some fault) :
    build draft = .error fault := by
  rw [build, validate, failed]
  rfl

theorem build_written (draft : δ) (fresh : fault? draft = none) : build draft = write draft := by
  rw [build, validate, fresh]
  rfl

end StatementDraft

namespace UpdateDraft

theorem statements_ok (update : UpdateDraft) (statements : List UpdateStatement)
    (written : update.statements = .ok statements) :
    ∃ target more, update.draft.aliases.target = .ok target ∧
      update.additional.assignments = .ok more ∧ update.rows ≠ [] ∧
      (target.table.updatable ≠ [] ∨ more ≠ []) ∧
      List.Forall₂ (fun record statement => update.rowStatement target more record = .ok statement)
        update.rows statements := by
  obtain ⟨target, targeted, filled⟩ := bind_ok_iff.mp written
  split at filled
  · cases filled
  · rename_i present
    obtain ⟨more, assigned, rest⟩ := bind_ok_iff.mp filled
    split at rest
    · cases rest
    · rename_i something
      refine ⟨target, more, targeted, assigned, by simpa using present, ?_, mapM_ok rest⟩
      by_contra nothing
      obtain ⟨first, second⟩ := not_or.mp nothing
      exact something (by simp [not_not.mp first, not_not.mp second])

theorem row_statement_ok (update : UpdateDraft) (target : Participant) (more : List String)
    (record : Record) (statement : UpdateStatement)
    (written : update.rowStatement target more record = .ok statement) :
    ∃ own keyTests, target.table.updatable.mapM (assignment record) = .ok own ∧
      target.table.keys.mapM (keyTest target record) = .ok keyTests ∧
      statement = {
        table := target.table.qualifiedName
        aliasName := target.aliasName
        assignments := own ++ more
        hint := update.draft.settings.hintSuffix
        joins := update.draft.joins
        tests := keyTests ++ filterTests update.draft.filter } := by
  obtain ⟨own, assigned, rest⟩ := bind_ok_iff.mp written
  obtain ⟨keyTests, tested, same⟩ := bind_ok_iff.mp rest
  exact ⟨own, keyTests, assigned, tested, (Except.ok.inj same).symm⟩

end UpdateDraft

namespace JoinedUpdateDraft

theorem statement_ok (update : JoinedUpdateDraft) (statement : UpdateStatement)
    (written : update.statement = .ok statement) :
    ∃ target more, update.draft.aliases.target = .ok target ∧
      update.additional.assignments = .ok more ∧ update.assignments ++ more ≠ [] ∧
      statement = {
        table := target.table.qualifiedName
        aliasName := target.aliasName
        assignments := update.assignments ++ more
        hint := update.draft.settings.hintSuffix
        joins := update.draft.joins
        tests := if update.draft.filter.isEmpty then [] else [update.draft.filter.text] } := by
  obtain ⟨target, targeted, rest⟩ := bind_ok_iff.mp written
  obtain ⟨more, assigned, last⟩ := bind_ok_iff.mp rest
  by_cases nothing : (update.assignments ++ more).isEmpty = true
  · simp only [nothing, ↓reduceIte] at last
    cases last
  · simp only [if_neg nothing] at last
    exact ⟨target, more, targeted, assigned, fun empty => nothing (by rw [empty]; rfl),
      (Except.ok.inj last).symm⟩

end JoinedUpdateDraft

namespace Script

theorem update_ok (entity : EntityType) (record : Record) (additional : AdditionalColumns)
    (conditions : List String) (text : String)
    (written : update entity record additional conditions = .ok text) :
    ∃ table own more tests, Table.ofMapping entity.mapping = .ok table ∧
      table.updatable.mapM (UpdateDraft.assignment record) = .ok own ∧
      additional.assignments = .ok more ∧ own ++ more ≠ [] ∧
      rowTests table record conditions = .ok tests ∧
      text = updateText table.qualifiedName (own ++ more) tests := by
  obtain ⟨table, mapped, rest⟩ := bind_ok_iff.mp written
  obtain ⟨own, assigned, filled⟩ := bind_ok_iff.mp rest
  obtain ⟨more, given, checked⟩ := bind_ok_iff.mp filled
  by_cases nothing : (own ++ more).isEmpty = true
  · simp only [nothing, ↓reduceIte] at checked
    cases checked
  · simp only [if_neg nothing] at checked
    obtain ⟨tests, tested, same⟩ := bind_ok_iff.mp checked
    exact ⟨table, own, more, tests, mapped, assigned, given, fun empty => nothing (by rw [empty]; rfl),
      tested, (Except.ok.inj same).symm⟩

-- With everything else in place, an update depends on the tests of its row.
theorem update_valid (entity : EntityType) (record : Record) (additional : AdditionalColumns)
    (conditions : List String) (table : Table) (own more : List String)
    (mapped : Table.ofMapping entity.mapping = .ok table)
    (assigned : table.updatable.mapM (UpdateDraft.assignment record) = .ok own)
    (given : additional.assignments = .ok more) (present : own ++ more ≠ []) :
    update entity record additional conditions =
      (rowTests table record conditions).map (updateText table.qualifiedName (own ++ more)) := by
  have there : (own ++ more).isEmpty = false := by simpa using present
  simp only [update, mapped, assigned, given, bind, Except.bind, there]
  cases rowTests table record conditions <;> rfl

theorem delete_ok (settings : Settings) (entity : EntityType) (record : Record)
    (conditions : List String) (text : String)
    (written : delete settings entity record conditions = .ok text) :
    ∃ table tests, Table.ofMapping entity.mapping = .ok table ∧
      rowTests table record conditions = .ok tests ∧
      ((table.softDelete = true ∧ ∃ flag, Identifier.quote settings.softDeleteColumn = .ok flag ∧
        text = updateText table.qualifiedName [Statement.assignment flag "1"] tests) ∨
        (table.softDelete = false ∧ text = "DELETE FROM " ++ table.qualifiedName ++ " WHERE " ++
          Statement.conjunction tests ++ " ;")) := by
  obtain ⟨table, mapped, rest⟩ := bind_ok_iff.mp written
  obtain ⟨tests, tested, last⟩ := bind_ok_iff.mp rest
  refine ⟨table, tests, mapped, tested, ?_⟩
  by_cases soft : table.softDelete = true
  · rw [if_pos soft] at last
    obtain ⟨flag, quoted, same⟩ := bind_ok_iff.mp last
    exact .inl ⟨soft, flag, quoted, (Except.ok.inj same).symm⟩
  · rw [if_neg soft] at last
    exact .inr ⟨Bool.not_eq_true _ ▸ soft, (Except.ok.inj last).symm⟩

end Script

end MappedSql
