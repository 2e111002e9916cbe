import MappedSql.Proofs.AcceptedMappings
import MappedSql.Proofs.KeptTargets
import MappedSql.Proofs.MergeText
import MappedSql.Proofs.SetTargets

/-!
The columns that updates write. Updates of rows and updates in scripts pick them among all columns
of a table, merges among the columns that inserts write. As keys are never updated and whatever
updates write inserts write too, they all pick the same ones, and where there are none a merge says
nothing about rows that it finds and both kinds of updates are refused.
-/

namespace MappedSql

open Outcome Reading

def Mapping.updatedNames (mapping : Mapping) : List String :=
  (mapping.mapped.filter fun entry =>
    entry.2.writes == .insertAndUpdate && !entry.2.primaryKey).map (·.2.name)

namespace Table

theorem of_mapping_updatable (mapping : Mapping) (table : Table)
    (accepted : ofMapping mapping = .ok table) :
    table.updatable.map (·.name) = mapping.updatedNames := by
  refine of_mapping_picked mapping table accepted _
    (fun declared => declared.writes == .insertAndUpdate && !declared.primaryKey) fun _ declared => ?_
  -- The rule of a key is changed, but a key is not updated by any rule.
  cases key : declared.primaryKey <;>
    simp [Column.isUpdatable, Column.ofMapping, Column.normalRule, key]

theorem updatable_nil (mapping : Mapping) (table : Table) (accepted : ofMapping mapping = .ok table)
    (nothing : mapping.updatedNames = []) : table.updatable = [] := by
  rw [← of_mapping_updatable mapping table accepted] at nothing
  exact List.map_eq_nil_iff.mp nothing

theorem insertable_updatable (table : Table) :
    table.insertable.filter (·.isUpdatable) = table.updatable := by
  rw [insertable, updatable, List.filter_filter]
  refine List.filter_congr fun column _ => ?_
  cases updatable : column.isUpdatable with
  | false => rfl
  | true => rw [column.updatable_insertable updatable, Bool.and_self]

end Table

namespace MergeReading

def branches? (text : String) : Option (List Char) := do
  let (_, text) ← clause? "USING" text.toList
  let (_, text) ← clause? "AS" text
  let (_, text) ← clause? "ON" text
  let (_, text) ← clause? "WHEN" text
  return text

def BranchesOnMatch (text : String) : Prop :=
  ∃ branches, branches? text = some branches ∧ "MATCHED".toList <+: branches

-- A merge that goes on with the inserts at once has no assignments, any other one has some.
theorem updates_branch (text behind : List Char) (updates : List (String × String))
    (read : updates? text = some (updates, behind)) :
    (updates = [] ∧ behind = text) ∨ (updates ≠ [] ∧ "MATCHED".toList <+: text) := by
  unfold updates? at read
  split at read
  · cases read
    exact .inl ⟨rfl, rfl⟩
  · rename_i list dropped
    obtain ⟨front, split, same⟩ := List.dropPrefix?_eq_some_iff.mp dropped
    obtain ⟨⟨assigned, later⟩, _, rest⟩ := Option.bind_eq_some_iff.mp read
    obtain ⟨found, each, whole⟩ := Option.bind_eq_some_iff.mp rest
    cases whole
    refine .inr ⟨each_present assignment? assigned updates each, ?_⟩
    have begins : "MATCHED".toList <+: "MATCHED THEN UPDATE SET ".toList := by decide
    rw [split, eq_of_beq same]
    exact begins.trans (List.prefix_append _ _)

theorem branches_on_match_iff (text : String) (reading : MergeReading)
    (read : read? text = some reading) : BranchesOnMatch text ↔ reading.updates ≠ [] := by
  obtain ⟨⟨merged, afterTarget⟩, target, read⟩ := Option.bind_eq_some_iff.mp read
  obtain ⟨⟨row, afterRow⟩, values, read⟩ := Option.bind_eq_some_iff.mp read
  obtain ⟨⟨source, afterSource⟩, columns, read⟩ := Option.bind_eq_some_iff.mp read
  obtain ⟨⟨condition, branches⟩, tests, read⟩ := Option.bind_eq_some_iff.mp read
  obtain ⟨⟨updates, behind⟩, updated, read⟩ := Option.bind_eq_some_iff.mp read
  obtain ⟨insert, inserts, read⟩ := Option.bind_eq_some_iff.mp read
  have cut : branches? text = some branches := by
    simp only [branches?, target, values, columns, tests, Option.bind_eq_bind, Option.bind_some]
    rfl
  -- What is read of the other clauses does not matter.
  have same : reading.updates = updates := by
    simp only [Option.bind_eq_bind, Option.bind_eq_some_iff] at read
    obtain ⟨_, _, _, _, _, _, _, _, _, _, _, _, _, _, whole⟩ := read
    rw [← Option.some.inj whole]
  have onMatch : BranchesOnMatch text ↔ "MATCHED".toList <+: branches := by
    simp [BranchesOnMatch, cut]
  rw [onMatch, same]
  rcases updates_branch branches behind updates updated with ⟨nothing, goesOn⟩ | ⟨filled, begins⟩
  · obtain ⟨front, split, equal⟩ := List.dropPrefix?_eq_some_iff.mp inserts
    refine iff_of_false (fun begins => ?_) (not_not.mpr nothing)
    rw [← goesOn, split, eq_of_beq equal] at begins
    simp at begins
  · exact iff_of_true begins filled

end MergeReading

theorem UpdateDraft.statements_no_column (update : UpdateDraft) (target : Participant)
    (targeted : update.draft.aliases.target = .ok target) (filled : update.rows ≠ [])
    (bare : update.additional.entries = []) (nothing : target.table.updatable = []) :
    update.statements = .error (.noUpdatableColumn target.table.qualifiedName) := by
  have rows : update.rows.isEmpty = false := by simpa using filled
  have more : update.additional.assignments = .ok [] := by
    rw [AdditionalColumns.assignments, bare]
    rfl
  have columns : target.table.updatable.isEmpty = true := by simpa using nothing
  simp only [statements, targeted, rows, more, columns, bind, Except.bind]
  rfl

section Refused

variable (entity : EntityType) (table : Table) (mapped : Table.ofMapping entity.mapping = .ok table)
  (nothing : table.updatable = [])

include mapped nothing

theorem Script.update_no_column (record : Record) (conditions : List String) :
    update entity record .none conditions = .error (.noUpdatableColumn table.qualifiedName) := by
  have own : table.updatable.mapM (UpdateDraft.assignment record) = .ok [] := by
    rw [nothing]
    rfl
  have more : AdditionalColumns.none.assignments = .ok [] := rfl
  simp only [update, mapped, bind, Except.bind, own, more]
  rfl

theorem UpdateDraft.build_no_column (steps : List Step)
    (bare : (run entity steps).additional.entries = [])
    (succeeded : (run entity steps).draft.fault = none) (filled : (run entity steps).rows ≠ []) :
    StatementDraft.build (run entity steps) =
      .error (.noUpdatableColumn table.qualifiedName) := by
  have targeted := RefusingDraft.target_kept (δ := UpdateDraft) entity steps table mapped
  have refused := (run entity steps).statements_no_column _ targeted filled bare nothing
  rw [StatementDraft.build_written _ succeeded]
  change ((run entity steps).statements >>= _) = _
  rw [refused]
  rfl

end Refused

/-- The columns of these names are what every statement for rows that are there sets, unless more
columns are asked for; if there are none, such rows are left alone or nothing is written at all. -/
structure EntityType.Updates (entity : EntityType) (names : List String) : Prop where
  columns (table : Table) : Table.ofMapping entity.mapping = .ok table →
    (table.columns.filter fun column =>
      column.writes = .insertAndUpdate ∧ column.primaryKey = false).map (·.name) = names
  rows (steps : List UpdateDraft.Step) (text : String) :
    (UpdateDraft.run entity steps).additional.entries = [] →
    StatementDraft.build (UpdateDraft.run entity steps) = .ok text →
    ∃ statements, text = ";\n".intercalate statements ∧
      statements.length = (UpdateDraft.run entity steps).rows.length ∧
      ∀ statement ∈ statements, setTargets statement = names
  script (record : Record) (conditions : List String) (text : String) :
    Script.update entity record .none conditions = .ok text → setTargets text = names
  merge (record : Record) (text : String) : Script.merge entity record = .ok text →
    (∃ reading, MergeReading.read? text = some reading ∧
      reading.updates.map Prod.fst = names) ∧
    (MergeReading.BranchesOnMatch text ↔ names ≠ [])
  refused (table : Table) : names = [] → Table.ofMapping entity.mapping = .ok table →
    (∀ record conditions, Script.update entity record .none conditions =
      .error (.noUpdatableColumn table.qualifiedName)) ∧
    (∀ steps, (UpdateDraft.run entity steps).additional.entries = [] →
      (UpdateDraft.run entity steps).draft.fault = none →
      (UpdateDraft.run entity steps).rows ≠ [] →
      StatementDraft.build (UpdateDraft.run entity steps) =
        .error (.noUpdatableColumn table.qualifiedName)) ∧
    (Fault.noUpdatableColumn table.qualifiedName).category = .invalidOperation

namespace EntityType

variable (entity : EntityType)

theorem rows_targets (steps : List UpdateDraft.Step) (text : String)
    (bare : (UpdateDraft.run entity steps).additional.entries = [])
    (built : StatementDraft.build (UpdateDraft.run entity steps) = .ok text) :
    ∃ statements, text = ";\n".intercalate statements ∧
      statements.length = (UpdateDraft.run entity steps).rows.length ∧
      ∀ statement ∈ statements, setTargets statement = entity.mapping.updatedNames := by
  have succeeded := ((StatementDraft.build_ok_iff _ _).mp built).1
  obtain ⟨table, mapped, _⟩ := JoiningDraft.run_target (δ := UpdateDraft) entity steps succeeded
  rw [Update.rows_text] at built
  obtain ⟨texts, written, rfl⟩ := map_ok_iff.mp built
  have exact := (Update.rows entity steps).targets_exact texts written table mapped
  simp only [Update.own, Update.given, bare, List.map_nil, List.append_nil] at exact
  rw [Table.of_mapping_updatable entity.mapping table mapped] at exact
  refine ⟨texts, rfl, ?_, exact⟩
  obtain ⟨_, _, rest⟩ := bind_ok_iff.mp written
  obtain ⟨statements, made, same⟩ := bind_ok_iff.mp rest
  obtain ⟨_, _, _, _, _, _, each⟩ := (UpdateDraft.run entity steps).statements_ok statements made
  rw [← pure_ok_iff.mp same, List.length_map, each.length_eq]

theorem script_targets (record : Record) (conditions : List String) (text : String)
    (written : Script.update entity record .none conditions = .ok text) :
    setTargets text = entity.mapping.updatedNames := by
  obtain ⟨table, _, _, _, mapped, _⟩ := Script.update_ok entity record .none conditions text written
  have statements : (Update.script entity record .none conditions).statements = .ok [text] := by
    rw [Update.statements, written]
    rfl
  have exact := Update.targets_exact _ [text] statements table mapped text List.mem_cons_self
  simpa [Update.own, Update.given, AdditionalColumns.none,
    Table.of_mapping_updatable entity.mapping table mapped] using exact

theorem merge_targets (record : Record) (text : String)
    (written : Script.merge entity record = .ok text) :
    ∃ reading, MergeReading.read? text = some reading ∧
      reading.updates.map Prod.fst = entity.mapping.updatedNames := by
  obtain ⟨table, values, mapped, read, _⟩ := Script.merge_read entity record text written
  refine ⟨_, read, ?_⟩
  rw [MergeReading.ofTable, table.insertable_updatable, List.map_map,
    ← Table.of_mapping_updatable entity.mapping table mapped]
  rfl

/-- Updates of rows, updates in scripts and merges set the same columns in the order in which they
are declared: those that updates write, without the keys. Where there are none, merges have no
branch for rows that are there, and both kinds of updates are refused. -/
theorem updates_agree : entity.Updates entity.mapping.updatedNames where
  columns table mapped := by
    rw [← Table.of_mapping_updatable entity.mapping table mapped, Table.updatable]
    simp [Column.isUpdatable, beq_eq_decide]
  rows := entity.rows_targets
  script := entity.script_targets
  merge record text written := by
    obtain ⟨reading, read, updates⟩ := entity.merge_targets record text written
    refine ⟨⟨reading, read, updates⟩, ?_⟩
    rw [MergeReading.branches_on_match_iff text reading read, ← updates, Ne, Ne, List.map_eq_nil_iff]
  refused table nothing mapped := by
    have unwritten := Table.updatable_nil entity.mapping table mapped nothing
    refine ⟨?_, ?_, rfl⟩
    · exact fun record conditions => Script.update_no_column entity table mapped unwritten record conditions
    · exact fun steps => UpdateDraft.build_no_column entity table mapped unwritten steps

def auditRow : Record :=
  ⟨"Audit", [("id", .ok .null), ("created_at", .ok .null),
    ("payload", .ok (.text " WHEN MATCHED THEN UPDATE SET [Id] = 1")), ("row_version", .ok .null)]⟩

def keyRow : Record :=
  ⟨"KeyOnly", [("id", .ok (.guid ⟨7⟩))]⟩

/-- Of the audit one column is left: the others are a key, one for inserts and one that is never
written. Of a table with a key alone none is left. -/
theorem audit_updates_agree :
    Updates ⟨"Audit", Sample.audit⟩ ["Payload"] ∧
      (∃ text, StatementDraft.build (UpdateDraft.run ⟨"Audit", Sample.audit⟩
        [.addRows [auditRow, auditRow]]) = .ok text) ∧
      (∃ text, Script.update ⟨"Audit", Sample.audit⟩ auditRow .none [] = .ok text ∧
        setTargets text = ["Payload"]) ∧
      (∃ text, Script.merge ⟨"Audit", Sample.audit⟩ auditRow = .ok text ∧
        MergeReading.BranchesOnMatch text) ∧
      (∃ text, Script.merge ⟨"KeyOnly", Sample.keyOnly⟩ keyRow = .ok text ∧
        ¬ MergeReading.BranchesOnMatch text) ∧
      ∃ table, Script.update ⟨"KeyOnly", Sample.keyOnly⟩ keyRow .none [] =
        .error (.noUpdatableColumn table) := by
  have audit := updates_agree ⟨"Audit", Sample.audit⟩
  have keyOnly := updates_agree ⟨"KeyOnly", Sample.keyOnly⟩
  refine ⟨audit, ⟨_, rfl⟩, ⟨_, rfl, audit.script auditRow [] _ rfl⟩, ⟨_, rfl, ?_⟩, ⟨_, rfl, ?_⟩, ?_⟩
  · exact (audit.merge auditRow _ rfl).2.mpr (by decide)
  · exact fun onMatch => (keyOnly.merge keyRow _ rfl).2.mp onMatch rfl
  · exact ⟨_, (keyOnly.refused _ rfl rfl).1 keyRow []⟩

end EntityType

end MappedSql
