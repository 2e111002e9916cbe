import MappedSql.Proofs.Outcome
import MappedSql.Sample
import MappedSql.Schema.Table
import Mathlib.Data.List.Pairwise

/-!
The columns of an accepted table. No two of them have one name, as the database compares names, so
what is said of a name is said of one column.
-/

namespace MappedSql

open Outcome

namespace Identifier

theorem same_name_comm (first second : String) : sameName first second = sameName second first :=
  BEq.comm

theorem same_name_trans {first second third : String} (one : sameName first second = true)
    (other : sameName second third = true) : sameName first third = true :=
  BEq.trans one other

end Identifier

namespace Table

def Distinct (columns : List Column) : Prop :=
  columns.Pairwise fun earlier later => Identifier.sameName earlier.name later.name = false

theorem fresh_name (type : String) (before : List Column) (member : MemberMapping)
    (mapping : ColumnMapping) (fine : columnFault? type before member mapping = none) :
    ∀ earlier ∈ before, Identifier.sameName earlier.name mapping.name = false := by
  unfold columnFault? at fine
  split_ifs at fine with blank repeated
  simpa using repeated

theorem collect_distinct (type : String) (before columns : List Column)
    (members : List MemberMapping) (distinct : Distinct before)
    (collected : collect type before members = .ok columns) : Distinct columns := by
  induction members generalizing before with
  | nil => exact Except.ok.inj collected ▸ distinct
  | cons member rest ih =>
      rw [collect] at collected
      cases given : member.column with
      | none => exact ih before distinct (by simpa only [given] using collected)
      | some mapping =>
          simp only [given] at collected
          split at collected
          · cases collected
          · rename_i fine
            refine ih _ ?_ collected
            refine List.pairwise_append.mpr ⟨distinct, List.pairwise_singleton _ _, ?_⟩
            intro earlier inside later last
            rw [List.mem_singleton.mp last]
            exact fresh_name type before member mapping fine earlier inside

theorem of_mapping_distinct (mapping : Mapping) (table : Table)
    (accepted : ofMapping mapping = .ok table) : Distinct table.columns := by
  unfold ofMapping at accepted
  split at accepted
  · cases accepted
  · split_ifs at accepted
    obtain ⟨columns, collected, same⟩ := bind_ok_iff.mp accepted
    rw [pure_ok_iff] at same
    exact same ▸ collect_distinct _ [] columns _ List.Pairwise.nil collected

-- Columns with one name are one column.
theorem distinct_unique (columns : List Column) (distinct : Distinct columns)
    (first second : Column) (one : first ∈ columns) (other : second ∈ columns)
    (same : Identifier.sameName first.name second.name = true) : first = second := by
  induction columns with
  | nil => contradiction
  | cons column rest ih =>
      obtain ⟨apart, later⟩ := List.pairwise_cons.mp distinct
      rcases List.mem_cons.mp one with rfl | inRest <;> rcases List.mem_cons.mp other with rfl | inRest'
      · rfl
      · rw [apart second inRest'] at same
        cases same
      · rw [Identifier.same_name_comm, apart first inRest] at same
        cases same
      · exact ih later inRest inRest'

end Table

def Column.isProtected (column : Column) : Bool :=
  column.primaryKey || column.writes != .insertAndUpdate

def Table.protects (table : Table) (name : String) : Bool :=
  table.columns.any fun column => Identifier.sameName column.name name && column.isProtected

theorem Table.updatable_unprotected (table : Table) (distinct : Distinct table.columns)
    (column : Column) (member : column ∈ table.updatable) : table.protects column.name = false := by
  obtain ⟨inTable, updatable⟩ := List.mem_filter.mp member
  rw [protects, List.any_eq_false]
  intro other inside both
  obtain ⟨same, isProtected⟩ := Bool.and_eq_true_iff.mp both
  obtain rfl := distinct_unique table.columns distinct other column inside inTable same
  simp only [Column.isUpdatable, Column.isProtected, Bool.and_eq_true, Bool.or_eq_true,
    Bool.not_eq_true', beq_iff_eq, bne_iff_ne] at updatable isProtected
  rcases isProtected with key | computed
  · rw [updatable.2] at key
    cases key
  · exact computed updatable.1

/-!
Which mappings are accepted, and what becomes of them. A mapping is valid when nothing is wrong with
its table and with none of its columns; otherwise the first of its offences is reported. The table
of a valid mapping has the mapped members as its columns, as they were declared, but for the keys:
a key that updates were to write is written by inserts only.
-/

open Outcome

namespace Mapping

def mapped (mapping : Mapping) : List (MemberMapping × ColumnMapping) :=
  mapping.members.filterMap fun member => member.column.map fun column => (member, column)

def tableOffences (mapping : Mapping) : List Fault :=
  match mapping.table with
  | none => [.noTable mapping.type]
  | some table =>
      (if Text.isBlank table.name then [.blankTable mapping.type] else []) ++
        if Text.isBlank table.schema then [.blankSchema mapping.type] else []

def columnOffences (type : String) (earlier : List String) (member : MemberMapping)
    (column : ColumnMapping) : List Fault :=
  (if Text.isBlank column.name then [.blankColumn type member.name] else []) ++
    (if earlier.any (Identifier.sameName · column.name) then [.repeatedColumn type column.name]
      else []) ++
    if column.autoGenerate = true ∧ member.kind ∉ [.guid, .timestamp, .offsetTimestamp] then
      [.ungeneratableMember type member.name]
    else []

def offencesAfter (type : String) :
    List String → List (MemberMapping × ColumnMapping) → List Fault
  | _, [] => []
  | earlier, (member, column) :: rest =>
      columnOffences type earlier member column ++ offencesAfter type (earlier ++ [column.name]) rest

def offences (mapping : Mapping) : List Fault :=
  mapping.tableOffences ++ offencesAfter mapping.type [] mapping.mapped

/-- Usable names, no column twice, and generated values where a database can make them. -/
structure Valid (mapping : Mapping) : Prop where
  table : ∃ table, mapping.table = some table ∧
    Text.isBlank table.name = false ∧ Text.isBlank table.schema = false
  named : ∀ entry ∈ mapping.mapped, Text.isBlank entry.2.name = false
  distinct : mapping.mapped.Pairwise fun earlier later =>
    Identifier.sameName earlier.2.name later.2.name = false
  generatable : ∀ entry ∈ mapping.mapped, entry.2.autoGenerate = true →
    entry.1.kind ∈ [Kind.guid, .timestamp, .offsetTimestamp]

theorem table_offences_nil_iff (mapping : Mapping) :
    mapping.tableOffences = [] ↔ ∃ table, mapping.table = some table ∧
      Text.isBlank table.name = false ∧ Text.isBlank table.schema = false := by
  unfold tableOffences
  cases mapping.table with
  | none => simp
  | some table => simp

theorem column_offences_nil_iff (type : String) (earlier : List String) (member : MemberMapping)
    (column : ColumnMapping) :
    columnOffences type earlier member column = [] ↔
      Text.isBlank column.name = false ∧
        (∀ name ∈ earlier, Identifier.sameName name column.name = false) ∧
          (column.autoGenerate = true → member.kind ∈ [Kind.guid, .timestamp, .offsetTimestamp]) := by
  simp only [columnOffences, List.append_eq_nil_iff, ite_eq_right_iff, List.cons_ne_nil, imp_false,
    Bool.not_eq_true, List.any_eq_false, not_and, not_not, and_assoc]

theorem offences_after_nil_iff (type : String) (earlier : List String)
    (entries : List (MemberMapping × ColumnMapping)) :
    offencesAfter type earlier entries = [] ↔
      (∀ entry ∈ entries, Text.isBlank entry.2.name = false) ∧
      (∀ name ∈ earlier, ∀ entry ∈ entries, Identifier.sameName name entry.2.name = false) ∧
      (entries.Pairwise fun one other => Identifier.sameName one.2.name other.2.name = false) ∧
      ∀ entry ∈ entries, entry.2.autoGenerate = true →
        entry.1.kind ∈ [Kind.guid, .timestamp, .offsetTimestamp] := by
  induction entries generalizing earlier with
  | nil => simp [offencesAfter]
  | cons entry rest ih =>
      rw [offencesAfter, List.append_eq_nil_iff, column_offences_nil_iff, ih]
      simp only [List.forall_mem_append, List.forall_mem_singleton, List.forall_mem_cons,
        List.pairwise_cons, forall_and]
      tauto

theorem offences_nil_iff (mapping : Mapping) : mapping.offences = [] ↔ mapping.Valid := by
  rw [offences, List.append_eq_nil_iff, table_offences_nil_iff, offences_after_nil_iff]
  constructor
  · rintro ⟨table, named, _, distinct, generatable⟩
    exact ⟨table, named, distinct, generatable⟩
  · intro valid
    exact ⟨valid.table, valid.named, by simp, valid.distinct, valid.generatable⟩

theorem table_offence_cases (mapping : Mapping) (fault : Fault)
    (offence : fault ∈ mapping.tableOffences) :
    fault = .noTable mapping.type ∨ fault = .blankTable mapping.type ∨
      fault = .blankSchema mapping.type := by
  unfold tableOffences at offence
  cases given : mapping.table with
  | none => exact .inl (by simpa [given] using offence)
  | some table =>
      simp only [given] at offence
      rcases List.mem_append.mp offence with named | placed
      · exact .inr (.inl (by split_ifs at named <;> simp_all))
      · exact .inr (.inr (by split_ifs at placed <;> simp_all))

theorem offence_after_cases (type : String) (earlier : List String)
    (entries : List (MemberMapping × ColumnMapping)) (fault : Fault)
    (offence : fault ∈ offencesAfter type earlier entries) :
    ∃ entry ∈ entries, fault = .blankColumn type entry.1.name ∨
      fault = .repeatedColumn type entry.2.name ∨ fault = .ungeneratableMember type entry.1.name := by
  induction entries generalizing earlier with
  | nil => simp [offencesAfter] at offence
  | cons entry rest ih =>
      rcases List.mem_append.mp offence with here | later
      · refine ⟨entry, List.mem_cons_self, ?_⟩
        simp only [columnOffences, List.mem_append] at here
        rcases here with (blank | repeated) | ungenerated
        · exact .inl (by split_ifs at blank <;> simp_all)
        · exact .inr (.inl (by split_ifs at repeated <;> simp_all))
        · exact .inr (.inr (by split_ifs at ungenerated <;> simp_all))
      · obtain ⟨source, inRest, which⟩ := ih _ later
        exact ⟨source, List.mem_cons_of_mem entry inRest, which⟩

theorem offence_cases (mapping : Mapping) (fault : Fault) (offence : fault ∈ mapping.offences) :
    (fault = .noTable mapping.type ∨ fault = .blankTable mapping.type ∨
        fault = .blankSchema mapping.type) ∨
      ∃ entry ∈ mapping.mapped, fault = .blankColumn mapping.type entry.1.name ∨
        fault = .repeatedColumn mapping.type entry.2.name ∨
          fault = .ungeneratableMember mapping.type entry.1.name := by
  rcases List.mem_append.mp offence with ofTable | ofColumn
  · exact .inl (mapping.table_offence_cases fault ofTable)
  · exact .inr (offence_after_cases mapping.type [] mapping.mapped fault ofColumn)

theorem generatable_iff (kind : Kind) :
    kind.isGeneratable = true ↔ kind ∈ [Kind.guid, .timestamp, .offsetTimestamp] := by
  cases kind <;> simp [Kind.isGeneratable]

theorem column_fault_first (type : String) (before : List Column) (member : MemberMapping)
    (column : ColumnMapping) :
    Table.columnFault? type before member column =
      (columnOffences type (before.map (·.name)) member column).head? := by
  unfold Table.columnFault? columnOffences
  simp only [List.any_map, Function.comp_def, Bool.and_eq_true, Bool.not_eq_true',
    ← Bool.not_eq_true (Kind.isGeneratable _), generatable_iff]
  split_ifs <;> rfl

theorem collect_failure (type : String) (before : List Column) (members : List MemberMapping) :
    failure? (Table.collect type before members) =
      (offencesAfter type (before.map (·.name))
        (members.filterMap fun member => member.column.map fun column => (member, column))).head? := by
  induction members generalizing before with
  | nil => rfl
  | cons member rest ih =>
      rw [Table.collect]
      cases given : member.column with
      | none => simpa [given] using ih before
      | some column =>
          simp only [column_fault_first, List.filterMap_cons, given, Option.map_some, offencesAfter,
            List.head?_append]
          cases first : (columnOffences type (before.map (·.name)) member column).head? with
          | some fault => rfl
          | none => simpa [Column.ofMapping] using ih (before ++ [Column.ofMapping member column])

theorem collect_columns (type : String) (before columns : List Column)
    (members : List MemberMapping) (collected : Table.collect type before members = .ok columns) :
    columns = before ++ (members.filterMap fun member =>
      member.column.map fun column => (member, column)).map
        fun entry => Column.ofMapping entry.1 entry.2 := by
  induction members generalizing before with
  | nil => simpa [Table.collect] using collected.symm
  | cons member rest ih =>
      rw [Table.collect] at collected
      cases given : member.column with
      | none => simpa [given] using ih before (by simpa only [given] using collected)
      | some column =>
          simp only [given] at collected
          split at collected
          · cases collected
          · simpa [given] using ih _ collected

end Mapping

namespace Table

theorem of_mapping_failure (mapping : Mapping) :
    failure? (ofMapping mapping) = mapping.offences.head? := by
  rw [ofMapping, Mapping.offences, Mapping.tableOffences]
  cases mapping.table with
  | none => rfl
  | some table =>
      have columns := Mapping.collect_failure mapping.type [] mapping.members
      dsimp only
      split_ifs
      · rfl
      · rfl
      · rfl
      · rw [List.nil_append, List.nil_append, Mapping.mapped]
        rw [List.map_nil] at columns
        rw [← columns]
        cases collect mapping.type [] mapping.members <;> rfl

theorem of_mapping_ok_iff (mapping : Mapping) :
    (∃ table, ofMapping mapping = .ok table) ↔ mapping.Valid := by
  rw [← Mapping.offences_nil_iff, ← List.head?_eq_none_iff, ← of_mapping_failure]
  cases ofMapping mapping <;> simp [failure?]

theorem of_mapping_error_iff (mapping : Mapping) (fault : Fault) :
    ofMapping mapping = .error fault ↔ mapping.offences.head? = some fault := by
  rw [← of_mapping_failure]
  cases ofMapping mapping <;> simp [failure?]

-- Only generated values where none can be made are a matter of configuration.
theorem refusal_category (mapping : Mapping) (fault : Fault)
    (first : mapping.offences.head? = some fault) :
    fault.category =
      if ∃ entry ∈ mapping.mapped, fault = .ungeneratableMember mapping.type entry.1.name then
        .configuration
      else .schema := by
  rcases mapping.offence_cases fault (List.mem_of_head? first) with
    (rfl | rfl | rfl) | ⟨entry, member, rfl | rfl | rfl⟩
  · simp [Fault.category]
  · simp [Fault.category]
  · simp [Fault.category]
  · simp [Fault.category]
  · simp [Fault.category]
  · rw [if_pos ⟨entry, member, rfl⟩, Fault.category]

theorem of_mapping_fields (mapping : Mapping) (table : Table)
    (accepted : ofMapping mapping = .ok table) :
    table.type = mapping.type ∧ mapping.table = some ⟨table.name, table.schema, table.softDelete⟩ ∧
      table.columns = mapping.mapped.map fun entry => Column.ofMapping entry.1 entry.2 := by
  unfold ofMapping at accepted
  split at accepted
  · cases accepted
  · rename_i declared given
    split_ifs at accepted
    obtain ⟨columns, collected, same⟩ := bind_ok_iff.mp accepted
    rw [pure_ok_iff] at same
    subst same
    exact ⟨rfl, given, Mapping.collect_columns mapping.type [] columns mapping.members collected⟩

-- Columns of an accepted table picked by a test that can be told from their declarations.
theorem of_mapping_picked (mapping : Mapping) (table : Table)
    (accepted : ofMapping mapping = .ok table) (test : Column → Bool) (told : ColumnMapping → Bool)
    (agrees : ∀ member declared, test (Column.ofMapping member declared) = told declared) :
    (table.columns.filter test).map (·.name) =
      (mapping.mapped.filter fun entry => told entry.2).map (·.2.name) := by
  rw [(of_mapping_fields mapping table accepted).2.2, List.filter_map, List.map_map]
  simp only [Function.comp_def, agrees]
  rfl

end Table

/-- The column is the member's, with everything that was declared; only a key that updates were to
write is written by inserts alone. -/
structure Column.Keeps (column : Column) (source : MemberMapping) (declared : ColumnMapping) :
    Prop where
  member : column.member = source.name
  kind : column.kind = source.kind
  name : column.name = declared.name
  primaryKey : column.primaryKey = declared.primaryKey
  enumAs : column.enumAs = declared.enumAs
  json : column.json = declared.json
  autoGenerate : column.autoGenerate = declared.autoGenerate
  demoted : declared.primaryKey = true → declared.writes = .insertAndUpdate →
    column.writes = .onlyInsert
  writes : ¬(declared.primaryKey = true ∧ declared.writes = .insertAndUpdate) →
    column.writes = declared.writes

theorem Column.of_mapping_keeps (member : MemberMapping) (declared : ColumnMapping) :
    (ofMapping member declared).Keeps member declared where
  member := rfl
  kind := rfl
  name := rfl
  primaryKey := rfl
  enumAs := rfl
  json := rfl
  autoGenerate := rfl
  demoted := by
    intro key updated
    simp [ofMapping, normalRule, key, updated]
  writes := by
    intro other
    simp only [ofMapping, normalRule, Bool.and_eq_true, beq_iff_eq, other, if_false]

theorem Column.updatable_insertable (column : Column) (updatable : column.isUpdatable = true) :
    column.isInsertable = true := by
  simp only [isUpdatable, Bool.and_eq_true, beq_iff_eq] at updatable
  simp [isInsertable, updatable.1]

namespace Table

theorem of_mapping_keeps (mapping : Mapping) (table : Table)
    (accepted : ofMapping mapping = .ok table) :
    List.Forall₂ (fun entry column => column.Keeps entry.1 entry.2) mapping.mapped table.columns := by
  rw [(of_mapping_fields mapping table accepted).2.2, List.forall₂_map_right_iff]
  exact List.forall₂_same.mpr fun entry _ => Column.of_mapping_keeps entry.1 entry.2

-- The names of an accepted table are not blank.
theorem of_mapping_named (mapping : Mapping) (table : Table)
    (accepted : ofMapping mapping = .ok table) (name : String)
    (member : name ∈ table.schema :: table.name :: table.columns.map (·.name)) :
    Text.isBlank name = false := by
  obtain ⟨_, declared, columns⟩ := of_mapping_fields mapping table accepted
  have valid := (of_mapping_ok_iff mapping).mp ⟨table, accepted⟩
  obtain ⟨given, same, named, placed⟩ := valid.table
  obtain rfl := Option.some.inj (same.symm.trans declared)
  rcases List.mem_cons.mp member with rfl | inRest
  · exact placed
  · rcases List.mem_cons.mp inRest with rfl | inColumns
    · exact named
    · rw [columns, List.map_map] at inColumns
      obtain ⟨entry, inside, rfl⟩ := List.mem_map.mp inColumns
      exact valid.named entry inside

theorem key_not_updated (mapping : Mapping) (table : Table)
    (accepted : ofMapping mapping = .ok table) (column : Column) (member : column ∈ table.columns)
    (key : column.primaryKey = true) : column.writes ≠ .insertAndUpdate := by
  obtain ⟨entry, _, keeps⟩ := forall₂_member (of_mapping_keeps mapping table accepted) member
  have declared : entry.2.primaryKey = true := keeps.primaryKey ▸ key
  by_cases updated : entry.2.writes = .insertAndUpdate
  · simp [keeps.demoted declared updated]
  · rw [keeps.writes fun both => updated both.2]
    exact updated

-- The first column of the name is the only one of it.
theorem column_by_name_iff (table : Table) (distinct : Distinct table.columns) (name : String)
    (column : Column) :
    table.columnByName? name = some column ↔
      column ∈ table.columns ∧ Identifier.sameName column.name name = true := by
  constructor
  · intro found
    exact ⟨List.mem_of_find?_eq_some found, by simpa using List.find?_some found⟩
  · rintro ⟨member, same⟩
    cases found : table.columnByName? name with
    | none => simpa [same] using List.find?_eq_none.mp found column member
    | some first =>
        have sameFirst : Identifier.sameName first.name name = true := by
          simpa using List.find?_some found
        rw [Identifier.same_name_comm] at same
        rw [distinct_unique table.columns distinct first column
          (List.mem_of_find?_eq_some found) member (Identifier.same_name_trans sameFirst same)]

/-- Exactly the valid mappings are accepted; of any other the first offence is reported. The table
of an accepted mapping has its mapped members as they were declared, no key that updates write, and
one column for each name. -/
theorem of_mapping_exact (mapping : Mapping) :
    ((∃ table, ofMapping mapping = .ok table) ↔ mapping.Valid) ∧
      (∀ fault, ofMapping mapping = .error fault ↔ mapping.offences.head? = some fault) ∧
      (∀ fault, ofMapping mapping = .error fault → fault.category =
        if ∃ entry ∈ mapping.mapped, fault = .ungeneratableMember mapping.type entry.1.name then
          .configuration
        else .schema) ∧
      ∀ table, ofMapping mapping = .ok table →
        table.type = mapping.type ∧
        mapping.table = some ⟨table.name, table.schema, table.softDelete⟩ ∧
        List.Forall₂ (fun entry column => column.Keeps entry.1 entry.2) mapping.mapped
          table.columns ∧
        (∀ column ∈ table.columns, column.primaryKey = true →
          column.writes ≠ .insertAndUpdate ∧ column.isUpdatable = false) ∧
        (∀ column ∈ table.columns, column.isUpdatable = true → column.isInsertable = true) ∧
        ∀ name column, table.columnByName? name = some column ↔
          column ∈ table.columns ∧ Identifier.sameName column.name name = true := by
  refine ⟨of_mapping_ok_iff mapping, of_mapping_error_iff mapping, ?_, ?_⟩
  · intro fault refused
    exact refusal_category mapping fault ((of_mapping_error_iff mapping fault).mp refused)
  · intro table accepted
    obtain ⟨sameType, sameTable, _⟩ := of_mapping_fields mapping table accepted
    refine ⟨sameType, sameTable, of_mapping_keeps mapping table accepted, ?_, ?_, ?_⟩
    · intro column member key
      exact ⟨key_not_updated mapping table accepted column member key, by simp [Column.isUpdatable, key]⟩
    · intro column _ updatable
      exact column.updatable_insertable updatable
    · exact column_by_name_iff table (of_mapping_distinct mapping table accepted)

theorem of_mapping_samples :
    ofMapping Sample.dupCol = .error (.repeatedColumn "DupCol" "CODE") ∧
      (∃ table, ofMapping Sample.keyOnly = .ok table) ∧
        ∀ table, ofMapping Sample.keyOnly = .ok table →
          ∃ column, table.columnByName? "ID" = some column ∧ column.writes = .onlyInsert := by
  obtain ⟨_, first, _, _⟩ := of_mapping_exact Sample.dupCol
  obtain ⟨accepted, _, _, normal⟩ := of_mapping_exact Sample.keyOnly
  refine ⟨(first _).mpr (by decide), accepted.mpr ?_, ?_⟩
  · exact (Mapping.offences_nil_iff Sample.keyOnly).mp (by decide)
  · intro table mapped
    obtain ⟨_, _, keeps, _, _, byName⟩ := normal table mapped
    obtain ⟨column, rest, kept, _, columns⟩ := List.forall₂_cons_left_iff.mp keeps
    refine ⟨column, (byName _ _).mpr ⟨by rw [columns]; exact List.mem_cons_self, ?_⟩,
      kept.demoted (by decide) (by decide)⟩
    rw [kept.name]
    decide

end Table

end MappedSql
