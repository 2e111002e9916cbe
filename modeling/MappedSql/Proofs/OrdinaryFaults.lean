import MappedSql.Draft.Basic
import MappedSql.Proofs.UnsupportedConstructs

/-!
Faults of what is asked for. Whatever names, values, mappings and expressions are given, what is
refused is refused for one of them; that an invariant of the library itself was broken is never the
reason. Where the target of a statement is asked for, there has to be one.
-/

namespace MappedSql

theorem Fault.OfPart.ordinary {fault : Fault} (ofPart : fault.OfPart) :
    fault.category ≠ .invariantViolation := by
  intro violated
  rw [OfPart, violated] at ofPart
  cases ofPart.1

def Ordinary {α : Type} (outcome : Except Fault α) : Prop :=
  ∀ fault, outcome = .error fault → fault.category ≠ .invariantViolation

namespace Ordinary

variable {α β : Type}

@[simp]
theorem of_ok (value : α) : Ordinary (.ok value) := nofun

@[simp]
theorem of_pure (value : α) : Ordinary (pure value) := nofun

@[simp]
theorem error_iff (fault : Fault) :
    Ordinary (.error fault : Except Fault α) ↔ fault.category ≠ .invariantViolation :=
  ⟨fun ordinary => ordinary fault rfl, fun ordinary _ same => Except.error.inj same ▸ ordinary⟩

theorem bind {first : Except Fault α} {next : α → Except Fault β} (before : Ordinary first)
    (after : ∀ value, first = .ok value → Ordinary (next value)) : Ordinary (first >>= next) :=
  Outcome.FaultsAre.bind before after

theorem thrown {fault : Fault} (ordinary : fault.category ≠ .invariantViolation)
    (next : α → Except Fault β) : Ordinary (throw fault >>= next) :=
  fun _ same => Except.error.inj same ▸ ordinary

theorem map {first : Except Fault α} (before : Ordinary first) (write : α → β) :
    Ordinary (first.map write) :=
  Outcome.FaultsAre.map before write

theorem of_parts {outcome : Except Fault α} (parts : Outcome.FaultsAre Fault.OfPart outcome) :
    Ordinary outcome :=
  parts.imp fun _ => Fault.OfPart.ordinary

theorem mapM {items : List α} {write : α → Except Fault β}
    (each : ∀ item, Ordinary (write item)) : Ordinary (items.mapM write) :=
  Outcome.FaultsAre.mapM fun item _ => each item

end Ordinary

def OrdinaryRefusal (refused : Option Fault) : Prop :=
  ∀ fault, refused = some fault → fault.category ≠ .invariantViolation

namespace OrdinaryRefusal

@[simp]
theorem of_none : OrdinaryRefusal none := nofun

@[simp]
theorem some_iff (fault : Fault) :
    OrdinaryRefusal (some fault) ↔ fault.category ≠ .invariantViolation :=
  ⟨fun ordinary => ordinary fault rfl, fun ordinary _ same => Option.some.inj same ▸ ordinary⟩

theorem or {first second : Option Fault} (before : OrdinaryRefusal first)
    (after : first = none → OrdinaryRefusal second) : OrdinaryRefusal (first.or second) := by
  cases first with
  | none => exact after rfl
  | some fault => exact before

theorem of_outcome {α : Type} {outcome : Except Fault α} (ordinary : Ordinary outcome) :
    OrdinaryRefusal (Outcome.failure? outcome) := by
  cases outcome with
  | ok value => exact of_none
  | error fault => exact (some_iff fault).mpr (ordinary fault rfl)

end OrdinaryRefusal

open Ordinary

namespace Identifier

theorem check_ordinary (name : String) : Ordinary (check name) := by
  unfold check
  split_ifs <;> simp [Fault.category]

theorem quote_ordinary (name : String) : Ordinary (quote name) :=
  .bind (check_ordinary name) fun _ _ => of_pure _

theorem qualified_ordinary (schema table : String) : Ordinary (qualified schema table) :=
  .bind (check_ordinary schema) fun _ _ => .bind (check_ordinary table) fun _ _ => of_pure _

end Identifier

namespace Table

theorem column_fault_ordinary (type : String) (before : List Column) (member : MemberMapping)
    (mapping : ColumnMapping) : OrdinaryRefusal (columnFault? type before member mapping) := by
  unfold columnFault?
  split_ifs <;> simp [Fault.category]

theorem collect_ordinary (type : String) (before : List Column) (members : List MemberMapping) :
    Ordinary (collect type before members) := by
  fun_induction collect type before members with
  | case1 before => exact of_ok before
  | case2 before member rest _ ih => exact ih
  | case3 before member rest mapping _ fault refused =>
      exact (error_iff fault).mpr (column_fault_ordinary type before member mapping fault refused)
  | case4 before member rest mapping _ _ ih => exact ih

theorem of_mapping_ordinary (mapping : Mapping) : Ordinary (ofMapping mapping) := by
  unfold ofMapping
  split
  · simp [Fault.category]
  · split_ifs
    · simp [Fault.category]
    · simp [Fault.category]
    · exact .bind (collect_ordinary _ _ _) fun _ _ => of_pure _

end Table

theorem Aliases.register_ordinary (aliases : Aliases) (entity : EntityType) (asTarget : Bool) :
    Ordinary (aliases.register entity asTarget) := by
  rw [register_eq_enter]
  refine .map ?_ _
  unfold enter
  split
  · exact of_ok aliases
  · exact .bind (Table.of_mapping_ordinary entity.mapping) fun _ _ => of_pure _

namespace Value

theorem literal_ordinary (policy : LiteralPolicy) (value : Value) :
    Ordinary (value.literal policy) :=
  of_parts (value.literal_of_part policy)

theorem render_ordinary (policy : LiteralPolicy) (value : Value) :
    Ordinary (value.render policy) :=
  .map (literal_ordinary policy value) _

end Value

theorem Record.read_ordinary (record : Record) (name : String) : Ordinary (record.read? name) := by
  intro fault refused
  rw [read_refused_category refused]
  nofun

theorem Column.render_ordinary (column : Column) (record : Record) :
    Ordinary (column.render record) := by
  refine .map (.bind (.bind (record.read_ordinary column.member) fun read _ => ?_) fun cell _ => ?_) _
  · cases read with
    | none => simp [Fault.category]
    | some value => exact of_pure _
  · cases cell with
    | stored value => exact value.literal_ordinary column.policy
    | freshGuid => exact of_ok _
    | currentTime withOffset => exact of_ok _

namespace AdditionalColumns

theorem names_ordinary (columns : AdditionalColumns) : Ordinary columns.quotedNames :=
  .mapM fun entry => Identifier.quote_ordinary entry.1

theorem literals_ordinary (columns : AdditionalColumns) : Ordinary columns.literals :=
  .mapM fun entry => entry.2.render_ordinary .plain

theorem assignments_ordinary (columns : AdditionalColumns) : Ordinary columns.assignments :=
  .mapM fun entry => .bind (Identifier.quote_ordinary entry.1) fun _ _ =>
    .bind (entry.2.render_ordinary .plain) fun _ _ => of_pure _

end AdditionalColumns

namespace Expr

theorem column_ordinary (aliases : Aliases) (expr : Expr) : Ordinary (columnOf aliases expr) :=
  of_parts (column_of_part aliases expr)

theorem lower_ordinary (scope : Scope) (expr : Expr) (beside : Option Column) :
    Ordinary (expr.lower scope beside) := by
  refine (lower_refused_for scope expr beside).imp ?_
  rintro fault (ofPart | ⟨_, unsupported, _⟩)
  · exact ofPart.ordinary
  · cases unsupported <;> nofun

theorem compile_ordinary (scope : Scope) (expr : Expr) : Ordinary (expr.compile scope) :=
  .map (lower_ordinary scope expr none) _

theorem to_column_ordinary (aliases : Aliases) (expr : Expr) :
    Ordinary (expr.toColumn aliases) := by
  refine .bind (column_ordinary aliases _) fun read _ => ?_
  cases read with
  | none => simp [Fault.category]
  | some reference => exact of_pure reference

end Expr

end MappedSql
