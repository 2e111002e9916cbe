import MappedSql.Proofs.OrdinaryFaults
import MappedSql.Proofs.Refusals

/-!
Targets that stay. The type that a statement was started with is its target after any steps, the
refused ones included, because nothing that a step lets in is a target. So the target that a
statement is written for is always there, and no statement fails for the lack of one.
-/

namespace MappedSql

open Outcome Ordinary

namespace Draft

theorem enter_all_ordinary (aliases : Aliases) (entities : List EntityType) :
    OrdinaryRefusal (enterAll aliases entities).2 := by
  induction entities generalizing aliases with
  | nil => exact .of_none
  | cons entity rest ih =>
      have registered := aliases.register_ordinary entity false
      rw [enterAll]
      split
      · exact ih _
      · rename_i fault failed
        exact (OrdinaryRefusal.some_iff fault).mpr (registered fault failed)

theorem compiled_ordinary (draft : Draft) (lambda : Lambda) (namesMembers : Bool) :
    Ordinary (draft.compile lambda namesMembers).2 := by
  simp only [compile]
  cases refused : (enterAll draft.aliases lambda.parameters).2 with
  | none => simpa only [refused] using lambda.body.compile_ordinary _
  | some fault =>
      simpa only [refused, error_iff] using
        enter_all_ordinary draft.aliases lambda.parameters fault refused

theorem resolve_ordinary (draft : Draft) (name : String) : Ordinary (draft.resolveTable name) := by
  unfold resolveTable
  split
  · exact of_ok _
  · refine .bind ?_ fun _ _ => of_pure _
    unfold quoteTableName
    split
    · exact Identifier.qualified_ordinary _ _
    · exact Identifier.quote_ordinary name

theorem refusal_ordinary (draft : Draft) (step : Step) : OrdinaryRefusal (draft.refusal? step) := by
  cases step with
  | filter condition connective => exact .of_outcome (draft.compiled_ordinary condition false)
  | state condition connective =>
      simp only [refusal?]
      split_ifs
      · simp [Fault.category]
      · exact .of_none
  | join left right condition kind =>
      simp only [refusal?]
      split_ifs
      · simp [Fault.category]
      · exact .of_outcome (draft.compiled_ordinary _ false)
  | joinTable table condition kind =>
      simp only [refusal?]
      split_ifs
      · simp [Fault.category]
      · exact .of_outcome (draft.resolve_ordinary table)
  | configure settings => exact .of_none

end Draft

namespace SelectDraft

theorem injection_ordinary (entry : String × Value) : Ordinary (injection entry) :=
  .bind (entry.2.render_ordinary .plain) fun _ _ =>
    .bind (Identifier.quote_ordinary entry.1) fun _ _ => of_pure _

theorem choice_ordinary (query : SelectDraft) (refused : Option Fault)
    (ordinary : OrdinaryRefusal refused) : OrdinaryRefusal (query.choiceRefusal? refused) := by
  unfold choiceRefusal?
  split_ifs
  · simp [Fault.category]
  · exact ordinary

theorem refusal_ordinary (query : SelectDraft) (step : Step) :
    OrdinaryRefusal (query.refusal? step) := by
  cases step with
  | project projection =>
      exact query.choice_ordinary _ (.of_outcome (query.draft.compiled_ordinary projection true))
  | projectTable entity =>
      exact query.choice_ordinary _
        (.of_outcome (query.draft.aliases.register_ordinary entity false))
  | projectParticipants => exact query.choice_ordinary none .of_none
  | orderBy selector order => exact .of_outcome (query.draft.compiled_ordinary selector false)
  | inject columns => exact .of_outcome (.mapM injection_ordinary)
  | _ => exact .of_none

end SelectDraft

namespace JoinedUpdateDraft

theorem assignment_ordinary (aliases : Aliases) (target : String) (participant : Participant)
    (targeted : aliases.target = .ok participant) (pair : Expr × Expr) :
    Ordinary (assignment aliases target pair) := by
  refine .bind (targeted ▸ of_ok participant) fun primary _ => ?_
  refine .bind (pair.1.to_column_ordinary aliases) fun reference _ => ?_
  split_ifs
  · exact thrown (by simp [Fault.category]) _
  · exact .bind (pair.2.compile_ordinary _) fun _ _ => of_pure _

-- The types of an assignment fit only where the first one is the target.
theorem pairing_target (aliases : Aliases) (target source : String)
    (fits : pairingFault? aliases target source = none) :
    ∃ participant, aliases.target = .ok participant := by
  unfold pairingFault? at fits
  split_ifs at fits with same strange
  cases found : aliases.find? target with
  | none => simp [found] at strange
  | some participant =>
      have marked : participant.isTarget = true := by simpa [found] using strange
      have member := aliases.find_member target participant found
      unfold Aliases.target
      cases first : aliases.participants.find? (·.isTarget) with
      | some other => exact ⟨other, rfl⟩
      | none => exact absurd marked (List.find?_eq_none.mp first participant member)

theorem pairing_ordinary (aliases : Aliases) (target source : String) :
    OrdinaryRefusal (pairingFault? aliases target source) := by
  unfold pairingFault?
  split_ifs <;> simp [Fault.category]

theorem refusal_ordinary (update : JoinedUpdateDraft) (step : Step) :
    OrdinaryRefusal (update.refusal? step) := by
  cases step with
  | assign target source pairs =>
      refine .or (pairing_ordinary _ target source) fun fits => ?_
      obtain ⟨participant, targeted⟩ := pairing_target _ target source fits
      exact .of_outcome (.mapM (assignment_ordinary _ target participant targeted))
  | _ => exact .of_none

end JoinedUpdateDraft

namespace RefusingDraft

open FilteredDraft

variable {δ σ : Type} [RefusingDraft δ σ]

theorem target_kept (target : EntityType) (steps : List σ) (table : Table)
    (mapped : Table.ofMapping target.mapping = .ok table) :
    (draft (run δ target steps)).aliases.target = .ok ⟨target.name, table, "t0", true⟩ := by
  have begun : (draft (start target : δ)).aliases.participants =
      [⟨target.name, table, Aliases.numbered 0, true⟩] := by
    rw [starts, Draft.start_mapped target table mapped]
  obtain ⟨newcomers, grown, _⟩ := steps_extend own_prepared (start target : δ) steps
  rw [begun] at grown
  rw [run, Aliases.target, grown]
  rfl

-- A draft without a fault was started with a table.
theorem fresh_mapped (target : EntityType) (steps : List σ)
    (fresh : (draft (run δ target steps)).fault = none) :
    ∃ table, Table.ofMapping target.mapping = .ok table := by
  rw [run_fault, firstFault?, Option.or_eq_none_iff] at fresh
  cases mapped : Table.ofMapping target.mapping with
  | ok table => exact ⟨table, rfl⟩
  | error fault => simp [mapped, failure?] at fresh

theorem never_refused (never : ∀ (state : δ) (step : σ), ownRefusal? state step = none)
    (state : δ) (step : σ) : OrdinaryRefusal (ownRefusal? state step) := by
  rw [never]
  exact .of_none

section Ordinary

variable (own : ∀ (state : δ) (step : σ), OrdinaryRefusal (ownRefusal? state step))

include own

theorem refusal_ordinary (state : δ) (step : σ) : OrdinaryRefusal (refusal? state step) := by
  unfold refusal?
  split
  · exact (draft state).refusal_ordinary _
  · exact own state step

theorem first_refusal_ordinary (state : δ) (steps : List σ) :
    OrdinaryRefusal (firstRefusal? state steps) := by
  induction steps generalizing state with
  | nil => exact .of_none
  | cons step rest ih => exact .or (refusal_ordinary own state step) fun _ => ih (apply state step)

theorem first_fault_ordinary (target : EntityType) (steps : List σ) :
    OrdinaryRefusal (firstFault? δ target steps) :=
  .or (.of_outcome (Table.of_mapping_ordinary target.mapping)) fun _ =>
    first_refusal_ordinary own (start target : δ) steps

end Ordinary

end RefusingDraft

/-! Where a target is there, everything that is written for it can only fail for what was given. The
statements are gone through clause by clause. -/

section Written

variable {participant : Participant}

theorem SelectDraft.statement_ordinary (query : SelectDraft)
    (targeted : query.draft.aliases.target = .ok participant) : Ordinary query.statement :=
  .bind (targeted ▸ of_ok participant) fun _ _ => of_pure _

theorem InsertDraft.names_ordinary (table : Table) (additional : AdditionalColumns) :
    Ordinary (names table additional) := by
  refine .bind additional.names_ordinary fun more _ => ?_
  dsimp only
  split_ifs
  · exact thrown (by simp [Fault.category]) _
  · exact of_pure _

theorem InsertDraft.statement_ordinary (insert : InsertDraft)
    (targeted : insert.draft.aliases.target = .ok participant) : Ordinary insert.statement := by
  refine .bind (targeted ▸ of_ok participant) fun target _ => ?_
  split_ifs
  · exact thrown (by simp [Fault.category]) _
  · refine .bind (names_ordinary target.table insert.additional) fun _ _ => ?_
    refine .bind insert.additional.literals_ordinary fun more _ => ?_
    refine .bind (.mapM fun record => ?_) fun _ _ => of_pure _
    exact .bind (.mapM fun column => column.render_ordinary record) fun _ _ => of_pure _

theorem UpdateDraft.row_ordinary (update : UpdateDraft) (target : Participant)
    (more : List String) (record : Record) : Ordinary (update.rowStatement target more record) := by
  refine .bind (.mapM fun column => ?_) fun _ _ => .bind (.mapM fun key => ?_) fun _ _ => of_pure _
  · exact .bind (column.render_ordinary record) fun _ _ => of_pure _
  · exact .bind (key.render_ordinary record) fun _ _ => of_pure _

theorem UpdateDraft.statements_ordinary (update : UpdateDraft)
    (targeted : update.draft.aliases.target = .ok participant) : Ordinary update.statements := by
  refine .bind (targeted ▸ of_ok participant) fun target _ => ?_
  split_ifs
  · exact thrown (by simp [Fault.category]) _
  · refine .bind update.additional.assignments_ordinary fun more _ => ?_
    split_ifs
    · exact thrown (by simp [Fault.category]) _
    · exact .mapM fun record => update.row_ordinary target more record

theorem JoinedUpdateDraft.statement_ordinary (update : JoinedUpdateDraft)
    (targeted : update.draft.aliases.target = .ok participant) : Ordinary update.statement := by
  refine .bind (targeted ▸ of_ok participant) fun target _ => ?_
  refine .bind update.additional.assignments_ordinary fun more _ => ?_
  by_cases nothing : (update.assignments ++ more).isEmpty = true
  · simp only [if_pos nothing]
    exact thrown (by simp [Fault.category]) _
  · simp only [if_neg nothing]
    exact of_pure _

theorem DeleteDraft.statement_ordinary (delete : DeleteDraft)
    (targeted : delete.draft.aliases.target = .ok participant) : Ordinary delete.statement := by
  refine .bind (targeted ▸ of_ok participant) fun target _ => ?_
  split_ifs
  · exact thrown (by simp [Fault.category]) _
  · exact of_pure _

end Written

namespace StatementDraft

variable {δ : Type} [StatementDraft δ] (draft : δ)
  (faults : OrdinaryRefusal (fault? draft))

include faults

theorem validate_ordinary : Ordinary (validate draft) := by
  unfold validate
  split
  · rename_i fault failed
    exact (error_iff fault).mpr (faults fault failed)
  · exact of_ok ()

theorem build_ordinary (written : fault? draft = none → Ordinary (write draft)) :
    Ordinary (build draft) :=
  .bind (validate_ordinary draft faults) fun _ valid =>
    written ((validate_ok_iff draft).mp valid)

end StatementDraft

namespace InsertSelectDraft

open RefusingDraft

-- The injected values are one more step of the query.
theorem filled_run (insert : InsertSelectDraft) (source : EntityType)
    (steps : List SelectDraft.Step) (bound : insert.query = SelectDraft.run source steps) :
    ∃ more, insert.filledQuery = SelectDraft.run source (steps ++ more) := by
  unfold filledQuery
  split_ifs
  · exact ⟨[], by rw [bound, List.append_nil]⟩
  · exact ⟨[.inject insert.additional.entries], by
      rw [bound, SelectDraft.run, SelectDraft.run, List.foldl_append]
      rfl⟩

theorem statement_ordinary (insert : InsertSelectDraft) (participant : Participant)
    (targeted : insert.draft.aliases.target = .ok participant) (source : EntityType)
    (steps : List SelectDraft.Step) (bound : insert.query = SelectDraft.run source steps) :
    Ordinary insert.statement := by
  obtain ⟨more, filled⟩ := insert.filled_run source steps bound
  refine .bind (targeted ▸ of_ok participant) fun target _ => ?_
  refine .bind (InsertDraft.names_ordinary target.table insert.additional) fun _ _ => ?_
  rw [filled]
  refine .bind ?_ fun _ valid => .bind ?_ fun _ _ => of_pure _
  · have first := first_fault_ordinary (δ := SelectDraft) SelectDraft.refusal_ordinary source
      (steps ++ more)
    rw [← run_fault] at first
    exact StatementDraft.validate_ordinary _ first
  · have fresh := (StatementDraft.validate_ok_iff _).mp valid
    obtain ⟨table, mapped⟩ := fresh_mapped (δ := SelectDraft) source (steps ++ more) fresh
    exact SelectDraft.statement_ordinary _
      (target_kept (δ := SelectDraft) source (steps ++ more) table mapped)

end InsertSelectDraft

section Built

open FilteredDraft RefusingDraft

variable {δ σ : Type} [RefusingDraft δ σ] [StatementDraft δ]

theorem RefusingDraft.built_ordinary
    (own : ∀ (state : δ) (step : σ), OrdinaryRefusal (ownRefusal? state step))
    (same : ∀ state : δ, StatementDraft.fault? state = (draft state).fault)
    (written : ∀ (state : δ) (participant : Participant),
      (draft state).aliases.target = .ok participant → Ordinary (StatementDraft.write state))
    (target : EntityType) (steps : List σ) : Ordinary (StatementDraft.build (run δ target steps)) := by
  refine StatementDraft.build_ordinary _ ?_ fun fresh => ?_
  · rw [same, run_fault]
    exact first_fault_ordinary own target steps
  · rw [same] at fresh
    obtain ⟨table, mapped⟩ := fresh_mapped target steps fresh
    exact written _ _ (target_kept target steps table mapped)

end Built

namespace History

open RefusingDraft

def aliases : History → Aliases
  | select source steps => (SelectDraft.run source steps).draft.aliases
  | insert target steps => (InsertDraft.run target steps).draft.aliases
  | insertSelect target before source query after =>
      (InsertSelectDraft.run target before (.run source query) after).draft.aliases
  | update target steps => (UpdateDraft.run target steps).draft.aliases
  | joinedUpdate target steps => (JoinedUpdateDraft.run target steps).draft.aliases
  | delete target steps => (DeleteDraft.run target steps).draft.aliases

theorem target_stays (history : History) (table : Table)
    (mapped : Table.ofMapping history.target.mapping = .ok table) :
    history.aliases.target = .ok ⟨history.target.name, table, "t0", true⟩ := by
  cases history with
  | select source steps => exact target_kept (δ := SelectDraft) source steps table mapped
  | insert target steps => exact target_kept (δ := InsertDraft) target steps table mapped
  | insertSelect target before source query after =>
      have own := (InsertSelectDraft.run_parts target before (.run source query) after).1
      have kept := target_kept (δ := InsertTarget) target (before ++ after) table mapped
      rw [← own] at kept
      exact kept
  | update target steps => exact target_kept (δ := UpdateDraft) target steps table mapped
  | joinedUpdate target steps => exact target_kept (δ := JoinedUpdateDraft) target steps table mapped
  | delete target steps => exact target_kept (δ := DeleteDraft) target steps table mapped

theorem build_ordinary (history : History) : Ordinary history.build := by
  cases history with
  | select source steps =>
      exact built_ordinary (δ := SelectDraft) SelectDraft.refusal_ordinary (fun _ => rfl)
        (fun query _ targeted => .map (query.statement_ordinary targeted) _) source steps
  | insert target steps =>
      exact built_ordinary (δ := InsertDraft) (never_refused fun _ _ => rfl) (fun _ => rfl)
        (fun insert _ targeted => .map (insert.statement_ordinary targeted) _) target steps
  | insertSelect target before source query after =>
      obtain ⟨own, bound⟩ :=
        InsertSelectDraft.run_parts target before (SelectDraft.run source query) after
      have first : OrdinaryRefusal (insertSelect target before source query after).fault? := by
        rw [fault_first]
        exact .or
          (first_fault_ordinary (δ := InsertTarget) (never_refused fun _ _ => rfl) target
            (before ++ after)) fun _ =>
          first_fault_ordinary (δ := SelectDraft) SelectDraft.refusal_ordinary source query
      refine StatementDraft.build_ordinary _ first fun fresh => ?_
      have ownFresh : (FilteredDraft.run InsertTarget target (before ++ after)).draft.fault = none := by
        rw [← own]
        exact (Option.or_eq_none_iff.mp fresh).1
      obtain ⟨table, mapped⟩ := fresh_mapped (δ := InsertTarget) target (before ++ after) ownFresh
      have kept := target_stays (.insertSelect target before source query after) table mapped
      exact .map (InsertSelectDraft.statement_ordinary _ _ kept source query bound) _
  | update target steps =>
      exact built_ordinary (δ := UpdateDraft) (never_refused fun _ _ => rfl) (fun _ => rfl)
        (fun update _ targeted => .bind (update.statements_ordinary targeted) fun _ _ => of_pure _)
        target steps
  | joinedUpdate target steps =>
      exact built_ordinary (δ := JoinedUpdateDraft) JoinedUpdateDraft.refusal_ordinary (fun _ => rfl)
        (fun update _ targeted => .map (update.statement_ordinary targeted) _) target steps
  | delete target steps =>
      exact built_ordinary (δ := DeleteDraft) (never_refused fun _ _ => rfl) (fun _ => rfl)
        (fun delete _ targeted => .map (delete.statement_ordinary targeted) _) target steps

/-- The target never changes, and is always there. Building a statement never fails because an
invariant of the library was broken; and when the mapping of the target is accepted, the target is
the first type after all steps, the refused ones included, with the first alias. -/
theorem target_invariant (history : History) :
    (∀ fault, history.build = .error fault → fault.category ≠ .invariantViolation) ∧
      ∀ table, Table.ofMapping history.target.mapping = .ok table →
        history.aliases.target = .ok ⟨history.target.name, table, "t0", true⟩ :=
  ⟨history.build_ordinary, history.target_stays⟩

end History

end MappedSql
