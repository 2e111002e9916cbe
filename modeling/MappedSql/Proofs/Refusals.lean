import MappedSql.Draft.Insert
import MappedSql.Proofs.Joins

/-!
The first fault of a draft. Each step is refused, or not, in the state that it meets; the draft
keeps the fault of the first step that is refused, and what is asked of the draft afterwards is
answered by this fault, whatever was done in between.
-/

namespace MappedSql

open Outcome

theorem Aliases.register_first (target : EntityType) :
    empty.register target true = (Table.ofMapping target.mapping).map fun table =>
      ⟨[⟨target.name, table, numbered 0, true⟩]⟩ := by
  cases mapped : Table.ofMapping target.mapping with
  | error fault =>
      simp only [register_eq_enter, enter, find?, empty, List.find?_nil, mapped]
      rfl
  | ok table =>
      simp only [register_eq_enter, enter, find?, empty, List.find?_nil, mapped]
      simp [bind, Except.bind, pure, Except.pure, Except.map, retarget]

namespace Draft

def refusal? (draft : Draft) : Step → Option Fault
  | .filter condition _ => failure? (draft.compile condition false).2
  | .state condition _ => if Text.isBlank condition.text then some .emptyCondition else none
  | .join left right condition _ =>
      if left.name = right.name then some (.selfJoin right.name)
      else failure? (draft.compile ⟨[left, right], condition⟩ false).2
  | .joinTable table condition _ =>
      if Text.isBlank condition then some (.joinWithoutCondition table)
      else failure? (draft.resolveTable table)
  | .configure _ => none

theorem compile_fault (draft : Draft) (lambda : Lambda) (namesMembers : Bool) :
    (draft.compile lambda namesMembers).1.fault = draft.fault := by
  rw [compile_draft]

theorem attempt_fault (draft : Draft) (step : Draft → Draft) (refused : Option Fault)
    (does : draft.fault = none → (step draft).fault = refused) :
    (draft.attempt step).fault = draft.fault.or refused := by
  unfold attempt
  cases failed : draft.fault with
  | none => simpa [failed] using does failed
  | some fault => simp [failed]

section Fresh

variable (draft : Draft) (fresh : draft.fault = none)

include fresh

theorem add_filter_fault (condition : Lambda) (connective : Connective) :
    (draft.addFilter condition connective).fault =
      draft.refusal? (.filter condition connective) := by
  have kept := draft.compile_fault condition false
  simp only [addFilter, refusal?]
  cases compiled : draft.compile condition false with
  | mk entered outcome =>
      rw [compiled] at kept
      cases outcome with
      | ok text => exact kept.trans fresh
      | error fault => rfl

theorem add_stated_fault (condition : Condition) (connective : Connective) :
    (draft.addStated condition connective).fault =
      draft.refusal? (.state condition connective) := by
  simp only [addStated, refusal?]
  split_ifs
  · rfl
  · exact fresh

-- The joined type was let in with the condition, so it is always found.
theorem add_join_fault (left right : EntityType) (condition : Expr) (kind : JoinKind) :
    (draft.addJoin left right condition kind).fault =
      draft.refusal? (.join left right condition kind) := by
  simp only [addJoin, refusal?]
  split_ifs with same
  · rfl
  · have kept := draft.compile_fault ⟨[left, right], condition⟩ false
    cases compiled : draft.compile ⟨[left, right], condition⟩ false with
    | mk entered outcome =>
        rw [compiled] at kept
        cases outcome with
        | error fault => rfl
        | ok text =>
            obtain ⟨aliases, all, rfl, _⟩ := draft.compile_entered _ _ _ _ compiled
            have known : right.name ∈ aliases.types :=
              (enter_all_types _ aliases _ all right.name).mpr (.inr (by simp))
            cases found : aliases.find? right.name with
            | none => exact absurd known ((aliases.find_none_iff right.name).mp found)
            | some joined =>
                simp only [found]
                exact fresh

theorem add_table_join_fault (table condition : String) (kind : JoinKind) :
    (draft.addTableJoin table condition kind).fault =
      draft.refusal? (.joinTable table condition kind) := by
  simp only [addTableJoin, refusal?]
  split_ifs
  · rfl
  · cases draft.resolveTable table with
    | error fault => rfl
    | ok resolved => exact fresh

end Fresh

theorem apply_fault (draft : Draft) (step : Step) :
    (draft.apply step).fault = draft.fault.or (draft.refusal? step) := by
  cases step with
  | filter condition connective =>
      exact draft.attempt_fault _ _ fun fresh => draft.add_filter_fault fresh condition connective
  | state condition connective =>
      exact draft.attempt_fault _ _ fun fresh => draft.add_stated_fault fresh condition connective
  | join left right condition kind =>
      exact draft.attempt_fault _ _ fun fresh => draft.add_join_fault fresh left right condition kind
  | joinTable table condition kind =>
      exact draft.attempt_fault _ _ fun fresh => draft.add_table_join_fault fresh table condition kind
  | configure settings => exact (Option.or_none).symm

theorem start_fault (target : EntityType) :
    (start target).fault = failure? (Table.ofMapping target.mapping) := by
  unfold start
  rw [Aliases.register_first]
  cases Table.ofMapping target.mapping <;> rfl

-- A draft of a type that is a table begins with this table as its only one.
theorem start_mapped (target : EntityType) (table : Table)
    (mapped : Table.ofMapping target.mapping = .ok table) :
    start target = ⟨⟨[⟨target.name, table, Aliases.numbered 0, true⟩]⟩, .empty, [], {}, none⟩ := by
  rw [start, Aliases.register_first, mapped]
  rfl

end Draft

/-- A draft of which it is known what each of its own steps is refused for, and that these steps let
types in at most. -/
class RefusingDraft (δ : Type) (σ : outParam Type) extends FilteredDraft δ σ where
  ownRefusal? : δ → σ → Option Fault
  own_fault (state : δ) (step : σ) : shared? step = none →
    (draft (apply state step)).fault = (draft state).fault.or (ownRefusal? state step)
  own_prepared (state : δ) (step : σ) :
    shared? step = none → Draft.Prepared (draft state) (draft (apply state step))

namespace RefusingDraft

open FilteredDraft

variable {δ σ : Type} [RefusingDraft δ σ]

def refusal? (state : δ) (step : σ) : Option Fault :=
  match shared? δ step with
  | some shared => (draft state).refusal? shared
  | none => ownRefusal? state step

def firstRefusal? (state : δ) : List σ → Option Fault
  | [] => none
  | step :: rest => (refusal? state step).or (firstRefusal? (apply state step) rest)

def firstFault? (δ : Type) {σ : Type} [RefusingDraft δ σ] (target : EntityType) (steps : List σ) :
    Option Fault :=
  (failure? (Table.ofMapping target.mapping)).or (firstRefusal? (start target : δ) steps)

theorem step_fault (state : δ) (step : σ) :
    (draft (apply state step)).fault = (draft state).fault.or (refusal? state step) := by
  unfold refusal?
  cases kind : shared? δ step with
  | none => exact own_fault state step kind
  | some shared => rw [applies state step shared kind, Draft.apply_fault]

-- A draft that has a fault keeps it, and one that has none takes over that of the step.
theorem steps_fault (state : δ) (steps : List σ) :
    (draft (steps.foldl apply state)).fault =
      (draft state).fault.or (firstRefusal? state steps) := by
  induction steps generalizing state with
  | nil => exact (Option.or_none).symm
  | cons step rest ih => rw [List.foldl_cons, ih, step_fault, Option.or_assoc, firstRefusal?]

theorem run_fault (target : EntityType) (steps : List σ) :
    (draft (run δ target steps)).fault = firstFault? δ target steps := by
  rw [run, steps_fault, starts, Draft.start_fault, firstFault?]

end RefusingDraft

namespace SelectDraft

def choiceRefusal? (query : SelectDraft) (refused : Option Fault) : Option Fault :=
  if query.allColumns then some .projectionLocked else refused

def refusal? (query : SelectDraft) : Step → Option Fault
  | .project projection => query.choiceRefusal? (failure? (query.draft.compile projection true).2)
  | .projectTable entity =>
      query.choiceRefusal? (failure? (query.draft.aliases.register entity false))
  | .projectParticipants => query.choiceRefusal? none
  | .orderBy selector _ => failure? (query.draft.compile selector false).2
  | .inject columns => failure? (columns.mapM injection)
  | _ => none

theorem attempt_fault (query : SelectDraft) (step : SelectDraft → SelectDraft)
    (refused : Option Fault)
    (does : query.draft.fault = none → (step query).draft.fault = refused) :
    (query.attempt step).draft.fault = query.draft.fault.or refused := by
  unfold attempt
  cases failed : query.draft.fault with
  | none => simpa [failed] using does failed
  | some fault => simp [failed]

theorem choosing_fault (query : SelectDraft) (step : SelectDraft → SelectDraft)
    (refused : Option Fault)
    (does : query.draft.fault = none → (step query).draft.fault = refused) :
    (query.choosing step).draft.fault = query.draft.fault.or (query.choiceRefusal? refused) := by
  refine query.attempt_fault _ _ fun fresh => ?_
  unfold choiceRefusal?
  by_cases locked : query.allColumns = true
  · simp only [if_pos locked]
    rfl
  · simp only [if_neg locked]
    exact does fresh

section Fresh

variable (query : SelectDraft) (fresh : query.draft.fault = none)

include fresh

theorem compiled_fault (lambda : Lambda) (namesMembers : Bool)
    (write : Draft → String → SelectDraft)
    (same : ∀ entered text, (write entered text).draft = entered) :
    (match query.draft.compile lambda namesMembers with
      | (draft, .ok text) => write draft text
      | (draft, .error fault) => { query with draft := draft.fail fault }).draft.fault =
        failure? (query.draft.compile lambda namesMembers).2 := by
  have kept := query.draft.compile_fault lambda namesMembers
  cases compiled : query.draft.compile lambda namesMembers with
  | mk entered outcome =>
      rw [compiled] at kept
      cases outcome with
      | ok text => exact (congrArg Draft.fault (same entered text)).trans (kept.trans fresh)
      | error fault => rfl

theorem table_fault (entity : EntityType) :
    (query.projectTable entity).draft.fault =
      failure? (query.draft.aliases.register entity false) := by
  unfold projectTable
  cases query.draft.aliases.register entity false with
  | error fault => rfl
  | ok aliases => exact fresh

theorem inject_fault (columns : NamedList Value) :
    (query.inject columns).draft.fault = failure? (columns.mapM injection) := by
  simp only [inject, inject_all]
  cases failure? (columns.mapM injection) with
  | none => exact fresh
  | some fault => rfl

end Fresh

theorem own_step_fault (query : SelectDraft) (step : Step) (own : ∀ shared, step ≠ .shared shared) :
    (query.apply step).draft.fault = query.draft.fault.or (query.refusal? step) := by
  cases step with
  | shared other => exact absurd rfl (own other)
  | project projection =>
      exact query.choosing_fault _ _ fun fresh => query.compiled_fault fresh projection true
        (fun draft text => { query with draft := draft, columns := pushColumn query.columns text })
        fun _ _ => rfl
  | projectTable entity =>
      exact query.choosing_fault _ _ fun fresh => query.table_fault fresh entity
  | projectParticipants => exact query.choosing_fault _ _ id
  | orderBy selector order =>
      exact query.attempt_fault _ _ fun fresh => query.compiled_fault fresh selector false
        (fun draft text =>
          { query with draft := draft, order := query.order ++ [text ++ " " ++ order.text] })
        fun _ _ => rfl
  | inject columns => exact query.attempt_fault _ _ fun fresh => query.inject_fault fresh columns
  | _ => exact (Option.or_none).symm

end SelectDraft

namespace JoinedUpdateDraft

def refusal? (update : JoinedUpdateDraft) : Step → Option Fault
  | .assign target source pairs =>
      (pairingFault? update.draft.aliases target source).or
        (failure? (pairs.mapM (assignment update.draft.aliases target)))
  | _ => none

theorem assign_fault (update : JoinedUpdateDraft) (target source : String)
    (pairs : List (Expr × Expr)) (fresh : update.draft.fault = none) :
    (update.assign target source pairs).draft.fault =
      update.refusal? (.assign target source pairs) := by
  simp only [refusal?, assign, assign_all]
  cases pairingFault? update.draft.aliases target source with
  | some fault => rfl
  | none =>
      cases failure? (pairs.mapM (assignment update.draft.aliases target)) with
      | none => exact fresh
      | some fault => rfl

theorem own_step_fault (update : JoinedUpdateDraft) (step : Step)
    (own : ∀ shared, step ≠ .shared shared) :
    (update.apply step).draft.fault = update.draft.fault.or (update.refusal? step) := by
  cases step with
  | shared other => exact absurd rfl (own other)
  | additional columns => exact (Option.or_none).symm
  | assign target source pairs =>
      simp only [apply]
      cases failed : update.draft.fault with
      | none => exact update.assign_fault target source pairs failed
      | some fault => exact failed

end JoinedUpdateDraft

instance : RefusingDraft SelectDraft SelectDraft.Step where
  ownRefusal? := SelectDraft.refusal?
  own_fault state step own := by
    refine state.own_step_fault step ?_
    rintro shared rfl
    cases own
  own_prepared := JoiningDraft.prepares

instance : RefusingDraft DeleteDraft DeleteDraft.Step where
  ownRefusal? _ _ := none
  own_fault state step own := by
    cases step with
    | shared other => cases own
    | allowAll allow => exact (Option.or_none).symm
  own_prepared := JoiningDraft.prepares

instance : RefusingDraft UpdateDraft UpdateDraft.Step where
  ownRefusal? _ _ := none
  own_fault state step own := by
    cases step with
    | shared other => cases own
    | addRows rows => exact (Option.or_none).symm
    | additional columns => exact (Option.or_none).symm
  own_prepared := JoiningDraft.prepares

instance : RefusingDraft JoinedUpdateDraft JoinedUpdateDraft.Step where
  ownRefusal? := JoinedUpdateDraft.refusal?
  own_fault state step own := by
    refine state.own_step_fault step ?_
    rintro shared rfl
    cases own
  own_prepared := JoiningDraft.prepares

-- The settings are the only thing that inserts share with the drafts that have conditions.
instance : FilteredDraft InsertDraft InsertDraft.Step where
  start := InsertDraft.start
  apply := InsertDraft.apply
  draft := InsertDraft.draft
  shared?
    | .configure settings => some (.configure settings)
    | .addRows _ | .additional _ => none
  starts _ := rfl
  applies state step shared kind := by
    cases step with
    | configure settings => cases kind; rfl
    | addRows rows => cases kind
    | additional columns => cases kind
  keeps state step kind := by
    cases step with
    | configure settings => cases kind
    | addRows rows => exact Draft.kept_refl _
    | additional columns => exact Draft.kept_refl _

instance : RefusingDraft InsertDraft InsertDraft.Step where
  ownRefusal? _ _ := none
  own_fault state step own := by
    cases step with
    | configure settings => cases own
    | addRows rows => exact (Option.or_none).symm
    | additional columns => exact (Option.or_none).symm
  own_prepared state step own := by
    cases step with
    | configure settings => cases own
    | addRows rows => exact .same
    | additional columns => exact .same

instance : FilteredDraft InsertTarget InsertTarget.Step where
  start := InsertTarget.start
  apply := InsertTarget.apply
  draft := InsertTarget.draft
  shared?
    | .configure settings => some (.configure settings)
    | .additional _ => none
  starts _ := rfl
  applies state step shared kind := by
    cases step with
    | configure settings => cases kind; rfl
    | additional columns => cases kind
  keeps state step kind := by
    cases step with
    | configure settings => cases kind
    | additional columns => exact Draft.kept_refl _

instance : RefusingDraft InsertTarget InsertTarget.Step where
  ownRefusal? _ _ := none
  own_fault state step own := by
    cases step with
    | configure settings => cases own
    | additional columns => exact (Option.or_none).symm
  own_prepared state step own := by
    cases step with
    | configure settings => cases own
    | additional columns => exact .same

namespace InsertSelectDraft

-- A query may be bound between the steps of its insert; it stays what it was.
theorem steps_parts (insert : InsertSelectDraft) (steps : List InsertTarget.Step) :
    (steps.foldl apply insert).toInsertTarget =
        steps.foldl InsertTarget.apply insert.toInsertTarget ∧
      (steps.foldl apply insert).query = insert.query := by
  induction steps generalizing insert with
  | nil => exact ⟨rfl, rfl⟩
  | cons step rest ih => exact ih (insert.apply step)

theorem run_parts (target : EntityType) (before : List InsertTarget.Step) (query : SelectDraft)
    (after : List InsertTarget.Step) :
    (run target before query after).toInsertTarget =
        FilteredDraft.run InsertTarget target (before ++ after) ∧
      (run target before query after).query = query := by
  rw [FilteredDraft.run, List.foldl_append]
  exact steps_parts _ after

end InsertSelectDraft

/-- A statement as it is asked for: of a target, by steps in the order in which they were done. The
query of an insert has a source and steps of its own, and is bound between those of the insert. -/
inductive History where
  | select (source : EntityType) (steps : List SelectDraft.Step)
  | insert (target : EntityType) (steps : List InsertDraft.Step)
  | insertSelect (target : EntityType) (before : List InsertTarget.Step) (source : EntityType)
      (query : List SelectDraft.Step) (after : List InsertTarget.Step)
  | update (target : EntityType) (steps : List UpdateDraft.Step)
  | joinedUpdate (target : EntityType) (steps : List JoinedUpdateDraft.Step)
  | delete (target : EntityType) (steps : List DeleteDraft.Step)

namespace History

def target : History → EntityType
  | select target _ | insert target _ | insertSelect target _ _ _ _ | update target _
  | joinedUpdate target _ | delete target _ => target

def answer {α : Type} (history : History) (question : (δ : Type) → [StatementDraft δ] → δ → α) : α :=
  match history with
  | select source steps => question SelectDraft (.run source steps)
  | insert target steps => question InsertDraft (.run target steps)
  | insertSelect target before source query after =>
      question InsertSelectDraft (.run target before (.run source query) after)
  | update target steps => question UpdateDraft (.run target steps)
  | joinedUpdate target steps => question JoinedUpdateDraft (.run target steps)
  | delete target steps => question DeleteDraft (.run target steps)

def fault? (history : History) : Option Fault :=
  history.answer fun _ _ draft => StatementDraft.fault? draft

def build (history : History) : Except Fault String :=
  history.answer fun _ _ draft => StatementDraft.build draft

def write (history : History) : Except Fault String :=
  history.answer fun _ _ draft => StatementDraft.write draft

open RefusingDraft

def firstFault? : History → Option Fault
  | select source steps => RefusingDraft.firstFault? SelectDraft source steps
  | insert target steps => RefusingDraft.firstFault? InsertDraft target steps
  | insertSelect target before source query after =>
      (RefusingDraft.firstFault? InsertTarget target (before ++ after)).or
        (RefusingDraft.firstFault? SelectDraft source query)
  | update target steps => RefusingDraft.firstFault? UpdateDraft target steps
  | joinedUpdate target steps => RefusingDraft.firstFault? JoinedUpdateDraft target steps
  | delete target steps => RefusingDraft.firstFault? DeleteDraft target steps

theorem fault_first (history : History) : history.fault? = history.firstFault? := by
  cases history with
  | select source steps => exact run_fault (δ := SelectDraft) source steps
  | insert target steps => exact run_fault (δ := InsertDraft) target steps
  | insertSelect target before source query after =>
      obtain ⟨own, bound⟩ :=
        InsertSelectDraft.run_parts target before (SelectDraft.run source query) after
      change Option.or (InsertSelectDraft.run _ _ _ _).draft.fault
        (InsertSelectDraft.run _ _ _ _).query.draft.fault = _
      rw [own, bound]
      exact congrArg₂ Option.or (run_fault (δ := InsertTarget) target (before ++ after))
        (run_fault (δ := SelectDraft) source query)
  | update target steps => exact run_fault (δ := UpdateDraft) target steps
  | joinedUpdate target steps => exact run_fault (δ := JoinedUpdateDraft) target steps
  | delete target steps => exact run_fault (δ := DeleteDraft) target steps

theorem build_cases (history : History) :
    (∀ fault, history.fault? = some fault → history.build = .error fault) ∧
      (history.fault? = none → history.build = history.write) := by
  cases history <;>
    exact ⟨fun _ failed => StatementDraft.build_refused _ failed,
      fun fresh => StatementDraft.build_written _ fresh⟩

/-- The first fault wins, and no text is given out after it: what a draft reports, and what building
it gives, is the fault of the first step that was refused, whichever steps came after it; where
none was refused, nothing is reported, and building the draft gives its text. -/
theorem first_fault_reported (history : History) :
    (∀ fault, history.firstFault? = some fault →
      history.fault? = some fault ∧ history.build = .error fault) ∧
      (history.firstFault? = none → history.fault? = none ∧ history.build = history.write) := by
  rw [← history.fault_first]
  obtain ⟨refused, written⟩ := history.build_cases
  exact ⟨fun fault failed => ⟨failed, refused fault failed⟩, fun fresh => ⟨fresh, written fresh⟩⟩

example : (select ⟨"Person", Sample.person⟩ [.projectAll, .projectParticipants, .limit 1,
    .shared (.state ⟨" "⟩ .and)]).build = .error .projectionLocked := rfl

end History

end MappedSql
