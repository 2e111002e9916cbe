import MappedSql.Draft.Update
import MappedSql.Draft.Select
import MappedSql.Proofs.Registration

/-!
Runs of drafts. The drafts that take conditions do the shared steps alike, and their own steps leave
the conditions alone. What is proved here of a draft with conditions is true of queries, removals,
updates and joined updates.
-/

namespace MappedSql

open Outcome

namespace Draft

structure Kept (before after : Draft) : Prop where
  filter : after.filter = before.filter
  reached : before.aliases.Reached → after.aliases.Reached
  fault : after.fault = none → before.fault = none

theorem kept_refl (draft : Draft) : Kept draft draft :=
  ⟨rfl, id, id⟩

theorem kept_trans (first second third : Draft) (before : Kept first second)
    (after : Kept second third) : Kept first third :=
  ⟨after.filter.trans before.filter, after.reached ∘ before.reached, before.fault ∘ after.fault⟩

theorem kept_fail (draft : Draft) (fault : Fault) : Kept draft (draft.fail fault) :=
  ⟨rfl, id, fun success => by cases success⟩

theorem enter_all_reached (aliases : Aliases) (entities : List EntityType)
    (reached : aliases.Reached) : (enterAll aliases entities).1.Reached := by
  induction entities generalizing aliases with
  | nil => exact reached
  | cons entity rest ih =>
      rw [enterAll]
      split
      · rename_i entered success
        exact ih entered (.register entity false reached success)
      · exact reached

theorem kept_compile (draft : Draft) (lambda : Lambda) (namesMembers : Bool) :
    Kept draft (draft.compile lambda namesMembers).1 := by
  unfold compile
  have entered : Kept draft
      { draft with aliases := (enterAll draft.aliases lambda.parameters).1 } :=
    ⟨rfl, enter_all_reached draft.aliases lambda.parameters, id⟩
  cases refused : (enterAll draft.aliases lambda.parameters).2 with
  | none => simpa only [refused] using entered
  | some fault => simpa only [refused] using entered

theorem compile_ok (draft : Draft) (lambda : Lambda) (namesMembers : Bool) (text : String)
    (compiled : (draft.compile lambda namesMembers).2 = .ok text) :
    lambda.body.compile ⟨(enterAll draft.aliases lambda.parameters).1, namesMembers⟩ = .ok text := by
  simp only [compile] at compiled
  cases refused : (enterAll draft.aliases lambda.parameters).2 with
  | none => simpa only [refused] using compiled
  | some fault => simp [refused] at compiled

/-- What a draft becomes when types are let in and faults come up, and nothing else is done to it.
-/
inductive Prepared (draft : Draft) : Draft → Prop where
  | same : Prepared draft draft
  | failed {after : Draft} (fault : Fault) : Prepared draft after → Prepared draft (after.fail fault)
  | compiled {after : Draft} (lambda : Lambda) (namesMembers : Bool) :
      Prepared draft after → Prepared draft (after.compile lambda namesMembers).1
  | registered {after : Draft} {aliases : Aliases} (entity : EntityType) :
      Prepared draft after → after.aliases.register entity false = .ok aliases →
      Prepared draft { after with aliases := aliases }

theorem kept_of_prepared (before after : Draft) (prepared : Prepared before after) :
    Kept before after := by
  induction prepared with
  | same => exact kept_refl before
  | @failed middle fault _ ih => exact kept_trans _ _ _ ih (kept_fail middle fault)
  | @compiled middle lambda namesMembers _ ih =>
      exact kept_trans _ _ _ ih (kept_compile middle lambda namesMembers)
  | @registered middle aliases entity _ success ih =>
      exact kept_trans _ _ _ ih ⟨rfl, fun reached => .register entity false reached success, id⟩

def part? (draft : Draft) : Step → Option (Connective × String)
  | .filter condition connective =>
      match (draft.compile condition false).2 with
      | .ok text => some (connective, text)
      | .error _ => none
  | .state condition connective => some (connective, "(" ++ condition.text ++ ")")
  | _ => none

structure Appends (before : Draft) (part : Option (Connective × String)) (after : Draft) : Prop where
  parts : after.fault = none → after.filter.parts = before.filter.parts ++ part.toList
  reached : before.aliases.Reached → after.aliases.Reached
  fault : after.fault = none → before.fault = none

theorem appends_of_kept (before after : Draft) (kept : Kept before after) :
    Appends before none after :=
  ⟨fun _ => by rw [kept.filter, Option.toList_none, List.append_nil], kept.reached, kept.fault⟩

theorem add_filter_appends (draft : Draft) (condition : Lambda) (connective : Connective) :
    Appends draft (draft.part? (.filter condition connective))
      (draft.addFilter condition connective) := by
  have kept := kept_compile draft condition false
  simp only [addFilter, part?]
  cases compiled : draft.compile condition false with
  | mk entered outcome =>
      rw [compiled] at kept
      cases outcome with
      | ok text =>
          have same : entered.filter = draft.filter := kept.filter
          refine ⟨fun _ => ?_, kept.reached, kept.fault⟩
          simp only [Filter.push, same, Option.toList_some]
      | error fault =>
          exact appends_of_kept _ _ (kept_trans _ _ _ kept (kept_fail entered fault))

theorem add_stated_appends (draft : Draft) (condition : Condition) (connective : Connective) :
    Appends draft (draft.part? (.state condition connective))
      (draft.addStated condition connective) := by
  unfold addStated
  by_cases blank : Text.isBlank condition.text = true
  · rw [if_pos blank]
    refine ⟨fun success => ?_, id, (kept_fail draft _).fault⟩
    cases success
  · rw [if_neg blank]
    exact ⟨fun _ => rfl, id, id⟩

theorem add_join_kept (draft : Draft) (left right : EntityType) (condition : Expr)
    (kind : JoinKind) : Kept draft (draft.addJoin left right condition kind) := by
  have kept := kept_compile draft ⟨[left, right], condition⟩ false
  unfold addJoin
  by_cases same : left.name = right.name
  · rw [if_pos same]
    exact kept_fail draft _
  · rw [if_neg same]
    cases compiled : draft.compile ⟨[left, right], condition⟩ false with
    | mk entered outcome =>
        rw [compiled] at kept
        cases outcome with
        | error fault => exact kept_trans _ _ _ kept (kept_fail entered fault)
        | ok text =>
            cases found : entered.aliases.find? right.name with
            | none => simpa only [found] using kept_trans _ _ _ kept (kept_fail entered _)
            | some joined => simpa only [found] using ⟨kept.filter, kept.reached, kept.fault⟩

theorem add_table_join_kept (draft : Draft) (table condition : String) (kind : JoinKind) :
    Kept draft (draft.addTableJoin table condition kind) := by
  unfold addTableJoin
  by_cases blank : Text.isBlank condition = true
  · rw [if_pos blank]
    exact kept_fail draft _
  · rw [if_neg blank]
    cases draft.resolveTable table with
    | error fault => exact kept_fail draft fault
    | ok resolved => exact ⟨rfl, id, id⟩

theorem attempt_appends (draft : Draft) (part : Option (Connective × String))
    (step : Draft → Draft) (does : Appends draft part (step draft)) :
    Appends draft part (draft.attempt step) := by
  unfold attempt
  by_cases failed : draft.fault.isSome = true
  · rw [if_pos failed]
    exact ⟨fun success => by simp [success] at failed, id, id⟩
  · rw [if_neg failed]
    exact does

theorem apply_appends (draft : Draft) (step : Step) :
    Appends draft (draft.part? step) (draft.apply step) := by
  cases step with
  | filter condition connective =>
      exact attempt_appends draft _ (addFilter · condition connective)
        (add_filter_appends draft condition connective)
  | state condition connective =>
      exact attempt_appends draft _ (addStated · condition connective)
        (add_stated_appends draft condition connective)
  | join left right condition kind =>
      exact attempt_appends draft _ (addJoin · left right condition kind)
        (appends_of_kept _ _ (add_join_kept draft left right condition kind))
  | joinTable table condition kind =>
      exact attempt_appends draft _ (addTableJoin · table condition kind)
        (appends_of_kept _ _ (add_table_join_kept draft table condition kind))
  | configure settings => exact appends_of_kept _ _ ⟨rfl, id, id⟩

theorem start_reached (target : EntityType) : (start target).aliases.Reached := by
  unfold start
  cases registered : Aliases.empty.register target true with
  | ok aliases => exact .register target true .empty registered
  | error fault => exact .empty

theorem start_empty (target : EntityType) : (start target).filter.parts = [] := by
  unfold start
  cases Aliases.empty.register target true <;> rfl

end Draft

/-- A draft of statements with conditions. Its steps are the shared ones and others, and the others
keep the conditions. -/
class FilteredDraft (δ : Type) (σ : outParam Type) where
  start : EntityType → δ
  apply : δ → σ → δ
  draft : δ → Draft
  shared? : σ → Option Draft.Step
  starts (target : EntityType) : draft (start target) = .start target
  applies (state : δ) (step : σ) (shared : Draft.Step) :
    shared? step = some shared → draft (apply state step) = (draft state).apply shared
  keeps (state : δ) (step : σ) :
    shared? step = none → Draft.Kept (draft state) (draft (apply state step))

namespace FilteredDraft

variable {δ σ : Type} [FilteredDraft δ σ]

def part? (state : δ) (step : σ) : Option (Connective × String) :=
  (shared? δ step).bind (draft state).part?

theorem step_appends (state : δ) (step : σ) :
    Draft.Appends (draft state) (part? state step) (draft (apply state step)) := by
  unfold part?
  cases kind : shared? δ step with
  | none => exact Draft.appends_of_kept _ _ (keeps state step kind)
  | some shared =>
      rw [applies state step shared kind, Option.bind_some]
      exact (draft state).apply_appends shared

def partsFrom (state : δ) : List σ → List (Connective × String)
  | [] => []
  | step :: rest => (part? state step).toList ++ partsFrom (apply state step) rest

-- What holds of every condition that a step can give holds of the conditions of a run.
theorem parts_all (state : δ) (steps : List σ) (holds : Connective × String → Prop)
    (reached : (draft state).aliases.Reached)
    (each : ∀ before : Draft, before.aliases.Reached → ∀ step ∈ steps, ∀ shared,
      shared? δ step = some shared → ∀ part, before.part? shared = some part → holds part) :
    ∀ part ∈ partsFrom state steps, holds part := by
  induction steps generalizing state with
  | nil => exact fun part member => absurd member List.not_mem_nil
  | cons step rest ih =>
      intro part member
      rcases List.mem_append.mp member with first | later
      · obtain ⟨shared, kind, given⟩ := Option.bind_eq_some_iff.mp (Option.mem_toList.mp first)
        exact each (draft state) reached step List.mem_cons_self shared kind part given
      · exact ih (apply state step) ((step_appends state step).reached reached)
          (fun before known other inRest =>
            each before known other (List.mem_cons_of_mem step inRest)) part later

theorem run_succeeded (state : δ) (steps : List σ)
    (succeeded : (draft (steps.foldl apply state)).fault = none) : (draft state).fault = none := by
  induction steps generalizing state with
  | nil => exact succeeded
  | cons step rest ih => exact (step_appends state step).fault (ih (apply state step) succeeded)

theorem run_parts (state : δ) (steps : List σ)
    (succeeded : (draft (steps.foldl apply state)).fault = none) :
    (draft (steps.foldl apply state)).filter.parts =
      (draft state).filter.parts ++ partsFrom state steps := by
  induction steps generalizing state with
  | nil => rw [partsFrom, List.append_nil, List.foldl_nil]
  | cons step rest ih =>
      have later := ih (apply state step) succeeded
      have first := (step_appends state step).parts (run_succeeded _ rest succeeded)
      rw [List.foldl_cons, later, first, partsFrom, List.append_assoc]

theorem run_reached (state : δ) (steps : List σ) (reached : (draft state).aliases.Reached) :
    (draft (steps.foldl apply state)).aliases.Reached := by
  induction steps generalizing state with
  | nil => exact reached
  | cons step rest ih => exact ih (apply state step) ((step_appends state step).reached reached)

end FilteredDraft

instance : FilteredDraft DeleteDraft DeleteDraft.Step where
  start := DeleteDraft.start
  apply := DeleteDraft.apply
  draft := DeleteDraft.draft
  shared?
    | .shared step => some step
    | .allowAll _ => none
  starts _ := rfl
  applies state step shared kind := by
    cases step with
    | shared other => cases kind; rfl
    | allowAll allow => cases kind
  keeps state step kind := by
    cases step with
    | shared other => cases kind
    | allowAll allow => exact Draft.kept_refl _

instance : FilteredDraft UpdateDraft UpdateDraft.Step where
  start := UpdateDraft.start
  apply := UpdateDraft.apply
  draft := UpdateDraft.draft
  shared?
    | .shared step => some step
    | .addRows _ | .additional _ => none
  starts _ := rfl
  applies state step shared kind := by
    cases step with
    | shared other => cases kind; rfl
    | addRows rows => cases kind
    | additional columns => cases kind
  keeps state step kind := by
    cases step with
    | shared other => cases kind
    | addRows rows => exact Draft.kept_refl _
    | additional columns => exact Draft.kept_refl _

namespace JoinedUpdateDraft

theorem assign_prepared (update : JoinedUpdateDraft) (target source : String)
    (pairs : List (Expr × Expr)) :
    Draft.Prepared update.draft (update.assign target source pairs).draft := by
  simp only [assign]
  cases pairingFault? update.draft.aliases target source with
  | some fault => exact .failed fault .same
  | none =>
      cases assignAll update.draft.aliases target update.assignments pairs with
      | mk assignments refused =>
          cases refused with
          | none => exact .same
          | some fault => exact .failed fault .same

theorem own_step_prepared (update : JoinedUpdateDraft) (step : Step)
    (own : ∀ shared, step ≠ .shared shared) :
    Draft.Prepared update.draft (update.apply step).draft := by
  cases step with
  | shared other => exact absurd rfl (own other)
  | assign target source pairs =>
      simp only [apply]
      split_ifs with failed
      · exact .same
      · exact update.assign_prepared target source pairs
  | additional columns => exact .same

end JoinedUpdateDraft

instance : FilteredDraft JoinedUpdateDraft JoinedUpdateDraft.Step where
  start := JoinedUpdateDraft.start
  apply := JoinedUpdateDraft.apply
  draft := JoinedUpdateDraft.draft
  shared?
    | .shared step => some step
    | .assign .. | .additional _ => none
  starts _ := rfl
  applies state step shared kind := by
    cases step with
    | shared other => cases kind; rfl
    | assign target source pairs => cases kind
    | additional columns => cases kind
  keeps state step kind := by
    refine Draft.kept_of_prepared _ _ (state.own_step_prepared step ?_)
    rintro shared rfl
    cases kind

namespace SelectDraft

theorem attempt_prepared (query : SelectDraft) (step : SelectDraft → SelectDraft)
    (prepared : Draft.Prepared query.draft (step query).draft) :
    Draft.Prepared query.draft (query.attempt step).draft := by
  unfold attempt
  by_cases failed : query.draft.fault.isSome = true
  · rw [if_pos failed]
    exact .same
  · rw [if_neg failed]
    exact prepared

theorem choosing_prepared (query : SelectDraft) (step : SelectDraft → SelectDraft)
    (prepared : Draft.Prepared query.draft (step query).draft) :
    Draft.Prepared query.draft (query.choosing step).draft := by
  refine query.attempt_prepared _ ?_
  by_cases locked : query.allColumns = true
  · simp only [if_pos locked]
    exact .failed _ .same
  · simp only [if_neg locked]
    exact prepared

-- A text that was written goes into the query, and a fault into its draft.
theorem compiled_prepared (query : SelectDraft) (lambda : Lambda) (namesMembers : Bool)
    (write : Draft → String → SelectDraft)
    (same : ∀ entered text, (write entered text).draft = entered) :
    Draft.Prepared query.draft (match query.draft.compile lambda namesMembers with
      | (draft, .ok text) => write draft text
      | (draft, .error fault) => { query with draft := draft.fail fault }).draft := by
  have prepared : Draft.Prepared query.draft (query.draft.compile lambda namesMembers).1 :=
    .compiled lambda namesMembers .same
  cases compiled : query.draft.compile lambda namesMembers with
  | mk entered outcome =>
      rw [compiled] at prepared
      cases outcome with
      | ok text => exact (same entered text).symm ▸ prepared
      | error fault => exact .failed fault prepared

theorem project_prepared (query : SelectDraft) (projection : Lambda) :
    Draft.Prepared query.draft (query.project projection).draft :=
  query.compiled_prepared projection true
    (fun draft text => { query with draft := draft, columns := pushColumn query.columns text })
    fun _ _ => rfl

theorem order_prepared (query : SelectDraft) (selector : Lambda) (order : SortOrder) :
    Draft.Prepared query.draft (query.orderBy selector order).draft :=
  query.compiled_prepared selector false
    (fun draft text =>
      { query with draft := draft, order := query.order ++ [text ++ " " ++ order.text] })
    fun _ _ => rfl

theorem table_prepared (query : SelectDraft) (entity : EntityType) :
    Draft.Prepared query.draft (query.projectTable entity).draft := by
  unfold projectTable
  cases registered : query.draft.aliases.register entity false with
  | error fault => exact .failed fault .same
  | ok aliases => exact .registered entity .same registered

theorem inject_prepared (query : SelectDraft) (columns : NamedList Value) :
    Draft.Prepared query.draft (query.inject columns).draft := by
  simp only [inject]
  cases injectAll query.injected columns with
  | mk injected refused =>
      cases refused with
      | none => exact .same
      | some fault => exact .failed fault .same

theorem own_step_prepared (query : SelectDraft) (step : Step)
    (own : ∀ shared, step ≠ .shared shared) :
    Draft.Prepared query.draft (query.apply step).draft := by
  cases step with
  | shared other => exact absurd rfl (own other)
  | project projection => exact query.choosing_prepared _ (query.project_prepared projection)
  | projectTable entity => exact query.choosing_prepared _ (query.table_prepared entity)
  | projectParticipants => exact query.choosing_prepared _ .same
  | orderBy selector order => exact query.attempt_prepared _ (query.order_prepared selector order)
  | inject columns => exact query.attempt_prepared _ (query.inject_prepared columns)
  | _ => exact .same

end SelectDraft

instance : FilteredDraft SelectDraft SelectDraft.Step where
  start := SelectDraft.start
  apply := SelectDraft.apply
  draft := SelectDraft.draft
  shared?
    | .shared step => some step
    | _ => none
  starts _ := rfl
  applies state step shared kind := by
    cases step with
    | shared other => cases kind; rfl
    | _ => cases kind
  keeps state step kind := by
    refine Draft.kept_of_prepared _ _ (state.own_step_prepared step ?_)
    rintro shared rfl
    cases kind

end MappedSql
