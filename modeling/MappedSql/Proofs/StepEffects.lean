import MappedSql.Proofs.DraftRuns
import MappedSql.Proofs.Registration

/-!
What a step that succeeds has done. `Draft.Does` has one rule for each way in which a shared step
changes a draft, with everything that had to succeed on the way; what is true of a successful run
is proved by cases on its steps. An assignment step has no such rules: it has one way to succeed.
-/

namespace MappedSql

open Outcome

namespace Draft

inductive Does (before : Draft) : Step → Draft → Prop where
  | filter {condition : Lambda} {connective : Connective} {entered : Aliases} {text : String} :
      enterAll before.aliases condition.parameters = (entered, none) →
      condition.body.compile ⟨entered, false⟩ = .ok text →
      Does before (.filter condition connective)
        { before with aliases := entered, filter := before.filter.push connective text }
  | state {condition : Condition} {connective : Connective} :
      Text.isBlank condition.text = false →
      Does before (.state condition connective)
        { before with filter := before.filter.push connective ("(" ++ condition.text ++ ")") }
  | join {left right : EntityType} {condition : Expr} {kind : JoinKind} {entered : Aliases}
      {text : String} {joined : Participant} :
      left.name ≠ right.name → enterAll before.aliases [left, right] = (entered, none) →
      condition.compile ⟨entered, false⟩ = .ok text → entered.find? right.name = some joined →
      Does before (.join left right condition kind)
        { before with
          aliases := entered
          joins := before.joins ++ [⟨kind, joined.table.qualifiedName, joined.aliasName, text⟩] }
  | knownTable {table condition : String} {kind : JoinKind} {known : Participant} :
      before.aliases.byTableName? table = some known →
      Does before (.joinTable table condition kind)
        { before with
          joins := before.joins ++ [⟨kind, known.table.qualifiedName, known.aliasName, condition⟩] }
  | otherTable {table condition quoted : String} {kind : JoinKind} :
      before.aliases.byTableName? table = none → quoteTableName table = .ok quoted →
      Does before (.joinTable table condition kind)
        { before with
          joins := before.joins ++
            [⟨kind, quoted, "j" ++ Number.digitsText before.joins.length, condition⟩] }
  | configure (settings : Settings) : Does before (.configure settings) { before with settings }

theorem attempt_does (draft : Draft) (step : Step) (change : Draft → Draft)
    (does : (change draft).fault = none → draft.Does step (change draft))
    (succeeded : (draft.attempt change).fault = none) : draft.Does step (draft.attempt change) := by
  unfold attempt at succeeded ⊢
  by_cases failed : draft.fault.isSome = true
  · rw [if_pos failed] at succeeded
    simp [succeeded] at failed
  · rw [if_neg failed] at succeeded ⊢
    exact does succeeded

theorem compile_entered (draft entered : Draft) (lambda : Lambda) (namesMembers : Bool)
    (text : String) (compiled : draft.compile lambda namesMembers = (entered, .ok text)) :
    ∃ aliases, enterAll draft.aliases lambda.parameters = (aliases, none) ∧
      entered = { draft with aliases := aliases } ∧
      lambda.body.compile ⟨aliases, namesMembers⟩ = .ok text := by
  simp only [compile] at compiled
  cases all : enterAll draft.aliases lambda.parameters with
  | mk aliases refused =>
      rw [all] at compiled
      cases refused with
      | some fault => simp at compiled
      | none =>
          obtain ⟨same, written⟩ := Prod.mk.inj compiled
          exact ⟨aliases, rfl, same.symm, written⟩

theorem add_filter_does (draft : Draft) (condition : Lambda) (connective : Connective)
    (succeeded : (draft.addFilter condition connective).fault = none) :
    draft.Does (.filter condition connective) (draft.addFilter condition connective) := by
  unfold addFilter at succeeded ⊢
  cases compiled : draft.compile condition false with
  | mk entered outcome =>
      rw [compiled] at succeeded
      cases outcome with
      | error fault => cases succeeded
      | ok text =>
          obtain ⟨aliases, all, rfl, written⟩ := draft.compile_entered _ _ _ _ compiled
          exact .filter all written

theorem add_stated_does (draft : Draft) (condition : Condition) (connective : Connective)
    (succeeded : (draft.addStated condition connective).fault = none) :
    draft.Does (.state condition connective) (draft.addStated condition connective) := by
  unfold addStated at succeeded ⊢
  by_cases blank : Text.isBlank condition.text = true
  · rw [if_pos blank] at succeeded
    cases succeeded
  · rw [if_neg blank]
    exact .state (Bool.not_eq_true _ ▸ blank)

theorem add_join_does (draft : Draft) (left right : EntityType) (condition : Expr)
    (kind : JoinKind) (succeeded : (draft.addJoin left right condition kind).fault = none) :
    draft.Does (.join left right condition kind) (draft.addJoin left right condition kind) := by
  unfold addJoin at succeeded ⊢
  by_cases same : left.name = right.name
  · rw [if_pos same] at succeeded
    cases succeeded
  · rw [if_neg same] at succeeded ⊢
    cases compiled : draft.compile ⟨[left, right], condition⟩ false with
    | mk entered outcome =>
        rw [compiled] at succeeded
        cases outcome with
        | error fault => cases succeeded
        | ok text =>
            obtain ⟨aliases, all, rfl, written⟩ := draft.compile_entered _ _ _ _ compiled
            cases found : aliases.find? right.name with
            | none =>
                simp only [found] at succeeded
                cases succeeded
            | some joined =>
                simp only [found]
                exact .join same all written found

theorem add_table_join_does (draft : Draft) (table condition : String) (kind : JoinKind)
    (succeeded : (draft.addTableJoin table condition kind).fault = none) :
    draft.Does (.joinTable table condition kind) (draft.addTableJoin table condition kind) := by
  unfold addTableJoin at succeeded ⊢
  by_cases blank : Text.isBlank condition = true
  · rw [if_pos blank] at succeeded
    cases succeeded
  · rw [if_neg blank] at succeeded ⊢
    unfold resolveTable at succeeded ⊢
    cases known : draft.aliases.byTableName? table with
    | some participant => exact .knownTable known
    | none =>
        cases quoted : quoteTableName table with
        | error fault =>
            simp only [known, quoted] at succeeded
            cases succeeded
        | ok text => exact .otherTable known quoted

theorem apply_does (draft : Draft) (step : Step) (succeeded : (draft.apply step).fault = none) :
    draft.Does step (draft.apply step) := by
  cases step with
  | filter condition connective =>
      exact draft.attempt_does _ (addFilter · condition connective)
        (draft.add_filter_does condition connective) succeeded
  | state condition connective =>
      exact draft.attempt_does _ (addStated · condition connective)
        (draft.add_stated_does condition connective) succeeded
  | join left right condition kind =>
      exact draft.attempt_does _ (addJoin · left right condition kind)
        (draft.add_join_does left right condition kind) succeeded
  | joinTable table condition kind =>
      exact draft.attempt_does _ (addTableJoin · table condition kind)
        (draft.add_table_join_does table condition kind) succeeded
  | configure settings => exact .configure settings

end Draft

namespace SelectDraft

-- The injections before the first that fails are there afterwards, and its fault is reported.
theorem inject_all (injected : List String) (columns : NamedList Value) :
    injectAll injected columns =
      (pushColumns injected (resultsBefore injection columns),
        failure? (columns.mapM injection)) := by
  induction columns generalizing injected with
  | nil => rfl
  | cons entry rest ih =>
      rw [injectAll, resultsBefore, failure_mapM_cons]
      cases injection entry with
      | error fault => rfl
      | ok text => exact ih (pushColumn injected text)

end SelectDraft

namespace JoinedUpdateDraft

theorem assign_all (aliases : Aliases) (target : String) (done : List String)
    (pairs : List (Expr × Expr)) :
    assignAll aliases target done pairs =
      (done ++ resultsBefore (assignment aliases target) pairs,
        failure? (pairs.mapM (assignment aliases target))) := by
  induction pairs generalizing done with
  | nil => rw [resultsBefore, List.append_nil]; rfl
  | cons pair rest ih =>
      rw [assignAll, resultsBefore, failure_mapM_cons]
      cases assignment aliases target pair with
      | error fault => rw [List.append_nil]; rfl
      | ok text =>
          have later := ih (done ++ [text])
          rw [List.append_assoc] at later
          exact later

theorem assign_does (update : JoinedUpdateDraft) (target source : String)
    (pairs : List (Expr × Expr))
    (succeeded : (update.apply (.assign target source pairs)).draft.fault = none) :
    pairingFault? update.draft.aliases target source = none ∧
      ∃ assignments,
        assignAll update.draft.aliases target update.assignments pairs = (assignments, none) ∧
          update.apply (.assign target source pairs) = { update with assignments := assignments } := by
  simp only [apply] at succeeded ⊢
  split_ifs at succeeded ⊢ with failed
  · simp [succeeded] at failed
  · simp only [assign] at succeeded ⊢
    cases fits : pairingFault? update.draft.aliases target source with
    | some fault => simp [fits, fail, Draft.fail] at succeeded
    | none =>
        simp only [fits] at succeeded
        cases all : assignAll update.draft.aliases target update.assignments pairs with
        | mk assignments refused =>
            cases refused with
            | some fault => simp [all, fail, Draft.fail] at succeeded
            | none => exact ⟨rfl, assignments, rfl, rfl⟩

end JoinedUpdateDraft

end MappedSql
