import MappedSql.Proofs.InjectedValues
import MappedSql.Proofs.JoinedSources
import Mathlib.Algebra.GroupWithZero.Nat

/-!
What refused steps leave behind. A step writes when all that it needs has succeeded, so a step that
is refused leaves the statement as it was. Two steps work through a list and write as they go: the
values of an injection and the pairs of an assignment. Of these, all that comes before the first
failure stays in the statement.
-/

namespace MappedSql

open Outcome Statement

theorem Statement.joined_length (separator : String) (items : List String) :
    (separator.intercalate items).length =
      (items.map String.length).sum + separator.length * (items.length - 1) := by
  induction items with
  | nil => simp
  | cons first rest ih =>
      cases rest with
      | nil => simp
      | cons next more =>
          simp only [String.intercalate_cons_cons, String.length_append, ih, List.map_cons,
            List.sum_cons, List.length_cons, Nat.add_sub_cancel, Nat.mul_succ]
          omega

-- A list of items that is not empty becomes longer by what is put between its items.
theorem Statement.commas_longer (before between after : List String) (several : before ++ after ≠ [])
    (more : between ≠ []) :
    (commas (before ++ after)).length < (commas (before ++ between ++ after)).length := by
  have present : 0 < (before ++ after).length := List.length_pos_iff.mpr several
  have longer : 0 < between.length := List.length_pos_iff.mpr more
  have comma : ",".length = 1 := rfl
  simp only [commas, joined_length, List.map_append, List.sum_append_nat, List.length_append,
    comma] at present longer ⊢
  omega

-- One clause alone makes the difference.
theorem Statement.clauses_same (before after : List String) (first second : String)
    (same : clauses (before ++ first :: after) = clauses (before ++ second :: after)) :
    first.length = second.length := by
  have lengths := congrArg String.length same
  simp only [clauses, joined_length, List.map_append, List.sum_append_nat, List.map_cons,
    List.sum_cons, List.length_append, List.length_cons] at lengths
  omega

theorem SelectStatement.render_projection (s : SelectStatement) :
    ∃ before after, ∀ projection,
      render { s with projection := projection } = clauses (before ++ commas projection :: after) :=
  ⟨["SELECT"] ++ (if s.distinct then ["DISTINCT"] else []) ++ limitClause s.limit,
    ["FROM", s.table ++ " " ++ s.aliasName ++ s.hint] ++ s.joins.map (Join.render s.hint)
      ++ (if s.filter.isEmpty then [] else ["WHERE", s.filter])
      ++ (if s.order.isEmpty then [] else ["ORDER BY", commas s.order]),
    fun projection => by simp [render]⟩

theorem SelectStatement.projecting_same_iff (s : SelectStatement) (present : s.projection ≠ [])
    (more : List String) : (s.projecting more).render = s.render ↔ more = [] := by
  constructor
  · intro same
    by_contra others
    obtain ⟨before, after, rendered⟩ := s.render_projection
    have lengths := clauses_same before after _ _
      ((rendered _).symm.trans (same.trans (rendered s.projection)))
    have longer := commas_longer s.projection more [] (by simpa using present) others
    simp only [List.append_nil] at longer
    omega
  · rintro rfl
    rw [projecting, List.append_nil]

theorem UpdateStatement.render_assignments (s : UpdateStatement) :
    ∃ prior after, ∀ assignments,
      render { s with assignments := assignments } =
        clauses ((prior ++ commas assignments) :: after) :=
  ⟨"UPDATE " ++ s.aliasName ++ " SET ",
    ["FROM " ++ s.table ++ " " ++ s.aliasName] ++ s.joins.map (Join.render s.hint)
      ++ whenAny s.tests ("WHERE " ++ conjunction s.tests),
    fun assignments => by simp [render]⟩

namespace Draft

/-- The drafts have in common all that is written of a draft: the target, the conditions, the joins
and the settings. -/
structure WrittenAlike (first second : Draft) : Prop where
  target : second.aliases.target = first.aliases.target
  filter : second.filter = first.filter
  joins : second.joins = first.joins
  settings : second.settings = first.settings

theorem prepared_written (before after : Draft) (prepared : Prepared before after) :
    before.WrittenAlike after := by
  obtain ⟨joins, settings, extension⟩ := prepared_extends before after prepared
  exact ⟨Aliases.extends_target _ _ extension, (kept_of_prepared before after prepared).filter,
    joins, settings⟩

theorem attempt_fresh (draft : Draft) (step : Draft → Draft) (fresh : draft.fault = none) :
    draft.attempt step = step draft := by
  simp [attempt, fresh]

theorem compile_refused (draft : Draft) (lambda : Lambda) (namesMembers : Bool) (fault : Fault)
    (refused : failure? (draft.compile lambda namesMembers).2 = some fault) :
    ∃ entered, draft.compile lambda namesMembers = (entered, .error fault) ∧
      Prepared draft entered := by
  have prepared : Prepared draft (draft.compile lambda namesMembers).1 :=
    .compiled lambda namesMembers .same
  cases compiled : draft.compile lambda namesMembers with
  | mk entered outcome =>
      rw [compiled] at prepared refused
      cases outcome with
      | ok text => cases refused
      | error other =>
          obtain rfl : other = fault := Option.some.inj refused
          exact ⟨entered, rfl, prepared⟩

-- The condition of a join is compiled before anything is written of the join.
theorem refused_prepared (draft : Draft) (step : Step) (fresh : draft.fault = none) (fault : Fault)
    (refused : draft.refusal? step = some fault) : Prepared draft (draft.apply step) := by
  cases step with
  | filter condition connective =>
      obtain ⟨entered, compiled, prepared⟩ := draft.compile_refused condition false fault refused
      rw [apply, draft.attempt_fresh _ fresh, addFilter, compiled]
      exact .failed fault prepared
  | state condition connective =>
      simp only [refusal?] at refused
      rw [apply, draft.attempt_fresh _ fresh, addStated]
      split_ifs at refused ⊢
      exact .failed _ .same
  | join left right condition kind =>
      simp only [refusal?] at refused
      rw [apply, draft.attempt_fresh _ fresh, addJoin]
      split_ifs at refused ⊢
      · exact .failed _ .same
      · obtain ⟨entered, compiled, prepared⟩ := draft.compile_refused _ false fault refused
        rw [compiled]
        exact .failed fault prepared
  | joinTable table condition kind =>
      simp only [refusal?] at refused
      rw [apply, draft.attempt_fresh _ fresh, addTableJoin]
      split_ifs at refused ⊢
      · exact .failed _ .same
      · cases resolved : draft.resolveTable table with
        | ok known =>
            rw [resolved] at refused
            cases refused
        | error other => exact .failed other .same
  | configure settings => cases refused

end Draft

namespace SelectDraft

/-- What a step writes into the statement before it is refused. -/
def leftBehind (query : SelectDraft) : Step → List String
  | .inject columns => appended query.injected (resultsBefore injection columns)
  | _ => []

theorem inject_refused (query : SelectDraft) (columns : NamedList Value) (fault : Fault)
    (refused : failure? (columns.mapM injection) = some fault) :
    query.inject columns =
      { query.injecting (query.leftBehind (.inject columns)) with draft := query.draft.fail fault } := by
  simp only [inject, inject_all, refused, push_columns_appended]
  rfl

theorem compiled_refused (query : SelectDraft) (lambda : Lambda) (namesMembers : Bool)
    (write : Draft → String → SelectDraft) (fault : Fault)
    (refused : failure? (query.draft.compile lambda namesMembers).2 = some fault) :
    ∃ after, Draft.Prepared query.draft after ∧
      (match query.draft.compile lambda namesMembers with
        | (draft, .ok text) => write draft text
        | (draft, .error fault) => { query with draft := draft.fail fault }) =
          { query with draft := after } := by
  obtain ⟨entered, compiled, prepared⟩ :=
    query.draft.compile_refused lambda namesMembers fault refused
  rw [compiled]
  exact ⟨entered.fail fault, .failed fault prepared, rfl⟩

-- Whatever a step is, a refused one changes nothing that is written but what it leaves behind.
theorem refused_effect (query : SelectDraft) (step : Step) (fresh : query.draft.fault = none)
    (fault : Fault) (refused : RefusingDraft.refusal? query step = some fault) :
    ∃ after, Draft.Prepared query.draft after ∧
      query.apply step = { query.injecting (query.leftBehind step) with draft := after } := by
  have unwritten (after : Draft) :
      ({ query.injecting [] with draft := after } : SelectDraft) = { query with draft := after } := by
    rw [injecting, List.append_nil]
  have attempted (does : SelectDraft → SelectDraft) : query.attempt does = does query := by
    simp [attempt, fresh]
  have choice (does : SelectDraft → SelectDraft) (reason : Option Fault)
      (chosen : query.choiceRefusal? reason = some fault)
      (left : reason = some fault → ∃ after, Draft.Prepared query.draft after ∧
        does query = { query with draft := after }) :
      ∃ after, Draft.Prepared query.draft after ∧
        query.choosing does = { query with draft := after } := by
    rw [choosing, attempted]
    unfold choiceRefusal? at chosen
    split_ifs at chosen ⊢
    · exact ⟨_, .failed _ .same, rfl⟩
    · exact left chosen
  cases step with
  | shared shared =>
      exact ⟨query.draft.apply shared,
        query.draft.refused_prepared shared fresh fault refused, (unwritten _).symm⟩
  | project projection =>
      simp only [leftBehind, unwritten]
      exact choice _ _ refused fun failed =>
        query.compiled_refused projection true _ fault failed
  | projectTable entity =>
      simp only [leftBehind, unwritten]
      refine choice _ _ refused fun failed => ?_
      unfold projectTable
      cases registered : query.draft.aliases.register entity false with
      | ok aliases =>
          rw [registered] at failed
          cases failed
      | error other => exact ⟨_, .failed other .same, rfl⟩
  | projectParticipants =>
      simp only [leftBehind, unwritten]
      exact choice _ none refused fun failed => by cases failed
  | orderBy selector order =>
      simp only [leftBehind, unwritten, apply, attempted]
      exact query.compiled_refused selector false _ fault refused
  | inject columns =>
      rw [apply, attempted, query.inject_refused columns fault refused]
      exact ⟨_, .failed fault .same, rfl⟩
  | projectAll | distinct | limit count => cases refused

theorem statement_alike (query : SelectDraft) (after : Draft)
    (alike : query.draft.WrittenAlike after) :
    ({ query with draft := after } : SelectDraft).statement = query.statement := by
  simp only [statement, alike.target, alike.filter, alike.joins, alike.settings]
  rfl

theorem projection_present (query : SelectDraft) : query.projection ≠ [] := by
  unfold projection
  split_ifs with all
  · simp
  · intro nothing
    simp [(List.append_eq_nil_iff.mp nothing).1] at all

/-- A refused step leaves behind what it writes before it fails, and nothing else: so the statement
is what it was just when that is nothing. -/
theorem refused_written (query : SelectDraft) (step : Step) (fresh : query.draft.fault = none)
    (fault : Fault) (refused : RefusingDraft.refusal? query step = some fault)
    (participant : Participant) (targeted : query.draft.aliases.target = .ok participant) :
    (StatementDraft.write (query.apply step) =
        query.statement.map fun alone => (alone.projecting (query.leftBehind step)).render) ∧
      (StatementDraft.write (query.apply step) = StatementDraft.write query ↔
        query.leftBehind step = []) := by
  obtain ⟨after, prepared, applied⟩ := query.refused_effect step fresh fault refused
  have left : (query.apply step).statement =
      query.statement.map fun alone => alone.projecting (query.leftBehind step) := by
    rw [applied]
    exact (statement_alike (query.injecting _) after (Draft.prepared_written _ _ prepared)).trans
      (injecting_statement ..)
  have written : StatementDraft.write (query.apply step) =
      query.statement.map fun alone => (alone.projecting (query.leftBehind step)).render := by
    change (query.apply step).statement.map SelectStatement.render = _
    rw [left]
    cases query.statement <;> rfl
  refine ⟨written, ?_⟩
  obtain ⟨alone, made, present⟩ : ∃ alone, query.statement = .ok alone ∧ alone.projection ≠ [] := by
    rw [statement, targeted]
    exact ⟨_, rfl, query.projection_present⟩
  have before : StatementDraft.write query = .ok alone.render := by
    change query.statement.map SelectStatement.render = _
    rw [made]
    rfl
  rw [written, before, made, ← alone.projecting_same_iff present]
  exact ⟨Except.ok.inj, congrArg Except.ok⟩

end SelectDraft

namespace JoinedUpdateDraft

def leftBehind (update : JoinedUpdateDraft) : Step → List String
  | .assign target source pairs =>
      if (pairingFault? update.draft.aliases target source).isSome then []
      else resultsBefore (assignment update.draft.aliases target) pairs
  | _ => []

def assigning (update : JoinedUpdateDraft) (more : List String) : JoinedUpdateDraft :=
  { update with assignments := update.assignments ++ more }

theorem refused_effect (update : JoinedUpdateDraft) (step : Step)
    (fresh : update.draft.fault = none) (fault : Fault)
    (refused : RefusingDraft.refusal? update step = some fault) :
    ∃ after, Draft.Prepared update.draft after ∧
      update.apply step = { update.assigning (update.leftBehind step) with draft := after } := by
  cases step with
  | shared shared =>
      refine ⟨update.draft.apply shared,
        update.draft.refused_prepared shared fresh fault refused, ?_⟩
      simp only [leftBehind, assigning, List.append_nil]
      rfl
  | assign target source pairs =>
      change (pairingFault? update.draft.aliases target source).or
        (failure? (pairs.mapM (assignment update.draft.aliases target))) = some fault at refused
      simp only [apply, fresh, leftBehind, assign]
      cases unfit : pairingFault? update.draft.aliases target source with
      | some other =>
          refine ⟨_, .failed other .same, ?_⟩
          simp [assigning, fail]
      | none =>
          rw [unfit, Option.none_or] at refused
          simp only [assign_all, refused]
          exact ⟨_, .failed fault .same, rfl⟩
  | additional columns => cases refused

theorem statement_alike (update : JoinedUpdateDraft) (after : Draft)
    (alike : update.draft.WrittenAlike after) :
    ({ update with draft := after } : JoinedUpdateDraft).statement = update.statement := by
  simp only [statement, alike.target, alike.filter, alike.joins, alike.settings]

theorem assigning_statement (update : JoinedUpdateDraft) (participant : Participant)
    (targeted : update.draft.aliases.target = .ok participant) (more : List String)
    (added : update.additional.assignments = .ok more) :
    ∃ alone : UpdateStatement, ∀ left, (update.assigning left).statement =
      if (update.assignments ++ left ++ more).isEmpty
      then .error (.noAssignment participant.table.qualifiedName)
      else .ok { alone with assignments := update.assignments ++ left ++ more } :=
  ⟨{ table := participant.table.qualifiedName
     aliasName := participant.aliasName
     assignments := []
     hint := update.draft.settings.hintSuffix
     joins := update.draft.joins
     tests := if update.draft.filter.isEmpty then [] else [update.draft.filter.text] },
    fun left => by
      simp only [statement, assigning, targeted, added, bind, Except.bind]
      by_cases nothing : (update.assignments ++ left ++ more).isEmpty <;> simp only [nothing] <;> rfl⟩

-- An update without an assignment is not written, so the first one that is left behind is seen too.
theorem assigning_same_iff (update : JoinedUpdateDraft) (participant : Participant)
    (targeted : update.draft.aliases.target = .ok participant) (left : List String) :
    (update.assigning left).statement.map UpdateStatement.render =
        update.statement.map UpdateStatement.render ↔
      left = [] ∨ ∃ fault, update.additional.assignments = .error fault := by
  have nothing : update.assigning [] = update := by rw [assigning, List.append_nil]
  constructor
  · intro same
    by_contra otherwise
    obtain ⟨leaves, made⟩ := not_or.mp otherwise
    cases added : update.additional.assignments with
    | error fault => exact made ⟨fault, added⟩
    | ok more =>
        obtain ⟨alone, assigned⟩ := update.assigning_statement participant targeted more added
        obtain ⟨before, after, rendered⟩ := alone.render_assignments
        have present : (update.assignments ++ left ++ more).isEmpty = false := by simp [leaves]
        have unassigned := assigned []
        rw [nothing, List.append_nil] at unassigned
        rw [assigned, unassigned, present] at same
        by_cases bare : update.assignments ++ more = []
        · rw [bare] at same
          cases same
        · rw [List.isEmpty_eq_false_iff.mpr bare] at same
          have lengths := clauses_same [] after _ _
            ((rendered _).symm.trans ((Except.ok.inj same).trans (rendered _)))
          have longer := commas_longer update.assignments left more bare leaves
          simp only [String.length_append] at lengths
          omega
  · rintro (rfl | ⟨fault, added⟩)
    · rw [nothing]
    · simp only [statement, assigning, targeted, added]
      rfl

/-- As for a query; but an update whose additional columns are refused is not written, so then
nothing is seen of what a refused step leaves behind. -/
theorem refused_written (update : JoinedUpdateDraft) (step : Step)
    (fresh : update.draft.fault = none) (fault : Fault)
    (refused : RefusingDraft.refusal? update step = some fault) (participant : Participant)
    (targeted : update.draft.aliases.target = .ok participant) :
    StatementDraft.write (update.apply step) =
        StatementDraft.write (update.assigning (update.leftBehind step)) ∧
      (StatementDraft.write (update.apply step) = StatementDraft.write update ↔
        update.leftBehind step = [] ∨ ∃ fault, update.additional.assignments = .error fault) := by
  obtain ⟨after, prepared, applied⟩ := update.refused_effect step fresh fault refused
  have written : StatementDraft.write (update.apply step) =
      StatementDraft.write (update.assigning (update.leftBehind step)) := by
    rw [applied]
    exact congrArg (Except.map UpdateStatement.render)
      (statement_alike (update.assigning _) after (Draft.prepared_written _ _ prepared))
  exact ⟨written, written ▸ update.assigning_same_iff participant targeted _⟩

end JoinedUpdateDraft

theorem UpdateDraft.refused_written (update : UpdateDraft) (step : UpdateDraft.Step)
    (fresh : update.draft.fault = none) (fault : Fault)
    (refused : RefusingDraft.refusal? update step = some fault) :
    StatementDraft.write (update.apply step) = StatementDraft.write update := by
  cases step with
  | shared shared =>
      have alike := Draft.prepared_written _ _
        (update.draft.refused_prepared shared fresh fault refused)
      have row : (update.apply (.shared shared)).rowStatement = update.rowStatement := by
        funext target more record
        simp only [UpdateDraft.apply, UpdateDraft.rowStatement, alike.filter, alike.joins,
          alike.settings]
      have same : (update.apply (.shared shared)).statements = update.statements := by
        simp only [UpdateDraft.statements, row]
        simp only [UpdateDraft.apply, alike.target]
        rfl
      change UpdateDraft.statements _ >>= _ = _
      rw [same]
      rfl
  | addRows rows | additional columns => cases refused

theorem DeleteDraft.refused_written (delete : DeleteDraft) (step : DeleteDraft.Step)
    (fresh : delete.draft.fault = none) (fault : Fault)
    (refused : RefusingDraft.refusal? delete step = some fault) :
    StatementDraft.write (delete.apply step) = StatementDraft.write delete := by
  cases step with
  | shared shared =>
      have alike := Draft.prepared_written _ _
        (delete.draft.refused_prepared shared fresh fault refused)
      have same : (delete.apply (.shared shared)).statement = delete.statement := by
        simp only [DeleteDraft.apply, DeleteDraft.statement,
          alike.target, alike.filter, alike.joins, alike.settings]
      exact congrArg (Except.map DeleteStatement.render) same
  | allowAll allow => cases refused

theorem InsertDraft.never_refused (insert : InsertDraft) (step : InsertDraft.Step) :
    RefusingDraft.refusal? insert step = none := by
  cases step <;> rfl

theorem InsertTarget.never_refused (insert : InsertTarget) (step : InsertTarget.Step) :
    RefusingDraft.refusal? insert step = none := by
  cases step <;> rfl

/-! A draft with a fault is not built, but its statement can be written all the same, and there it
is seen what refused steps left behind. So writing is compared here. -/

namespace RefusingDraft

open FilteredDraft

variable {δ σ : Type} [RefusingDraft δ σ]

structure Refuses (δ : Type) {σ : Type} [RefusingDraft δ σ] (target : EntityType) (steps : List σ)
    (step : σ) : Prop where
  before : (draft (run δ target steps)).fault = none
  after : (draft (run δ target (steps ++ [step]))).fault ≠ none

theorem run_append (target : EntityType) (steps : List σ) (step : σ) :
    run δ target (steps ++ [step]) = apply (run δ target steps) step :=
  List.foldl_concat ..

theorem refuses_refusal (target : EntityType) (steps : List σ) (step : σ)
    (refuses : Refuses δ target steps step) :
    ∃ fault, refusal? (run δ target steps) step = some fault := by
  have failed := refuses.after
  rw [run_append, step_fault, refuses.before, Option.none_or] at failed
  exact Option.ne_none_iff_exists'.mp failed

theorem refuses_target (target : EntityType) (steps : List σ) (step : σ)
    (refuses : Refuses δ target steps step) :
    ∃ participant, (draft (run δ target steps)).aliases.target = .ok participant := by
  obtain ⟨table, mapped⟩ := fresh_mapped target steps refuses.before
  exact ⟨_, target_kept target steps table mapped⟩

end RefusingDraft

open RefusingDraft

/-- What is seen of a refused step in the statement that is written all the same. Updates and
removals are what they were before it, and inserts have no step that is refused. A query gets what
an injection wrote before it failed, and a joined update what an assignment did: so these are what
they were just when the step failed before it wrote. -/
theorem refused_step_unseen_iff (target : EntityType) :
    (∀ steps step, Refuses SelectDraft target steps step →
      let query := SelectDraft.run target steps
      StatementDraft.write (SelectDraft.run target (steps ++ [step])) =
          query.statement.map (fun alone => (alone.projecting (query.leftBehind step)).render) ∧
        (StatementDraft.write (SelectDraft.run target (steps ++ [step])) =
            StatementDraft.write query ↔
          query.leftBehind step = [])) ∧
    (∀ steps step, Refuses JoinedUpdateDraft target steps step →
      let update := JoinedUpdateDraft.run target steps
      StatementDraft.write (JoinedUpdateDraft.run target (steps ++ [step])) =
          StatementDraft.write (update.assigning (update.leftBehind step)) ∧
        (StatementDraft.write (JoinedUpdateDraft.run target (steps ++ [step])) =
            StatementDraft.write update ↔
          update.leftBehind step = [] ∨
            ∃ fault, update.additional.assignments = .error fault)) ∧
    (∀ steps step, Refuses UpdateDraft target steps step →
      StatementDraft.write (UpdateDraft.run target (steps ++ [step])) =
        StatementDraft.write (UpdateDraft.run target steps)) ∧
    (∀ steps step, Refuses DeleteDraft target steps step →
      StatementDraft.write (DeleteDraft.run target (steps ++ [step])) =
        StatementDraft.write (DeleteDraft.run target steps)) ∧
    (∀ steps step, ¬ Refuses InsertDraft target steps step) ∧
    ∀ before query after step,
      StatementDraft.fault? (InsertSelectDraft.run target before query (after ++ [step])) =
        StatementDraft.fault? (InsertSelectDraft.run target before query after) := by
  refine ⟨fun steps step refuses => ?_, fun steps step refuses => ?_,
    fun steps step refuses => ?_, fun steps step refuses => ?_,
    fun steps step refuses => ?_, fun before query after step => ?_⟩
  · obtain ⟨fault, refused⟩ := refuses_refusal target steps step refuses
    obtain ⟨participant, targeted⟩ := refuses_target target steps step refuses
    have next : SelectDraft.run target (steps ++ [step]) = _ := run_append target steps step
    rw [next]
    exact SelectDraft.refused_written _ step refuses.before fault refused participant targeted
  · obtain ⟨fault, refused⟩ := refuses_refusal target steps step refuses
    obtain ⟨participant, targeted⟩ := refuses_target target steps step refuses
    have next : JoinedUpdateDraft.run target (steps ++ [step]) = _ := run_append target steps step
    rw [next]
    exact JoinedUpdateDraft.refused_written _ step refuses.before fault refused participant targeted
  · obtain ⟨fault, refused⟩ := refuses_refusal target steps step refuses
    have next : UpdateDraft.run target (steps ++ [step]) = _ := run_append target steps step
    rw [next]
    exact UpdateDraft.refused_written _ step refuses.before fault refused
  · obtain ⟨fault, refused⟩ := refuses_refusal target steps step refuses
    have next : DeleteDraft.run target (steps ++ [step]) = _ := run_append target steps step
    rw [next]
    exact DeleteDraft.refused_written _ step refuses.before fault refused
  · obtain ⟨fault, refused⟩ := refuses_refusal target steps step refuses
    rw [InsertDraft.never_refused] at refused
    cases refused
  · have next : InsertSelectDraft.run target before query (after ++ [step]) = _ :=
      List.foldl_concat ..
    have kept := step_fault (InsertSelectDraft.run target before query after).toInsertTarget step
    rw [InsertTarget.never_refused, Option.or_none] at kept
    rw [next]
    exact congrArg (Option.or · _) kept

def secondMissing : JoinedUpdateDraft.Step :=
  .assign "Order" "Person" [(.column "Order" "status", .column "Person" "status"),
    (.column "Order" "total", .column "Person" "nickname")]

/-- Of two pairs the second is refused, and the update is written with the first. -/
theorem second_pair_seen :
    let joined := JoinedUpdateDraft.run JoinedUpdateDraft.orders JoinedUpdateDraft.ofPersons
    Refuses JoinedUpdateDraft JoinedUpdateDraft.orders JoinedUpdateDraft.ofPersons secondMissing ∧
      joined.leftBehind secondMissing = ["t0.[Status] = t1.[Status]"] ∧
      (StatementDraft.write (JoinedUpdateDraft.run JoinedUpdateDraft.orders
          (JoinedUpdateDraft.ofPersons ++ [secondMissing])) = StatementDraft.write joined ↔
        joined.leftBehind secondMissing = [] ∨
          ∃ fault, joined.additional.assignments = .error fault) := by
  have refuses :
      Refuses JoinedUpdateDraft JoinedUpdateDraft.orders JoinedUpdateDraft.ofPersons secondMissing :=
    ⟨rfl, by decide⟩
  exact ⟨refuses, rfl, ((refused_step_unseen_iff _).2.1 _ _ refuses).2⟩

/-- The refused steps are seen: an assignment whose second pair is refused has written its first,
and an injection whose second name is blank its first value. -/
theorem refused_steps_seen :
    (Refuses JoinedUpdateDraft JoinedUpdateDraft.orders JoinedUpdateDraft.ofPersons secondMissing ∧
      StatementDraft.write
          (JoinedUpdateDraft.run JoinedUpdateDraft.orders JoinedUpdateDraft.ofPersons) =
        .error (.noAssignment "[sales].[Orders]") ∧
      StatementDraft.write (JoinedUpdateDraft.run JoinedUpdateDraft.orders
          (JoinedUpdateDraft.ofPersons ++ [secondMissing])) =
        .ok ("UPDATE t0 SET t0.[Status] = t1.[Status] FROM [sales].[Orders] t0 " ++
          "INNER JOIN [dbo].[Person] t1 WITH (NOLOCK) ON (t0.[PersonId] = t1.[Id])")) ∧
    (Refuses SelectDraft JoinedUpdateDraft.persons []
        (.inject [("A", .text "x"), ("", .null)]) ∧
      StatementDraft.write (SelectDraft.run JoinedUpdateDraft.persons []) =
        .ok "SELECT * FROM [dbo].[Person] t0 WITH (NOLOCK)" ∧
      StatementDraft.write (SelectDraft.run JoinedUpdateDraft.persons
          [.inject [("A", .text "x"), ("", .null)]]) =
        .ok "SELECT *,'x' AS [A] FROM [dbo].[Person] t0 WITH (NOLOCK)") :=
  ⟨⟨⟨rfl, by decide⟩, rfl, rfl⟩, ⟨⟨rfl, by decide⟩, rfl, rfl⟩⟩

end MappedSql
