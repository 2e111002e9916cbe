import MappedSql.Proofs.IndependentSteps
import MappedSql.Proofs.InjectedValues
import MappedSql.Proofs.RegistrationRuns
import MappedSql.Proofs.AcceptedMappings

/-!
The projection of a query as its steps tell it. Each step says by itself which types it lets in,
which columns it chooses and which values it injects; the projection of the query is put together
from that, with no query in between. A choice of columns after all of them were asked for is
refused.
-/

namespace MappedSql

open Outcome

-- Types of which none is refused are let in by one registration each.
theorem Draft.enter_all_run (aliases entered : Aliases) (entities : List EntityType)
    (success : enterAll aliases entities = (entered, none)) :
    entered = aliases.run (entities.map fun entity => ⟨entity, false⟩) := by
  induction entities generalizing aliases with
  | nil => exact (Prod.mk.inj success).1.symm
  | cons entity rest ih =>
      rw [enterAll] at success
      cases registered : aliases.register entity false with
      | error fault =>
          rw [registered] at success
          cases success
      | ok next =>
          rw [registered] at success
          have first : aliases.attempt ⟨entity, false⟩ = next :=
            Aliases.attempt_registered registered
          rw [ih next success, List.map_cons, ← first]
          rfl

def Aliases.columnTexts (tables : Aliases) : List String :=
  tables.participants.zipIdx.flatMap fun numberedTable =>
    numberedTable.1.table.columns.map fun column =>
      numbered numberedTable.2 ++ "." ++ column.quoted

theorem Aliases.column_texts (tables : Aliases) (reached : tables.Reached) :
    tables.columnTexts = tables.participants.flatMap Participant.columnTexts := by
  have each : ∀ numberedTable ∈ tables.participants.zipIdx,
      (numberedTable.1.table.columns.map fun column =>
        numbered numberedTable.2 ++ "." ++ column.quoted) = numberedTable.1.columnTexts := by
    intro numberedTable member
    have named := participant_numbered tables reached _ _ (List.mem_zipIdx_iff_getElem?.mp member)
    rw [← named]
    rfl
  rw [columnTexts, List.flatMap_congr each]
  conv_rhs => rw [← List.zipIdx_map_fst 0 tables.participants, List.flatMap_map]

namespace SelectDraft

namespace Step

def registrations (step : Step) : List Registration :=
  step.mentioned.map fun entity => ⟨entity, false⟩

def chooses : Step → Bool
  | .project _ | .projectTable _ | .projectParticipants => true
  | _ => false

def restarts : Step → Bool
  | .projectParticipants => true
  | _ => false

def asksForAll : Step → Bool
  | .projectAll => true
  | _ => false

def injections : Step → NamedList Value
  | .inject columns => columns
  | _ => []

def choices (tables : Aliases) : Step → Except Fault (List String)
  | .project projection => do return [← projection.body.compile ⟨tables, true⟩]
  | .projectTable entity => .ok ((tables.find? entity.name).toList.flatMap Participant.columnTexts)
  | .projectParticipants => .ok tables.columnTexts
  | _ => .ok []

end Step

/-- The columns that the steps choose, from the last that gives up those before it on. Each step
meets the tables that the steps before it and its own types have made. -/
def chosen (tables : Aliases) : List Step → Except Fault (List String)
  | [] => .ok []
  | step :: rest => do
      let entered := tables.run step.registrations
      let own ← step.choices entered
      let later ← chosen entered rest
      return if rest.any Step.restarts then later else own ++ later

def firsts (earlier : List String) : List String → List String
  | [] => []
  | text :: rest =>
      if earlier.any (Text.sameIgnoringCase · text) then firsts (earlier ++ [text]) rest
      else text :: firsts (earlier ++ [text]) rest

-- It makes no difference whether a text is compared with all earlier ones or with those kept of
-- them: each that was left out is the same as one that was kept.
theorem push_columns_firsts (present earlier texts : List String)
    (alike : ∀ text, present.any (Text.sameIgnoringCase · text) =
      earlier.any (Text.sameIgnoringCase · text)) :
    pushColumns present texts = present ++ firsts earlier texts := by
  induction texts generalizing present earlier with
  | nil => exact (List.append_nil present).symm
  | cons text rest ih =>
      rw [pushColumns, List.foldl_cons, pushColumn, firsts, alike text]
      split_ifs with there
      · refine ih present (earlier ++ [text]) fun other => ?_
        rw [List.any_append, ← alike other, List.any_cons, List.any_nil, Bool.or_false]
        cases same : Text.sameIgnoringCase text other with
        | false => rw [Bool.or_false]
        | true =>
            rw [Bool.or_true, List.any_eq_true]
            obtain ⟨first, inside, one⟩ := List.any_eq_true.mp ((alike text).trans there)
            exact ⟨first, inside, Identifier.same_name_trans one same⟩
      · have more := ih (present ++ [text]) (earlier ++ [text]) fun other => by
          rw [List.any_append, List.any_append, alike other]
        rw [List.append_assoc] at more
        exact more

/-- What a step that records no fault has done: its types take part, and behind the columns that
are not given up there are those that it chooses, and behind the injected values its own. -/
structure Projects (before : SelectDraft) (step : Step) (after : SelectDraft)
    (own made : List String) : Prop where
  tables : after.draft.aliases = before.draft.aliases.run step.registrations
  choices : step.choices after.draft.aliases = .ok own
  columns : step.asksForAll = false →
    after.columns = pushColumns (if step.restarts then [] else before.columns) own
  injections : step.injections.mapM injection = .ok made
  injected : after.injected = pushColumns before.injected made

theorem attempt_ok (query : SelectDraft) (step : SelectDraft → SelectDraft)
    (succeeded : (query.attempt step).draft.fault = none) : query.attempt step = step query := by
  unfold attempt at succeeded ⊢
  split_ifs at succeeded ⊢ with failed
  · rw [succeeded] at failed
    cases failed
  · rfl

theorem choosing_ok (query : SelectDraft) (step : SelectDraft → SelectDraft)
    (succeeded : (query.choosing step).draft.fault = none) : query.choosing step = step query := by
  have done := query.attempt_ok _ succeeded
  unfold choosing at succeeded ⊢
  rw [done] at succeeded ⊢
  split_ifs at succeeded ⊢
  · cases succeeded
  · rfl

theorem shared_tables (draft after : Draft) (step : Draft.Step) (does : draft.Does step after) :
    after.aliases = draft.aliases.run (Step.shared step).registrations := by
  cases does with
  | filter all written => exact Draft.enter_all_run _ _ _ all
  | join apart all written found => exact Draft.enter_all_run _ _ _ all
  | _ => rfl

section Steps

variable (query : SelectDraft)

theorem shared_projects (step : Draft.Step)
    (succeeded : (query.apply (.shared step)).draft.fault = none) :
    Projects query (.shared step) (query.apply (.shared step)) [] [] where
  tables := shared_tables _ _ step (query.draft.apply_does step succeeded)
  choices := rfl
  columns _ := rfl
  injections := rfl
  injected := rfl

theorem project_projects (projection : Lambda)
    (succeeded : (query.project projection).draft.fault = none) :
    ∃ text, Projects query (.project projection) (query.project projection) [text] [] := by
  unfold project at succeeded ⊢
  cases compiled : query.draft.compile projection true with
  | mk entered outcome =>
      rw [compiled] at succeeded
      cases outcome with
      | error fault => cases succeeded
      | ok text =>
          obtain ⟨aliases, all, rfl, written⟩ := query.draft.compile_entered _ _ _ _ compiled
          refine ⟨text, Draft.enter_all_run _ _ _ all, ?_, fun _ => rfl, rfl, rfl⟩
          exact bind_ok_iff.mpr ⟨text, written, rfl⟩

theorem table_projects (entity : EntityType)
    (succeeded : (query.projectTable entity).draft.fault = none) :
    ∃ own, Projects query (.projectTable entity) (query.projectTable entity) own [] := by
  unfold projectTable at succeeded ⊢
  cases registered : query.draft.aliases.register entity false with
  | error fault =>
      rw [registered] at succeeded
      cases succeeded
  | ok entered =>
      have attempted : entered = query.draft.aliases.attempt ⟨entity, false⟩ :=
        (Aliases.attempt_registered registered).symm
      refine ⟨_, attempted, rfl, fun _ => ?_, rfl, rfl⟩
      dsimp only
      cases entered.find? entity.name with
      | none => rfl
      | some participant => exact congrArg _ (List.append_nil _).symm

theorem participants_projects (reached : query.draft.aliases.Reached) :
    Projects query .projectParticipants query.projectParticipants
      query.draft.aliases.columnTexts [] where
  tables := rfl
  choices := rfl
  columns _ := by
    rw [projectParticipants, Aliases.column_texts _ reached]
    rfl
  injections := rfl
  injected := rfl

theorem order_projects (selector : Lambda) (order : SortOrder)
    (succeeded : (query.orderBy selector order).draft.fault = none) :
    Projects query (.orderBy selector order) (query.orderBy selector order) [] [] := by
  unfold orderBy at succeeded ⊢
  cases compiled : query.draft.compile selector false with
  | mk entered outcome =>
      rw [compiled] at succeeded
      cases outcome with
      | error fault => cases succeeded
      | ok text =>
          obtain ⟨aliases, all, rfl, _⟩ := query.draft.compile_entered _ _ _ _ compiled
          exact ⟨Draft.enter_all_run _ _ _ all, rfl, fun _ => rfl, rfl, rfl⟩

theorem inject_projects (columns : NamedList Value)
    (succeeded : (query.apply (.inject columns)).draft.fault = none) :
    ∃ made, Projects query (.inject columns) (query.apply (.inject columns)) [] made := by
  obtain ⟨made, written, done⟩ := query.inject_ok columns succeeded
  rw [done]
  exact ⟨made, rfl, rfl, fun _ => rfl, written, (push_columns_appended _ made).symm⟩

theorem apply_projects (step : Step) (reached : query.draft.aliases.Reached)
    (succeeded : (query.apply step).draft.fault = none) :
    ∃ own made, Projects query step (query.apply step) own made := by
  cases step with
  | shared shared => exact ⟨[], [], query.shared_projects shared succeeded⟩
  | project projection =>
      have done := query.choosing_ok (SelectDraft.project · projection) succeeded
      simp only [apply, done] at succeeded ⊢
      obtain ⟨text, projects⟩ := query.project_projects projection succeeded
      exact ⟨[text], [], projects⟩
  | projectTable entity =>
      have done := query.choosing_ok (SelectDraft.projectTable · entity) succeeded
      simp only [apply, done] at succeeded ⊢
      obtain ⟨own, projects⟩ := query.table_projects entity succeeded
      exact ⟨own, [], projects⟩
  | projectParticipants =>
      have done := query.choosing_ok SelectDraft.projectParticipants succeeded
      simp only [apply, done]
      exact ⟨_, [], query.participants_projects reached⟩
  | orderBy selector order =>
      have done := query.attempt_ok (SelectDraft.orderBy · selector order) succeeded
      simp only [apply, done] at succeeded ⊢
      exact ⟨[], [], query.order_projects selector order succeeded⟩
  | inject columns =>
      obtain ⟨made, projects⟩ := query.inject_projects columns succeeded
      exact ⟨[], made, projects⟩
  | projectAll => exact ⟨[], [], rfl, rfl, fun kept => Bool.noConfusion kept, rfl, rfl⟩
  | distinct => exact ⟨[], [], rfl, rfl, fun _ => rfl, rfl, rfl⟩
  | limit count => exact ⟨[], [], rfl, rfl, fun _ => rfl, rfl, rfl⟩

end Steps

-- Once all columns are asked for they stay asked for, refused steps or not.
theorem apply_all (query : SelectDraft) (step : Step) :
    (query.apply step).allColumns = (query.allColumns || step.asksForAll) := by
  have kept (change : SelectDraft → SelectDraft)
      (same : (change query).allColumns = query.allColumns) :
      (query.attempt change).allColumns = (query.allColumns || false) := by
    unfold attempt
    split_ifs
    · rw [Bool.or_false]
    · rw [same, Bool.or_false]
  have chosenKept (change : SelectDraft → SelectDraft)
      (same : (change query).allColumns = query.allColumns) :
      (query.choosing change).allColumns = (query.allColumns || false) := by
    refine kept _ ?_
    split_ifs
    · rfl
    · exact same
  cases step with
  | project projection =>
      refine chosenKept _ ?_
      unfold project
      split <;> rfl
  | projectTable entity =>
      refine chosenKept _ ?_
      unfold projectTable
      split <;> rfl
  | projectParticipants => exact chosenKept _ rfl
  | orderBy selector order =>
      refine kept _ ?_
      unfold orderBy
      split <;> rfl
  | inject columns =>
      refine kept _ ?_
      unfold inject
      dsimp only
      split <;> rfl
  | projectAll => exact (Bool.or_true _).symm
  | _ => exact (Bool.or_false _).symm

theorem steps_all (query : SelectDraft) (steps : List Step) :
    (steps.foldl apply query).allColumns = (query.allColumns || steps.any Step.asksForAll) := by
  induction steps generalizing query with
  | nil => exact (Bool.or_false _).symm
  | cons step rest ih => rw [List.foldl_cons, ih, apply_all, List.any_cons, Bool.or_assoc]

theorem locked_fault (query : SelectDraft) (choice : Step) (chooses : choice.chooses = true)
    (locked : query.allColumns = true) :
    (query.apply choice).draft.fault = some (query.draft.fault.getD .projectionLocked) := by
  have own : ∀ shared, choice ≠ .shared shared := by
    rintro shared rfl
    cases chooses
  have refused : query.refusal? choice = some .projectionLocked := by
    cases choice <;> first | exact if_pos locked | cases chooses
  rw [query.own_step_fault choice own, refused]
  cases query.draft.fault <;> rfl

theorem steps_projected (query : SelectDraft) (steps : List Step)
    (reached : query.draft.aliases.Reached)
    (succeeded : (steps.foldl apply query).draft.fault = none) :
    ∃ columns made, chosen query.draft.aliases steps = .ok columns ∧
      (steps.flatMap Step.injections).mapM injection = .ok made ∧
      (steps.any Step.asksForAll = false → (steps.foldl apply query).columns =
        pushColumns (if steps.any Step.restarts then [] else query.columns) columns) ∧
      (steps.foldl apply query).injected = pushColumns query.injected made := by
  induction steps generalizing query with
  | nil => exact ⟨[], [], rfl, rfl, fun _ => rfl, rfl⟩
  | cons step rest ih =>
      have stepped : (query.apply step).draft.fault = none :=
        FilteredDraft.run_succeeded (δ := SelectDraft) (query.apply step) rest succeeded
      obtain ⟨own, ownMade, projects⟩ := query.apply_projects step reached stepped
      obtain ⟨later, laterMade, choices, injections, columns, injected⟩ :=
        ih (query.apply step)
          ((FilteredDraft.step_appends (δ := SelectDraft) query step).reached reached) succeeded
      refine ⟨if rest.any Step.restarts then later else own ++ later, ownMade ++ laterMade,
        ?_, ?_, ?_, ?_⟩
      · rw [projects.tables] at choices
        have chooses := projects.choices
        rw [projects.tables] at chooses
        rw [chosen, chooses]
        exact bind_ok_iff.mpr ⟨own, rfl, bind_ok_iff.mpr ⟨later, choices, rfl⟩⟩
      · rw [List.flatMap_cons, List.mapM_append, projects.injections, injections]
        rfl
      · intro kept
        rw [List.any_cons, Bool.or_eq_false_iff] at kept
        rw [List.foldl_cons, columns kept.2, projects.columns kept.1, List.any_cons]
        cases rest.any Step.restarts with
        | true => rw [Bool.or_true]; rfl
        | false =>
            rw [Bool.or_false]
            exact List.foldl_append.symm
      · rw [List.foldl_cons, injected, projects.injected]
        exact List.foldl_append.symm

def firstTables (source : EntityType) : Aliases :=
  Aliases.empty.attempt ⟨source, true⟩

theorem start_tables (source : EntityType) : (start source).draft.aliases = firstTables source := by
  change (Draft.start source).aliases = _
  unfold Draft.start firstTables
  split
  · rename_i registered
    exact (Aliases.attempt_registered registered).symm
  · rename_i refused
    exact (Aliases.attempt_refused refused).symm

theorem firsts_nil_iff (texts : List String) : firsts [] texts = [] ↔ texts = [] := by
  cases texts <;> simp [firsts]

theorem run_projection (source : EntityType) (steps : List Step)
    (fresh : (run source steps).draft.fault = none) :
    ∃ columns made, chosen (firstTables source) steps = .ok columns ∧
      (steps.flatMap Step.injections).mapM injection = .ok made ∧
      (run source steps).projection =
        (if steps.any Step.asksForAll ∨ columns = [] then ["*"] else firsts [] columns) ++
          firsts [] made := by
  obtain ⟨columns, made, choices, injections, listed, injected⟩ :=
    steps_projected (start source) steps (Draft.start_reached source) fresh
  rw [start_tables] at choices
  refine ⟨columns, made, choices, injections, ?_⟩
  have all : (run source steps).allColumns = steps.any Step.asksForAll := steps_all _ steps
  have behind : (run source steps).injected = firsts [] made :=
    injected.trans (push_columns_firsts [] [] made fun _ => rfl)
  rw [projection, all, behind]
  congr 1
  cases asked : steps.any Step.asksForAll with
  | true => simp
  | false =>
      have texts : (run source steps).columns = firsts [] columns := by
        refine (listed asked).trans ?_
        rw [start, ite_self, push_columns_firsts [] [] columns fun _ => rfl, List.nil_append]
      simp [texts, firsts_nil_iff]

/-- The projection of a query is a function of its steps. If all columns were asked for, or no step
chose any, it begins with a star; otherwise with the columns that were chosen since the choice of
those of all tables, each where it came first. The injected values follow, each where it came first.
A step that chooses columns after all of them were asked for keeps the query from being built. -/
theorem projection_determined (source : EntityType) :
    (∀ steps text, StatementDraft.build (run source steps) = .ok text →
      ∃ statement columns made, (run source steps).statement = .ok statement ∧
        text = statement.render ∧ chosen (firstTables source) steps = .ok columns ∧
        (steps.flatMap Step.injections).mapM injection = .ok made ∧
        statement.projection =
          (if steps.any Step.asksForAll ∨ columns = [] then ["*"] else firsts [] columns) ++
            firsts [] made) ∧
      ∀ earlier choice later, earlier.any Step.asksForAll = true → choice.chooses = true →
        StatementDraft.build (run source (earlier ++ choice :: later)) =
          .error ((run source earlier).draft.fault.getD .projectionLocked) := by
  refine ⟨fun steps text built => ?_, fun earlier choice later asked chooses => ?_⟩
  · obtain ⟨fresh, written⟩ := (StatementDraft.build_ok_iff _ _).mp built
    obtain ⟨statement, stated, rfl⟩ := map_ok_iff.mp written
    obtain ⟨columns, made, choices, injections, projected⟩ := run_projection source steps fresh
    obtain ⟨target, _, same⟩ := bind_ok_iff.mp stated
    rw [pure_ok_iff] at same
    refine ⟨statement, columns, made, stated, rfl, choices, injections, ?_⟩
    rw [← same]
    exact projected
  · have refused := (run source earlier).locked_fault choice chooses (by
      rw [run, steps_all, asked, Bool.or_true])
    refine StatementDraft.build_refused _ ?_
    have kept : ((later.foldl apply ((run source earlier).apply choice))).draft.fault =
        ((run source earlier).apply choice).draft.fault.or _ :=
      RefusingDraft.steps_fault (δ := SelectDraft) ((run source earlier).apply choice) later
    rw [refused, Option.some_or] at kept
    rw [run, List.foldl_append]
    exact kept

def chosenAgain : List Step :=
  [.project ⟨[⟨"Person", Sample.person⟩], .column "Person" "name"⟩, ofSeventh, .projectParticipants,
    .project ⟨[⟨"Person", Sample.person⟩], .column "Person" "id"⟩,
    .inject [("Tag", .text "new"), ("TAG", .text "New")]]

/-- Of eight columns seven are projected, and of two values one; after a choice of all columns none
can be chosen. -/
theorem columns_chosen_again :
    (∃ text statement columns made,
      StatementDraft.build (run ⟨"Person", Sample.person⟩ chosenAgain) = .ok text ∧
        (run ⟨"Person", Sample.person⟩ chosenAgain).statement = .ok statement ∧
        text = statement.render ∧
        columns = ["t0.[Id]", "t0.[Name]", "t0.[Status]", "t1.[Id]", "t1.[PersonId]", "t1.[Total]",
          "t1.[Status]", "t0.[Id]"] ∧
        made = ["'new' AS [Tag]", "'New' AS [TAG]"] ∧
        statement.projection = ["t0.[Id]", "t0.[Name]", "t0.[Status]", "t1.[Id]", "t1.[PersonId]",
          "t1.[Total]", "t1.[Status]", "'new' AS [Tag]"]) ∧
      [Step.projectAll].any Step.asksForAll = true ∧ Step.projectParticipants.chooses = true ∧
      StatementDraft.build (run ⟨"Person", Sample.person⟩
        ([.projectAll] ++ .projectParticipants :: [.limit 1])) = .error .projectionLocked := by
  obtain ⟨built, locked⟩ := projection_determined ⟨"Person", Sample.person⟩
  obtain ⟨statement, columns, made, stated, whole, choices, injections, projected⟩ :=
    built chosenAgain _ rfl
  obtain rfl := Except.ok.inj choices
  obtain rfl := Except.ok.inj injections
  exact ⟨⟨_, statement, _, _, rfl, stated, whole, rfl, rfl, projected⟩, rfl, rfl,
    locked [.projectAll] .projectParticipants [.limit 1] rfl rfl⟩

end SelectDraft

end MappedSql
