import MappedSql.Proofs.Refusals

/-!
Steps of a query that do not depend on each other. A step writes one part of the query. As long as
it lets no type in, it reads nothing but this part, the tables and the fault; so two steps that
write different parts can be done in either order.
-/

namespace MappedSql

def Aliases.Knows (aliases : Aliases) (entities : List EntityType) : Prop :=
  ∀ entity ∈ entities, (aliases.find? entity.name).isSome = true

theorem Aliases.register_known (aliases : Aliases) (entity : EntityType)
    (known : (aliases.find? entity.name).isSome = true) :
    aliases.register entity false = .ok aliases := by
  obtain ⟨participant, found⟩ := Option.isSome_iff_exists.mp known
  rw [register_eq_enter, enter, found]
  rfl

namespace Draft

theorem enter_all_known (aliases : Aliases) (entities : List EntityType)
    (known : aliases.Knows entities) : enterAll aliases entities = (aliases, none) := by
  induction entities with
  | nil => rfl
  | cons entity rest ih =>
      obtain ⟨first, others⟩ := List.forall_mem_cons.mp known
      rw [enterAll, aliases.register_known entity first]
      exact ih others

theorem compile_known (draft : Draft) (lambda : Lambda) (namesMembers : Bool)
    (known : draft.aliases.Knows lambda.parameters) :
    draft.compile lambda namesMembers =
      (draft, lambda.body.compile ⟨draft.aliases, namesMembers⟩) := by
  rw [compile, enter_all_known draft.aliases lambda.parameters known]

end Draft

namespace SelectDraft

inductive Family where
  | conditions
  | joins
  | ordering
  | projection
  | injection
  | distinct
  | limit
  | configuration
  deriving DecidableEq, Repr

namespace Step

def family : Step → Family
  | .shared (.filter ..) | .shared (.state ..) => .conditions
  | .shared (.join ..) | .shared (.joinTable ..) => .joins
  | .shared (.configure _) => .configuration
  | .project _ | .projectTable _ | .projectParticipants | .projectAll => .projection
  | .distinct => .distinct
  | .limit _ => .limit
  | .orderBy .. => .ordering
  | .inject _ => .injection

def mentioned : Step → List EntityType
  | .shared (.filter condition _) => condition.parameters
  | .shared (.join left right _ _) => [left, right]
  | .project projection => projection.parameters
  | .projectTable entity => [entity]
  | .orderBy selector _ => selector.parameters
  | _ => []

end Step

def Family.Part : Family → Type
  | .conditions => Filter
  | .joins => List Join
  | .ordering | .injection => List String
  | .projection => List String × Bool
  | .distinct => Bool
  | .limit => Option Nat
  | .configuration => Settings

def part (query : SelectDraft) : (family : Family) → family.Part
  | .conditions => query.draft.filter
  | .joins => query.draft.joins
  | .ordering => query.order
  | .projection => (query.columns, query.allColumns)
  | .injection => query.injected
  | .distinct => query.distinct
  | .limit => query.limit
  | .configuration => query.draft.settings

-- Beside its parts a query has its tables and its fault.
theorem eq_of_parts (first second : SelectDraft)
    (aliases : first.draft.aliases = second.draft.aliases)
    (fault : first.draft.fault = second.draft.fault)
    (parts : ∀ family, first.part family = second.part family) : first = second := by
  obtain ⟨⟨_, _, _, _, _⟩, _, _, _, _, _, _⟩ := first
  obtain ⟨⟨_, _, _, _, _⟩, _, _, _, _, _, _⟩ := second
  obtain ⟨columns, all⟩ := Prod.ext_iff.mp (parts .projection)
  cases aliases
  cases fault
  cases parts .conditions
  cases parts .joins
  cases parts .ordering
  cases parts .injection
  cases parts .distinct
  cases parts .limit
  cases parts .configuration
  cases columns
  cases all
  rfl

def put (query : SelectDraft) : (family : Family) → family.Part → SelectDraft
  | .conditions, filter => { query with draft := { query.draft with filter := filter } }
  | .joins, joins => { query with draft := { query.draft with joins := joins } }
  | .ordering, order => { query with order := order }
  | .projection, (columns, all) => { query with columns := columns, allColumns := all }
  | .injection, injected => { query with injected := injected }
  | .distinct, distinct => { query with distinct := distinct }
  | .limit, limit => { query with limit := limit }
  | .configuration, settings => { query with draft := { query.draft with settings := settings } }

section Put

variable (query : SelectDraft) (family : Family) (value : family.Part)

theorem put_aliases : (query.put family value).draft.aliases = query.draft.aliases := by
  cases family <;> rfl

theorem put_fault : (query.put family value).draft.fault = query.draft.fault := by
  cases family <;> rfl

theorem part_put : (query.put family value).part family = value := by
  cases family <;> rfl

theorem part_put_apart (other : Family) (apart : other ≠ family) :
    (query.put family value).part other = query.part other := by
  cases family <;> cases other <;> first | rfl | exact absurd rfl apart

end Put

/-! A step is compared with itself on another query that is the same in all that the step reads.
What it writes is the same then, and what it does not write has stayed. For two steps of different
families these are the two orders of doing them. -/

/-- The queries have all in common that a step of the family reads: the tables, the fault and the
part of the family. -/
structure SameFor (family : Family) (first second : SelectDraft) : Prop where
  aliases : first.draft.aliases = second.draft.aliases
  fault : first.draft.fault = second.draft.fault
  own : first.part family = second.part family

/-- A step of the family makes `after` of `before`, and `twin` of a query that is the same for the
family: the tables and the other parts stay, and both get the same part and the same fault. -/
structure Writes (family : Family) (before after twin : SelectDraft) : Prop where
  aliases : after.draft.aliases = before.draft.aliases
  others : ∀ other, other ≠ family → after.part other = before.part other
  fault : after.draft.fault = twin.draft.fault
  own : after.part family = twin.part family

theorem part_fail (query : SelectDraft) (fault : Fault) (family : Family) :
    (query.fail fault).part family = query.part family := by
  cases family <;> rfl

theorem writes_fail {family : Family} {before after twin : SelectDraft}
    (written : Writes family before after twin) (fault : Fault) :
    Writes family before (after.fail fault) (twin.fail fault) where
  aliases := written.aliases
  others other apart := by rw [part_fail, written.others other apart]
  fault := rfl
  own := by rw [part_fail, part_fail, written.own]

theorem shared_attempt (query : SelectDraft) (step : Draft → Draft) :
    ({ query with draft := query.draft.attempt step } : SelectDraft) =
      query.attempt fun query => { query with draft := step query.draft } := by
  unfold attempt Draft.attempt
  split_ifs <;> rfl

section Same

variable {family : Family} {first second : SelectDraft} (same : SameFor family first second)

include same

theorem writes_nothing : Writes family first first second :=
  ⟨rfl, fun _ _ => rfl, same.fault, same.own⟩

theorem writes_part (value twin : family.Part) (equal : value = twin) :
    Writes family first (first.put family value) (second.put family twin) where
  aliases := put_aliases first family value
  others other apart := part_put_apart first family value other apart
  fault := by rw [put_fault, put_fault, same.fault]
  own := by rw [part_put, part_put, equal]

theorem writes_attempt (step : SelectDraft → SelectDraft)
    (does : Writes family first (step first) (step second)) :
    Writes family first (first.attempt step) (second.attempt step) := by
  unfold attempt
  rw [← same.fault]
  split_ifs
  · exact writes_nothing same
  · exact does

theorem writes_shared (step : Draft → Draft)
    (does : Writes family first { first with draft := step first.draft }
      { second with draft := step second.draft }) :
    Writes family first { first with draft := first.draft.attempt step }
      { second with draft := second.draft.attempt step } := by
  rw [shared_attempt, shared_attempt]
  exact writes_attempt same _ does

end Same

theorem writes_choosing {first second : SelectDraft} (same : SameFor .projection first second)
    (step : SelectDraft → SelectDraft)
    (does : Writes .projection first (step first) (step second)) :
    Writes .projection first (first.choosing step) (second.choosing step) := by
  refine writes_attempt same _ ?_
  have locked : first.allColumns = second.allColumns := congrArg Prod.snd same.own
  rw [← locked]
  split_ifs
  · exact writes_fail (writes_nothing same) _
  · exact does

theorem writes_columns {first second : SelectDraft} (same : SameFor .projection first second)
    (change : List String → List String) :
    Writes .projection first { first with columns := change first.columns }
      { second with columns := change second.columns } :=
  writes_part same (change first.columns, first.allColumns)
    (change second.columns, second.allColumns)
    (congrArg (fun own : List String × Bool => (change own.1, own.2)) same.own)

section Steps

variable (first second : SelectDraft)

theorem add_filter_writes (condition : Lambda) (connective : Connective)
    (known : first.draft.aliases.Knows condition.parameters)
    (same : SameFor .conditions first second) :
    Writes .conditions first
      { first with draft := first.draft.addFilter condition connective }
      { second with draft := second.draft.addFilter condition connective } := by
  rw [Draft.addFilter, Draft.addFilter, first.draft.compile_known condition false known,
    second.draft.compile_known condition false (same.aliases ▸ known), ← same.aliases]
  cases condition.body.compile ⟨first.draft.aliases, false⟩ with
  | error fault => exact writes_fail (writes_nothing same) fault
  | ok text =>
      exact writes_part same _ _ (congrArg (Filter.push · connective text) same.own)

theorem add_stated_writes (condition : Condition) (connective : Connective)
    (same : SameFor .conditions first second) :
    Writes .conditions first
      { first with draft := first.draft.addStated condition connective }
      { second with draft := second.draft.addStated condition connective } := by
  unfold Draft.addStated
  split_ifs
  · exact writes_fail (writes_nothing same) _
  · exact writes_part same _ _
      (congrArg (Filter.push · connective ("(" ++ condition.text ++ ")")) same.own)

theorem add_join_writes (left right : EntityType) (condition : Expr) (kind : JoinKind)
    (known : first.draft.aliases.Knows [left, right]) (same : SameFor .joins first second) :
    Writes .joins first
      { first with draft := first.draft.addJoin left right condition kind }
      { second with draft := second.draft.addJoin left right condition kind } := by
  have joins : first.draft.joins = second.draft.joins := same.own
  have found : second.draft.aliases.find? right.name = first.draft.aliases.find? right.name := by
    rw [same.aliases]
  unfold Draft.addJoin
  split_ifs
  · exact writes_fail (writes_nothing same) _
  · rw [first.draft.compile_known _ false known,
      second.draft.compile_known _ false (same.aliases ▸ known), ← same.aliases]
    cases condition.compile ⟨first.draft.aliases, false⟩ with
    | error fault => exact writes_fail (writes_nothing same) fault
    | ok text =>
        dsimp only
        rw [found]
        cases first.draft.aliases.find? right.name with
        | none => exact writes_fail (writes_nothing same) _
        | some joined =>
            exact writes_part same _ _ (congrArg
              (· ++ [⟨kind, joined.table.qualifiedName, joined.aliasName, text⟩]) joins)

theorem add_table_join_writes (table condition : String) (kind : JoinKind)
    (same : SameFor .joins first second) :
    Writes .joins first
      { first with draft := first.draft.addTableJoin table condition kind }
      { second with draft := second.draft.addTableJoin table condition kind } := by
  have joins : first.draft.joins = second.draft.joins := same.own
  have resolved : first.draft.resolveTable table = second.draft.resolveTable table := by
    rw [Draft.resolveTable, Draft.resolveTable, same.aliases, joins]
  unfold Draft.addTableJoin
  split_ifs
  · exact writes_fail (writes_nothing same) _
  · rw [← resolved]
    cases first.draft.resolveTable table with
    | error fault => exact writes_fail (writes_nothing same) fault
    | ok target =>
        exact writes_part same _ _
          (congrArg (· ++ [⟨kind, target.1, target.2, condition⟩]) joins)

theorem project_writes (projection : Lambda)
    (known : first.draft.aliases.Knows projection.parameters)
    (same : SameFor .projection first second) :
    Writes .projection first (first.project projection) (second.project projection) := by
  rw [project, project, first.draft.compile_known projection true known,
    second.draft.compile_known projection true (same.aliases ▸ known), ← same.aliases]
  cases projection.body.compile ⟨first.draft.aliases, true⟩ with
  | error fault => exact writes_fail (writes_nothing same) fault
  | ok text => exact writes_columns same (pushColumn · text)

theorem project_table_writes (entity : EntityType) (known : first.draft.aliases.Knows [entity])
    (same : SameFor .projection first second) :
    Writes .projection first (first.projectTable entity) (second.projectTable entity) := by
  have there := known entity (List.mem_singleton.mpr rfl)
  obtain ⟨participant, found⟩ := Option.isSome_iff_exists.mp there
  have foundToo : second.draft.aliases.find? entity.name = some participant :=
    same.aliases ▸ found
  rw [projectTable, projectTable, first.draft.aliases.register_known entity there,
    second.draft.aliases.register_known entity (same.aliases ▸ there)]
  dsimp only
  rw [found, foundToo]
  exact writes_columns same (pushColumns · participant.columnTexts)

theorem project_participants_writes (same : SameFor .projection first second) :
    Writes .projection first first.projectParticipants second.projectParticipants := by
  rw [projectParticipants, projectParticipants, ← same.aliases]
  exact writes_columns same fun _ =>
    pushColumns [] (first.draft.aliases.participants.flatMap Participant.columnTexts)

theorem order_writes (selector : Lambda) (order : SortOrder)
    (known : first.draft.aliases.Knows selector.parameters)
    (same : SameFor .ordering first second) :
    Writes .ordering first (first.orderBy selector order) (second.orderBy selector order) := by
  have texts : first.order = second.order := same.own
  rw [orderBy, orderBy, first.draft.compile_known selector false known,
    second.draft.compile_known selector false (same.aliases ▸ known), ← same.aliases]
  cases selector.body.compile ⟨first.draft.aliases, false⟩ with
  | error fault => exact writes_fail (writes_nothing same) fault
  | ok text => exact writes_part same _ _ (congrArg (· ++ [text ++ " " ++ order.text]) texts)

theorem inject_writes (columns : NamedList Value) (same : SameFor .injection first second) :
    Writes .injection first (first.inject columns) (second.inject columns) := by
  have injected : first.injected = second.injected := same.own
  rw [inject, inject, ← injected]
  cases injectAll first.injected columns with
  | mk texts refused =>
      have written := writes_part same texts texts rfl
      cases refused with
      | none => exact written
      | some fault => exact writes_fail written fault

theorem shared_writes (shared : Draft.Step)
    (known : first.draft.aliases.Knows (Step.shared shared).mentioned)
    (same : SameFor (Step.shared shared).family first second) :
    Writes (Step.shared shared).family first (first.apply (.shared shared))
      (second.apply (.shared shared)) := by
  cases shared with
  | filter condition connective =>
      exact writes_shared same (Draft.addFilter · condition connective)
        (add_filter_writes first second condition connective known same)
  | state condition connective =>
      exact writes_shared same (Draft.addStated · condition connective)
        (add_stated_writes first second condition connective same)
  | join left right condition kind =>
      exact writes_shared same (Draft.addJoin · left right condition kind)
        (add_join_writes first second left right condition kind known same)
  | joinTable table condition kind =>
      exact writes_shared same (Draft.addTableJoin · table condition kind)
        (add_table_join_writes first second table condition kind same)
  | configure settings => exact writes_part same settings settings rfl

end Steps

/-- Whatever else two queries hold, a step does the same to both if the types that it mentions take
part already and they are the same for it. -/
theorem apply_writes (first second : SelectDraft) (step : Step)
    (known : first.draft.aliases.Knows step.mentioned) (same : SameFor step.family first second) :
    Writes step.family first (first.apply step) (second.apply step) := by
  cases step with
  | shared shared => exact shared_writes first second shared known same
  | project projection =>
      exact writes_choosing same _ (project_writes first second projection known same)
  | projectTable entity =>
      exact writes_choosing same _ (project_table_writes first second entity known same)
  | projectParticipants =>
      exact writes_choosing same _ (project_participants_writes first second same)
  | projectAll => exact writes_part same ([], true) ([], true) rfl
  | distinct => exact writes_part same true true rfl
  | limit count => exact writes_part same (some count) (some count) rfl
  | orderBy selector order =>
      exact writes_attempt same (SelectDraft.orderBy · selector order)
        (order_writes first second selector order known same)
  | inject columns =>
      exact writes_attempt same (SelectDraft.inject · columns)
        (inject_writes first second columns same)

-- The first of two steps that record no fault records none.
theorem first_succeeded (query : SelectDraft) (first second : Step)
    (succeeded : ((query.apply first).apply second).draft.fault = query.draft.fault) :
    (query.apply first).draft.fault = query.draft.fault := by
  have alone : (query.apply first).draft.fault =
      query.draft.fault.or (RefusingDraft.refusal? query first) :=
    RefusingDraft.step_fault query first
  have both : ((query.apply first).apply second).draft.fault =
      (query.apply first).draft.fault.or (RefusingDraft.refusal? (query.apply first) second) :=
    RefusingDraft.step_fault (query.apply first) second
  rw [succeeded] at both
  cases failed : query.draft.fault with
  | some fault => rw [alone, failed, Option.some_or]
  | none =>
      rw [failed] at both
      exact (Option.or_eq_none_iff.mp both.symm).1

theorem apply_frames (query : SelectDraft) (step : Step)
    (known : query.draft.aliases.Knows step.mentioned) :
    Writes step.family query (query.apply step) (query.apply step) :=
  apply_writes query query step known ⟨rfl, rfl, rfl⟩

-- A step that records no fault leaves all that a step of another family reads.
theorem same_after (query : SelectDraft) (step : Step) (family : Family)
    (apart : family ≠ step.family) (known : query.draft.aliases.Knows step.mentioned)
    (succeeded : (query.apply step).draft.fault = query.draft.fault) :
    SameFor family (query.apply step) query :=
  ⟨(query.apply_frames step known).aliases, succeeded,
    (query.apply_frames step known).others family apart⟩

section Pair

variable (query : SelectDraft) (first second : Step) (apart : first.family ≠ second.family)
  (knownFirst : query.draft.aliases.Knows first.mentioned)
  (knownSecond : query.draft.aliases.Knows second.mentioned)
  (succeeded : ((query.apply first).apply second).draft.fault = query.draft.fault)

include apart knownFirst knownSecond succeeded

theorem second_written : Writes second.family (query.apply first)
    ((query.apply first).apply second) (query.apply second) := by
  have same := query.same_after first second.family apart.symm knownFirst
    (query.first_succeeded first second succeeded)
  exact apply_writes (query.apply first) query second (same.aliases ▸ knownSecond) same

theorem second_succeeded : (query.apply second).draft.fault = query.draft.fault :=
  (second_written query first second apart knownFirst knownSecond succeeded).fault.symm.trans
    succeeded

theorem first_written : Writes first.family (query.apply second)
    ((query.apply second).apply first) (query.apply first) := by
  have same := query.same_after second first.family apart knownSecond
    (second_succeeded query first second apart knownFirst knownSecond succeeded)
  exact apply_writes (query.apply second) query first (same.aliases ▸ knownFirst) same

theorem applied_alike :
    (query.apply second).apply first = (query.apply first).apply second := by
  have afterFirst := second_written query first second apart knownFirst knownSecond succeeded
  have afterSecond := first_written query first second apart knownFirst knownSecond succeeded
  have framesFirst := query.apply_frames first knownFirst
  have framesSecond := query.apply_frames second knownSecond
  apply eq_of_parts
  · rw [afterFirst.aliases, afterSecond.aliases, framesFirst.aliases, framesSecond.aliases]
  · rw [afterSecond.fault, succeeded, query.first_succeeded first second succeeded]
  -- What a step wrote is left by the other step, whether it comes before or after.
  · intro family
    by_cases ofFirst : family = first.family
    · subst ofFirst
      rw [afterSecond.own, afterFirst.others _ apart]
    · by_cases ofSecond : family = second.family
      · subst ofSecond
        rw [afterFirst.own, afterSecond.others _ apart.symm]
      · rw [afterSecond.others family ofFirst, afterFirst.others family ofSecond,
          framesSecond.others family ofSecond, framesFirst.others family ofFirst]

end Pair

/-- Two steps of different families, of whose types each takes part already, can be done in either
order: if no fault is recorded in the one, none is recorded in the other, and whatever steps follow,
the same is built in the end. -/
theorem steps_commute (query : SelectDraft) (first second : Step)
    (apart : first.family ≠ second.family)
    (known : ∀ entity ∈ first.mentioned ++ second.mentioned,
      query.hasParticipant entity.name = true)
    (succeeded : ((query.apply first).apply second).draft.fault = query.draft.fault) :
    (query.apply second).draft.fault = query.draft.fault ∧
      ((query.apply second).apply first).draft.fault = query.draft.fault ∧
      ∀ more : List Step,
        StatementDraft.build (more.foldl apply ((query.apply second).apply first)) =
          StatementDraft.build (more.foldl apply ((query.apply first).apply second)) := by
  have knownFirst : query.draft.aliases.Knows first.mentioned :=
    fun entity member => known entity (List.mem_append_left _ member)
  have knownSecond : query.draft.aliases.Knows second.mentioned :=
    fun entity member => known entity (List.mem_append_right _ member)
  have alike := applied_alike query first second apart knownFirst knownSecond succeeded
  refine ⟨second_succeeded query first second apart knownFirst knownSecond succeeded, ?_, ?_⟩
  · rw [alike, succeeded]
  · intro more
    rw [alike]

def ordered : SelectDraft :=
  .run ⟨"Person", Sample.person⟩
    [.shared (.join ⟨"Person", Sample.person⟩ ⟨"Order", Sample.order⟩
      (.binary .equal (.column "Person" "id") (.column "Order" "person_id")) .inner)]

def ofSeventh : Step :=
  .shared (.filter ⟨[⟨"Order", Sample.order⟩],
    .binary .equal (.column "Order" "person_id") (.constant (.integer .int32 7))⟩ .or)

/-- The columns of all tables are chosen before or after a condition on one of them. -/
theorem columns_and_condition_commute :
    Step.projectParticipants.family ≠ ofSeventh.family ∧
      (∀ entity ∈ Step.projectParticipants.mentioned ++ ofSeventh.mentioned,
        ordered.hasParticipant entity.name = true) ∧
      ((ordered.apply .projectParticipants).apply ofSeventh).draft.fault = ordered.draft.fault ∧
      ((ordered.apply ofSeventh).apply .projectParticipants).draft.fault = ordered.draft.fault ∧
      ∀ more : List Step,
        StatementDraft.build
            (more.foldl apply ((ordered.apply ofSeventh).apply .projectParticipants)) =
          StatementDraft.build
            (more.foldl apply ((ordered.apply .projectParticipants).apply ofSeventh)) := by
  have known : ∀ entity ∈ Step.projectParticipants.mentioned ++ ofSeventh.mentioned,
      ordered.hasParticipant entity.name = true := by
    intro entity member
    obtain rfl := List.mem_singleton.mp member
    rfl
  obtain ⟨_, fault, same⟩ :=
    steps_commute ordered .projectParticipants ofSeventh (by decide) known rfl
  exact ⟨by decide, known, rfl, fault, same⟩

-- A condition that lets a table in does not commute with the choice of the columns of all tables.
example :
    (run ⟨"Person", Sample.person⟩ [.projectParticipants, ofSeventh]).columns.length = 3 ∧
      (run ⟨"Person", Sample.person⟩ [ofSeventh, .projectParticipants]).columns.length = 7 :=
  ⟨rfl, rfl⟩

end SelectDraft

end MappedSql
