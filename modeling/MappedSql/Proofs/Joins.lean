import MappedSql.Proofs.StepEffects
import MappedSql.Proofs.Where
import MappedSql.Proofs.Written

/-!
The aliases of one statement. A joined type has one alias however often it is joined, and a table
that no participant stands for is numbered among the joins. So the aliases after FROM and after the
joins are distinct just when no type is joined twice and the target is not joined.
-/

namespace MappedSql

open Outcome

namespace Draft

theorem enter_all_extends (aliases : Aliases) (entities : List EntityType) :
    aliases.Extends (enterAll aliases entities).1 := by
  induction entities generalizing aliases with
  | nil => exact aliases.extends_refl
  | cons entity rest ih =>
      rw [enterAll]
      split
      · rename_i entered success
        exact Aliases.extends_trans _ _ _ (aliases.register_extends entered entity success)
          (ih entered)
      · exact aliases.extends_refl

theorem enter_all_types (aliases entered : Aliases) (entities : List EntityType)
    (all : enterAll aliases entities = (entered, none)) (type : String) :
    type ∈ entered.types ↔ type ∈ aliases.types ∨ type ∈ entities.map (·.name) := by
  induction entities generalizing aliases with
  | nil =>
      cases all
      simp
  | cons entity rest ih =>
      rw [enterAll] at all
      cases success : aliases.register entity false with
      | error fault => simp [success] at all
      | ok first =>
          rw [success] at all
          rw [ih first all, aliases.register_types first entity success, List.map_cons,
            List.mem_cons, or_assoc]

theorem compile_draft (draft : Draft) (lambda : Lambda) (namesMembers : Bool) :
    (draft.compile lambda namesMembers).1 =
      { draft with aliases := (enterAll draft.aliases lambda.parameters).1 } := by
  unfold compile
  cases refused : (enterAll draft.aliases lambda.parameters).2 <;> simp only [refused]

theorem prepared_extends (before after : Draft) (prepared : Prepared before after) :
    after.joins = before.joins ∧ after.settings = before.settings ∧
      before.aliases.Extends after.aliases := by
  induction prepared with
  | same => exact ⟨rfl, rfl, before.aliases.extends_refl⟩
  | failed fault _ ih => exact ih
  | @compiled middle lambda namesMembers _ ih =>
      rw [compile_draft]
      exact ⟨ih.1, ih.2.1, Aliases.extends_trans _ _ _ ih.2.2 (enter_all_extends _ _)⟩
  | @registered middle aliases entity _ success ih =>
      exact ⟨ih.1, ih.2.1, Aliases.extends_trans _ _ _ ih.2.2
        (middle.aliases.register_extends aliases entity success)⟩

theorem does_extends (before after : Draft) (step : Step) (does : before.Does step after) :
    before.aliases.Extends after.aliases := by
  cases does with
  | @filter condition _ _ _ all _ =>
      have extension := enter_all_extends before.aliases condition.parameters
      rwa [all] at extension
  | @join left right _ _ _ _ _ _ all _ _ =>
      have extension := enter_all_extends before.aliases [left, right]
      rwa [all] at extension
  | _ => exact before.aliases.extends_refl

theorem compile_extends (draft : Draft) (lambda : Lambda) (namesMembers : Bool) :
    draft.aliases.Extends (draft.compile lambda namesMembers).1.aliases := by
  rw [compile_draft]
  exact enter_all_extends draft.aliases lambda.parameters

theorem attempt_extends (draft : Draft) (step : Draft → Draft)
    (does : draft.aliases.Extends (step draft).aliases) :
    draft.aliases.Extends (draft.attempt step).aliases := by
  unfold attempt
  split_ifs
  · exact draft.aliases.extends_refl
  · exact does

theorem add_filter_extends (draft : Draft) (condition : Lambda) (connective : Connective) :
    draft.aliases.Extends (draft.addFilter condition connective).aliases := by
  have entered := draft.compile_extends condition false
  unfold addFilter
  split <;> (rename_i compiled; rw [compiled] at entered; exact entered)

theorem add_join_extends (draft : Draft) (left right : EntityType) (condition : Expr)
    (kind : JoinKind) : draft.aliases.Extends (draft.addJoin left right condition kind).aliases := by
  have entered := draft.compile_extends ⟨[left, right], condition⟩ false
  unfold addJoin
  split_ifs
  · exact draft.aliases.extends_refl
  · split
    · rename_i compiled
      rw [compiled] at entered
      exact entered
    · rename_i compiled
      rw [compiled] at entered
      split <;> exact entered

-- Unlike what a step does when it succeeds, this holds of every step.
theorem apply_extends (draft : Draft) (step : Step) :
    draft.aliases.Extends (draft.apply step).aliases := by
  cases step with
  | filter condition connective =>
      exact draft.attempt_extends _ (draft.add_filter_extends condition connective)
  | state condition connective =>
      refine draft.attempt_extends _ ?_
      unfold addStated
      split_ifs <;> exact draft.aliases.extends_refl
  | join left right condition kind =>
      exact draft.attempt_extends _ (draft.add_join_extends left right condition kind)
  | joinTable table condition kind =>
      refine draft.attempt_extends _ ?_
      unfold addTableJoin
      split_ifs
      · exact draft.aliases.extends_refl
      · split <;> exact draft.aliases.extends_refl
  | configure settings => exact draft.aliases.extends_refl

/-! The joins of a draft are told by the types that they bring in. A raw join brings one in as well
if a participant has its table, and else a number that no participant has. -/

def joined? (draft : Draft) : Step → Option String
  | .join _ right _ _ => some right.name
  | .joinTable table _ _ => (draft.aliases.byTableName? table).map (·.type)
  | _ => none

def joinNames (draft : Draft) : List String :=
  draft.joins.map (·.aliasName)

def numberedJoin (count : Nat) : String :=
  "j" ++ Number.digitsText count

theorem numbered_join_injective : Function.Injective numberedJoin := by
  intro first second same
  exact Number.digits_text_injective ((String.append_right_inj _).mp same)

theorem numbered_join_apart (count other : Nat) : numberedJoin count ≠ Aliases.numbered other := by
  intro same
  have heads := congrArg (fun text => text.toList.head?) same
  simp [numberedJoin, Aliases.numbered] at heads

/-- The joins are those of the types, in order, and of numbered tables between them. -/
structure Linked (draft : Draft) (types : List String) : Prop where
  distinct : draft.joinNames.Nodup ↔ types.Nodup
  source : ∀ name ∈ draft.joinNames,
    (∃ participant ∈ draft.aliases.participants,
      participant.type ∈ types ∧ participant.aliasName = name) ∨
      ∃ count < draft.joins.length, name = numberedJoin count
  present : ∀ type ∈ types, ∃ participant ∈ draft.aliases.participants,
    participant.type = type ∧ participant.aliasName ∈ draft.joinNames

theorem linked_name_iff (draft : Draft) (types : List String) (reached : draft.aliases.Reached)
    (linked : draft.Linked types) (participant : Participant)
    (member : participant ∈ draft.aliases.participants) :
    participant.aliasName ∈ draft.joinNames ↔ participant.type ∈ types := by
  constructor
  · intro named
    rcases linked.source _ named with ⟨other, inside, joined, same⟩ | ⟨count, _, same⟩
    · rwa [← draft.aliases.participant_of_name reached other participant inside member same]
    · obtain ⟨position, numbered⟩ := draft.aliases.reached_numbered reached participant member
      exact absurd (same.symm.trans numbered) (numbered_join_apart count position)
  · intro joined
    obtain ⟨other, inside, same, named⟩ := linked.present _ joined
    rwa [← draft.aliases.participant_of_type reached other participant inside member same]

theorem linked_extends (before after : Draft) (types : List String) (linked : before.Linked types)
    (extension : before.aliases.Extends after.aliases) (joins : after.joins = before.joins) :
    after.Linked types := by
  have names : after.joinNames = before.joinNames := by
    rw [joinNames, joinNames, joins]
  refine ⟨names ▸ linked.distinct, ?_, ?_⟩
  · intro name member
    rw [names] at member
    rcases linked.source name member with ⟨participant, inside, found⟩ | ⟨count, bound, same⟩
    · exact .inl ⟨participant, Aliases.extends_member _ _ extension participant inside, found⟩
    · exact .inr ⟨count, joins ▸ bound, same⟩
  · intro type member
    obtain ⟨participant, inside, same, named⟩ := linked.present type member
    exact ⟨participant, Aliases.extends_member _ _ extension participant inside, same,
      names ▸ named⟩

-- One more join by the alias of a participant repeats an alias just when it repeats a type.
theorem linked_participant (draft : Draft) (types : List String) (reached : draft.aliases.Reached)
    (linked : draft.Linked types) (participant : Participant)
    (member : participant ∈ draft.aliases.participants) (join : Join)
    (named : join.aliasName = participant.aliasName) :
    Linked { draft with joins := draft.joins ++ [join] } (types ++ [participant.type]) := by
  have names : joinNames { draft with joins := draft.joins ++ [join] } =
      draft.joinNames ++ [participant.aliasName] := by
    simp [joinNames, named]
  have repeats := draft.linked_name_iff types reached linked participant member
  constructor
  · rw [names, ← List.concat_eq_append, ← List.concat_eq_append, List.nodup_concat,
      List.nodup_concat, repeats, linked.distinct]
  · intro name inNames
    rw [names] at inNames
    rcases List.mem_append.mp inNames with before | last
    · rcases linked.source name before with ⟨other, inside, joined, same⟩ | ⟨count, bound, same⟩
      · exact .inl ⟨other, inside, List.mem_append_left _ joined, same⟩
      · exact .inr ⟨count, by simp only [List.length_append]; omega, same⟩
    · rw [List.mem_singleton.mp last]
      exact .inl ⟨participant, member, List.mem_append_right _ List.mem_cons_self, rfl⟩
  · intro type inTypes
    rcases List.mem_append.mp inTypes with before | last
    · obtain ⟨other, inside, same, present⟩ := linked.present type before
      exact ⟨other, inside, same, names ▸ List.mem_append_left _ present⟩
    · rw [List.mem_singleton.mp last]
      exact ⟨participant, member, rfl, names ▸ List.mem_append_right _ List.mem_cons_self⟩

-- The number of a join among the joins was not given before.
theorem linked_numbered (draft : Draft) (types : List String) (reached : draft.aliases.Reached)
    (linked : draft.Linked types) (join : Join)
    (named : join.aliasName = numberedJoin draft.joins.length) :
    Linked { draft with joins := draft.joins ++ [join] } types := by
  have names : joinNames { draft with joins := draft.joins ++ [join] } =
      draft.joinNames ++ [numberedJoin draft.joins.length] := by
    simp [joinNames, named]
  have fresh : numberedJoin draft.joins.length ∉ draft.joinNames := by
    intro given
    rcases linked.source _ given with ⟨participant, inside, _, same⟩ | ⟨count, bound, same⟩
    · obtain ⟨position, numbered⟩ := draft.aliases.reached_numbered reached participant inside
      exact numbered_join_apart _ position (same.symm.trans numbered)
    · exact absurd (numbered_join_injective same) (by omega)
  constructor
  · rw [names, ← List.concat_eq_append, List.nodup_concat, ← linked.distinct]
    exact and_iff_right fresh
  · intro name inNames
    rw [names] at inNames
    rcases List.mem_append.mp inNames with before | last
    · rcases linked.source name before with known | ⟨count, bound, same⟩
      · exact .inl known
      · exact .inr ⟨count, by simp only [List.length_append]; omega, same⟩
    · rw [List.mem_singleton.mp last]
      exact .inr ⟨draft.joins.length, by simp, rfl⟩
  · intro type inTypes
    obtain ⟨other, inside, same, present⟩ := linked.present type inTypes
    exact ⟨other, inside, same, names ▸ List.mem_append_left _ present⟩

theorem does_linked (before after : Draft) (step : Step) (types : List String)
    (reached : before.aliases.Reached) (linked : before.Linked types)
    (does : before.Does step after) : after.Linked (types ++ (before.joined? step).toList) := by
  have extension := before.does_extends after step does
  cases does with
  | @join left right condition kind entered text joined _ all _ found =>
      -- The two sides are let in first; the join itself comes after.
      have grown : Linked { before with aliases := entered } types :=
        linked_extends before _ types linked extension rfl
      have enteredReached : entered.Reached := by
        have all' := enter_all_reached before.aliases [left, right] reached
        rwa [all] at all'
      have more := linked_participant { before with aliases := entered } types enteredReached grown
        joined (entered.find_member _ _ found)
        ⟨kind, joined.table.qualifiedName, joined.aliasName, text⟩ rfl
      rwa [entered.find_type _ _ found] at more
  | @knownTable table condition kind known found =>
      have member : known ∈ before.aliases.participants := List.mem_of_find?_eq_some found
      have more := linked_participant before types reached linked known member
        ⟨kind, known.table.qualifiedName, known.aliasName, condition⟩ rfl
      simpa only [joined?, found, Option.map_some, Option.toList_some] using more
  | @otherTable table condition quoted kind unknown _ =>
      have more := linked_numbered before types reached linked
        ⟨kind, quoted, numberedJoin before.joins.length, condition⟩ rfl
      have nothing : (before.joined? (.joinTable table condition kind)).toList = [] := by
        simp only [joined?, unknown, Option.map_none, Option.toList_none]
      rw [nothing, List.append_nil]
      exact more
  | filter _ _ | state _ | configure _ =>
      have kept := linked_extends before _ types linked extension rfl
      simpa only [joined?, Option.toList_none, List.append_nil] using kept

theorem start_ok (target : EntityType) (succeeded : (start target).fault = none) :
    ∃ table aliases, Table.ofMapping target.mapping = .ok table ∧
      aliases.participants = [⟨target.name, table, Aliases.numbered 0, true⟩] ∧
      start target = ⟨aliases, .empty, [], {}, none⟩ := by
  unfold start at succeeded ⊢
  cases registered : Aliases.empty.register target true with
  | error fault => simp [registered] at succeeded
  | ok aliases =>
      obtain ⟨table, mapped, only⟩ := Aliases.first_registered aliases target registered
      exact ⟨table, aliases, mapped, only, rfl⟩

end Draft

namespace FilteredDraft

variable {δ σ : Type} [FilteredDraft δ σ]

theorem steps_extend
    (prepares : ∀ (state : δ) (step : σ), shared? δ step = none →
      Draft.Prepared (draft state) (draft (apply state step)))
    (state : δ) (steps : List σ) :
    (draft state).aliases.Extends (draft (steps.foldl apply state)).aliases := by
  induction steps generalizing state with
  | nil => exact (draft state).aliases.extends_refl
  | cons step rest ih =>
      have first : (draft state).aliases.Extends (draft (apply state step)).aliases := by
        cases kind : shared? δ step with
        | none => exact (Draft.prepared_extends _ _ (prepares state step kind)).2.2
        | some shared =>
            rw [applies state step shared kind]
            exact (draft state).apply_extends shared
      exact Aliases.extends_trans _ _ _ first (ih (apply state step))

end FilteredDraft

/-- A draft with conditions that also joins tables. Its own steps let types in and do nothing else
to what the drafts have in common, and each of its statements reads the target and the joins. -/
class JoiningDraft (δ : Type) (σ : outParam Type) extends FilteredDraft δ σ where
  prepares (state : δ) (step : σ) :
    shared? step = none → Draft.Prepared (draft state) (draft (apply state step))
  /-- The alias after FROM, and the joins, of each statement that is written. -/
  tables : δ → Except Fault (List (String × List Join))
  tables_read (state : δ) (written : List (String × List Join)) :
    tables state = .ok written → ∀ entry ∈ written, ∃ target,
      (draft state).aliases.target = .ok target ∧ entry = (target.aliasName, (draft state).joins)

namespace JoiningDraft

open FilteredDraft

variable {δ σ : Type} [JoiningDraft δ σ]

/-- A step that succeeds is a shared one that does what it is for, or lets types in. -/
theorem step_cases (state : δ) (step : σ) (succeeded : (draft (apply state step)).fault = none) :
    (∃ shared, shared? δ step = some shared ∧
      (draft state).Does shared (draft (apply state step))) ∨
      (shared? δ step = none ∧ Draft.Prepared (draft state) (draft (apply state step))) := by
  cases kind : shared? δ step with
  | none => exact .inr ⟨rfl, prepares state step kind⟩
  | some shared =>
      rw [applies state step shared kind] at succeeded ⊢
      exact .inl ⟨shared, rfl, (draft state).apply_does shared succeeded⟩

def joined? (state : δ) (step : σ) : Option String :=
  (shared? δ step).bind (draft state).joined?

def joinedFrom (state : δ) : List σ → List String
  | [] => []
  | step :: rest => (joined? state step).toList ++ joinedFrom (apply state step) rest

def joinedTypes (δ : Type) {σ : Type} [JoiningDraft δ σ] (target : EntityType) (steps : List σ) :
    List String :=
  joinedFrom (start target : δ) steps

theorem step_linked (state : δ) (step : σ) (types : List String)
    (reached : (draft state).aliases.Reached) (linked : (draft state).Linked types)
    (succeeded : (draft (apply state step)).fault = none) :
    (draft (apply state step)).Linked (types ++ (joined? state step).toList) := by
  unfold joined?
  rcases step_cases state step succeeded with ⟨shared, kind, does⟩ | ⟨kind, prepared⟩
  · rw [kind, Option.bind_some]
    exact Draft.does_linked _ _ shared types reached linked does
  · rw [kind, Option.bind_none, Option.toList_none, List.append_nil]
    have kept := Draft.prepared_extends _ _ prepared
    exact Draft.linked_extends _ _ types linked kept.2.2 kept.1

theorem run_linked (state : δ) (steps : List σ) (types : List String)
    (reached : (draft state).aliases.Reached) (linked : (draft state).Linked types)
    (succeeded : (draft (steps.foldl apply state)).fault = none) :
    (draft (steps.foldl apply state)).Linked (types ++ joinedFrom state steps) := by
  induction steps generalizing state types with
  | nil => simpa only [joinedFrom, List.append_nil, List.foldl_nil] using linked
  | cons step rest ih =>
      have first := step_linked state step types reached linked (run_succeeded _ rest succeeded)
      have later := ih (apply state step) _ ((step_appends state step).reached reached) first
        succeeded
      rwa [List.append_assoc] at later

theorem started (target : EntityType) (steps : List σ)
    (succeeded : (draft (run δ target steps)).fault = none) :
    ∃ table aliases, Table.ofMapping target.mapping = .ok table ∧
      aliases.participants = [⟨target.name, table, Aliases.numbered 0, true⟩] ∧
      draft (start target : δ) = ⟨aliases, .empty, [], {}, none⟩ := by
  have begun := run_succeeded (start target : δ) steps succeeded
  rw [starts] at begun ⊢
  exact Draft.start_ok target begun

-- The target is the first participant, and no other is a target.
theorem run_participants (target : EntityType) (steps : List σ)
    (succeeded : (draft (run δ target steps)).fault = none) :
    ∃ table newcomers, Table.ofMapping target.mapping = .ok table ∧
      (draft (run δ target steps)).aliases.participants =
        ⟨target.name, table, Aliases.numbered 0, true⟩ :: newcomers ∧
      ∀ newcomer ∈ newcomers, newcomer.isTarget = false := by
  obtain ⟨table, aliases, mapped, only, begun⟩ := started (δ := δ) target steps succeeded
  obtain ⟨newcomers, grown, others⟩ := steps_extend prepares (start target : δ) steps
  refine ⟨table, newcomers, mapped, ?_, others⟩
  rw [begun, only] at grown
  exact grown

theorem run_target (target : EntityType) (steps : List σ)
    (succeeded : (draft (run δ target steps)).fault = none) :
    ∃ table, Table.ofMapping target.mapping = .ok table ∧
      (draft (run δ target steps)).aliases.target =
        .ok ⟨target.name, table, Aliases.numbered 0, true⟩ := by
  obtain ⟨table, newcomers, mapped, all, _⟩ := run_participants (δ := δ) target steps succeeded
  exact ⟨table, mapped, by simp [Aliases.target, all]⟩

theorem run_reaches (target : EntityType) (steps : List σ) :
    (draft (run δ target steps)).aliases.Reached :=
  run_reached (start target : δ) steps (by rw [starts]; exact Draft.start_reached target)

theorem run_joins (target : EntityType) (steps : List σ)
    (succeeded : (draft (run δ target steps)).fault = none) :
    (draft (run δ target steps)).Linked (joinedTypes δ target steps) := by
  obtain ⟨table, aliases, _, _, begun⟩ := started (δ := δ) target steps succeeded
  have unjoined : (draft (start target : δ)).Linked [] := by
    rw [begun]
    exact ⟨by simp [Draft.joinNames], by simp [Draft.joinNames], by simp⟩
  exact run_linked (start target : δ) steps [] (by rw [starts]; exact Draft.start_reached target)
    unjoined succeeded

-- The alias of a type stands among the joins just when the type was joined.
theorem run_joined_iff (target : EntityType) (steps : List σ)
    (succeeded : (draft (run δ target steps)).fault = none) (type : String) :
    (∃ name ∈ (draft (run δ target steps)).joinNames,
      (draft (run δ target steps)).aliases.aliasOf? type = some name) ↔
        type ∈ joinedTypes δ target steps := by
  have reached := run_reaches (δ := δ) target steps
  have linked := run_joins (δ := δ) target steps succeeded
  constructor
  · rintro ⟨name, named, known⟩
    obtain ⟨participant, member, rfl, rfl⟩ := (Aliases.alias_of_iff _ reached type name).mp known
    exact (Draft.linked_name_iff _ _ reached linked participant member).mp named
  · intro joined
    obtain ⟨participant, member, same, named⟩ := linked.present type joined
    exact ⟨participant.aliasName, named,
      (Aliases.alias_of_iff _ reached type _).mpr ⟨participant, member, same, rfl⟩⟩

end JoiningDraft

instance : JoiningDraft SelectDraft SelectDraft.Step where
  prepares state step own := by
    refine state.own_step_prepared step ?_
    rintro shared rfl
    cases own
  tables query := query.statement.map fun s => [(s.aliasName, s.joins)]
  tables_read query written wrote entry member := by
    obtain ⟨statement, made, rfl⟩ := map_ok_iff.mp wrote
    obtain ⟨target, targeted, same⟩ := bind_ok_iff.mp made
    cases same
    exact ⟨target, targeted, List.mem_singleton.mp member⟩

instance : JoiningDraft DeleteDraft DeleteDraft.Step where
  prepares state step own := by
    cases step with
    | shared other => cases own
    | allowAll allow => exact .same
  tables delete := delete.statement.map fun s => [(s.aliasName, s.joins)]
  tables_read delete written wrote entry member := by
    obtain ⟨statement, made, rfl⟩ := map_ok_iff.mp wrote
    obtain ⟨target, targeted, rest⟩ := bind_ok_iff.mp made
    split at rest
    · cases rest
    · cases rest
      exact ⟨target, targeted, List.mem_singleton.mp member⟩

instance : JoiningDraft UpdateDraft UpdateDraft.Step where
  prepares state step own := by
    cases step with
    | shared other => cases own
    | addRows rows => exact .same
    | additional columns => exact .same
  tables update := update.statements.map (List.map fun s => (s.aliasName, s.joins))
  tables_read update written wrote entry member := by
    obtain ⟨statements, made, rfl⟩ := map_ok_iff.mp wrote
    obtain ⟨target, more, targeted, _, _, _, each⟩ := update.statements_ok statements made
    obtain ⟨statement, inside, rfl⟩ := List.mem_map.mp member
    obtain ⟨record, _, ofRecord⟩ := forall₂_member each inside
    obtain ⟨own, keyTests, _, _, rfl⟩ := update.row_statement_ok target more record _ ofRecord
    exact ⟨target, targeted, rfl⟩

instance : JoiningDraft JoinedUpdateDraft JoinedUpdateDraft.Step where
  prepares state step own := by
    refine state.own_step_prepared step ?_
    rintro shared rfl
    cases own
  tables update := update.statement.map fun s => [(s.aliasName, s.joins)]
  tables_read update written wrote entry member := by
    obtain ⟨statement, made, rfl⟩ := map_ok_iff.mp wrote
    obtain ⟨target, more, targeted, _, _, rfl⟩ := update.statement_ok statement made
    exact ⟨target, targeted, List.mem_singleton.mp member⟩

namespace JoiningDraft

open FilteredDraft

variable {δ σ : Type} [JoiningDraft δ σ]

/-- The aliases of a statement are distinct just when the types that were joined are distinct and
the target is none of them. -/
theorem aliases_distinct_iff (target : EntityType) (steps : List σ)
    (succeeded : (draft (run δ target steps)).fault = none) (written : List (String × List Join))
    (wrote : tables (run δ target steps) = .ok written) :
    ∀ entry ∈ written, (entry.1 :: entry.2.map (·.aliasName)).Nodup ↔
      (target.name :: joinedTypes δ target steps).Nodup := by
  intro entry member
  obtain ⟨participant, targeted, rfl⟩ := tables_read _ written wrote entry member
  obtain ⟨table, _, known⟩ := run_target (δ := δ) target steps succeeded
  obtain rfl : participant = ⟨target.name, table, Aliases.numbered 0, true⟩ :=
    Except.ok.inj (targeted.symm.trans known)
  have linked := run_joins (δ := δ) target steps succeeded
  have repeats := Draft.linked_name_iff _ _ (run_reaches target steps) linked _
    (Aliases.target_member _ _ known)
  rw [List.nodup_cons, List.nodup_cons]
  exact and_congr (not_congr repeats) linked.distinct

def invoiced : List SelectDraft.Step :=
  let person : EntityType := ⟨"Person", Sample.person⟩
  let order : EntityType := ⟨"Order", Sample.order⟩
  let ofPerson := Expr.binary .equal (.column "Person" "id") (.column "Order" "person_id")
  [.shared (.join person order ofPerson .inner),
    .shared (.joinTable "Invoices" "j1.[OrderId] = t1.[Id]" .left)]

theorem invoiced_distinct_iff :
    (draft (run SelectDraft ⟨"Person", Sample.person⟩ invoiced)).fault = none ∧
      ∃ written, tables (run SelectDraft ⟨"Person", Sample.person⟩ invoiced) = .ok written ∧
        ∀ entry ∈ written, (entry.1 :: entry.2.map (·.aliasName)).Nodup ↔
          ("Person" :: joinedTypes SelectDraft ⟨"Person", Sample.person⟩ invoiced).Nodup :=
  ⟨rfl, _, rfl, aliases_distinct_iff ⟨"Person", Sample.person⟩ invoiced rfl _ rfl⟩

def joinedTwice : List SelectDraft.Step :=
  let person : EntityType := ⟨"Person", Sample.person⟩
  let order : EntityType := ⟨"Order", Sample.order⟩
  let ofPerson := Expr.binary .equal (.column "Person" "id") (.column "Order" "person_id")
  [.shared (.join person order ofPerson .inner), .shared (.join person order ofPerson .inner)]

/-- Both joins have one alias, and nothing fails. -/
theorem joined_twice_collides :
    (draft (run SelectDraft ⟨"Person", Sample.person⟩ joinedTwice)).fault = none ∧
      ∃ written, tables (run SelectDraft ⟨"Person", Sample.person⟩ joinedTwice) = .ok written ∧
        ∃ entry ∈ written, ¬ (entry.1 :: entry.2.map (·.aliasName)).Nodup :=
  ⟨rfl, _, rfl, _, List.mem_cons_self, by decide⟩

end JoiningDraft

end MappedSql
