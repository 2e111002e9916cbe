import MappedSql.Proofs.RefusedSteps
import MappedSql.Proofs.TableSpellings
import MappedSql.Sample

/-!
Joins by the name of a table. Of each draft that joins, a statement is its clauses with the joins
between them, so one more join is one more clause in every statement. Two spellings of one table are
joined alike when a participant has it. A table that no participant has is written as it is named by
the spelling with a point, and with its brackets quoted once more by the other one.
-/

namespace MappedSql

open Identifier Outcome Statement

structure Surroundings where
  before : List String
  behind : List String

namespace Surroundings

def render (around : Surroundings) (joins : List String) : String :=
  clauses (around.before ++ joins ++ around.behind)

def renderAll (each : List Surroundings) (joins : List String) : String :=
  ";\n".intercalate (each.map (·.render joins))

theorem render_single (around : Surroundings) (joins : List String) :
    renderAll [around] joins = around.render joins := by
  simp [renderAll]

variable (joins : List String) (first second : String)

theorem render_length (around : Surroundings) :
    (around.render (joins ++ [first])).length + second.length =
      (around.render (joins ++ [second])).length + first.length := by
  simp only [render, clauses, joined_length, List.map_append, List.sum_append_nat, List.map_cons,
    List.map_nil, List.sum_cons, List.sum_nil, List.length_append, List.length_singleton]
  omega

theorem render_all_length (each : List Surroundings) :
    (renderAll each (joins ++ [first])).length + each.length * second.length =
      (renderAll each (joins ++ [second])).length + each.length * first.length := by
  have sums : ((each.map (·.render (joins ++ [first]))).map String.length).sum +
        each.length * second.length =
      ((each.map (·.render (joins ++ [second]))).map String.length).sum +
        each.length * first.length := by
    induction each with
    | nil => simp
    | cons around rest ih =>
        have one := around.render_length joins first second
        simp only [List.map_cons, List.sum_cons, List.length_cons, Nat.succ_mul]
        omega
  simp only [renderAll, joined_length, List.length_map]
  omega

-- The last join alone makes the difference, in one statement and in many.
theorem render_all_same (each : List Surroundings) (present : each ≠ [])
    (same : renderAll each (joins ++ [first]) = renderAll each (joins ++ [second])) :
    first.length = second.length := by
  have lengths := render_all_length joins first second each
  rw [same] at lengths
  exact (Nat.eq_of_mul_eq_mul_left (List.length_pos_iff.mpr present)
    (Nat.add_left_cancel lengths)).symm

end Surroundings

open Surroundings

def SelectStatement.around (s : SelectStatement) : Surroundings where
  before := ["SELECT"] ++ (if s.distinct then ["DISTINCT"] else []) ++ limitClause s.limit
    ++ [commas s.projection, "FROM", s.table ++ " " ++ s.aliasName ++ s.hint]
  behind := (if s.filter.isEmpty then [] else ["WHERE", s.filter])
    ++ (if s.order.isEmpty then [] else ["ORDER BY", commas s.order])

theorem SelectStatement.render_around (s : SelectStatement) :
    s.render = s.around.render (s.joins.map (Join.render s.hint)) := by
  simp [render, Surroundings.render, around]

def DeleteStatement.around (s : DeleteStatement) : Surroundings where
  before := ["DELETE " ++ s.aliasName, "FROM " ++ s.table ++ " " ++ s.aliasName]
  behind := if s.filter.isEmpty then [] else ["WHERE " ++ s.filter]

theorem DeleteStatement.render_around (s : DeleteStatement) :
    s.render = s.around.render (s.joins.map (Join.render s.hint)) :=
  rfl

def UpdateStatement.around (s : UpdateStatement) : Surroundings where
  before := ["UPDATE " ++ s.aliasName ++ " SET " ++ commas s.assignments,
    "FROM " ++ s.table ++ " " ++ s.aliasName]
  behind := whenAny s.tests ("WHERE " ++ conjunction s.tests)

theorem UpdateStatement.render_around (s : UpdateStatement) :
    s.render = s.around.render (s.joins.map (Join.render s.hint)) :=
  rfl

/-! All drafts that join write a list of statements around one list of joins, and a raw join
changes nothing around them. The four drafts differ in what is around, so this is said of them as a
class. -/

namespace Draft

def joinTexts (draft : Draft) : List String :=
  draft.joins.map (Join.render draft.settings.hintSuffix)

/-- A raw join, or its failure, changes nothing else. -/
theorem join_table_keeps (draft : Draft) (table condition : String) (kind : JoinKind) :
    ∃ joins fault, draft.apply (.joinTable table condition kind) =
      { draft with joins := joins, fault := fault } := by
  rw [apply, attempt]
  split_ifs
  · exact ⟨_, _, rfl⟩
  · unfold addTableJoin
    split_ifs
    · exact ⟨_, _, rfl⟩
    · cases draft.resolveTable table <;> exact ⟨_, _, rfl⟩

end Draft

/-- A joining draft whose statements have the joins between their other clauses. -/
class SurroundedDraft (δ : Type) (σ : outParam Type) [StatementDraft δ] extends
    JoiningDraft δ σ where
  fault_read (state : δ) : StatementDraft.fault? state = (draft state).fault
  surroundings : δ → Except Fault (List Surroundings)
  surroundings_present (state : δ) (each : List Surroundings) :
    surroundings state = .ok each → each ≠ []
  surroundings_kept (state : δ) (step : σ) (table condition : String) (kind : JoinKind) :
    shared? step = some (.joinTable table condition kind) →
      surroundings (apply state step) = surroundings state
  written (state : δ) : StatementDraft.write state =
    (surroundings state).map fun each => renderAll each (draft state).joinTexts

-- A draft with one statement writes it, or refuses, around the joins of the statement.
theorem Surroundings.render_all_single {ε α : Type} (statement : Except ε α) (render : α → String)
    (around : α → Surroundings) (joins : List String)
    (rendered : ∀ s, statement = .ok s → render s = (around s).render joins) :
    statement.map render = (statement.map fun s => [around s]).map (renderAll · joins) := by
  cases statement with
  | error fault => rfl
  | ok s => exact congrArg Except.ok ((rendered s rfl).trans ((around s).render_single joins).symm)

instance : SurroundedDraft SelectDraft SelectDraft.Step where
  fault_read _ := rfl
  surroundings query := query.statement.map fun s => [s.around]
  surroundings_present query each wrote := by
    obtain ⟨_, _, rfl⟩ := map_ok_iff.mp wrote
    exact List.cons_ne_nil _ _
  surroundings_kept query step table condition kind shared := by
    cases step with
    | shared step =>
        obtain rfl := Option.some.inj shared
        obtain ⟨joins, fault, kept⟩ := query.draft.join_table_keeps table condition kind
        change (query.apply (.shared _)).statement.map _ = _
        rw [SelectDraft.apply, kept]
        simp only [SelectDraft.statement]
        cases query.draft.aliases.target <;> rfl
    | _ => cases shared
  written query := by
    refine render_all_single query.statement _ _ _ fun s made => ?_
    obtain ⟨target, _, same⟩ := bind_ok_iff.mp made
    obtain rfl := pure_ok_iff.mp same
    exact SelectStatement.render_around _

instance : SurroundedDraft DeleteDraft DeleteDraft.Step where
  fault_read _ := rfl
  surroundings delete := delete.statement.map fun s => [s.around]
  surroundings_present delete each wrote := by
    obtain ⟨_, _, rfl⟩ := map_ok_iff.mp wrote
    exact List.cons_ne_nil _ _
  surroundings_kept delete step table condition kind shared := by
    cases step with
    | shared step =>
        obtain rfl := Option.some.inj shared
        obtain ⟨joins, fault, kept⟩ := delete.draft.join_table_keeps table condition kind
        change (delete.apply (.shared _)).statement.map _ = _
        rw [DeleteDraft.apply, kept]
        simp only [DeleteDraft.statement]
        cases delete.draft.aliases.target with
        | error fault => rfl
        | ok target =>
            change Except.map _ (if _ then _ else _) = Except.map _ (if _ then _ else _)
            split_ifs <;> rfl
    | allowAll allow => cases shared
  written delete := by
    refine render_all_single delete.statement _ _ _ fun s made => ?_
    obtain ⟨target, _, rest⟩ := bind_ok_iff.mp made
    split at rest
    · cases rest
    · obtain rfl := pure_ok_iff.mp rest
      rfl

instance : SurroundedDraft JoinedUpdateDraft JoinedUpdateDraft.Step where
  fault_read _ := rfl
  surroundings update := update.statement.map fun s => [s.around]
  surroundings_present update each wrote := by
    obtain ⟨_, _, rfl⟩ := map_ok_iff.mp wrote
    exact List.cons_ne_nil _ _
  surroundings_kept update step table condition kind shared := by
    cases step with
    | shared step =>
        obtain rfl := Option.some.inj shared
        obtain ⟨joins, fault, kept⟩ := update.draft.join_table_keeps table condition kind
        change (update.apply (.shared _)).statement.map _ = _
        rw [JoinedUpdateDraft.apply, kept]
        simp only [JoinedUpdateDraft.statement]
        cases update.draft.aliases.target with
        | error fault => rfl
        | ok target =>
            cases update.additional.assignments with
            | error fault => rfl
            | ok more =>
                change Except.map _ (if _ then _ else _) = Except.map _ (if _ then _ else _)
                split_ifs <;> rfl
    | assign target source pairs | additional columns => cases shared
  written update := by
    refine render_all_single update.statement _ _ _ fun s made => ?_
    obtain ⟨target, more, _, _, _, rfl⟩ := update.statement_ok s made
    rfl

theorem UpdateDraft.row_around (update : UpdateDraft) (joins : List Join) (fault : Option Fault)
    (target : Participant) (more : List String) (record : Record) :
    (rowStatement { update with draft := { update.draft with joins := joins, fault := fault } }
        target more record).map UpdateStatement.around =
      (update.rowStatement target more record).map UpdateStatement.around := by
  simp only [rowStatement]
  cases target.table.updatable.mapM (assignment record) with
  | error fault => rfl
  | ok own => cases target.table.keys.mapM (keyTest target record) <;> rfl

instance : SurroundedDraft UpdateDraft UpdateDraft.Step where
  fault_read _ := rfl
  surroundings update := update.statements.map (List.map UpdateStatement.around)
  surroundings_present update each wrote := by
    obtain ⟨statements, made, rfl⟩ := map_ok_iff.mp wrote
    obtain ⟨target, more, _, _, rows, _, every⟩ := update.statements_ok statements made
    rintro nothing
    have lengths := every.length_eq
    rw [List.map_eq_nil_iff.mp nothing] at lengths
    exact rows (List.eq_nil_of_length_eq_zero lengths)
  surroundings_kept update step table condition kind shared := by
    cases step with
    | shared step =>
        obtain rfl := Option.some.inj shared
        obtain ⟨joins, fault, kept⟩ := update.draft.join_table_keeps table condition kind
        change (update.apply (.shared _)).statements.map _ = _
        rw [UpdateDraft.apply, kept]
        simp only [UpdateDraft.statements]
        cases update.draft.aliases.target with
        | error fault => rfl
        | ok target =>
            change Except.map _ (if _ then _ else _) = Except.map _ (if _ then _ else _)
            split_ifs with empty
            · rfl
            · cases update.additional.assignments with
              | error fault => rfl
              | ok more =>
                  change Except.map _ (if _ then _ else _) = Except.map _ (if _ then _ else _)
                  split_ifs with nothing
                  · rfl
                  · simp only [mapM_map, update.row_around]
    | addRows rows | additional columns => cases shared
  written update := by
    change update.statements >>= _ = _
    cases made : update.statements with
    | error fault => rfl
    | ok statements =>
        refine congrArg Except.ok (congrArg ";\n".intercalate ?_)
        rw [List.map_map]
        refine List.map_congr_left fun s member => ?_
        obtain ⟨target, more, _, _, _, _, every⟩ := update.statements_ok statements made
        obtain ⟨record, _, ofRecord⟩ := forall₂_member every member
        obtain ⟨own, keyTests, _, _, rfl⟩ := update.row_statement_ok target more record _ ofRecord
        rfl

namespace SurroundedDraft

open FilteredDraft

variable {δ σ : Type} [StatementDraft δ] [SurroundedDraft δ σ]

def writtenWith (state : δ) (join : Join) : Except Fault String :=
  (surroundings state).map fun each =>
    renderAll each
      ((draft state).joinTexts ++ [join.render (draft state).settings.hintSuffix])

section Step

variable (state : δ) (step : σ) (spelled condition : String) (kind : JoinKind)
  (shared : shared? δ step = some (.joinTable spelled condition kind))

include shared

theorem join_built (table aliasName : String) (fresh : (draft state).fault = none)
    (stated : Text.isBlank condition = false)
    (resolved : (draft state).resolveTable spelled = .ok (table, aliasName)) :
    StatementDraft.build (apply state step) =
      writtenWith state ⟨kind, table, aliasName, condition⟩ := by
  have joined : draft (apply state step) = { draft state with
      joins := (draft state).joins ++ [⟨kind, table, aliasName, condition⟩] } := by
    rw [applies state step _ shared, Draft.apply, Draft.attempt_fresh _ _ fresh, Draft.addTableJoin,
      stated, resolved]
    rfl
  have valid : StatementDraft.fault? (apply state step) = none := by
    rw [fault_read, joined]
    exact fresh
  rw [StatementDraft.build_written _ valid, written, surroundings_kept state step _ _ _ shared,
    joined]
  simp only [Draft.joinTexts, List.map_append, List.map_cons, List.map_nil]
  rfl

theorem join_refused (refused : (draft state).fault ≠ none ∨ Text.isBlank condition = true) :
    (StatementDraft.build (apply state step)).toOption = none := by
  obtain ⟨fault, failed⟩ : ∃ fault, (draft (apply state step)).fault = some fault := by
    rw [applies state step _ shared, Draft.apply, Draft.attempt]
    split_ifs with before
    · exact Option.isSome_iff_exists.mp before
    · rcases refused with failed | blank
      · exact absurd (Option.not_isSome_iff_eq_none.mp before) failed
      · exact ⟨.joinWithoutCondition spelled, by rw [Draft.addTableJoin, if_pos blank]; rfl⟩
  rw [StatementDraft.build_refused _ ((fault_read _).trans failed)]
  rfl

end Step

-- Statements that differ in the table of the last join have tables of one length.
theorem written_with_same (state : δ) (condition : String) (kind : JoinKind)
    (table other aliasName : String)
    (same : (writtenWith state ⟨kind, table, aliasName, condition⟩).toOption =
      (writtenWith state ⟨kind, other, aliasName, condition⟩).toOption) :
    (writtenWith state ⟨kind, table, aliasName, condition⟩).toOption = none ∨
      table.length = other.length := by
  unfold writtenWith at same ⊢
  cases wrote : surroundings state with
  | error fault => exact .inl rfl
  | ok each =>
      rw [wrote] at same
      have lengths := render_all_same _ _ _ each (surroundings_present state each wrote)
        (Option.some.inj same)
      simp only [Join.render, String.length_append] at lengths
      exact .inr (by omega)

-- No join decides whether something is written.
theorem written_with_fails (state : δ) (join other : Join) :
    (writtenWith state join).toOption = none ↔ (writtenWith state other).toOption = none := by
  unfold writtenWith
  cases surroundings state <;> simp [Except.map, Except.toOption]

-- Of two joins whose tables are one or differ in length the same is written when they are one.
theorem written_with_alike_iff (state : δ) (condition : String) (kind : JoinKind)
    (table other aliasName : String) (known : Prop) (alike : known → other = table)
    (longer : ¬ known → table.length < other.length) :
    (writtenWith state ⟨kind, table, aliasName, condition⟩).toOption =
        (writtenWith state ⟨kind, other, aliasName, condition⟩).toOption ↔
      known ∨ (writtenWith state ⟨kind, table, aliasName, condition⟩).toOption = none := by
  constructor
  · intro same
    rcases written_with_same state _ _ table other aliasName same with neither | lengths
    · exact .inr neither
    · exact .inl (not_not.mp fun unknown => (longer unknown).ne lengths)
  · rintro (known | neither)
    · rw [alike known]
    · rw [neither, (written_with_fails state _ _).mp neither]

/-- Two spellings of a table are joined alike, by any draft, just when a participant has the table,
or nothing is written anyway. With a point, the table is written by its schema and its name, up to
the case of ASCII letters; with brackets, just when a participant has it. -/
theorem spellings_joined_alike_iff (state : δ) (pointed inBrackets : σ)
    (schema name condition : String) (kind : JoinKind)
    (first : shared? δ pointed = some (.joinTable (schema ++ "." ++ name) condition kind))
    (second : shared? δ inBrackets =
      some (.joinTable ("[" ++ schema ++ "].[" ++ name ++ "]") condition kind))
    (plainSchema : IsPlain schema) (plainName : IsPlain name)
    (usableSchema : check schema = .ok ()) (usableName : check name = .ok ())
    (plain : ∀ participant ∈ (draft state).aliases.participants, IsPlain participant.table.name) :
    let known := ∃ participant ∈ (draft state).aliases.participants,
      participant.table.isCalled schema name = true
    let one := StatementDraft.build (apply state pointed)
    let other := StatementDraft.build (apply state inBrackets)
    (one.toOption = other.toOption ↔ known ∨ one.toOption = none) ∧
      (one.toOption = none ↔ other.toOption = none) ∧
      ((draft state).fault = none → Text.isBlank condition = false → ∃ table spelled aliasName,
        one = writtenWith state ⟨kind, table, aliasName, condition⟩ ∧
        other = writtenWith state ⟨kind, spelled, aliasName, condition⟩ ∧
        sameName table (bracketedPair schema name) = true ∧
        (sameName spelled (bracketedPair schema name) = true ↔ known)) := by
  intro known one other
  have decided : ((draft state).aliases.byTable? schema name).isSome = true ↔ known :=
    Aliases.by_table_some_iff schema name _
  rw [pair_plain schema name plainSchema plainName] at second
  obtain ⟨table, spelled, aliasName, resolved, respelled, rendered, bracketed, alike, longer⟩ :=
    (draft state).spellings_resolved schema name plainSchema plainName usableSchema usableName plain
  rw [decided] at bracketed alike longer
  by_cases ready : (draft state).fault = none ∧ Text.isBlank condition = false
  · have wrote : one = writtenWith state ⟨kind, table, aliasName, condition⟩ :=
      join_built state pointed _ _ _ first _ _ ready.1 ready.2 resolved
    have rewrote : other = writtenWith state ⟨kind, spelled, aliasName, condition⟩ :=
      join_built state inBrackets _ _ _ second _ _ ready.1 ready.2 respelled
    rw [wrote, rewrote]
    exact ⟨written_with_alike_iff state _ _ table spelled aliasName known alike longer,
      written_with_fails state _ _,
      fun _ _ => ⟨table, spelled, aliasName, rfl, rfl, rendered, bracketed⟩⟩
  · have refused : (draft state).fault ≠ none ∨ Text.isBlank condition = true :=
      (not_and_or.mp ready).imp_right (Bool.not_eq_false _ ▸ ·)
    have neither : one.toOption = none := join_refused state pointed _ _ _ first refused
    have nor : other.toOption = none := join_refused state inBrackets _ _ _ second refused
    rw [neither, nor]
    exact ⟨iff_of_true rfl (.inr rfl), Iff.rfl, fun fresh stated => absurd ⟨fresh, stated⟩ ready⟩

def withOrders : SelectDraft :=
  SelectDraft.run JoinedUpdateDraft.persons
    [.shared (.join JoinedUpdateDraft.persons JoinedUpdateDraft.orders
      (.binary .equal (.column "Person" "id") (.column "Order" "person_id")) .inner)]

/-- The orders once more, in other capitals than they are mapped with. -/
theorem orders_joined_alike :
    (∀ participant ∈ withOrders.draft.aliases.participants, IsPlain participant.table.name) ∧
      (StatementDraft.build
          (withOrders.apply (.shared (.joinTable "SALES.orders" "1=1" .left)))).toOption =
        (StatementDraft.build
          (withOrders.apply (.shared (.joinTable "[SALES].[orders]" "1=1" .left)))).toOption := by
  have plain : ∀ participant ∈ withOrders.draft.aliases.participants,
      IsPlain participant.table.name := by decide +kernel
  have alike := spellings_joined_alike_iff withOrders
    (.shared (.joinTable "SALES.orders" "1=1" .left))
    (.shared (.joinTable "[SALES].[orders]" "1=1" .left)) "SALES" "orders" "1=1" .left rfl rfl
    (by decide) (by decide) rfl rfl plain
  exact ⟨plain, alike.1.mpr (.inl (by decide +kernel))⟩

/-- A table that no participant has: the brackets of its spelling are quoted once more. -/
theorem invoices_bracketed_twice :
    (∀ participant ∈ (SelectDraft.start JoinedUpdateDraft.persons).draft.aliases.participants,
      IsPlain participant.table.name) ∧ IsPlain "ext" ∧ IsPlain "Invoices" ∧
      check "ext" = .ok () ∧ check "Invoices" = .ok () ∧
      StatementDraft.build (SelectDraft.run JoinedUpdateDraft.persons
          [.shared (.joinTable "ext.Invoices" "1=1" .inner)]) =
        .ok ("SELECT * FROM [dbo].[Person] t0 WITH (NOLOCK) " ++
          "INNER JOIN [ext].[Invoices] j0 WITH (NOLOCK) ON 1=1") ∧
      StatementDraft.build (SelectDraft.run JoinedUpdateDraft.persons
          [.shared (.joinTable "[ext].[Invoices]" "1=1" .inner)]) =
        .ok ("SELECT * FROM [dbo].[Person] t0 WITH (NOLOCK) " ++
          "INNER JOIN [[ext]]].[[Invoices]]] j0 WITH (NOLOCK) ON 1=1") :=
  ⟨by decide, by decide, by decide, rfl, rfl, rfl, rfl⟩

end SurroundedDraft

end MappedSql
