import MappedSql.Proofs.InsertText
import MappedSql.Proofs.KeptTargets

/-!
The values of the additional columns of an insert, injected into its query. They go behind what the
query projects alone; one whose text is injected already, ASCII case aside, is left out, although
the insert lists its name.
-/

namespace MappedSql

open Outcome

def SelectStatement.projecting (s : SelectStatement) (more : List String) : SelectStatement :=
  { s with projection := s.projection ++ more }

namespace SelectDraft

def injecting (query : SelectDraft) (more : List String) : SelectDraft :=
  { query with injected := query.injected ++ more }

theorem injecting_statement (query : SelectDraft) (more : List String) :
    (query.injecting more).statement =
      query.statement.map fun alone => alone.projecting more := by
  have behind : (query.injecting more).projection = query.projection ++ more :=
    (List.append_assoc _ _ _).symm
  have same : (query.injecting more).draft = query.draft := rfl
  rw [statement, statement, same, behind]
  cases query.draft.aliases.target <;> rfl

/-- Those of the texts that are appended: each that is not there yet, ASCII case aside. -/
def appended (present : List String) : List String → List String
  | [] => []
  | text :: rest =>
      if present.any (Text.sameIgnoringCase · text) then appended present rest
      else text :: appended (present ++ [text]) rest

def AllNew (present texts : List String) : Prop :=
  (∀ text ∈ texts, ∀ earlier ∈ present, Text.sameIgnoringCase earlier text = false) ∧
    texts.Pairwise fun earlier later => Text.sameIgnoringCase earlier later = false

theorem push_columns_appended (present texts : List String) :
    pushColumns present texts = present ++ appended present texts := by
  unfold pushColumns
  induction texts generalizing present with
  | nil => simp [appended]
  | cons text rest ih =>
      rw [List.foldl_cons, ih, pushColumn, appended]
      split_ifs
      · rfl
      · rw [List.append_assoc]
        rfl

theorem appended_sublist (present texts : List String) :
    (appended present texts).Sublist texts := by
  induction texts generalizing present with
  | nil => exact .slnil
  | cons text rest ih =>
      unfold appended
      split_ifs
      · exact (ih present).cons text
      · exact (ih _).cons_cons text

theorem all_new_cons (present rest : List String) (text : String) :
    AllNew present (text :: rest) ↔
      present.any (Text.sameIgnoringCase · text) = false ∧ AllNew (present ++ [text]) rest := by
  simp only [AllNew, List.forall_mem_cons, List.pairwise_cons, List.any_eq_false, Bool.not_eq_true,
    List.mem_append, List.mem_singleton, or_imp, forall_and, forall_eq]
  tauto

theorem appended_all_iff (present texts : List String) :
    appended present texts = texts ↔ AllNew present texts := by
  induction texts generalizing present with
  | nil => simp [appended, AllNew]
  | cons text rest ih =>
      rw [all_new_cons, appended]
      split_ifs with there
      -- With one text left out there are too few to be all of them.
      · have shorter := (appended_sublist present rest).length_le
        constructor
        · intro all
          rw [all, List.length_cons] at shorter
          omega
        · rintro ⟨absent, _⟩
          rw [there] at absent
          cases absent
      · rw [List.cons_inj_right, ih]
        simp [there]

theorem inject_all_ok (present : List String) (columns : NamedList Value) (texts : List String)
    (written : columns.mapM injection = .ok texts) :
    injectAll present columns = (pushColumns present texts, none) := by
  rw [inject_all, results_before_ok written, written]
  rfl

theorem inject_ok (query : SelectDraft) (columns : NamedList Value)
    (valid : (query.apply (.inject columns)).draft.fault = none) :
    ∃ texts, columns.mapM injection = .ok texts ∧
      query.apply (.inject columns) =
        query.injecting (appended query.injected texts) := by
  have refused := query.own_step_fault (.inject columns) (fun _ => nofun)
  rw [valid] at refused
  obtain ⟨fresh, written⟩ := Option.or_eq_none_iff.mp refused.symm
  change failure? (columns.mapM injection) = none at written
  cases made : columns.mapM injection with
  | error fault =>
      rw [made] at written
      cases written
  | ok texts =>
      refine ⟨texts, rfl, ?_⟩
      rw [apply, attempt, fresh, inject, inject_all_ok _ _ texts made, push_columns_appended]
      rfl

end SelectDraft

namespace InsertTarget

def Step.columns : Step → List (String × Value)
  | .additional columns => columns
  | .configure _ => []

def givenColumns (steps : List Step) : NamedList Value :=
  NamedList.putAll [] (steps.flatMap Step.columns)

theorem steps_given (insert : InsertTarget) (steps : List Step) :
    (steps.foldl apply insert).additional.entries =
      insert.additional.entries.putAll (steps.flatMap Step.columns) := by
  refine NamedList.put_all_steps (·.additional.entries) apply Step.columns ?_ insert steps
  intro state step
  cases step with
  | configure settings => rfl
  | additional columns => rfl

end InsertTarget

namespace InsertSelectDraft

open InsertTarget SelectDraft

theorem filled_ok (insert : InsertSelectDraft)
    (valid : insert.filledQuery.draft.fault = none) :
    ∃ values, insert.additional.entries.mapM injection = .ok values ∧
      insert.filledQuery = insert.query.injecting (appended insert.query.injected values) := by
  unfold filledQuery at valid ⊢
  split_ifs at valid ⊢ with bare
  · rw [List.isEmpty_iff.mp bare]
    exact ⟨[], rfl, by simp [injecting, appended]⟩
  · exact inject_ok insert.query insert.additional.entries valid

theorem statement_ok (insert : InsertSelectDraft) (statement : InsertSelectStatement)
    (written : insert.statement = .ok statement) :
    ∃ target alone values, insert.draft.aliases.target = .ok target ∧
      insert.query.statement = .ok alone ∧
      insert.additional.entries.mapM injection = .ok values ∧
      statement = ⟨target.table.qualifiedName,
        (InsertDraft.listed target.table insert.additional.entries).map Identifier.bracketed,
        alone.projecting (appended insert.query.injected values)⟩ := by
  obtain ⟨target, targeted, filled⟩ := bind_ok_iff.mp written
  obtain ⟨columns, named, rest⟩ := bind_ok_iff.mp filled
  obtain ⟨_, valid, rest⟩ := bind_ok_iff.mp rest
  obtain ⟨source, stated, same⟩ := bind_ok_iff.mp rest
  obtain ⟨_, rfl⟩ := InsertDraft.names_ok target.table insert.additional columns named
  obtain ⟨values, made, grown⟩ :=
    insert.filled_ok ((StatementDraft.validate_ok_iff insert.filledQuery).mp valid)
  rw [grown, injecting_statement] at stated
  obtain ⟨alone, own, rfl⟩ := map_ok_iff.mp stated
  exact ⟨target, alone, values, targeted, own, made, (pure_ok_iff.mp same).symm⟩

/-- The query of an insert that is built projects what it projects alone, and behind that the
injections of the additional columns that are new to it. There is one for each additional column, in
the order in which they are listed, just when no injection is the same as one before it, ASCII case
aside. -/
theorem values_injected_iff (target : EntityType) (before after : List InsertTarget.Step)
    (query : SelectDraft) (text : String)
    (built : StatementDraft.build (run target before query after) = .ok text) :
    ∃ table alone values, Table.ofMapping target.mapping = .ok table ∧
      query.statement = .ok alone ∧ StatementDraft.build query = .ok alone.render ∧
      (givenColumns (before ++ after)).mapM injection = .ok values ∧
      text = InsertSelectStatement.render ⟨table.qualifiedName,
        (InsertDraft.listed table (givenColumns (before ++ after))).map Identifier.bracketed,
        alone.projecting (appended query.injected values)⟩ ∧
      (appended query.injected values).Sublist values ∧
      (appended query.injected values = values ↔ AllNew query.injected values) := by
  obtain ⟨fresh, written⟩ := (StatementDraft.build_ok_iff _ _).mp built
  obtain ⟨statement, made, rfl⟩ := map_ok_iff.mp written
  obtain ⟨bound, sameQuery⟩ := run_parts target before query after
  obtain ⟨unfailed, queryFresh⟩ := Option.or_eq_none_iff.mp fresh
  obtain ⟨participant, alone, values, targeted, own, injections, rfl⟩ :=
    (run target before query after).statement_ok statement made
  have given : (run target before query after).additional.entries =
      givenColumns (before ++ after) := by
    rw [bound]
    exact steps_given (.start target) (before ++ after)
  rw [bound] at unfailed targeted
  rw [sameQuery] at queryFresh own
  rw [given] at injections
  obtain ⟨table, mapped⟩ :=
    RefusingDraft.fresh_mapped (δ := InsertTarget) target (before ++ after) unfailed
  have kept := RefusingDraft.target_kept (δ := InsertTarget) target (before ++ after) table mapped
  obtain rfl : participant = ⟨target.name, table, "t0", true⟩ :=
    Except.ok.inj (targeted.symm.trans kept)
  have builtAlone : StatementDraft.build query = .ok alone.render :=
    (StatementDraft.build_ok_iff _ _).mpr ⟨queryFresh, map_ok_iff.mpr ⟨alone, own, rfl⟩⟩
  refine ⟨table, alone, values, mapped, own, builtAlone, injections, ?_, appended_sublist _ _,
    appended_all_iff _ _⟩
  rw [given, sameQuery]

def tagged : SelectDraft :=
  .run ⟨"Person", Sample.person⟩
    [.project ⟨[⟨"Person", Sample.person⟩], .column "Person" "id"⟩, .inject [("Tag", .text "new")]]

def taggedInsert (columns : List (String × Value)) : InsertSelectDraft :=
  run ⟨"Keyless", Sample.keyless⟩ [.additional columns] tagged []

/-- Of a tag and a note the note is injected. -/
theorem note_injected :
    ∃ text alone values,
      StatementDraft.build (taggedInsert [("Tag", .text "NEW"), ("Note", .null)]) = .ok text ∧
      tagged.statement = .ok alone ∧ values = ["'NEW' AS [Tag]", "NULL AS [Note]"] ∧
      text = InsertSelectStatement.render ⟨"[log].[Keyless]", ["[A]", "[B]", "[Tag]", "[Note]"],
        alone.projecting (appended tagged.injected values)⟩ ∧
      (appended tagged.injected values).Sublist values ∧
      (appended tagged.injected values = values ↔ AllNew tagged.injected values) := by
  obtain ⟨table, alone, values, mapped, own, _, injections, whole, part, all⟩ :=
    values_injected_iff ⟨"Keyless", Sample.keyless⟩
      [.additional [("Tag", .text "NEW"), ("Note", .null)]] [] tagged _ rfl
  obtain rfl := Except.ok.inj mapped
  obtain rfl := Except.ok.inj injections
  exact ⟨_, alone, _, rfl, own, rfl, whole, part, all⟩

/-- A tag that the query injects itself is listed, and no value is appended for it. -/
theorem tag_without_value :
    StatementDraft.build tagged =
        .ok "SELECT t0.[Id],'new' AS [Tag] FROM [dbo].[Person] t0 WITH (NOLOCK)" ∧
      StatementDraft.build (taggedInsert [("Tag", .text "new")]) =
        .ok ("INSERT INTO [log].[Keyless] ( [A],[B],[Tag] ) " ++
          "SELECT t0.[Id],'new' AS [Tag] FROM [dbo].[Person] t0 WITH (NOLOCK)") ∧
      ¬ ∃ statement alone value, (taggedInsert [("Tag", .text "new")]).statement = .ok statement ∧
        tagged.statement = .ok alone ∧ statement.query = alone.projecting [value] := by
  refine ⟨rfl, rfl, ?_⟩
  rintro ⟨statement, alone, value, made, own, longer⟩
  obtain rfl := Except.ok.inj made
  obtain rfl := Except.ok.inj own
  cases congrArg SelectStatement.projection longer

end InsertSelectDraft

end MappedSql
