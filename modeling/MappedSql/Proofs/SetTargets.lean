import MappedSql.Proofs.Joins
import MappedSql.Proofs.AcceptedMappings
import MappedSql.Proofs.UpdateText

/-!
Which columns an update sets. The targets of a statement are read off its text: the names before the
signs of assignments, between SET and the next clause. A draft sets the columns that updates may
write, and whatever its steps name besides; nobody asks whether that is a key.
-/

namespace MappedSql

open Lexer Cutting Outcome Statement

/-- The name that a token is the target of, before the next one. -/
def target? (depth : Nat) (next : Option Lexeme) : Lexeme → Option String
  | .name letters =>
      if depth = 0 ∧ next = some (.sign ['=']) then some (String.ofList letters) else none
  | _ => none

def targets : Nat → List Lexeme → List String
  | _, [] => []
  | depth, lexeme :: rest =>
      if lexeme = opening then targets (depth + 1) rest
      else if lexeme = closing then targets (depth - 1) rest
      else (target? depth rest.head? lexeme).toList ++ targets depth rest

theorem target_none (depth : Nat) (next : Option Lexeme) (lexeme : Lexeme)
    (noSign : depth = 0 → next ≠ some (.sign ['='])) : target? depth next lexeme = none := by
  cases lexeme with
  | name letters => exact if_neg fun both => noSign both.1 both.2
  | _ => rfl

theorem target_append (depth : Nat) (lexeme : Lexeme) (rest second : List Lexeme)
    (noSign : second.head? ≠ some (.sign ['='])) :
    target? depth (rest ++ second).head? lexeme = target? depth rest.head? lexeme := by
  cases rest with
  | nil =>
      rw [List.nil_append, target_none depth _ lexeme fun _ => noSign,
        target_none depth _ lexeme fun _ => by simp]
  | cons next more => rfl

theorem targets_append (depth middle : Nat) (first second : List Lexeme)
    (level : depthAfter depth first = some middle)
    (noSign : second.head? ≠ some (.sign ['='])) :
    targets depth (first ++ second) = targets depth first ++ targets middle second := by
  induction first generalizing depth with
  | nil =>
      cases level
      rfl
  | cons lexeme rest ih =>
      simp only [depthAfter] at level
      simp only [List.cons_append, targets, target_append depth lexeme rest second noSign]
      split_ifs at level ⊢ with opens closes
      · exact ih (depth + 1) level
      · cases depth with
        | zero => cases level
        | succ outer => exact ih outer level
      · rw [ih depth level, List.append_assoc]

-- Where nothing is assigned outside of brackets there are no targets.
theorem targets_apart (depth : Nat) (lexemes : List Lexeme)
    (apart : Apart clauseTokens depth lexemes) : targets depth lexemes = [] := by
  induction lexemes generalizing depth with
  | nil => rfl
  | cons lexeme rest ih =>
      simp only [Apart] at apart
      simp only [targets]
      split_ifs at apart ⊢ with opens closes
      · exact ih (depth + 1) apart
      · exact ih (depth - 1) apart
      · have unassigned := target_none depth rest.head? lexeme fun zero sign => by
          subst zero
          exact apart_head clauseTokens (.sign ['=']) rest (by decide) sign apart.2 (by decide)
        rw [ih depth apart.2, unassigned]
        rfl

def clauseWords : List (List Char) :=
  ["FROM".toList, "WHERE".toList]

def setList? (statement : String) : Option String :=
  (splitFirst? [spaced "SET".toList] outside statement.toList).bind fun parts =>
    (splitFirst? (clauseWords.map spaced) outside
      (parts.2.drop (spaced "SET".toList).length)).map fun clauses => String.ofList clauses.1

def setTargets (statement : String) : List String :=
  (((setList? statement).bind fun list => tokenize list.toList).map (targets 0)).getD []

example : setTargets "UPDATE t0 SET t0.[A]]] = 'x = [B]',[C] = (1=0) FROM [d].[ SET ] t0" =
    ["A]", "C"] := by decide

def Targeting (name : String) (lexemes : List Lexeme) : Prop :=
  depthAfter 0 lexemes = some 0 ∧ targets 0 lexemes = [name]

theorem assigns_targeting (name text : String) (assigns : Assigns name text) :
    ∃ lexemes, tokenize text.toList = some lexemes ∧ Targeting name lexemes := by
  obtain ⟨qualifier, value, qualified, read, contained, apart⟩ := assigns
  have untargeted := targets_apart 0 value apart
  have level := contained.level 0
  refine ⟨_, read, ?_⟩
  rcases qualified with rfl | ⟨count, rfl⟩
  · constructor
    · simpa [depthAfter, opening, closing] using level
    · simp [targets, target?, untargeted, opening, closing]
  · constructor
    · simpa [depthAfter, opening, closing] using level
    · simp [targets, target?, untargeted, opening, closing]

theorem targets_separated (names : List String) (parts : List (List Lexeme))
    (each : List.Forall₂ Targeting names parts) :
    targets 0 (separated [.sign [',']] parts) = names := by
  induction each with
  | nil => rfl
  | @cons name part names rest first others ih =>
      cases others with
      | nil => exact first.2
      | @cons _ next _ more _ _ =>
          rw [separated, targets_append 0 0 part _ first.1 (by simp), first.2]
          have comma : targets 0 ([Lexeme.sign [',']] ++ separated [.sign [',']] (next :: more)) =
              targets 0 (separated [.sign [',']] (next :: more)) := by
            simp [targets, target?, opening, closing]
          rw [comma, ih]
          rfl

theorem list_targets (names assignments : List String)
    (each : List.Forall₂ Assigns names assignments) :
    ∃ lexemes, tokenize (commas assignments).toList = some lexemes ∧ targets 0 lexemes = names := by
  obtain ⟨parts, read, targeting⟩ : ∃ parts, List.Forall₂
      (fun text lexemes => tokenize text = some lexemes) (assignments.map String.toList) parts ∧
        List.Forall₂ Targeting names parts := by
    induction each with
    | nil => exact ⟨[], .nil, .nil⟩
    | @cons name text names texts assigns _ ih =>
        obtain ⟨lexemes, read, targeting⟩ := assigns_targeting name text assigns
        obtain ⟨parts, others, later⟩ := ih
        exact ⟨lexemes :: parts, .cons read others, .cons targeting later⟩
  refine ⟨separated [.sign [',']] parts, ?_, targets_separated names parts targeting⟩
  rw [commas, commas_separated]
  exact tokenize_separated _ _ read

-- Between SET and the next clause, the targets are the names that are assigned to.
theorem set_targets (before : String) (names assignments : List String) (clause : List Char)
    (isClause : clause ∈ clauseWords) (rest : List Char) (statement : String)
    (text : statement.toList = before.toList ++ (spaced "SET".toList ++
      ((commas assignments).toList ++ (spaced clause ++ rest))))
    (target : Passage [keyword "SET"] before)
    (each : List.Forall₂ Assigns names assignments) : setTargets statement = names := by
  have list : Passage (clauseWords.map .word) (commas assignments) :=
    commas_passage _ (by decide) assignments fun assigned member => by
      obtain ⟨name, _, assigns⟩ := forall₂_member each member
      exact assigns_passage _ (by decide) (by decide) name assigned assigns
  have first := passage_split ["SET".toList] (by decide) "SET".toList List.mem_cons_self before target
    ((commas assignments).toList ++ (spaced clause ++ rest))
  have second := passage_split clauseWords (by decide) clause isClause _ list rest
  obtain ⟨lexemes, read, named⟩ := list_targets names assignments each
  rw [List.map_singleton] at first
  rw [setTargets, setList?, text, first, Option.bind_some, List.drop_left, second, Option.map_some,
    Option.bind_some, String.ofList_toList, read, Option.map_some, named, Option.getD_some]

theorem UpdateStatement.render_set (s : UpdateStatement) : ∃ rest,
    s.render = "UPDATE " ++ s.aliasName ++ " SET " ++ commas s.assignments ++ " FROM " ++ rest := by
  refine ⟨clauses ((s.table ++ " " ++ s.aliasName) :: (s.joins.map (Join.render s.hint) ++
    whenAny s.tests ("WHERE " ++ conjunction s.tests))), ?_⟩
  have split : " FROM " = " " ++ "FROM " := rfl
  simp only [render, clauses, List.cons_append, List.nil_append, String.intercalate_cons_cons,
    String.append_assoc, String.intercalate_cons_append, split]

theorem UpdateStatement.targets_render (s : UpdateStatement) (count : Nat)
    (numbered : s.aliasName = Aliases.numbered count) (names : List String)
    (each : List.Forall₂ Assigns names s.assignments) : setTargets s.render = names := by
  obtain ⟨rest, rendered⟩ := s.render_set
  have before : Passage [keyword "SET"] ("UPDATE " ++ s.aliasName) := by
    rw [numbered]
    exact passage_behind _ "UPDATE " _
      (filler_of_read _ _ [keyword "UPDATE"] rfl (by decide) (by decide))
      (alias_passage _ (by decide) count)
  refine set_targets ("UPDATE " ++ s.aliasName) names s.assignments "FROM".toList
    List.mem_cons_self rest.toList s.render ?_ before each
  rw [rendered]
  simp only [String.toList_append, List.append_assoc]
  rfl

theorem Script.targets_text (schema name : String) (assignments tests names : List String)
    (each : List.Forall₂ Assigns names assignments) :
    setTargets (updateText (Identifier.bracketedPair schema name) assignments tests) = names := by
  have before : Passage [keyword "SET"] ("UPDATE " ++ Identifier.bracketedPair schema name) :=
    passage_behind _ "UPDATE " _
      (filler_of_read _ _ [keyword "UPDATE"] rfl (by decide) (by decide))
      (table_passage _ (by decide) schema name)
  refine set_targets _ names assignments "WHERE".toList (by decide)
    (conjunction tests ++ " ;").toList _ ?_ before each
  simp only [updateText, String.toList_append, List.append_assoc]
  rfl

/-! So far one list of assignments was read. The list of a draft comes from its steps: the names of
their columns in order, and behind them those of the additional columns. -/

theorem AdditionalColumns.assignments_assign (columns : AdditionalColumns) (texts : List String)
    (written : columns.assignments = .ok texts) :
    List.Forall₂ Assigns (columns.entries.map Prod.fst) texts :=
  List.forall₂_map_left_iff.mpr ((mapM_ok written).imp fun entry text made =>
    assignment_assigns entry text made)

theorem UpdateDraft.assignments_assign (record : Record) (columns : List Column)
    (texts : List String) (written : columns.mapM (assignment record) = .ok texts) :
    List.Forall₂ Assigns (columns.map (·.name)) texts :=
  List.forall₂_map_left_iff.mpr ((mapM_ok written).imp fun column text made =>
    assignment_assigns record column text made)

namespace JoinedUpdateDraft

def assigned (update : JoinedUpdateDraft) : Step → List String
  | .assign _ _ pairs => pairs.filterMap fun pair =>
      (pair.1.toColumn update.draft.aliases).toOption.map (·.column.name)
  | _ => []

def assignedFrom (update : JoinedUpdateDraft) : List Step → List String
  | [] => []
  | step :: rest => update.assigned step ++ assignedFrom (update.apply step) rest

theorem assign_all_assigns (aliases : Aliases) (reached : aliases.Reached) (target : String)
    (done : List String) (pairs : List (Expr × Expr)) (result : List String)
    (all : assignAll aliases target done pairs = (result, none)) :
    ∃ texts, result = done ++ texts ∧ List.Forall₂ Assigns
      (pairs.filterMap fun pair => (pair.1.toColumn aliases).toOption.map (·.column.name)) texts := by
  induction pairs generalizing done with
  | nil =>
      cases all
      exact ⟨[], (List.append_nil _).symm, .nil⟩
  | cons pair rest ih =>
      rw [assignAll] at all
      cases written : assignment aliases target pair with
      | error fault => simp [written] at all
      | ok text =>
          rw [written] at all
          obtain ⟨texts, grown, others⟩ := ih _ all
          obtain ⟨reference, resolved, assigns⟩ :=
            assignment_assigns aliases reached target pair text written
          refine ⟨text :: texts, by rw [grown, List.append_assoc]; rfl, ?_⟩
          rw [List.filterMap_cons, resolved]
          exact .cons assigns others

theorem step_assigns (update : JoinedUpdateDraft) (step : Step)
    (reached : update.draft.aliases.Reached) (succeeded : (update.apply step).draft.fault = none) :
    ∃ texts, (update.apply step).assignments = update.assignments ++ texts ∧
      List.Forall₂ Assigns (update.assigned step) texts := by
  cases step with
  | shared other => exact ⟨[], (List.append_nil _).symm, .nil⟩
  | additional columns => exact ⟨[], (List.append_nil _).symm, .nil⟩
  | assign target source pairs =>
      obtain ⟨_, assignments, all, same⟩ := update.assign_does target source pairs succeeded
      obtain ⟨texts, grown, assigns⟩ := assign_all_assigns _ reached target _ pairs assignments all
      exact ⟨texts, by rw [same, grown], assigns⟩

theorem run_assigns (update : JoinedUpdateDraft) (steps : List Step)
    (reached : update.draft.aliases.Reached)
    (succeeded : (steps.foldl apply update).draft.fault = none) :
    ∃ texts, (steps.foldl apply update).assignments = update.assignments ++ texts ∧
      List.Forall₂ Assigns (update.assignedFrom steps) texts := by
  induction steps generalizing update with
  | nil => exact ⟨[], (List.append_nil _).symm, .nil⟩
  | cons step rest ih =>
      have done := FilteredDraft.run_succeeded (update.apply step) rest succeeded
      have later := (FilteredDraft.step_appends update step).reached reached
      obtain ⟨first, grown, assigns⟩ := update.step_assigns step reached done
      obtain ⟨others, more, assignsMore⟩ := ih (update.apply step) later succeeded
      exact ⟨first ++ others, by rw [List.foldl_cons, more, grown, List.append_assoc],
        List.rel_append assigns assignsMore⟩

end JoinedUpdateDraft

inductive Update where
  | rows (target : EntityType) (steps : List UpdateDraft.Step)
  | joined (target : EntityType) (steps : List JoinedUpdateDraft.Step)
  | script (target : EntityType) (record : Record) (additional : AdditionalColumns)
      (conditions : List String)

namespace Update

def target : Update → EntityType
  | rows target _ | joined target _ | script target _ _ _ => target

def statements : Update → Except Fault (List String)
  | rows target steps => do
      StatementDraft.validate (UpdateDraft.run target steps)
      let statements ← (UpdateDraft.run target steps).statements
      return statements.map UpdateStatement.render
  | joined target steps => do
      return [← StatementDraft.build (JoinedUpdateDraft.run target steps)]
  | script target record additional conditions => do
      return [← Script.update target record additional conditions]

def own : Update → Table → List String
  | joined .., _ => []
  | rows .., table | script .., table => table.updatable.map (·.name)

def given : Update → List String
  | rows target steps => (UpdateDraft.run target steps).additional.entries.map Prod.fst
  | joined target steps =>
      (JoinedUpdateDraft.start target).assignedFrom steps ++
        (JoinedUpdateDraft.run target steps).additional.entries.map Prod.fst
  | script _ _ additional _ => additional.entries.map Prod.fst

theorem own_updatable (update : Update) (table : Table) (name : String)
    (member : name ∈ update.own table) : ∃ column ∈ table.updatable, column.name = name := by
  cases update with
  | joined target steps => contradiction
  | rows target steps => exact List.mem_map.mp member
  | script target record additional conditions => exact List.mem_map.mp member

-- The text of an update of rows is that of its statements.
theorem rows_text (target : EntityType) (steps : List UpdateDraft.Step) :
    StatementDraft.build (UpdateDraft.run target steps) =
      (rows target steps).statements.map fun texts => ";\n".intercalate texts := by
  simp only [StatementDraft.build, statements]
  cases StatementDraft.validate (UpdateDraft.run target steps) with
  | error fault => rfl
  | ok _ =>
      change ((UpdateDraft.run target steps).statements >>= _) = _
      cases (UpdateDraft.run target steps).statements <;> rfl

theorem targets_exact (update : Update) (texts : List String)
    (written : update.statements = .ok texts) (table : Table)
    (mapped : Table.ofMapping update.target.mapping = .ok table) :
    ∀ text ∈ texts, setTargets text = update.own table ++ update.given := by
  intro text member
  cases update with
  | rows target steps =>
      obtain ⟨_, valid, rest⟩ := bind_ok_iff.mp written
      obtain ⟨statements, made, same⟩ := bind_ok_iff.mp rest
      have succeeded := (StatementDraft.validate_ok_iff _).mp valid
      rw [pure_ok_iff] at same
      subst same
      obtain ⟨statement, inside, rfl⟩ := List.mem_map.mp member
      obtain ⟨participant, more, targeted, assigned, _, _, each⟩ :=
        (UpdateDraft.run target steps).statements_ok statements made
      obtain ⟨known, mappedKnown, isTarget⟩ :=
        JoiningDraft.run_target (δ := UpdateDraft) target steps succeeded
      obtain rfl : known = table := Except.ok.inj (mappedKnown.symm.trans mapped)
      obtain rfl : participant = ⟨target.name, known, Aliases.numbered 0, true⟩ :=
        Except.ok.inj (targeted.symm.trans isTarget)
      obtain ⟨record, _, ofRecord⟩ := forall₂_member each inside
      obtain ⟨own, keyTests, updated, _, rfl⟩ :=
        (UpdateDraft.run target steps).row_statement_ok _ more record _ ofRecord
      exact UpdateStatement.targets_render _ 0 rfl _
        (List.rel_append (UpdateDraft.assignments_assign record _ own updated)
          (AdditionalColumns.assignments_assign _ more assigned))
  | joined target steps =>
      obtain ⟨succeeded, wrote⟩ :=
        (StatementDraft.build_ok_iff _ _).mp (single_ok written member)
      obtain ⟨statement, stated, rfl⟩ := map_ok_iff.mp wrote
      obtain ⟨participant, more, targeted, assigned, _, rfl⟩ :=
        (JoinedUpdateDraft.run target steps).statement_ok statement stated
      obtain ⟨known, _, isTarget⟩ :=
        JoiningDraft.run_target (δ := JoinedUpdateDraft) target steps succeeded
      obtain rfl : participant = ⟨target.name, known, Aliases.numbered 0, true⟩ :=
        Except.ok.inj (targeted.symm.trans isTarget)
      obtain ⟨pairs, grown, assigns⟩ := (JoinedUpdateDraft.start target).run_assigns steps
        (Draft.start_reached target) succeeded
      have all : (JoinedUpdateDraft.run target steps).assignments = pairs := grown
      refine UpdateStatement.targets_render _ 0 rfl _ ?_
      rw [all]
      exact List.rel_append assigns (AdditionalColumns.assignments_assign _ more assigned)
  | script target record additional conditions =>
      obtain ⟨known, own, more, tests, mappedKnown, updated, assigned, _, _, rfl⟩ :=
        Script.update_ok target record additional conditions text (single_ok written member)
      obtain rfl : known = table := Except.ok.inj (mappedKnown.symm.trans mapped)
      exact Script.targets_text known.schema known.name _ tests _
        (List.rel_append (UpdateDraft.assignments_assign record _ own updated)
          (AdditionalColumns.assignments_assign additional more assigned))

/-- A statement sets a protected column of its table just when a pair or an additional column names
one: the columns that updates may write are never protected, and the names that are given besides
are never asked about. -/
theorem protected_target_iff (update : Update) (texts : List String)
    (written : update.statements = .ok texts) (table : Table)
    (mapped : Table.ofMapping update.target.mapping = .ok table) :
    ∀ text ∈ texts, (∃ name ∈ setTargets text, table.protects name = true) ↔
      ∃ name ∈ update.given, table.protects name = true := by
  intro text member
  rw [update.targets_exact texts written table mapped text member]
  have distinct := Table.of_mapping_distinct _ table mapped
  constructor
  · rintro ⟨name, named, isProtected⟩
    rcases List.mem_append.mp named with inOwn | inGiven
    · obtain ⟨column, updatable, rfl⟩ := update.own_updatable table name inOwn
      rw [table.updatable_unprotected distinct column updatable] at isProtected
      cases isProtected
    · exact ⟨name, inGiven, isProtected⟩
  · rintro ⟨name, inGiven, isProtected⟩
    exact ⟨name, List.mem_append_right _ inGiven, isProtected⟩

def audited : Update :=
  .script ⟨"Audit", Sample.audit⟩
    ⟨"Audit", [("id", .ok .null), ("created_at", .ok .null), ("payload", .ok (.text "{}")),
      ("row_version", .ok .null)]⟩
    ⟨[("[x] = 1 FROM", .text "' WHERE ")]⟩ ["1 = 1) SET [Id] = (1"]

theorem audited_protected_target_iff :
    ∃ texts table, audited.statements = .ok texts ∧
      Table.ofMapping audited.target.mapping = .ok table ∧
      ∀ text ∈ texts, (∃ name ∈ setTargets text, table.protects name = true) ↔
        ∃ name ∈ audited.given, table.protects name = true :=
  ⟨_, _, rfl, rfl, protected_target_iff audited _ rfl _ rfl⟩

def rekeyed : Update :=
  let order : EntityType := ⟨"Order", Sample.order⟩
  let person : EntityType := ⟨"Person", Sample.person⟩
  .joined order
    [.shared (.join order person
      (.binary .equal (.column "Order" "person_id") (.column "Person" "id")) .inner),
     .assign "Order" "Person" [(.column "Order" "id", .column "Person" "id")]]

/-- The statement is built, and its target is the key of the orders. -/
theorem rekeyed_sets_key :
    ∃ text table, rekeyed.statements = .ok [text] ∧
      Table.ofMapping rekeyed.target.mapping = .ok table ∧
      setTargets text = ["Id"] ∧ table.protects "Id" = true :=
  ⟨_, _, rfl, rfl, by decide +kernel, by decide⟩

end Update

end MappedSql
