import MappedSql.Proofs.Accumulation
import MappedSql.Proofs.Joins
import MappedSql.Proofs.UpdateText

/-!
Updates of rows touch their rows only. What stands behind WHERE in the statement of a row is a
conjunction: the tests of the keys of the row, and behind them the conditions of the draft as one
group. A group closes its brackets whatever it holds, so no condition weakens the tests of the keys.
-/

namespace MappedSql

open Lexer Cutting Outcome Statement

theorem conjunction_from (first : String) (rest : List String) (present : first ≠ "") :
    conjunction (first :: rest) =
      (rest.map fun test => (Connective.and, test)).foldl Filter.append first := by
  induction rest generalizing first with
  | nil => simp [conjunction]
  | cons next more ih =>
      have longer : first ++ " AND " ++ next ≠ "" := by simp [present]
      have joined : Filter.append first (.and, next) = first ++ " AND " ++ next :=
        Filter.append_present first _ present
      rw [List.map_cons, List.foldl_cons, joined, ← ih _ longer]
      simp [conjunction, String.intercalate_cons_cons, String.append_assoc]

theorem conjunction_pieces (tests : List String) (each : ∀ test ∈ tests, Piece test) :
    pieces (conjunction tests) = Filter.written (tests.map fun test => (.and, test)) := by
  have same : conjunction tests = Filter.text ⟨tests.map fun test => (.and, test)⟩ := by
    cases tests with
    | nil => rfl
    | cons first rest => exact conjunction_from first rest (each first List.mem_cons_self).present
  rw [same]
  refine Filter.text_pieces _ fun part member => ?_
  obtain ⟨test, inside, rfl⟩ := List.mem_map.mp member
  exact each test inside

theorem conjunction_closed (tests : List String) (each : ∀ test ∈ tests, Closed test) :
    Closed (conjunction tests) :=
  closed_of_passage [] _ (passage_intercalate [] " AND " tests at_blank
    (filler_of_read [] _ [keyword "AND"] rfl (by decide) (by simp))
    fun test member => passage_of_closed test (each test member))

-- A conjunction holds only where each of its parts does.
theorem conjunction_true (before : Truth) (valuation : Valuation) (count : Nat)
    (holds : byPrecedence before valuation (List.replicate count .and) = .yes) :
    before = .yes ∧ ∀ position < count, valuation position = .yes := by
  induction count generalizing before valuation with
  | zero => exact ⟨holds, fun position below => absurd below (Nat.not_lt_zero position)⟩
  | succ count ih =>
      obtain ⟨both, later⟩ := ih (before.and (valuation 0)) valuation.rest holds
      have parts : before = .yes ∧ valuation 0 = .yes := by
        revert both
        cases before <;> cases valuation 0 <;> simp [Truth.and]
      refine ⟨parts.1, fun position below => ?_⟩
      cases position with
      | zero => exact parts.2
      | succ earlier => exact later earlier (Nat.lt_of_succ_lt_succ below)

theorem text_true (valuation : Valuation) (text : String) (tests : List String)
    (cutText : pieces text = Filter.written (tests.map fun test => (.and, test)))
    (holds : textTruth valuation text = .yes) :
    ∀ position < tests.length, valuation position = .yes := by
  cases tests with
  | nil => exact fun position below => absurd below (Nat.not_lt_zero position)
  | cons first rest =>
      have connectives : (rest.map fun test => (Connective.and, test)).map Prod.fst =
          List.replicate rest.length .and := by
        rw [List.map_map, ← List.map_const']
        rfl
      simp only [textTruth, cutText, List.map_cons, Filter.written, connectives] at holds
      obtain ⟨zero, later⟩ := conjunction_true _ _ _ holds
      intro position below
      cases position with
      | zero => exact zero
      | succ earlier => exact later earlier (Nat.lt_of_succ_lt_succ below)

namespace Filter

theorem append_closed (text : String) (parts : List (Connective × String)) (present : text ≠ "")
    (closed : Closed text) (each : ∀ part ∈ parts, Closed part.2) :
    Closed (parts.foldl append text) := by
  induction parts generalizing text with
  | nil => exact closed
  | cons part rest ih =>
      rw [List.foldl_cons, append_present text part present]
      have first := each part List.mem_cons_self
      have connected := passage_between [] text part.1.text part.2 (passage_of_closed text closed)
        (Condition.connective_at_boundary part.1)
        (filler_of_read [] _ _ (Condition.connective_read part.1) (by simp [opening, closing, breakers])
          (by simp)) (passage_of_closed part.2 first)
      exact ih _ (by simp [present]) (closed_of_passage [] _ connected) fun other member =>
        each other (List.mem_cons_of_mem part member)

theorem text_closed (filter : Filter) (each : ∀ part ∈ filter.parts, Piece part.2) :
    Closed filter.text := by
  obtain ⟨parts⟩ := filter
  cases parts with
  | nil => exact ⟨[], rfl, contained_nil⟩
  | cons first rest =>
      have piece := each first List.mem_cons_self
      exact append_closed first.2 rest piece.present piece.closed fun part member =>
        (each part (List.mem_cons_of_mem first member)).closed

end Filter

namespace UpdateDraft

theorem filter_tests_pieces (filter : Filter) (each : ∀ part ∈ filter.parts, Piece part.2) :
    filterTests filter =
      if filter.parts = [] then [] else ["(" ++ Filter.text ⟨filter.parts⟩ ++ ")"] := by
  obtain ⟨parts⟩ := filter
  cases parts with
  | nil => rfl
  | cons first rest =>
      have full : Filter.isEmpty ⟨first :: rest⟩ = false := by
        simpa [Filter.isEmpty] using
          Filter.text_present first rest (each first List.mem_cons_self).present
      simp [filterTests, full]

theorem key_test_bracketed (target : Participant) (count : Nat)
    (numbered : target.aliasName = Aliases.numbered count) (record : Record) (key : Column)
    (test : String) (written : keyTest target record key = .ok test) : Bracketed test := by
  obtain ⟨value, rendered, same⟩ := bind_ok_iff.mp written
  obtain ⟨leaf, read⟩ := key.rendered_leaf record value rendered
  rw [pure_ok_iff] at same
  have assigns := qualified_assigns target count numbered key value
    (leaf_passage clauseTokens clauses_foreign value leaf read)
  have closed := closed_of_passage [] _
    (assigns_passage [] (by simp) (by simp) key.name _ assigns)
  have bracketed := bracketed_of_closed _ closed
  simpa only [← same, equalityTest, Statement.assignment, String.append_assoc] using bracketed

end UpdateDraft

/-! Raw texts can open and close what they like. Without them every join and every condition closes
its own brackets, and the clauses of a statement can be told apart. -/

/-- No raw text: no join by table name, no raw query, and hints that close their brackets. -/
def Draft.Step.RawFree : Draft.Step → Prop
  | .joinTable .. => False
  | .configure settings => ∀ hint, settings.readHint = some hint → Closed hint
  | step => step.QueryFree

structure Draft.Tidy (draft : Draft) : Prop where
  joins : ∀ join ∈ draft.joins, join.Sound
  hint : SoundHint draft.settings.hintSuffix

namespace Draft

theorem Step.tests_of_raw_free (step : Step) (free : step.RawFree) : step.Tests := by
  cases step with
  | joinTable table condition kind => exact free.elim
  | configure settings => trivial
  | filter condition connective => exact Step.tests_of_query_free _ free
  | state condition connective => exact Step.tests_of_query_free _ free
  | join left right condition kind => trivial

theorem hint_sound (settings : Settings)
    (closed : ∀ hint, settings.readHint = some hint → Closed hint) :
    SoundHint settings.hintSuffix := by
  unfold Settings.hintSuffix
  cases given : settings.readHint with
  | none => exact .inl rfl
  | some hint =>
      by_cases blank : Text.isBlank hint = true
      · exact .inl (if_pos blank)
      · exact .inr ⟨hint, closed hint given, if_neg blank⟩

theorem start_tidy (target : EntityType) : (start target).Tidy := by
  have hint : SoundHint (Settings.hintSuffix {}) := by
    refine hint_sound {} fun hint given => ?_
    cases given
    exact ⟨[keyword "NOLOCK"], rfl, contained_word _ _ contained_nil⟩
  unfold start
  cases Aliases.empty.register target true with
  | error fault => exact ⟨by simp, hint⟩
  | ok aliases => exact ⟨by simp, hint⟩

theorem does_tidy (before after : Draft) (step : Step) (reached : before.aliases.Reached)
    (free : step.RawFree) (tidy : before.Tidy) (does : before.Does step after) : after.Tidy := by
  cases does with
  | filter _ _ => exact ⟨tidy.joins, tidy.hint⟩
  | state _ => exact ⟨tidy.joins, tidy.hint⟩
  | @join left right condition kind entered text joined _ all compiled found =>
      have enteredReached : entered.Reached := by
        have all' := enter_all_reached before.aliases [left, right] reached
        rwa [all] at all'
      refine ⟨fun join member => ?_, tidy.hint⟩
      rcases List.mem_append.mp member with earlier | last
      · exact tidy.joins join earlier
      · rw [List.mem_singleton.mp last]
        exact {
          table := ⟨joined.table.schema, joined.table.name, rfl⟩
          aliasName := entered.reached_numbered enteredReached joined
            (entered.find_member _ _ found)
          condition := fun tokens foreign =>
            expression_passage tokens foreign ⟨entered, false⟩ enteredReached condition text compiled }
  | knownTable _ => exact free.elim
  | otherTable _ _ => exact free.elim
  | configure settings => exact ⟨tidy.joins, hint_sound settings free⟩

end Draft

namespace JoiningDraft

open FilteredDraft

variable {δ σ : Type} [JoiningDraft δ σ]

theorem step_tidy (state : δ) (step : σ) (reached : (draft state).aliases.Reached)
    (free : ∀ shared, shared? δ step = some shared → shared.RawFree) (tidy : (draft state).Tidy)
    (succeeded : (draft (apply state step)).fault = none) : (draft (apply state step)).Tidy := by
  rcases step_cases state step succeeded with ⟨shared, kind, does⟩ | ⟨_, prepared⟩
  · exact Draft.does_tidy _ _ shared reached (free shared kind) tidy does
  · obtain ⟨joins, settings, _⟩ := Draft.prepared_extends _ _ prepared
    exact ⟨joins ▸ tidy.joins, settings ▸ tidy.hint⟩

theorem run_tidy (state : δ) (steps : List σ) (reached : (draft state).aliases.Reached)
    (free : ∀ step ∈ steps, ∀ shared, shared? δ step = some shared → shared.RawFree)
    (tidy : (draft state).Tidy) (succeeded : (draft (steps.foldl apply state)).fault = none) :
    (draft (steps.foldl apply state)).Tidy := by
  induction steps generalizing state with
  | nil => exact tidy
  | cons step rest ih =>
      have first := step_tidy state step reached (free step List.mem_cons_self) tidy
        (run_succeeded _ rest succeeded)
      exact ih (apply state step) ((step_appends state step).reached reached)
        (fun other member => free other (List.mem_cons_of_mem step member)) first succeeded

end JoiningDraft

def conditionsOf? (statement : String) : Option String :=
  (splitFirst? [spaced "WHERE".toList] outside statement.toList).map fun parts =>
    String.ofList (parts.2.drop (spaced "WHERE".toList).length)

theorem conditions_behind (head conditions : String) (passage : Passage whereTokens head) :
    conditionsOf? (head ++ " WHERE " ++ conditions) = some conditions := by
  have characters : (head ++ " WHERE " ++ conditions).toList =
      head.toList ++ (spaced "WHERE".toList ++ conditions.toList) := by
    rw [String.toList_append, String.toList_append, List.append_assoc]
    rfl
  have split := passage_split ["WHERE".toList] (by decide) "WHERE".toList List.mem_cons_self head
    passage conditions.toList
  rw [List.map_singleton] at split
  rw [conditionsOf?, characters, split, Option.map_some, List.drop_left, String.ofList_toList]

theorem conditions_of_render (s : UpdateStatement) (sound : s.Sound) (tested : s.tests ≠ []) :
    conditionsOf? s.render = some (conjunction s.tests) := by
  rw [s.render_tests tested]
  exact conditions_behind s.head _ (s.head_passage sound)

theorem render_closed (s : UpdateStatement) (sound : s.Sound) (tested : s.tests ≠ [])
    (each : ∀ test ∈ s.tests, Closed test) : Closed s.render := by
  have head := closed_of_passage whereTokens s.head (s.head_passage sound)
  have whole := passage_between [] s.head " WHERE " _ (passage_of_closed _ head) at_blank
    (filler_of_read [] _ [keyword "WHERE"] rfl (by decide) (by simp))
    (passage_of_closed _ (conjunction_closed s.tests each))
  rw [s.render_tests tested]
  exact closed_of_passage [] _ whole

def Draft.Step.isCondition : Draft.Step → Bool
  | .filter .. | .state .. => true
  | _ => false

theorem Draft.does_part (before after : Draft) (step : Step) (does : before.Does step after) :
    (before.part? step).isSome = step.isCondition := by
  cases does with
  | @filter condition connective entered text all compiled =>
      have outcome : (before.compile condition false).2 = .ok text := by
        simp only [compile, all, compiled]
      simp [part?, outcome, Step.isCondition]
  | _ => rfl

namespace JoiningDraft

open FilteredDraft

variable {δ σ : Type} [JoiningDraft δ σ]

theorem parts_from_nil_iff (state : δ) (steps : List σ)
    (succeeded : (draft (steps.foldl apply state)).fault = none) :
    partsFrom state steps = [] ↔
      ∀ step ∈ steps, (shared? δ step).any Draft.Step.isCondition = false := by
  induction steps generalizing state with
  | nil => simp [partsFrom]
  | cons step rest ih =>
      have first : (part? state step).isSome = (shared? δ step).any Draft.Step.isCondition := by
        unfold part?
        rcases step_cases state step (run_succeeded _ rest succeeded) with
          ⟨shared, kind, does⟩ | ⟨kind, _⟩
        · rw [kind, Option.bind_some, Option.any_some]
          exact Draft.does_part _ _ shared does
        · rw [kind]
          rfl
      rw [partsFrom, List.append_eq_nil_iff, ih (apply state step) succeeded, List.forall_mem_cons,
        ← first]
      cases part? state step <;> simp

end JoiningDraft

namespace UpdateDraft

open FilteredDraft JoiningDraft

def Step.isCondition (step : Step) : Bool :=
  (shared? UpdateDraft step).any Draft.Step.isCondition

def givenGroup (target : EntityType) (steps : List Step) : List String :=
  if steps.any Step.isCondition then ["(" ++ Filter.text ⟨parts UpdateDraft target steps⟩ ++ ")"]
  else []

def givenRows (steps : List Step) : List Record :=
  steps.flatMap fun
    | .addRows rows => rows
    | _ => []

def TestsKeys (table : Table) (record : Record) (tests : List String) : Prop :=
  List.Forall₂ (fun key test => ∃ value, key.render record = .ok value ∧
    test = "(t0." ++ key.quoted ++ " = " ++ value ++ ")") table.keys tests

/-- The conditions of the statement are the tests of the keys and the group behind them, joined by
AND, and hold of no row of which a test of the keys does not hold. -/
def Pinned (table : Table) (group : List String) (record : Record) (statement : String) : Prop :=
  ∃ conditions keyTests, conditionsOf? statement = some conditions ∧
    TestsKeys table record keyTests ∧ (∀ test ∈ keyTests ++ group, Bracketed test) ∧
    pieces conditions = Filter.written ((keyTests ++ group).map fun test => (.and, test)) ∧
    ∀ valuation, textTruth valuation conditions = .yes →
      ∀ position < table.keys.length, valuation position = .yes

theorem rows_from (update : UpdateDraft) (steps : List Step) :
    (steps.foldl apply update).rows = update.rows ++ givenRows steps := by
  induction steps generalizing update with
  | nil => simp [givenRows]
  | cons step rest ih =>
      rw [List.foldl_cons, ih, givenRows, givenRows, List.flatMap_cons, ← List.append_assoc]
      cases step <;> simp [apply]

theorem row_sound (update : UpdateDraft) (target : Participant) (count : Nat)
    (numbered : target.aliasName = Aliases.numbered count) (tidy : update.draft.Tidy)
    (more : List String) (assigned : update.additional.assignments = .ok more) (record : Record)
    (statement : UpdateStatement)
    (written : update.rowStatement target more record = .ok statement) : statement.Sound := by
  obtain ⟨own, keyTests, updated, _, rfl⟩ := update.row_statement_ok target more record _ written
  refine ⟨⟨_, _, rfl⟩, ⟨count, numbered⟩, fun text member => ?_, tidy.hint, tidy.joins⟩
  rcases List.mem_append.mp member with inOwn | inMore
  · obtain ⟨column, _, made⟩ := mapM_member updated inOwn
    exact ⟨column.name, assignment_assigns record column text made⟩
  · obtain ⟨entry, _, made⟩ := mapM_member assigned inMore
    exact ⟨entry.1, AdditionalColumns.assignment_assigns entry text made⟩

theorem group_bracketed (filter : Filter) (each : ∀ part ∈ filter.parts, Piece part.2) :
    ∀ test ∈ filterTests filter, Bracketed test := by
  intro test member
  unfold filterTests at member
  split_ifs at member
  · contradiction
  · rw [List.mem_singleton.mp member]
    exact bracketed_of_closed _ (filter.text_closed each)

theorem group_given (target : EntityType) (steps : List Step)
    (succeeded : (run target steps).draft.fault = none)
    (each : ∀ part ∈ parts UpdateDraft target steps, Piece part.2) :
    filterTests (run target steps).draft.filter = givenGroup target steps := by
  have same : (run target steps).draft.filter.parts = parts UpdateDraft target steps :=
    run_filter (δ := UpdateDraft) target steps succeeded
  have noParts : parts UpdateDraft target steps = [] ↔ steps.any Step.isCondition = false :=
    (parts_from_nil_iff (start target) steps succeeded).trans (by simp [Step.isCondition])
  rw [filter_tests_pieces _ (by rw [same]; exact each), same, givenGroup]
  cases given : steps.any Step.isCondition with
  | false => rw [if_pos (noParts.mpr given), if_neg Bool.false_ne_true]
  | true =>
      have present : parts UpdateDraft target steps ≠ [] := by
        rw [Ne, noParts, given]
        exact Bool.false_ne_true.symm
      rw [if_neg present, if_pos rfl]

theorem key_test_text (target : Participant) (numbered : target.aliasName = Aliases.numbered 0)
    (record : Record) (key : Column) (test : String)
    (written : keyTest target record key = .ok test) :
    ∃ value, key.render record = .ok value ∧ test = "(t0." ++ key.quoted ++ " = " ++ value ++ ")" := by
  obtain ⟨value, rendered, same⟩ := bind_ok_iff.mp written
  rw [pure_ok_iff] at same
  have first : Aliases.numbered 0 = "t0" := rfl
  have split : "(t0." = "(" ++ "t0" ++ "." := rfl
  refine ⟨value, rendered, ?_⟩
  rw [← same, equalityTest, Participant.columnText, numbered, first, split]
  simp only [String.append_assoc]

-- What is said of one statement, whatever the draft.
theorem row_pinned (update : UpdateDraft) (target : Participant)
    (numbered : target.aliasName = Aliases.numbered 0) (tidy : update.draft.Tidy)
    (each : ∀ part ∈ update.draft.filter.parts, Piece part.2) (keyed : target.table.keys ≠ [])
    (more : List String) (assigned : update.additional.assignments = .ok more) (record : Record)
    (statement : UpdateStatement)
    (written : update.rowStatement target more record = .ok statement) :
    Pinned target.table (filterTests update.draft.filter) record statement.render ∧
      Closed statement.render := by
  have sound := update.row_sound target 0 numbered tidy more assigned record statement written
  obtain ⟨own, keyTests, _, tested, rfl⟩ := update.row_statement_ok target more record _ written
  have lengths := (mapM_ok tested).length_eq
  have bracketed (test : String) (member : test ∈ keyTests ++ filterTests update.draft.filter) :
      Bracketed test := by
    rcases List.mem_append.mp member with inKeys | inGroup
    · obtain ⟨key, _, made⟩ := mapM_member tested inKeys
      exact key_test_bracketed target 0 numbered record key test made
    · exact group_bracketed _ each test inGroup
  have present : keyTests ++ filterTests update.draft.filter ≠ [] := by
    intro nothing
    rw [(List.append_eq_nil_iff.mp nothing).1, List.length_nil] at lengths
    exact keyed (List.length_eq_zero_iff.mp lengths)
  have cutText := conjunction_pieces _ fun test member => piece_of_bracketed test (bracketed test member)
  refine ⟨⟨_, keyTests, conditions_of_render _ sound present, ?_, bracketed, cutText, ?_⟩, ?_⟩
  · exact (mapM_ok tested).imp fun key test made =>
      key_test_text target numbered record key test made
  · intro valuation holds position below
    refine text_true valuation _ _ cutText holds position ?_
    rw [List.length_append, ← lengths]
    omega
  · exact render_closed _ sound present fun test member => closed_of_bracketed test (bracketed test member)

/-- Every row has a statement of its own that is pinned to it: no condition of a step, whatever its
connectives and values are, lets the statement reach a row of which a test of the keys fails. -/
theorem rows_pinned (target : EntityType) (table : Table) (steps : List Step)
    (mapped : Table.ofMapping target.mapping = .ok table) (keyed : table.keys ≠ [])
    (free : ∀ step ∈ steps, ∀ shared, shared? UpdateDraft step = some shared → shared.RawFree)
    (text : String) (built : StatementDraft.build (run target steps) = .ok text) :
    List.Forall₂ (Pinned table (givenGroup target steps)) (givenRows steps)
      (statementsOf text) := by
  obtain ⟨succeeded, written⟩ := (StatementDraft.build_ok_iff _ _).mp built
  obtain ⟨statements, made, joined⟩ := bind_ok_iff.mp written
  obtain ⟨participant, more, targeted, assigned, present, _, each⟩ :=
    (run target steps).statements_ok statements made
  obtain ⟨known, mappedKnown, isTarget⟩ := run_target (δ := UpdateDraft) target steps succeeded
  obtain rfl : known = table := Except.ok.inj (mappedKnown.symm.trans mapped)
  obtain rfl : participant = ⟨target.name, known, Aliases.numbered 0, true⟩ :=
    Except.ok.inj (targeted.symm.trans isTarget)
  have reached : (start target).draft.aliases.Reached := Draft.start_reached target
  have tidy : (run target steps).draft.Tidy :=
    run_tidy (start target) steps reached free (Draft.start_tidy target) succeeded
  have partPieces := parts_pieces (start target) steps reached fun step member shared kind =>
    shared.tests_of_raw_free (free step member shared kind)
  have same : (run target steps).draft.filter.parts = parts UpdateDraft target steps :=
    run_filter (δ := UpdateDraft) target steps succeeded
  have pinned := each.imp fun record statement ofRecord =>
    (run target steps).row_pinned _ rfl tidy (by rw [same]; exact partPieces) keyed more assigned record
      statement ofRecord
  have apartTexts : statementsOf text = statements.map UpdateStatement.render := by
    rw [pure_ok_iff] at joined
    rw [← joined]
    cases statements with
    | nil => exact absurd (List.forall₂_nil_right_iff.mp each) present
    | cons first rest =>
        refine statements_of_intercalate first.render (rest.map UpdateStatement.render) ?_
        intro written member
        obtain ⟨statement, inside, rfl⟩ := List.mem_map.mp ((List.map_cons ▸ member :
          written ∈ (first :: rest).map UpdateStatement.render))
        obtain ⟨record, _, both⟩ := forall₂_member pinned inside
        exact both.2
  have rows : (run target steps).rows = givenRows steps := rows_from (start target) steps
  rw [apartTexts, ← rows, ← group_given target steps succeeded partPieces,
    List.forall₂_map_right_iff]
  exact pinned.imp fun record statement both => both.1

def breakingOut : Comparison :=
  .mk .equal (some (.field "K2")) (some (.constant (.text "') OR (1 = 1")))

def guarded : List Step :=
  let multi : EntityType := ⟨"Multi", Sample.multi⟩
  let row (first : Int) (second body : String) : Record :=
    ⟨"Multi", [("k1", .ok (.integer .int32 first)), ("k2", .ok (.text second)),
      ("body", .ok (.text body)), ("é", .ok .null)]⟩
  [.addRows [row 1 "' WHERE '" "--", row 2 ";\n" "'"],
    .shared (.join multi ⟨"Person", Sample.person⟩
      (.binary .equal (.column "Multi" "k1") (.column "Person" "id")) .left),
    .shared (.filter ⟨[multi], .binary .equal (.column "Multi" "body") (.constant (.text ") OR ("))⟩ .and),
    .shared (.state ⟨"([K2] = ''') OR (1 = 1')"⟩ .or)]

theorem guarded_raw_free (step : Step) (member : step ∈ guarded) (shared : Draft.Step)
    (kind : shared? UpdateDraft step = some shared) : shared.RawFree := by
  have stated : Condition.Stated ⟨"([K2] = ''') OR (1 = 1')"⟩ :=
    .start (show breakingOut.queryFree = true from rfl) rfl
  simp only [guarded, List.mem_cons, List.not_mem_nil, or_false] at member
  rcases member with rfl | rfl | rfl | rfl
  · cases kind
  · cases kind
    exact trivial
  · cases kind
    exact rfl
  · cases kind
    exact stated

theorem guarded_rows_pinned :
    ∃ table text, Table.ofMapping Sample.multi = .ok table ∧ table.keys ≠ [] ∧
      (∀ step ∈ guarded, ∀ shared, shared? UpdateDraft step = some shared → shared.RawFree) ∧
      StatementDraft.build (run ⟨"Multi", Sample.multi⟩ guarded) = .ok text ∧
      List.Forall₂ (Pinned table (givenGroup ⟨"Multi", Sample.multi⟩ guarded)) (givenRows guarded)
        (statementsOf text) :=
  ⟨_, _, rfl, by decide, guarded_raw_free, rfl,
    rows_pinned ⟨"Multi", Sample.multi⟩ _ guarded rfl (by decide) guarded_raw_free _ rfl⟩

end UpdateDraft

end MappedSql
