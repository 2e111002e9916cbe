import MappedSql.Proofs.Passages
import MappedSql.Proofs.Written

/-!
The text of an update up to its conditions. Each assignment begins with the name of its column, and
no clause begins within its value; so the list of assignments ends where the next clause begins, and
the word WHERE stands outside for the first time where the conditions begin.
-/

namespace MappedSql

open Lexer Cutting Outcome Statement

theorem Column.cell_sound (column : Column) (record : Record) (literal : Literal)
    (written : column.literal record = .ok literal) : literal.Sound := by
  obtain ⟨cell, _, literalOfCell⟩ := bind_ok_iff.mp written
  cases cell with
  | stored value => exact Value.literal_sound column.policy value literal rfl literalOfCell
  | freshGuid =>
      cases literalOfCell
      rfl
  | currentTime withOffset =>
      cases literalOfCell
      rfl

theorem Column.rendered_leaf (column : Column) (record : Record) (text : String)
    (rendered : column.render record = .ok text) :
    ∃ leaf : Leaf, tokenize text.toList = some leaf.tokens := by
  obtain ⟨literal, written, rfl⟩ := map_ok_iff.mp rendered
  exact ⟨literal.leaf, literal.tokenize_render (column.cell_sound record literal written)⟩

def clauseTokens : List Lexeme :=
  [.sign ['='], keyword "SET", keyword "FROM", keyword "WHERE"]

theorem clauses_foreign : Foreign clauseTokens := by decide

def Qualifier (lexemes : List Lexeme) : Prop :=
  lexemes = [] ∨ ∃ count, lexemes = [.word (Aliases.numbered count).toList, .sign ['.']]

def Assigns (name text : String) : Prop :=
  ∃ qualifier value, Qualifier qualifier ∧
    tokenize text.toList = some (qualifier ++ .name name.toList :: .sign ['='] :: value) ∧
    Contained value ∧ Apart clauseTokens 0 value

theorem assigns_of_read (name column value : String) (qualifier : List Lexeme)
    (qualified : Qualifier qualifier)
    (read : tokenize column.toList = some (qualifier ++ [.name name.toList]))
    (passage : Passage clauseTokens value) : Assigns name (assignment column value) := by
  obtain ⟨lexemes, readValue, contained, apart⟩ := passage
  refine ⟨qualifier, lexemes, qualified, ?_, contained, apart⟩
  have whole := tokenize_operand column.toList " = ".toList value.toList _ [.sign ['=']] lexemes read
    (at_blank _) rfl readValue
  simpa only [assignment, String.toList_append, List.append_assoc, List.cons_append,
    List.nil_append] using whole

theorem bracketed_assigns (name value : String) (passage : Passage clauseTokens value) :
    Assigns name (assignment (Identifier.bracketed name) value) :=
  assigns_of_read name _ value [] (.inl rfl) (name_tokens name) passage

theorem UpdateDraft.assignment_assigns (record : Record) (column : Column) (text : String)
    (written : assignment record column = .ok text) : Assigns column.name text := by
  obtain ⟨value, rendered, same⟩ := bind_ok_iff.mp written
  obtain ⟨leaf, read⟩ := column.rendered_leaf record value rendered
  rw [pure_ok_iff] at same
  exact same ▸ bracketed_assigns column.name value
    (leaf_passage clauseTokens clauses_foreign value leaf read)

theorem AdditionalColumns.assignment_assigns (entry : String × Value) (text : String)
    (written : assignment entry = .ok text) : Assigns entry.1 text := by
  obtain ⟨name, quoted, rest⟩ := bind_ok_iff.mp written
  obtain ⟨value, rendered, same⟩ := bind_ok_iff.mp rest
  obtain ⟨_, _, bracketed⟩ := bind_ok_iff.mp quoted
  obtain ⟨leaf, read⟩ := Value.rendered_closed entry.2 value rendered
  rw [pure_ok_iff] at same bracketed
  rw [← same, ← bracketed]
  exact bracketed_assigns entry.1 value (leaf_passage clauseTokens clauses_foreign value leaf read)

theorem qualified_assigns (participant : Participant) (count : Nat)
    (numbered : participant.aliasName = Aliases.numbered count) (column : Column) (value : String)
    (passage : Passage clauseTokens value) :
    Assigns column.name (assignment (participant.columnText column) value) := by
  refine assigns_of_read _ _ value _ (.inr ⟨count, rfl⟩) ?_ passage
  rw [Participant.columnText, numbered]
  exact Fragment.tokenize_column count column.name

theorem Expr.to_column_iff (aliases : Aliases) (expr : Expr) (reference : ColumnReference) :
    expr.toColumn aliases = .ok reference ↔
      columnOf aliases expr.withoutConvert = .ok (some reference) := by
  unfold toColumn
  cases resolved : columnOf aliases expr.withoutConvert with
  | error fault => simp [bind, Except.bind]
  | ok found => cases found <;> simp [bind, Except.bind, pure, Except.pure]

theorem JoinedUpdateDraft.assignment_assigns (aliases : Aliases) (reached : aliases.Reached)
    (target : String) (pair : Expr × Expr) (text : String)
    (written : assignment aliases target pair = .ok text) :
    ∃ reference, pair.1.toColumn aliases = .ok reference ∧ Assigns reference.column.name text := by
  obtain ⟨primary, _, rest⟩ := bind_ok_iff.mp written
  obtain ⟨reference, resolved, checked⟩ := bind_ok_iff.mp rest
  refine ⟨reference, resolved, ?_⟩
  obtain ⟨count, numbered⟩ :=
    Expr.column_of_numbered aliases reached _ _ ((Expr.to_column_iff _ _ _).mp resolved)
  split at checked
  · cases checked
  · obtain ⟨value, compiled, same⟩ := bind_ok_iff.mp checked
    rw [pure_ok_iff] at same
    subst same
    exact qualified_assigns reference.participant count numbered reference.column value
      (expression_passage clauseTokens clauses_foreign ⟨aliases, false⟩ reached pair.2 value compiled)

theorem assigns_passage (tokens : List Lexeme) (clauses : ∀ token ∈ tokens, token ∈ clauseTokens)
    (noSign : .sign ['='] ∉ tokens) (name text : String) (assigns : Assigns name text) :
    Passage tokens text := by
  obtain ⟨qualifier, value, qualified, read, contained, apart⟩ := assigns
  have foreign : Foreign tokens := fun token member => clauses_foreign token (clauses token member)
  have target : Contained (.name name.toList :: .sign ['='] :: value) ∧
      Apart tokens 0 (.name name.toList :: .sign ['='] :: value) :=
    ⟨contained_value _ _ rfl (contained_cons _ _ (by decide) (by decide) contained),
      apart_value tokens foreign 0 _ _ rfl (apart_cons tokens 0 _ _ (by decide) noSign
        (apart_mono clauseTokens tokens clauses 0 value apart))⟩
  refine ⟨_, read, ?_⟩
  rcases qualified with rfl | ⟨count, rfl⟩
  · exact target
  · exact ⟨contained_word _ _ (contained_cons _ _ (by decide) (by decide) target.1),
      apart_alias tokens foreign 0 count _
        (apart_outer tokens foreign 0 _ _ (by decide) (by decide) target.2)⟩

def SoundHint (suffix : String) : Prop :=
  suffix = "" ∨ ∃ hint, Closed hint ∧ suffix = " WITH (" ++ hint ++ ")"

structure Join.Sound (join : Join) : Prop where
  table : ∃ schema name, join.table = Identifier.bracketedPair schema name
  aliasName : ∃ count, join.aliasName = Aliases.numbered count
  condition : ∀ tokens, Foreign tokens → Passage tokens join.condition

structure UpdateStatement.Sound (s : UpdateStatement) : Prop where
  table : ∃ schema name, s.table = Identifier.bracketedPair schema name
  aliasName : ∃ count, s.aliasName = Aliases.numbered count
  assignments : ∀ text ∈ s.assignments, ∃ name, Assigns name text
  hint : SoundHint s.hint
  joins : ∀ join ∈ s.joins, join.Sound

def whereTokens : List Lexeme :=
  [keyword "WHERE"]

theorem where_foreign : Foreign whereTokens := by decide

theorem hint_passage (text suffix : String) (sound : SoundHint suffix)
    (before : Passage whereTokens text) : Passage whereTokens (text ++ suffix) := by
  rcases sound with rfl | ⟨hint, closed, rfl⟩
  · rwa [String.append_empty]
  · have bracketed := passage_grouped whereTokens hint closed
    have spaced := passage_between whereTokens text " WITH " _ before at_blank
      (filler_of_read whereTokens _ [keyword "WITH"] rfl (by decide) (by decide)) bracketed
    have split : " WITH (" = " WITH " ++ "(" := rfl
    simpa only [split, String.append_assoc] using spaced

theorem join_filler (kind : JoinKind) : Filler whereTokens (kind.text ++ " ") := by
  cases kind
  · exact filler_of_read _ _ [keyword "INNER", keyword "JOIN"] rfl (by decide) (by decide)
  · exact filler_of_read _ _ [keyword "LEFT", keyword "JOIN"] rfl (by decide) (by decide)
  · exact filler_of_read _ _ [keyword "RIGHT", keyword "JOIN"] rfl (by decide) (by decide)
  · exact filler_of_read _ _ [keyword "FULL", keyword "JOIN"] rfl (by decide) (by decide)

theorem blank_filler (tokens : List Lexeme) : Filler tokens " " :=
  filler_of_read tokens " " [] rfl (by simp) (by simp)

theorem source_passage (table aliasName : String)
    (named : ∃ schema name, table = Identifier.bracketedPair schema name)
    (numbered : ∃ count, aliasName = Aliases.numbered count) :
    Passage whereTokens (table ++ " " ++ aliasName) := by
  obtain ⟨schema, name, rfl⟩ := named
  obtain ⟨count, rfl⟩ := numbered
  exact passage_between whereTokens _ " " _ (table_passage whereTokens where_foreign schema name)
    at_blank (blank_filler whereTokens) (alias_passage whereTokens where_foreign count)

theorem Join.render_passage (hint : String) (join : Join) (soundHint : SoundHint hint)
    (sound : join.Sound) : Passage whereTokens (join.render hint) := by
  have source := source_passage join.table join.aliasName sound.table sound.aliasName
  have table := passage_behind whereTokens _ _ (join_filler join.kind) source
  have hinted := hint_passage _ hint soundHint table
  have whole := passage_between whereTokens _ " ON " _ hinted at_blank
    (filler_of_read whereTokens _ [keyword "ON"] rfl (by decide) (by decide))
    (sound.condition whereTokens where_foreign)
  simpa only [render, String.append_assoc] using whole

theorem clauses_append (parts : List String) (last : String) (present : parts ≠ []) :
    clauses (parts ++ [last]) = clauses parts ++ " " ++ last := by
  induction parts with
  | nil => exact absurd rfl present
  | cons part rest ih =>
      cases rest with
      | nil => simp [clauses]
      | cons next more =>
          have later := ih (List.cons_ne_nil _ _)
          simp only [clauses, List.cons_append, String.intercalate_cons_cons] at later ⊢
          rw [later]
          simp only [String.append_assoc]

namespace UpdateStatement

def head (s : UpdateStatement) : String :=
  clauses (
    ["UPDATE " ++ s.aliasName ++ " SET " ++ commas s.assignments,
     "FROM " ++ s.table ++ " " ++ s.aliasName]
    ++ s.joins.map (Join.render s.hint))

theorem render_tests (s : UpdateStatement) (tested : s.tests ≠ []) :
    s.render = s.head ++ " WHERE " ++ conjunction s.tests := by
  have there : s.tests.isEmpty = false := by simpa using tested
  have split : " WHERE " = " " ++ "WHERE " := rfl
  rw [render, whenAny, there, if_neg Bool.false_ne_true, clauses_append _ _ (by simp), split]
  simp only [head, String.append_assoc]

theorem head_passage (s : UpdateStatement) (sound : s.Sound) : Passage whereTokens s.head := by
  have targeted : Passage whereTokens ("UPDATE " ++ s.aliasName ++ " SET " ++ commas s.assignments) := by
    obtain ⟨count, numbered⟩ := sound.aliasName
    have assigned := commas_passage whereTokens (by decide) s.assignments fun text member => by
      obtain ⟨name, assigns⟩ := sound.assignments text member
      exact assigns_passage whereTokens (by decide) (by decide) name text assigns
    rw [numbered]
    refine passage_between whereTokens _ " SET " _ ?_ at_blank
      (filler_of_read whereTokens _ [keyword "SET"] rfl (by decide) (by decide)) assigned
    exact passage_behind whereTokens "UPDATE " _
      (filler_of_read whereTokens _ [keyword "UPDATE"] rfl (by decide) (by decide))
      (alias_passage whereTokens where_foreign count)
  have source : Passage whereTokens ("FROM " ++ s.table ++ " " ++ s.aliasName) := by
    have behind := passage_behind whereTokens "FROM " _
      (filler_of_read whereTokens _ [keyword "FROM"] rfl (by decide) (by decide))
      (source_passage s.table s.aliasName sound.table sound.aliasName)
    simpa only [String.append_assoc] using behind
  refine passage_intercalate whereTokens " " _ at_blank (blank_filler whereTokens) ?_
  intro clause member
  simp only [List.cons_append, List.nil_append, List.mem_cons, List.mem_map] at member
  rcases member with rfl | rfl | ⟨join, joined, rfl⟩
  · exact targeted
  · exact source
  · exact join.render_passage s.hint sound.hint (sound.joins join joined)

end UpdateStatement

end MappedSql
