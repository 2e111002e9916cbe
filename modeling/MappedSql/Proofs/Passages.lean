import MappedSql.Statement
import MappedSql.Proofs.Predicates

/-!
Passages of a statement: texts that are read to their end, close their brackets, and have none of
some given tokens outside of brackets. They are put together from smaller ones and from the words
and signs that stand between these.
-/

namespace MappedSql

open Lexer Cutting Outcome

def Passage (tokens : List Lexeme) (text : String) : Prop :=
  ∃ lexemes, tokenize text.toList = some lexemes ∧ Contained lexemes ∧ Apart tokens 0 lexemes

def Filler (tokens : List Lexeme) (text : String) : Prop :=
  ∃ lexemes, run .nothing text.toList = some (lexemes, .nothing) ∧ Contained lexemes ∧
    Apart tokens 0 lexemes

section Composition

variable (tokens : List Lexeme)

theorem filler_of_read (text : String) (lexemes : List Lexeme)
    (read : run .nothing text.toList = some (lexemes, .nothing))
    (plain : ∀ lexeme ∈ lexemes, (lexeme ≠ opening ∧ lexeme ≠ closing) ∧ lexeme ∉ breakers)
    (absent : ∀ lexeme ∈ lexemes, lexeme ∉ tokens) : Filler tokens text :=
  ⟨lexemes, read, contained_of_plain lexemes plain, apart_of_absent tokens 0 lexemes absent⟩

theorem passage_of_read (text : String) (lexemes : List Lexeme)
    (read : tokenize text.toList = some lexemes) (contained : Contained lexemes)
    (absent : ∀ lexeme ∈ lexemes, lexeme ∉ tokens) : Passage tokens text :=
  ⟨lexemes, read, contained, apart_of_absent tokens 0 lexemes absent⟩

theorem passage_append (first second : String) (before : Passage tokens first)
    (boundary : AtBoundary second.toList) (after : Passage tokens second) :
    Passage tokens (first ++ second) := by
  obtain ⟨lexemes, read, contained, apart⟩ := before
  obtain ⟨more, readMore, containedMore, apartMore⟩ := after
  refine ⟨lexemes ++ more, ?_, contained_append _ _ contained containedMore,
    (apart_append tokens 0 0 lexemes more (contained.level 0)).mpr ⟨apart, apartMore⟩⟩
  rw [String.toList_append]
  exact tokenize_append _ _ _ _ read boundary readMore

theorem passage_behind (filler text : String) (before : Filler tokens filler)
    (after : Passage tokens text) : Passage tokens (filler ++ text) := by
  obtain ⟨lexemes, read, contained, apart⟩ := before
  obtain ⟨more, readMore, containedMore, apartMore⟩ := after
  refine ⟨lexemes ++ more, ?_, contained_append _ _ contained containedMore,
    (apart_append tokens 0 0 lexemes more (contained.level 0)).mpr ⟨apart, apartMore⟩⟩
  rw [String.toList_append]
  exact tokenize_closed _ _ _ _ read readMore

theorem passage_between (first filler second : String) (before : Passage tokens first)
    (boundary : ∀ rest, AtBoundary (filler.toList ++ rest)) (between : Filler tokens filler)
    (after : Passage tokens second) : Passage tokens (first ++ filler ++ second) := by
  rw [String.append_assoc]
  refine passage_append tokens first _ before ?_ (passage_behind tokens filler second between after)
  rw [String.toList_append]
  exact boundary _

theorem passage_empty : Passage tokens "" :=
  ⟨[], rfl, contained_nil, trivial⟩

-- The items of a list, or the clauses of a statement.
theorem passage_intercalate (separator : String) (parts : List String)
    (boundary : ∀ rest, AtBoundary (separator.toList ++ rest)) (between : Filler tokens separator)
    (each : ∀ part ∈ parts, Passage tokens part) : Passage tokens (separator.intercalate parts) := by
  induction parts with
  | nil => exact passage_empty tokens
  | cons part rest ih =>
      have first := each part List.mem_cons_self
      have others := ih fun other member => each other (List.mem_cons_of_mem part member)
      cases rest with
      | nil => simpa using first
      | cons next more =>
          rw [String.intercalate_cons_cons]
          exact passage_between tokens _ _ _ first boundary between others

theorem commas_passage (other : .sign [','] ∉ tokens) (texts : List String)
    (each : ∀ text ∈ texts, Passage tokens text) : Passage tokens (Statement.commas texts) :=
  passage_intercalate tokens "," texts at_comma
    (filler_of_read tokens "," [.sign [',']] rfl (by decide) (by simpa using other)) each

theorem passage_bracketed (text : String) (bracketed : Bracketed text) : Passage tokens text := by
  obtain ⟨lexemes, read, contained⟩ := bracketed
  exact ⟨_, read, contained_brackets lexemes [] contained contained_nil,
    apart_brackets tokens 0 lexemes [] contained trivial⟩

theorem passage_grouped (text : String) (closed : Closed text) :
    Passage tokens ("(" ++ text ++ ")") :=
  passage_bracketed tokens _ (bracketed_of_closed text closed)

theorem closed_of_passage (text : String) (passage : Passage tokens text) : Closed text := by
  obtain ⟨lexemes, read, contained, _⟩ := passage
  exact ⟨lexemes, read, contained⟩

theorem passage_of_closed (text : String) (closed : Closed text) : Passage [] text := by
  obtain ⟨lexemes, read, contained⟩ := closed
  exact ⟨lexemes, read, contained, apart_of_absent [] 0 lexemes fun _ _ => List.not_mem_nil⟩

end Composition

theorem closed_outside (text : String) (closed : Closed text) :
    through outside text.toList = outside := by
  obtain ⟨lexemes, read, contained⟩ := closed
  exact through_read text.toList lexemes 0 0 read (contained.level 0)

-- The passage before a mark ends where the mark begins.
theorem passage_split (words : List (List Char)) (whole : ∀ word ∈ words, IsWord word)
    (word : List Char) (member : word ∈ words) (text : String)
    (passage : Passage (words.map .word) text) (rest : List Char) :
    splitFirst? (words.map spaced) outside (text.toList ++ (spaced word ++ rest)) =
      some (text.toList, spaced word ++ rest) := by
  have back := closed_outside text (closed_of_passage _ text passage)
  obtain ⟨lexemes, read, contained, apart⟩ := passage
  refine split_marked _ _ _ rest (List.mem_map_of_mem member) (List.cons_ne_nil _ _) ?_ back
  exact unmarked_of_words words whole _ (at_blank _) .nothing _ 0 0 lexemes trivial read
    (contained.level 0) apart

def statementsOf (text : String) : List String :=
  let (first, more) := divide ";\n".toList 0 outside text.toList
  (first :: more).map String.ofList

theorem closed_unmarked (text : String) (closed : Closed text) (rest : List Char) :
    Unmarked [";\n".toList] outside text.toList rest := by
  obtain ⟨lexemes, read, contained⟩ := closed
  have silent : Apart [.sign [';']] 0 lexemes := by
    refine apart_of_absent _ 0 lexemes fun lexeme member ends => ?_
    rw [List.mem_singleton] at ends
    exact contained.quiet lexeme member (ends ▸ by decide)
  exact unmarked_of_separator ';' ['\n'] (by decide) rest .nothing _ 0 0 lexemes trivial read
    (contained.level 0) silent

-- Closed statements are given back one by one.
theorem statements_of_intercalate (first : String) (more : List String)
    (each : ∀ statement ∈ first :: more, Closed statement) :
    statementsOf (";\n".intercalate (first :: more)) = first :: more := by
  have characters : (";\n".intercalate (first :: more)).toList =
      separated ";\n".toList (first.toList :: more.map String.toList) := by
    rw [String.toList_intercalate, intercalate_separated, List.map_cons]
  have divided := divide_separated ";\n".toList first.toList (more.map String.toList) (by decide)
    fun part member => by
      obtain ⟨statement, inside, rfl⟩ := List.mem_map.mp ((List.map_cons ▸ member :
        part ∈ (first :: more).map String.toList))
      exact ⟨closed_unmarked statement (each statement inside),
        closed_outside statement (each statement inside)⟩
  rw [statementsOf, characters, divided]
  simp [Function.comp_def]

theorem qualifier_closed (schema : String) :
    run .nothing ((Identifier.bracketed schema).toList ++ ".".toList) =
      some ([.name schema.toList, .sign ['.']], .nothing) := by
  have inside := run_name [] schema.toList
  simp [Identifier.bracketed, run, run_append, step, start, restart, finish, loneSigns, inside]

theorem name_tokens (name : String) :
    tokenize (Identifier.bracketed name).toList = some [.name name.toList] := by
  rw [Identifier.bracketed, String.toList_ofList]
  exact tokenize_bracketed name.toList

section Parts

variable (tokens : List Lexeme) (foreign : Foreign tokens)

include foreign

theorem name_passage (name : String) : Passage tokens (Identifier.bracketed name) :=
  ⟨[.name name.toList], name_tokens name, contained_value _ _ rfl contained_nil,
    apart_value tokens foreign 0 _ _ rfl trivial⟩

theorem table_passage (schema name : String) :
    Passage tokens (Identifier.bracketedPair schema name) := by
  refine passage_behind tokens _ _ ⟨[.name schema.toList, .sign ['.']], ?_, ?_, ?_⟩
    (name_passage tokens foreign name)
  · rw [String.toList_append]
    exact qualifier_closed schema
  · exact contained_value _ _ rfl (contained_cons _ _ (by decide) (by decide) contained_nil)
  · exact apart_value tokens foreign 0 _ _ rfl
      (apart_outer tokens foreign 0 _ _ (by decide) (by decide) trivial)

theorem leaf_passage (text : String) (leaf : Leaf) (read : tokenize text.toList = some leaf.tokens) :
    Passage tokens text :=
  ⟨leaf.tokens, read, leaf.tokens_contained, leaf.tokens_apart tokens foreign 0⟩

theorem expression_passage (scope : Scope) (reached : scope.aliases.Reached) (expr : Expr)
    (text : String) (compiled : expr.compile scope = .ok text) : Passage tokens text := by
  obtain ⟨fragment, _, sound, _, read⟩ := Expr.compile_tokens scope reached expr text compiled
  exact ⟨fragment.tokens, read, fragment.tokens_contained,
    fragment.tokens_apart tokens foreign sound 0⟩

theorem alias_passage (count : Nat) : Passage tokens (Aliases.numbered count) :=
  ⟨_, tokenize_word _ (Fragment.numbered_word count), contained_word _ _ contained_nil,
    apart_alias tokens foreign 0 count _ trivial⟩

end Parts

end MappedSql
