import MappedSql.Proofs.Projections
import MappedSql.Proofs.SelectorKeys

/-!
Directions of a sorting. A step of a query appends its direction once, behind whatever its selector
is written as. So of several keys only the last is sorted in the direction that the step asks for,
and the others are left to the default.
-/

namespace MappedSql

open Lexer Cutting Outcome Statement Reading

def Directed (order : SortOrder) (key : List Char) : Prop :=
  ∃ before, tokenize key = some (before ++ [keyword order.text])

theorem SortOrder.behind_read (order : SortOrder) :
    tokenize (" " ++ order.text).toList = some [keyword order.text] := by
  cases order <;> rfl

theorem SortOrder.behind_boundary (order : SortOrder) : AtBoundary (" " ++ order.text).toList := by
  rw [String.toList_append]
  exact at_blank _

theorem SortKey.followed {key : String} (own : SortKey key) (order : SortOrder) :
    Directed order (key ++ (" " ++ order.text)).toList := by
  obtain ⟨lexemes, read, _⟩ := own
  exact ⟨lexemes, by
    rw [String.toList_append]
    exact tokenize_append _ _ _ _ read order.behind_boundary order.behind_read⟩

-- The last token of a closed text stands outside of its brackets.
theorem SortKey.undirected {key : String} (own : SortKey key) (order : SortOrder) :
    ¬ Directed order key.toList := by
  rintro ⟨before, directed⟩
  obtain ⟨lexemes, read, contained, apart⟩ := own
  obtain rfl := Option.some.inj (read.symm.trans directed)
  have level := contained.level 0
  rw [depth_append] at level
  obtain ⟨depth, middle, last⟩ := Option.bind_eq_some_iff.mp level
  have word : keyword order.text ≠ opening ∧ keyword order.text ≠ closing := by
    simp [keyword, opening, closing]
  have outside : depth = 0 := by simpa [depthAfter, word.1, word.2] using last
  have absent := ((apart_append sortTokens 0 depth before _ middle).mp apart).2
  simp only [Apart, word.1, word.2, ↓reduceIte] at absent
  exact absent.1 outside (by cases order <;> decide)

/-- The keys that a step contributes, next to its selector and its order: as many as the selector
is written as, of which the last one is directed. -/
structure KeysOf (tables : Aliases) (sorting : Lambda × SortOrder) (keys : List (List Char)) :
    Prop where
  written : ∃ selector, sorting.1.body.compile ⟨tables, false⟩ = .ok selector ∧
    keys = items (selector ++ " " ++ sorting.2.text).toList
  count : keys.length = sorting.1.body.keyCount
  last : ∃ key ∈ keys.getLast?, Directed sorting.2 key
  directed_iff : (∀ key ∈ keys, Directed sorting.2 key) ↔ sorting.1.body.keyCount = 1

def Sorts (tables : Aliases) (sorting : Lambda × SortOrder) (text : String) : Prop :=
  ∃ selector, sorting.1.body.compile ⟨tables, false⟩ = .ok selector ∧
    text = selector ++ " " ++ sorting.2.text

theorem SortKey.item {key : String} (own : SortKey key) : Item key := by
  obtain ⟨lexemes, read, contained, apart⟩ := own
  exact ⟨lexemes, read, contained, apart_mono _ _ (by decide) 0 lexemes apart⟩

theorem SortKey.followed_item {key : String} (own : SortKey key) (order : SortOrder) :
    Item (key ++ (" " ++ order.text)) :=
  passage_append _ _ _ own.item order.behind_boundary
    (passage_of_read _ _ _ order.behind_read (contained_word _ _ contained_nil) (by simp [keyword]))

-- The keyword goes to the last key alone, and before it there is no keyword.
theorem sorts_items (tables : Aliases) (reached : tables.Reached) (sorting : Lambda × SortOrder)
    (text : String) (sorts : Sorts tables sorting text) :
    ∃ keys, keys ≠ [] ∧ text = commas keys ∧ (∀ key ∈ keys, Item key) ∧
      KeysOf tables sorting (keys.map String.toList) := by
  obtain ⟨selector, compiled, rfl⟩ := sorts
  obtain ⟨fragment, lowers, sound, rfl, _⟩ :=
    Expr.compile_tokens ⟨tables, false⟩ reached sorting.1.body selector compiled
  obtain ⟨parts, written, count⟩ := Expr.lowers_written _ rfl _ _ fragment lowers sound
  obtain ⟨init, last, rfl⟩ := (List.eq_nil_or_concat' parts).resolve_left written.present
  have all := written.each
  rw [List.forall_mem_append, List.forall_mem_singleton] at all
  obtain ⟨before, own⟩ := all
  have text : fragment.render ++ " " ++ sorting.2.text =
      commas (init ++ [last ++ (" " ++ sorting.2.text)]) := by
    have joined := Parts.commas_joined (init ++ [last]) [" " ++ sorting.2.text] written.present
    have alone : commas [" " ++ sorting.2.text] = " " ++ sorting.2.text :=
      String.intercalate_singleton
    rw [Parts.joined_concat, ← written.text, alone] at joined
    rw [String.append_assoc]
    exact joined.symm
  have each : ∀ key ∈ init ++ [last ++ (" " ++ sorting.2.text)], Item key := by
    rw [List.forall_mem_append, List.forall_mem_singleton]
    exact ⟨fun key member => (before key member).item, own.followed_item sorting.2⟩
  have directed := own.followed sorting.2
  refine ⟨_, by simp, text, each, ⟨_, compiled, ?_⟩, by simpa using count, ⟨_, ?_, directed⟩, ?_⟩
  · rw [text, items_commas _ (by simp) each]
  · simp
  · rw [← count, List.length_append, List.length_singleton]
    constructor
    · intro every
      cases init with
      | nil => rfl
      | cons first more =>
          have plain := (before first List.mem_cons_self).undirected sorting.2
          exact absurd (every first.toList (by simp)) plain
    · intro single
      obtain rfl : init = [] := List.length_eq_zero_iff.mp (by omega)
      simpa using directed

theorem sorts_all (tables : Aliases) (reached : tables.Reached)
    (sortings : List (Lambda × SortOrder)) (texts : List String)
    (sorts : List.Forall₂ (Sorts tables) sortings texts) :
    ∃ keys : List (List String), (texts ≠ [] → keys.flatten ≠ []) ∧
      commas texts = commas keys.flatten ∧ (∀ key ∈ keys.flatten, Item key) ∧
      List.Forall₂ (KeysOf tables) sortings (keys.map (·.map String.toList)) := by
  induction sorts with
  | nil => exact ⟨[], fun present => absurd rfl present, rfl, by simp, .nil⟩
  | @cons sorting text sortings texts first behind ih =>
      obtain ⟨own, ownPresent, rfl, each, keysOf⟩ := sorts_items tables reached sorting text first
      obtain ⟨keys, present, rest, others, all⟩ := ih
      refine ⟨own :: keys, fun _ => by simp [ownPresent], ?_, ?_, .cons keysOf all⟩
      · rw [List.flatten_cons]
        cases texts with
        | nil =>
            obtain rfl := List.forall₂_nil_right_iff.mp behind
            obtain rfl := List.map_eq_nil_iff.mp (List.forall₂_nil_left_iff.mp all)
            rw [List.flatten_nil, List.append_nil]
            exact String.intercalate_singleton
        | cons next more =>
            have later := List.cons_ne_nil next more
            rw [Parts.commas_cons _ _ later, rest, Parts.commas_append _ _ ownPresent (present later)]
      · rw [List.flatten_cons, List.forall_mem_append]
        exact ⟨each, others⟩

theorem Expr.compile_keeps (before after : Aliases) (keeps : before.Keeps after) (names : Bool)
    (expr : Expr) (text : String) (compiled : expr.compile ⟨before, names⟩ = .ok text) :
    expr.compile ⟨after, names⟩ = .ok text := by
  obtain ⟨fragment, lowered, rendered⟩ := map_ok_iff.mp compiled
  exact map_ok_iff.mpr ⟨fragment, lower_keeps keeps names expr none fragment lowered, rendered⟩

theorem Aliases.extends_keeps (before after : Aliases) (extension : before.Extends after) :
    before.Keeps after := by
  obtain ⟨newcomers, grown, _⟩ := extension
  intro type participant found
  refine ⟨participant.isTarget, ?_⟩
  rw [find?, grown, List.find?_append]
  simp only [find?] at found
  rw [found, Option.some_or]

namespace SelectDraft

def sorting? (query : SelectDraft) : Step → Option (Lambda × SortOrder)
  | .orderBy selector order =>
      if (query.apply (.orderBy selector order)).draft.fault.isNone then some (selector, order)
      else none
  | _ => none

def sortings (query : SelectDraft) : List Step → List (Lambda × SortOrder)
  | [] => []
  | step :: rest => (query.sorting? step).toList ++ sortings (query.apply step) rest

theorem attempt_order (query : SelectDraft) (step : SelectDraft → SelectDraft)
    (kept : (step query).order = query.order) : (query.attempt step).order = query.order := by
  unfold attempt
  split_ifs
  · rfl
  · exact kept

theorem choosing_order (query : SelectDraft) (step : SelectDraft → SelectDraft)
    (kept : (step query).order = query.order) : (query.choosing step).order = query.order := by
  refine query.attempt_order _ ?_
  split_ifs
  · rfl
  · exact kept

theorem order_by_cases (query : SelectDraft) (selector : Lambda) (order : SortOrder) :
    ((query.orderBy selector order).draft.fault ≠ none ∧
      (query.orderBy selector order).order = query.order) ∨
    ((query.orderBy selector order).draft.fault = query.draft.fault ∧
      ∃ text, selector.body.compile ⟨(query.orderBy selector order).draft.aliases, false⟩ = .ok text ∧
        (query.orderBy selector order).order = query.order ++ [text ++ " " ++ order.text]) := by
  unfold orderBy
  cases compiled : query.draft.compile selector false with
  | mk entered outcome =>
      cases outcome with
      | error fault => exact .inl ⟨Option.some_ne_none fault, rfl⟩
      | ok text =>
          obtain ⟨aliases, _, rfl, written⟩ := query.draft.compile_entered _ _ _ _ compiled
          exact .inr ⟨rfl, text, written, rfl⟩

theorem order_by_order (query : SelectDraft) (selector : Lambda) (order : SortOrder) :
    ∃ texts, (query.apply (.orderBy selector order)).order = query.order ++ texts ∧
      List.Forall₂ (Sorts (query.apply (.orderBy selector order)).draft.aliases)
        (query.sorting? (.orderBy selector order)).toList texts := by
  have refused (failed : (query.apply (.orderBy selector order)).draft.fault ≠ none) :
      query.sorting? (.orderBy selector order) = none :=
    if_neg (by simpa using failed)
  cases before : query.draft.fault with
  | some fault =>
      have idle : query.apply (.orderBy selector order) = query := by
        simp only [apply, attempt, before, Option.isSome_some, ↓reduceIte]
      refine ⟨[], by rw [idle, List.append_nil], ?_⟩
      rw [refused (by rw [idle, before]; exact Option.some_ne_none fault)]
      exact .nil
  | none =>
      have done : query.apply (.orderBy selector order) = query.orderBy selector order := by
        simp only [apply, attempt, before, Option.isSome_none, Bool.false_eq_true, ↓reduceIte]
      rcases query.order_by_cases selector order with ⟨failed, kept⟩ | ⟨same, text, written, grown⟩
      · refine ⟨[], by rw [done, kept, List.append_nil], ?_⟩
        rw [refused (by rwa [done])]
        exact .nil
      · have asked : query.sorting? (.orderBy selector order) = some (selector, order) :=
          if_pos (by rw [done, same, before]; rfl)
        rw [asked, done]
        exact ⟨_, grown, .cons ⟨text, written, rfl⟩ .nil⟩

theorem apply_order (query : SelectDraft) (step : Step) :
    ∃ texts, (query.apply step).order = query.order ++ texts ∧
      List.Forall₂ (Sorts (query.apply step).draft.aliases) (query.sorting? step).toList texts := by
  have nothing (other : query.sorting? step = none) (kept : (query.apply step).order = query.order) :
      ∃ texts, (query.apply step).order = query.order ++ texts ∧
        List.Forall₂ (Sorts (query.apply step).draft.aliases) (query.sorting? step).toList texts :=
    ⟨[], by rw [kept, List.append_nil], by rw [other]; exact .nil⟩
  cases step with
  | orderBy selector order => exact query.order_by_order selector order
  | project projection =>
      refine nothing rfl (query.choosing_order _ ?_)
      unfold project
      split <;> rfl
  | projectTable entity =>
      refine nothing rfl (query.choosing_order _ ?_)
      unfold projectTable
      split <;> rfl
  | projectParticipants => exact nothing rfl (query.choosing_order _ rfl)
  | inject columns =>
      refine nothing rfl (query.attempt_order _ ?_)
      unfold inject
      dsimp only
      split <;> rfl
  | _ => exact nothing rfl rfl

theorem steps_order (query : SelectDraft) (steps : List Step) :
    ∃ texts, (steps.foldl apply query).order = query.order ++ texts ∧
      List.Forall₂ (Sorts (steps.foldl apply query).draft.aliases) (sortings query steps) texts := by
  induction steps generalizing query with
  | nil => exact ⟨[], (List.append_nil _).symm, .nil⟩
  | cons step rest ih =>
      obtain ⟨own, first, sorts⟩ := query.apply_order step
      obtain ⟨more, later, sortsLater⟩ := ih (query.apply step)
      have extension : (query.apply step).draft.aliases.Extends
          (rest.foldl apply (query.apply step)).draft.aliases :=
        FilteredDraft.steps_extend JoiningDraft.prepares (query.apply step) rest
      have keeps := Aliases.extends_keeps _ _ extension
      refine ⟨own ++ more, ?_, ?_⟩
      · rw [List.foldl_cons, later, first, List.append_assoc]
      · refine List.rel_append (sorts.imp ?_) sortsLater
        rintro sorting _ ⟨selector, compiled, rfl⟩
        exact ⟨selector, Expr.compile_keeps _ _ keeps false _ selector compiled, rfl⟩

end SelectDraft

def SelectStatement.unsorted (statement : SelectStatement) : SelectStatement :=
  { statement with order := [] }

theorem SelectStatement.render_order (statement : SelectStatement) (sorted : statement.order ≠ []) :
    statement.render = statement.unsorted.render ++ " ORDER BY " ++ commas statement.order := by
  have split (parts : List String) (present : parts ≠ []) :
      clauses (parts ++ ["ORDER BY", commas statement.order]) =
        clauses (parts ++ []) ++ " ORDER BY " ++ commas statement.order := by
    have behind : clauses (parts ++ ["ORDER BY", commas statement.order]) =
        clauses parts ++ " " ++ clauses ["ORDER BY", commas statement.order] :=
      String.intercalate_append_of_ne_nil present (List.cons_ne_nil _ _)
    rw [behind, List.append_nil, ← String.toList_inj]
    simp [clauses]
  have there : statement.order.isEmpty = false := by simpa using sorted
  rw [render, render, there, if_neg Bool.false_ne_true, split _ (by simp)]
  rfl

namespace SelectDraft

/-- Of a query that is built, or written although a step was refused, the keys of the sorting are
those of the steps that order the rows, one behind the other. All keys of a step are directed as it
asks for just when its selector is written as one key: the keyword stands behind the last alone. -/
theorem sorting_directed_iff (source : EntityType) (steps : List Step) (text : String)
    (written : StatementDraft.write (run source steps) = .ok text) :
    ∃ statement, (run source steps).statement = .ok statement ∧ text = statement.render ∧
      (sortings (start source) steps = [] → text = statement.unsorted.render) ∧
      (sortings (start source) steps ≠ [] → ∃ list keys,
        text = statement.unsorted.render ++ " ORDER BY " ++ list ∧
        items list.toList = keys.flatten ∧
        List.Forall₂ (KeysOf (run source steps).draft.aliases) (sortings (start source) steps)
          keys) := by
  obtain ⟨statement, stated, rfl⟩ := map_ok_iff.mp written
  obtain ⟨texts, ordered, sorts⟩ := (start source).steps_order steps
  have order : statement.order = texts := by
    obtain ⟨target, _, same⟩ := bind_ok_iff.mp stated
    rw [← pure_ok_iff.mp same]
    exact ordered.trans (List.nil_append _)
  have reached : (run source steps).draft.aliases.Reached :=
    FilteredDraft.run_reached (start source) steps (Draft.start_reached source)
  refine ⟨statement, stated, rfl, fun unsorted => ?_, fun sorted => ?_⟩
  · rw [unsorted] at sorts
    cases sorts
    rw [SelectStatement.unsorted, ← order]
  · have present : texts ≠ [] := by
      rintro rfl
      exact sorted (List.forall₂_nil_right_iff.mp sorts)
    obtain ⟨keys, filled, list, each, all⟩ := sorts_all _ reached _ texts sorts
    refine ⟨commas texts, _, ?_, ?_, all⟩
    · rw [statement.render_order (order ▸ present), order]
    · rw [list, items_commas _ (filled present) each, List.map_flatten]

def membership : Lambda :=
  ⟨[⟨"Person", Sample.person⟩],
    .contains (.constant (.list [.text "a,b DESC", .text "c"])) (.column "Person" "name")⟩

def byName : Lambda :=
  ⟨[⟨"Person", Sample.person⟩], .column "Person" "name"⟩

def byKeyAndName : Lambda :=
  ⟨[⟨"Person", Sample.person⟩],
    .object [("a", .column "Person" "id"), ("b", .column "Person" "name")]⟩

def sortedSteps : List Step :=
  [.orderBy membership .descending, .orderBy byName .ascending,
    .orderBy ⟨[⟨"Draft", Sample.tableless⟩], .column "Draft" "id"⟩ .ascending,
    .orderBy byKeyAndName .descending]

def sortedText : String :=
  "SELECT * FROM [dbo].[Person] t0 WITH (NOLOCK) ORDER BY t0.[Name] IN ('a,b DESC','c') DESC,t0.[Name] ASC"

theorem sorted_steps_directed :
    StatementDraft.write (run ⟨"Person", Sample.person⟩ sortedSteps) = .ok sortedText ∧
      ∃ statement list keys,
        (run ⟨"Person", Sample.person⟩ sortedSteps).statement = .ok statement ∧
        sortedText = statement.unsorted.render ++ " ORDER BY " ++ list ∧
        items list.toList = keys.flatten ∧
        List.Forall₂ (KeysOf (run ⟨"Person", Sample.person⟩ sortedSteps).draft.aliases)
          [(membership, .descending), (byName, .ascending)] keys ∧
        membership.body.keyCount = 1 ∧ byName.body.keyCount = 1 := by
  obtain ⟨statement, stated, text, _, sorted⟩ :=
    sorting_directed_iff ⟨"Person", Sample.person⟩ sortedSteps sortedText rfl
  obtain ⟨list, keys, whole, cut, each⟩ := sorted (List.cons_ne_nil _ _)
  exact ⟨rfl, statement, list, keys, stated, whole, cut, each, rfl, rfl⟩

/-- Of two keys that are to be sorted in descending order the first is left to the default. -/
theorem first_key_undirected :
    StatementDraft.build (run ⟨"Person", Sample.person⟩ [.orderBy byKeyAndName .descending]) =
        .ok "SELECT * FROM [dbo].[Person] t0 WITH (NOLOCK) ORDER BY t0.[Id],t0.[Name] DESC" ∧
      items "t0.[Id],t0.[Name] DESC".toList = ["t0.[Id]".toList, "t0.[Name] DESC".toList] ∧
      ¬ Directed .descending "t0.[Id]".toList ∧ Directed .descending "t0.[Name] DESC".toList := by
  refine ⟨rfl, by decide +kernel, ?_, ⟨[.word "t0".toList, .sign ['.'], .name "Name".toList], rfl⟩⟩
  rintro ⟨before, directed⟩
  have read : tokenize "t0.[Id]".toList =
      some ([.word "t0".toList, .sign ['.']] ++ [.name "Id".toList]) := rfl
  have last := List.append_inj_right' (Option.some.inj (read.symm.trans directed)) rfl
  cases last

end SelectDraft

end MappedSql
