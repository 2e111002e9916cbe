import MappedSql.Proofs.Passages

/-!
Parts of a statement as a reader finds them: names between their brackets, clauses between words,
and the items of a list between commas. The reader looks at characters only and minds brackets,
quotes and names; what was put together of closed parts comes apart into the same parts.
-/

namespace MappedSql

open Lexer Cutting Statement

namespace Reading

/-- The rest of a name, and what stands behind its closing bracket. A closing bracket that is
doubled belongs to the name. -/
def nameRest? : List Char → Option (List Char × List Char)
  | [] => none
  | ']' :: ']' :: rest => (nameRest? rest).map fun read => (']' :: read.1, read.2)
  | c :: rest =>
      if c = ']' then some ([], rest)
      else (nameRest? rest).map fun read => (c :: read.1, read.2)

def name? : List Char → Option (String × List Char)
  | '[' :: rest => (nameRest? rest).map fun read => (String.ofList read.1, read.2)
  | _ => none

-- A doubled bracket is read as one and never as the end, so the end is the first bracket that is not
-- doubled; `stops` says that what follows does not double it.
theorem name_rest_escape (content rest : List Char) (stops : rest.head? ≠ some ']') :
    nameRest? (Identifier.escape content ++ ']' :: rest) = some (content, rest) := by
  induction content with
  | nil =>
      cases rest with
      | nil => rfl
      | cons c more =>
          have other : c ≠ ']' := by simpa using stops
          simp [Identifier.escape, nameRest?, other]
  | cons c content ih =>
      by_cases bracket : c = ']'
      · subst bracket
        simp [Identifier.escape, nameRest?, ih]
      · simp [Identifier.escape, nameRest?, bracket, ih]

theorem name_bracketed (name : String) (rest : List Char) (stops : rest.head? ≠ some ']') :
    name? ((Identifier.bracketed name).toList ++ rest) = some (name, rest) := by
  simp [Identifier.bracketed, name?, name_rest_escape name.toList rest stops]

def wholeName? (text : List Char) : Option String :=
  match name? text with
  | some (name, []) => some name
  | _ => none

theorem whole_name_bracketed (name : String) :
    wholeName? (Identifier.bracketed name).toList = some name := by
  have read := name_bracketed name [] (by simp)
  rw [List.append_nil] at read
  rw [wholeName?, read]

-- What stands behind a beginning.
theorem front_read (beginning : String) (rest : List Char) :
    (beginning.toList ++ rest).dropPrefix? beginning.toList = some rest :=
  List.dropPrefix?_append_of_beq _ BEq.rfl

def tableName? (text : List Char) : Option ((String × String) × List Char) := do
  let (schema, behind) ← name? text
  let dotted ← behind.dropPrefix? ".".toList
  let (table, rest) ← name? dotted
  return ((schema, table), rest)

theorem table_name_pair (schema table : String) (rest : List Char)
    (stops : rest.head? ≠ some ']') :
    tableName? ((Identifier.bracketedPair schema table).toList ++ rest) =
      some ((schema, table), rest) := by
  have first := name_bracketed schema (".".toList ++ ((Identifier.bracketed table).toList ++ rest))
    (by simp)
  have second := name_bracketed table rest stops
  simp only [Identifier.bracketedPair, String.toList_append, List.append_assoc, tableName?, first,
    front_read, second, Option.bind_eq_bind, Option.bind_some]
  rfl

def wholeTableName? (text : List Char) : Option (String × String) :=
  match tableName? text with
  | some (pair, []) => some pair
  | _ => none

theorem whole_table_name_pair (schema table : String) :
    wholeTableName? (Identifier.bracketedPair schema table).toList = some (schema, table) := by
  have read := table_name_pair schema table [] (by simp)
  rw [List.append_nil] at read
  rw [wholeTableName?, read]

def clause? (word : String) (text : List Char) : Option (List Char × List Char) :=
  (splitFirst? [spaced word.toList] outside text).map fun parts =>
    (parts.1, parts.2.drop (spaced word.toList).length)

-- The word stands outside of brackets for the first time where the clause begins.
theorem clause_read (word : String) (whole : IsWord word.toList) (text : String)
    (passage : Passage [keyword word] text) (rest : List Char) :
    clause? word (text.toList ++ (spaced word.toList ++ rest)) = some (text.toList, rest) := by
  have split := passage_split [word.toList] (by simpa using whole) word.toList
    List.mem_cons_self text passage rest
  rw [List.map_singleton] at split
  rw [clause?, split, Option.map_some, List.drop_left]

def between? (beginning ending text : List Char) : Option (List Char) :=
  (text.dropPrefix? beginning).bind (·.dropSuffix? ending)

theorem between_read (beginning text ending : String) :
    between? beginning.toList ending.toList (beginning ++ text ++ ending).toList =
      some text.toList := by
  rw [between?, String.toList_append, String.toList_append, List.append_assoc, front_read,
    Option.bind_some, List.dropSuffix?_eq_some_iff]
  exact ⟨ending.toList, rfl, BEq.rfl⟩

def items (text : List Char) : List (List Char) :=
  let (first, more) := divide [','] 0 outside text
  first :: more

def Item (text : String) : Prop :=
  Passage [.sign [',']] text

theorem item_unmarked (text : String) (item : Item text) (rest : List Char) :
    Unmarked [[',']] outside text.toList rest := by
  obtain ⟨lexemes, read, contained, apart⟩ := item
  exact unmarked_of_separator ',' [] (by decide) rest .nothing _ 0 0 lexemes trivial read
    (contained.level 0) apart

-- Nothing outside within an item is a comma, so the list comes apart where it was put together.
theorem items_commas (texts : List String) (present : texts ≠ [])
    (each : ∀ text ∈ texts, Item text) :
    items (commas texts).toList = texts.map String.toList := by
  cases texts with
  | nil => exact absurd rfl present
  | cons first more =>
      have divided := divide_separated [','] first.toList (more.map String.toList) (by simp)
        fun part member => by
          obtain ⟨text, inside, rfl⟩ := List.mem_map.mp ((List.map_cons ▸ member :
            part ∈ (first :: more).map String.toList))
          exact ⟨item_unmarked text (each text inside),
            closed_outside text (closed_of_passage _ text (each text inside))⟩
      rw [items, commas, commas_separated, List.map_cons, divided]

theorem commas_closed (texts : List String) (each : ∀ text ∈ texts, Item text) :
    Closed (commas texts) :=
  closed_of_passage [] _ (commas_passage [] List.not_mem_nil texts fun text member =>
    passage_of_closed text (closed_of_passage _ text (each text member)))

def each? {α : Type} (read : List Char → Option α) (text : List Char) : Option (List α) :=
  (items text).mapM read

theorem each_present {α : Type} (read : List Char → Option α) (text : List Char)
    (values : List α) (found : each? read text = some values) : values ≠ [] := by
  rw [each?, items, List.mapM_cons] at found
  obtain ⟨first, _, rest⟩ := Option.bind_eq_some_iff.mp found
  obtain ⟨others, _, same⟩ := Option.bind_eq_some_iff.mp rest
  rw [← Option.some.inj same]
  exact List.cons_ne_nil first others

theorem mapM_written {α β : Type} (read : β → Option α) (write : α → β) (values : List α)
    (back : ∀ value ∈ values, read (write value) = some value) :
    (values.map write).mapM read = some values := by
  induction values with
  | nil => rfl
  | cons value rest ih =>
      have later := ih fun other member => back other (List.mem_cons_of_mem value member)
      rw [List.map_cons, List.mapM_cons, later]
      simp [back value List.mem_cons_self]

theorem each_read {α : Type} (read : List Char → Option α) (write : α → String) (values : List α)
    (present : values ≠ []) (item : ∀ value ∈ values, Item (write value))
    (back : ∀ value ∈ values, read (write value).toList = some value) :
    each? read (commas (values.map write)).toList = some values := by
  have split := items_commas (values.map write) (by simpa using present) (by simpa using item)
  rw [each?, split, List.map_map]
  exact mapM_written read (String.toList ∘ write) values back

theorem bracketed_item (text : String) (bracketed : Bracketed text) : Item text :=
  passage_bracketed _ text bracketed

theorem leaf_item (text : String) (leaf : Leaf) (read : tokenize text.toList = some leaf.tokens) :
    Item text := by
  refine passage_of_read _ text leaf.tokens read leaf.tokens_contained ?_
  cases leaf with
  | number negative digits => cases negative <;> simp [Leaf.tokens]
  | _ => simp [Leaf.tokens]

theorem name_item (name : String) : Item (Identifier.bracketed name) :=
  passage_of_read _ _ _ (name_tokens name) (contained_value _ _ rfl contained_nil) (by simp)

theorem names_closed (names : List String) : Closed (commas (names.map Identifier.bracketed)) :=
  commas_closed _ fun text member => by
    obtain ⟨name, _, rfl⟩ := List.mem_map.mp member
    exact name_item name

theorem names_read (names : List String) (present : names ≠ []) :
    each? wholeName? (commas (names.map Identifier.bracketed)).toList = some names :=
  each_read wholeName? Identifier.bracketed names present (fun name _ => name_item name)
    fun name _ => whole_name_bracketed name

theorem texts_read (texts : List String) (present : texts ≠ []) (each : ∀ text ∈ texts, Item text) :
    each? (some ∘ String.ofList) (commas texts).toList = some texts := by
  have read := each_read (some ∘ String.ofList) id texts present each fun text _ => by simp
  rwa [List.map_id] at read

-- A list with a blank on either side between its brackets.
theorem padded_bracketed (text : String) (closed : Closed text) :
    Bracketed ("( " ++ text ++ " )") := by
  have after : Passage [] (text ++ " ") :=
    passage_append [] text " " (passage_of_closed text closed) (at_blank [])
      ⟨[], rfl, contained_nil, trivial⟩
  have padded := passage_behind [] " " _ (filler_of_read [] " " [] rfl (by simp) (by simp)) after
  have split : "( " ++ text ++ " )" = "(" ++ (" " ++ (text ++ " ")) ++ ")" := by
    have opening : "( " = "(" ++ " " := rfl
    have closing : " )" = " " ++ ")" := rfl
    simp only [opening, closing, String.append_assoc]
  rw [split]
  exact bracketed_of_closed _ (closed_of_passage [] _ padded)

end Reading

end MappedSql
