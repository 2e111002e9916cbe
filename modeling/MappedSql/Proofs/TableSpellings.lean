import MappedSql.Proofs.Joins
import MappedSql.Proofs.QualifiedNames
import MappedSql.Proofs.AcceptedMappings
import Mathlib.Data.List.Find

/-!
The spellings of a schema and a table: with a point between them, and with brackets around each. A
participant is recognised by both. A table that no participant has is written by its name, and there
the brackets of the second spelling are taken for a part of the names.
-/

namespace MappedSql

open Outcome

namespace Identifier

def signs : List Char := ['.', '[', ']']

def IsPlain (name : String) : Prop :=
  ∀ sign ∈ signs, sign ∉ name.toList

-- The signs of the list are gone through, not all characters that there are.
instance (name : String) : Decidable (IsPlain name) :=
  List.decidableBAll (· ∉ name.toList) signs

end Identifier

open Identifier

namespace Text

def folded (text : String) : String :=
  String.ofList (text.toList.map foldChar)

theorem same_folded_iff (first second : String) :
    sameIgnoringCase first second = true ↔ folded first = folded second := by
  rw [sameIgnoringCase, beq_iff_eq, folded, folded, String.ofList_inj]

theorem folded_append (first second : String) :
    folded (first ++ second) = folded first ++ folded second := by
  simp [folded]

theorem folded_length (text : String) : (folded text).length = text.length := by
  rw [folded, String.length_ofList, List.length_map, String.length_toList]

-- No capital becomes one of the signs, and none of the signs becomes anything else.
theorem fold_char_sign (c sign : Char) (among : sign ∈ signs) : foldChar c = sign ↔ c = sign := by
  unfold foldChar
  split_ifs with capital
  · have low : 65 ≤ c.toNat := capital.1
    have high : c.toNat ≤ 90 := capital.2
    have small : ∀ place < 26, Char.ofNat (65 + place + 32) ∉ signs := by decide
    have large : ¬ (65 ≤ sign.toNat ∧ sign.toNat ≤ 90) := by
      simp only [signs, List.mem_cons, List.not_mem_nil, or_false] at among
      rcases among with rfl | rfl | rfl <;> decide
    constructor
    · rintro rfl
      have letter := small (c.toNat - 65) (by omega)
      rw [show 65 + (c.toNat - 65) = c.toNat by omega] at letter
      exact absurd among letter
    · rintro rfl
      exact absurd ⟨low, high⟩ large
  · exact Iff.rfl

theorem folded_sign (text : String) (sign : Char) (among : sign ∈ signs) :
    sign ∈ (folded text).toList ↔ sign ∈ text.toList := by
  simp [folded, fold_char_sign _ sign among]

end Text

open Text

namespace Identifier

theorem same_name_iff (first second : String) :
    sameName first second = true ↔ folded first = folded second :=
  same_folded_iff first second

theorem same_name_length (first second : String) (same : sameName first second = true) :
    first.length = second.length := by
  rw [← folded_length first, (same_name_iff first second).mp same, folded_length]

-- A sign in one of two names and not in the other tells them apart.
theorem unlike_of_sign (first second : String) (sign : Char) (among : sign ∈ signs)
    (there : sign ∈ first.toList) (absent : sign ∉ second.toList) :
    sameName first second = false := by
  rw [Bool.eq_false_iff]
  intro same
  have folds := (folded_sign first sign among).mpr there
  rw [(same_name_iff first second).mp same] at folds
  exact absent ((folded_sign second sign among).mp folds)

theorem escape_folded (chars : List Char) :
    (escape chars).map foldChar = escape (chars.map foldChar) := by
  induction chars with
  | nil => rfl
  | cons c rest ih =>
      by_cases closing : c = ']'
      · have kept : foldChar c = ']' := (fold_char_sign c ']' (by decide)).mpr closing
        simp [escape, closing, ← ih, closing ▸ kept]
      · have other : foldChar c ≠ ']' := mt (fold_char_sign c ']' (by decide)).mp closing
        simp [escape, closing, other, ih]

theorem bracketed_folded (name : String) : folded (bracketed name) = bracketed (folded name) := by
  have opening : foldChar '[' = '[' := by decide
  have closing : foldChar ']' = ']' := by decide
  simp [folded, bracketed, escape_folded, opening, closing]

theorem pair_folded (schema table : String) :
    folded (bracketedPair schema table) = bracketedPair (folded schema) (folded table) := by
  have point : folded "." = "." := by decide
  simp only [bracketedPair, folded_append, bracketed_folded, point]

theorem same_pair_iff (schema table otherSchema otherTable : String) :
    sameName (bracketedPair schema table) (bracketedPair otherSchema otherTable) = true ↔
      sameName schema otherSchema = true ∧ sameName table otherTable = true := by
  simp only [same_name_iff, pair_folded, bracketed_pair_inj]

-- A text with one point is cut there alone.
theorem same_dotted_iff (first second before after : String) (one : '.' ∉ first.toList)
    (last : '.' ∉ second.toList) :
    sameName (first ++ "." ++ second) (before ++ "." ++ after) = true ↔
      sameName first before = true ∧ sameName second after = true := by
  have point : folded "." = "." := by decide
  have free := mt (folded_sign first '.' (by decide)).mp one
  have ends := mt (folded_sign second '.' (by decide)).mp last
  have chars (left right : String) :
      (left ++ "." ++ right).toList = left.toList ++ '.' :: right.toList := by simp
  simp only [same_name_iff, folded_append, point, ← String.toList_inj, chars]
  rw [List.append_cons_inj_of_notMem free ends, and_iff_right rfl]

theorem escape_length (chars : List Char) : chars.length ≤ (escape chars).length := by
  induction chars with
  | nil => exact Nat.le_refl _
  | cons c rest ih =>
      rw [escape]
      split_ifs <;> simp only [List.length_cons] <;> omega

theorem bracketed_length (name : String) :
    (bracketed name).length = (escape name.toList).length + 2 := by
  rw [bracketed, String.length_ofList, List.length_cons, List.length_append, List.length_singleton]

-- Brackets around bracketed names are more brackets.
theorem bracketed_twice_longer (schema table : String) :
    (bracketedPair schema table).length <
      (bracketedPair (bracketed schema) (bracketed table)).length := by
  have first := escape_length (bracketed schema).toList
  have second := escape_length (bracketed table).toList
  simp only [String.length_toList, bracketed_length] at first second
  simp only [bracketedPair, String.length_append, bracketed_length]
  omega

theorem escape_plain (chars : List Char) (free : ']' ∉ chars) : escape chars = chars := by
  induction chars with
  | nil => rfl
  | cons c rest ih =>
      obtain ⟨other, later⟩ := List.ne_and_not_mem_of_not_mem_cons free
      rw [escape, if_neg (Ne.symm other), ih later]

theorem bracketed_plain (name : String) (plain : IsPlain name) :
    (bracketed name).toList = '[' :: (name.toList ++ [']']) := by
  rw [bracketed, String.toList_ofList, escape_plain _ (plain ']' (by decide))]

theorem pair_plain (schema table : String) (plainSchema : IsPlain schema)
    (plainTable : IsPlain table) :
    "[" ++ schema ++ "].[" ++ table ++ "]" = bracketedPair schema table := by
  simp [← String.toList_inj, bracketedPair, bracketed_plain, plainSchema, plainTable]

theorem bracketed_point (name : String) (plain : IsPlain name) : '.' ∉ (bracketed name).toList := by
  rw [bracketed_plain name plain]
  simpa using plain '.' (by decide)

theorem bracketed_usable (name : String) (plain : IsPlain name) (usable : check name = .ok ()) :
    check (bracketed name) = .ok () := by
  have present : Text.isBlank (bracketed name) = false := by
    have opening : isBlankChar '[' = false := by decide
    simp [Text.isBlank, bracketed_plain name plain, opening]
  have whole : name.toList.contains (Char.ofNat 0) = false := by
    unfold check at usable
    split_ifs at usable with _ nul
    exact Bool.not_eq_true _ ▸ nul
  have bracketedWhole : (bracketed name).toList.contains (Char.ofNat 0) = false := by
    rw [bracketed_plain name plain]
    simpa using whole
  rw [check, present, bracketedWhole]
  rfl

end Identifier

/-! A participant is recognised by comparing a text with three spellings of its own name. A point
or a bracket in the text tells which of them it can be. -/

section Recognition

variable (schema name : String) (plainSchema : IsPlain schema) (plainName : IsPlain name)

namespace Table

def isCalled (table : Table) (schema name : String) : Bool :=
  sameName schema table.schema && sameName name table.name

include plainSchema plainName

theorem named_with_point (table : Table) (plain : IsPlain table.name) :
    table.isNamed (schema ++ "." ++ name) = table.isCalled schema name := by
  have bare : sameName (schema ++ "." ++ name) table.name = false :=
    unlike_of_sign _ _ '.' (by decide) (by simp) (plain '.' (by decide))
  have inBrackets : sameName (schema ++ "." ++ name) table.qualifiedName = false := by
    rw [same_name_comm]
    refine unlike_of_sign _ _ '[' (by decide) (by simp [qualifiedName, bracketedPair, bracketed]) ?_
    simp [plainSchema '[' (by decide), plainName '[' (by decide)]
  rw [isNamed, bare, inBrackets, Bool.false_or, Bool.or_false, Bool.eq_iff_iff, isCalled,
    Bool.and_eq_true]
  exact same_dotted_iff _ _ _ _ (plainSchema '.' (by decide)) (plainName '.' (by decide))

theorem named_in_brackets (table : Table) (plain : IsPlain table.name) :
    table.isNamed (bracketedPair schema name) = table.isCalled schema name := by
  have closed : ']' ∈ (bracketed name).toList := by simp [bracketed]
  have free := plain ']' (by decide)
  have bare : sameName (bracketedPair schema name) table.name = false :=
    unlike_of_sign _ _ ']' (by decide) (by simp [bracketedPair, closed]) free
  -- The one point is between the brackets, so the table would have to be a bracketed name.
  have pointed :
      sameName (bracketedPair schema name) (table.schema ++ "." ++ table.name) = false := by
    rw [Bool.eq_false_iff]
    intro same
    have parts := (same_dotted_iff _ _ _ _ (bracketed_point schema plainSchema)
      (bracketed_point name plainName)).mp same
    rw [unlike_of_sign _ _ ']' (by decide) closed free] at parts
    exact Bool.false_ne_true parts.2
  rw [isNamed, bare, pointed, Bool.false_or, Bool.false_or, Bool.eq_iff_iff, isCalled,
    Bool.and_eq_true]
  exact same_pair_iff schema name table.schema table.name

end Table

namespace Aliases

def byTable? (aliases : Aliases) (schema name : String) : Option Participant :=
  aliases.participants.find? fun participant => participant.table.isCalled schema name

theorem by_table_some_iff (aliases : Aliases) :
    (aliases.byTable? schema name).isSome = true ↔
      ∃ participant ∈ aliases.participants, participant.table.isCalled schema name = true := by
  rw [byTable?, List.find?_isSome]

theorem by_table_called (aliases : Aliases) (participant : Participant)
    (found : aliases.byTable? schema name = some participant) :
    sameName schema participant.table.schema = true ∧
      sameName name participant.table.name = true := by
  have called : participant.table.isCalled schema name = true := by
    simpa only using List.find?_some found
  exact Bool.and_eq_true_iff.mp called

variable (aliases : Aliases)
  (plain : ∀ participant ∈ aliases.participants, IsPlain participant.table.name)

include plainSchema plainName plain

theorem by_name_with_point :
    aliases.byTableName? (schema ++ "." ++ name) = aliases.byTable? schema name :=
  List.find?_congr fun participant member =>
    Table.named_with_point schema name plainSchema plainName _ (plain participant member)

theorem by_name_in_brackets :
    aliases.byTableName? (bracketedPair schema name) = aliases.byTable? schema name :=
  List.find?_congr fun participant member =>
    Table.named_in_brackets schema name plainSchema plainName _ (plain participant member)

end Aliases

end Recognition

namespace Draft

theorem split_with_point (schema name : String) (one : '.' ∉ schema.toList) :
    splitName (schema ++ "." ++ name) = some (schema, name) := by
  have front : ∀ c ∈ schema.toList, (c != '.') = true := by
    intro c member
    exact bne_iff_ne.mpr (ne_of_mem_of_not_mem member one)
  simp [splitName, List.dropWhile_append_of_pos front, List.takeWhile_append_of_pos front]

theorem quote_with_point (schema name : String) (one : '.' ∉ schema.toList)
    (usableSchema : check schema = .ok ()) (usableName : check name = .ok ()) :
    quoteTableName (schema ++ "." ++ name) = .ok (bracketedPair schema name) := by
  rw [quoteTableName, split_with_point schema name one]
  exact (qualified_ok_iff _ _ _).mpr ⟨usableSchema, usableName, rfl⟩

/-- What a raw join to a table that is called so is written with: the table and the alias of the
participant with that table, or else the given text and a number among the joins. -/
def joinedAs (draft : Draft) (schema name quoted : String) : String × String :=
  match draft.aliases.byTable? schema name with
  | some participant => (participant.table.qualifiedName, participant.aliasName)
  | none => (quoted, numberedJoin draft.joins.length)

theorem resolved_as (draft : Draft) (schema name spelled quoted : String)
    (found : draft.aliases.byTableName? spelled = draft.aliases.byTable? schema name)
    (written : quoteTableName spelled = .ok quoted) :
    draft.resolveTable spelled = .ok (draft.joinedAs schema name quoted) := by
  rw [resolveTable, found, joinedAs]
  cases draft.aliases.byTable? schema name with
  | some participant => rfl
  | none =>
      simp only [written]
      rfl

variable (draft : Draft) (schema name : String)

theorem joined_known (known : (draft.aliases.byTable? schema name).isSome = true)
    (quoted other : String) :
    draft.joinedAs schema name quoted = draft.joinedAs schema name other := by
  obtain ⟨participant, found⟩ := Option.isSome_iff_exists.mp known
  rw [joinedAs, joinedAs, found]

theorem joined_unknown (unknown : ¬ (draft.aliases.byTable? schema name).isSome = true)
    (quoted : String) :
    draft.joinedAs schema name quoted = (quoted, numberedJoin draft.joins.length) := by
  rw [joinedAs, Option.not_isSome_iff_eq_none.mp unknown]

theorem joined_rendered :
    sameName (draft.joinedAs schema name (bracketedPair schema name)).1
      (bracketedPair schema name) = true := by
  rw [joinedAs]
  cases found : draft.aliases.byTable? schema name with
  | none => exact (same_name_iff _ _).mpr rfl
  | some participant =>
      have called := draft.aliases.by_table_called schema name participant found
      rw [same_name_comm]
      exact (same_pair_iff _ _ _ _).mpr called

section Spellings

variable (plainSchema : IsPlain schema) (plainName : IsPlain name)
  (usableSchema : check schema = .ok ()) (usableName : check name = .ok ())
  (plain : ∀ participant ∈ draft.aliases.participants, IsPlain participant.table.name)

include plainSchema plainName usableSchema usableName plain

theorem resolved_with_point :
    draft.resolveTable (schema ++ "." ++ name) =
      .ok (draft.joinedAs schema name (bracketedPair schema name)) :=
  draft.resolved_as schema name _ _
    (draft.aliases.by_name_with_point schema name plainSchema plainName plain)
    (quote_with_point schema name (plainSchema '.' (by decide)) usableSchema usableName)

theorem resolved_in_brackets :
    draft.resolveTable (bracketedPair schema name) =
      .ok (draft.joinedAs schema name (bracketedPair (bracketed schema) (bracketed name))) :=
  draft.resolved_as schema name _ _
    (draft.aliases.by_name_in_brackets schema name plainSchema plainName plain)
    (quote_with_point _ _ (bracketed_point schema plainSchema)
      (bracketed_usable schema plainSchema usableSchema)
      (bracketed_usable name plainName usableName))

/-- Both spellings stand for a table with one alias, and the one with a point for the table with
the two names. The one with brackets stands for it too when a participant has it, and for a longer
name if not. -/
theorem spellings_resolved :
    ∃ table spelled aliasName,
      draft.resolveTable (schema ++ "." ++ name) = .ok (table, aliasName) ∧
      draft.resolveTable (bracketedPair schema name) = .ok (spelled, aliasName) ∧
      sameName table (bracketedPair schema name) = true ∧
      (sameName spelled (bracketedPair schema name) = true ↔
        (draft.aliases.byTable? schema name).isSome = true) ∧
      ((draft.aliases.byTable? schema name).isSome = true → spelled = table) ∧
      (¬ (draft.aliases.byTable? schema name).isSome = true → table.length < spelled.length) := by
  have first := draft.resolved_with_point schema name plainSchema plainName usableSchema usableName
    plain
  have second := draft.resolved_in_brackets schema name plainSchema plainName usableSchema
    usableName plain
  have rendered := draft.joined_rendered schema name
  by_cases known : (draft.aliases.byTable? schema name).isSome = true
  · rw [draft.joined_known schema name known _ (bracketedPair schema name)] at second
    exact ⟨_, _, _, first, second, rendered, iff_of_true rendered known, fun _ => rfl, absurd known⟩
  · rw [draft.joined_unknown schema name known] at first second rendered
    have longer := bracketed_twice_longer schema name
    exact ⟨_, _, _, first, second, rendered,
      iff_of_false (fun same => longer.ne' (same_name_length _ _ same)) known,
      fun found => absurd found known, fun _ => longer⟩

end Spellings

end Draft

end MappedSql
