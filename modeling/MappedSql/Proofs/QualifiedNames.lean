import MappedSql.Proofs.ItemLists

/-!
Names of tables with their schemas. A schema and a table can hold any bracket, point or quote; still
the text of the two is read back from the front of whatever it stands in, and nothing else is read
as these two.
-/

namespace MappedSql

open Outcome Reading

namespace Reading

-- The reader takes brackets two by two, so the induction is on what it takes; the end is a bracket
-- with no other one behind it.
theorem name_rest_iff (text content rest : List Char) :
    nameRest? text = some (content, rest) ↔
      text = Identifier.escape content ++ ']' :: rest ∧ rest.head? ≠ some ']' := by
  constructor
  · intro read
    fun_induction nameRest? text generalizing content with
    | case1 => cases read
    | case2 after ih =>
        obtain ⟨⟨inner, left⟩, more, same⟩ := Option.map_eq_some_iff.mp read
        obtain ⟨rfl, rfl⟩ := Prod.mk.inj same
        obtain ⟨rfl, stops⟩ := ih inner more
        exact ⟨by simp [Identifier.escape], stops⟩
    | case3 after single =>
        obtain ⟨rfl, rfl⟩ := Prod.mk.inj (Option.some.inj read)
        refine ⟨rfl, fun doubled => ?_⟩
        obtain ⟨later, rfl⟩ := List.head?_eq_some_iff.mp doubled
        exact single later rfl rfl
    | case4 c after _ other ih =>
        obtain ⟨⟨inner, left⟩, more, same⟩ := Option.map_eq_some_iff.mp read
        obtain ⟨rfl, rfl⟩ := Prod.mk.inj same
        obtain ⟨rfl, stops⟩ := ih inner more
        exact ⟨by simp [Identifier.escape, other], stops⟩
  · rintro ⟨rfl, stops⟩
    exact name_rest_escape content rest stops

theorem name_iff (text : List Char) (name : String) (rest : List Char) :
    name? text = some (name, rest) ↔
      text = (Identifier.bracketed name).toList ++ rest ∧ rest.head? ≠ some ']' := by
  constructor
  · intro read
    unfold name? at read
    split at read
    · rename_i inside
      obtain ⟨⟨content, left⟩, found, same⟩ := Option.map_eq_some_iff.mp read
      obtain ⟨rfl, rfl⟩ := Prod.mk.inj same
      obtain ⟨rfl, stops⟩ := (name_rest_iff inside content left).mp found
      exact ⟨by simp [Identifier.bracketed], stops⟩
    · cases read
  · rintro ⟨same, stops⟩
    rw [same]
    exact name_bracketed name rest stops

theorem table_name_iff (text : List Char) (schema table : String) (rest : List Char) :
    tableName? text = some ((schema, table), rest) ↔
      text = (Identifier.bracketedPair schema table).toList ++ rest ∧ rest.head? ≠ some ']' := by
  constructor
  · intro read
    obtain ⟨⟨first, behind⟩, readFirst, more⟩ := Option.bind_eq_some_iff.mp read
    obtain ⟨dotted, point, last⟩ := Option.bind_eq_some_iff.mp more
    obtain ⟨⟨second, left⟩, readSecond, same⟩ := Option.bind_eq_some_iff.mp last
    obtain ⟨pair, rfl⟩ := Prod.mk.inj (Option.some.inj same)
    obtain ⟨rfl, rfl⟩ := Prod.mk.inj pair
    obtain ⟨whole, -⟩ := (name_iff text first behind).mp readFirst
    obtain ⟨sign, pointed, known⟩ := List.dropPrefix?_eq_some_iff.mp point
    obtain ⟨named, stops⟩ := (name_iff dotted second left).mp readSecond
    refine ⟨?_, stops⟩
    rw [whole, pointed, beq_iff_eq.mp known, named]
    simp only [Identifier.bracketedPair, String.toList_append, List.append_assoc]
  · rintro ⟨same, stops⟩
    rw [same]
    exact table_name_pair schema table rest stops

end Reading

namespace Identifier

theorem bracketed_pair_inj (schema table otherSchema otherTable : String) :
    bracketedPair schema table = bracketedPair otherSchema otherTable ↔
      schema = otherSchema ∧ table = otherTable := by
  constructor
  · intro same
    have first := whole_table_name_pair schema table
    rw [same, whole_table_name_pair] at first
    obtain ⟨rfl, rfl⟩ := Prod.mk.inj (Option.some.inj first)
    exact ⟨rfl, rfl⟩
  · rintro ⟨rfl, rfl⟩
    rfl

theorem qualified_ok_iff (schema table text : String) :
    qualified schema table = .ok text ↔
      check schema = .ok () ∧ check table = .ok () ∧ bracketedPair schema table = text := by
  constructor
  · intro written
    obtain ⟨_, first, rest⟩ := bind_ok_iff.mp written
    obtain ⟨_, second, same⟩ := bind_ok_iff.mp rest
    exact ⟨first, second, pure_ok_iff.mp same⟩
  · rintro ⟨first, second, rfl⟩
    exact bind_ok_iff.mpr ⟨(), first, bind_ok_iff.mpr ⟨(), second, rfl⟩⟩

/-- Usable names of a schema and a table have a qualified name. It is read as the two names, with
the rest behind it, just in the texts that begin with it and do not go on with a closing bracket;
no other names have it; and it is the name of the tables that are mapped to the two. -/
theorem qualified_read_iff (schema table : String) (usableSchema : check schema = .ok ())
    (usableTable : check table = .ok ()) :
    ∃ text, qualified schema table = .ok text ∧
      (∀ longer rest, tableName? longer = some ((schema, table), rest) ↔
        longer = text.toList ++ rest ∧ rest.head? ≠ some ']') ∧
      (∀ otherSchema otherTable, qualified otherSchema otherTable = .ok text ↔
        otherSchema = schema ∧ otherTable = table) ∧
      ∀ mapped : Table, mapped.qualifiedName = text ↔
        mapped.schema = schema ∧ mapped.name = table := by
  refine ⟨bracketedPair schema table, ?_, ?_, ?_, ?_⟩
  · exact (qualified_ok_iff schema table _).mpr ⟨usableSchema, usableTable, rfl⟩
  · intro longer rest
    exact table_name_iff longer schema table rest
  · intro otherSchema otherTable
    constructor
    · intro written
      have same := ((qualified_ok_iff otherSchema otherTable _).mp written).2.2
      exact (bracketed_pair_inj _ _ _ _).mp same
    · rintro ⟨rfl, rfl⟩
      exact (qualified_ok_iff _ _ _).mpr ⟨usableSchema, usableTable, rfl⟩
  · intro mapped
    exact bracketed_pair_inj _ _ _ _

/-- A schema that looks like two names, and a table that is a closing bracket. -/
theorem misleading_pair_read :
    ∃ text, qualified "a].[b" "]" = .ok text ∧
      tableName? (text.toList ++ ".[c]".toList) = some (("a].[b", "]"), ".[c]".toList) := by
  obtain ⟨text, written, read, -⟩ := qualified_read_iff "a].[b" "]" rfl rfl
  exact ⟨text, written, (read _ _).mpr ⟨rfl, by decide⟩⟩

end Identifier

end MappedSql
