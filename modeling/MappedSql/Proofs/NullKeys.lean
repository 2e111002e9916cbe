import MappedSql.Proofs.KeyTests
import MappedSql.Proofs.MembershipTruth

/-!
Rows whose keys are null. A query by values tests a null with IS NULL, and so does an equality that
is compiled; the test of a key compares with the null literal. Nothing is known of this comparison
in any row, so the change misses its row.
-/

namespace MappedSql

open Outcome

/-- The record holds null for the key, and nothing is generated in its place. -/
def Column.LeftNull (record : Record) (key : Column) : Prop :=
  key.autoGenerate = false ∧ record.find? key.member = some (.ok .null)

theorem Cell.marks_not_null : .null ∉ marks := by
  simp [marks]

theorem Column.literal_null_iff (column : Column) (record : Record) (literal : Literal)
    (generatable : column.autoGenerate = true → column.kind.isGeneratable = true)
    (written : column.literal record = .ok literal) :
    literal = .null ↔ column.LeftNull record := by
  obtain ⟨value, held, form⟩ := column.literal_cases record literal generatable written
  have sameValue : record.find? column.member = some (.ok .null) ↔ value = .null := by
    rw [held, Option.some.injEq, Except.ok.injEq]
  rw [LeftNull, sameValue]
  split_ifs at form with made
  · refine ⟨?_, ?_⟩
    · rintro rfl
      exact absurd form Cell.marks_not_null
    · rintro ⟨plain, _⟩
      rw [generates, plain, Bool.false_and] at made
      cases made
  · refine ⟨?_, ?_⟩
    · rintro rfl
      by_cases null : value = .null
      · subst null
        exact ⟨by simpa [generates, Value.isUnset] using made, rfl⟩
      · exact absurd form (value.literal_not_null column.policy null)
    · rintro ⟨_, rfl⟩
      exact (Except.ok.inj form).symm

namespace Row

variable {δ : Type} (row : Row δ)

def FoundBy (tests : List Phrase) : Prop :=
  ∀ test ∈ tests, row.truth test = .yes

def HasKeys (change : Change) (keyed : List (Column × Literal)) : Prop :=
  ∀ pair ∈ keyed, row.column change.aliasName pair.1.name.toList = row.leaf pair.2.leaf

theorem key_truth (change : Change) (pair : Column × Literal) :
    row.truth (change.keyPhrase pair) =
      row.lists (row.column change.aliasName pair.1.name.toList) pair.2.leaf := by
  rw [Change.keyPhrase, truth]
  · simp only [scalar]
    rfl
  all_goals simp

theorem found_not_null (change : Change) (keyed : List (Column × Literal))
    (found : row.FoundBy (keyed.map change.keyPhrase)) : ∀ pair ∈ keyed, pair.2.leaf ≠ .null := by
  intro pair member null
  have holds := found _ (List.mem_map_of_mem member)
  rw [key_truth, null, lists_null] at holds
  cases holds

theorem found_with_keys (change : Change) (keyed : List (Column × Literal))
    (reflexive : ∀ datum, row.compares .equal datum datum = true) (has : row.HasKeys change keyed)
    (present : ∀ pair ∈ keyed, pair.2.leaf ≠ .null) :
    row.FoundBy (keyed.map change.keyPhrase) := by
  intro test member
  obtain ⟨pair, inside, rfl⟩ := List.mem_map.mp member
  rw [key_truth, has pair inside, lists]
  cases leaf : pair.2.leaf with
  | null => exact absurd leaf (present pair inside)
  | number negative digits => exact congrArg Truth.ofBool (reflexive _)
  | text content => exact congrArg Truth.ofBool (reflexive _)

end Row

namespace Change

theorem Writes.leaf_null_iff {change : Change} {table : Table} {record : Record}
    {keyed : List (Column × Literal)} {statement : String}
    (writes : change.Writes table record keyed statement) (pair : Column × Literal)
    (member : pair ∈ keyed) : pair.2.leaf = .null ↔ pair.1.LeftNull record := by
  have written := writes.literals pair member
  rw [pair.2.leaf_null_iff (pair.1.cell_sound record pair.2 written)]
  exact pair.1.literal_null_iff record pair.2 (writes.key_generatable pair member) written

/-- In the statements of a change that is built the test of each key is an equality with a literal,
and this is NULL just when the record holds null for the key and nothing is generated for it. With
such a key a statement finds no row whatever; without one it finds every row that has the keys. -/
theorem null_keys_missed_iff (change : Change) (texts : List String)
    (built : change.build = .ok texts) :
    ∃ statements, texts = change.gather statements ∧
      List.Forall₂ (fun record statement => ∃ table keyed,
          change.Writes table record keyed statement ∧
          (∀ pair ∈ keyed, KeyTest.read? (change.keyTest pair) = some (change.keyPhrase pair) ∧
            (pair.2.leaf = .null ↔ pair.1.LeftNull record)) ∧
          ∀ (δ : Type) (row : Row δ),
            ((∃ key ∈ table.keys, key.LeftNull record) →
              ¬ row.FoundBy (keyed.map change.keyPhrase)) ∧
            ((∀ datum, row.compares .equal datum datum = true) → row.HasKeys change keyed →
              (row.FoundBy (keyed.map change.keyPhrase) ↔
                ∀ key ∈ table.keys, ¬ key.LeftNull record)))
        change.records statements := by
  obtain ⟨statements, whole, each⟩ := change.built_statements texts built
  refine ⟨statements, whole, each.imp ?_⟩
  rintro record statement ⟨table, keyed, writes⟩
  have nulls := writes.leaf_null_iff
  have present : (∀ pair ∈ keyed, pair.2.leaf ≠ .null) ↔
      ∀ key ∈ table.keys, ¬ key.LeftNull record := by
    rw [← writes.keys, List.forall_mem_map]
    exact forall₂_congr fun pair member => not_congr (nulls pair member)
  refine ⟨table, keyed, writes,
    fun pair member => ⟨writes.read_test pair member, nulls pair member⟩, fun δ row => ⟨?_, ?_⟩⟩
  · rintro ⟨key, member, null⟩ found
    exact present.mp (row.found_not_null change keyed found) key member null
  · intro reflexive has
    exact ⟨fun found => present.mp (row.found_not_null change keyed found),
      fun keys => row.found_with_keys change keyed reflexive has (present.mpr keys)⟩

def halfKeyedRow : Record :=
  ⟨"Multi", [("k1", .ok .null), ("k2", .ok (.text "NULL")), ("body", .ok (.text "' WHERE '")),
    ("é", .ok .null)]⟩

def halfKeyed : Change :=
  .rows ⟨"Multi", Sample.multi⟩ [.addRows [halfKeyedRow]]

/-- One null among the keys is enough; a text that looks like one is none. -/
theorem half_keyed_missed :
    ∃ statement table keyed, halfKeyed.build = .ok [statement] ∧
      Table.ofMapping Sample.multi = .ok table ∧
      halfKeyed.Writes table halfKeyedRow keyed statement ∧
      (∀ pair ∈ keyed, pair.2.leaf = .null ↔ pair.1.LeftNull halfKeyedRow) ∧
      ∀ (δ : Type) (row : Row δ), ¬ row.FoundBy (keyed.map halfKeyed.keyPhrase) := by
  obtain ⟨statements, whole, each⟩ := null_keys_missed_iff halfKeyed _ rfl
  obtain _ | ⟨⟨table, keyed, writes, tests, found⟩, rest⟩ := each
  cases rest
  obtain rfl := Except.ok.inj writes.mapped
  have one := List.singleton_inj.mp whole
  rw [String.intercalate_singleton] at one
  refine ⟨_, _, keyed, rfl, rfl, one ▸ writes, fun pair member => (tests pair member).2, ?_⟩
  exact fun δ row => (found δ row).1 ⟨_, List.mem_cons_self, rfl, rfl⟩

def keylessOrder : Record :=
  ⟨"Order", [("id", .ok .null), ("person_id", .ok (.integer .int32 7)),
    ("total", .ok .null), ("status", .ok .null)]⟩

/-- The removal of the order compares its key with NULL, of which nothing is known in the row of the
order, where the test of a query by values holds. -/
theorem null_key_compared :
    (delete {} ⟨"Order", Sample.order⟩ keylessOrder []).build =
        .ok ["DELETE FROM [sales].[Orders] WHERE ([Id] = NULL) ;"] ∧
      keylessOrder.find? "id" = some (.ok .null) ∧
      Script.valueTest ("Id", .null) = .ok "([Id] IS NULL)" ∧
      KeyTest.read? "([Id] = NULL)" =
        some (.operation .equal (.column [] "Id".toList) (.leaf .null)) ∧
      KeyTest.read? "([Id] IS NULL)" = some (.isNull (.column [] "Id".toList)) ∧
      ∀ (δ : Type) (row : Row δ), row.column [] "Id".toList = none →
        row.truth (.operation .equal (.column [] "Id".toList) (.leaf .null)) = .unknown ∧
          row.truth (.isNull (.column [] "Id".toList)) = .yes := by
  refine ⟨rfl, rfl, rfl, by decide, by decide, fun δ row missing => ⟨?_, ?_⟩⟩
  · simp only [Row.truth, Row.scalar]
    exact row.compared_null .equal _
  · rw [Row.truth, Row.scalar, missing]
    rfl

end Change

end MappedSql
