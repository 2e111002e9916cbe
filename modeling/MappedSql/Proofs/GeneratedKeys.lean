import MappedSql.Proofs.KeyTests

/-!
Rows whose generated keys are unset. Where a row is written, a generated column has a fresh value
made in place of an unset one; the tests of the keys read the record the same way. So a test of a
generated key that is unset compares with something that no row has yet.
-/

namespace MappedSql

open Outcome

theorem Calendar.Timestamp.statement_text_last (timestamp : Timestamp) :
    timestamp.statementText.toList.getLast? = some 'Z' := by
  rw [statementText, String.toList_append]
  exact List.getLast?_concat

theorem Literal.timestamp_no_mark (timestamp : Calendar.Timestamp) :
    .text timestamp.statementText true ∉ Cell.marks := by
  intro mark
  have last := timestamp.statement_text_last
  simp only [Cell.marks, List.mem_cons, List.not_mem_nil, or_false, text.injEq, and_true] at mark
  rcases mark with same | same
  · rw [same] at last
    exact absurd last (by decide)
  · rw [same] at last
    exact absurd last (by decide)

-- What is made in place of a value is never what the value itself is written as.
theorem Value.unset_no_mark (policy : LiteralPolicy) (quoted : policy.quoted = true) (value : Value)
    (unset : value.isUnset = true) (literal : Literal)
    (written : value.literal policy = .ok literal) : literal ∉ Cell.marks := by
  cases value with
  | null =>
      obtain rfl : Literal.null = literal := Except.ok.inj written
      decide
  | guid value =>
      obtain rfl : Literal.text value.text policy.quoted = literal := Except.ok.inj written
      obtain rfl : value = .nil := congrArg Guid.mk (beq_iff_eq.mp unset)
      rw [quoted]
      decide
  | timestamp value | utcTimestamp value =>
      obtain rfl : Literal.text value.statementText policy.quoted = literal :=
        Except.ok.inj written
      rw [quoted]
      exact Literal.timestamp_no_mark value
  | offsetTimestamp value =>
      obtain rfl : Literal.text value.utc.statementText policy.quoted = literal :=
        Except.ok.inj written
      rw [quoted]
      exact Literal.timestamp_no_mark value.utc
  | _ => cases unset

theorem Column.literal_own_iff (column : Column) (record : Record) (literal : Literal)
    (generatable : column.autoGenerate = true → column.kind.isGeneratable = true)
    (written : column.literal record = .ok literal) :
    ∃ value, record.find? column.member = some (.ok value) ∧
      (value.literal column.policy = .ok literal ↔ column.generates value = false) ∧
      (column.generates value = true → literal ∈ Cell.marks) := by
  obtain ⟨value, held, form⟩ := column.literal_cases record literal generatable written
  refine ⟨value, held, ?_⟩
  cases made : column.generates value with
  | false =>
      rw [made, if_neg Bool.false_ne_true] at form
      exact ⟨iff_of_true form rfl, nofun⟩
  | true =>
      rw [made, if_pos rfl] at form
      have unset : value.isUnset = true := (Bool.and_eq_true_iff.mp made).2
      refine ⟨iff_of_false (fun own => ?_) (Bool.false_ne_true.symm), fun _ => form⟩
      exact value.unset_no_mark column.policy rfl unset literal own form

namespace Change

/-- In the statements of a change that is built the test of each key is an equality with a literal,
and this is the literal of the value that the record holds unless the key is generated and the value
is unset: then it is that of something made while the record is read, which is another one. -/
theorem generated_keys_compared_iff (change : Change) (texts : List String)
    (built : change.build = .ok texts) :
    ∃ statements, texts = change.gather statements ∧
      List.Forall₂ (fun record statement => ∃ table keyed,
          change.Writes table record keyed statement ∧
          ∀ pair ∈ keyed, KeyTest.read? (change.keyTest pair) = some (change.keyPhrase pair) ∧
            ∃ value, record.find? pair.1.member = some (.ok value) ∧
              (value.literal pair.1.policy = .ok pair.2 ↔
                ¬ (pair.1.autoGenerate = true ∧ value.isUnset = true)) ∧
              (pair.1.autoGenerate = true ∧ value.isUnset = true → pair.2 ∈ Cell.marks))
        change.records statements := by
  obtain ⟨statements, whole, each⟩ := change.built_statements texts built
  refine ⟨statements, whole, each.imp ?_⟩
  rintro record statement ⟨table, keyed, writes⟩
  refine ⟨table, keyed, writes, fun pair member => ?_⟩
  obtain ⟨value, held, own, made⟩ := pair.1.literal_own_iff record pair.2
    (writes.key_generatable pair member) (writes.literals pair member)
  refine ⟨writes.read_test pair member, value, held, ?_, ?_⟩
  · rw [own, ← Bool.not_eq_true, Column.generates, Bool.and_eq_true]
  · rw [← Bool.and_eq_true]
    exact made

def entryOf (key : Guid) : Record :=
  ⟨"Audit", [("id", .ok (.guid key)), ("created_at", .ok .null), ("payload", .ok .null),
    ("row_version", .ok .null)]⟩

def keptEntry : Change :=
  .batch {} ⟨"Audit", Sample.audit⟩ true [entryOf ⟨1⟩] .none ["[Id] = '<uuid>'"]

theorem kept_entry_compared :
    ∃ statement table keyed, keptEntry.build = .ok [statement] ∧
      Table.ofMapping Sample.audit = .ok table ∧
      keptEntry.Writes table (entryOf ⟨1⟩) keyed statement ∧
      ∀ pair ∈ keyed, (Value.guid ⟨1⟩).literal pair.1.policy = .ok pair.2 := by
  obtain ⟨statements, whole, each⟩ := generated_keys_compared_iff keptEntry _ rfl
  obtain _ | ⟨⟨table, keyed, writes, tests⟩, rest⟩ := each
  cases rest
  obtain rfl := Except.ok.inj writes.mapped
  refine ⟨_, _, keyed, rfl, rfl, List.singleton_inj.mp whole ▸ writes, fun pair member => ?_⟩
  obtain ⟨_, value, held, own, _⟩ := tests pair member
  have key : pair.1.member = "id" := by
    rw [List.mem_singleton.mp (writes.is_key pair member)]
    rfl
  rw [key] at held
  obtain rfl : Value.guid ⟨1⟩ = value := Except.ok.inj (Option.some.inj held)
  exact own.mpr fun both => absurd both.2 (by decide)

/-- The statements for an entry without a key compare with one that was made for the statement, and
not with that of the entry. -/
theorem unset_entry_compared :
    (rows ⟨"Audit", Sample.audit⟩ [.addRows [entryOf .nil]]).build =
        .ok ["UPDATE t0 SET [Payload] = NULL FROM [dbo].[Audit] t0 WHERE (t0.[Id] = '<uuid>')"] ∧
      (update ⟨"Audit", Sample.audit⟩ (entryOf .nil) .none []).build =
        .ok ["UPDATE [dbo].[Audit] SET [Payload] = NULL WHERE ([Id] = '<uuid>') ;"] ∧
      (delete {} ⟨"Audit", Sample.audit⟩ (entryOf .nil) []).build =
        .ok ["DELETE FROM [dbo].[Audit] WHERE ([Id] = '<uuid>') ;"] ∧
      Script.valueTest ("Id", .guid .nil) =
        .ok "([Id] = '00000000-0000-0000-0000-000000000000')" ∧
      KeyTest.read? "([Id] = '<uuid>')" =
        some (.operation .equal (.column [] "Id".toList) (.leaf (.text "<uuid>".toList))) :=
  ⟨rfl, rfl, rfl, rfl, by decide⟩

end Change

end MappedSql
