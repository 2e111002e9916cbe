import MappedSql.Proofs.SetTargets
import MappedSql.Proofs.SingleRows
import MappedSql.Proofs.InsertText

/-!
Which columns a statement writes, and whether it writes one twice. Names are compared exactly where
additional columns are put together and not at all where pairs are set, while the database tells no
case apart. So the columns of a statement are distinct just when nobody names one in two ways.
-/

namespace MappedSql

open Outcome

namespace NamedList

variable {α : Type}

theorem lookup_first (first : String × α) (rest : NamedList α) (name : String) :
    List.lookup name (first :: rest) =
      if name = first.1 then some first.2 else rest.lookup name := by
  rw [List.lookup_cons]
  by_cases same : name = first.1
  · simp [same]
  · rw [if_neg same, beq_eq_false_iff_ne.mpr same]

theorem lookup_put (name other : String) (value : α) (entries : NamedList α) :
    (put name value entries).lookup other =
      if other = name then some value else entries.lookup other := by
  induction entries with
  | nil => exact lookup_first (name, value) [] other
  | cons first rest ih =>
      by_cases known : first.1 = name
      · simp only [put, known, if_true, lookup_first]
        split_ifs <;> rfl
      · simp only [put, known, if_false, lookup_first, ih]
        by_cases same : other = first.1
        · simp [same, known]
        · simp [same]

-- What was given last for a name stands under it.
theorem lookup_put_all (entries more : NamedList α) (name : String) :
    (entries.putAll more).lookup name = (more.reverse.lookup name).or (entries.lookup name) := by
  induction more generalizing entries with
  | nil => rfl
  | cons first rest ih =>
      have single : [first].lookup name = if name = first.1 then some first.2 else none :=
        lookup_first first [] name
      rw [putAll, List.foldl_cons, ← putAll, ih, lookup_put, List.reverse_cons, List.lookup_append,
        Option.or_assoc, single]
      split_ifs <;> rfl

theorem mem_names_put (name other : String) (value : α) (entries : NamedList α) :
    other ∈ (put name value entries).map Prod.fst ↔
      other = name ∨ other ∈ entries.map Prod.fst := by
  induction entries with
  | nil => simp [put]
  | cons first rest ih =>
      by_cases known : first.1 = name
      · simp [put, known]
      · simp only [put, known, if_false, List.map_cons, List.mem_cons, ih]
        tauto

theorem names_put_nodup (name : String) (value : α) (entries : NamedList α)
    (distinct : (entries.map Prod.fst).Nodup) : ((put name value entries).map Prod.fst).Nodup := by
  induction entries with
  | nil => simp [put]
  | cons first rest ih =>
      obtain ⟨fresh, others⟩ := List.nodup_cons.mp distinct
      by_cases known : first.1 = name
      · rw [put, if_pos known, List.map_cons, List.nodup_cons]
        exact ⟨known ▸ fresh, others⟩
      · rw [put, if_neg known, List.map_cons, List.nodup_cons, mem_names_put]
        refine ⟨?_, ih others⟩
        rintro (same | again)
        · exact known same
        · exact fresh again

theorem mem_names_put_all (entries more : NamedList α) (name : String) :
    name ∈ (entries.putAll more).map Prod.fst ↔
      name ∈ entries.map Prod.fst ∨ name ∈ more.map Prod.fst := by
  induction more generalizing entries with
  | nil => simp [putAll]
  | cons first rest ih =>
      rw [putAll, List.foldl_cons, ← putAll, ih, mem_names_put, List.map_cons, List.mem_cons]
      tauto

theorem names_put_all_nodup (entries more : NamedList α)
    (distinct : (entries.map Prod.fst).Nodup) : ((entries.putAll more).map Prod.fst).Nodup := by
  induction more generalizing entries with
  | nil => exact distinct
  | cons first rest ih => exact ih _ (names_put_nodup first.1 first.2 entries distinct)

end NamedList

namespace Identifier

instance : Std.Symm fun first second => sameName first second = false where
  symm first second unlike := same_name_comm first second ▸ unlike

/-- No two of the names are one to the database. -/
def Apart (names : List String) : Prop :=
  names.Pairwise fun earlier later => sameName earlier later = false

def Disjoint (names others : List String) : Prop :=
  ∀ name ∈ names, ∀ other ∈ others, sameName name other = false

instance (names : List String) : Decidable (Apart names) :=
  inferInstanceAs (Decidable (names.Pairwise _))

instance (names others : List String) : Decidable (Disjoint names others) :=
  inferInstanceAs (Decidable (∀ name ∈ names, ∀ other ∈ others, _))

theorem apart_append (names others : List String) :
    Apart (names ++ others) ↔ Apart names ∧ Apart others ∧ Disjoint names others :=
  List.pairwise_append

-- Distinct names are apart when no two of them differ in case only.
theorem apart_iff_exact (names : List String) (distinct : names.Nodup) :
    Apart names ↔ ∀ first ∈ names, ∀ second ∈ names, sameName first second = true → first = second := by
  constructor
  · intro apart first inside second also same
    by_contra different
    have unlike := List.Pairwise.forall apart inside also different
    rw [same] at unlike
    cases unlike
  · intro exact
    refine distinct.pairwise_of_forall_ne fun first inside second also different => ?_
    rw [← Bool.not_eq_true]
    exact fun same => different (exact first inside second also same)

end Identifier

theorem Table.columns_apart (table : Table) (distinct : Distinct table.columns)
    (written : Column → Bool) :
    Identifier.Apart ((table.columns.filter written).map (·.name)) :=
  List.pairwise_map.mpr (distinct.sublist List.filter_sublist)

def UpdateDraft.Step.columns : UpdateDraft.Step → List (String × Value)
  | .additional columns => columns
  | _ => []

def JoinedUpdateDraft.Step.columns : JoinedUpdateDraft.Step → List (String × Value)
  | .additional columns => columns
  | _ => []

theorem UpdateDraft.run_given (update : UpdateDraft) (steps : List Step) :
    (steps.foldl apply update).additional.entries =
      update.additional.entries.putAll (steps.flatMap Step.columns) := by
  refine NamedList.put_all_steps (·.additional.entries) apply Step.columns ?_ update steps
  intro state step
  cases step <;> rfl

theorem JoinedUpdateDraft.assign_additional (update : JoinedUpdateDraft) (target source : String)
    (pairs : List (Expr × Expr)) :
    (update.assign target source pairs).additional = update.additional := by
  unfold assign
  dsimp only
  split
  · rfl
  · split <;> rfl

theorem JoinedUpdateDraft.run_given (update : JoinedUpdateDraft) (steps : List Step) :
    (steps.foldl apply update).additional.entries =
      update.additional.entries.putAll (steps.flatMap Step.columns) := by
  refine NamedList.put_all_steps (·.additional.entries) apply Step.columns ?_ update steps
  intro state step
  cases step with
  | shared other => rfl
  | additional columns => rfl
  | assign target source pairs =>
      simp only [apply]
      split_ifs
      · rfl
      · rw [assign_additional]
        rfl

inductive Writing where
  | insert (target : EntityType) (steps : List InsertDraft.Step)
  | insertRow (target : EntityType) (record : Record) (columns : List (String × Value))
  | update (target : EntityType) (steps : List UpdateDraft.Step)
  | joinedUpdate (target : EntityType) (steps : List JoinedUpdateDraft.Step)
  | updateRow (target : EntityType) (record : Record) (columns : List (String × Value))
      (conditions : List String)

namespace Writing

def target : Writing → EntityType
  | insert target _ | insertRow target _ _ | update target _ | joinedUpdate target _
  | updateRow target _ _ _ => target

def statements : Writing → Except Fault (List String)
  | insert target steps => do return [← StatementDraft.build (InsertDraft.run target steps)]
  | insertRow target record columns => do
      return [← Script.insert target record (AdditionalColumns.none.merge columns)]
  | update target steps => (Update.rows target steps).statements
  | joinedUpdate target steps => (Update.joined target steps).statements
  | updateRow target record columns conditions =>
      (Update.script target record (AdditionalColumns.none.merge columns) conditions).statements

def targets (writing : Writing) (text : String) : List String :=
  match writing with
  | insert .. | insertRow .. => ((InsertReading.read? text).map (·.columns)).getD []
  | update .. | joinedUpdate .. | updateRow .. => setTargets text

def own (writing : Writing) (table : Table) : List String :=
  match writing with
  | insert .. | insertRow .. => table.insertable.map (·.name)
  | update .. | updateRow .. => table.updatable.map (·.name)
  | joinedUpdate .. => []

def paired : Writing → List String
  | joinedUpdate target steps => (JoinedUpdateDraft.start target).assignedFrom steps
  | _ => []

def given : Writing → List (String × Value)
  | insert _ steps => steps.flatMap InsertDraft.Step.columns
  | update _ steps => steps.flatMap UpdateDraft.Step.columns
  | joinedUpdate _ steps => steps.flatMap JoinedUpdateDraft.Step.columns
  | insertRow _ _ columns | updateRow _ _ columns _ => columns

def additional : Writing → NamedList Value
  | insert target steps => (InsertDraft.run target steps).additional.entries
  | update target steps => (UpdateDraft.run target steps).additional.entries
  | joinedUpdate target steps => (JoinedUpdateDraft.run target steps).additional.entries
  | insertRow _ _ columns | updateRow _ _ columns _ => (AdditionalColumns.none.merge columns).entries

theorem additional_given (writing : Writing) : writing.additional = NamedList.putAll [] writing.given := by
  cases writing with
  | insert target steps => exact (InsertDraft.run_grows (.start target) steps).columns
  | update target steps => exact (UpdateDraft.start target).run_given steps
  | joinedUpdate target steps => exact (JoinedUpdateDraft.start target).run_given steps
  | insertRow target record columns => rfl
  | updateRow target record columns conditions => rfl

theorem insert_targets (target : EntityType) (steps : List InsertDraft.Step) (text : String)
    (built : StatementDraft.build (InsertDraft.run target steps) = .ok text) (table : Table)
    (mapped : Table.ofMapping target.mapping = .ok table) :
    ((InsertReading.read? text).map (·.columns)).getD [] =
      table.insertable.map (·.name) ++
        (NamedList.putAll [] (steps.flatMap InsertDraft.Step.columns)).map Prod.fst := by
  obtain ⟨known, rows, mappedKnown, read, _⟩ := InsertDraft.statement_read target steps text built
  obtain rfl : known = table := Except.ok.inj (mappedKnown.symm.trans mapped)
  rw [read]
  rfl

-- The columns of the mapping, then those of the pairs, then the additional ones.
theorem targets_exact (writing : Writing) (texts : List String)
    (written : writing.statements = .ok texts) (table : Table)
    (mapped : Table.ofMapping writing.target.mapping = .ok table) :
    ∀ text ∈ texts, writing.targets text =
      writing.own table ++ (writing.paired ++ writing.additional.map Prod.fst) := by
  intro text member
  cases writing with
  | insert target steps =>
      rw [additional_given]
      exact insert_targets target steps text (single_ok written member) table mapped
  | insertRow target record columns =>
      have drafted :=
        (InsertDraft.row_built_iff target record columns text).mpr (single_ok written member)
      have columnsOnly : [InsertDraft.Step.addRows [record], .additional columns].flatMap
          InsertDraft.Step.columns = columns := List.append_nil columns
      have read := insert_targets target _ _ drafted table mapped
      rw [columnsOnly] at read
      exact read
  | update target steps =>
      exact (Update.rows target steps).targets_exact texts written table mapped text member
  | joinedUpdate target steps =>
      exact (Update.joined target steps).targets_exact texts written table mapped text member
  | updateRow target record columns conditions =>
      exact (Update.script target record _ conditions).targets_exact texts written table mapped text
        member

theorem own_apart (writing : Writing) (table : Table) (distinct : Table.Distinct table.columns) :
    Identifier.Apart (writing.own table) := by
  cases writing with
  | joinedUpdate target steps => exact List.Pairwise.nil
  | insert target steps => exact table.columns_apart distinct _
  | insertRow target record columns => exact table.columns_apart distinct _
  | update target steps => exact table.columns_apart distinct _
  | updateRow target record columns conditions => exact table.columns_apart distinct _

theorem own_or_paired (writing : Writing) (table : Table) :
    writing.own table = [] ∨ writing.paired = [] := by
  cases writing with
  | joinedUpdate target steps => exact .inl rfl
  | _ => exact .inr rfl

theorem mem_additional (writing : Writing) (name : String) :
    name ∈ writing.additional.map Prod.fst ↔ name ∈ writing.given.map Prod.fst := by
  rw [additional_given, NamedList.mem_names_put_all]
  simp

-- What is asked of the three parts, in terms of the names that are given.
theorem distinct_iff (writing : Writing) (table : Table) (distinct : Table.Distinct table.columns) :
    (Identifier.Apart (writing.own table) ∧
      (Identifier.Apart writing.paired ∧
        (∀ first ∈ writing.additional.map Prod.fst, ∀ second ∈ writing.additional.map Prod.fst,
          Identifier.sameName first second = true → first = second) ∧
        Identifier.Disjoint writing.paired (writing.additional.map Prod.fst)) ∧
      Identifier.Disjoint (writing.own table) (writing.paired ++ writing.additional.map Prod.fst)) ↔
    Identifier.Apart writing.paired ∧
      (∀ first ∈ writing.given.map Prod.fst, ∀ second ∈ writing.given.map Prod.fst,
        Identifier.sameName first second = true → first = second) ∧
      Identifier.Disjoint (writing.own table ++ writing.paired) (writing.given.map Prod.fst) := by
  have mapped := writing.own_apart table distinct
  have apart : Identifier.Disjoint (writing.own table) writing.paired := by
    rcases writing.own_or_paired table with apart | apart <;> simp [Identifier.Disjoint, apart]
  simp only [Identifier.Disjoint, List.forall_mem_append, mem_additional] at apart ⊢
  constructor
  · rintro ⟨_, ⟨paired, exact, fromPairs⟩, fromOwn⟩
    exact ⟨paired, exact, fun name inOwn => (fromOwn name inOwn).2, fromPairs⟩
  · rintro ⟨paired, exact, fromOwn, fromPairs⟩
    exact ⟨mapped, ⟨paired, exact, fromPairs⟩, fun name inOwn =>
      ⟨apart name inOwn, fromOwn name inOwn⟩⟩

/-- A statement writes the columns of the mapping, those of the pairs and the additional ones. Of
the additional ones each name stands once, with the value that was given last for it. No column is
written twice, ASCII case aside, just when the pairs name none twice, no two additional columns
differ in case only, and no additional column is one that is written anyway. -/
theorem targets_apart_iff (writing : Writing) (texts : List String)
    (written : writing.statements = .ok texts) (table : Table)
    (mapped : Table.ofMapping writing.target.mapping = .ok table) :
    (∀ text ∈ texts, writing.targets text =
        writing.own table ++ (writing.paired ++ writing.additional.map Prod.fst) ∧
      (Identifier.Apart (writing.targets text) ↔
        Identifier.Apart writing.paired ∧
        (∀ first ∈ writing.given.map Prod.fst, ∀ second ∈ writing.given.map Prod.fst,
          Identifier.sameName first second = true → first = second) ∧
        Identifier.Disjoint (writing.own table ++ writing.paired) (writing.given.map Prod.fst))) ∧
      (writing.additional.map Prod.fst).Nodup ∧
      ∀ name, writing.additional.lookup name = writing.given.reverse.lookup name := by
  have listed : (writing.additional.map Prod.fst).Nodup := by
    rw [additional_given]
    exact NamedList.names_put_all_nodup [] writing.given List.nodup_nil
  refine ⟨?_, listed, ?_⟩
  · intro text member
    have read := writing.targets_exact texts written table mapped text member
    refine ⟨read, ?_⟩
    rw [read, Identifier.apart_append, Identifier.apart_append, Identifier.apart_iff_exact _ listed]
    exact writing.distinct_iff table (Table.of_mapping_distinct _ table mapped)
  · intro name
    rw [additional_given, NamedList.lookup_put_all]
    exact Option.or_none

-- One of the additional columns is given twice under one name, and written once.
theorem misleading_targets_apart :
    ∃ text table,
      (insert ⟨"Multi", Sample.multi⟩ InsertDraft.misleading).statements = .ok [text] ∧
        Table.ofMapping Sample.multi = .ok table ∧
        Identifier.Apart ((insert ⟨"Multi", Sample.multi⟩ InsertDraft.misleading).targets text) := by
  obtain ⟨each, _, _⟩ :=
    targets_apart_iff (insert ⟨"Multi", Sample.multi⟩ InsertDraft.misleading) _ rfl _ rfl
  exact ⟨_, _, rfl, rfl, (each _ List.mem_cons_self).2.mpr (by decide)⟩

def tagged : Writing :=
  .insert ⟨"Keyless", Sample.keyless⟩
    [.addRows [⟨"Keyless", [("a", .ok (.integer .int32 1)), ("b", .ok (.text "x"))]⟩],
     .additional [("Tag", .integer .int32 1)], .additional [("TAG", .integer .int32 2)]]

/-- The later value replaces nothing: the statement lists both names. -/
theorem tagged_written_twice :
    ∃ text, tagged.statements = .ok [text] ∧ tagged.targets text = ["A", "B", "Tag", "TAG"] ∧
      ¬Identifier.Apart (tagged.targets text) :=
  ⟨_, rfl, by decide +kernel, by decide +kernel⟩

end Writing

end MappedSql
