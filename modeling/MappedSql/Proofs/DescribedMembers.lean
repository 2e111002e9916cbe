import MappedSql.Declaration.Outline
import MappedSql.Proofs.AcceptedMappings
import MappedSql.Proofs.DeclaredSettings
import MappedSql.Schema.Table

/-!
The two halves of a declared entity fit together. The code that describes it makes a mapping, call
by call; the code that reads its members has one case for each of them. Both go through the members
that are not left out, so a column of the table is always read by a case of its own.
-/

namespace MappedSql

open Outcome

namespace Code

def callTable (table : TableMapping) : Call → Option TableMapping
  | ("schema", [text schema]) => some { table with schema }
  | ("soft_delete", [flag softDelete]) => some { table with softDelete }
  | _ => none

def table? : Code → Option TableMapping
  | chain (("TableAttr::new", [text name]) :: calls) => calls.foldlM callTable { name }
  | _ => none

def named? {α : Type} [Vocabulary α] (before path : String) : Option α :=
  (Vocabulary.all : List α).find? fun member => before ++ Vocabulary.name member == path

def callColumn (column : ColumnMapping) : Call → Option ColumnMapping
  | ("primary_key", []) => some { column with primaryKey := true }
  | ("insert_update", [path rule]) =>
      (named? "InsertUpdateBehavior::" rule).map fun writes => { column with writes }
  | ("enum_as", [path storage]) =>
      (named? "EnumBehavior::" storage).map fun enumAs => { column with enumAs }
  | ("json", []) => some { column with json := true }
  | ("auto_generate", []) => some { column with autoGenerate := true }
  | _ => none

def column? : Code → Option ColumnMapping
  | chain (("ColumnAttr::new", [text name]) :: calls) => calls.foldlM callColumn { name }
  | _ => none

def kind? (kinds : String → Kind) : Code → Option Kind
  | path "SqlKind::Json" => some .document
  | kindOf type => some (kinds type)
  | _ => none

def member? (kinds : String → Kind) : Code → Option MemberMapping
  | chain [("MemberDescriptor::mapped", [text name, kind, column])] => do
      return ⟨name, ← kind.kind? kinds, some (← column.column?)⟩
  | chain [("MemberDescriptor::unmapped", [text name, kind])] => do
      return ⟨name, ← kind.kind? kinds, none⟩
  | _ => none

def callMapping (kinds : String → Kind) (mapping : Mapping) : Call → Option Mapping
  | ("table", [table]) => table.table?.map fun table => { mapping with table }
  | ("member", [member]) =>
      (member.member? kinds).map fun member =>
        { mapping with members := mapping.members ++ [member] }
  | _ => none

def mapping? (kinds : String → Kind) : List Call → Option Mapping
  | ("EntityDescriptor::new", [text type]) :: calls => calls.foldlM (callMapping kinds) { type }
  | _ => none

theorem of_table (settings : TableSettings) (name : String) :
    (ofTable settings name).table? = some {
      name
      schema := settings.schema.getD "dbo"
      softDelete := settings.softDelete.getD true } := by
  obtain ⟨table, schema, softDelete⟩ := settings
  cases schema <;> cases softDelete <;> rfl

theorem named_own (rule : WriteRule) :
    named? "InsertUpdateBehavior::" ("InsertUpdateBehavior::" ++ Vocabulary.name rule) = some rule := by
  cases rule <;> rfl

theorem stored_own (storage : EnumStorage) :
    named? "EnumBehavior::" ("EnumBehavior::" ++ Vocabulary.name storage) = some storage := by
  cases storage <;> rfl

theorem of_column (settings : MemberSettings) (name : String) :
    (ofColumn settings name).column? = some {
      name
      writes := settings.writes.getD .insertAndUpdate
      primaryKey := settings.primaryKey
      enumAs := settings.enumAs.getD .number
      json := settings.json
      autoGenerate := settings.autoGenerate } := by
  obtain ⟨mapped, column, primaryKey, writes, enumAs, json, autoGenerate, ignored⟩ := settings
  cases primaryKey <;> cases writes <;> cases enumAs <;> cases json <;> cases autoGenerate <;>
    simp [ofColumn, column?, flagged, optional, callColumn, named_own, stored_own]

theorem of_kind (kinds : String → Kind) (member : MemberOutline) :
    (kindOfMember member).kind? kinds =
      some (if member.settings.json then .document else kinds (TypeText.compact member.type)) := by
  unfold kindOfMember
  split_ifs <;> rfl

theorem of_member (kinds : String → Kind) (member : MemberOutline) :
    (ofMember member).member? kinds = some (member.mapping (kinds ∘ TypeText.compact)) := by
  unfold ofMember MemberOutline.mapping
  cases member.column? with
  | none => simp [member?, of_kind]
  | some column => simp [member?, of_kind, of_column]

-- One call for each member, in order.
theorem of_members (kinds : String → Kind) (mapping : Mapping) (members : List MemberOutline) :
    (members.map fun member => (("member", [ofMember member]) : Call)).foldlM (callMapping kinds)
        mapping =
      some { mapping with members :=
        mapping.members ++ members.map (MemberOutline.mapping (kinds ∘ TypeText.compact)) } := by
  induction members generalizing mapping with
  | nil => simp
  | cons member rest ih =>
      rw [List.map_cons, List.foldlM_cons, callMapping, of_member, Option.map_some]
      exact (ih _).trans (by simp)

/-- The code that describes an entity makes the mapping of the entity. -/
theorem describes_mapping (kinds : String → Kind) (outline : EntityOutline) :
    mapping? kinds outline.describe = some (outline.mapping (kinds ∘ TypeText.compact)) := by
  obtain ⟨type, table, record⟩ := outline
  rw [EntityOutline.describe, mapping?, List.foldlM_append]
  cases named : table.table with
  | none =>
      simp [optional, of_members, EntityOutline.mapping, named]
  | some name =>
      simp [optional, callMapping, of_table, of_members, EntityOutline.mapping, named]

end Code

namespace MemberOutline

structure Outlines (member : MemberDeclaration) (outline : MemberOutline) : Prop where
  name : outline.name = member.plainName
  type : outline.type = member.type
  settings : outline.settings.Tells member.entries

theorem declarations_outlined (members : List MemberDeclaration) (outlines : List MemberOutline)
    (accepted : ofDeclarations members = .ok outlines) :
    List.Forall₂ Outlines (members.filter (!·.isIgnored)) outlines := by
  induction members generalizing outlines with
  | nil =>
      cases accepted
      exact .nil
  | cons member rest ih =>
      obtain ⟨settings, read, more⟩ := bind_ok_iff.mp accepted
      obtain ⟨others, later, outlined⟩ := bind_ok_iff.mp more
      have tells := MemberSettings.attributes_tell member settings read
      have ignored : member.isIgnored = settings.ignored := tells.ignored.symm
      cases left : settings.ignored with
      | true =>
          rw [List.filter_cons_of_neg (by simp [ignored, left])]
          simp only [left] at outlined
          cases outlined
          exact ih _ later
      | false =>
          rw [List.filter_cons_of_pos (by simp [ignored, left])]
          simp only [left] at outlined
          cases outlined
          exact .cons ⟨rfl, rfl, tells⟩ (ih _ later)

/-- A member is described under its own name, with the kind of a document if it is one and that of
its type otherwise, and as a column if it has one, under the name that belongs to it. -/
structure Describes (kinds : String → Kind) (member : MemberDeclaration) (mapping : MemberMapping) :
    Prop where
  name : mapping.name = member.plainName
  kind : mapping.kind =
    if member.isDocument then .document else kinds (TypeText.compact member.type)
  column : mapping.column.map (·.name) =
    if member.hasColumn then some member.columnName else none

theorem outlined_described (kinds : String → Kind) (member : MemberDeclaration)
    (outline : MemberOutline) (outlines : Outlines member outline) :
    Describes kinds member (outline.mapping (kinds ∘ TypeText.compact)) where
  name := outlines.name
  kind := by
    rw [mapping, outlines.settings.json, outlines.type]
    rfl
  column := by
    have mapped : outline.settings.mapped = member.hasColumn := outlines.settings.mapped
    have named : outline.settings.column = MemberEntry.lastColumnName? member.entries :=
      outlines.settings.column
    simp only [mapping, column?, mapped, named, outlines.name]
    split_ifs <;> rfl

end MemberOutline

structure Content where
  plain : Value
  document : Except String Value
  isAbsent : Bool

def Reading.read (content : Content) : Reading → Except String Value
  | .value => .ok content.plain
  | .document => content.document
  | .optionalDocument => if content.isAbsent then .ok .null else content.document

namespace RecordOutline

def record (outline : RecordOutline) (type : String) (contents : String → Content) : Record :=
  ⟨type, outline.readings.map fun entry => (entry.1, entry.2.read (contents entry.1))⟩

theorem read_absent_iff (outline : RecordOutline) (type : String) (contents : String → Content)
    (name : String) :
    (outline.record type contents).read? name = .ok none ↔
      name ∉ outline.members.map (·.name) := by
  have names : (outline.record type contents).members.map Prod.fst = outline.members.map (·.name) := by
    simp [record, readings]
  have absent : (outline.record type contents).find? name = none ↔
      name ∉ (outline.record type contents).members.map Prod.fst := by
    rw [Record.find?, Option.map_eq_none_iff, List.find?_eq_none]
    simp only [beq_iff_eq, List.mem_map, not_exists, not_and]
  rw [← names, ← absent, Record.read?]
  cases (outline.record type contents).find? name with
  | none => simp
  | some content => cases content <;> simp

end RecordOutline

-- A member that is there can only fail to be written as a document.
theorem Column.read_failure (column : Column) (record : Record) (fault : Fault)
    (present : record.read? column.member ≠ .ok none) (failed : column.read record = .error fault) :
    ∃ reason, fault = .failedDocument reason := by
  unfold read at failed
  cases contents : record.read? column.member with
  | error cause =>
      obtain ⟨reason, _, rfl⟩ := Record.read_refused_iff.mp contents
      rw [contents] at failed
      exact ⟨reason, (Except.error.inj failed).symm⟩
  | ok content =>
      rw [contents] at failed present
      cases content with
      | none => exact absurd rfl present
      | some value => cases failed

theorem Mapping.mapped_member (mapping : Mapping) (entry : MemberMapping × ColumnMapping)
    (mapped : entry ∈ mapping.mapped) : entry.1 ∈ mapping.members := by
  obtain ⟨member, inside, given⟩ := List.mem_filterMap.mp mapped
  obtain ⟨column, _, rfl⟩ := Option.map_eq_some_iff.mp given
  exact inside

theorem EntityOutline.declaration_record (declaration : Declaration) (outline : EntityOutline)
    (accepted : ofDeclaration declaration = .ok outline) :
    ∃ members, declaration.body = .record members ∧
      MemberOutline.ofDeclarations members = .ok outline.record.members := by
  obtain ⟨table, _, more⟩ := bind_ok_iff.mp accepted
  obtain ⟨record, read, same⟩ := bind_ok_iff.mp more
  cases same
  unfold RecordOutline.ofDeclaration at read
  split at read
  · rename_i members body
    obtain ⟨outlines, outlined, rfl⟩ := map_ok_iff.mp read
    exact ⟨members, body, outlined⟩
  · cases read
  · cases read
  · cases read

/-- The two halves of a declared entity fit together. Its description makes a mapping that has, in
order, the members that are not left out, each as it was declared. The members that can be read are
just these; so no column of the table is ever without a member: if reading it fails, it is because
its document cannot be written. -/
theorem EntityOutline.described_members_read (declaration : Declaration) (outline : EntityOutline)
    (accepted : ofDeclaration declaration = .ok outline) (kinds : String → Kind) :
    ∃ members mapping, declaration.body = .record members ∧
      Code.mapping? kinds outline.describe = some mapping ∧
      List.Forall₂ (MemberOutline.Describes kinds) (members.filter (!·.isIgnored))
        mapping.members ∧
      ∀ (type : String) (contents : String → Content),
        let record := outline.record.record type contents
        (∀ name, record.read? name ≠ .ok none ↔ name ∈ mapping.members.map (·.name)) ∧
        ∀ table, Table.ofMapping mapping = .ok table → ∀ column ∈ table.columns, ∀ fault,
          column.read record = .error fault → ∃ reason, fault = .failedDocument reason := by
  obtain ⟨members, body, outlined⟩ := declaration_record declaration outline accepted
  refine ⟨members, _, body, Code.describes_mapping kinds outline, ?_, fun type contents => ?_⟩
  · exact List.forall₂_map_right_iff.mpr
      ((MemberOutline.declarations_outlined members _ outlined).imp fun member outline outlines =>
        MemberOutline.outlined_described kinds member outline outlines)
  · have names : (outline.mapping (kinds ∘ TypeText.compact)).members.map (·.name) =
        outline.record.members.map (·.name) := by
      simp [mapping, MemberOutline.mapping]
    have readable (name : String) : (outline.record.record type contents).read? name ≠ .ok none ↔
        name ∈ (outline.mapping (kinds ∘ TypeText.compact)).members.map (·.name) := by
      rw [names, Ne, RecordOutline.read_absent_iff, not_not]
    refine ⟨readable, fun table accepted column member fault failed => ?_⟩
    refine column.read_failure _ fault ((readable column.member).mpr ?_) failed
    obtain ⟨entry, mapped, keeps⟩ :=
      forall₂_member (Table.of_mapping_keeps _ table accepted) member
    rw [keeps.member]
    exact List.mem_map_of_mem (Mapping.mapped_member _ entry mapped)

def documentedEvent : Declaration where
  name := "Event"
  attributes := [⟨"orm", [.word "table", .mark '=', .text "Events"]⟩]
  body := .record [
    ⟨"r#type", "Option < Payload >", [⟨"orm", [.word "column", .mark ',', .word "json"]⟩]⟩,
    ⟨"cache", "Cache", [⟨"orm", [.word "ignore", .mark ',']⟩]⟩,
    ⟨"at", "i64", [⟨"doc", []⟩, ⟨"orm", [.word "column", .mark '=', .text "First"]⟩,
      ⟨"orm", [.word "column", .mark '=', .text "At", .mark ',', .word "column"]⟩]⟩]

theorem documented_event_read :
    ∃ outline mapping, EntityOutline.ofDeclaration documentedEvent = .ok outline ∧
      Code.mapping? (fun _ => .integer) outline.describe = some mapping ∧
      mapping.members.map (·.name) = ["type", "at"] ∧
      mapping.members.map (·.kind) = [.document, .integer] ∧
      mapping.members.map (·.column.map (·.name)) = [some "Type", some "At"] ∧
      ∀ contents : String → Content,
        (outline.record.record "Event" contents).read? "type" ≠ .ok none ∧
        (outline.record.record "Event" contents).read? "cache" = .ok none := by
  obtain ⟨members, mapping, body, described, each, fits⟩ :=
    EntityOutline.described_members_read documentedEvent _ rfl fun _ => .integer
  cases described
  exact ⟨_, _, rfl, rfl, rfl, rfl, rfl, fun contents =>
    ⟨((fits "Event" contents).1 "type").mpr (by decide),
      not_not.mp fun there => absurd (((fits "Event" contents).1 "cache").mp there) (by decide)⟩⟩

end MappedSql
