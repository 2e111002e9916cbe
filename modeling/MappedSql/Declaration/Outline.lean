import MappedSql.Declaration.Settings
import MappedSql.Declaration.Token
import MappedSql.Declaration.TypeText
import MappedSql.Schema.Mapping
import MappedSql.Text.CamelCase

/-!
Declarations of types, as written: a name, type parameters, attributes, and members or variants.
-/

namespace MappedSql

structure MemberDeclaration where
  name : String
  type : String
  attributes : List Attribute := []
  deriving DecidableEq, Repr

structure VariantDeclaration where
  name : String
  attributes : List Attribute := []
  hasMembers : Bool := false
  /-- The number given to the variant; without one it follows the variant before. -/
  discriminant : Option Int := none
  deriving DecidableEq, Repr

inductive DeclarationBody where
  | record (members : List MemberDeclaration)
  | unnamed
  | enumeration (variants : List VariantDeclaration)
  | union
  deriving DecidableEq, Repr

structure Declaration where
  name : String
  parameters : List TypeParameter := []
  attributes : List Attribute := []
  body : DeclarationBody
  deriving DecidableEq, Repr

namespace Declaration

def plainName (name : String) : String :=
  match name.toList with
  | 'r' :: '#' :: rest => String.ofList rest
  | _ => name

def header (declaration : Declaration) (role : String) : String :=
  "impl" ++ TypeParameter.bracketed (·.declared) declaration.parameters ++ " " ++ role ++ " for "
    ++ declaration.name ++ TypeParameter.bracketed (·.name) declaration.parameters

end Declaration

/-!
What a declared record means for mappings: which members can be read and how, and, for an entity,
which table and columns it stands for. Members marked to be ignored are left out of both.
-/

inductive Reading where
  | value
  | document
  | optionalDocument
  deriving DecidableEq, Repr

instance : Vocabulary Reading where
  all := [.value, .document, .optionalDocument]
  name
    | .value => "to_value"
    | .document => "json"
    | .optionalDocument => "optional_json"

structure MemberOutline where
  name : String
  type : String
  settings : MemberSettings
  deriving DecidableEq, Repr

namespace MemberOutline

def reading (member : MemberOutline) : Reading :=
  if !member.settings.json then .value
  else if TypeText.isOptional member.type then .optionalDocument
  else .document

def column? (member : MemberOutline) : Option String :=
  if member.settings.mapped then
    some (member.settings.column.getD (Text.camelCase member.name))
  else none

def mapping (kindOf : String → Kind) (member : MemberOutline) : MemberMapping where
  name := member.name
  kind := if member.settings.json then .document else kindOf member.type
  column := member.column?.map fun name => {
    name
    writes := member.settings.writes.getD .insertAndUpdate
    primaryKey := member.settings.primaryKey
    enumAs := member.settings.enumAs.getD .number
    json := member.settings.json
    autoGenerate := member.settings.autoGenerate }

def ofDeclarations : List MemberDeclaration → Except DeclarationFault (List MemberOutline)
  | [] => .ok []
  | member :: rest => do
      let settings ← MemberSettings.ofAttributes member.attributes
      let others ← ofDeclarations rest
      if settings.ignored then return others
      else return ⟨Declaration.plainName member.name, member.type, settings⟩ :: others

end MemberOutline

structure RecordOutline where
  members : List MemberOutline
  deriving DecidableEq, Repr

namespace RecordOutline

def ofDeclaration (declaration : Declaration) : Except DeclarationFault RecordOutline :=
  match declaration.body with
  | .record members => (MemberOutline.ofDeclarations members).map RecordOutline.mk
  | .unnamed => .error .unnamedMembers
  | .enumeration _ | .union => .error .notRecord

def readings (outline : RecordOutline) : List (String × Reading) :=
  outline.members.map fun member => (member.name, member.reading)

end RecordOutline

structure EntityOutline where
  type : String
  table : TableSettings
  record : RecordOutline
  deriving DecidableEq, Repr

namespace EntityOutline

/-- The table is looked at before the members. -/
def ofDeclaration (declaration : Declaration) : Except DeclarationFault EntityOutline := do
  let table ← TableSettings.ofAttributes declaration.attributes
  let record ← RecordOutline.ofDeclaration declaration
  return ⟨Declaration.plainName declaration.name, table, record⟩

def mapping (kindOf : String → Kind) (outline : EntityOutline) : Mapping where
  type := outline.type
  table := outline.table.table.map fun name => {
    name
    schema := outline.table.schema.getD "dbo"
    softDelete := outline.table.softDelete.getD true }
  members := outline.record.members.map (MemberOutline.mapping kindOf)

end EntityOutline

/-!
What a declared enumeration means for mappings: its variants in order, each under the name that is
stored. A variant without a number follows the variant before it, and the first is zero. Numbers are
taken as signed integers of sixty-four bits, where those that are too large start again from below.
-/

structure VariantOutline where
  declared : String
  stored : String
  discriminant : Int
  deriving DecidableEq, Repr

structure EnumerationOutline where
  declared : String
  variants : List VariantOutline
  deriving DecidableEq, Repr

namespace VariantOutline

def asInt64 (number : Int) : Int :=
  (Int64.ofInt number).toInt

/-- The outlines of variants; `next` is the number of the first if it has none of its own. -/
def ofDeclarations (next : Int) :
    List VariantDeclaration → Except DeclarationFault (List VariantOutline)
  | [] => .ok []
  | variant :: rest => do
      if variant.hasMembers then throw .variantWithMembers
      let name ← VariantSettings.ofAttributes variant.attributes
      let number := variant.discriminant.getD next
      let others ← ofDeclarations (number + 1) rest
      return ⟨variant.name, name.getD (Declaration.plainName variant.name), asInt64 number⟩ :: others

end VariantOutline

namespace EnumerationOutline

def ofDeclaration (declaration : Declaration) : Except DeclarationFault EnumerationOutline :=
  match declaration.body with
  | .enumeration variants =>
      if !declaration.parameters.isEmpty then .error .parametersOnEnumeration
      else if variants.isEmpty then .error .noVariants
      else (VariantOutline.ofDeclarations 0 variants).map (EnumerationOutline.mk declaration.name)
  | _ => .error .notEnumeration

def name (outline : EnumerationOutline) : String :=
  Declaration.plainName outline.declared

def path (outline : EnumerationOutline) (variant : VariantOutline) : String :=
  outline.declared ++ "::" ++ variant.declared

def enumeration (outline : EnumerationOutline) : Enumeration where
  name := outline.name
  variants := outline.variants.map fun variant => ⟨variant.stored, variant.discriminant⟩

def valueOf (outline : EnumerationOutline) (variant : VariantOutline) : EnumValue where
  enumeration := outline.enumeration
  variant := ⟨variant.stored, variant.discriminant⟩

end EnumerationOutline

/-!
The code that describes an entity: a chain of calls, each with its arguments. Settings that were not
given leave no trace in it, so the describing program applies its own defaults.
-/

inductive Code where
  | text (value : String)
  | flag (value : Bool)
  | path (name : String)
  | kindOf (type : String)
  | chain (calls : List (String × List Code))

namespace Code

abbrev Call := String × List Code

def optional {α : Type} (name : String) (argument : α → Code) : Option α → List Call
  | some value => [(name, [argument value])]
  | none => []

def flagged (name : String) (flag : Bool) : List Call :=
  if flag then [(name, [])] else []

def ofTable (settings : TableSettings) (name : String) : Code :=
  chain <| ("TableAttr::new", [text name])
    :: (optional "schema" text settings.schema ++ optional "soft_delete" flag settings.softDelete)

def ofColumn (settings : MemberSettings) (name : String) : Code :=
  chain <| ("ColumnAttr::new", [text name])
    :: (flagged "primary_key" settings.primaryKey
      ++ optional "insert_update"
          (fun rule => path ("InsertUpdateBehavior::" ++ Vocabulary.name rule)) settings.writes
      ++ optional "enum_as"
          (fun storage => path ("EnumBehavior::" ++ Vocabulary.name storage)) settings.enumAs
      ++ flagged "json" settings.json
      ++ flagged "auto_generate" settings.autoGenerate)

def kindOfMember (member : MemberOutline) : Code :=
  if member.settings.json then path "SqlKind::Json" else kindOf (TypeText.compact member.type)

def ofMember (member : MemberOutline) : Code :=
  match member.column? with
  | some column =>
      chain [("MemberDescriptor::mapped",
        [text member.name, kindOfMember member, ofColumn member.settings column])]
  | none => chain [("MemberDescriptor::unmapped", [text member.name, kindOfMember member])]

end Code

namespace EntityOutline

def describe (outline : EntityOutline) : List Code.Call :=
  ("EntityDescriptor::new", [Code.text outline.type])
    :: (Code.optional "table" (Code.ofTable outline.table) outline.table.table
      ++ outline.record.members.map fun member => ("member", [Code.ofMember member]))

end EntityOutline

end MappedSql
