import MappedSql.Declaration.Token
import MappedSql.Schema.Mapping

/-!
Why a declaration is refused. Each constructor of `DeclarationFault` is one cause; its wording is a
function of it.
-/

namespace MappedSql

inductive Expected where
  | identifier
  | textLiteral
  | comma
  | expression
  | pathSegment
  deriving DecidableEq, Repr

def Expected.wording : Expected → String
  | identifier => "identifier"
  | textLiteral => "string literal"
  | comma => "`,`"
  | expression => "an expression"
  | pathSegment => "path segment after `::`"

inductive DeclarationFault where
  /-- `atEnd`: the attribute ends where more was expected. -/
  | expected (what : Expected) (atEnd : Bool)
  | keyword (word : String)
  | notTableSetting
  | notLiteral
  | notText
  | notFlag
  | unknownTableSetting
  | settingsWithoutTable
  | unknownMemberSetting (key : String)
  | unknownWriteRule
  | unknownStorage
  | ignoredWithSettings
  | settingsWithoutColumn
  | unknownVariantSetting
  | notRecord
  | unnamedMembers
  | notEnumeration
  | parametersOnEnumeration
  | noVariants
  | variantWithMembers
  deriving DecidableEq, Repr

namespace DeclarationFault

def message : DeclarationFault → String
  | expected what atEnd =>
      (if atEnd then "unexpected end of input, " else "") ++ "expected " ++ what.wording
  | keyword word => s!"expected identifier, found keyword `{word}`"
  | notTableSetting => "expected `table = \"...\"`, `schema = \"...\"` or `soft_delete = bool`"
  | notLiteral => "expected a literal"
  | notText => "expected a string literal"
  | notFlag => "expected `true` or `false`"
  | unknownTableSetting =>
      "unknown orm attribute; expected `table`, `schema` or `soft_delete`"
  | settingsWithoutTable => "`schema` and `soft_delete` require #[orm(table = \"...\")]"
  | unknownMemberSetting key => s!"unknown orm attribute `{key}`"
  | unknownWriteRule => "expected \"insert_and_update\", \"only_insert\" or \"neither\""
  | unknownStorage => "expected \"int\" or \"string\""
  | ignoredWithSettings => "`ignore` cannot be combined with other orm attributes"
  | settingsWithoutColumn => "column options require `column` or `column = \"...\"`"
  | unknownVariantSetting => "unknown orm attribute; expected `rename = \"...\"`"
  | notRecord => "tsorm derives can only be derived for structs"
  | unnamedMembers => "tsorm derives only support structs with named fields"
  | notEnumeration => "SqlEnum can only be derived for enums"
  | parametersOnEnumeration => "SqlEnum cannot be derived for generic enums"
  | noVariants => "SqlEnum requires at least one variant"
  | variantWithMembers => "SqlEnum variants must be unit variants (no fields)"

end DeclarationFault

/-!
Settings: what the attributes of a type or of a variant hold, separated by commas. A setting is a
path alone, a path with a group in brackets, or a path with an argument after an equals sign. All
settings of an attribute are read before the first is looked at.
-/

inductive Argument where
  | text (value : String)
  | flag (value : Bool)
  | otherLiteral
  | expression
  deriving DecidableEq, Repr

inductive Setting where
  | plain
  /-- An argument; `name` is there if the path is a single word. -/
  | assigned (name : Option String) (argument : Argument)
  deriving DecidableEq, Repr

namespace Setting

def isPathWord (word : String) : Bool :=
  !Token.isKeyword word || ["super", "self", "Self", "crate"].contains word

/-- The words of a path and what follows it. `first` tells the first word from later ones, and
`last` the last part of an attribute. -/
def readPath (last first : Bool) : List Token → Except DeclarationFault (List String × List Token)
  | .word name :: .mark ':' :: .mark ':' :: rest =>
      if isPathWord name then
        (readPath last false rest).map fun (names, left) => (name :: names, left)
      else .error (if first then .keyword name else .expected .pathSegment false)
  | .word name :: rest =>
      if isPathWord name then .ok ([name], rest)
      else .error (if first then .keyword name else .expected .pathSegment false)
  | rest =>
      .error (.expected (if first then .identifier else .pathSegment) (last && rest.isEmpty))

def readName (last : Bool) : List Token → Except DeclarationFault (Option String × List Token)
  | .mark ':' :: .mark ':' :: rest =>
      (readPath last true rest).map fun (_, left) => (none, left)
  | tokens =>
      (readPath last true tokens).map fun (names, left) =>
        match names with
        | [name] => (some name, left)
        | _ => (none, left)

def runsOn : List Token → Bool
  | [] => false
  | [_] => false
  | token :: next :: rest =>
      let operand : Bool := match token with
        | .text _ | .literal => true
        | .word name => !Token.isKeyword name
        | .mark _ => false
      let another : Bool := match next with
        | .text _ | .literal => true
        | .word name => name != "as"
        | .mark _ => false
      (operand && another) || runsOn (next :: rest)

/-- Classifies an argument. A number with a sign is a literal only at the end of the attribute. -/
def readArgument (last : Bool) (tokens : List Token) : Except DeclarationFault Argument :=
  match tokens with
  | [] => .error (.expected .expression last)
  | [.text value] => .ok (.text value)
  | [.word "true"] => .ok (.flag true)
  | [.word "false"] => .ok (.flag false)
  | [.literal] => .ok .otherLiteral
  | [.mark '-', .literal] => .ok (if last then .otherLiteral else .expression)
  | tokens => if runsOn tokens then .error (.expected .comma false) else .ok .expression

def read (last : Bool) (part : List Token) : Except DeclarationFault Setting := do
  let (name, rest) ← readName last part
  match rest with
  | [] => return plain
  | .mark '=' :: argument => return assigned name (← readArgument last argument)
  | token :: rest =>
      if token.opens && (Token.afterGroup 0 rest).isEmpty then return plain
      else throw (.expected .comma false)

/-- Reads the parts in order; an empty last part is a comma at the end or nothing at all. -/
def readParts : List (List Token) → Except DeclarationFault (List Setting)
  | [] => .ok []
  | [part] => if part.isEmpty then .ok [] else do return [← read true part]
  | part :: rest => do
      if part.isEmpty then throw (.expected .identifier false)
      let setting ← read false part
      return setting :: (← readParts rest)

def ofTokens (tokens : List Token) : Except DeclarationFault (List Setting) :=
  readParts (Token.parts tokens)

end Setting

/-!
What the attributes of a type say about its table. Of a setting that is repeated the last counts.
-/

structure TableSettings where
  table : Option String := none
  schema : Option String := none
  softDelete : Option Bool := none
  deriving DecidableEq, Repr

namespace TableSettings

def apply (settings : TableSettings) : Setting → Except DeclarationFault TableSettings
  | .plain => .error .notTableSetting
  | .assigned _ .expression => .error .notLiteral
  | .assigned (some "table") (.text value) => .ok { settings with table := some value }
  | .assigned (some "schema") (.text value) => .ok { settings with schema := some value }
  | .assigned (some "soft_delete") (.flag value) => .ok { settings with softDelete := some value }
  | .assigned (some "table") _ | .assigned (some "schema") _ => .error .notText
  | .assigned (some "soft_delete") _ => .error .notFlag
  | .assigned _ _ => .error .unknownTableSetting

def isComplete (settings : TableSettings) : Bool :=
  settings.table.isSome || (settings.schema.isNone && settings.softDelete.isNone)

def read (settings : TableSettings) (content : List Token) :
    Except DeclarationFault TableSettings := do
  (← Setting.ofTokens content).foldlM apply settings

def ofAttributes (attributes : List Attribute) : Except DeclarationFault TableSettings := do
  let settings ← (Attribute.contents attributes).foldlM read {}
  if settings.isComplete then return settings else throw .settingsWithoutTable

end TableSettings

end MappedSql

/-!
What the attributes of a variant say: another name for it. Of several the last counts.
-/

namespace MappedSql.VariantSettings

def rename : Setting → Except DeclarationFault String
  | .assigned (some "rename") (.text value) => .ok value
  | .assigned (some "rename") _ => .error .notText
  | _ => .error .unknownVariantSetting

def read (name : Option String) (content : List Token) :
    Except DeclarationFault (Option String) := do
  (← Setting.ofTokens content).foldlM (fun _ setting => do return some (← rename setting)) name

def ofAttributes (attributes : List Attribute) : Except DeclarationFault (Option String) :=
  (Attribute.contents attributes).foldlM read none

end MappedSql.VariantSettings

/-!
What the attributes of a member say about its column. An entry is a key alone or a key with a
text. Entries are taken one after the other, so the first faulty one decides; settings of several
attributes are merged, and what is said last about the column counts. Whether the settings go
together is looked at when all of them are known.
-/

namespace MappedSql

structure MemberEntry where
  key : String
  value : Option String := none
  deriving DecidableEq, Repr

namespace MemberEntry

def read (last : Bool) : List Token → Except DeclarationFault (MemberEntry × List Token)
  | .word key :: rest =>
      if Token.isKeyword key then .error (.keyword key)
      else match rest with
        | .mark '=' :: .text value :: left => .ok (⟨key, some value⟩, left)
        | .mark '=' :: left => .error (.expected .textLiteral (last && left.isEmpty))
        | left => .ok (⟨key, none⟩, left)
  | _ => .error (.expected .identifier false)

end MemberEntry

structure MemberSettings where
  mapped : Bool := false
  column : Option String := none
  primaryKey : Bool := false
  writes : Option WriteRule := none
  enumAs : Option EnumStorage := none
  json : Bool := false
  autoGenerate : Bool := false
  ignored : Bool := false
  deriving DecidableEq, Repr

namespace MemberSettings

def writeRule? : String → Option WriteRule
  | "insert_and_update" => some .insertAndUpdate
  | "only_insert" => some .onlyInsert
  | "neither" => some .neither
  | _ => none

def storage? : String → Option EnumStorage
  | "int" => some .number
  | "string" => some .name
  | _ => none

def mark (settings : MemberSettings) (key : String) : Except DeclarationFault MemberSettings :=
  match key with
  | "column" => .ok { settings with mapped := true }
  | "primary_key" => .ok { settings with primaryKey := true }
  | "json" => .ok { settings with json := true }
  | "auto_generate" => .ok { settings with autoGenerate := true }
  | "ignore" => .ok { settings with ignored := true }
  | _ => .error (.unknownMemberSetting key)

def assign (settings : MemberSettings) (key value : String) :
    Except DeclarationFault MemberSettings :=
  match key with
  | "column" => .ok { settings with mapped := true, column := some value }
  | "insert_update" =>
      match writeRule? value with
      | some rule => .ok { settings with writes := some rule }
      | none => .error .unknownWriteRule
  | "enum_as" =>
      match storage? value with
      | some storage => .ok { settings with enumAs := some storage }
      | none => .error .unknownStorage
  | _ => .error (.unknownMemberSetting key)

def apply (settings : MemberSettings) (entry : MemberEntry) :
    Except DeclarationFault MemberSettings :=
  match entry.value with
  | none => settings.mark entry.key
  | some value => settings.assign entry.key value

def readPart (last : Bool) (settings : MemberSettings) (part : List Token) :
    Except DeclarationFault MemberSettings := do
  let (entry, rest) ← MemberEntry.read last part
  let next ← settings.apply entry
  if rest.isEmpty then return next else throw (.expected .comma false)

def readParts (settings : MemberSettings) :
    List (List Token) → Except DeclarationFault MemberSettings
  | [] => .ok settings
  | [part] => if part.isEmpty then .ok settings else settings.readPart true part
  | part :: rest => do (← settings.readPart false part).readParts rest

def ofTokens (tokens : List Token) : Except DeclarationFault MemberSettings :=
  readParts {} (Token.parts tokens)

def merge (settings later : MemberSettings) : MemberSettings where
  mapped := settings.mapped || later.mapped
  column := later.column.or settings.column
  primaryKey := settings.primaryKey || later.primaryKey
  writes := later.writes.or settings.writes
  enumAs := later.enumAs.or settings.enumAs
  json := settings.json || later.json
  autoGenerate := settings.autoGenerate || later.autoGenerate
  ignored := settings.ignored || later.ignored

def hasColumnSettings (settings : MemberSettings) : Bool :=
  settings.primaryKey || settings.writes.isSome || settings.enumAs.isSome || settings.json
    || settings.autoGenerate

def check (settings : MemberSettings) : Except DeclarationFault MemberSettings :=
  if settings.ignored && (settings.mapped || settings.hasColumnSettings) then
    .error .ignoredWithSettings
  else if !settings.mapped && settings.hasColumnSettings then .error .settingsWithoutColumn
  else .ok settings

def mergeAll (settings : MemberSettings) :
    List (List Token) → Except DeclarationFault MemberSettings
  | [] => .ok settings
  | content :: rest => do (settings.merge (← ofTokens content)).mergeAll rest

def ofAttributes (attributes : List Attribute) : Except DeclarationFault MemberSettings := do
  (← mergeAll {} (Attribute.contents attributes)).check

end MemberSettings

end MappedSql
