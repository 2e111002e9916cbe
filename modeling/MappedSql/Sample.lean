import MappedSql.Schema.Mapping

/-!
Sample mappings. They cover what a mapping can declare, and some of them are refused; examples and
checks of the library are stated over them.
-/

namespace MappedSql.Sample

def status : Enumeration :=
  ⟨"Status", [⟨"Active", 1⟩, ⟨"Inactive", 2⟩]⟩

/-- Colours: two names for one number, two numbers for one name, an empty name. -/
def color : Enumeration :=
  ⟨"Color", [⟨"Red", 0⟩, ⟨"Green", -1⟩, ⟨"Crimson", 0⟩, ⟨"Blue", 9223372036854775807⟩,
    ⟨"Dark'ish", 4⟩, ⟨"Red", 7⟩, ⟨"", 11⟩]⟩

def emptyEnumeration : Enumeration := ⟨"Empty", []⟩

def enumerations : List Enumeration := [status, color, emptyEnumeration]

def mapped (name : String) (kind : Kind) (column : ColumnMapping) : MemberMapping :=
  ⟨name, kind, some column⟩

def unmapped (name : String) (kind : Kind) : MemberMapping :=
  ⟨name, kind, none⟩

def person : Mapping :=
  { type := "Person"
    table := some { name := "Person" }
    members := [
      mapped "id" .integer { name := "Id", primaryKey := true },
      mapped "name" .text { name := "Name" },
      mapped "status" (.enumeration status) { name := "Status", enumAs := .name },
      unmapped "nickname" .text] }

def order : Mapping :=
  { type := "Order"
    table := some { name := "Orders", schema := "sales", softDelete := false }
    members := [
      mapped "id" .integer { name := "Id", primaryKey := true },
      mapped "person_id" .integer { name := "PersonId" },
      mapped "total" .float { name := "Total" },
      mapped "status" (.enumeration status) { name := "Status" }] }

def audit : Mapping :=
  { type := "Audit"
    table := some { name := "Audit", softDelete := false }
    members := [
      mapped "id" .guid { name := "Id", primaryKey := true, autoGenerate := true },
      mapped "created_at" .timestamp
        { name := "CreatedAt", writes := .onlyInsert, autoGenerate := true },
      mapped "payload" .document { name := "Payload", json := true },
      mapped "row_version" .integer { name := "RowVersion", writes := .neither }] }

def tableless : Mapping :=
  { type := "Draft" }

def boxed : Mapping :=
  { type := "Boxed"
    table := some { name := "Boxed" }
    members := [
      mapped "id" .integer { name := "Id", primaryKey := true },
      mapped "doc" .document { name := "Doc", json := true },
      mapped "amount" .decimal { name := "Amount" }] }

def event : Mapping :=
  { type := "Event"
    table := some { name := "Events", schema := "log" }
    members := [
      mapped "seq" .integer { name := "Seq", primaryKey := true },
      mapped "token" .guid { name := "Token", autoGenerate := true },
      mapped "at" .timestamp { name := "At", autoGenerate := true },
      mapped "at_off" .offsetTimestamp { name := "AtOff", autoGenerate := true },
      mapped "raw" .bytes { name := "Raw" },
      mapped "tags" .list { name := "Tags", json := true }] }

/-- Two keys, and names with brackets, quotes and blanks in them. -/
def multi : Mapping :=
  { type := "Multi"
    table := some { name := "we]ird'T", schema := "my]schema", softDelete := false }
    members := [
      mapped "k1" .integer { name := "K]1", primaryKey := true },
      mapped "body" .text { name := "Sp ace" },
      mapped "k2" .text { name := "K2", primaryKey := true },
      mapped "é" .text { name := "Ünï.cödé" }] }

def keyless : Mapping :=
  { type := "Keyless"
    table := some { name := "Keyless", schema := "log" }
    members := [
      mapped "a" .integer { name := "A" },
      mapped "b" .text { name := "B" }] }

def keyOnly : Mapping :=
  { type := "KeyOnly"
    table := some { name := "KeyOnly" }
    members := [mapped "id" .guid { name := "Id", primaryKey := true }] }

def computed : Mapping :=
  { type := "Computed"
    table := some { name := "Computed", schema := "v" }
    members := [
      mapped "id" .integer { name := "Id", primaryKey := true, writes := .neither },
      mapped "sum" .float { name := "Sum", writes := .neither }] }

def identity : Mapping :=
  { type := "Identity"
    table := some { name := "Ident" }
    members := [
      mapped "id" .integer { name := "Id", primaryKey := true, writes := .neither },
      mapped "name" .text { name := "Name" },
      mapped "stamp" .timestamp { name := "Stamp", writes := .onlyInsert }] }

def palette : Mapping :=
  { type := "Palette"
    table := some { name := "Palette", schema := "art" }
    members := [
      mapped "color" (.enumeration color) { name := "Color", primaryKey := true },
      mapped "shade" (.enumeration color) { name := "Shade", enumAs := .name },
      mapped "both" (.enumeration status) { name := "Both", enumAs := .name, json := true },
      mapped "none" (.enumeration emptyEnumeration) { name := "None" }] }

/-- A table with the same bare name as that of the persons, up to case. -/
def twin : Mapping :=
  { type := "Twin"
    table := some { name := "PERSON", schema := "hr", softDelete := false }
    members := [
      mapped "id" .integer { name := "id", primaryKey := true },
      mapped "status" .integer { name := "STATUS", enumAs := .name },
      mapped "name" .text { name := "name" }] }

def blank : Mapping :=
  { type := "Blank", table := some { name := "Blank" } }

def dupCol : Mapping :=
  { type := "DupCol"
    table := some { name := "DupCol" }
    members := [
      mapped "code" .text { name := "Code" },
      mapped "other" .text { name := "CODE" }] }

def badAuto : Mapping :=
  { type := "BadAuto"
    table := some { name := "BadAuto" }
    members := [mapped "code" .text { name := "Code", autoGenerate := true }] }

def mappings : List Mapping :=
  [person, order, audit, tableless, boxed, event, multi, keyless, keyOnly,
    computed, identity, palette, twin, blank, dupCol, badAuto]

end MappedSql.Sample
