import MappedSql.Fault
import MappedSql.Json
import MappedSql.Text.Basic

/-!
Settings of statement writing: the column that a soft delete sets, the hint on tables that are read,
and whether statements are logged.
-/

namespace MappedSql

structure Settings where
  softDeleteColumn : String := "IsDeleted"
  readHint : Option String := some "NOLOCK"
  logStatements : Bool := true
  deriving DecidableEq, Repr

namespace Settings

/-- What follows a table that is read; a blank hint is none. -/
def hintSuffix (settings : Settings) : String :=
  match settings.readHint with
  | some hint => if Text.isBlank hint then "" else " WITH (" ++ hint ++ ")"
  | none => ""

end Settings

end MappedSql

/-!
Reads settings from a TOML document. Settings are three keys at the top level, two texts and a truth
value, so every document with a table, a dotted key, another key or another kind of value is
refused; of the grammar only comments, simple keys, the four forms of texts and truth values remain.
A key that is not there keeps its default; a key that is there twice is an error.
-/

namespace MappedSql.Settings.Toml

inductive Entry where
  | text (value : String)
  | bool (value : Bool)
  deriving DecidableEq, Repr

def isSpace (c : Char) : Bool :=
  c == ' ' || c == '\t'

def isControl (c : Char) : Bool :=
  (c.toNat < 0x20 && c != '\t') || c.toNat == 0x7F

def isBareKeyChar (c : Char) : Bool :=
  c.isAlphanum || c == '_' || c == '-'

def skipSpace (chars : List Char) : List Char :=
  chars.dropWhile isSpace

def scalar? (digits : List Char) : Option Char := do
  let values ← digits.mapM Json.hexValue?
  let code := values.foldl (fun total value => total * 16 + value) 0
  if code < 0xD800 || (0xDFFF < code && code < 0x110000) then some (Char.ofNat code) else none

def simpleEscape? (c : Char) : Option Char :=
  match c with
  | 'b' => some (Char.ofNat 0x08)
  | 't' => some '\t'
  | 'n' => some '\n'
  | 'f' => some (Char.ofNat 0x0C)
  | 'e' => some (Char.ofNat 0x1B)
  | 'r' => some '\r'
  | '"' => some '"'
  | '\\' => some '\\'
  | _ => none

def readEscape : List Char → Option (Char × List Char)
  | 'x' :: a :: b :: rest => (scalar? [a, b]).map (·, rest)
  | 'u' :: a :: b :: c :: d :: rest => (scalar? [a, b, c, d]).map (·, rest)
  | 'U' :: a :: b :: c :: d :: e :: f :: g :: h :: rest =>
      (scalar? [a, b, c, d, e, f, g, h]).map (·, rest)
  | c :: rest => (simpleEscape? c).map (·, rest)
  | [] => none

def prepend (c : Char) : Option (List Char × List Char) → Option (List Char × List Char)
  | some (chars, rest) => some (c :: chars, rest)
  | none => none

def readBasic : Nat → List Char → Option (List Char × List Char)
  | 0, _ => none
  | _ + 1, [] => none
  | fuel + 1, c :: rest =>
      if c == '"' then some ([], rest)
      else if c == '\\' then
        match readEscape rest with
        | some (plain, left) => prepend plain (readBasic fuel left)
        | none => none
      else if isControl c then none
      else prepend c (readBasic fuel rest)

def readLiteral : List Char → Option (List Char × List Char)
  | [] => none
  | c :: rest =>
      if c == '\'' then some ([], rest)
      else if isControl c then none
      else prepend c (readLiteral rest)

/-- The start of a text over several lines: a line end right after the quotes is dropped. -/
def dropLineEnd : List Char → List Char
  | '\r' :: '\n' :: rest => rest
  | '\n' :: rest => rest
  | chars => chars

/-- Three closing quotes, with up to two more before them that belong to the text. -/
def closing? (quote : Char) (chars : List Char) : Option (List Char × List Char) :=
  let run := (chars.takeWhile (· == quote)).length
  if run < 3 || 5 < run then none
  else some (List.replicate (run - 3) quote, chars.drop run)

/-- A backslash at the end of a line: it takes all blanks and line ends after it away. -/
def continuation? (chars : List Char) : Option (List Char) :=
  match skipSpace chars with
  | '\n' :: rest => some (rest.dropWhile fun c => isSpace c || c == '\n' || c == '\r')
  | '\r' :: '\n' :: rest => some (rest.dropWhile fun c => isSpace c || c == '\n' || c == '\r')
  | _ => none

def readLong (quote : Char) (escapes : Bool) : Nat → List Char → Option (List Char × List Char)
  | 0, _ => none
  | _ + 1, [] => none
  | fuel + 1, c :: rest =>
      match closing? quote (c :: rest) with
      | some done => some done
      | none =>
          if c == '\\' && escapes then
            match continuation? rest with
            | some left => readLong quote escapes fuel left
            | none =>
                match readEscape rest with
                | some (plain, left) => prepend plain (readLong quote escapes fuel left)
                | none => none
          else if c == '\r' then
            match rest with
            | '\n' :: left => prepend '\n' (readLong quote escapes fuel left)
            | _ => none
          else if isControl c && c != '\n' then none
          else prepend c (readLong quote escapes fuel rest)

def readText (chars : List Char) : Option (List Char × List Char) :=
  match chars with
  | '"' :: '"' :: '"' :: rest => readLong '"' true (rest.length + 1) (dropLineEnd rest)
  | '\'' :: '\'' :: '\'' :: rest => readLong '\'' false (rest.length + 1) (dropLineEnd rest)
  | '"' :: rest => readBasic (rest.length + 1) rest
  | '\'' :: rest => readLiteral rest
  | _ => none

def readValue (chars : List Char) : Option (Entry × List Char) :=
  match chars with
  | 't' :: 'r' :: 'u' :: 'e' :: rest => some (.bool true, rest)
  | 'f' :: 'a' :: 'l' :: 's' :: 'e' :: rest => some (.bool false, rest)
  | _ => (readText chars).map fun (value, rest) => (.text (String.ofList value), rest)

def readKey (chars : List Char) : Option (String × List Char) :=
  match chars with
  | '"' :: rest =>
      (readBasic (rest.length + 1) rest).map fun (key, left) => (String.ofList key, left)
  | '\'' :: rest => (readLiteral rest).map fun (key, left) => (String.ofList key, left)
  | _ =>
      let key := chars.takeWhile isBareKeyChar
      if key.isEmpty then none
      else some (String.ofList key, chars.dropWhile isBareKeyChar)

def readLineEnd (chars : List Char) : Option (List Char) :=
  let rest := match skipSpace chars with
    | '#' :: comment => comment.dropWhile fun c => !isControl c
    | rest => rest
  match rest with
  | [] => some []
  | '\n' :: left => some left
  | '\r' :: '\n' :: left => some left
  | _ => none

def readEntry (chars : List Char) : Option ((String × Entry) × List Char) := do
  let (key, rest) ← readKey chars
  match skipSpace rest with
  | '=' :: rest =>
      let (value, rest) ← readValue (skipSpace rest)
      let rest ← readLineEnd rest
      return ((key, value), rest)
  | _ => none

def isIdleLine (chars : List Char) : Bool :=
  match chars with
  | [] => true
  | c :: _ => c == '#' || c == '\n' || c == '\r'

def readEntries : Nat → List Char → Option (List (String × Entry))
  | 0, _ => none
  | fuel + 1, chars =>
      let line := skipSpace chars
      if line.isEmpty then some []
      else if isIdleLine line then do
        let rest ← readLineEnd line
        readEntries fuel rest
      else do
        let (entry, rest) ← readEntry line
        let others ← readEntries fuel rest
        return entry :: others

def set (settings : Settings) (entry : String × Entry) : Option Settings :=
  match entry with
  | ("soft_delete_column", .text value) => some { settings with softDeleteColumn := value }
  | ("read_hint", .text value) => some { settings with readHint := some value }
  | ("log_statements", .bool value) => some { settings with logStatements := value }
  | _ => none

def noneTwice : List String → Bool
  | [] => true
  | key :: rest => !rest.contains key && noneTwice rest

def dropMark : List Char → List Char
  | c :: rest => if c.toNat = 0xFEFF then rest else c :: rest
  | [] => []

def read? (document : String) : Option Settings := do
  let chars := dropMark document.toList
  let entries ← readEntries (chars.length + 1) chars
  if noneTwice (entries.map Prod.fst) then entries.foldlM set {} else none

end MappedSql.Settings.Toml

namespace MappedSql.Settings

def ofToml (document : String) : Except Fault Settings :=
  match Toml.read? document with
  | some settings => .ok settings
  | none => .error .malformedSettings

end MappedSql.Settings
