import MappedSql.Declaration.Token
import MappedSql.Text.Basic
import MappedSql.Value.Basic

/-!
Type parameters of a declaration. A header writes them twice: declared with their bounds, but
without defaults, and used by name. Lifetimes come first in both.
-/

namespace MappedSql

structure TypeParameter where
  isLifetime : Bool
  name : String
  declared : String
  comma : Bool
  deriving DecidableEq, Repr

namespace TypeParameter

def constantWord : List Char := ['c', 'o', 'n', 's', 't']

def isConstant (part : List Char) : Bool :=
  constantWord.isPrefixOf part && ((part.drop 5).head?.map Text.isBlankChar).getD false

def withoutBlanks (chars : List Char) : List Char :=
  chars.filter fun c => !Text.isBlankChar c

def dropEmptyBound (chars : List Char) : List Char :=
  if chars.getLast? = some ':' then chars.dropLast else chars

def ofChars (comma : Bool) (chars : List Char) : TypeParameter :=
  let part := Text.trimChars chars
  let declared := dropEmptyBound (withoutBlanks ((Text.parts '=' part).headD []))
  let plain := if isConstant part then withoutBlanks (part.drop 5) else withoutBlanks part
  { isLifetime := part.head? = some '\''
    name := String.ofList (plain.takeWhile fun c => c != ':' && c != '=')
    declared := String.ofList declared
    comma }

def ofParts : List (List Char) → List TypeParameter
  | [] => []
  | [part] => if part.all Text.isBlankChar then [] else [ofChars false part]
  | part :: rest => ofChars true part :: ofParts rest

def ofText (text : String) : List TypeParameter :=
  match text.toList.dropWhile Text.isBlankChar with
  | '<' :: inside =>
      match Text.readGroup 0 false inside with
      | some (content, _) => ofParts (Text.parts ',' content)
      | none => []
  | _ => []

def joined (form : TypeParameter → String) (parameters : List TypeParameter) : String :=
  String.join (parameters.map fun parameter => form parameter ++ if parameter.comma then "," else "")

/-- Angle brackets round the parameters, lifetimes first; nothing if there are none. -/
def bracketed (form : TypeParameter → String) (parameters : List TypeParameter) : String :=
  let lifetimes := parameters.filter (·.isLifetime)
  let others := parameters.filter fun parameter => !parameter.isLifetime
  let separator :=
    if (lifetimes.getLast?.map (fun parameter => !parameter.comma)).getD false && !others.isEmpty
    then "," else ""
  if parameters.isEmpty then ""
  else "<" ++ joined form lifetimes ++ separator ++ joined form others ++ ">"

end TypeParameter

end MappedSql

/-!
The types of members as written in declarations. A declaration knows only the text of a type: it
tells from it whether the member may be absent, and nothing else.
-/

namespace MappedSql.TypeText

def compactChars (type : String) : List Char :=
  type.toList.filter fun c => !Text.isBlankChar c

def compact (type : String) : String :=
  String.ofList (compactChars type)

/-- The last word of a path, with the inside of the angle brackets after it, if there are any;
nothing if the characters are no path. The fuel bounds the number of words. -/
def lastWord? : Nat → List Char → Option (List Char × Option (List Char))
  | 0, _ => none
  | fuel + 1, chars =>
      let word := chars.takeWhile Token.isNamePart
      if word.isEmpty then none
      else
        let next : List Char → Option (List Char × Option (List Char))
          | ':' :: ':' :: rest => lastWord? fuel rest
          | _ => none
        let group (inside : List Char) : Option (List Char × Option (List Char)) :=
          match Text.readGroup 0 false inside with
          | some (arguments, []) => some (word, some arguments)
          | some (_, rest) => next rest
          | none => none
        match chars.dropWhile Token.isNamePart with
        | [] => some (word, none)
        | '<' :: inside => group inside
        | ':' :: ':' :: '<' :: inside => group inside
        | rest => next rest

def countArguments (arguments : List Char) : Nat :=
  ((Text.parts ',' arguments).filter fun part => !part.isEmpty).length

def isOptional (type : String) : Bool :=
  let chars := match compactChars type with
    | ':' :: ':' :: rest => rest
    | chars => chars
  match lastWord? (chars.length + 1) chars with
  | some (word, some arguments) =>
      word == ['O', 'p', 't', 'i', 'o', 'n'] && countArguments arguments == 1
  | _ => false

end MappedSql.TypeText

namespace MappedSql.MemberType

def ofName? (name : String) : Option MemberType :=
  match name with
  | "bool" => some .bool
  | "f32" => some (.float .single)
  | "f64" => some (.float .double)
  | "Decimal" => some .decimal
  | "char" => some .char
  | "String" | "str" => some .text
  | "Vec<u8>" => some .bytes
  | "NaiveDate" => some .date
  | "NaiveTime" => some .time
  | "NaiveDateTime" => some .timestamp
  | "DateTime<Utc>" => some .utcTimestamp
  | "DateTime<Local>" => some .localTimestamp
  | "DateTime<FixedOffset>" => some .offsetTimestamp
  | "Uuid" => some .guid
  | "serde_json::Value" | "Value" => some .document
  | _ => (Vocabulary.find? name).map .integer

def ofChars? : Nat → List Char → Option MemberType
  | 0, _ => none
  | fuel + 1, '&' :: rest => (ofChars? fuel rest).map .reference
  | fuel + 1, chars =>
      match Json.afterWord? ['O', 'p', 't', 'i', 'o', 'n', '<'] chars with
      | some rest => (ofChars? fuel rest.dropLast).map .optional
      | none => ofName? (String.ofList chars)

def ofText? (type : String) : Option MemberType :=
  let chars := TypeText.compactChars type
  ofChars? (chars.length + 1) chars

end MappedSql.MemberType
