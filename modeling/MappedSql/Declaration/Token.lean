import MappedSql.Json
import MappedSql.Text.Basic

/-!
Tokens of the text inside an attribute: words, literals and marks. Texts are known by what they
stand for; of other literals only their presence counts.
-/

namespace MappedSql

inductive Token where
  /-- A name or keyword; a raw name keeps its `r#`. -/
  | word (name : String)
  | text (value : String)
  | literal
  | mark (sign : Char)
  deriving DecidableEq, Repr

namespace Token

def isNamePart (c : Char) : Bool :=
  c.isAlphanum || c == '_' || (0x80 ≤ c.toNat && !Text.isBlankChar c)

/-- What a backslash and the characters after it stand for, and what follows. A line break and the
blanks after it stand for nothing. -/
def readEscape : List Char → Option (List Char × List Char)
  | 'n' :: rest => some (['\n'], rest)
  | 'r' :: rest => some (['\r'], rest)
  | 't' :: rest => some (['\t'], rest)
  | '0' :: rest => some ([Char.ofNat 0], rest)
  | '\\' :: rest => some (['\\'], rest)
  | '\'' :: rest => some (['\''], rest)
  | '"' :: rest => some (['"'], rest)
  | '\n' :: rest => some ([], rest.dropWhile Text.isBlankChar)
  | 'x' :: high :: low :: rest => do
      let code := (← Json.hexValue? high) * 16 + (← Json.hexValue? low)
      return ([Char.ofNat code], rest)
  | 'u' :: '\x7b' :: rest => do
      let digits := (rest.takeWhile (· != '\x7d')).filter (· != '_')
      let values ← digits.mapM Json.hexValue?
      let code := values.foldl (fun total value => total * 16 + value) 0
      return ([Char.ofNat code], (rest.dropWhile (· != '\x7d')).drop 1)
  | _ => none

def readQuoted : Nat → List Char → Option (List Char × List Char)
  | 0, _ => none
  | _, [] => none
  | _ + 1, '"' :: rest => some ([], rest)
  | fuel + 1, '\\' :: rest => do
      let (plain, rest) ← readEscape rest
      let (more, left) ← readQuoted fuel rest
      return (plain ++ more, left)
  | fuel + 1, c :: rest => (readQuoted fuel rest).map fun (more, left) => (c :: more, left)

def readRaw (hashes : Nat) : List Char → Option (List Char × List Char)
  | [] => none
  | c :: rest =>
      if c == '"' && rest.take hashes == List.replicate hashes '#' then
        some ([], rest.drop hashes)
      else (readRaw hashes rest).map fun (more, left) => (c :: more, left)

def openRaw? (chars : List Char) : Option (Nat × List Char) :=
  match chars.dropWhile (· == '#') with
  | '"' :: rest => some ((chars.takeWhile (· == '#')).length, rest)
  | _ => none

def afterCharacter? : List Char → Option (List Char)
  | '\\' :: rest =>
      match readEscape rest with
      | some (_, '\'' :: left) => some left
      | _ => none
  | _ :: '\'' :: left => some left
  | _ => none

def afterNumber (chars : List Char) : List Char :=
  let afterExponent (digits rest : List Char) : List Char :=
    match rest with
    | sign :: d :: more =>
        if (digits.getLast? == some 'e' || digits.getLast? == some 'E')
            && (sign == '-' || sign == '+') && d.isDigit then more.dropWhile isNamePart
        else rest
    | _ => rest
  let whole := chars.takeWhile isNamePart
  match chars.dropWhile isNamePart with
  | '.' :: d :: more =>
      if d.isDigit then
        afterExponent ((d :: more).takeWhile isNamePart) ((d :: more).dropWhile isNamePart)
      else '.' :: d :: more
  | rest => afterExponent whole rest

def readMarked (fuel : Nat) (word : List Char) (rest : List Char) : Option (Token × List Char) :=
  match word, rest with
  | ['b'], '\'' :: inside => (afterCharacter? inside).map fun left => (literal, left)
  | ['b'], '"' :: inside | ['c'], '"' :: inside =>
      (readQuoted fuel inside).map fun (_, left) => (literal, left)
  | ['r'], _ => do
      let (hashes, inside) ← openRaw? rest
      let (value, left) ← readRaw hashes inside
      return (text (String.ofList value), left)
  | ['b', 'r'], _ | ['c', 'r'], _ => do
      let (hashes, inside) ← openRaw? rest
      let (_, left) ← readRaw hashes inside
      return (literal, left)
  | _, _ => none

def readWord (word rest : List Char) : Token × List Char :=
  match word, rest with
  | ['r'], '#' :: c :: more =>
      if isNamePart c then
        (.word (String.ofList ('r' :: '#' :: (c :: more).takeWhile isNamePart)),
          (c :: more).dropWhile isNamePart)
      else (.word "r", rest)
  | _, _ => (.word (String.ofList word), rest)

def read (fuel : Nat) : List Char → Option (Token × List Char)
  | [] => none
  | '"' :: rest =>
      (readQuoted fuel rest).map fun (value, left) =>
        (text (String.ofList value), left.dropWhile isNamePart)
  | '\'' :: rest =>
      match afterCharacter? rest with
      | some left => some (literal, left)
      | none => some (mark '\'', rest)
  | c :: rest =>
      if c.isDigit then some (literal, afterNumber (c :: rest))
      else if isNamePart c then
        let word := (c :: rest).takeWhile isNamePart
        let after := (c :: rest).dropWhile isNamePart
        (readMarked fuel word after).or (some (readWord word after))
      else some (mark c, rest)

def scan : Nat → List Char → Option (List Token)
  | 0, _ => none
  | fuel + 1, chars =>
      match chars.dropWhile Text.isBlankChar with
      | [] => some []
      | c :: rest => do
          let (token, left) ← read fuel (c :: rest)
          return token :: (← scan fuel left)

def ofText? (value : String) : Option (List Token) :=
  scan (value.length + 2) value.toList

def opens : Token → Bool
  | mark '(' | mark '[' | mark '\x7b' => true
  | _ => false

def closes : Token → Bool
  | mark ')' | mark ']' | mark '\x7d' => true
  | _ => false

/-- Cuts at the commas outside all brackets. `part` holds the current part in reverse. -/
def cutCommas (depth : Nat) (part : List Token) : List Token → List (List Token)
  | [] => [part.reverse]
  | token :: rest =>
      if depth = 0 ∧ token = mark ',' then part.reverse :: cutCommas 0 [] rest
      else if token.opens then cutCommas (depth + 1) (token :: part) rest
      else if token.closes then cutCommas (depth - 1) (token :: part) rest
      else cutCommas depth (token :: part) rest

def parts (tokens : List Token) : List (List Token) := cutCommas 0 [] tokens

/-- What follows the bracket that closes the innermost open one of `depth + 1`. -/
def afterGroup (depth : Nat) : List Token → List Token
  | [] => []
  | token :: rest =>
      if token.opens then afterGroup (depth + 1) rest
      else if token.closes then
        match depth with
        | 0 => rest
        | outer + 1 => afterGroup outer rest
      else afterGroup depth rest

def keywords : List String :=
  ["_", "abstract", "as", "async", "await", "become", "box", "break", "const", "continue", "crate",
   "do", "dyn", "else", "enum", "extern", "false", "final", "fn", "for", "if", "impl", "in", "let",
   "loop", "macro", "match", "mod", "move", "mut", "override", "priv", "pub", "ref", "return",
   "Self", "self", "static", "struct", "super", "trait", "true", "try", "type", "typeof", "unsafe",
   "unsized", "use", "virtual", "where", "while", "yield"]

def isKeyword (word : String) : Bool := keywords.contains word

end Token

structure Attribute where
  path : String
  content : List Token
  deriving DecidableEq, Repr

namespace Attribute

def contents (attributes : List Attribute) : List (List Token) :=
  (attributes.filter fun given => given.path == "orm").map content

end Attribute

end MappedSql
