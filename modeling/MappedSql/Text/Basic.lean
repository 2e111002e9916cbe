/-!
Comparison that does not tell ASCII capitals from small letters. All other characters count as they
are.
-/

namespace MappedSql.Text

def foldChar (c : Char) : Char :=
  if 'A' ≤ c ∧ c ≤ 'Z' then Char.ofNat (c.toNat + 32) else c

def sameIgnoringCase (a b : String) : Bool :=
  a.toList.map foldChar == b.toList.map foldChar

/-!
Blank text. A character is blank when Unicode gives it the property White_Space; a text is
blank when all its characters are. Names, conditions and operands are judged blank by this rule.
-/

def blankRuns : List (Nat × Nat) :=
  [(0x0009, 0x000D), (0x0020, 0x0020), (0x0085, 0x0085), (0x00A0, 0x00A0), (0x1680, 0x1680),
   (0x2000, 0x200A), (0x2028, 0x2029), (0x202F, 0x202F), (0x205F, 0x205F), (0x3000, 0x3000)]

def inRuns (runs : List (Nat × Nat)) (code : Nat) : Bool :=
  runs.any fun run => run.1 ≤ code && code ≤ run.2

def isBlankChar (c : Char) : Bool :=
  inRuns blankRuns c.toNat

def trimChars (chars : List Char) : List Char :=
  ((chars.dropWhile isBlankChar).reverse.dropWhile isBlankChar).reverse

def trim (text : String) : String :=
  String.ofList (trimChars text.toList)

def isBlank (text : String) : Bool :=
  text.toList.all isBlankChar

/-!
Type expressions as texts: brackets of four kinds nest, and the head of an arrow is no bracket.
-/

/-- Whether the character opens or closes a bracket, where `dash` tells that a dash precedes it. -/
def opensBracket (c : Char) : Bool :=
  c == '(' || c == '[' || c == '\x7b' || c == '<'

def closesBracket (dash : Bool) (c : Char) : Bool :=
  c == ')' || c == ']' || c == '\x7d' || (c == '>' && !dash)

/-- Cuts at every `separator` outside all brackets. `part` holds the current part in reverse. -/
def cutOutside (separator : Char) (depth : Nat) (dash : Bool) (part : List Char) :
    List Char → List (List Char)
  | [] => [part.reverse]
  | c :: rest =>
      if depth = 0 ∧ c = separator then
        part.reverse :: cutOutside separator 0 false [] rest
      else
        let inner :=
          if opensBracket c then depth + 1 else if closesBracket dash c then depth - 1 else depth
        cutOutside separator inner (c == '-') (c :: part) rest

def parts (separator : Char) (chars : List Char) : List (List Char) :=
  cutOutside separator 0 false [] chars

/-- The characters up to the bracket that closes the innermost of `depth + 1` open ones, and what
follows it. -/
def readGroup (depth : Nat) (dash : Bool) : List Char → Option (List Char × List Char)
  | [] => none
  | c :: rest =>
      if closesBracket dash c then
        match depth with
        | 0 => some ([], rest)
        | outer + 1 =>
            (readGroup outer false rest).map fun (inside, left) => (c :: inside, left)
      else
        let inner := if opensBracket c then depth + 1 else depth
        (readGroup inner (c == '-') rest).map fun (inside, left) => (c :: inside, left)

end MappedSql.Text

/-!
Closed vocabularies: types with finitely many members, each of which has a name of its own.
-/

namespace MappedSql

class Vocabulary (α : Type) where
  all : List α
  name : α → String

namespace Vocabulary

def find? {α : Type} [Vocabulary α] (text : String) : Option α :=
  (all : List α).find? fun member => name member == text

end Vocabulary

end MappedSql
