import MappedSql.Condition
import MappedSql.Proofs.Marks

/-!
Cutting a text at its connectives. The cut goes by characters: it knows how many brackets are open
and whether it is between quotes or in a bracketed name, and nothing about words. Where a text has
words at all, the cut and the words agree, so a text without a connective outside of brackets comes
out of a cut in one piece.
-/

namespace MappedSql

def Connective.word : Connective → List Char
  | and => "AND".toList
  | or => "OR".toList

theorem Connective.text_word (connective : Connective) :
    connective.text.toList = ' ' :: (connective.word ++ [' ']) := by
  cases connective <;> rfl

namespace Cutting

open Lexer

def connective? (characters : List Char) : Option Connective :=
  if (Connective.and.text.toList).isPrefixOf characters then some .and
  else if (Connective.or.text.toList).isPrefixOf characters then some .or
  else none

/-- The text up to the first connective outside, and each such connective with the text after it.
The first argument counts the characters of a connective that are still to be dropped. -/
def cut : Nat → Place → List Char → List Char × List (Connective × List Char)
  | _, _, [] => ([], [])
  | dropped + 1, place, _ :: rest => cut dropped place rest
  | 0, place, c :: rest =>
      match if place = outside then connective? (c :: rest) else none with
      | some connective =>
          let (first, more) := cut (connective.text.toList.length - 1) place rest
          ([], (connective, first) :: more)
      | none =>
          let (first, more) := cut 0 (place.next c) rest
          (c :: first, more)

def pieces (text : String) : Option (String × List (Connective × String)) :=
  if text.isEmpty then none
  else
    let (first, more) := cut 0 outside text.toList
    some (String.ofList first, more.map fun piece => (piece.1, String.ofList piece.2))

example : pieces "(a AND b) AND [c OR ]]d] OR ' AND '' OR '" =
    some ("(a AND b)", [(.and, "[c OR ]]d]"), (.or, "' AND '' OR '")]) := by decide

def connectiveWords : List (List Char) :=
  [Connective.and.word, Connective.or.word]

theorem connective_none_iff (characters : List Char) :
    connective? characters = none ↔ beginsMark (connectiveWords.map spaced) characters = false := by
  have marks : connectiveWords.map spaced = [Connective.and.text.toList, Connective.or.text.toList] :=
    rfl
  rw [marks]
  simp only [connective?, beginsMark, List.any_cons, List.any_nil, Bool.or_false]
  split_ifs with isAnd isOr <;> simp [*]

theorem cut_unmarked (place : Place) (characters rest : List Char)
    (unmarked : Unmarked (connectiveWords.map spaced) place characters rest) :
    cut 0 place (characters ++ rest) =
      (characters ++ (cut 0 (through place characters) rest).1,
        (cut 0 (through place characters) rest).2) := by
  induction characters generalizing place with
  | nil => rfl
  | cons c characters ih =>
      have later := ih (place.next c) unmarked.2
      have nothing : (if place = outside then connective? (c :: (characters ++ rest)) else none) =
          none := by
        split_ifs with isOutside
        · exact (connective_none_iff _).mpr (unmarked.1 isOutside)
        · rfl
      simp only [List.cons_append, cut, nothing, later]
      rfl

theorem cut_dropped (place : Place) (characters rest : List Char) :
    cut characters.length place (characters ++ rest) = cut 0 place rest := by
  induction characters with
  | nil => rfl
  | cons c characters ih => exact ih

theorem cut_connective (connective : Connective) (rest : List Char) :
    cut 0 outside (connective.text.toList ++ rest) =
      ([], (connective, (cut 0 outside rest).1) :: (cut 0 outside rest).2) := by
  have found : connective? (connective.text.toList ++ rest) = some connective := by
    cases connective <;> rfl
  have dropped := cut_dropped outside (connective.word ++ [' ']) rest
  rw [connective.text_word, List.cons_append] at found ⊢
  simp only [cut, ↓reduceIte, found]
  rw [connective.text_word, List.length_cons, Nat.add_sub_cancel, dropped]

def Whole (characters : List Char) : Prop :=
  (∀ rest, AtBoundary rest → Unmarked (connectiveWords.map spaced) outside characters rest) ∧
    through outside characters = outside

def connectives : List Lexeme :=
  [keyword "AND", keyword "OR"]

theorem whole_of_apart (characters : List Char) (lexemes : List Lexeme)
    (read : tokenize characters = some lexemes) (level : depthAfter 0 lexemes = some 0)
    (apart : Apart connectives 0 lexemes) : Whole characters := by
  refine ⟨fun rest boundary => ?_, through_read characters lexemes 0 0 read level⟩
  exact unmarked_of_words connectiveWords (by decide) rest boundary .nothing characters 0 0 lexemes
    trivial read level apart

def joined : List (Connective × List Char) → List Char
  | [] => []
  | (connective, piece) :: rest => connective.text.toList ++ (piece ++ joined rest)

theorem joined_boundary (parts : List (Connective × List Char)) : AtBoundary (joined parts) := by
  cases parts with
  | nil => trivial
  | cons part rest =>
      rw [joined, part.1.text_word]
      exact at_blank _

theorem cut_joined (first : List Char) (parts : List (Connective × List Char))
    (wholeFirst : Whole first) (wholeParts : ∀ part ∈ parts, Whole part.2) :
    cut 0 outside (first ++ joined parts) = (first, parts) := by
  induction parts generalizing first with
  | nil =>
      have alone := cut_unmarked outside first [] (wholeFirst.1 [] trivial)
      simpa [joined, cut] using alone
  | cons part rest ih =>
      have later := ih part.2 (wholeParts part List.mem_cons_self) fun other member =>
        wholeParts other (List.mem_cons_of_mem part member)
      have kept := wholeFirst.1 (joined (part :: rest)) (joined_boundary (part :: rest))
      rw [cut_unmarked outside first _ kept, wholeFirst.2, joined, cut_connective, later,
        List.append_nil]

end Cutting

end MappedSql
