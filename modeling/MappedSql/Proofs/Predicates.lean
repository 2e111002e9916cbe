import MappedSql.Proofs.StatedConditions

/-!
Conditions as pieces of a text. Outside of brackets, lowered expressions have few words and signs,
and a connective is none of them, nor is one outside of a stated condition in its brackets. So a cut
leaves them whole, and a test is never an empty text.
-/

namespace MappedSql

open Lexer Cutting Outcome

def outerTokens : List Lexeme :=
  [keyword "NULL", keyword "NOT", keyword "CASE", keyword "WHEN", keyword "THEN", keyword "ELSE",
    keyword "END", keyword "IN", keyword "AS", .sign ['.'], .sign ['-'], .sign [',']]

def readsAsAlias : Lexeme → Bool
  | .word (first :: _) => first == 't'
  | _ => false

def Foreign (tokens : List Lexeme) : Prop :=
  ∀ token ∈ tokens, holdsValue token = false ∧ readsAsAlias token = false ∧ token ∉ outerTokens

instance (tokens : List Lexeme) : Decidable (Foreign tokens) :=
  inferInstanceAs (Decidable (∀ token ∈ tokens, _))

theorem connectives_foreign : Foreign connectives := by decide

section Foreign

variable (tokens : List Lexeme) (foreign : Foreign tokens)

include foreign

theorem apart_outer (depth : Nat) (lexeme : Lexeme) (rest : List Lexeme)
    (plain : lexeme ≠ opening ∧ lexeme ≠ closing) (own : lexeme ∈ outerTokens)
    (after : Apart tokens depth rest) : Apart tokens depth (lexeme :: rest) :=
  apart_cons tokens depth lexeme rest plain (fun member => (foreign lexeme member).2.2 own) after

theorem apart_value (depth : Nat) (lexeme : Lexeme) (rest : List Lexeme)
    (value : holdsValue lexeme = true) (after : Apart tokens depth rest) :
    Apart tokens depth (lexeme :: rest) := by
  refine apart_cons tokens depth lexeme rest (value_no_bracket lexeme value) (fun member => ?_) after
  rw [(foreign lexeme member).1] at value
  cases value

theorem apart_alias (depth count : Nat) (rest : List Lexeme) (after : Apart tokens depth rest) :
    Apart tokens depth (.word (Aliases.numbered count).toList :: rest) := by
  refine apart_cons tokens depth _ rest ⟨by simp [opening], by simp [closing]⟩ (fun member => ?_) after
  have stranger := (foreign _ member).2.1
  simp [readsAsAlias, Aliases.numbered] at stranger

theorem apart_separated (depth : Nat) (parts : List (List Lexeme))
    (contained : ∀ part ∈ parts, Contained part) (each : ∀ part ∈ parts, Apart tokens depth part) :
    Apart tokens depth (separated [.sign [',']] parts) := by
  induction parts with
  | nil => trivial
  | cons part rest ih =>
      have first := each part List.mem_cons_self
      have level := (contained part List.mem_cons_self).level depth
      have others := ih (fun other member => contained other (List.mem_cons_of_mem part member))
        fun other member => each other (List.mem_cons_of_mem part member)
      cases rest with
      | nil => exact first
      | cons next more =>
          exact (apart_append tokens depth depth part _ level).mpr
            ⟨first, apart_outer tokens foreign depth _ _ (by decide) (by decide) others⟩

theorem Leaf.tokens_apart (leaf : Leaf) (depth : Nat) : Apart tokens depth leaf.tokens := by
  have number (digits : List Char) : Apart tokens depth [Lexeme.number digits] :=
    apart_value tokens foreign depth _ _ rfl trivial
  cases leaf with
  | null => exact apart_outer tokens foreign depth _ _ (by decide) (by decide) trivial
  | number negative digits =>
      cases negative with
      | false => exact number digits
      | true => exact apart_outer tokens foreign depth _ _ (by decide) (by decide) (number digits)
  | text content => exact apart_value tokens foreign depth _ _ rfl trivial

theorem Fragment.name_tokens_apart (name : Option String) (depth : Nat) :
    Apart tokens depth (nameTokens name) := by
  cases name with
  | none => trivial
  | some name =>
      exact apart_outer tokens foreign depth _ _ (by decide) (by decide)
        (apart_value tokens foreign depth _ _ rfl trivial)

end Foreign

namespace Fragment

theorem members_contained (items : List (Option String × Fragment)) :
    ∀ part ∈ memberTokens items, Contained part := by
  induction items with
  | nil => exact fun part member => absurd member List.not_mem_nil
  | cons item rest ih =>
      intro part member
      rcases List.mem_cons.mp member with rfl | inRest
      · exact contained_append _ _ item.2.tokens_contained (name_tokens_contained item.1)
      · exact ih part inRest

theorem tokens_apart (tokens : List Lexeme) (foreign : Foreign tokens) (fragment : Fragment)
    (sound : fragment.Sound) (depth : Nat) : Apart tokens depth fragment.tokens := by
  revert sound
  refine Fragment.render.induct
    (fun fragment => fragment.Sound → Apart tokens depth fragment.tokens)
    (fun items => SoundMembers items → ∀ part ∈ memberTokens items, Apart tokens depth part)
    ?column ?literal ?operation ?isNull ?isNotNull ?negation ?complement ?choice ?members
    ?membership ?never ?noMember ?firstMember fragment
  case column =>
    rintro aliasName name ⟨count, rfl⟩
    refine apart_alias tokens foreign depth count _ ?_
    refine apart_outer tokens foreign depth _ _ (by decide) (by decide) ?_
    exact apart_value tokens foreign depth _ _ rfl trivial
  case literal =>
    intro value _
    exact value.leaf.tokens_apart tokens foreign depth
  case operation =>
    -- The brackets around an operation hide whatever its operands hold.
    intro op left right _ _ _
    have body := contained_operands op _ _ left.tokens_contained right.tokens_contained
    simpa [Fragment.tokens] using apart_brackets tokens depth _ [] body trivial
  case isNull =>
    intro operand _ _
    have body := contained_append _ _ operand.tokens_contained null_test_contained
    simpa [Fragment.tokens] using apart_brackets tokens depth _ [] body trivial
  case isNotNull =>
    intro operand _ _
    have body := contained_append _ _ operand.tokens_contained present_test_contained
    simpa [Fragment.tokens] using apart_brackets tokens depth _ [] body trivial
  case negation =>
    intro operand _ _
    have inner := contained_brackets _ [] operand.tokens_contained contained_nil
    have signed := contained_cons (.sign ['-']) _ (by decide) (by decide) inner
    simpa [Fragment.tokens] using apart_brackets tokens depth _ [] signed trivial
  case complement =>
    intro operand ih sound
    exact apart_outer tokens foreign depth _ _ (by decide) (by decide) (ih sound)
  case choice =>
    intro test whenTrue whenFalse _ second third sound
    have last : Apart tokens depth [keyword "END"] :=
      apart_outer tokens foreign depth _ _ (by decide) (by decide) trivial
    have otherwise := (apart_append tokens depth depth whenFalse.tokens _
      (whenFalse.tokens_contained.level depth)).mpr ⟨third sound.2.2, last⟩
    have branches := (apart_append tokens depth depth whenTrue.tokens _
      (whenTrue.tokens_contained.level depth)).mpr ⟨second sound.2.1,
        apart_outer tokens foreign depth (keyword "ELSE") _ (by decide) (by decide) otherwise⟩
    have tested := apart_brackets tokens depth test.tokens _ test.tokens_contained
      (apart_outer tokens foreign depth (keyword "THEN") _ (by decide) (by decide) branches)
    exact apart_outer tokens foreign depth _ _ (by decide) (by decide)
      (apart_outer tokens foreign depth _ _ (by decide) (by decide) tested)
  case members =>
    intro items ih sound
    exact apart_separated tokens foreign depth _ (members_contained items) (ih sound)
  case membership =>
    intro element items ih sound
    have listed := contained_separated _ (literals_contained items)
    have test : Apart tokens depth (keyword "IN" :: opening ::
        (separated [.sign [',']] (items.map fun item => item.leaf.tokens) ++ [closing])) :=
      apart_outer tokens foreign depth _ _ (by decide) (by decide)
        (apart_brackets tokens depth _ [] listed trivial)
    exact (apart_append tokens depth depth element.tokens _
      (element.tokens_contained.level depth)).mpr ⟨ih sound.1, test⟩
  case never =>
    intro _
    simp [Fragment.tokens, Apart, opening, closing]
  case noMember =>
    intro _ part member
    exact absurd member List.not_mem_nil
  case firstMember =>
    intro name fragment rest first others sound part member
    rcases List.mem_cons.mp member with rfl | inRest
    · exact (apart_append tokens depth depth fragment.tokens _
        (fragment.tokens_contained.level depth)).mpr
          ⟨first sound.1, name_tokens_apart tokens foreign name depth⟩
    · exact others sound.2 part inRest

theorem combine_present (op : SqlOperator) (left right : Fragment) :
    (combine op left right).tokens ≠ [] := by
  unfold combine
  split
  · split_ifs <;> exact List.cons_ne_nil _ _
  · split_ifs <;> exact List.cons_ne_nil _ _
  · exact List.cons_ne_nil _ _

end Fragment

structure Piece (text : String) : Prop where
  closed : Closed text
  whole : Whole text.toList
  present : text ≠ ""

theorem piece_of_bracketed (text : String) (bracketed : Bracketed text) : Piece text := by
  have closed := closed_of_bracketed text bracketed
  obtain ⟨lexemes, read, contained⟩ := bracketed
  refine ⟨closed, ?_, ?_⟩
  · have level := (contained_brackets lexemes [] contained contained_nil).level 0
    exact whole_of_apart _ _ read level (apart_brackets connectives 0 lexemes [] contained trivial)
  · rintro rfl
    cases read

namespace Expr

/-- Comparisons and connections of anything, complements, memberships, and tests behind a change of
type. -/
def isTest : Expr → Bool
  | binary op _ _ => op.isComparison || op.isConnective
  | unary .not _ => true
  | unary .convert operand => operand.isTest
  | call method _ _ => method == "Contains"
  | _ => false

theorem test_present (scope : Scope) (expr : Expr) (beside : Option Column) (fragment : Fragment)
    (lowers : Lowers scope expr beside fragment) (test : expr.isTest = true) :
    fragment.tokens ≠ [] := by
  induction lowers with
  | binary _ _ _ _ _ => exact Fragment.combine_present _ _ _
  | not _ _ => exact List.cons_ne_nil _ _
  | convert _ ih => exact ih (by simpa [isTest] using test)
  | @contains _ _ _ _ _ part literals _ _ _ _ =>
      cases literals with
      | nil => exact List.cons_ne_nil _ _
      | cons literal rest => simp [membershipTest, Fragment.tokens]
  | _ => simp [isTest] at test

theorem test_piece (aliases : Aliases) (reached : aliases.Reached) (namesMembers : Bool)
    (expr : Expr) (text : String) (test : expr.isTest = true)
    (compiled : expr.compile ⟨aliases, namesMembers⟩ = .ok text) : Piece text := by
  obtain ⟨fragment, lowers, sound, _, read⟩ := compile_tokens _ reached expr text compiled
  refine ⟨⟨fragment.tokens, read, fragment.tokens_contained⟩, ?_, ?_⟩
  · exact whole_of_apart _ _ read (fragment.tokens_contained.level 0)
      (fragment.tokens_apart connectives connectives_foreign sound 0)
  · rintro rfl
    exact test_present _ expr none fragment lowers test (Option.some.inj read).symm

end Expr

end MappedSql
