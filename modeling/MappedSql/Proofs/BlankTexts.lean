import MappedSql.Proofs.FragmentTokens
import MappedSql.Proofs.Where
import Mathlib.Data.List.DropRight

/-!
Blank conditions. An expression can be written as nothing at all, when it is an object without
members; but it is never written as blanks only. So the conditions of a draft are blank only where
they are empty, which is what the drafts ask about.
-/

namespace MappedSql

open Lexer Outcome

namespace Text

theorem blank_append (first second : String) :
    isBlank (first ++ second) = (isBlank first && isBlank second) := by
  simp [isBlank]

theorem bracketed_present (inner : String) : isBlank ("(" ++ inner ++ ")") = false := by
  have opens : isBlank "(" = false := by decide
  rw [blank_append, blank_append, opens]
  rfl

-- Neither bracket is blank, so there is nothing to trim.
theorem trim_bracketed (inner : String) : trim ("(" ++ inner ++ ")") = "(" ++ inner ++ ")" := by
  have front (rest : List Char) : ('(' :: rest).dropWhile isBlankChar = '(' :: rest :=
    List.dropWhile_cons_of_neg (by decide)
  have back (rest : List Char) : (')' :: rest).dropWhile isBlankChar = ')' :: rest :=
    List.dropWhile_cons_of_neg (by decide)
  have whole : ("(" ++ inner ++ ")").toList = '(' :: (inner.toList ++ [')']) := by simp
  rw [trim, ← String.toList_inj, String.toList_ofList, whole, trimChars, front,
    ← List.cons_append, List.reverse_append]
  simp [back]

-- What trimming leaves begins with a character that is not blank, if it leaves anything.
theorem trim_empty (text : String) : (trim text).isEmpty = isBlank text := by
  have emptied : trimChars text.toList = [] ↔ isBlank text = true := by
    have both : trimChars text.toList =
        (text.toList.dropWhile isBlankChar).rdropWhile isBlankChar := rfl
    rw [both, List.rdropWhile_eq_nil_iff, isBlank, List.all_eq_true]
    constructor
    · intro rest
      rw [← List.dropWhile_eq_nil_iff]
      by_contra present
      have blank := rest _ (List.head_mem present)
      rw [List.head_dropWhile_not isBlankChar present] at blank
      cases blank
    · exact fun all c member => all c ((List.dropWhile_suffix _).subset member)
  rw [Bool.eq_iff_iff, ← emptied]
  simp [trim]

end Text

namespace Lexer

-- Whatever begins a token is printed by a code of ASCII; no blank character is.
theorem start_blank (c : Char) (blank : Text.isBlankChar c = true) :
    start c = some ([], .nothing) ∨ start c = none := by
  have code : ¬ (33 ≤ c.toNat ∧ c.toNat ≤ 126) := by
    simp [Text.isBlankChar, Text.inRuns, Text.blankRuns] at blank
    omega
  have sign (signs : List Char) (printed : ∀ d ∈ signs, 33 ≤ d.toNat ∧ d.toNat ≤ 126) :
      signs.contains c = false := by
    simpa using fun member => code (printed c member)
  have noLetter : c.isAlpha = false := by
    by_contra letter
    simp [letter_codes, UInt32.le_iff_toNat_le] at letter
    omega
  have noDigit : c.isDigit = false := by
    by_contra digit
    simp [Char.isDigit, UInt32.le_iff_toNat_le] at digit
    omega
  have noQuote : c ≠ '\'' := fun same => code (same ▸ by decide)
  have noBracket : c ≠ '[' := fun same => code (same ▸ by decide)
  unfold start
  simp only [noLetter, noDigit, noQuote, noBracket, sign loneSigns (by simp [loneSigns]),
    sign leadingSigns (by simp [leadingSigns]), Bool.false_eq_true, ↓reduceIte]
  split_ifs <;> simp

theorem blank_tokens (text : String) (blank : Text.isBlank text = true) (lexemes : List Lexeme)
    (read : tokenize text.toList = some lexemes) : lexemes = [] := by
  have all : ∀ c ∈ text.toList, Text.isBlankChar c = true := List.all_eq_true.mp blank
  unfold tokenize at read
  generalize text.toList = characters at all read
  induction characters generalizing lexemes with
  | nil => simpa [tokens_from_nil, finish] using read.symm
  | cons c rest ih =>
      rw [tokens_from_cons] at read
      rcases start_blank c (all c List.mem_cons_self) with skipped | strange
      · simp only [step, skipped, Option.bind_some, List.nil_append, Option.map_id_fun'] at read
        exact ih lexemes (fun d member => all d (List.mem_cons_of_mem c member)) read
      · simp [step, strange] at read

end Lexer

namespace Fragment

theorem leaf_tokens_present (leaf : Leaf) : leaf.tokens ≠ [] := by
  cases leaf with
  | number negative digits => cases negative <;> simp [Leaf.tokens]
  | _ => simp [Leaf.tokens]

-- Only objects can be written without a token: those of no members, or of one such member.
theorem render_empty (fragment : Fragment) (silent : fragment.tokens = []) :
    fragment.render = "" := by
  revert silent
  refine Fragment.render.induct (fun fragment => fragment.tokens = [] → fragment.render = "")
    (fun items => separated [.sign [',']] (memberTokens items) = [] →
      listed (renderMembers items) = "")
    ?column ?literal ?operation ?isNull ?isNotNull ?negation ?complement ?choice ?members
    ?membership ?never ?noMember ?firstMember fragment
  case literal => exact fun value silent => absurd silent (leaf_tokens_present value.leaf)
  case members => exact fun items ih silent => ih silent
  case noMember => exact fun _ => rfl
  case firstMember =>
    intro name fragment rest first _ silent
    cases rest with
    | cons next more =>
        obtain ⟨otherName, other⟩ := next
        simp [memberTokens, separated] at silent
    | nil =>
        obtain ⟨nothing, unnamed⟩ := List.append_eq_nil_iff.mp silent
        cases name with
        | some name => cases unnamed
        | none => simp [renderMembers, listed, namedAs, first nothing]
  all_goals intros; simp_all [tokens]

end Fragment

theorem Expr.compiled_blank (scope : Scope) (reached : scope.aliases.Reached) (expr : Expr)
    (text : String) (compiled : expr.compile scope = .ok text) (blank : Text.isBlank text = true) :
    text = "" := by
  obtain ⟨fragment, _, _, rendered, read⟩ := expr.compile_tokens scope reached text compiled
  rw [← rendered]
  exact fragment.render_empty (blank_tokens text blank _ read)

namespace Filter

theorem append_blank (text : String) (part : Connective × String)
    (before : Text.isBlank text = true → text = "")
    (next : Text.isBlank part.2 = true → part.2 = "") :
    Text.isBlank (append text part) = true → append text part = "" := by
  unfold append
  split_ifs with empty
  · exact next
  · intro blank
    rw [Text.blank_append, Text.blank_append, Bool.and_eq_true, Bool.and_eq_true] at blank
    exact absurd (before blank.1.1) (by simpa using empty)

theorem text_blank (filter : Filter)
    (each : ∀ part ∈ filter.parts, Text.isBlank part.2 = true → part.2 = "")
    (blank : Text.isBlank filter.text = true) : filter.text = "" := by
  have grown (text : String) (parts : List (Connective × String))
      (before : Text.isBlank text = true → text = "")
      (others : ∀ part ∈ parts, Text.isBlank part.2 = true → part.2 = "") :
      Text.isBlank (parts.foldl append text) = true → parts.foldl append text = "" := by
    induction parts generalizing text with
    | nil => exact before
    | cons part rest ih =>
        exact ih _ (append_blank text part before (others part List.mem_cons_self)) fun other member =>
          others other (List.mem_cons_of_mem part member)
  exact grown "" filter.parts (fun _ => rfl) each blank

end Filter

theorem Draft.part_blank (draft : Draft) (reached : draft.aliases.Reached) (step : Step)
    (part : Connective × String) (given : draft.part? step = some part)
    (blank : Text.isBlank part.2 = true) : part.2 = "" := by
  cases step with
  | filter condition connective =>
      simp only [part?] at given
      cases compiled : (draft.compile condition false).2 with
      | error fault => simp [compiled] at given
      | ok text =>
          simp only [compiled, Option.some.injEq] at given
          subst given
          exact condition.body.compiled_blank _
            (enter_all_reached draft.aliases condition.parameters reached) text
            (draft.compile_ok condition false text compiled) blank
  | state condition connective =>
      cases given
      rw [Text.bracketed_present] at blank
      cases blank
  | _ => cases given

namespace FilteredDraft

variable {δ σ : Type} [FilteredDraft δ σ]

theorem parts_blank (state : δ) (steps : List σ) (reached : (draft state).aliases.Reached) :
    ∀ part ∈ partsFrom state steps, Text.isBlank part.2 = true → part.2 = "" :=
  parts_all state steps (fun part => Text.isBlank part.2 = true → part.2 = "") reached
    fun before known _ _ shared _ part given => before.part_blank known shared part given

end FilteredDraft

end MappedSql
