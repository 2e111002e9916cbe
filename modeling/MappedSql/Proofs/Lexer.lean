import MappedSql.Literal
import Mathlib.Data.List.Forall2

/-!
The words of a statement text. A scanner takes one character at a time and keeps what it has begun;
a token ends where the next character cannot prolong it, and a doubled quote or closing bracket
prolongs a text or a name. A text that ends inside quotes or brackets has no tokens, nor has one
with a character that means nothing between tokens.
-/

namespace MappedSql.Lexer

inductive Lexeme where
  | word (letters : List Char)
  | number (digits : List Char)
  /-- What stands between quotes, with doubled quotes undone. -/
  | text (content : List Char)
  | name (content : List Char)
  | sign (characters : List Char)
  deriving DecidableEq, Repr

inductive Pending where
  | nothing
  | word (letters : List Char)
  | number (digits : List Char)
  | text (content : List Char)
  /-- After a quote that ends the text or is the first of two. -/
  | textEnd (content : List Char)
  | name (content : List Char)
  /-- After a closing bracket that ends the name or is the first of two. -/
  | nameEnd (content : List Char)
  /-- After a sign that a second character can prolong. -/
  | sign (first : Char)
  deriving DecidableEq, Repr

def isWordChar (c : Char) : Bool :=
  c.isAlphanum || c == '_'

/-- A number goes on over letters, as in `0x1F`, and over points. -/
def isNumberChar (c : Char) : Bool :=
  c.isAlphanum || c == '.'

def loneSigns : List Char :=
  ['(', ')', ',', '.', '=', '+', '*', '%', ';']

def leadingSigns : List Char :=
  ['<', '>', '-', '/']

def pairedSigns : List (Char × Char) :=
  [('<', '='), ('<', '>'), ('>', '='), ('-', '-'), ('/', '*')]

def finish : Pending → Option (List Lexeme)
  | .nothing => some []
  | .word letters => some [.word letters]
  | .number digits => some [.number digits]
  | .text _ | .name _ => none
  | .textEnd content => some [.text content]
  | .nameEnd content => some [.name content]
  | .sign first => some [.sign [first]]

def start (c : Char) : Option (List Lexeme × Pending) :=
  if c.isWhitespace then some ([], .nothing)
  else if c.isAlpha then some ([], .word [c])
  else if c.isDigit then some ([], .number [c])
  else if c = '\'' then some ([], .text [])
  else if c = '[' then some ([], .name [])
  else if loneSigns.contains c then some ([.sign [c]], .nothing)
  else if leadingSigns.contains c then some ([], .sign c)
  else none

def restart (pending : Pending) (c : Char) : Option (List Lexeme × Pending) := do
  let ended ← finish pending
  let begun ← start c
  return (ended ++ begun.1, begun.2)

def step (pending : Pending) (c : Char) : Option (List Lexeme × Pending) :=
  match pending with
  | .nothing => start c
  | .word letters =>
      if isWordChar c then some ([], .word (letters ++ [c])) else restart pending c
  | .number digits =>
      if isNumberChar c then some ([], .number (digits ++ [c])) else restart pending c
  | .text content =>
      if c = '\'' then some ([], .textEnd content) else some ([], .text (content ++ [c]))
  | .textEnd content =>
      if c = '\'' then some ([], .text (content ++ [c])) else restart pending c
  | .name content =>
      if c = ']' then some ([], .nameEnd content) else some ([], .name (content ++ [c]))
  | .nameEnd content =>
      if c = ']' then some ([], .name (content ++ [c])) else restart pending c
  | .sign first =>
      if pairedSigns.contains (first, c) then some ([.sign [first, c]], .nothing)
      else restart pending c

def run : Pending → List Char → Option (List Lexeme × Pending)
  | pending, [] => some ([], pending)
  | pending, c :: rest =>
      (step pending c).bind fun taken =>
        (run taken.2 rest).map fun later => (taken.1 ++ later.1, later.2)

def tokensFrom (pending : Pending) (characters : List Char) : Option (List Lexeme) :=
  (run pending characters).bind fun read => (finish read.2).map (read.1 ++ ·)

def tokenize (characters : List Char) : Option (List Lexeme) :=
  tokensFrom .nothing characters

example : tokenize "a.[b]]c]<='it''s'".toList =
    some [.word ['a'], .sign ['.'], .name ['b', ']', 'c'], .sign ['<', '='],
      .text ['i', 't', '\'', 's']] := by decide

theorem tokens_from_nil (pending : Pending) : tokensFrom pending [] = finish pending := by
  cases ended : finish pending <;> simp [tokensFrom, run, ended]

theorem tokens_from_cons (pending : Pending) (c : Char) (rest : List Char) :
    tokensFrom pending (c :: rest) =
      (step pending c).bind fun taken => (tokensFrom taken.2 rest).map (taken.1 ++ ·) := by
  simp only [tokensFrom, run]
  cases step pending c with
  | none => rfl
  | some taken =>
      cases later : run taken.2 rest with
      | none => simp [later]
      | some read => cases ended : finish read.2 <;> simp [later, ended]

theorem tokens_from_append (pending : Pending) (first second : List Char) :
    tokensFrom pending (first ++ second) =
      (run pending first).bind fun read => (tokensFrom read.2 second).map (read.1 ++ ·) := by
  induction first generalizing pending with
  | nil => simp [run]
  | cons c rest ih =>
      simp only [List.cons_append, tokens_from_cons, run, ih]
      cases step pending c with
      | none => rfl
      | some taken =>
          cases middle : run taken.2 rest with
          | none => simp [middle]
          | some read => simp [middle, Function.comp_def]

/-- Whether a text is empty or begins with a character that prolongs no token. -/
def AtBoundary : List Char → Prop
  | [] => True
  | c :: _ => c = ' ' ∨ c = ')' ∨ c = ','

theorem at_blank (rest : List Char) : AtBoundary (' ' :: rest) := Or.inl rfl

theorem at_closing (rest : List Char) : AtBoundary (')' :: rest) := Or.inr (Or.inl rfl)

theorem at_comma (rest : List Char) : AtBoundary (',' :: rest) := Or.inr (Or.inr rfl)

theorem boundary_prolongs_nothing (c first : Char) (rest : List Char)
    (boundary : AtBoundary (c :: rest)) :
    isWordChar c = false ∧ isNumberChar c = false ∧ c ≠ '\'' ∧ c ≠ ']' ∧
      pairedSigns.contains (first, c) = false := by
  rcases boundary with rfl | rfl | rfl <;>
    exact ⟨rfl, rfl, by decide, by decide, by simp [pairedSigns]⟩

theorem step_boundary (pending : Pending) (last : List Lexeme) (c : Char) (rest : List Char)
    (ended : finish pending = some last) (boundary : AtBoundary (c :: rest)) :
    step pending c = (start c).map fun begun => (last ++ begun.1, begun.2) := by
  have restarted : restart pending c = (start c).map fun begun => (last ++ begun.1, begun.2) := by
    simp only [restart, ended]
    cases start c <;> rfl
  have stops (first : Char) := boundary_prolongs_nothing c first rest boundary
  cases pending with
  | nothing =>
      cases ended
      cases begun : start c <;> simp [step, begun]
  | word letters => simpa [step, (stops ' ').1] using restarted
  | number digits => simpa [step, (stops ' ').2.1] using restarted
  | text content => cases ended
  | textEnd content => simpa [step, (stops ' ').2.2.1] using restarted
  | name content => cases ended
  | nameEnd content => simpa [step, (stops ' ').2.2.2.1] using restarted
  | sign first => simpa only [step, (stops first).2.2.2.2, Bool.false_eq_true, ↓reduceIte] using restarted

theorem tokens_from_boundary (pending : Pending) (last : List Lexeme) (characters : List Char)
    (ended : finish pending = some last) (boundary : AtBoundary characters) :
    tokensFrom pending characters = (tokenize characters).map (last ++ ·) := by
  cases characters with
  | nil =>
      have fresh : finish .nothing = some [] := rfl
      simp [tokenize, tokens_from_nil, ended, fresh]
  | cons c rest =>
      rw [tokenize, tokens_from_cons, tokens_from_cons,
        step_boundary pending last c rest ended boundary]
      cases started : start c <;> simp [step, started, Function.comp_def]

-- What is pending after the first part is complete, because the second part cannot prolong it.
theorem tokenize_append (first second : List Char) (tokens more : List Lexeme)
    (read : tokenize first = some tokens) (boundary : AtBoundary second)
    (later : tokenize second = some more) : tokenize (first ++ second) = some (tokens ++ more) := by
  obtain ⟨taken, ran, last, ended, same⟩ : ∃ taken, run .nothing first = some taken ∧
      ∃ last, finish taken.2 = some last ∧ taken.1 ++ last = tokens := by
    simpa [tokenize, tokensFrom, Option.bind_eq_some_iff] using read
  subst same
  rw [tokenize, tokens_from_append, ran, Option.bind_some,
    tokens_from_boundary taken.2 last second ended boundary, later]
  simp

-- A part after which nothing is pending can be followed by anything.
theorem tokenize_closed (first second : List Char) (tokens more : List Lexeme)
    (read : run .nothing first = some (tokens, .nothing))
    (later : tokenize second = some more) : tokenize (first ++ second) = some (tokens ++ more) := by
  rw [tokenize, tokens_from_append, read, Option.bind_some, ← tokenize, later]
  rfl

-- Behind an operand stands a text that begins at a boundary and ends where nothing is pending.
theorem tokenize_operand (operand after rest : List Char) (tokens read more : List Lexeme)
    (first : tokenize operand = some tokens) (boundary : AtBoundary (after ++ rest))
    (closed : run .nothing after = some (read, .nothing)) (later : tokenize rest = some more) :
    tokenize (operand ++ (after ++ rest)) = some (tokens ++ (read ++ more)) :=
  tokenize_append _ _ _ _ first boundary (tokenize_closed _ _ _ _ closed later)

def IsWord : List Char → Prop
  | [] => False
  | c :: rest => c.isAlpha = true ∧ ∀ d ∈ rest, isWordChar d = true

instance : (letters : List Char) → Decidable (IsWord letters)
  | [] => inferInstanceAs (Decidable False)
  -- The letters of the list are gone through, not all characters that there are.
  | c :: rest =>
      let _ : Decidable (∀ d ∈ rest, isWordChar d = true) := List.decidableBAll _ rest
      inferInstanceAs (Decidable (c.isAlpha = true ∧ ∀ d ∈ rest, isWordChar d = true))

def IsNumber : List Char → Prop
  | [] => False
  | c :: rest => c.isDigit = true ∧ ∀ d ∈ rest, isNumberChar d = true

theorem not_whitespace_of_alphanum (c : Char) (alphanum : c.isAlphanum = true) :
    c.isWhitespace = false := by
  cases white : c.isWhitespace with
  | false => rfl
  | true =>
      simp only [Char.isWhitespace, Bool.or_eq_true, decide_eq_true_eq] at white
      rcases white with ((rfl | rfl) | rfl) | rfl <;> exact absurd alphanum (by decide)

theorem letter_codes (c : Char) :
    c.isAlpha = (decide (c.val ≥ 'A'.val ∧ c.val ≤ 'Z'.val) ||
      (decide (c.val ≥ 'a'.val) && decide (c.val ≤ 'z'.val))) := rfl

theorem not_alpha_of_digit (c : Char) (digit : c.isDigit = true) : c.isAlpha = false := by
  simp only [Char.isDigit, Bool.and_eq_true, decide_eq_true_eq] at digit
  rw [letter_codes, Bool.or_eq_false_iff, Bool.and_eq_false_iff]
  simp only [decide_eq_false_iff_not]
  grind

theorem run_word (letters rest : List Char) (prolongs : ∀ c ∈ rest, isWordChar c = true) :
    run (.word letters) rest = some ([], .word (letters ++ rest)) := by
  induction rest generalizing letters with
  | nil => simp [run]
  | cons c rest ih =>
      have first := prolongs c List.mem_cons_self
      have others := ih (letters ++ [c]) fun d member => prolongs d (List.mem_cons_of_mem c member)
      simp [run, step, first, others]

theorem run_number (digits rest : List Char) (prolongs : ∀ c ∈ rest, isNumberChar c = true) :
    run (.number digits) rest = some ([], .number (digits ++ rest)) := by
  induction rest generalizing digits with
  | nil => simp [run]
  | cons c rest ih =>
      have first := prolongs c List.mem_cons_self
      have others := ih (digits ++ [c]) fun d member => prolongs d (List.mem_cons_of_mem c member)
      simp [run, step, first, others]

theorem run_text (content more : List Char) :
    run (.text content) (Literal.escape more) = some ([], .text (content ++ more)) := by
  induction more generalizing content with
  | nil => simp [Literal.escape, run]
  | cons c rest ih =>
      by_cases quote : c = '\''
      · subst quote
        simp [Literal.escape, run, step, ih]
      · simp [Literal.escape, run, step, quote, ih]

theorem run_name (content more : List Char) :
    run (.name content) (Identifier.escape more) = some ([], .name (content ++ more)) := by
  induction more generalizing content with
  | nil => simp [Identifier.escape, run]
  | cons c rest ih =>
      by_cases bracket : c = ']'
      · subst bracket
        simp [Identifier.escape, run, step, ih]
      · simp [Identifier.escape, run, step, bracket, ih]

theorem run_append (pending : Pending) (first second : List Char) :
    run pending (first ++ second) = (run pending first).bind fun read =>
      (run read.2 second).map fun later => (read.1 ++ later.1, later.2) := by
  induction first generalizing pending with
  | nil => simp [run]
  | cons c rest ih =>
      simp only [List.cons_append, run, ih]
      cases step pending c with
      | none => rfl
      | some taken =>
          cases middle : run taken.2 rest with
          | none => simp [middle]
          | some read => simp [middle, Function.comp_def]

theorem run_whole_word (letters : List Char) (word : IsWord letters) :
    run .nothing letters = some ([], .word letters) := by
  cases letters with
  | nil => exact word.elim
  | cons c rest =>
      have blank := not_whitespace_of_alphanum c (by simp [Char.isAlphanum, word.1])
      simp [run, step, start, blank, word.1, run_word [c] rest word.2]

theorem run_whole_number (digits : List Char) (number : IsNumber digits) :
    run .nothing digits = some ([], .number digits) := by
  cases digits with
  | nil => exact number.elim
  | cons c rest =>
      have blank := not_whitespace_of_alphanum c (by simp [Char.isAlphanum, number.1])
      have letter := not_alpha_of_digit c number.1
      simp [run, step, start, blank, letter, number.1, run_number [c] rest number.2]

theorem tokenize_word (letters : List Char) (word : IsWord letters) :
    tokenize letters = some [.word letters] := by
  simp [tokenize, tokensFrom, run_whole_word letters word, finish]

theorem tokenize_number (digits : List Char) (number : IsNumber digits) :
    tokenize digits = some [.number digits] := by
  simp [tokenize, tokensFrom, run_whole_number digits number, finish]

theorem tokenize_negative (digits : List Char) (number : IsNumber digits) :
    tokenize ('-' :: digits) = some [.sign ['-'], .number digits] := by
  cases digits with
  | nil => exact number.elim
  | cons c rest =>
      have blank := not_whitespace_of_alphanum c (by simp [Char.isAlphanum, number.1])
      have letter := not_alpha_of_digit c number.1
      have dash : c ≠ '-' := by
        rintro rfl
        exact absurd number.1 (by decide)
      simp [tokenize, tokensFrom, run, step, start, restart, finish, pairedSigns, leadingSigns,
        loneSigns, blank, letter, dash, number.1, run_number [c] rest number.2]

theorem tokenize_quoted (content : List Char) :
    tokenize ('\'' :: (Literal.escape content ++ ['\''])) = some [.text content] := by
  have inside := run_text [] content
  simp [tokenize, tokensFrom, run, run_append, step, start, finish, inside]

theorem tokenize_bracketed (content : List Char) :
    tokenize ('[' :: (Identifier.escape content ++ [']'])) = some [.name content] := by
  have inside := run_name [] content
  simp [tokenize, tokensFrom, run, run_append, step, start, finish, inside]

def separated {α : Type} (separator : List α) : List (List α) → List α
  | [] => []
  | [part] => part
  | part :: next :: rest => part ++ (separator ++ separated separator (next :: rest))

theorem intercalate_separated {α : Type} (separator : List α) (parts : List (List α)) :
    separator.intercalate parts = separated separator parts := by
  induction parts with
  | nil => rfl
  | cons part rest ih =>
      cases rest with
      | nil => simp [List.intercalate, separated]
      | cons next others =>
          rw [separated, ← ih]
          simp [List.intercalate]

theorem commas_separated (texts : List String) :
    (",".intercalate texts).toList = separated [','] (texts.map String.toList) := by
  rw [String.toList_intercalate, intercalate_separated]
  rfl

theorem tokenize_separated (parts : List (List Char)) (tokens : List (List Lexeme))
    (read : List.Forall₂ (fun part token => tokenize part = some token) parts tokens) :
    tokenize (separated [','] parts) = some (separated [.sign [',']] tokens) := by
  induction read with
  | nil => rfl
  | @cons part token rest tokenRest first others ih =>
      cases others with
      | nil => exact first
      | cons _ _ =>
          rw [separated, separated]
          exact tokenize_append part _ token _ first (at_comma _)
            (tokenize_closed [','] _ [.sign [',']] _ rfl ih)

end MappedSql.Lexer
