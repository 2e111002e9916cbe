import MappedSql.Proofs.Places

/-!
Marks of a text: words with blanks around them, and signs between the items of a list. A text is
split at the marks that stand outside of all brackets, quotes and names. The split goes by
characters; a text comes out of it whole if, of its tokens, none that stands outside is a mark.
-/

namespace MappedSql.Cutting

open Lexer

def Apart (tokens : List Lexeme) : Nat → List Lexeme → Prop
  | _, [] => True
  | depth, lexeme :: rest =>
      if lexeme = opening then Apart tokens (depth + 1) rest
      else if lexeme = closing then Apart tokens (depth - 1) rest
      else (depth = 0 → lexeme ∉ tokens) ∧ Apart tokens depth rest

section Apart

variable (tokens : List Lexeme)

theorem apart_append (depth middle : Nat) (first second : List Lexeme)
    (level : depthAfter depth first = some middle) :
    Apart tokens depth (first ++ second) ↔
      Apart tokens depth first ∧ Apart tokens middle second := by
  induction first generalizing depth with
  | nil =>
      cases level
      simp [Apart]
  | cons lexeme rest ih =>
      simp only [depthAfter] at level
      simp only [List.cons_append, Apart]
      split_ifs at level ⊢ with opens closes
      · exact ih (depth + 1) level
      · cases depth with
        | zero => cases level
        | succ outer => exact ih outer level
      · rw [ih depth level, and_assoc]

-- Below an open bracket nothing is outside.
theorem apart_below (depth after : Nat) (lexemes : List Lexeme)
    (level : depthAfter depth lexemes = some after) : Apart tokens (depth + 1) lexemes := by
  induction lexemes generalizing depth with
  | nil => trivial
  | cons lexeme rest ih =>
      simp only [depthAfter] at level
      simp only [Apart]
      split_ifs at level ⊢ with opens closes
      · exact ih (depth + 1) level
      · cases depth with
        | zero => cases level
        | succ outer => exact ih outer level
      · exact ⟨fun zero => zero.elim, ih depth level⟩

theorem apart_cons (depth : Nat) (lexeme : Lexeme) (rest : List Lexeme)
    (plain : lexeme ≠ opening ∧ lexeme ≠ closing) (other : lexeme ∉ tokens)
    (after : Apart tokens depth rest) : Apart tokens depth (lexeme :: rest) := by
  simp only [Apart, plain.1, plain.2, ↓reduceIte]
  exact ⟨fun _ => other, after⟩

theorem apart_brackets (depth : Nat) (inner after : List Lexeme) (inside : Contained inner)
    (outer : Apart tokens depth after) :
    Apart tokens depth (opening :: (inner ++ closing :: after)) := by
  have closed : Apart tokens (depth + 1) (closing :: after) := by
    simpa only [Apart, show closing ≠ opening by decide, ↓reduceIte, Nat.add_sub_cancel] using outer
  have within := apart_below tokens depth depth inner (inside.level depth)
  simp only [Apart, ↓reduceIte]
  exact (apart_append tokens (depth + 1) (depth + 1) inner _ (inside.level (depth + 1))).mpr
    ⟨within, closed⟩

theorem apart_of_absent (depth : Nat) (lexemes : List Lexeme)
    (absent : ∀ lexeme ∈ lexemes, lexeme ∉ tokens) : Apart tokens depth lexemes := by
  induction lexemes generalizing depth with
  | nil => trivial
  | cons lexeme rest ih =>
      have others (depth : Nat) := ih depth fun other member =>
        absent other (List.mem_cons_of_mem lexeme member)
      simp only [Apart]
      split_ifs
      · exact others (depth + 1)
      · exact others (depth - 1)
      · exact ⟨fun _ => absent lexeme List.mem_cons_self, others depth⟩

end Apart

theorem apart_mono (more fewer : List Lexeme) (subset : ∀ token ∈ fewer, token ∈ more)
    (depth : Nat) (lexemes : List Lexeme) (apart : Apart more depth lexemes) :
    Apart fewer depth lexemes := by
  induction lexemes generalizing depth with
  | nil => trivial
  | cons lexeme rest ih =>
      simp only [Apart] at apart ⊢
      split_ifs at apart ⊢
      · exact ih (depth + 1) apart
      · exact ih (depth - 1) apart
      · exact ⟨fun zero named => apart.1 zero (subset lexeme named), ih depth apart.2⟩

def beginsMark (marks : List (List Char)) (characters : List Char) : Bool :=
  marks.any (·.isPrefixOf characters)

def splitFirst? (marks : List (List Char)) : Place → List Char → Option (List Char × List Char)
  | _, [] => none
  | place, c :: rest =>
      if place = outside ∧ beginsMark marks (c :: rest) = true then some ([], c :: rest)
      else (splitFirst? marks (place.next c) rest).map fun parts => (c :: parts.1, parts.2)

/-- The texts between the marks that stand outside. The first argument counts the characters of a
mark that are still to be dropped. -/
def divide (mark : List Char) : Nat → Place → List Char → List Char × List (List Char)
  | _, _, [] => ([], [])
  | dropped + 1, place, _ :: rest => divide mark dropped place rest
  | 0, place, c :: rest =>
      if place = outside ∧ beginsMark [mark] (c :: rest) = true then
        let (first, more) := divide mark (mark.length - 1) place rest
        ([], first :: more)
      else
        let (first, more) := divide mark 0 (place.next c) rest
        (c :: first, more)

/-- No mark begins outside within the characters, whatever part of it the rest adds. -/
def Unmarked (marks : List (List Char)) : Place → List Char → List Char → Prop
  | _, [], _ => True
  | place, c :: characters, rest =>
      (place = outside → beginsMark marks (c :: (characters ++ rest)) = false) ∧
        Unmarked marks (place.next c) characters rest

theorem unmarked_not_begins (marks : List (List Char)) (place : Place) (c : Char)
    (characters rest : List Char) (unmarked : Unmarked marks place (c :: characters) rest) :
    ¬ (place = outside ∧ beginsMark marks (c :: (characters ++ rest)) = true) := by
  rintro ⟨isOutside, begins⟩
  rw [unmarked.1 isOutside] at begins
  cases begins

theorem split_unmarked (marks : List (List Char)) (place : Place) (characters rest : List Char)
    (unmarked : Unmarked marks place characters rest) :
    splitFirst? marks place (characters ++ rest) =
      (splitFirst? marks (through place characters) rest).map
        fun parts => (characters ++ parts.1, parts.2) := by
  induction characters generalizing place with
  | nil => simp [through]
  | cons c characters ih =>
      have later := ih (place.next c) unmarked.2
      have nothing := unmarked_not_begins marks place c characters rest unmarked
      rw [List.cons_append, splitFirst?, if_neg nothing, later, Option.map_map]
      rfl

theorem split_marked (marks : List (List Char)) (characters mark rest : List Char)
    (member : mark ∈ marks) (present : mark ≠ [])
    (unmarked : Unmarked marks outside characters (mark ++ rest))
    (back : through outside characters = outside) :
    splitFirst? marks outside (characters ++ (mark ++ rest)) = some (characters, mark ++ rest) := by
  have begins : beginsMark marks (mark ++ rest) = true :=
    List.any_eq_true.mpr ⟨mark, member, List.isPrefixOf_iff_prefix.mpr (List.prefix_append mark rest)⟩
  rw [split_unmarked marks outside characters _ unmarked, back]
  cases mark with
  | nil => exact absurd rfl present
  | cons c more =>
      rw [List.cons_append] at begins ⊢
      rw [splitFirst?, if_pos ⟨rfl, begins⟩, Option.map_some, List.append_nil]

theorem divide_unmarked (mark : List Char) (place : Place) (characters rest : List Char)
    (unmarked : Unmarked [mark] place characters rest) :
    divide mark 0 place (characters ++ rest) =
      (characters ++ (divide mark 0 (through place characters) rest).1,
        (divide mark 0 (through place characters) rest).2) := by
  induction characters generalizing place with
  | nil => rfl
  | cons c characters ih =>
      have later := ih (place.next c) unmarked.2
      have nothing := unmarked_not_begins [mark] place c characters rest unmarked
      rw [List.cons_append, divide, if_neg nothing, later]
      rfl

theorem divide_dropped (mark : List Char) (place : Place) (characters rest : List Char) :
    divide mark characters.length place (characters ++ rest) = divide mark 0 place rest := by
  induction characters with
  | nil => rfl
  | cons c characters ih => exact ih

theorem divide_marked (mark rest : List Char) (present : mark ≠ []) :
    divide mark 0 outside (mark ++ rest) =
      ([], (divide mark 0 outside rest).1 :: (divide mark 0 outside rest).2) := by
  have begins : beginsMark [mark] (mark ++ rest) = true := by
    simp [beginsMark]
  cases mark with
  | nil => exact absurd rfl present
  | cons c more =>
      rw [List.cons_append] at begins ⊢
      rw [divide, if_pos ⟨rfl, begins⟩, List.length_cons, Nat.add_sub_cancel,
        divide_dropped (c :: more) outside more rest]

-- Parts without marks, with the mark between them, are just what a division gives back.
theorem divide_separated (mark first : List Char) (more : List (List Char)) (present : mark ≠ [])
    (each : ∀ part ∈ first :: more, (∀ rest, Unmarked [mark] outside part rest) ∧
      through outside part = outside) :
    divide mark 0 outside (separated mark (first :: more)) = (first, more) := by
  induction more generalizing first with
  | nil =>
      have own := each first List.mem_cons_self
      have alone := divide_unmarked mark outside first [] (own.1 [])
      simpa [separated, divide, own.2] using alone
  | cons next others ih =>
      have own := each first List.mem_cons_self
      have later := ih next fun part member => each part (List.mem_cons_of_mem first member)
      rw [separated, divide_unmarked mark outside first _ (own.1 _), own.2,
        divide_marked mark _ present, later, List.append_nil]

def spaced (word : List Char) : List Char :=
  ' ' :: (word ++ [' '])

theorem spaced_begins (words : List (List Char)) (c : Char) (characters : List Char)
    (begins : beginsMark (words.map spaced) (c :: characters) = true) :
    c = ' ' ∧ ∃ word ∈ words, word ++ [' '] <+: characters := by
  obtain ⟨mark, member, isPrefix⟩ := List.any_eq_true.mp begins
  obtain ⟨word, inWords, rfl⟩ := List.mem_map.mp member
  obtain ⟨blank, behind⟩ := List.cons_prefix_cons.mp (List.isPrefixOf_iff_prefix.mp isPrefix)
  exact ⟨blank.symm, word, inWords, behind⟩

theorem apart_head (tokens : List Lexeme) (lexeme : Lexeme) (lexemes : List Lexeme)
    (plain : lexeme ≠ opening ∧ lexeme ≠ closing) (head : lexemes.head? = some lexeme)
    (apart : Apart tokens 0 lexemes) : lexeme ∉ tokens := by
  cases lexemes with
  | nil => contradiction
  | cons first rest =>
      cases head
      simp only [Apart, plain.1, plain.2, ↓reduceIte] at apart
      exact apart.1 trivial

-- Words and separators alike: if every mark ends what is pending and brings one of the tokens with
-- it, no mark begins in a text of which no such token stands outside.
theorem unmarked_of_apart (marks : List (List Char)) (tokens : List Lexeme) (rest : List Char)
    (brings : ∀ (pending : Pending) (last : List Lexeme) (c : Char) (characters : List Char)
      (taken : List Lexeme × Pending) (later : List Lexeme),
      finish pending = some last → beginsMark marks (c :: (characters ++ rest)) = true →
      step pending c = some taken → tokensFrom taken.2 characters = some later →
      ∃ token ∈ tokens, (token ≠ opening ∧ token ≠ closing) ∧
        ∃ behind, taken.1 ++ later = last ++ token :: behind)
    (pending : Pending) (characters : List Char) (depth after : Nat) (lexemes : List Lexeme)
    (begun : Begun pending) (read : tokensFrom pending characters = some lexemes)
    (level : depthAfter depth lexemes = some after) (apart : Apart tokens depth lexemes) :
    Unmarked marks ⟨depth, regionOf pending⟩ characters rest := by
  induction characters generalizing pending depth lexemes with
  | nil => trivial
  | cons c more ih =>
      rw [tokens_from_cons] at read
      obtain ⟨taken, stepped, next⟩ := Option.bind_eq_some_iff.mp read
      obtain ⟨later, readLater, same⟩ := Option.map_eq_some_iff.mp next
      subst same
      refine ⟨fun isOutside => ?_, ?_⟩
      · by_contra marked
        rw [Bool.not_eq_false] at marked
        obtain rfl : depth = 0 := congrArg Place.depth isOutside
        have code : regionOf pending = .code := congrArg Place.region isOutside
        obtain ⟨last, ended⟩ := finish_in_code pending code
        obtain ⟨token, member, plain, behind, split⟩ :=
          brings pending last c more taken later ended marked stepped readLater
        rw [split] at apart
        have level' := finish_level pending last 0 begun ended
        have inside := ((apart_append tokens 0 0 last (token :: behind) level').mp apart).2
        simp only [Apart, plain.1, plain.2, ↓reduceIte] at inside
        exact inside.1 trivial member
      · rw [depth_append] at level
        obtain ⟨middle, levelTaken, levelLater⟩ := Option.bind_eq_some_iff.mp level
        have parts := (apart_append tokens depth middle taken.1 later levelTaken).mp apart
        rw [step_follows pending c depth middle taken begun stepped levelTaken]
        exact ih taken.2 middle later (step_begun pending c taken stepped) readLater levelLater parts.2

theorem unmarked_of_words (words : List (List Char)) (whole : ∀ word ∈ words, IsWord word)
    (rest : List Char) (boundary : AtBoundary rest) (pending : Pending) (characters : List Char)
    (depth after : Nat) (lexemes : List Lexeme) (begun : Begun pending)
    (read : tokensFrom pending characters = some lexemes)
    (level : depthAfter depth lexemes = some after)
    (apart : Apart (words.map .word) depth lexemes) :
    Unmarked (words.map spaced) ⟨depth, regionOf pending⟩ characters rest := by
  refine unmarked_of_apart _ (words.map .word) rest ?_ pending characters depth after lexemes begun
    read level apart
  intro pending last c more taken later ended marked stepped readLater
  -- The blank ends what is pending, so the word of the mark is the next token.
  obtain ⟨rfl, word, member, begins⟩ := spaced_begins words c (more ++ rest) marked
  rw [blank_ends pending last ended] at stepped
  cases stepped
  have head := word_first word more rest later (whole word member) begins boundary readLater
  refine ⟨.word word, List.mem_map_of_mem member, ⟨by simp [opening], by simp [closing]⟩, ?_⟩
  obtain ⟨behind, rfl⟩ := List.head?_eq_some_iff.mp head
  exact ⟨behind, rfl⟩

def separators : List Char :=
  [',', ';']

-- A separator ends what is pending and is a token of its own.
theorem step_separator (pending : Pending) (last : List Lexeme) (c : Char)
    (separator : c ∈ separators) (ended : finish pending = some last) :
    step pending c = some (last ++ [.sign [c]], .nothing) := by
  have unpaired (first : Char) : pairedSigns.contains (first, c) = false := by
    simp only [separators, List.mem_cons, List.not_mem_nil, or_false] at separator
    rcases separator with rfl | rfl <;> simp [pairedSigns]
  simp only [separators, List.mem_cons, List.not_mem_nil, or_false] at separator
  cases pending with
  | sign first =>
      cases ended
      rw [step, unpaired first]
      rcases separator with rfl | rfl <;> rfl
  | _ => rcases separator with rfl | rfl <;> cases ended <;> rfl

theorem separator_no_bracket (c : Char) (separator : c ∈ separators) :
    Lexeme.sign [c] ≠ opening ∧ Lexeme.sign [c] ≠ closing := by
  simp only [separators, List.mem_cons, List.not_mem_nil, or_false] at separator
  rcases separator with rfl | rfl <;> decide

theorem unmarked_of_separator (c : Char) (behind : List Char) (separator : c ∈ separators)
    (rest : List Char) (pending : Pending) (characters : List Char) (depth after : Nat)
    (lexemes : List Lexeme) (begun : Begun pending)
    (read : tokensFrom pending characters = some lexemes)
    (level : depthAfter depth lexemes = some after) (apart : Apart [.sign [c]] depth lexemes) :
    Unmarked [c :: behind] ⟨depth, regionOf pending⟩ characters rest := by
  refine unmarked_of_apart _ [.sign [c]] rest ?_ pending characters depth after lexemes begun read
    level apart
  intro pending last first more taken later ended marked stepped _
  have begins : c = first ∧ behind <+: more ++ rest := by
    simpa [beginsMark] using marked
  obtain ⟨rfl, _⟩ := begins
  rw [step_separator pending last c separator ended] at stepped
  cases stepped
  exact ⟨_, List.mem_cons_self, separator_no_bracket c separator, later, by simp⟩

end MappedSql.Cutting
