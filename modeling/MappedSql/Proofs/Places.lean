import MappedSql.Proofs.Lexer

/-!
Brackets among the words of a text: how deep a word stands, and which texts close what they open and
neither end their statement nor open a comment.
-/

namespace MappedSql.Lexer

def keyword (letters : String) : Lexeme := .word letters.toList

def opening : Lexeme := .sign ['(']

def closing : Lexeme := .sign [')']

/-- How many brackets are open after the tokens; a bracket is never closed before it is opened. -/
def depthAfter : Nat → List Lexeme → Option Nat
  | depth, [] => some depth
  | depth, token :: rest =>
      if token = opening then depthAfter (depth + 1) rest
      else if token = closing then
        match depth with
        | 0 => none
        | outer + 1 => depthAfter outer rest
      else depthAfter depth rest

def breakers : List Lexeme :=
  [.sign ['-', '-'], .sign ['/', '*'], .sign [';']]

structure Contained (tokens : List Lexeme) : Prop where
  level : ∀ depth, depthAfter depth tokens = some depth
  quiet : ∀ token ∈ tokens, token ∉ breakers

theorem depth_append (depth : Nat) (first second : List Lexeme) :
    depthAfter depth (first ++ second) =
      (depthAfter depth first).bind fun middle => depthAfter middle second := by
  induction first generalizing depth with
  | nil => rfl
  | cons token rest ih =>
      simp only [List.cons_append, depthAfter, ih]
      split
      · rfl
      · split
        · cases depth <;> rfl
        · rfl

theorem contained_nil : Contained [] :=
  ⟨fun _ => rfl, fun _ member => absurd member List.not_mem_nil⟩

theorem contained_append (first second : List Lexeme) (before : Contained first)
    (after : Contained second) : Contained (first ++ second) := by
  refine ⟨fun depth => ?_, fun token member => ?_⟩
  · rw [depth_append, before.level depth, Option.bind_some, after.level depth]
  · rcases List.mem_append.mp member with inFirst | inSecond
    · exact before.quiet token inFirst
    · exact after.quiet token inSecond

theorem contained_cons (token : Lexeme) (rest : List Lexeme) (plain : token ≠ opening ∧ token ≠ closing)
    (silent : token ∉ breakers) (after : Contained rest) : Contained (token :: rest) := by
  refine ⟨fun depth => ?_, fun other member => ?_⟩
  · simp only [depthAfter, plain.1, plain.2, ↓reduceIte, after.level depth]
  · rcases List.mem_cons.mp member with rfl | inRest
    · exact silent
    · exact after.quiet other inRest

theorem contained_of_plain (lexemes : List Lexeme)
    (plain : ∀ lexeme ∈ lexemes, (lexeme ≠ opening ∧ lexeme ≠ closing) ∧ lexeme ∉ breakers) :
    Contained lexemes := by
  induction lexemes with
  | nil => exact contained_nil
  | cons lexeme rest ih =>
      have first := plain lexeme List.mem_cons_self
      exact contained_cons lexeme rest first.1 first.2
        (ih fun other member => plain other (List.mem_cons_of_mem lexeme member))

-- A word is no sign, whatever its letters are.
theorem contained_word (letters : List Char) (rest : List Lexeme) (after : Contained rest) :
    Contained (.word letters :: rest) :=
  contained_cons _ rest ⟨by simp [opening], by simp [closing]⟩ (by simp [breakers]) after

def holdsValue : Lexeme → Bool
  | .number _ | .text _ | .name _ => true
  | .word _ | .sign _ => false

theorem value_no_bracket (lexeme : Lexeme) (value : holdsValue lexeme = true) :
    lexeme ≠ opening ∧ lexeme ≠ closing := by
  constructor <;> (rintro rfl; cases value)

theorem contained_value (lexeme : Lexeme) (rest : List Lexeme) (value : holdsValue lexeme = true)
    (after : Contained rest) : Contained (lexeme :: rest) := by
  refine contained_cons lexeme rest (value_no_bracket lexeme value) ?_ after
  intro breaks
  simp only [breakers, List.mem_cons, List.not_mem_nil, or_false] at breaks
  rcases breaks with rfl | rfl | rfl <;> cases value

theorem contained_brackets (inner after : List Lexeme) (inside : Contained inner)
    (outside : Contained after) : Contained (opening :: (inner ++ closing :: after)) := by
  refine ⟨fun depth => ?_, fun token member => ?_⟩
  · have closed : depthAfter (depth + 1) (closing :: after) = some depth := by
      simp only [depthAfter, show closing ≠ opening by decide, ↓reduceIte, outside.level depth]
    have opened : depthAfter depth (opening :: (inner ++ closing :: after)) =
        depthAfter (depth + 1) (inner ++ closing :: after) := by
      simp only [depthAfter, ↓reduceIte]
    rw [opened, depth_append, inside.level, Option.bind_some, closed]
  · rcases List.mem_cons.mp member with rfl | inRest
    · decide
    · rcases List.mem_append.mp inRest with inInner | inLast
      · exact inside.quiet token inInner
      · rcases List.mem_cons.mp inLast with rfl | inAfter
        · decide
        · exact outside.quiet token inAfter

theorem contained_separated (parts : List (List Lexeme)) (each : ∀ part ∈ parts, Contained part) :
    Contained (separated [.sign [',']] parts) := by
  induction parts with
  | nil => exact contained_nil
  | cons part rest ih =>
      have first := each part List.mem_cons_self
      have others := ih fun other member => each other (List.mem_cons_of_mem part member)
      cases rest with
      | nil => exact first
      | cons next more =>
          exact contained_append _ _ first (contained_cons _ _ (by decide) (by decide) others)

end MappedSql.Lexer

/-!
Places in a text. A place says how many brackets are open and whether it is between quotes or in a
bracketed name. It is kept character by character, and agrees with what the scanner has pending and
with the brackets among the words that were read.
-/

namespace MappedSql.Cutting

open Lexer

inductive Region where
  | code
  | text
  | name
  deriving DecidableEq, Repr

structure Place where
  depth : Nat
  region : Region
  deriving DecidableEq, Repr

def outside : Place := ⟨0, .code⟩

/-- A doubled quote or closing bracket leaves its region and comes back at once. -/
def Place.next (place : Place) (c : Char) : Place :=
  match place.region with
  | .text => if c = '\'' then ⟨place.depth, .code⟩ else place
  | .name => if c = ']' then ⟨place.depth, .code⟩ else place
  | .code =>
      if c = '\'' then ⟨place.depth, .text⟩
      else if c = '[' ∨ c = ']' then ⟨place.depth, .name⟩
      else if c = '(' then ⟨place.depth + 1, .code⟩
      else if c = ')' then ⟨place.depth - 1, .code⟩
      else place

def through (place : Place) (characters : List Char) : Place :=
  characters.foldl Place.next place

def regionOf : Pending → Region
  | .text _ => .text
  | .name _ => .name
  | _ => .code

def Begun : Pending → Prop
  | .sign first => first ∈ leadingSigns
  | _ => True

theorem start_begun (c : Char) (taken : List Lexeme × Pending) (started : start c = some taken) :
    Begun taken.2 := by
  unfold start at started
  split_ifs at started with white letter digit quote bracket lone leading
  · exact Option.some.inj started ▸ trivial
  · exact Option.some.inj started ▸ trivial
  · exact Option.some.inj started ▸ trivial
  · exact Option.some.inj started ▸ trivial
  · exact Option.some.inj started ▸ trivial
  · exact Option.some.inj started ▸ trivial
  · exact Option.some.inj started ▸ List.mem_of_elem_eq_true leading

theorem step_begun (pending : Pending) (c : Char) (taken : List Lexeme × Pending)
    (stepped : step pending c = some taken) : Begun taken.2 := by
  have restarted (before : Pending) (made : restart before c = some taken) : Begun taken.2 := by
    obtain ⟨ended, _, rest⟩ := Option.bind_eq_some_iff.mp made
    obtain ⟨begun, started, same⟩ := Option.bind_eq_some_iff.mp rest
    cases same
    exact start_begun c begun started
  cases pending <;> simp only [step] at stepped
  case nothing => exact start_begun c taken stepped
  all_goals
    split at stepped
    · cases stepped
      trivial
    · first
      | exact restarted _ stepped
      | cases stepped; trivial

theorem run_begun (pending : Pending) (characters : List Char) (read : List Lexeme × Pending)
    (begun : Begun pending) (ran : run pending characters = some read) : Begun read.2 := by
  induction characters generalizing pending read with
  | nil => exact Option.some.inj ran ▸ begun
  | cons c rest ih =>
      rw [run] at ran
      obtain ⟨taken, stepped, more⟩ := Option.bind_eq_some_iff.mp ran
      obtain ⟨later, ranLater, rfl⟩ := Option.map_eq_some_iff.mp more
      exact ih taken.2 later (step_begun pending c taken stepped) ranLater

-- The end of a token opens and closes no bracket.
theorem finish_level (pending : Pending) (ended : List Lexeme) (depth : Nat)
    (begun : Begun pending) (finished : finish pending = some ended) :
    depthAfter depth ended = some depth := by
  cases pending <;> simp only [finish, Option.some.injEq, reduceCtorEq] at finished <;>
    subst finished
  case sign first =>
    have others : first ≠ '(' ∧ first ≠ ')' := by
      refine ⟨?_, ?_⟩ <;> (rintro rfl; simp [Begun, leadingSigns] at begun)
    simp [depthAfter, opening, closing, others.1, others.2]
  all_goals simp [depthAfter, opening, closing]

def marks : List Char :=
  ['\'', '[', ']', '(', ')']

theorem mark_stands_alone (c : Char) (mark : c ∈ marks) :
    isWordChar c = false ∧ isNumberChar c = false ∧ c.isWhitespace = false := by
  simp only [marks, List.mem_cons, List.not_mem_nil, or_false] at mark
  rcases mark with rfl | rfl | rfl | rfl | rfl <;> decide

theorem paired_plain (pair : Char × Char) (member : pair ∈ pairedSigns) : pair.2 ∉ marks := by
  simp only [pairedSigns, List.mem_cons, List.not_mem_nil, or_false] at member
  rcases member with rfl | rfl | rfl | rfl | rfl <;> decide

theorem next_plain (depth : Nat) (c : Char) (plain : c ∉ marks) :
    Place.next ⟨depth, .code⟩ c = ⟨depth, .code⟩ := by
  simp only [marks, List.mem_cons, List.not_mem_nil, or_false, not_or] at plain
  simp [Place.next, plain]

theorem next_word (depth : Nat) (c : Char) (word : isWordChar c = true ∨ isNumberChar c = true) :
    Place.next ⟨depth, .code⟩ c = ⟨depth, .code⟩ := by
  refine next_plain depth c fun mark => ?_
  have alone := mark_stands_alone c mark
  simp [alone.1, alone.2.1] at word

theorem sign_follows (c : Char) (depth after : Nat) (lone : c ∈ loneSigns)
    (level : depthAfter depth [.sign [c]] = some after) :
    Place.next ⟨depth, .code⟩ c = ⟨after, .code⟩ := by
  by_cases opens : c = '('
  · subst opens
    cases level
    rfl
  · by_cases closes : c = ')'
    · subst closes
      cases depth with
      | zero => cases level
      | succ outer =>
          cases level
          rfl
    · have same : after = depth := by
        simpa [depthAfter, opening, closing, opens, closes] using level.symm
      subst same
      refine next_plain after c fun mark => ?_
      simp only [marks, List.mem_cons, List.not_mem_nil, or_false] at mark
      rcases mark with rfl | rfl | rfl | rfl | rfl
      · exact absurd lone (by decide)
      · exact absurd lone (by decide)
      · exact absurd lone (by decide)
      · exact opens rfl
      · exact closes rfl

theorem start_follows (c : Char) (depth after : Nat) (taken : List Lexeme × Pending)
    (started : start c = some taken) (level : depthAfter depth taken.1 = some after) :
    Place.next ⟨depth, .code⟩ c = ⟨after, regionOf taken.2⟩ := by
  unfold start at started
  split_ifs at started with white letter digit quote bracket lone leading <;> cases started
  · cases level
    exact next_plain depth c fun mark => by simp [(mark_stands_alone c mark).2.2] at white
  · cases level
    exact next_word depth c (.inl (by simp [isWordChar, Char.isAlphanum, letter]))
  · cases level
    exact next_word depth c (.inl (by simp [isWordChar, Char.isAlphanum, digit]))
  · cases level
    subst quote
    rfl
  · cases level
    subst bracket
    rfl
  · exact sign_follows c depth after (List.mem_of_elem_eq_true lone) level
  · cases level
    refine next_plain depth c fun mark => ?_
    simp only [marks, List.mem_cons, List.not_mem_nil, or_false] at mark
    rcases mark with rfl | rfl | rfl | rfl | rfl <;> exact absurd leading (by decide)

-- What ended before the character is no bracket, so only what the character begins counts.
theorem restart_follows (pending : Pending) (c : Char) (depth after : Nat)
    (taken : List Lexeme × Pending) (begun : Begun pending) (made : restart pending c = some taken)
    (level : depthAfter depth taken.1 = some after) :
    Place.next ⟨depth, .code⟩ c = ⟨after, regionOf taken.2⟩ := by
  obtain ⟨ended, finished, rest⟩ := Option.bind_eq_some_iff.mp made
  obtain ⟨next, started, same⟩ := Option.bind_eq_some_iff.mp rest
  cases same
  rw [depth_append, finish_level pending ended depth begun finished] at level
  exact start_follows c depth after next started level

theorem step_follows (pending : Pending) (c : Char) (depth after : Nat)
    (taken : List Lexeme × Pending) (begun : Begun pending) (stepped : step pending c = some taken)
    (level : depthAfter depth taken.1 = some after) :
    Place.next ⟨depth, regionOf pending⟩ c = ⟨after, regionOf taken.2⟩ := by
  have restarted (made : restart pending c = some taken) :=
    restart_follows pending c depth after taken begun made level
  cases pending with
  | nothing => exact start_follows c depth after taken stepped level
  | word letters =>
      by_cases prolongs : isWordChar c = true
      · simp only [step, prolongs, ↓reduceIte] at stepped
        cases stepped
        cases level
        exact next_word depth c (.inl prolongs)
      · exact restarted (by simpa only [step, if_neg prolongs] using stepped)
  | number digits =>
      by_cases prolongs : isNumberChar c = true
      · simp only [step, prolongs, ↓reduceIte] at stepped
        cases stepped
        cases level
        exact next_word depth c (.inr prolongs)
      · exact restarted (by simpa only [step, if_neg prolongs] using stepped)
  | text content =>
      by_cases quote : c = '\''
      · subst quote
        cases stepped
        cases level
        rfl
      · simp only [step, quote, ↓reduceIte] at stepped
        cases stepped
        cases level
        simp [Place.next, regionOf, quote]
  | textEnd content =>
      by_cases quote : c = '\''
      · subst quote
        cases stepped
        cases level
        rfl
      · exact restarted (by simpa only [step, quote, ↓reduceIte] using stepped)
  | name content =>
      by_cases bracket : c = ']'
      · subst bracket
        cases stepped
        cases level
        rfl
      · simp only [step, bracket, ↓reduceIte] at stepped
        cases stepped
        cases level
        simp [Place.next, regionOf, bracket]
  | nameEnd content =>
      by_cases bracket : c = ']'
      · subst bracket
        cases stepped
        cases level
        rfl
      · exact restarted (by simpa only [step, bracket, ↓reduceIte] using stepped)
  | sign first =>
      by_cases paired : pairedSigns.contains (first, c) = true
      · simp only [step, paired, ↓reduceIte] at stepped
        cases stepped
        -- Two characters are no bracket.
        have same : after = depth := by
          simpa [depthAfter, opening, closing] using level.symm
        subst same
        exact next_plain after c (paired_plain _ (List.mem_of_elem_eq_true paired))
      · exact restarted (by simpa only [step, if_neg paired] using stepped)

theorem through_follows (pending : Pending) (characters : List Char) (depth after : Nat)
    (read : List Lexeme × Pending) (begun : Begun pending)
    (ran : run pending characters = some read) (level : depthAfter depth read.1 = some after) :
    through ⟨depth, regionOf pending⟩ characters = ⟨after, regionOf read.2⟩ := by
  induction characters generalizing pending depth read with
  | nil =>
      cases ran
      cases level
      rfl
  | cons c rest ih =>
      rw [run] at ran
      obtain ⟨taken, stepped, more⟩ := Option.bind_eq_some_iff.mp ran
      obtain ⟨later, ranLater, same⟩ := Option.map_eq_some_iff.mp more
      subst same
      rw [depth_append] at level
      obtain ⟨middle, levelTaken, levelLater⟩ := Option.bind_eq_some_iff.mp level
      have moved := step_follows pending c depth middle taken begun stepped levelTaken
      have passed := ih taken.2 middle later (step_begun pending c taken stepped) ranLater levelLater
      rw [through, List.foldl_cons, moved]
      exact passed

theorem word_char (word : List Char) (whole : IsWord word) (c : Char) (member : c ∈ word) :
    isWordChar c = true := by
  cases word with
  | nil => exact whole.elim
  | cons first rest =>
      rcases List.mem_cons.mp member with rfl | later
      · simp [isWordChar, Char.isAlphanum, whole.1]
      · exact whole.2 c later

theorem word_not_boundary (c : Char) (rest : List Char) (word : isWordChar c = true) :
    ¬ AtBoundary (c :: rest) := by
  rintro (rfl | rfl | rfl) <;> exact absurd word (by decide)

theorem word_before_blank (word after : List Char) (lexemes : List Lexeme) (whole : IsWord word)
    (read : tokenize (word ++ ' ' :: after) = some lexemes) :
    lexemes.head? = some (.word word) := by
  rw [tokenize, tokens_from_append, run_whole_word word whole, Option.bind_some,
    tokens_from_boundary (.word word) [.word word] _ rfl (at_blank after)] at read
  obtain ⟨_, inner, rfl⟩ := Option.map_eq_some_iff.mp read
  obtain ⟨_, _, rfl⟩ := Option.map_eq_some_iff.mp inner
  rfl

-- A word that begins within a text and is followed by a blank is a word of the text.
theorem word_first (word characters rest : List Char) (lexemes : List Lexeme) (whole : IsWord word)
    (begins : word ++ [' '] <+: characters ++ rest) (boundary : AtBoundary rest)
    (read : tokenize characters = some lexemes) : lexemes.head? = some (.word word) := by
  have exactly (same : characters = word) : lexemes.head? = some (.word word) := by
    rw [same, tokenize_word word whole] at read
    cases read
    rfl
  obtain ⟨tail, split⟩ := begins
  rcases List.append_eq_append_iff.mp split with ⟨more, same, _⟩ | ⟨beyond, same, behind⟩
  · rw [same, List.append_assoc] at read
    exact word_before_blank word more lexemes whole read
  · rcases List.append_eq_append_iff.mp same with ⟨blank, longer, ends⟩ | ⟨missing, shorter, ends⟩
    · cases blank with
      | nil => exact exactly (by simpa using longer)
      | cons c others =>
          obtain ⟨rfl, nothing⟩ := List.cons.inj ends
          rw [longer] at read
          exact word_before_blank word others lexemes whole read
    · cases missing with
      | nil => exact exactly (by simpa using shorter.symm)
      | cons c others =>
          have inWord : c ∈ word := shorter ▸ List.mem_append_right characters List.mem_cons_self
          rw [behind, ends] at boundary
          exact absurd boundary (word_not_boundary c _ (word_char word whole c inWord))

theorem finish_in_code (pending : Pending) (code : regionOf pending = .code) :
    ∃ last, finish pending = some last := by
  cases pending with
  | text content => contradiction
  | name content => contradiction
  | _ => exact ⟨_, rfl⟩

theorem code_of_finish (pending : Pending) (last : List Lexeme)
    (ended : finish pending = some last) : regionOf pending = .code := by
  cases pending <;> first | rfl | cases ended

theorem blank_ends (pending : Pending) (last : List Lexeme) (ended : finish pending = some last) :
    step pending ' ' = some (last, .nothing) := by
  have begun : start ' ' = some ([], .nothing) := rfl
  rw [step_boundary pending last ' ' [] ended (at_blank []), begun, Option.map_some, List.append_nil]

-- A text that is read to its end leaves as many brackets open as its words do.
theorem through_read (characters : List Char) (lexemes : List Lexeme) (depth after : Nat)
    (read : tokenize characters = some lexemes) (level : depthAfter depth lexemes = some after) :
    through ⟨depth, .code⟩ characters = ⟨after, .code⟩ := by
  obtain ⟨taken, ran, ends⟩ := Option.bind_eq_some_iff.mp read
  obtain ⟨last, ended, same⟩ := Option.map_eq_some_iff.mp ends
  rw [← same, depth_append] at level
  obtain ⟨middle, levelTaken, levelLast⟩ := Option.bind_eq_some_iff.mp level
  have begun := run_begun .nothing characters taken trivial ran
  rw [finish_level taken.2 last middle begun ended] at levelLast
  have passed := through_follows .nothing characters depth middle taken trivial ran levelTaken
  rw [code_of_finish taken.2 last ended, Option.some.inj levelLast] at passed
  exact passed

end MappedSql.Cutting
