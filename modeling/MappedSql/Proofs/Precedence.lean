import MappedSql.Proofs.FragmentTokens

/-!
What a reader takes a text for. Operators make a tree of their operands by precedence: arithmetic
binds tighter than comparisons, null tests and memberships, these bind tighter than NOT, NOT tighter
than AND, and AND tighter than OR. `Spells` is the grammar, and `parse` reads it with a stack of
what is begun and not complete.
-/

namespace MappedSql

open Lexer

inductive Phrase where
  | column (aliasName name : List Char)
  | leaf (value : Leaf)
  | operation (op : SqlOperator) (left right : Phrase)
  | isNull (operand : Phrase)
  | isNotNull (operand : Phrase)
  | negation (operand : Phrase)
  | complement (operand : Phrase)
  | choice (test whenTrue whenFalse : Phrase)
  | membership (element : Phrase) (items : List Leaf)
  deriving DecidableEq, Repr

def SqlOperator.level : SqlOperator → Nat
  | or => 1
  | and => 2
  | equal | notEqual | less | lessOrEqual | greater | greaterOrEqual => 4
  | plus | minus => 5
  | times | dividedBy | remainder => 6

namespace Precedence

-- Between AND and the comparisons.
def complementLevel : Nat := 3

def testLevel : Nat := 4

def negationLevel : Nat := 7

def reserved : List (List Char) :=
  ["NULL", "NOT", "AND", "OR", "IS", "IN", "CASE", "WHEN", "THEN", "ELSE", "END", "AS"].map
    String.toList

def beginsWithNumber : List Lexeme → Bool
  | .number _ :: _ => true
  | _ => false

/-- The spellings of a tree where nothing looser than the level may stand without brackets.
Operators of one level are grouped from the left. -/
inductive Spells : Nat → Phrase → List Lexeme → Prop where
  | column {level : Nat} {aliasName name : List Char} :
      aliasName ∉ reserved →
      Spells level (.column aliasName name) [.word aliasName, .sign ['.'], .name name]
  | leaf {level : Nat} {value : Leaf} : Spells level (.leaf value) value.tokens
  | operation {level : Nat} {op : SqlOperator} {left right : Phrase} {first second : List Lexeme} :
      level ≤ op.level → Spells op.level left first → Spells (op.level + 1) right second →
      Spells level (.operation op left right) (first ++ op.token :: second)
  | isNull {level : Nat} {operand : Phrase} {lexemes : List Lexeme} :
      level ≤ testLevel → Spells testLevel operand lexemes →
      Spells level (.isNull operand) (lexemes ++ [keyword "IS", keyword "NULL"])
  | isNotNull {level : Nat} {operand : Phrase} {lexemes : List Lexeme} :
      level ≤ testLevel → Spells testLevel operand lexemes →
      Spells level (.isNotNull operand) (lexemes ++ [keyword "IS", keyword "NOT", keyword "NULL"])
  | negation {level : Nat} {operand : Phrase} {lexemes : List Lexeme} :
      level ≤ negationLevel → Spells negationLevel operand lexemes →
      beginsWithNumber lexemes = false →
      Spells level (.negation operand) (.sign ['-'] :: lexemes)
  | complement {level : Nat} {operand : Phrase} {lexemes : List Lexeme} :
      level ≤ complementLevel → Spells complementLevel operand lexemes →
      Spells level (.complement operand) (keyword "NOT" :: lexemes)
  | choice {level : Nat} {test whenTrue whenFalse : Phrase} {first second third : List Lexeme} :
      Spells 0 test first → Spells 0 whenTrue second → Spells 0 whenFalse third →
      Spells level (.choice test whenTrue whenFalse)
        (keyword "CASE" :: keyword "WHEN" :: (first ++ keyword "THEN" :: (second ++
          keyword "ELSE" :: (third ++ [keyword "END"]))))
  | membership {level : Nat} {element : Phrase} {items : List Leaf} {lexemes : List Lexeme} :
      level ≤ testLevel → Spells testLevel element lexemes → items ≠ [] →
      Spells level (.membership element items)
        (lexemes ++ keyword "IN" :: opening ::
          (separated [.sign [',']] (items.map Leaf.tokens) ++ [closing]))
  | brackets {level : Nat} {tree : Phrase} {lexemes : List Lexeme} :
      Spells 0 tree lexemes → Spells level tree (opening :: (lexemes ++ [closing]))

inductive Frame where
  | infixed (op : SqlOperator) (left : Phrase)
  | complemented
  | negated
  | bracket
  | listed (element : Phrase) (items : List Leaf)
  | caseTest
  | caseTrue (test : Phrase)
  | caseFalse (test whenTrue : Phrase)

namespace Frame

def bound : Frame → Nat
  | infixed op _ => op.level + 1
  | complemented => complementLevel
  | negated => negationLevel
  | bracket | listed _ _ | caseTest | caseTrue _ | caseFalse _ _ => 0

def apply : Frame → Phrase → Phrase
  | infixed op left, right => .operation op left right
  | complemented, operand => .complement operand
  | negated, operand => .negation operand
  | bracket, tree | listed _ _, tree | caseTest, tree | caseTrue _, tree | caseFalse _ _, tree => tree

end Frame

inductive State where
  | expecting (stack : List Frame)
  /-- An operand is complete, if nothing tighter takes it. -/
  | holding (stack : List Frame) (tree : Phrase)
  /-- After a minus sign that no operand precedes. -/
  | signed (stack : List Frame)
  | qualified (stack : List Frame) (aliasName : List Char)
  | pointed (stack : List Frame) (aliasName : List Char)
  | cased (stack : List Frame)
  | tested (stack : List Frame) (operand : Phrase)
  | testedNot (stack : List Frame) (operand : Phrase)
  | listing (stack : List Frame) (element : Phrase)

def operators : List SqlOperator :=
  [.equal, .notEqual, .less, .lessOrEqual, .greater, .greaterOrEqual, .and, .or, .plus, .minus,
    .times, .dividedBy, .remainder]

def operator? (lexeme : Lexeme) : Option SqlOperator :=
  operators.find? fun op => op.token == lexeme

def levelOf (lexeme : Lexeme) : Nat :=
  match operator? lexeme with
  | some op => op.level
  | none => if lexeme = keyword "IS" ∨ lexeme = keyword "IN" then testLevel else 0

def bound : List Frame → Nat
  | [] => 0
  | frame :: _ => frame.bound

def collapse (level : Nat) : List Frame → Phrase → List Frame × Phrase
  | [], tree => ([], tree)
  | frame :: outer, tree =>
      if level < frame.bound then collapse level outer (frame.apply tree) else (frame :: outer, tree)

def beginOperand (stack : List Frame) : Lexeme → Option State
  | .number digits => some (.holding stack (.leaf (.number false digits)))
  | .text content => some (.holding stack (.leaf (.text content)))
  | .name _ => none
  | .sign characters =>
      if characters = ['('] then some (.expecting (.bracket :: stack))
      else if characters = ['-'] then some (.signed stack)
      else none
  | .word letters =>
      if letters = "NULL".toList then some (.holding stack (.leaf .null))
      else if letters = "CASE".toList then some (.cased stack)
      else if letters = "NOT".toList then
        if bound stack ≤ complementLevel then some (.expecting (.complemented :: stack)) else none
      else if letters ∈ reserved then none
      else some (.qualified stack letters)

def close : List Frame → Phrase → Lexeme → Option State
  | .bracket :: outer, tree, lexeme =>
      if lexeme = closing then some (.holding outer tree) else none
  | .listed element items :: outer, .leaf value, lexeme =>
      if lexeme = closing then some (.holding outer (.membership element (items ++ [value])))
      else if lexeme = .sign [','] then some (.expecting (.listed element (items ++ [value]) :: outer))
      else none
  | .caseTest :: outer, test, lexeme =>
      if lexeme = keyword "THEN" then some (.expecting (.caseTrue test :: outer)) else none
  | .caseTrue test :: outer, whenTrue, lexeme =>
      if lexeme = keyword "ELSE" then some (.expecting (.caseFalse test whenTrue :: outer)) else none
  | .caseFalse test whenTrue :: outer, whenFalse, lexeme =>
      if lexeme = keyword "END" then some (.holding outer (.choice test whenTrue whenFalse)) else none
  | _, _, _ => none

def resume (lexeme : Lexeme) (stack : List Frame) (tree : Phrase) : Option State :=
  match operator? lexeme with
  | some op => some (.expecting (.infixed op tree :: stack))
  | none =>
      if lexeme = keyword "IS" then some (.tested stack tree)
      else if lexeme = keyword "IN" then some (.listing stack tree)
      else close stack tree lexeme

def step : State → Lexeme → Option State
  | .expecting stack, lexeme => beginOperand stack lexeme
  | .holding stack tree, lexeme =>
      let (outer, complete) := collapse (levelOf lexeme) stack tree
      resume lexeme outer complete
  | .signed stack, .number digits => some (.holding stack (.leaf (.number true digits)))
  | .signed stack, lexeme => beginOperand (.negated :: stack) lexeme
  | .qualified stack aliasName, lexeme =>
      if lexeme = .sign ['.'] then some (.pointed stack aliasName) else none
  | .pointed stack aliasName, .name name => some (.holding stack (.column aliasName name))
  | .pointed _ _, _ => none
  | .cased stack, lexeme =>
      if lexeme = keyword "WHEN" then some (.expecting (.caseTest :: stack)) else none
  | .tested stack operand, lexeme =>
      if lexeme = keyword "NULL" then some (.holding stack (.isNull operand))
      else if lexeme = keyword "NOT" then some (.testedNot stack operand)
      else none
  | .testedNot stack operand, lexeme =>
      if lexeme = keyword "NULL" then some (.holding stack (.isNotNull operand)) else none
  | .listing stack element, lexeme =>
      if lexeme = opening then some (.expecting (.listed element [] :: stack)) else none

def finish : State → Option Phrase
  | .holding stack tree =>
      match collapse 0 stack tree with
      | ([], complete) => some complete
      | _ => none
  | _ => none

def run : State → List Lexeme → Option Phrase
  | state, [] => finish state
  | state, lexeme :: rest => (step state lexeme).bind fun next => run next rest

/-! Every spelling is read. The parser puts off what is begun until it has its last operand, and
takes it when something looser follows. So reading a spelling is the same under any stack that
binds less and before any rest that binds no tighter, and in this form it goes from the parts to
the whole. -/

theorem operator_of_token (op : SqlOperator) : operator? op.token = some op := by
  cases op <;> decide

theorem level_of_operator (op : SqlOperator) : levelOf op.token = op.level := by
  simp only [levelOf, operator_of_token]

def nextLevel : List Lexeme → Nat
  | [] => 0
  | lexeme :: _ => levelOf lexeme

-- No infix operator is at the level of a prefix operator.
theorem next_level_apart (rest : List Lexeme) :
    nextLevel rest ≠ complementLevel ∧ nextLevel rest < negationLevel := by
  cases rest with
  | nil => decide
  | cons lexeme rest =>
      cases found : operator? lexeme with
      | some op =>
          simp only [nextLevel, levelOf, found]
          cases op <;> decide
      | none =>
          simp only [nextLevel, levelOf, found]
          by_cases test : lexeme = keyword "IS" ∨ lexeme = keyword "IN"
          · simp only [test, ↓reduceIte]
            decide
          · simp only [test, ↓reduceIte]
            decide

theorem spelled_ne_nil (level : Nat) (tree : Phrase) (lexemes : List Lexeme)
    (spelled : Spells level tree lexemes) : lexemes ≠ [] := by
  cases spelled with
  | @leaf _ value =>
      cases value with
      | number negative digits => cases negative <;> exact List.cons_ne_nil _ _
      | _ => exact List.cons_ne_nil _ _
  | _ => simp

theorem collapse_frame (level : Nat) (frame : Frame) (outer : List Frame) (tree : Phrase)
    (loose : level < frame.bound) :
    collapse level (frame :: outer) tree = collapse level outer (frame.apply tree) := by
  simp only [collapse, loose, ↓reduceIte]

theorem collapse_fits (level : Nat) (stack : List Frame) (tree : Phrase)
    (fits : bound stack ≤ level) : collapse level stack tree = (stack, tree) := by
  cases stack with
  | nil => rfl
  | cons frame outer =>
      have tight : ¬ level < frame.bound := Nat.not_lt.mpr fits
      simp only [collapse, tight, ↓reduceIte]

-- What follows takes the completed tree as it would have taken the last operand.
theorem run_frame (frame : Frame) (outer : List Frame) (tree : Phrase) (rest : List Lexeme)
    (loose : nextLevel rest < frame.bound) :
    run (.holding (frame :: outer) tree) rest = run (.holding outer (frame.apply tree)) rest := by
  cases rest with
  | nil => simp only [run, finish, collapse_frame 0 frame outer tree loose]
  | cons lexeme rest =>
      simp only [run, step, collapse_frame (levelOf lexeme) frame outer tree loose]

theorem run_operator (op : SqlOperator) (stack : List Frame) (tree : Phrase) (rest : List Lexeme)
    (fits : bound stack ≤ op.level) :
    run (.holding stack tree) (op.token :: rest) =
      run (.expecting (.infixed op tree :: stack)) rest := by
  have resumed : step (.holding stack tree) op.token =
      some (.expecting (.infixed op tree :: stack)) := by
    simp only [step, level_of_operator, collapse_fits _ _ _ fits, resume, operator_of_token]
  rw [run, resumed, Option.bind_some]

theorem run_signed (stack : List Frame) (lexemes : List Lexeme)
    (noNumber : beginsWithNumber lexemes = false) :
    run (.signed stack) lexemes = run (.expecting (.negated :: stack)) lexemes := by
  cases lexemes with
  | nil => rfl
  | cons lexeme rest =>
      cases lexeme with
      | number digits => simp [beginsWithNumber] at noNumber
      | _ => rfl

theorem run_leaf (stack : List Frame) (value : Leaf) (rest : List Lexeme) :
    run (.expecting stack) (value.tokens ++ rest) = run (.holding stack (.leaf value)) rest := by
  cases value with
  | null => rfl
  | number negative digits => cases negative <;> rfl
  | text content => rfl

def Ends (lexeme : Lexeme) : Prop :=
  operator? lexeme = none ∧ lexeme ≠ keyword "IS" ∧ lexeme ≠ keyword "IN"

instance (lexeme : Lexeme) : Decidable (Ends lexeme) :=
  inferInstanceAs (Decidable (_ ∧ _ ∧ _))

theorem run_end (frame : Frame) (outer : List Frame) (tree : Phrase) (lexeme : Lexeme)
    (rest : List Lexeme) (whole : frame.bound = 0) (ends : Ends lexeme) :
    run (.holding (frame :: outer) tree) (lexeme :: rest) =
      (close (frame :: outer) tree lexeme).bind fun next => run next rest := by
  have fits : bound (frame :: outer) ≤ levelOf lexeme := by
    rw [bound, whole]
    exact Nat.zero_le _
  obtain ⟨noOperator, noTest, noMembership⟩ := ends
  simp only [run, step, collapse_fits _ _ _ fits, resume, noOperator, noTest, noMembership,
    ↓reduceIte]

theorem run_items (stack : List Frame) (element : Phrase) (items : List Leaf)
    (present : items ≠ []) (done : List Leaf) (rest : List Lexeme) :
    run (.expecting (.listed element done :: stack))
        (separated [.sign [',']] (items.map Leaf.tokens) ++ closing :: rest) =
      run (.holding stack (.membership element (done ++ items))) rest := by
  induction items generalizing done with
  | nil => exact absurd rfl present
  | cons item others ih =>
      cases others with
      | nil =>
          rw [List.map_singleton, separated, run_leaf, run_end _ _ _ _ _ rfl (by decide)]
          rfl
      | cons next more =>
          have later := ih (List.cons_ne_nil next more) (done ++ [item])
          rw [List.append_assoc, List.singleton_append] at later
          rw [List.map_cons, List.map_cons, separated, List.append_assoc, run_leaf,
            List.singleton_append, List.cons_append, run_end _ _ _ _ _ rfl (by decide)]
          exact later

theorem run_test (stack : List Frame) (tree : Phrase) (rest : List Lexeme)
    (fits : bound stack ≤ testLevel) :
    run (.holding stack tree) (keyword "IS" :: rest) = run (.tested stack tree) rest := by
  have level : levelOf (keyword "IS") = testLevel := by decide
  have plain : operator? (keyword "IS") = none := by decide
  simp only [run, step, level, collapse_fits _ _ _ fits, resume, plain, ↓reduceIte,
    Option.bind_some]

theorem run_membership (stack : List Frame) (tree : Phrase) (rest : List Lexeme)
    (fits : bound stack ≤ testLevel) :
    run (.holding stack tree) (keyword "IN" :: opening :: rest) =
      run (.expecting (.listed tree [] :: stack)) rest := by
  have level : levelOf (keyword "IN") = testLevel := by decide
  have plain : operator? (keyword "IN") = none := by decide
  have other : keyword "IN" ≠ keyword "IS" := by decide
  simp only [run, step, level, collapse_fits _ _ _ fits, resume, plain, other, ↓reduceIte,
    Option.bind_some]

/-- Reading the lexemes leaves the tree, wherever it fits the stack and nothing tighter follows. -/
def Reads (level : Nat) (tree : Phrase) (lexemes : List Lexeme) : Prop :=
  ∀ (stack : List Frame) (rest : List Lexeme), bound stack ≤ level → nextLevel rest ≤ level →
    run (.expecting stack) (lexemes ++ rest) = run (.holding stack tree) rest

section Constructs

variable {level : Nat}

theorem reads_column (aliasName name : List Char) (free : aliasName ∉ reserved) :
    Reads level (.column aliasName name) [.word aliasName, .sign ['.'], .name name] := by
  intro stack rest _ _
  have others : aliasName ≠ "NULL".toList ∧ aliasName ≠ "CASE".toList ∧
      aliasName ≠ "NOT".toList := by
    refine ⟨?_, ?_, ?_⟩ <;> (rintro rfl; exact free (by decide))
  have qualified : step (.expecting stack) (.word aliasName) =
      some (.qualified stack aliasName) := by
    simp only [step, beginOperand, others.1, others.2.1, others.2.2, free, ↓reduceIte]
  rw [List.cons_append, run, qualified]
  rfl

theorem reads_operation (op : SqlOperator) (left right : Phrase) (first second : List Lexeme)
    (tight : level ≤ op.level) (readsLeft : Reads op.level left first)
    (readsRight : Reads (op.level + 1) right second) :
    Reads level (.operation op left right) (first ++ op.token :: second) := by
  intro stack rest fits loose
  have taken := readsLeft stack (op.token :: (second ++ rest)) (Nat.le_trans fits tight)
    (Nat.le_of_eq (level_of_operator op))
  have operand := readsRight (.infixed op left :: stack) rest (Nat.le_refl _) (by omega)
  -- What follows is too loose for the right operand, so the operation takes it.
  have looser : nextLevel rest < (Frame.infixed op left).bound :=
    Nat.lt_succ_of_le (Nat.le_trans loose tight)
  rw [List.append_assoc, List.cons_append, taken, run_operator op stack left _ (by omega),
    operand, run_frame _ _ _ _ looser]
  rfl

theorem reads_null_test (operand : Phrase) (lexemes : List Lexeme) (tight : level ≤ testLevel)
    (reads : Reads testLevel operand lexemes) :
    Reads level (.isNull operand) (lexemes ++ [keyword "IS", keyword "NULL"]) := by
  intro stack rest fits _
  have room := Nat.le_trans fits tight
  rw [List.append_assoc, reads stack _ room (Nat.le_refl _), List.cons_append,
    run_test stack _ _ room]
  rfl

theorem reads_present_test (operand : Phrase) (lexemes : List Lexeme) (tight : level ≤ testLevel)
    (reads : Reads testLevel operand lexemes) :
    Reads level (.isNotNull operand) (lexemes ++ [keyword "IS", keyword "NOT", keyword "NULL"]) := by
  intro stack rest fits _
  have room := Nat.le_trans fits tight
  rw [List.append_assoc, reads stack _ room (Nat.le_refl _), List.cons_append,
    run_test stack _ _ room]
  rfl

theorem reads_negation (operand : Phrase) (lexemes : List Lexeme) (tight : level ≤ negationLevel)
    (present : lexemes ≠ []) (noNumber : beginsWithNumber lexemes = false)
    (reads : Reads negationLevel operand lexemes) :
    Reads level (.negation operand) (.sign ['-'] :: lexemes) := by
  intro stack rest _ loose
  have whole : beginsWithNumber (lexemes ++ rest) = false := by
    cases lexemes with
    | nil => exact absurd rfl present
    | cons lexeme more => cases lexeme <;> first | rfl | exact noNumber
  have inner := reads (.negated :: stack) rest (Nat.le_refl _) (Nat.le_trans loose tight)
  calc run (.expecting stack) (.sign ['-'] :: lexemes ++ rest)
    _ = run (.signed stack) (lexemes ++ rest) := rfl
    _ = run (.holding (.negated :: stack) operand) rest := by
        rw [run_signed stack _ whole, inner]
    _ = run (.holding stack (.negation operand)) rest :=
        run_frame _ _ _ _ (next_level_apart rest).2

theorem reads_complement (operand : Phrase) (lexemes : List Lexeme)
    (tight : level ≤ complementLevel) (reads : Reads complementLevel operand lexemes) :
    Reads level (.complement operand) (keyword "NOT" :: lexemes) := by
  intro stack rest fits loose
  have room : bound stack ≤ complementLevel := Nat.le_trans fits tight
  have begun : run (.expecting stack) (keyword "NOT" :: (lexemes ++ rest)) =
      run (.expecting (.complemented :: stack)) (lexemes ++ rest) := by
    simp [run, step, beginOperand, keyword, room]
  have looser : nextLevel rest < complementLevel :=
    Nat.lt_of_le_of_ne (Nat.le_trans loose tight) (next_level_apart rest).1
  have inner := reads (.complemented :: stack) rest (Nat.le_refl _) (Nat.le_of_lt looser)
  rw [List.cons_append, begun, inner, run_frame _ _ _ _ looser]
  rfl

theorem reads_choice (test whenTrue whenFalse : Phrase) (first second third : List Lexeme)
    (readsTest : Reads 0 test first) (readsTrue : Reads 0 whenTrue second)
    (readsFalse : Reads 0 whenFalse third) :
    Reads level (.choice test whenTrue whenFalse)
      (keyword "CASE" :: keyword "WHEN" :: (first ++ keyword "THEN" :: (second ++
        keyword "ELSE" :: (third ++ [keyword "END"])))) := by
  intro stack rest _ _
  have tested := readsTest (.caseTest :: stack)
    (keyword "THEN" :: (second ++ keyword "ELSE" :: (third ++ keyword "END" :: rest)))
    (Nat.le_refl 0) (Nat.le_refl 0)
  have chosen := readsTrue (.caseTrue test :: stack)
    (keyword "ELSE" :: (third ++ keyword "END" :: rest)) (Nat.le_refl 0) (Nat.le_refl 0)
  have otherwise := readsFalse (.caseFalse test whenTrue :: stack) (keyword "END" :: rest)
    (Nat.le_refl 0) (Nat.le_refl 0)
  -- Each word of the choice ends what it finds on the stack and opens the next part.
  calc run (.expecting stack) _
    _ = run (.expecting (.caseTest :: stack)) (first ++ keyword "THEN" ::
          (second ++ keyword "ELSE" :: (third ++ keyword "END" :: rest))) := by
        simp only [List.cons_append, List.append_assoc, List.nil_append]
        rfl
    _ = run (.expecting (.caseTrue test :: stack))
          (second ++ keyword "ELSE" :: (third ++ keyword "END" :: rest)) := by
        rw [tested, run_end _ _ _ _ _ rfl (by decide)]
        rfl
    _ = run (.expecting (.caseFalse test whenTrue :: stack)) (third ++ keyword "END" :: rest) := by
        rw [chosen, run_end _ _ _ _ _ rfl (by decide)]
        rfl
    _ = run (.holding stack (.choice test whenTrue whenFalse)) rest := by
        rw [otherwise, run_end _ _ _ _ _ rfl (by decide)]
        rfl

theorem reads_membership (element : Phrase) (items : List Leaf) (lexemes : List Lexeme)
    (tight : level ≤ testLevel) (present : items ≠ []) (reads : Reads testLevel element lexemes) :
    Reads level (.membership element items)
      (lexemes ++ keyword "IN" :: opening ::
        (separated [.sign [',']] (items.map Leaf.tokens) ++ [closing])) := by
  intro stack rest fits _
  have room := Nat.le_trans fits tight
  have listed := run_items stack element items present [] rest
  simp only [List.append_assoc, List.cons_append, List.nil_append] at listed ⊢
  rw [reads stack _ room (Nat.le_refl _), run_membership stack _ _ room, listed]

theorem reads_brackets (tree : Phrase) (lexemes : List Lexeme) (reads : Reads 0 tree lexemes) :
    Reads level tree (opening :: (lexemes ++ [closing])) := by
  intro stack rest _ _
  have inner := reads (.bracket :: stack) (closing :: rest) (Nat.le_refl 0) (Nat.le_refl 0)
  calc run (.expecting stack) (opening :: (lexemes ++ [closing]) ++ rest)
    _ = run (.expecting (.bracket :: stack)) (lexemes ++ closing :: rest) := by
        simp only [List.cons_append, List.append_assoc, List.nil_append]
        rfl
    _ = run (.holding (.bracket :: stack) tree) (closing :: rest) := inner
    _ = run (.holding stack tree) rest := by
        rw [run_end _ _ _ _ _ rfl (by decide)]
        rfl

end Constructs

-- Every spelling is read as its tree.
theorem spelled_reads (level : Nat) (tree : Phrase) (lexemes : List Lexeme)
    (spelled : Spells level tree lexemes) : Reads level tree lexemes := by
  induction spelled with
  | column free => exact reads_column _ _ free
  | leaf => exact fun stack rest _ _ => run_leaf stack _ rest
  | operation tight _ _ readsLeft readsRight =>
      exact reads_operation _ _ _ _ _ tight readsLeft readsRight
  | isNull tight _ reads => exact reads_null_test _ _ tight reads
  | isNotNull tight _ reads => exact reads_present_test _ _ tight reads
  | negation tight inner noNumber reads =>
      exact reads_negation _ _ tight (spelled_ne_nil _ _ _ inner) noNumber reads
  | complement tight _ reads => exact reads_complement _ _ tight reads
  | choice _ _ _ readsTest readsTrue readsFalse =>
      exact reads_choice _ _ _ _ _ _ readsTest readsTrue readsFalse
  | membership tight _ present reads => exact reads_membership _ _ _ tight present reads
  | brackets _ reads => exact reads_brackets _ _ reads

theorem run_complete (tree : Phrase) (lexemes : List Lexeme) (spelled : Spells 0 tree lexemes) :
    run (.expecting []) lexemes = some tree := by
  have read := spelled_reads 0 tree lexemes spelled [] [] (Nat.le_refl 0) (Nat.le_refl 0)
  rwa [List.append_nil] at read

end Precedence

def Phrase.parse (text : String) : Option Phrase :=
  (tokenize text.toList).bind (Precedence.run (.expecting []))

example : Phrase.parse "NOT a.[x] = 1 AND b.[y] - 2 - -3 IN (4)" = some
    (.operation .and
      (.complement (.operation .equal (.column ['a'] ['x']) (.leaf (.number false ['1']))))
      (.membership
        (.operation .minus
          (.operation .minus (.column ['b'] ['y']) (.leaf (.number false ['2'])))
          (.leaf (.number true ['3'])))
        [.number false ['4']])) := by decide

end MappedSql
