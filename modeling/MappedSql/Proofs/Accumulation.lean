import MappedSql.Proofs.Where

/-!
What accumulated conditions mean. Each step joins its condition to all that is there, but the text
is flat, and a reader takes AND before OR. The two meanings agree just as long as no condition was
joined by AND after one was joined by OR.
-/

namespace MappedSql

open Cutting

inductive Truth where
  | no
  | unknown
  | yes
  deriving DecidableEq, Repr

namespace Truth

def and : Truth → Truth → Truth
  | no, _ | _, no => no
  | yes, yes => yes
  | _, _ => unknown

def or : Truth → Truth → Truth
  | yes, _ | _, yes => yes
  | no, no => no
  | _, _ => unknown

theorem or_assoc (first second third : Truth) :
    (first.or second).or third = first.or (second.or third) := by
  cases first <;> cases second <;> cases third <;> rfl

theorem and_yes (truth : Truth) : truth.and yes = truth := by
  cases truth <;> rfl

theorem no_or (truth : Truth) : no.or truth = truth := by
  cases truth <;> rfl

end Truth

def Connective.apply : Connective → Truth → Truth → Truth
  | and => Truth.and
  | or => Truth.or

abbrev Valuation := Nat → Truth

namespace Valuation

def rest (valuation : Valuation) : Valuation :=
  fun position => valuation (position + 1)

def cons (first : Truth) (valuation : Valuation) : Valuation
  | 0 => first
  | position + 1 => valuation position

theorem cons_rest (first : Truth) (valuation : Valuation) : (cons first valuation).rest = valuation :=
  rfl

end Valuation

def inTurn (before : Truth) (valuation : Valuation) : List Connective → Truth
  | [] => before
  | connective :: rest => inTurn (connective.apply before (valuation 0)) valuation.rest rest

def byPrecedence (before : Truth) (valuation : Valuation) : List Connective → Truth
  | [] => before
  | .and :: rest => byPrecedence (before.and (valuation 0)) valuation.rest rest
  | .or :: rest => before.or (byPrecedence (valuation 0) valuation.rest rest)

/-- No connective is AND once one was OR. -/
def AndsFirst (connectives : List Connective) : Prop :=
  connectives.Pairwise fun earlier later => earlier = .or → later = .or

instance (connectives : List Connective) : Decidable (AndsFirst connectives) :=
  inferInstanceAs (Decidable (connectives.Pairwise _))

theorem precedence_of_ors (first before : Truth) (valuation : Valuation)
    (connectives : List Connective) (ors : ∀ connective ∈ connectives, connective = .or) :
    byPrecedence (first.or before) valuation connectives =
      first.or (byPrecedence before valuation connectives) := by
  cases connectives with
  | nil => rfl
  | cons connective rest =>
      obtain rfl := ors connective List.mem_cons_self
      exact Truth.or_assoc first before _

theorem precedence_in_turn (before : Truth) (valuation : Valuation) (connectives : List Connective)
    (sorted : AndsFirst connectives) :
    byPrecedence before valuation connectives = inTurn before valuation connectives := by
  induction connectives generalizing before valuation with
  | nil => rfl
  | cons connective rest ih =>
      have later := List.Pairwise.of_cons sorted
      cases connective with
      | and => exact ih (before.and (valuation 0)) valuation.rest later
      | or =>
          have ors (other : Connective) (member : other ∈ rest) : other = .or :=
            List.rel_of_pairwise_cons sorted member rfl
          have joined := ih (before.or (valuation 0)) valuation.rest later
          rw [precedence_of_ors before (valuation 0) valuation.rest rest ors] at joined
          exact joined

def neutral : List Connective → Valuation
  | [] => fun _ => .no
  | .and :: rest => .cons .yes (neutral rest)
  | .or :: rest => .cons .no (neutral rest)

theorem in_turn_neutral (before : Truth) (connectives : List Connective) :
    inTurn before (neutral connectives) connectives = before := by
  induction connectives generalizing before with
  | nil => rfl
  | cons connective rest ih =>
      cases connective <;> cases before <;> exact ih _

theorem sorted_after_and (rest : List Connective) (sorted : AndsFirst rest) :
    AndsFirst (.and :: rest) :=
  List.pairwise_cons.mpr ⟨fun _ _ isOr => (by cases isOr), sorted⟩

theorem sorted_after_or (rest : List Connective) (sorted : AndsFirst (.or :: rest)) :
    AndsFirst (.or :: .or :: rest) := by
  refine List.pairwise_cons.mpr ⟨fun other member _ => ?_, sorted⟩
  rcases List.mem_cons.mp member with rfl | inRest
  · rfl
  · exact List.rel_of_pairwise_cons sorted inRest rfl

-- Where AND comes after OR, the two readings differ for some values: what was joined by OR is
-- true, and the condition that was joined by AND is false.
theorem precedence_differs (connectives : List Connective) (unsorted : ¬ AndsFirst connectives) :
    ∃ before valuation,
      byPrecedence before valuation connectives ≠ inTurn before valuation connectives := by
  induction connectives with
  | nil => exact absurd List.Pairwise.nil unsorted
  | cons connective rest ih =>
      by_cases sorted : AndsFirst rest
      · cases connective with
        | and => exact absurd (sorted_after_and rest sorted) unsorted
        | or =>
            cases rest with
            | nil => exact absurd (List.pairwise_singleton _ _) unsorted
            | cons next more =>
                cases next with
                | or => exact absurd (sorted_after_or more sorted) unsorted
                | and =>
                    -- An alternative that holds, and then a restriction that does not.
                    refine ⟨.yes, .cons .no (.cons .no (neutral more)), ?_⟩
                    have turned : inTurn .yes (.cons .no (.cons .no (neutral more)))
                        (.or :: .and :: more) = .no := in_turn_neutral .no more
                    rw [turned]
                    exact (by decide : Truth.yes ≠ Truth.no)
      · obtain ⟨before, valuation, differs⟩ := ih sorted
        cases connective with
        | and =>
            refine ⟨before, .cons .yes valuation, ?_⟩
            have same : before.and .yes = before := before.and_yes
            simpa only [byPrecedence, inTurn, Connective.apply, Valuation.cons, Valuation.cons_rest,
              same] using differs
        | or =>
            refine ⟨.no, .cons before valuation, ?_⟩
            simpa only [byPrecedence, inTurn, Connective.apply, Valuation.cons, Valuation.cons_rest,
              Truth.no_or] using differs

def textTruth (valuation : Valuation) (text : String) : Truth :=
  match pieces text with
  | none => .yes
  | some (_, rest) => byPrecedence (valuation 0) valuation.rest (rest.map Prod.fst)

def stepsTruth (valuation : Valuation) : List (Connective × String) → Truth
  | [] => .yes
  | _ :: rest => inTurn (valuation 0) valuation.rest (rest.map Prod.fst)

def writtenConnectives (parts : List (Connective × String)) : List Connective :=
  parts.tail.map Prod.fst

theorem truths_agree_iff (text : String) (parts : List (Connective × String))
    (cutText : pieces text = Filter.written parts) :
    (∀ valuation, textTruth valuation text = stepsTruth valuation parts) ↔
      AndsFirst (writtenConnectives parts) := by
  cases parts with
  | nil =>
      have agree (valuation : Valuation) : textTruth valuation text = stepsTruth valuation [] := by
        simp only [textTruth, cutText, Filter.written, stepsTruth]
      exact ⟨fun _ => .nil, fun _ => agree⟩
  | cons first rest =>
      have readText (valuation : Valuation) : textTruth valuation text =
          byPrecedence (valuation 0) valuation.rest (rest.map Prod.fst) := by
        simp only [textTruth, cutText, Filter.written]
      constructor
      · intro agree
        by_contra unsorted
        obtain ⟨before, valuation, differs⟩ := precedence_differs _ unsorted
        have same := agree (.cons before valuation)
        rw [readText] at same
        exact differs same
      · intro sorted valuation
        rw [readText]
        exact precedence_in_turn (valuation 0) valuation.rest _ sorted

namespace FilteredDraft

variable {δ σ : Type} [FilteredDraft δ σ]

/-- The text of a successful run means what its steps say just when no condition was joined by AND
after one was joined by OR. -/
theorem conditions_mean_iff (target : EntityType) (steps : List σ)
    (succeeded : (draft (run δ target steps)).fault = none)
    (tests : ∀ step ∈ steps, ∀ shared, shared? δ step = some shared → shared.Tests) :
    (∀ valuation, textTruth valuation (draft (run δ target steps)).filter.text =
      stepsTruth valuation (parts δ target steps)) ↔
      AndsFirst (writtenConnectives (parts δ target steps)) :=
  truths_agree_iff _ _ (run_pieces target steps succeeded tests)

def restricted : List DeleteDraft.Step :=
  let person : EntityType := ⟨"Person", Sample.person⟩
  let test (name : String) (value : Value) : Lambda :=
    ⟨[person], .binary .equal (.column "Person" name) (.constant value)⟩
  [.shared (.filter (test "id" (.integer .int32 1)) .and),
    .shared (.filter (test "id" (.integer .int32 2)) .or),
    .shared (.filter (test "name" (.text "Ann")) .and)]

theorem restricted_tests (step : DeleteDraft.Step) (member : step ∈ restricted)
    (shared : Draft.Step) (kind : shared? DeleteDraft step = some shared) : shared.Tests := by
  simp only [restricted, List.mem_cons, List.not_mem_nil, or_false] at member
  rcases member with rfl | rfl | rfl <;> (cases kind; exact rfl)

theorem restricted_mean_iff :
    (draft (run DeleteDraft ⟨"Person", Sample.person⟩ restricted)).fault = none ∧
      (∀ step ∈ restricted, ∀ shared, shared? DeleteDraft step = some shared → shared.Tests) ∧
      ((∀ valuation, textTruth valuation
          (draft (run DeleteDraft ⟨"Person", Sample.person⟩ restricted)).filter.text =
            stepsTruth valuation (parts DeleteDraft ⟨"Person", Sample.person⟩ restricted)) ↔
        AndsFirst (writtenConnectives
          (parts DeleteDraft ⟨"Person", Sample.person⟩ restricted))) :=
  ⟨rfl, restricted_tests,
    conditions_mean_iff ⟨"Person", Sample.person⟩ restricted rfl restricted_tests⟩

/-- The first person is removed though the last condition does not hold of it. -/
theorem restricted_removes_more :
    (draft (run DeleteDraft ⟨"Person", Sample.person⟩ restricted)).fault = none ∧
      (∀ step ∈ restricted, ∀ shared, shared? DeleteDraft step = some shared → shared.Tests) ∧
      textTruth (.cons .yes fun _ => .no)
        (draft (run DeleteDraft ⟨"Person", Sample.person⟩ restricted)).filter.text = .yes ∧
      stepsTruth (.cons .yes fun _ => .no)
        (parts DeleteDraft ⟨"Person", Sample.person⟩ restricted) = .no :=
  ⟨rfl, restricted_tests, rfl, rfl⟩

end FilteredDraft

end MappedSql
