import MappedSql.Proofs.DraftRuns
import MappedSql.Proofs.Predicates

/-!
What stands after WHERE. The text of the conditions of a draft, cut at its connectives, gives back
the conditions that the steps gave, in their order and with their connectives.
-/

namespace MappedSql

open Cutting Lexer

namespace Filter

/-- The conditions as they are written: the connective of the first one is left out. -/
def written : List (Connective × String) → Option (String × List (Connective × String))
  | [] => none
  | (_, first) :: rest => some (first, rest)

theorem append_present (text : String) (part : Connective × String) (present : text ≠ "") :
    append text part = text ++ part.1.text ++ part.2 := by
  have full : text.isEmpty = false := by simpa using present
  rw [append, full, if_neg Bool.false_ne_true]

theorem append_all (text : String) (parts : List (Connective × String)) (present : text ≠ "") :
    (parts.foldl append text).toList =
      text.toList ++ joined (parts.map fun part => (part.1, part.2.toList)) := by
  induction parts generalizing text with
  | nil => simp [joined]
  | cons part rest ih =>
      have longer : text ++ part.1.text ++ part.2 ≠ "" := by
        simp [present]
      rw [List.foldl_cons, append_present text part present, ih _ longer]
      simp only [String.toList_append, List.append_assoc, List.map_cons, joined]

theorem text_characters (first : Connective × String) (rest : List (Connective × String))
    (present : first.2 ≠ "") : (Filter.text ⟨first :: rest⟩).toList =
      first.2.toList ++ joined (rest.map fun part => (part.1, part.2.toList)) := by
  have begun : append "" first = first.2 := rfl
  rw [text, List.foldl_cons, begun, append_all first.2 rest present]

theorem text_present (first : Connective × String) (rest : List (Connective × String))
    (present : first.2 ≠ "") : Filter.text ⟨first :: rest⟩ ≠ "" := by
  intro empty
  have characters := text_characters first rest present
  rw [empty, String.toList_empty] at characters
  exact present (String.toList_eq_nil_iff.mp (List.append_eq_nil_iff.mp characters.symm).1)

-- A text of pieces is cut into just these pieces.
theorem text_pieces (filter : Filter) (each : ∀ part ∈ filter.parts, Piece part.2) :
    pieces filter.text = written filter.parts := by
  obtain ⟨parts⟩ := filter
  cases parts with
  | nil => rfl
  | cons first rest =>
      have piece := each first List.mem_cons_self
      have others (part : Connective × List Char)
          (member : part ∈ rest.map fun part => (part.1, part.2.toList)) : Whole part.2 := by
        obtain ⟨part, inRest, rfl⟩ := List.mem_map.mp member
        exact (each part (List.mem_cons_of_mem first inRest)).whole
      have full : (Filter.text ⟨first :: rest⟩).isEmpty = false := by
        simpa using text_present first rest piece.present
      rw [pieces, full, text_characters first rest piece.present, cut_joined _ _ piece.whole others]
      simp [written, Function.comp_def]

end Filter

namespace Draft

/-- What has to hold of a step for its condition to be one piece: the body of a lambda is a test,
and a stated condition closes its brackets. -/
def Step.Tests : Step → Prop
  | .filter condition _ => condition.body.isTest = true
  | .state condition _ => Closed condition.text
  | _ => True

def Step.QueryFree : Step → Prop
  | .filter condition _ => condition.body.isTest = true
  | .state condition _ => condition.Stated
  | _ => True

theorem Step.tests_of_query_free (step : Step) (free : step.QueryFree) : step.Tests := by
  cases step with
  | state condition connective => exact condition.stated_closed free
  | _ => exact free

theorem part_piece (draft : Draft) (reached : draft.aliases.Reached) (step : Step)
    (tests : step.Tests) (part : Connective × String) (given : draft.part? step = some part) :
    Piece part.2 := by
  cases step with
  | filter condition connective =>
      simp only [part?] at given
      cases compiled : (draft.compile condition false).2 with
      | error fault => simp [compiled] at given
      | ok text =>
          simp only [compiled, Option.some.injEq] at given
          subst given
          have entered := enter_all_reached draft.aliases condition.parameters reached
          exact condition.body.test_piece _ entered false text tests
            (draft.compile_ok condition false text compiled)
  | state condition connective =>
      cases given
      exact piece_of_bracketed _ (bracketed_of_closed _ tests)
  | _ => cases given

end Draft

namespace FilteredDraft

variable {δ σ : Type} [FilteredDraft δ σ]

theorem parts_pieces (state : δ) (steps : List σ) (reached : (draft state).aliases.Reached)
    (tests : ∀ step ∈ steps, ∀ shared, shared? δ step = some shared → shared.Tests) :
    ∀ part ∈ partsFrom state steps, Piece part.2 :=
  parts_all state steps (Piece ·.2) reached fun before known step member shared kind part given =>
    before.part_piece known shared (tests step member shared kind) part given

def run (δ : Type) {σ : Type} [FilteredDraft δ σ] (target : EntityType) (steps : List σ) : δ :=
  steps.foldl apply (start target)

def parts (δ : Type) {σ : Type} [FilteredDraft δ σ] (target : EntityType) (steps : List σ) :
    List (Connective × String) :=
  partsFrom (start target : δ) steps

theorem run_filter (target : EntityType) (steps : List σ)
    (succeeded : (draft (run δ target steps)).fault = none) :
    (draft (run δ target steps)).filter.parts = parts δ target steps := by
  have all := run_parts (start target : δ) steps succeeded
  rwa [starts, Draft.start_empty, List.nil_append] at all

theorem run_pieces (target : EntityType) (steps : List σ)
    (succeeded : (draft (run δ target steps)).fault = none)
    (tests : ∀ step ∈ steps, ∀ shared, shared? δ step = some shared → shared.Tests) :
    pieces (draft (run δ target steps)).filter.text = Filter.written (parts δ target steps) := by
  have reached : (draft (start target : δ)).aliases.Reached := by
    rw [starts]
    exact Draft.start_reached target
  have same := run_filter target steps succeeded
  have each := parts_pieces (start target : δ) steps reached tests
  rw [Filter.text_pieces _ (by rw [same]; exact each), same]

/-- No condition leaks into another: in a successful run whose lambda bodies are tests and whose
stated conditions have no raw query, cutting the conditions at the connectives outside of brackets,
quotes and names gives back what the steps gave. -/
theorem conditions_cut (target : EntityType) (steps : List σ)
    (succeeded : (draft (run δ target steps)).fault = none)
    (free : ∀ step ∈ steps, ∀ shared, shared? δ step = some shared → shared.QueryFree) :
    pieces (draft (run δ target steps)).filter.text = Filter.written (parts δ target steps) :=
  run_pieces target steps succeeded fun step member shared kind =>
    shared.tests_of_query_free (free step member shared kind)

def misleading : Comparison :=
  .mk .like (some (.field "Sp ace")) (some (.constant (.text "' OR (")))

def misleadingSteps : List DeleteDraft.Step :=
  [.shared (.filter ⟨[⟨"Multi", Sample.multi⟩],
      .binary .equal (.column "Multi" "body") (.constant (.text "a AND b"))⟩ .and),
    .shared (.state ⟨"([Sp ace] LIKE ''' OR (')"⟩ .or),
    .allowAll true,
    .shared (.filter ⟨[⟨"Multi", Sample.multi⟩],
      .unary .not (.contains (.constant (.list [.text ")", .text " OR "])) (.column "Multi" "k2"))⟩
      .and)]

theorem misleading_steps_free (step : DeleteDraft.Step) (member : step ∈ misleadingSteps)
    (shared : Draft.Step) (kind : shared? DeleteDraft step = some shared) : shared.QueryFree := by
  have stated : Condition.Stated ⟨"([Sp ace] LIKE ''' OR (')"⟩ :=
    .start (show misleading.queryFree = true from rfl) rfl
  simp only [misleadingSteps, List.mem_cons, List.not_mem_nil, or_false] at member
  rcases member with rfl | rfl | rfl | rfl
  · cases kind
    exact rfl
  · cases kind
    exact stated
  · cases kind
  · cases kind
    exact rfl

theorem misleading_conditions_cut :
    (draft (run DeleteDraft ⟨"Multi", Sample.multi⟩ misleadingSteps)).fault = none ∧
      (∀ step ∈ misleadingSteps, ∀ shared,
        shared? DeleteDraft step = some shared → shared.QueryFree) ∧
      pieces (draft (run DeleteDraft ⟨"Multi", Sample.multi⟩ misleadingSteps)).filter.text =
        Filter.written (parts DeleteDraft ⟨"Multi", Sample.multi⟩ misleadingSteps) :=
  ⟨rfl, misleading_steps_free,
    conditions_cut ⟨"Multi", Sample.multi⟩ misleadingSteps rfl misleading_steps_free⟩

end FilteredDraft

end MappedSql
