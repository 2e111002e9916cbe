import MappedSql.Condition
import MappedSql.Proofs.Cutting
import MappedSql.Proofs.FragmentTokens

/-!
Stated conditions as words. A comparison without raw queries is written as one pair of brackets
round what closes its own brackets, however deep comparisons stand in comparisons; a chain of
comparisons closes all its brackets.
-/

namespace MappedSql

open Lexer Outcome

mutual

def Operand.queryFree : Operand → Bool
  | .constant _ | .field _ | .values _ => true
  | .comparison inner => inner.queryFree
  | .query _ => false

def Comparison.queryFree : Comparison → Bool
  | .mk _ left right => Operand.sideQueryFree left && Operand.sideQueryFree right

def Operand.sideQueryFree : Option Operand → Bool
  | some operand => operand.queryFree
  | none => true

end

namespace ComparisonOperator

def tokens : ComparisonOperator → List Lexeme
  | like => [keyword "LIKE"]
  | notLike => [keyword "NOT", keyword "LIKE"]
  | isIn => [keyword "IN"]
  | isNotIn => [keyword "NOT", keyword "IN"]
  | isNull => [keyword "IS", keyword "NULL"]
  | isNotNull => [keyword "IS", keyword "NOT", keyword "NULL"]
  | op => [.sign op.text.toList]

theorem tokens_contained (op : ComparisonOperator) : Contained op.tokens := by
  cases op <;> exact ⟨fun _ => rfl, by decide⟩

-- Each operator has blanks or a bracket on both sides.
theorem between_closed (op : ComparisonOperator) :
    run .nothing (" ".toList ++ (op.text.toList ++ " ".toList)) = some (op.tokens, .nothing) := by
  cases op <;> rfl

theorem before_list_closed (op : ComparisonOperator) :
    run .nothing (" ".toList ++ (op.text.toList ++ " (".toList)) =
      some (op.tokens ++ [opening], .nothing) := by
  cases op <;> rfl

theorem at_end_read (op : ComparisonOperator) :
    tokenize (" ".toList ++ (op.text.toList ++ ")".toList)) = some (op.tokens ++ [closing]) := by
  cases op <;> rfl

end ComparisonOperator

def Closed (text : String) : Prop :=
  ∃ lexemes, tokenize text.toList = some lexemes ∧ Contained lexemes

def Bracketed (text : String) : Prop :=
  ∃ lexemes, tokenize text.toList = some (opening :: (lexemes ++ [closing])) ∧ Contained lexemes

theorem closed_of_bracketed (text : String) (bracketed : Bracketed text) : Closed text := by
  obtain ⟨lexemes, read, contained⟩ := bracketed
  exact ⟨_, read, contained_brackets lexemes [] contained contained_nil⟩

theorem bracketed_of_closed (text : String) (closed : Closed text) :
    Bracketed ("(" ++ text ++ ")") := by
  obtain ⟨lexemes, read, contained⟩ := closed
  refine ⟨lexemes, ?_, contained⟩
  simp only [String.toList_append, List.append_assoc]
  exact tokenize_closed "(".toList _ [opening] _ rfl (tokenize_append _ _ _ _ read (at_closing _) rfl)

theorem Value.rendered_closed (value : Value) (text : String)
    (rendered : value.render .plain = .ok text) :
    ∃ leaf : Leaf, tokenize text.toList = some leaf.tokens := by
  obtain ⟨literal, written, rfl⟩ := map_ok_iff.mp rendered
  exact ⟨literal.leaf, literal.tokenize_render (literal_sound .plain value literal rfl written)⟩

theorem Identifier.quoted_closed (name text : String) (quoted : quote name = .ok text) :
    Closed text := by
  obtain ⟨_, _, same⟩ := bind_ok_iff.mp quoted
  rw [pure_ok_iff] at same
  subst same
  refine ⟨[.name name.toList], ?_, ?_⟩
  · simp only [bracketed, String.toList_ofList]
    exact tokenize_bracketed name.toList
  · exact contained_value _ _ rfl contained_nil

theorem values_closed (items : List Value) (texts : List String)
    (rendered : items.mapM (Value.render .plain) = .ok texts) :
    Closed (",".intercalate texts) := by
  have each := mapM_ok rendered
  obtain ⟨leaves, read⟩ : ∃ leaves : List Leaf, List.Forall₂
      (fun text lexemes => tokenize text = some lexemes) (texts.map String.toList)
        (leaves.map Leaf.tokens) := by
    clear rendered
    induction each with
    | nil => exact ⟨[], .nil⟩
    | @cons item text _ _ first _ ih =>
        obtain ⟨leaf, readFirst⟩ := Value.rendered_closed item text first
        obtain ⟨leaves, readRest⟩ := ih
        exact ⟨leaf :: leaves, .cons readFirst readRest⟩
  refine ⟨separated [.sign [',']] (leaves.map Leaf.tokens), ?_, ?_⟩
  · rw [commas_separated]
    exact tokenize_separated _ _ read
  · refine contained_separated _ fun part member => ?_
    obtain ⟨leaf, _, rfl⟩ := List.mem_map.mp member
    exact leaf.tokens_contained

namespace Comparison

theorem one_side_bracketed (op : ComparisonOperator) (side : String) (closed : Closed side) :
    Bracketed ("(" ++ side ++ " " ++ op.text ++ ")") := by
  obtain ⟨lexemes, read, contained⟩ := closed
  refine ⟨lexemes ++ op.tokens, ?_, contained_append _ _ contained op.tokens_contained⟩
  have boundary : AtBoundary (" ".toList ++ (op.text.toList ++ ")".toList)) := at_blank _
  have inner := tokenize_append side.toList _ lexemes _ read boundary op.at_end_read
  have whole := tokenize_closed "(".toList _ [opening] _ rfl inner
  simpa only [String.toList_append, List.append_assoc, List.cons_append, List.nil_append] using whole

theorem two_sides_bracketed (op : ComparisonOperator) (left right : String)
    (leftClosed : Closed left) (rightClosed : Closed right) :
    Bracketed ("(" ++ left ++ " " ++ op.text ++ " " ++ right ++ ")") := by
  obtain ⟨first, readFirst, containedFirst⟩ := leftClosed
  obtain ⟨second, readSecond, containedSecond⟩ := rightClosed
  refine ⟨first ++ (op.tokens ++ second), ?_, contained_append _ _ containedFirst
    (contained_append _ _ op.tokens_contained containedSecond)⟩
  have last := tokenize_append right.toList ")".toList second [closing] readSecond (at_closing _) rfl
  have inner := tokenize_operand left.toList _ _ first op.tokens _ readFirst (at_blank _)
    op.between_closed last
  have whole := tokenize_closed "(".toList _ [opening] _ rfl inner
  simpa only [String.toList_append, List.append_assoc, List.cons_append, List.nil_append] using whole

theorem list_bracketed (op : ComparisonOperator) (left right : String) (leftClosed : Closed left)
    (rightClosed : Closed right) :
    Bracketed ("(" ++ left ++ " " ++ op.text ++ " (" ++ right ++ "))") := by
  obtain ⟨first, readFirst, containedFirst⟩ := leftClosed
  obtain ⟨second, readSecond, containedSecond⟩ := rightClosed
  have list := contained_brackets second [] containedSecond contained_nil
  refine ⟨first ++ (op.tokens ++ opening :: (second ++ [closing])), ?_,
    contained_append _ _ containedFirst (contained_append _ _ op.tokens_contained list)⟩
  have last := tokenize_append right.toList "))".toList second [closing, closing] readSecond
    (at_closing _) rfl
  have inner := tokenize_operand left.toList _ _ first (op.tokens ++ [opening]) _ readFirst
    (at_blank _) op.before_list_closed last
  have whole := tokenize_closed "(".toList _ [opening] _ rfl inner
  simpa only [String.toList_append, List.append_assoc, List.cons_append, List.nil_append] using whole

-- A comparison has one side and its operator, or two sides with the operator between them.
theorem join_cases (op : ComparisonOperator) (left right : Option String) (text : String)
    (rendered : join op left right = .ok text) :
    (∃ side, (left = some side ∨ right = some side) ∧
        text = "(" ++ side ++ " " ++ op.text ++ ")") ∨
      ∃ first second, left = some first ∧ right = some second ∧
        (text = "(" ++ first ++ " " ++ op.text ++ " " ++ second ++ ")" ∨
          text = "(" ++ first ++ " " ++ op.text ++ " (" ++ second ++ "))") := by
  cases left with
  | none =>
      cases right with
      | none => cases op <;> simp [join] at rendered
      | some side =>
          cases op <;> simp only [join, reduceCtorEq, Except.ok.injEq] at rendered <;>
            exact .inl ⟨side, .inr rfl, rendered.symm⟩
  | some first =>
      cases right with
      | none =>
          cases op <;> simp only [join, reduceCtorEq, Except.ok.injEq] at rendered <;>
            exact .inl ⟨first, .inl rfl, rendered.symm⟩
      | some second =>
          cases op with
          | isNull | isNotNull => simp [join] at rendered
          | isIn | isNotIn =>
              simp only [join, Except.ok.injEq] at rendered
              exact .inr ⟨first, second, rfl, rfl, .inr rendered.symm⟩
          | _ =>
              simp only [join, Except.ok.injEq] at rendered
              exact .inr ⟨first, second, rfl, rfl, .inl rendered.symm⟩

-- Whatever the operator, a comparison is bracketed if its sides are closed.
theorem join_bracketed (op : ComparisonOperator) (left right : Option String) (text : String)
    (leftClosed : ∀ side, left = some side → Closed side)
    (rightClosed : ∀ side, right = some side → Closed side)
    (rendered : join op left right = .ok text) : Bracketed text := by
  rcases join_cases op left right text rendered with
    ⟨side, rfl | rfl, rfl⟩ | ⟨first, second, rfl, rfl, rfl | rfl⟩
  · exact one_side_bracketed op side (leftClosed side rfl)
  · exact one_side_bracketed op side (rightClosed side rfl)
  · exact two_sides_bracketed op first second (leftClosed first rfl) (rightClosed second rfl)
  · exact list_bracketed op first second (leftClosed first rfl) (rightClosed second rfl)

-- A comparison without raw queries is one pair of brackets.
theorem render_bracketed (comparison : Comparison) (text : String)
    (free : comparison.queryFree = true) (rendered : comparison.render = .ok text) :
    Bracketed text := by
  revert text free
  refine Comparison.render.induct
    (fun operand => ∀ text, operand.queryFree = true → operand.render = .ok text → Closed text)
    (fun comparison => ∀ text, comparison.queryFree = true → comparison.render = .ok text →
      Bracketed text)
    (fun side => ∀ text, Operand.sideQueryFree side = true →
      Operand.renderSide side = .ok (some text) → Closed text)
    ?constant ?field ?comparison ?query ?values ?join ?absent ?present comparison
  case constant =>
    intro value text _ rendered
    obtain ⟨leaf, read⟩ := value.rendered_closed text (by simpa [Operand.render] using rendered)
    exact ⟨leaf.tokens, read, leaf.tokens_contained⟩
  case field =>
    intro name text _ rendered
    exact Identifier.quoted_closed name text (by simpa [Operand.render] using rendered)
  case comparison =>
    intro inner ih text free rendered
    rw [Operand.render] at rendered
    obtain ⟨innerText, renderedInner, same⟩ := bind_ok_iff.mp rendered
    rw [pure_ok_iff] at same
    subst same
    have bracketed := ih innerText (by simpa [Operand.queryFree] using free) renderedInner
    exact closed_of_bracketed _ (bracketed_of_closed _ (closed_of_bracketed _ bracketed))
  case query =>
    intro raw text free
    simp [Operand.queryFree] at free
  case values =>
    intro items text _ rendered
    rw [Operand.render] at rendered
    obtain ⟨texts, each, same⟩ := bind_ok_iff.mp rendered
    rw [pure_ok_iff] at same
    subst same
    exact values_closed items texts each
  case join =>
    intro op left right ihLeft ihRight text free rendered
    rw [Comparison.render] at rendered
    obtain ⟨leftText, renderedLeft, more⟩ := bind_ok_iff.mp rendered
    obtain ⟨rightText, renderedRight, joined⟩ := bind_ok_iff.mp more
    simp only [Comparison.queryFree, Bool.and_eq_true] at free
    refine join_bracketed op leftText rightText text ?_ ?_ joined
    · rintro side rfl
      exact ihLeft side free.1 renderedLeft
    · rintro side rfl
      exact ihRight side free.2 renderedRight
  case absent =>
    intro text _ rendered
    rw [Operand.renderSide] at rendered
    cases rendered
  case present =>
    intro operand ih text free rendered
    rw [Operand.renderSide] at rendered
    obtain ⟨side, renderedSide, same⟩ := bind_ok_iff.mp rendered
    rw [pure_ok_iff, Comparison.present] at same
    split at same
    · cases same
    · rw [Option.some.inj same] at renderedSide
      exact ih text (by simpa [Operand.sideQueryFree] using free) renderedSide

end Comparison

namespace Condition

/-- What the steps of a chain make of comparisons without raw queries. -/
inductive Stated : Condition → Prop where
  | start {first : Comparison} {condition : Condition} :
      first.queryFree = true → Condition.start first = .ok condition → Stated condition
  | add {condition longer : Condition} {connective : Connective} {next : Comparison} :
      Stated condition → next.queryFree = true → condition.add connective next = .ok longer →
      Stated longer
  | group {condition : Condition} : Stated condition → Stated condition.group

theorem connective_read (connective : Connective) :
    run .nothing connective.text.toList = some ([.word connective.word], .nothing) := by
  cases connective <;> rfl

theorem connective_at_boundary (connective : Connective) (rest : List Char) :
    AtBoundary (connective.text.toList ++ rest) := by
  cases connective <;> exact at_blank _

theorem stated_closed (condition : Condition) (stated : condition.Stated) :
    Closed condition.text := by
  induction stated with
  | @start first condition free started =>
      obtain ⟨text, rendered, same⟩ := bind_ok_iff.mp started
      rw [pure_ok_iff] at same
      subst same
      exact closed_of_bracketed _ (first.render_bracketed text free rendered)
  | @add condition longer connective next _ free added ih =>
      obtain ⟨text, rendered, same⟩ := bind_ok_iff.mp added
      rw [pure_ok_iff] at same
      subst same
      obtain ⟨before, readBefore, containedBefore⟩ := ih
      obtain ⟨after, readAfter, containedAfter⟩ :=
        closed_of_bracketed _ (next.render_bracketed text free rendered)
      refine ⟨before ++ .word connective.word :: after, ?_,
        contained_append _ _ containedBefore (contained_word _ after containedAfter)⟩
      simp only [String.toList_append, List.append_assoc]
      exact tokenize_operand _ _ _ before [.word connective.word] after readBefore
        (connective_at_boundary connective _) (connective_read connective) readAfter
  | @group condition _ ih => exact closed_of_bracketed _ (bracketed_of_closed _ ih)

end Condition

end MappedSql
