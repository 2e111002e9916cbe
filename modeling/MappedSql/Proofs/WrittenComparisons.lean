import MappedSql.Proofs.BlankTexts

/-!
Comparisons as they are written. A comparison has a text just when everything below it can be
written and every operator has the operands that it takes, and the text is one group: its first
bracket is closed by its last character. So a chain of comparisons, cut at its connectives, gives
back the group that it was started or last grouped as, and the comparisons that were added since.
-/

namespace MappedSql

open Lexer Cutting Outcome

def Operand.Present (side : Option Operand) : Prop :=
  ∃ operand text, side = some operand ∧ operand.render = .ok text ∧ Text.isBlank text = false

def ComparisonOperator.Takes (op : ComparisonOperator) (left right : Prop) : Prop :=
  match op with
  | .isNull | .isNotNull => (left ∧ ¬right) ∨ (right ∧ ¬left)
  | _ => left ∧ right

mutual

def Operand.Complete : Operand → Prop
  | .constant value => ∃ text, value.render .plain = .ok text
  | .field name => Identifier.check name = .ok ()
  | .comparison inner => inner.Complete
  | .query _ => True
  | .values items => ∀ item ∈ items, ∃ text, item.render .plain = .ok text

def Comparison.Complete : Comparison → Prop
  | .mk op left right =>
      Operand.SideComplete left ∧ Operand.SideComplete right ∧
        op.Takes (Operand.Present left) (Operand.Present right)

def Operand.SideComplete : Option Operand → Prop
  | some operand => operand.Complete
  | none => True

end

theorem Operand.side_present_iff (side : Option Operand) (text : Option String)
    (rendered : renderSide side = .ok text) : Present side ↔ text.isSome = true := by
  cases side with
  | none =>
      rw [renderSide] at rendered
      cases rendered
      simp [Present]
  | some operand =>
      rw [renderSide] at rendered
      obtain ⟨written, made, same⟩ := bind_ok_iff.mp rendered
      rw [pure_ok_iff] at same
      subst same
      simp [Present, made, Comparison.present]

theorem Comparison.join_ok_iff (op : ComparisonOperator) (left right : Option String) :
    (∃ text, join op left right = .ok text) ↔
      op.Takes (left.isSome = true) (right.isSome = true) := by
  cases left <;> cases right <;> cases op <;> simp [join, ComparisonOperator.Takes]

theorem Comparison.render_ok_iff (comparison : Comparison) :
    (∃ text, comparison.render = .ok text) ↔ comparison.Complete := by
  refine Comparison.render.induct
    (fun operand => (∃ text, operand.render = .ok text) ↔ operand.Complete)
    (fun comparison => (∃ text, comparison.render = .ok text) ↔ comparison.Complete)
    (fun side => (∃ text, Operand.renderSide side = .ok text) ↔ Operand.SideComplete side)
    ?constant ?field ?comparison ?query ?values ?join ?absent ?present comparison
  case constant =>
    intro value
    rw [Operand.Complete, Operand.render]
  case field =>
    intro name
    rw [Operand.Complete, Operand.render, Identifier.quote]
    cases Identifier.check name <;> simp [bind, Except.bind, pure, Except.pure]
  case comparison =>
    intro inner ih
    rw [Operand.Complete, ← ih, Operand.render]
    simp [bind_ok_iff, pure, Except.pure]
  case query =>
    intro text
    simp [Operand.Complete, Operand.render]
  case values =>
    intro items
    rw [Operand.Complete, ← mapM_succeeds_iff, Operand.render]
    simp [bind_ok_iff, pure, Except.pure]
  case join =>
    intro op left right ihLeft ihRight
    rw [Comparison.Complete, ← ihLeft, ← ihRight, Comparison.render]
    constructor
    · rintro ⟨text, rendered⟩
      obtain ⟨leftText, renderedLeft, more⟩ := bind_ok_iff.mp rendered
      obtain ⟨rightText, renderedRight, joined⟩ := bind_ok_iff.mp more
      refine ⟨⟨leftText, renderedLeft⟩, ⟨rightText, renderedRight⟩, ?_⟩
      rw [Operand.side_present_iff left leftText renderedLeft,
        Operand.side_present_iff right rightText renderedRight, ← join_ok_iff]
      exact ⟨text, joined⟩
    · rintro ⟨⟨leftText, renderedLeft⟩, ⟨rightText, renderedRight⟩, takes⟩
      rw [Operand.side_present_iff left leftText renderedLeft,
        Operand.side_present_iff right rightText renderedRight, ← join_ok_iff] at takes
      obtain ⟨text, joined⟩ := takes
      exact ⟨text, bind_ok_iff.mpr ⟨leftText, renderedLeft,
        bind_ok_iff.mpr ⟨rightText, renderedRight, joined⟩⟩⟩
  case absent => simp [Operand.SideComplete, Operand.renderSide]
  case present =>
    intro operand ih
    rw [Operand.SideComplete, ← ih, Operand.renderSide]
    simp [bind_ok_iff, pure, Except.pure]

/-! A group is told by its brackets: the first one stays open up to the last character. What stands
inside closes what it opens itself, so it cannot close the bracket around it. -/

namespace Cutting

-- Where the words open a bracket more at the start, they leave one more open.
theorem depth_raised (depth after : Nat) (lexemes : List Lexeme)
    (level : depthAfter depth lexemes = some after) :
    depthAfter (depth + 1) lexemes = some (after + 1) := by
  induction lexemes generalizing depth with
  | nil =>
      cases level
      rfl
  | cons lexeme rest ih =>
      simp only [depthAfter] at level ⊢
      split_ifs at level ⊢ with opens closes
      · exact ih (depth + 1) level
      · cases depth with
        | zero => cases level
        | succ outer => exact ih outer level
      · exact ih depth level

-- A text that closes what it opens never closes the bracket that it stands in.
theorem inside_bracket (before after : List Char) (lexemes : List Lexeme)
    (read : tokenize (before ++ after) = some lexemes) (level : depthAfter 0 lexemes = some 0) :
    0 < (through ⟨1, .code⟩ before).depth := by
  obtain ⟨taken, ran, ends⟩ := Option.bind_eq_some_iff.mp read
  obtain ⟨last, _, same⟩ := Option.map_eq_some_iff.mp ends
  rw [run_append] at ran
  obtain ⟨first, ranFirst, more⟩ := Option.bind_eq_some_iff.mp ran
  obtain ⟨later, _, rfl⟩ := Option.map_eq_some_iff.mp more
  rw [← same, List.append_assoc, depth_append] at level
  obtain ⟨depth, levelFirst, _⟩ := Option.bind_eq_some_iff.mp level
  have passed := through_follows .nothing before 1 (depth + 1) first trivial ranFirst
    (depth_raised 0 depth first.1 levelFirst)
  rw [show Place.mk 1 .code = ⟨1, regionOf .nothing⟩ from rfl, passed]
  exact Nat.succ_pos depth

end Cutting

/-- A text that begins with a bracket and ends with the one that closes it: in between the bracket
is open everywhere, and after the last character every bracket, quote and name is closed. -/
structure Group (text : String) : Prop where
  opens : text.toList.head? = some '('
  closes : text.toList.getLast? = some ')'
  inside : ∀ before after, text.toList = before ++ after → before ≠ [] → after ≠ [] →
    0 < (through outside before).depth
  ends : through outside text.toList = outside

theorem group_of_closed (inner : String) (closed : Closed inner) :
    Group ("(" ++ inner ++ ")") := by
  obtain ⟨lexemes, read, contained⟩ := closed
  have characters : ("(" ++ inner ++ ")").toList = ('(' :: inner.toList) ++ [')'] := by
    simp [String.toList_append]
  refine ⟨by rw [characters]; rfl, by rw [characters, List.getLast?_concat], ?_, ?_⟩
  · intro before after split front more
    obtain ⟨others, last, rfl⟩ := (List.eq_nil_or_concat after).resolve_left more
    rw [characters, List.concat_eq_append, ← List.append_assoc] at split
    obtain ⟨same, _⟩ := List.append_inj' split rfl
    cases before with
    | nil => contradiction
    | cons first middle =>
        rw [List.cons_append] at same
        obtain ⟨rfl, rest⟩ := List.cons.inj same
        exact inside_bracket middle others lexemes (rest ▸ read) (contained.level 0)
  · obtain ⟨whole, readWhole, containedWhole⟩ :=
      closed_of_bracketed _ (bracketed_of_closed inner ⟨lexemes, read, contained⟩)
    exact through_read _ whole 0 0 readWhole (containedWhole.level 0)

-- What stands in one pair of brackets is closed itself.
theorem closed_inside (inner : String) (bracketed : Bracketed ("(" ++ inner ++ ")")) :
    Closed inner := by
  obtain ⟨lexemes, read, contained⟩ := bracketed
  have characters : ("(" ++ inner ++ ")").toList = ['('] ++ (inner.toList ++ [')']) := by
    simp [String.toList_append]
  have opened : run .nothing ['('] = some ([opening], .nothing) := rfl
  rw [characters, tokenize, tokens_from_append, opened, Option.bind_some, tokens_from_append] at read
  obtain ⟨_, inside, same⟩ := Option.map_eq_some_iff.mp read
  obtain ⟨taken, ran, ends⟩ := Option.bind_eq_some_iff.mp inside
  obtain ⟨_, behind, rfl⟩ := Option.map_eq_some_iff.mp ends
  obtain ⟨last, ended⟩ : ∃ last, finish taken.2 = some last := by
    -- An open text or name would take in the bracket at the end, and never be closed.
    cases pending : taken.2 with
    | text content => simp [pending, tokens_from_cons, tokens_from_nil, step, finish] at behind
    | name content => simp [pending, tokens_from_cons, tokens_from_nil, step, finish] at behind
    | _ => exact ⟨_, rfl⟩
  have closes : tokenize [')'] = some [closing] := rfl
  rw [tokens_from_boundary taken.2 last [')'] ended (at_closing []), closes, Option.map_some] at behind
  have whole : taken.1 ++ last = lexemes := by
    cases behind
    simpa [← List.append_assoc] using same
  refine ⟨lexemes, ?_, contained⟩
  rw [tokenize, tokensFrom, ran, Option.bind_some, ended, Option.map_some, whole]

theorem Comparison.join_enclosed (op : ComparisonOperator) (left right : Option String)
    (text : String) (joined : join op left right = .ok text) :
    ∃ inner, text = "(" ++ inner ++ ")" := by
  have closes : "))" = ")" ++ ")" := rfl
  rcases join_cases op left right text joined with
    ⟨side, _, rfl⟩ | ⟨first, second, _, _, rfl | rfl⟩
  · exact ⟨side ++ " " ++ op.text, by simp only [String.append_assoc]⟩
  · exact ⟨first ++ " " ++ op.text ++ " " ++ second, by simp only [String.append_assoc]⟩
  · exact ⟨first ++ " " ++ op.text ++ " (" ++ second ++ ")", by
      simp only [closes, String.append_assoc]⟩

theorem Comparison.render_group (comparison : Comparison) (text : String)
    (free : comparison.queryFree = true) (rendered : comparison.render = .ok text) :
    Group text := by
  have bracketed := comparison.render_bracketed text free rendered
  obtain ⟨op, left, right⟩ := comparison
  rw [render] at rendered
  obtain ⟨leftText, _, more⟩ := bind_ok_iff.mp rendered
  obtain ⟨rightText, _, joined⟩ := bind_ok_iff.mp more
  obtain ⟨inner, rfl⟩ := join_enclosed op leftText rightText text joined
  exact group_of_closed inner (closed_inside inner bracketed)

theorem Value.rendered_present (value : Value) (text : String)
    (rendered : value.render .plain = .ok text) : Text.isBlank text = false := by
  obtain ⟨leaf, read⟩ := value.rendered_closed text rendered
  rw [← Bool.not_eq_true]
  intro blank
  exact Fragment.leaf_tokens_present leaf (blank_tokens text blank _ read)

theorem Identifier.bracketed_present (name : String) :
    Text.isBlank (bracketed name) = false := by
  have opens : Text.isBlankChar '[' = false := by decide
  simp [Text.isBlank, bracketed, opens]

theorem Text.list_present (first : String) (rest : List String) (present : isBlank first = false) :
    isBlank (",".intercalate (first :: rest)) = false := by
  cases rest with
  | nil => simpa using present
  | cons next more =>
      rw [String.intercalate_cons_cons, blank_append, blank_append, present]
      rfl

theorem Operand.present_of_text (operand : Operand) (text : String)
    (rendered : operand.render = .ok text) :
    Present (some operand) ↔ Text.isBlank text = false := by
  simp [Present, rendered]

-- Without raw queries, only a list of no values is written as nothing.
theorem Operand.present_iff (operand : Operand) (free : operand.queryFree = true)
    (complete : operand.Complete) : Present (some operand) ↔ operand ≠ .values [] := by
  have given (text : String) (rendered : operand.render = .ok text)
      (present : Text.isBlank text = false) (other : operand ≠ .values []) :
      Present (some operand) ↔ operand ≠ .values [] := by
    rw [present_of_text operand text rendered]
    exact iff_of_true present other
  cases operand with
  | query text => cases free
  | constant value =>
      obtain ⟨text, rendered⟩ := complete
      exact given text (by rw [render, rendered]) (value.rendered_present text rendered) (by simp)
  | field name =>
      refine given (Identifier.bracketed name) ?_ (Identifier.bracketed_present name) (by simp)
      rw [render, Identifier.quote, show Identifier.check name = .ok () from complete]
      rfl
  | comparison inner =>
      obtain ⟨text, rendered⟩ := inner.render_ok_iff.mpr complete
      refine given ("(" ++ text ++ ")") ?_ (Text.bracketed_present text) (by simp)
      rw [render, rendered]
      rfl
  | values items =>
      obtain ⟨texts, rendered⟩ := mapM_succeeds_iff.mpr complete
      have written : (values items).render = .ok (",".intercalate texts) := by
        rw [render, rendered]
        rfl
      cases items with
      | nil =>
          cases rendered
          rw [present_of_text _ _ written]
          simp [Text.isBlank]
      | cons first rest =>
          cases mapM_ok rendered with
          | cons head _ =>
              exact given _ written (Text.list_present _ _ (first.rendered_present _ head)) (by simp)

namespace Condition

def run (first : Comparison) (steps : List Step) : Except Fault Condition := do
  steps.foldlM apply (← start first)

def Step.queryFree : Step → Bool
  | .add _ next => next.queryFree
  | .group => true

/-- What stands before the comparisons that were added last: the first comparison, or everything
before it as the last grouping has put it in brackets. -/
inductive Head (first : Comparison) : List Step → String → Prop where
  | first {text : String} : first.render = .ok text → Head first [] text
  | group {before : List Step} {condition : Condition} :
      run first before = .ok condition → Head first (before ++ [.group]) ("(" ++ condition.text ++ ")")

def Written (added : List (Connective × Comparison)) (parts : List (Connective × String)) : Prop :=
  List.Forall₂ (fun entry part => part.1 = entry.1 ∧ entry.2.render = .ok part.2) added parts

def additions (added : List (Connective × Comparison)) : List Step :=
  added.map fun entry => .add entry.1 entry.2

theorem run_append (first : Comparison) (steps : List Step) (step : Step) :
    run first (steps ++ [step]) = run first steps >>= (·.apply step) := by
  simp only [run, List.foldlM_append, bind_assoc, List.foldlM_cons, List.foldlM_nil, bind_pure]

theorem run_chain (first : Comparison) (steps : List Step) (condition : Condition)
    (ran : run first steps = .ok condition) :
    ∃ front added head parts, steps = front ++ additions added ∧ Head first front head ∧
      Written added parts ∧ (head ≠ "" → condition.text = Filter.text ⟨(.and, head) :: parts⟩) := by
  induction steps using List.reverseRecOn generalizing condition with
  | nil =>
      obtain ⟨started, begun, same⟩ := bind_ok_iff.mp ran
      obtain ⟨text, rendered, made⟩ := bind_ok_iff.mp begun
      rw [pure_ok_iff] at made
      cases same
      exact ⟨[], [], text, [], rfl, .first rendered, .nil, fun _ => made ▸ rfl⟩
  | append_singleton steps step ih =>
      rw [run_append] at ran
      obtain ⟨before, ranBefore, applied⟩ := bind_ok_iff.mp ran
      cases step with
      | group =>
          cases applied
          exact ⟨steps ++ [.group], [], _, [], (List.append_nil _).symm, .group ranBefore, .nil,
            fun _ => rfl⟩
      | add connective next =>
          obtain ⟨text, rendered, made⟩ := bind_ok_iff.mp applied
          rw [pure_ok_iff] at made
          subst made
          obtain ⟨front, added, head, parts, rfl, heads, written, joined⟩ := ih before ranBefore
          refine ⟨front, added ++ [(connective, next)], head, parts ++ [(connective, text)], ?_, heads,
            List.rel_append written (.cons ⟨rfl, rendered⟩ .nil), ?_⟩
          · simp [additions]
          · intro present
            have longer := Filter.text_present (.and, head) parts present
            have grown : Filter.text ⟨(.and, head) :: (parts ++ [(connective, text)])⟩ =
                Filter.append (Filter.text ⟨(.and, head) :: parts⟩) (connective, text) :=
              List.foldl_append
            rw [grown, Filter.append_present _ _ longer, joined present]

theorem run_stated (first : Comparison) (steps : List Step) (condition : Condition)
    (free : first.queryFree = true) (freeSteps : ∀ step ∈ steps, step.queryFree = true)
    (ran : run first steps = .ok condition) : condition.Stated := by
  induction steps using List.reverseRecOn generalizing condition with
  | nil =>
      obtain ⟨started, begun, same⟩ := bind_ok_iff.mp ran
      cases same
      exact .start free begun
  | append_singleton steps step ih =>
      rw [run_append] at ran
      obtain ⟨before, ranBefore, applied⟩ := bind_ok_iff.mp ran
      rw [List.forall_mem_append, List.forall_mem_singleton] at freeSteps
      have stated := ih before freeSteps.1 ranBefore
      cases step with
      | group =>
          cases applied
          exact .group stated
      | add connective next => exact .add stated freeSteps.2 applied

theorem head_bracketed (first : Comparison) (front : List Step) (head : String)
    (free : first.queryFree = true) (freeFront : ∀ step ∈ front, step.queryFree = true)
    (heads : Head first front head) : Bracketed head := by
  cases heads with
  | first rendered => exact first.render_bracketed head free rendered
  | @group before condition ran =>
      rw [List.forall_mem_append] at freeFront
      have stated := run_stated first before condition free freeFront.1 ran
      exact bracketed_of_closed _ (stated_closed condition stated)

theorem written_bracketed (added : List (Connective × Comparison))
    (parts : List (Connective × String)) (free : ∀ step ∈ additions added, step.queryFree = true)
    (written : Written added parts) : ∀ part ∈ parts, Bracketed part.2 := by
  intro part member
  obtain ⟨entry, inside, _, rendered⟩ := forall₂_member written member
  have freeEntry := free (.add entry.1 entry.2) (List.mem_map_of_mem inside)
  exact entry.2.render_bracketed part.2 freeEntry rendered

theorem run_cut (first : Comparison) (steps : List Step) (condition : Condition)
    (free : first.queryFree = true) (freeSteps : ∀ step ∈ steps, step.queryFree = true)
    (ran : run first steps = .ok condition) :
    ∃ front added head parts, steps = front ++ additions added ∧ Head first front head ∧
      Written added parts ∧ pieces condition.text = some (head, parts) := by
  obtain ⟨front, added, head, parts, rfl, heads, written, joined⟩ :=
    run_chain first steps condition ran
  rw [List.forall_mem_append] at freeSteps
  have headPiece := piece_of_bracketed head (head_bracketed first front head free freeSteps.1 heads)
  refine ⟨front, added, head, parts, rfl, heads, written, ?_⟩
  rw [joined headPiece.present, Filter.text_pieces]
  · rfl
  · rw [List.forall_mem_cons]
    refine ⟨headPiece, fun part member => piece_of_bracketed part.2 ?_⟩
    exact written_bracketed added parts freeSteps.2 written part member

end Condition

/-- A comparison without raw queries has a text just when it is complete, where an operand counts as
there unless it is a list of no values; and the text is one group, with everything in it closed. A
chain of such comparisons is closed, and cut at its connectives outside of brackets it gives back
what it was last grouped as, or its first comparison, and the comparisons that were added since. -/
theorem comparisons_grouped (comparison : Comparison) (free : comparison.queryFree = true) :
    ((∃ text, comparison.render = .ok text) ↔ comparison.Complete) ∧
    (∀ text, comparison.render = .ok text → Group text ∧ Closed text) ∧
    (∀ operand : Operand, operand.queryFree = true → operand.Complete →
      (Operand.Present (some operand) ↔ operand ≠ .values [])) ∧
    ∀ (steps : List Condition.Step) (condition : Condition),
      (∀ step ∈ steps, step.queryFree = true) →
      Condition.run comparison steps = .ok condition →
      Closed condition.text ∧
      ∃ front added head parts, steps = front ++ Condition.additions added ∧
        Condition.Head comparison front head ∧ Condition.Written added parts ∧
        pieces condition.text = some (head, parts) := by
  refine ⟨comparison.render_ok_iff, ?_, ?_, ?_⟩
  · intro text rendered
    exact ⟨comparison.render_group text free rendered,
      closed_of_bracketed text (comparison.render_bracketed text free rendered)⟩
  · intro operand freeOperand complete
    exact operand.present_iff freeOperand complete
  · intro steps condition freeSteps ran
    have stated := Condition.run_stated comparison steps condition free freeSteps ran
    exact ⟨condition.stated_closed stated,
      Condition.run_cut comparison steps condition free freeSteps ran⟩

def nestedComparison : Comparison :=
  .mk .isNull none (some (.comparison (.mk .isIn
    (some (.comparison (.mk .like (some (.field "a) OR [b")) (some (.constant (.text "' AND ("))))))
    (some (.values [.text ")", .integer .int32 (-1)])))))

def nestedSteps : List Condition.Step :=
  [.add .or (.mk .equal (some (.field "x")) (some (.constant .null))), .group,
    .add .and (.mk .isNotNull (some (.field ") AND (")) (some (.values [])))]

theorem nested_comparisons_grouped :
    ∃ text condition,
      nestedComparison.queryFree = true ∧ nestedComparison.render = .ok text ∧
      nestedComparison.Complete ∧ Group text ∧
      (∀ step ∈ nestedSteps, step.queryFree = true) ∧
      Condition.run nestedComparison nestedSteps = .ok condition ∧ Closed condition.text ∧
      ∃ front added head parts, nestedSteps = front ++ Condition.additions added ∧
        Condition.Head nestedComparison front head ∧ Condition.Written added parts ∧
        pieces condition.text = some (head, parts) := by
  obtain ⟨complete, grouped, _, chains⟩ := comparisons_grouped nestedComparison rfl
  have free : ∀ step ∈ nestedSteps, step.queryFree = true := by decide
  refine ⟨_, _, rfl, rfl, complete.mp ⟨_, rfl⟩, (grouped _ rfl).1, free, rfl, ?_⟩
  exact chains nestedSteps _ free rfl

end MappedSql
