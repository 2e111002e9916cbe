import MappedSql.Proofs.Places
import MappedSql.Proofs.LiteralTokens
import MappedSql.Proofs.Lowering

/-!
Fragments as tokens. Lowering makes sound fragments: their columns belong to numbered participants
and their literals are sound. The text of a sound fragment is read as the tokens of its tree, and
these close every bracket that they open and hold no mark of a comment and no end of a statement.
-/

namespace MappedSql

open Lexer Outcome

namespace Fragment

mutual

def Sound : Fragment → Prop
  | column aliasName _ => ∃ count, aliasName = Aliases.numbered count
  | literal value => value.Sound
  | operation _ left right => left.Sound ∧ right.Sound
  | isNull operand | isNotNull operand | negation operand | complement operand => operand.Sound
  | choice test whenTrue whenFalse => test.Sound ∧ whenTrue.Sound ∧ whenFalse.Sound
  | members items => SoundMembers items
  | membership element items => element.Sound ∧ ∀ item ∈ items, item.Sound
  | never => True

def SoundMembers : List (Option String × Fragment) → Prop
  | [] => True
  | (_, fragment) :: rest => fragment.Sound ∧ SoundMembers rest

end

theorem sound_members_iff (items : List (Option String × Fragment)) :
    SoundMembers items ↔ ∀ item ∈ items, item.2.Sound := by
  induction items with
  | nil => simp [SoundMembers]
  | cons item rest ih => simp [SoundMembers, ih]

theorem combine_sound (op : SqlOperator) (left right : Fragment) (first : left.Sound)
    (second : right.Sound) : (combine op left right).Sound := by
  unfold combine
  split
  · split
    · exact first
    · split
      · exact second
      · exact ⟨first, second⟩
  · split
    · exact first
    · split
      · exact second
      · exact ⟨first, second⟩
  · exact ⟨first, second⟩

end Fragment

namespace Expr

theorem collection_literals_sound (beside : Option Column) (collection : Expr)
    (literals : List Literal) (written : collectionLiterals beside collection = .ok literals) :
    ∀ literal ∈ literals, literal.Sound := by
  obtain ⟨value, _, items⟩ := bind_ok_iff.mp written
  split at items
  · intro literal member
    obtain ⟨item, _, literalOfItem⟩ := mapM_member items member
    exact item.literal_beside_sound beside literal literalOfItem
  · contradiction

theorem membership_test_sound (element : Fragment) (literals : List Literal)
    (first : element.Sound) (items : ∀ literal ∈ literals, literal.Sound) :
    (membershipTest element literals).Sound := by
  cases literals with
  | nil => trivial
  | cons literal rest => exact ⟨first, items⟩

-- Every fragment that lowering makes is sound, whatever the expression.
theorem lower_sound (scope : Scope) (reached : scope.aliases.Reached) (expr : Expr)
    (beside : Option Column) (fragment : Fragment) (lowers : Lowers scope expr beside fragment) :
    fragment.Sound := by
  induction lowers with
  | constant written => exact Value.literal_beside_sound _ _ _ written
  | column resolved => exact column_of_numbered scope.aliases reached _ _ resolved
  | captured _ _ written => exact Value.literal_beside_sound _ _ _ written
  | binary _ _ _ first second => exact Fragment.combine_sound _ _ _ first second
  | negate _ ih => exact ih
  | not _ ih => exact ih
  | convert _ ih => exact ih
  | conditional _ _ _ first second third => exact ⟨first, second, third⟩
  | @object members _ items names _ ih =>
      refine (Fragment.sound_members_iff items).mpr fun item member => ?_
      have lengths : members.length = items.length := by
        simpa using (congrArg List.length names).symm
      obtain ⟨index, bound, rfl⟩ := List.mem_iff_getElem.mp member
      have paired : (members[index], items[index]) ∈ members.zip items := by
        rw [← List.getElem_zip (i := index) (h := by simp [lengths, bound])]
        exact List.getElem_mem _
      exact ih _ paired
  | contains _ _ written first =>
      exact membership_test_sound _ _ first (collection_literals_sound _ _ _ written)

end Expr

def SqlOperator.token : SqlOperator → Lexeme
  | .and => keyword "AND"
  | .or => keyword "OR"
  | op => .sign op.text.toList

namespace Fragment

def nameTokens : Option String → List Lexeme
  | some name => [keyword "AS", .name name.toList]
  | none => []

mutual

def tokens : Fragment → List Lexeme
  | column aliasName name => [.word aliasName.toList, .sign ['.'], .name name.toList]
  | literal value => value.leaf.tokens
  | operation op left right =>
      opening :: (left.tokens ++ op.token :: (right.tokens ++ [closing]))
  | isNull operand => opening :: (operand.tokens ++ [keyword "IS", keyword "NULL", closing])
  | isNotNull operand =>
      opening :: (operand.tokens ++ [keyword "IS", keyword "NOT", keyword "NULL", closing])
  | negation operand =>
      opening :: .sign ['-'] :: opening :: (operand.tokens ++ [closing, closing])
  | complement operand => keyword "NOT" :: operand.tokens
  | choice test whenTrue whenFalse =>
      keyword "CASE" :: keyword "WHEN" :: opening :: (test.tokens ++
        closing :: keyword "THEN" :: (whenTrue.tokens ++
          keyword "ELSE" :: (whenFalse.tokens ++ [keyword "END"])))
  | members items => separated [.sign [',']] (memberTokens items)
  | membership element items =>
      element.tokens ++ keyword "IN" :: opening ::
        (separated [.sign [',']] (items.map fun item => item.leaf.tokens) ++ [closing])
  | never => [opening, .number ['1'], .sign ['='], .number ['0'], closing]

def memberTokens : List (Option String × Fragment) → List (List Lexeme)
  | [] => []
  | (name, fragment) :: rest => (fragment.tokens ++ nameTokens name) :: memberTokens rest

end

section Texts

variable (left right operand test whenTrue whenFalse : Fragment)

theorem render_column (aliasName name : String) :
    (column aliasName name).render = aliasName ++ "." ++ Identifier.bracketed name := rfl

theorem render_operation (op : SqlOperator) : (operation op left right).render =
    "(" ++ left.render ++ " " ++ op.text ++ " " ++ right.render ++ ")" := rfl

theorem render_is_null : (isNull operand).render = "(" ++ operand.render ++ " IS NULL)" := rfl

theorem render_is_not_null :
    (isNotNull operand).render = "(" ++ operand.render ++ " IS NOT NULL)" := rfl

theorem render_negation : (negation operand).render = "(-(" ++ operand.render ++ "))" := rfl

theorem render_complement : (complement operand).render = "NOT " ++ operand.render := rfl

theorem render_choice : (choice test whenTrue whenFalse).render =
    "CASE WHEN (" ++ test.render ++ ") THEN " ++ whenTrue.render ++ " ELSE " ++ whenFalse.render ++
      " END" := rfl

theorem render_object (items : List (Option String × Fragment)) :
    (members items).render = listed (renderMembers items) := rfl

theorem render_membership (items : List Literal) : (membership operand items).render =
    operand.render ++ " IN (" ++ listed (items.map Literal.render) ++ ")" := rfl

end Texts

theorem numbered_word (count : Nat) : IsWord (Aliases.numbered count).toList := by
  simp only [Aliases.numbered, Number.digitsText, String.toList_append, String.toList_ofList]
  refine ⟨by decide, fun c member => ?_⟩
  simp [isWordChar, Char.isAlphanum, Number.decimal_digits count c member]

theorem tokenize_column (count : Nat) (name : String) :
    tokenize (column (Aliases.numbered count) name).render.toList =
      some (column (Aliases.numbered count) name).tokens := by
  have qualifier : run .nothing ((Aliases.numbered count).toList ++ ['.']) =
      some ([.word (Aliases.numbered count).toList, .sign ['.']], .nothing) := by
    rw [run_append, run_whole_word _ (numbered_word count)]
    rfl
  simp only [render_column, Identifier.bracketed, String.toList_append, String.toList_ofList]
  exact tokenize_closed _ _ _ _ qualifier (tokenize_bracketed name.toList)

theorem operator_closed (op : SqlOperator) :
    run .nothing (" ".toList ++ (op.text.toList ++ " ".toList)) = some ([op.token], .nothing) := by
  cases op <;> rfl

theorem tokenize_literals (items : List Literal) (sound : ∀ item ∈ items, item.Sound) :
    tokenize (listed (items.map Literal.render)).toList =
      some (separated [.sign [',']] (items.map fun item => item.leaf.tokens)) := by
  rw [listed, commas_separated]
  apply tokenize_separated
  rw [List.map_map, List.forall₂_map_left_iff, List.forall₂_map_right_iff, List.forall₂_same]
  exact fun item member => item.tokenize_render (sound item member)

theorem tokenize_named (name : Option String) (text : List Char) (tokens : List Lexeme)
    (read : tokenize text = some tokens) :
    tokenize (text ++ (namedAs name).toList) = some (tokens ++ nameTokens name) := by
  cases name with
  | none => simpa [namedAs, nameTokens] using read
  | some name =>
      simp only [namedAs, Identifier.bracketed, String.toList_append, String.toList_ofList]
      exact tokenize_operand text _ _ tokens [keyword "AS"] _ read (at_blank _) rfl
        (tokenize_bracketed name.toList)

theorem tokenize_render (fragment : Fragment) (sound : fragment.Sound) :
    tokenize fragment.render.toList = some fragment.tokens := by
  revert sound
  refine Fragment.render.induct
    (fun fragment => fragment.Sound → tokenize fragment.render.toList = some fragment.tokens)
    (fun items => SoundMembers items → List.Forall₂
      (fun text tokens => tokenize text = some tokens)
      ((renderMembers items).map String.toList) (memberTokens items))
    ?column ?literal ?operation ?isNull ?isNotNull ?negation ?complement ?choice ?members
    ?membership ?never ?noMember ?firstMember fragment
  case column =>
    rintro aliasName name ⟨count, rfl⟩
    exact tokenize_column count name
  case literal =>
    intro value sound
    exact value.tokenize_render sound
  case operation =>
    intro op left right first second sound
    simp only [render_operation, String.toList_append, List.append_assoc]
    refine tokenize_closed "(".toList _ [opening] _ rfl ?_
    rw [← List.append_assoc op.text.toList, ← List.append_assoc " ".toList]
    exact tokenize_operand _ _ _ _ _ _ (first sound.1) (at_blank _) (operator_closed op)
      (tokenize_append _ _ _ _ (second sound.2) (at_closing _) rfl)
  case isNull =>
    intro operand ih sound
    simp only [render_is_null, String.toList_append, List.append_assoc]
    exact tokenize_closed "(".toList _ [opening] _ rfl
      (tokenize_append _ _ _ _ (ih sound) (at_blank _) rfl)
  case isNotNull =>
    intro operand ih sound
    simp only [render_is_not_null, String.toList_append, List.append_assoc]
    exact tokenize_closed "(".toList _ [opening] _ rfl
      (tokenize_append _ _ _ _ (ih sound) (at_blank _) rfl)
  case negation =>
    intro operand ih sound
    simp only [render_negation, String.toList_append, List.append_assoc]
    exact tokenize_closed "(-(".toList _ [opening, .sign ['-'], opening] _ rfl
      (tokenize_append _ _ _ _ (ih sound) (at_closing _) rfl)
  case complement =>
    intro operand ih sound
    simp only [render_complement, String.toList_append]
    exact tokenize_closed "NOT ".toList _ [keyword "NOT"] _ rfl (ih sound)
  case choice =>
    intro test whenTrue whenFalse first second third sound
    simp only [render_choice, String.toList_append, List.append_assoc]
    -- From the end backwards: what stands behind a part begins at a boundary, which closes it.
    have last := tokenize_append _ " END".toList _ [keyword "END"] (third sound.2.2) (at_blank _) rfl
    have branches := tokenize_operand _ " ELSE ".toList _ _ [keyword "ELSE"] _ (second sound.2.1)
      (at_blank _) rfl last
    have tested := tokenize_operand _ ") THEN ".toList _ _ [closing, keyword "THEN"] _
      (first sound.1) (at_closing _) rfl branches
    exact tokenize_closed "CASE WHEN (".toList _ [keyword "CASE", keyword "WHEN", opening] _ rfl
      tested
  case members =>
    intro items ih sound
    simp only [render_object, listed, commas_separated]
    exact tokenize_separated _ _ (ih sound)
  case membership =>
    intro element items ih sound
    simp only [render_membership, String.toList_append, List.append_assoc]
    exact tokenize_operand _ " IN (".toList _ _ [keyword "IN", opening] _ (ih sound.1) (at_blank _)
      rfl (tokenize_append _ _ _ _ (tokenize_literals items sound.2) (at_closing _) rfl)
  case never =>
    intro _
    rfl
  case noMember =>
    intro _
    exact .nil
  case firstMember =>
    intro name fragment rest first others sound
    simp only [renderMembers, memberTokens, List.map_cons, String.toList_append]
    exact .cons (tokenize_named name _ _ (first sound.1)) (others sound.2)

end Fragment

theorem Leaf.tokens_contained (leaf : Leaf) : Contained leaf.tokens := by
  cases leaf with
  | null => exact contained_cons _ _ (by decide) (by decide) contained_nil
  | number negative digits =>
      have bare : Contained [Lexeme.number digits] := contained_value _ _ rfl contained_nil
      cases negative with
      | false => exact bare
      | true => exact contained_cons _ _ (by decide) (by decide) bare
  | text content => exact contained_value _ _ rfl contained_nil

namespace Fragment

theorem name_tokens_contained (name : Option String) : Contained (nameTokens name) := by
  cases name with
  | none => exact contained_nil
  | some name =>
      exact contained_word _ _ (contained_value _ _ rfl contained_nil)

theorem contained_operands (op : SqlOperator) (left right : List Lexeme) (first : Contained left)
    (second : Contained right) : Contained (left ++ op.token :: right) := by
  have plain : op.token ≠ opening ∧ op.token ≠ closing := by cases op <;> decide
  have silent : op.token ∉ breakers := by cases op <;> decide
  exact contained_append _ _ first (contained_cons _ _ plain silent second)

theorem null_test_contained : Contained [keyword "IS", keyword "NULL"] :=
  ⟨fun _ => rfl, by decide⟩

theorem present_test_contained : Contained [keyword "IS", keyword "NOT", keyword "NULL"] :=
  ⟨fun _ => rfl, by decide⟩

theorem literals_contained (items : List Literal) :
    ∀ part ∈ items.map (fun item => item.leaf.tokens), Contained part := by
  intro part member
  obtain ⟨item, _, rfl⟩ := List.mem_map.mp member
  exact item.leaf.tokens_contained

theorem tokens_contained (fragment : Fragment) : Contained fragment.tokens := by
  refine Fragment.render.induct (fun fragment => Contained fragment.tokens)
    (fun items => ∀ part ∈ memberTokens items, Contained part)
    ?column ?literal ?operation ?isNull ?isNotNull ?negation ?complement ?choice ?members
    ?membership ?never ?noMember ?firstMember fragment
  case column =>
    intro aliasName name
    refine contained_word _ _ (contained_cons _ _ (by decide) (by decide) ?_)
    exact contained_value _ _ rfl contained_nil
  case literal =>
    intro value
    exact value.leaf.tokens_contained
  case operation =>
    intro op left right first second
    have body := contained_operands op _ _ first second
    simpa [tokens] using contained_brackets _ [] body contained_nil
  case isNull =>
    intro operand ih
    have inner := contained_append _ _ ih null_test_contained
    simpa [tokens] using contained_brackets _ [] inner contained_nil
  case isNotNull =>
    intro operand ih
    have inner := contained_append _ _ ih present_test_contained
    simpa [tokens] using contained_brackets _ [] inner contained_nil
  case negation =>
    intro operand ih
    have inner := contained_brackets _ [] ih contained_nil
    have signed := contained_cons (.sign ['-']) _ (by decide) (by decide) inner
    simpa [tokens] using contained_brackets _ [] signed contained_nil
  case complement =>
    intro operand ih
    exact contained_cons _ _ (by decide) (by decide) ih
  case choice =>
    intro test whenTrue whenFalse first second third
    have last : Contained [keyword "END"] := ⟨fun _ => rfl, by decide⟩
    have otherwise := contained_cons (keyword "ELSE") _ (by decide) (by decide)
      (contained_append _ _ third last)
    have branches := contained_cons (keyword "THEN") _ (by decide) (by decide)
      (contained_append _ _ second otherwise)
    have tested := contained_brackets _ _ first branches
    exact contained_cons _ _ (by decide) (by decide)
      (contained_cons _ _ (by decide) (by decide) tested)
  case members =>
    intro items ih
    exact contained_separated _ ih
  case membership =>
    intro element items ih
    have listed := contained_separated _ (literals_contained items)
    refine contained_append _ _ ih (contained_cons _ _ (by decide) (by decide) ?_)
    exact contained_brackets _ [] listed contained_nil
  case never => exact ⟨fun _ => rfl, by decide⟩
  case noMember =>
    intro part member
    exact absurd member List.not_mem_nil
  case firstMember =>
    intro name fragment rest first others part member
    rcases List.mem_cons.mp member with rfl | inRest
    · exact contained_append _ _ first (name_tokens_contained name)
    · exact others part inRest

end Fragment

namespace Expr

theorem compile_tokens (scope : Scope) (reached : scope.aliases.Reached) (expr : Expr)
    (text : String) (compiled : expr.compile scope = .ok text) :
    ∃ fragment, Lowers scope expr none fragment ∧ fragment.Sound ∧ fragment.render = text ∧
      tokenize text.toList = some fragment.tokens := by
  obtain ⟨fragment, lowered, rendered⟩ := map_ok_iff.mp compiled
  have lowers := lower_lowers scope expr none fragment lowered
  have sound := lower_sound scope reached expr none fragment lowers
  exact ⟨fragment, lowers, sound, rendered, rendered ▸ fragment.tokenize_render sound⟩

/-- Whatever stands in the expression, its text is read to the end, closes the brackets that it
opens, and neither opens a comment nor ends the statement. -/
theorem compiled_text_contained (aliases : Aliases) (reached : aliases.Reached)
    (namesMembers : Bool) (expr : Expr) (text : String)
    (compiled : expr.compile ⟨aliases, namesMembers⟩ = .ok text) :
    ∃ tokens, tokenize text.toList = some tokens ∧ depthAfter 0 tokens = some 0 ∧
      ∀ token ∈ tokens, token ∉ breakers := by
  obtain ⟨fragment, _, _, _, read⟩ := compile_tokens _ reached expr text compiled
  have contained := fragment.tokens_contained
  exact ⟨fragment.tokens, read, contained.level 0, contained.quiet⟩

def hostile : Expr :=
  binary .andAlso
    (binary .equal (column "Multi" "body") (constant (.text "'; -- ]/*")))
    (unary .negate (constant (.integer .int32 (-1))))

theorem hostile_text_contained :
    Aliases.weird.Reached ∧ hostile.compile ⟨Aliases.weird, false⟩ =
      .ok "((t0.[Sp ace] = '''; -- ]/*') AND (-(-1)))" ∧
      ∃ tokens, tokenize "((t0.[Sp ace] = '''; -- ]/*') AND (-(-1)))".toList = some tokens ∧
        depthAfter 0 tokens = some 0 ∧ ∀ token ∈ tokens, token ∉ breakers :=
  ⟨Aliases.weird_reached, rfl,
    compiled_text_contained Aliases.weird Aliases.weird_reached false hostile _ rfl⟩

end Expr

end MappedSql
