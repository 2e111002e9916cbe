import MappedSql.Proofs.ItemLists

/-!
Keys of a selector. A selector that constructs an object is written as several texts between commas,
wherever in it the object stands outside of brackets. How many they are can be told from the
selector, and none of them says anything of a direction.
-/

namespace MappedSql

open Lexer Cutting Outcome Statement

namespace Parts

def behind (front : String) : List String → List String
  | [] => [front]
  | first :: rest => (front ++ first) :: rest

/-- Parts followed by parts: the last of these and the first of those are one. -/
def joined : List String → List String → List String
  | [], second => second
  | [last], second => behind last second
  | part :: next :: rest, second => part :: joined (next :: rest) second

theorem commas_cons (part : String) (rest : List String) (more : rest ≠ []) :
    commas (part :: rest) = part ++ "," ++ commas rest := by
  obtain ⟨next, others, rfl⟩ := List.exists_cons_of_ne_nil more
  exact String.intercalate_cons_cons

theorem commas_append (first second : List String) (present : first ≠ []) (more : second ≠ []) :
    commas (first ++ second) = commas first ++ "," ++ commas second :=
  String.intercalate_append_of_ne_nil present more

theorem behind_present (front : String) (parts : List String) : behind front parts ≠ [] := by
  cases parts <;> exact List.cons_ne_nil _ _

theorem behind_length (front : String) (parts : List String) (present : parts ≠ []) :
    (behind front parts).length = parts.length := by
  obtain ⟨first, rest, rfl⟩ := List.exists_cons_of_ne_nil present
  rfl

theorem commas_behind (front : String) (parts : List String) :
    commas (behind front parts) = front ++ commas parts := by
  cases parts with
  | nil => simp [behind, commas]
  | cons first rest => exact String.intercalate_cons_append

theorem joined_present (first second : List String) (present : first ≠ []) : joined first second ≠ [] := by
  cases first with
  | nil => exact absurd rfl present
  | cons part rest =>
      cases rest with
      | nil => exact behind_present part second
      | cons next more => exact List.cons_ne_nil _ _

theorem joined_length (first second : List String) (present : first ≠ []) (more : second ≠ []) :
    (joined first second).length = first.length + second.length - 1 := by
  induction first, second using joined.induct with
  | case1 => exact absurd rfl present
  | case2 last second =>
      rw [joined, behind_length last second more, List.length_singleton]
      omega
  | case3 part next rest second ih =>
      rw [joined, List.length_cons, ih (List.cons_ne_nil _ _) more]
      simp only [List.length_cons]
      omega

theorem commas_joined (first second : List String) (present : first ≠ []) :
    commas (joined first second) = commas first ++ commas second := by
  induction first, second using joined.induct with
  | case1 => exact absurd rfl present
  | case2 last second =>
      rw [joined, commas_behind]
      exact congrArg (· ++ commas second) String.intercalate_singleton.symm
  | case3 part next rest second ih =>
      rw [joined, commas_cons part _ (joined_present _ second (List.cons_ne_nil _ _)),
        ih (List.cons_ne_nil _ _), commas_cons part _ (List.cons_ne_nil _ _)]
      simp only [String.append_assoc]

theorem joined_concat (init : List String) (last : String) (second : List String) :
    joined (init ++ [last]) second = init ++ behind last second := by
  induction init with
  | nil => rfl
  | cons part rest ih =>
      cases rest with
      | nil => rfl
      | cons next more => exact congrArg (part :: ·) ih

section All

variable (holds : String → Prop)

theorem behind_all (front : String) (parts : List String) (present : parts ≠ [])
    (each : ∀ part ∈ parts, holds part) (goesOn : ∀ part, holds part → holds (front ++ part)) :
    ∀ part ∈ behind front parts, holds part := by
  obtain ⟨first, rest, rfl⟩ := List.exists_cons_of_ne_nil present
  rw [List.forall_mem_cons] at each
  exact List.forall_mem_cons.mpr ⟨goesOn first each.1, each.2⟩

theorem joined_all (first second : List String) (before : ∀ part ∈ first, holds part)
    (after : ∀ part ∈ second, holds part)
    (goesOn : ∀ last next, holds last → next ∈ second.head? → holds (last ++ next)) :
    ∀ part ∈ joined first second, holds part := by
  induction first, second using joined.induct with
  | case1 => exact after
  | case2 last second =>
      have own := before last List.mem_cons_self
      cases second with
      | nil => simpa [joined, behind] using own
      | cons next rest =>
          rw [List.forall_mem_cons] at after
          exact List.forall_mem_cons.mpr ⟨goesOn last next own rfl, after.2⟩
  | case3 part next rest second ih =>
      rw [List.forall_mem_cons] at before
      exact List.forall_mem_cons.mpr ⟨before.1, ih before.2 after goesOn⟩

end All

end Parts

def sortTokens : List Lexeme :=
  [.sign [','], keyword "ASC", keyword "DESC"]

def SortKey (text : String) : Prop :=
  Passage sortTokens text

namespace Expr

mutual

def keyCount : Expr → Nat
  | unary .not operand | unary .convert operand => keyCount operand
  | conditional _ whenTrue whenFalse => keyCount whenTrue + keyCount whenFalse - 1
  | object members => max 1 (memberKeys members)
  | call _ receiver arguments =>
      match receiver, arguments with
      | some collection, [element] | none, [collection, element] =>
          match collection.evaluate with
          | .ok (.list []) => 1
          | _ => keyCount element
      | _, _ => 1
  | _ => 1

def memberKeys : List (String × Expr) → Nat
  | [] => 0
  | (_, value) :: rest => keyCount value + memberKeys rest

end

end Expr

namespace Fragment

structure WrittenAs (fragment : Fragment) (keys : List String) : Prop where
  present : keys ≠ []
  text : fragment.render = commas keys
  each : ∀ key ∈ keys, SortKey key

section Single

variable (fragment left right : Fragment)

theorem written_single (sound : fragment.Sound) (apart : Apart sortTokens 0 fragment.tokens) :
    fragment.WrittenAs [fragment.render] where
  present := List.cons_ne_nil _ _
  text := String.intercalate_singleton.symm
  each := by
    simpa using ⟨fragment.tokens, fragment.tokenize_render sound, fragment.tokens_contained, apart⟩

theorem leaf_apart (leaf : Leaf) : Apart sortTokens 0 leaf.tokens := by
  refine apart_of_absent _ _ _ fun lexeme member => ?_
  cases leaf with
  | number negative digits =>
      cases negative <;> simp [Leaf.tokens] at member <;> (rcases member with rfl | rfl) <;>
        simp [sortTokens, keyword]
  | _ =>
      obtain rfl := List.mem_singleton.mp member
      simp [sortTokens, keyword]

theorem column_apart (count : Nat) (name : String) :
    Apart sortTokens 0 (column (Aliases.numbered count) name).tokens := by
  refine apart_of_absent _ _ _ fun lexeme member => ?_
  simp only [tokens, List.mem_cons, List.not_mem_nil, or_false] at member
  rcases member with rfl | rfl | rfl <;> simp [sortTokens, keyword, Aliases.numbered]

-- One pair of brackets round the whole fragment.
theorem bracketed_apart (inner : List Lexeme) (inside : Contained inner)
    (bracketed : fragment.tokens = opening :: (inner ++ [closing])) :
    Apart sortTokens 0 fragment.tokens := by
  rw [bracketed]
  exact apart_brackets sortTokens 0 inner [] inside trivial

theorem operation_apart (op : SqlOperator) :
    Apart sortTokens 0 (operation op left right).tokens :=
  bracketed_apart _ _ (contained_operands op _ _ left.tokens_contained right.tokens_contained)
    (by simp [tokens])

theorem is_null_apart : Apart sortTokens 0 (isNull fragment).tokens :=
  bracketed_apart _ _ (contained_append _ _ fragment.tokens_contained null_test_contained)
    (by simp [tokens])

theorem is_not_null_apart : Apart sortTokens 0 (isNotNull fragment).tokens :=
  bracketed_apart _ _ (contained_append _ _ fragment.tokens_contained present_test_contained)
    (by simp [tokens])

theorem combine_apart (op : SqlOperator) : Apart sortTokens 0 (combine op left right).tokens := by
  unfold combine
  split
  · split_ifs
    exacts [is_null_apart left, is_null_apart right, operation_apart left right _]
  · split_ifs
    exacts [is_not_null_apart left, is_not_null_apart right, operation_apart left right _]
  · exact operation_apart left right _

theorem negation_apart : Apart sortTokens 0 (negation fragment).tokens := by
  have inner := contained_brackets _ [] fragment.tokens_contained contained_nil
  exact bracketed_apart _ _ (contained_cons (.sign ['-']) _ (by decide) (by decide) inner)
    (by simp [tokens])

theorem never_apart : Apart sortTokens 0 never.tokens :=
  bracketed_apart never [.number ['1'], .sign ['='], .number ['0']] ⟨fun _ => rfl, by decide⟩ rfl

end Single

/-! A fragment keeps the keys of its parts together. Words in front of a part go before its first
key and words behind it after its last one, and where two parts meet the last key of the first and
the first key of the second become one. -/

variable {fragment first second third : Fragment} {keys more : List String}

theorem complement_written (written : fragment.WrittenAs keys) :
    (complement fragment).WrittenAs (Parts.behind "NOT " keys) where
  present := Parts.behind_present _ _
  text := by rw [render_complement, written.text, Parts.commas_behind]
  each := Parts.behind_all SortKey _ _ written.present written.each fun key =>
    passage_behind _ _ _ (filler_of_read _ _ [keyword "NOT"] rfl (by decide) (by decide))

theorem choice_written (test : Closed first.render) (written : second.WrittenAs keys)
    (otherwise : third.WrittenAs more) :
    (choice first second third).WrittenAs
      (Parts.behind ("CASE WHEN (" ++ first.render ++ ") THEN ")
        (Parts.joined keys (Parts.behind " ELSE " (Parts.joined more [" END"])))) := by
  have ended : ∀ key ∈ Parts.joined more [" END"], SortKey key := by
    have closing : SortKey " END" := passage_of_read _ _ [keyword "END"] rfl
      (contained_word _ _ contained_nil) (by decide)
    refine Parts.joined_all SortKey _ _ otherwise.each (by simpa using closing) ?_
    rintro last next own ⟨⟩
    exact passage_append _ _ _ own (at_blank _) closing
  have elsed := Parts.behind_all SortKey " ELSE " _ (Parts.joined_present _ _ otherwise.present) ended
    fun key => passage_behind _ _ _
      (filler_of_read _ _ [keyword "ELSE"] rfl (by decide) (by decide))
  have branches := Parts.joined_all SortKey keys _ written.each elsed fun last next own follows => by
    have begins : ∃ rest, next = " ELSE " ++ rest := by
      cases reached : Parts.joined more [" END"] with
      | nil => exact absurd reached (Parts.joined_present _ _ otherwise.present)
      | cons key rest =>
          rw [reached] at follows
          exact ⟨key, (Option.some.inj follows).symm⟩
    obtain ⟨rest, rfl⟩ := begins
    exact passage_append _ _ _ own (by rw [String.toList_append]; exact at_blank _)
      (elsed _ (List.mem_of_mem_head? follows))
  refine ⟨Parts.behind_present _ _, ?_, ?_⟩
  · rw [render_choice, written.text, otherwise.text, Parts.commas_behind,
      Parts.commas_joined _ _ written.present, Parts.commas_behind,
      Parts.commas_joined _ _ otherwise.present]
    simp only [String.append_assoc, commas, String.intercalate_singleton]
  · refine Parts.behind_all SortKey _ _ (Parts.joined_present _ _ written.present) branches ?_
    intro key own
    have tested := passage_between sortTokens ("(" ++ first.render ++ ")") " THEN " key
      (passage_grouped _ _ test) at_blank
      (filler_of_read _ _ [keyword "THEN"] rfl (by decide) (by decide)) own
    have whole := passage_behind _ "CASE WHEN " _
      (filler_of_read _ _ [keyword "CASE", keyword "WHEN"] rfl (by decide) (by decide)) tested
    have opens : "CASE WHEN (" = "CASE WHEN " ++ "(" := rfl
    have closes : ") THEN " = ")" ++ " THEN " := rfl
    rw [SortKey, opens, closes]
    simpa only [String.append_assoc] using whole

theorem membership_written (items : List Literal) (sound : ∀ item ∈ items, item.Sound)
    (written : fragment.WrittenAs keys) :
    (membership fragment items).WrittenAs
      (Parts.joined keys [" IN (" ++ listed (items.map Literal.render) ++ ")"]) := by
  have list : Closed (listed (items.map Literal.render)) :=
    ⟨_, tokenize_literals items sound, contained_separated _ (literals_contained items)⟩
  have closing : SortKey (" IN (" ++ listed (items.map Literal.render) ++ ")") := by
    have grouped := passage_behind _ " IN " _
      (filler_of_read sortTokens _ [keyword "IN"] rfl (by decide) (by decide))
      (passage_grouped sortTokens _ list)
    have opens : " IN (" = " IN " ++ "(" := rfl
    rw [SortKey, opens]
    simpa only [String.append_assoc] using grouped
  refine ⟨Parts.joined_present _ _ written.present, ?_, ?_⟩
  · rw [render_membership, written.text, Parts.commas_joined _ _ written.present, commas, commas,
      String.intercalate_singleton]
    simp only [String.append_assoc]
  · refine Parts.joined_all SortKey _ _ written.each (by simpa using closing) ?_
    rintro last next own ⟨⟩
    exact passage_append _ _ _ own (by simp only [String.toList_append]; exact at_blank _) closing

end Fragment

namespace Expr

-- Without names the members of an object are written one behind the other.
theorem members_written (members : List (String × Expr)) (items : List (Option String × Fragment))
    (unnamed : items.map Prod.fst = members.map fun _ => none)
    (each : ∀ pair ∈ members.zip items, ∃ keys, pair.2.2.WrittenAs keys ∧
      keys.length = pair.1.2.keyCount) :
    ∃ keys, keys.length = memberKeys members ∧ (members ≠ [] → keys ≠ []) ∧
      Fragment.listed (Fragment.renderMembers items) = commas keys ∧ ∀ key ∈ keys, SortKey key := by
  induction members generalizing items with
  | nil =>
      obtain rfl : items = [] := by simpa using unnamed
      exact ⟨[], rfl, fun several => absurd rfl several, rfl, fun _ member => absurd member List.not_mem_nil⟩
  | cons entry rest ih =>
      obtain ⟨_, value⟩ := entry
      cases items with
      | nil => simp at unnamed
      | cons item others =>
          obtain ⟨name, fragment⟩ := item
          obtain ⟨rfl, unnamedOthers⟩ := List.cons.inj unnamed
          obtain ⟨keys, written, count⟩ := each ((_, value), (none, fragment)) List.mem_cons_self
          obtain ⟨more, countMore, present, text, eachMore⟩ := ih others unnamedOthers
            fun pair member => each pair (List.mem_cons_of_mem _ member)
          refine ⟨keys ++ more, ?_, ?_, ?_, ?_⟩
          · rw [List.length_append, count, countMore, memberKeys]
          · exact fun _ => List.append_ne_nil_of_left_ne_nil written.present more
          · have first : fragment.render ++ Fragment.namedAs none = commas keys := by
              rw [Fragment.namedAs, String.append_empty, written.text]
            rw [Fragment.renderMembers, first]
            cases rest with
            | nil =>
                obtain rfl : others = [] := by simpa using unnamedOthers
                obtain rfl := List.length_eq_zero_iff.mp countMore
                rw [List.append_nil]
                exact String.intercalate_singleton
            | cons next later =>
                have more : Fragment.renderMembers others ≠ [] := by
                  cases others with
                  | nil => simp at unnamedOthers
                  | cons => exact List.cons_ne_nil _ _
                rw [Parts.commas_append _ _ written.present (present (List.cons_ne_nil _ _)), ← text]
                exact Parts.commas_cons _ _ more
          · exact fun key member => (List.mem_append.mp member).elim (written.each key) (eachMore key)

theorem collected_empty_iff (beside : Option Column) (collection : Expr) (literals : List Literal)
    (written : collectionLiterals beside collection = .ok literals) :
    literals = [] ↔ collection.evaluate = .ok (.list []) := by
  obtain ⟨value, evaluated, rest⟩ := bind_ok_iff.mp written
  rw [evaluated]
  cases value with
  | list items =>
      have lengths := (mapM_ok rest).length_eq
      rw [← List.length_eq_zero_iff, ← lengths, List.length_eq_zero_iff]
      simp
  | _ => cases rest

theorem contains_count {receiver : Option Expr} {arguments : List Expr} {collection element : Expr}
    (operands : TestsMembership receiver arguments collection element) :
    (call "Contains" receiver arguments).keyCount =
      match collection.evaluate with
      | .ok (.list []) => 1
      | _ => element.keyCount := by
  cases operands <;> rw [keyCount]

-- A selector without names is written as so many keys as it counts.
theorem lowers_written (scope : Scope) (plain : scope.namesMembers = false) (expr : Expr)
    (beside : Option Column) (fragment : Fragment) (lowers : Lowers scope expr beside fragment)
    (sound : fragment.Sound) : ∃ keys, fragment.WrittenAs keys ∧ keys.length = expr.keyCount := by
  induction lowers with
  | constant written =>
      exact ⟨_, Fragment.written_single _ sound (Fragment.leaf_apart _), by simp [keyCount]⟩
  | column resolved =>
      obtain ⟨count, numbered⟩ := sound
      refine ⟨_, Fragment.written_single _ ⟨count, numbered⟩ ?_, by simp [keyCount]⟩
      rw [numbered]
      exact Fragment.column_apart count _
  | captured resolved evaluated written =>
      exact ⟨_, Fragment.written_single _ sound (Fragment.leaf_apart _), by simp [keyCount]⟩
  | binary spelled left right _ _ =>
      exact ⟨_, Fragment.written_single _ sound (Fragment.combine_apart _ _ _), by simp [keyCount]⟩
  | negate inner _ =>
      exact ⟨_, Fragment.written_single _ sound (Fragment.negation_apart _), by simp [keyCount]⟩
  | not _ ih =>
      obtain ⟨keys, written, count⟩ := ih sound
      refine ⟨_, Fragment.complement_written written, ?_⟩
      rw [Parts.behind_length _ _ written.present, count, keyCount]
  | convert _ ih =>
      obtain ⟨keys, written, count⟩ := ih sound
      exact ⟨keys, written, by rw [count, keyCount]⟩
  | conditional test _ _ _ second third =>
      obtain ⟨keys, written, count⟩ := second sound.2.1
      obtain ⟨more, otherwise, countMore⟩ := third sound.2.2
      have closed : Closed _ := ⟨_, Fragment.tokenize_render _ sound.1, Fragment.tokens_contained _⟩
      refine ⟨_, Fragment.choice_written closed written otherwise, ?_⟩
      rw [Parts.behind_length _ _ (Parts.joined_present _ _ written.present),
        Parts.joined_length _ _ written.present (Parts.behind_present _ _),
        Parts.behind_length _ _ (Parts.joined_present _ _ otherwise.present),
        Parts.joined_length _ _ otherwise.present (List.cons_ne_nil _ _), count, countMore, keyCount]
      simp
  | @object members _ items named _ ih =>
      have unnamed : items.map Prod.fst = members.map fun _ => none := by simpa [plain] using named
      have each := (Fragment.sound_members_iff items).mp sound
      obtain ⟨keys, count, present, text, all⟩ := members_written members items unnamed
        fun pair member => ih pair member (each pair.2 (List.of_mem_zip member).2)
      cases members with
      | nil =>
          obtain rfl : items = [] := by simpa using unnamed
          exact ⟨[""], ⟨List.cons_ne_nil _ _, rfl, by simpa [SortKey] using passage_empty sortTokens⟩, rfl⟩
      | cons entry rest =>
          have nonempty := present (List.cons_ne_nil _ _)
          refine ⟨keys, ⟨nonempty, text, all⟩, ?_⟩
          have positive := List.length_pos_of_ne_nil nonempty
          rw [keyCount, ← count]
          omega
  | @contains receiver arguments collection element _ part literals operands _ written ih =>
      have empty := collected_empty_iff _ _ _ written
      rw [contains_count operands]
      cases literals with
      | nil =>
          rw [empty.mp rfl]
          exact ⟨_, Fragment.written_single .never trivial Fragment.never_apart, rfl⟩
      | cons literal rest =>
          obtain ⟨keys, inner, count⟩ := ih sound.1
          refine ⟨_, Fragment.membership_written (literal :: rest) sound.2 inner, ?_⟩
          rw [Parts.joined_length _ _ inner.present (List.cons_ne_nil _ _), count]
          split
          · rename_i nothing
            cases empty.mpr nothing
          · rfl

end Expr

end MappedSql
