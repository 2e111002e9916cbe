import MappedSql.Proofs.AcceptedMappings
import MappedSql.Proofs.Passages
import MappedSql.Proofs.Registration

/-!
The names that stand between brackets. They come from mappings, which are asked whether a name is
blank, and from the members of objects, which are asked nothing. So a bracketed name is usable just
when it holds no NUL, and, where a member gave it, is not blank either.
-/

namespace MappedSql

open Lexer Outcome

namespace Lexer

def Lexeme.name? : Lexeme → Option String
  | .name letters => some (String.ofList letters)
  | _ => none

def namesIn (lexemes : List Lexeme) : List String :=
  lexemes.filterMap Lexeme.name?

/-- What a text puts between brackets, with doubled closing brackets undone. -/
def bracketedNames (text : String) : List String :=
  ((tokenize text.toList).map namesIn).getD []

example : bracketedNames "t0.[a]]b] = '[c]' AND [x].[ ] IS NULL" = ["a]b", "x", " "] := by decide

theorem bracketed_of_tokens (text : String) (lexemes : List Lexeme)
    (read : tokenize text.toList = some lexemes) : bracketedNames text = namesIn lexemes := by
  rw [bracketedNames, read]
  rfl

@[simp] theorem names_in_nil : namesIn [] = [] := rfl

@[simp] theorem names_in_append (first second : List Lexeme) :
    namesIn (first ++ second) = namesIn first ++ namesIn second :=
  List.filterMap_append

@[simp] theorem names_in_name (letters : List Char) (rest : List Lexeme) :
    namesIn (.name letters :: rest) = String.ofList letters :: namesIn rest := rfl

@[simp] theorem names_in_word (letters : List Char) (rest : List Lexeme) :
    namesIn (.word letters :: rest) = namesIn rest := rfl

@[simp] theorem names_in_keyword (letters : String) (rest : List Lexeme) :
    namesIn (keyword letters :: rest) = namesIn rest := rfl

@[simp] theorem names_in_sign (characters : List Char) (rest : List Lexeme) :
    namesIn (.sign characters :: rest) = namesIn rest := rfl

@[simp] theorem names_in_opening (rest : List Lexeme) :
    namesIn (opening :: rest) = namesIn rest := rfl

@[simp] theorem names_in_closing (rest : List Lexeme) :
    namesIn (closing :: rest) = namesIn rest := rfl

@[simp] theorem names_in_separated (parts : List (List Lexeme)) :
    namesIn (separated [.sign [',']] parts) = parts.flatMap namesIn := by
  induction parts with
  | nil => rfl
  | cons part rest ih =>
      cases rest with
      | nil => simp [separated]
      | cons next more =>
          rw [separated, names_in_append, names_in_append, ih]
          rfl

end Lexer

@[simp] theorem Leaf.names_in_tokens (leaf : Leaf) : namesIn leaf.tokens = [] := by
  cases leaf with
  | null => rfl
  | number negative digits => cases negative <;> rfl
  | text content => rfl

@[simp] theorem SqlOperator.names_in_token (op : SqlOperator) (rest : List Lexeme) :
    namesIn (op.token :: rest) = namesIn rest := by
  cases op <;> rfl

namespace Fragment

@[simp] theorem names_in_label (name : Option String) : namesIn (nameTokens name) = name.toList := by
  cases name with
  | none => rfl
  | some name => simp [nameTokens, String.ofList_toList]

theorem names_in_null (fragment : Fragment) (sound : fragment.Sound)
    (reads : fragment.readsNull = true) : namesIn fragment.tokens = [] := by
  have read := fragment.tokenize_render sound
  rw [beq_iff_eq.mp reads] at read
  have null : tokenize "NULL".toList = some [keyword "NULL"] := by decide
  rw [← Option.some.inj (null.symm.trans read)]
  rfl

-- A null test leaves out a side that reads as null, and that has no names.
theorem names_in_combine (op : SqlOperator) (left right : Fragment) (first : left.Sound)
    (second : right.Sound) :
    namesIn (combine op left right).tokens = namesIn left.tokens ++ namesIn right.tokens := by
  have nullLeft := left.names_in_null first
  have nullRight := right.names_in_null second
  unfold combine
  split
  · split_ifs with rightNull leftNull
    · simp [tokens, nullRight rightNull]
    · simp [tokens, nullLeft leftNull]
    · simp [tokens]
  · split_ifs with rightNull leftNull
    · simp [tokens, nullRight rightNull]
    · simp [tokens, nullLeft leftNull]
    · simp [tokens]
  · simp [tokens]

theorem names_in_members (items : List (Option String × Fragment)) :
    namesIn (members items).tokens =
      items.flatMap fun item => namesIn item.2.tokens ++ item.1.toList := by
  rw [tokens, names_in_separated]
  induction items with
  | nil => rfl
  | cons item rest ih =>
      rw [memberTokens, List.flatMap_cons, List.flatMap_cons, ih, names_in_append, names_in_label]

end Fragment

inductive NameUse where
  | column (name : String)
  | label (name : String)
  deriving DecidableEq, Repr

namespace NameUse

def name : NameUse → String
  | column name | label name => name

/-- Columns belong to tables that take part. Labels are there only if members keep their names, and
can be anything. -/
def Placed (scope : Scope) : NameUse → Prop
  | column name => ∃ participant ∈ scope.aliases.participants,
      ∃ column ∈ participant.table.columns, column.name = name
  | label _ => scope.namesMembers = true

end NameUse

namespace Expr

/-- A test of membership in an empty collection does not look at the element. -/
def unlessEmpty (collection : Expr) (uses : List NameUse) : List NameUse :=
  match collection.evaluate with
  | .ok (.list []) => []
  | _ => uses

mutual

def uses (scope : Scope) : Expr → List NameUse
  | row _ | constant _ => []
  | member declaring source name =>
      match columnOf scope.aliases (member declaring source name) with
      | .ok (some reference) => [.column reference.column.name]
      | _ => []
  | binary _ left right => uses scope left ++ uses scope right
  | unary _ operand => uses scope operand
  | conditional test whenTrue whenFalse =>
      uses scope test ++ (uses scope whenTrue ++ uses scope whenFalse)
  | object members => memberUses scope members
  | call _ receiver arguments =>
      match receiver, arguments with
      | some collection, [element] | none, [collection, element] =>
          unlessEmpty collection (uses scope element)
      | _, _ => []

def memberUses (scope : Scope) : List (String × Expr) → List NameUse
  | [] => []
  | (name, value) :: rest =>
      uses scope value ++
        ((if scope.namesMembers then [.label name] else []) ++ memberUses scope rest)

end

theorem collection_empty_iff (beside : Option Column) (collection : Expr)
    (literals : List Literal) (written : collectionLiterals beside collection = .ok literals) :
    literals = [] ↔ collection.evaluate = .ok (.list []) := by
  obtain ⟨value, evaluated, items⟩ := bind_ok_iff.mp written
  split at items
  · rename_i values
    rw [evaluated, mapM_nil_iff items]
    simp
  · cases items

theorem names_in_membership (scope : Scope) (element collection : Expr) (part : Fragment)
    (literals : List Literal)
    (written : collectionLiterals (element.columnBeside scope.aliases) collection = .ok literals)
    (names : namesIn part.tokens = (uses scope element).map NameUse.name) :
    namesIn (membershipTest part literals).tokens =
      (unlessEmpty collection (uses scope element)).map NameUse.name := by
  have emptyIff := collection_empty_iff _ collection literals written
  cases literals with
  | nil =>
      rw [unlessEmpty, emptyIff.mp rfl]
      rfl
  | cons literal rest =>
      have unguarded : unlessEmpty collection (uses scope element) = uses scope element := by
        unfold unlessEmpty
        split
        · rename_i wordless
          cases emptyIff.mpr wordless
        · rfl
      rw [unguarded, ← names]
      simp [membershipTest, Fragment.tokens, List.flatMap_map]

theorem names_in_labelled (scope : Scope) (members : List (String × Expr))
    (items : List (Option String × Fragment))
    (names : items.map Prod.fst =
      members.map fun entry => if scope.namesMembers then some entry.1 else none)
    (parts : ∀ pair ∈ members.zip items,
      namesIn pair.2.2.tokens = (uses scope pair.1.2).map NameUse.name) :
    (items.flatMap fun item => namesIn item.2.tokens ++ item.1.toList) =
      (memberUses scope members).map NameUse.name := by
  induction members generalizing items with
  | nil =>
      obtain rfl : items = [] := List.map_eq_nil_iff.mp names
      simp [memberUses]
  | cons member rest ih =>
      cases items with
      | nil => cases names
      | cons item others =>
          obtain ⟨name, later⟩ := List.cons.inj names
          have first := parts (member, item) List.mem_cons_self
          have more := ih others later fun pair inside =>
            parts pair (List.mem_cons_of_mem _ inside)
          dsimp only at name first
          rw [List.flatMap_cons, more, first, name, memberUses]
          cases scope.namesMembers <;> simp [NameUse.name]

theorem names_in_lowered (scope : Scope) (reached : scope.aliases.Reached) (expr : Expr)
    (beside : Option Column) (fragment : Fragment) (lowers : Lowers scope expr beside fragment) :
    namesIn fragment.tokens = (uses scope expr).map NameUse.name := by
  have sound (inner : Expr) (near : Option Column) (part : Fragment)
      (lowered : Lowers scope inner near part) := lower_sound scope reached inner near part lowered
  induction lowers with
  | constant written => simp [Fragment.tokens, uses]
  | column resolved => simp [Fragment.tokens, uses, resolved, NameUse.name, String.ofList_toList]
  | captured resolved evaluated written => simp [Fragment.tokens, uses, resolved]
  | binary spelled left right first second =>
      rw [Fragment.names_in_combine _ _ _ (sound _ _ _ left) (sound _ _ _ right), first, second,
        uses, List.map_append]
  | negate _ ih => simpa [Fragment.tokens, uses] using ih
  | not _ ih => simpa [Fragment.tokens, uses] using ih
  | convert _ ih => simpa [uses] using ih
  | conditional _ _ _ first second third =>
      simp [Fragment.tokens, uses, first, second, third]
  | object names _ ih =>
      rw [Fragment.names_in_members, uses]
      exact names_in_labelled scope _ _ names ih
  | contains operands _ written ih =>
      have names := names_in_membership scope _ _ _ _ written ih
      cases operands <;> simpa [uses] using names

theorem bracketed_uses (scope : Scope) (reached : scope.aliases.Reached) (expr : Expr)
    (text : String) (compiled : expr.compile scope = .ok text) :
    bracketedNames text = (uses scope expr).map NameUse.name := by
  obtain ⟨fragment, lowers, _, _, read⟩ := compile_tokens scope reached expr text compiled
  rw [bracketed_of_tokens text _ read]
  exact names_in_lowered scope reached expr none fragment lowers

theorem unless_empty_subset (collection : Expr) (names : List NameUse) :
    unlessEmpty collection names ⊆ names := by
  unfold unlessEmpty
  split
  · exact List.nil_subset names
  · exact List.Subset.refl names

theorem uses_placed (scope : Scope) (expr : Expr) :
    ∀ use ∈ uses scope expr, use.Placed scope := by
  refine Expr.uses.induct scope
    (fun expr => ∀ use ∈ uses scope expr, use.Placed scope)
    (fun members => ∀ use ∈ memberUses scope members, use.Placed scope)
    ?row ?constant ?column ?captured ?binary ?unary ?conditional ?object ?method ?function ?other
    ?noMember ?firstMember expr
  case row =>
    intro type use member
    simp [uses] at member
  case constant =>
    intro value use member
    simp [uses] at member
  case column =>
    intro declaring source name reference resolved use member
    simp only [uses, resolved, List.mem_singleton] at member
    obtain ⟨takesPart, mapped⟩ := column_of_mapped scope.aliases _ reference resolved
    rw [member]
    exact ⟨reference.participant, takesPart, reference.column, mapped, rfl⟩
  case captured =>
    intro declaring source name noColumn use member
    rw [uses] at member
    split at member
    · rename_i reference resolved
      exact (noColumn reference resolved).elim
    · cases member
  case binary =>
    intro op left right first second use member
    rw [uses, List.mem_append] at member
    exact member.elim (first use) (second use)
  case unary =>
    intro op operand ih use member
    rw [uses] at member
    exact ih use member
  case conditional =>
    intro test whenTrue whenFalse first second third use member
    rw [uses, List.mem_append, List.mem_append] at member
    exact member.elim (first use) fun branch => branch.elim (second use) (third use)
  case object =>
    intro members ih use member
    rw [uses] at member
    exact ih use member
  case method =>
    intro method collection element ih use member
    exact ih use (unless_empty_subset collection _ (by simpa only [uses] using member))
  case function =>
    intro method collection element ih use member
    exact ih use (unless_empty_subset collection _ (by simpa only [uses] using member))
  case other =>
    intro method receiver arguments notMethod notFunction use member
    rw [uses] at member
    · cases member
    · exact notMethod
    · exact notFunction
  case noMember =>
    intro use member
    simp [memberUses] at member
  case firstMember =>
    intro name value rest first others use member
    rw [memberUses, List.mem_append, List.mem_append] at member
    rcases member with inFirst | labelled | inRest
    · exact first use inFirst
    · split_ifs at labelled with names
      · rw [List.mem_singleton.mp labelled]
        exact names
      · cases labelled
    · exact others use inRest

end Expr

theorem Identifier.check_ok_iff (name : String) :
    check name = .ok () ↔ Text.isBlank name = false ∧ Char.ofNat 0 ∉ name.toList := by
  unfold check
  split_ifs with blank nul
  · simp [blank]
  · simpa using fun _ => nul
  · simpa [blank] using nul

theorem bracketed_read (name : String) : bracketedNames (Identifier.bracketed name) = [name] := by
  rw [bracketed_of_tokens _ _ (name_tokens name)]
  simp [String.ofList_toList]

theorem bracketed_pair_read (schema table : String) :
    bracketedNames (Identifier.bracketedPair schema table) = [schema, table] := by
  have read := tokenize_closed _ _ _ _ (qualifier_closed schema) (name_tokens table)
  rw [bracketed_of_tokens _ _ (by rwa [← String.toList_append, ← String.toList_append] at read)]
  simp [String.ofList_toList]

theorem Expr.column_use_named (scope : Scope) (reached : scope.aliases.Reached) (expr : Expr)
    (name : String) (used : .column name ∈ expr.uses scope) : Text.isBlank name = false := by
  obtain ⟨participant, takesPart, column, mapped, rfl⟩ := expr.uses_placed scope _ used
  obtain ⟨mapping, accepted⟩ := scope.aliases.reached_accepted reached participant takesPart
  refine Table.of_mapping_named mapping participant.table accepted column.name ?_
  exact List.mem_cons_of_mem _ (List.mem_cons_of_mem _ (List.mem_map_of_mem mapped))

theorem Expr.uses_usable_iff (scope : Scope) (reached : scope.aliases.Reached) (expr : Expr) :
    (∀ name ∈ (expr.uses scope).map NameUse.name, Identifier.check name = .ok ()) ↔
      (∀ name, .column name ∈ expr.uses scope → Char.ofNat 0 ∉ name.toList) ∧
        ∀ name, .label name ∈ expr.uses scope → Identifier.check name = .ok () := by
  rw [List.forall_mem_map]
  constructor
  · intro usable
    constructor
    · intro name used
      exact ((Identifier.check_ok_iff name).mp (usable _ used)).2
    · intro name used
      exact usable _ used
  · rintro ⟨columns, labels⟩ use member
    cases use with
    | column name =>
        have named := expr.column_use_named scope reached name member
        exact (Identifier.check_ok_iff name).mpr ⟨named, columns name member⟩
    | label name => exact labels name member

/-- The names of an accepted mapping are not blank, so its brackets hold usable names as far as no
NUL is among them. What an expression puts between brackets are names of such columns and the labels
of its members: all of it is usable just when no column that is used holds a NUL and every label is
usable. -/
theorem bracketed_usable_iff (mapping : Mapping) (table : Table)
    (accepted : Table.ofMapping mapping = .ok table) (scope : Scope)
    (reached : scope.aliases.Reached) (expr : Expr) (text : String)
    (compiled : expr.compile scope = .ok text) :
    (bracketedNames table.qualifiedName = [table.schema, table.name] ∧
      (∀ column ∈ table.columns, bracketedNames column.quoted = [column.name]) ∧
      ∀ name ∈ table.schema :: table.name :: table.columns.map (·.name),
        Text.isBlank name = false ∧
          (Identifier.check name = .ok () ↔ Char.ofNat 0 ∉ name.toList)) ∧
    bracketedNames text = (expr.uses scope).map NameUse.name ∧
    (∀ use ∈ expr.uses scope, use.Placed scope) ∧
    ((∀ name ∈ bracketedNames text, Identifier.check name = .ok ()) ↔
      (∀ name, .column name ∈ expr.uses scope → Char.ofNat 0 ∉ name.toList) ∧
        ∀ name, .label name ∈ expr.uses scope → Identifier.check name = .ok ()) := by
  have read := Expr.bracketed_uses scope reached expr text compiled
  refine ⟨⟨bracketed_pair_read table.schema table.name, ?_, ?_⟩, read, expr.uses_placed scope, ?_⟩
  · intro column _
    exact bracketed_read column.name
  · intro name member
    have named := Table.of_mapping_named mapping table accepted name member
    refine ⟨named, ?_⟩
    rw [Identifier.check_ok_iff]
    exact and_iff_right named
  · rw [read]
    exact Expr.uses_usable_iff scope reached expr

def Expr.labelled (name : String) : Expr :=
  .object [(name, .column "Multi" "k2")]

theorem labelled_usable :
    ∃ table, Table.ofMapping Sample.multi = .ok table ∧ Aliases.weird.Reached ∧
      (Expr.labelled "a]").compile ⟨Aliases.weird, true⟩ = .ok "t0.[K2] AS [a]]]" ∧
      bracketedNames table.qualifiedName = ["my]schema", "we]ird'T"] ∧
      ∀ name ∈ bracketedNames "t0.[K2] AS [a]]]", Identifier.check name = .ok () := by
  obtain ⟨⟨qualified, _, _⟩, _, _, usable⟩ := bracketed_usable_iff Sample.multi _ rfl
    ⟨Aliases.weird, true⟩ Aliases.weird_reached (Expr.labelled "a]") _ rfl
  refine ⟨_, rfl, Aliases.weird_reached, rfl, qualified, usable.mpr ?_⟩
  have used : (Expr.labelled "a]").uses ⟨Aliases.weird, true⟩ = [.column "K2", .label "a]"] := rfl
  rw [used]
  constructor
  · intro name member
    obtain rfl : name = "K2" := by simpa using member
    decide
  · intro name member
    obtain rfl : name = "a]" := by simpa using member
    rfl

/-- A member without a name is labelled all the same, although no name may be blank, and a mapping
with a NUL in a name is accepted. -/
theorem unusable_bracketed :
    (Expr.labelled "").compile ⟨Aliases.weird, true⟩ = .ok "t0.[K2] AS []" ∧
      bracketedNames "t0.[K2] AS []" = ["K2", ""] ∧
      Identifier.check "" = .error .blankIdentifier ∧
      (∃ table, Table.ofMapping ⟨"Log", some { name := "a\x00b" }, []⟩ = .ok table ∧
        bracketedNames table.qualifiedName = ["dbo", "a\x00b"]) ∧
      Identifier.check "a\x00b" = .error .nulInIdentifier :=
  ⟨rfl, by decide, rfl, ⟨_, rfl, by decide⟩, rfl⟩

end MappedSql
