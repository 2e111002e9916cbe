import MappedSql.Proofs.Replacements
import MappedSql.Proofs.UnwritableValues

/-!
Constructs that statements have no words for. The lowering lowers some parts of an expression and
only evaluates others, but it skips none: when an expression compiles, the part in every place of it
was lowered or evaluated, a row of which a member is taken apart. So one construct without words, in
whatever place, makes the whole expression refused; and what is refused for such a construct has it.
-/

namespace MappedSql

open Outcome

namespace Expr

/-- A construct without words, with what it is refused for where the lowering meets it. A row is one
as well, but not where a member of it is taken. -/
inductive Unsupported : Expr → Fault → Prop where
  | operator {op : BinaryOperator} (left right : Expr) :
      op.sql? = none → Unsupported (binary op left right) (.unspelledBinary op.name)
  | onesComplement (operand : Expr) :
      Unsupported (unary .onesComplement operand) (.unspelledUnary "OnesComplement")
  | arrayLength (operand : Expr) :
      Unsupported (unary .arrayLength operand) (.unspelledUnary "ArrayLength")
  | method {method : String} (receiver : Option Expr) (arguments : List Expr) :
      method ≠ "Contains" → Unsupported (call method receiver arguments) (.unknownMethod method)
  | operands {receiver : Option Expr} {arguments : List Expr} :
      (receiver.toList ++ arguments).length ≠ 2 →
      Unsupported (call "Contains" receiver arguments) (.containsArity arguments.length)
  | row (type : String) : Unsupported (row type) (.rowAsValue type)

inductive HoldsUnsupported : Expr → Fault → Prop where
  | within (place : List Layer) {part : Expr} {fault : Fault} :
      part.Unsupported fault → (takesMember place = true → part.isRow = false) →
      HoldsUnsupported (fill place part) fault

def Used (scope : Scope) (part : Expr) : Prop :=
  (∃ beside fragment, Lowers scope part beside fragment) ∨ ∃ value, part.evaluate = .ok value

variable {scope : Scope}

theorem Lowers.used {part : Expr} {beside : Option Column} {fragment : Fragment}
    (lowers : Lowers scope part beside fragment) : Used scope part :=
  .inl ⟨beside, fragment, lowers⟩

theorem evaluate_source (declaring : Option String) (source : Expr) (name : String) (value : Value)
    (evaluated : (member declaring source name).evaluate = .ok value) :
    ∃ holder, source.evaluate = .ok holder := by
  rw [evaluate] at evaluated
  obtain ⟨holder, source, _⟩ := bind_ok_iff.mp evaluated
  exact ⟨holder, source⟩

theorem column_of_row (aliases : Aliases) (declaring : Option String) (source : Expr)
    (name : String) (reference : ColumnReference)
    (resolved : columnOf aliases (member declaring source name) = .ok (some reference)) :
    source.isRow = true := by
  unfold columnOf at resolved
  split at resolved
  · rename_i same
    cases same
    rfl
  · cases resolved

theorem collection_used (beside : Option Column) (collection : Expr) (literals : List Literal)
    (written : collectionLiterals beside collection = .ok literals) : Used scope collection := by
  obtain ⟨value, evaluated, _⟩ := bind_ok_iff.mp written
  exact .inr ⟨value, evaluated⟩

-- Of a membership test, the element is lowered and the collection is evaluated.
theorem operand_used {method : String} {receiver : Option Expr} {arguments : List Expr}
    {beside : Option Column} {fragment : Fragment}
    (lowers : Lowers scope (call method receiver arguments) beside fragment) (part : Expr)
    (operand : part ∈ receiver.toList ++ arguments) : Used scope part := by
  cases lowers with
  | contains operands element written =>
      have collection : Used scope _ := collection_used _ _ _ written
      cases operands with
      | method _ _ =>
          rcases List.mem_pair.mp operand with rfl | rfl
          · exact collection
          · exact element.used
      | function _ _ =>
          rcases List.mem_pair.mp operand with rfl | rfl
          · exact collection
          · exact element.used

theorem member_used {entries : List (String × Expr)} {beside : Option Column} {fragment : Fragment}
    (lowers : Lowers scope (object entries) beside fragment) (entry : String × Expr)
    (member : entry ∈ entries) : Used scope entry.2 := by
  cases lowers with
  | @object _ _ items names each =>
      have lengths : entries.length = items.length := by
        simpa using (congrArg List.length names).symm
      rw [← List.map_fst_zip (Nat.le_of_eq lengths)] at member
      obtain ⟨pair, inside, rfl⟩ := List.mem_map.mp member
      exact (each pair inside).used

theorem around_lowered (layer : Layer) (part : Expr) {beside : Option Column} {fragment : Fragment}
    (lowers : Lowers scope (layer.around part) beside fragment) :
    Used scope part ∨ layer.takesMember = true ∧ part.isRow = true := by
  cases layer with
  | source declaring name =>
      cases lowers with
      | column resolved => exact .inr ⟨rfl, column_of_row _ _ _ _ _ resolved⟩
      | captured _ evaluated _ => exact .inl (.inr (evaluate_source _ _ _ _ evaluated))
  | left op other => cases lowers with | binary _ first _ => exact .inl first.used
  | right op other => cases lowers with | binary _ _ second => exact .inl second.used
  | operand op =>
      cases lowers with
      | negate inner => exact .inl inner.used
      | not inner => exact .inl inner.used
      | convert inner => exact .inl inner.used
  | test first second => cases lowers with | conditional test _ _ => exact .inl test.used
  | whenTrue test second => cases lowers with | conditional _ first _ => exact .inl first.used
  | whenFalse test first => cases lowers with | conditional _ _ second => exact .inl second.used
  | entry earlier name later => exact .inl (member_used lowers (name, part) (by simp))
  | receiver method arguments => exact .inl (operand_used lowers part (by simp))
  | argument method receiver earlier later => exact .inl (operand_used lowers part (by simp))

-- Only chains and changes of type are evaluated, and these by way of the part.
theorem around_evaluated (layer : Layer) (part : Expr) (value : Value)
    (evaluated : (layer.around part).evaluate = .ok value) : Used scope part := by
  cases layer with
  | source declaring name => exact .inr (evaluate_source _ _ _ _ evaluated)
  | operand op =>
      cases op with
      | convert => exact .inr ⟨value, by rwa [Layer.around, evaluate] at evaluated⟩
      | negate | not | onesComplement | arrayLength => cases evaluated
  | _ => cases evaluated

/-- Nothing is skipped: when an expression is used, so is the part in every place of it, unless that
is a row of which a member is taken. -/
theorem fill_used (place : List Layer) (part : Expr) (used : Used scope (fill place part)) :
    Used scope part ∨ takesMember place = true ∧ part.isRow = true := by
  induction place with
  | nil => exact .inl used
  | cons layer inner ih =>
      have next : Used scope (fill inner part) ∨
          layer.takesMember = true ∧ (fill inner part).isRow = true := by
        rcases used with ⟨_, _, lowers⟩ | ⟨value, evaluated⟩
        · exact around_lowered layer _ lowers
        · exact .inl (around_evaluated layer _ value evaluated)
      cases inner with
      | nil => exact next
      | cons deeper more =>
          rcases next with usedInner | ⟨_, row⟩
          · exact ih usedInner
          · rw [fill, deeper.around_no_row] at row
            cases row

/-! No rule of the lowering is about such a construct, and it has no value either, so an expression
that has one in whatever place does not compile. Conversely, the reasons for which values and names
are refused name no construct, so whoever reads such a reason finds the construct in the
expression. -/

theorem operands_counted {receiver : Option Expr} {arguments : List Expr} {collection element : Expr}
    (operands : TestsMembership receiver arguments collection element) :
    (receiver.toList ++ arguments).length = 2 := by
  cases operands <;> rfl

theorem unsupported_unused {part : Expr} {fault : Fault} (unsupported : part.Unsupported fault) :
    ¬ Used scope part := by
  rintro (⟨_, _, lowers⟩ | ⟨value, evaluated⟩)
  · cases unsupported with
    | operator left right unspelled =>
        cases lowers with | binary spelled _ _ => cases unspelled.symm.trans spelled
    | method receiver arguments other =>
        cases lowers with | contains _ _ _ => exact other rfl
    | operands wrong =>
        cases lowers with | contains operands _ _ => exact wrong (operands_counted operands)
    | onesComplement operand | arrayLength operand | row type => cases lowers
  · cases unsupported <;> cases evaluated

theorem held_refused (scope : Scope) {expr : Expr} {construct : Fault}
    (holds : expr.HoldsUnsupported construct) : ∃ fault, expr.compile scope = .error fault := by
  obtain ⟨place, unsupported, allowed⟩ := holds
  cases compiled : (fill place _).compile scope with
  | error fault => exact ⟨fault, rfl⟩
  | ok text =>
      obtain ⟨fragment, lowered, _⟩ := map_ok_iff.mp compiled
      rcases fill_used place _ (lower_lowers _ _ _ _ lowered).used with used | ⟨taken, row⟩
      · exact absurd used (unsupported_unused unsupported)
      · rw [allowed taken] at row
        cases row

end Expr

namespace Fault

def namesConstruct : Fault → Bool
  | unspelledBinary _ | unspelledUnary _ | unknownMethod _ | containsArity _ | rowAsValue _ => true
  | _ => false

def OfPart (fault : Fault) : Prop :=
  fault.category.isUnsupported = true ∧ fault.namesConstruct = false

end Fault

open Fault

namespace Value

theorem literal_of_part (policy : LiteralPolicy) (value : Value) :
    FaultsAre OfPart (value.literal policy) := by
  intro fault refused
  have unsupported := literal_unsupported policy value fault refused
  refine ⟨by rw [unsupported]; rfl, ?_⟩
  cases fault <;> first | rfl | cases unsupported

theorem coerce_of_part (known : Enumeration) (storage : EnumStorage) (value : Value) :
    FaultsAre OfPart (known.coerce storage value) := by
  unfold Enumeration.coerce
  split
  · split
    · exact .of_ok _
    · exact .of_ok _
    · exact .of_error ⟨rfl, rfl⟩
  · split
    · split
      · exact .of_ok _
      · exact .of_error ⟨rfl, rfl⟩
    · exact .of_ok _

theorem beside_of_part (value : Value) (beside : Option Column) :
    FaultsAre OfPart (value.literalBeside beside) := by
  unfold literalBeside
  split
  · exact literal_of_part _ _
  · split
    · exact .bind (coerce_of_part _ _ _) fun _ _ => literal_of_part _ _
    · exact literal_of_part _ _

end Value

theorem Record.read_of_part (record : Record) (name : String) :
    FaultsAre OfPart (record.read? name) := by
  intro fault refused
  obtain ⟨_, _, rfl⟩ := read_refused_iff.mp refused
  exact ⟨rfl, rfl⟩

namespace Expr

theorem column_of_part (aliases : Aliases) (expr : Expr) :
    FaultsAre OfPart (columnOf aliases expr) := by
  unfold columnOf
  split
  · split
    · exact .of_error ⟨rfl, rfl⟩
    · split
      · exact .of_error ⟨rfl, rfl⟩
      · exact .of_ok _
  · exact .of_ok _

theorem evaluate_of_part (expr : Expr) : FaultsAre OfPart expr.evaluate := by
  fun_induction evaluate expr with
  | case1 value => exact .of_ok value
  | case2 declaring source name ih =>
      refine .bind ih fun value _ => ?_
      split
      · refine .bind (Record.read_of_part _ name) fun read _ => ?_
        cases read with
        | none => exact .of_error ⟨rfl, rfl⟩
        | some value => exact .of_ok value
      · exact .of_error ⟨rfl, rfl⟩
  | case3 operand ih => exact ih
  | case4 type => exact .of_error ⟨rfl, rfl⟩
  | case5 other => exact .of_error ⟨rfl, rfl⟩

theorem contains_of_part (aliases : Aliases) (collection element : Expr) (lowered : Fragment) :
    FaultsAre OfPart (containsTest aliases collection element lowered) := by
  refine .map (.bind collection.evaluate_of_part fun value _ => ?_) _
  split
  · exact .mapM fun item _ => item.beside_of_part _
  · exact .of_error ⟨rfl, rfl⟩

def RefusedFor (expr : Expr) (fault : Fault) : Prop :=
  fault.OfPart ∨ expr.HoldsUnsupported fault

namespace RefusedFor

variable {part : Expr} {fault : Fault}

theorem itself (unsupported : part.Unsupported fault) : part.RefusedFor fault :=
  .inr (.within [] unsupported nofun)

-- A row stays a construct without words where no member is taken.
theorem around (layer : Layer) (valued : layer.takesMember = false) (refused : part.RefusedFor fault) :
    (layer.around part).RefusedFor fault := by
  rcases refused with ofPart | ⟨place, unsupported, allowed⟩
  · exact .inl ofPart
  · refine .inr (.within (layer :: place) unsupported fun taken => ?_)
    cases place with
    | nil => cases valued.symm.trans taken
    | cons _ _ => exact allowed taken

theorem entry {entries : List (String × Expr)}
    (refused : fault.OfPart ∨ ∃ entry ∈ entries, entry.2.HoldsUnsupported fault) :
    (object entries).RefusedFor fault := by
  rcases refused with ofPart | ⟨⟨name, part⟩, member, holds⟩
  · exact .inl ofPart
  · obtain ⟨earlier, later, rfl⟩ := List.append_of_mem member
    exact around (.entry earlier name later) rfl (.inr holds)

end RefusedFor

theorem lower_refused_for (scope : Scope) (expr : Expr) (beside : Option Column) :
    FaultsAre expr.RefusedFor (expr.lower scope beside) := by
  refine Expr.lower.induct scope
    (fun expr beside => FaultsAre expr.RefusedFor (expr.lower scope beside))
    (fun entries => FaultsAre
      (fun fault => fault.OfPart ∨ ∃ entry ∈ entries, entry.2.HoldsUnsupported fault)
      (lowerMembers scope entries))
    ?row ?constant ?member ?unspelled ?binary ?negate ?not ?convert ?onesComplement ?arrayLength
    ?conditional ?object ?unknown ?method ?function ?arity ?noMember ?firstMember expr beside
  case row =>
    intro type beside
    rw [lower]
    exact .of_error (.itself (.row type))
  case constant =>
    intro value beside
    rw [lower]
    exact .map ((value.beside_of_part beside).imp fun _ => .inl) _
  case member =>
    intro declaring source name beside
    rw [lower]
    refine .bind ((column_of_part scope.aliases _).imp fun _ => .inl) fun read _ => ?_
    cases read with
    | some reference => exact .of_ok _
    | none =>
        exact .bind ((evaluate_of_part _).imp fun _ => .inl) fun value _ =>
          .bind ((value.beside_of_part beside).imp fun _ => .inl) fun _ _ => .of_ok _
  case unspelled =>
    intro op left right _ unspelled
    simp only [lower, unspelled]
    exact .of_error (.itself (.operator left right unspelled))
  case binary =>
    intro op left right _ sql spelled first second
    simp only [lower, spelled]
    exact .bind (first.imp fun _ => .around (.left op right) rfl) fun _ _ =>
      .bind (second.imp fun _ => .around (.right op left) rfl) fun _ _ => .of_ok _
  case negate =>
    intro operand beside ih
    rw [lower]
    exact .map (ih.imp fun _ => .around (.operand .negate) rfl) _
  case not =>
    intro operand beside ih
    rw [lower]
    exact .map (ih.imp fun _ => .around (.operand .not) rfl) _
  case convert =>
    intro operand beside ih
    rw [lower]
    exact ih.imp fun _ => .around (.operand .convert) rfl
  case onesComplement =>
    intro operand beside
    rw [lower]
    exact .of_error (.itself (.onesComplement operand))
  case arrayLength =>
    intro operand beside
    rw [lower]
    exact .of_error (.itself (.arrayLength operand))
  case conditional =>
    intro test whenTrue whenFalse beside first second third
    rw [lower]
    exact .bind (first.imp fun _ => .around (.test whenTrue whenFalse) rfl) fun _ _ =>
      .bind (second.imp fun _ => .around (.whenTrue test whenFalse) rfl) fun _ _ =>
        .bind (third.imp fun _ => .around (.whenFalse test whenTrue) rfl) fun _ _ => .of_ok _
  case object =>
    intro entries _ ih
    rw [lower]
    exact .map (ih.imp fun _ => .entry) _
  case unknown =>
    intro method receiver arguments _ unknown
    unfold lower
    rw [if_pos unknown]
    exact .of_error (.itself (.method receiver arguments unknown))
  case method =>
    intro method _ known collection element ih
    simp only [lower, known, ↓reduceIte]
    exact .bind (ih.imp fun _ => .around (.argument method (some collection) [] []) rfl) fun _ _ =>
      (contains_of_part _ _ _ _).imp fun _ => .inl
  case function =>
    intro method _ known collection element ih
    simp only [lower, known, ↓reduceIte]
    exact .bind (ih.imp fun _ => .around (.argument method none [collection] []) rfl) fun _ _ =>
      (contains_of_part _ _ _ _).imp fun _ => .inl
  case arity =>
    intro method receiver arguments _ known notMethod notFunction
    obtain rfl := not_not.mp known
    have wrong : (receiver.toList ++ arguments).length ≠ 2 := by
      intro two
      cases receiver with
      | none =>
          obtain ⟨collection, element, same⟩ := List.length_eq_two.mp two
          exact notFunction collection element rfl same
      | some collection =>
          obtain ⟨element, same⟩ := List.length_eq_one_iff.mp (Nat.succ.inj two)
          exact notMethod collection element rfl same
    simp only [lower, known, ↓reduceIte]
    exact .of_error (.itself (.operands wrong))
  case noMember =>
    rw [lowerMembers]
    exact .of_ok _
  case firstMember =>
    intro name value rest first others
    rw [lowerMembers]
    refine .bind (first.imp fun _ => .imp_right fun holds => ⟨_, List.mem_cons_self, holds⟩)
      fun _ _ => .bind (others.imp fun _ => .imp_right ?_) fun _ _ => .of_ok _
    rintro ⟨entry, member, holds⟩
    exact ⟨entry, List.mem_cons_of_mem _ member, holds⟩

/-- An unsupported construct is never dropped: an expression with one in some place, at whatever
depth, is refused, in every scope. And where the refusal names a construct, the expression has just
this one in some place. -/
theorem unsupported_refused (scope : Scope) (expr : Expr) :
    (∀ construct, expr.HoldsUnsupported construct →
        ∃ fault, expr.compile scope = .error fault) ∧
      ∀ fault, expr.compile scope = .error fault → fault.namesConstruct = true →
        expr.HoldsUnsupported fault := by
  refine ⟨fun construct holds => held_refused scope holds, fun fault refused names => ?_⟩
  have known : FaultsAre expr.RefusedFor (expr.compile scope) :=
    .map (lower_refused_for scope expr none) _
  rcases known fault refused with ofPart | holds
  · cases ofPart.2.symm.trans names
  · exact holds

def complementListed : Expr :=
  binary .orElse (binary .equal (column "Person" "name") (constant (.text "Ann")))
    (contains (constant (.list []))
      (unary .convert (unary .onesComplement (column "Person" "id"))))

/-- No key is in an empty list, but the complement is refused all the same, and for itself. -/
theorem listed_complement_refused :
    ∃ fault, complementListed.compile ⟨ofPersons, false⟩ = .error fault ∧
      fault.message = "Unsupported expression: unary operator OnesComplement" ∧
        complementListed.HoldsUnsupported fault := by
  have holds : complementListed.HoldsUnsupported (.unspelledUnary "OnesComplement") :=
    .within [.right .orElse _, .argument "Contains" _ [] [], .operand .convert]
      (.onesComplement _) nofun
  obtain ⟨whole, each⟩ := unsupported_refused ⟨ofPersons, false⟩ complementListed
  obtain ⟨fault, refused⟩ := whole _ holds
  obtain rfl : .unspelledUnary "OnesComplement" = fault := Except.error.inj refused
  exact ⟨_, refused, rfl, each _ refused rfl⟩

end Expr

end MappedSql
