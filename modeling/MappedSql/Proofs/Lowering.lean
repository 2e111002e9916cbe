import MappedSql.Expr.Lowering
import MappedSql.Proofs.Outcome
import MappedSql.Proofs.Registration

/-!
What a successful lowering has done. `Lowers` has one rule for each way in which an expression
becomes a fragment, with everything that had to succeed on the way; what is true of all lowered
fragments is proved by induction over it.
-/

namespace MappedSql

open Outcome

namespace BinaryOperator

def isArithmetic : BinaryOperator → Bool
  | add | subtract | multiply | divide | modulo => true
  | _ => false

def isConnective : BinaryOperator → Bool
  | andAlso | orElse => true
  | _ => false

end BinaryOperator

namespace Expr

/-- The operands of a membership test: the collection comes first, as receiver or as argument. -/
inductive TestsMembership : Option Expr → List Expr → Expr → Expr → Prop where
  | method (collection element : Expr) :
      TestsMembership (some collection) [element] collection element
  | function (collection element : Expr) :
      TestsMembership none [collection, element] collection element

inductive Lowers (scope : Scope) : Expr → Option Column → Fragment → Prop where
  | constant {value : Value} {beside : Option Column} {literal : Literal} :
      value.literalBeside beside = .ok literal →
      Lowers scope (constant value) beside (.literal literal)
  | column {declaring : Option String} {source : Expr} {name : String} {beside : Option Column}
      {reference : ColumnReference} :
      columnOf scope.aliases (member declaring source name) = .ok (some reference) →
      Lowers scope (member declaring source name) beside
        (.column reference.participant.aliasName reference.column.name)
  | captured {declaring : Option String} {source : Expr} {name : String} {beside : Option Column}
      {value : Value} {literal : Literal} :
      columnOf scope.aliases (member declaring source name) = .ok none →
      evaluate (member declaring source name) = .ok value →
      value.literalBeside beside = .ok literal →
      Lowers scope (member declaring source name) beside (.literal literal)
  | binary {op : BinaryOperator} {sql : SqlOperator} {left right : Expr} {beside : Option Column}
      {first second : Fragment} :
      op.sql? = some sql →
      Lowers scope left (right.columnBeside scope.aliases) first →
      Lowers scope right (left.columnBeside scope.aliases) second →
      Lowers scope (binary op left right) beside (.combine sql first second)
  | negate {operand : Expr} {beside : Option Column} {part : Fragment} :
      Lowers scope operand beside part → Lowers scope (unary .negate operand) beside (.negation part)
  | not {operand : Expr} {beside : Option Column} {part : Fragment} :
      Lowers scope operand none part → Lowers scope (unary .not operand) beside (.complement part)
  | convert {operand : Expr} {beside : Option Column} {part : Fragment} :
      Lowers scope operand beside part → Lowers scope (unary .convert operand) beside part
  | conditional {test whenTrue whenFalse : Expr} {beside : Option Column}
      {first second third : Fragment} :
      Lowers scope test none first → Lowers scope whenTrue beside second →
      Lowers scope whenFalse beside third →
      Lowers scope (conditional test whenTrue whenFalse) beside (.choice first second third)
  | object {members : List (String × Expr)} {beside : Option Column}
      {items : List (Option String × Fragment)} :
      items.map Prod.fst =
        members.map (fun entry => if scope.namesMembers then some entry.1 else none) →
      (∀ pair ∈ members.zip items, Lowers scope pair.1.2 none pair.2.2) →
      Lowers scope (object members) beside (.members items)
  | contains {receiver : Option Expr} {arguments : List Expr} {collection element : Expr}
      {beside : Option Column} {part : Fragment} {literals : List Literal} :
      TestsMembership receiver arguments collection element →
      Lowers scope element none part →
      collectionLiterals (element.columnBeside scope.aliases) collection = .ok literals →
      Lowers scope (call "Contains" receiver arguments) beside (membershipTest part literals)

theorem call_lowers {scope : Scope} {receiver : Option Expr} {arguments : List Expr}
    {collection element : Expr} {beside : Option Column} {fragment : Fragment}
    (operands : TestsMembership receiver arguments collection element)
    (inner : ∀ part, element.lower scope none = .ok part → Lowers scope element none part)
    (lowered : (do
      let part ← element.lower scope none
      containsTest scope.aliases collection element part) = .ok fragment) :
    Lowers scope (call "Contains" receiver arguments) beside fragment := by
  obtain ⟨part, first, rest⟩ := bind_ok_iff.mp lowered
  obtain ⟨literals, written, rfl⟩ := map_ok_iff.mp rest
  exact .contains operands (inner part first) written

theorem lower_lowers (scope : Scope) (expr : Expr) (beside : Option Column) (fragment : Fragment)
    (lowered : expr.lower scope beside = .ok fragment) : Lowers scope expr beside fragment := by
  revert fragment
  -- Members are followed along with the expressions, name by name.
  refine Expr.lower.induct scope
    (fun expr beside => ∀ fragment, expr.lower scope beside = .ok fragment →
      Lowers scope expr beside fragment)
    (fun members => ∀ items, lowerMembers scope members = .ok items →
      items.map Prod.fst =
        members.map (fun entry => if scope.namesMembers then some entry.1 else none) ∧
      ∀ pair ∈ members.zip items, Lowers scope pair.1.2 none pair.2.2)
    ?row ?constant ?member ?unspelled ?binary ?negate ?not ?convert ?onesComplement ?arrayLength
    ?conditional ?object ?unknown ?method ?function ?arity ?noMember ?firstMember expr beside
  case row =>
    intro type beside fragment lowered
    simp [lower] at lowered
  case constant =>
    intro value beside fragment lowered
    rw [lower] at lowered
    obtain ⟨literal, written, rfl⟩ := map_ok_iff.mp lowered
    exact .constant written
  case member =>
    intro declaring source name beside fragment lowered
    rw [lower] at lowered
    obtain ⟨reference, resolved, rest⟩ := bind_ok_iff.mp lowered
    cases reference with
    | some reference =>
        cases rest
        exact .column resolved
    | none =>
        obtain ⟨value, evaluated, more⟩ := bind_ok_iff.mp rest
        obtain ⟨literal, written, same⟩ := bind_ok_iff.mp more
        cases same
        exact .captured resolved evaluated written
  case unspelled =>
    intro op left right _ unspelled fragment lowered
    simp [lower, unspelled] at lowered
  case binary =>
    intro op left right _ sql spelled first second fragment lowered
    simp only [lower, spelled] at lowered
    obtain ⟨leftPart, leftLowered, rest⟩ := bind_ok_iff.mp lowered
    obtain ⟨rightPart, rightLowered, same⟩ := bind_ok_iff.mp rest
    cases same
    exact .binary spelled (first _ leftLowered) (second _ rightLowered)
  case negate =>
    intro operand beside ih fragment lowered
    rw [lower] at lowered
    obtain ⟨part, inner, rfl⟩ := map_ok_iff.mp lowered
    exact .negate (ih part inner)
  case not =>
    intro operand beside ih fragment lowered
    rw [lower] at lowered
    obtain ⟨part, inner, rfl⟩ := map_ok_iff.mp lowered
    exact .not (ih part inner)
  case convert =>
    intro operand beside ih fragment lowered
    rw [lower] at lowered
    exact .convert (ih fragment lowered)
  case onesComplement =>
    intro operand beside fragment lowered
    simp [lower] at lowered
  case arrayLength =>
    intro operand beside fragment lowered
    simp [lower] at lowered
  case conditional =>
    intro test whenTrue whenFalse beside first second third fragment lowered
    rw [lower] at lowered
    obtain ⟨testPart, testLowered, rest⟩ := bind_ok_iff.mp lowered
    obtain ⟨truePart, trueLowered, more⟩ := bind_ok_iff.mp rest
    obtain ⟨falsePart, falseLowered, same⟩ := bind_ok_iff.mp more
    cases same
    exact .conditional (first _ testLowered) (second _ trueLowered) (third _ falseLowered)
  case object =>
    intro members _ ih fragment lowered
    rw [lower] at lowered
    obtain ⟨items, inner, rfl⟩ := map_ok_iff.mp lowered
    exact .object (ih items inner).1 (ih items inner).2
  case unknown =>
    intro method receiver arguments _ unknown fragment lowered
    unfold lower at lowered
    simp [unknown] at lowered
  case method =>
    intro method _ known collection element ih fragment lowered
    obtain rfl := not_not.mp known
    simp only [lower, ne_eq, not_true_eq_false, ↓reduceIte] at lowered
    exact call_lowers (.method collection element) ih lowered
  case function =>
    intro method _ known collection element ih fragment lowered
    obtain rfl := not_not.mp known
    simp only [lower, ne_eq, not_true_eq_false, ↓reduceIte] at lowered
    exact call_lowers (.function collection element) ih lowered
  case arity =>
    intro method receiver arguments _ known notMethod notFunction fragment lowered
    simp only [lower, known, ↓reduceIte] at lowered
    contradiction
  case noMember =>
    intro items lowered
    rw [lowerMembers] at lowered
    cases lowered
    simp
  case firstMember =>
    intro name value rest first others items lowered
    rw [lowerMembers] at lowered
    obtain ⟨part, inner, more⟩ := bind_ok_iff.mp lowered
    obtain ⟨later, restLowered, same⟩ := bind_ok_iff.mp more
    cases same
    obtain ⟨names, parts⟩ := others later restLowered
    refine ⟨by simp [names], fun pair member => ?_⟩
    rcases List.mem_cons.mp member with rfl | inRest
    · exact first part inner
    · exact parts pair inRest

theorem lower_members (scope : Scope) (members : List (String × Expr))
    (items : List (Option String × Fragment))
    (names : items.map Prod.fst =
      members.map fun entry => if scope.namesMembers then some entry.1 else none)
    (parts : ∀ pair ∈ members.zip items, pair.1.2.lower scope none = .ok pair.2.2) :
    lowerMembers scope members = .ok items := by
  induction members generalizing items with
  | nil =>
      obtain rfl : items = [] := List.map_eq_nil_iff.mp names
      rfl
  | cons member rest ih =>
      cases items with
      | nil => cases names
      | cons item others =>
          obtain ⟨name, later⟩ := List.cons.inj names
          have first := parts (member, item) List.mem_cons_self
          have more := ih others later fun pair inside =>
            parts pair (List.mem_cons_of_mem _ inside)
          rw [lowerMembers, first, more]
          exact congrArg (fun label => Except.ok ((label, item.2) :: others)) name.symm

-- The rules are complete: each of them says what the lowering does.
theorem lower_of_lowers (scope : Scope) (expr : Expr) (beside : Option Column) (fragment : Fragment)
    (lowers : Lowers scope expr beside fragment) : expr.lower scope beside = .ok fragment := by
  induction lowers with
  | constant written => rw [lower, written]; rfl
  | column resolved => rw [lower, resolved]; rfl
  | captured resolved evaluated written =>
      rw [lower]
      exact bind_ok_iff.mpr ⟨none, resolved,
        bind_ok_iff.mpr ⟨_, evaluated, bind_ok_iff.mpr ⟨_, written, rfl⟩⟩⟩
  | binary spelled _ _ first second =>
      simp only [lower, spelled, first, second]
      rfl
  | negate _ ih => rw [lower, ih]; rfl
  | not _ ih => rw [lower, ih]; rfl
  | convert _ ih => rw [lower, ih]
  | conditional _ _ _ first second third =>
      rw [lower, first, second, third]
      rfl
  | object names _ ih =>
      rw [lower, lower_members scope _ _ names ih]
      rfl
  | contains operands _ collected ih =>
      cases operands <;>
        simp only [lower, ne_eq, not_true_eq_false, ↓reduceIte, ih, containsTest, collected] <;> rfl

theorem column_of_mapped (aliases : Aliases) (expr : Expr) (reference : ColumnReference)
    (resolved : columnOf aliases expr = .ok (some reference)) :
    reference.participant ∈ aliases.participants ∧
      reference.column ∈ reference.participant.table.columns := by
  unfold columnOf at resolved
  split at resolved
  · split at resolved
    · contradiction
    · rename_i participant found
      split at resolved
      · contradiction
      · rename_i column mapped
        cases resolved
        exact ⟨aliases.find_member _ participant found, List.mem_of_find?_eq_some mapped⟩
  · cases resolved

-- The columns of a lowered expression belong to participants, which are numbered.
theorem column_of_numbered (aliases : Aliases) (reached : aliases.Reached) (expr : Expr)
    (reference : ColumnReference) (resolved : columnOf aliases expr = .ok (some reference)) :
    ∃ count, reference.participant.aliasName = Aliases.numbered count :=
  aliases.reached_numbered reached reference.participant
    (column_of_mapped aliases expr reference resolved).1

end Expr

end MappedSql
