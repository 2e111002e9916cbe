import MappedSql.Proofs.StoredComparisons
import Mathlib.Data.Setoid.Basic

/-!
Replacing a part of an expression. The lowering looks at a part in four ways: it lowers it, it
evaluates it, it asks for the column that it is, and, where a member of it is taken, whether it is a
row. Parts that are alike in all of these can be put in each other's place, at any depth. So a chain
of members of a constant and its value compile alike, and a change of type is never seen.
-/

namespace MappedSql.Expr

open Outcome

def isRow : Expr → Bool
  | row _ => true
  | _ => false

inductive Layer where
  | source (declaring : Option String) (name : String)
  | left (op : BinaryOperator) (right : Expr)
  | right (op : BinaryOperator) (left : Expr)
  | operand (op : UnaryOperator)
  | test (whenTrue whenFalse : Expr)
  | whenTrue (test whenFalse : Expr)
  | whenFalse (test whenTrue : Expr)
  | entry (earlier : List (String × Expr)) (name : String) (later : List (String × Expr))
  | receiver (method : String) (arguments : List Expr)
  | argument (method : String) (receiver : Option Expr) (earlier later : List Expr)

namespace Layer

def around : Layer → Expr → Expr
  | source declaring name, part => member declaring part name
  | left op other, part => binary op part other
  | right op other, part => binary op other part
  | operand op, part => unary op part
  | test first second, part => conditional part first second
  | whenTrue condition second, part => conditional condition part second
  | whenFalse condition first, part => conditional condition first part
  | entry earlier name later, part => object (earlier ++ (name, part) :: later)
  | receiver method arguments, part => call method (some part) arguments
  | argument method first earlier later, part => call method first (earlier ++ part :: later)

def takesMember : Layer → Bool
  | source .. => true
  | _ => false

theorem around_no_row (layer : Layer) (part : Expr) : (layer.around part).isRow = false := by
  cases layer <;> rfl

end Layer

def fill : List Layer → Expr → Expr
  | [], part => part
  | layer :: inner, part => layer.around (fill inner part)

def takesMember (place : List Layer) : Bool :=
  place.getLast?.any Layer.takesMember

/-- The two are alike in each way in which the lowering looks at a part; but it looks at the source
of a member in one way more. -/
structure Interchangeable (scope : Scope) (first second : Expr) : Prop where
  lowered : ∀ beside, first.lower scope beside = second.lower scope beside
  evaluated : first.evaluate = second.evaluate
  besides : first.columnBeside scope.aliases = second.columnBeside scope.aliases

namespace Interchangeable

variable {scope : Scope} {first second : Expr}

theorem refl (expr : Expr) : Interchangeable scope expr expr :=
  ⟨fun _ => rfl, rfl, rfl⟩

theorem compiled (alike : Interchangeable scope first second) :
    first.compile scope = second.compile scope := by
  rw [compile, compile, alike.lowered]

-- A row as the source makes a column of the member, whatever type the row itself has.
theorem column_of_source (aliases : Aliases) (rows : first.isRow = second.isRow)
    (declaring : Option String) (name : String) :
    columnOf aliases (member declaring first name) =
      columnOf aliases (member declaring second name) := by
  cases declaring with
  | none => rfl
  | some type => cases first <;> cases second <;> first | rfl | cases rows

theorem member (alike : Interchangeable scope first second) (rows : first.isRow = second.isRow)
    (declaring : Option String) (name : String) :
    Interchangeable scope (member declaring first name) (member declaring second name) := by
  have resolved := column_of_source scope.aliases rows declaring name
  have evaluated : (Expr.member declaring first name).evaluate =
      (Expr.member declaring second name).evaluate := by
    rw [evaluate, evaluate, alike.evaluated]
  refine ⟨fun beside => ?_, evaluated, ?_⟩
  · rw [lower, lower, resolved, evaluated]
  · rw [columnBeside, columnBeside, resolved]

theorem binary {left other : Expr} (op : BinaryOperator) (lefts : Interchangeable scope left other)
    (rights : Interchangeable scope first second) :
    Interchangeable scope (binary op left first) (binary op other second) := by
  refine ⟨fun beside => ?_, rfl, rfl⟩
  cases spelled : op.sql? with
  | none => simp only [lower, spelled]
  | some sql =>
      simp only [lower, spelled, lefts.lowered, lefts.besides, rights.lowered, rights.besides]

theorem unary (op : UnaryOperator) (alike : Interchangeable scope first second) :
    Interchangeable scope (unary op first) (unary op second) := by
  cases op with
  | convert =>
      refine ⟨fun beside => ?_, ?_, ?_⟩
      · rw [lower, lower, alike.lowered]
      · rw [evaluate, evaluate, alike.evaluated]
      · rw [columnBeside, columnBeside, alike.besides]
  | negate | not | onesComplement | arrayLength =>
      refine ⟨fun beside => ?_, rfl, rfl⟩
      simp only [lower, alike.lowered]

theorem conditional {test whenTrue whenFalse otherTest otherTrue otherFalse : Expr}
    (tests : Interchangeable scope test otherTest)
    (trues : Interchangeable scope whenTrue otherTrue)
    (falses : Interchangeable scope whenFalse otherFalse) :
    Interchangeable scope (conditional test whenTrue whenFalse)
      (conditional otherTest otherTrue otherFalse) := by
  refine ⟨fun beside => ?_, rfl, rfl⟩
  rw [lower, lower, tests.lowered, trues.lowered, falses.lowered]

def Entries (scope : Scope) (entry other : String × Expr) : Prop :=
  entry.1 = other.1 ∧ Interchangeable scope entry.2 other.2

theorem members {entries others : List (String × Expr)}
    (each : List.Forall₂ (Entries scope) entries others) :
    lowerMembers scope entries = lowerMembers scope others := by
  induction each with
  | nil => rfl
  | @cons entry other _ _ head _ ih =>
      obtain ⟨name, part⟩ := entry
      obtain ⟨_, replaced⟩ := other
      obtain ⟨rfl, alike⟩ := head
      rw [lowerMembers, lowerMembers, ih, alike.lowered]

theorem object {entries others : List (String × Expr)}
    (each : List.Forall₂ (Entries scope) entries others) :
    Interchangeable scope (object entries) (object others) := by
  refine ⟨fun beside => ?_, rfl, rfl⟩
  rw [lower, lower, members each]

theorem containsTest {collection other : Expr} (collections : Interchangeable scope collection other)
    (elements : Interchangeable scope first second) (lowered : Fragment) :
    containsTest scope.aliases collection first lowered =
      containsTest scope.aliases other second lowered := by
  rw [Expr.containsTest, Expr.containsTest, collectionLiterals, collectionLiterals,
    collections.evaluated, elements.besides]

-- The arguments are taken apart as the lowering does it: by their number, after the receiver.
theorem call (method : String) {receiver other : Option Expr} {arguments others : List Expr}
    (receivers : Option.Rel (Interchangeable scope) receiver other)
    (each : List.Forall₂ (Interchangeable scope) arguments others) :
    Interchangeable scope (call method receiver arguments) (call method other others) := by
  refine ⟨fun beside => ?_, rfl, rfl⟩
  have arity : (Except.error (.containsArity arguments.length) : Except Fault Fragment) =
      .error (.containsArity others.length) := by rw [each.length_eq]
  unfold lower
  by_cases known : method = "Contains"
  · simp only [known, ne_eq, not_true_eq_false, ↓reduceIte]
    cases receivers with
    | none =>
        cases each with
        | nil => rfl
        | cons collections rest =>
            cases rest with
            | nil => rfl
            | cons elements more =>
                cases more with
                | nil => simp only [elements.lowered, collections.containsTest elements]
                | cons _ _ => exact arity
    | some collections =>
        cases each with
        | nil => rfl
        | cons elements rest =>
            cases rest with
            | nil => simp only [elements.lowered, collections.containsTest elements]
            | cons _ _ => exact arity
  · simp only [known, ne_eq, not_false_eq_true, ↓reduceIte]

end Interchangeable

/-! A replacement is carried outwards one layer at a time, beside parts that stay. The one thing
that is asked of a part beyond its own lowering is whether it is a row, by the member that is taken
of it; a layer makes no row, so this matters for the innermost layer alone. -/

section Places

variable {scope : Scope} {first second : Expr} (alike : Interchangeable scope first second)

include alike

-- What is beside the place stands on both sides.
theorem around_alike (layer : Layer) (rows : layer.takesMember = true → first.isRow = second.isRow) :
    Interchangeable scope (layer.around first) (layer.around second) := by
  have same : ∀ expr : Expr, Interchangeable scope expr expr := .refl
  have listed (exprs : List Expr) : List.Forall₂ (Interchangeable scope) exprs exprs :=
    List.forall₂_same.mpr fun expr _ => same expr
  cases layer with
  | source declaring name => exact alike.member (rows rfl) declaring name
  | left op other => exact alike.binary op (same other)
  | right op other => exact (same other).binary op alike
  | operand op => exact alike.unary op
  | test other another => exact alike.conditional (same other) (same another)
  | whenTrue condition other => exact (same condition).conditional alike (same other)
  | whenFalse condition other => exact (same condition).conditional (same other) alike
  | entry earlier name later =>
      have entries (named : List (String × Expr)) :
          List.Forall₂ (Interchangeable.Entries scope) named named :=
        List.forall₂_same.mpr fun entry _ => ⟨rfl, same entry.2⟩
      exact .object (List.rel_append (entries earlier) (.cons ⟨rfl, alike⟩ (entries later)))
  | receiver method arguments => exact .call method (.some alike) (listed arguments)
  | argument method receiver earlier later =>
      have receivers : Option.Rel (Interchangeable scope) receiver receiver := by
        cases receiver with
        | none => exact .none
        | some collection => exact .some (same collection)
      exact .call method receivers (List.rel_append (listed earlier) (.cons alike (listed later)))

-- Along the layers, from the inside out: only what is in the place itself can be a row.
theorem fill_alike (place : List Layer) (rows : takesMember place = true → first.isRow = second.isRow) :
    Interchangeable scope (fill place first) (fill place second) := by
  induction place with
  | nil => exact alike
  | cons layer inner ih =>
      cases inner with
      | nil => exact around_alike alike layer rows
      | cons next more =>
          refine around_alike (ih rows) layer fun _ => ?_
          rw [fill, fill, next.around_no_row, next.around_no_row]

end Places

-- Compiling alike is an equivalence, so it is enough that every step leads to what is alike.
theorem linked_compiles_same (scope : Scope) {step : Expr → Expr → Prop}
    (kept : ∀ first second, step first second → Interchangeable scope first second)
    {first second : Expr} (linked : Relation.EqvGen step first second) :
    first.compile scope = second.compile scope := by
  have within : Relation.EqvGen.setoid step ≤ Setoid.ker (compile scope) :=
    Setoid.eqvGen_le fun before after steps => (kept before after steps).compiled
  exact within linked

theorem evaluate_gives (expr : Expr) (value : Value) (evaluated : expr.evaluate = .ok value) :
    Gives value expr := by
  induction expr using evaluate.induct generalizing value with
  | case1 held =>
      cases evaluated
      exact .constant held
  | case2 declaring source name ih =>
      rw [evaluate] at evaluated
      obtain ⟨holder, chain, more⟩ := bind_ok_iff.mp evaluated
      cases holder with
      | record type members =>
          obtain ⟨found, read, taken⟩ := bind_ok_iff.mp more
          rw [Record.read?] at read
          split at read
          · cases read
            cases taken
          · rename_i held stored
            cases read
            cases taken
            exact .captured (ih _ chain) stored
          · cases read
      | _ => cases more
  | case3 operand ih => exact .convert (ih value (by rwa [evaluate] at evaluated))
  | case4 type => cases evaluated
  | case5 other noConstant noMember noConvert noRow =>
      rw [evaluate.eq_5 other noConstant noMember noConvert noRow] at evaluated
      cases evaluated

section Values

variable {value : Value} {expr : Expr} (gives : Gives value expr)

include gives

theorem gives_no_beside (aliases : Aliases) : expr.columnBeside aliases = none := by
  induction gives with
  | constant => rfl
  | captured source held _ => rw [columnBeside, gives_no_column (.captured source held)]
  | convert _ ih => rw [columnBeside, ih]

theorem gives_alike (scope : Scope) : Interchangeable scope expr (constant value) := by
  have itself : Gives value (constant value) := .constant value
  refine ⟨fun beside => ?_, ?_, ?_⟩
  · rw [gives_lower gives, gives_lower itself]
  · rw [gives_evaluate gives, gives_evaluate itself]
  · rw [gives_no_beside gives, gives_no_beside itself]

theorem gives_no_row : expr.isRow = false := by
  cases gives <;> rfl

end Values

/-- A chain of members is replaced, in some place, by the constant that it evaluates to. -/
inductive Folds : Expr → Expr → Prop where
  | chain (place : List Layer) (part : Expr) (value : Value) :
      part.evaluate = .ok value → Folds (fill place part) (fill place (constant value))

theorem folds_alike (scope : Scope) (first second : Expr) (folds : Folds first second) :
    Interchangeable scope first second := by
  cases folds with
  | chain place part value evaluated =>
      have gives := evaluate_gives part value evaluated
      exact fill_alike (gives_alike gives scope) place fun _ => gives_no_row gives

/-- Folding is invisible: whatever chains of members are replaced by their values, and whatever
values by chains, the text is the same, or the fault. -/
theorem folded_compiles_same (scope : Scope) (first second : Expr)
    (linked : Relation.EqvGen Folds first second) : first.compile scope = second.compile scope :=
  linked_compiles_same scope (folds_alike scope) linked

def wanted : Value :=
  .record "Wanted" [("statuses", .ok (.list [.integer .int32 2, .text "Active"]))]

def captured : Expr :=
  constant (.record "Person" [("name", .ok (.text "Ann")), ("wanted", .ok wanted)])

def findsPersons (name statuses : Expr) : Expr :=
  binary .andAlso (contains statuses (column "Person" "status"))
    (binary .equal (column "Person" "name") name)

/-- A chain within a chain is folded, then that one, then another in a comparison. -/
theorem persons_folded :
    (findsPersons (captured.get "name")
        ((unary .convert (captured.get "wanted")).get "statuses")).compile ⟨ofPersons, false⟩ =
      .ok "(t0.[Status] IN ('Inactive','Active') AND (t0.[Name] = 'Ann'))" := by
  let statuses := constant (.list [.integer .int32 2, .text "Active"])
  have inner : Folds
      (findsPersons (captured.get "name")
        ((unary .convert (captured.get "wanted")).get "statuses"))
      (findsPersons (captured.get "name")
        ((unary .convert (constant wanted)).get "statuses")) :=
    .chain [.left .andAlso _, .receiver "Contains" _, .source none "statuses", .operand .convert]
      _ _ rfl
  have whole : Folds
      (findsPersons (captured.get "name") ((unary .convert (constant wanted)).get "statuses"))
      (findsPersons (captured.get "name") statuses) :=
    .chain [.left .andAlso _, .receiver "Contains" _] _ _ rfl
  have compared : Folds (findsPersons (captured.get "name") statuses)
      (findsPersons (constant (.text "Ann")) statuses) :=
    .chain [.right .andAlso _, .right .equal _] _ _ rfl
  exact (folded_compiles_same ⟨ofPersons, false⟩ _ _ (.trans _ _ _ (.rel _ _ inner)
    (.trans _ _ _ (.rel _ _ whole) (.rel _ _ compared)))).trans rfl

theorem converted_alike (scope : Scope) (part : Expr) :
    Interchangeable scope part (unary .convert part) := by
  refine ⟨fun beside => ?_, ?_, ?_⟩
  · rw [lower.eq_def scope (unary .convert part)]
  · rw [evaluate.eq_def (unary .convert part)]
  · rw [columnBeside.eq_def _ (unary .convert part)]

/-- A change of type is put round a part, in some place, unless the part is a row of which a member
is taken there. -/
inductive Retyped : Expr → Expr → Prop where
  | around (place : List Layer) (part : Expr) : (takesMember place = true → part.isRow = false) →
      Retyped (fill place part) (fill place (unary .convert part))

theorem retyped_alike (scope : Scope) (first second : Expr) (retyped : Retyped first second) :
    Interchangeable scope first second := by
  cases retyped with
  | around place part allowed => exact fill_alike (converted_alike scope part) place allowed

/-- A change of type is never seen: wherever some are put round parts or taken away, the text is the
same, or the fault. -/
theorem retyped_compiles_same (scope : Scope) (first second : Expr)
    (linked : Relation.EqvGen Retyped first second) : first.compile scope = second.compile scope :=
  linked_compiles_same scope (retyped_alike scope) linked

/-- Behind changes of type, the column is still one and the number is written by its policy; they
are put round both sides, and the one round the whole is taken away. -/
theorem status_retyped :
    (binary .equal (unary .convert (column "Person" "status"))
        (unary .convert (constant (.integer .int32 2)))).compile ⟨ofPersons, false⟩ =
      .ok "(t0.[Status] = 'Inactive')" := by
  let status := column "Person" "status"
  let number := constant (.integer .int32 2)
  have around : Retyped (binary .equal status number) (unary .convert (binary .equal status number)) :=
    .around [] _ nofun
  have left : Retyped (binary .equal status number) (binary .equal (unary .convert status) number) :=
    .around [.left .equal _] _ nofun
  have right : Retyped (binary .equal (unary .convert status) number)
      (binary .equal (unary .convert status) (unary .convert number)) :=
    .around [.right .equal _] _ nofun
  have linked : Relation.EqvGen Retyped (unary .convert (binary .equal status number))
      (binary .equal (unary .convert status) (unary .convert number)) :=
    .trans _ _ _ (.symm _ _ (.rel _ _ around)) (.trans _ _ _ (.rel _ _ left) (.rel _ _ right))
  exact (retyped_compiles_same ⟨ofPersons, false⟩ _ _ linked).symm.trans rfl

end MappedSql.Expr
