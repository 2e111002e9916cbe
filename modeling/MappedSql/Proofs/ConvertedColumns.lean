import MappedSql.Proofs.JoinedSources
import MappedSql.Proofs.Refusals
import MappedSql.Proofs.StableFragments
import MappedSql.Proofs.UpdateText

/-!
Columns behind changes of type. Statements do not show changes of type, and the lowering looks
through all that are around a column. Where a column itself is asked for, as the target of an
assignment, only the outermost change of type is looked through, so there a column behind two of
them is none.
-/

namespace MappedSql

open Outcome

namespace Expr

def conversions : Expr → Nat
  | unary .convert operand => conversions operand + 1
  | _ => 0

theorem conversions_repeated (count : Nat) (expr : Expr) :
    (repeatUnary .convert count expr).conversions = count + expr.conversions := by
  induction count with
  | zero => simp [repeatUnary]
  | succ count ih => rw [repeatUnary, conversions, ih, Nat.succ_add]

theorem repeated_lowered (scope : Scope) (count : Nat) (expr : Expr) (beside : Option Column) :
    (repeatUnary .convert count expr).lower scope beside = expr.lower scope beside := by
  induction count with
  | zero => rfl
  | succ count ih => rw [repeatUnary, lower, ih]

theorem column_lowered (scope : Scope) (expr : Expr) (reference : ColumnReference)
    (resolved : columnOf scope.aliases expr = .ok (some reference)) (beside : Option Column) :
    expr.lower scope beside =
      .ok (.column reference.participant.aliasName reference.column.name) := by
  cases expr with
  | member declaring source name =>
      rw [lower, resolved]
      rfl
  | _ => cases resolved

theorem to_column_lowered (scope : Scope) (expr : Expr) (reference : ColumnReference)
    (resolved : expr.toColumn scope.aliases = .ok reference) (beside : Option Column) :
    expr.lower scope beside =
      .ok (.column reference.participant.aliasName reference.column.name) := by
  have within := column_lowered scope _ _ ((to_column_iff _ _ _).mp resolved) beside
  rw [← within]
  unfold withoutConvert
  split
  · rw [lower]
  · rfl

theorem to_column_deep (aliases : Aliases) (expr : Expr) (deep : 1 < expr.conversions) :
    expr.toColumn aliases = .error (.expectedColumn "unary") := by
  unfold conversions at deep
  split at deep
  · rename_i operand
    unfold conversions at deep
    split at deep
    · rfl
    · omega
  · omega

theorem bare_without_convert (expr : Expr) (bare : expr.conversions = 0) :
    expr.withoutConvert = expr := by
  unfold withoutConvert
  split
  · rw [conversions] at bare
    cases bare
  · rfl

-- Not more than one in all, so there is either nothing to put around, or nothing around yet.
theorem to_column_repeated (aliases : Aliases) (expr : Expr) (count : Nat)
    (shallow : count + expr.conversions ≤ 1) :
    (repeatUnary .convert count expr).toColumn aliases = expr.toColumn aliases := by
  cases count with
  | zero => rfl
  | succ count =>
      obtain rfl : count = 0 := by omega
      have bare := bare_without_convert expr (by omega)
      rw [repeatUnary, repeatUnary, toColumn, toColumn, bare, withoutConvert]

theorem to_column_shallow (aliases : Aliases) (expr : Expr) (reference : ColumnReference)
    (resolved : expr.toColumn aliases = .ok reference) : expr.conversions ≤ 1 := by
  by_contra deep
  rw [to_column_deep aliases expr (Nat.lt_of_not_le deep)] at resolved
  cases resolved

theorem repeated_column_iff (aliases : Aliases) (expr : Expr) (count : Nat) :
    (∀ reference, (repeatUnary .convert count expr).toColumn aliases = .ok reference ↔
        expr.toColumn aliases = .ok reference) ↔
      ((∃ reference, expr.toColumn aliases = .ok reference) → count + expr.conversions ≤ 1) := by
  constructor
  · rintro same ⟨reference, resolved⟩
    rw [← conversions_repeated]
    exact to_column_shallow aliases _ reference ((same reference).mpr resolved)
  · intro limited reference
    by_cases shallow : count + expr.conversions ≤ 1
    · rw [to_column_repeated aliases expr count shallow]
    · refine iff_of_false (fun resolved => shallow ?_) fun resolved => shallow (limited ⟨_, resolved⟩)
      rw [← conversions_repeated]
      exact to_column_shallow aliases _ reference resolved

end Expr

namespace JoinedUpdateDraft

open MappedSql.Expr

/-- The same target with more changes of type around it, and the same value. -/
def Reconverted (pair other : Expr × Expr) : Prop :=
  ∃ count, other = (repeatUnary .convert count pair.1, pair.2)

theorem reconverted_assignment (aliases : Aliases) (target : String) (pair other : Expr × Expr)
    (reconverted : Reconverted pair other) (shallow : other.1.conversions ≤ 1) :
    assignment aliases target other = assignment aliases target pair := by
  obtain ⟨count, rfl⟩ := reconverted
  rw [conversions_repeated] at shallow
  rw [assignment, assignment, to_column_repeated aliases pair.1 count shallow]

theorem deep_assignment (aliases : Aliases) (target : String) (other : Expr × Expr)
    (primary : Participant) (targeted : aliases.target = .ok primary)
    (deep : 1 < other.1.conversions) :
    assignment aliases target other = .error (.expectedColumn "unary") := by
  rw [assignment, targeted, to_column_deep aliases other.1 deep]
  rfl

theorem assigned_target (aliases : Aliases) (target : String) (pair : Expr × Expr) (text : String)
    (written : assignment aliases target pair = .ok text) :
    ∃ primary, aliases.target = .ok primary := by
  obtain ⟨primary, targeted, _⟩ := bind_ok_iff.mp written
  exact ⟨primary, targeted⟩

section Pairs

variable (aliases : Aliases) (target : String) {pairs others : List (Expr × Expr)}
  (reconverted : List.Forall₂ Reconverted pairs others)

include reconverted

theorem reconverted_all (done : List String)
    (shallow : ∀ other ∈ others, other.1.conversions ≤ 1) :
    assignAll aliases target done others = assignAll aliases target done pairs := by
  induction reconverted generalizing done with
  | nil => rfl
  | @cons pair other rest more head _ ih =>
      obtain ⟨first, later⟩ := List.forall_mem_cons.mp shallow
      rw [assignAll, assignAll, reconverted_assignment aliases target pair other head first]
      cases assignment aliases target pair with
      | ok text => exact ih (done ++ [text]) later
      | error fault => rfl

-- The first target that is too deep is refused, for those before it are assigned as they were.
theorem deep_all (written : ∀ pair ∈ pairs, ∃ text, assignment aliases target pair = .ok text)
    (deep : ∃ other ∈ others, 1 < other.1.conversions) :
    failure? (others.mapM (assignment aliases target)) = some (.expectedColumn "unary") := by
  induction reconverted with
  | nil => simp at deep
  | @cons pair other rest more head _ ih =>
      obtain ⟨⟨text, first⟩, later⟩ := List.forall_mem_cons.mp written
      rw [failure_mapM_cons]
      by_cases shallow : other.1.conversions ≤ 1
      · rw [reconverted_assignment aliases target pair other head shallow, first]
        refine ih later ?_
        obtain ⟨held, member, further⟩ := deep
        rcases List.mem_cons.mp member with rfl | inRest
        · exact absurd shallow (Nat.not_le.mpr further)
        · exact ⟨held, inRest, further⟩
      · obtain ⟨primary, targeted⟩ := assigned_target aliases target pair text first
        rw [deep_assignment aliases target other primary targeted (Nat.lt_of_not_le shallow)]
        rfl

end Pairs

theorem assign_step_fault (update : JoinedUpdateDraft) (target source : String)
    (pairs : List (Expr × Expr)) :
    (update.apply (.assign target source pairs)).draft.fault =
      update.draft.fault.or (update.refusal? (.assign target source pairs)) :=
  update.own_step_fault _ fun _ same => by cases same

theorem reconverted_step (update : JoinedUpdateDraft) (target source : String)
    {pairs others : List (Expr × Expr)} (reconverted : List.Forall₂ Reconverted pairs others)
    (accepted : (update.apply (.assign target source pairs)).draft.fault = none) :
    ((∀ other ∈ others, other.1.conversions ≤ 1) →
        update.apply (.assign target source others) = update.apply (.assign target source pairs)) ∧
      ((∃ other ∈ others, 1 < other.1.conversions) →
        (update.apply (.assign target source others)).draft.fault =
          some (.expectedColumn "unary")) := by
  have fresh : update.draft.fault = none := by
    rw [assign_step_fault, Option.or_eq_none_iff] at accepted
    exact accepted.1
  obtain ⟨fits, written⟩ := (assign_fault_iff update target source pairs fresh).mp accepted
  constructor
  · intro shallow
    simp only [apply, assign, reconverted_all update.draft.aliases target reconverted _ shallow]
  · intro deep
    rw [assign_step_fault, fresh, refusal?, fits,
      deep_all update.draft.aliases target reconverted written deep]
    rfl

end JoinedUpdateDraft

namespace Expr

open JoinedUpdateDraft

/-- Changes of type around a column are looked through where an expression is lowered, however many
there are; where a column is asked for, only if they are not more than one in all. So an assignment
step that is accepted stays the same step when changes of type are put around its targets, as long
as no target is behind two of them, and otherwise it is refused. -/
theorem conversions_seen_through_iff (scope : Scope) (expr : Expr) (count : Nat) :
    ((∀ reference, (repeatUnary .convert count expr).toColumn scope.aliases = .ok reference ↔
          expr.toColumn scope.aliases = .ok reference) ↔
        ((∃ reference, expr.toColumn scope.aliases = .ok reference) →
          count + expr.conversions ≤ 1)) ∧
      (∀ reference, expr.toColumn scope.aliases = .ok reference →
        (repeatUnary .convert count expr).compile scope =
          .ok (reference.participant.columnText reference.column)) ∧
      ∀ (target : EntityType) (steps : List Step) (primary source : String)
        (pairs others : List (Expr × Expr)),
        (run target (steps ++ [.assign primary source pairs])).draft.fault = none →
        List.Forall₂ Reconverted pairs others →
        ((∀ other ∈ others, other.1.conversions ≤ 1) →
            run target (steps ++ [.assign primary source others]) =
              run target (steps ++ [.assign primary source pairs])) ∧
          ((∃ other ∈ others, 1 < other.1.conversions) →
            (run target (steps ++ [.assign primary source others])).draft.fault =
              some (.expectedColumn "unary")) := by
  refine ⟨repeated_column_iff scope.aliases expr count, fun reference resolved => ?_,
    fun target steps primary source pairs others accepted reconverted => ?_⟩
  · rw [compile, repeated_lowered, to_column_lowered scope expr reference resolved]
    exact congrArg Except.ok (Fragment.render_column _ _)
  · simp only [run_step] at accepted ⊢
    exact reconverted_step (run target steps) primary source reconverted accepted

def fromPersons (status key : Expr) : List (Expr × Expr) :=
  [(status, column "Person" "status"), (key, column "Person" "id")]

/-- A column reads as itself behind any number of changes of type. As the target of an assignment it
may stand behind one, and the one that stands behind two makes the step refused. -/
theorem order_columns_reconverted :
    (∀ count, (repeatUnary .convert count (column "Person" "status")).compile
        ⟨Expr.ofPersons, false⟩ = .ok "t0.[Status]") ∧
      run orders (JoinedUpdateDraft.ofPersons ++
          [.assign "Order" "Person" (fromPersons (unary .convert (column "Order" "status"))
            (unary .convert (column "Order" "person_id")))]) =
        run orders (JoinedUpdateDraft.ofPersons ++
          [.assign "Order" "Person" (fromPersons (column "Order" "status")
            (unary .convert (column "Order" "person_id")))]) ∧
      (run orders (JoinedUpdateDraft.ofPersons ++
          [.assign "Order" "Person" (fromPersons (unary .convert (column "Order" "status"))
            (repeatUnary .convert 2 (column "Order" "person_id")))])).draft.fault =
        some (.expectedColumn "unary") := by
  let law := conversions_seen_through_iff ⟨Expr.ofPersons, false⟩ (column "Person" "status")
  have accepted : (run orders (JoinedUpdateDraft.ofPersons ++
      [.assign "Order" "Person" (fromPersons (column "Order" "status")
        (unary .convert (column "Order" "person_id")))])).draft.fault = none := rfl
  refine ⟨fun count => (law count).2.1 _ rfl, ?_, ?_⟩
  · refine ((law 0).2.2 orders _ _ _ _ _ accepted (.cons ⟨1, rfl⟩ (.cons ⟨0, rfl⟩ .nil))).1 ?_
    exact List.forall_mem_cons.mpr ⟨Nat.le_refl 1, List.forall_mem_singleton.mpr (Nat.le_refl 1)⟩
  · refine ((law 0).2.2 orders _ _ _ _ _ accepted (.cons ⟨1, rfl⟩ (.cons ⟨1, rfl⟩ .nil))).2 ?_
    exact ⟨_, List.mem_cons_of_mem _ List.mem_cons_self, Nat.lt_add_one 1⟩

theorem twice_converted_no_column :
    ∃ reference, (column "Person" "status").toColumn Expr.ofPersons = .ok reference ∧
      (repeatUnary .convert 2 (column "Person" "status")).toColumn Expr.ofPersons =
        .error (.expectedColumn "unary") ∧
      (repeatUnary .convert 2 (column "Person" "status")).compile ⟨Expr.ofPersons, false⟩ =
        .ok "t0.[Status]" :=
  ⟨_, rfl, rfl, rfl⟩

end Expr

end MappedSql
