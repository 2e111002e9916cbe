import MappedSql.Proofs.Lowering
import MappedSql.Proofs.RegistrationRuns

/-!
Fragments of a statement that grows. A step writes its fragment under the tables that take part at
the time and keeps the text; types that enter later do not change what the expression would be
written as.
-/

namespace MappedSql.Expr

open Outcome

-- Whether a member is a column at all does not depend on the tables.
theorem column_of_none (before after : Aliases) (expr : Expr)
    (resolved : columnOf before expr = .ok none) : columnOf after expr = .ok none := by
  fun_cases columnOf before expr with
  | case1 type row name unknown => simp [columnOf, unknown] at resolved
  | case2 type row name participant known unmapped => simp [columnOf, known, unmapped] at resolved
  | case3 type row name participant known column mapped =>
      simp [columnOf, known, mapped] at resolved
  | case4 other noColumn =>
      unfold columnOf
      split
      · rename_i type row name
        exact absurd rfl (noColumn type row name)
      · rfl

section Growth

variable {before after : Aliases} (keeps : before.Keeps after)

include keeps

theorem column_of_some (expr : Expr) (reference : ColumnReference)
    (resolved : columnOf before expr = .ok (some reference)) :
    ∃ isTarget, columnOf after expr =
      .ok (some ⟨{ reference.participant with isTarget := isTarget }, reference.column⟩) := by
  fun_cases columnOf before expr with
  | case1 type row name unknown => simp [columnOf, unknown] at resolved
  | case2 type row name participant known unmapped => simp [columnOf, known, unmapped] at resolved
  | case3 type row name participant known column mapped =>
      obtain ⟨isTarget, kept⟩ := keeps type participant known
      simp only [columnOf, known, mapped, Except.ok.injEq, Option.some.injEq] at resolved
      subst resolved
      exact ⟨isTarget, by simp only [columnOf, kept, mapped]⟩
  | case4 other noColumn =>
      rw [columnOf] at resolved
      · cases resolved
      · exact noColumn

-- The policy that an expression lends to the other side of an operation is settled when it has
-- been written itself: a type that was missing then would have stopped it.
theorem beside_keeps (names : Bool) (expr : Expr) (beside : Option Column) (fragment : Fragment)
    (lowers : Lowers ⟨before, names⟩ expr beside fragment) :
    expr.columnBeside after = expr.columnBeside before := by
  induction lowers with
  | column resolved =>
      obtain ⟨isTarget, later⟩ := column_of_some keeps _ _ resolved
      simp only [columnBeside, resolved, later]
  | captured resolved _ _ =>
      have later := column_of_none before after _ resolved
      simp only [columnBeside, resolved, later]
  | convert _ ih => simpa only [columnBeside] using ih
  | _ => rfl

theorem lowers_keeps (names : Bool) (expr : Expr) (beside : Option Column) (fragment : Fragment)
    (lowers : Lowers ⟨before, names⟩ expr beside fragment) :
    Lowers ⟨after, names⟩ expr beside fragment := by
  induction lowers with
  | constant written => exact .constant written
  | @column declaring source name beside reference resolved =>
      obtain ⟨isTarget, later⟩ := column_of_some keeps _ _ resolved
      -- The alias and the column are those of before, whoever the target is now.
      have written := @Lowers.column ⟨after, names⟩ declaring source name beside _ later
      exact written
  | captured resolved evaluated written =>
      exact .captured (column_of_none before after _ resolved) evaluated written
  | binary spelled left right first second =>
      rw [← beside_keeps keeps names _ _ _ right] at first
      rw [← beside_keeps keeps names _ _ _ left] at second
      exact .binary spelled first second
  | negate _ ih => exact .negate ih
  | not _ ih => exact .not ih
  | convert _ ih => exact .convert ih
  | conditional _ _ _ first second third => exact .conditional first second third
  | object named _ ih => exact .object named ih
  | contains operands element collected ih =>
      rw [← beside_keeps keeps names _ _ _ element] at collected
      exact .contains operands ih collected

theorem lower_keeps (names : Bool) (expr : Expr) (beside : Option Column) (fragment : Fragment)
    (lowered : expr.lower ⟨before, names⟩ beside = .ok fragment) :
    expr.lower ⟨after, names⟩ beside = .ok fragment :=
  lower_of_lowers _ expr beside fragment
    (lowers_keeps keeps names expr beside fragment (lower_lowers _ expr beside fragment lowered))

end Growth

/-- Whatever is registered after an expression was written, as the target or not and even in vain,
it would be written as the same text again. -/
theorem compiled_text_stable (aliases : Aliases) (calls : List Registration) (expr : Expr)
    (namesMembers : Bool) (text : String)
    (compiled : expr.compile ⟨aliases, namesMembers⟩ = .ok text) :
    expr.compile ⟨aliases.run calls, namesMembers⟩ = .ok text := by
  obtain ⟨fragment, lowered, rendered⟩ := map_ok_iff.mp compiled
  exact map_ok_iff.mpr ⟨fragment,
    lower_keeps (aliases.run_keeps calls) namesMembers expr none fragment lowered, rendered⟩

def described : Expr :=
  object [
    ("Active", binary .equal (unary .convert (column "Person" "status"))
      (constant (.enumeration ⟨Sample.status, ⟨"Active", 1⟩⟩))),
    ("Name", column "Person" "name")]

def ofPersons : Aliases :=
  Aliases.empty.run [⟨⟨"Person", Sample.person⟩, true⟩]

def growth : List Registration :=
  [⟨⟨"Order", Sample.order⟩, true⟩, ⟨⟨"Draft", Sample.tableless⟩, true⟩,
    ⟨⟨"Person", Sample.person⟩, false⟩]

theorem described_text_stable :
    described.compile ⟨ofPersons, true⟩ =
        .ok "(t0.[Status] = 'Active') AS [Active],t0.[Name] AS [Name]" ∧
      described.compile ⟨ofPersons.run growth, true⟩ =
        .ok "(t0.[Status] = 'Active') AS [Active],t0.[Name] AS [Name]" :=
  ⟨rfl, compiled_text_stable ofPersons growth described true _ rfl⟩

end MappedSql.Expr
