import MappedSql.Fault
import Mathlib.Data.List.Forall2

/-!
Steps that can fail, taken apart: a chain of steps succeeds when each of them does, and a list of
items is written when each item is.
-/

namespace MappedSql.Outcome

variable {ε α β : Type}

def failure? : Except ε α → Option ε
  | .ok _ => none
  | .error fault => some fault

theorem bind_ok_iff {first : Except ε α} {next : α → Except ε β} {result : β} :
    (first >>= next) = .ok result ↔ ∃ middle, first = .ok middle ∧ next middle = .ok result := by
  cases first with
  | error fault => simp [bind, Except.bind]
  | ok middle => simp [bind, Except.bind]

theorem map_ok_iff {first : Except ε α} {write : α → β} {result : β} :
    first.map write = .ok result ↔ ∃ middle, first = .ok middle ∧ write middle = result := by
  cases first with
  | error fault => simp [Except.map]
  | ok middle => simp [Except.map]

theorem pure_ok_iff {value result : α} : (pure value : Except ε α) = .ok result ↔ value = result := by
  simp [pure, Except.pure]

theorem single_ok {first : Except ε α} {items : List α} {item : α}
    (written : (do return [← first]) = .ok items) (member : item ∈ items) : first = .ok item := by
  obtain ⟨only, made, same⟩ := bind_ok_iff.mp written
  rw [pure_ok_iff] at same
  subst same
  rw [List.mem_singleton.mp member, made]

theorem mapM_ok {items : List α} {write : α → Except ε β} {results : List β}
    (written : items.mapM write = .ok results) :
    List.Forall₂ (fun item result => write item = .ok result) items results := by
  induction items generalizing results with
  | nil =>
      rw [List.mapM_nil, pure_ok_iff] at written
      exact written ▸ .nil
  | cons item rest ih =>
      rw [List.mapM_cons] at written
      obtain ⟨first, head, more⟩ := bind_ok_iff.mp written
      obtain ⟨others, tail, same⟩ := bind_ok_iff.mp more
      rw [pure_ok_iff] at same
      exact same ▸ .cons head (ih tail)

theorem mapM_ok_iff {items : List α} {write : α → Except ε β} {results : List β} :
    items.mapM write = .ok results ↔
      List.Forall₂ (fun item result => write item = .ok result) items results := by
  refine ⟨mapM_ok, fun each => ?_⟩
  induction each with
  | nil => rfl
  | cons head _ ih =>
      rw [List.mapM_cons, head, ih]
      rfl

theorem mapM_results {items : List α} {write : α → Except ε β} {results : List β}
    (written : items.mapM write = .ok results) : results.map .ok = items.map write := by
  rw [← List.forall₂_eq_eq_eq, List.forall₂_map_left_iff, List.forall₂_map_right_iff]
  exact List.Forall₂.flip ((mapM_ok written).imp fun _ _ made => made.symm)

-- Each item has its result beside it.
theorem results_beside {items : List α} {write : α → Except ε β} {results : List β}
    (written : results.map .ok = items.map write) {item : α} (member : item ∈ items) :
    ∃ result, (item, result) ∈ items.zip results ∧ write item = .ok result := by
  induction items generalizing results with
  | nil => contradiction
  | cons first rest ih =>
      cases results with
      | nil => cases written
      | cons result others =>
          obtain ⟨head, tail⟩ := List.cons.inj written
          rcases List.mem_cons.mp member with rfl | later
          · exact ⟨result, List.mem_cons_self, head.symm⟩
          · obtain ⟨found, beside, made⟩ := ih tail later
            exact ⟨found, List.mem_cons_of_mem _ beside, made⟩

theorem mapM_nil_iff {items : List α} {write : α → Except ε β} {results : List β}
    (written : items.mapM write = .ok results) : results = [] ↔ items = [] := by
  have each := mapM_ok written
  constructor
  · rintro rfl
    exact List.forall₂_nil_right_iff.mp each
  · rintro rfl
    exact List.forall₂_nil_left_iff.mp each

theorem mapM_succeeds_iff {items : List α} {write : α → Except ε β} :
    (∃ results, items.mapM write = .ok results) ↔ ∀ item ∈ items, ∃ result, write item = .ok result := by
  induction items with
  | nil => simp [pure, Except.pure]
  | cons item rest ih =>
      rw [List.forall_mem_cons, ← ih, List.mapM_cons]
      constructor
      · rintro ⟨results, written⟩
        obtain ⟨first, head, more⟩ := bind_ok_iff.mp written
        obtain ⟨others, tail, _⟩ := bind_ok_iff.mp more
        exact ⟨⟨first, head⟩, others, tail⟩
      · rintro ⟨⟨first, head⟩, others, tail⟩
        exact ⟨first :: others, by rw [head, tail]; rfl⟩

theorem mapM_map {γ : Type} (items : List α) (write : α → Except ε β) (more : β → γ) :
    (items.mapM write).map (List.map more) = items.mapM fun item => (write item).map more := by
  induction items with
  | nil => rfl
  | cons item rest ih =>
      rw [List.mapM_cons, List.mapM_cons, ← ih]
      cases write item with
      | error fault => rfl
      | ok first => cases rest.mapM write <;> rfl

def resultsBefore (write : α → Except ε β) : List α → List β
  | [] => []
  | item :: rest =>
      match write item with
      | .ok result => result :: resultsBefore write rest
      | .error _ => []

theorem results_before_ok {items : List α} {write : α → Except ε β} {results : List β}
    (written : items.mapM write = .ok results) : resultsBefore write items = results := by
  have each := mapM_ok written
  induction each with
  | nil => rfl
  | cons head tail ih => rw [resultsBefore, head, ih (mapM_ok_iff.mpr tail)]

theorem failure_none_iff {outcome : Except ε α} :
    failure? outcome = none ↔ ∃ result, outcome = .ok result := by
  cases outcome <;> simp [failure?]

-- A list is refused for the first of its items that is.
theorem failure_mapM_cons (item : α) (rest : List α) (write : α → Except ε β) :
    failure? ((item :: rest).mapM write) = (failure? (write item)).or (failure? (rest.mapM write)) := by
  rw [List.mapM_cons]
  cases write item with
  | error fault => rfl
  | ok first => cases rest.mapM write <;> rfl

theorem forall₂_member {items : List α} {results : List β} {related : α → β → Prop} {result : β}
    (each : List.Forall₂ related items results) (member : result ∈ results) :
    ∃ item ∈ items, related item result := by
  induction each with
  | nil => contradiction
  | @cons item first rest others head _ ih =>
      rcases List.mem_cons.mp member with rfl | later
      · exact ⟨item, List.mem_cons_self, head⟩
      · obtain ⟨source, inRest, made⟩ := ih later
        exact ⟨source, List.mem_cons_of_mem item inRest, made⟩

theorem mapM_member {items : List α} {write : α → Except ε β} {results : List β} {result : β}
    (written : items.mapM write = .ok results) (member : result ∈ results) :
    ∃ item ∈ items, write item = .ok result := by
  obtain ⟨item, inside, made⟩ := forall₂_member (mapM_ok written) member
  exact ⟨item, inside, made⟩

def FaultsAre (kind : ε → Prop) (outcome : Except ε α) : Prop :=
  ∀ fault, outcome = .error fault → kind fault

namespace FaultsAre

variable {kind : ε → Prop} {outcome : Except ε α}

theorem of_ok (value : α) : FaultsAre kind (.ok value) := nofun

theorem of_error {fault : ε} (known : kind fault) : FaultsAre kind (.error fault : Except ε α) :=
  fun _ same => Except.error.inj same ▸ known

theorem imp {wider : ε → Prop} (before : FaultsAre kind outcome)
    (widens : ∀ fault, kind fault → wider fault) : FaultsAre wider outcome :=
  fun fault same => widens fault (before fault same)

theorem map (before : FaultsAre kind outcome) (write : α → β) :
    FaultsAre kind (outcome.map write) := by
  cases outcome with
  | ok value => exact of_ok (write value)
  | error fault => exact fun _ same => before _ (Except.error.inj same ▸ rfl)

theorem bind {next : α → Except ε β} (before : FaultsAre kind outcome)
    (after : ∀ value, outcome = .ok value → FaultsAre kind (next value)) :
    FaultsAre kind (outcome >>= next) := by
  cases outcome with
  | ok value => exact after value rfl
  | error fault => exact fun _ same => before _ (Except.error.inj same ▸ rfl)

theorem mapM {items : List α} {write : α → Except ε β}
    (each : ∀ item ∈ items, FaultsAre kind (write item)) : FaultsAre kind (items.mapM write) := by
  induction items with
  | nil => exact of_ok []
  | cons item rest ih =>
      obtain ⟨head, tail⟩ := List.forall_mem_cons.mp each
      rw [List.mapM_cons]
      exact bind head fun _ _ => bind (ih tail) fun _ _ => of_ok _

end FaultsAre

/-- Both ways succeed, with results that belong together, or both fail. The faults may differ. -/
def Alike (related : α → β → Prop) : Except ε α → Except ε β → Prop
  | .ok first, .ok second => related first second
  | .error _, .error _ => True
  | _, _ => False

theorem alike_iff {related : α → β → Prop} {first : Except ε α} {second : Except ε β} :
    Alike related first second ↔
      (∀ result, first = .ok result → ∃ other, second = .ok other ∧ related result other) ∧
        ∀ other, second = .ok other → ∃ result, first = .ok result := by
  cases first <;> cases second <;> simp [Alike]

end MappedSql.Outcome
