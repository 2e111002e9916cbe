import MappedSql.Literal
import MappedSql.Proofs.Outcome

/-!
Values that no literal holds: numbers that are not finite, records, and bytes within lists. On their
own they are refused. A list is written by way of a document; bytes and records have none, so they
are refused in a list too, but a number that is not finite becomes a null of the document, and the
list is written as if it had a null there.
-/

namespace MappedSql.Value

open Outcome

inductive Within (part : Value) : Value → Prop where
  | whole : Within part part
  | item {items : List Value} {item : Value} :
      item ∈ items → Within part item → Within part (list items)

/-- Numbers that are not finite, records, and bytes in a list, at any depth of lists. -/
inductive Unwritable : Value → Prop where
  | number {width : FloatWidth} {number : Number.Binary} {value : Value} :
      number.isFinite = false → Within (float width number) value → Unwritable value
  | record {type : String} {members : List (String × Except String Value)} {value : Value} :
      Within (record type members) value → Unwritable value
  | bytes {content : List UInt8} {items : List Value} {item : Value} :
      item ∈ items → Within (bytes content) item → Unwritable (list items)

def isList : Value → Bool
  | list _ => true
  | _ => false

-- Along the lists alone; the values in a record are no parts of it.
theorem of_items {motive : Value → Prop}
    (simple : ∀ value : Value, value.isList = false → motive value)
    (listed : ∀ items : List Value, (∀ item ∈ items, motive item) → motive (list items))
    (value : Value) : motive value := by
  cases value with
  | list items => exact listed items fun item _ => of_items simple listed item
  | _ => exact simple _ rfl

theorem within_simple (part value : Value) (simple : value.isList = false)
    (within : Within part value) : part = value := by
  cases within with
  | whole => rfl
  | item => cases simple

theorem within_list_iff (part : Value) (items : List Value) :
    Within part (list items) ↔ part = list items ∨ ∃ item ∈ items, Within part item := by
  constructor
  · intro within
    cases within with
    | whole => exact .inl rfl
    | item member inner => exact .inr ⟨_, member, inner⟩
  · rintro (rfl | ⟨item, member, inner⟩)
    · exact .whole
    · exact .item member inner

theorem all_parts_simple_iff (holds : Value → Prop) (value : Value) (simple : value.isList = false) :
    (∀ part, Within part value → holds part) ↔ holds value := by
  constructor
  · exact fun each => each value .whole
  · intro whole part within
    rwa [within_simple part value simple within]

theorem all_parts_list_iff (holds : Value → Prop) (items : List Value) :
    (∀ part, Within part (list items) → holds part) ↔
      holds (list items) ∧ ∀ item ∈ items, ∀ part, Within part item → holds part := by
  constructor
  · exact fun each => ⟨each _ .whole, fun _ member part inner => each part (.item member inner)⟩
  · rintro ⟨whole, each⟩ part within
    rcases (within_list_iff part items).mp within with rfl | ⟨item, member, inner⟩
    · exact whole
    · exact each item member part inner

def isOpaque : Value → Bool
  | bytes _ | record .. => true
  | _ => false

def Transparent (value : Value) : Prop :=
  ∀ part, Within part value → part.isOpaque = false

theorem transparent_simple_iff (value : Value) (simple : value.isList = false) :
    value.Transparent ↔ value.isOpaque = false :=
  all_parts_simple_iff (fun part => part.isOpaque = false) value simple

theorem transparent_list_iff (items : List Value) :
    (list items).Transparent ↔ ∀ item ∈ items, item.Transparent := by
  rw [Transparent, all_parts_list_iff fun part => part.isOpaque = false]
  exact and_iff_right rfl

theorem toDocuments_mapM (items : List Value) : toDocuments items = items.mapM toDocument := by
  induction items with
  | nil => rfl
  | cons item rest ih => rw [toDocuments, List.mapM_cons, ih]

theorem document_exists_iff (value : Value) :
    (∃ document, value.toDocument = .ok document) ↔ value.Transparent := by
  induction value using of_items with
  | simple value plain =>
      rw [transparent_simple_iff value plain]
      cases value with
      | list items => cases plain
      | _ => simp [toDocument, isOpaque]
  | listed items ih =>
      rw [transparent_list_iff, toDocument, toDocuments_mapM]
      constructor
      · rintro ⟨_, made⟩ item member
        obtain ⟨documents, each, _⟩ := map_ok_iff.mp made
        exact (ih item member).mp (mapM_succeeds_iff.mp ⟨documents, each⟩ item member)
      · intro each
        obtain ⟨documents, made⟩ := mapM_succeeds_iff.mpr fun item member =>
          (ih item member).mpr (each item member)
        exact ⟨_, map_ok_iff.mpr ⟨documents, made, rfl⟩⟩

mutual

def nulled : Value → Value
  | float width number => if number.isFinite then float width number else null
  | list items => list (nulledItems items)
  | other => other

def nulledItems : List Value → List Value
  | [] => []
  | item :: rest => nulled item :: nulledItems rest

end

theorem nulledItems_map (items : List Value) : nulledItems items = items.map nulled := by
  induction items with
  | nil => rfl
  | cons item rest ih => rw [nulledItems, List.map_cons, ih]

theorem nulled_changes (width : FloatWidth) (number : Number.Binary) (value : Value)
    (infinite : number.isFinite = false) (within : Within (float width number) value) :
    value.nulled ≠ value := by
  induction within with
  | whole => simp [nulled, infinite]
  | @item items item member _ ih =>
      rw [nulled, nulledItems_map]
      intro same
      have each : items.map nulled = items.map id := (list.inj same).trans items.map_id.symm
      exact ih (List.map_inj_left.mp each item member)

theorem nulled_document (value : Value) : value.nulled.toDocument = value.toDocument := by
  induction value using of_items with
  | simple value plain =>
      cases value with
      | list items => cases plain
      | float width number =>
          by_cases finite : number.isFinite = true <;>
            simp [nulled, toDocument, numberDocument, finite]
      | _ => simp [nulled]
  | listed items each =>
      have same : toDocuments (nulledItems items) = toDocuments items := by
        induction items with
        | nil => rfl
        | cons item rest ih =>
            obtain ⟨head, tail⟩ := List.forall_mem_cons.mp each
            rw [nulledItems, toDocuments, toDocuments, head, ih tail]
      rw [nulled, toDocument, toDocument, same]

def UnsupportedType (fault : Fault) : Prop :=
  fault.category = .unsupportedType

theorem document_unsupported (value : Value) : FaultsAre UnsupportedType value.toDocument := by
  induction value using of_items with
  | simple value plain =>
      cases value with
      | list items => cases plain
      | bytes _ | record _ _ => simp [FaultsAre, UnsupportedType, toDocument, Fault.category]
      | _ => exact .of_ok _
  | listed items ih =>
      rw [toDocument, toDocuments_mapM]
      exact (FaultsAre.mapM ih).map _

theorem scalar_unsupported (policy : LiteralPolicy) (value : Value) :
    FaultsAre UnsupportedType (value.scalarLiteral policy) := by
  cases value with
  | float width number =>
      by_cases finite : number.isFinite = true <;>
        simp [FaultsAre, UnsupportedType, scalarLiteral, finite, Fault.category]
  | enumeration known =>
      cases stored : policy.enumAs <;> simp [FaultsAre, UnsupportedType, scalarLiteral, stored]
  | document _ | list _ | record _ _ =>
      simp [FaultsAre, UnsupportedType, scalarLiteral, Fault.category]
  | _ => exact .of_ok _

theorem literal_unsupported (policy : LiteralPolicy) (value : Value) :
    FaultsAre UnsupportedType (value.literal policy) := by
  unfold literal
  split
  · exact (document_unsupported _).bind fun _ _ => .of_ok _
  · exact (document_unsupported _).bind fun _ _ => .of_ok _
  · exact scalar_unsupported policy _

theorem render_unsupported (policy : LiteralPolicy) (value : Value) :
    FaultsAre UnsupportedType (value.render policy) :=
  (literal_unsupported policy value).map Literal.render

/-- The value is a list that is written by way of its document. -/
def WrittenAsDocument (policy : LiteralPolicy) (value : Value) : Prop :=
  policy.json = true ∧ value.isList = true ∧ value.Transparent

theorem list_rendered_iff (policy : LiteralPolicy) (items : List Value) :
    (∃ text, (list items).render policy = .ok text) ↔ (list items).WrittenAsDocument policy := by
  cases json : policy.json with
  | true =>
      simp only [WrittenAsDocument, json, isList, true_and, ← document_exists_iff, render, literal,
        map_ok_iff, bind_ok_iff, pure_ok_iff]
      constructor
      · rintro ⟨_, _, ⟨document, made, _⟩, _⟩
        exact ⟨document, made⟩
      · rintro ⟨document, made⟩
        exact ⟨_, _, ⟨document, made, rfl⟩, rfl⟩
  | false => simp [WrittenAsDocument, json, render, literal, scalarLiteral, Except.map]

theorem unwritable_simple (value : Value) (simple : value.isList = false)
    (unwritable : value.Unwritable) (policy : LiteralPolicy) :
    ∃ fault, value.render policy = .error fault := by
  cases unwritable with
  | number infinite within =>
      obtain rfl := within_simple _ value simple within
      simp [render, literal, scalarLiteral, infinite, Except.map]
  | record within =>
      obtain rfl := within_simple _ value simple within
      exact ⟨_, rfl⟩
  | bytes => cases simple

theorem unwritable_rendered_iff (policy : LiteralPolicy) (value : Value)
    (unwritable : value.Unwritable) :
    (∃ text, value.render policy = .ok text) ↔ value.WrittenAsDocument policy := by
  cases value with
  | list items => exact list_rendered_iff policy items
  | _ =>
      obtain ⟨fault, refused⟩ := unwritable_simple _ rfl unwritable policy
      rw [refused]
      exact ⟨nofun, fun document => absurd document.2.1 Bool.noConfusion⟩

-- A list is read by its document alone, and the nulls make no difference to that.
theorem nulled_list (policy : LiteralPolicy) (value : Value) (listed : value.isList = true) :
    value.nulled.render policy = value.render policy := by
  cases value with
  | list items =>
      have same := nulled_document (list items)
      cases json : policy.json with
      | true => simp only [nulled, render, literal, json] at same ⊢; rw [same]
      | false => simp only [nulled, render, literal, json, scalarLiteral, shape]
  | _ => cases listed

theorem document_changes (policy : LiteralPolicy) (value : Value) (unwritable : value.Unwritable)
    (document : value.WrittenAsDocument policy) : value.nulled ≠ value := by
  obtain ⟨_, _, transparent⟩ := document
  cases unwritable with
  | number infinite within => exact nulled_changes _ _ value infinite within
  | record within => cases transparent _ within
  | bytes member within => cases transparent _ (.item member within)

/-- Something without a literal is refused, at any depth and under every policy, unless it is in a
list that is written as a document and holds neither bytes nor records. Such a list holds a number
that is not finite, and it has the text of another one, with null in place of each such number. -/
theorem unwritable_refused_iff (policy : LiteralPolicy) (value : Value)
    (unwritable : value.Unwritable) :
    ((∃ fault, value.render policy = .error fault ∧ fault.category = .unsupportedType) ↔
        ¬ value.WrittenAsDocument policy) ∧
      (value.WrittenAsDocument policy → value.nulled ≠ value ∧
        ∃ text, value.render policy = .ok text ∧ value.nulled.render policy = .ok text) := by
  have rendered := unwritable_rendered_iff policy value unwritable
  constructor
  · rw [← rendered]
    cases outcome : value.render policy with
    | ok text => simp
    | error fault =>
        exact iff_of_true ⟨fault, rfl, render_unsupported policy value fault outcome⟩ (by simp)
  · intro document
    obtain ⟨text, written⟩ := rendered.mpr document
    exact ⟨document_changes policy value unwritable document, text, written,
      (nulled_list policy value document.2.1).trans written⟩

def unbounded : Value :=
  list [text "to", list [integer .int32 1, float .single (.infinite false)]]

/-- The list is refused where documents are not written, and has a null in it where they are. -/
theorem unbounded_refused_or_null :
    (∃ fault, unbounded.render .plain = .error fault ∧ fault.category = .unsupportedType) ∧
      unbounded.render ⟨.number, true, true⟩ = .ok "'[\"to\",[1,null]]'" := by
  have infinite : unbounded.Unwritable :=
    .number rfl (.item (.tail _ List.mem_cons_self) (.item (.tail _ List.mem_cons_self) .whole))
  have transparent : unbounded.Transparent := (document_exists_iff unbounded).mp ⟨_, rfl⟩
  constructor
  · exact (unwritable_refused_iff .plain unbounded infinite).1.mpr fun document => nomatch document.1
  · obtain ⟨_, text, written, nulled⟩ :=
      (unwritable_refused_iff ⟨.number, true, true⟩ unbounded infinite).2 ⟨rfl, rfl, transparent⟩
    exact written.trans (nulled.symm.trans rfl)

theorem nan_becomes_null :
    (list [float .double .nan]).Unwritable ∧
      (list [float .double .nan]).render ⟨.number, true, true⟩ = .ok "'[null]'" :=
  ⟨.number rfl (.item List.mem_cons_self .whole), rfl⟩

end MappedSql.Value
